import StarlinkTcp.Machine.Alignment
import StarlinkTcp.Machine.Contraction
import StarlinkTcp.Machine.Ewma
import StarlinkTcp.Machine.Fallible
import StarlinkTcp.Machine.Grid
import StarlinkTcp.Machine.Journal
import StarlinkTcp.Machine.Lattice
import StarlinkTcp.Machine.Majority
import StarlinkTcp.Machine.Pairing
import StarlinkTcp.Machine.Registers
import StarlinkTcp.Machine.Rounding
import StarlinkTcp.Machine.Runs
import StarlinkTcp.Machine.Schedules
import StarlinkTcp.Machine.Windows
import StarlinkTcp.Machine.Words
import StarlinkTcp.Kernel.Sysctl
import StarlinkTcp.Kernel.SysctlTable
import StarlinkTcp.Kernel.Redhat
import StarlinkTcp.Kernel.Output
import StarlinkTcp.Kernel.Select
import StarlinkTcp.Monitor.Program
import StarlinkTcp.Monitor.Period
import StarlinkTcp.Monitor.Detector
import StarlinkTcp.Monitor.State
import StarlinkTcp.Monitor.Targets
import StarlinkTcp.Monitor.Loop
import StarlinkTcp.Monitor.Replay
import StarlinkTcp.Monitor.Evaluate
import StarlinkTcp.Tools.PingReceiver
import StarlinkTcp.Tools.PingReceiverPop
import StarlinkTcp.Graph.Cdf
import StarlinkTcp.Proof.Clock
import StarlinkTcp.Proof.Timeline
import StarlinkTcp.Proof.Lookahead
import StarlinkTcp.Proof.Controller
import StarlinkTcp.Proof.SafeShrink
import StarlinkTcp.Proof.PhaseOrder
import StarlinkTcp.Proof.StaleSnapshot
import StarlinkTcp.Proof.Learning
import StarlinkTcp.Proof.RateSamples
import StarlinkTcp.Proof.Transparency
import StarlinkTcp.Proof.RightEdge
import StarlinkTcp.Proof.Recovery
import StarlinkTcp.Proof.Interference
import StarlinkTcp.Proof.Advertised
import StarlinkTcp.Proof.OrdinaryWindow
import StarlinkTcp.Proof.StaticShrink
import StarlinkTcp.Proof.ZeroWindow
import StarlinkTcp.Proof.Programming
import StarlinkTcp.Proof.Configurations
import StarlinkTcp.Proof.MonitorLattice
import StarlinkTcp.Proof.Coupling
import StarlinkTcp.Proof.Moments
import StarlinkTcp.Proof.Statistics
import StarlinkTcp.Proof.PeriodFits
import StarlinkTcp.Proof.Discipline
import StarlinkTcp.Proof.PhaseResync
import StarlinkTcp.Proof.Sessions
import StarlinkTcp.Proof.Evidence
import StarlinkTcp.Proof.Participation
import StarlinkTcp.Proof.LoggedOnce
import StarlinkTcp.Proof.PredictionGuard
import StarlinkTcp.Proof.Evaluation
import StarlinkTcp.Proof.FreshEvidence
import StarlinkTcp.Proof.Fundamental
import StarlinkTcp.Proof.Anchor
import StarlinkTcp.Proof.Clusters
import StarlinkTcp.Proof.GapDetector
import StarlinkTcp.Proof.Matching
import StarlinkTcp.Proof.StaticShape
import StarlinkTcp.Proof.TargetChoice
import StarlinkTcp.Proof.Estimates
import StarlinkTcp.Proof.LinkRate
import StarlinkTcp.Proof.FrozenDurations
import StarlinkTcp.Proof.Ramps
import StarlinkTcp.Proof.Closing
import StarlinkTcp.Proof.EchoFraming
import StarlinkTcp.Proof.Peaks
import StarlinkTcp.Proof.HandoverSamples
import StarlinkTcp.Proof.Coverage
import StarlinkTcp.Proof.Survival
import StarlinkTcp.Proof.Activation
import StarlinkTcp.Proof.References
import StarlinkTcp.Proof.PhaseLoop
import StarlinkTcp.Proof.StoppedEcho
import StarlinkTcp.Proof.Resources
import StarlinkTcp.Proof.TrueHandovers
import StarlinkTcp.Proof.Replay
import StarlinkTcp.Proof.Outages
import StarlinkTcp.Proof.Sightings
import StarlinkTcp.Machine.Interleaving
import StarlinkTcp.Proof.Interleavings
