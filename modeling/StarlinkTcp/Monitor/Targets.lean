import StarlinkTcp.Monitor.State

/-!
# The probe targets

What `main` probes before anything is learned: explicit targets, bootstrap endpoints and some of the hops on
the way to the latter. The traceroutes that find the hops are an argument.
-/

namespace StarlinkTcp.Monitor

/-- The arguments with those that choose the targets. -/
structure TargetArgs extends Args where
  target : List String
  discoverHops : Bool
  skipRouteHops : ℤ
  maxRouteTargets : ℤ
  maxTargets : ℤ

def TargetArgs.default : TargetArgs where
  toArgs := Args.default
  target := []
  discoverHops := true
  skipRouteHops := 1
  maxRouteTargets := 3
  maxTargets := 5

/-- The rest of `Args.normalize`. -/
def TargetArgs.normalizeTargets (args : TargetArgs) : TargetArgs :=
  { args with
    skipRouteHops := max 0 args.skipRouteHops
    maxRouteTargets := max 0 args.maxRouteTargets
    maxTargets := max 1 args.maxTargets }

namespace Targets

-- `seen` is the set of what is in `out`
def unique (items : List String) : List String :=
  items.foldl (fun out x => if x = "" ∨ x ∈ out then out else out ++ [x]) []

def allHops (args : TargetArgs) (discoverRouteHops : String → List String) : List String :=
  if args.discoverHops then
    args.bootstrap.flatMap fun bootstrap =>
      ((discoverRouteHops bootstrap).drop args.skipRouteHops.toNat).take args.maxRouteTargets.toNat
  else []

def buildProbeTargets (args : TargetArgs) (discoverRouteHops : String → List String) : List String :=
  let selectedHops := unique (allHops args discoverRouteHops)
  (unique (args.target ++ args.bootstrap ++ selectedHops)).take args.maxTargets.toNat

end Targets

/-- `parse_args` and the first lines of `main`. -/
def Setup.ofTargetArgs (args : TargetArgs) (discoverRouteHops : String → List String) : Setup :=
  .ofArgs args.toArgs (Targets.buildProbeTargets args.normalizeTargets discoverRouteHops)

end StarlinkTcp.Monitor
