import Mathlib.Order.Basic

/-!
# Runs of a step that may fail

A step returns the next state or an error that ends the run. `Reaches step start` are the states a
run can be in after any number of steps that succeeded. The rules below carry a preorder from one step
to a sequence of them.
-/

namespace StarlinkTcp.Machine

variable {State Input Error : Type}

theorem bind_eq_ok {α β : Type} {x : Except Error α} {f : α → Except Error β} {result : β} :
    x >>= f = .ok result ↔ ∃ value, x = .ok value ∧ f value = .ok result := by
  cases x <;> simp [bind, Except.bind]

def succeedsWith {α : Type} (check : α → Bool) : Except Error α → Bool
  | .ok value => check value
  | .error _ => false

theorem exists_ok_of_succeedsWith {α : Type} {check : α → Bool} {x : Except Error α}
    (succeeds : succeedsWith check x = true) : ∃ value, x = .ok value ∧ check value = true := by
  cases x with
  | ok value => exact ⟨value, rfl, succeeds⟩
  | error error => cases succeeds

inductive Reaches (step : Input → State → Except Error State) (start : State) : State → Prop
  | refl : Reaches step start start
  | tail {input : Input} {state next : State} (reached : Reaches step start state)
      (ok : step input state = .ok next) : Reaches step start next

/-- Every step of the run meets a condition on the state it starts from. -/
inductive ReachesWhile (step : Input → State → Except Error State) (admits : Input → State → Prop)
    (start : State) : State → Prop
  | refl : ReachesWhile step admits start start
  | tail {input : Input} {state next : State} (reached : ReachesWhile step admits start state)
      (admitted : admits input state) (ok : step input state = .ok next) : ReachesWhile step admits start next

theorem reachesWhile_iff {step : Input → State → Except Error State} {admits : Input → State → Prop}
    (holds : State → Prop) {start state : State} (initial : holds start)
    (kept : ∀ {input state next}, step input state = .ok next → (holds next ↔ holds state ∧ admits input state))
    (reached : Reaches step start state) : holds state ↔ ReachesWhile step admits start state := by
  constructor
  · intro final
    induction reached with
    | refl => exact .refl
    | tail _ ok ih =>
        obtain ⟨before, admitted⟩ := (kept ok).mp final
        exact .tail (ih before) admitted ok
  · intro admitted
    clear reached
    induction admitted with
    | refl => exact initial
    | tail _ condition ok ih => exact (kept ok).mpr ⟨ih, condition⟩

theorem Reaches.head {step : Input → State → Except Error State} {input : Input} {start next state : State}
    (ok : step input start = .ok next) (reached : Reaches step next state) : Reaches step start state := by
  induction reached with
  | refl => exact .tail .refl ok
  | tail _ last ih => exact ih.tail last

theorem reaches_of_foldlM {step : Input → State → Except Error State} {start state : State}
    (inputs : List Input) (ok : inputs.foldlM (fun state input => step input state) start = .ok state) :
    Reaches step start state := by
  induction inputs generalizing start with
  | nil =>
      cases ok
      exact .refl
  | cons input inputs ih =>
      rw [List.foldlM_cons, bind_eq_ok] at ok
      obtain ⟨middle, first, rest⟩ := ok
      exact .head first (ih rest)

/-- The end of a run whose steps pass a check and succeed. -/
def checkedRun (step : Input → State → Except Error State) (check : Input → State → Bool) :
    List Input → State → Option State
  | [], state => some state
  | input :: inputs, state =>
      if check input state then
        match step input state with
        | .ok next => checkedRun step check inputs next
        | .error _ => none
      else none

theorem ReachesWhile.head {step : Input → State → Except Error State} {admits : Input → State → Prop}
    {input : Input} {start next state : State} (admitted : admits input start) (ok : step input start = .ok next)
    (reached : ReachesWhile step admits next state) : ReachesWhile step admits start state := by
  induction reached with
  | refl => exact .tail .refl admitted ok
  | tail _ condition last ih => exact ih.tail condition last

theorem reachesWhile_of_checkedRun {step : Input → State → Except Error State} {admits : Input → State → Prop}
    {check : Input → State → Bool} (sound : ∀ {input state}, check input state = true → admits input state)
    {inputs : List Input} {start state : State} (run : checkedRun step check inputs start = some state) :
    ReachesWhile step admits start state := by
  induction inputs generalizing start with
  | nil =>
      cases run
      exact .refl
  | cons input inputs ih =>
      rw [checkedRun] at run
      split at run
      · rename_i passed
        split at run
        · rename_i next ok
          exact .head (sound passed) ok (ih run)
        · cases run
      · cases run

section Preorder

variable {related : State → State → Prop} (refl : ∀ state, related state state)
  (trans : ∀ {first second third}, related first second → related second third → related first third)

include refl trans

theorem foldl_related {step : State → Input → State} (kept : ∀ state input, related state (step state input))
    (inputs : List Input) (state : State) : related state (inputs.foldl step state) := by
  induction inputs generalizing state with
  | nil => exact refl state
  | cons input inputs ih => exact trans (kept state input) (ih _)

theorem foldlM_related {step : State → Input → Except Error State}
    (kept : ∀ {state input next}, step state input = .ok next → related state next)
    {inputs : List Input} {state next : State} (ok : inputs.foldlM step state = .ok next) :
    related state next := by
  induction inputs generalizing state with
  | nil =>
      cases ok
      exact refl _
  | cons input inputs ih =>
      rw [List.foldlM_cons, bind_eq_ok] at ok
      obtain ⟨middle, first, rest⟩ := ok
      exact trans (kept first) (ih rest)

theorem reaches_related {step : Input → State → Except Error State}
    (kept : ∀ {input state next}, step input state = .ok next → related state next)
    {start state : State} (reached : Reaches step start state) : related start state := by
  induction reached with
  | refl => exact refl start
  | tail _ ok ih => exact trans ih (kept ok)

end Preorder

section Unchanged

variable {Part : Type*} (part : State → Part)

theorem foldl_unchanged {step : State → Input → State} (kept : ∀ state input, part (step state input) = part state)
    (inputs : List Input) (state : State) : part (inputs.foldl step state) = part state := by
  induction inputs generalizing state with
  | nil => rfl
  | cons input inputs ih => exact (ih _).trans (kept state input)

theorem foldlM_unchanged {step : State → Input → Except Error State}
    (kept : ∀ {state input next}, step state input = .ok next → part next = part state)
    {inputs : List Input} {state next : State} (ok : inputs.foldlM step state = .ok next) :
    part next = part state := by
  let same (state next : State) : Prop := part next = part state
  have related : same state next :=
    @foldlM_related _ _ _ same (fun _ => rfl) (fun first second => second.trans first) _ kept _ _ _ ok
  exact related

end Unchanged

end StarlinkTcp.Machine
