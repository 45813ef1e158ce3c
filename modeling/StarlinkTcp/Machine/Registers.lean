import Mathlib.Data.List.Induction

/-!
# Named registers behind a check

A state is read and written by name, and a write takes effect only when its value passes the check of
its register. Whatever is attempted, each register then holds its first value or one that passes, and
every such state can be reached.
-/

namespace StarlinkTcp.Machine

/-- Reading back what was written gives the value, and the registers are all there is to a state. -/
structure Registers (State Name Value : Type) where
  get : State → Name → Value
  set : State → Name → Value → State
  accepts : Name → Value → Bool
  get_set_self : ∀ s n v, accepts n v = true → get (set s n v) n = v
  get_set_other : ∀ s n v m, m ≠ n → get (set s n v) m = get s m
  ext : ∀ s s', (∀ n, get s n = get s' n) → s = s'

namespace Registers

variable {State Name Value : Type} (registers : Registers State Name Value)

/-- A refused write leaves the state alone. -/
def attempt (s : State) (write : Name × Value) : State :=
  if registers.accepts write.1 write.2 then registers.set s write.1 write.2 else s

def attempts (s : State) (writes : List (Name × Value)) : State := writes.foldl registers.attempt s

theorem attempts_append (s : State) (writes more : List (Name × Value)) :
    registers.attempts s (writes ++ more) = registers.attempts (registers.attempts s writes) more :=
  List.foldl_append

theorem attempt_refused {s : State} {n : Name} {v : Value} (refused : registers.accepts n v = false) :
    registers.attempt s (n, v) = s := by
  simp [attempt, refused]

theorem attempt_accepted {s : State} {n : Name} {v : Value} (accepted : registers.accepts n v = true) :
    registers.attempt s (n, v) = registers.set s n v := by
  simp [attempt, accepted]

/-- Every register of `s'` holds what it held in `s`, or a value that passes its check. -/
def Admitted (s s' : State) : Prop :=
  ∀ n, registers.get s' n = registers.get s n ∨ registers.accepts n (registers.get s' n) = true

theorem attempt_admitted {s s' : State} (admitted : registers.Admitted s s') (write : Name × Value) :
    registers.Admitted s (registers.attempt s' write) := by
  obtain ⟨n, v⟩ := write
  cases accepted : registers.accepts n v
  · rw [registers.attempt_refused accepted]
    exact admitted
  · rw [registers.attempt_accepted accepted]
    intro m
    by_cases same : m = n
    · subst same
      right
      rw [registers.get_set_self _ _ _ accepted]
      exact accepted
    · rw [registers.get_set_other _ _ _ _ same]
      exact admitted m

theorem attempts_admitted (s : State) (writes : List (Name × Value)) :
    registers.Admitted s (registers.attempts s writes) := by
  induction writes using List.reverseRecOn with
  | nil => exact fun _ => .inl rfl
  | append_singleton writes write ih =>
      rw [attempts_append]
      exact registers.attempt_admitted ih write

/-- Writing the values of `s'` into the registers of `names`. -/
theorem get_attempts {s s' : State} (admitted : registers.Admitted s s') (names : List Name) (n : Name) :
    registers.get (registers.attempts s (names.map fun m => (m, registers.get s' m))) n =
        registers.get s' n ∨
      n ∉ names ∧ registers.get (registers.attempts s (names.map fun m => (m, registers.get s' m))) n =
        registers.get s n := by
  induction names using List.reverseRecOn with
  | nil => exact .inr ⟨List.not_mem_nil, rfl⟩
  | append_singleton names m ih =>
      rw [List.map_append, attempts_append]
      generalize registers.attempts s (names.map fun m => (m, registers.get s' m)) = reached at ih ⊢
      have last : registers.attempts reached ([m].map fun m => (m, registers.get s' m)) =
          registers.attempt reached (m, registers.get s' m) := rfl
      rw [last]
      cases accepted : registers.accepts m (registers.get s' m)
      · rw [registers.attempt_refused accepted]
        rcases ih with holds | ⟨absent, kept⟩
        · exact .inl holds
        · by_cases same : n = m
          · -- a value that would be refused is the one that was there
            subst same
            left
            rw [kept]
            rcases admitted n with equal | passes
            · exact equal.symm
            · rw [accepted] at passes
              cases passes
          · right
            simp [absent, same, kept]
      · rw [registers.attempt_accepted accepted]
        by_cases same : n = m
        · subst same
          exact .inl (registers.get_set_self _ _ _ accepted)
        · rw [registers.get_set_other _ _ _ _ same]
          rcases ih with holds | ⟨absent, kept⟩
          · exact .inl holds
          · right
            simp [absent, same, kept]

theorem exists_attempts_iff (names : List Name) (complete : ∀ n, n ∈ names) (s s' : State) :
    (∃ writes, registers.attempts s writes = s') ↔ registers.Admitted s s' := by
  constructor
  · rintro ⟨writes, rfl⟩
    exact registers.attempts_admitted s writes
  · intro admitted
    refine ⟨names.map fun m => (m, registers.get s' m), registers.ext _ _ fun n => ?_⟩
    rcases registers.get_attempts admitted names n with holds | ⟨absent, -⟩
    · exact holds
    · exact absurd (complete n) absent

end Registers

end StarlinkTcp.Machine
