import Mathlib.Data.List.Induction
import Mathlib.Data.Nat.Basic

/-!
# Append-only journals

A property of a journal says of every entry what holds of it together with the entries before it. A
journal grows at its end, so the property is checked once, when the entry is written. What a journal
amounts to is a fold over it, and entries that change nothing in the fold can be passed over.
-/

namespace StarlinkTcp.Machine

variable {Row Summary : Type*}

def Along (holds : List Row → Row → Prop) (journal : List Row) : Prop :=
  ∀ n row, journal[n]? = some row → holds (journal.take n) row

variable {holds : List Row → Row → Prop} {journal rows : List Row} {row : Row}

theorem along_nil : Along holds [] := by
  intro n row entry
  simp at entry

theorem along_concat : Along holds (journal ++ [row]) ↔ Along holds journal ∧ holds journal row := by
  constructor
  · intro along
    refine ⟨fun n entry found => ?_, ?_⟩
    · have lt : n < journal.length := (List.getElem?_eq_some_iff.mp found).1
      have entryAt := along n entry (by rw [List.getElem?_append_left lt, found])
      rwa [List.take_append_of_le_length (Nat.le_of_lt lt)] at entryAt
    · have last := along journal.length row (by simp)
      rwa [List.take_left] at last
  · rintro ⟨along, last⟩ n entry found
    rcases lt_trichotomy n journal.length with lt | rfl | gt
    · rw [List.getElem?_append_left lt] at found
      rw [List.take_append_of_le_length (Nat.le_of_lt lt)]
      exact along n entry found
    · simp only [List.getElem?_concat_length, Option.some.injEq] at found
      rw [List.take_left, ← found]
      exact last
    · rw [List.getElem?_eq_none (by simp; omega)] at found
      cases found

theorem along_append (along : Along holds journal) (vacuous : ∀ row ∈ rows, ∀ before, holds before row) :
    Along holds (journal ++ rows) := by
  induction rows using List.reverseRecOn with
  | nil => simpa using along
  | append_singleton rows row ih =>
      rw [← List.append_assoc, along_concat]
      exact ⟨ih fun row member => vacuous row (List.mem_append_left _ member), vacuous row (by simp) _⟩

theorem foldl_append_unchanged {note : Summary → Row → Summary} {start : Summary}
    (unchanged : ∀ row ∈ rows, ∀ summary, note summary row = summary) :
    (journal ++ rows).foldl note start = journal.foldl note start := by
  rw [List.foldl_append]
  generalize journal.foldl note start = summary
  induction rows with
  | nil => rfl
  | cons row rows ih =>
      rw [List.foldl_cons, unchanged row (by simp)]
      exact ih fun row member => unchanged row (List.mem_cons_of_mem _ member)

/-! ## The journal of a state -/

section Accounts

variable {State : Type*} {log : State → List Row} {summary : State → Summary} {note : Summary → Row → Summary}
  {s t u : State}

/-- The entries added from `s` to `t` account for what changes in the summary. -/
def Accounts (log : State → List Row) (summary : State → Summary) (note : Summary → Row → Summary) (s t : State) :
    Prop :=
  ∃ rows, log t = log s ++ rows ∧ summary t = rows.foldl note (summary s)

theorem Accounts.silent (sameLog : log t = log s) (same : summary t = summary s) : Accounts log summary note s t :=
  ⟨[], by rw [sameLog, List.append_nil], same⟩

theorem Accounts.entry {row : Row} (added : log t = log s ++ [row]) (noted : summary t = note (summary s) row) :
    Accounts log summary note s t :=
  ⟨[row], added, noted⟩

theorem Accounts.trans (before : Accounts log summary note s t) (after : Accounts log summary note t u) :
    Accounts log summary note s u := by
  obtain ⟨rows, added, noted⟩ := before
  obtain ⟨more, addedAfter, notedAfter⟩ := after
  refine ⟨rows ++ more, by rw [addedAfter, added, List.append_assoc], ?_⟩
  rw [notedAfter, noted, List.foldl_append]

end Accounts

end StarlinkTcp.Machine
