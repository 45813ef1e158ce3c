import Mathlib.Data.Nat.Bitwise
import Mathlib.Tactic.Ring

/-!
# Fixed-width words

The C idioms the kernel code is written in (`clamp_t`, `ALIGN`, the conversion of an `int` to a
`u64`) over Lean's machine words, and their meaning over the naturals.
-/

namespace StarlinkTcp.Machine

def clampT {α : Type} [LE α] [DecidableLE α] (value lower upper : α) : α :=
  if upper ≤ value then upper else if value ≤ lower then lower else value

/-- `ALIGN(x, a)` for a power of two `a`. -/
def align (x a : UInt32) : UInt32 := (x + (a - 1)) &&& ~~~(a - 1)

/-- `(u64)x` for an `int`: the sign is extended. -/
def u64OfInt (x : Int32) : UInt64 := x.toInt64.toUInt64

theorem int32_nonneg_iff {x : Int32} : 0 ≤ x ↔ 0 ≤ x.toInt := Int32.le_iff_toInt_le

theorem u64OfInt_toNat {x : Int32} (nonneg : 0 ≤ x) : (u64OfInt x).toNat = x.toInt.toNat := by
  have wide : 0 ≤ x.toInt64 := by
    rw [Int64.le_iff_toInt_le, Int32.toInt_toInt64]
    simpa using Int32.le_iff_toInt_le.mp nonneg
  rw [u64OfInt, Int64.toNat_toUInt64_of_le wide, Int64.toNatClampNeg, Int32.toInt_toInt64]

theorem u64OfInt_toNat_lt {x : Int32} (nonneg : 0 ≤ x) : (u64OfInt x).toNat < 2 ^ 31 := by
  have bound := x.toInt_lt
  rw [u64OfInt_toNat nonneg]
  omega

theorem saturatingSub_toNat (a b : UInt64) : (if a > b then a - b else 0).toNat = a.toNat - b.toNat := by
  split
  · rename_i above
    exact UInt64.toNat_sub_of_le _ _ (UInt64.le_of_lt above)
  · rename_i below
    rw [UInt64.not_lt, UInt64.le_iff_toNat_le] at below
    simp only [UInt64.toNat_zero]
    omega

theorem toNat_and_not_add (x m : UInt32) : (x &&& ~~~m).toNat + (x &&& m).toNat = x.toNat := by
  have disjoint : (x &&& ~~~m).toBitVec &&& (x &&& m).toBitVec = 0#32 := by
    ext i
    simp only [UInt32.toBitVec_and, UInt32.toBitVec_not, BitVec.getElem_and, BitVec.getElem_not,
      BitVec.getElem_zero]
    grind
  have union : (x &&& ~~~m).toBitVec ||| (x &&& m).toBitVec = x.toBitVec := by
    ext i
    simp only [UInt32.toBitVec_and, UInt32.toBitVec_not, BitVec.getElem_or, BitVec.getElem_and,
      BitVec.getElem_not]
    grind
  have sum := BitVec.toNat_add_of_and_eq_zero disjoint
  rw [BitVec.add_eq_or_of_and_eq_zero _ _ disjoint, union] at sum
  exact sum.symm

theorem le_align {x a : UInt32} (fits : x.toNat + (a - 1).toNat < 2 ^ 32) : x ≤ align x a := by
  have split := toNat_and_not_add (x + (a - 1)) (a - 1)
  have low : ((x + (a - 1)) &&& (a - 1)).toNat ≤ (a - 1).toNat := by
    rw [UInt32.toNat_and]
    exact Nat.and_le_right
  rw [UInt32.toNat_add, Nat.mod_eq_of_lt fits] at split
  rw [UInt32.le_iff_toNat_le, align]
  omega

/-! Shifts by less than the width are powers of two. -/

section Shifts

variable (x : UInt32) {w : Nat} (lt : w < 32)

include lt

theorem shiftRight_toNat : (x >>> UInt32.ofNat w).toNat = x.toNat / 2 ^ w := by
  rw [UInt32.toNat_shiftRight, UInt32.toNat_ofNat', Nat.mod_eq_of_lt (lt.trans (by decide)),
    Nat.mod_eq_of_lt lt, Nat.shiftRight_eq_div_pow]

theorem shiftLeft_toNat : (x <<< UInt32.ofNat w).toNat = x.toNat * 2 ^ w % 2 ^ 32 := by
  rw [UInt32.toNat_shiftLeft, UInt32.toNat_ofNat', Nat.mod_eq_of_lt (lt.trans (by decide)),
    Nat.mod_eq_of_lt lt, Nat.shiftLeft_eq]

theorem align_toNat :
    (align x (1 <<< UInt32.ofNat w)).toNat = (x.toNat + (2 ^ w - 1)) % 2 ^ 32 / 2 ^ w * 2 ^ w := by
  have power : 2 ^ w < 2 ^ 32 := Nat.pow_lt_pow_right (by decide) lt
  have positive : 0 < 2 ^ w := Nat.two_pow_pos w
  have unit : ((1 : UInt32) <<< UInt32.ofNat w).toNat = 2 ^ w := by
    rw [shiftLeft_toNat 1 lt, UInt32.toNat_one, one_mul, Nat.mod_eq_of_lt power]
  have mask : ((1 : UInt32) <<< UInt32.ofNat w - 1).toNat = 2 ^ w - 1 := by
    rw [UInt32.toNat_sub_of_le _ _ (by rw [UInt32.le_iff_toNat_le, unit]; exact positive), unit]
    rfl
  have split := toNat_and_not_add (x + ((1 : UInt32) <<< UInt32.ofNat w - 1)) (1 <<< UInt32.ofNat w - 1)
  rw [UInt32.toNat_and _ ((1 : UInt32) <<< UInt32.ofNat w - 1), mask, Nat.and_two_pow_sub_one_eq_mod,
    UInt32.toNat_add, mask] at split
  have divided := Nat.div_add_mod' ((x.toNat + (2 ^ w - 1)) % 2 ^ 32) (2 ^ w)
  rw [align]
  omega

theorem dvd_align : 2 ^ w ∣ (align x (1 <<< UInt32.ofNat w)).toNat := by
  rw [align_toNat x lt]
  exact Nat.dvd_mul_left _ _

end Shifts

theorem toNat_pos {x : UInt32} (nonzero : x ≠ 0) : 0 < x.toNat :=
  UInt32.lt_iff_toNat_lt.mp (UInt32.pos_iff_ne_zero.mpr nonzero)

/-! A linear ramp over `length` ticks to `height`, computed in 64 bits: the product fits, and the ramp
does not pass its end. -/

theorem ramp_le (height elapsed length : Nat) : height * min elapsed length / length ≤ height := by
  apply Nat.div_le_of_le_mul
  rw [Nat.mul_comm length]
  exact Nat.mul_le_mul_left _ (Nat.min_le_right _ _)

theorem ramp_toNat (height : UInt32) (elapsed : UInt64) (length : UInt32) :
    (height.toUInt64 * min elapsed length.toUInt64 / length.toUInt64).toNat =
      height.toNat * min elapsed.toNat length.toNat / length.toNat := by
  have product : height.toNat * min elapsed.toNat length.toNat ≤ height.toNat * length.toNat :=
    Nat.mul_le_mul_left _ (Nat.min_le_right _ _)
  have fits : height.toNat * length.toNat < 2 ^ 64 :=
    lt_of_lt_of_le (Nat.mul_lt_mul'' height.toNat_lt length.toNat_lt) (by norm_num)
  simp only [UInt64.toNat_div, UInt64.toNat_mul, UInt32.toNat_toUInt64, UInt64.toNat_min]
  rw [Nat.mod_eq_of_lt (lt_of_le_of_lt product fits)]

/-! Operations that stop where the C operation would lose bits or divide by zero. -/

def mulChecked (a b : UInt64) : Option UInt64 := if a.toNat * b.toNat < 2 ^ 64 then some (a * b) else none

def divChecked {α : Type} [Div α] [OfNat α 0] [DecidableEq α] (a b : α) : Option α :=
  if b = 0 then none else some (a / b)

def modChecked {α : Type} [Mod α] [OfNat α 0] [DecidableEq α] (a b : α) : Option α :=
  if b = 0 then none else some (a % b)

def narrowChecked (a : UInt64) : Option UInt32 := if a.toNat < 2 ^ 32 then some a.toUInt32 else none

theorem toUInt64_ne_zero {a : UInt32} (nonzero : a ≠ 0) : a.toUInt64 ≠ 0 := by
  have positive := toNat_pos nonzero
  rw [ne_eq, ← UInt64.toNat_inj, UInt32.toNat_toUInt64, UInt64.toNat_zero]
  omega

/-- A part of `height` in 32 bits, by way of a 64-bit product. -/
theorem scaled_toNat (height part whole : UInt32) :
    (height.toUInt64 * part.toUInt64 / whole.toUInt64).toNat = height.toNat * part.toNat / whole.toNat := by
  have fits : height.toNat * part.toNat < 2 ^ 64 :=
    lt_of_lt_of_le (Nat.mul_lt_mul'' height.toNat_lt part.toNat_lt) (by norm_num)
  simp only [UInt64.toNat_div, UInt64.toNat_mul, UInt32.toNat_toUInt64]
  rw [Nat.mod_eq_of_lt fits]

theorem scaled_le {height part whole : Nat} (le : part ≤ whole) : height * part / whole ≤ height := by
  apply Nat.div_le_of_le_mul
  rw [Nat.mul_comm whole]
  exact Nat.mul_le_mul_left _ le

def scaledChecked (height part whole : UInt32) : Option UInt32 := do
  let product ← mulChecked height.toUInt64 part.toUInt64
  let quotient ← divChecked product whole.toUInt64
  narrowChecked quotient

theorem scaledChecked_eq {height part whole : UInt32} (nonzero : whole ≠ 0) (le : part.toNat ≤ whole.toNat) :
    scaledChecked height part whole = some (height.toUInt64 * part.toUInt64 / whole.toUInt64).toUInt32 ∧
    (height.toUInt64 * part.toUInt64 / whole.toUInt64).toUInt32.toNat =
      height.toNat * part.toNat / whole.toNat := by
  have value := scaled_toNat height part whole
  have fits := (@scaled_le height.toNat part.toNat whole.toNat le).trans_lt height.toNat_lt
  have product : height.toNat * part.toNat < 2 ^ 64 :=
    lt_of_lt_of_le (Nat.mul_lt_mul'' height.toNat_lt part.toNat_lt) (by norm_num)
  rw [← value] at fits
  constructor
  · simp only [scaledChecked, mulChecked, divChecked, narrowChecked, UInt32.toNat_toUInt64, product, fits,
      toUInt64_ne_zero nonzero, if_true, if_false, Option.bind_eq_bind, Option.bind_some]
  · rw [UInt64.toNat_toUInt32, Nat.mod_eq_of_lt fits, value]

theorem toNat_toUInt64_add (a b : UInt32) : (a.toUInt64 + b.toUInt64).toNat = a.toNat + b.toNat := by
  have first := a.toNat_lt
  have second := b.toNat_lt
  rw [UInt64.toNat_add, UInt32.toNat_toUInt64, UInt32.toNat_toUInt64, Nat.mod_eq_of_lt (by omega)]

/-- Serial-number arithmetic: the distance of two 32-bit cursors on one unbounded stream, as long as
less than `2 ^ 32` lies between them. -/
theorem cursor_sub_toNat {a b : UInt32} {p q : Nat} (first : a.toNat = p % 2 ^ 32)
    (second : b.toNat = q % 2 ^ 32) (le : q ≤ p) (near : p - q < 2 ^ 32) : (a - b).toNat = p - q := by
  rw [UInt32.toNat_sub, first, second]
  omega

end StarlinkTcp.Machine
