import Mathlib.Tactic.NormNum
import Mathlib.Tactic.Positivity

/-! Numbers as an INTEGER column of SQLite keeps them. A sum that leaves the
signed 64-bit range is stored as a double, and a double that comes back into the
range is stored as an integer again. Unsigned amounts are bound by a cast. -/

namespace ApexEdge.Library

/-- The signed number that has the same 64 bits. -/
def asI64 (amount : Nat) : Int := (amount : Int).bmod (2 ^ 64)

def FitsI64 (n : Int) : Prop := -2 ^ 63 ≤ n ∧ n < 2 ^ 63

instance (n : Int) : Decidable (FitsI64 n) := inferInstanceAs (Decidable (_ ∧ _))

/-- The nearest multiple of `unit`, ties to even. -/
def roundTo (unit n : Nat) : Nat :=
  let rest := n % unit
  if unit < 2 * rest ∨ unit = 2 * rest ∧ n / unit % 2 = 1 then (n / unit + 1) * unit else n / unit * unit

/-- The nearest double of a whole number has 53 significant bits. -/
def roundToDouble (n : Int) : Int := n.sign * (roundTo (2 ^ (n.natAbs.log2 - 52)) n.natAbs : Nat)

inductive SqlNumber where
  | integer (n : Int)
  /-- Integers only ever sum up to doubles without a fraction. -/
  | real (whole : Int)
  deriving DecidableEq, Repr

namespace SqlNumber

def value (number : SqlNumber) : Int :=
  match number with
  | .integer n => n
  | .real whole => whole

/-- What an INTEGER column makes of a double. -/
def ofDouble (whole : Int) : SqlNumber :=
  if -2 ^ 63 < whole ∧ whole < 2 ^ 63 - 1 then .integer whole else .real whole

/-- Add to a column and store the sum in it. -/
def add (number : SqlNumber) (n : Int) : SqlNumber :=
  match number with
  | .integer m =>
    if FitsI64 (m + n) then .integer (m + n)
    else ofDouble (roundToDouble (roundToDouble m + roundToDouble n))
  | .real whole => ofDouble (roundToDouble (whole + roundToDouble n))

def sub (number : SqlNumber) (n : Int) : SqlNumber :=
  match number with
  | .integer m =>
    if FitsI64 (m - n) then .integer (m - n)
    else ofDouble (roundToDouble (roundToDouble m - roundToDouble n))
  | .real whole => ofDouble (roundToDouble (whole - roundToDouble n))

/-- Read as a signed 64-bit integer, which a double is not. -/
def asInteger (number : SqlNumber) : Option Int :=
  match number with
  | .integer n => some n
  | .real _ => none

end SqlNumber

section Lemmas

theorem asI64_of_small {amount : Nat} (small : amount < 2 ^ 63) : asI64 amount = amount := by
  unfold asI64
  rw [Int.bmod_eq_of_le] <;> omega

theorem asI64_of_large {amount : Nat} (large : 2 ^ 63 ≤ amount) (unsigned : amount < 2 ^ 64) :
    asI64 amount = amount - 2 ^ 64 := by
  unfold asI64
  rw [Int.bmod_def, Int.emod_eq_of_lt (by omega) (by exact_mod_cast unsigned), if_neg (by omega)]
  norm_num

/-- 9007199254740993 lies halfway between two doubles. -/
example : roundToDouble (2 ^ 53 + 1) = 2 ^ 53 := by decide

theorem roundTo_one (n : Nat) : roundTo 1 n = n := by
  simp [roundTo, Nat.mod_one]

theorem dvd_roundTo (unit n : Nat) : unit ∣ roundTo unit n := by
  unfold roundTo
  dsimp only
  split <;> exact Nat.dvd_mul_left unit _

/-- The largest signed integer has too many significant bits for a double. -/
theorem roundToDouble_ne_top (n : Int) : roundToDouble n ≠ 2 ^ 63 - 1 := by
  intro top
  have magnitude : n.sign.natAbs * roundTo (2 ^ (n.natAbs.log2 - 52)) n.natAbs = 2 ^ 63 - 1 := by
    rw [← Int.natAbs_natCast (roundTo _ _), ← Int.natAbs_mul]
    exact congrArg Int.natAbs top
  rcases Nat.eq_zero_or_pos (n.natAbs.log2 - 52) with fine | coarse
  · -- So small a number is its own double, and smaller than the top.
    have small : n.natAbs < 2 ^ 53 := by
      by_cases zero : n.natAbs = 0
      · rw [zero]; positivity
      · exact (Nat.log2_lt zero).mp (by omega)
    have sign : n.sign.natAbs ≤ 1 := by
      rcases Int.sign_trichotomy n with same | same | same <;> simp [same]
    rw [fine, pow_zero, roundTo_one] at magnitude
    have bounded := Nat.mul_le_mul_right n.natAbs sign
    omega
  · have even : 2 ∣ roundTo (2 ^ (n.natAbs.log2 - 52)) n.natAbs :=
      (dvd_pow_self 2 (by omega)).trans (dvd_roundTo _ _)
    have divides : 2 ∣ 2 ^ 63 - 1 := magnitude ▸ even.mul_left _
    omega

namespace SqlNumber

@[simp] theorem value_integer (n : Int) : (integer n).value = n := rfl

@[simp] theorem asInteger_integer (n : Int) : (integer n).asInteger = some n := rfl

theorem add_integer {m n : Int} (fits : FitsI64 (m + n)) : (integer m).add n = .integer (m + n) := if_pos fits

theorem sub_integer {m n : Int} (fits : FitsI64 (m - n)) : (integer m).sub n = .integer (m - n) := if_pos fits

/-- A double that a column keeps as one lies outside the signed range. -/
theorem ofDouble_cases (n : Int) :
    ofDouble (roundToDouble n) = .integer (roundToDouble n) ∧ roundToDouble n < 2 ^ 63 - 1 ∨
      ofDouble (roundToDouble n) = .real (roundToDouble n) ∧
        (roundToDouble n ≤ -2 ^ 63 ∨ 2 ^ 63 ≤ roundToDouble n) := by
  have top := roundToDouble_ne_top n
  unfold ofDouble
  split
  · exact .inl ⟨rfl, by omega⟩
  · exact .inr ⟨rfl, by omega⟩

/-- A sum outside the range is stored as some double, or as an integer below the top. -/
theorem add_overflow {m n : Int} (overflow : ¬ FitsI64 (m + n)) :
    (∃ k : Int, (integer m).add n = .integer k ∧ k < 2 ^ 63 - 1) ∨
      ∃ w : Int, (integer m).add n = .real w ∧ (w ≤ -2 ^ 63 ∨ 2 ^ 63 ≤ w) := by
  have stored : (integer m).add n = ofDouble (roundToDouble (roundToDouble m + roundToDouble n)) :=
    if_neg overflow
  rw [stored]
  rcases ofDouble_cases (roundToDouble m + roundToDouble n) with ⟨same, below⟩ | ⟨same, outside⟩
  · exact .inl ⟨_, same, below⟩
  · exact .inr ⟨_, same, outside⟩

theorem sub_overflow {m n : Int} (overflow : ¬ FitsI64 (m - n)) :
    (∃ k : Int, (integer m).sub n = .integer k ∧ k < 2 ^ 63 - 1) ∨
      ∃ w : Int, (integer m).sub n = .real w ∧ (w ≤ -2 ^ 63 ∨ 2 ^ 63 ≤ w) := by
  have stored : (integer m).sub n = ofDouble (roundToDouble (roundToDouble m - roundToDouble n)) :=
    if_neg overflow
  rw [stored]
  rcases ofDouble_cases (roundToDouble m - roundToDouble n) with ⟨same, below⟩ | ⟨same, outside⟩
  · exact .inl ⟨_, same, below⟩
  · exact .inr ⟨_, same, outside⟩

end SqlNumber
end Lemmas
end ApexEdge.Library
