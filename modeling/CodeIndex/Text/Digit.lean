import Std.Data.String.ToInt

/-!
# Digits

The values of digits in bases up to sixteen, in lower and upper case. The decimal text of a number
holds digits only (`isDigit_of_mem_toString`) and gives the number back (`toString_inj`). That of a
signed number may hold a minus sign as well (`not_mem_toString_int`, `toString_int_inj`).
-/

namespace CodeIndex.Text

/-- The value of a digit in bases up to sixteen. -/
def digitValue? (c : Char) : Option Nat :=
  if '0' ≤ c ∧ c ≤ '9' then some (c.toNat - '0'.toNat)
  else if 'a' ≤ c ∧ c ≤ 'f' then some (c.toNat - 'a'.toNat + 10)
  else if 'A' ≤ c ∧ c ≤ 'F' then some (c.toNat - 'A'.toNat + 10)
  else none

/-- The number that some digits of a base make, the most significant first. -/
def numeral? (base : Nat) (digits : List Char) : Option Nat :=
  digits.foldlM (fun number c =>
    match digitValue? c with
    | some digit => if digit < base then some (base * number + digit) else none
    | none => none) 0

/-! ## Decimal texts -/

theorem isDigit_of_mem_toString {n : Nat} {c : Char} (member : c ∈ (toString n).toList) :
    c.isDigit = true := by
  rw [Nat.toString_eq_repr, Nat.toList_repr] at member
  exact Nat.isDigit_of_mem_toDigits (by decide) (by decide) member

theorem visible_of_isDigit {c : Char} (digit : c.isDigit = true) :
    0x21 ≤ c.toNat ∧ c.toNat ≤ 0x7E := by
  simp only [Char.isDigit, Bool.and_eq_true, decide_eq_true_eq] at digit
  obtain ⟨low, high⟩ := digit
  have low' : 48 ≤ c.toNat := low
  have high' : c.toNat ≤ 57 := high
  omega

/-- A character that is no digit does not stand in the decimal text of a number. -/
theorem not_mem_toString {n : Nat} {c : Char} (other : c.isDigit = false) :
    c ∉ (toString n).toList := by
  intro member
  rw [isDigit_of_mem_toString member] at other
  cases other

theorem toList_toString_ne_nil (n : Nat) : (toString n).toList ≠ [] := by
  rw [Nat.toString_eq_repr, Nat.toList_repr]
  exact Nat.toDigits_ne_nil

theorem toString_inj {n m : Nat} : toString n = toString m ↔ n = m := by
  rw [Nat.toString_eq_repr, Nat.toString_eq_repr, Nat.repr_inj]

theorem toString_int_inj {n m : Int} : toString n = toString m ↔ n = m := by
  rw [Int.toString_eq_repr, Int.toString_eq_repr, Int.repr_inj]

/-- A character that is no digit and no minus sign does not stand in the decimal text of a signed
number. -/
theorem not_mem_toString_int {n : Int} {c : Char} (other : c.isDigit = false) (noSign : c ≠ '-') :
    c ∉ (toString n).toList := by
  rw [Int.toString_eq_repr, Int.repr_eq_if]
  split
  · exact not_mem_toString other
  · rw [String.toList_append, List.mem_append, not_or]
    exact ⟨by simpa using noSign, not_mem_toString other⟩

end CodeIndex.Text
