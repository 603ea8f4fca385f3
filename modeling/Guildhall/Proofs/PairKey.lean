import Guildhall.PairKey
import Mathlib.Data.List.Basic

/-!
The name of a pair of users names nobody else: decimal text holds no colon and shows which integer
it stands for.
-/

namespace Guildhall

theorem digits_injective {m n : Nat} (same : Nat.toDigits 10 m = Nat.toDigits 10 n) : m = n :=
  calc
    m = Nat.ofDigitChars 10 (Nat.toDigits 10 m) 0 := Nat.ofDigitChars_ten_toDigits.symm
    _ = Nat.ofDigitChars 10 (Nat.toDigits 10 n) 0 := by rw [same]
    _ = n := Nat.ofDigitChars_ten_toDigits

theorem toList_int (n : Int) : (toString n).toList =
    if 0 ≤ n then Nat.toDigits 10 n.toNat else '-' :: Nat.toDigits 10 (-n).toNat := by
  rw [Int.toString_eq_repr, Int.repr_eq_if]
  split
  · rw [Nat.toList_repr]
  · rw [String.toList_append, Nat.toList_repr]
    rfl

theorem notDigit_not_mem {c : Char} (other : c.isDigit = false) (n : Nat) :
    c ∉ Nat.toDigits 10 n := by
  intro member
  rw [Nat.isDigit_of_mem_toDigits (by decide) (by decide) member] at other
  cases other

theorem colon_not_mem (n : Int) : ':' ∉ (toString n).toList := by
  rw [toList_int]
  split
  · exact notDigit_not_mem (by decide) _
  · simpa using notDigit_not_mem (by decide) _

theorem int_of_toList {m n : Int} (same : (toString m).toList = (toString n).toList) : m = n := by
  rw [toList_int, toList_int] at same
  -- A sign is no digit, so that a negative number never looks like another one.
  have sign : ∀ (digits : List Char) (k : Nat), '-' :: digits ≠ Nat.toDigits 10 k := by
    intro digits k clash
    exact notDigit_not_mem (by decide) k (clash ▸ List.mem_cons_self)
  by_cases first : 0 ≤ m <;> by_cases second : 0 ≤ n
  · rw [if_pos first, if_pos second] at same
    have equal := digits_injective same
    omega
  · rw [if_pos first, if_neg second] at same
    exact absurd same.symm (sign _ _)
  · rw [if_neg first, if_pos second] at same
    exact absurd same (sign _ _)
  · rw [if_neg first, if_neg second] at same
    have equal := digits_injective (List.cons.inj same).2
    omega

theorem pairKey_eq_iff {a b c d : Int} :
    pairKey a b = pairKey c d ↔ (a = c ∧ b = d) ∨ (a = d ∧ b = c) := by
  constructor
  · intro same
    have text := congrArg String.toList same
    simp only [pairKey, String.toList_append, List.append_assoc] at text
    obtain ⟨low, -, high⟩ :=
      (List.append_cons_inj_of_notMem (colon_not_mem _) (colon_not_mem _)).mp text
    have lowest := int_of_toList low
    have highest := int_of_toList high
    omega
  · rintro (⟨rfl, rfl⟩ | ⟨rfl, rfl⟩)
    · rfl
    · rw [pairKey, pairKey, Int.min_comm, Int.max_comm]

end Guildhall
