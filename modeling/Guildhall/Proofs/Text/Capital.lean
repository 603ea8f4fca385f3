import Guildhall.Text.Capital
import Mathlib.Data.List.Infix

/-!
Words that stand in a text. A word that lacks a character stands in a text that this character
parts exactly if it stands in one of the parts.
-/

namespace Guildhall.Text

theorem infixOf_iff {needle text : List Char} : infixOf needle text = true ↔ needle <:+: text := by
  induction text with
  | nil => rw [infixOf, List.isEmpty_iff, List.infix_nil]
  | cons c rest ih =>
      rw [infixOf, Bool.or_eq_true, List.isPrefixOf_iff_prefix, ih, List.infix_cons_iff]

theorem contains_iff {text needle : String} :
    contains text needle = true ↔ needle.toList <:+: text.toList := infixOf_iff

section Parting

variable {needle before after rest : List Char} {c : Char}

theorem nil_of_prefix_cons (other : needle.head? ≠ some c) (begins : needle <+: c :: rest) :
    needle = [] := by
  rcases List.prefix_cons_iff.mp begins with empty | ⟨tail, rfl, -⟩
  · exact empty
  · exact absurd rfl other

theorem infix_cons_of_head (other : needle.head? ≠ some c) :
    needle <:+: c :: rest ↔ needle <:+: rest := by
  rw [List.infix_cons_iff]
  refine ⟨fun stands => stands.elim (fun begins => ?_) id, Or.inr⟩
  rw [nil_of_prefix_cons other begins]
  exact List.nil_infix

theorem infix_parted (lacks : c ∉ needle) :
    needle <:+: before ++ c :: after ↔ needle <:+: before ∨ needle <:+: after := by
  rw [List.infix_append_iff_ne_nil,
    infix_cons_of_head fun begins => lacks (List.mem_of_head? begins)]
  refine or_congr_right ⟨fun stands => stands.elim id ?_, Or.inl⟩
  rintro ⟨front, back, -, nonempty, rfl, -, begins⟩
  refine absurd (nil_of_prefix_cons (fun first => lacks ?_) begins) nonempty
  exact List.mem_append_right front (List.mem_of_head? first)

end Parting

theorem toList_capitals_append (first second : String) :
    (capitals (first ++ second)).toList = (capitals first).toList ++ (capitals second).toList := by
  simp only [capitals, String.toList_append, List.flatMap_append, String.toList_ofList]

end Guildhall.Text
