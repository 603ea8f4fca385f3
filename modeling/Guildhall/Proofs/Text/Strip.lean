import Guildhall.Text.Blank
import Mathlib.Data.List.TakeWhile

/-!
What is left of a text once the blanks at its ends are gone.
-/

namespace Guildhall.Text

variable {p : Char → Bool}

theorem dropWhile_of_open {text : List Char} (first : ∀ c ∈ text.head?, p c = false) :
    text.dropWhile p = text := by
  cases text with
  | nil => rfl
  | cons c rest =>
    have stays := first c rfl
    simp [stays]

theorem strip_surrounded {before core after : List Char} (front : ∀ c ∈ before, p c = true)
    (back : ∀ c ∈ after, p c = true) (first : ∀ c ∈ core.head?, p c = false)
    (last : ∀ c ∈ core.getLast?, p c = false) : strip p (before ++ core ++ after) = core := by
  have backward : ∀ c ∈ after.reverse, p c = true :=
    fun c member => back c (List.mem_reverse.mp member)
  rw [strip, List.append_assoc, List.dropWhile_append_of_pos front]
  cases core with
  | nil =>
    rw [List.nil_append, List.dropWhile_eq_nil_iff.mpr back]
    rfl
  | cons c rest =>
    have stays : ∀ d ∈ (c :: rest ++ after).head?, p d = false := first
    have ends : ∀ d ∈ (c :: rest).reverse.head?, p d = false := by
      rwa [List.head?_reverse]
    rw [dropWhile_of_open stays, List.reverse_append, List.dropWhile_append_of_pos backward,
      dropWhile_of_open ends, List.reverse_reverse]

theorem strip_open (text : List Char) :
    (∀ c ∈ (strip p text).head?, p c = false) ∧ ∀ c ∈ (strip p text).getLast?, p c = false := by
  have opens (l : List Char) : ∀ c ∈ (l.dropWhile p).head?, p c = false := by
    intro c first
    have stops := List.head?_dropWhile_not p l
    rw [first] at stops
    exact stops
  constructor
  · intro c first
    obtain ⟨blanks, whole⟩ := List.dropWhile_suffix p (l := (text.dropWhile p).reverse)
    have kept : text.dropWhile p = strip p text ++ blanks.reverse := by
      rw [strip, ← List.reverse_append, whole, List.reverse_reverse]
    apply opens text c
    rw [kept, List.head?_append, first]
    rfl
  · rw [strip, List.getLast?_reverse]
    exact opens _

theorem strip_of_open {text : List Char} (first : ∀ c ∈ text.head?, p c = false)
    (last : ∀ c ∈ text.getLast?, p c = false) : strip p text = text := by
  have backward : ∀ c ∈ text.reverse.head?, p c = false := by
    rwa [List.head?_reverse]
  rw [strip, dropWhile_of_open first, dropWhile_of_open backward, List.reverse_reverse]

theorem exists_blanks (text : List Char) : ∃ before after,
    text = before ++ strip p text ++ after ∧ (∀ c ∈ before, p c = true) ∧
      ∀ c ∈ after, p c = true := by
  refine ⟨text.takeWhile p, ((text.dropWhile p).reverse.takeWhile p).reverse, ?_, ?_, ?_⟩
  · rw [strip, List.append_assoc, ← List.reverse_append, List.takeWhile_append_dropWhile,
      List.reverse_reverse, List.takeWhile_append_dropWhile]
  · exact fun c member => List.mem_takeWhile_imp member
  · exact fun c member => List.mem_takeWhile_imp (List.mem_reverse.mp member)

end Guildhall.Text
