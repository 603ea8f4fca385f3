import Guildhall.Text.Search
import Mathlib.Data.List.TakeWhile

/-!
Search is for a text as it is written. Two patterns in sequence accept the texts that split into one
for each, and a text that is escaped reads as itself; so the query is found exactly where it stands
in the content, in small or capital letters.
-/

namespace Guildhall.Text

/-- The query stands in the content, before any null character, in small or capital letters. -/
def Contains (query content : String) : Prop :=
  ∃ before part after, content.toList = before ++ part ++ after ∧ nul ∉ before ++ part ∧
    part.map Char.toLower = query.toList.map Char.toLower

theorem someEnd_iff {p : List Char → Bool} {text : List Char} :
    someEnd p text = true ↔ ∃ before after, text = before ++ after ∧ p after = true := by
  induction text with
  | nil =>
      constructor
      · exact fun meets => ⟨[], [], rfl, meets⟩
      · rintro ⟨before, after, split, meets⟩
        rw [(List.append_eq_nil_iff.mp split.symm).2] at meets
        exact meets
  | cons c rest ih =>
      rw [someEnd, Bool.or_eq_true, ih]
      constructor
      · rintro (meets | ⟨before, after, rfl, meets⟩)
        · exact ⟨[], c :: rest, rfl, meets⟩
        · exact ⟨c :: before, after, rfl, meets⟩
      · rintro ⟨before, after, split, meets⟩
        rcases List.cons_eq_append_iff.mp split with ⟨-, rfl⟩ | ⟨front, -, rfl⟩
        · exact Or.inl meets
        · exact Or.inr ⟨front, after, rfl, meets⟩

namespace Pattern

theorem accepts_run_cons {rest : Pattern} {text : List Char} :
    accepts (.run :: rest) text = true ↔
      ∃ before after, text = before ++ after ∧ accepts rest after = true := by
  rw [accepts, someEnd_iff]

theorem accepts_any_cons {rest : Pattern} {text : List Char} :
    accepts (.any :: rest) text = true ↔
      ∃ d after, text = d :: after ∧ accepts rest after = true := by
  cases text with
  | nil => simp [accepts]
  | cons d text =>
      rw [accepts]
      constructor
      · exact fun meets => ⟨d, text, rfl, meets⟩
      · rintro ⟨_, _, ⟨⟩, meets⟩
        exact meets

theorem accepts_just_cons {c : Char} {rest : Pattern} {text : List Char} :
    accepts (.just c :: rest) text = true ↔
      ∃ after, text = c :: after ∧ accepts rest after = true := by
  cases text with
  | nil => simp [accepts]
  | cons d text =>
      rw [accepts, Bool.and_eq_true, decide_eq_true_eq]
      constructor
      · rintro ⟨rfl, meets⟩
        exact ⟨text, rfl, meets⟩
      · rintro ⟨_, ⟨⟩, meets⟩
        exact ⟨rfl, meets⟩

theorem accepts_append {first second : Pattern} {text : List Char} :
    accepts (first ++ second) text = true ↔ ∃ before after, text = before ++ after ∧
      accepts first before = true ∧ accepts second after = true := by
  -- A run takes any number of characters, so where the text is parted is open until the rest of the
  -- first pattern has met.
  induction first generalizing text with
  | nil =>
      constructor
      · exact fun meets => ⟨[], text, rfl, rfl, meets⟩
      · rintro ⟨before, after, rfl, empty, meets⟩
        rw [List.isEmpty_iff.mp empty]
        exact meets
  | cons part rest ih =>
      cases part with
      | run =>
          simp only [List.cons_append, accepts_run_cons, ih]
          constructor
          · rintro ⟨skipped, -, rfl, before, after, rfl, left, right⟩
            exact ⟨skipped ++ before, after, (List.append_assoc ..).symm,
              ⟨skipped, before, rfl, left⟩, right⟩
          · rintro ⟨-, after, rfl, ⟨skipped, before, rfl, left⟩, right⟩
            exact ⟨skipped, before ++ after, List.append_assoc .., before, after, rfl, left, right⟩
      | any =>
          simp only [List.cons_append, accepts_any_cons, ih]
          constructor
          · rintro ⟨d, -, rfl, before, after, rfl, left, right⟩
            exact ⟨d :: before, after, rfl, ⟨d, before, rfl, left⟩, right⟩
          · rintro ⟨-, after, rfl, ⟨d, before, rfl, left⟩, right⟩
            exact ⟨d, before ++ after, rfl, before, after, rfl, left, right⟩
      | just c =>
          simp only [List.cons_append, accepts_just_cons, ih]
          constructor
          · rintro ⟨-, rfl, before, after, rfl, left, right⟩
            exact ⟨c :: before, after, rfl, ⟨before, rfl, left⟩, right⟩
          · rintro ⟨-, after, rfl, ⟨before, rfl, left⟩, right⟩
            exact ⟨before ++ after, rfl, before, after, rfl, left, right⟩

theorem accepts_just {exact text : List Char} :
    accepts (exact.map .just) text = true ↔ text = exact := by
  induction exact generalizing text with
  | nil => simp [accepts]
  | cons c rest ih =>
      simp only [List.map_cons, accepts_just_cons, ih]
      constructor
      · rintro ⟨after, rfl, rfl⟩
        rfl
      · rintro rfl
        exact ⟨rest, rfl, rfl⟩

theorem accepts_between {part text : List Char} :
    accepts (.run :: part.map .just ++ [.run]) text = true ↔ part <:+: text := by
  have anything : ∀ text, accepts [.run] text = true := fun text =>
    accepts_run_cons.mpr ⟨text, [], (List.append_nil text).symm, rfl⟩
  rw [List.cons_append, accepts_run_cons]
  simp only [accepts_append, accepts_just, anything, and_true]
  constructor
  · rintro ⟨before, -, rfl, -, after, rfl, rfl⟩
    exact ⟨before, after, List.append_assoc ..⟩
  · rintro ⟨before, after, rfl⟩
    exact ⟨before, part ++ after, List.append_assoc .., part, after, rfl, rfl⟩

theorem read_plain {c : Char} (plain : c ∉ marks) (rest : List Char) :
    read (c :: rest) = (read rest).map (.just c :: ·) := by
  simp only [marks, List.mem_cons, List.not_mem_nil, or_false, not_or] at plain
  obtain ⟨backslash, percent, underscore⟩ := plain
  exact read.eq_6 c rest (fun same _ => backslash same) (fun _ _ same _ => backslash same) percent
    underscore

theorem escaped_cons (c : Char) (text : List Char) :
    escaped (c :: text) = (if c ∈ marks then ['\\', c] else [c]) ++ escaped text := by
  simp [escaped]

/-- A text that is escaped stands for itself, whatever comes behind it. -/
theorem read_escaped (text rest : List Char) :
    read (escaped text ++ rest) = (read rest).map (text.map .just ++ ·) := by
  induction text with
  | nil => exact Option.map_id'.symm
  | cons c text ih =>
      have one : read (escaped (c :: text) ++ rest) =
          (read (escaped text ++ rest)).map (.just c :: ·) := by
        rw [escaped_cons, List.append_assoc]
        split
        · rfl
        · rename_i plain
          exact read_plain plain _
      rw [one, ih, Option.map_map]
      rfl

theorem read_around (text : List Char) :
    read (around text) = some (.run :: text.map .just ++ [.run]) := by
  rw [around, List.cons_append, read, read_escaped]
  rfl

theorem toLower_mark {c : Char} (mark : c.toLower ∈ marks) : c.toLower = c := by
  unfold Char.toLower at mark ⊢
  split at mark
  · rename_i capital
    have lowest : 65 ≤ c.toNat := UInt32.le_iff_toNat_le.mp capital.1
    have highest : c.toNat ≤ 90 := UInt32.le_iff_toNat_le.mp capital.2
    simp [marks, Char.ext_iff, ← UInt32.toNat_inj] at mark
    omega
  · rename_i other
    rw [dif_neg other]

theorem toLower_mem_marks {c : Char} : c.toLower ∈ marks ↔ c ∈ marks := by
  constructor
  · exact fun mark => toLower_mark mark ▸ mark
  · intro mark
    simp only [marks, List.mem_cons, List.not_mem_nil, or_false] at mark
    rcases mark with rfl | rfl | rfl <;> decide

theorem toLower_escaped (text : List Char) :
    (escaped text).map Char.toLower = escaped (text.map Char.toLower) := by
  induction text with
  | nil => rfl
  | cons c text ih =>
      rw [escaped_cons, List.map_append, ih, List.map_cons, escaped_cons]
      simp only [toLower_mem_marks]
      split <;> rfl

theorem toLower_around (text : List Char) :
    (around text).map Char.toLower = around (text.map Char.toLower) := by
  simp only [around, List.map_append, List.map_cons, toLower_escaped]
  rfl

theorem mem_around {c : Char} {text : List Char} (member : c ∈ around text) :
    c ∈ marks ∨ c ∈ text := by
  have backslash : '\\' ∈ marks := by decide
  have percent : '%' ∈ marks := by decide
  rcases List.mem_cons.mp member with rfl | member
  · exact Or.inl percent
  rcases List.mem_append.mp member with inside | last
  · obtain ⟨d, there, written⟩ := List.mem_flatMap.mp inside
    split at written
    · rcases List.mem_cons.mp written with rfl | written
      · exact Or.inl backslash
      · exact Or.inr (List.mem_singleton.mp written ▸ there)
    · exact Or.inr (List.mem_singleton.mp written ▸ there)
  · exact Or.inl (List.mem_singleton.mp last ▸ percent)

end Pattern

theorem searched_around {query : List Char} (written : nul ∉ query) :
    searched (Pattern.around query) = Pattern.around (query.map Char.toLower) := by
  have whole : (Pattern.around query).takeWhile (fun c => c ≠ nul) = Pattern.around query := by
    refine List.takeWhile_eq_self_iff.mpr fun c member => decide_eq_true ?_
    rintro rfl
    exact (Pattern.mem_around member).elim (by decide) written
  rw [searched, whole, Pattern.toLower_around]

/-- A search finds a query without null characters exactly where the content has it. -/
theorem found_iff {query content : String} (written : nul ∉ query.toList) :
    found query content = true ↔ Contains query content := by
  have pattern : found query content =
      Pattern.accepts (.run :: (query.toList.map Char.toLower).map .just ++ [.run])
        (searched content.toList) := by
    rw [found, searched_around written, Pattern.read_around]
  rw [pattern, Pattern.accepts_between, searched, List.infix_map_iff]
  constructor
  · rintro ⟨part, ⟨before, rest, whole⟩, alike⟩
    refine ⟨before, part, rest ++ content.toList.dropWhile fun c => c ≠ nul, ?_, ?_, alike.symm⟩
    · rw [← List.append_assoc, whole, List.takeWhile_append_dropWhile]
    · intro member
      have early : nul ∈ content.toList.takeWhile fun c => c ≠ nul :=
        whole ▸ List.mem_append_left rest member
      exact absurd (List.mem_takeWhile_imp early) (by simp)
  · rintro ⟨before, part, after, whole, legible, alike⟩
    refine ⟨part, ?_, alike.symm⟩
    have kept : ∀ c ∈ before ++ part, decide (c ≠ nul) = true := by
      intro c member
      exact decide_eq_true fun same => legible (same ▸ member)
    rw [whole, List.takeWhile_append_of_pos kept]
    exact ⟨before, _, rfl⟩

example : found "0%_" "100 OF 200" = false ∧ found "0%_ Of" "100%_ of 200" = true := by decide

end Guildhall.Text
