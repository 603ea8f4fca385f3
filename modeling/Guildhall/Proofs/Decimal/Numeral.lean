import Guildhall.Decimal.Misread
import Guildhall.Proofs.PairKey
import Guildhall.Proofs.Text.Strip
import Mathlib.Data.Nat.Digits.Lemmas

/-!
Which texts spell an integer, and which one: the reader takes the texts that do, if their digits
are not too many, and reads the integer that they spell. What is written of an integer spells it.
-/

namespace Guildhall.Decimal

open Text

/-- A run of digits of any scripts, in which a single underscore may stand between two digits, and
the values of the digits. -/
inductive Grouped : List Char → List Nat → Prop
  | last {c : Char} {value : Nat} : digit? c = some value → Grouped [c] [value]
  | next {c : Char} {value : Nat} {rest : List Char} {digits : List Nat} :
    digit? c = some value → Grouped rest digits → Grouped (c :: rest) (value :: digits)
  | gap {c : Char} {value : Nat} {rest : List Char} {digits : List Nat} :
    digit? c = some value → Grouped rest digits → Grouped (c :: '_' :: rest) (value :: digits)

/-- What may follow a digit of a run. -/
def Continued (rest : List Char) (digits : List Nat) : Prop :=
  (rest = [] ∧ digits = []) ∨ Grouped rest digits ∨
    ∃ later, rest = '_' :: later ∧ Grouped later digits

theorem grouped_cons {c : Char} {rest : List Char} {digits : List Nat} :
    Grouped (c :: rest) digits ↔
      ∃ value others, digit? c = some value ∧ Continued rest others ∧ value :: others = digits := by
  constructor
  · intro grouped
    cases grouped with
    | last read => exact ⟨_, _, read, .inl ⟨rfl, rfl⟩, rfl⟩
    | next read later => exact ⟨_, _, read, .inr (.inl later), rfl⟩
    | gap read later => exact ⟨_, _, read, .inr (.inr ⟨_, rfl, later⟩), rfl⟩
  · rintro ⟨value, others, read, ⟨rfl, rfl⟩ | later | ⟨later, rfl, grouped⟩, rfl⟩
    · exact .last read
    · exact .next read later
    · exact .gap read grouped

theorem not_grouped_nil {digits : List Nat} : ¬Grouped [] digits := nofun

theorem not_grouped_underscore {rest : List Char} {digits : List Nat} :
    ¬Grouped ('_' :: rest) digits := by
  intro grouped
  obtain ⟨value, _, read, _⟩ := grouped_cons.mp grouped
  have other : digit? '_' = none := by decide
  rw [other] at read
  cases read

/-- The reader after a digit and the reader before one go through the text together. -/
theorem groupedDigits_exact (text : List Char) : ∀ digits,
    (groupedDigits digit? false text = some digits ↔ Grouped text digits) ∧
      (groupedDigits digit? true text = some digits ↔ Continued text digits) := by
  induction text with
  | nil =>
    intro digits
    simp [groupedDigits, Continued, not_grouped_nil, eq_comm]
  | cons c rest later =>
    intro digits
    by_cases underscore : c = '_'
    · subst underscore
      simp [groupedDigits, Continued, not_grouped_underscore, later]
    · have same : Continued (c :: rest) digits ↔ Grouped (c :: rest) digits := by
        simp [Continued, underscore]
      rw [same, grouped_cons]
      simp only [groupedDigits, if_neg underscore]
      cases read : digit? c with
      | none => simp
      | some value => simp [Option.map_eq_some_iff, later]

theorem groupedDigits_iff {text : List Char} {digits : List Nat} :
    groupedDigits digit? false text = some digits ↔ Grouped text digits :=
  (groupedDigits_exact text digits).1

inductive Signed : List Char → Bool → List Nat → Prop
  | bare {body : List Char} {digits : List Nat} : Grouped body digits → Signed body false digits
  | plus {body : List Char} {digits : List Nat} :
    Grouped body digits → Signed ('+' :: body) false digits
  | minus {body : List Char} {digits : List Nat} :
    Grouped body digits → Signed ('-' :: body) true digits

/-- What stands between the blanks of a text is a sign, if any, and a run of digits. -/
def Spells (text : List Char) (negative : Bool) (digits : List Nat) : Prop :=
  ∃ before core after, text = before ++ core ++ after ∧ (∀ c ∈ before, isBlank c = true) ∧
    (∀ c ∈ after, isBlank c = true) ∧ Signed core negative digits

def integerOf (negative : Bool) (digits : List Nat) : Int :=
  signed negative (Nat.ofDigits 10 digits.reverse)

theorem foldl_eq_ofDigits (digits : List Nat) :
    digits.foldl (fun total digit => 10 * total + digit) 0 = Nat.ofDigits 10 digits.reverse := by
  rw [Nat.ofDigits_eq_foldr, List.foldr_reverse]
  simp [Nat.add_comm]

theorem digit_cases {c : Char} {value : Nat} (read : digit? c = some value) :
    ∃ first, (first = '0'.toNat ∨ first ∈ scriptZeros) ∧ c.toNat = first + value ∧ value ≤ 9 := by
  unfold digit? at read
  split at read
  · rename_i ascii found
    cases read
    simp only [asciiDigit?, Option.ite_none_right_eq_some, Option.some.injEq] at found
    obtain ⟨⟨low, high⟩, rfl⟩ := found
    have bottom : '0'.toNat ≤ c.toNat := low
    have top : c.toNat ≤ '0'.toNat + 9 := high
    exact ⟨_, .inl rfl, by omega, by omega⟩
  · split at read
    · rename_i first found
      cases read
      have member := List.mem_of_find?_eq_some found
      have bounds : first ≤ c.toNat ∧ c.toNat < first + 10 := by
        simpa using List.find?_some found
      exact ⟨first, .inr member, by omega, by omega⟩
    · cases read

theorem digit_le {c : Char} {value : Nat} (read : digit? c = some value) : value ≤ 9 := by
  obtain ⟨_, _, _, small⟩ := digit_cases read
  exact small

theorem scriptZeros_apart : ∀ first ∈ scriptZeros,
    (0xA0 < first ∧ first + 9 < 0x1680) ∨ (0x1680 < first ∧ first + 9 < 0x2000) ∨
      0x3000 < first := by
  decide

theorem digit_not_blank {c : Char} {value : Nat} (read : digit? c = some value) :
    isBlank c = false := by
  obtain ⟨first, script, code, small⟩ := digit_cases read
  have apart : (0x20 < c.toNat ∧ c.toNat < 0x85) ∨ (0xA0 < c.toNat ∧ c.toNat < 0x1680) ∨
      (0x1680 < c.toNat ∧ c.toNat < 0x2000) ∨ 0x3000 < c.toNat := by
    cases script with
    | inl ascii =>
      have shown : '0'.toNat = 48 := rfl
      omega
    | inr script =>
      have ranges := scriptZeros_apart first script
      omega
  have notSpace : c ≠ ' ' := by
    rintro rfl
    simp at apart
  simp only [isBlank, isAsciiBlank, notSpace, Bool.or_eq_false_iff, Bool.and_eq_false_iff,
    decide_eq_false_iff_not, not_false_eq_true, true_and]
  omega

theorem splitSign_of_grouped {body : List Char} {digits : List Nat}
    (grouped : Grouped body digits) : splitSign body = (false, body) := by
  cases body with
  | nil => exact absurd grouped not_grouped_nil
  | cons c rest =>
    obtain ⟨value, _, read, _⟩ := grouped_cons.mp grouped
    have minus : c ≠ '-' := by
      rintro rfl
      cases (read : digit? '-' = some value)
    have plus : c ≠ '+' := by
      rintro rfl
      cases (read : digit? '+' = some value)
    unfold splitSign
    split
    · simp_all
    · simp_all
    · rfl

theorem signed_iff {core : List Char} {negative : Bool} {digits : List Nat} :
    Signed core negative digits ↔
      (splitSign core).1 = negative ∧ Grouped (splitSign core).2 digits := by
  constructor
  · intro spelled
    cases spelled with
    | bare grouped => simp [splitSign_of_grouped grouped, grouped]
    | plus grouped => exact ⟨rfl, grouped⟩
    | minus grouped => exact ⟨rfl, grouped⟩
  · rintro ⟨rfl, grouped⟩
    unfold splitSign at *
    split at grouped
    · exact .minus grouped
    · exact .plus grouped
    · exact .bare grouped

theorem Grouped.no_blank {body : List Char} {digits : List Nat} (grouped : Grouped body digits) :
    ∀ c ∈ body, isBlank c = false := by
  induction grouped with
  | last read => simpa using digit_not_blank read
  | next read _ later => simpa using ⟨digit_not_blank read, later⟩
  | gap read _ later => simpa using ⟨digit_not_blank read, by decide, later⟩

theorem Grouped.digits_le {body : List Char} {digits : List Nat} (grouped : Grouped body digits) :
    ∀ digit ∈ digits, digit ≤ 9 := by
  induction grouped with
  | last read => simpa using digit_le read
  | next read _ later => simpa using ⟨digit_le read, later⟩
  | gap read _ later => simpa using ⟨digit_le read, later⟩

section

variable {text core : List Char} {negative : Bool} {digits : List Nat} {n : Int}

theorem Signed.no_blank (spelled : Signed core negative digits) :
    ∀ c ∈ core, isBlank c = false := by
  cases spelled with
  | bare grouped => exact grouped.no_blank
  | plus grouped => simpa using ⟨by decide, grouped.no_blank⟩
  | minus grouped => simpa using ⟨by decide, grouped.no_blank⟩

theorem spells_iff : Spells text negative digits ↔ Signed (strip isBlank text) negative digits := by
  constructor
  · rintro ⟨before, core, after, rfl, front, back, spelled⟩
    rwa [strip_surrounded front back
      (fun c first => spelled.no_blank c (List.mem_of_mem_head? first))
      (fun c last => spelled.no_blank c (List.mem_of_getLast? last))]
  · intro spelled
    obtain ⟨before, after, whole, front, back⟩ := @exists_blanks isBlank text
    exact ⟨before, _, after, whole, front, back, spelled⟩

/-- No text spells two integers. -/
theorem Spells.unique {other : Bool} {others : List Nat} (first : Spells text negative digits)
    (second : Spells text other others) : negative = other ∧ digits = others := by
  have firstSigned := signed_iff.mp (spells_iff.mp first)
  have secondSigned := signed_iff.mp (spells_iff.mp second)
  have firstRead := groupedDigits_iff.mpr firstSigned.2
  have secondRead := groupedDigits_iff.mpr secondSigned.2
  rw [firstRead] at secondRead
  exact ⟨firstSigned.1.symm.trans secondSigned.1, Option.some.inj secondRead⟩

theorem Spells.digits_le (spelled : Spells text negative digits) : ∀ digit ∈ digits, digit ≤ 9 :=
  (signed_iff.mp (spells_iff.mp spelled)).2.digits_le

theorem isBlank_of_blankWithin {c : Char} (blank : blankWithin text c = true) :
    isBlank c = true := by
  unfold blankWithin at blank
  split at blank
  · simp [isBlank, blank]
  · exact blank

theorem strip_blankWithin (text : List Char) :
    strip (blankWithin (strip isBlank text)) (strip isBlank text) = strip isBlank text := by
  have stays {c : Char} (seen : isBlank c = false) :
      blankWithin (strip isBlank text) c = false := by
    by_contra blank
    rw [isBlank_of_blankWithin (Bool.of_not_eq_false blank)] at seen
    cases seen
  obtain ⟨first, last⟩ := @strip_open isBlank text
  exact strip_of_open (fun c seen => stays (first c seen)) fun c seen => stays (last c seen)

/-- The reader reads the integer that the text spells, unless it has too many digits. -/
theorem readInteger_strip : readInteger (strip isBlank text) = .ok n ↔
    ∃ negative digits, Spells text negative digits ∧ digits.length ≤ digitLimit ∧
      integerOf negative digits = n := by
  simp only [readInteger, strip_blankWithin, spells_iff, signed_iff, ← groupedDigits_iff]
  cases read : groupedDigits digit? false (splitSign (strip isBlank text)).2 with
  | none => simp
  | some digits =>
    have value : signed (splitSign (strip isBlank text)).1 (valueOf digits) =
        integerOf (splitSign (strip isBlank text)).1 digits := by
      rw [valueOf, foldl_eq_ofDigits]
      rfl
    by_cases long : digitLimit < digits.length
    · simp [long]
    · simp only [if_neg long, value]
      constructor
      · intro same
        exact ⟨_, digits, ⟨rfl, rfl⟩, Nat.le_of_not_lt long, Except.ok.inj same⟩
      · rintro ⟨_, _, ⟨rfl, same⟩, _, rfl⟩
        cases same
        rfl

theorem isWritable_iff : isWritable n = true ↔ n.natAbs < 10 ^ digitLimit := by
  unfold isWritable
  generalize digitLimit = limit
  exact decide_eq_true_iff

theorem natAbs_integerOf (negative : Bool) (digits : List Nat) :
    (integerOf negative digits).natAbs = Nat.ofDigits 10 digits.reverse := by
  unfold integerOf signed
  split <;> simp

theorem Spells.isWritable (spelled : Spells text negative digits)
    (short : digits.length ≤ digitLimit) : isWritable (integerOf negative digits) = true := by
  have small : ∀ digit ∈ digits.reverse, digit < 10 := fun digit member =>
    Nat.lt_succ_of_le (spelled.digits_le digit (List.mem_reverse.mp member))
  have bound := Nat.ofDigits_lt_base_pow_length (by decide) small
  rw [isWritable_iff, natAbs_integerOf]
  calc
    _ < 10 ^ digits.reverse.length := bound
    _ ≤ 10 ^ digitLimit := Nat.pow_le_pow_right (by decide) (by simpa using short)

end

/-! The text of an integer. -/

def digitValues (text : List Char) : List Nat := text.map fun c => c.toNat - '0'.toNat

theorem asciiDigit?_of_isDigit {c : Char} (digit : c.isDigit = true) :
    asciiDigit? c = some (c.toNat - '0'.toNat) := by
  simp only [Char.isDigit, Bool.and_eq_true, decide_eq_true_eq] at digit
  exact if_pos digit

theorem grouped_of_digits {text : List Char} (any : text ≠ [])
    (all : ∀ c ∈ text, c.isDigit = true) : Grouped text (digitValues text) := by
  induction text with
  | nil => exact absurd rfl any
  | cons c rest later =>
    have first : digit? c = some (c.toNat - '0'.toNat) := by
      rw [digit?, asciiDigit?_of_isDigit (all c (by simp))]
    by_cases last : rest = []
    · rw [last]
      exact .last first
    · exact .next first (later last fun other member => all other (by simp [member]))

theorem ofDigitChars_eq (text : List Char) :
    Nat.ofDigits 10 (digitValues text).reverse = Nat.ofDigitChars 10 text 0 := by
  rw [← foldl_eq_ofDigits, digitValues, List.foldl_map]
  rfl

theorem grouped_toDigits (size : Nat) :
    Grouped (Nat.toDigits 10 size) (digitValues (Nat.toDigits 10 size)) :=
  grouped_of_digits (List.length_pos_iff.mp Nat.length_toDigits_pos)
    fun _ member => Nat.isDigit_of_mem_toDigits (by decide) (by decide) member

theorem spells_toString (n : Int) :
    Spells (toString n).toList (decide (n < 0)) (digitValues (Nat.toDigits 10 n.natAbs)) := by
  refine ⟨[], (toString n).toList, [], by simp, by simp, by simp, ?_⟩
  rw [toList_int]
  by_cases negative : n < 0
  · have size : (-n).toNat = n.natAbs := by omega
    rw [if_neg (by omega), decide_eq_true negative, size]
    exact .minus (grouped_toDigits _)
  · have size : n.toNat = n.natAbs := by omega
    rw [if_pos (by omega), decide_eq_false negative, size]
    exact .bare (grouped_toDigits _)

theorem integerOf_toDigits (n : Int) :
    integerOf (decide (n < 0)) (digitValues (Nat.toDigits 10 n.natAbs)) = n := by
  rw [integerOf, ofDigitChars_eq, Nat.ofDigitChars_ten_toDigits, signed]
  by_cases negative : n < 0
  · rw [if_pos (decide_eq_true negative)]
    omega
  · rw [if_neg (by simpa using negative)]
    omega

/-- An integer that has a text is read back from it. -/
theorem readInteger_toString {n : Int} (writable : isWritable n = true) :
    readInteger (strip isBlank (toString n).toList) = .ok n := by
  have short : (digitValues (Nat.toDigits 10 n.natAbs)).length ≤ digitLimit := by
    rw [digitValues, List.length_map, Nat.length_toDigits_le_iff (by decide) (by decide)]
    exact isWritable_iff.mp writable
  exact readInteger_strip.mpr ⟨_, _, spells_toString n, short, integerOf_toDigits n⟩

end Guildhall.Decimal
