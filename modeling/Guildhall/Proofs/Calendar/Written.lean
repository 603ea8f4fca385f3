import Guildhall.Proofs.Calendar.Valid

/-!
A date-time that is written out is read back as it was, with its fraction and its offset.
-/

namespace Guildhall.Calendar

open Decimal

section Digits

theorem readDigits_append {digits : List Char} (all : ∀ c ∈ digits, c.isDigit = true) (total : Nat)
    (rest : List Char) : readDigits digits.length total (digits ++ rest) =
      some (Nat.ofDigitChars 10 digits total, rest) := by
  induction digits generalizing total with
  | nil => rfl
  | cons c digits later =>
    have first := asciiDigit?_of_isDigit (all c (by simp))
    rw [List.length_cons, List.cons_append, readDigits, first]
    exact later (fun other member => all other (by simp [member])) _

theorem isDigit_of_mem_fixed {width n : Nat} {c : Char} (member : c ∈ fixed width n) :
    c.isDigit = true := by
  simp only [fixed, List.mem_append, List.mem_replicate] at member
  cases member with
  | inl zero => rw [zero.2]; rfl
  | inr digit => exact Nat.isDigit_of_mem_toDigits (by decide) (by decide) digit

theorem length_fixed {width n : Nat} (pos : 0 < width) (small : n < 10 ^ width) :
    (fixed width n).length = width := by
  have short := (Nat.length_toDigits_le_iff (by decide) pos).mpr small
  simp only [fixed, List.length_append, List.length_replicate]
  omega

theorem ofDigitChars_zeros (count : Nat) :
    Nat.ofDigitChars 10 (List.replicate count '0') 0 = 0 := by
  induction count with
  | zero => rfl
  | succ count later => rwa [List.replicate_succ, Nat.ofDigitChars_cons]

theorem ofDigitChars_fixed (width n : Nat) : Nat.ofDigitChars 10 (fixed width n) 0 = n := by
  simp only [fixed, Nat.ofDigitChars_append, ofDigitChars_zeros, Nat.ofDigitChars_ten_toDigits]

theorem readDigits_fixed {width n : Nat} (pos : 0 < width) (small : n < 10 ^ width)
    (rest : List Char) : readDigits width 0 (fixed width n ++ rest) = some (n, rest) := by
  have read := @readDigits_append (fixed width n) (fun _ => isDigit_of_mem_fixed) 0 rest
  rwa [length_fixed pos small, ofDigitChars_fixed] at read

end Digits

theorem readDate_dateText {w : WallTime} (valid : w.Valid) (rest : List Char) :
    readDate (dateText w ++ rest) = some (⟨w.year, w.month, w.day⟩, rest) := by
  have year := valid.year
  have month := valid.month
  have day := valid.day
  have length : monthLength w.year w.month ≤ 31 := by
    unfold monthLength
    repeat' split
    all_goals decide
  unfold leastYear greatestYear at year
  simp only [readDate, dateText, List.append_assoc, List.cons_append]
  rw [readDigits_fixed (by decide) (by omega)]
  simp only [Option.bind_eq_bind, Option.bind_some, expect, if_true]
  rw [readDigits_fixed (by decide) (by omega)]
  simp only [Option.bind_some, if_true]
  rw [readDigits_fixed (by decide) (by omega)]
  exact if_pos ⟨month.1, month.2, day.1, day.2⟩

/-- What may follow the digits of a second or of a fraction: none of them goes on. -/
def Closed (rest : List Char) : Prop :=
  ∀ c ∈ rest.head?, Text.asciiDigit? c = none ∧ c ≠ '.' ∧ c ≠ ','

theorem digitRun_append {digits rest : List Char} (all : ∀ c ∈ digits, c.isDigit = true)
    (closed : Closed rest) : digitRun (digits ++ rest) = (digitValues digits, rest) := by
  induction digits with
  | nil =>
    cases rest with
    | nil => rfl
    | cons c rest =>
      have stop := (closed c rfl).1
      simp [digitRun, stop, digitValues]
  | cons c digits later =>
    have first := asciiDigit?_of_isDigit (all c (by simp))
    have rest := later fun other member => all other (by simp [member])
    simp [digitRun, first, rest, digitValues]

theorem millionth_fixed {micro : Nat} (small : micro < 1000000) :
    millionth (digitValues (fixed 6 micro)) = micro := by
  have length : (digitValues (fixed 6 micro)).length = 6 := by
    rw [digitValues, List.length_map, length_fixed (by decide) small]
  have value : (digitValues (fixed 6 micro)).foldl (fun total digit => 10 * total + digit) 0 =
      micro := by
    rw [digitValues, List.foldl_map]
    exact ofDigitChars_fixed 6 micro
  rw [millionth, List.take_of_length_le (by omega), value, length]
  exact Nat.mul_one micro

theorem readFraction_fractionText {w : WallTime} (valid : w.Valid) {rest : List Char}
    (closed : Closed rest) : readFraction (fractionText w ++ rest) = some (w.micro, rest) := by
  unfold fractionText
  by_cases none : w.micro = 0
  · rw [if_pos none, none, List.nil_append]
    cases rest with
    | nil => rfl
    | cons c rest =>
      obtain ⟨-, point, comma⟩ := closed c rfl
      simp [readFraction, point, comma]
  · have small : w.micro < 1000000 := Nat.lt_succ_of_le valid.micro
    have length : (digitValues (fixed 6 w.micro)).length = 6 := by
      rw [digitValues, List.length_map, length_fixed (by decide) small]
    have shown : (digitValues (fixed 6 w.micro)).isEmpty = false := by
      cases values : digitValues (fixed 6 w.micro) with
      | nil => simp [values] at length
      | cons _ _ => rfl
    rw [if_neg none, List.cons_append, readFraction, if_pos (.inl rfl),
      digitRun_append (fun _ => isDigit_of_mem_fixed) closed]
    simp only [shown, millionth_fixed small]
    rfl

theorem readClock_clockText {w : WallTime} (valid : w.Valid) {rest : List Char}
    (closed : Closed rest) : readClock (clockText w ++ (fractionText w ++ rest)) =
      some (⟨w.hour, w.minute, w.second, w.micro⟩, rest) := by
  have hour := valid.hour
  have minute := valid.minute
  have second := valid.second
  simp only [readClock, clockText, List.append_assoc, List.cons_append]
  rw [readDigits_fixed (by decide) (by omega)]
  simp only [Option.bind_eq_bind, Option.bind_some, expect, if_true]
  rw [readDigits_fixed (by decide) (by omega)]
  simp only [Option.bind_some, readSeconds]
  rw [readDigits_fixed (by decide) (by omega)]
  simp only [Option.bind_eq_bind, Option.bind_some, readFraction_fractionText valid closed,
    if_pos second]
  exact if_pos ⟨hour, minute⟩

def offsetTail : Option Int → List Char
  | none => []
  | some offset => if offset = 0 then ['Z'] else offsetText offset

theorem closed_offsetTail (offset : Option Int) : Closed (offsetTail offset) := by
  intro c first
  cases offset with
  | none => cases first
  | some offset =>
    simp only [offsetTail, offsetText] at first
    by_cases zero : offset = 0
    · rw [if_pos zero] at first
      cases first
      decide
    · rw [if_neg zero] at first
      cases first
      split <;> decide

theorem readOffset_signed {c : Char} {sign : Int} (signed : offsetSign? c = some sign)
    (other : ¬(c = 'Z' ∨ c = 'z')) {size : Nat} (small : size < 24 * 60) :
    readOffset (c :: fixed 2 (size / 60) ++ ':' :: fixed 2 (size % 60)) =
      some (some (sign * size)) := by
  have minutes := readDigits_fixed (by decide : 0 < 2) (by omega : size % 60 < 10 ^ 2) []
  rw [List.append_nil] at minutes
  rw [List.cons_append, readOffset, if_neg other, signed]
  simp only [Option.bind_eq_bind, Option.bind_some]
  rw [readDigits_fixed (by decide) (by omega)]
  simp only [Option.bind_some, minutes]
  have whole : ((size / 60 : Nat) : Int) * 60 + ((size % 60 : Nat) : Int) = size := by omega
  rw [if_pos ⟨rfl, by omega, by omega⟩, whole]

theorem readOffset_offsetTail {offset : Option Int}
    (small : ∀ minutes ∈ offset, minutes.natAbs < 24 * 60) :
    readOffset (offsetTail offset) = some offset := by
  cases offset with
  | none => rfl
  | some offset =>
    have bound := small offset rfl
    simp only [offsetTail]
    by_cases zero : offset = 0
    · rw [if_pos zero, zero]
      rfl
    · rw [if_neg zero, offsetText]
      by_cases west : offset < 0
      · rw [if_pos west, readOffset_signed rfl (by decide) bound]
        congr 2
        omega
      · rw [if_neg west, readOffset_signed rfl (by decide) bound]
        congr 2
        omega

def DateTime.reading (t : DateTime) : Reading :=
  ⟨⟨t.wall.year, t.wall.month, t.wall.day⟩,
    ⟨t.wall.hour, t.wall.minute, t.wall.second, t.wall.micro⟩, t.offset⟩

theorem DateTime.dateTime?_reading {t : DateTime} (valid : t.Valid) :
    t.reading.dateTime? = some t := by
  have year := valid.wall.year
  unfold DateTime.reading Reading.dateTime?
  rw [if_pos (by simp only; omega)]
  rfl

theorem DateTime.readDateTime_chars {t : DateTime} (valid : t.Valid) :
    readDateTime t.chars = some t.reading := by
  have chars : t.chars = dateText t.wall ++ 'T' :: (clockText t.wall ++
      (fractionText t.wall ++ offsetTail t.offset)) := by
    unfold DateTime.chars WallTime.isoText offsetTail
    cases t.offset <;> simp [List.append_assoc]
  simp only [chars, readDateTime, readDate_dateText valid.wall, Option.bind_eq_bind,
    Option.bind_some, readClock_clockText valid.wall (closed_offsetTail _),
    readOffset_offsetTail valid.offset]
  rfl

end Guildhall.Calendar
