import Guildhall.Proofs.Calendar.Day
import Guildhall.Proofs.Decimal.Numeral
import Guildhall.Calendar.Reader
import Guildhall.Calendar.Stamp

/-!
Wherever a date-time comes from, it is one: its day is in the calendar, its clock shows a time of
day, and its offset is shorter than a day.
-/

namespace Guildhall.Calendar

structure DateTime.Valid (t : DateTime) : Prop where
  wall : t.wall.Valid
  offset : ∀ offset ∈ t.offset, offset.natAbs < 24 * 60

structure Clock.Valid (clock : Clock) : Prop where
  hour : clock.hour ≤ 23
  minute : clock.minute ≤ 59
  second : clock.second ≤ 59
  micro : clock.micro ≤ 999999

theorem midnight_valid : Clock.Valid ⟨0, 0, 0, 0⟩ := by
  constructor <;> decide

theorem WallTime.valid_of_parts {day : Day} {clock : Clock} (dated : day.Valid)
    (timed : clock.Valid) (low : (leastYear : Int) ≤ day.year) (high : day.year ≤ greatestYear) :
    WallTime.Valid ⟨day.year.toNat, day.month, day.day, clock.hour, clock.minute, clock.second,
      clock.micro⟩ where
  year := by
    unfold leastYear greatestYear at *
    simp only
    omega
  month := dated.month
  day := by
    have same : ((day.year.toNat : Nat) : Int) = day.year := by
      unfold leastYear at low
      omega
    rw [same]
    exact dated.day
  hour := timed.hour
  minute := timed.minute
  second := timed.second
  micro := timed.micro

theorem Instant.wall?_valid {i : Instant} {wall : WallTime} (shown : Instant.wall? i = some wall) :
    wall.Valid := by
  have short : (i - i.fdiv dayMicros * dayMicros).toNat < 86400000000 := by
    rw [Int.fdiv_eq_ediv_of_nonneg _ (by decide)]
    unfold dayMicros Instant at *
    omega
  simp only [Instant.wall?, Option.ite_none_right_eq_some, Option.some.injEq] at shown
  obtain ⟨years, rfl⟩ := shown
  generalize (i - i.fdiv dayMicros * dayMicros).toNat = micros at *
  have timed : Clock.Valid ⟨micros / 3600000000, micros / 60000000 % 60, micros / 1000000 % 60,
      micros % 1000000⟩ := by
    constructor <;> simp only <;> omega
  exact WallTime.valid_of_parts (Day.ofNumber_valid _) timed years.1 years.2

theorem ofStamp_valid {count : Int} {micros : Nat} {t : DateTime}
    (shown : ofStamp count micros = some t) : t.Valid := by
  obtain ⟨wall, found, rfl⟩ := Option.map_eq_some_iff.mp shown
  exact ⟨Instant.wall?_valid found, by simp⟩

theorem ofRealStamp_valid {x : Binary64} {t : DateTime} (shown : ofRealStamp x = some t) :
    t.Valid := by
  obtain ⟨count, -, counted⟩ := Option.bind_eq_some_iff.mp shown
  exact ofStamp_valid counted

theorem readDate_valid {text rest : List Char} {day : Day}
    (read : readDate text = some (day, rest)) : day.Valid := by
  simp only [readDate, Option.bind_eq_bind, Option.bind_eq_some_iff] at read
  obtain ⟨⟨year, _⟩, -, _, -, ⟨month, _⟩, -, _, -, ⟨dayOfMonth, _⟩, -, checked⟩ := read
  simp only [Option.ite_none_right_eq_some, Option.some.injEq, Prod.mk.injEq] at checked
  obtain ⟨⟨first, last, low, high⟩, rfl, -⟩ := checked
  exact ⟨⟨first, last⟩, low, high⟩

theorem asciiDigit_le {c : Char} {digit : Nat} (read : Text.asciiDigit? c = some digit) :
    digit ≤ 9 :=
  Decimal.digit_le (by rw [Text.digit?, read])

theorem digitRun_le {text : List Char} : ∀ digit ∈ (digitRun text).1, digit ≤ 9 := by
  induction text with
  | nil => simp [digitRun]
  | cons c rest later =>
    unfold digitRun
    cases read : Text.asciiDigit? c with
    | none => simp
    | some value => simpa using ⟨asciiDigit_le read, later⟩

theorem millionth_lt {digits : List Nat} (small : ∀ digit ∈ digits, digit ≤ 9) :
    millionth digits < 1000000 := by
  have smallKept : ∀ digit ∈ (digits.take 6).reverse, digit < 10 := fun digit member =>
    Nat.lt_succ_of_le (small digit (List.mem_of_mem_take (List.mem_reverse.mp member)))
  have short : (digits.take 6).length ≤ 6 := by simp
  have value := Nat.ofDigits_lt_base_pow_length (by decide) smallKept
  rw [← Decimal.foldl_eq_ofDigits, List.length_reverse] at value
  unfold millionth
  generalize digits.take 6 = kept at *
  calc
    _ < 10 ^ kept.length * Nat.pow 10 (6 - kept.length) :=
      Nat.mul_lt_mul_of_pos_right value (Nat.pow_pos (by decide))
    _ = 10 ^ (kept.length + (6 - kept.length)) := by
      rw [Nat.pow_add]
      rfl
    _ = 10 ^ 6 := by rw [Nat.add_sub_of_le short]

theorem readFraction_lt {text rest : List Char} {micro : Nat}
    (read : readFraction text = some (micro, rest)) : micro < 1000000 := by
  unfold readFraction at read
  split at read
  · cases read
    decide
  · split at read
    · simp only [Option.ite_none_left_eq_some, Option.some.injEq, Prod.mk.injEq] at read
      obtain ⟨-, rfl, -⟩ := read
      exact millionth_lt digitRun_le
    · cases read
      decide

theorem readSeconds_valid {text rest : List Char} {second micro : Nat}
    (read : readSeconds text = some (second, micro, rest)) : second ≤ 59 ∧ micro ≤ 999999 := by
  unfold readSeconds at read
  split at read
  · simp only [Option.bind_eq_bind, Option.bind_eq_some_iff] at read
    obtain ⟨⟨shown, _⟩, -, ⟨fraction, _⟩, read, checked⟩ := read
    simp only [Option.ite_none_right_eq_some, Option.some.injEq, Prod.mk.injEq] at checked
    obtain ⟨small, rfl, rfl, -⟩ := checked
    exact ⟨small, Nat.le_of_lt_succ (readFraction_lt read)⟩
  · cases read
    decide

theorem readClock_valid {text rest : List Char} {clock : Clock}
    (read : readClock text = some (clock, rest)) : clock.Valid := by
  simp only [readClock, Option.bind_eq_bind, Option.bind_eq_some_iff] at read
  obtain ⟨⟨hour, _⟩, -, _, -, ⟨minute, _⟩, -, ⟨second, micro, _⟩, read, checked⟩ := read
  simp only [Option.ite_none_right_eq_some, Option.some.injEq, Prod.mk.injEq] at checked
  obtain ⟨⟨hours, minutes⟩, rfl, -⟩ := checked
  obtain ⟨seconds, micros⟩ := readSeconds_valid read
  exact ⟨hours, minutes, seconds, micros⟩

theorem readOffset_small {text : List Char} {shown : Option Int}
    (read : readOffset text = some shown) : ∀ offset ∈ shown, offset.natAbs < 24 * 60 := by
  unfold readOffset at read
  split at read
  · cases read
    simp
  · split at read
    · simp only [Option.ite_none_right_eq_some, Option.some.injEq] at read
      obtain ⟨-, rfl⟩ := read
      simp
    · simp only [Option.bind_eq_bind, Option.bind_eq_some_iff] at read
      obtain ⟨sign, signed, ⟨hours, _⟩, -, ⟨minutes, _⟩, -, checked⟩ := read
      simp only [Option.ite_none_right_eq_some, Option.some.injEq] at checked
      obtain ⟨⟨-, minutes_le, hours_le⟩, rfl⟩ := checked
      have unit : sign = 1 ∨ sign = -1 := by
        unfold offsetSign? at signed
        split at signed
        · exact .inl (Option.some.inj signed).symm
        · exact .inr (Option.some.inj (Option.ite_none_right_eq_some.mp signed).2).symm
      cases unit with
      | inl plus => simp [plus]; omega
      | inr minus => simp [minus]; omega

theorem Reading.dateTime?_valid {r : Reading} {t : DateTime} (dated : r.day.Valid)
    (timed : r.clock.Valid) (shifted : ∀ offset ∈ r.offset, offset.natAbs < 24 * 60)
    (shown : r.dateTime? = some t) : t.Valid := by
  simp only [Reading.dateTime?, Option.ite_none_right_eq_some, Option.some.injEq] at shown
  obtain ⟨⟨low, high⟩, rfl⟩ := shown
  exact ⟨WallTime.valid_of_parts dated timed low high, shifted⟩

theorem readDateTime_valid {text : List Char} {r : Reading} {t : DateTime}
    (read : readDateTime text = some r) (shown : r.dateTime? = some t) : t.Valid := by
  simp only [readDateTime, Option.bind_eq_bind, Option.bind_eq_some_iff] at read
  obtain ⟨⟨day, rest⟩, dated, read⟩ := read
  cases rest with
  | nil => cases read
  | cons separator rest =>
    simp only [Option.ite_none_right_eq_some, Option.bind_eq_some_iff, Option.some.injEq] at read
    obtain ⟨-, ⟨clock, _⟩, timed, offset, shifted, rfl⟩ := read
    exact Reading.dateTime?_valid (readDate_valid dated) (readClock_valid timed)
      (readOffset_small shifted) shown

theorem readDateAlone_valid {text : List Char} {r : Reading} {t : DateTime}
    (read : readDateAlone text = some r) (shown : r.dateTime? = some t) : t.Valid := by
  simp only [readDateAlone, Option.bind_eq_bind, Option.bind_eq_some_iff] at read
  obtain ⟨⟨day, rest⟩, dated, checked⟩ := read
  simp only [Option.ite_none_right_eq_some, Option.some.injEq] at checked
  obtain ⟨-, rfl⟩ := checked
  exact Reading.dateTime?_valid (readDate_valid dated) midnight_valid (by simp) shown

end Guildhall.Calendar
