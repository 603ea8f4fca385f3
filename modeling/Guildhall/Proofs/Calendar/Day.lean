import Guildhall.Calendar.DateTime
import Mathlib.Tactic.IntervalCases

/-!
The day of a number is a day of the calendar: its month has it. The years of a cycle fall into four
centuries, the centuries into spans of four years, and a leap day is the last day of its span.
-/

namespace Guildhall.Calendar

/-- Where a day of the cycle lies: so many whole centuries, spans and years come before it, and so
many days of its own year. -/
structure Placed (dayInCycle century span year day : Int) : Prop where
  sum : dayInCycle = 36524 * century + 1461 * span + 365 * year + day
  centuries : 0 ≤ century ∧ century ≤ 3
  spans : 0 ≤ span ∧ span ≤ 24
  years : 0 ≤ year ∧ year ≤ 3
  days : 0 ≤ day ∧ day ≤ 365
  /-- Only the last year of a span has a leap day, and not in the last span of a century, unless
  that century is the last one. -/
  leap : day = 365 → year = 3 ∧ (span ≤ 23 ∨ century = 3)

theorem exists_placed {dayInCycle : Int} (low : 0 ≤ dayInCycle) (high : dayInCycle < cycleDays) :
    ∃ century span year day, Placed dayInCycle century span year day := by
  unfold cycleDays at high
  by_cases last : dayInCycle = 146096
  · exact ⟨3, 24, 3, 365, by constructor <;> omega⟩
  · by_cases leap : dayInCycle % 36524 % 1461 = 1460
    · exact ⟨dayInCycle / 36524, dayInCycle % 36524 / 1461, 3, 365, by constructor <;> omega⟩
    · exact ⟨dayInCycle / 36524, dayInCycle % 36524 / 1461, dayInCycle % 36524 % 1461 / 365,
        dayInCycle % 36524 % 1461 % 365, by constructor <;> omega⟩

section

variable {dayInCycle century span year day : Int}

theorem Placed.yearInCycle (placed : Placed dayInCycle century span year day) :
    (dayInCycle - dayInCycle / 1460 + dayInCycle / 36524 - dayInCycle / 146096) / 365 =
      100 * century + 4 * span + year := by
  obtain ⟨sum, _, _, _, _, leap⟩ := placed
  by_cases last : dayInCycle = 146096
  · omega
  · have centuries : dayInCycle / 36524 = century := by omega
    have cycles : dayInCycle / 146096 = 0 := by omega
    rw [centuries, cycles]
    by_cases extra : day = 365
    · omega
    · -- The spans are counted a day short, so that the count may run ahead by one.
      have spans : dayInCycle / 1460 = 25 * century + span ∨
          dayInCycle / 1460 = 25 * century + span + 1 := by omega
      cases spans with
      | inl exact =>
        rw [exact]
        have total : dayInCycle - (25 * century + span) + century - 0 =
            365 * (100 * century + 4 * span + year) + day := by omega
        omega
      | inr ahead =>
        rw [ahead]
        have total : dayInCycle - (25 * century + span + 1) + century - 0 =
            365 * (100 * century + 4 * span + year) + (day - 1) := by omega
        omega

theorem Placed.dayInYear (placed : Placed dayInCycle century span year day) :
    dayInCycle - (365 * (100 * century + 4 * span + year) +
      (100 * century + 4 * span + year) / 4 - (100 * century + 4 * span + year) / 100) = day := by
  obtain ⟨sum, _, _, _, _, _⟩ := placed
  have spans : (100 * century + 4 * span + year) / 4 = 25 * century + span := by omega
  have centuries : (100 * century + 4 * span + year) / 100 = century := by omega
  rw [spans, centuries]
  omega

theorem Placed.isLeap_next (placed : Placed dayInCycle century span year day) (extra : day = 365)
    (cycle : Int) : isLeap (100 * century + 4 * span + year + cycle * 400 + 1) = true := by
  obtain ⟨_, _, _, _, _, leap⟩ := placed
  have last := leap extra
  simp only [isLeap, Bool.and_eq_true, Bool.or_eq_true, decide_eq_true_eq]
  omega

end

def marchDay (year dayInYear : Int) : Day :=
  let month := (5 * dayInYear + 2) / 153
  let day := dayInYear - (153 * month + 2) / 5 + 1
  if month < 10 then ⟨year, (month + 3).toNat, day.toNat⟩
  else ⟨year + 1, (month - 9).toNat, day.toNat⟩

structure Day.Valid (d : Day) : Prop where
  month : 1 ≤ d.month ∧ d.month ≤ 12
  day : 1 ≤ d.day ∧ d.day ≤ monthLength d.year d.month

/-- The months from March to January, counted from 0, are as long as the formula has it. -/
theorem monthLength_shifted (year : Int) {month : Nat} (early : month ≤ 10) :
    (monthLength year (if month < 10 then month + 3 else month - 9) : Int) =
      (153 * (month + 1 : Int) + 2) / 5 - (153 * (month : Int) + 2) / 5 := by
  interval_cases month <;> rfl

theorem marchDay_valid {year dayInYear : Int} (low : 0 ≤ dayInYear) (high : dayInYear ≤ 365)
    (leap : dayInYear = 365 → isLeap (year + 1) = true) : (marchDay year dayInYear).Valid := by
  obtain ⟨month, numbered⟩ : ∃ month : Nat, (5 * dayInYear + 2) / 153 = month :=
    Int.eq_ofNat_of_zero_le (by omega)
  simp only [marchDay, numbered]
  by_cases february : month = 11
  · have length : dayInYear - (153 * 11 + 2) / 5 + 1 ≤ monthLength (year + 1) 2 := by
      by_cases extra : dayInYear = 365
      · simp [monthLength, leap extra, extra]
      · rw [monthLength, if_pos rfl]
        split <;> omega
    subst february
    rw [if_neg (by decide)]
    have shown : (((11 : Nat) : Int) - 9).toNat = 2 := rfl
    constructor <;> simp only [shown] <;> omega
  · have early : month ≤ 10 := by omega
    by_cases spring : month < 10
    · have length := monthLength_shifted year early
      rw [if_pos spring] at length
      rw [if_pos (by omega)]
      have shown : ((month : Int) + 3).toNat = month + 3 := by omega
      constructor <;> simp only [shown] <;> omega
    · have length := monthLength_shifted (year + 1) early
      rw [if_neg spring] at length
      rw [if_neg (by omega)]
      have shown : ((month : Int) - 9).toNat = month - 9 := by omega
      constructor <;> simp only [shown] <;> omega

/-- The number is taken apart into a cycle and a day of it, and the day into a year and a day. -/
theorem Day.ofNumber_placed (number : Int) : ∃ cycle century span year day,
    Placed (number + epochShift - cycle * cycleDays) century span year day ∧
      Day.ofNumber number = marchDay (100 * century + 4 * span + year + cycle * 400) day := by
  let cycle := (number + epochShift).fdiv cycleDays
  have bounds : 0 ≤ number + epochShift - cycle * cycleDays ∧
      number + epochShift - cycle * cycleDays < cycleDays := by
    have cycled : cycle = (number + epochShift) / cycleDays :=
      Int.fdiv_eq_ediv_of_nonneg _ (by decide)
    unfold cycleDays at *
    omega
  obtain ⟨century, span, year, day, placed⟩ := exists_placed bounds.1 bounds.2
  refine ⟨cycle, century, span, year, day, placed, ?_⟩
  simp only [Day.ofNumber, marchDay, cycle, placed.yearInCycle, placed.dayInYear]

theorem Day.ofNumber_valid (number : Int) : (Day.ofNumber number).Valid := by
  obtain ⟨cycle, century, span, year, day, placed, same⟩ := Day.ofNumber_placed number
  rw [same]
  exact marchDay_valid placed.days.1 placed.days.2 fun extra => placed.isLeap_next extra cycle

end Guildhall.Calendar
