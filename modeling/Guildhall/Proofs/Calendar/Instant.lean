import Guildhall.Proofs.Calendar.Valid

/-!
An instant that is shown as a wall time is read back from it: the number of a day belongs to that
day alone.
-/

namespace Guildhall.Calendar

theorem number_marchDay (year : Int) {dayInYear : Int} (low : 0 ≤ dayInYear)
    (high : dayInYear ≤ 365) : (marchDay year dayInYear).number =
      year.fdiv 400 * cycleDays + (year - year.fdiv 400 * 400) * 365 +
        (year - year.fdiv 400 * 400) / 4 - (year - year.fdiv 400 * 400) / 100 + dayInYear -
        epochShift := by
  obtain ⟨month, numbered⟩ : ∃ month : Nat, (5 * dayInYear + 2) / 153 = month :=
    Int.eq_ofNat_of_zero_le (by omega)
  have within : 0 ≤ dayInYear - (153 * (month : Int) + 2) / 5 := by omega
  simp only [marchDay, numbered]
  by_cases spring : (month : Int) < 10
  · have shown : ((month : Int) + 3).toNat = month + 3 := by omega
    have late : ¬month + 3 ≤ 2 := by omega
    simp only [if_pos spring, Day.number, shown, if_neg late]
    omega
  · have shown : ((month : Int) - 9).toNat = month - 9 := by omega
    have early : month - 9 ≤ 2 := by omega
    simp only [if_neg spring, Day.number, shown, if_pos early, Int.add_sub_cancel]
    omega

theorem Day.number_ofNumber (number : Int) : (Day.ofNumber number).number = number := by
  obtain ⟨cycle, century, span, year, day, placed, same⟩ := Day.ofNumber_placed number
  obtain ⟨sum, centuries, spans, years, days, -⟩ := placed
  have cycles : (100 * century + 4 * span + year + cycle * 400).fdiv 400 = cycle := by
    rw [Int.fdiv_eq_ediv_of_nonneg _ (by decide)]
    omega
  rw [same, number_marchDay _ days.1 days.2, cycles]
  unfold cycleDays at *
  omega

/-- From 1970 on, the days of more than seven thousand years have a year of four digits. -/
theorem Day.year_ofNumber {number : Int} (low : 0 ≤ number) (high : number < 2700000) :
    (leastYear : Int) ≤ (Day.ofNumber number).year ∧
      (Day.ofNumber number).year ≤ greatestYear := by
  obtain ⟨cycle, century, span, year, day, placed, same⟩ := Day.ofNumber_placed number
  obtain ⟨sum, centuries, spans, years, days, -⟩ := placed
  have within : 4 ≤ cycle ∧ cycle ≤ 23 := by
    unfold cycleDays epochShift at *
    omega
  rw [same, marchDay]
  unfold leastYear greatestYear
  split <;> simp only <;> omega

section

variable {i : Instant} {wall : WallTime}

theorem Instant.ticks_wall? (shown : Instant.wall? i = some wall) : wall.ticks = i := by
  simp only [Instant.wall?, Option.ite_none_right_eq_some, Option.some.injEq] at shown
  obtain ⟨years, rfl⟩ := shown
  have positive : ((Day.ofNumber (i.fdiv dayMicros)).year.toNat : Int) =
      (Day.ofNumber (i.fdiv dayMicros)).year := by
    unfold leastYear at years
    omega
  have day := Day.number_ofNumber (i.fdiv dayMicros)
  have within : 0 ≤ i - i.fdiv dayMicros * dayMicros := by
    rw [Int.fdiv_eq_ediv_of_nonneg _ (by decide)]
    unfold dayMicros Instant at *
    omega
  simp only [WallTime.ticks, positive, day]
  generalize i.fdiv dayMicros * dayMicros = days at *
  unfold Instant at *
  omega

theorem Instant.micro_wall? (shown : Instant.wall? i = some wall) (whole : i % 1000 = 0) :
    wall.micro % 1000 = 0 := by
  have ticks := Instant.ticks_wall? shown
  unfold WallTime.ticks dayMicros Instant at *
  omega

theorem Instant.exists_wall (low : 0 ≤ i) (high : i < 2700000 * dayMicros) :
    ∃ wall, Instant.wall? i = some wall := by
  have day : 0 ≤ i.fdiv dayMicros ∧ i.fdiv dayMicros < 2700000 := by
    rw [Int.fdiv_eq_ediv_of_nonneg _ (by decide)]
    unfold dayMicros Instant at *
    omega
  exact ⟨_, if_pos (Day.year_ofNumber day.1 day.2)⟩

end

end Guildhall.Calendar
