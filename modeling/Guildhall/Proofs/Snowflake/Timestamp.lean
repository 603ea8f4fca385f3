import Guildhall.Proofs.Calendar.Instant
import Guildhall.Proofs.Decimal.Rounding
import Guildhall.Proofs.Snowflake.Layout
import Guildhall.Snowflake.Timestamp

/-!
The time of an identifier, read back. The seconds are a double, whose error stays below half a
microsecond as long as the milliseconds since 1970 have 42 bits, so that rounding to microseconds
gives the milliseconds back. Times of 41 bits since the epoch are among those.
-/

namespace Guildhall.Snowflake

open Calendar

section Microseconds

variable {num : Int} {den : Nat}

theorem roundFraction_near (pos : 0 < den) :
    |(roundFraction num den : ℚ) - num / den| ≤ 1 / 2 := by
  have near := Binary64.roundHalfEven_near num.natAbs pos
  unfold roundFraction
  rcases lt_or_ge num 0 with below | above
  · obtain ⟨size, rfl⟩ := Int.exists_eq_neg_ofNat below.le
    rw [Int.natAbs_neg, Int.natAbs_natCast] at near ⊢
    rw [if_pos below, ← abs_neg]
    push_cast
    rwa [neg_sub, sub_neg_eq_add, neg_div, neg_add_eq_sub]
  · obtain ⟨size, rfl⟩ := Int.eq_ofNat_of_zero_le above
    rw [Int.natAbs_natCast] at near ⊢
    rw [if_neg (not_lt.mpr above)]
    rwa [Int.cast_natCast, Int.cast_natCast]

theorem roundFraction_eq (pos : 0 < den) {n : Int} (near : |(num : ℚ) / den - n| < 1 / 2) :
    roundFraction num den = n := by
  have apart : |(roundFraction num den : ℚ) - n| < 1 := by
    have rounded := @roundFraction_near num den pos
    calc |(roundFraction num den : ℚ) - n|
        ≤ |(roundFraction num den : ℚ) - num / den| + |(num : ℚ) / den - n| :=
          abs_sub_le _ _ _
      _ < 1 := by linarith
  have whole : |roundFraction num den - n| < 1 := by exact_mod_cast apart
  exact sub_eq_zero.mp (Int.abs_lt_one_iff.mp whole)

theorem remainder_lt (num : Int) (pos : 0 < den) :
    |((num - num.tdiv den * den : Int) : ℚ) / den| < 1 := by
  have positive : (0 : ℚ) < den := Nat.cast_pos.mpr pos
  have rest : num - num.tdiv den * den = num.tmod den := by
    have := Int.mul_tdiv_add_tmod num den
    rw [Int.mul_comm] at this
    omega
  rw [rest, abs_div, abs_of_pos positive, div_lt_one positive]
  have small : (num.tmod den).natAbs < den := by
    rw [Int.natAbs_tmod, Int.natAbs_natCast]
    exact Nat.mod_lt _ pos
  rw [← Int.cast_abs, Int.abs_eq_natAbs]
  exact_mod_cast small

theorem million_exact : Binary64.ofInt 1000000 = .finite false 8589934592000000 (-33) ∧
    Binary64.value false 8589934592000000 (-33) = 1000000 := by
  refine ⟨by decide +kernel, ?_⟩
  norm_num [Binary64.value, Binary64.sign]

/-- The microseconds of a part of a second are off by less than a thousandth. -/
theorem micros_near {rest : Int} (negative : Bool) (pos : 0 < den)
    (part : |(rest : ℚ) / den| < 1) :
    ∃ s m e, (Binary64.ofFraction negative rest den).mul (.ofInt 1000000) = .finite s m e ∧
      |Binary64.value s m e - rest / den * 1000000| ≤ 1 / 1000 := by
  obtain ⟨s, m, e, read, firstError⟩ :=
    Binary64.ofFraction_rounds negative pos (Binary64.moderate_of_le (part.le.trans (by norm_num)))
  generalize (rest : ℚ) / den = q at part firstError ⊢
  have first := firstError.trans (Binary64.slack_le part.le)
  have firstSize : |Binary64.value s m e| ≤ 2 := by
    have reached := abs_sub_abs_le_abs_sub (Binary64.value s m e) q
    norm_num at first
    linarith
  have productSize : |Binary64.value s m e * 1000000| ≤ 2000000 := by
    rw [abs_mul, abs_of_pos (by norm_num : (0 : ℚ) < 1000000)]
    linarith
  obtain ⟨million, exact⟩ := million_exact
  obtain ⟨t, n, f, multiplied, secondError⟩ :=
    @Binary64.mul_rounds s false m 8589934592000000 e (-33)
      (by rw [exact]; exact Binary64.moderate_of_le (productSize.trans (by norm_num)))
  rw [exact] at secondError
  have second := secondError.trans (Binary64.slack_le productSize)
  refine ⟨t, n, f, by rw [read, million, multiplied], ?_⟩
  have scaled : |Binary64.value s m e * 1000000 - q * 1000000| ≤ 2 / 2 ^ 53 * 1000000 := by
    rw [← sub_mul, abs_mul, abs_of_pos (by norm_num : (0 : ℚ) < 1000000)]
    linarith
  calc |Binary64.value t n f - q * 1000000|
      ≤ |Binary64.value t n f - Binary64.value s m e * 1000000| +
          |Binary64.value s m e * 1000000 - q * 1000000| := abs_sub_le _ _ _
    _ ≤ (2000000 + 1) / 2 ^ 53 + 2 / 2 ^ 53 * 1000000 := add_le_add second scaled
    _ ≤ 1 / 1000 := by norm_num

end Microseconds

/-- Of seconds that are next to a whole number of microseconds that number is left, whether or not
it reaches into another second. -/
theorem splitSeconds_total {negative : Bool} {mantissa : Nat} {exponent total : Int}
    (near : |Binary64.value negative mantissa exponent * 1000000 - total| ≤ 49 / 100) :
    let parts := splitSeconds negative mantissa exponent
    parts.1 * 1000000 + parts.2 = total ∧
      |(parts.1 : ℚ)| ≤ |Binary64.value negative mantissa exponent| + 2 := by
  have pos := Binary64.fraction_den_pos negative mantissa exponent
  have ratio := Binary64.fraction_ratio negative mantissa exponent
  unfold splitSeconds
  generalize Binary64.fraction negative mantissa exponent = parts at pos ratio ⊢
  obtain ⟨num, den⟩ := parts
  have part := remainder_lt num pos
  obtain ⟨s, m, e, product, close⟩ := micros_near negative pos part
  dsimp only at product ratio ⊢
  rw [product]
  generalize seconds : num.tdiv den = whole at part close ⊢
  have rest : ((num - whole * den : Int) : ℚ) / den =
      Binary64.value negative mantissa exponent - whole := by
    have nonzero : (den : ℚ) ≠ 0 := Nat.cast_ne_zero.mpr (Nat.ne_of_gt pos)
    rw [← ratio]
    push_cast
    field_simp
  rw [rest] at part close
  have micros : roundFraction (Binary64.fraction s m e).1 (Binary64.fraction s m e).2 =
      total - whole * 1000000 := by
    refine roundFraction_eq (Binary64.fraction_den_pos s m e) ?_
    rw [Binary64.fraction_ratio]
    push_cast
    rw [abs_le] at near close
    rw [abs_lt]
    constructor <;> linarith
  have seconds_le : |(whole : ℚ)| + 1 ≤ |Binary64.value negative mantissa exponent| + 2 := by
    have reached := abs_sub_abs_le_abs_sub (whole : ℚ) (Binary64.value negative mantissa exponent)
    rw [abs_sub_comm] at reached
    linarith
  have nearby (step : ℚ) (single : |step| ≤ 1) :
      |(whole : ℚ) + step| ≤ |Binary64.value negative mantissa exponent| + 2 := by
    have reached := abs_add_le (whole : ℚ) step
    linarith
  -- A fraction that rounds to a whole second, up or down, is carried into the seconds.
  simp only [micros]
  split
  · refine ⟨by omega, ?_⟩
    exact_mod_cast nearby 1 (by simp)
  · split
    · refine ⟨by omega, ?_⟩
      have lower := nearby (-1) (by simp)
      rw [← sub_eq_add_neg] at lower
      exact_mod_cast lower
    · refine ⟨by omega, ?_⟩
      exact (add_zero (whole : ℚ)) ▸ nearby 0 (by simp)

theorem instantOfMillis_exact {millis : Int} (short : |millis| ≤ 2 ^ 42) :
    instantOfMillis millis = .ok (millis * 1000) := by
  have bound : |(millis : ℚ) / (1000 : Nat)| ≤ 2 ^ 42 / 1000 := by
    rw [abs_div]
    have : (|millis| : ℚ) ≤ 2 ^ 42 := by exact_mod_cast short
    norm_num at this ⊢
    linarith
  obtain ⟨negative, mantissa, exponent, quotient, error⟩ :=
    Binary64.ofFraction_rounds false (by decide : 0 < 1000)
      (Binary64.moderate_of_le (bound.trans (by norm_num)))
  -- The double misses the quotient by less than half a microsecond, so the rounding that follows
  -- finds the millisecond again.
  have near : |Binary64.value negative mantissa exponent * 1000000 - (millis * 1000 : Int)| ≤
      49 / 100 := by
    have off := error.trans (Binary64.slack_le bound)
    have scaled : Binary64.value negative mantissa exponent * 1000000 - (millis * 1000 : Int) =
        (Binary64.value negative mantissa exponent - millis / (1000 : Nat)) * 1000000 := by
      push_cast
      ring
    rw [scaled, abs_mul, abs_of_pos (by norm_num : (0 : ℚ) < 1000000)]
    norm_num at off ⊢
    linarith
  have size : |Binary64.value negative mantissa exponent| ≤ 2 ^ 60 := by
    have off := error.trans (Binary64.slack_le bound)
    have reached := abs_sub_abs_le_abs_sub (Binary64.value negative mantissa exponent)
      (millis / (1000 : Nat))
    norm_num at off bound reached ⊢
    linarith
  obtain ⟨total, seconds⟩ := splitSeconds_total near
  rw [instantOfMillis, quotient]
  dsimp only
  generalize splitSeconds negative mantissa exponent = parts at total seconds ⊢
  have fits : -(Nat.pow 2 63 : Int) ≤ parts.1 ∧ parts.1 < Nat.pow 2 63 := by
    have small : |parts.1| ≤ 2 ^ 60 + 2 := by exact_mod_cast seconds.trans (add_le_add_left size 2)
    rw [abs_le] at small
    norm_num at small ⊢
    omega
  rw [if_pos fits, total]

def newYear : DateTime := ⟨⟨2025, 1, 1, 0, 0, 0, 0⟩, some 0⟩

/-- The date-time is so many milliseconds after the start of the epoch, exactly, and is given in
universal time. -/
structure Shows (time : DateTime) (millis : Int) : Prop where
  universal : time.offset = some 0
  valid : time.wall.Valid
  exact : time.instant = newYear.instant + millis * 1000
  whole : time.wall.micro % 1000 = 0

theorem extractTime_shows {id millis : Int} (held : timestamp id = millis) (low : 0 ≤ millis)
    (high : millis < 2 ^ 41) : ∃ time, extractTime id = .ok time ∧ Shows time millis := by
  have short : |millis + epochMillis| ≤ 2 ^ 42 := by
    unfold epochMillis
    rw [abs_le]
    norm_num at high ⊢
    omega
  have instant : extractInstant id = .ok ((millis + epochMillis) * 1000) := by
    rw [extractInstant, held, instantOfMillis_exact short]
  obtain ⟨wall, shown⟩ : ∃ wall, Instant.wall? ((millis + epochMillis) * 1000) = some wall := by
    refine Instant.exists_wall ?_ ?_
    · unfold epochMillis Instant
      omega
    · unfold epochMillis dayMicros Instant
      norm_num at high ⊢
      omega
  have ticks := Instant.ticks_wall? shown
  refine ⟨⟨wall, some 0⟩, by rw [extractTime, instant]; simp only [shown], rfl,
    Instant.wall?_valid shown, ?_, Instant.micro_wall? shown (by unfold Instant; omega)⟩
  have start : newYear.instant = epochMillis * 1000 := by decide
  rw [start, DateTime.instant, ticks]
  simp only [Option.getD_some, zero_mul, sub_zero]
  ring

section Issuing

variable {node : Node} {readings : List Int} {count : Nat} {id : Int}

theorem waitPast_shorter {last now : Int} {rest : List Int}
    (waited : waitPast last readings = some (now, rest)) : rest.length < readings.length := by
  obtain ⟨stale, rfl, -, -⟩ := waitPast_some waited
  simp only [List.length_append, List.length_cons]
  omega

theorem advance_shorter {g next : Generator} {rest : List Int}
    (advanced : g.advance readings = some (next, rest)) : rest.length < readings.length := by
  cases readings with
  | nil => cases advanced
  | cons reading others =>
      rw [Generator.advance, List.length_cons] at *
      split at advanced
      · cases advanced
        exact Nat.lt_succ_self _
      · split at advanced
        · cases advanced
          exact Nat.lt_succ_self _
        · obtain ⟨⟨now, left⟩, waited, same⟩ := Option.map_eq_some_iff.mp advanced
          cases same
          exact Nat.lt_succ_of_lt (waitPast_shorter waited)

theorem after_shorter (count : Nat) {g reached : Generator} {rest : List Int}
    (done : g.after count readings = some (reached, rest)) :
    rest.length + count ≤ readings.length := by
  induction count generalizing g readings with
  | zero =>
      cases done
      exact Nat.le_refl _
  | succ count ih =>
      rw [Generator.after] at done
      cases step : g.advance readings with
      | none =>
          rw [step] at done
          cases done
      | some pair =>
          rw [step] at done
          have later := ih done
          have first := advance_shorter step
          omega

theorem greatest_mem {times : List Int} (nonempty : times ≠ [])
    (positive : ∀ time ∈ times, 0 ≤ time) :
    times.foldl max (-1) ∈ times ∧ ∀ time ∈ times, time ≤ times.foldl max (-1) := by
  obtain ⟨greatest, found⟩ := Option.isSome_iff_exists.mp (List.isSome_max?_of_ne_nil nonempty)
  obtain ⟨member, above⟩ := List.max?_eq_some_iff.mp found
  have late : -1 ≤ greatest := by
    have := positive greatest member
    omega
  rw [List.foldl_max, found, Option.getD_some, max_eq_right late]
  exact ⟨member, above⟩

variable (bounded : ∀ reading ∈ readings, 0 ≤ reading ∧ reading < 2 ^ 41)

include bounded

theorem issued_holds {k : Nat}
    (issued : ((Generator.fresh node).issue count readings)[k]? = some id) :
    ∃ g rest consumed, (Generator.fresh node).after (k + 1) readings = some (g, rest) ∧
      readings = consumed ++ rest ∧ timestamp id ∈ consumed ∧
      ∀ reading ∈ consumed, reading ≤ timestamp id := by
  obtain ⟨g, rest, consumed, done, split, parts⟩ := issued_parts issued
  have nonempty : consumed ≠ [] := by
    rintro rfl
    have shorter := after_shorter (k + 1) done
    rw [split, List.nil_append] at shorter
    omega
  have positive : ∀ reading ∈ consumed, 0 ≤ reading := fun reading taken =>
    (bounded reading (split ▸ List.mem_append_left rest taken)).1
  obtain ⟨member, above⟩ := greatest_mem nonempty positive
  rw [parts.time]
  exact ⟨g, rest, consumed, done, split, member, above⟩

theorem issued_shows (member : id ∈ (Generator.fresh node).issue count readings) :
    ∃ time, extractTime id = .ok time ∧ Shows time (timestamp id) := by
  obtain ⟨k, issued⟩ := List.mem_iff_getElem?.mp member
  obtain ⟨g, rest, consumed, -, split, taken, -⟩ := issued_holds bounded issued
  obtain ⟨low, high⟩ := bounded _ (split ▸ List.mem_append_left rest taken)
  exact extractTime_shows rfl low high

theorem issued_onward : ((Generator.fresh node).issue count readings).Pairwise
    fun earlier later => ∃ first second, extractTime earlier = .ok first ∧
      extractTime later = .ok second ∧ first.instant ≤ second.instant := by
  have small : (Generator.fresh node).sequence < sequenceCount := sequenceCount_pos
  refine (issue_above count readings small).2.imp_of_mem ?_
  intro earlier later here there grows
  obtain ⟨first, firstRead, firstShows⟩ := issued_shows bounded here
  obtain ⟨second, secondRead, secondShows⟩ := issued_shows bounded there
  have onward : timestamp earlier ≤ timestamp later := by
    rw [timestamp, timestamp, Int.shiftRight_eq_div_pow, Int.shiftRight_eq_div_pow]
    exact Int.ediv_le_ediv (by decide) grows.le
  refine ⟨first, second, firstRead, secondRead, ?_⟩
  rw [firstShows.exact, secondShows.exact]
  unfold Instant at *
  omega

end Issuing

theorem timestamp_lor (millis : Int) {bits : Nat} (small : bits < 2 ^ 22) :
    timestamp ((millis <<< timestampShift).lor bits) = millis := by
  have shift : timestampShift = 22 := rfl
  rw [timestamp, shift, Int.shiftLeft_eq, lor_shifted millis small, Int.shiftRight_eq_div_pow]
  norm_num at small ⊢
  omega

/-- The time of an identifier is read back to the microsecond, as long as it has 41 bits, whatever
the bits below it. So identifiers show the greatest of the times that were read up to their call,
and show later times the later they are issued. -/
theorem time_kept :
    (∀ millis bits : Nat, millis < 2 ^ 41 → bits < 2 ^ 22 →
      ∃ time, extractTime (((millis : Int) <<< timestampShift).lor bits) = .ok time ∧
        Shows time millis) ∧
    ∀ (node : Node) (readings : List Int) (count : Nat),
      (∀ reading ∈ readings, 0 ≤ reading ∧ reading < 2 ^ 41) →
      let ids := (Generator.fresh node).issue count readings
      (∀ (k : Nat) id, ids[k]? = some id → ∃ g rest consumed reading time,
        (Generator.fresh node).after (k + 1) readings = some (g, rest) ∧
        readings = consumed ++ rest ∧ reading ∈ consumed ∧
        (∀ other ∈ consumed, other ≤ reading) ∧
        extractTime id = .ok time ∧ Shows time reading) ∧
      ids.Pairwise fun earlier later => ∃ first second, extractTime earlier = .ok first ∧
        extractTime later = .ok second ∧ first.instant ≤ second.instant := by
  refine ⟨?_, fun node readings count bounded => ⟨?_, issued_onward bounded⟩⟩
  · intro millis bits short small
    exact extractTime_shows (timestamp_lor millis small) (Int.natCast_nonneg millis)
      (by exact_mod_cast short)
  · intro k id issued
    obtain ⟨g, rest, consumed, done, split, taken, above⟩ := issued_holds bounded issued
    obtain ⟨time, read, shows⟩ := issued_shows bounded (List.mem_of_getElem? issued)
    exact ⟨g, rest, consumed, timestamp id, time, done, split, taken, above, read, shows⟩

theorem time_kept_over_jumps :
    let readings : List Int := [5, 3, 5, 2199023255551, 0]
    let node : Node := ⟨⟨3, by decide⟩, ⟨17, by decide⟩⟩
    let ids := (Generator.fresh node).issue 5 readings
    (2199023255551 < 2 ^ 41 ∧ 4194303 < 2 ^ 22) ∧
    (∃ time, extractTime (((2199023255551 : Nat) : Int) <<< timestampShift |>.lor
      (4194303 : Nat)) = .ok time ∧ Shows time (2199023255551 : Nat)) ∧
    (∀ reading ∈ readings, 0 ≤ reading ∧ reading < 2 ^ 41) ∧
    ids = [21434368, 21434369, 21434370, 9223372036851044352, 9223372036851044353] ∧
    (∃ time, extractTime 21434370 = .ok time ∧ Shows time 5) ∧
    ids.Pairwise fun earlier later => ∃ first second, extractTime earlier = .ok first ∧
      extractTime later = .ok second ∧ first.instant ≤ second.instant := by
  intro readings node ids
  obtain ⟨kept, runs⟩ := time_kept
  have bounded : ∀ reading ∈ readings, 0 ≤ reading ∧ reading < 2 ^ 41 := by decide
  obtain ⟨times, onward⟩ := runs node readings 5 bounded
  obtain ⟨g, rest, consumed, reading, time, done, split, taken, above, read, shows⟩ :=
    times 2 21434370 (by decide)
  have reached : (Generator.fresh node).after 3 readings =
      some (⟨node, 2, 5⟩, [2199023255551, 0]) := by decide
  cases done.symm.trans reached
  obtain rfl : consumed = [5, 3, 5] :=
    List.append_cancel_right (split.symm.trans (show readings = [5, 3, 5] ++ _ from rfl))
  obtain rfl : reading = 5 := by
    have greatest := above 5 (by decide)
    simp only [List.mem_cons, List.not_mem_nil, or_false] at taken
    omega
  exact ⟨by decide, kept _ _ (by decide) (by decide), bounded, by decide, ⟨time, read, shows⟩,
    onward⟩

/-- A time of 44 bits is read back a microsecond early. -/
example : (extractTime ((8796093022369 : Int) <<< timestampShift)).toOption =
    some ⟨⟨2303, 9, 28, 15, 10, 22, 368999⟩, some 0⟩ := by decide +kernel

end Guildhall.Snowflake
