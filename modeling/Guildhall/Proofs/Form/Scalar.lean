import Guildhall.Form.Scalar
import Guildhall.Entity.Serialized
import Guildhall.Proofs.Calendar.Written
import Mathlib.Data.Rat.Cast.Order
import Mathlib.Tactic.Ring

/-!
Single values of a form: which integer a value stands for as an identifier, that an identifier and
a time are read back from what is written of them, and that every time read is one.
-/

namespace Guildhall.Form

open Calendar

/-! ## Identifiers -/

/-- The integer that a JSON value stands for. -/
inductive Denotes : Json → Int → Prop
  | flag (value : Bool) : Denotes (.flag value) (if value then 1 else 0)
  | whole (n : Int) : Denotes (.whole n) n
  | real {negative : Bool} {mantissa : Nat} {exponent n : Int} :
    (n : ℚ) = (if negative then -1 else 1) * mantissa * 2 ^ exponent →
      Denotes (.real (.finite negative mantissa exponent)) n
  | text {value : String} {negative : Bool} {digits : List Nat} :
    Decimal.Spells value.toList negative digits →
      Denotes (.text value) (Decimal.integerOf negative digits)

theorem Denotes.unique {value : Json} {m n : Int} (first : Denotes value m)
    (second : Denotes value n) : m = n := by
  cases first with
  | flag => cases second; rfl
  | whole => cases second; rfl
  | real first =>
    cases second with
    | real second => exact_mod_cast first.trans second.symm
  | text first =>
    cases second with
    | text second =>
      obtain ⟨rfl, rfl⟩ := first.unique second
      rfl

theorem fraction_value (negative : Bool) (mantissa : Nat) (exponent : Int) :
    (Binary64.fraction negative mantissa exponent).2 ≠ 0 ∧
      ((Binary64.fraction negative mantissa exponent).1 : ℚ) =
        (if negative then -1 else 1) * mantissa * 2 ^ exponent *
          (Binary64.fraction negative mantissa exponent).2 := by
  by_cases up : 0 ≤ exponent
  · obtain ⟨power, rfl⟩ := Int.eq_ofNat_of_zero_le up
    cases negative <;> simp [Binary64.fraction]
  · obtain ⟨power, rfl⟩ : ∃ power : Nat, exponent = -power := ⟨exponent.natAbs, by omega⟩
    simp only [Binary64.fraction, if_neg up]
    cases negative <;> simp

theorem whole?_value {negative : Bool} {mantissa : Nat} {exponent n : Int}
    (whole : Binary64.whole? (.finite negative mantissa exponent) = some n) :
    (n : ℚ) = (if negative then -1 else 1) * mantissa * 2 ^ exponent := by
  obtain ⟨nonzero, value⟩ := fraction_value negative mantissa exponent
  simp only [Binary64.whole?] at whole
  split at whole
  · rename_i divides
    have product := Int.mul_ediv_cancel' (Int.dvd_of_emod_eq_zero divides)
    rw [Option.some.inj whole] at product
    have scaled : (n : ℚ) * (Binary64.fraction negative mantissa exponent).2 =
        (Binary64.fraction negative mantissa exponent).1 := by
      rw [← product]
      push_cast
      ring
    exact mul_right_cancel₀ (by exact_mod_cast nonzero) (scaled.trans value)
  · cases whole

theorem integerOfReal_ok {x : Binary64} {n : Int} (read : integerOfReal x = .valid n) :
    x.whole? = some n ∧ n.natAbs < 2 ^ 63 := by
  cases x with
  | nan | infinite => cases read
  | finite negative mantissa exponent =>
    simp only [integerOfReal] at read
    split at read
    · cases read
    · rename_i whole
      split at read
      · cases read
        exact ⟨whole, ‹_›⟩
      · cases read

theorem identifier_text {value : String} {n : Int} : identifier (.text value) = .valid n ↔
    ∃ negative digits, Decimal.Spells value.toList negative digits ∧
      digits.length ≤ Decimal.digitLimit ∧ Decimal.integerOf negative digits = n := by
  rw [← Decimal.readInteger_strip]
  simp only [identifier]
  split <;> simp_all [Checked.fault]

theorem identifier_denotes {value : Json} {n : Int} (read : identifier value = .valid n) :
    Denotes value n := by
  cases value with
  | null | list | object => cases read
  | flag value =>
    cases read
    exact .flag value
  | whole =>
    cases read
    exact .whole n
  | real x =>
    obtain ⟨whole, -⟩ := integerOfReal_ok read
    cases x with
    | nan | infinite => cases whole
    | finite => exact .real (whole?_value whole)
  | text =>
    obtain ⟨_, _, spelled, -, rfl⟩ := identifier_text.mp read
    exact .text spelled

theorem isWritable_of_small {n : Int} (small : n.natAbs < 2 ^ 63) :
    Decimal.isWritable n = true := by
  rw [Decimal.isWritable_iff]
  calc
    n.natAbs < 2 ^ 63 := small
    _ ≤ 10 ^ 63 := Nat.pow_le_pow_left (by decide) _
    _ ≤ 10 ^ Decimal.digitLimit := Nat.pow_le_pow_right (by decide) (by decide)

/-- Only a whole number can be too large for a text of its own. -/
theorem identifier_writable {value : Json} {n : Int} (read : identifier value = .valid n)
    (sized : ∀ m, value = .whole m → Decimal.isWritable m = true) :
    Decimal.isWritable n = true := by
  cases value with
  | null | list | object => cases read
  | flag value =>
    cases read
    apply isWritable_of_small
    cases value <;> decide
  | whole =>
    cases read
    exact sized n rfl
  | real x => exact isWritable_of_small (integerOfReal_ok read).2
  | text =>
    obtain ⟨_, _, spelled, short, rfl⟩ := identifier_text.mp read
    exact spelled.isWritable short

theorem identifier_ofId {n : Int} :
    identifier (.ofId n) = .valid n ↔ Decimal.isWritable n = true := by
  constructor
  · intro read
    obtain ⟨_, _, spelled, short, same⟩ := identifier_text.mp read
    rw [← same]
    exact spelled.isWritable short
  · intro writable
    simp only [Json.ofId, identifier, Decimal.readInteger_toString writable]

/-! ## Times -/

theorem orUnreadable_ok {found : Option DateTime} {t : DateTime} :
    orUnreadable found = .valid t ↔ found = some t := by
  cases found <;> simp [orUnreadable, Checked.fault]

theorem timeOfText_valid {value : String} {t : DateTime} (read : timeOfText value = .valid t) :
    t.Valid := by
  unfold timeOfText at read
  split at read
  · exact readDateTime_valid ‹_› (orUnreadable_ok.mp read)
  · split at read
    · rename_i time found
      cases read
      obtain ⟨stamp, -, shown⟩ := Option.bind_eq_some_iff.mp found
      cases stamp with
      | whole n => exact ofStamp_valid shown
      | real x =>
        obtain ⟨_, -, counted⟩ := Option.bind_eq_some_iff.mp shown
        exact ofStamp_valid counted
    · split at read
      · exact readDateAlone_valid ‹_› (orUnreadable_ok.mp read)
      · cases read

theorem time_valid {source : Source} {value : Json} {t : DateTime}
    (read : time source value = .valid t) : t.Valid := by
  cases value with
  | null | flag | list | object => cases read
  | whole n =>
    simp only [time] at read
    split at read
    · exact ofStamp_valid (orUnreadable_ok.mp read)
    · cases read
  | real x => exact ofRealStamp_valid (orUnreadable_ok.mp read)
  | text value => exact timeOfText_valid read

theorem time_ofTime {t : DateTime} (valid : t.Valid) (source : Source) :
    time source (.ofTime t) = .valid t := by
  simp only [Json.ofTime, time, timeOfText, DateTime.text, String.toList_ofList,
    DateTime.readDateTime_chars valid, DateTime.dateTime?_reading valid]
  rfl

end Guildhall.Form
