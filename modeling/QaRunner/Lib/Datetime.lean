import Mathlib.Data.Int.Notation
import Mathlib.Data.Nat.Notation

/-! Calendar instants in microseconds, their order on the UTC clock, and ISO 8601 text. -/

/-- Microseconds since `0001-01-01T00:00:00` on the value's own clock, and the offset of that
clock from UTC, absent for a naive value. -/
structure Datetime where
  micros : ℕ
  utcoffset : Option ℤ := some 0
  deriving DecidableEq, Repr

namespace Datetime

/-- Aware, with offset zero. -/
def IsUtc (d : Datetime) : Prop := d.utcoffset = some 0

instance (d : Datetime) : Decidable d.IsUtc := inferInstanceAs (Decidable (_ = _))

/-- The order of two values on one clock. -/
instance : LE Datetime := ⟨fun a b => a.micros ≤ b.micros⟩

instance : LT Datetime := ⟨fun a b => a.micros < b.micros⟩

instance (a b : Datetime) : Decidable (a ≤ b) := inferInstanceAs (Decidable (a.micros ≤ b.micros))

instance (a b : Datetime) : Decidable (a < b) := inferInstanceAs (Decidable (a.micros < b.micros))

theorem lt_def {a b : Datetime} : a < b ↔ a.micros < b.micros := Iff.rfl

/-- The first of two values unless the second is earlier. -/
def earlier (a b : Datetime) : Datetime := if b < a then b else a

/-- The first of two values unless the second is later. -/
def later (a b : Datetime) : Datetime := if a < b then b else a

/-- The last representable instant, `9999-12-31T23:59:59.999999`. -/
def lastMicros : ℕ := 315537897599999999

/-- A value moved by a duration in microseconds, unless that leaves the calendar. -/
def plus (d : Datetime) (delta : ℤ) : Option Datetime :=
  if 0 ≤ d.micros + delta ∧ d.micros + delta ≤ lastMicros then
    some { d with micros := (d.micros + delta).toNat }
  else none

theorem plus_eq_some {d e : Datetime} {delta : ℤ} : d.plus delta = some e ↔
    (e.micros : ℤ) = d.micros + delta ∧ e.micros ≤ lastMicros ∧ e.utcoffset = d.utcoffset := by
  unfold plus
  constructor
  · intro h
    split at h
    · next hrange =>
      cases h
      exact ⟨Int.toNat_of_nonneg hrange.1, Int.toNat_le.mpr hrange.2, rfl⟩
    · cases h
  · rintro ⟨hmicros, hlast, hoffset⟩
    rw [← hmicros, if_pos (by omega), Int.toNat_natCast, ← hoffset]

theorem earlier_le_left (a b : Datetime) : earlier a b ≤ a := by
  unfold earlier
  split
  · next h => exact Nat.le_of_lt h
  · exact Nat.le_refl _

theorem earlier_le_right (a b : Datetime) : earlier a b ≤ b := by
  unfold earlier
  split
  · exact Nat.le_refl _
  · next h => exact Nat.le_of_not_lt h

/-- A number in decimal, padded with zeros to a width. -/
def padded (width n : ℕ) : List Char :=
  let digits := (toString n).toList
  List.replicate (width - digits.length) '0' ++ digits

/-- Year, month and day of a day number counted from 0001-01-01 in the Gregorian calendar. -/
def civil (days : ℕ) : ℕ × ℕ × ℕ :=
  let z := days + 306
  let era := z / 146097
  let dayOfEra := z % 146097
  let yearOfEra := (dayOfEra - dayOfEra / 1460 + dayOfEra / 36524 - dayOfEra / 146096) / 365
  let dayOfYear := dayOfEra - (365 * yearOfEra + yearOfEra / 4 - yearOfEra / 100)
  let shifted := (5 * dayOfYear + 2) / 153
  let day := dayOfYear - (153 * shifted + 2) / 5 + 1
  let month := if shifted < 10 then shifted + 3 else shifted - 9
  (yearOfEra + era * 400 + (if month ≤ 2 then 1 else 0), month, day)

/-- `isoformat()` of a UTC value with `+00:00` written as `Z`; microseconds only when present. -/
def isoformat (d : Datetime) : String :=
  let seconds := d.micros / 1000000
  let fraction := d.micros % 1000000
  let (year, month, day) := civil (seconds / 86400)
  let second := seconds % 86400
  String.ofList <|
    padded 4 year ++ '-' :: padded 2 month ++ '-' :: padded 2 day ++ 'T' ::
      padded 2 (second / 3600) ++ ':' :: padded 2 (second / 60 % 60) ++ ':' ::
      padded 2 (second % 60) ++ (if fraction = 0 then [] else '.' :: padded 6 fraction) ++ ['Z']

/-- `isoformat()` of a UTC value as Python writes it. -/
def isoformatUtc (d : Datetime) : String :=
  String.ofList (d.isoformat.toList.dropLast ++ "+00:00".toList)

example : isoformat ⟨63082281599000007, some 0⟩ = "1999-12-31T23:59:59.000007Z" := by decide

end Datetime
