import Dimming.Number.Decimal

/-!
Dates and times of day from seconds since the beginning of 1970, without leap seconds. The
calendar is the Gregorian one, continued in both directions; years may be nought or
negative.
-/

set_option autoImplicit false

namespace Dimming

structure DateTime where
  year : Int
  month : Nat
  day : Nat
  hour : Nat
  minute : Nat
  second : Nat
deriving DecidableEq

namespace DateTime

/-- Years are counted from March on here, so that a leap day ends its year. In each era of
400 years the pattern of days is the same. -/
def ofDays (days : Int) : Int × Nat × Nat :=
  let shifted := days + 719468
  let era := Int.fdiv shifted 146097
  let dayOfEra := (Int.fmod shifted 146097).toNat
  let yearOfEra := (dayOfEra - dayOfEra / 1460 + dayOfEra / 36524 - dayOfEra / 146096) / 365
  let dayOfYear := dayOfEra - (365 * yearOfEra + yearOfEra / 4 - yearOfEra / 100)
  let monthFromMarch := (5 * dayOfYear + 2) / 153
  let day := dayOfYear - (153 * monthFromMarch + 2) / 5 + 1
  let month := if monthFromMarch < 10 then monthFromMarch + 3 else monthFromMarch - 9
  let year := era * 400 + yearOfEra
  (if month ≤ 2 then year + 1 else year, month, day)

def ofSeconds (seconds : Int) : DateTime :=
  let (year, month, day) := ofDays (Int.fdiv seconds 86400)
  let rest := (Int.fmod seconds 86400).toNat
  ⟨year, month, day, rest / 3600, rest / 60 % 60, rest % 60⟩

def twoDigits (value : Nat) : Text := Text.padLeft 2 '0' (Text.ofNat value)

def joined (year : Text) (mark : Text) (dateTime : DateTime) : Text :=
  year ++ "-" ++ twoDigits dateTime.month ++ "-" ++ twoDigits dateTime.day ++ mark ++
    twoDigits dateTime.hour ++ ":" ++ twoDigits dateTime.minute ++ ":" ++
    twoDigits dateTime.second

/-- The year has as many digits as it needs. -/
def plainText (dateTime : DateTime) : Text := joined (Text.ofInt dateTime.year) " " dateTime

/-- The year has four digits at least; microseconds stand behind unless there are none. -/
def stampText (dateTime : DateTime) (microseconds : Nat) : Text :=
  let year := Text.padLeft 4 '0' (Text.ofInt dateTime.year)
  let fraction : Text :=
    if microseconds = 0 then [] else "." ++ Text.padLeft 6 '0' (Text.ofNat microseconds)
  joined year "T" dateTime ++ fraction ++ "+00:00"

end DateTime

structure Instant where
  seconds : Int
  microseconds : Nat
deriving DecidableEq

namespace Instant

/-- Rounds to the nearest microsecond: the fraction of the number is multiplied in
floating-point arithmetic first. What is no number or infinite is no point in time. -/
def ofDouble? (number : Double) : Option Instant := do
  let units ← number.signedUnits?
  let seconds := Int.tdiv units Double.unitsPerOne
  let fraction := Double.ofSignedUnits (units - seconds * Double.unitsPerOne)
  let rounded ← (fraction * Double.ofInt 1000000).nearest?
  if 1000000 ≤ rounded then return ⟨seconds + 1, (rounded - 1000000).toNat⟩
  else if rounded < 0 then return ⟨seconds - 1, (rounded + 1000000).toNat⟩
  else return ⟨seconds, rounded.toNat⟩

end Instant

end Dimming
