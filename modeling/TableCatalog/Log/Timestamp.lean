/-!
# The time of a log line

A moment is counted in seconds and nanoseconds from the first of January 1970. A log line tells it
in universal time, as a date of the Gregorian calendar and a time of day with microseconds.

The date is found in years that begin on the first of March, so that a leap day is the last of its
year: 146097 days make four hundred years, and within a year the months are 31 and 30 days long in
a pattern that repeats every five months, which is 153 days.
-/

set_option autoImplicit false

namespace TableCatalog.Log

/-- A moment, counted from the first of January 1970. -/
structure Moment where
  seconds : Int
  nanoseconds : Nat
deriving DecidableEq

structure Date where
  year : Int
  month : Nat
  day : Nat
deriving DecidableEq

/-- The date of a day, counted from the first of January 1970. -/
def Date.ofDay (day : Int) : Date :=
  let fromMarch := day + 719468
  let era := fromMarch / 146097
  let inEra := (fromMarch % 146097).toNat
  let yearInEra := (inEra - inEra / 1460 + inEra / 36524 - inEra / 146096) / 365
  let inYear := inEra - (365 * yearInEra + yearInEra / 4 - yearInEra / 100)
  let month := (5 * inYear + 2) / 153
  let year := era * 400 + yearInEra
  { year := if month < 10 then year else year + 1
    month := if month < 10 then month + 3 else month - 9
    day := inYear - (153 * month + 2) / 5 + 1 }

example : Date.ofDay (-1) = ⟨1969, 12, 31⟩ ∧ Date.ofDay 11016 = ⟨2000, 2, 29⟩ := by decide

/-- A number in at least so many digits. -/
def digits (places n : Nat) : String :=
  let text := toString n
  String.ofList (List.replicate (places - text.length) '0') ++ text

def Moment.text (m : Moment) : String :=
  let date := Date.ofDay (m.seconds / 86400)
  let second := (m.seconds % 86400).toNat
  digits 4 date.year.toNat ++ "-" ++ digits 2 date.month ++ "-" ++ digits 2 date.day ++ "T" ++
    digits 2 (second / 3600) ++ ":" ++ digits 2 (second / 60 % 60) ++ ":" ++
    digits 2 (second % 60) ++ "." ++ digits 6 (m.nanoseconds / 1000) ++ "Z"

end TableCatalog.Log
