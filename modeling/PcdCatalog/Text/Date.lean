/-!
# Dates

The date and time of a moment that is given in seconds since the beginning of
1970. Years are counted in eras of 400 years, which all have the same number
of days, and begin in March, so that the day that a leap year adds is the last
one of its year.
-/

namespace PcdCatalog.Text

/-- The days of an era of 400 years. -/
def eraDays : Nat := 146097

/-- The days from the beginning of the first era to the beginning of 1970. -/
def epochDays : Nat := 719468

/-- Year, month and day of a number of days since the beginning of 1970. -/
def civil (days : Nat) : Nat × Nat × Nat :=
  let z := days + epochDays
  let era := z / eraDays
  let day := z % eraDays
  let year := (day - day / 1460 + day / 36524 - day / 146096) / 365
  let rest := day - (365 * year + year / 4 - year / 100)
  let month := (5 * rest + 2) / 153
  let dayOfMonth := rest - (153 * month + 2) / 5 + 1
  let shown := if month < 10 then month + 3 else month - 9
  (year + 400 * era + (if shown ≤ 2 then 1 else 0), shown, dayOfMonth)

/-- A number with zeros up to a width. -/
def zeroPadded (width n : Nat) : String :=
  let digits := toString n
  String.ofList (List.replicate (width - digits.length) '0') ++ digits

/-- Year, month, day, hour and minute of a moment, as they are written. -/
def dateParts (seconds : Nat) : List String :=
  let (year, month, day) := civil (seconds / 86400)
  [zeroPadded 4 year, zeroPadded 2 month, zeroPadded 2 day,
    zeroPadded 2 (seconds / 3600 % 24), zeroPadded 2 (seconds / 60 % 60)]

end PcdCatalog.Text
