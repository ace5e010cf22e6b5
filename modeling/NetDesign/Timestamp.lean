set_option autoImplicit false

namespace NetDesign.Timestamp

/-- A number in decimal with at least `width` digits. -/
def padded (width n : Nat) : String :=
  let digits := n.repr
  .ofList (List.replicate (width - digits.length) '0') ++ digits

/-- Year, month and day of a number of days since the start of 1970. Years are counted from March,
so that a leap day is the last day of its year. -/
def date (days : Nat) : Nat × Nat × Nat :=
  let shifted := days + 719468
  let era := shifted / 146097
  let day := shifted % 146097
  let year := (day - day / 1460 + day / 36524 - day / 146096) / 365
  let dayOfYear := day - (365 * year + year / 4 - year / 100)
  let month := (5 * dayOfYear + 2) / 153
  let dayOfMonth := dayOfYear - (153 * month + 2) / 5 + 1
  if month < 10 then (era * 400 + year, month + 3, dayOfMonth)
  else (era * 400 + year + 1, month - 9, dayOfMonth)

/-- The timestamp of a moment, given in seconds and microseconds since the start of 1970. -/
def text (seconds micros : Nat) : String :=
  let (year, month, day) := date (seconds / 86400)
  let time := seconds % 86400
  padded 4 year ++ padded 2 month ++ padded 2 day ++ "_"
    ++ padded 2 (time / 3600) ++ padded 2 (time / 60 % 60) ++ padded 2 (time % 60) ++ "_"
    ++ padded 6 micros

end NetDesign.Timestamp
