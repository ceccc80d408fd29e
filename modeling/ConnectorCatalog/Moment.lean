/-!
# Moments

A second of universal time by date and time of day, as signatures and uploads state it.
-/

namespace ConnectorCatalog

/-- A second of universal time. -/
structure Moment where
  year : Nat
  month : Nat
  day : Nat
  hour : Nat
  minute : Nat
  second : Nat
deriving DecidableEq, Repr, Inhabited

namespace Moment

/-- A number with at least `width` digits. -/
def digits (width n : Nat) : String :=
  let text := toString n
  String.ofList (List.replicate (width - text.length) '0') ++ text

/-- The date without separators. -/
def dateStamp (m : Moment) : String := digits 4 m.year ++ digits 2 m.month ++ digits 2 m.day

/-- The date and the time of day without separators. -/
def stamp (m : Moment) : String :=
  m.dateStamp ++ "T" ++ digits 2 m.hour ++ digits 2 m.minute ++ digits 2 m.second ++ "Z"

/-- The number of days before a year in the calendar of leap years. -/
def daysBeforeYear (year : Nat) : Nat :=
  let y := year - 1
  365 * y + y / 4 - y / 100 + y / 400

/-- Whether a year has a leap day. -/
def isLeapYear (year : Nat) : Bool := year % 4 == 0 && (year % 100 != 0 || year % 400 == 0)

/-- The lengths of the months of a year. -/
def monthLengths (year : Nat) : List Nat :=
  [31, if isLeapYear year then 29 else 28, 31, 30, 31, 30, 31, 31, 30, 31, 30, 31]

/-- The number of seconds since the start of the year 1970. -/
def unixSeconds (m : Moment) : Nat :=
  let days := daysBeforeYear m.year + ((monthLengths m.year).take (m.month - 1)).foldl (· + ·) 0 + m.day - 1 -
    daysBeforeYear 1970
  ((days * 24 + m.hour) * 60 + m.minute) * 60 + m.second

end Moment

end ConnectorCatalog
