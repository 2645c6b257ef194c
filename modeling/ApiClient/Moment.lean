/-!
Calendar dates and time stamps.

A date is one of the Gregorian calendar in the years 1 to 9999. A time stamp adds a time of day, to
the millionth of a second, and may name its distance from universal time. Two time stamps that name
it are the same when they stand for the same instant.
-/

set_option autoImplicit false

namespace ApiClient

/-- A date: year, month and day. -/
structure Date where
  year : Nat
  month : Nat
  day : Nat
deriving DecidableEq, Repr, Inhabited

/-- A time of day. -/
structure Clock where
  hour : Nat
  minute : Nat
  second : Nat
  micro : Nat
deriving DecidableEq, Repr, Inhabited

/-- A date, or a time stamp that may be some minutes ahead of universal time. -/
inductive Moment
  | date (date : Date)
  | stamp (date : Date) (clock : Clock) (ahead : Option Int)
deriving DecidableEq, Repr, Inhabited

namespace Date

/-- Whether a year has a leap day. -/
def isLeap (year : Nat) : Bool := year % 4 == 0 && (year % 100 != 0 || year % 400 == 0)

/-- The lengths of the months of a year. -/
def monthLengths (year : Nat) : List Nat :=
  [31, if isLeap year then 29 else 28, 31, 30, 31, 30, 31, 31, 30, 31, 30, 31]

/-- Whether a date is in the calendar. -/
def isValid (d : Date) : Bool :=
  1 ≤ d.year && d.year ≤ 9999 && 1 ≤ d.month && 1 ≤ d.day
    && ((monthLengths d.year)[d.month - 1]?).any fun length => decide (d.day ≤ length)

/-- The number of a day, counted from the first of January of the year 1 on. -/
def ordinal (d : Date) : Nat :=
  let before := d.year - 1
  before * 365 + before / 4 - before / 100 + before / 400
    + ((monthLengths d.year).take (d.month - 1)).foldl (· + ·) 0 + d.day

end Date

namespace Clock

/-- Whether a time is one of a day. -/
def isValid (c : Clock) : Bool :=
  decide (c.hour < 24) && decide (c.minute < 60) && decide (c.second < 60)

/-- The time since midnight in millionths of a second. -/
def micros (c : Clock) : Nat :=
  ((c.hour * 60 + c.minute) * 60 + c.second) * 1000000 + c.micro

end Clock

namespace Moment

/-- Whether a moment exists: its date and time do, and it is less than a day ahead or behind. -/
def isValid : Moment → Bool
  | date d => d.isValid
  | stamp d c ahead => d.isValid && c.isValid && ahead.all fun minutes => minutes.natAbs < 1440

/-- The instant of a time stamp that is some minutes ahead of universal time. -/
def instant (d : Date) (c : Clock) (minutes : Int) : Int :=
  (d.ordinal * 86400 * 1000000 + c.micros : Nat) - minutes * 60 * 1000000

/-- Whether two moments are the same. -/
def isSame : Moment → Moment → Bool
  | date d, date e => d == e
  | stamp d c none, stamp e k none => d == e && c == k
  | stamp d c (some m), stamp e k (some n) => instant d c m == instant e k n
  | _, _ => false

/-- Numbers between parentheses after a name, with what may follow the last one. -/
private def call (name : String) (numbers : List Nat) (rest : String) : String :=
  name ++ "(" ++ String.intercalate ", " (numbers.map toString) ++ rest ++ ")"

/-- The distance from universal time. -/
private def zoneText (minutes : Int) : String :=
  if minutes = 0 then "datetime.timezone.utc"
  else
    let days := if minutes < 0 then "days=-1, " else ""
    let seconds := (if minutes < 0 then minutes + 1440 else minutes) * 60
    "datetime.timezone(datetime.timedelta(" ++ days ++ "seconds=" ++ toString seconds ++ "))"

/-- The text of a moment; of its time, seconds and their parts may be left out at the end. -/
def display : Moment → String
  | date d => call "datetime.date" [d.year, d.month, d.day] ""
  | stamp d c ahead =>
    let time :=
      if c.micro ≠ 0 then [c.hour, c.minute, c.second, c.micro]
      else if c.second ≠ 0 then [c.hour, c.minute, c.second]
      else [c.hour, c.minute]
    let zone := match ahead with
      | none => ""
      | some minutes => ", tzinfo=" ++ zoneText minutes
    call "datetime.datetime" ([d.year, d.month, d.day] ++ time) zone

end Moment

end ApiClient
