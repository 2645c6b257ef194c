import ApiClient.Data
import ApiClient.Json.Reader

/-!
Dates and time stamps as YAML writes them.

A date alone has two digits for its month and for its day; before a time, one digit is enough. The
time follows a `T` or blanks, and may have a fraction and a zone.
-/

set_option autoImplicit false

namespace ApiClient.Yaml

open Json (digitsValue)

/-- A number of exactly so many digits. -/
def exactly? (length : Nat) (cs : List Char) : Option (Nat × List Char) :=
  let digits := cs.take length
  if digits.length = length ∧ digits.all Char.isDigit then
    some (digitsValue digits, cs.drop length)
  else none

/-- A number of one or two digits. -/
def oneOrTwo? (cs : List Char) : Option (Nat × List Char) :=
  (exactly? 2 cs).or (exactly? 1 cs)

/-- Drop a given character. -/
def dropChar? (c : Char) : List Char → Option (List Char)
  | d :: cs => if d = c then some cs else none
  | [] => none

/-- Drop blanks. -/
def dropBlanks (cs : List Char) : List Char := cs.dropWhile fun c => c == ' ' || c == '\t'

/-- A distance from universal time after its sign, in minutes. -/
def distance? (cs : List Char) : Option Nat := do
  let (hours, rest) ← oneOrTwo? cs
  match rest with
  | [] => return hours * 60
  | ':' :: rest =>
    let (minutes, rest) ← exactly? 2 rest
    if rest = [] then return hours * 60 + minutes else none
  | _ => none

/-- What ends a time: nothing, or a zone after blanks. -/
def zone? (cs : List Char) : Option (Option Int) :=
  if cs = [] then some none
  else
    match dropBlanks cs with
    | ['Z'] => some (some 0)
    | '+' :: rest => (distance? rest).map fun minutes => some (minutes : Int)
    | '-' :: rest => (distance? rest).map fun minutes => some (-(minutes : Int))
    | _ => none

/-- The millionths in the digits of a fraction, as far as they go. -/
def microsOf (digits : List Char) : Nat :=
  digitsValue ((digits ++ List.replicate 6 '0').take 6)

/-- The time of day and the zone after a date, with what stands before them. -/
def time? (cs : List Char) : Option (Clock × Option Int) := do
  let rest ← match cs with
    | 'T' :: rest | 't' :: rest => some rest
    | _ => if (dropBlanks cs).length < cs.length then some (dropBlanks cs) else none
  let (hour, rest) ← oneOrTwo? rest
  let (minute, rest) ← (dropChar? ':' rest).bind (exactly? 2)
  let (second, rest) ← (dropChar? ':' rest).bind (exactly? 2)
  let (fraction, rest) := match rest with
    | '.' :: rest => (rest.takeWhile Char.isDigit, rest.dropWhile Char.isDigit)
    | _ => ([], rest)
  return (⟨hour, minute, second, microsOf fraction⟩, ← zone? rest)

/-- A year, and a month and a day in one digit or two. -/
def day? (cs : List Char) : Option (Date × List Char) := do
  let (year, rest) ← exactly? 4 cs
  let (month, rest) ← (dropChar? '-' rest).bind oneOrTwo?
  let (day, rest) ← (dropChar? '-' rest).bind oneOrTwo?
  return (⟨year, month, day⟩, rest)

/-- A date, with a time or without. -/
def stamp? (cs : List Char) : Option Moment := do
  let (date, rest) ← day? cs
  if rest = [] then return .date date
  let (clock, ahead) ← time? rest
  return .stamp date clock ahead

/-- The spelling of a date or a time stamp. A date alone is written in full length. -/
def isStamp (cs : List Char) : Bool :=
  match stamp? cs with
  | some (.date _) => cs.length == 10
  | some (.stamp _ _ _) => true
  | none => false

end ApiClient.Yaml
