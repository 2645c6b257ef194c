import ApiClient.Data
import ApiClient.Text.Units

/-!
Reading JSON.

The grammar is that of RFC 8259 with the three further numbers `NaN`, `Infinity` and `-Infinity`.
A number is a floating-point number when it is written with a point or an exponent, and an
integer otherwise. An integer of too many digits is a fault of its own; of several faults the
first one in the text counts.
-/

set_option autoImplicit false

namespace ApiClient.Json

open Text

/-- The white space of JSON. -/
def isGap (c : Char) : Bool := c == ' ' || c == '\t' || c == '\n' || c == '\r'

/-- Drop white space. -/
def skipGap (cs : List Char) : List Char := cs.dropWhile isGap

/-- The value of a hexadecimal digit. -/
def hexValue? (c : Char) : Option Nat :=
  let n := c.toNat
  if 0x30 ≤ n && n ≤ 0x39 then some (n - 0x30)
  else if 0x41 ≤ n && n ≤ 0x46 then some (n - 0x41 + 10)
  else if 0x61 ≤ n && n ≤ 0x66 then some (n - 0x61 + 10)
  else none

/-- The character that stands for itself or a control character after a backslash. -/
def escaped? (c : Char) : Option Char :=
  if c == '\x22' || c == '\\' || c == '/' then some c
  else if c == 'b' then some '\x08'
  else if c == 'f' then some '\x0c'
  else if c == 'n' then some '\n'
  else if c == 'r' then some '\r'
  else if c == 't' then some '\t'
  else none

/-- The code units up to the closing quote, and what follows it. -/
def stringUnits : List Char → Option (List Nat × List Char)
  | [] => none
  | '\\' :: 'u' :: a :: b :: c :: d :: rest => do
    let a ← hexValue? a
    let b ← hexValue? b
    let c ← hexValue? c
    let d ← hexValue? d
    let (us, after) ← stringUnits rest
    return ((((a * 16 + b) * 16 + c) * 16 + d) :: us, after)
  | '\\' :: c :: rest => do
    let e ← escaped? c
    let (us, after) ← stringUnits rest
    return (e.toNat :: us, after)
  | c :: rest =>
    if c == '\x22' then some ([], rest)
    else if c == '\\' || c.toNat < 0x20 then none
    else do
      let (us, after) ← stringUnits rest
      return (units c ++ us, after)

/-- A string after its opening quote. -/
def string? (cs : List Char) : Option (String × List Char) :=
  (stringUnits cs).map fun (us, after) => (String.ofList (ofUnits us), after)

/-- The digits at the start of a text. -/
def digits (cs : List Char) : List Char × List Char :=
  (cs.takeWhile Char.isDigit, cs.dropWhile Char.isDigit)

/-- The number that decimal digits stand for. -/
def digitsValue (ds : List Char) : Nat := ds.foldl (fun n d => n * 10 + (d.toNat - 0x30)) 0

/-- The digits after a point; a point without digits ends the number before it. -/
def fraction (cs : List Char) : List Char × List Char :=
  match cs with
  | '.' :: rest =>
    match digits rest with
    | ([], _) => ([], cs)
    | (ds, after) => (ds, after)
  | _ => ([], cs)

/-- An exponent, if one is written in full. -/
def exponent (cs : List Char) : Option Int × List Char :=
  match cs with
  | c :: rest =>
    if c == 'e' || c == 'E' then
      let (negative, rest) := match rest with
        | '-' :: after => (true, after)
        | '+' :: after => (false, after)
        | _ => (false, rest)
      match digits rest with
      | ([], _) => (none, cs)
      | (ds, after) =>
        let n : Int := digitsValue ds
        (some (if negative then -n else n), after)
    else (none, cs)
  | [] => (none, cs)

/-- A number after its sign. -/
def unsigned (negative : Bool) (cs : List Char) : Except ReadFault (Scalar × List Char) :=
  let (whole, rest) := match cs with
    | '0' :: rest => (['0'], rest)
    | _ => digits cs
  if whole.isEmpty then .error .malformed
  else
    let (places, rest) := fraction rest
    let (power, rest) := exponent rest
    if places.isEmpty && power.isNone then
      if maxDigits < whole.length then .error (.unfit .longInteger)
      else
        let n : Int := digitsValue whole
        .ok (.int (if negative then -n else n), rest)
    else
      let mantissa := digitsValue (whole ++ places)
      .ok (.float (Double.ofDecimal negative mantissa (power.getD 0 - places.length)), rest)

/-- The rest of a text after a word it starts with. -/
def after? (word : String) (cs : List Char) : Option (List Char) :=
  if word.toList.isPrefixOf cs then some (cs.drop word.toList.length) else none

/-- The words of JSON with their values. -/
def words : List (String × Scalar) :=
  [("null", .null), ("true", .bool true), ("false", .bool false),
    ("NaN", .float Double.undefined), ("Infinity", .float (Double.infinity false)),
    ("-Infinity", .float (Double.infinity true))]

/-- A word or a number. -/
def scalar (cs : List Char) : Except ReadFault (Scalar × List Char) :=
  match words.findSome? fun (word, s) => (after? word cs).map fun rest => (s, rest) with
  | some found => .ok found
  | none =>
    match cs with
    | '-' :: rest => unsigned true rest
    | _ => unsigned false cs

/-- A string after its opening quote, or a fault. -/
def string (cs : List Char) : Except ReadFault (String × List Char) :=
  (string? cs).elim (.error .malformed) .ok

mutual

/-- One value at the start of a text. Each level of nesting takes one unit of `fuel`. -/
def value : Nat → List Char → Except ReadFault (Data × List Char)
  | 0, _ => .error .malformed
  | fuel + 1, cs =>
    match cs with
    | '\x22' :: rest => (string rest).map fun (s, after) => (Data.ofText s, after)
    | '[' :: rest =>
      match skipGap rest with
      | ']' :: after => .ok (.list [], after)
      | rest => (items fuel rest).map fun (items, after) => (.list items, after)
    | '\x7b' :: rest =>
      match skipGap rest with
      | '\x7d' :: after => .ok (.object [], after)
      | rest => (members fuel rest).map fun (members, after) => (Data.ofPairs members, after)
    | _ => (scalar cs).map fun (s, after) => (.scalar s, after)

/-- The items of a list up to its closing bracket. -/
def items : Nat → List Char → Except ReadFault (List Data × List Char)
  | 0, _ => .error .malformed
  | fuel + 1, cs => do
    let (item, rest) ← value fuel cs
    match skipGap rest with
    | ']' :: after => return ([item], after)
    | ',' :: rest =>
      let (others, after) ← items fuel (skipGap rest)
      return (item :: others, after)
    | _ => .error .malformed

/-- The members of an object up to its closing brace. -/
def members : Nat → List Char → Except ReadFault (List (Scalar × Data) × List Char)
  | 0, _ => .error .malformed
  | fuel + 1, cs => do
    match cs with
    | '\x22' :: rest =>
      let (key, rest) ← string rest
      match skipGap rest with
      | ':' :: rest =>
        let (member, rest) ← value fuel (skipGap rest)
        match skipGap rest with
        | '\x7d' :: after => return ([(.text key, member)], after)
        | ',' :: rest =>
          let (others, after) ← members fuel (skipGap rest)
          return ((.text key, member) :: others, after)
        | _ => .error .malformed
      | _ => .error .malformed
    | _ => .error .malformed

end

/-- Read a JSON text. Every step takes a character, so the length of the text is fuel enough. -/
def read (text : String) : Except ReadFault Data := do
  let cs := text.toList
  let (d, rest) ← value (cs.length + 1) (skipGap cs)
  if (skipGap rest).isEmpty then return d else .error .malformed

/-- The tree that a JSON text stands for, if there is one. -/
def read? (text : String) : Option Data := (read text).toOption

end ApiClient.Json
