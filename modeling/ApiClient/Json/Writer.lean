import ApiClient.Data
import ApiClient.Text.Quoted
import ApiClient.Text.Units

/-!
Writing a tree as JSON in ASCII.

Characters outside ASCII and control characters are written as escapes of their code units. A
layout is either one line or one member a line, indented by two spaces a level.
-/

set_option autoImplicit false

namespace ApiClient.Json

open Text

/-- The escape of a code unit. -/
def unitEscape (n : Nat) : List Char := '\\' :: 'u' :: hexDigits 4 n

/-- One character inside a string. -/
def stringChar (c : Char) : List Char :=
  if c == '\x22' || c == '\\' then ['\\', c]
  else if c == '\n' then ['\\', 'n']
  else if c == '\r' then ['\\', 'r']
  else if c == '\t' then ['\\', 't']
  else if c == '\x0c' then ['\\', 'f']
  else if c == '\x08' then ['\\', 'b']
  else if 0x20 ≤ c.toNat && c.toNat ≤ 0x7E then [c]
  else (units c).flatMap unitEscape

/-- A string between its quotes. -/
def stringText (s : String) : String :=
  String.ofList ('\x22' :: (s.toList.flatMap stringChar ++ ['\x22']))

/-- A scalar as JSON writes it. -/
def scalarText : Scalar → String
  | .null => "null"
  | .bool b => if b then "true" else "false"
  | .int i => toString i
  | .float x => x.display
  | .text s => stringText s
  | .moment m => stringText m.display
  | .binary bytes => stringText (bytesText bytes)

/-- The key of a member, always a string. -/
def keyText : Scalar → String
  | .text s => stringText s
  | .null => stringText "null"
  | .bool b => stringText (if b then "true" else "false")
  | k => stringText k.display

/-- Where lines break: the gap before an item at a depth, if each item has a line of its own. -/
structure Layout where
  indented : Bool
deriving DecidableEq, Repr

namespace Layout

/-- All on one line. -/
def compact : Layout := ⟨false⟩

/-- One item a line, two spaces a level. -/
def lines : Layout := ⟨true⟩

/-- What stands before an item, or before the closing bracket, at a depth. -/
def gap (layout : Layout) (depth : Nat) : String :=
  if layout.indented then String.ofList ('\n' :: List.replicate (2 * depth) ' ') else ""

/-- What stands between a key and its value. -/
def colon (layout : Layout) : String := if layout.indented then ": " else ":"

end Layout

/-- Items between brackets; nothing stands between the brackets of an empty list. -/
def bracketed (layout : Layout) (depth : Nat) (opening closing : String) : List String → String
  | [] => opening ++ closing
  | items =>
    let gap := layout.gap (depth + 1)
    opening ++ gap ++ String.intercalate ("," ++ gap) items ++ layout.gap depth ++ closing

mutual

/-- A tree at a depth. -/
def dataText (layout : Layout) (depth : Nat) : Data → String
  | .scalar s => scalarText s
  | .list items => bracketed layout depth "[" "]" (itemTexts layout (depth + 1) items)
  | .object members =>
    bracketed layout depth "\x7b" "\x7d" (memberTexts layout (depth + 1) members)

/-- The items of a list. -/
def itemTexts (layout : Layout) (depth : Nat) : List Data → List String
  | [] => []
  | d :: rest => dataText layout depth d :: itemTexts layout depth rest

/-- The members of an object. -/
def memberTexts (layout : Layout) (depth : Nat) : List (Scalar × Data) → List String
  | [] => []
  | (k, d) :: rest =>
    (keyText k ++ layout.colon ++ dataText layout depth d) :: memberTexts layout depth rest

end

/-- A tree as JSON. -/
def render (layout : Layout) (d : Data) : String := dataText layout 0 d

end ApiClient.Json
