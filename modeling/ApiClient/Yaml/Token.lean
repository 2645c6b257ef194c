import ApiClient.Json.Reader
import ApiClient.Yaml.Cursor

/-!
The tokens of a YAML text, and the words inside them.

Collections are written in blocks, told apart by indentation, or between brackets. Any node may
have an anchor, to which references go back, and a tag, which names its kind: by a suffix after a
handle that directives may explain, or in full.
-/

set_option autoImplicit false

namespace ApiClient.Yaml

/-- A token. The borders of blocks and the signs of keys may stand for no character. -/
inductive Token
  | version (major : Nat)
  | handle (name uri : String)
  | directive
  | documentStart
  | documentEnd
  | textEnd
  | blockList
  | blockMapping
  | blockEnd
  | openList
  | closeList
  | openMapping
  | closeMapping
  | dash
  | comma
  | key
  | value
  | reference (name : String)
  | anchor (name : String)
  | tag (handle : Option String) (suffix : String)
  | scalar (text : List Char) (plain : Bool)
deriving Repr, Inhabited

/-- A character of a name. -/
def isNameChar (c : Char) : Bool := c.isAlphanum || c == '-' || c == '_'

/-- A character of a tag. -/
def isUriChar (c : Char) : Bool := c.isAlphanum || "-;/?:@&=+$,_.!~*\x27()[]%".toList.contains c

/-- The name of an anchor or a reference, after the sign at a place. -/
def nameAt (c : Cursor) : Except ReadFault (String × Cursor) :=
  let name := (c.rest.drop 1).takeWhile isNameChar
  let after := c.ahead (1 + name.length)
  let ends := atGap after.rest || after.rest.head?.any ("?:,]\x7d%@\x60".toList.contains ·)
  if !name.isEmpty && ends then .ok (String.ofList name, after) else .error .malformed

/-- The bytes of a tag, in which a byte may be written with two digits, and the number of
characters that they take up. -/
def uriBytes : List Char → Option (List UInt8 × Nat)
  | [] => some ([], 0)
  | '%' :: cs =>
    match cs with
    | a :: b :: rest => do
      let high ← Json.hexValue? a
      let low ← Json.hexValue? b
      let (bytes, length) ← uriBytes rest
      return (UInt8.ofNat (high * 16 + low) :: bytes, length + 3)
    | _ => none
  | c :: cs =>
    if isUriChar c then
      (uriBytes cs).map fun (bytes, length) => (UInt8.ofNat c.toNat :: bytes, length + 1)
    else some ([], 0)

/-- The text of a tag at a place. -/
def uriAt (c : Cursor) : Except ReadFault (String × Cursor) :=
  match uriBytes c.rest with
  | none | some ([], _) => .error .malformed
  | some (bytes, length) =>
    match String.fromUTF8? ⟨bytes.toArray⟩ with
    | some text => .ok (text, c.ahead length)
    | none => .error .malformed

/-- The handle of tags at a place: an exclamation mark, or a name between two of them. -/
def handleAt (c : Cursor) : Except ReadFault (String × Cursor) :=
  match c.rest with
  | '!' :: ' ' :: _ => .ok ("!", c.ahead 1)
  | '!' :: rest =>
    let name := rest.takeWhile isNameChar
    if (rest.drop name.length).head? = some '!' then
      .ok (String.ofList ('!' :: (name ++ ['!'])), c.ahead (name.length + 2))
    else .error .malformed
  | _ => .error .malformed

/-- A word at a place, if a space or the end of the line follows it. -/
def alone {α : Type} (found : Except ReadFault (α × Cursor)) : Except ReadFault (α × Cursor) :=
  match found with
  | .ok (a, after) => if atSpace after.rest then .ok (a, after) else .error .malformed
  | .error fault => .error fault

/-- The handle and the suffix of a tag at a place. One written in full has no handle, nor has the
exclamation mark alone. -/
def tagWord (c : Cursor) : Except ReadFault ((Option String × String) × Cursor) :=
  match c.rest.drop 1 with
  | '<' :: _ => do
    let (suffix, after) ← uriAt (c.ahead 2)
    if after.rest.head? = some '>' then return ((none, suffix), after.ahead 1)
    else .error .malformed
  | rest =>
    if atGap rest then .ok ((none, "!"), c.ahead 1)
    else do
      let word := rest.takeWhile fun d => !(d == ' ' || isBreak d)
      let (handle, after) ← if word.contains '!' then handleAt c else .ok ("!", c.ahead 1)
      let (suffix, after) ← uriAt after
      return ((some handle, suffix), after)

/-- A tag at a place. -/
def tagAt (c : Cursor) : Except ReadFault (Token × Cursor) :=
  (alone (tagWord c)).map fun ((handle, suffix), after) => (.tag handle suffix, after)

/-- A number of a version at a place. -/
def versionPart (c : Cursor) : Except ReadFault (Nat × Cursor) :=
  let digits := c.rest.takeWhile Char.isDigit
  if digits.isEmpty then .error .malformed
  else if maxDigits < digits.length then .error (.unfit .longInteger)
  else .ok (Json.digitsValue digits, c.ahead digits.length)

/-- The version after the name of its directive. -/
def versionAt (c : Cursor) : Except ReadFault (Token × Cursor) := do
  let (major, point) ← versionPart c.passSpaces
  if point.rest.head? != some '.' then .error .malformed
  let (_, after) ← alone (versionPart (point.ahead 1))
  return (.version major, after)

/-- The handle and what it stands for, after the name of their directive. -/
def handleDirectiveAt (c : Cursor) : Except ReadFault (Token × Cursor) := do
  let (name, after) ← handleAt c.passSpaces
  if after.rest.head? != some ' ' then .error .malformed
  let (uri, after) ← alone (uriAt after.passSpaces)
  return (.handle name uri, after)

/-- A directive at a place, with its line. One with an unknown name may say anything. -/
def directiveAt (c : Cursor) : Except ReadFault (Token × Cursor) := do
  let name := (c.rest.drop 1).takeWhile isNameChar
  let after := c.ahead (1 + name.length)
  if name.isEmpty || !atSpace after.rest then .error .malformed
  let (token, after) ←
    if name == "YAML".toList then versionAt after
    else if name == "TAG".toList then handleDirectiveAt after
    else .ok (.directive, after.passLine)
  return (token, ← after.nextLine)

end ApiClient.Yaml
