import ApiClient.Data

/-!
A place in a YAML text: its line and column, and the text from there on.

Between tokens stand spaces, comments and line breaks, but no tabs. A line that starts with `---`
or `...` and a blank marks the border of a document.
-/

set_option autoImplicit false

namespace ApiClient.Yaml

/-- A line break. -/
def isBreak (c : Char) : Bool :=
  c == '\n' || c == '\r' || c == '\x85' || c == '\u2028' || c == '\u2029'

/-- A line break as it is kept. -/
def keptBreak (c : Char) : Char := if c == '\u2028' || c == '\u2029' then c else '\n'

/-- Whether a text is at its end, or at a space or a line break. -/
def atSpace : List Char → Bool
  | [] => true
  | c :: _ => c == ' ' || isBreak c

/-- Whether a text is at its end, or at a space, a tab or a line break. -/
def atGap : List Char → Bool
  | [] => true
  | c :: _ => c == ' ' || c == '\t' || isBreak c

/-- The number of characters before a place, its line, and its column. -/
structure Mark where
  index : Nat
  line : Nat
  column : Nat
deriving DecidableEq, Repr, Inhabited

/-- The place after a character; a byte order mark takes up no column. -/
def Mark.after (m : Mark) (c : Char) : Mark :=
  if isBreak c then ⟨m.index + 1, m.line + 1, 0⟩
  else ⟨m.index + 1, m.line, if c == '\ufeff' then m.column else m.column + 1⟩

/-- A place in a text, and the text from there on. -/
structure Cursor extends Mark where
  rest : List Char
deriving Repr, Inhabited

namespace Cursor

/-- The start of a text, after a byte order mark. -/
def start : List Char → Cursor
  | '\ufeff' :: cs => ⟨⟨1, 0, 0⟩, cs⟩
  | cs => ⟨⟨0, 0, 0⟩, cs⟩

/-- The place after a number of characters. -/
def aheadFrom (m : Mark) : Nat → List Char → Cursor
  | _, [] => ⟨m, []⟩
  | 0, cs => ⟨m, cs⟩
  | n + 1, c :: cs => aheadFrom (m.after c) n cs

/-- The place after a number of characters. -/
def ahead (n : Nat) (c : Cursor) : Cursor := aheadFrom c.toMark n c.rest

/-- The place of the first character without a property. -/
def passFrom (p : Char → Bool) (m : Mark) : List Char → Cursor
  | [] => ⟨m, []⟩
  | c :: cs => if p c then passFrom p (m.after c) cs else ⟨m, c :: cs⟩

/-- Pass over the characters with a property. -/
def pass (p : Char → Bool) (c : Cursor) : Cursor := passFrom p c.toMark c.rest

/-- Pass over spaces. -/
def passSpaces (c : Cursor) : Cursor := c.pass (· == ' ')

/-- Pass over the rest of a line. -/
def passLine (c : Cursor) : Cursor := c.pass fun d => !isBreak d

/-- Pass over spaces and a comment. -/
def passComment (c : Cursor) : Cursor :=
  let c := c.passSpaces
  if c.rest.head? == some '#' then c.passLine else c

/-- Pass over what is left of a line, which may be a comment, and over its line break. -/
def nextLine (c : Cursor) : Except ReadFault Cursor :=
  let c := c.passComment
  if c.rest.head?.all isBreak then .ok (c.ahead 1) else .error .malformed

/-- The next token from a place on, inside a comment or not. -/
def tokenFrom (inComment : Bool) (m : Mark) : List Char → Cursor
  | [] => ⟨m, []⟩
  | c :: cs =>
    if isBreak c then tokenFrom false (m.after c) cs
    else if inComment then tokenFrom true (m.after c) cs
    else if c == ' ' then tokenFrom false (m.after c) cs
    else if c == '#' then tokenFrom true (m.after c) cs
    else ⟨m, c :: cs⟩

/-- The next token. -/
def token (c : Cursor) : Cursor := tokenFrom false c.toMark c.rest

/-- Whether a text starts with a document marker. -/
def startsMarker : List Char → Bool
  | '-' :: '-' :: '-' :: rest => atGap rest
  | '.' :: '.' :: '.' :: rest => atGap rest
  | _ => false

/-- Whether a document marker stands here. -/
def atMarker (c : Cursor) : Bool := c.column == 0 && startsMarker c.rest

end Cursor

end ApiClient.Yaml
