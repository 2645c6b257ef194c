import ApiClient.Data
import ApiClient.Json.Reader
import ApiClient.Text.Units
import ApiClient.Yaml.Cursor

/-!
Scanning YAML scalars.

An unquoted scalar ends before a colon and a blank, before a comment, and, inside brackets, before
a bracket or comma. Like a quoted one it may go on over several lines; a single line break in
between becomes a space, and further ones stay. The lines of a block scalar are kept, or folded in
the same way where they start with no blank.
-/

set_option autoImplicit false

namespace ApiClient.Yaml

/-- What stands between two stretches of a scalar. -/
inductive Gap
  | none
  | spaces (text : List Char)
  | lines (first : Option Char) (others : List Char)
deriving Repr

namespace Gap

/-- The text of a gap. A first break that was escaped leaves nothing. -/
def text : Gap → List Char
  | none => []
  | spaces cs => cs
  | lines (some '\n') [] => [' ']
  | lines (some '\n') others => others
  | lines (some c) others => c :: others
  | lines .none others => others

/-- A gap with a further line break. -/
def addBreak (c : Char) : Gap → Gap
  | lines first others => lines first (others ++ [keptBreak c])
  | _ => lines (some (keptBreak c)) []

/-- A gap with a further blank; at the start of a line it does not count. -/
def addBlank (c : Char) : Gap → Gap
  | none => spaces [c]
  | spaces cs => spaces (cs ++ [c])
  | lines first others => lines first others

/-- Whether a gap goes over a line break. -/
def isLines : Gap → Bool
  | lines _ _ => true
  | _ => false

end Gap

/-- Whether a colon here, before `rest`, ends an unquoted scalar. -/
def isPlainColon (flow : Bool) (rest : List Char) : Bool :=
  atGap rest || (flow && rest.head?.any (",[]\x7b\x7d".toList.contains ·))

/-- Whether a character, before `rest`, cannot stand in an unquoted scalar. -/
def endsPlain (flow : Bool) (c : Char) (rest : List Char) : Bool :=
  c == '\t' || (c == ':' && isPlainColon flow rest)
    || (flow && ",?[]\x7b\x7d".toList.contains c)

/-- Whether an unquoted scalar starts here. -/
def startsPlain (flow : Bool) : List Char → Bool
  | [] => false
  | c :: rest =>
    if atGap [c] then false
    else if c == '-' then !atGap rest
    else if c == '?' || c == ':' then !flow && !atGap rest
    else !(",[]\x7b\x7d#&*!|>\x27\x22%@\x60".toList.contains c)

/-- An unquoted scalar, backwards while it is scanned, the place after the gap behind it, and
whether that goes over a line break. -/
structure PlainText where
  text : List Char
  after : Cursor
  breaks : Bool
deriving Repr

/--
Scan an unquoted scalar whose further lines are indented to at least a column; what is read so far
is kept and given backwards. The gap behind it does not belong to it.
-/
def scanPlain (flow : Bool) (floor : Nat) (read : List Char) (gap : Gap) (m : Mark) :
    List Char → PlainText
  | [] => ⟨read, ⟨m, []⟩, gap.isLines⟩
  | c :: cs =>
    let here : PlainText := ⟨read, ⟨m, c :: cs⟩, gap.isLines⟩
    if gap.isLines && m.column == 0 && Cursor.startsMarker (c :: cs) then here
    else if isBreak c then scanPlain flow floor read (gap.addBreak c) (m.after c) cs
    else if c == ' ' then scanPlain flow floor read (gap.addBlank c) (m.after c) cs
    else if endsPlain flow c cs then here
    else
      match gap with
      | .none => scanPlain flow floor (c :: read) .none (m.after c) cs
      | _ =>
        if c == '#' || (!flow && decide (m.column < floor)) then here
        else scanPlain flow floor (c :: gap.text.reverse ++ read) .none (m.after c) cs

/-- An unquoted scalar at a place. -/
def plainAt (flow : Bool) (floor : Nat) (c : Cursor) : PlainText :=
  let found := scanPlain flow floor [] .none c.toMark c.rest
  { found with text := found.text.reverse }

/-- The character that a letter stands for after a backslash. -/
def escapes : List (Char × Char) :=
  [('0', '\x00'), ('a', '\x07'), ('b', '\x08'), ('t', '\t'), ('\t', '\t'), ('n', '\n'),
    ('v', '\x0b'), ('f', '\x0c'), ('r', '\r'), ('e', '\x1b'), (' ', ' '), ('\x22', '\x22'),
    ('\\', '\\'), ('/', '/'), ('N', '\x85'), ('_', '\u00a0'), ('L', '\u2028'), ('P', '\u2029')]

/-- The number that hexadecimal digits stand for. -/
def hexCode? (digits : List Char) : Option Nat :=
  (digits.mapM Json.hexValue?).map fun values => values.foldl (fun n v => n * 16 + v) 0

/-- The character with a code. -/
def charOfCode (code : Nat) : Except ReadFault Char :=
  if code < 0x110000 then .ok (Text.unitChar code)
  else .error (.unfit (if code < 0x80000000 then .noCharacter else .hugeCharacter))

/-- The number of hexadecimal digits after a letter that announces them. -/
def hexWidth? (c : Char) : Option Nat :=
  if c == 'x' then some 2 else if c == 'u' then some 4 else if c == 'U' then some 8 else none

/-- What stands for a character after a backslash: the character, and the length of the rest. -/
def escape : List Char → Except ReadFault (Char × Nat)
  | [] => .error .malformed
  | e :: cs =>
    match escapes.lookup e, hexWidth? e with
    | some d, _ => .ok (d, 1)
    | none, some width =>
      if cs.length < width then .error .malformed
      else
        match hexCode? (cs.take width) with
        | some code => (charOfCode code).map fun d => (d, 1 + width)
        | none => .error .malformed
    | none, none => .error .malformed

/--
Scan a quoted scalar after its opening quote; what is read so far is kept backwards. `skip`
characters, which an escape has read already, are passed over.
-/
def scanQuoted (double : Bool) (skip : Nat) (read : List Char) (gap : Gap) (m : Mark) :
    List Char → Except ReadFault (List Char × Cursor)
  | [] => .error .malformed
  | c :: cs =>
    let m' := m.after c
    if 0 < skip then scanQuoted double (skip - 1) read gap m' cs
    else if gap.isLines && m.column == 0 && Cursor.startsMarker (c :: cs) then .error .malformed
    else if isBreak c then scanQuoted double 0 read (gap.addBreak c) m' cs
    else if c == ' ' || c == '\t' then scanQuoted double 0 read (gap.addBlank c) m' cs
    else
      let read := gap.text.reverse ++ read
      if double && c == '\x22' then .ok (read.reverse, ⟨m', cs⟩)
      else if !double && c == '\x27' then
        if cs.head? == some '\x27' then scanQuoted double 1 (c :: read) .none m' cs
        else .ok (read.reverse, ⟨m', cs⟩)
      else if double && c == '\\' then
        if cs.head?.any isBreak then scanQuoted double 1 read (.lines .none []) m' cs
        else
          match escape cs with
          | .ok (d, length) => scanQuoted double length (d :: read) .none m' cs
          | .error fault => .error fault
      else scanQuoted double 0 (c :: read) .none m' cs

/-- A quoted scalar at a place, where its quote stands. -/
def quotedAt (double : Bool) (c : Cursor) : Except ReadFault (List Char × Cursor) :=
  scanQuoted double 0 [] .none (c.ahead 1).toMark (c.rest.drop 1)

/-- What becomes of the line breaks at the end of a block scalar: one stays, none, or all. -/
inductive Chomping
  | clip
  | strip
  | keep
deriving DecidableEq, Repr

/-- What stands after the sign of a block scalar: chomping and indentation, in either order. -/
structure BlockHeader where
  chomping : Chomping
  indentation : Option Nat
  length : Nat
deriving Repr

/-- A sign of chomping. -/
def chomping? : List Char → Option Chomping
  | '+' :: _ => some .keep
  | '-' :: _ => some .strip
  | _ => none

/-- A sign of indentation, a digit. -/
def indentation? : List Char → Option Nat
  | c :: _ => if c.isDigit then some (c.toNat - 0x30) else none
  | [] => none

/-- The header of a block scalar after its sign. -/
def blockHeader (cs : List Char) : BlockHeader :=
  match chomping? cs, indentation? cs with
  | some chomping, _ =>
    let width := indentation? (cs.drop 1)
    ⟨chomping, width, if width.isSome then 2 else 1⟩
  | none, some width =>
    match chomping? (cs.drop 1) with
    | some chomping => ⟨chomping, some width, 2⟩
    | none => ⟨.clip, some width, 1⟩
  | none, none => ⟨.clip, none, 0⟩

/-- Pass over line breaks and the spaces before a column; the breaks are given backwards. -/
def passBreaks (column : Nat) (breaks : List Char) (m : Mark) : List Char → List Char × Cursor
  | [] => (breaks, ⟨m, []⟩)
  | c :: cs =>
    if isBreak c then passBreaks column (keptBreak c :: breaks) (m.after c) cs
    else if c == ' ' && m.column < column then passBreaks column breaks (m.after c) cs
    else (breaks, ⟨m, c :: cs⟩)

/-- Pass over empty lines and spaces; the breaks are given backwards, with the widest column. -/
def passEmpty (breaks : List Char) (widest : Nat) (m : Mark) : List Char → List Char × Nat × Cursor
  | [] => (breaks, widest, ⟨m, []⟩)
  | c :: cs =>
    if isBreak c then passEmpty (keptBreak c :: breaks) widest (m.after c) cs
    else if c == ' ' then passEmpty breaks (max widest (m.column + 1)) (m.after c) cs
    else (breaks, widest, ⟨m, c :: cs⟩)

/-- Whether a line starts with a blank. -/
def startsBlank (cs : List Char) : Bool := cs.head?.any fun c => c == ' ' || c == '\t'

/-- What a block scalar has between two lines with a break and empty lines in between. -/
def joint (folded : Bool) (line next : List Char) (lineBreak emptyLines : List Char) : List Char :=
  if folded && lineBreak == ['\n'] && !startsBlank line && !startsBlank next then
    if emptyLines.isEmpty then [' '] else []
  else lineBreak

/--
The lines of a block scalar at a column, of which each takes a step. What is read so far and the
breaks of the empty lines ahead are kept backwards; the last line break is given apart.
-/
def blockLines (folded : Bool) (column : Nat) :
    Nat → List Char → List Char → Cursor → List Char × List Char × List Char × Cursor
  | 0, read, emptyLines, c => (read, [], emptyLines, c)
  | fuel + 1, read, emptyLines, c =>
    let line := c.rest.takeWhile fun d => !isBreak d
    let ended := c.passLine
    let lineBreak := (ended.rest.head?.map keptBreak).toList
    let started := ended.ahead 1
    let (breaks, next) := passBreaks column [] started.toMark started.rest
    let read := line.reverse ++ (emptyLines ++ read)
    if next.column = column ∧ next.rest ≠ [] then
      blockLines folded column fuel (joint folded line next.rest lineBreak breaks ++ read) breaks
        next
    else (read, lineBreak, breaks, next)

/--
A block scalar at the place of its sign, in a block whose nodes are indented to at least `floor`.
Without a sign of indentation, the first line that is not empty decides on the column.
-/
def blockScalarAt (floor : Nat) (c : Cursor) : Except ReadFault (List Char × Cursor) := do
  let folded := c.rest.head? == some '>'
  let header := blockHeader (c.rest.drop 1)
  let ended := c.ahead (1 + header.length)
  if header.indentation = some 0 || !atSpace ended.rest then .error .malformed
  let first ← ended.nextLine
  let least := max floor 1
  let (column, breaks, c) := match header.indentation with
    | some width =>
      let column := least + width - 1
      let (breaks, next) := passBreaks column [] first.toMark first.rest
      (column, breaks, next)
    | none =>
      let (breaks, widest, next) := passEmpty [] 0 first.toMark first.rest
      (max least widest, breaks, next)
  let (read, lineBreak, breaks, after) :=
    if c.column = column ∧ c.rest ≠ [] then
      blockLines folded column c.rest.length [] breaks c
    else ([], [], breaks, c)
  let tail := match header.chomping with
    | .strip => []
    | .clip => lineBreak
    | .keep => breaks ++ lineBreak
  return ((tail ++ read).reverse, after)

end ApiClient.Yaml
