import ApiClient.Text.Blank

/-!
Route templates such as `api/widgets/{id:int}/parts/{name?}`.

A template is cut into literal text and outermost placeholders. Braces nest, a closing brace
without an opening one is literal, and so is everything from an opening brace that is never
closed. A placeholder is `{*name:constraint:constraint?=default}` with all but the name left out
at will.
-/

set_option autoImplicit false

namespace ApiClient.Route

open Text

/-- A placeholder: its name, its constraints in order, and whether it may stay empty. -/
structure Segment where
  name : String
  constraints : List String
  optional : Bool
deriving DecidableEq, Repr, Inhabited

/-- A stretch of a template. A placeholder holds the text between its braces. -/
inductive Piece
  | literal (text : List Char)
  | placeholder (body : List Char)
deriving DecidableEq, Repr

/-- The text that a piece was cut from. -/
def Piece.source : Piece → List Char
  | literal text => text
  | placeholder body => '{' :: body ++ ['}']

/--
Cut the rest of a template, at a brace depth. `text` is the literal read so far, and `body` what
followed the opening brace when the depth is positive.
-/
def scan : Nat → List Char → List Char → List Char → List Piece
  | 0, text, _, [] => [.literal text]
  | _ + 1, text, body, [] => [.literal (text ++ '{' :: body)]
  | 0, text, _, c :: cs =>
    if c = '{' then scan 1 text [] cs else scan 0 (text ++ [c]) [] cs
  | depth + 1, text, body, c :: cs =>
    if c = '{' then scan (depth + 2) text (body ++ [c]) cs
    else if c = '}' then
      if depth = 0 then .literal text :: .placeholder body :: scan 0 [] [] cs
      else scan depth text (body ++ [c]) cs
    else scan (depth + 1) text (body ++ [c]) cs

/-- The pieces of a template, in order. -/
def pieces (template : List Char) : List Piece := scan 0 [] [] template

/--
Cut a text at each separator outside parentheses and braces: the first part, then the others. The
depth never falls below zero.
-/
def splitTopLevel (separator : Char) : Nat → List Char → List Char × List (List Char)
  | _, [] => ([], [])
  | depth, c :: cs =>
    if c = '(' ∨ c = '{' then
      let (first, others) := splitTopLevel separator (depth + 1) cs
      (c :: first, others)
    else if (c = ')' ∨ c = '}') ∧ 0 < depth then
      let (first, others) := splitTopLevel separator (depth - 1) cs
      (c :: first, others)
    else if c = separator ∧ depth = 0 then
      let (first, others) := splitTopLevel separator 0 cs
      ([], first :: others)
    else
      let (first, others) := splitTopLevel separator depth cs
      (c :: first, others)

/-- Drop a question mark at the end, and say whether there was one. -/
def dropMark (cs : List Char) : List Char × Bool :=
  if cs.getLast? = some '?' then (cs.dropLast, true) else (cs, false)

/-- The segment that the text between two braces describes. -/
def segmentOf (body : List Char) : Segment :=
  let (head, defaults) := splitTopLevel '=' 0 ((trim body).dropWhile (· == '*'))
  let (head, marked) := dropMark head
  let (name, constraints) := splitTopLevel ':' 0 head
  { name := String.ofList (trim name)
    constraints := constraints.map fun c => String.ofList (trim c)
    optional := !defaults.isEmpty || marked }

/-- The segment of a piece, if it is a placeholder. -/
def Piece.segment? : Piece → Option Segment
  | literal _ => none
  | placeholder body => some (segmentOf body)

/-- The placeholders of a template, in order. -/
def segments (template : String) : List Segment :=
  (pieces template.toList).filterMap Piece.segment?

/-- A piece with its placeholder as an interpolation of the member it names. -/
def Piece.render : Piece → List Char
  | literal text => text
  | placeholder body => "$\x7bthis.".toList ++ (segmentOf body).name.toList ++ ['}']

/-- A template with each placeholder as an interpolation of the member it names. -/
def render (template : String) : String :=
  String.ofList ((pieces template.toList).flatMap Piece.render)

end ApiClient.Route
