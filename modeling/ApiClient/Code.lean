/-!
Source text as a tree of statements and nested blocks between braces.

A block has a header, and what follows its closing brace; a call block is the argument of a call
and closes with `})`. An empty statement is a blank line, and a nested block is set off by a
blank line from whatever stands before it, unless that is a blank line.
-/

set_option autoImplicit false

namespace ApiClient

/-- What opens and closes a block. -/
structure Code.Frame where
  header : String
  isCall : Bool
  termination : String
deriving DecidableEq, Repr, Inhabited

/-- A statement, or a block around further code. -/
inductive Code
  | statement (line : String)
  | block (frame : Code.Frame) (body : List Code)
deriving Repr, Inhabited

namespace Code

/-- A blank line. -/
def blank : Code := .statement ""

/-- A block that closes with a plain brace. -/
def plain (header : String) (body : List Code) : Code := .block ⟨header, false, ""⟩ body

/-- A block that closes with a brace and a termination. -/
def ended (header termination : String) (body : List Code) : Code :=
  .block ⟨header, false, termination⟩ body

/-- A block that is the argument of a call. -/
def call (header termination : String) (body : List Code) : Code :=
  .block ⟨header, true, termination⟩ body

namespace Frame

/-- The line that opens a block. -/
def opening (f : Frame) : String :=
  if f.isCall && f.header.toList.getLast? == some '(' then f.header ++ "\x7b"
  else f.header ++ " \x7b"

/-- The line that closes a block. -/
def closing (f : Frame) : String := (if f.isCall then "\x7d)" else "\x7d") ++ f.termination

end Frame

/-- An indent repeated for a depth. -/
def indentation (indent : String) : Nat → String
  | 0 => ""
  | depth + 1 => indent ++ indentation indent depth

/-- Whether a block that follows is set off by a blank line. -/
def needsGap : Code → Bool
  | .statement line => line != ""
  | .block _ _ => true

/-- The blank line between a block and the code before it. -/
def gap (previous : Option Code) : List String :=
  if previous.any needsGap then [""] else []

mutual

/-- The lines of a piece of code that follows another one. -/
def lines (indent : String) (depth : Nat) (previous : Option Code) : Code → List String
  | .statement line => [if line = "" then "" else indentation indent depth ++ line]
  | .block frame body =>
    gap previous
      ++ (indentation indent depth ++ frame.opening) :: bodyLines indent (depth + 1) none body
      ++ [indentation indent depth ++ frame.closing]

/-- The lines of a body, whose first part follows `previous`. -/
def bodyLines (indent : String) (depth : Nat) (previous : Option Code) : List Code → List String
  | [] => []
  | c :: rest => lines indent depth previous c ++ bodyLines indent depth (some c) rest

end

/-- Lines as a text, with a line break after the last one. -/
def textOfLines (ls : List String) : String := String.intercalate "\n" ls ++ "\n"

/-- The text of a block; one without a header is its body alone. -/
def renderBlock (indent : String) (frame : Frame) (body : List Code) : String :=
  if frame.header = "" then textOfLines (bodyLines indent 0 none body)
  else textOfLines (lines indent 0 none (.block frame body))

/-- The indent of generated documents. -/
def defaultIndent : String := "    "

/-- The text of a document. -/
def render (c : Code) : String :=
  match c with
  | .statement line => textOfLines [line]
  | .block frame body => renderBlock defaultIndent frame body

end Code

end ApiClient
