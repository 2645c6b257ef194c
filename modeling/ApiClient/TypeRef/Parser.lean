import ApiClient.Text.Blank
import ApiClient.TypeRef

/-!
Reading type names.

A type is a name, optionally closed by arguments between angle brackets, then any number of `[]`.
Blanks may stand before a name, after an argument and at the end, and nowhere else. A refusal
says what was expected and at which column, counted from one.
-/

set_option autoImplicit false

namespace ApiClient

/-- Why a text is no type name. -/
inductive TypeNameFault
  | nameExpected
  | malformedName (name : List Char)
  | closingExpected
  | unexpected (character : Char)
deriving DecidableEq, Repr

/-- A text that is no type name, with the column at which reading stopped. -/
structure TypeNameError where
  text : String
  column : Nat
  fault : TypeNameFault
deriving DecidableEq, Repr

/-- The reason of a refusal in words. -/
def TypeNameFault.message : TypeNameFault → String
  | nameExpected => "expected a type name"
  | malformedName name => "malformed name '" ++ String.ofList name ++ "'"
  | closingExpected => "expected '>'"
  | unexpected c => "unexpected character '" ++ String.singleton c ++ "'"

/-- The full text of a refusal. -/
def TypeNameError.message (e : TypeNameError) : String :=
  "Invalid type name '" ++ e.text ++ "' at column " ++ toString e.column ++ ": "
    ++ e.fault.message

namespace TypeRef.Parser

open Text

/-- The characters of names. -/
def isNameChar (c : Char) : Bool :=
  c.isAlphanum || c == '_' || c == '.' || c == '\x60' || c == '/' || c == '+' || c == '$'

/-- What was read with the rest of the text, or a fault with the text from where it arose. -/
abbrev Result (α : Type) := Except (TypeNameFault × List Char) (α × List Char)

/-- Whether a run of name characters is a name. -/
def nameFault? (name : List Char) : Option TypeNameFault :=
  if name.isEmpty then some .nameExpected
  else if name.head? == some '.' || name.getLast? == some '.' then some (.malformedName name)
  else none

/-- The longest run of name characters, which must be a name. -/
def name (cs : List Char) : Result (List Char) :=
  let run := cs.takeWhile isNameChar
  let rest := cs.dropWhile isNameChar
  match nameFault? run with
  | some fault => .error (fault, rest)
  | none => .ok (run, rest)

/-- Wrap a reference into an array for each `[]` that follows. -/
def arraySuffixes (r : TypeRef) : List Char → TypeRef × List Char
  | '[' :: ']' :: rest => arraySuffixes r.array rest
  | cs => (r, cs)

mutual

/-- A type after blanks. Every call reads a name or follows one that was read. -/
def type : Nat → List Char → Result TypeRef
  | 0, cs => .error (.nameExpected, cs)
  | fuel + 1, cs =>
    match name (cs.dropWhile isBlank) with
    | .error stop => .error stop
    | .ok (n, '<' :: rest) =>
      match arguments fuel rest with
      | .error stop => .error stop
      | .ok (args, rest) => .ok (arraySuffixes (.generic (String.ofList n) args) rest)
    | .ok (n, rest) => .ok (arraySuffixes (.plain (String.ofList n)) rest)

/-- Arguments up to the closing bracket, after the opening one or a comma. -/
def arguments : Nat → List Char → Result (List TypeRef)
  | 0, cs => .error (.nameExpected, cs)
  | fuel + 1, cs =>
    match type fuel cs with
    | .error stop => .error stop
    | .ok (first, rest) =>
      match rest.dropWhile isBlank with
      | '>' :: rest => .ok ([first], rest)
      | ',' :: rest =>
        match arguments fuel rest with
        | .error stop => .error stop
        | .ok (others, rest) => .ok (first :: others, rest)
      | rest => .error (.closingExpected, rest)

end

/-- A whole text as one type, with blanks allowed at its end. -/
def whole (cs : List Char) : Except (TypeNameFault × List Char) TypeRef :=
  match type (2 * cs.length + 1) cs with
  | .error stop => .error stop
  | .ok (r, rest) =>
    match rest.dropWhile isBlank with
    | [] => .ok r
    | c :: rest => .error (.unexpected c, c :: rest)

end TypeRef.Parser

/-- Read a type name. -/
def TypeRef.parse (text : String) : Except TypeNameError TypeRef :=
  match Parser.whole text.toList with
  | .ok r => .ok r
  | .error (fault, rest) => .error ⟨text, text.toList.length - rest.length + 1, fault⟩

end ApiClient
