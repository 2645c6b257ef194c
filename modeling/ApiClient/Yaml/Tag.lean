import ApiClient.Yaml.Cursor
import ApiClient.Yaml.Stamp

/-!
The kinds of YAML nodes.

A tag names the kind of a node. An unquoted scalar without a tag has a kind by its spelling: null,
a truth value, a floating-point number, an integer, a moment, the sign of a merge or of a default,
and otherwise a text. Integers may be binary, octal, hexadecimal or sexagesimal; underscores in
numbers do not count.
-/

set_option autoImplicit false

namespace ApiClient.Yaml

/-- The kind of a node. Lists of pairs are ordered mappings or any other pairs. -/
inductive Tag
  | null
  | bool
  | int
  | float
  | binary
  | moment
  | text
  | list
  | mapping
  | set
  | pairs
  | merge
  | default
  | unknown
deriving DecidableEq, Repr, Inhabited

/-- What the tags of the standard kinds start with. -/
def standardUri : String := "tag:yaml.org,2002:"

/-- The names of the standard kinds. -/
def standardTags : List (String × Tag) :=
  [("null", .null), ("bool", .bool), ("int", .int), ("float", .float), ("binary", .binary),
    ("timestamp", .moment), ("str", .text), ("seq", .list), ("map", .mapping), ("set", .set),
    ("omap", .pairs), ("pairs", .pairs), ("merge", .merge), ("value", .default)]

/-- The kind that a tag in full names. -/
def Tag.ofUri (uri : String) : Tag :=
  match standardTags.find? fun (name, _) => standardUri ++ name == uri with
  | some (_, tag) => tag
  | none => .unknown

/-- Whether nodes of a kind have parts. -/
def Tag.isCollection : Tag → Bool
  | list | mapping | set | pairs => true
  | _ => false

/-- The spellings of null. -/
def nullWords : List String := ["", "~", "null", "Null", "NULL"]

/-- The spellings of truth values. -/
def boolWords : List String :=
  ["yes", "Yes", "YES", "no", "No", "NO", "true", "True", "TRUE", "false", "False", "FALSE",
    "on", "On", "ON", "off", "Off", "OFF"]

/-- A sign at the start of a number. -/
def signed : List Char → Bool × List Char
  | '-' :: cs => (true, cs)
  | '+' :: cs => (false, cs)
  | cs => (false, cs)

/-- The stretches between colons: the first one, then the others. -/
def splitColons : List Char → List Char × List (List Char)
  | [] => ([], [])
  | c :: cs =>
    let (first, others) := splitColons cs
    if c = ':' then ([], first :: others) else (c :: first, others)

/-- Whether all characters are underscores or digits below a base. -/
def isGrouped (base : Nat) (cs : List Char) : Bool :=
  cs.all fun c => c == '_' || (Json.hexValue? c).any fun v => decide (v < base)

/-- Whether a text starts with a decimal digit and goes on with digits and underscores. -/
def startsGrouped (cs : List Char) : Bool := cs.head?.any Char.isDigit && isGrouped 10 cs

/-- Whether a stretch is a number below sixty in one or two digits. -/
def isSixtieth : List Char → Bool
  | [a] => a.isDigit
  | [a, b] => a.isDigit && a.toNat ≤ 0x35 && b.isDigit
  | _ => false

/-- The spelling of an integer. -/
def isInt (cs : List Char) : Bool :=
  match (signed cs).2 with
  | '0' :: 'b' :: digits => !digits.isEmpty && isGrouped 2 digits
  | '0' :: 'x' :: digits => !digits.isEmpty && isGrouped 16 digits
  | '0' :: digits => isGrouped 8 digits
  | size =>
    let (first, others) := splitColons size
    startsGrouped first && others.all isSixtieth

/-- An exponent, which needs a sign; there may be none. -/
def isPower : List Char → Bool
  | [] => true
  | e :: sign :: digits =>
    (e == 'e' || e == 'E') && (sign == '-' || sign == '+') && !digits.isEmpty
      && digits.all Char.isDigit
  | _ => false

/-- The spelling of a number around a point, with the part before it and what follows it. -/
def isAroundPoint (isSigned : Bool) (whole rest : List Char) : Bool :=
  let places := rest.takeWhile fun c => c.isDigit || c == '_'
  let tail := rest.drop places.length
  let (first, others) := splitColons whole
  if whole.isEmpty then !isSigned && places.head?.any Char.isDigit && isPower tail
  else if others.isEmpty then startsGrouped first && isPower tail
  else startsGrouped first && others.all isSixtieth && tail.isEmpty

/-- The spelling of a floating-point number, which needs a point. -/
def isFloat (cs : List Char) : Bool :=
  let size := (signed cs).2
  [".inf", ".Inf", ".INF"].contains (String.ofList size)
    || [".nan", ".NaN", ".NAN"].contains (String.ofList cs)
    || match size.dropWhile (· != '.') with
      | [] => false
      | _ :: rest => isAroundPoint (size != cs) (size.takeWhile (· != '.')) rest

/-- The kind of an unquoted scalar; a line break at its end does not count. -/
def Tag.ofSpelling (cs : List Char) : Tag :=
  let cs := if 1 < cs.length ∧ cs.getLast? = some '\n' then cs.dropLast else cs
  let s := String.ofList cs
  if nullWords.contains s then .null
  else if boolWords.contains s then .bool
  else if isFloat cs then .float
  else if isInt cs then .int
  else if isStamp cs then .moment
  else if s == "<<" then .merge
  else if s == "=" then .default
  else .text

end ApiClient.Yaml
