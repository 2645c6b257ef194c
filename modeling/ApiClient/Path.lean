/-!
File paths as texts name them, without a look at any file.

A path has an anchor and parts. Empty parts and `.` count for nothing, and `..` is kept. Two
slashes at the start, and no more than two, are an anchor of their own.
-/

set_option autoImplicit false

namespace ApiClient

/-- Where a path starts. -/
inductive Path.Anchor
  | relative
  | root
  | doubleRoot
deriving DecidableEq, Repr, Inhabited

/-- A path: its anchor and its parts. -/
structure Path where
  anchor : Path.Anchor
  parts : List String
deriving DecidableEq, Repr, Inhabited

namespace Path

/-- The anchor as it is written. -/
def Anchor.text : Anchor → String
  | relative => ""
  | root => "/"
  | doubleRoot => "//"

/-- The anchor of a text. -/
def anchorOf : List Char → Anchor
  | '/' :: '/' :: '/' :: _ => .root
  | '/' :: '/' :: _ => .doubleRoot
  | '/' :: _ => .root
  | _ => .relative

/-- The stretches between slashes: the first one, then the others. -/
def splitSlashes : List Char → List Char × List (List Char)
  | [] => ([], [])
  | c :: cs =>
    let (first, others) := splitSlashes cs
    if c = '/' then ([], first :: others) else (c :: first, others)

/-- Whether a stretch between slashes is a part. -/
def isPart (part : List Char) : Bool := part != [] && part != ['.']

/-- The path of a text. -/
def ofText (text : String) : Path :=
  let cs := text.toList
  let (first, others) := splitSlashes cs
  ⟨anchorOf cs, ((first :: others).filter isPart).map String.ofList⟩

/-- A path as text; the empty one is a point. -/
def toText (p : Path) : String :=
  match p.anchor, p.parts with
  | .relative, [] => "."
  | anchor, parts => anchor.text ++ String.intercalate "/" parts

/-- A path below another one; one with an anchor stands alone. -/
def append (base p : Path) : Path :=
  if p.anchor = .relative then ⟨base.anchor, base.parts ++ p.parts⟩ else p

instance : Append Path := ⟨append⟩

/-- A text as a path below another one. -/
def child (base : Path) (text : String) : Path := base ++ ofText text

/-- Whether a path can be that of a file: the character NUL stands in none. -/
def isWellFormed (p : Path) : Bool := p.parts.all fun part => !part.toList.contains '\x00'

/-- The path without its last part. -/
def parent (p : Path) : Path := { p with parts := p.parts.dropLast }

/-- The last part, or nothing. -/
def fileName (p : Path) : String := p.parts.getLast?.getD ""

/-- The last dot of a name with what follows, unless the dot is at either end of the name. -/
def extensionOf (name : List Char) : List Char :=
  let tail := (name.reverse.takeWhile (· != '.')).reverse
  if tail.length + 1 < name.length && tail != [] then '.' :: tail else []

/-- The ending of the last part, from its last dot on. -/
def extension (p : Path) : String := String.ofList (extensionOf p.fileName.toList)

/-- Take `..` back to the part before it; above the root there is nothing. -/
def collapse (parts : List String) : List String :=
  parts.foldl (fun kept part => if part = ".." then kept.dropLast else kept ++ [part]) []

/-- The absolute path, without `..`, that a path names as seen from an absolute directory. -/
def resolve (directory p : Path) : Path := ⟨.root, collapse (directory ++ p).parts⟩

end Path

end ApiClient
