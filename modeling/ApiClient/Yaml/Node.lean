import ApiClient.Yaml.Value

/-!
The nodes of a YAML document, each with the tree that it stands for.

Any node may be written as a key, but only single values can be keys of a tree. Under the sign of a
merge stand members that a mapping takes over from other mappings; they come ahead of its own. A
set is the list of its keys, and a list of pairs the list of lists of two.

Of the faults of a document the outermost one counts, and of those at the same depth the first:
the members and items of a node come before those further down, and a key before its value. A node
that is written once and referred to many times has its tree made once.
-/

set_option autoImplicit false

namespace ApiClient.Yaml

/-- The tree of a node, if there is one, and the first fault at each depth from the node on. -/
structure Meaning where
  data : Option Data
  faults : List (Option ReadFault)
deriving Repr, Inhabited

/-- A node with its kind. A mapping has its members as written, and with its merges carried out if
that can be done. -/
inductive Node
  | scalar (tag : Tag) (text : List Char)
  | list (tag : Tag) (items : List Node) (meaning : Meaning)
  | mapping (tag : Tag) (members : List (Node × Node)) (merged : Option (List (Node × Node)))
    (meaning : Meaning)
deriving Repr, Inhabited

namespace Meaning

/-- The first faults at each depth of two neighbours. -/
def both : List (Option ReadFault) → List (Option ReadFault) → List (Option ReadFault)
  | [], others => others
  | faults, [] => faults
  | fault :: faults, other :: others => fault.or other :: both faults others

/-- The first faults at each depth of neighbours. -/
def all (neighbours : List (List (Option ReadFault))) : List (Option ReadFault) :=
  neighbours.foldr both []

/-- A single value, or the fault instead of it. -/
def ofValue : Except ReadFault Scalar → Meaning
  | .ok value => ⟨some (.scalar value), [none]⟩
  | .error fault => ⟨none, [some fault]⟩

/-- A collection that is refused when its parts are read. -/
def misfit : Meaning := ⟨none, [none, some .malformed]⟩

end Meaning

namespace Node

/-- A place where nothing is written. -/
def nothing : Node := .scalar .null []

/-- The kind of a node. -/
def tag : Node → Tag
  | .scalar tag _ | .list tag _ _ | .mapping tag _ _ _ => tag

mutual

/-- The text of a node that is to be a single value: its own, or that of its default member. -/
def scalarText? : Node → Option (List Char)
  | .scalar _ cs => some cs
  | .list _ _ _ => none
  | .mapping _ members _ _ => defaultText? members

/-- The text of the default member, if there is one. -/
def defaultText? : List (Node × Node) → Option (List Char)
  | [] => none
  | (key, value) :: rest => if key.tag = .default then scalarText? value else defaultText? rest

end

/-- The single value that a text is as one of a kind. -/
def valueOf (tag : Tag) (text : Option (List Char)) : Except ReadFault Scalar :=
  text.elim (.error .malformed) tag.value

/-- What a node stands for. -/
def meaning : Node → Meaning
  | .scalar tag cs => if tag.isCollection then .misfit else .ofValue (tag.value cs)
  | .list _ _ m | .mapping _ _ _ m => m

/-- The key that a node makes; the sign of defaults is a text there. -/
def asKey (n : Node) : Except ReadFault Scalar :=
  valueOf (if n.tag = .default then .text else n.tag) n.scalarText?

/-- The members of a mapping, with its merges carried out. -/
def merged? : Node → Option (List (Node × Node))
  | .mapping _ _ merged _ => merged
  | _ => none

/-- The members that stand under the sign of a merge: those of a mapping, or of the mappings of a
list, of which the last comes first. -/
def source? : Node → Option (List (Node × Node))
  | .list _ items _ => (items.reverse.mapM merged?).map List.flatten
  | n => n.merged?

/-- Members with those of the merges among them ahead, if all merges can be carried out. -/
def merge (members : List (Node × Node)) : Option (List (Node × Node)) :=
  let (merges, own) := members.partition fun member => member.1.tag == .merge
  ((merges.map Prod.snd).mapM source?).map fun sources => sources.flatten ++ own

/-- The faults of a member: its key is made with it, and its value is there to be read. -/
def memberFaults (member : Node × Node) : List (Option ReadFault) :=
  match member.1.asKey with
  | .ok _ => member.2.meaning.faults
  | .error fault => [some fault]

/-- The key and the tree of a member. -/
def entry? (member : Node × Node) : Option (Scalar × Data) := do
  return (← member.1.asKey.toOption, ← member.2.meaning.data)

/-- The tree of the members of a mapping or of the keys of a set, with their faults. -/
def meaningOfMembers (make : List (Scalar × Data) → Data) (merged : Option (List (Node × Node))) :
    Meaning :=
  match merged with
  | none => .misfit
  | some members =>
    ⟨(members.mapM entry?).map make, none :: Meaning.all (members.map memberFaults)⟩

/-- The list of the different keys of entries. -/
def keysOf (entries : List (Scalar × Data)) : Data :=
  .list ((entries.foldl (fun found (key, value) => Data.put key value found) []).map
    fun (key, _) => .scalar key)

/-- The key and the value of a pair, which is written as a mapping of one member. -/
def pair? : Node → Option (Node × Node)
  | .mapping _ [member] _ _ => some member
  | _ => none

/-- A pair as a list of two, with its faults. -/
def pairMeaning (n : Node) : Meaning :=
  match n.pair? with
  | none => ⟨none, [some .malformed]⟩
  | some (key, value) =>
    ⟨do return .list [← key.meaning.data, ← value.meaning.data],
      Meaning.both key.meaning.faults value.meaning.faults⟩

/-- A list of parts with their faults. -/
def meaningOfItems (parts : List Meaning) : Meaning :=
  ⟨(parts.mapM Meaning.data).map .list, none :: Meaning.all (parts.map Meaning.faults)⟩

/-- A list of a kind. -/
def ofItems (tag : Tag) (items : List Node) : Node :=
  .list tag items <|
    if tag = .list then meaningOfItems (items.map meaning)
    else if tag = .pairs then meaningOfItems (items.map pairMeaning)
    else if tag.isCollection then .misfit
    else .ofValue (.error .malformed)

/-- A mapping of a kind. -/
def ofMembers (tag : Tag) (members : List (Node × Node)) : Node :=
  let merged := merge members
  .mapping tag members merged <|
    if tag = .mapping then meaningOfMembers Data.ofPairs merged
    else if tag = .set then meaningOfMembers keysOf merged
    else if tag.isCollection then .misfit
    else .ofValue (valueOf tag (defaultText? members))

/-- The tree of a node, or the fault that counts. -/
def decode (n : Node) : Except ReadFault Data :=
  match n.meaning.data with
  | some d => .ok d
  | none => .error ((n.meaning.faults.findSome? id).getD .malformed)

end Node

end ApiClient.Yaml
