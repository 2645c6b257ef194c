import ApiClient.Yaml.Node
import ApiClient.Yaml.Tokens

/-!
The document of a YAML text.

A text holds at most one document. A token is looked at only when the grammar asks for it, so a
fault of the text counts when no settled token is left, and a fault against the grammar before
that. A reference stands for the whole node of its anchor. No tree is infinite, so one from inside
that node stands for the node with empty collections in place of the references from inside.
-/

set_option autoImplicit false

namespace ApiClient.Yaml

/-- What is left of a text, the fault at its end, the handles of tags, the nodes with anchors, and
the names of all references so far. -/
structure Source where
  tokens : List Token
  ending : ReadFault
  handles : List (String × String)
  anchors : List (String × Node)
  references : List String

/-- A reader of a part of a document. -/
abbrev Parse (α : Type) := StateT Source (Except ReadFault) α

namespace Parse

/-- A fault against the grammar. -/
def refuse {α : Type} : Parse α := throw .malformed

/-- The token that comes next. -/
def peek : Parse Token := do
  match (← get).tokens with
  | t :: _ => return t
  | [] => throw (← get).ending

/-- Go past a token. -/
def skip : Parse Unit := modify fun s => { s with tokens := s.tokens.drop 1 }

/-- What a tag names in full, if its handle is known. -/
def uriOf (handle : Option String) (suffix : String) : Parse String := do
  match handle with
  | none => return suffix
  | some name =>
    match (← get).handles.lookup name with
    | some start => return start ++ suffix
    | none => refuse

/-- The tag at the next token, if there is one. -/
def tag? : Parse (Option (Option String × String)) := do
  match ← peek with
  | .tag handle suffix =>
    skip
    return some (handle, suffix)
  | _ => return none

/-- The anchor at the next token, if there is one. -/
def anchor? : Parse (Option String) := do
  match ← peek with
  | .anchor name =>
    skip
    return some name
  | _ => return none

/-- The anchor and the tag of a node, in either order; the exclamation mark alone says nothing. -/
def properties : Parse (Option String × Option String) := do
  let early ← anchor?
  let tag ← tag?
  let anchor ← if early.isNone && tag.isSome then anchor? else pure early
  let uri ← tag.mapM fun (handle, suffix) => uriOf handle suffix
  return (anchor, uri)

/-- The kind of a node with a tag in full, or of one without. -/
def kindOf (uri : Option String) (otherwise : Tag) : Tag :=
  match uri with
  | none => otherwise
  | some uri => if uri == "!" then otherwise else Tag.ofUri uri

/-- The kind of a scalar. After an exclamation mark alone even a quoted one has a kind by its
spelling. -/
def scalarKind (uri : Option String) (text : List Char) (plain : Bool) : Tag :=
  kindOf uri (if plain || uri.isSome then Tag.ofSpelling text else .text)

/-- Give a node its anchor. -/
def anchorTo (name : String) (n : Node) : Parse Unit :=
  modify fun s => { s with anchors := (name, n) :: s.anchors }

/-- Refuse a second anchor of a name. -/
def checkAnchor (anchor : Option String) : Parse Unit := do
  if let some name := anchor then
    if ((← get).anchors.lookup name).isSome then refuse

/-- A collection with an anchor, which stands for `inner` inside it. -/
def anchored {α : Type} (name : String) (make : List α → Node) (parts : Parse (List α))
    (inner : Node) : Parse Node := do
  anchorTo name inner
  let n := make (← parts)
  anchorTo name n
  return n

/-- A collection. It is read again if its parts refer to it. -/
def collection {α : Type} (anchor : Option String) (make : List α → Node)
    (parts : Parse (List α)) : Parse Node := do
  checkAnchor anchor
  match anchor with
  | none => return make (← parts)
  | some name =>
    let start ← get
    let n ← anchored name make parts (make [])
    if (← get).references.contains name then
      set start
      anchored name make parts n
    else return n

/-- A scalar with an anchor. -/
def scalar (anchor : Option String) (tag : Tag) (text : List Char) : Parse Node := do
  checkAnchor anchor
  let n := Node.scalar tag text
  if let some name := anchor then anchorTo name n
  return n

/-- The node of a reference. -/
def referenced (name : String) : Parse Node := do
  modify fun s => { s with references := name :: s.references }
  match (← get).anchors.lookup name with
  | some n => return n
  | none => refuse

/-- Whether a token ends a key or a value of a block. -/
def endsMember : Token → Bool
  | .key | .value | .blockEnd => true
  | _ => false

/-- Whether a token ends a key or a value between brackets. -/
def endsFlow (closing : Token → Bool) : Token → Bool
  | .comma => true
  | t => closing t

/-- A closing bracket of a list. -/
def closesList : Token → Bool
  | .closeList => true
  | _ => false

/-- A closing bracket of a mapping. -/
def closesMapping : Token → Bool
  | .closeMapping => true
  | _ => false

/-- A node that may be left out before some tokens. -/
def orNothing (ends : Token → Bool) (node : Parse Node) : Parse Node := do
  if ends (← peek) then return Node.nothing else node

/-- A value after its sign, if there is one. -/
def valueAfter (ends : Token → Bool) (node : Parse Node) : Parse Node := do
  match ← peek with
  | .value =>
    skip
    orNothing ends node
  | _ => return Node.nothing

/-- A node of which only an anchor or a tag is written. -/
def empty (anchor uri : Option String) : Parse Node :=
  if anchor.isSome || uri.isSome then scalar anchor (scalarKind uri [] uri.isNone) [] else refuse

/-- The comma ahead of an item between brackets. -/
def separator (first : Bool) : Parse Unit := do
  if !first then
    match ← peek with
    | .comma => skip
    | _ => refuse

mutual

/-- A node, which may be a block, and as a part of a mapping a list of the same column. -/
def node : Nat → Bool → Bool → Parse Node
  | 0, _, _ => refuse
  | fuel + 1, block, aligned => do
    match ← peek with
    | .reference name =>
      skip
      referenced name
    | _ =>
      let (anchor, uri) ← properties
      match ← peek with
      | .scalar text plain =>
        skip
        scalar anchor (scalarKind uri text plain) text
      | .openList =>
        skip
        collection anchor (.ofItems (kindOf uri .list)) (flowItems fuel true)
      | .openMapping =>
        skip
        collection anchor (.ofMembers (kindOf uri .mapping)) (flowMembers fuel true)
      | .dash =>
        if aligned then collection anchor (.ofItems (kindOf uri .list)) (alignedItems fuel)
        else empty anchor uri
      | .blockList =>
        if block then
          skip
          collection anchor (.ofItems (kindOf uri .list)) (blockItems fuel)
        else empty anchor uri
      | .blockMapping =>
        if block then
          skip
          collection anchor (.ofMembers (kindOf uri .mapping)) (blockMembers fuel)
        else empty anchor uri
      | _ => empty anchor uri

/-- The items of a list in a block of its own. -/
def blockItems : Nat → Parse (List Node)
  | 0 => refuse
  | fuel + 1 => do
    match ← peek with
    | .dash =>
      skip
      let item ← orNothing (fun t => t matches .dash | .blockEnd) (node fuel true false)
      return item :: (← blockItems fuel)
    | .blockEnd =>
      skip
      return []
    | _ => refuse

/-- The items of a list at the column of the mapping that it is a part of. -/
def alignedItems : Nat → Parse (List Node)
  | 0 => refuse
  | fuel + 1 => do
    match ← peek with
    | .dash =>
      skip
      let item ← orNothing (fun t => t matches .dash || endsMember t) (node fuel true false)
      return item :: (← alignedItems fuel)
    | _ => return []

/-- The members of a mapping in a block. -/
def blockMembers : Nat → Parse (List (Node × Node))
  | 0 => refuse
  | fuel + 1 => do
    match ← peek with
    | .key =>
      skip
      let key ← orNothing endsMember (node fuel true true)
      let value ← valueAfter endsMember (node fuel true true)
      return (key, value) :: (← blockMembers fuel)
    | .blockEnd =>
      skip
      return []
    | _ => refuse

/-- The items of a list between brackets, of which a comma stands ahead of all but the first. -/
def flowItems : Nat → Bool → Parse (List Node)
  | 0, _ => refuse
  | fuel + 1, first => do
    if closesList (← peek) then
      skip
      return []
    else
      separator first
      match ← peek with
      | .closeList =>
        skip
        return []
      | .key =>
        skip
        let ends := endsFlow closesList
        let key ← orNothing (fun t => t matches .value || ends t) (node fuel false false)
        let value ← valueAfter ends (node fuel false false)
        return .ofMembers .mapping [(key, value)] :: (← flowItems fuel false)
      | _ =>
        let item ← node fuel false false
        return item :: (← flowItems fuel false)

/-- The members of a mapping between brackets; a node alone is a key. -/
def flowMembers : Nat → Bool → Parse (List (Node × Node))
  | 0, _ => refuse
  | fuel + 1, first => do
    if closesMapping (← peek) then
      skip
      return []
    else
      separator first
      match ← peek with
      | .closeMapping =>
        skip
        return []
      | .key =>
        skip
        let ends := endsFlow closesMapping
        let key ← orNothing (fun t => t matches .value || ends t) (node fuel false false)
        let value ← valueAfter ends (node fuel false false)
        return (key, value) :: (← flowMembers fuel false)
      | _ =>
        let key ← node fuel false false
        return (key, Node.nothing) :: (← flowMembers fuel false)

end

/-- The handles that need no directive. -/
def standardHandles : List (String × String) := [("!", "!"), ("!!", standardUri)]

/-- The directives ahead of a document: one version, whose first part is one, and different
handles. -/
def directives : Nat → Bool → Parse Unit
  | 0, _ => refuse
  | fuel + 1, versioned => do
    match ← peek with
    | .version major =>
      skip
      if versioned || major != 1 then refuse else directives fuel true
    | .handle name uri =>
      skip
      if ((← get).handles.lookup name).isSome then refuse
      else
        modify fun s => { s with handles := (name, uri) :: s.handles }
        directives fuel versioned
    | .directive =>
      skip
      directives fuel versioned
    | _ => modify fun s => { s with handles := s.handles ++ standardHandles }

/-- Pass over the marks of a document's end. -/
def skipEnds : Nat → Parse Unit
  | 0 => refuse
  | fuel + 1 => do
    match ← peek with
    | .documentEnd =>
      skip
      skipEnds fuel
    | _ => return

/-- A document after its directives and its mark. -/
def marked (fuel : Nat) : Parse Node := do
  directives fuel false
  match ← peek with
  | .documentStart =>
    skip
    match ← peek with
    | .version _ | .handle _ _ | .directive | .documentStart | .documentEnd | .textEnd =>
      return Node.nothing
    | _ => node fuel true false
  | _ => refuse

/-- The only document of a text; a text without one stands for nothing. -/
def document (fuel : Nat) : Parse Node := do
  let n ← match ← peek with
    | .textEnd => return Node.nothing
    | .version _ | .handle _ _ | .directive | .documentStart => marked fuel
    | _ =>
      modify fun s => { s with handles := standardHandles }
      node fuel true false
  skipEnds fuel
  match ← peek with
  | .textEnd => return n
  | _ =>
    modify fun s => { s with handles := [] }
    directives fuel false
    refuse

end Parse

/-- The document of a text. Every four steps take a token, so fuel lasts. -/
def documentOf (cs : List Char) : Except ReadFault Node :=
  let (tokens, fault) := tokensOf cs
  (Parse.document (4 * tokens.length + 8)).run'
    ⟨tokens, fault.getD .malformed, [], [], []⟩

end ApiClient.Yaml
