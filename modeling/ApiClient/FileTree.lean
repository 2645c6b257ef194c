import ApiClient.Disk

/-!
A tree of files as a value.

Every node is kept under the list of names that leads to it from the root, which is a directory.
A path is followed name by name; each name but the last one has to lead to a directory, and `..`
leads to the directory around the one reached. Names are limited to 255 bytes, and paths to 4095.
-/

set_option autoImplicit false

namespace ApiClient

/-- A file with its bytes, or a directory. -/
inductive FileTree.Node
  | file (bytes : ByteArray)
  | directory

/-- The nodes below the root, and the directory that relative paths start from. -/
structure FileTree where
  workingDirectory : List String
  nodes : List (List String × FileTree.Node)

namespace FileTree

/-- A tree with its root alone. -/
def empty : FileTree := ⟨[], []⟩

/-- What stands under a list of names. -/
def node? (t : FileTree) (names : List String) : Option Node :=
  if names = [] then some .directory else t.nodes.lookup names

/-- Where a path leads: to a node, or to a free name in a directory. -/
structure Place where
  names : List String
  node : Option Node

/-- The place of the directory that relative paths start from, or of the root. -/
def origin (t : FileTree) (p : Path) : Place :=
  let names := if p.anchor = .relative then t.workingDirectory else []
  ⟨names, t.node? names⟩

/-- Follow one name from a place. -/
def follow (t : FileTree) (place : Place) (name : String) : Except DiskFault Place :=
  match place.node with
  | none => .error .notFound
  | some (.file _) => .error .notDirectory
  | some .directory =>
    if name = ".." then .ok ⟨place.names.dropLast, some .directory⟩
    else if 255 < name.utf8ByteSize then .error .nameTooLong
    else .ok ⟨place.names ++ [name], t.node? (place.names ++ [name])⟩

/-- Follow names in order. -/
def followAll (t : FileTree) (place : Place) : List String → Except DiskFault Place
  | [] => .ok place
  | name :: rest =>
    match t.follow place name with
    | .error fault => .error fault
    | .ok next => t.followAll next rest

/-- Where a path leads. -/
def locate (t : FileTree) (p : Path) : Except DiskFault Place :=
  if !p.isWellFormed then .error .malformedPath
  else if 4095 < p.toText.utf8ByteSize then .error .nameTooLong
  else t.followAll (t.origin p) p.parts

/-- Put a node in the place of another one with the same names, or at the end. -/
def putNode (names : List String) (n : Node) :
    List (List String × Node) → List (List String × Node)
  | [] => [(names, n)]
  | (k, old) :: rest => if k = names then (k, n) :: rest else (k, old) :: putNode names n rest

/-- The tree with a node set. -/
def set (names : List String) (n : Node) (t : FileTree) : FileTree :=
  { t with nodes := putNode names n t.nodes }

@[simp] theorem lookup_putNode (names other : List String) (n : Node)
    (nodes : List (List String × Node)) :
    (putNode names n nodes).lookup other
      = if other = names then some n else nodes.lookup other := by
  induction nodes with
  | nil =>
    by_cases h : other = names
    · simp [putNode, h]
    · simp [putNode, List.lookup_cons, h, beq_eq_false_iff_ne.mpr h]
  | cons first rest ih =>
    obtain ⟨k, old⟩ := first
    by_cases same : k = names
    · subst same
      by_cases h : other = k
      · simp [putNode, h]
      · simp [putNode, List.lookup_cons, h, beq_eq_false_iff_ne.mpr h]
    · by_cases h : other = k
      · subst h
        simp [putNode, same]
      · simp [putNode, same, List.lookup_cons, beq_eq_false_iff_ne.mpr h, ih]

@[simp] theorem workingDirectory_set (names : List String) (n : Node) (t : FileTree) :
    (t.set names n).workingDirectory = t.workingDirectory := rfl

theorem node?_set_self {names : List String} (n : Node) (t : FileTree) (h : names ≠ []) :
    (t.set names n).node? names = some n := by
  simp [node?, set, h]

theorem node?_set_of_ne {names other : List String} (n : Node) (t : FileTree)
    (h : other ≠ names) : (t.set names n).node? other = t.node? other := by
  simp [node?, set, h]

/-- What stands at a path. -/
def kindOf (t : FileTree) (p : Path) : Except DiskFault NodeKind :=
  match t.locate p with
  | .error fault => .error fault
  | .ok ⟨_, none⟩ => .error .notFound
  | .ok ⟨_, some (.file _)⟩ => .ok .file
  | .ok ⟨_, some .directory⟩ => .ok .directory

/-- The bytes of the file at a path. -/
def read (t : FileTree) (p : Path) : Except DiskFault ByteArray :=
  match t.locate p with
  | .error fault => .error fault
  | .ok ⟨_, none⟩ => .error .notFound
  | .ok ⟨_, some (.file bytes)⟩ => .ok bytes
  | .ok ⟨_, some .directory⟩ => .error .isDirectory

/-- The tree with a file written. -/
def write (p : Path) (bytes : ByteArray) (t : FileTree) : Except DiskFault FileTree :=
  match t.locate p with
  | .error fault => .error fault
  | .ok ⟨_, some .directory⟩ => .error .isDirectory
  | .ok ⟨names, _⟩ => .ok (t.set names (.file bytes))

/-- The tree with a directory made. -/
def makeDirectory (p : Path) (t : FileTree) : Except DiskFault FileTree :=
  match t.locate p with
  | .error fault => .error fault
  | .ok ⟨_, some _⟩ => .error .fileExists
  | .ok ⟨names, none⟩ => .ok (t.set names .directory)

/-- A look at a tree, as an operation on files. -/
def look {α : Type} (p : Path) (f : FileTree → Except DiskFault α) :
    StateM FileTree (Except DiskError α) := do
  match f (← get) with
  | .ok a => return .ok a
  | .error fault => return .error ⟨fault, p⟩

/-- A change of a tree, as an operation on files; one that fails changes nothing. -/
def change (p : Path) (f : FileTree → Except DiskFault FileTree) :
    StateM FileTree (Except DiskError Unit) := do
  match f (← get) with
  | .ok t =>
    StateT.set t
    return .ok ()
  | .error fault => return .error ⟨fault, p⟩

instance : Disk (StateM FileTree) where
  workingDirectory := do return ⟨.root, (← get).workingDirectory⟩
  kindOf p := look p fun t => t.kindOf p
  read p := look p fun t => t.read p
  write p bytes := change p fun t => t.write p bytes
  makeDirectory p := change p fun t => t.makeDirectory p

end FileTree

end ApiClient
