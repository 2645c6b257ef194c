import ApiClient.Failure
import ApiClient.Form.Descriptor
import ApiClient.Form.Settings
import ApiClient.Json.Reader
import ApiClient.Text.Breaks
import ApiClient.TypeStore
import ApiClient.Yaml.Reader

/-!
Settings, modules and stores out of files.

A file is JSON unless its name ends as a YAML file. A module may refer to others, which are looked
for beside it; one that has no file is noted and left out, and one that has a file must load.
-/

set_option autoImplicit false

namespace ApiClient

/-- The format of a file, by the ending of its name in any letter case. -/
def Format.ofPath (p : Path) : Format :=
  let ending := String.ofList (p.extension.toList.flatMap Text.lowerChar)
  if ending = ".yaml" ∨ ending = ".yml" then .yaml else .json

/-- The tree that a text of a format stands for. -/
def Format.read : Format → String → Except ReadFault Data
  | json, text => Json.read text
  | yaml, text => Yaml.read text

/-- Fill a form from the tree of a file, which must be an object. -/
def Form.ofTree {α : Type} (form : Data → Verdict α) : Data → Except LoadFault α
  | .object members =>
    match form (.object members) with
    | .valid a => .ok a
    | .invalid issues => .error (.invalid issues)
  | _ => .error .notRecord

/-- Fill a form from the text of a file; a value that there is not is a crash. -/
def Form.ofText {α : Type} (subject : Subject) (form : Data → Verdict α) (p : Path)
    (text : String) : Except Stop α :=
  let format := Format.ofPath p
  let refuse (fault : LoadFault) : Except Stop α := .error (.failure (.load ⟨subject, p, fault⟩))
  match format.read text with
  | .error .malformed => refuse (.malformed format)
  | .error (.unfit reason) => .error (.crash (.unfit p reason))
  | .ok d =>
    match Form.ofTree form d with
    | .ok a => .ok a
    | .error fault => refuse fault

/-- Fill a form from the bytes of a file, if there are any. -/
def Form.ofFile {α : Type} (subject : Subject) (form : Data → Verdict α) (p : Path) :
    Except DiskError ByteArray → Except Stop α
  | .error e =>
    match e.fault with
    | .malformedPath => .error (.crash (.disk e))
    | .notFound => .error (.failure (.load ⟨subject, p, .missing⟩))
    | _ => .error (.failure (.load ⟨subject, p, .unreadable e⟩))
  | .ok bytes =>
    match Text.decode? bytes with
    | none => .error (.crash (.undecodable p))
    | some text => Form.ofText subject form p text

/-- What follows the name of a module in the name of its file. -/
def ModuleDescriptor.fileEnding (d : ModuleDescriptor) (p : Path) : String :=
  if Text.startsWith d.name p.fileName then
    String.ofList (p.fileName.toList.drop d.name.length)
  else p.extension

/-- The first mentions of names, apart from names that are known. -/
def firstMentions (known : List String) : List String → List String
  | [] => []
  | name :: rest =>
    if known.contains name then firstMentions known rest
    else name :: firstMentions (name :: known) rest

/-- The other modules that a module refers to, each once. -/
def ModuleDescriptor.otherModules (d : ModuleDescriptor) : List String :=
  firstMentions [d.name] d.references

/-- A module that is referred to and has no file. -/
structure MissingModule where
  name : String
  path : Path
deriving DecidableEq, Repr

/-- A missing module in words. -/
def MissingModule.message (w : MissingModule) : String :=
  "Referenced module '" ++ w.name ++ "' not found at '" ++ w.path.toText ++ "', skipping"

/-- The types of the modules beside a module, and the modules that are missing. -/
structure Surroundings where
  types : List TypeDescriptor
  missing : List MissingModule
deriving Repr

/-- A store with the modules that were missing when it was loaded. -/
structure LoadedStore where
  store : TypeStore
  missing : List MissingModule
deriving Repr

namespace Loading

variable {m : Type → Type} [Monad m] [Disk m]

/-- Load a file through a form. -/
def file {α : Type} (subject : Subject) (form : Data → Verdict α) (p : Path) : ExceptT Stop m α :=
  ExceptT.mk do return Form.ofFile subject form p (← Disk.read p)

/-- The absolute path that a path names; that there is none is a crash. -/
def absolute (p : Path) : ExceptT Stop m Path :=
  ExceptT.mk do
    match ← Disk.absolute p with
    | .ok found => return .ok found
    | .error e => return .error (.crash (.disk e))

/-- Load settings; their paths are taken from the directory of the file. -/
def settings (p : Path) : ExceptT Stop m Settings := do
  let written ← file .settings Form.settings p
  return written.inDirectory (← absolute p.parent)

/-- Load a module. -/
def descriptor (p : Path) : ExceptT Stop m ModuleDescriptor :=
  file .descriptor Form.moduleDescriptor p

/-- Whether there is a file; that it cannot be told is a crash. -/
def isPresent (p : Path) : ExceptT Stop m Bool :=
  ExceptT.mk do
    match ← Disk.isPresent p with
    | .ok found => return .ok found
    | .error e => return .error (.crash (.disk e))

/-- Load modules in order, each from its place. -/
def surroundings (place : String → Path) : List String → ExceptT Stop m Surroundings
  | [] => return ⟨[], []⟩
  | name :: rest => do
    if ← isPresent (place name) then
      let d ← descriptor (place name)
      let others ← surroundings place rest
      return { others with types := d.types ++ others.types }
    else
      let others ← surroundings place rest
      return { others with missing := ⟨name, place name⟩ :: others.missing }

/-- Load the store of a module, with or without the modules it refers to. -/
def store (p : Path) (scanOthers : Bool) : ExceptT Stop m LoadedStore := do
  let d ← descriptor p
  if scanOthers then
    let place (name : String) : Path := p.parent.child (name ++ d.fileEnding p)
    let others ← surroundings place d.otherModules
    return ⟨⟨d.types, others.types⟩, others.missing⟩
  else return ⟨⟨d.types, []⟩, []⟩

end Loading

end ApiClient
