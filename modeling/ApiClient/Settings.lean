import ApiClient.Path

/-!
The settings of a run: the module to read, the documents to write, and forced types.

Unset directories and relative paths are taken from the directory of the settings file.
-/

set_option autoImplicit false

namespace ApiClient

/-- A type forced onto the parameters that match it by type name, attribute or constraint. -/
structure TypeMapping where
  sourceName : String
  targetName : String
  byAttribute : Bool
  byConstraint : Bool
  createdWhenAbsent : Bool
deriving DecidableEq, Repr, Inhabited

/-- Where a document goes, and the namespace it declares. -/
structure Output where
  directory : Option String
  fileName : String
  namespaceName : String
deriving DecidableEq, Repr, Inhabited

/-- The path of a document; no directory, or an empty one, is the current directory. -/
def Output.path (o : Output) : Path :=
  (Path.ofText (o.directory.getD "")).child o.fileName

/-- The settings of a run. -/
structure Settings where
  moduleFileName : String
  endpoints : Output
  service : Output
  generateEnums : Bool
  enums : Output
  generateInterfaces : Bool
  interfaces : Output
  scanOtherModules : Bool
  writeNamespaceAsModule : Bool
  typeMappings : List TypeMapping
deriving DecidableEq, Repr, Inhabited

namespace Settings

/-- The name of a settings file. -/
def fileName : String := "webapits.json"

/-- The keyword that opens a namespace. -/
def namespaceKeyword (s : Settings) : String :=
  if s.writeNamespaceAsModule then "module" else "namespace"

/-- The path of the module to read. -/
def modulePath (s : Settings) : Path := Path.ofText s.moduleFileName

/-- The settings with every path taken from a directory. -/
def inDirectory (directory : Path) (s : Settings) : Settings :=
  let place (o : Output) : Output :=
    { o with directory := some (directory.child (o.directory.getD "")).toText }
  { s with
    moduleFileName := (directory.child s.moduleFileName).toText
    endpoints := place s.endpoints
    service := place s.service
    enums := place s.enums
    interfaces := place s.interfaces }

end Settings

end ApiClient
