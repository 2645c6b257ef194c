import ApiClient.Code
import ApiClient.Declarations

/-!
The documents of the enumerations and interfaces that are declared beside the endpoints.
-/

set_option autoImplicit false

namespace ApiClient.Document

open Code

/-- The declaration of an enumeration. -/
def enumBlock (d : TypeDescriptor) : Code :=
  plain ("export enum " ++ d.name)
    (d.members.map fun m => .statement (m.name ++ " = " ++ toString m.value ++ ","))

/-- The declaration of an interface. -/
def interfaceBlock (e : InterfaceEntry) : Code :=
  let base := match e.base with
    | some name => " extends " ++ name
    | none => ""
  plain ("export interface " ++ e.descriptor.name ++ base)
    (e.fields.map fun f => .statement (f.name ++ ": " ++ f.typeName ++ ";"))

/-- The document of the enumerations. -/
def enums (s : Settings) (t : Declarations) : Code :=
  plain (s.namespaceKeyword ++ " " ++ s.enums.namespaceName) (t.enums.map enumBlock)

/-- The document of the interfaces. -/
def interfaces (s : Settings) (t : Declarations) : Code :=
  plain (s.namespaceKeyword ++ " " ++ s.interfaces.namespaceName)
    (t.interfaces.map interfaceBlock)

end ApiClient.Document
