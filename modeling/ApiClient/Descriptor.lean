import ApiClient.Attribute
import ApiClient.TypeRef

/-!
Descriptions of the types of a module, with their members.

A module lists its types and the names of the modules it refers to. A type is a class, structure,
enumeration, interface or primitive; its short name is what stands after the last dot and the
last slash of its full name.
-/

set_option autoImplicit false

namespace ApiClient

/-- A parameter of a method. -/
structure Parameter where
  name : String
  type : TypeRef
  optional : Bool
  attributes : List Attribute
deriving Repr, Inhabited

/-- A method of a type. -/
structure Method where
  name : String
  isPublic : Bool
  isStatic : Bool
  isConstructor : Bool
  isSpecialName : Bool
  parameters : List Parameter
  attributes : List Attribute
deriving Repr, Inhabited

/-- A field of a type. -/
structure Field where
  name : String
  type : TypeRef
deriving Repr, Inhabited

/-- A constant of an enumeration. -/
structure EnumMember where
  name : String
  value : Int
deriving DecidableEq, Repr, Inhabited

/-- What a type is. -/
inductive TypeKind
  | classType
  | structType
  | enumType
  | interfaceType
  | primitiveType
deriving DecidableEq, Repr, Inhabited

namespace TypeKind

/-- All kinds. -/
def all : List TypeKind := [.classType, .structType, .enumType, .interfaceType, .primitiveType]

/-- The name of a kind. -/
def name : TypeKind → String
  | .classType => "class"
  | .structType => "struct"
  | .enumType => "enum"
  | .interfaceType => "interface"
  | .primitiveType => "primitive"

/-- The kind of a name. -/
def ofName? (name : String) : Option TypeKind := all.find? fun k => k.name == name

end TypeKind

/-- A type of a module. -/
structure TypeDescriptor where
  fullName : String
  kind : TypeKind
  isAbstract : Bool
  baseType : Option TypeRef
  attributes : List Attribute
  fields : List Field
  methods : List Method
  members : List EnumMember
deriving Repr, Inhabited

namespace TypeDescriptor

/-- The name without namespace and declaring types. -/
def name (d : TypeDescriptor) : String :=
  String.ofList (Text.afterLast '/' (Text.afterLast '.' d.fullName.toList))

/-- What stands before the last dot of the full name. -/
def namespaceName (d : TypeDescriptor) : String :=
  String.ofList (Text.beforeLast '.' d.fullName.toList)

/-- Whether a type is an enumeration. -/
def isEnum (d : TypeDescriptor) : Bool := d.kind == .enumType

/-- Whether values of a type are held directly and are never absent. -/
def isValueType (d : TypeDescriptor) : Bool :=
  d.kind == .structType || d.kind == .enumType || d.kind == .primitiveType

end TypeDescriptor

/-- A module: its name, the modules it refers to, and its types. -/
structure ModuleDescriptor where
  name : String
  references : List String
  types : List TypeDescriptor
deriving Repr, Inhabited

end ApiClient
