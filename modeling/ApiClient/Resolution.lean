import ApiClient.Refusal
import ApiClient.Settings
import ApiClient.Text.Case
import ApiClient.TypeStore

/-!
The TypeScript type of a reference.

The first rule that applies decides: a forced type; an enumeration; a known primitive; a class or
interface. Before the last three one `Nullable`, one array or collection around it, and one more
`Nullable` inside that are taken off. Resolving changes nothing: the types to be declared beside
the result are requested by their full names.
-/

set_option autoImplicit false

namespace ApiClient

/-- The TypeScript type of a reference, without the brackets of a collection. -/
structure ResolvedType where
  typeName : String
  isPrimitive : Bool
  isEnum : Bool
  isCollection : Bool
  mapping : Option TypeMapping
deriving DecidableEq, Repr, Inhabited

namespace ResolvedType

/-- The type as it is written. -/
def rendered (t : ResolvedType) : String :=
  if t.isCollection then t.typeName ++ "[]" else t.typeName

/-- Whether values are single strings. -/
def isString (t : ResolvedType) : Bool := t.typeName == "string" && !t.isCollection

/-- Whether values, or the items of a collection, are written as one text each. -/
def isScalar (t : ResolvedType) : Bool := t.isPrimitive || t.isEnum

end ResolvedType

/-- A type to be declared beside the endpoints, by its full name. -/
inductive Request
  | enum (fullName : String)
  | interface (fullName : String)
deriving DecidableEq, Repr

/-- A resolved type with the types it needs declared. -/
structure Resolution where
  resolved : ResolvedType
  requests : List Request
deriving DecidableEq, Repr

/-- The interface of objects that write their own query parameters. -/
def haveQueryParams : String := "IHaveQueryParams"

/-- The primitive types of TypeScript. -/
def targetPrimitives : List String := ["string", "number", "boolean", "any"]

/-- The TypeScript types of known primitives. -/
def primitiveTypes : List (String × String) := [
  ("System.String", "string"), ("System.Char", "string"), ("System.Guid", "string"),
  ("System.Boolean", "boolean"), ("System.Byte", "number"), ("System.SByte", "number"),
  ("System.Int16", "number"), ("System.Int32", "number"), ("System.Int64", "number"),
  ("System.UInt16", "number"), ("System.UInt32", "number"), ("System.UInt64", "number"),
  ("System.Single", "number"), ("System.Double", "number"), ("System.Decimal", "number"),
  ("System.Object", "any")]

/-- The type whose argument may be absent. -/
def nullableType : String := "System.Nullable`1"

/-- The collections with one argument. -/
def collectionTypes : List String := [
  "System.Collections.Generic.List`1", "System.Collections.Generic.IList`1",
  "System.Collections.Generic.ICollection`1", "System.Collections.Generic.IEnumerable`1",
  "System.Collections.Generic.IReadOnlyList`1",
  "System.Collections.Generic.IReadOnlyCollection`1", "System.Collections.Generic.HashSet`1",
  "System.Collections.Generic.ISet`1", "System.Collections.ObjectModel.Collection`1"]

namespace TypeRef

/-- The argument of a `Nullable`, or the reference itself. -/
def withoutNullable (r : TypeRef) : TypeRef :=
  match r.arguments with
  | [argument] => if r.name = nullableType then argument else r
  | _ => r

/-- The element of an array, or the argument of a collection. -/
def item? (r : TypeRef) : Option TypeRef :=
  match r.element, r.arguments with
  | some element, _ => some element
  | none, [argument] => if collectionTypes.contains r.name then some argument else none
  | none, _ => none

/-- What is left of a reference inside its wrappers. -/
def core (r : TypeRef) : TypeRef :=
  match r.withoutNullable.item? with
  | some item => item.withoutNullable
  | none => r.withoutNullable

/-- Whether the wrappers of a reference include an array or a collection. -/
def wrapsItems (r : TypeRef) : Bool := r.withoutNullable.item?.isSome

end TypeRef

/-- What references are resolved against. -/
structure Scope where
  store : TypeStore
  settings : Settings
deriving Repr, Inhabited

namespace Scope

/-- Whether a forced type matches a reference, its parameter or the constraints on it. -/
def matchesMapping (r : TypeRef) (parameter : Option Parameter) (constraints : List String)
    (m : TypeMapping) : Bool :=
  Text.startsWith m.sourceName r.fullName
    || (m.byAttribute
      && parameter.any fun p => hasTag p.attributes (m.sourceName ++ "Attribute"))
    || (m.byConstraint && constraints.contains (Text.lowerFirst m.sourceName))

/-- The first forced type that matches. -/
def findMapping? (s : Scope) (r : TypeRef) (parameter : Option Parameter)
    (constraints : List String) : Option TypeMapping :=
  s.settings.typeMappings.find? (matchesMapping r parameter constraints)

/-- The resolution by a forced type. -/
def ofMapping (s : Scope) (m : TypeMapping) : Resolution :=
  let isPrimitive := targetPrimitives.contains m.targetName
  { resolved :=
      { typeName := m.targetName
        isPrimitive := isPrimitive
        isEnum := isPrimitive || Text.startsWith s.settings.enums.namespaceName m.targetName
        isCollection := false
        mapping := some m }
    requests := [] }

/-- The resolution to an enumeration: declared, or a number when enumerations are not. -/
def ofEnum (s : Scope) (isCollection : Bool) (d : TypeDescriptor) : Resolution :=
  if s.settings.generateEnums then
    { resolved :=
        ⟨s.settings.enums.namespaceName ++ "." ++ d.name, false, true, isCollection, none⟩
      requests := [.enum d.fullName] }
  else ⟨⟨"number", true, true, isCollection, none⟩, []⟩

/-- The resolution to an object: a declared interface, or one that writes its own parameters. -/
def ofObject (s : Scope) (isCollection : Bool) (d : TypeDescriptor) : Resolution :=
  if s.settings.generateInterfaces then
    { resolved :=
        ⟨s.settings.interfaces.namespaceName ++ "." ++ d.name, false, false, isCollection, none⟩
      requests := [.interface d.fullName] }
  else ⟨⟨haveQueryParams, false, false, isCollection, none⟩, []⟩

/-- Whether a type can be declared as an interface. -/
def isObject (d : TypeDescriptor) : Bool := d.kind == .classType || d.kind == .interfaceType

/-- The resolution of a reference inside its wrappers, if a rule applies to it. -/
def ofCore? (s : Scope) (isCollection : Bool) (core : TypeRef) : Option Resolution :=
  let found := s.store.find? core.name
  match found.filter TypeDescriptor.isEnum with
  | some d => some (s.ofEnum isCollection d)
  | none =>
    match primitiveTypes.lookup core.fullName with
    | some name => some ⟨⟨name, true, false, isCollection, none⟩, []⟩
    | none =>
      match found.filter fun d => isObject d && !core.isGeneric && !core.isArray with
      | some d => some (s.ofObject isCollection d)
      | none => none

/-- The resolution of a reference, if a rule applies to it. -/
def resolve? (s : Scope) (r : TypeRef) (parameter : Option Parameter)
    (constraints : List String) : Option Resolution :=
  match s.findMapping? r parameter constraints with
  | some m => some (s.ofMapping m)
  | none => s.ofCore? r.wrapsItems r.core

/-- The resolution to a named type when no rule applies. -/
def ofFallback (r : TypeRef) (name : String) : Resolution :=
  ⟨⟨name, targetPrimitives.contains name, false, r.wrapsItems, none⟩, []⟩

/-- The resolution of a reference; where no rule applies, the fallback or a refusal. -/
def resolve (s : Scope) (r : TypeRef) (parameter : Option Parameter)
    (constraints : List String) (fallback : Option String) : Except Refusal Resolution :=
  match s.resolve? r parameter constraints, fallback with
  | some resolution, _ => .ok resolution
  | none, some name => .ok (ofFallback r name)
  | none, none => .error (.unsupportedType r.fullName (parameter.map Parameter.name) .unresolved)

/-- Whether a parameter may be left out: as declared, as a reference type, or as a `Nullable`. -/
def isOptional (s : Scope) (p : Parameter) : Bool :=
  p.optional || !s.store.isValueType p.type || p.type.name == nullableType

end Scope

end ApiClient
