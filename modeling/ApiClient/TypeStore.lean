import ApiClient.Descriptor

/-!
The types that a run can see: those of the module itself, then those of the modules it refers to.

Of several types with one full name the first is found. Inheritance is followed through the types
that are seen, each at most once, so that a cycle comes to an end.
-/

set_option autoImplicit false

namespace ApiClient

/-- The types of a module and of the modules it refers to. -/
structure TypeStore where
  primary : List TypeDescriptor
  referenced : List TypeDescriptor
deriving Repr, Inhabited

namespace TypeStore

/-- All types, in order. -/
def all (s : TypeStore) : List TypeDescriptor := s.primary ++ s.referenced

/-- The first type with a full name. -/
def find? (s : TypeStore) (fullName : String) : Option TypeDescriptor :=
  s.all.find? fun d => d.fullName = fullName

/-- The types that are still to be visited once a full name has been. -/
def without (fullName : String) (types : List TypeDescriptor) : List TypeDescriptor :=
  types.filter fun d => d.fullName ≠ fullName

theorem length_without_lt {fullName : String} {types : List TypeDescriptor} {d : TypeDescriptor}
    (h : types.find? (fun d => d.fullName = fullName) = some d) :
    (without fullName types).length < types.length := by
  have member := List.mem_of_find?_eq_some h
  have named : d.fullName = fullName := by simpa using List.find?_some h
  refine List.length_filter_lt_length_iff_exists.mpr ⟨d, member, ?_⟩
  simp [named]

/-- Follow base types through the types not visited yet, looking for a name. -/
def inheritsFrom (baseName : String) (unvisited : List TypeDescriptor) :
    Option TypeRef → Bool
  | none => false
  | some base =>
    if base.name = baseName then true
    else
      match _h : unvisited.find? fun d => d.fullName = base.name with
      | none => false
      | some d => inheritsFrom baseName (without base.name unvisited) d.baseType
termination_by unvisited.length
decreasing_by exact length_without_lt _h

/-- Whether a type has a base of a name, directly or through the types that are seen. -/
def derivesFrom (s : TypeStore) (d : TypeDescriptor) (baseName : String) : Bool :=
  inheritsFrom baseName (without d.fullName s.all) d.baseType

/-- The base of the controllers of a module. -/
def apiController : String := "System.Web.Http.ApiController"

/-- The ending of the names of controllers. -/
def controllerEnding : String := "Controller"

/-- The concrete classes of the module that are named as controllers and derive from a base. -/
def controllers (s : TypeStore) (base : String) : List TypeDescriptor :=
  s.primary.filter fun d =>
    d.kind == .classType && !d.isAbstract && Text.endsWith controllerEnding d.name
      && s.derivesFrom d base

/-- Value types that modules seldom define themselves. -/
def knownValueTypes : List String := [
  "System.Boolean", "System.Byte", "System.SByte", "System.Char", "System.Int16", "System.Int32",
  "System.Int64", "System.UInt16", "System.UInt32", "System.UInt64", "System.Single",
  "System.Double", "System.Decimal", "System.DateTime", "System.DateTimeOffset",
  "System.TimeSpan", "System.Guid", "System.Nullable`1",
  "System.Collections.Generic.KeyValuePair`2"]

/-- Whether a reference names a value type. -/
def isValueType (s : TypeStore) (r : TypeRef) : Bool :=
  if r.isArray then false
  else if r.isValueType then true
  else
    match s.find? r.name with
    | some d => d.isValueType
    | none => knownValueTypes.contains r.name

end TypeStore

end ApiClient
