/-!
References to types, as they stand on parameters, fields and base types.

A reference names an open type and may close it with generic arguments, or is an array of another
reference. `fullName` is its written form, `name<argument,argument>` or `element[]`.
-/

set_option autoImplicit false

namespace ApiClient

/-- A reference to a type. An element type makes it an array, whatever else it holds. -/
structure TypeRef where
  name : String
  arguments : List TypeRef
  element : Option TypeRef
  isValueType : Bool
deriving Repr, Inhabited

namespace TypeRef

/-- A reference to an open type. -/
def plain (name : String) : TypeRef := ⟨name, [], none, false⟩

/-- A reference to a type closed by arguments. -/
def generic (name : String) (arguments : List TypeRef) : TypeRef := ⟨name, arguments, none, false⟩

mutual

/-- The written form of a reference. -/
def fullName : TypeRef → String
  | ⟨_, _, some element, _⟩ => fullName element ++ "[]"
  | ⟨name, [], none, _⟩ => name
  | ⟨name, first :: rest, none, _⟩ =>
    name ++ "<" ++ fullName first ++ fullNameTail rest ++ ">"

/-- The written form of further arguments, each after a comma. -/
def fullNameTail : List TypeRef → String
  | [] => ""
  | r :: rest => "," ++ fullName r ++ fullNameTail rest

end

/-- An array of a reference, whose name is its written form. -/
def array (r : TypeRef) : TypeRef := ⟨r.fullName ++ "[]", [], some r, false⟩

/-- Whether a reference is an array. -/
def isArray (r : TypeRef) : Bool := r.element.isSome

/-- Whether a reference has generic arguments. -/
def isGeneric (r : TypeRef) : Bool := !r.arguments.isEmpty

end TypeRef

end ApiClient
