import ApiClient.Form.Scalar

/-!
Reading type references out of a tree.

A reference is a type name, or a record with a name, arguments and an element type that are
references in turn. Each member of such a record is read in advance both as a reference and as a
list of references, so that the recursion follows the tree.
-/

set_option autoImplicit false

namespace ApiClient.Form

/-- A member with what it is as a reference and as a list of references. -/
structure RefMember where
  data : Data
  asRef : Verdict TypeRef
  asRefs : Verdict (List TypeRef)

/-- A type name. -/
def typeName (text : String) : Verdict TypeRef :=
  match TypeRef.parse text with
  | .ok r => .valid r
  | .error e => .fault (.typeName e)

/-- An element type, or null. -/
def elementOf (m : RefMember) : Verdict (Option TypeRef) :=
  match m.data with
  | .scalar .null => .valid none
  | _ => m.asRef.map some

/-- The fields of a reference. -/
def typeRefFields : Form RefMember TypeRef :=
  TypeRef.mk <$> required "name" "name" (fun m => text m.data)
    <*> optional "arguments" "arguments" [] RefMember.asRefs
    <*> optional "element-type" "element_type" none elementOf
    <*> optional "value-type" "is_value_type" false (fun m => bool m.data)

mutual

/-- A reference, as a name or as a record. -/
def typeRef : Data → Verdict TypeRef
  | .scalar (.text s) => typeName s
  | .object members => typeRefFields.fill (refMembers members)
  | _ => .fault .notRecord

/-- A list of references. -/
def typeRefs : Data → Verdict (List TypeRef)
  | .list items => typeRefItems 0 items
  | _ => .fault .notTuple

/-- The references of a list, from a position on. -/
def typeRefItems : Nat → List Data → Verdict (List TypeRef)
  | _, [] => .valid []
  | n, d :: rest =>
    (((typeRef d).under (.index n)).both (typeRefItems (n + 1) rest)).map fun (r, rs) => r :: rs

/-- The members of a record, each read in advance. -/
def refMembers : List (Scalar × Data) → List (Scalar × RefMember)
  | [] => []
  | (key, d) :: rest => (key, ⟨d, typeRef d, typeRefs d⟩) :: refMembers rest

end

/-- A reference written as a record. -/
def typeRefRecord : Data → Verdict TypeRef
  | .object members => typeRefFields.fill (refMembers members)
  | _ => .fault .notRecord

end ApiClient.Form
