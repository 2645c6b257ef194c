import ApiClient.Descriptor
import ApiClient.Form.TypeRef

/-!
Reading descriptions of modules and their members out of a tree.

An attribute may be written as its name alone.
-/

set_option autoImplicit false

namespace ApiClient.Form

/-- A field that is named in one way. -/
def one {α : Type} (name : String) (read : Data → Verdict α) : Form Data α :=
  required name name read

/-- A list that may be left out. -/
def many {α : Type} (name : String) (read : Data → Verdict α) : Form Data (List α) :=
  optional name name [] (tuple read)

/-- A truth value that may be left out, with two names. -/
def flag (name other : String) (default : Bool) : Form Data Bool :=
  optional name other default bool

/-- An attribute written as a record. -/
def attrRecord : Data → Verdict Attribute :=
  ofData (Attribute.mk <$> one "name" text <*> many "arguments" scalar)

/-- An attribute, as its name or as a record. -/
def attr : Data → Verdict Attribute
  | .scalar (.text name) => .valid ⟨name, []⟩
  | d => attrRecord d

/-- A parameter. -/
def parameter : Data → Verdict Parameter :=
  ofData (Parameter.mk <$> one "name" text <*> one "type" typeRef
    <*> flag "optional" "optional" false <*> many "attributes" attr)

/-- A method. -/
def method : Data → Verdict Method :=
  ofData (Method.mk <$> one "name" text
    <*> flag "public" "is_public" true
    <*> flag "static" "is_static" false
    <*> flag "constructor" "is_constructor" false
    <*> flag "special-name" "is_special_name" false
    <*> many "parameters" parameter <*> many "attributes" attr)

/-- A field of a type. -/
def field : Data → Verdict Field :=
  ofData (Field.mk <$> one "name" text <*> one "type" typeRef)

/-- A constant of an enumeration. -/
def enumMember : Data → Verdict EnumMember :=
  ofData (EnumMember.mk <$> one "name" text <*> one "value" int)

/-- The kind of a type, by its name. -/
def kind : Data → Verdict TypeKind
  | .scalar (.text s) =>
    match TypeKind.ofName? s with
    | some k => .valid k
    | none => .fault .notKind
  | _ => .fault .notKind

/-- A type. -/
def typeDescriptor : Data → Verdict TypeDescriptor :=
  ofData (TypeDescriptor.mk <$> required "full-name" "full_name" text
    <*> optional "kind" "kind" .classType kind
    <*> flag "abstract" "is_abstract" false
    <*> optional "base-type" "base_type" none (nullable typeRef)
    <*> many "attributes" attr <*> many "fields" field
    <*> many "methods" method <*> many "members" enumMember)

/-- A module. -/
def moduleDescriptor : Data → Verdict ModuleDescriptor :=
  ofData (ModuleDescriptor.mk <$> one "name" text <*> many "references" text
    <*> many "types" typeDescriptor)

end ApiClient.Form
