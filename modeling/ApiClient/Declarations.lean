import ApiClient.Resolution

/-!
The enumerations and interfaces that are declared beside the endpoints.

Both are kept in the order in which they came in, each full name once. Declaring an interface
also declares its base class and whatever the types of its fields request. A field whose type no
rule resolves is declared as `any`, so declaring never fails; and since every interface that is
declared on the way is a type of the store not declared before, it ends.
-/

set_option autoImplicit false

namespace ApiClient

/-- A field of a declared interface. -/
structure InterfaceField where
  name : String
  typeName : String
deriving DecidableEq, Repr, Inhabited

/-- A declared interface: the class it stands for, its fields, and the name of its base. -/
structure InterfaceEntry where
  descriptor : TypeDescriptor
  fields : List InterfaceField
  base : Option String
deriving Repr, Inhabited

/-- The types declared so far. -/
structure Declarations where
  enums : List TypeDescriptor
  interfaces : List InterfaceEntry
deriving Repr, Inhabited

namespace Scope

/-- The class that a declared interface extends. -/
def baseClass? (s : Scope) (d : TypeDescriptor) : Option TypeDescriptor :=
  (d.baseType.bind fun r => s.store.find? r.name).filter fun b => b.kind == .classType

/-- The type of a field; `any` where no rule applies. -/
def fieldResolution (s : Scope) (f : Field) : Resolution :=
  (s.resolve? f.type none []).getD (ofFallback f.type "any")

/-- The interface that stands for a class. -/
def interfaceOf (s : Scope) (d : TypeDescriptor) : InterfaceEntry :=
  { descriptor := d
    fields := d.fields.map fun f => ⟨f.name, (s.fieldResolution f).resolved.rendered⟩
    base := (s.baseClass? d).map TypeDescriptor.name }

/-- What declaring a class requests: its base class, then the types of its fields. -/
def requestsOf (s : Scope) (d : TypeDescriptor) : List Request :=
  ((s.baseClass? d).map fun b => Request.interface b.fullName).toList
    ++ d.fields.flatMap fun f => (s.fieldResolution f).requests

end Scope

namespace Declarations

/-- Nothing declared. -/
def empty : Declarations := ⟨[], []⟩

/-- Whether an enumeration is declared. -/
def hasEnum (t : Declarations) (fullName : String) : Bool :=
  t.enums.any fun d => d.fullName = fullName

/-- Whether an interface is declared. -/
def hasInterface (t : Declarations) (fullName : String) : Bool :=
  t.interfaces.any fun e => e.descriptor.fullName = fullName

/-- Declare an enumeration, unless it is declared. -/
def addEnum (d : TypeDescriptor) (t : Declarations) : Declarations :=
  if t.hasEnum d.fullName then t else { t with enums := t.enums ++ [d] }

/-- Put an interface at the end. -/
def push (e : InterfaceEntry) (t : Declarations) : Declarations :=
  { t with interfaces := t.interfaces ++ [e] }

/-- The types of a store that are not declared as interfaces. -/
def undeclared (s : Scope) (t : Declarations) : List TypeDescriptor :=
  s.store.all.filter fun d => !t.hasInterface d.fullName

@[simp] theorem hasInterface_addEnum (d : TypeDescriptor) (t : Declarations) (name : String) :
    (t.addEnum d).hasInterface name = t.hasInterface name := by
  unfold addEnum
  split <;> rfl

@[simp] theorem hasInterface_push (e : InterfaceEntry) (t : Declarations) (name : String) :
    (t.push e).hasInterface name
      = (t.hasInterface name || decide (e.descriptor.fullName = name)) := by
  simp [push, hasInterface]

@[simp] theorem undeclared_addEnum (s : Scope) (d : TypeDescriptor) (t : Declarations) :
    undeclared s (t.addEnum d) = undeclared s t := by
  simp [undeclared]

theorem length_undeclared_push_lt {s : Scope} {t : Declarations} {d : TypeDescriptor}
    {name : String} (found : s.store.find? name = some d)
    (fresh : ¬ t.hasInterface d.fullName = true) :
    (undeclared s (t.push (s.interfaceOf d))).length < (undeclared s t).length := by
  have member : d ∈ s.store.all := List.mem_of_find?_eq_some found
  have split : undeclared s (t.push (s.interfaceOf d))
      = (undeclared s t).filter fun c => !decide (d.fullName = c.fullName) := by
    simp [undeclared, List.filter_filter, Scope.interfaceOf, Bool.and_comm]
  rw [split]
  refine List.length_filter_lt_length_iff_exists.mpr ⟨d, ?_, by simp⟩
  simp [undeclared, member, fresh]

/-- Declare what is requested, in order, each request with all that it requests in turn. -/
def follow (s : Scope) : List Request → Declarations → Declarations
  | [], t => t
  | .enum name :: rest, t =>
    match s.store.find? name with
    | some d => follow s rest (t.addEnum d)
    | none => follow s rest t
  | .interface name :: rest, t =>
    match _found : s.store.find? name with
    | some d =>
      if _fresh : t.hasInterface d.fullName = true then follow s rest t
      else follow s (s.requestsOf d ++ rest) (t.push (s.interfaceOf d))
    | none => follow s rest t
termination_by requests t => ((undeclared s t).length, requests.length)
decreasing_by
  · simp only [undeclared_addEnum]
    exact Prod.Lex.right _ (by simp)
  · exact Prod.Lex.right _ (by simp)
  · exact Prod.Lex.right _ (by simp)
  · exact Prod.Lex.left _ _ (length_undeclared_push_lt _found _fresh)
  · exact Prod.Lex.right _ (by simp)

/-- Declare a class as an interface with all that it requests, unless it is declared. -/
def addInterface (s : Scope) (d : TypeDescriptor) (t : Declarations) : Declarations :=
  if t.hasInterface d.fullName then t
  else follow s (s.requestsOf d) (t.push (s.interfaceOf d))

end Declarations

end ApiClient
