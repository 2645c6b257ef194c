import ApiClient.Data
import ApiClient.TypeRef.Parser

/-!
Reading values out of a tree, with every fault found and located.

A form lists the fields of a record; each has a written name and may have a second one. Faults
come in the order of the fields, and then one for each member that no field took. A fault carries
the steps from the root of the tree to where it is.
-/

set_option autoImplicit false

namespace ApiClient

/-- One step into a tree. -/
inductive Step
  | member (name : String)
  | index (position : Int)
deriving DecidableEq, Repr

/-- What is wrong with a value. -/
inductive Fault
  | missing
  | unknownMember
  | keyNotText
  | notRecord
  | notText
  | textNotUnicode
  | notTuple
  | notList
  | notKind
  | notBool
  | boolUnreadable
  | notInt
  | intUnreadable
  | intHasFraction
  | intNotFinite
  | intTooLarge
  | notFloat
  | floatUnreadable
  | typeName (error : TypeNameError)
deriving DecidableEq, Repr

/-- A fault and where it is. -/
structure Issue where
  steps : List Step
  fault : Fault
deriving DecidableEq, Repr

/-- A value, or all that is wrong with it. -/
inductive Verdict (α : Type)
  | valid (value : α)
  | invalid (issues : List Issue)
deriving Repr

namespace Verdict

/-- A value with a single fault. -/
def fault {α : Type} (f : Fault) : Verdict α := .invalid [⟨[], f⟩]

/-- Apply a function to a valid value. -/
def map {α β : Type} (f : α → β) : Verdict α → Verdict β
  | valid a => valid (f a)
  | invalid issues => invalid issues

/-- Both values, or the issues of both. -/
def both {α β : Type} : Verdict α → Verdict β → Verdict (α × β)
  | valid a, valid b => valid (a, b)
  | valid _, invalid issues => invalid issues
  | invalid issues, valid _ => invalid issues
  | invalid first, invalid second => invalid (first ++ second)

/-- The issues of a value, one step further from the root. -/
def under {α : Type} (step : Step) : Verdict α → Verdict α
  | valid a => valid a
  | invalid issues => invalid (issues.map fun i => { i with steps := step :: i.steps })

/-- All values of a list, each at its position. -/
def each {α β : Type} (read : β → Verdict α) : Nat → List β → Verdict (List α)
  | _, [] => valid []
  | n, b :: rest =>
    (((read b).under (.index n)).both (each read (n + 1) rest)).map fun (a, as) => a :: as

/-- The value as a result. -/
def toExcept {α : Type} : Verdict α → Except (List Issue) α
  | valid a => .ok a
  | invalid issues => .error issues

end Verdict

/-- The fields of a record: which members they take, and what they make of them. -/
def Form (β α : Type) : Type := List (Scalar × β) → List Scalar × Verdict α

namespace Form

/-- The first of two names that is written, with its member. -/
def pick? {β : Type} (members : List (Scalar × β)) (name other : String) : Option (String × β) :=
  match members.lookup (.text name) with
  | some b => some (name, b)
  | none => (members.lookup (.text other)).map fun b => (other, b)

/-- A field that must be there. -/
def required {α β : Type} (name other : String) (read : β → Verdict α) : Form β α :=
  fun members =>
    match pick? members name other with
    | some (found, b) => ([.text found], (read b).under (.member found))
    | none => ([], (Verdict.fault .missing).under (.member name))

/-- A field with a default. -/
def optional {α β : Type} (name other : String) (default : α) (read : β → Verdict α) :
    Form β α :=
  fun members =>
    match pick? members name other with
    | some (found, b) => ([.text found], (read b).under (.member found))
    | none => ([], .valid default)

/-- A form without fields. -/
def done {α β : Type} (a : α) : Form β α := fun _ => ([], .valid a)

/-- The fields of two forms, one after the other. -/
def and {α β γ : Type} (first : Form β (α → γ)) (second : Form β α) : Form β γ :=
  fun members =>
    let (taken, f) := first members
    let (taken', a) := second members
    (taken ++ taken', (f.both a).map fun (f, a) => f a)

instance {β : Type} : Functor (Form β) where
  map f form := fun members =>
    let (taken, a) := form members
    (taken, a.map f)

instance {β : Type} : Pure (Form β) where
  pure := done

instance {β : Type} : Seq (Form β) where
  seq first second := and first (second ())

/-- Whether an integer fits in 64 bits with a sign. -/
def isInt64 (i : Int) : Bool := -Int.pow 2 63 ≤ i && i < Int.pow 2 63

/-- The step to a key; an integer beyond 64 bits is named by its text. -/
def keyStep (key : Scalar) : Step :=
  match key with
  | .text name => .member name
  | .bool b => .index (if b then 1 else 0)
  | .int i =>
    if isInt64 i then .index i
    else .member (if key.isWritable then key.display else "<unprintable int object>")
  | _ => .member key.display

/-- The issue with a member that no field took. -/
def strayIssue (key : Scalar) : Issue :=
  match key with
  | .text _ => ⟨[keyStep key], .unknownMember⟩
  | _ => ⟨[keyStep key], .keyNotText⟩

/-- Fill a form from the members of an object, all of which must be taken. -/
def fill {α β : Type} (form : Form β α) (members : List (Scalar × β)) : Verdict α :=
  let (taken, a) := form members
  match (members.filter fun (key, _) => !taken.contains key).map fun (key, _) => strayIssue key with
  | [] => a
  | stray => (a.both (.invalid stray : Verdict Unit)).map Prod.fst

/-- Fill a form from a tree, which must be an object. -/
def ofData {α : Type} (form : Form Data α) : Data → Verdict α
  | .object members => form.fill members
  | _ => .fault .notRecord

end Form

end ApiClient
