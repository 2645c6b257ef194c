import ApiClient.Proofs.Text.Cut
import ApiClient.Resolution

/-!
Which rule decides on a reference, and what a decision asks for and writes.

`resolve?` answers exactly when a rule applies. A request is always for a type of the store, and a
type name with a dot that no forced type gave is the short name of a requested type, behind the
namespace of the document that declares it.
-/

set_option autoImplicit false

namespace ApiClient

namespace TypeStore

theorem fullName_of_find? {store : TypeStore} {fullName : String} {d : TypeDescriptor}
    (found : store.find? fullName = some d) : d.fullName = fullName := by
  simpa using List.find?_some found

theorem find?_fullName {store : TypeStore} {fullName : String} {d : TypeDescriptor}
    (found : store.find? fullName = some d) : store.find? d.fullName = some d := by
  rw [fullName_of_find? found, found]

end TypeStore

namespace TypeDescriptor

theorem name_congr {d d' : TypeDescriptor} (same : d.fullName = d'.fullName) :
    d.name = d'.name := by
  unfold name
  rw [same]

theorem dot_notMem_name (d : TypeDescriptor) : '.' ∉ d.name.toList := by
  intro member
  simp only [name, String.toList_ofList] at member
  exact Text.notMem_afterLast '.' _ ((Text.afterLast_suffix '/' _).mem member)

/-- A name is the last part of a full name, behind all its dots and slashes. -/
def IsShortName (fullName name : String) : Prop :=
  '.' ∉ name.toList ∧ '/' ∉ name.toList
    ∧ ∃ front, fullName.toList = front ++ name.toList
      ∧ ∀ c, front.getLast? = some c → c = '.' ∨ c = '/'

theorem isShortName_name (d : TypeDescriptor) : IsShortName d.fullName d.name := by
  obtain ⟨front, whole, dot⟩ := Text.exists_append_afterLast '.' d.fullName.toList
  obtain ⟨middle, rest, slash⟩ :=
    Text.exists_append_afterLast '/' (Text.afterLast '.' d.fullName.toList)
  have named : d.name.toList = Text.afterLast '/' (Text.afterLast '.' d.fullName.toList) :=
    String.toList_ofList
  refine ⟨d.dot_notMem_name, ?_, front ++ middle, ?_, ?_⟩
  · rw [named]
    exact Text.notMem_afterLast '/' _
  · rw [named, List.append_assoc, ← rest, ← whole]
  · intro c last
    rw [List.getLast?_append] at last
    cases ending : middle.getLast? with
    | none =>
      rw [ending, Option.none_or] at last
      exact .inl (dot c last)
    | some m =>
      rw [ending, Option.some_or] at last
      exact .inr (slash c (ending.trans last))

theorem name_eq_of_isShortName {d : TypeDescriptor} {name : String}
    (short : IsShortName d.fullName name) : d.name = name := by
  obtain ⟨noDot, noSlash, front, whole, ends⟩ := short
  have cut : Text.afterLast '/' (Text.afterLast '.' d.fullName.toList) = name.toList := by
    rw [whole]
    rcases List.eq_nil_or_concat front with rfl | ⟨front, c, rfl⟩
    · rw [List.nil_append, Text.afterLast_of_notMem noDot, Text.afterLast_of_notMem noSlash]
    · rw [List.concat_eq_append, List.append_assoc, List.singleton_append]
      rcases ends c (by simp) with rfl | rfl
      · rw [Text.afterLast_append_cons noDot, Text.afterLast_of_notMem noSlash]
      · -- the slash stands behind the last dot, so the first cut keeps it
        have kept : '.' ∉ '/' :: name.toList := by simp [noDot]
        rw [Text.afterLast_append_of_notMem kept, Text.afterLast_append_cons noSlash]
  rw [TypeDescriptor.name, cut, String.ofList_toList]

/-- Short names agree just when the full names have one in common. -/
theorem name_eq_name_iff {d d' : TypeDescriptor} :
    d.name = d'.name ↔ ∃ name, IsShortName d.fullName name ∧ IsShortName d'.fullName name := by
  constructor
  · intro same
    exact ⟨d.name, d.isShortName_name, same ▸ d'.isShortName_name⟩
  · rintro ⟨name, short, short'⟩
    rw [name_eq_of_isShortName short, name_eq_of_isShortName short']

end TypeDescriptor

namespace Request

def fullName : Request → String
  | enum name => name
  | interface name => name

/-- Whether a type is of the kind that a request is for. -/
def fits : Request → TypeDescriptor → Bool
  | enum _, d => d.isEnum
  | interface _, d => Scope.isObject d

end Request

namespace Scope

/-- The rule that gives a reference its type; each applies only where those before it do not. -/
inductive Rule (s : Scope) (r : TypeRef) (parameter : Option Parameter)
    (constraints : List String) : Resolution → Prop
  | forced (m : TypeMapping) (matched : s.findMapping? r parameter constraints = some m) :
      Rule s r parameter constraints (s.ofMapping m)
  | enum (d : TypeDescriptor) (unforced : s.findMapping? r parameter constraints = none)
      (found : s.store.find? r.core.name = some d) (isEnum : d.isEnum = true) :
      Rule s r parameter constraints (s.ofEnum r.wrapsItems d)
  | primitive (name : String) (unforced : s.findMapping? r parameter constraints = none)
      (noEnum : ∀ d, s.store.find? r.core.name = some d → d.isEnum = false)
      (known : primitiveTypes.lookup r.core.fullName = some name) :
      Rule s r parameter constraints ⟨⟨name, true, false, r.wrapsItems, none⟩, []⟩
  | object (d : TypeDescriptor) (unforced : s.findMapping? r parameter constraints = none)
      (unknown : primitiveTypes.lookup r.core.fullName = none)
      (found : s.store.find? r.core.name = some d) (object : isObject d = true)
      (notGeneric : r.core.isGeneric = false) (notArray : r.core.isArray = false) :
      Rule s r parameter constraints (s.ofObject r.wrapsItems d)

variable {s : Scope} {r : TypeRef} {parameter : Option Parameter} {constraints : List String}
  {res : Resolution}

theorem isEnum_eq_false_of_isObject {d : TypeDescriptor} (object : isObject d = true) :
    d.isEnum = false := by
  unfold isObject at object
  unfold TypeDescriptor.isEnum
  cases kind : d.kind <;> simp_all

theorem rule_of_resolve? (resolved : s.resolve? r parameter constraints = some res) :
    s.Rule r parameter constraints res := by
  unfold resolve? at resolved
  cases forced : s.findMapping? r parameter constraints with
  | some m =>
    rw [forced] at resolved
    obtain rfl := Option.some.inj resolved
    exact .forced m forced
  | none =>
    simp only [forced, ofCore?] at resolved
    cases enum : (s.store.find? r.core.name).filter TypeDescriptor.isEnum with
    | some d =>
      simp only [enum, Option.some.injEq] at resolved
      obtain ⟨found, isEnum⟩ := Option.filter_eq_some_iff.mp enum
      exact resolved ▸ .enum d forced found isEnum
    | none =>
      have noEnum : ∀ d, s.store.find? r.core.name = some d → d.isEnum = false := by
        intro d found
        simpa [found] using enum
      cases known : primitiveTypes.lookup r.core.fullName with
      | some name =>
        simp only [enum, known, Option.some.injEq] at resolved
        exact resolved ▸ .primitive name forced noEnum known
      | none =>
        simp only [enum, known] at resolved
        split at resolved
        · next d filtered =>
          obtain rfl := Option.some.inj resolved
          obtain ⟨found, fits⟩ := Option.filter_eq_some_iff.mp filtered
          simp only [Bool.and_eq_true, Bool.not_eq_true'] at fits
          exact .object d forced known found fits.1.1 fits.1.2 fits.2
        · cases resolved

theorem Rule.resolve? (rule : s.Rule r parameter constraints res) :
    s.resolve? r parameter constraints = some res := by
  unfold Scope.resolve?
  cases rule with
  | forced m matched => rw [matched]
  | enum d unforced found isEnum => simp [unforced, ofCore?, found, isEnum, Option.filter]
  | primitive name unforced noEnum known =>
    have enum : (s.store.find? r.core.name).filter TypeDescriptor.isEnum = none := by
      cases found : s.store.find? r.core.name with
      | none => rfl
      | some d => simp [noEnum d found]
    simp [unforced, ofCore?, enum, known]
  | object d unforced unknown found object notGeneric notArray =>
    have noEnum := isEnum_eq_false_of_isObject object
    simp [unforced, ofCore?, found, noEnum, unknown, object, notGeneric, notArray, Option.filter]

/-- References are resolved by the rules and by nothing else. -/
theorem resolve?_eq_some_iff :
    s.resolve? r parameter constraints = some res ↔ s.Rule r parameter constraints res :=
  ⟨rule_of_resolve?, Rule.resolve?⟩

theorem resolve_eq_ok_iff {fallback : Option String} :
    s.resolve r parameter constraints fallback = .ok res
      ↔ s.resolve? r parameter constraints = some res
        ∨ (s.resolve? r parameter constraints = none
          ∧ ∃ name, fallback = some name ∧ res = ofFallback r name) := by
  unfold resolve
  cases s.resolve? r parameter constraints <;> cases fallback <;> simp [eq_comm]

/-- How a resolution is written, and what it asks for. -/
inductive Writing (s : Scope) (res : Resolution) : Prop
  | forced (m : TypeMapping) (listed : m ∈ s.settings.typeMappings)
      (mapping : res.resolved.mapping = some m) (name : res.resolved.typeName = m.targetName)
      (silent : res.requests = [])
  | primitive (mapping : res.resolved.mapping = none)
      (name : res.resolved.typeName ∈ targetPrimitives) (silent : res.requests = [])
  | queryParams (mapping : res.resolved.mapping = none)
      (off : s.settings.generateInterfaces = false)
      (name : res.resolved.typeName = haveQueryParams) (silent : res.requests = [])
  | enum (d : TypeDescriptor) (mapping : res.resolved.mapping = none)
      (on : s.settings.generateEnums = true) (visible : s.store.find? d.fullName = some d)
      (isEnum : d.isEnum = true)
      (name : res.resolved.typeName = s.settings.enums.namespaceName ++ "." ++ d.name)
      (asked : res.requests = [.enum d.fullName])
  | interface (d : TypeDescriptor) (mapping : res.resolved.mapping = none)
      (on : s.settings.generateInterfaces = true) (visible : s.store.find? d.fullName = some d)
      (object : isObject d = true)
      (name : res.resolved.typeName = s.settings.interfaces.namespaceName ++ "." ++ d.name)
      (asked : res.requests = [.interface d.fullName])

theorem primitive_mem_targetPrimitives {fullName name : String}
    (known : primitiveTypes.lookup fullName = some name) : name ∈ targetPrimitives := by
  obtain ⟨front, rest, split, -⟩ := List.lookup_eq_some_iff.mp known
  have member : (fullName, name) ∈ primitiveTypes := by simp [split]
  have all : ∀ entry ∈ primitiveTypes, entry.2 ∈ targetPrimitives := by decide
  exact all _ member

theorem Rule.writing (rule : s.Rule r parameter constraints res) : s.Writing res := by
  cases rule with
  | forced m matched => exact .forced m (List.mem_of_find?_eq_some matched) rfl rfl rfl
  | enum d unforced found isEnum =>
    have visible := TypeStore.find?_fullName found
    unfold ofEnum
    split
    · next on => exact .enum d rfl on visible isEnum rfl rfl
    · exact .primitive rfl (by simp [targetPrimitives]) rfl
  | primitive name unforced noEnum known =>
    exact .primitive rfl (primitive_mem_targetPrimitives known) rfl
  | object d unforced unknown found object notGeneric notArray =>
    have visible := TypeStore.find?_fullName found
    unfold ofObject
    split
    · next on => exact .interface d rfl on visible object rfl rfl
    · next off => exact .queryParams rfl (by simpa using off) rfl rfl

theorem writing_ofFallback {name : String} (primitive : name ∈ targetPrimitives) :
    s.Writing (ofFallback r name) := .primitive rfl primitive rfl

/-- What is requested is a type of the store of the kind that is asked for. -/
theorem Writing.visible (writing : s.Writing res) {q : Request} (asked : q ∈ res.requests) :
    ∃ d, s.store.find? q.fullName = some d ∧ q.fits d = true := by
  cases writing with
  | forced m listed mapping name silent => simp [silent] at asked
  | primitive mapping name silent => simp [silent] at asked
  | queryParams mapping off name silent => simp [silent] at asked
  | enum d mapping on visible isEnum name requested =>
    obtain rfl : q = .enum d.fullName := by simpa [requested] using asked
    exact ⟨d, visible, isEnum⟩
  | interface d mapping on visible object name requested =>
    obtain rfl : q = .interface d.fullName := by simpa [requested] using asked
    exact ⟨d, visible, object⟩

end Scope

end ApiClient
