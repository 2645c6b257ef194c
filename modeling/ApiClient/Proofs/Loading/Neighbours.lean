import ApiClient.Proofs.Loading
import ApiClient.Proofs.TypeStore
import Mathlib.Data.List.Nodup

/-!
What a store is made of.

The neighbours of a module are the other modules that it refers to, each once and in the order of
their first mentions. Main statement: a store holds the types of its module and then those of the
neighbours that stand beside it; the others are noted as missing, and nothing else is looked at.
-/

set_option autoImplicit false

namespace ApiClient

section Mentions

variable {known names : List String} {name : String}

theorem firstMentions_eq (known names : List String) :
    firstMentions known names = (names.filter fun name => !known.contains name).eraseDups := by
  induction names generalizing known with
  | nil => rfl
  | cons name rest ih =>
    unfold firstMentions
    by_cases mentioned : known.contains name = true
    · rw [if_pos mentioned, ih, List.filter_cons_of_neg (by simpa using mentioned)]
    · rw [if_neg mentioned, ih, List.filter_cons_of_pos (by simpa using mentioned),
        List.eraseDups_cons, List.filter_filter]
      -- a later mention is left out for the name before it, or for one known from the start
      congr 3
      funext other
      rw [List.contains_cons, Bool.not_or]

theorem mem_firstMentions : name ∈ firstMentions known names ↔ name ∈ names ∧ name ∉ known := by
  rw [firstMentions_eq, List.mem_eraseDups]
  simp

theorem nodup_firstMentions (known names : List String) : (firstMentions known names).Nodup := by
  induction names generalizing known with
  | nil => exact List.nodup_nil
  | cons name rest ih =>
    unfold firstMentions
    split
    · exact ih known
    · refine List.nodup_cons.mpr ⟨fun again => ?_, ih (name :: known)⟩
      exact (mem_firstMentions.mp again).2 List.mem_cons_self

end Mentions

/-- The references of a module without its own name, of each the first mention. -/
def ModuleDescriptor.neighbours (d : ModuleDescriptor) : List String :=
  (d.references.filter fun name => name ≠ d.name).eraseDups

/-- The neighbours that are looked for when a store is loaded. -/
abbrev ModuleDescriptor.sought (d : ModuleDescriptor) (scanOthers : Bool) : List String :=
  if scanOthers then d.neighbours else []

theorem ModuleDescriptor.otherModules_eq (d : ModuleDescriptor) :
    d.otherModules = d.neighbours := by
  rw [otherModules, firstMentions_eq, neighbours]
  congr 2
  funext name
  simp

theorem ModuleDescriptor.nodup_neighbours (d : ModuleDescriptor) : d.neighbours.Nodup := by
  rw [← d.otherModules_eq]
  exact nodup_firstMentions _ _

/-- A file that is named after its module has what follows the name for its ending. -/
theorem ModuleDescriptor.fileEnding_eq {d : ModuleDescriptor} {p : Path} {rest : String}
    (named : p.fileName = d.name ++ rest) : d.fileEnding p = rest := by
  have starts : Text.startsWith d.name p.fileName = true := by
    simp [Text.startsWith, named]
  rw [fileEnding, if_pos starts, named, String.toList_append, ← String.length_toList,
    List.drop_left, String.ofList_toList]

namespace FileTree

variable {t t' t₂ t₂' : FileTree} {p : Path} {d : ModuleDescriptor}

instance (t : FileTree) (p : Path) : Decidable (t.IsPresent p) :=
  decidable_of_iff ((t.kindOf p).isOk = true) <| by
    unfold IsPresent
    cases t.kindOf p <;> simp [Except.isOk, Except.toBool]

theorem not_isPresent_of_isAbsent (absent : t.IsAbsent p) : ¬ t.IsPresent p := by
  obtain ⟨fault, looked, -⟩ := absent
  rintro ⟨kind, found⟩
  rw [looked] at found
  cases found

section Surroundings

variable {place : String → Path} {name : String} {names : List String} {s : Surroundings}

/-- Modules that are loaded from their places, one for each name and in order. -/
def LoadsAll (t : FileTree) (place : String → Path) (names : List String)
    (modules : List ModuleDescriptor) : Prop :=
  List.Forall₂ (fun name m => t.Loads Form.moduleDescriptor (place name) m) names modules

/-- The names of which something stands at the place. -/
def standing (t : FileTree) (place : String → Path) (names : List String) : List String :=
  names.filter fun name => t.IsPresent (place name)

/-- The names of which nothing stands at the place, with the place. -/
def missing (t : FileTree) (place : String → Path) (names : List String) : List MissingModule :=
  (names.filter fun name => ¬ t.IsPresent (place name)).map fun name => ⟨name, place name⟩

theorem gives_surroundings_cons :
    t.Gives (Loading.surroundings place (name :: names)) s t'
      ↔ (t.IsPresent (place name) ∧ ∃ d others,
          t.Loads Form.moduleDescriptor (place name) d
            ∧ t.Gives (Loading.surroundings place names) others t'
            ∧ s = { others with types := d.types ++ others.types })
        ∨ t.IsAbsent (place name) ∧ ∃ others,
          t.Gives (Loading.surroundings place names) others t'
            ∧ s = { others with missing := ⟨name, place name⟩ :: others.missing } := by
  rw [Loading.surroundings, gives_bind_iff]
  constructor
  · rintro ⟨found, _, looked, rest⟩
    obtain ⟨told, rfl⟩ := gives_isPresent_iff.mp looked
    cases found with
    | true =>
      obtain ⟨d, _, loaded, later⟩ := gives_bind_iff.mp rest
      obtain ⟨loads, rfl⟩ := gives_file_iff.mp loaded
      obtain ⟨others, _, gives, made⟩ := gives_bind_iff.mp later
      obtain ⟨rfl, rfl⟩ := gives_pure_iff.mp made
      exact .inl ⟨told, d, others, loads, gives, rfl⟩
    | false =>
      obtain ⟨others, _, gives, made⟩ := gives_bind_iff.mp rest
      obtain ⟨rfl, rfl⟩ := gives_pure_iff.mp made
      exact .inr ⟨told, others, gives, rfl⟩
  · rintro (⟨present, d, others, loads, gives, rfl⟩ | ⟨absent, others, gives, rfl⟩)
    · refine ⟨true, t, gives_isPresent_iff.mpr ⟨present, rfl⟩, ?_⟩
      refine gives_bind_iff.mpr ⟨d, t, gives_file_iff.mpr ⟨loads, rfl⟩, ?_⟩
      exact gives_bind_iff.mpr ⟨others, t', gives, gives_pure_iff.mpr ⟨rfl, rfl⟩⟩
    · refine ⟨false, t, gives_isPresent_iff.mpr ⟨absent, rfl⟩, ?_⟩
      exact gives_bind_iff.mpr ⟨others, t', gives, gives_pure_iff.mpr ⟨rfl, rfl⟩⟩

/-- What the modules beside a module come to: by induction on their names. -/
theorem gives_surroundings_iff :
    t.Gives (Loading.surroundings place names) s t'
      ↔ t' = t ∧ (∀ name ∈ names, t.IsPresent (place name) ∨ t.IsAbsent (place name))
        ∧ (∃ modules, t.LoadsAll place (t.standing place names) modules
          ∧ s.types = modules.flatMap ModuleDescriptor.types)
        ∧ s.missing = t.missing place names := by
  induction names generalizing s with
  | nil =>
    rw [Loading.surroundings, gives_pure_iff]
    constructor
    · rintro ⟨rfl, rfl⟩
      exact ⟨rfl, by simp, ⟨[], .nil, rfl⟩, rfl⟩
    · rintro ⟨rfl, -, ⟨modules, loads, types⟩, noted⟩
      obtain ⟨_, _⟩ := s
      cases loads
      simp_all [missing]
  | cons name rest ih =>
    rw [gives_surroundings_cons]
    constructor
    · rintro (⟨present, d, others, loads, gives, rfl⟩ | ⟨absent, others, gives, rfl⟩)
      · obtain ⟨same, told, ⟨modules, loadsAll, types⟩, noted⟩ := ih.mp gives
        refine ⟨same, List.forall_mem_cons.mpr ⟨.inl present, told⟩, ⟨d :: modules, ?_, ?_⟩, ?_⟩
        · rw [standing, List.filter_cons_of_pos (by simpa using present)]
          exact .cons loads loadsAll
        · simp [types]
        · simpa [missing, present] using noted
      · obtain ⟨same, told, ⟨modules, loadsAll, types⟩, noted⟩ := ih.mp gives
        have free := not_isPresent_of_isAbsent absent
        refine ⟨same, List.forall_mem_cons.mpr ⟨.inr absent, told⟩, ⟨modules, ?_, types⟩, ?_⟩
        · rw [standing, List.filter_cons_of_neg (by simpa using free)]
          exact loadsAll
        · simpa [missing, free] using noted
    · rintro ⟨same, told, ⟨modules, loadsAll, types⟩, noted⟩
      obtain ⟨told, others⟩ := List.forall_mem_cons.mp told
      obtain ⟨_, _⟩ := s
      dsimp only at types noted
      by_cases present : t.IsPresent (place name)
      · rw [standing, List.filter_cons_of_pos (by simpa using present)] at loadsAll
        cases loadsAll with
        | @cons _ d _ modules loads loadsAll =>
          refine .inl ⟨present, d, ⟨modules.flatMap ModuleDescriptor.types, t.missing place rest⟩,
            loads, ih.mpr ⟨same, others, ⟨modules, loadsAll, rfl⟩, rfl⟩, ?_⟩
          simp [types, noted, missing, present]
      · rw [standing, List.filter_cons_of_neg (by simpa using present)] at loadsAll
        refine .inr ⟨told.resolve_left present,
          ⟨modules.flatMap ModuleDescriptor.types, t.missing place rest⟩,
          ih.mpr ⟨same, others, ⟨modules, loadsAll, rfl⟩, rfl⟩, ?_⟩
        simp [types, noted, missing, present]

/-- Loading the modules beside a module succeeds just when each of them passes. -/
theorem exists_gives_surroundings_iff :
    (∃ s t', t.Gives (Loading.surroundings place names) s t')
      ↔ ∀ name ∈ names, t.Passes (place name) := by
  induction names with
  | nil => simp [Loading.surroundings, gives_pure_iff]
  | cons name rest ih =>
    rw [List.forall_mem_cons, ← ih]
    constructor
    · rintro ⟨s, t', gives⟩
      rcases gives_surroundings_cons.mp gives with
        ⟨present, d, others, loads, gives, -⟩ | ⟨absent, others, gives, -⟩
      · exact ⟨.inr ⟨present, d, loads⟩, others, t', gives⟩
      · exact ⟨.inl absent, others, t', gives⟩
    · rintro ⟨absent | ⟨present, d, loads⟩, others, t', gives⟩
      · exact ⟨_, t', gives_surroundings_cons.mpr (.inr ⟨absent, others, gives, rfl⟩)⟩
      · exact ⟨_, t', gives_surroundings_cons.mpr (.inl ⟨present, d, others, loads, gives, rfl⟩)⟩

/-- A module that is looked for is noted once, or it is not noted and stands at its place. -/
theorem count_missing (place : String → Path) (once : names.Nodup) (mem : name ∈ names) :
    ((t.missing place names).map MissingModule.name).count name
      = if t.IsPresent (place name) then 0 else 1 := by
  have names' : (t.missing place names).map MissingModule.name
      = names.filter fun name => ¬ t.IsPresent (place name) := by
    simp [missing, Function.comp_def]
  rw [names']
  split
  · next present => simp [List.count_eq_zero, present]
  · next absent => exact List.count_eq_one_of_mem (once.filter _) (by simpa [mem] using absent)

end Surroundings

/-- A store as it is made of a module and of the modules beside it. -/
structure IsStoreOf (t : FileTree) (p : Path) (d : ModuleDescriptor) (loaded : LoadedStore) :
    Prop where
  primary : loaded.store.primary = d.types
  once : (t.standing (beside p d) d.neighbours).Nodup
  all : ∃ modules, t.LoadsAll (beside p d) (t.standing (beside p d) d.neighbours) modules
    ∧ loaded.store.all = d.types ++ modules.flatMap ModuleDescriptor.types
  missing : loaded.missing = t.missing (beside p d) d.neighbours
  warned : ∀ name ∈ d.neighbours,
    t.IsPresent (beside p d name) ∧ (loaded.missing.map MissingModule.name).count name = 0
      ∨ t.IsAbsent (beside p d name) ∧ (loaded.missing.map MissingModule.name).count name = 1

variable {loaded loaded₂ : LoadedStore} {scanOthers : Bool}

theorem gives_store_iff :
    t.Gives (Loading.store p scanOthers) loaded t' ↔ ∃ d s, t.Loads Form.moduleDescriptor p d
      ∧ t.Gives (Loading.surroundings (beside p d) (d.sought scanOthers)) s t'
      ∧ loaded = ⟨⟨d.types, s.types⟩, s.missing⟩ := by
  rw [Loading.store, gives_bind_iff]
  constructor
  · rintro ⟨d, _, stood, rest⟩
    obtain ⟨loads, rfl⟩ := gives_file_iff.mp stood
    cases scanOthers with
    | true =>
      rw [if_pos rfl, gives_bind_iff] at rest
      obtain ⟨s, _, gives, made⟩ := rest
      obtain ⟨rfl, rfl⟩ := gives_pure_iff.mp made
      rw [d.otherModules_eq] at gives
      exact ⟨d, s, loads, gives, rfl⟩
    | false =>
      obtain ⟨rfl, rfl⟩ := gives_pure_iff.mp rest
      exact ⟨d, ⟨[], []⟩, loads, gives_pure_iff.mpr ⟨rfl, rfl⟩, rfl⟩
  · rintro ⟨d, s, loads, gives, rfl⟩
    refine ⟨d, t, gives_file_iff.mpr ⟨loads, rfl⟩, ?_⟩
    cases scanOthers with
    | true =>
      rw [if_pos rfl, d.otherModules_eq]
      exact gives_bind_iff.mpr ⟨s, t', gives, gives_pure_iff.mpr ⟨rfl, rfl⟩⟩
    | false =>
      obtain ⟨rfl, rfl⟩ := gives_pure_iff.mp gives
      exact gives_pure_iff.mpr ⟨rfl, rfl⟩

theorem gives_store_true_iff :
    t.Gives (Loading.store p true) loaded t'
      ↔ t' = t ∧ ∃ d, t.Loads Form.moduleDescriptor p d ∧ t.IsStoreOf p d loaded := by
  rw [gives_store_iff]
  constructor
  · rintro ⟨d, s, loads, gives, rfl⟩
    obtain ⟨same, told, ⟨modules, loadsAll, types⟩, noted⟩ := gives_surroundings_iff.mp gives
    refine ⟨same, d, loads, rfl, d.nodup_neighbours.filter _, ⟨modules, loadsAll, ?_⟩, noted,
      fun name mem => ?_⟩
    · rw [TypeStore.all, types]
    · have count := count_missing (t := t) (beside p d) d.nodup_neighbours mem
      dsimp only
      rw [noted]
      rcases told name mem with present | absent
      · exact .inl ⟨present, count.trans (if_pos present)⟩
      · exact .inr ⟨absent, count.trans (if_neg (not_isPresent_of_isAbsent absent))⟩
  · rintro ⟨same, d, loads, made⟩
    obtain ⟨modules, loadsAll, all⟩ := made.all
    obtain ⟨⟨primary, referenced⟩, noted⟩ := loaded
    obtain rfl : primary = d.types := made.primary
    have types : referenced = modules.flatMap ModuleDescriptor.types :=
      List.append_cancel_left all
    refine ⟨d, ⟨referenced, noted⟩, loads, gives_surroundings_iff.mpr
      ⟨same, fun name mem => ?_, ⟨modules, loadsAll, types⟩, made.missing⟩, rfl⟩
    exact (made.warned name mem).imp And.left And.left

theorem gives_store_false_iff :
    t.Gives (Loading.store p false) loaded t'
      ↔ t' = t ∧ ∃ d, t.Loads Form.moduleDescriptor p d ∧ loaded = ⟨⟨d.types, []⟩, []⟩ := by
  rw [gives_store_iff]
  constructor
  · rintro ⟨d, s, loads, gives, rfl⟩
    obtain ⟨rfl, rfl⟩ := gives_pure_iff.mp gives
    exact ⟨rfl, d, loads, rfl⟩
  · rintro ⟨rfl, d, loads, rfl⟩
    exact ⟨d, ⟨[], []⟩, loads, gives_pure_iff.mpr ⟨rfl, rfl⟩, rfl⟩

/-- The loading of a store fails at its module, or at one beside it. -/
theorem stops_store_iff :
    (∃ stop, (t.after (Loading.store p scanOthers).run).1 = .error stop)
      ↔ (∀ d, ¬ t.Loads Form.moduleDescriptor p d) ∨ ∃ d, t.Loads Form.moduleDescriptor p d
        ∧ ∃ name ∈ d.sought scanOthers, ¬ t.Passes (beside p d name) := by
  have succeeds : (∃ loaded t', t.Gives (Loading.store p scanOthers) loaded t')
      ↔ ∃ d, t.Loads Form.moduleDescriptor p d
        ∧ ∀ name ∈ d.sought scanOthers, t.Passes (beside p d name) := by
    simp only [gives_store_iff, ← exists_gives_surroundings_iff]
    constructor
    · rintro ⟨_, t', d, s, loads, gives, -⟩
      exact ⟨d, loads, s, t', gives⟩
    · rintro ⟨d, loads, s, t', gives⟩
      exact ⟨_, t', d, s, loads, gives, rfl⟩
  have either : (∃ stop, (t.after (Loading.store p scanOthers).run).1 = .error stop)
      ↔ ¬ ∃ loaded t', t.Gives (Loading.store p scanOthers) loaded t' := by
    unfold Gives
    rcases t.after (Loading.store p scanOthers).run with ⟨stop | loaded, t'⟩ <;> simp
  -- a loading that fails is one that gives nothing
  rw [either, succeeds]
  constructor
  · intro none
    by_cases loaded : ∃ d, t.Loads Form.moduleDescriptor p d
    · obtain ⟨d, loads⟩ := loaded
      refine .inr ⟨d, loads, ?_⟩
      by_contra all
      push Not at all
      exact none ⟨d, loads, all⟩
    · exact .inl (not_exists.mp loaded)
  · rintro (unloaded | ⟨d, loads, name, mem, stuck⟩) ⟨d', loads', all⟩
    · exact unloaded d' loads'
    · obtain rfl := loads.unique loads'
      exact stuck (all name mem)

/-- Two trees with the same module, beside which the same names stand, for the same types. -/
structure AgreesBeside (t t₂ : FileTree) (p : Path) (d : ModuleDescriptor) : Prop where
  loads : t.Loads Form.moduleDescriptor p d
  loads₂ : t₂.Loads Form.moduleDescriptor p d
  present : ∀ name ∈ d.neighbours, t.IsPresent (beside p d name) ↔ t₂.IsPresent (beside p d name)
  types : ∀ name ∈ d.neighbours, ∀ m m₂, t.Loads Form.moduleDescriptor (beside p d name) m →
    t₂.Loads Form.moduleDescriptor (beside p d name) m₂ → m.types = m₂.types

theorem AgreesBeside.of_same (loads : t.Loads Form.moduleDescriptor p d)
    (primary : t₂.read p = t.read p)
    (around : ∀ name ∈ d.neighbours, t₂.kindOf (beside p d name) = t.kindOf (beside p d name)
      ∧ t₂.read (beside p d name) = t.read (beside p d name)) : t.AgreesBeside t₂ p d := by
  refine ⟨loads, ?_, fun name mem => ?_, fun name mem m m₂ first second => ?_⟩
  · unfold Loads text?
    rw [primary]
    exact loads
  · rw [IsPresent, IsPresent, (around name mem).1]
  · unfold Loads text? at second
    rw [(around name mem).2] at second
    rw [first.unique second]

theorem flatMap_types_eq {place : String → Path} {names : List String}
    {modules modules₂ : List ModuleDescriptor}
    (same : ∀ name ∈ names, ∀ m m₂, t.Loads Form.moduleDescriptor (place name) m →
      t₂.Loads Form.moduleDescriptor (place name) m₂ → m.types = m₂.types)
    (loads : t.LoadsAll place names modules) (loads₂ : t₂.LoadsAll place names modules₂) :
    modules.flatMap ModuleDescriptor.types = modules₂.flatMap ModuleDescriptor.types := by
  unfold LoadsAll at loads loads₂
  induction loads generalizing modules₂ with
  | nil =>
    cases loads₂
    rfl
  | cons first rest ih =>
    cases loads₂ with
    | cons first₂ rest₂ =>
      obtain ⟨here, later⟩ := List.forall_mem_cons.mp same
      rw [List.flatMap_cons, List.flatMap_cons, here _ _ first first₂, ih later rest₂]

/-- What the modules beside a module refer to has no part in its store. -/
theorem AgreesBeside.loaded_eq (agrees : t.AgreesBeside t₂ p d)
    (gives : t.Gives (Loading.store p scanOthers) loaded t')
    (gives₂ : t₂.Gives (Loading.store p scanOthers) loaded₂ t₂') : loaded = loaded₂ := by
  obtain ⟨d₁, s, loads₁, around, rfl⟩ := gives_store_iff.mp gives
  obtain ⟨d₂, s₂, loads₂, around₂, rfl⟩ := gives_store_iff.mp gives₂
  obtain rfl := agrees.loads.unique loads₁
  obtain rfl := agrees.loads₂.unique loads₂
  obtain ⟨-, -, ⟨modules, loads, types⟩, noted⟩ := gives_surroundings_iff.mp around
  obtain ⟨-, -, ⟨modules₂, loads₂, types₂⟩, noted₂⟩ := gives_surroundings_iff.mp around₂
  have within : ∀ name ∈ d.sought scanOthers, name ∈ d.neighbours := by
    cases scanOthers <;> simp
  have present : ∀ name ∈ d.sought scanOthers,
      t.IsPresent (beside p d name) ↔ t₂.IsPresent (beside p d name) :=
    fun name mem => agrees.present name (within name mem)
  have standing : t.standing (beside p d) (d.sought scanOthers)
      = t₂.standing (beside p d) (d.sought scanOthers) :=
    List.filter_congr fun name mem => by simp [present name mem]
  have missing : t.missing (beside p d) (d.sought scanOthers)
      = t₂.missing (beside p d) (d.sought scanOthers) :=
    congrArg _ (List.filter_congr fun name mem => by simp [present name mem])
  -- the same names stand, so the modules that were loaded go together one by one
  rw [← standing] at loads₂
  have same := flatMap_types_eq (fun name mem =>
    agrees.types name (within name (List.mem_of_mem_filter mem))) loads loads₂
  rw [types, types₂, noted, noted₂, same, missing]

/--
What a store is loaded from. With the neighbours of its module it holds the types of the module and
then those of the neighbours that are present, in order, and each absent one is noted once. Without
them it holds the types of the module alone. The loading fails just at the module or at a neighbour
that is neither absent nor loaded, and what the neighbours refer to changes nothing.
-/
theorem store_of_neighbours (t : FileTree) (p : Path) :
    (∀ loaded t', t.Gives (Loading.store p true) loaded t'
        ↔ t' = t ∧ ∃ d, t.Loads Form.moduleDescriptor p d ∧ t.IsStoreOf p d loaded)
      ∧ (∀ loaded t', t.Gives (Loading.store p false) loaded t'
        ↔ t' = t ∧ ∃ d, t.Loads Form.moduleDescriptor p d ∧ loaded = ⟨⟨d.types, []⟩, []⟩)
      ∧ (∀ scanOthers, (∃ stop, (t.after (Loading.store p scanOthers).run).1 = .error stop)
        ↔ (∀ d, ¬ t.Loads Form.moduleDescriptor p d) ∨ ∃ d, t.Loads Form.moduleDescriptor p d
          ∧ ∃ name ∈ d.sought scanOthers, ¬ t.Passes (beside p d name))
      ∧ (∀ (loaded : LoadedStore) fullName e, loaded.store.find? fullName = some e
        ↔ ∃ before after, loaded.store.all = before ++ e :: after ∧ e.fullName = fullName
          ∧ ∀ other ∈ before, other.fullName ≠ fullName)
      ∧ (∀ (d : ModuleDescriptor) rest, p.fileName = d.name ++ rest → d.fileEnding p = rest)
      ∧ ∀ t₂ d, t.AgreesBeside t₂ p d → ∀ scanOthers loaded loaded₂ t' t₂',
        t.Gives (Loading.store p scanOthers) loaded t' →
          t₂.Gives (Loading.store p scanOthers) loaded₂ t₂' → loaded = loaded₂ := by
  refine ⟨fun loaded t' => gives_store_true_iff, fun loaded t' => gives_store_false_iff,
    fun scanOthers => stops_store_iff, fun loaded fullName e => TypeStore.find?_eq_some_iff,
    fun d rest named => d.fileEnding_eq named, ?_⟩
  intro t₂ d agrees scanOthers loaded loaded₂ t' t₂' gives gives₂
  exact agrees.loaded_eq gives gives₂

end FileTree

/-! A module of which one neighbour is missing, and the other one refers further. -/

namespace Sample

def primaryModule : Path := .ofText "Acme.json"

/-- A module, and its neighbour `Lib`. -/
def withNeighbour : FileTree := ⟨[], [
  (["Acme.json"], .file ("\x7b\"name\": \"Acme\", \"references\": [\"Lib\", \"Gone\", \"Lib\", "
    ++ "\"Acme\"], \"types\": [\x7b\"full-name\": \"Acme.A\"\x7d]\x7d").toUTF8),
  (["Lib.json"], .file ("\x7b\"name\": \"Lib\", \"references\": [\"Deep\"], "
    ++ "\"types\": [\x7b\"full-name\": \"Lib.A\"\x7d]\x7d").toUTF8)]⟩

/-- The same with the module that `Lib` refers to. -/
def withFurther : FileTree := withNeighbour.set ["Deep.json"] <|
  .file "\x7b\"name\": \"Deep\", \"types\": [\x7b\"full-name\": \"Deep.A\"\x7d]\x7d".toUTF8

def header? : Except Stop ModuleDescriptor → Option (String × List String)
  | .ok d => some (d.name, d.references)
  | .error _ => none

/-- The names of the types and of the missing modules, after a loading that succeeds. -/
def contents? : Except Stop LoadedStore × FileTree → Option (List String × List String)
  | (.ok loaded, _) => some (loaded.store.all.map TypeDescriptor.fullName,
      loaded.missing.map MissingModule.name)
  | (.error _, _) => none

theorem header_of_loads {t : FileTree} {p : Path} {d : ModuleDescriptor}
    (loads : t.Loads Form.moduleDescriptor p d) :
    header? (t.after (Loading.descriptor p).run).1 = some (d.name, d.references) := by
  have gives : t.Gives (Loading.descriptor p) d t := FileTree.gives_file_iff.mpr ⟨loads, rfl⟩
  rw [gives]
  rfl

end Sample

namespace FileTree

theorem store_of_neighbours_further :
    ∃ loaded, Sample.withNeighbour.Gives (Loading.store Sample.primaryModule true) loaded
        Sample.withNeighbour
      ∧ Sample.withFurther.Gives (Loading.store Sample.primaryModule true) loaded Sample.withFurther
      ∧ loaded.store.all.map TypeDescriptor.fullName = ["Acme.A", "Lib.A"]
      ∧ loaded.missing.map MissingModule.name = ["Gone"] := by
  have evaluated : Sample.contents? (Sample.withNeighbour.after
      (Loading.store Sample.primaryModule true).run) = some (["Acme.A", "Lib.A"], ["Gone"]) := by
    decide +kernel
  have evaluated₂ : Sample.contents? (Sample.withFurther.after
      (Loading.store Sample.primaryModule true).run) = some (["Acme.A", "Lib.A"], ["Gone"]) := by
    decide +kernel
  obtain ⟨loaded, t', gives, contents⟩ := exists_gives_of_shown (fun stop t' => rfl) evaluated
  obtain ⟨loaded₂, t₂', gives₂, -⟩ := exists_gives_of_shown (fun stop t' => rfl) evaluated₂
  obtain ⟨all, -, -, -, ending, further⟩ :=
    store_of_neighbours Sample.withNeighbour Sample.primaryModule
  obtain ⟨rfl, d, loads, -⟩ := (all loaded t').mp gives
  obtain ⟨rfl, -⟩ := ((store_of_neighbours _ _).1 loaded₂ t₂').mp gives₂
  have header : some (d.name, d.references) = some ("Acme", ["Lib", "Gone", "Lib", "Acme"]) :=
    (Sample.header_of_loads loads).symm.trans (by decide +kernel)
  obtain ⟨name, references⟩ := Prod.mk.inj (Option.some.inj header)
  have fileEnding : d.fileEnding Sample.primaryModule = ".json" :=
    ending d ".json" (by rw [name]; rfl)
  have neighbours : d.neighbours = ["Lib", "Gone"] := by
    rw [ModuleDescriptor.neighbours, name, references]
    decide
  have agrees : Sample.withNeighbour.AgreesBeside Sample.withFurther Sample.primaryModule d := by
    have primary : Sample.withFurther.read Sample.primaryModule
        = Sample.withNeighbour.read Sample.primaryModule := rfl
    refine .of_same loads primary fun name mem => ?_
    rw [neighbours] at mem
    rw [beside, fileEnding]
    rcases List.mem_pair.mp mem with rfl | rfl
    · exact ⟨rfl, rfl⟩
    · exact ⟨rfl, rfl⟩
  obtain rfl := further Sample.withFurther d agrees true loaded loaded₂ _ _ gives gives₂
  obtain ⟨types, missing⟩ := Prod.mk.inj (Option.some.inj contents)
  exact ⟨loaded, gives, gives₂, types, missing⟩

end FileTree

end ApiClient
