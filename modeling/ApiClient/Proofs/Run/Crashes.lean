import ApiClient.Proofs.Run

/-!
When a run is broken off.

Loading, generating and writing each break a run off in a way of their own. Writing does so at a
path that no file can have, after the documents before it are written.
-/

set_option autoImplicit false

namespace ApiClient.FileTree

variable {t t' : FileTree} {p : Path} {d : Document} {c : Crash} {e : DiskError}

theorem ensureDirectory_of_malformed (malformed : p.isWellFormed = false) :
    t.after (Disk.ensureDirectory p) = (.error ⟨.malformedPath, p⟩, t) := by
  rw [after_ensureDirectory, makeDirectory_eq_malformed_iff.mpr malformed,
    kindOf_eq_malformed_iff.mpr malformed]
  simp

theorem ensureDirectories_of_malformed (malformed : p.isWellFormed = false) :
    t.after (Disk.ensureDirectories p) = (.error ⟨.malformedPath, p⟩, t) := by
  have failed := ensureDirectory_of_malformed (t := t) malformed
  rcases after_ensureDirectories t p with same | ⟨e, t', failed', -, missing, -⟩
  · rw [same, failed]
  · rw [failed] at failed'
    cases failed'
    cases missing

theorem fault_of_ensureDirectory (formed : p.isWellFormed = true)
    (error : (t.after (Disk.ensureDirectory p)).1 = .error e) : e.fault ≠ .malformedPath := by
  rw [after_ensureDirectory] at error
  cases made : t.makeDirectory p with
  | ok t' => simp [made] at error
  | error fault =>
    simp only [made] at error
    split at error
    · cases error
    · cases error
      rintro rfl
      simp [makeDirectory_eq_malformed_iff.mp made] at formed

theorem fault_of_ensureDirectories (formed : p.isWellFormed = true)
    (error : (t.after (Disk.ensureDirectories p)).1 = .error e) : e.fault ≠ .malformedPath := by
  induction p using Path.induction_parent generalizing t with
  | step p ih =>
    rcases after_ensureDirectories t p with
      same | ⟨_, t', -, inner, -, ⟨e', t'', around, same⟩ | ⟨t'', -, same⟩⟩
    · exact fault_of_ensureDirectory formed (same ▸ error)
    · refine ih inner (p.isWellFormed_parent formed) (t := t') ?_
      rw [around, ← error, same]
    · exact fault_of_ensureDirectory formed (same ▸ error)

theorem stopOf_eq_crash_iff {explain : DiskError → OutputError} :
    stopOf explain e = .crash c ↔ e.fault = .malformedPath ∧ c = .disk e := by
  unfold stopOf
  split
  · next malformed => simp [malformed, eq_comm]
  · next other => simp [other]

/-- The writing of a document is broken off: its directory cannot be that of a file, or the
directory is made and the document itself has no path that a file can have. -/
inductive BreaksAt (t : FileTree) (d : Document) : Crash → Prop
  | directory (malformed : d.path.parent.isWellFormed = false) :
    BreaksAt t d (.disk ⟨.malformedPath, d.path.parent⟩)
  | file (malformed : d.path.isWellFormed = false)
    (made : (t.after (Disk.ensureDirectories d.path.parent)).1 = .ok ()) :
    BreaksAt t d (.disk ⟨.malformedPath, d.path⟩)

theorem crashes_attempt_iff {explain : DiskError → OutputError}
    {operation : StateM FileTree (Except DiskError Unit)} :
    t.Crashes (Run.attempt explain operation) c ↔ ∃ e, (t.after operation).1 = .error e
      ∧ e.fault = .malformedPath ∧ c = .disk e := by
  rw [Crashes, after_attempt]
  cases (t.after operation).1 with
  | error e => simp [Except.mapError, stopOf_eq_crash_iff]
  | ok _ => simp [Except.mapError]

theorem gives_attempt_iff {explain : DiskError → OutputError}
    {operation : StateM FileTree (Except DiskError Unit)} {u : Unit} :
    t.Gives (Run.attempt explain operation) u t' ↔ t.after operation = (.ok (), t') := by
  rw [Gives, after_attempt]
  rcases t.after operation with ⟨e | _, t''⟩ <;> simp [Except.mapError]

theorem error_write_iff {bytes : ByteArray} :
    (t.after (Disk.write p bytes)).1 = .error e
      ↔ ∃ fault, t.write p bytes = .error fault ∧ e = ⟨fault, p⟩ := by
  rw [after_write]
  cases t.write p bytes with
  | ok t' => simp
  | error fault => simp [eq_comm]

theorem crashes_writeDocument_iff : t.Crashes (Run.writeDocument d) c ↔ t.BreaksAt d c := by
  rw [Run.writeDocument, crashes_bind_iff]
  simp only [crashes_attempt_iff, gives_attempt_iff, error_write_iff]
  constructor
  · rintro (⟨e, failed, malformed, rfl⟩ | ⟨_, t', made, _, ⟨fault, failed, rfl⟩, rfl, rfl⟩)
    · by_cases formed : d.path.parent.isWellFormed = true
      · exact absurd malformed (fault_of_ensureDirectories formed failed)
      · have nul : d.path.parent.isWellFormed = false := by simpa using formed
        rw [ensureDirectories_of_malformed nul] at failed
        cases failed
        exact .directory nul
    · exact .file (write_eq_malformed_iff.mp failed) (by rw [made])
  · rintro (nul | ⟨nul, made⟩)
    · exact .inl ⟨_, by rw [ensureDirectories_of_malformed nul], rfl, rfl⟩
    · exact .inr ⟨(), _, Prod.ext made rfl, _, ⟨_, write_eq_malformed_iff.mpr nul, rfl⟩, rfl, rfl⟩

/-- The writing of documents is broken off at one of them, with those before it written. -/
theorem crashes_writeDocuments_iff {documents : List Document} :
    t.Crashes (Run.writeDocuments documents) c ↔ ∃ before d rest t',
      documents = before ++ d :: rest ∧ t.Gives (Run.writeDocuments before) () t'
        ∧ t'.BreaksAt d c := by
  induction documents generalizing t with
  | nil => simp [Run.writeDocuments, not_crashes_pure]
  | cons d rest ih =>
    rw [Run.writeDocuments, crashes_bind_iff, crashes_writeDocument_iff]
    simp only [ih]
    constructor
    · rintro (breaks | ⟨_, t', wrote, before, e, after, t'', rfl, others, breaks⟩)
      · exact ⟨[], d, rest, t, rfl, rfl, breaks⟩
      · refine ⟨d :: before, e, after, t'', rfl, ?_, breaks⟩
        rw [Run.writeDocuments, gives_bind_iff]
        exact ⟨(), t', wrote, others⟩
    · rintro ⟨_ | ⟨first, before⟩, e, after, t'', split, wrote, breaks⟩
      · cases split
        cases wrote
        exact .inl breaks
      · cases split
        rw [Run.writeDocuments, gives_bind_iff] at wrote
        obtain ⟨_, t', wrote, others⟩ := wrote
        exact .inr ⟨(), t', wrote, before, e, after, t'', rfl, others, breaks⟩

section Run

variable {settings : Settings}

/-- What breaks a run off: the loading of its module or of one beside it, an integer that cannot be
written, or a document without a path that a file can have. -/
inductive RunBreaks (t : FileTree) (settings : Settings) : Crash → Prop
  | module {c : Crash} (breaks : t.Breaks settings.modulePath c) : RunBreaks t settings c
  | other {c : Crash} (d : ModuleDescriptor) (before : List String) (name : String)
    (after : List String) (scans : settings.scanOtherModules = true)
    (loads : t.Loads Form.moduleDescriptor settings.modulePath d)
    (listed : d.otherModules = before ++ name :: after)
    (passes : ∀ other ∈ before, t.Passes (beside settings.modulePath d other))
    (breaks : t.BreaksBeside (beside settings.modulePath d name) c) : RunBreaks t settings c
  | generation (loaded : LoadedStore) (stored : t.storeFor settings = .ok loaded)
    (unwritable : Scope.generate ⟨loaded.store, settings⟩ = .error .unwritable) :
    RunBreaks t settings .unwritable
  | document {c : Crash} (loaded : LoadedStore) (generation : Generation)
    (before : List Document) (d : Document) (after : List Document) (t' : FileTree)
    (stored : t.storeFor settings = .ok loaded)
    (generated : Scope.generate ⟨loaded.store, settings⟩ = .ok generation)
    (listed : generation.documents = before ++ d :: after)
    (written : t.Gives (Run.writeDocuments before) () t')
    (breaks : t'.BreaksAt d c) : RunBreaks t settings c

theorem storeFor_eq_crash_iff : t.storeFor settings = .error (.crash c)
    ↔ t.Breaks settings.modulePath c
      ∨ settings.scanOtherModules = true ∧ ∃ d,
        t.Loads Form.moduleDescriptor settings.modulePath d
          ∧ ∃ before name after, d.otherModules = before ++ name :: after
            ∧ (∀ other ∈ before, t.Passes (beside settings.modulePath d other))
            ∧ t.BreaksBeside (beside settings.modulePath d name) c := by
  simp only [← crashes_surroundings_iff]
  exact crashes_store_iff

theorem crashes_run_of_stopped (stopped : t.storeFor settings = .error (.crash c)) :
    t.Crashes (Run.run settings) c := by
  rw [Crashes, after_run_of_stopped stopped]

theorem crashes_run_of_generated {loaded : LoadedStore} {generation : Generation}
    (stored : t.storeFor settings = .ok loaded)
    (generated : Scope.generate ⟨loaded.store, settings⟩ = .ok generation) :
    t.Crashes (Run.run settings) c ↔ t.Crashes (Run.writeDocuments generation.documents) c := by
  rw [Crashes, after_run_of_generated stored generated]
  change t.Crashes _ c ↔ _
  simp only [crashes_bind_iff, not_crashes_pure, and_false, exists_false, or_false]

theorem crashes_run_iff : t.Crashes (Run.run settings) c ↔ t.RunBreaks settings c := by
  constructor
  · intro crashes
    cases stored : t.storeFor settings with
    | error stop =>
      rw [Crashes, after_run_of_stopped stored] at crashes
      cases crashes
      rcases storeFor_eq_crash_iff.mp stored with
        breaks | ⟨scans, d, loads, before, name, after, listed, passes, breaks⟩
      · exact .module breaks
      · exact .other d before name after scans loads listed passes breaks
    | ok loaded =>
      cases generated : Scope.generate ⟨loaded.store, settings⟩ with
      | error reason =>
        rw [Crashes, after_run_of_refused stored generated] at crashes
        by_cases unwritable : reason = .unwritable
        · subst unwritable
          cases crashes
          exact .generation loaded stored generated
        · simp [refusalStop, unwritable] at crashes
      | ok generation =>
        rw [crashes_run_of_generated stored generated, crashes_writeDocuments_iff] at crashes
        obtain ⟨before, d, after, t', listed, written, breaks⟩ := crashes
        exact .document loaded generation before d after t' stored generated listed written breaks
  · intro breaks
    cases breaks with
    | module breaks => exact crashes_run_of_stopped (storeFor_eq_crash_iff.mpr (.inl breaks))
    | other d before name after scans loads listed passes breaks =>
      exact crashes_run_of_stopped (storeFor_eq_crash_iff.mpr
        (.inr ⟨scans, d, loads, before, name, after, listed, passes, breaks⟩))
    | generation loaded stored unwritable =>
      rw [Crashes, after_run_of_refused stored unwritable]
      rfl
    | document loaded generation before d after t' stored generated listed written breaks =>
      rw [crashes_run_of_generated stored generated, crashes_writeDocuments_iff]
      exact ⟨before, d, after, t', listed, written, breaks⟩

end Run

end ApiClient.FileTree
