import ApiClient.Proofs.Generation
import ApiClient.Proofs.Loading
import ApiClient.Run

/-!
What a run does to a tree of files.

A tree evolves while documents are written: all nodes stay, a document's file holds the last text
written there, and the only other nodes are new directories above documents. A run that writes
nothing leaves its tree as it is, and one that stops at a document has written those before it.
-/

set_option autoImplicit false

namespace ApiClient

/-- A path is above another one. -/
def Path.IsAbove (q p : Path) : Prop := q.anchor = p.anchor ∧ q.parts <+: p.parent.parts

theorem Path.isAbove_parent (p : Path) : p.parent.IsAbove p := ⟨rfl, List.prefix_rfl⟩

theorem Path.IsAbove.parent {q p : Path} (above : q.IsAbove p) : q.parent.IsAbove p :=
  ⟨above.1, (List.dropLast_prefix _).trans above.2⟩

namespace FileTree

variable {t t' t'' : FileTree} {written written' tried tried' : List Document}
variable {names : List String} {d : Document} {p : Path}

/-- The last document that is to stand under the given names. -/
def lastAt (t : FileTree) (documents : List Document) (names : List String) : Option Document :=
  documents.reverse.find? fun d => t.target d.path = names

theorem lastAt_append :
    t.lastAt (written ++ written') names
      = (t.lastAt written' names).or (t.lastAt written names) := by
  simp [lastAt, List.find?_append]

theorem lastAt_singleton :
    t.lastAt [d] names = if t.target d.path = names then some d else none := by
  by_cases here : t.target d.path = names <;> simp [lastAt, here]

theorem lastAt_congr (same : t'.workingDirectory = t.workingDirectory) (written : List Document)
    (names : List String) : t'.lastAt written names = t.lastAt written names := by
  simp [lastAt, target_congr same]

theorem lastAt_eq_some (last : t.lastAt written names = some d) :
    d ∈ written ∧ t.target d.path = names := by
  have found := List.find?_some last
  exact ⟨by simpa using List.mem_of_find?_eq_some last, by simpa using found⟩

theorem exists_lastAt (mem : d ∈ written) : ∃ e, t.lastAt written (t.target d.path) = some e := by
  rw [← Option.isSome_iff_exists, lastAt, List.find?_isSome]
  exact ⟨d, by simpa using mem, by simp⟩

/-- A directory that was made above one of some documents. -/
def IsMadeAbove (t : FileTree) (tried : List Document) (names : List String) (t' : FileTree) :
    Prop :=
  t.node? names = none ∧ t'.node? names = some .directory
    ∧ ∃ d ∈ tried, ∃ q : Path, q.IsAbove d.path ∧ t.target q = names

/-- How a tree changes when documents are written in order, with directories made for the documents
that are tried. -/
structure Evolves (t : FileTree) (written tried : List Document) (t' : FileTree) : Prop where
  workingDirectory : t'.workingDirectory = t.workingDirectory
  -- the path of a written document can be followed to its file
  reached : ∀ d ∈ written, t'.locate d.path = .ok ⟨t.target d.path, t'.node? (t.target d.path)⟩
  -- a file holds what was written there last, and no directory gave way to it
  held : ∀ names d, t.lastAt written names = some d →
    t.node? names ≠ some .directory ∧ t'.node? names = some (.file d.text.toUTF8)
  -- where no document was written nothing changed, or a directory is new
  kept : ∀ names, t.lastAt written names = none →
    t'.node? names = t.node? names ∨ t.IsMadeAbove tried names t'

theorem Evolves.refl : Evolves t [] tried t :=
  ⟨rfl, by simp, by simp [lastAt], fun _ _ => .inl rfl⟩

theorem Evolves.directory (evolves : Evolves t written tried t')
    (there : t.node? names = some .directory) : t'.node? names = some .directory := by
  cases last : t.lastAt written names with
  | some d => exact absurd there (evolves.held names d last).1
  | none =>
    rcases evolves.kept names last with same | ⟨free, -⟩
    · rw [same, there]
    · rw [free] at there
      cases there

theorem Evolves.grows (evolves : Evolves t written tried t') : Grows t t' :=
  ⟨evolves.workingDirectory, fun _ there => evolves.directory there⟩

theorem Evolves.trans (first : Evolves t written tried t')
    (second : Evolves t' written' tried t'') : Evolves t (written ++ written') tried t'' := by
  have sameTarget := target_congr first.workingDirectory
  have sameLast := lastAt_congr first.workingDirectory written'
  refine ⟨second.workingDirectory.trans first.workingDirectory, fun d mem => ?_,
    fun names d last => ?_, fun names last => ?_⟩
  · rcases List.mem_append.mp mem with mem | mem
    · -- a file that was reached before is reached again, since all directories stay
      exact second.grows.locate_node (first.reached d mem)
    · rw [second.reached d mem, sameTarget]
  · -- the last document at a name is one of those written later, or else of those before
    rw [lastAt_append] at last
    cases lastAgain : t.lastAt written' names with
    | some e =>
      obtain rfl : e = d := by simpa [lastAgain] using last
      obtain ⟨free, file⟩ := second.held names e (by rw [sameLast, lastAgain])
      exact ⟨fun there => free (first.directory there), file⟩
    | none =>
      obtain ⟨free, file⟩ := first.held names d (by simpa [lastAgain] using last)
      refine ⟨free, ?_⟩
      rcases second.kept names (by rw [sameLast, lastAgain]) with same | ⟨empty, -⟩
      · rw [same, file]
      · rw [file] at empty
        cases empty
  · obtain ⟨lastAgain, last⟩ := Option.or_eq_none_iff.mp (lastAt_append ▸ last)
    rcases first.kept names last with same | ⟨free, made, above⟩
    · rcases second.kept names (by rw [sameLast, lastAgain]) with
        same' | ⟨free, made, d, mem, q, above⟩
      · exact .inl (same'.trans same)
      · exact .inr ⟨same ▸ free, made, d, mem, q, by rwa [sameTarget] at above⟩
    · exact .inr ⟨free, second.directory made, above⟩

theorem Evolves.mono (evolves : Evolves t written tried t') (sub : tried ⊆ tried') :
    Evolves t written tried' t' := by
  refine ⟨evolves.workingDirectory, evolves.reached, evolves.held, fun names last => ?_⟩
  rcases evolves.kept names last with same | ⟨free, made, d, mem, above⟩
  · exact .inl same
  · exact .inr ⟨free, made, d, sub mem, above⟩

theorem evolves_of_makeDirectory (made : t.makeDirectory p = .ok t') (above : p.IsAbove d.path) :
    Evolves t [] [d] t' := by
  obtain ⟨free, rfl⟩ := makeDirectory_ok made
  have noDirectory : t.node? (t.target p) ≠ some .directory := by simp [free]
  refine ⟨rfl, by simp, by simp [lastAt], fun names _ => ?_⟩
  by_cases here : names = t.target p
  · refine .inr ⟨here ▸ free, ?_, d, by simp, p, above, here.symm⟩
    simp [node?_set _ noDirectory, here]
  · exact .inl (by simp [node?_set _ noDirectory, here])

theorem evolves_of_write (wrote : t.write d.path d.text.toUTF8 = .ok t') :
    Evolves t [d] [d] t' := by
  obtain ⟨located, noDirectory, rfl⟩ := write_ok wrote
  have grows := grows_set (.file d.text.toUTF8) noDirectory
  have file := node?_set (.file d.text.toUTF8) noDirectory
  refine ⟨rfl, fun e mem => ?_, fun names e last => ?_, fun names last => ?_⟩
  · obtain rfl := List.mem_singleton.mp mem
    exact grows.locate_node located
  · rw [lastAt_singleton] at last
    split at last
    · next here =>
      cases last
      subst here
      exact ⟨noDirectory, by rw [file, if_pos rfl]⟩
    · cases last
  · rw [lastAt_singleton] at last
    split at last
    · cases last
    · next elsewhere => exact .inl (by rw [file, if_neg (Ne.symm elsewhere)])

theorem evolves_ensureDirectory (above : p.IsAbove d.path) :
    Evolves t [] [d] (t.after (Disk.ensureDirectory p)).2 := by
  rw [after_ensureDirectory]
  cases made : t.makeDirectory p with
  | ok t' => exact evolves_of_makeDirectory made above
  | error fault => exact .refl

theorem evolves_ensureDirectories (above : p.IsAbove d.path) :
    Evolves t [] [d] (t.after (Disk.ensureDirectories p)).2 := by
  -- the directories are made from the outermost missing one inwards
  induction p using Path.induction_parent generalizing t with
  | step p ih =>
    have first := evolves_ensureDirectory (t := t) above
    rcases after_ensureDirectories t p with
      same | ⟨e, t', failed, inner, -, ⟨e', t'', around, same⟩ | ⟨t'', around, same⟩⟩
    · rwa [same]
    all_goals
      rw [failed] at first
      have second := ih inner above.parent (t := t')
      rw [around] at second
      rw [same]
    · exact first.trans second
    · exact (first.trans second).trans (evolves_ensureDirectory above)

/-- What stops the writing of a document: its directory or its file cannot be had, or no file can
have its path. -/
inductive GivesUp (d : Document) : Stop → Prop
  | directory (e : DiskError) : GivesUp d (.failure (.output (.directory d.path.parent e)))
  | file (e : DiskError) : GivesUp d (.failure (.output (.file d.path e)))
  | path (e : DiskError) (malformed : e.fault = .malformedPath) : GivesUp d (.crash (.disk e))

/-- What an attempt stops with. -/
def stopOf (explain : DiskError → OutputError) (e : DiskError) : Stop :=
  if e.fault = .malformedPath then .crash (.disk e) else .failure (.output (explain e))

theorem after_attempt (explain : DiskError → OutputError)
    (operation : StateM FileTree (Except DiskError Unit)) :
    t.after (Run.attempt explain operation).run
      = ((t.after operation).1.mapError (stopOf explain), (t.after operation).2) := by
  change t.after (operation >>= _) = _
  rw [after_bind]
  rcases t.after operation with ⟨e | _, t'⟩
  · by_cases malformed : e.fault = .malformedPath <;> simp [Except.mapError, stopOf, malformed]
  · rfl

theorem givesUp_directory (e : DiskError) : GivesUp d (stopOf (.directory d.path.parent) e) := by
  unfold stopOf
  split
  · next malformed => exact .path e malformed
  · exact .directory e

theorem givesUp_file (e : DiskError) : GivesUp d (stopOf (.file d.path) e) := by
  unfold stopOf
  split
  · next malformed => exact .path e malformed
  · exact .file e

/-- A document is written, or the writing stops at it. -/
theorem after_writeDocument (t : FileTree) (d : Document) :
    (∃ t', t.after (Run.writeDocument d).run = (.ok (), t') ∧ Evolves t [d] [d] t')
      ∨ ∃ stop t', t.after (Run.writeDocument d).run = (.error stop, t') ∧ GivesUp d stop
        ∧ Evolves t [] [d] t' := by
  have above := evolves_ensureDirectories (t := t) d.path.isAbove_parent
  have made := after_attempt (t := t) (.directory d.path.parent)
    (Disk.ensureDirectories d.path.parent)
  rcases opened : t.after (Disk.ensureDirectories d.path.parent) with ⟨e | _, t'⟩
  all_goals rw [opened] at above made
  · exact .inr ⟨_, t', after_run_bind_error made, givesUp_directory e, above⟩
  · have wrote := after_attempt (t := t') (.file d.path) (Disk.write d.path d.text.toUTF8)
    rw [Run.writeDocument, after_run_bind_ok made, wrote, after_write]
    cases done : t'.write d.path d.text.toUTF8 with
    | ok t'' => exact .inl ⟨t'', rfl, above.trans (evolves_of_write done)⟩
    | error fault => exact .inr ⟨_, t', rfl, givesUp_file _, above⟩

/-- Documents are all written in order, or those before the first at which the writing stops. -/
theorem after_writeDocuments (t : FileTree) (documents : List Document) :
    (∃ t', t.after (Run.writeDocuments documents).run = (.ok (), t')
        ∧ Evolves t documents documents t')
      ∨ ∃ before d rest stop t', documents = before ++ d :: rest
        ∧ t.after (Run.writeDocuments documents).run = (.error stop, t') ∧ GivesUp d stop
        ∧ Evolves t before (before ++ [d]) t' := by
  induction documents generalizing t with
  | nil => exact .inl ⟨t, rfl, .refl⟩
  | cons d rest ih =>
    rw [Run.writeDocuments]
    rcases after_writeDocument t d with ⟨t', wrote, first⟩ | ⟨stop, t', stopped, givesUp, first⟩
    · rw [after_run_bind_ok wrote]
      rcases ih t' with
        ⟨t'', ran, others⟩ | ⟨before, e, after, stop, t'', rfl, ran, givesUp, others⟩
      · exact .inl ⟨t'', ran, (first.mono (by simp)).trans (others.mono (by simp))⟩
      · refine .inr ⟨d :: before, e, after, stop, t'', rfl, ran, givesUp, ?_⟩
        exact (first.mono (by simp)).trans (others.mono (by simp))
    · exact .inr ⟨[], d, rest, stop, t', rfl, after_run_bind_error stopped, givesUp, first⟩

section Run

variable {settings : Settings} {loaded : LoadedStore} {generation : Generation}

/-- The result of loading the store that settings ask for. -/
def storeFor (t : FileTree) (settings : Settings) : Except Stop LoadedStore :=
  (t.after (Loading.store settings.modulePath settings.scanOtherModules).run).1

theorem after_store :
    t.after (Loading.store settings.modulePath settings.scanOtherModules).run
      = (t.storeFor settings, t) :=
  Prod.ext rfl (observes_store t)

theorem after_run_of_stopped {stop : Stop} (stopped : t.storeFor settings = .error stop) :
    t.after (Run.run settings).run = (.error stop, t) :=
  after_run_bind_error (by rw [after_store, stopped])

/-- What a generation stops with. -/
def refusalStop (reason : Refusal) : Stop :=
  if reason = .unwritable then .crash .unwritable else .failure (.refusal reason)

theorem after_run_of_refused {reason : Refusal} (ok : t.storeFor settings = .ok loaded)
    (refused : Scope.generate ⟨loaded.store, settings⟩ = .error reason) :
    t.after (Run.run settings).run = (.error (refusalStop reason), t) := by
  rw [Run.run, after_run_bind_ok (by rw [after_store, ok]), refused]
  cases reason <;> rfl

theorem after_run_of_generated (ok : t.storeFor settings = .ok loaded)
    (generated : Scope.generate ⟨loaded.store, settings⟩ = .ok generation) :
    t.after (Run.run settings).run
      = t.after (do
          Run.writeDocuments generation.documents
          return ⟨generation, loaded.missing⟩ : ExceptT Stop (StateM FileTree) RunReport).run := by
  rw [Run.run, after_run_bind_ok (by rw [after_store, ok]), generated]

theorem gives_run_iff {report : RunReport} :
    t.Gives (Run.run settings) report t' ↔ ∃ loaded, t.storeFor settings = .ok loaded
      ∧ Scope.generate ⟨loaded.store, settings⟩ = .ok report.generation
      ∧ loaded.missing = report.missing
      ∧ t.Gives (Run.writeDocuments report.generation.documents) () t' := by
  cases stored : t.storeFor settings with
  | error stop => simp [Gives, after_run_of_stopped stored]
  | ok loaded =>
    simp only [Except.ok.injEq, exists_eq_left']
    cases generated : Scope.generate ⟨loaded.store, settings⟩ with
    | error reason => simp [Gives, after_run_of_refused stored generated]
    | ok generation =>
      rw [Gives, after_run_of_generated stored generated]
      change t.Gives _ report t' ↔ _
      rw [gives_bind_iff]
      simp only [gives_pure_iff, Except.ok.injEq]
      constructor
      · rintro ⟨_, _, wrote, rfl, rfl⟩
        exact ⟨rfl, rfl, wrote⟩
      · rintro ⟨rfl, missing, wrote⟩
        exact ⟨(), t', wrote, by rw [missing], rfl⟩

/-- What a run does to a tree: nothing before the documents are made, and then it writes them. -/
theorem after_run (t : FileTree) (settings : Settings) :
    let ran := t.after (Run.run settings).run
    match t.storeFor settings with
    | .error stop => ran = (.error stop, t)
    | .ok loaded =>
      match Scope.generate ⟨loaded.store, settings⟩ with
      | .error reason => ran = (.error (refusalStop reason), t)
      | .ok generation =>
        let documents := generation.documents
        (ran.1 = .ok ⟨generation, loaded.missing⟩ ∧ Evolves t documents documents ran.2)
          ∨ ∃ before d rest stop, documents = before ++ d :: rest ∧ ran.1 = .error stop
            ∧ GivesUp d stop ∧ Evolves t before (before ++ [d]) ran.2 := by
  intro ran
  cases stored : t.storeFor settings with
  | error stop => exact after_run_of_stopped stored
  | ok loaded =>
    dsimp only
    cases generated : Scope.generate ⟨loaded.store, settings⟩ with
    | error reason => exact after_run_of_refused stored generated
    | ok generation =>
      have steps : ran = _ := after_run_of_generated stored generated
      dsimp only
      rcases after_writeDocuments t generation.documents with
        ⟨t', wrote, evolves⟩ | ⟨before, d, rest, stop, t', split, stopped, givesUp, evolves⟩
      · rw [steps, after_run_bind_ok wrote]
        exact .inl ⟨rfl, evolves⟩
      · rw [steps, after_run_bind_error stopped]
        exact .inr ⟨before, d, rest, stop, split, rfl, givesUp, evolves⟩

theorem evolves_of_gives_run {report : RunReport} (gives : t.Gives (Run.run settings) report t') :
    Evolves t report.generation.documents report.generation.documents t' := by
  obtain ⟨loaded, -, -, -, wrote⟩ := gives_run_iff.mp gives
  rcases after_writeDocuments t report.generation.documents with
    ⟨t'', ran, evolves⟩ | ⟨_, _, _, _, _, -, ran, -⟩
  · rw [Gives, ran] at wrote
    cases wrote
    exact evolves
  · rw [Gives, ran] at wrote
    cases wrote

theorem Evolves.read (evolves : Evolves t written tried t') (mem : d ∈ written) :
    ∃ e, t.lastAt written (t.target d.path) = some e ∧ t'.read d.path = .ok e.text.toUTF8 := by
  obtain ⟨e, last⟩ := exists_lastAt (t := t) mem
  refine ⟨e, last, ?_⟩
  simp only [FileTree.read, evolves.reached d mem, (evolves.held _ e last).2]

end Run

/-! A module without types, and settings by which two documents go to one file. -/

end FileTree

namespace Sample

def moduleOnly : FileTree := ⟨[], [(["Acme.json"], .file "\x7b\"name\": \"Acme\"\x7d".toUTF8)]⟩

def oneFile : Settings :=
  { settings false "Endpoints" with
    moduleFileName := "Acme.json"
    generateEnums := false
    endpoints := ⟨none, "Out.ts", "Endpoints"⟩
    service := ⟨none, "Out.ts", "Endpoints"⟩ }

/-- Whether all documents are held after a run that succeeds. -/
def allHeld? : Except Stop RunReport × FileTree → Option Bool
  | (.ok report, t') => some (report.generation.documents.all fun d =>
      match t'.read d.path with
      | .ok bytes => bytes.data == d.text.toUTF8.data
      | .error _ => false)
  | (.error _, _) => none

theorem exists_gives_run :
    ∃ report t', moduleOnly.Gives (Run.run oneFile) report t'
      ∧ allHeld? (.ok report, t') = some false := by
  have evaluated : allHeld? (moduleOnly.after (Run.run oneFile).run) = some false := by decide +kernel
  exact FileTree.exists_gives_of_shown (fun stop t' => rfl) evaluated

end Sample

namespace FileTree

variable {t t' : FileTree}

/-- After a run every document's file holds the last of the documents that lead there; so all
documents are held just when those that lead to one file say the same. -/
theorem read_of_gives_run {settings : Settings} {report : RunReport}
    (gives : t.Gives (Run.run settings) report t') :
    let documents := report.generation.documents
    (∀ d ∈ documents, ∃ e, t.lastAt documents (t.target d.path) = some e
        ∧ t'.read d.path = .ok e.text.toUTF8)
      ∧ ((∀ d ∈ documents, t'.read d.path = .ok d.text.toUTF8)
        ↔ ∀ d ∈ documents, ∀ e ∈ documents, t.target d.path = t.target e.path →
          d.text = e.text) := by
  intro documents
  have evolves : Evolves t documents documents t' := evolves_of_gives_run gives
  refine ⟨fun d mem => evolves.read mem, fun held d mem e mem' same => ?_, fun alike d mem => ?_⟩
  · have sameFile : t'.read d.path = t'.read e.path := by
      simp only [FileTree.read, evolves.reached d mem, evolves.reached e mem', same]
    rw [held d mem, held e mem'] at sameFile
    simpa [String.toByteArray_inj] using sameFile
  · obtain ⟨e, last, read⟩ := evolves.read mem
    obtain ⟨mem', same⟩ := lastAt_eq_some last
    rw [read, alike d mem e mem' same.symm]

theorem read_of_gives_run_shared :
    ∃ report t', Sample.moduleOnly.Gives (Run.run Sample.oneFile) report t'
      ∧ ∀ d ∈ report.generation.documents, ∃ e,
        Sample.moduleOnly.lastAt report.generation.documents (Sample.moduleOnly.target d.path) = some e
          ∧ t'.read d.path = .ok e.text.toUTF8 := by
  obtain ⟨report, t', gives, -⟩ := Sample.exists_gives_run
  exact ⟨report, t', gives, (read_of_gives_run gives).1⟩

/-- A run may succeed and one of its documents be lost. -/
theorem exists_document_lost :
    ∃ report t', Sample.moduleOnly.Gives (Run.run Sample.oneFile) report t'
      ∧ ∃ d ∈ report.generation.documents, t'.read d.path ≠ .ok d.text.toUTF8 := by
  obtain ⟨report, t', gives, lost⟩ := Sample.exists_gives_run
  obtain ⟨d, mem, differs⟩ := List.all_eq_false.mp (Option.some.inj lost)
  refine ⟨report, t', gives, d, mem, fun held => differs ?_⟩
  simp [held]

end FileTree

end ApiClient
