import ApiClient.Loading
import ApiClient.Proofs.FileTree

/-!
What loading gives on a tree of files.

Loading changes no file. A file is loaded, or it is reported, or it breaks the loading off: just
when no file can have its path, or it is no text, or it holds a value that there is not. Looking for
a file breaks off just when its path is too long.
-/

set_option autoImplicit false

namespace ApiClient

namespace FileTree

variable {α β : Type} {t : FileTree} {p : Path}

/-- The text of a file, if its bytes stand for one. -/
def text? (t : FileTree) (p : Path) : Except DiskFault (Option String) :=
  (t.read p).map Text.decode?

/-- A file from which a form is filled. -/
def Loads (t : FileTree) (form : Data → Verdict α) (p : Path) (a : α) : Prop :=
  ∃ text members, t.text? p = .ok (some text)
    ∧ (Format.ofPath p).read text = .ok (.object members) ∧ form (.object members) = .valid a

/-- What breaks off the loading of a file. -/
inductive Breaks (t : FileTree) (p : Path) : Crash → Prop
  | path (malformed : p.isWellFormed = false) : Breaks t p (.disk ⟨.malformedPath, p⟩)
  | text (noText : t.text? p = .ok none) : Breaks t p (.undecodable p)
  | value (text : String) (reason : Unfit) (held : t.text? p = .ok (some text))
    (unfit : (Format.ofPath p).read text = .error (.unfit reason)) : Breaks t p (.unfit p reason)

/-- Loading gives a value from a file, or it breaks off there, or the file is reported. -/
structure Decides (t : FileTree) (subject : Subject) (form : Data → Verdict α) (p : Path)
    (result : Except Stop α) : Prop where
  ok : ∀ a, result = .ok a ↔ t.Loads form p a
  crash : ∀ c, result = .error (.crash c) ↔ t.Breaks p c
  failure : ∀ reason, result = .error (.failure reason) →
    ∃ fault, reason = .load ⟨subject, p, fault⟩

theorem text?_eq_malformed_iff : t.text? p = .error .malformedPath ↔ p.isWellFormed = false := by
  rw [← read_eq_malformed_iff (t := t), text?]
  cases t.read p <;> simp [Except.map]

variable {subject : Subject} {form : Data → Verdict α}

theorem Loads.unique {a b : α} (first : t.Loads form p a) (second : t.Loads form p b) : a = b := by
  obtain ⟨text, members, held, parsed, filled⟩ := first
  obtain ⟨text', members', held', parsed', filled'⟩ := second
  obtain rfl : text = text' := by simpa [held] using held'
  obtain rfl : members = members' := by simpa [parsed] using parsed'
  simpa [filled] using filled'

theorem Loads.not_breaks {a : α} {c : Crash} (loads : t.Loads form p a) : ¬ t.Breaks p c := by
  obtain ⟨text, members, held, parsed, -⟩ := loads
  intro breaks
  cases breaks with
  | path malformed => simp [text?_eq_malformed_iff.mpr malformed] at held
  | text noText => simp [noText] at held
  | value text' reason held' unfit =>
    obtain rfl : text = text' := by simpa [held] using held'
    simp [parsed] at unfit

theorem Breaks.unique {c c' : Crash} (first : t.Breaks p c) (second : t.Breaks p c') : c = c' := by
  cases first with
  | path malformed =>
    have error := (text?_eq_malformed_iff (t := t)).mpr malformed
    cases second with
    | path => rfl
    | text noText => simp [error] at noText
    | value text reason held => simp [error] at held
  | text noText =>
    cases second with
    | path malformed => simp [text?_eq_malformed_iff.mpr malformed] at noText
    | text => rfl
    | value text reason held => simp [noText] at held
  | value text reason held unfit =>
    cases second with
    | path malformed => simp [text?_eq_malformed_iff.mpr malformed] at held
    | text noText => simp [noText] at held
    | value text' reason' held' unfit' =>
      obtain rfl : text = text' := by simpa [held] using held'
      obtain rfl : reason = reason' := by simpa [unfit] using unfit'
      rfl

theorem Decides.of_loads {a : α} (loads : t.Loads form p a) :
    t.Decides subject form p (.ok a) := by
  refine ⟨fun b => ⟨fun same => ?_, fun other => ?_⟩, fun c => ⟨fun crash => ?_, fun breaks => ?_⟩,
    fun reason failure => ?_⟩
  · cases same
    exact loads
  · rw [loads.unique other]
  · cases crash
  · exact absurd breaks loads.not_breaks
  · cases failure

theorem Decides.of_breaks {c : Crash} (breaks : t.Breaks p c) :
    t.Decides subject form p (.error (.crash c)) := by
  refine ⟨fun a => ⟨fun ok => ?_, fun loads => ?_⟩, fun c' => ⟨fun same => ?_, fun other => ?_⟩,
    fun reason failure => ?_⟩
  · cases ok
  · exact absurd breaks loads.not_breaks
  · cases same
    exact breaks
  · rw [breaks.unique other]
  · cases failure

theorem Decides.of_neither (fault : LoadFault) (unloaded : ∀ a, ¬ t.Loads form p a)
    (unbroken : ∀ c, ¬ t.Breaks p c) :
    t.Decides subject form p (.error (.failure (.load ⟨subject, p, fault⟩))) := by
  refine ⟨fun a => ⟨fun ok => ?_, fun loads => absurd loads (unloaded a)⟩,
    fun c => ⟨fun crash => ?_, fun breaks => absurd breaks (unbroken c)⟩, fun reason failure => ?_⟩
  · cases ok
  · cases crash
  · cases failure
    exact ⟨fault, rfl⟩

section Parsed

variable {text : String} {parsed : Except ReadFault Data}

theorem loads_iff_of_text (held : t.text? p = .ok (some text))
    (read : (Format.ofPath p).read text = parsed) (a : α) :
    t.Loads form p a ↔ ∃ members, parsed = .ok (.object members)
      ∧ form (.object members) = .valid a := by
  constructor
  · rintro ⟨text', members, held', read', filled⟩
    obtain rfl : text = text' := by simpa [held] using held'
    exact ⟨members, read.symm.trans read', filled⟩
  · rintro ⟨members, rfl, filled⟩
    exact ⟨text, members, held, read, filled⟩

theorem breaks_iff_of_text (held : t.text? p = .ok (some text))
    (read : (Format.ofPath p).read text = parsed) (c : Crash) :
    t.Breaks p c ↔ ∃ reason, parsed = .error (.unfit reason) ∧ c = .unfit p reason := by
  constructor
  · intro breaks
    cases breaks with
    | path malformed => simp [text?_eq_malformed_iff.mpr malformed] at held
    | text noText => simp [held] at noText
    | value text' reason held' unfit =>
      obtain rfl : text = text' := by simpa [held] using held'
      exact ⟨reason, read.symm.trans unfit, rfl⟩
  · rintro ⟨reason, rfl, rfl⟩
    exact .value text reason held read

theorem decides_ofTree (held : t.text? p = .ok (some text)) (d : Data)
    (read : (Format.ofPath p).read text = .ok d) :
    t.Decides subject form p (match Form.ofTree form d with
      | .ok a => .ok a
      | .error fault => .error (.failure (.load ⟨subject, p, fault⟩))) := by
  have unbroken : ∀ c, ¬ t.Breaks p c := by
    intro c breaks
    obtain ⟨reason, unfit, -⟩ := (breaks_iff_of_text held read c).mp breaks
    cases unfit
  by_cases record : ∃ members, d = .object members
  · obtain ⟨members, rfl⟩ := record
    cases filled : form (.object members) with
    | valid a =>
      simp only [Form.ofTree, filled]
      exact .of_loads ((loads_iff_of_text held read a).mpr ⟨members, rfl, filled⟩)
    | invalid issues =>
      simp only [Form.ofTree, filled]
      refine .of_neither (.invalid issues) (fun a loads => ?_) unbroken
      obtain ⟨members', same, filled'⟩ := (loads_iff_of_text held read a).mp loads
      cases same
      simp [filled] at filled'
  · have noRecord : Form.ofTree form d = .error .notRecord := by
      cases d with
      | object members => exact absurd ⟨members, rfl⟩ record
      | _ => rfl
    simp only [noRecord]
    refine .of_neither .notRecord (fun a loads => ?_) unbroken
    obtain ⟨members, same, -⟩ := (loads_iff_of_text held read a).mp loads
    cases same
    exact record ⟨members, rfl⟩

theorem decides_ofText (held : t.text? p = .ok (some text)) :
    t.Decides subject form p (Form.ofText subject form p text) := by
  -- the format is kept apart, since computing it from the path is a long way
  generalize written : Format.ofPath p = format
  unfold Form.ofText
  rw [written]
  dsimp only
  cases parsed : format.read text with
  | error fault =>
    have read : (Format.ofPath p).read text = .error fault := by rw [written, parsed]
    cases fault with
    | malformed =>
      refine .of_neither (.malformed format) (fun a loads => ?_) (fun c breaks => ?_)
      · obtain ⟨members, same, -⟩ := (loads_iff_of_text held read a).mp loads
        cases same
      · obtain ⟨reason, same, -⟩ := (breaks_iff_of_text held read c).mp breaks
        cases same
    | unfit reason => exact .of_breaks (.value text reason held read)
  | ok d => exact decides_ofTree held d (by rw [written, parsed])

end Parsed

theorem ofText_invalid {text : String} {d : Data} {issues : List Issue}
    (read : (Format.ofPath p).read text = .ok d)
    (record : ∃ members, d = .object members) (refused : form d = .invalid issues) :
    Form.ofText subject form p text = .error (.failure (.load ⟨subject, p, .invalid issues⟩)) := by
  obtain ⟨members, rfl⟩ := record
  unfold Form.ofText
  generalize Format.ofPath p = format at read
  simp only [read, Form.ofTree, refused]

theorem ofFile_of_text {text : String} (held : t.text? p = .ok (some text)) :
    Form.ofFile subject form p ((t.read p).mapError (⟨·, p⟩))
      = Form.ofText subject form p text := by
  unfold text? at held
  cases read : t.read p with
  | error fault => simp [read, Except.map] at held
  | ok bytes =>
    rw [read] at held
    have decoded : Text.decode? bytes = some text := Except.ok.inj held
    simp only [Except.mapError, Form.ofFile, decoded]

/-- What comes of the file at a path. -/
theorem decides_ofFile :
    t.Decides subject form p (Form.ofFile subject form p ((t.read p).mapError (⟨·, p⟩))) := by
  cases held : t.read p with
  | error fault =>
    have unread : t.text? p = .error fault := by simp [text?, held, Except.map]
    by_cases malformed : fault = .malformedPath
    · subst malformed
      exact .of_breaks (.path (text?_eq_malformed_iff.mp unread))
    · have unloaded : ∀ a, ¬ t.Loads form p a := by
        rintro a ⟨text, members, held', -⟩
        simp [unread] at held'
      have unbroken : ∀ c, ¬ t.Breaks p c := by
        intro c breaks
        cases breaks with
        | path nul => exact malformed (by
          simpa [unread] using (text?_eq_malformed_iff (t := t)).mpr nul)
        | text noText => simp [unread] at noText
        | value text reason held' => simp [unread] at held'
      cases fault <;> first | exact absurd rfl malformed | exact .of_neither _ unloaded unbroken
  | ok bytes =>
    have read : t.text? p = .ok (Text.decode? bytes) := by simp [text?, held, Except.map]
    simp only [Except.mapError, Form.ofFile]
    cases decoded : Text.decode? bytes with
    | none => exact .of_breaks (.text (by rw [read, decoded]))
    | some text => exact decides_ofText (by rw [read, decoded])

/-- The loading of a file stops with a report about it, or it is broken off there. -/
def StopsAt (t : FileTree) (subject : Subject) (p : Path) (stop : Stop) : Prop :=
  (∃ fault, stop = .failure (.load ⟨subject, p, fault⟩)) ∨ ∃ c, stop = .crash c ∧ t.Breaks p c

theorem Decides.stopsAt {stop : Stop} (decides : t.Decides subject form p (.error stop)) :
    t.StopsAt subject p stop := by
  cases stop with
  | failure reason =>
    obtain ⟨fault, rfl⟩ := decides.failure reason rfl
    exact .inl ⟨fault, rfl⟩
  | crash c => exact .inr ⟨c, rfl, (decides.crash c).mp rfl⟩

section Programs

variable {x : ExceptT Stop (StateM FileTree) α} {f : α → ExceptT Stop (StateM FileTree) β}
variable {c : Crash} {t' : FileTree}

/-- On a tree a program gives a value and leaves another tree. -/
def Gives (t : FileTree) (x : ExceptT Stop (StateM FileTree) α) (a : α) (t' : FileTree) : Prop :=
  t.after x.run = (.ok a, t')

/-- On a tree a program is broken off. -/
def Crashes (t : FileTree) (x : ExceptT Stop (StateM FileTree) α) (c : Crash) : Prop :=
  (t.after x.run).1 = .error (.crash c)

/-- A program changes no tree. -/
def Observes (x : ExceptT Stop (StateM FileTree) α) : Prop := ∀ t : FileTree, (t.after x.run).2 = t

/-- A program whose end shows something that no stop shows has given a value. -/
theorem exists_gives_of_shown {shown : Except Stop α × FileTree → Option β} {b : β}
    (stopped : ∀ stop t', shown (.error stop, t') = none)
    (evaluated : shown (t.after x.run) = some b) :
    ∃ a t', t.Gives x a t' ∧ shown (.ok a, t') = some b := by
  rcases ran : t.after x.run with ⟨stop | a, t'⟩
  · rw [ran, stopped] at evaluated
    cases evaluated
  · rw [ran] at evaluated
    exact ⟨a, t', ran, evaluated⟩

theorem gives_pure_iff {a b : α} :
    t.Gives (pure a : ExceptT Stop (StateM FileTree) α) b t' ↔ a = b ∧ t = t' := by
  simp [Gives, ExceptT.run_pure]

theorem not_crashes_pure (a : α) (c : Crash) :
    ¬ t.Crashes (pure a : ExceptT Stop (StateM FileTree) α) c := by
  simp [Crashes, ExceptT.run_pure]

theorem gives_lift_iff {x : StateM FileTree α} {a : α} :
    t.Gives (ExceptT.lift x) a t' ↔ t.after x = (a, t') := by
  change t.after (Except.ok <$> x) = _ ↔ _
  rw [map_eq_pure_bind, after_bind]
  rcases t.after x with ⟨a', t''⟩
  simp

theorem not_crashes_lift (x : StateM FileTree α) (c : Crash) : ¬ t.Crashes (ExceptT.lift x) c := by
  intro crashes
  cases crashes

theorem gives_bind_iff {b : β} {t'' : FileTree} :
    t.Gives (x >>= f) b t'' ↔ ∃ a t', t.Gives x a t' ∧ t'.Gives (f a) b t'' := by
  unfold Gives
  rcases ran : t.after x.run with ⟨_ | a, t'⟩
  · rw [after_run_bind_error ran]
    simp
  · rw [after_run_bind_ok ran]
    simp

theorem crashes_bind_iff :
    t.Crashes (x >>= f) c ↔ t.Crashes x c ∨ ∃ a t', t.Gives x a t' ∧ t'.Crashes (f a) c := by
  unfold Crashes Gives
  rcases ran : t.after x.run with ⟨_ | a, t'⟩
  · rw [after_run_bind_error ran]
    simp
  · rw [after_run_bind_ok ran]
    simp

theorem observes_pure (a : α) : Observes (pure a) := fun _ => rfl

theorem Observes.bind (first : Observes x) (rest : ∀ a, Observes (f a)) : Observes (x >>= f) := by
  intro t
  rcases ran : t.after x.run with ⟨stop | a, t'⟩
  · have same : t' = t := by simpa [ran] using first t
    rw [after_run_bind_error ran, same]
  · have same : t' = t := by simpa [ran] using first t
    rw [after_run_bind_ok ran, same, rest a t]

theorem Observes.eq_of_gives (observes : Observes x) {a : α} (gives : t.Gives x a t') : t' = t := by
  have same := observes t
  rwa [gives] at same

theorem after_file :
    t.after (Loading.file subject form p : ExceptT Stop (StateM FileTree) α).run
      = (Form.ofFile subject form p ((t.read p).mapError (⟨·, p⟩)), t) := by
  change t.after (Disk.read p >>= fun bytes => pure (Form.ofFile subject form p bytes)) = _
  rw [after_bind, after_read, after_pure]

theorem gives_file_iff {a : α} :
    t.Gives (Loading.file subject form p) a t' ↔ t.Loads form p a ∧ t' = t := by
  rw [Gives, after_file, Prod.mk.injEq, decides_ofFile.ok, eq_comm (a := t)]

theorem crashes_file_iff :
    t.Crashes (Loading.file subject form p : ExceptT Stop (StateM FileTree) α) c
      ↔ t.Breaks p c := by
  rw [Crashes, after_file, decides_ofFile.crash]

theorem observes_file :
    Observes (Loading.file subject form p : ExceptT Stop (StateM FileTree) α) := by
  intro t
  rw [after_file]

theorem observes_absolute : Observes (Loading.absolute p) := by
  intro t
  change (t.after (Disk.absolute p >>= _)).2 = t
  rw [after_bind, after_absolute]
  split <;> rfl

theorem gives_absolute_iff {found : Path} :
    t.Gives (Loading.absolute p) found t' ↔ p.isWellFormed = true
      ∧ Path.resolve ⟨.root, t.workingDirectory⟩ p = found ∧ t' = t := by
  change t.after (Disk.absolute p >>= _) = _ ↔ _
  rw [after_bind, after_absolute]
  by_cases formed : p.isWellFormed = true
  · simp [formed, eq_comm]
  · simp [formed]

theorem crashes_absolute_iff :
    t.Crashes (Loading.absolute p) c
      ↔ p.isWellFormed = false ∧ c = .disk ⟨.malformedPath, p⟩ := by
  change (t.after (Disk.absolute p >>= _)).1 = _ ↔ _
  rw [after_bind, after_absolute]
  by_cases formed : p.isWellFormed = true
  · simp [formed]
  · simp [formed, eq_comm]

/-- Something stands at a path. -/
def IsPresent (t : FileTree) (p : Path) : Prop := ∃ kind, t.kindOf p = .ok kind

/-- Nothing stands at a path, and this can be told. -/
def IsAbsent (t : FileTree) (p : Path) : Prop :=
  ∃ fault, t.kindOf p = .error fault ∧ fault ≠ .nameTooLong

theorem after_loading_isPresent :
    t.after (Loading.isPresent p).run
      = (match t.kindOf p with
        | .ok _ => .ok true
        | .error fault =>
          if fault = .nameTooLong then .error (.crash (.disk ⟨.nameTooLong, p⟩)) else .ok false,
        t) := by
  change t.after (Disk.isPresent p >>= _) = _
  rw [after_bind, after_isPresent]
  cases kind : t.kindOf p with
  | ok kind => rfl
  | error fault =>
    have told := kindOf_error kind
    by_cases long : fault = .nameTooLong
    · subst long
      rfl
    · have absent : fault.isAbsence = true := by simpa [long] using told
      simp [absent, long]

theorem observes_isPresent : Observes (Loading.isPresent p) := by
  intro t
  rw [after_loading_isPresent]

theorem gives_isPresent_iff {found : Bool} :
    t.Gives (Loading.isPresent p) found t'
      ↔ (if found then t.IsPresent p else t.IsAbsent p) ∧ t' = t := by
  rw [Gives, after_loading_isPresent, IsPresent, IsAbsent]
  cases kind : t.kindOf p with
  | ok kind => cases found <;> simp [eq_comm]
  | error fault =>
    by_cases long : fault = .nameTooLong
    · cases found <;> simp [long]
    · cases found <;> simp [long, eq_comm]

theorem crashes_isPresent_iff :
    t.Crashes (Loading.isPresent p) c
      ↔ t.kindOf p = .error .nameTooLong ∧ c = .disk ⟨.nameTooLong, p⟩ := by
  rw [Crashes, after_loading_isPresent]
  cases kind : t.kindOf p with
  | ok kind => simp
  | error fault =>
    by_cases long : fault = .nameTooLong
    · simp [long, eq_comm]
    · simp [long]

theorem Loads.isWellFormed {a : α} (loads : t.Loads form p a) : p.isWellFormed = true := by
  by_contra malformed
  exact loads.not_breaks (.path (by simpa using malformed))

theorem gives_settings_iff {s : Settings} :
    t.Gives (Loading.settings p) s t' ↔ ∃ written, t.Loads Form.settings p written
      ∧ written.inDirectory (Path.resolve ⟨.root, t.workingDirectory⟩ p.parent) = s ∧ t' = t := by
  simp only [Loading.settings, gives_bind_iff, gives_file_iff, gives_absolute_iff, gives_pure_iff]
  constructor
  · rintro ⟨written, _, ⟨loads, rfl⟩, _, _, ⟨-, rfl, rfl⟩, rfl, rfl⟩
    exact ⟨written, loads, rfl, rfl⟩
  · rintro ⟨written, loads, rfl, rfl⟩
    exact ⟨written, _, ⟨loads, rfl⟩, _, _,
      ⟨p.isWellFormed_parent loads.isWellFormed, rfl, rfl⟩, rfl, rfl⟩

theorem crashes_settings_iff : t.Crashes (Loading.settings p) c ↔ t.Breaks p c := by
  simp only [Loading.settings, crashes_bind_iff, gives_file_iff, crashes_file_iff,
    crashes_absolute_iff, not_crashes_pure, and_false, exists_false, or_false]
  refine or_iff_left ?_
  rintro ⟨written, _, ⟨loads, rfl⟩, malformed, -⟩
  simp [p.isWellFormed_parent loads.isWellFormed] at malformed

theorem stopsAt_file {stop : Stop}
    (stopped : (t.after (Loading.file subject form p : ExceptT Stop (StateM FileTree) α).run).1
      = .error stop) : t.StopsAt subject p stop := by
  have decides : t.Decides subject form p _ := decides_ofFile
  rw [after_file] at stopped
  dsimp only at stopped
  rw [stopped] at decides
  exact decides.stopsAt

theorem stopsAt_descriptor {stop : Stop}
    (stopped : (t.after (Loading.descriptor p).run).1 = .error stop) :
    t.StopsAt .descriptor p stop :=
  stopsAt_file stopped

theorem stopsAt_settings {stop : Stop}
    (stopped : (t.after (Loading.settings p).run).1 = .error stop) :
    t.StopsAt .settings p stop := by
  rw [Loading.settings] at stopped
  rcases ran : t.after (Loading.file .settings Form.settings p).run with ⟨other | written, t'⟩
  · rw [after_run_bind_error ran] at stopped
    cases stopped
    exact stopsAt_file (by rw [ran])
  · -- what is read from a file has a path that a file can have, and so has its directory
    obtain ⟨loads, rfl⟩ := gives_file_iff.mp ran
    have directory : t'.after (Loading.absolute p.parent).run = _ :=
      gives_absolute_iff.mpr ⟨p.isWellFormed_parent loads.isWellFormed, rfl, rfl⟩
    rw [after_run_bind_ok ran, after_run_bind_ok directory] at stopped
    cases stopped

theorem observes_settings : Observes (Loading.settings p) :=
  observes_file.bind fun _ => observes_absolute.bind fun _ => observes_pure _

theorem observes_descriptor : Observes (Loading.descriptor p) := observes_file

/-- A module beside another one gives its types or is missing. -/
def Passes (t : FileTree) (p : Path) : Prop :=
  t.IsAbsent p ∨ t.IsPresent p ∧ ∃ d, t.Loads Form.moduleDescriptor p d

/-- A module beside another one breaks the loading off. -/
def BreaksBeside (t : FileTree) (p : Path) (c : Crash) : Prop :=
  t.kindOf p = .error .nameTooLong ∧ c = .disk ⟨.nameTooLong, p⟩ ∨ t.IsPresent p ∧ t.Breaks p c

variable {place : String → Path} {name : String} {names : List String}

theorem observes_surroundings : Observes (Loading.surroundings place names) := by
  induction names with
  | nil => exact observes_pure _
  | cons name rest ih =>
    refine observes_isPresent.bind fun found => ?_
    cases found with
    | true => exact observes_descriptor.bind fun _ => ih.bind fun _ => observes_pure _
    | false => exact ih.bind fun _ => observes_pure _

theorem crashes_bind_iff_of_observes (observes : Observes x) :
    t.Crashes (x >>= f) c ↔ t.Crashes x c ∨ ∃ a, t.Gives x a t ∧ t.Crashes (f a) c := by
  rw [crashes_bind_iff]
  refine or_congr_right (exists_congr fun a => ⟨?_, fun crashes => ⟨t, crashes⟩⟩)
  rintro ⟨t', gives, crashes⟩
  obtain rfl := observes.eq_of_gives gives
  exact ⟨gives, crashes⟩

theorem crashes_surroundings_cons :
    t.Crashes (Loading.surroundings place (name :: names)) c
      ↔ t.BreaksBeside (place name) c
        ∨ t.Passes (place name) ∧ t.Crashes (Loading.surroundings place names) c := by
  -- what is made of the modules that follow does not matter to a crash among them
  have rest : ∀ g : Surroundings → Surroundings,
      t.Crashes (do return g (← Loading.surroundings place names)) c
        ↔ t.Crashes (Loading.surroundings place names) c := by
    intro g
    simp only [crashes_bind_iff, not_crashes_pure, and_false, exists_false, or_false]
  have present : t.Crashes (do
        let d ← Loading.descriptor (place name)
        let others ← Loading.surroundings place names
        return { others with types := d.types ++ others.types }) c
      ↔ t.Breaks (place name) c ∨ (∃ d, t.Loads Form.moduleDescriptor (place name) d)
        ∧ t.Crashes (Loading.surroundings place names) c := by
    rw [crashes_bind_iff_of_observes observes_descriptor, Loading.descriptor, crashes_file_iff]
    simp only [gives_file_iff, and_true, rest, exists_and_right]
  rw [Loading.surroundings, crashes_bind_iff_of_observes observes_isPresent, crashes_isPresent_iff]
  simp only [gives_isPresent_iff, and_true, Bool.exists_bool, Bool.false_eq_true, if_false, if_true]
  rw [present, rest, BreaksBeside, Passes]
  tauto

/-- The modules beside a module break the loading off at the first one that does. -/
theorem crashes_surroundings_iff :
    t.Crashes (Loading.surroundings place names) c ↔ ∃ before name after,
      names = before ++ name :: after ∧ (∀ other ∈ before, t.Passes (place other))
        ∧ t.BreaksBeside (place name) c := by
  induction names with
  | nil => simp [Loading.surroundings, not_crashes_pure]
  | cons first rest ih =>
    rw [crashes_surroundings_cons, ih]
    constructor
    · rintro (breaks | ⟨passes, before, name, after, rfl, all, breaks⟩)
      · exact ⟨[], first, rest, rfl, by simp, breaks⟩
      · exact ⟨first :: before, name, after, rfl, by simpa using ⟨passes, all⟩, breaks⟩
    · rintro ⟨_ | ⟨other, before⟩, name, after, split, all, breaks⟩
      · cases split
        exact .inl breaks
      · cases split
        rw [List.forall_mem_cons] at all
        exact .inr ⟨all.1, before, name, after, rfl, all.2, breaks⟩

/-- The place of a module beside another one. -/
abbrev beside (p : Path) (d : ModuleDescriptor) (name : String) : Path :=
  p.parent.child (name ++ d.fileEnding p)

theorem observes_store {scanOthers : Bool} : Observes (Loading.store p scanOthers) := by
  refine observes_descriptor.bind fun d => ?_
  cases scanOthers with
  | true => exact observes_surroundings.bind fun _ => observes_pure _
  | false => exact observes_pure _

theorem crashes_store_iff {scanOthers : Bool} :
    t.Crashes (Loading.store p scanOthers) c ↔ t.Breaks p c
      ∨ scanOthers = true ∧ ∃ d, t.Loads Form.moduleDescriptor p d
        ∧ t.Crashes (Loading.surroundings (beside p d) d.otherModules) c := by
  rw [Loading.store, crashes_bind_iff_of_observes observes_descriptor, Loading.descriptor,
    crashes_file_iff]
  refine or_congr_right ?_
  simp only [gives_file_iff, and_true]
  cases scanOthers with
  | true =>
    simp only [if_true, crashes_bind_iff, not_crashes_pure, and_false, exists_false, or_false,
      true_and]
  | false => simp [not_crashes_pure]

end Programs

end FileTree

end ApiClient
