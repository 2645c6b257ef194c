import ApiClient.Command
import ApiClient.Proofs.Run.Crashes

/-!
How commands end.

A command succeeds, or it complains of an error and exits with 1, or it is broken off: by a path
that no file can have or that is too long to be looked at, by a settings file in place of a
directory, and by all that breaks the loading of settings or a run off.
-/

set_option autoImplicit false

namespace ApiClient

/-- The argument of a command that is a path. -/
def Command.Invocation.path : Command.Invocation → String
  | .init directory _ => directory
  | .generate settingsFile => settingsFile

namespace FileTree

open Command

variable {t t' : FileTree} {p : Path} {c : Crash} {output : List String} {stop : Stop}

/-- A command succeeded without a complaint, or it failed with a line that tells of an error, or it
was broken off. -/
inductive Ends : Outcome → Prop
  | success (output : List String) : Ends ⟨output, none, .exit 0⟩
  | failure (output : List String) (complaint : Complaint) (message : String)
    (told : complaint.lines = ["Error: " ++ message]) : Ends ⟨output, some complaint, .exit 1⟩
  | crash (output : List String) (reason : Crash) : Ends ⟨output, none, .crash reason⟩

theorem ends_stopped : Ends (.stopped output stop) := by
  cases stop with
  | failure reason => exact .failure output (.failure reason) reason.message rfl
  | crash reason => exact .crash output reason

theorem ending_stopped_iff : (Outcome.stopped output stop).ending = .crash c ↔ stop = .crash c := by
  cases stop <;> simp [Outcome.stopped, Outcome.refuse]

section Settled

variable {x : ExceptT Stop (StateM FileTree) Outcome}

theorem after_settle :
    t.after (settle x) = (match (t.after x.run).1 with
      | .error stop => .stopped [] stop
      | .ok outcome => outcome, (t.after x.run).2) := by
  change t.after (x.run >>= _) = _
  rw [after_bind]
  rcases t.after x.run with ⟨stop | outcome, t'⟩ <;> rfl

theorem ends_settle (ends : ∀ outcome t', t.Gives x outcome t' → Ends outcome) :
    Ends (t.after (settle x)).1 := by
  rw [after_settle]
  rcases ran : t.after x.run with ⟨stop | outcome, t'⟩
  · exact ends_stopped
  · exact ends outcome t' ran

theorem ending_settle_iff : (t.after (settle x)).1.ending = .crash c
    ↔ t.Crashes x c ∨ ∃ outcome t', t.Gives x outcome t' ∧ outcome.ending = .crash c := by
  rw [after_settle]
  unfold Crashes Gives
  rcases ran : t.after x.run with ⟨stop | outcome, t'⟩
  · simp [ending_stopped_iff]
  · simp

end Settled

theorem child_fileName :
    p.child Settings.fileName = ⟨p.anchor, p.parts ++ [Settings.fileName]⟩ := by
  have plain : Path.ofText Settings.fileName = ⟨.relative, [Settings.fileName]⟩ := by
    decide +kernel
  change p.append (Path.ofText Settings.fileName) = _
  rw [plain, Path.append, if_pos rfl]

section Init

variable {moduleFile : Option String} {place : Place}

theorem locate_settingsFile (short : t.kindOf (p.child Settings.fileName) ≠ .error .nameTooLong)
    (ok : t.locate p = .ok place) :
    t.locate (p.child Settings.fileName) = t.follow place Settings.fileName := by
  have located := locate_concat Settings.fileName (by decide) ok
  rw [← child_fileName] at located
  split at located
  · exact absurd (by simp [kindOf, located]) short
  · exact located

theorem locate_of_kindOf_file (there : t.kindOf p = .ok .file) :
    ∃ names bytes, t.locate p = .ok ⟨names, some (.file bytes)⟩ := by
  unfold kindOf at there
  split at there
  · cases there
  · cases there
  · next names bytes located => exact ⟨names, bytes, located⟩
  · cases there

/-- Below a file there is no place for a settings file. -/
theorem locate_settingsFile_of_file (there : t.kindOf p = .ok .file)
    (short : t.kindOf (p.child Settings.fileName) ≠ .error .nameTooLong) :
    t.locate (p.child Settings.fileName) = .error .notDirectory := by
  obtain ⟨names, bytes, located⟩ := locate_of_kindOf_file there
  rw [locate_settingsFile short located]
  rfl

/-- Unless its path is too long, a settings file has its place below its directory. -/
theorem locate_settingsFile_of_directory {names : List String}
    (located : t.locate p = .ok ⟨names, some .directory⟩) :
    t.locate (p.child Settings.fileName)
      = if 4095 < (p.child Settings.fileName).toText.utf8ByteSize then .error .nameTooLong
        else .ok ⟨names ++ [Settings.fileName], t.node? (names ++ [Settings.fileName])⟩ := by
  have followed : t.follow ⟨names, some .directory⟩ Settings.fileName
      = .ok ⟨names ++ [Settings.fileName], t.node? (names ++ [Settings.fileName])⟩ := by
    unfold follow
    rw [if_neg (by decide), if_neg (by decide)]
  have below := locate_concat Settings.fileName (by decide) located
  rwa [← child_fileName, followed] at below

/-- A settings file that is not there can be written into its directory. -/
theorem write_settingsFile_of_directory {bytes : ByteArray} (there : t.kindOf p = .ok .directory)
    (absent : t.IsAbsent (p.child Settings.fileName)) :
    ∃ t', t.write (p.child Settings.fileName) bytes = .ok t' := by
  obtain ⟨fault, missing, short⟩ := absent
  obtain ⟨names, located⟩ := locate_of_kindOf_directory there
  have found := locate_settingsFile_of_directory located
  split at found
  · rw [kindOf, found] at missing
    cases missing
    exact absurd rfl short
  · cases node : t.node? (names ++ [Settings.fileName]) with
    | some n =>
      rw [kindOf, found, node] at missing
      cases n <;> cases missing
    | none => exact ⟨_, by rw [write, found, node]⟩

theorem crashes_writeStarter_iff :
    t.Crashes (writeStarter p moduleFile) c
      ↔ ∃ fault, t.write p (starterText moduleFile).toUTF8 = .error fault
        ∧ c = .disk ⟨fault, p⟩ := by
  change (t.after (Disk.write p _ >>= _)).1 = _ ↔ _
  rw [after_bind, after_write]
  cases t.write p (starterText moduleFile).toUTF8 with
  | ok t' => simp
  | error fault => simp [eq_comm]

/-- The start of a settings file is broken off at a path that is too long, or below a file. -/
theorem crashes_init_iff :
    t.Crashes (init p moduleFile) c
      ↔ t.kindOf p = .error .nameTooLong ∧ c = .disk ⟨.nameTooLong, p⟩
        ∨ t.IsPresent p ∧ t.kindOf (p.child Settings.fileName) = .error .nameTooLong
          ∧ c = .disk ⟨.nameTooLong, p.child Settings.fileName⟩
        ∨ t.kindOf p = .ok .file ∧ t.kindOf (p.child Settings.fileName) ≠ .error .nameTooLong
          ∧ c = .disk ⟨.notDirectory, p.child Settings.fileName⟩ := by
  have steps : t.Crashes (init p moduleFile) c
      ↔ t.kindOf p = .error .nameTooLong ∧ c = .disk ⟨.nameTooLong, p⟩
        ∨ t.IsPresent p ∧ (t.kindOf (p.child Settings.fileName) = .error .nameTooLong
            ∧ c = .disk ⟨.nameTooLong, p.child Settings.fileName⟩
          ∨ t.IsAbsent (p.child Settings.fileName)
            ∧ t.Crashes (writeStarter (p.child Settings.fileName) moduleFile) c) := by
    rw [init, crashes_bind_iff_of_observes observes_isPresent, crashes_isPresent_iff]
    simp only [gives_isPresent_iff, and_true, Bool.exists_bool, Bool.false_eq_true, if_false,
      if_true, Bool.not_true, Bool.not_false, not_crashes_pure, and_false, false_or]
    rw [crashes_bind_iff_of_observes observes_isPresent, crashes_isPresent_iff]
    simp only [gives_isPresent_iff, and_true, Bool.exists_bool, Bool.false_eq_true, if_false,
      if_true, crashes_bind_iff, not_crashes_pure, and_false, exists_false, or_false]
  rw [steps, crashes_writeStarter_iff]
  refine or_congr_right ?_
  constructor
  · rintro ⟨⟨kind, there⟩, ⟨long, rfl⟩ | ⟨absent, fault, failed, rfl⟩⟩
    · exact .inl ⟨⟨kind, there⟩, long, rfl⟩
    · cases kind with
      | file =>
        obtain ⟨reason, missing, short⟩ := absent
        have short' : t.kindOf (p.child Settings.fileName) ≠ .error .nameTooLong := by
          rw [missing]
          simpa using short
        rw [write, locate_settingsFile_of_file there short'] at failed
        cases failed
        exact .inr ⟨there, short', rfl⟩
      | directory =>
        obtain ⟨t', wrote⟩ := write_settingsFile_of_directory there absent
        rw [wrote] at failed
        cases failed
  · rintro (⟨present, long, rfl⟩ | ⟨there, short, rfl⟩)
    · exact ⟨present, .inl ⟨long, rfl⟩⟩
    · have outside := locate_settingsFile_of_file there short
      refine ⟨⟨.file, there⟩, .inr ⟨⟨.notDirectory, ?_, by simp⟩, .notDirectory, ?_, rfl⟩⟩
      · rw [kindOf, outside]
      · rw [write, outside]

theorem outcome_init {outcome : Outcome} (gives : t.Gives (init p moduleFile) outcome t') :
    outcome = .refuse [] (.noDirectory p)
      ∨ outcome = .refuse [] (.alreadyThere (p.child Settings.fileName))
      ∨ ∃ output, outcome = .done output := by
  rw [init, gives_bind_iff] at gives
  obtain ⟨found, t₁, -, gives⟩ := gives
  cases found with
  | false => exact .inl (gives_pure_iff.mp gives).1.symm
  | true =>
    simp only [Bool.not_true, Bool.false_eq_true, if_false, gives_bind_iff] at gives
    obtain ⟨found, t₂, -, gives⟩ := gives
    cases found with
    | true => exact .inr (.inl (gives_pure_iff.mp gives).1.symm)
    | false =>
      simp only [Bool.false_eq_true, if_false, gives_bind_iff, gives_pure_iff] at gives
      obtain ⟨_, t₃, -, rfl, -⟩ := gives
      exact .inr (.inr ⟨_, rfl⟩)

theorem ends_init {outcome : Outcome} (gives : t.Gives (init p moduleFile) outcome t') :
    Ends outcome := by
  rcases outcome_init gives with rfl | rfl | ⟨output, rfl⟩
  · exact .failure [] _ ("directory '" ++ p.toText ++ "' does not exist.")
      (by
        simp only [Complaint.lines, ← String.append_assoc]
        rfl)
  · exact .failure [] _ ("configuration already exists at '"
      ++ (p.child Settings.fileName).toText ++ "'.")
      (by
        simp only [Complaint.lines, ← String.append_assoc]
        rfl)
  · exact .success output

theorem not_crash_init {outcome : Outcome} (gives : t.Gives (init p moduleFile) outcome t') :
    outcome.ending ≠ .crash c := by
  rcases outcome_init gives with rfl | rfl | ⟨output, rfl⟩ <;> simp [Outcome.refuse, Outcome.done]

end Init

section Generate

variable {settings : Settings}

theorem after_runAnnounced :
    t.after (runAnnounced settings) = (match (t.after (Run.run settings).run).1 with
      | .error stop => .stopped [announcement settings] stop
      | .ok r => .done (announcement settings :: report r),
      (t.after (Run.run settings).run).2) := by
  change t.after ((Run.run settings).run >>= _) = _
  rw [after_bind]
  rcases t.after (Run.run settings).run with ⟨stop | r, t'⟩ <;> rfl

theorem ends_runAnnounced (t : FileTree) (settings : Settings) :
    Ends (t.after (runAnnounced settings)).1 := by
  rw [after_runAnnounced]
  rcases t.after (Run.run settings).run with ⟨stop | r, t'⟩
  · exact ends_stopped
  · exact .success _

theorem ending_runAnnounced_iff :
    (t.after (runAnnounced settings)).1.ending = .crash c ↔ t.Crashes (Run.run settings) c := by
  rw [after_runAnnounced, Crashes]
  rcases t.after (Run.run settings).run with ⟨stop | r, t'⟩
  · simp [ending_stopped_iff]
  · simp [Outcome.done]

theorem gives_generate_iff {outcome : Outcome} :
    t.Gives (generate p) outcome t' ↔ ∃ settings, t.Gives (Loading.settings p) settings t
      ∧ t.after (runAnnounced settings) = (outcome, t') := by
  rw [generate, gives_bind_iff]
  simp only [gives_lift_iff]
  constructor
  · rintro ⟨settings, t₁, gives, ran⟩
    obtain rfl := observes_settings.eq_of_gives gives
    exact ⟨settings, gives, ran⟩
  · rintro ⟨settings, gives, ran⟩
    exact ⟨settings, t, gives, ran⟩

theorem crashes_generate_iff : t.Crashes (generate p) c ↔ t.Breaks p c := by
  simp only [generate, crashes_bind_iff, crashes_settings_iff, not_crashes_lift, and_false,
    exists_false, or_false]

end Generate

/-- An argument names an absolute path. -/
def Names (t : FileTree) (argument : String) (p : Path) : Prop :=
  (Path.ofText argument).isWellFormed = true
    ∧ Path.resolve ⟨.root, t.workingDirectory⟩ (Path.ofText argument) = p

/-- What breaks a command off. -/
inductive CommandBreaks (t : FileTree) : Invocation → Crash → Prop
  | argument (invocation : Invocation)
    (malformed : (Path.ofText invocation.path).isWellFormed = false) :
    CommandBreaks t invocation (.disk ⟨.malformedPath, Path.ofText invocation.path⟩)
  | longDirectory (directory : String) (moduleFile : Option String) (p : Path)
    (names : t.Names directory p) (long : t.kindOf p = .error .nameTooLong) :
    CommandBreaks t (.init directory moduleFile) (.disk ⟨.nameTooLong, p⟩)
  | longFile (directory : String) (moduleFile : Option String) (p : Path)
    (names : t.Names directory p) (present : t.IsPresent p)
    (long : t.kindOf (p.child Settings.fileName) = .error .nameTooLong) :
    CommandBreaks t (.init directory moduleFile)
      (.disk ⟨.nameTooLong, p.child Settings.fileName⟩)
  | notDirectory (directory : String) (moduleFile : Option String) (p : Path)
    (names : t.Names directory p) (file : t.kindOf p = .ok .file)
    (short : t.kindOf (p.child Settings.fileName) ≠ .error .nameTooLong) :
    CommandBreaks t (.init directory moduleFile)
      (.disk ⟨.notDirectory, p.child Settings.fileName⟩)
  | settings (settingsFile : String) (p : Path) {c : Crash} (names : t.Names settingsFile p)
    (breaks : t.Breaks p c) : CommandBreaks t (.generate settingsFile) c
  | run (settingsFile : String) (p : Path) (written : Settings) {c : Crash}
    (names : t.Names settingsFile p) (loads : t.Loads Form.settings p written)
    (breaks : t.RunBreaks
      (written.inDirectory (Path.resolve ⟨.root, t.workingDirectory⟩ p.parent)) c) :
    CommandBreaks t (.generate settingsFile) c

theorem ends_carryOut (invocation : Invocation) : Ends (t.after (carryOut invocation)).1 := by
  cases invocation with
  | init directory moduleFile =>
    refine ends_settle fun outcome t' gives => ?_
    obtain ⟨p, t₁, -, gives⟩ := gives_bind_iff.mp gives
    exact ends_init gives
  | generate settingsFile =>
    refine ends_settle fun outcome t' gives => ?_
    obtain ⟨p, t₁, -, gives⟩ := gives_bind_iff.mp gives
    obtain ⟨settings, -, ran⟩ := gives_generate_iff.mp gives
    have ends := ends_runAnnounced t₁ settings
    rwa [ran] at ends

theorem ending_carryOut_init_iff {directory : String} {moduleFile : Option String} :
    (t.after (carryOut (.init directory moduleFile))).1.ending = .crash c
      ↔ t.Crashes (Loading.absolute (Path.ofText directory)) c
        ∨ ∃ p, t.Names directory p ∧ t.Crashes (init p moduleFile) c := by
  rw [carryOut, ending_settle_iff, crashes_bind_iff_of_observes observes_absolute]
  simp only [gives_bind_iff, gives_absolute_iff, and_true, Names]
  constructor
  · rintro ((argument | ⟨p, names, crashes⟩) | ⟨outcome, t', ⟨p, t₁, -, gives⟩, crash⟩)
    · exact .inl argument
    · exact .inr ⟨p, names, crashes⟩
    · exact absurd crash (not_crash_init gives)
  · rintro (argument | ⟨p, names, crashes⟩)
    · exact .inl (.inl argument)
    · exact .inl (.inr ⟨p, names, crashes⟩)

theorem ending_carryOut_generate_iff {settingsFile : String} :
    (t.after (carryOut (.generate settingsFile))).1.ending = .crash c
      ↔ t.Crashes (Loading.absolute (Path.ofText settingsFile)) c
        ∨ ∃ p, t.Names settingsFile p ∧ (t.Breaks p c
          ∨ ∃ settings, t.Gives (Loading.settings p) settings t
            ∧ t.Crashes (Run.run settings) c) := by
  rw [carryOut, ending_settle_iff, crashes_bind_iff_of_observes observes_absolute]
  simp only [gives_bind_iff, gives_absolute_iff, crashes_generate_iff, gives_generate_iff, Names,
    ← ending_runAnnounced_iff]
  constructor
  · rintro ((argument | ⟨p, ⟨formed, named, -⟩, breaks⟩)
      | ⟨outcome, t', ⟨p, _, ⟨formed, named, rfl⟩, settings, loads, ran⟩, crash⟩)
    · exact .inl argument
    · exact .inr ⟨p, ⟨formed, named⟩, .inl breaks⟩
    · exact .inr ⟨p, ⟨formed, named⟩, .inr ⟨settings, loads, by rw [ran, crash]⟩⟩
  · rintro (argument | ⟨p, ⟨formed, named⟩, breaks | ⟨settings, loads, crash⟩⟩)
    · exact .inl (.inl argument)
    · exact .inl (.inr ⟨p, ⟨formed, named, trivial⟩, breaks⟩)
    · exact .inr ⟨_, _, ⟨p, t, ⟨formed, named, rfl⟩, settings, loads, rfl⟩, crash⟩

theorem ending_carryOut_iff (invocation : Invocation) :
    (t.after (carryOut invocation)).1.ending = .crash c ↔ t.CommandBreaks invocation c := by
  cases invocation with
  | init directory moduleFile =>
    rw [ending_carryOut_init_iff, crashes_absolute_iff]
    simp only [crashes_init_iff]
    constructor
    · rintro (⟨malformed, rfl⟩
        | ⟨p, names, ⟨long, rfl⟩ | ⟨present, long, rfl⟩ | ⟨file, short, rfl⟩⟩)
      · exact .argument (.init directory moduleFile) malformed
      · exact .longDirectory directory moduleFile p names long
      · exact .longFile directory moduleFile p names present long
      · exact .notDirectory directory moduleFile p names file short
    · intro breaks
      cases breaks with
      | argument _ malformed => exact .inl ⟨malformed, rfl⟩
      | longDirectory _ _ p names long => exact .inr ⟨p, names, .inl ⟨long, rfl⟩⟩
      | longFile _ _ p names present long => exact .inr ⟨p, names, .inr (.inl ⟨present, long, rfl⟩)⟩
      | notDirectory _ _ p names file short =>
        exact .inr ⟨p, names, .inr (.inr ⟨file, short, rfl⟩)⟩
  | generate settingsFile =>
    rw [ending_carryOut_generate_iff, crashes_absolute_iff]
    simp only [gives_settings_iff, crashes_run_iff]
    constructor
    · rintro (⟨malformed, rfl⟩ | ⟨p, names, breaks | ⟨_, ⟨written, loads, rfl, -⟩, breaks⟩⟩)
      · exact .argument (.generate settingsFile) malformed
      · exact .settings settingsFile p names breaks
      · exact .run settingsFile p written names loads breaks
    · intro breaks
      cases breaks with
      | argument _ malformed => exact .inl ⟨malformed, rfl⟩
      | settings _ p names breaks => exact .inr ⟨p, names, .inl breaks⟩
      | run _ p written names loads breaks =>
        exact .inr ⟨p, names, .inr ⟨_, ⟨written, loads, rfl, trivial⟩, breaks⟩⟩

end FileTree

/-! A settings file of a byte that is no text, and a file that is no directory. -/

namespace Sample

def noText : FileTree := ⟨[], [(["webapits.json"], .file ⟨#[0xff]⟩)]⟩

def plainFile : FileTree := ⟨[], [(["file"], .file .empty)]⟩

end Sample

end ApiClient
