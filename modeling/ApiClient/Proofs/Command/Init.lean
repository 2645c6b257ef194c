import ApiClient.Proofs.Command
import ApiClient.Proofs.Json.RoundTrip
import ApiClient.Proofs.Path
import Mathlib

/-!
What a new settings file stands for.

A new settings file is written as JSON and read back, so that loading it gives defaults, with the
paths taken from its directory. Nothing else changes, and a second file is refused. A module file
by the name of the separator is not written as a name, and such a file does not load.
-/

set_option autoImplicit false

namespace ApiClient

namespace Settings

/-- The settings of a file that names a module and nothing else. -/
def ofModule (moduleFile : String) : Settings :=
  { moduleFileName := moduleFile
    endpoints := ⟨none, "Endpoints.ts", "Endpoints"⟩
    service := ⟨none, "Service.ts", "Endpoints"⟩
    generateEnums := true
    enums := ⟨none, "Enums.ts", "Enums"⟩
    generateInterfaces := false
    interfaces := ⟨none, "Interfaces.ts", "Interfaces"⟩
    scanOtherModules := true
    writeNamespaceAsModule := false
    typeMappings := [] }

/-- Settings with all documents put into one directory. -/
def putInto (directory : String) (s : Settings) : Settings :=
  let place (o : Output) : Output := { o with directory := some directory }
  { s with
    endpoints := place s.endpoints
    service := place s.service
    enums := place s.enums
    interfaces := place s.interfaces }

theorem inDirectory_putInto (directory : Path) (inner : String) (s : Settings) :
    (s.putInto inner).inDirectory directory
      = (s.inDirectory directory).putInto (directory.child inner).toText := rfl

end Settings

namespace Command

theorem settings_ofModule (moduleFile : String) :
    Form.settings (Data.ofFields [("webApiModuleFileName", Data.ofText moduleFile)])
      = .valid (Settings.ofModule moduleFile) := by rfl

theorem settings_starter (moduleFile : String) :
    Form.settings (starter (some moduleFile))
      = .valid ((Settings.ofModule moduleFile).putInto "generated") := by cbv

theorem settings_starter_none :
    Form.settings (starter none)
      = .invalid [⟨[.member "webApiModuleFileName"], .notText⟩] := by cbv

theorem isPlain_starter (moduleFile : Option String) : Json.IsPlain (starter moduleFile) := by
  have distinct : ["webApiModuleFileName", "endpointsOutputDirectory", "serviceOutputDirectory",
      "enumsOutputDirectory", "interfacesOutputDirectory", "generateEnums", "generateInterfaces",
      "scanOtherModules", "writeNamespaceAsModule", "typeMappings"].Nodup := by decide +kernel
  refine .object _ distinct fun f member => ?_
  simp only [List.mem_cons, List.not_mem_nil, or_false] at member
  rcases member with rfl | rfl | rfl | rfl | rfl | rfl | rfl | rfl | rfl | rfl
  · cases moduleFile with
    | none => exact .list [] (by simp)
    | some name => exact .text name
  · exact .text _
  · exact .text _
  · exact .text _
  · exact .text _
  · exact .bool _
  · exact .bool _
  · exact .bool _
  · exact .bool _
  · exact .list [] (by simp)

theorem read_starterText (moduleFile : Option String) :
    Json.read (starterText moduleFile) = .ok (starter moduleFile) := by
  refine Json.read_render_append (isPlain_starter moduleFile) .lines ?_
  intro c member
  obtain rfl := List.mem_singleton.mp member
  rfl

theorem decode?_starterText (moduleFile : Option String) :
    Text.decode? (starterText moduleFile).toUTF8 = some (starterText moduleFile) := by
  refine Text.decode?_toUTF8 fun member => ?_
  rw [starterText, String.toList_append, List.mem_append] at member
  rcases member with inside | last
  · rcases Json.isInText_of_mem_render (isPlain_starter moduleFile) .lines inside with shown | line
    · exact absurd shown (by decide)
    · exact absurd line (by decide)
  · exact absurd (List.mem_singleton.mp last) (by decide)

theorem readWord_module (name : String) :
    readWord .init ("--module=" ++ name) = .ok (.flag .moduleFile (some name)) := by
  have flag : ("--module=" : String).toList = ['-', '-', 'm', 'o', 'd', 'u', 'l', 'e', '='] := rfl
  have split : splitValue ("--module=" ++ name).toList = ("--module".toList, some name) := by
    simp [splitValue, flag]
  have one : meant Topic.init.flags "--module".toList = [.moduleFile] := by decide +kernel
  have shape : ("--module=" ++ name).toList
      = '-' :: '-' :: (['m', 'o', 'd', 'u', 'l', 'e', '='] ++ name.toList) := by
    rw [String.toList_append, flag]
    rfl
  unfold readWord
  rw [split, shape]
  simp only [one]

theorem read_init (name directory : String) :
    read ["init", "--module=" ++ name, "--", directory]
      = .ok (.init directory (namedModuleFile name)) := by
  have flagged : "--module=" ++ name ≠ "--" := by
    intro same
    have lengths := congrArg String.length same
    have nine : ("--module=" : String).length = 9 := rfl
    have two : ("--" : String).length = 2 := rfl
    rw [String.length_append, nine, two] at lengths
    omega
  have words : readWords .init ["--module=" ++ name, "--", directory]
      = .ok [.flag .moduleFile (some name), .separator, .operand directory] := by
    rw [readWords, if_neg flagged, readWord_module]
    rfl
  have given : readGiven .init ["--module=" ++ name, "--", directory]
      = .ok ⟨some directory, true, namedModuleFile name, []⟩ := by
    rw [readGiven, words]
    rfl
  have named : readCommand [] "init" ["--module=" ++ name, "--", directory]
      = .ok (.init directory (namedModuleFile name)) := by
    rw [readCommand, if_pos rfl, given]
    rfl
  have command : readWord .general "init" = .ok (.operand "init") := by rfl
  rw [read, readFrom, if_neg (by decide), command]
  exact named

end Command

namespace FileTree

open Command

variable {t t' : FileTree} {p : Path} {bytes : ByteArray} {moduleFile : Option String}

theorem target_of_isResolved (resolved : p.IsResolved) : t.target p = p.parts := by
  have start : (t.origin p).names = [] := by simp [origin, resolved.anchor]
  rw [target, start]
  exact Path.foldl_of_notMem [] resolved.climbs

theorem ofPath_settingsFile (p : Path) : Format.ofPath (p.child Settings.fileName) = .json := by
  have name : (p.child Settings.fileName).fileName = Settings.fileName := by
    simp [child_fileName, Path.fileName]
  have ending : Path.extensionOf Settings.fileName.toList = ".json".toList := by decide +kernel
  rw [Format.ofPath, Path.extension, name, ending]
  decide +kernel

section Started

variable {file : Path} (held : t.read file = .ok (starterText moduleFile).toUTF8)
include held

theorem text?_of_starter : t.text? file = .ok (some (starterText moduleFile)) := by
  rw [text?, held, Except.map, decode?_starterText]

variable (json : Format.ofPath file = .json)
include json

theorem gives_settings_of_starter (resolved : file.IsResolved) {name : String}
    (named : moduleFile = some name) :
    t.Gives (Loading.settings file)
      (((Settings.ofModule name).inDirectory file.parent).putInto
        (file.parent.child "generated").toText) t := by
  subst named
  have loads : t.Loads Form.settings file ((Settings.ofModule name).putInto "generated") :=
    ⟨_, _, text?_of_starter held, by rw [json]; exact read_starterText (some name),
      settings_starter name⟩
  rw [gives_settings_iff, ← Settings.inDirectory_putInto]
  exact ⟨_, loads, by rw [resolved.parent.resolve_eq], rfl⟩

theorem after_settings_of_starter_none (unnamed : moduleFile = none) :
    t.after (Loading.settings file).run
      = (.error (.failure (.load ⟨.settings, file,
          .invalid [⟨[.member "webApiModuleFileName"], .notText⟩]⟩)), t) := by
  subst unnamed
  have read : (Format.ofPath file).read (starterText none) = .ok (starter none) := by
    rw [json]
    exact read_starterText none
  have refused : Form.ofFile .settings Form.settings file ((t.read file).mapError (⟨·, file⟩))
      = .error (.failure (.load ⟨.settings, file,
          .invalid [⟨[.member "webApiModuleFileName"], .notText⟩]⟩)) := by
    rw [ofFile_of_text (text?_of_starter held)]
    exact ofText_invalid read ⟨_, rfl⟩ settings_starter_none
  rw [Loading.settings, after_run_bind_error (by rw [after_file, refused])]

end Started

theorem after_carryOut_init {directory : String} (names : t.Names directory p) :
    t.after (carryOut (.init directory moduleFile)) = t.after (settle (init p moduleFile)) := by
  have found : t.after (Loading.absolute (Path.ofText directory)).run = (.ok p, t) :=
    gives_absolute_iff.mpr ⟨names.1, names.2, rfl⟩
  rw [carryOut, after_settle, after_settle, after_run_bind_ok found]

section Init

variable (present : t.IsPresent p)
include present

/-- In a directory that is there, the start of a settings file looks for the file first. -/
theorem after_init :
    t.after (init p moduleFile).run
      = t.after (ExceptT.run do
        if ← Loading.isPresent (p.child Settings.fileName) then
          return .refuse [] (.alreadyThere (p.child Settings.fileName))
        else
          writeStarter (p.child Settings.fileName) moduleFile
          return .done ["Initialized configuration at '"
            ++ (p.child Settings.fileName).toText ++ "'."]) := by
  have found : t.after (Loading.isPresent p).run = (.ok true, t) :=
    gives_isPresent_iff.mpr ⟨present, rfl⟩
  rw [init, after_run_bind_ok found]
  rfl

theorem after_init_of_long (long : t.kindOf (p.child Settings.fileName) = .error .nameTooLong) :
    t.after (settle (init p moduleFile))
      = (⟨[], none, .crash (.disk ⟨.nameTooLong, p.child Settings.fileName⟩)⟩, t) := by
  have broken : t.after (Loading.isPresent (p.child Settings.fileName)).run
      = (.error (.crash (.disk ⟨.nameTooLong, p.child Settings.fileName⟩)), t) := by
    rw [after_loading_isPresent, long]
    rfl
  rw [after_settle, after_init present, after_run_bind_error broken]
  rfl

theorem after_init_of_present (held : t.IsPresent (p.child Settings.fileName)) :
    t.after (settle (init p moduleFile))
      = (.refuse [] (.alreadyThere (p.child Settings.fileName)), t) := by
  have found : t.after (Loading.isPresent (p.child Settings.fileName)).run = (.ok true, t) :=
    gives_isPresent_iff.mpr ⟨held, rfl⟩
  rw [after_settle, after_init present, after_run_bind_ok found]
  rfl

theorem after_init_of_absent (absent : t.IsAbsent (p.child Settings.fileName))
    (wrote : t.write (p.child Settings.fileName) (starterText moduleFile).toUTF8 = .ok t') :
    t.after (settle (init p moduleFile))
      = (.done ["Initialized configuration at '" ++ (p.child Settings.fileName).toText ++ "'."],
        t') := by
  have missing : t.after (Loading.isPresent (p.child Settings.fileName)).run = (.ok false, t) :=
    gives_isPresent_iff.mpr ⟨absent, rfl⟩
  have written : t.after (writeStarter (p.child Settings.fileName) moduleFile).run
      = (.ok (), t') := by
    change t.after (Disk.write _ _ >>= _) = _
    rw [after_bind, after_write, wrote]
    rfl
  rw [after_settle, after_init present, after_run_bind_ok missing]
  simp only [Bool.false_eq_true, if_false]
  rw [after_run_bind_ok written]
  rfl

end Init

/-- What a new settings file in a directory is and stands for. -/
structure Starts (t : FileTree) (p : Path) (moduleFile : Option String) (t' : FileTree) :
    Prop where
  workingDirectory : t'.workingDirectory = t.workingDirectory
  others : ∀ names, names ≠ p.parts ++ [Settings.fileName] → t'.node? names = t.node? names
  written : t'.node? (p.parts ++ [Settings.fileName])
    = some (.file (starterText moduleFile).toUTF8)
  -- the file loads as one that names the module only, but for the directories of the documents
  loads : ∀ name, moduleFile = some name → ∃ defaults,
    Form.settings (Data.ofFields [("webApiModuleFileName", Data.ofText name)]) = .valid defaults
      ∧ t'.Gives (Loading.settings (p.child Settings.fileName))
        ((defaults.inDirectory p).putInto (p.child "generated").toText) t'
      ∧ (defaults.inDirectory p).modulePath = p.child name
  unnamed : moduleFile = none →
    t'.after (Loading.settings (p.child Settings.fileName)).run
      = (.error (.failure (.load ⟨.settings, p.child Settings.fileName,
          .invalid [⟨[.member "webApiModuleFileName"], .notText⟩]⟩)), t')
  refused : ∀ arguments directory other,
    Command.read arguments = .ok (.init directory other) → t'.Names directory p →
    t'.after (perform arguments)
      = (.refuse [] (.alreadyThere (p.child Settings.fileName)), t')

theorem isResolved_settingsFile (resolved : p.IsResolved) :
    (p.child Settings.fileName).IsResolved := by
  rw [child_fileName]
  refine ⟨resolved.anchor, fun member => ?_⟩
  rcases List.mem_append.mp member with inside | last
  · exact resolved.climbs inside
  · exact absurd (List.mem_singleton.mp last) (by decide)

theorem target_settingsFile (resolved : p.IsResolved) :
    t.target (p.child Settings.fileName) = p.parts ++ [Settings.fileName] := by
  rw [target_of_isResolved (isResolved_settingsFile resolved), child_fileName]

theorem parent_settingsFile (p : Path) : (p.child Settings.fileName).parent = p := by
  simp [child_fileName, Path.parent]

theorem after_perform_init {arguments : List String} {directory : String}
    (given : Command.read arguments = .ok (.init directory moduleFile))
    (names : t.Names directory p) :
    t.after (perform arguments) = t.after (settle (init p moduleFile)) := by
  rw [perform, given]
  exact after_carryOut_init names

theorem starts_of_write (resolved : p.IsResolved) (normal : p.IsNormal)
    (there : t.kindOf p = .ok .directory)
    (wrote : t.write (p.child Settings.fileName) (starterText moduleFile).toUTF8 = .ok t') :
    t.Starts p moduleFile t' := by
  have resolvedFile := isResolved_settingsFile resolved
  have json := ofPath_settingsFile p
  obtain ⟨held, kind⟩ := read_of_write wrote
  obtain ⟨located, unheld, rfl⟩ := write_ok wrote
  rw [target_settingsFile resolved] at unheld held kind ⊢
  constructor
  case workingDirectory => rfl
  case others => exact fun names other => node?_set_of_ne _ t other
  case written => rw [node?_set _ unheld, if_pos rfl]
  case loads =>
    intro name named
    have gives := gives_settings_of_starter held json resolvedFile named
    rw [parent_settingsFile] at gives
    exact ⟨_, settings_ofModule name, gives, Path.ofText_toText (normal.child name)⟩
  case unnamed => exact after_settings_of_starter_none held json
  case refused =>
    intro arguments directory other given names
    rw [after_perform_init given names]
    have still :=
      (grows_set (.file (starterText moduleFile).toUTF8) unheld).kindOf_directory there
    exact after_init_of_present ⟨.directory, still⟩ ⟨.file, kind⟩

section Written

variable {directory : String} (names : t.Names directory p) (there : t.kindOf p = .ok .directory)
  (free : t.node? (p.parts ++ [Settings.fileName]) = none)
include names there free

/-- Where a settings file would be, or that its path is too long. -/
theorem locate_settingsFile_of_free :
    t.locate (p.child Settings.fileName)
      = if 4095 < (p.child Settings.fileName).toText.utf8ByteSize then .error .nameTooLong
        else .ok ⟨p.parts ++ [Settings.fileName], none⟩ := by
  have resolved : p.IsResolved := names.2 ▸ Path.isResolved_resolve _ _
  obtain ⟨reached, located⟩ := locate_of_kindOf_directory there
  obtain rfl : reached = p.parts := (locate_ok located).1.trans (target_of_isResolved resolved)
  rw [locate_settingsFile_of_directory located, free]

theorem exists_starts (formed : Path.IsNormal ⟨.root, t.workingDirectory⟩)
    (short : (p.child Settings.fileName).toText.utf8ByteSize ≤ 4095) :
    ∃ t', t.after (settle (init p moduleFile))
        = (.done ["Initialized configuration at '" ++ (p.child Settings.fileName).toText ++ "'."],
          t')
      ∧ t.Starts p moduleFile t' := by
  have resolved : p.IsResolved := names.2 ▸ Path.isResolved_resolve _ _
  have normal : p.IsNormal := names.2 ▸ Path.isNormal_resolve formed (Path.isNormal_ofText _)
  have place := locate_settingsFile_of_free names there free
  rw [if_neg (Nat.not_lt.mpr short)] at place
  have absent : t.IsAbsent (p.child Settings.fileName) :=
    ⟨.notFound, by rw [kindOf, place], by simp⟩
  obtain ⟨t', wrote⟩ : ∃ t', t.write (p.child Settings.fileName)
      (starterText moduleFile).toUTF8 = .ok t' := ⟨_, by rw [write, place]⟩
  exact ⟨t', after_init_of_absent ⟨.directory, there⟩ absent wrote,
    starts_of_write resolved normal there wrote⟩

end Written

end FileTree

/-! A tree with a directory for a settings file, below one with a blank in its name. -/

namespace Sample

def rooms : FileTree :=
  ⟨["my home"], [(["my home"], .directory), (["my home", "app"], .directory),
    (["my home", "note"], .file .empty)]⟩

def app : Path := ⟨.root, ["my home", "app"]⟩

theorem isNormal_rooms : Path.IsNormal ⟨.root, rooms.workingDirectory⟩ := by
  intro part member
  obtain rfl := List.mem_singleton.mp member
  exact ⟨by decide +kernel, by decide +kernel⟩

theorem names_rooms : rooms.Names "./app/../app" app := ⟨by decide +kernel, by decide +kernel⟩

theorem kindOf_rooms : rooms.kindOf app = .ok .directory := by decide +kernel

theorem node?_rooms : rooms.node? (app.parts ++ [Settings.fileName]) = none := by
  decide +kernel

theorem toText_app : (app.child Settings.fileName).toText = "/my home/app/webapits.json" := by
  decide +kernel

end Sample

namespace FileTree

open Command

end FileTree

end ApiClient
