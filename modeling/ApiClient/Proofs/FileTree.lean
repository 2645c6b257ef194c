import ApiClient.FileTree
import Mathlib.Data.List.Induction

/-!
Where paths lead in a tree of files, and what one operation changes.

A path has a target, which does not depend on the nodes of the tree; if the path can be followed it
leads there. An operation that succeeds sets the node at the target of its path and no other one,
and it never takes the place of a directory.
-/

set_option autoImplicit false

namespace ApiClient

theorem Path.isWellFormed_parent (p : Path) (formed : p.isWellFormed = true) :
    p.parent.isWellFormed = true := by
  simp only [isWellFormed, List.all_eq_true] at formed ⊢
  exact fun part mem => formed part (List.dropLast_subset _ mem)

/-- What holds of a path if it holds of its parent, and of a path without parts, holds of all. -/
theorem Path.induction_parent {motive : Path → Prop}
    (step : ∀ p : Path, (p.parts ≠ [] → motive p.parent) → motive p) (p : Path) : motive p := by
  obtain ⟨anchor, parts⟩ := p
  induction parts using List.reverseRecOn with
  | nil => exact step _ fun inner => absurd rfl inner
  | append_singleton parts last ih =>
    refine step _ fun _ => ?_
    simpa [Path.parent] using ih

namespace FileTree

variable {t t' : FileTree} {place next : Place} {p : Path}

/-- The names below a directory, or around it. -/
def descend (names : List String) (part : String) : List String :=
  if part = ".." then names.dropLast else names ++ [part]

/-- The names that a path stands for, whether or not anything is there. -/
def target (t : FileTree) (p : Path) : List String := p.parts.foldl descend (t.origin p).names

theorem target_congr (same : t'.workingDirectory = t.workingDirectory) (p : Path) :
    t'.target p = t.target p := by
  simp [target, origin, same]

/-- A place holds the node under its names, if it does not hold a directory. -/
def Place.Holds (t : FileTree) (place : Place) : Prop :=
  place.node ≠ some .directory → place.node = t.node? place.names

theorem follow_ok {name : String} (ok : t.follow place name = .ok next) :
    place.node = some .directory ∧ next.names = descend place.names name ∧ next.Holds t := by
  unfold follow at ok
  split at ok
  · cases ok
  · cases ok
  · next directory =>
    refine ⟨directory, ?_⟩
    unfold descend Place.Holds
    split at ok
    · next up =>
      cases ok
      exact ⟨(if_pos up).symm, fun other => absurd rfl other⟩
    · next down =>
      split at ok
      · cases ok
      · cases ok
        exact ⟨(if_neg down).symm, fun _ => rfl⟩

theorem followAll_ok {parts : List String} {last : Place} (held : place.Holds t)
    (ok : t.followAll place parts = .ok last) :
    last.names = parts.foldl descend place.names ∧ last.Holds t := by
  induction parts generalizing place with
  | nil =>
    obtain rfl : place = last := by simpa [followAll] using ok
    exact ⟨rfl, held⟩
  | cons name rest ih =>
    cases first : t.follow place name with
    | error fault => simp [followAll, first] at ok
    | ok next =>
      obtain ⟨-, names, held'⟩ := follow_ok first
      obtain ⟨target, held''⟩ := ih held' (by simpa [followAll, first] using ok)
      exact ⟨by rw [target, names]; rfl, held''⟩

theorem locate_eq_ok (ok : t.locate p = .ok place) :
    p.isWellFormed = true ∧ ¬ 4095 < p.toText.utf8ByteSize
      ∧ t.followAll (t.origin p) p.parts = .ok place := by
  unfold locate at ok
  split at ok
  · cases ok
  · next formed =>
    split at ok
    · cases ok
    · next short => exact ⟨by simpa using formed, short, ok⟩

theorem locate_ok (ok : t.locate p = .ok place) : place.names = t.target p ∧ place.Holds t :=
  followAll_ok (fun _ => rfl) (locate_eq_ok ok).2.2

/-- A path that leads to no directory leads to its target. -/
theorem eq_target_of_locate (ok : t.locate p = .ok place) (free : place.node ≠ some .directory) :
    place = ⟨t.target p, t.node? (t.target p)⟩ := by
  obtain ⟨names, held⟩ := locate_ok ok
  have node := held free
  rw [names] at node
  cases place
  simp_all

/-- All directories stay. -/
structure Grows (t t' : FileTree) : Prop where
  workingDirectory : t'.workingDirectory = t.workingDirectory
  directory : ∀ names, t.node? names = some .directory → t'.node? names = some .directory

/-- A place as it is found later on: with the same names, and the node that stands there then. -/
structure Place.Later (t' : FileTree) (place place' : Place) : Prop where
  names : place'.names = place.names
  directory : place.node = some .directory → place'.node = some .directory
  other : place.node ≠ some .directory → place'.node = t'.node? place.names

theorem Grows.later (grows : Grows t t') (names : List String) :
    Place.Later t' ⟨names, t.node? names⟩ ⟨names, t'.node? names⟩ :=
  ⟨rfl, grows.directory names, fun _ => rfl⟩

theorem Grows.follow (grows : Grows t t') {place' : Place} {name : String}
    (later : Place.Later t' place place') (ok : t.follow place name = .ok next) :
    ∃ next', t'.follow place' name = .ok next' ∧ Place.Later t' next next' := by
  have directory' := later.directory (follow_ok ok).1
  simp only [FileTree.follow, (follow_ok ok).1] at ok
  simp only [FileTree.follow, directory', later.names]
  by_cases up : name = ".."
  · simp only [up, if_true] at ok ⊢
    cases ok
    exact ⟨_, rfl, ⟨rfl, fun _ => rfl, fun other => absurd rfl other⟩⟩
  · simp only [up, if_false] at ok ⊢
    split at ok
    · cases ok
    · next short =>
      cases ok
      exact ⟨_, if_neg short, grows.later _⟩

theorem Grows.followAll (grows : Grows t t') {parts : List String} {place' last : Place}
    (later : Place.Later t' place place') (ok : t.followAll place parts = .ok last) :
    ∃ last', t'.followAll place' parts = .ok last' ∧ Place.Later t' last last' := by
  induction parts generalizing place place' with
  | nil =>
    obtain rfl : place = last := by simpa [FileTree.followAll] using ok
    exact ⟨place', rfl, later⟩
  | cons name rest ih =>
    cases first : t.follow place name with
    | error fault => simp [FileTree.followAll, first] at ok
    | ok next =>
      obtain ⟨next', first', later'⟩ := grows.follow later first
      obtain ⟨last', rest', later''⟩ := ih later' (by simpa [FileTree.followAll, first] using ok)
      exact ⟨last', by simpa [FileTree.followAll, first'] using rest', later''⟩

/-- A path that can be followed can be followed later on. -/
theorem Grows.locate (grows : Grows t t') (ok : t.locate p = .ok place) :
    ∃ place', t'.locate p = .ok place' ∧ Place.Later t' place place' := by
  obtain ⟨formed, short, reached⟩ := locate_eq_ok ok
  have start : t'.origin p = ⟨(t.origin p).names, t'.node? (t.origin p).names⟩ := by
    simp [origin, grows.workingDirectory]
  obtain ⟨place', reached', later⟩ := grows.followAll (grows.later (t.origin p).names) reached
  refine ⟨place', ?_, later⟩
  simp [FileTree.locate, formed, short, start, reached']

theorem Grows.locate_node (grows : Grows t t') {names : List String}
    (ok : t.locate p = .ok ⟨names, t.node? names⟩) : t'.locate p = .ok ⟨names, t'.node? names⟩ := by
  obtain ⟨⟨names', node⟩, located, later⟩ := grows.locate ok
  obtain rfl : names' = names := later.names
  have found : node = t'.node? names' := by
    by_cases directory : t.node? names' = some .directory
    · exact (later.directory directory).trans (grows.directory names' directory).symm
    · exact later.other directory
  rw [located, found]

theorem node?_nil (t : FileTree) : t.node? [] = some .directory := by
  simp [node?]

theorem write_ok {bytes : ByteArray} (ok : t.write p bytes = .ok t') :
    t.locate p = .ok ⟨t.target p, t.node? (t.target p)⟩
      ∧ t.node? (t.target p) ≠ some .directory ∧ t' = t.set (t.target p) (.file bytes) := by
  unfold write at ok
  cases located : t.locate p with
  | error fault => simp [located] at ok
  | ok place =>
    have free : place.node ≠ some .directory := by
      intro directory
      obtain ⟨names, node⟩ := place
      simp only at directory
      simp [located, directory] at ok
    obtain rfl := eq_target_of_locate located free
    simp only [located, Except.ok.injEq] at ok
    exact ⟨rfl, free, ok.symm⟩

theorem makeDirectory_ok (ok : t.makeDirectory p = .ok t') :
    t.node? (t.target p) = none ∧ t' = t.set (t.target p) .directory := by
  unfold makeDirectory at ok
  split at ok
  · cases ok
  · cases ok
  · next names located =>
    have same := eq_target_of_locate located (by simp)
    simp only [Place.mk.injEq] at same
    simp only [Except.ok.injEq] at ok
    exact ⟨same.2.symm, by rw [← same.1, ok]⟩

theorem grows_set {names : List String} (n : Node) (free : t.node? names ≠ some .directory) :
    Grows t (t.set names n) := by
  refine ⟨rfl, fun other directory => ?_⟩
  have differs : other ≠ names := fun same => free (same ▸ directory)
  rw [node?_set_of_ne n t differs, directory]

theorem node?_set {names : List String} (n : Node) (free : t.node? names ≠ some .directory)
    (other : List String) :
    (t.set names n).node? other = if other = names then some n else t.node? other := by
  split
  · next same =>
    subst same
    refine node?_set_self n t ?_
    rintro rfl
    exact free t.node?_nil
  · next differs => exact node?_set_of_ne n t differs

/-- Why a path without the character NUL cannot be followed. -/
def IsHindrance (fault : DiskFault) : Prop :=
  fault = .notFound ∨ fault = .notDirectory ∨ fault = .nameTooLong

theorem follow_error {name : String} {fault : DiskFault}
    (error : t.follow place name = .error fault) : IsHindrance fault := by
  unfold follow at error
  unfold IsHindrance
  split at error
  · cases error
    simp
  · cases error
    simp
  · split at error
    · cases error
    · split at error
      · cases error
        simp
      · cases error

theorem followAll_error {parts : List String} {fault : DiskFault}
    (error : t.followAll place parts = .error fault) : IsHindrance fault := by
  induction parts generalizing place with
  | nil => cases error
  | cons name rest ih =>
    cases first : t.follow place name with
    | error other =>
      obtain rfl : other = fault := by simpa [followAll, first] using error
      exact follow_error first
    | ok next => exact ih (by simpa [followAll, first] using error)

/-- A path with a NUL is malformed, and any other one that cannot be followed is hindered. -/
theorem locate_error {fault : DiskFault} (error : t.locate p = .error fault) :
    (p.isWellFormed = false ∧ fault = .malformedPath)
      ∨ (p.isWellFormed = true ∧ IsHindrance fault) := by
  unfold locate at error
  split at error
  · next malformed =>
    cases error
    exact .inl ⟨by simpa using malformed, rfl⟩
  · next formed =>
    refine .inr ⟨by simpa using formed, ?_⟩
    split at error
    · cases error
      exact .inr (.inr rfl)
    · exact followAll_error error

theorem locate_of_malformed (malformed : p.isWellFormed = false) :
    t.locate p = .error .malformedPath := by
  simp [locate, malformed]

theorem followAll_concat {parts : List String} {last : Place} (name : String)
    (ok : t.followAll place parts = .ok last) :
    t.followAll place (parts ++ [name]) = t.follow last name := by
  induction parts generalizing place with
  | nil =>
    obtain rfl : place = last := by simpa [followAll] using ok
    rw [List.nil_append, followAll]
    cases t.follow place name <;> rfl
  | cons first rest ih =>
    cases followed : t.follow place first with
    | error fault => simp [followAll, followed] at ok
    | ok next =>
      rw [List.cons_append, followAll, followed]
      exact ih (by simpa [followAll, followed] using ok)

/-- A name below a path is followed from where the path leads, unless both are too long. -/
theorem locate_concat (name : String) (named : name.toList.contains '\x00' = false)
    (ok : t.locate p = .ok place) :
    t.locate ⟨p.anchor, p.parts ++ [name]⟩
      = if 4095 < (Path.toText ⟨p.anchor, p.parts ++ [name]⟩).utf8ByteSize then .error .nameTooLong
        else t.follow place name := by
  obtain ⟨formed, -, followed⟩ := locate_eq_ok ok
  have formed' : Path.isWellFormed ⟨p.anchor, p.parts ++ [name]⟩ = true := by
    simp only [Path.isWellFormed, List.all_append, Bool.and_eq_true] at formed ⊢
    exact ⟨formed, by simpa using named⟩
  have start : t.origin ⟨p.anchor, p.parts ++ [name]⟩ = t.origin p := rfl
  unfold locate
  simp only [formed', Bool.not_true, Bool.false_eq_true, if_false, start,
    followAll_concat name followed]

/-- An operation that starts by following its path finds it malformed just when it holds a NUL. -/
theorem eq_malformed_iff (t : FileTree) {β : Type} {result : Except DiskFault β}
    (hindered : ∀ fault, t.locate p = .error fault → result = .error fault)
    (reached : ∀ place, t.locate p = .ok place → result ≠ .error .malformedPath) :
    result = .error .malformedPath ↔ p.isWellFormed = false := by
  constructor
  · intro error
    cases located : t.locate p with
    | error fault =>
      obtain rfl : fault = .malformedPath := by simpa [hindered fault located] using error
      rcases locate_error located with ⟨malformed, -⟩ | ⟨-, hindrance⟩
      · exact malformed
      · simp [IsHindrance] at hindrance
    | ok place => exact absurd error (reached place located)
  · intro malformed
    exact hindered _ (locate_of_malformed malformed)

theorem read_eq_malformed_iff : t.read p = .error .malformedPath ↔ p.isWellFormed = false :=
  eq_malformed_iff t (fun fault located => by simp [read, located])
    fun place located => by
      simp only [read, located]
      split <;> simp_all

theorem write_eq_malformed_iff {bytes : ByteArray} :
    t.write p bytes = .error .malformedPath ↔ p.isWellFormed = false :=
  eq_malformed_iff t (fun fault located => by simp [write, located])
    fun place located => by
      simp only [write, located]
      split <;> simp_all

theorem makeDirectory_eq_malformed_iff :
    t.makeDirectory p = .error .malformedPath ↔ p.isWellFormed = false :=
  eq_malformed_iff t (fun fault located => by simp [makeDirectory, located])
    fun place located => by
      simp only [makeDirectory, located]
      split <;> simp_all

theorem kindOf_eq_malformed_iff : t.kindOf p = .error .malformedPath ↔ p.isWellFormed = false :=
  eq_malformed_iff t (fun fault located => by simp [kindOf, located])
    fun place located => by
      simp only [kindOf, located]
      split <;> simp_all

/-- Whether something stands at a path can be told, unless the path is too long. -/
theorem kindOf_error {fault : DiskFault} (error : t.kindOf p = .error fault) :
    fault.isAbsence = false ↔ fault = .nameTooLong := by
  have known : IsHindrance fault ∨ fault = .malformedPath := by
    unfold kindOf at error
    split at error
    · next located =>
      cases error
      rcases locate_error located with ⟨-, malformed⟩ | ⟨-, hindered⟩
      · exact .inr malformed
      · exact .inl hindered
    · cases error
      exact .inl (.inl rfl)
    · cases error
    · cases error
  rcases known with (rfl | rfl | rfl) | rfl <;> simp [DiskFault.isAbsence]

/-- What is written to a path is found there. -/
theorem read_of_write {bytes : ByteArray} (wrote : t.write p bytes = .ok t') :
    t'.read p = .ok bytes ∧ t'.kindOf p = .ok .file := by
  obtain ⟨located, free, rfl⟩ := write_ok wrote
  have later := (grows_set (.file bytes) free).locate_node located
  rw [node?_set _ free, if_pos rfl] at later
  exact ⟨by rw [read, later], by rw [kindOf, later]⟩

theorem locate_of_kindOf_directory (there : t.kindOf p = .ok .directory) :
    ∃ names, t.locate p = .ok ⟨names, some .directory⟩ := by
  unfold kindOf at there
  split at there
  · cases there
  · cases there
  · cases there
  · next names located => exact ⟨names, located⟩

/-- A directory stays where it is reached. -/
theorem Grows.kindOf_directory (grows : Grows t t') (there : t.kindOf p = .ok .directory) :
    t'.kindOf p = .ok .directory := by
  obtain ⟨names, located⟩ := locate_of_kindOf_directory there
  obtain ⟨⟨names', node⟩, located', later⟩ := grows.locate located
  obtain rfl : node = some .directory := later.directory rfl
  rw [kindOf, located']

section Operations

variable {α β : Type}

/-- What operations on a tree give, and the tree that they leave. -/
def after (t : FileTree) (x : StateM FileTree α) : α × FileTree := x.run t

@[simp] theorem after_pure (a : α) : t.after (pure a) = (a, t) := rfl

@[simp] theorem after_bind (x : StateM FileTree α) (f : α → StateM FileTree β) :
    t.after (x >>= f) = (t.after x).2.after (f (t.after x).1) := rfl

theorem after_run_bind_ok {ε : Type} {x : ExceptT ε (StateM FileTree) α}
    {f : α → ExceptT ε (StateM FileTree) β} {a : α} (ok : t.after x.run = (.ok a, t')) :
    t.after (x >>= f).run = t'.after (f a).run := by
  rw [ExceptT.run_bind, after_bind, ok]

theorem after_run_bind_error {ε : Type} {x : ExceptT ε (StateM FileTree) α}
    {f : α → ExceptT ε (StateM FileTree) β} {e : ε} (error : t.after x.run = (.error e, t')) :
    t.after (x >>= f).run = (.error e, t') := by
  rw [ExceptT.run_bind, after_bind, error]
  rfl

@[simp] theorem after_get : t.after get = (t, t) := rfl

theorem after_look (f : FileTree → Except DiskFault α) :
    t.after (look p f) = ((f t).mapError (⟨·, p⟩), t) := by
  rw [look, after_bind, after_get]
  cases f t <;> rfl

theorem after_change (f : FileTree → Except DiskFault FileTree) :
    t.after (change p f)
      = match f t with
        | .ok t' => (.ok (), t')
        | .error fault => (.error ⟨fault, p⟩, t) := by
  rw [change, after_bind, after_get]
  cases f t <;> rfl

theorem after_read : t.after (Disk.read p) = ((t.read p).mapError (⟨·, p⟩), t) :=
  after_look fun t => t.read p

theorem after_kindOf : t.after (Disk.kindOf p) = ((t.kindOf p).mapError (⟨·, p⟩), t) :=
  after_look fun t => t.kindOf p

theorem after_write {bytes : ByteArray} :
    t.after (Disk.write p bytes)
      = match t.write p bytes with
        | .ok t' => (.ok (), t')
        | .error fault => (.error ⟨fault, p⟩, t) :=
  after_change fun t => t.write p bytes

theorem after_makeDirectory :
    t.after (Disk.makeDirectory p)
      = match t.makeDirectory p with
        | .ok t' => (.ok (), t')
        | .error fault => (.error ⟨fault, p⟩, t) :=
  after_change fun t => t.makeDirectory p

theorem after_absolute :
    t.after (Disk.absolute p)
      = (if p.isWellFormed then .ok (Path.resolve ⟨.root, t.workingDirectory⟩ p)
        else .error ⟨.malformedPath, p⟩, t) := by
  unfold Disk.absolute
  split <;> rfl

theorem after_isPresent :
    t.after (Disk.isPresent p)
      = (match t.kindOf p with
        | .ok _ => .ok true
        | .error fault => if fault.isAbsence then .ok false else .error ⟨fault, p⟩, t) := by
  unfold Disk.isPresent
  rw [after_bind, after_kindOf]
  cases t.kindOf p with
  | ok kind => rfl
  | error fault =>
    by_cases absent : fault.isAbsence = true
    · simp [Except.mapError, absent]
    · simp [Except.mapError, absent]

theorem after_ensureDirectory :
    t.after (Disk.ensureDirectory p)
      = match t.makeDirectory p with
        | .ok t' => (.ok (), t')
        | .error fault =>
          (if fault ≠ .notFound ∧ t.kindOf p = .ok .directory then .ok ()
            else .error ⟨fault, p⟩, t) := by
  unfold Disk.ensureDirectory
  rw [after_bind, after_makeDirectory]
  cases made : t.makeDirectory p with
  | ok t' => rfl
  | error fault =>
    by_cases missing : fault = .notFound
    · simp [missing]
    · simp only [missing, if_false, after_bind, after_kindOf]
      cases t.kindOf p with
      | error other => simp [Except.mapError]
      | ok kind => cases kind <;> simp [Except.mapError, missing]

/-- A directory is made with its parents in one attempt, or after they are made, or not at all for
want of them. -/
theorem after_ensureDirectories (t : FileTree) (p : Path) :
    t.after (Disk.ensureDirectories p) = t.after (Disk.ensureDirectory p)
      ∨ ∃ e t', t.after (Disk.ensureDirectory p) = (.error e, t') ∧ p.parts ≠ []
        ∧ e.fault = .notFound
        ∧ ((∃ e' t'', t'.after (Disk.ensureDirectories p.parent) = (.error e', t'')
            ∧ t.after (Disk.ensureDirectories p) = (.error e', t''))
          ∨ ∃ t'', t'.after (Disk.ensureDirectories p.parent) = (.ok (), t'')
            ∧ t.after (Disk.ensureDirectories p) = t''.after (Disk.ensureDirectory p)) := by
  rw [Disk.ensureDirectories, after_bind]
  rcases t.after (Disk.ensureDirectory p) with ⟨e | _, t'⟩
  · by_cases outermost : p.parts = []
    · exact .inl (by simp [outermost])
    · by_cases missing : e.fault = .notFound
      · refine .inr ⟨e, t', rfl, outermost, missing, ?_⟩
        simp only [outermost, missing, ne_eq, not_true, dite_false, if_false, after_bind]
        rcases t'.after (Disk.ensureDirectories p.parent) with ⟨e' | _, t''⟩
        · exact .inl ⟨e', t'', rfl, rfl⟩
        · exact .inr ⟨t'', rfl, rfl⟩
      · exact .inl (by simp [outermost, missing])
  · exact .inl rfl

end Operations

end FileTree

end ApiClient
