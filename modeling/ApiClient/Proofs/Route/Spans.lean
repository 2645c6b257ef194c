import ApiClient.Proofs.Route.Written

/-!
Where the placeholders of a template stand.

The pieces of a template are literals without opening braces and placeholders that close with
their last character, up to a last literal whose first opening brace is never closed (`IsCut`);
what a scan has read so far carries this along (`IsReading`). Main statement: the places of the
placeholders are exactly those of the outermost braces that are closed, in order, and rendering
copies all text outside of them.
-/

set_option autoImplicit false

namespace ApiClient.Route

/-! ## Depths -/

theorem depth_append (step : Char → Int) (cs cs' : List Char) :
    depth step (cs ++ cs') = depth step cs + depth step cs' := by
  rw [depth, List.map_append, List.sum_append]
  rfl

theorem depth_concat (step : Char → Int) (cs : List Char) (c : Char) :
    depth step (cs ++ [c]) = depth step cs + step c := by
  rw [depth_append, depth_cons]
  exact congrArg (depth step cs + ·) (Int.add_zero (step c))

theorem neg_one_le_braceStep (c : Char) : -1 ≤ braceStep c := by
  unfold braceStep
  split_ifs <;> omega

/-- A text whose depth of braces stays positive from its first character on. -/
def StaysOpen (cs : List Char) : Prop :=
  ∀ n, 0 < n → n ≤ cs.length → 0 < depth braceStep (cs.take n)

/-- A text whose depth of braces is zero at its end, and at no place between. -/
structure ClosesLast (cs : List Char) : Prop where
  inside : ∀ n, 0 < n → n < cs.length → 0 < depth braceStep (cs.take n)
  ends : depth braceStep cs = 0

/-- A text whose first opening brace, if there is one, is never closed. -/
def IsUnclosed (cs : List Char) : Prop :=
  '{' ∉ cs ∨ ∃ front back, cs = front ++ '{' :: back ∧ '{' ∉ front ∧ StaysOpen ('{' :: back)

theorem staysOpen_opening : StaysOpen ['{'] := by
  intro n positive bounded
  obtain rfl : n = 1 := Nat.le_antisymm bounded positive
  decide

theorem StaysOpen.append {cs : List Char} (opened : StaysOpen cs) {c : Char}
    (positive : 0 < depth braceStep cs + braceStep c) : StaysOpen (cs ++ [c]) := by
  intro n some bounded
  rcases Nat.lt_or_ge cs.length n with whole | inside
  · have all : (cs ++ [c]).take n = cs ++ [c] := by
      apply List.take_of_length_le
      rw [List.length_append, List.length_singleton]
      exact whole
    rw [all, depth_concat]
    exact positive
  · rw [List.take_append_of_le_length inside]
    exact opened n some inside

theorem StaysOpen.closesLast {cs : List Char} (opened : StaysOpen cs)
    (single : depth braceStep cs = 1) : ClosesLast (cs ++ ['}']) := by
  constructor
  · intro n some bounded
    have inside : n ≤ cs.length := by
      rw [List.length_append, List.length_singleton] at bounded
      omega
    rw [List.take_append_of_le_length inside]
    exact opened n some inside
  · rw [depth_concat, single]
    rfl

/-! ## The pieces of a template -/

/-- Pieces as a scan cuts them. -/
inductive IsCut : List Piece → Prop
  | rest {text : List Char} (unclosed : IsUnclosed text) : IsCut [.literal text]
  | placeholder {text body : List Char} {others : List Piece} (plain : '{' ∉ text)
      (closes : ClosesLast ('{' :: body ++ ['}'])) (cut : IsCut others) :
      IsCut (.literal text :: .placeholder body :: others)

/-- What a scan has read: no opening brace before the placeholder, and the depth inside of it. -/
def IsReading : Nat → List Char → List Char → Prop
  | 0, text, _ => '{' ∉ text
  | d + 1, text, body =>
    '{' ∉ text ∧ StaysOpen ('{' :: body) ∧ depth braceStep ('{' :: body) = (d + 1 : Nat)

theorem IsReading.append {d d' : Nat} {text body : List Char} {c : Char}
    (reading : IsReading (d + 1) text body) (steps : (d + 1 : Nat) + braceStep c = (d' + 1 : Nat)) :
    IsReading (d' + 1) text (body ++ [c]) := by
  obtain ⟨plain, opened, level⟩ := reading
  refine ⟨plain, ?_, ?_⟩
  · rw [← List.cons_append]
    apply opened.append
    omega
  · rw [← List.cons_append, depth_concat, level]
    exact steps

/-! A step of a scan either goes on outside, opens, closes, or goes on inside a placeholder. -/

theorem scan_outside {c : Char} (plain : c ≠ '{') (text body cs : List Char) :
    scan 0 text body (c :: cs) = scan 0 (text ++ [c]) [] cs := by
  rw [scan, if_neg plain]

theorem scan_opening (text body cs : List Char) :
    scan 0 text body ('{' :: cs) = scan 1 text [] cs := by
  rw [scan, if_pos rfl]

theorem scan_closing (text body cs : List Char) :
    scan 1 text body ('}' :: cs) = .literal text :: .placeholder body :: scan 0 [] [] cs := by
  rw [scan, if_neg (by decide), if_pos rfl, if_pos rfl]

theorem scan_inside {d : Nat} {c : Char} (stays : ¬(c = '}' ∧ d = 0)) :
    ∃ d' : Nat, (d + 1 : Nat) + braceStep c = (d' + 1 : Nat) ∧ ∀ text body cs,
      scan (d + 1) text body (c :: cs) = scan (d' + 1) text (body ++ [c]) cs := by
  by_cases opens : c = '{'
  · refine ⟨d + 1, by simp [braceStep, opens], ?_⟩
    intro text body cs
    rw [scan, if_pos opens]
  · by_cases shuts : c = '}'
    · obtain ⟨outer, rfl⟩ := Nat.exists_eq_succ_of_ne_zero fun zero => stays ⟨shuts, zero⟩
      have down : braceStep c = -1 := by simp [braceStep, shuts]
      refine ⟨outer, by omega, ?_⟩
      intro text body cs
      rw [scan, if_neg opens, if_pos shuts, if_neg (Nat.succ_ne_zero outer)]
    · refine ⟨d, by simp [braceStep, opens, shuts], ?_⟩
      intro text body cs
      rw [scan, if_neg opens, if_neg shuts]

theorem isCut_scan {d : Nat} {text body : List Char} (reading : IsReading d text body)
    (cs : List Char) : IsCut (scan d text body cs) := by
  induction cs generalizing d text body with
  | nil =>
    cases d with
    | zero => exact .rest (.inl reading)
    | succ d =>
      obtain ⟨plain, opened, -⟩ := reading
      exact .rest (.inr ⟨text, body, rfl, plain, opened⟩)
  | cons c cs ih =>
    cases d with
    | zero =>
      by_cases opens : c = '{'
      · rw [opens, scan_opening]
        exact ih ⟨reading, staysOpen_opening, rfl⟩
      · rw [scan_outside opens]
        apply ih
        have plain : '{' ∉ text := reading
        simpa [IsReading, plain] using Ne.symm opens
    | succ d =>
      by_cases closing : c = '}' ∧ d = 0
      · obtain ⟨rfl, rfl⟩ := closing
        obtain ⟨plain, opened, level⟩ := reading
        rw [scan_closing]
        exact .placeholder plain (opened.closesLast level) (ih List.not_mem_nil)
      · obtain ⟨d', steps, same⟩ := scan_inside closing
        rw [same]
        exact ih (reading.append steps)

theorem isCut_pieces (template : List Char) : IsCut (pieces template) := by
  have start : IsReading 0 [] [] := List.not_mem_nil
  exact isCut_scan start template

/-- What a scan has read of the text, before it goes on. -/
def readSoFar : Nat → List Char → List Char → List Char
  | 0, text, _ => text
  | _ + 1, text, body => text ++ '{' :: body

theorem flatMap_source_scan (d : Nat) (text body cs : List Char) :
    (scan d text body cs).flatMap Piece.source = readSoFar d text body ++ cs := by
  induction cs generalizing d text body with
  | nil => cases d <;> simp [scan, readSoFar, Piece.source]
  | cons c cs ih =>
    cases d with
    | zero =>
      by_cases opens : c = '{'
      · rw [opens, scan_opening, ih]
        simp [readSoFar]
      · rw [scan_outside opens, ih]
        simp [readSoFar]
    | succ d =>
      by_cases closing : c = '}' ∧ d = 0
      · obtain ⟨rfl, rfl⟩ := closing
        rw [scan_closing, List.flatMap_cons, List.flatMap_cons, ih]
        simp [readSoFar, Piece.source]
      · obtain ⟨d', -, same⟩ := scan_inside closing
        rw [same, ih]
        simp [readSoFar]

/-- Nothing of a template is lost between its pieces. -/
theorem flatMap_source_pieces (template : List Char) :
    (pieces template).flatMap Piece.source = template := flatMap_source_scan 0 [] [] template

/-! ## The places of the placeholders -/

/-- A placeholder with the place of its opening brace, and the place behind its closing one. -/
structure Span where
  start : Nat
  finish : Nat
  body : List Char
deriving DecidableEq, Repr

/-- The placeholders among pieces, of which the first one starts at a position. -/
def spansFrom : Nat → List Piece → List Span
  | _, [] => []
  | position, .literal text :: rest => spansFrom (position + text.length) rest
  | position, .placeholder body :: rest =>
    ⟨position, position + (body.length + 2), body⟩ :: spansFrom (position + (body.length + 2)) rest

def spans (template : List Char) : List Span := spansFrom 0 (pieces template)

/-- The text from one place to another. -/
def stretch (cs : List Char) (start finish : Nat) : List Char :=
  (cs.drop start).take (finish - start)

/-- The texts ahead of each placeholder, from a position on. -/
def gapsFrom (template : List Char) : Nat → List Span → List (List Char)
  | _, [] => []
  | position, s :: rest => stretch template position s.start :: gapsFrom template s.finish rest

/-- The place behind the last placeholder, or the position when there is none. -/
def lastFinish : Nat → List Span → Nat
  | position, [] => position
  | _, s :: rest => lastFinish s.finish rest

/-- A template from a position on, with an interpolation in the place of each placeholder. -/
def replaced (template : List Char) : Nat → List Span → List Char
  | position, [] => template.drop position
  | position, s :: rest =>
    stretch template position s.start ++ interpolation (segmentOf s.body).name.toList
      ++ replaced template s.finish rest

/-- Braces around a body that belong together. -/
structure Span.IsGroup (template : List Char) (s : Span) : Prop where
  nonempty : s.start < s.finish
  bounded : s.finish ≤ template.length
  encloses : stretch template s.start s.finish = '{' :: s.body ++ ['}']
  closes : ClosesLast (stretch template s.start s.finish)

/-- Spans that cut a template from a position on. -/
inductive Cuts (template : List Char) : Nat → List Span → Prop
  | rest {position : Nat} (unclosed : IsUnclosed (template.drop position)) :
      Cuts template position []
  | span {position : Nat} {s : Span} {others : List Span} (behind : position ≤ s.start)
      (plain : '{' ∉ stretch template position s.start) (group : s.IsGroup template)
      (cuts : Cuts template s.finish others) : Cuts template position (s :: others)

theorem stretch_append (front text back : List Char) :
    stretch (front ++ text ++ back) front.length (front ++ text).length = text := by
  rw [stretch, List.append_assoc, List.drop_left' rfl, List.length_append, Nat.add_sub_cancel_left,
    List.take_left' rfl]

/-- A placeholder behind a text, with the braces around it. -/
def spanBehind (front body : List Char) : Span :=
  ⟨front.length, (front ++ ('{' :: body ++ ['}'])).length, body⟩

theorem spansFrom_placeholder (front text body : List Char) (others : List Piece) :
    spansFrom front.length (.literal text :: .placeholder body :: others)
      = spanBehind (front ++ text) body
        :: spansFrom (spanBehind (front ++ text) body).finish others := by
  simp [spansFrom, spanBehind, Nat.add_assoc]

theorem flatMap_source_placeholder (front text body : List Char) (others : List Piece) :
    front ++ (Piece.literal text :: .placeholder body :: others).flatMap Piece.source
      = front ++ text ++ ('{' :: body ++ ['}']) ++ others.flatMap Piece.source := by
  simp [Piece.source]

theorem stretch_before (front text body rest : List Char) :
    stretch (front ++ text ++ ('{' :: body ++ ['}']) ++ rest) front.length
      (spanBehind (front ++ text) body).start = text := by
  rw [List.append_assoc]
  exact stretch_append front text _

theorem cuts_spansFrom {parts : List Piece} (cut : IsCut parts) (front : List Char) :
    Cuts (front ++ parts.flatMap Piece.source) front.length (spansFrom front.length parts) := by
  induction cut generalizing front with
  | @rest text unclosed =>
    apply Cuts.rest
    simpa [Piece.source] using unclosed
  | @placeholder text body others plain closes cut ih =>
    have inside := stretch_append (front ++ text) ('{' :: body ++ ['}'])
      (others.flatMap Piece.source)
    rw [flatMap_source_placeholder, spansFrom_placeholder]
    refine .span ?_ ?_ ⟨?_, ?_, inside, ?_⟩ (ih (front ++ text ++ ('{' :: body ++ ['}'])))
    · simp [spanBehind]
    · rw [stretch_before]
      exact plain
    · simp [spanBehind]
    · simp [spanBehind]
    · exact inside.symm ▸ closes

/-- Rendering the pieces is replacing the placeholders where they stand. -/
theorem replaced_spansFrom {parts : List Piece} (cut : IsCut parts) (front : List Char) :
    replaced (front ++ parts.flatMap Piece.source) front.length (spansFrom front.length parts)
      = parts.flatMap Piece.render := by
  induction cut generalizing front with
  | @rest text unclosed =>
    rw [spansFrom, spansFrom, replaced, List.flatMap_singleton, List.flatMap_singleton,
      List.drop_left' rfl]
    rfl
  | @placeholder text body others plain closes cut ih =>
    have later := ih (front ++ text ++ ('{' :: body ++ ['}']))
    rw [flatMap_source_placeholder, spansFrom_placeholder, replaced, stretch_before,
      List.flatMap_cons, List.flatMap_cons, render_placeholder, ← later, List.append_assoc]
    rfl

theorem segments_spansFrom (position : Nat) (parts : List Piece) :
    parts.filterMap Piece.segment? = (spansFrom position parts).map fun s => segmentOf s.body := by
  induction parts generalizing position with
  | nil => rfl
  | cons piece rest ih =>
    cases piece with
    | literal text => exact ih (position + text.length)
    | placeholder body =>
      rw [spansFrom, List.map_cons, ← ih (position + (body.length + 2))]
      rfl

/-! ## Braces that are closed -/

/-- Whether the depth from a place on is zero again up to another place. -/
def ReturnsBy (template : List Char) (place limit : Nat) : Prop :=
  ∃ finish, place < finish ∧ finish ≤ limit
    ∧ depth braceStep (stretch template place finish) = 0

/-- A place outside of all braces: each opening one before it is closed up to there. -/
def IsOutside (template : List Char) (place : Nat) : Prop :=
  ∀ earlier < place, template[earlier]? = some '{' → ReturnsBy template earlier place

variable {template : List Char}

theorem ReturnsBy.mono {place limit limit' : Nat} (returns : ReturnsBy template place limit)
    (le : limit ≤ limit') : ReturnsBy template place limit' := by
  obtain ⟨finish, behind, bounded, zero⟩ := returns
  exact ⟨finish, behind, bounded.trans le, zero⟩

theorem not_returnsBy_of_staysOpen {place limit : Nat} (opened : StaysOpen (template.drop place))
    (bounded : limit ≤ template.length) : ¬ ReturnsBy template place limit := by
  rintro ⟨finish, behind, inside, zero⟩
  have positive := opened (finish - place) (by omega) (by rw [List.length_drop]; omega)
  rw [stretch] at zero
  omega

theorem mem_stretch {c : Char} {start place finish : Nat} (after : start ≤ place)
    (before : place < finish) (char : template[place]? = some c) :
    c ∈ stretch template start finish := by
  apply List.mem_of_getElem? (i := place - start)
  rw [stretch, List.getElem?_take, if_pos (by omega), List.getElem?_drop,
    Nat.add_sub_cancel' after, char]

theorem stretch_append_stretch {start place finish : Nat} (after : start ≤ place)
    (before : place ≤ finish) :
    stretch template start place ++ stretch template place finish
      = stretch template start finish := by
  have longer : finish - start = (place - start) + (finish - place) := by omega
  have from' : template.drop place = (template.drop start).drop (place - start) := by
    rw [List.drop_drop, Nat.add_sub_cancel' after]
  rw [stretch, stretch, stretch, longer, List.take_add, from']

/-- A depth that starts with an opening brace and is not positive at the end was zero between. -/
theorem returnsBy_of_depth_le {place limit : Nat} (opens : template[place]? = some '{')
    (behind : place < limit) (bounded : limit ≤ template.length)
    (low : depth braceStep (stretch template place limit) ≤ 0) : ReturnsBy template place limit := by
  induction limit, behind using Nat.le_induction with
  | base =>
    have single : stretch template place (place + 1) = ['{'] := by
      rw [stretch, Nat.add_sub_cancel_left, List.take_one, List.head?_drop, opens]
      rfl
    rw [single] at low
    exact absurd low (by decide)
  | succ limit behind ih =>
    by_cases lower : depth braceStep (stretch template place limit) ≤ 0
    · exact (ih (by omega) lower).mono (Nat.le_succ limit)
    · refine ⟨limit + 1, by omega, Nat.le_refl _, ?_⟩
      -- one more character takes the depth down by one at most
      have last : stretch template place (limit + 1)
          = stretch template place limit ++ [template[limit]] := by
        rw [← stretch_append_stretch (Nat.le_of_succ_le behind) (Nat.le_add_right limit 1)]
        congr 1
        rw [stretch, Nat.add_sub_cancel_left, List.take_one, List.head?_drop,
          List.getElem?_eq_getElem bounded]
        rfl
      have step := neg_one_le_braceStep template[limit]
      rw [last, depth_concat] at low ⊢
      omega

namespace Span.IsGroup

variable {s s' : Span}

theorem opens (group : s.IsGroup template) : template[s.start]? = some '{' := by
  have first := congrArg List.head? group.encloses
  rw [stretch, List.head?_take, if_neg (by have := group.nonempty; omega), List.head?_drop] at first
  exact first

theorem returnsBy (group : s.IsGroup template) : ReturnsBy template s.start s.finish :=
  ⟨s.finish, group.nonempty, Nat.le_refl _, group.closes.ends⟩

theorem depth_pos (group : s.IsGroup template) {place : Nat} (after : s.start < place)
    (before : place < s.finish) : 0 < depth braceStep (stretch template s.start place) := by
  have shorter : stretch template s.start place
      = (stretch template s.start s.finish).take (place - s.start) := by
    rw [stretch, stretch, List.take_take, Nat.min_eq_left (by omega)]
  have bounded := group.bounded
  rw [shorter]
  apply group.closes.inside
  · omega
  · rw [stretch, List.length_take, List.length_drop]
    omega

theorem not_returnsBy (group : s.IsGroup template) {limit : Nat} (before : limit < s.finish) :
    ¬ ReturnsBy template s.start limit := by
  rintro ⟨finish, behind, inside, zero⟩
  have positive := group.depth_pos behind (by omega)
  omega

/-- Braces that open at one place close at one place. -/
theorem eq_of_start_eq (group : s.IsGroup template) (group' : s'.IsGroup template)
    (same : s.start = s'.start) : s = s' := by
  have finish : s.finish = s'.finish := by
    rcases Nat.lt_trichotomy s.finish s'.finish with before | same' | before
    · exact absurd (same ▸ group.returnsBy) (group'.not_returnsBy before)
    · exact same'
    · exact absurd (same ▸ group'.returnsBy) (group.not_returnsBy before)
  have text := group.encloses
  rw [same, finish, group'.encloses] at text
  have body : s'.body = s.body := by simpa using text
  cases s
  cases s'
  cases same
  cases finish
  cases body
  rfl

/-- Each brace that is opened in between is closed in between. -/
theorem returnsBy_of_inside (group : s.IsGroup template) {place : Nat} (after : s.start ≤ place)
    (before : place < s.finish) (opens : template[place]? = some '{') :
    ReturnsBy template place s.finish := by
  apply returnsBy_of_depth_le opens before group.bounded
  have ends := group.closes.ends
  rw [← stretch_append_stretch after (Nat.le_of_lt before), depth_append] at ends
  rcases Nat.eq_or_lt_of_le after with rfl | deeper
  · have none : stretch template s.start s.start = [] := by simp [stretch]
    rw [none] at ends
    simp only [depth, List.map_nil, List.sum_nil, Int.zero_add] at ends ⊢
    exact Int.le_of_eq ends
  · have positive := group.depth_pos deeper before
    omega

end Span.IsGroup

namespace Cuts

variable {position : Nat} {ss : List Span} {s : Span}

theorem isGroup (cuts : Cuts template position ss) (member : s ∈ ss) : s.IsGroup template := by
  induction cuts with
  | rest => exact absurd member List.not_mem_nil
  | span behind plain group cuts ih =>
    rcases List.mem_cons.mp member with rfl | later
    · exact group
    · exact ih later

theorem le_start (cuts : Cuts template position ss) (member : s ∈ ss) : position ≤ s.start := by
  induction cuts with
  | rest => exact absurd member List.not_mem_nil
  | @span position first others behind plain group cuts ih =>
    rcases List.mem_cons.mp member with rfl | later
    · exact behind
    · have nonempty := group.nonempty
      have next := ih later
      omega

theorem pairwise (cuts : Cuts template position ss) :
    ss.Pairwise fun s s' => s.finish ≤ s'.start := by
  induction cuts with
  | rest => exact .nil
  | span behind plain group cuts ih => exact .cons (fun _ member => cuts.le_start member) ih

theorem notMem_gaps (cuts : Cuts template position ss) :
    ∀ gap ∈ gapsFrom template position ss, '{' ∉ gap := by
  induction cuts with
  | rest => exact fun _ member => absurd member List.not_mem_nil
  | span behind plain group cuts ih =>
    intro gap member
    rcases List.mem_cons.mp member with rfl | later
    · exact plain
    · exact ih gap later

theorem isUnclosed_rest (cuts : Cuts template position ss) :
    IsUnclosed (template.drop (lastFinish position ss)) := by
  induction cuts with
  | rest unclosed => exact unclosed
  | span behind plain group cuts ih => exact ih

/-- An opening brace ahead of a placeholder is in a placeholder before it. -/
theorem returnsBy_start (cuts : Cuts template position ss) (member : s ∈ ss) {place : Nat}
    (after : position ≤ place) (before : place < s.start) (opens : template[place]? = some '{') :
    ReturnsBy template place s.start := by
  induction cuts with
  | rest => exact absurd member List.not_mem_nil
  | @span position first others behind plain group cuts ih =>
    rcases Nat.lt_or_ge place first.start with gap | reached
    · exact absurd (mem_stretch after gap opens) plain
    · rcases List.mem_cons.mp member with rfl | later
      · omega
      · rcases Nat.lt_or_ge place first.finish with inside | behind'
        · exact (group.returnsBy_of_inside reached inside opens).mono (cuts.le_start later)
        · exact ih later behind'

/-- Braces outside of all others are among the placeholders. -/
theorem mem_of_isOutside (cuts : Cuts template position ss) (after : position ≤ s.start)
    (group : s.IsGroup template) (outside : IsOutside template s.start) : s ∈ ss := by
  have bounded := group.bounded
  have nonempty := group.nonempty
  induction cuts with
  | @rest position unclosed =>
    exfalso
    have inRest : (template.drop position)[s.start - position]? = some '{' := by
      rw [List.getElem?_drop, Nat.add_sub_cancel' after, group.opens]
    rcases unclosed with plain | ⟨front, back, whole, plain, opened⟩
    · exact plain (List.mem_of_getElem? inRest)
    · -- the first brace of the rest stays open, so none behind it is outside
      have first : template.drop (position + front.length) = '{' :: back := by
        rw [← List.drop_drop, whole, List.drop_left' rfl]
      have reached : position + front.length ≤ s.start := by
        by_contra early
        rw [whole, List.getElem?_append_left (by omega)] at inRest
        exact plain (List.mem_of_getElem? inRest)
      have never := fun {limit : Nat} =>
        @not_returnsBy_of_staysOpen template _ limit (first ▸ opened)
      rcases Nat.eq_or_lt_of_le reached with same | deeper
      · exact never bounded (same ▸ group.returnsBy)
      · have opens : template[position + front.length]? = some '{' := by
          rw [← List.head?_drop, first]
          rfl
        exact never (by omega) (outside _ deeper opens)
  | @span position first others behind plain group' cuts ih =>
    rcases Nat.lt_trichotomy s.start first.start with gap | same | deeper
    · exact absurd (mem_stretch after gap group.opens) plain
    · exact List.mem_cons.mpr (.inl (group.eq_of_start_eq group' same))
    · rcases Nat.lt_or_ge s.start first.finish with inside | behind'
      · exact absurd (outside _ deeper group'.opens) (group'.not_returnsBy inside)
      · exact List.mem_cons_of_mem first (ih behind')

theorem nodup (cuts : Cuts template position ss) : ss.Nodup := by
  apply cuts.pairwise.imp_of_mem
  rintro s s' member - ordered rfl
  have nonempty := (cuts.isGroup member).nonempty
  omega

/-- From the start on, the placeholders are the outermost braces that are closed. -/
theorem mem_iff (cuts : Cuts template 0 ss) :
    s ∈ ss ↔ s.IsGroup template ∧ IsOutside template s.start := by
  constructor
  · intro member
    refine ⟨cuts.isGroup member, ?_⟩
    intro earlier before opens
    exact cuts.returnsBy_start member (Nat.zero_le earlier) before opens
  · rintro ⟨group, outside⟩
    exact cuts.mem_of_isOutside (Nat.zero_le _) group outside

theorem unique {ss' : List Span} (cuts : Cuts template 0 ss) (cuts' : Cuts template 0 ss') :
    ss = ss' := by
  have members : ∀ s, s ∈ ss ↔ s ∈ ss' := by
    intro s
    rw [cuts.mem_iff, cuts'.mem_iff]
  have same := (List.perm_ext_iff_of_nodup cuts.nodup cuts'.nodup).mpr members
  apply same.eq_of_pairwise ?_ cuts.pairwise cuts'.pairwise
  intro s s' member member' ordered ordered'
  have nonempty := (cuts.isGroup member).nonempty
  have nonempty' := (cuts'.isGroup member').nonempty
  omega

end Cuts

theorem cuts_spans (template : List Char) : Cuts template 0 (spans template) := by
  have cuts := cuts_spansFrom (isCut_pieces template) []
  rw [List.nil_append, flatMap_source_pieces] at cuts
  exact cuts

/--
Spans in order, none of which overlaps another, with braces around each; no opening brace is
between them, and behind the last one the first opening brace is never closed.
-/
structure CoversBraces (template : List Char) (ss : List Span) : Prop where
  groups : ∀ s ∈ ss, s.IsGroup template
  ordered : ss.Pairwise fun s s' => s.finish ≤ s'.start
  gaps : ∀ gap ∈ gapsFrom template 0 ss, '{' ∉ gap
  rest : IsUnclosed (template.drop (lastFinish 0 ss))

theorem cuts_of_forall {position : Nat} {ss : List Span} (behind : ∀ s ∈ ss, position ≤ s.start)
    (groups : ∀ s ∈ ss, s.IsGroup template) (ordered : ss.Pairwise fun s s' => s.finish ≤ s'.start)
    (gaps : ∀ gap ∈ gapsFrom template position ss, '{' ∉ gap)
    (rest : IsUnclosed (template.drop (lastFinish position ss))) :
    Cuts template position ss := by
  induction ss generalizing position with
  | nil => exact .rest rest
  | cons s ss ih =>
    obtain ⟨first, others⟩ := List.pairwise_cons.mp ordered
    obtain ⟨gap, gaps⟩ := List.forall_mem_cons.mp gaps
    obtain ⟨group, groups⟩ := List.forall_mem_cons.mp groups
    exact .span (behind s List.mem_cons_self) gap group (ih first groups others gaps rest)

theorem coversBraces_iff_cuts {ss : List Span} :
    CoversBraces template ss ↔ Cuts template 0 ss := by
  constructor
  · rintro ⟨groups, ordered, gaps, rest⟩
    exact cuts_of_forall (fun _ _ => Nat.zero_le _) groups ordered gaps rest
  · intro cuts
    exact ⟨fun _ => cuts.isGroup, cuts.pairwise, cuts.notMem_gaps, cuts.isUnclosed_rest⟩

/--
The placeholders of a template cover its closed braces, and no other spans do: all outermost ones
are among them and nothing else is. Rendering replaces them and keeps the text outside of them.
-/
theorem spans_coverBraces (template : String) :
    (∀ ss, CoversBraces template.toList ss ↔ ss = spans template.toList)
      ∧ (∀ s, s ∈ spans template.toList
        ↔ s.IsGroup template.toList ∧ IsOutside template.toList s.start)
      ∧ segments template = (spans template.toList).map (fun s => segmentOf s.body)
      ∧ render template = String.ofList (replaced template.toList 0 (spans template.toList)) := by
  have cuts := cuts_spans template.toList
  refine ⟨?_, fun _ => cuts.mem_iff, segments_spansFrom 0 _, ?_⟩
  · intro ss
    rw [coversBraces_iff_cuts]
    constructor
    · intro cuts'
      exact cuts'.unique cuts
    · rintro rfl
      exact cuts
  · have written := replaced_spansFrom (isCut_pieces template.toList) []
    rw [List.nil_append, flatMap_source_pieces] at written
    exact congrArg String.ofList written.symm

/-- A brace inside a placeholder, one too many behind it, and one that is never closed. -/
example : spans "\x7ba\x7bb\x7d\x7d\x7d/\x7bc\x7d/\x7bd".toList
    = [⟨0, 6, "a\x7bb\x7d".toList⟩, ⟨8, 11, ['c']⟩] := by decide +kernel

end ApiClient.Route
