import ApiClient.Proofs.Json.Strings
import Mathlib.Data.List.Nodup
import Mathlib.Data.List.TakeWhile

/-!
A tree of texts and words that is written as JSON is read back, in each layout.

Reading a value takes as much fuel as its text is long, and stops behind the text. Main statements:
`Json.read_render_append`, and `Json.isInText_of_mem_render`, that the text is in ASCII.
-/

set_option autoImplicit false

namespace ApiClient.Json

open Text

/-- A tree of texts and words, whose objects have different texts as keys. -/
inductive IsPlain : Data → Prop
  | null : IsPlain (.scalar .null)
  | bool (b : Bool) : IsPlain (.scalar (.bool b))
  | text (s : String) : IsPlain (.ofText s)
  | list (items : List Data) (plain : ∀ d ∈ items, IsPlain d) : IsPlain (.list items)
  | object (fields : List (String × Data)) (distinct : (fields.map Prod.fst).Nodup)
      (plain : ∀ f ∈ fields, IsPlain f.2) : IsPlain (.ofFields fields)

section Gaps

variable {gap cs : List Char} {c : Char}

/-- White space between the parts of a tree. -/
def IsBlank (gap : List Char) : Prop := ∀ c ∈ gap, isGap c = true

theorem isBlank_gap (layout : Layout) (depth : Nat) : IsBlank (layout.gap depth).toList := by
  intro c member
  unfold Layout.gap at member
  split at member
  · simp only [String.toList_ofList, List.mem_cons, List.mem_replicate] at member
    rcases member with rfl | ⟨-, rfl⟩
    · rfl
    · rfl
  · simp at member

theorem skipGap_append (blank : IsBlank gap) (cs : List Char) :
    skipGap (gap ++ cs) = skipGap cs := by
  unfold skipGap
  rw [List.dropWhile_append_of_pos blank]

theorem skipGap_cons (solid : isGap c = false) (cs : List Char) : skipGap (c :: cs) = c :: cs := by
  simp [skipGap, solid]

theorem skipGap_of_isBlank (blank : IsBlank gap) : skipGap gap = [] :=
  List.dropWhile_eq_nil_iff.mpr blank

end Gaps

/-- A text stands for a tree wherever it starts, with as much fuel as it is long. -/
structure Reads (d : Data) (text : List Char) : Prop where
  opens : ∃ c cs, text = c :: cs ∧ isGap c = false ∧ c ≠ ']'
  value : ∀ fuel after, text.length ≤ fuel → value fuel (text ++ after) = .ok (d, after)

/-- What follows the first item between brackets, up to the closing one. -/
def following (gap gap' : List Char) (closing : Char) (texts : List (List Char)) : List Char :=
  texts.flatMap (fun text => ',' :: (gap ++ text)) ++ (gap' ++ [closing])

section Brackets

variable {gap gap' : List Char} {closing : Char} {text : Data → List Char} {after : List Char}

theorem following_nil_append :
    following gap gap' closing [] ++ after = gap' ++ closing :: after := by
  simp [following]

theorem following_cons_append (own : List Char) (texts : List (List Char)) :
    following gap gap' closing (own :: texts) ++ after
      = ',' :: (gap ++ (own ++ (following gap gap' closing texts ++ after))) := by
  simp [following]

theorem length_following_nil :
    (following gap gap' closing []).length = gap'.length + 1 := by
  simp [following]

theorem length_following_cons (own : List Char) (texts : List (List Char)) :
    (following gap gap' closing (own :: texts)).length
      = 1 + gap.length + own.length + (following gap gap' closing texts).length := by
  simp only [following, List.flatMap_cons, List.length_append, List.length_cons]
  omega

theorem Reads.skipGap {d : Data} {own : List Char} (reads : Reads d own) (blank : IsBlank gap) :
    Json.skipGap (gap ++ (own ++ after)) = own ++ after := by
  obtain ⟨c, cs, rfl, solid, -⟩ := reads.opens
  rw [skipGap_append blank, List.cons_append, skipGap_cons solid]

theorem Reads.head?_append {d : Data} {own : List Char} (reads : Reads d own) :
    (own ++ after).head? ≠ some ']' := by
  obtain ⟨c, cs, rfl, -, solid⟩ := reads.opens
  simpa using solid

theorem items_ok (blank : IsBlank gap) (blank' : IsBlank gap') {d : Data} {rest : List Data}
    (reads : ∀ x ∈ d :: rest, Reads x (text x)) {fuel : Nat}
    (enough : (text d ++ following gap gap' ']' (rest.map text)).length ≤ fuel) :
    items fuel (text d ++ (following gap gap' ']' (rest.map text) ++ after))
      = .ok (d :: rest, after) := by
  obtain ⟨own, others⟩ := List.forall_mem_cons.mp reads
  rw [List.length_append] at enough
  -- each item takes one call, which the comma or bracket behind it pays for
  induction rest generalizing d fuel with
  | nil =>
    rw [List.map_nil, length_following_nil] at enough
    obtain ⟨fuel, rfl⟩ : ∃ n, fuel = n + 1 := ⟨fuel - 1, by omega⟩
    simp only [items, own.value fuel _ (by omega), bind, Except.bind, List.map_nil,
      following_nil_append, skipGap_append blank', skipGap_cons (c := ']') rfl]
    rfl
  | cons x rest ih =>
    rw [List.map_cons, length_following_cons] at enough
    obtain ⟨fuel, rfl⟩ : ∃ n, fuel = n + 1 := ⟨fuel - 1, by omega⟩
    obtain ⟨next, later⟩ := List.forall_mem_cons.mp others
    have tail := @ih x others fuel (by omega) next later
    simp only [items, own.value fuel _ (by omega), bind, Except.bind, List.map_cons,
      following_cons_append, skipGap_cons (c := ',') rfl, next.skipGap blank, tail]
    rfl

/-- A key in front of its member, with white space after the colon. -/
def memberText (space : List Char) (text : Data → List Char) (f : String × Data) : List Char :=
  '\x22' :: (f.1.toList.flatMap stringChar ++ '\x22' :: ':' :: (space ++ text f.2))

theorem string_flatMap_stringChar (s : String) (after : List Char) :
    string (s.toList.flatMap stringChar ++ '\x22' :: after) = .ok (s, after) := by
  rw [string, string?_flatMap_stringChar]
  rfl

variable {space : List Char}

theorem skipGap_memberText (blank : IsBlank gap) (f : String × Data) :
    skipGap (gap ++ (memberText space text f ++ after)) = memberText space text f ++ after := by
  rw [skipGap_append blank]
  exact skipGap_cons rfl _

theorem length_lt_memberText (f : String × Data) :
    (text f.2).length < (memberText space text f).length := by
  simp only [memberText, List.length_cons, List.length_append]
  omega

theorem members_ok (narrow : IsBlank space) (blank : IsBlank gap) (blank' : IsBlank gap')
    {f : String × Data} {rest : List (String × Data)}
    (reads : ∀ g ∈ f :: rest, Reads g.2 (text g.2)) {fuel : Nat}
    (enough : (memberText space text f
      ++ following gap gap' '\x7d' (rest.map (memberText space text))).length ≤ fuel) :
    members fuel (memberText space text f
        ++ (following gap gap' '\x7d' (rest.map (memberText space text)) ++ after))
      = .ok ((f :: rest).map fun g => (.text g.1, g.2), after) := by
  obtain ⟨own, others⟩ := List.forall_mem_cons.mp reads
  rw [List.length_append] at enough
  induction rest generalizing f fuel with
  | nil =>
    have inside : (text f.2).length < (memberText space text f).length := length_lt_memberText f
    rw [List.map_nil, length_following_nil] at enough
    obtain ⟨fuel, rfl⟩ : ∃ n, fuel = n + 1 := ⟨fuel - 1, by omega⟩
    rw [memberText]
    simp only [List.cons_append, List.append_assoc, members, string_flatMap_stringChar,
      skipGap_cons (c := ':') rfl, own.skipGap narrow, own.value fuel _ (by omega), bind,
      Except.bind, List.map_nil, following_nil_append, skipGap_append blank',
      skipGap_cons (c := '\x7d') rfl]
    rfl
  | cons g rest ih =>
    have inside : (text f.2).length < (memberText space text f).length := length_lt_memberText f
    rw [List.map_cons, length_following_cons] at enough
    obtain ⟨fuel, rfl⟩ : ∃ n, fuel = n + 1 := ⟨fuel - 1, by omega⟩
    obtain ⟨next, later⟩ := List.forall_mem_cons.mp others
    have tail := @ih g others fuel (by omega) next later
    rw [memberText]
    simp only [List.cons_append, List.append_assoc, members, string_flatMap_stringChar,
      skipGap_cons (c := ':') rfl, own.skipGap narrow, own.value fuel _ (by omega), bind,
      Except.bind, List.map_cons, following_cons_append, skipGap_cons (c := ',') rfl,
      skipGap_memberText blank, tail]
    rfl

end Brackets

section Objects

theorem isSameKey_text (a b : String) : (Scalar.text a).isSameKey (.text b) = (a == b) := by
  by_cases same : a = b <;> simp [Scalar.isSameKey, Scalar.asKey, same]

theorem put_of_notMem {name : String} {value : Data} {fields : List (String × Data)}
    (new : name ∉ fields.map Prod.fst) :
    Data.put (.text name) value (fields.map fun g => (.text g.1, g.2))
      = (fields ++ [(name, value)]).map fun g => (.text g.1, g.2) := by
  induction fields with
  | nil => rfl
  | cons g rest ih =>
    rw [List.map_cons, List.mem_cons, not_or] at new
    have other : (g.1 == name) = false := by simpa using fun same => new.1 same.symm
    rw [List.map_cons, Data.put, isSameKey_text, other, if_neg Bool.false_ne_true, ih new.2]
    rfl

theorem ofPairs_of_nodup {fields : List (String × Data)}
    (distinct : (fields.map Prod.fst).Nodup) :
    Data.ofPairs (fields.map fun g => (.text g.1, g.2)) = Data.ofFields fields := by
  -- the members put so far are those before, so that each new one is put behind them
  have puts : ∀ before after : List (String × Data), ((before ++ after).map Prod.fst).Nodup →
      (after.map fun g => (Scalar.text g.1, g.2)).foldl
          (fun members f => Data.put f.1 f.2 members)
          (before.map fun g => (.text g.1, g.2))
        = (before ++ after).map fun g => (.text g.1, g.2) := by
    intro before after distinct
    induction after generalizing before with
    | nil => simp
    | cons g rest ih =>
      have new : g.1 ∉ before.map Prod.fst := by
        rw [List.map_append, List.nodup_append'] at distinct
        exact fun member => distinct.2.2 member (by simp)
      have step := @put_of_notMem g.1 g.2 before new
      have later := ih (before ++ [g]) (by simpa using distinct)
      simp only [List.map_cons, List.foldl_cons, step, later, List.append_assoc,
        List.singleton_append]
  exact congrArg Data.object (puts [] fields distinct)

end Objects

section Trees

theorem intercalate_cons (separator first : List Char) (texts : List (List Char)) :
    separator.intercalate (first :: texts) = first ++ texts.flatMap (separator ++ ·) := by
  induction texts generalizing first with
  | nil => simp [List.intercalate]
  | cons text rest ih =>
    rw [List.intercalate_cons_cons, ih, List.flatMap_cons, List.append_assoc, List.append_assoc]

variable (layout : Layout) (depth : Nat)

theorem toList_bracketed_cons {opening closing : String} {o c : Char} (opens : opening.toList = [o])
    (closes : closing.toList = [c]) (text : String) (texts : List String) :
    (bracketed layout depth opening closing (text :: texts)).toList
      = o :: ((layout.gap (depth + 1)).toList ++ (text.toList
        ++ following (layout.gap (depth + 1)).toList (layout.gap depth).toList c
          (texts.map String.toList))) := by
  have comma : ("," : String).toList = [','] := rfl
  simp only [bracketed, String.toList_append, String.toList_intercalate, List.map_cons,
    intercalate_cons, opens, closes, comma, following, List.cons_append, List.nil_append,
    List.append_assoc]

theorem itemTexts_eq (items : List Data) :
    itemTexts layout depth items = items.map (dataText layout depth) := by
  induction items with
  | nil => rfl
  | cons d rest ih => rw [itemTexts, ih, List.map_cons]

def space (layout : Layout) : List Char := if layout.indented then [' '] else []

theorem isBlank_space : IsBlank (space layout) := by
  unfold space IsBlank
  split <;> simp [isGap]

theorem toList_memberTexts (fields : List (String × Data)) :
    (memberTexts layout depth (fields.map fun g => (.text g.1, g.2))).map String.toList
      = fields.map (memberText (space layout) fun d => (dataText layout depth d).toList) := by
  have colon : layout.colon.toList = ':' :: space layout := by
    unfold Layout.colon space
    split <;> rfl
  induction fields with
  | nil => rfl
  | cons g rest ih =>
    rw [List.map_cons, memberTexts, List.map_cons, ih, List.map_cons]
    simp only [keyText, String.toList_append, toList_stringText, colon, memberText,
      List.cons_append, List.append_assoc]
    rfl

theorem value_list {fuel : Nat} {rest inside : List Char} (skipped : skipGap rest = inside)
    (held : inside.head? ≠ some ']') :
    value (fuel + 1) ('[' :: rest)
      = (items fuel inside).map fun (items, after) => (.list items, after) := by
  simp only [value, skipped]
  split
  · exact absurd rfl held
  · rfl

theorem value_object {fuel : Nat} {rest inside : List Char} (skipped : skipGap rest = inside)
    (held : inside.head? ≠ some '\x7d') :
    value (fuel + 1) ('\x7b' :: rest)
      = (members fuel inside).map fun (members, after) => (Data.ofPairs members, after) := by
  simp only [value, skipped]
  split
  · exact absurd rfl held
  · rfl

/-- A text with a first character takes at least one call. -/
theorem reads_cons {d : Data} {c : Char} {cs : List Char} (solid : isGap c = false)
    (opens : c ≠ ']') (value : ∀ fuel after, cs.length ≤ fuel →
      value (fuel + 1) (c :: (cs ++ after)) = .ok (d, after)) :
    Reads d (c :: cs) := by
  refine ⟨⟨c, cs, rfl, solid, opens⟩, fun fuel after enough => ?_⟩
  rw [List.length_cons] at enough
  obtain ⟨fuel, rfl⟩ : ∃ n, fuel = n + 1 := ⟨fuel - 1, by omega⟩
  exact value fuel after (by omega)

/-- A text that is read as a word is read so wherever it starts. -/
theorem reads_word {s : Scalar} {c : Char} {cs : List Char} (letter : c ∈ ['n', 't', 'f'])
    (word : ∀ after, scalar (c :: (cs ++ after)) = .ok (s, after)) :
    Reads (.scalar s) (c :: cs) := by
  simp only [List.mem_cons, List.not_mem_nil, or_false] at letter
  have first : isGap c = false ∧ c ≠ ']' := by
    rcases letter with rfl | rfl | rfl <;> decide
  refine reads_cons first.1 first.2 fun fuel after _ => ?_
  rcases letter with rfl | rfl | rfl <;> simp only [value, word] <;> rfl

/-- A list is read as its items are. -/
theorem reads_list (layout : Layout) (depth : Nat) {items : List Data}
    (reads : ∀ d ∈ items, Reads d (dataText layout (depth + 1) d).toList) :
    Reads (.list items) (dataText layout depth (.list items)).toList := by
  rw [dataText, itemTexts_eq]
  cases items with
  | nil =>
    have brackets : (bracketed layout depth "[" "]" []).toList = ['[', ']'] := by simp [bracketed]
    rw [List.map_nil, brackets]
    exact reads_cons (by decide) (by decide) fun fuel after _ => rfl
  | cons d rest =>
    have wide := isBlank_gap layout (depth + 1)
    have narrow := isBlank_gap layout depth
    have own := reads d List.mem_cons_self
    have opening : ("[" : String).toList = ['['] := rfl
    have closing : ("]" : String).toList = [']'] := rfl
    rw [List.map_cons, toList_bracketed_cons layout depth opening closing, List.map_map,
      Function.comp_def]
    refine reads_cons (by decide) (by decide) fun fuel after enough => ?_
    rw [List.length_append] at enough
    rw [List.append_assoc, List.append_assoc,
      value_list (own.skipGap wide) own.head?_append, items_ok wide narrow reads (by omega)]
    rfl

/-- An object is read as the values of its members are. -/
theorem reads_object (layout : Layout) (depth : Nat) {fields : List (String × Data)}
    (distinct : (fields.map Prod.fst).Nodup)
    (reads : ∀ f ∈ fields, Reads f.2 (dataText layout (depth + 1) f.2).toList) :
    Reads (.ofFields fields) (dataText layout depth (.ofFields fields)).toList := by
  have texts := toList_memberTexts layout (depth + 1) fields
  unfold Data.ofFields
  rw [dataText]
  cases fields with
  | nil =>
    have braces : (bracketed layout depth "\x7b" "\x7d" []).toList = ['\x7b', '\x7d'] := by
      simp [bracketed]
    rw [List.map_nil, memberTexts, braces]
    exact reads_cons (by decide) (by decide) fun fuel after _ => rfl
  | cons f rest =>
    have wide := isBlank_gap layout (depth + 1)
    have narrow := isBlank_gap layout depth
    have opening : ("\x7b" : String).toList = ['\x7b'] := rfl
    have closing : ("\x7d" : String).toList = ['\x7d'] := rfl
    rw [List.map_cons, memberTexts, List.map_cons, List.map_cons] at texts
    obtain ⟨first, others⟩ := List.cons.inj texts
    rw [List.map_cons, memberTexts, toList_bracketed_cons layout depth opening closing, first,
      others]
    refine reads_cons (by decide) (by decide) fun fuel after enough => ?_
    rw [List.length_append] at enough
    rw [List.append_assoc, List.append_assoc,
      value_object (skipGap_memberText wide f) (by simp [memberText]),
      members_ok (isBlank_space layout) wide narrow reads (by omega)]
    change Except.ok (Data.ofPairs _, after) = _
    rw [ofPairs_of_nodup distinct]
    rfl

theorem reads_dataText {d : Data} (plain : IsPlain d) (layout : Layout) (depth : Nat) :
    Reads d (dataText layout depth d).toList := by
  induction plain generalizing depth with
  | null =>
    rw [dataText, scalarText, show ("null" : String).toList = ['n', 'u', 'l', 'l'] from rfl]
    exact reads_word (by decide) fun after => rfl
  | bool b =>
    rw [dataText, scalarText]
    cases b with
    | false =>
      rw [if_neg Bool.false_ne_true,
        show ("false" : String).toList = ['f', 'a', 'l', 's', 'e'] from rfl]
      exact reads_word (by decide) fun after => rfl
    | true =>
      rw [if_pos rfl, show ("true" : String).toList = ['t', 'r', 'u', 'e'] from rfl]
      exact reads_word (by decide) fun after => rfl
  | text s =>
    rw [Data.ofText, dataText, scalarText, toList_stringText]
    refine reads_cons (by decide) (by decide) fun fuel after _ => ?_
    simp only [List.cons_append, List.append_assoc, List.nil_append, value,
      string_flatMap_stringChar]
    rfl
  | list items plain ih => exact reads_list layout depth fun d member => ih d member (depth + 1)
  | object fields distinct plain ih =>
    exact reads_object layout depth distinct fun f member => ih f member (depth + 1)

/-- A written tree is read back, also with white space behind it. -/
theorem read_render_append {d : Data} (plain : IsPlain d) (layout : Layout) {trailing : String}
    (blank : IsBlank trailing.toList) : read (render layout d ++ trailing) = .ok d := by
  have reads := reads_dataText plain layout 0
  have start : skipGap (render layout d ++ trailing).toList
      = (dataText layout 0 d).toList ++ trailing.toList := by
    obtain ⟨c, cs, opens, solid, -⟩ := reads.opens
    rw [String.toList_append, render, opens]
    exact skipGap_cons solid _
  have whole := reads.value ((render layout d ++ trailing).toList.length + 1) trailing.toList
    (by simp only [String.toList_append, List.length_append, render]; omega)
  simp only [read, start, whole, bind, Except.bind, skipGap_of_isBlank blank]
  rfl

/-- What stands in a written tree: characters of ASCII, and no control characters but line feeds. -/
def IsInText (c : Char) : Prop := IsShown c ∨ c = '\n'

theorem isInText_gap {layout : Layout} {depth : Nat} {c : Char}
    (member : c ∈ (layout.gap depth).toList) : IsInText c := by
  unfold Layout.gap at member
  split at member
  · simp only [String.toList_ofList, List.mem_cons, List.mem_replicate] at member
    rcases member with rfl | ⟨-, rfl⟩
    · exact .inr rfl
    · exact .inl (by decide)
  · simp at member

theorem isInText_bracketed (layout : Layout) (depth : Nat) {opening closing : String} {o e : Char}
    (opens : opening.toList = [o]) (closes : closing.toList = [e]) (shown : IsShown o)
    (shown' : IsShown e) {texts : List String}
    (inside : ∀ text ∈ texts, ∀ c ∈ text.toList, IsInText c) {c : Char}
    (member : c ∈ (bracketed layout depth opening closing texts).toList) :
    IsInText c := by
  cases texts with
  | nil =>
    simp only [bracketed, String.toList_append, opens, closes, List.mem_append,
      List.mem_singleton] at member
    rcases member with rfl | rfl
    · exact .inl shown
    · exact .inl shown'
  | cons text rest =>
    obtain ⟨own, others⟩ := List.forall_mem_cons.mp inside
    rw [toList_bracketed_cons layout depth opens closes] at member
    simp only [following, List.mem_cons, List.mem_append, List.mem_flatMap, List.mem_map,
      exists_exists_and_eq_and, List.not_mem_nil, or_false] at member
    rcases member with rfl | gap | first | ⟨other, member, rfl | gap | later⟩ | gap | rfl
    · exact .inl shown
    · exact isInText_gap gap
    · exact own c first
    · exact .inl (by decide)
    · exact isInText_gap gap
    · exact others other member c later
    · exact isInText_gap gap
    · exact .inl shown'

theorem isInText_memberText {f : String × Data} {text : Data → List Char}
    (inside : ∀ c ∈ text f.2, IsInText c) {c : Char}
    (member : c ∈ memberText (space layout) text f) : IsInText c := by
  simp only [memberText, List.mem_cons, List.mem_append] at member
  rcases member with rfl | key | rfl | rfl | gap | value
  · exact .inl (by decide)
  · obtain ⟨k, -, written⟩ := List.mem_flatMap.mp key
    exact .inl (isShown_of_mem_stringChar written)
  · exact .inl (by decide)
  · exact .inl (by decide)
  · unfold space at gap
    split at gap
    · obtain rfl := List.mem_singleton.mp gap
      exact .inl (by decide)
    · cases gap
  · exact inside c value

theorem isInText_dataText {d : Data} (plain : IsPlain d) (layout : Layout) (depth : Nat) :
    ∀ c ∈ (dataText layout depth d).toList, IsInText c := by
  have word : ∀ text ∈ ["null", "true", "false"], ∀ c ∈ text.toList, IsShown c := by
    simp [IsShown]
  induction plain generalizing depth with
  | null => exact fun c member => .inl (word "null" (by decide) c member)
  | bool b =>
    cases b with
    | false => exact fun c member => .inl (word "false" (by decide) c member)
    | true => exact fun c member => .inl (word "true" (by decide) c member)
  | text s => exact fun c member => .inl (isShown_of_mem_stringText member)
  | list items plain ih =>
    intro c member
    rw [dataText, itemTexts_eq] at member
    refine isInText_bracketed layout depth rfl rfl (by decide) (by decide) ?_ member
    intro text among
    obtain ⟨d, item, rfl⟩ := List.mem_map.mp among
    exact ih d item (depth + 1)
  | object fields distinct plain ih =>
    intro c member
    rw [Data.ofFields, dataText] at member
    refine isInText_bracketed layout depth rfl rfl (by decide) (by decide) ?_ member
    intro text among c member
    have written := List.mem_map_of_mem (f := String.toList) among
    rw [toList_memberTexts] at written
    obtain ⟨f, field, same⟩ := List.mem_map.mp written
    rw [← same] at member
    exact isInText_memberText layout (ih f field (depth + 1)) member

theorem isInText_of_mem_render {d : Data} (plain : IsPlain d) (layout : Layout) {c : Char}
    (member : c ∈ (render layout d).toList) : IsInText c :=
  isInText_dataText plain layout 0 c member

end Trees

end ApiClient.Json
