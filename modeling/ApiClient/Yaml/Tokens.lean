import ApiClient.Yaml.Scan
import ApiClient.Yaml.Token

/-!
The tokens of a YAML text in order.

Whether a token starts a key is known only at the colon that follows on its line, at most 1024
characters ahead. Until then neither that token nor any after it is settled. A key that is due, at
the column of the open block, must have its colon; of any other token that may start a key nothing
is asked. A text with a fault has the tokens that are settled when the fault is met.
-/

set_option autoImplicit false

namespace ApiClient.Yaml

/-- A token that may start a key: how many tokens stand ahead of it, and its place. -/
structure Candidate where
  number : Nat
  due : Bool
  mark : Mark
deriving Repr

/--
What is known at a place: the tokens so far, newest first, and their number; the columns of the
open blocks, innermost first; what may start a key, at each depth of brackets, innermost first; and
whether a key or a list item may start here.
-/
structure Scanner where
  place : Cursor
  tokens : List Token
  count : Nat
  columns : List Nat
  candidates : List (Option Candidate)
  opens : Bool
deriving Repr

namespace Scanner

/-- The start of a text. -/
def start (cs : List Char) : Scanner := ⟨Cursor.start cs, [], 0, [], [none], true⟩

/-- Whether brackets are open. -/
def inFlow (s : Scanner) : Bool := 1 < s.candidates.length

/-- The least column of a node inside the open block. -/
def floor (s : Scanner) : Nat := (s.columns.head?.map (· + 1)).getD 0

/-- A further token. -/
def add (t : Token) (s : Scanner) : Scanner :=
  { s with tokens := t :: s.tokens, count := s.count + 1 }

/-- A further token that ends at a place. -/
def addUpTo (t : Token) (place : Cursor) (s : Scanner) : Scanner := { s.add t with place }

/-- The number of tokens that are settled. -/
def settledCount (s : Scanner) : Nat :=
  s.candidates.foldl (fun n candidate => min n ((candidate.map (·.number)).getD n)) s.count

/-- The tokens that are settled, in order. -/
def settled (s : Scanner) : List Token := (s.tokens.drop (s.count - s.settledCount)).reverse

/-- Whether the colon of a key can no longer come. -/
def isStale (m : Mark) (k : Candidate) : Bool :=
  k.mark.line != m.line || k.mark.index + 1024 < m.index

/-- Drop the candidates whose colon can no longer come, unless one of them is due. -/
def dropStale (s : Scanner) : Except ReadFault Scanner :=
  let stale := isStale s.place.toMark
  if s.candidates.any fun candidate => candidate.any fun k => stale k && k.due then
    .error .malformed
  else .ok { s with candidates := s.candidates.map fun candidate => candidate.filter (!stale ·) }

/-- The candidate between the innermost brackets. -/
def candidate? (s : Scanner) : Option Candidate := s.candidates.head?.join

/-- Drop the candidate between the innermost brackets, unless it is due. -/
def dropCandidate (s : Scanner) : Except ReadFault Scanner :=
  if s.candidate?.any (·.due) then .error .malformed
  else .ok { s with candidates := none :: s.candidates.drop 1 }

/-- Note that the next token may start a key, if one may start here. -/
def offer (s : Scanner) : Except ReadFault Scanner := do
  if s.opens then
    let s ← s.dropCandidate
    let due := !s.inFlow && s.columns.head? == some s.place.column
    return { s with
      candidates := some ⟨s.count, due, s.place.toMark⟩ :: s.candidates.drop 1
      opens := false }
  else return s

/-- Close the blocks whose column meets a condition, from the innermost one on. -/
def closeBlocks (p : Nat → Bool) (s : Scanner) : Scanner :=
  if s.inFlow then s
  else
    let closed := s.columns.takeWhile p
    { s with
      tokens := List.replicate closed.length .blockEnd ++ s.tokens
      count := s.count + closed.length
      columns := s.columns.drop closed.length }

/-- Open a block at a column, unless one is open there or further in. -/
def openBlock (t : Token) (column : Nat) (s : Scanner) : Scanner :=
  if s.columns.head?.all (· < column) then { s.add t with columns := column :: s.columns } else s

/-- Go to the next token. Outside brackets a key may start on every further line. -/
def toToken (s : Scanner) : Scanner :=
  let place := s.place.token
  { s with place, opens := s.opens || (!s.inFlow && s.place.line < place.line) }

/-- The end of the text. -/
def finish (s : Scanner) : Except ReadFault Scanner := do
  let s ← (s.closeBlocks fun _ => true).dropCandidate
  return { s.add .textEnd with candidates := [none], opens := false }

/-- A token between documents. -/
def border (found : Except ReadFault (Token × Cursor)) (s : Scanner) :
    Except ReadFault Scanner := do
  let s ← (s.closeBlocks fun _ => true).dropCandidate
  let (t, after) ← found
  return { s.addUpTo t after with opens := false }

/-- An opening bracket. -/
def openBracket (t : Token) (s : Scanner) : Except ReadFault Scanner := do
  let s ← s.offer
  return { s.addUpTo t (s.place.ahead 1) with
    candidates := none :: s.candidates
    opens := true }

/-- A closing bracket. -/
def closeBracket (t : Token) (s : Scanner) : Except ReadFault Scanner := do
  let s ← s.dropCandidate
  return { s.addUpTo t (s.place.ahead 1) with
    candidates := if s.inFlow then s.candidates.drop 1 else s.candidates
    opens := false }

/-- A sign after which a key may start or not. Where a block is to open it, one must be allowed. -/
def sign (t : Token) (block : Option Token) (opens : Bool) (s : Scanner) :
    Except ReadFault Scanner := do
  if block.isSome && !s.inFlow && !s.opens then .error .malformed
  let s := match block with
    | some first => if s.inFlow then s else s.openBlock first s.place.column
    | none => s
  let s ← s.dropCandidate
  return { s.addUpTo t (s.place.ahead 1) with opens }

/-- The colon of a key that stands ahead of it on its line. -/
def colon (k : Candidate) (s : Scanner) : Scanner :=
  let opensBlock := !s.inFlow && s.columns.head?.all (· < k.mark.column)
  let signs := if opensBlock then [.key, .blockMapping] else [.key]
  let after := s.count - k.number
  { s with
    place := s.place.ahead 1
    tokens := .value :: (s.tokens.take after ++ signs ++ s.tokens.drop after)
    count := s.count + signs.length + 1
    columns := if opensBlock then k.mark.column :: s.columns else s.columns
    candidates := none :: s.candidates.drop 1
    opens := false }

/-- A word or a scalar, which may start a key. -/
def word (found : Except ReadFault (Token × Cursor)) (s : Scanner) : Except ReadFault Scanner := do
  let s ← s.offer
  let (t, after) ← found
  return { s.addUpTo t after with opens := false }

/-- A block scalar; a key may follow it. -/
def blockScalar (s : Scanner) : Except ReadFault Scanner := do
  let s ← s.dropCandidate
  let (text, after) ← blockScalarAt s.floor s.place
  return { s.addUpTo (.scalar text false) after with opens := true }

/-- An unquoted scalar; a key may follow it and a line break. -/
def plainScalar (s : Scanner) : Except ReadFault Scanner := do
  let s ← s.offer
  let found := plainAt s.inFlow s.floor s.place
  return { s.addUpTo (.scalar found.text true) found.after with opens := found.breaks }

/-- The next token, at its first character, which with `rest` goes on. -/
def tokenAt (c : Char) (rest : List Char) (s : Scanner) : Except ReadFault Scanner :=
  let signs := s.inFlow || atGap rest
  if c == '%' && s.place.column == 0 then s.border (directiveAt s.place)
  else if s.place.atMarker then
    s.border (.ok (if c == '-' then .documentStart else .documentEnd, s.place.ahead 3))
  else if c == '[' then s.openBracket .openList
  else if c == '\x7b' then s.openBracket .openMapping
  else if c == ']' then s.closeBracket .closeList
  else if c == '\x7d' then s.closeBracket .closeMapping
  else if c == ',' then s.sign .comma none true
  else if c == '-' && atGap rest then s.sign .dash (some .blockList) true
  else if c == '?' && signs then s.sign .key (some .blockMapping) (!s.inFlow)
  else if c == ':' && signs then
    match s.candidate? with
    | some k => .ok (s.colon k)
    | none => s.sign .value (some .blockMapping) (!s.inFlow)
  else if c == '*' then
    s.word ((nameAt s.place).map fun (name, after) => (.reference name, after))
  else if c == '&' then
    s.word ((nameAt s.place).map fun (name, after) => (.anchor name, after))
  else if c == '!' then s.word (tagAt s.place)
  else if (c == '|' || c == '>') && !s.inFlow then s.blockScalar
  else if c == '\x27' || c == '\x22' then
    s.word ((quotedAt (c == '\x22') s.place).map fun (text, after) => (.scalar text false, after))
  else if startsPlain s.inFlow (c :: rest) then s.plainScalar
  else .error .malformed

/-- Read a token. -/
def next (s : Scanner) : Except ReadFault Scanner := do
  let s ← s.toToken.dropStale
  let s := s.closeBlocks (s.place.column < ·)
  let s ← match s.place.rest with
    | [] => s.finish
    | c :: rest => s.tokenAt c rest
  s.dropStale

/-- Whether the text is at its end. -/
def isDone (s : Scanner) : Bool :=
  match s.tokens with
  | .textEnd :: _ => true
  | _ => false

/-- The settled tokens of a text, with the fault that comes after them, if any. -/
def run : Nat → Scanner → List Token × Option ReadFault
  | 0, s => (s.settled, some .malformed)
  | fuel + 1, s =>
    match s.next with
    | .error fault => (s.settled, some fault)
    | .ok after => if after.isDone then (after.settled, none) else run fuel after

end Scanner

/-- The settled tokens of a text, with the fault that comes after them, if any. Every token but the
last one takes a character, so fuel lasts. -/
def tokensOf (cs : List Char) : List Token × Option ReadFault :=
  (Scanner.start cs).run (cs.length + 2)

end ApiClient.Yaml
