import Excerpt.Yaml.Scalar

/-!
# Tokens of a YAML text

Indentation is turned into tokens: a sequence or mapping in block form begins where its first entry stands deeper than
the one around it, and ends where a token stands less deep. A mapping key without a question mark is known as a key only
at its colon; until then its place is kept as a possible key.
-/

namespace Excerpt.Yaml

/-- A piece of a YAML text. -/
inductive Token where
  | directive (words : List Text)
  | documentStart
  | documentEnd
  | blockSequence
  | blockMapping
  | blockEnd
  | flowSequence
  | flowSequenceEnd
  | flowMapping
  | flowMappingEnd
  | entry
  | comma
  | key
  | value
  | reference (name : Text)
  | anchor (name : Text)
  | tag (handle : Option Text) (suffix : Text)
  | scalar (text : Text) (plain : Bool)
deriving DecidableEq, Repr

/-- A token that may turn out to be a key: how many tokens stand before it, whether it has to be a key, and
its place. -/
structure PossibleKey where
  place : Nat
  required : Bool
  index : Nat
  line : Nat
  column : Nat
deriving DecidableEq, Repr

/-- The state of reading tokens. The tokens so far are held with the last one first; possible keys are held with the
number of flow collections around them. -/
structure Scan where
  spot : Spot
  flow : Nat
  indent : Int
  indents : List Int
  mayBeKey : Bool
  keys : List (Nat × PossibleKey)
  tokens : List Token

namespace Scan

/-- The state before the first token. -/
def start (t : Text) : Scan :=
  ⟨.start t, 0, -1, [], true, [], []⟩

/-- The state with one more token. -/
def push (t : Token) (s : Scan) : Scan :=
  { s with tokens := t :: s.tokens }

/-- The state with tokens put in after the first `place` ones. -/
def insertAt (place : Nat) (ts : List Token) (s : Scan) : Scan :=
  let back := s.tokens.length - place
  { s with tokens := s.tokens.take back ++ ts.reverse ++ s.tokens.drop back }

/-- The state at another spot. -/
def goTo (p : Spot) (s : Scan) : Scan :=
  { s with spot := p }

/-- The state after several characters. -/
def skip (n : Nat) (s : Scan) : Scan :=
  { s with spot := s.spot.skip n }

/-! ## Between tokens -/

/-- The state at the next token, after blanks, comments and line ends; each line takes one unit of fuel. -/
def toToken : Nat → Scan → Scan
  | 0, s => s
  | n + 1, s =>
    let p := s.spot.skipWhile (· == ' ')
    let p := if p.at? '#' then p.skipWhile (!isBreak ·) else p
    if p.sees isBreak then
      toToken n { s with spot := p.lineBreak.2, mayBeKey := s.mayBeKey || s.flow == 0 }
    else s.goTo p

/-- Whether a possible key can no longer be one: its line has ended, or it is too far back. -/
def isStale (s : Scan) (k : PossibleKey) : Bool :=
  k.line != s.spot.line || k.index + 1024 < s.spot.index

/-- The state without the possible keys that can no longer be one; none of them may have to be a key. -/
def dropStale? (s : Scan) : Option Scan :=
  if s.keys.any fun (_, k) => s.isStale k && k.required then none
  else some { s with keys := s.keys.filter fun (_, k) => !s.isStale k }

/-- The state with the block collections ended that are deeper than a column; each one takes one unit of fuel. -/
def unwindWith : Nat → Int → Scan → Scan
  | 0, _, s => s
  | n + 1, column, s =>
    if column < s.indent then
      unwindWith n column (push .blockEnd { s with indent := s.indents.headD (-1), indents := s.indents.drop 1 })
    else s

/-- The state with the block collections ended that are deeper than a column, outside flow collections. -/
def unwind (column : Int) (s : Scan) : Scan :=
  if s.flow = 0 then unwindWith (s.indents.length + 1) column s else s

/-- Whether a block collection begins at a column. -/
def deepens (column : Nat) (s : Scan) : Bool :=
  s.flow = 0 && s.indent < column

/-- The state inside a block collection that begins at a column, if one does. -/
def deepen (column : Nat) (s : Scan) : Scan :=
  if s.deepens column then { s with indent := column, indents := s.indent :: s.indents } else s

/-- The possible key among the flow collections around the spot. -/
def possibleKey? (s : Scan) : Option PossibleKey :=
  s.keys.lookup s.flow

/-- The state without that possible key. -/
def forgetKey (s : Scan) : Scan :=
  { s with keys := s.keys.filter fun (n, _) => n != s.flow }

/-- The state without that possible key, which may not have to be a key. -/
def dropKey? (s : Scan) : Option Scan :=
  match s.possibleKey? with
  | some k => if k.required then none else some s.forgetKey
  | none => some s

/-- The state with the next token as a possible key, where a key may stand. -/
def keepKey? (s : Scan) : Option Scan :=
  if s.mayBeKey then do
    let required := s.flow = 0 && s.indent == s.spot.column
    let s ← s.dropKey?
    return { s with
      keys := (s.flow, ⟨s.tokens.length, required, s.spot.index, s.spot.line, s.spot.column⟩) :: s.keys }
  else some s

/-- The state with a mark or directive at the start of a line: everything before it has ended. -/
def afterAll? (s : Scan) : Option Scan :=
  ((s.unwind (-1)).dropKey?).map fun s => { s with mayBeKey := false }

/-! ## Kinds of tokens -/

/-- A directive, as its words. -/
def directive? (s : Scan) : Option Scan := do
  let s ← s.afterAll?
  let (line, p) := s.spot.next.take (!isBreak ·)
  let words := ((line.takeWhile (· != '#')).splitBy fun a b => (a == ' ') == (b == ' ')).filter fun w =>
    w.head? != some ' '
  return push (.directive words) (s.goTo p)

/-- The start or end of a document. -/
def documentMark? (t : Token) (s : Scan) : Option Scan :=
  s.afterAll?.map fun s => push t (s.skip 3)

/-- The start of a flow collection. -/
def flowStart? (t : Token) (s : Scan) : Option Scan :=
  s.keepKey?.map fun s => push t { s.skip 1 with flow := s.flow + 1, mayBeKey := true }

/-- The end of a flow collection, which has to be open. -/
def flowEnd? (t : Token) (s : Scan) : Option Scan :=
  if s.flow = 0 then none
  else s.dropKey?.map fun (s : Scan) => push t { s.skip 1 with flow := s.flow - 1, mayBeKey := false }

/-- A comma. -/
def comma? (s : Scan) : Option Scan :=
  s.dropKey?.map fun (s : Scan) => push .comma { s.skip 1 with mayBeKey := true }

/-- An entry of a block sequence, which begins one if it is deeper; it may stand only where a key may. -/
def entry? (s : Scan) : Option Scan :=
  if s.flow = 0 && !s.mayBeKey then none
  else
    let column := s.spot.column
    let s := if s.deepens column then push .blockSequence (s.deepen column) else s
    ({ s with mayBeKey := true }).dropKey?.map fun (s : Scan) => push .entry (s.skip 1)

/-- A question mark in front of a key. -/
def key? (s : Scan) : Option Scan :=
  if s.flow = 0 && !s.mayBeKey then none
  else
    let column := s.spot.column
    let s := if s.deepens column then push .blockMapping (s.deepen column) else s
    ({ s with mayBeKey := s.flow = 0 }).dropKey?.map fun (s : Scan) => push .key (s.skip 1)

/-- A colon: what stood at the place of the possible key is a key, or else the value has none. -/
def value? (s : Scan) : Option Scan :=
  match s.possibleKey? with
  | some k =>
    let s := s.forgetKey
    let marks := if s.deepens k.column then [.blockMapping, .key] else [.key]
    let s := (s.deepen k.column).insertAt k.place marks
    some (push .value { s.skip 1 with mayBeKey := false })
  | none =>
    if s.flow = 0 && !s.mayBeKey then none
    else
      let column := s.spot.column
      let s := if s.deepens column then push .blockMapping (s.deepen column) else s
      ({ s with mayBeKey := s.flow = 0 }).dropKey?.map fun (s : Scan) => push .value (s.skip 1)

/-- Characters of the name of an anchor. -/
def isNameChar (c : Char) : Bool :=
  c.isAlphanum || c == '-' || c == '_'

/-- An anchor, or a reference to one. -/
def name? (make : Text → Token) (s : Scan) : Option Scan := do
  let s ← s.keepKey?
  let (name, p) := s.spot.next.take isNameChar
  guard (!name.isEmpty)
  guard (endOr (fun c => isGap c || ['?', ':', ',', ']', '\x7d', '%', '@', '`'].contains c) p.head?)
  return push (make name) { s.goTo p with mayBeKey := false }

/-- Characters of a tag. -/
def isTagChar (c : Char) : Bool :=
  c.isAlphanum || "-;/?:@&=+$,_.!~*'()[]%".toList.contains c

/-- The handle and the rest of a tag. -/
def tagParts? (p : Spot) : Option ((Option Text × Text) × Spot) :=
  match p.rest with
  | '!' :: '<' :: _ => do
    let (suffix, p) := (p.skip 2).take isTagChar
    guard (!suffix.isEmpty && p.at? '>')
    return ((none, suffix), p.next)
  | _ :: r =>
    if endOr isGap r.head? then some ((none, ['!']), p.next)
    else
      let word := r.takeWhile fun c => c != ' ' && !isBreak c
      let handle :=
        if word.contains '!' then '!' :: word.takeWhile (· != '!') ++ ['!'] else ['!']
      let (suffix, p) := (p.skip handle.length).take isTagChar
      if suffix.isEmpty || !(handle.drop 1).dropLast.all isNameChar then none else some ((some handle, suffix), p)
  | [] => none

/-- A tag. -/
def tag? (s : Scan) : Option Scan := do
  let s ← s.keepKey?
  let ((handle, suffix), p) ← tagParts? s.spot
  guard (endOr (fun c => c == ' ' || isBreak c) p.head?)
  return push (.tag handle suffix) { s.goTo p with mayBeKey := false }

/-- A block scalar. -/
def block? (fold : Bool) (s : Scan) : Option Scan := do
  let s ← ({ s with mayBeKey := true }).dropKey?
  let (t, p) ← Yaml.block? fold (max 1 (s.indent + 1)).toNat s.spot
  return push (.scalar t false) (s.goTo p)

/-- A quoted scalar. -/
def quoted? (double : Bool) (s : Scan) : Option Scan := do
  let s ← s.keepKey?
  let (t, p) ← Yaml.quoted? double s.spot
  return push (.scalar t false) { s.goTo p with mayBeKey := false }

/-- A plain scalar. -/
def plain? (s : Scan) : Option Scan :=
  s.keepKey?.map fun s =>
    let (t, ended, p) := Yaml.plain (s.flow != 0) (s.indent + 1).toNat s.spot
    push (.scalar t true) { s.goTo p with mayBeKey := ended }

/-- Whether a plain scalar can begin with a character, given the one after it. -/
def beginsPlain (inFlow : Bool) (c : Char) (after : Option Char) : Bool :=
  if isGap c then false
  else if c == '-' || (!inFlow && (c == '?' || c == ':')) then !endOr isGap after
  else !"?:,[]\x7b\x7d#&*!|>'\"%@`".toList.contains c

/-- The state after the token that begins with a character. -/
def token? (c : Char) (s : Scan) : Option Scan :=
  let p := s.spot
  let alone := s.flow != 0 || endOr isGap (p.peek 1)
  if p.column = 0 && c == '%' then s.directive?
  else if p.column = 0 && p.seesMark '-' then s.documentMark? .documentStart
  else if p.column = 0 && p.seesMark '.' then s.documentMark? .documentEnd
  else if c == '[' then s.flowStart? .flowSequence
  else if c == '\x7b' then s.flowStart? .flowMapping
  else if c == ']' then s.flowEnd? .flowSequenceEnd
  else if c == '\x7d' then s.flowEnd? .flowMappingEnd
  else if c == ',' then s.comma?
  else if c == '-' && endOr isGap (p.peek 1) then s.entry?
  else if c == '?' && alone then s.key?
  else if c == ':' && alone then s.value?
  else if c == '*' then s.name? .reference
  else if c == '&' then s.name? .anchor
  else if c == '!' then s.tag?
  else if c == '|' && s.flow = 0 then s.block? false
  else if c == '>' && s.flow = 0 then s.block? true
  else if c == '\'' then s.quoted? false
  else if c == '"' then s.quoted? true
  else if beginsPlain (s.flow != 0) c (p.peek 1) then s.plain?
  else none

/-- The tokens from a state on; each one takes one unit of fuel. -/
def all? : Nat → Scan → Option (List Token)
  | 0, _ => none
  | n + 1, s => do
    let s ← (s.toToken (s.spot.rest.length + 1)).dropStale?
    let s := s.unwind s.spot.column
    match s.spot.head? with
    | some c => all? n (← s.token? c)
    | none =>
      let s ← s.afterAll?
      return s.tokens.reverse

end Scan

/-- The tokens of a text; a byte order mark at its start is passed over. -/
def tokens? (t : Text) : Option (List Token) :=
  let t := if t.head? == some '\ufeff' then t.drop 1 else t
  if t.all isPrintable then (Scan.start t).all? (t.length + 2) else none

end Excerpt.Yaml
