import Excerpt.Yaml.Token

/-!
# Trees of a YAML text

The tokens of one document form a tree of scalars, sequences and mappings, each with the tag it was given. A reference
stands for the tree that its anchor was put on before.
-/

namespace Excerpt.Yaml

/-- A tree of a document. -/
inductive Tree where
  | scalar (tag : Option Text) (plain : Bool) (text : Text)
  | sequence (tag : Option Text) (items : List Tree)
  | mapping (tag : Option Text) (pairs : List (Tree × Tree))
deriving Repr, Inhabited

/-- The tokens to be read and the anchors met. -/
structure Source where
  tokens : List Token
  anchors : List (Text × Tree)

namespace Source

/-- The source after one token. -/
def next (s : Source) : Source :=
  { s with tokens := s.tokens.drop 1 }

/-- Whether the next token is one of the given ones; there need not be one. -/
def sees (s : Source) (ts : List Token) : Bool :=
  match s.tokens.head? with
  | some t => ts.contains t
  | none => false

/-- The source after a token that has to be next. -/
def expect? (t : Token) (s : Source) : Option Source :=
  if s.sees [t] then some s.next else none

end Source

namespace Tree

/-- A value that is not there. -/
def absent : Tree :=
  .scalar none true []

/-- The start of the tags of the core types. -/
def corePrefix : Text :=
  "tag:yaml.org,2002:".toList

/-- The full form of a tag; only the two standard handles are known. -/
def fullTag? : Option Text → Text → Option Text
  | none, suffix => some suffix
  | some ['!'], suffix => some ('!' :: suffix)
  | some ['!', '!'], suffix => some (corePrefix ++ suffix)
  | some _, _ => none

/-- The anchor and the tag in front of a node, in either order, each at most once; `n` bounds their number. -/
def properties? : Nat → Option Text → Option Text → Source → Option ((Option Text × Option Text) × Source)
  | 0, anchor, tag, s => some ((anchor, tag), s)
  | n + 1, anchor, tag, s =>
    match s.tokens.head?, anchor, tag with
    | some (.anchor name), none, tag => properties? n (some name) tag s.next
    | some (.tag handle suffix), anchor, none => do
      let full ← fullTag? handle suffix
      properties? n anchor (some full) s.next
    | _, anchor, tag => some ((anchor, tag), s)

/-- The source with an anchor on a tree; an anchor may be used once. -/
def anchored? (anchor : Option Text) (t : Tree) (s : Source) : Option (Tree × Source) :=
  match anchor with
  | none => some (t, s)
  | some name =>
    if (s.anchors.lookup name).isSome then none else some (t, { s with anchors := (name, t) :: s.anchors })

/-- Tokens before which the value of an entry in a flow sequence is absent. -/
def endsFlowItem : List Token :=
  [.comma, .flowSequenceEnd]

/-- Tokens before which the value of an entry in a flow mapping is absent. -/
def endsFlowPair : List Token :=
  [.comma, .flowMappingEnd]

/-- Where a node may stand: in a flow collection, in a block, or in a block where a sequence need not be deeper. -/
inductive Position where
  | flow
  | block
  | besideKey
deriving DecidableEq, Repr

mutual

/-- A node; each node and each entry of a collection takes one unit of fuel. -/
def node? : Nat → Position → Source → Option (Tree × Source)
  | 0, _, _ => none
  | n + 1, position, s =>
    match s.tokens.head? with
    | some (.reference name) => do return (← s.anchors.lookup name, s.next)
    | _ => do
      let ((anchor, tag), s) ← properties? 2 none none s
      let inBlock := position != .flow
      match s.tokens.head? with
      | some (.scalar text plain) =>
        anchored? anchor (.scalar tag plain text) s.next
      | some .flowSequence =>
        let (ts, s) ← flowItems? n true s.next
        anchored? anchor (.sequence tag ts) s
      | some .flowMapping =>
        let (ps, s) ← flowPairs? n true s.next
        anchored? anchor (.mapping tag ps) s
      | token =>
        if position == .besideKey && token == some .entry then
          let (ts, s) ← looseItems? n s
          anchored? anchor (.sequence tag ts) s
        else if inBlock && token == some .blockSequence then
          let (ts, s) ← blockItems? n s.next
          anchored? anchor (.sequence tag ts) s
        else if inBlock && token == some .blockMapping then
          let (ps, s) ← blockPairs? n s.next
          anchored? anchor (.mapping tag ps) s
        else if anchor.isSome || tag.isSome then anchored? anchor (.scalar tag true []) s
        else none

/-- A node, or an absent value where one of the given tokens or the end is next. -/
def nodeUnless? : Nat → Position → List Token → Source → Option (Tree × Source)
  | 0, _, _, _ => none
  | n + 1, position, ends, s => if s.sees ends then some (absent, s) else node? n position s

/-- The value after a key, absent without a colon. -/
def valueAfter? : Nat → Position → List Token → Source → Option (Tree × Source)
  | 0, _, _, _ => none
  | n + 1, position, ends, s =>
    if s.sees [.value] then nodeUnless? n position ends s.next else some (absent, s)

/-- The items of a block sequence, up to its end. -/
def blockItems? : Nat → Source → Option (List Tree × Source)
  | 0, _ => none
  | n + 1, s =>
    if s.sees [.entry] then do
      let (t, s) ← nodeUnless? n .block [.entry, .blockEnd] s.next
      let (ts, s) ← blockItems? n s
      return (t :: ts, s)
    else do return ([], ← s.expect? .blockEnd)

/-- The items of a sequence that is not deeper than its key. -/
def looseItems? : Nat → Source → Option (List Tree × Source)
  | 0, _ => none
  | n + 1, s =>
    if s.sees [.entry] then do
      let (t, s) ← nodeUnless? n .block [.entry, .key, .value, .blockEnd] s.next
      let (ts, s) ← looseItems? n s
      return (t :: ts, s)
    else some ([], s)

/-- The pairs of a block mapping, up to its end. -/
def blockPairs? : Nat → Source → Option (List (Tree × Tree) × Source)
  | 0, _ => none
  | n + 1, s =>
    if s.sees [.key] then do
      let (k, s) ← nodeUnless? n .besideKey [.key, .value, .blockEnd] s.next
      let (v, s) ← valueAfter? n .besideKey [.key, .value, .blockEnd] s
      let (ps, s) ← blockPairs? n s
      return ((k, v) :: ps, s)
    else do return ([], ← s.expect? .blockEnd)

/-- The items of a flow sequence, up to its end; a pair stands for a mapping with one entry. -/
def flowItems? : Nat → Bool → Source → Option (List Tree × Source)
  | 0, _, _ => none
  | n + 1, first, s =>
    if s.sees [.flowSequenceEnd] then some ([], s.next)
    else do
      let s ← if first then some s else s.expect? .comma
      if s.sees [.flowSequenceEnd] then return ([], s.next)
      else if s.sees [.key] then
        let (k, s) ← nodeUnless? n .flow (.value :: endsFlowItem) s.next
        let (v, s) ← valueAfter? n .flow endsFlowItem s
        let (ts, s) ← flowItems? n false s
        return (.mapping none [(k, v)] :: ts, s)
      else
        let (t, s) ← node? n .flow s
        let (ts, s) ← flowItems? n false s
        return (t :: ts, s)

/-- The pairs of a flow mapping, up to its end; a node without a colon is a key without a value. -/
def flowPairs? : Nat → Bool → Source → Option (List (Tree × Tree) × Source)
  | 0, _, _ => none
  | n + 1, first, s =>
    if s.sees [.flowMappingEnd] then some ([], s.next)
    else do
      let s ← if first then some s else s.expect? .comma
      if s.sees [.flowMappingEnd] then return ([], s.next)
      else if s.sees [.key] then
        let (k, s) ← nodeUnless? n .flow (.value :: endsFlowPair) s.next
        let (v, s) ← valueAfter? n .flow endsFlowPair s
        let (ps, s) ← flowPairs? n false s
        return ((k, v) :: ps, s)
      else
        let (k, s) ← node? n .flow s
        let (ps, s) ← flowPairs? n false s
        return ((k, absent) :: ps, s)

end

/-! ## Documents -/

/-- Whether a token is a directive. -/
def isDirective : Token → Bool
  | .directive _ => true
  | _ => false

/-- Whether the version that a directive names can be read; the other directives are passed over. -/
def isKnownDirective : Token → Bool
  | .directive [['Y', 'A', 'M', 'L'], version] => version.takeWhile (· != '.') == ['1']
  | .directive [['Y', 'A', 'M', 'L']] => false
  | _ => true

/-- The one document of some tokens, or nothing if there is none. -/
def ofTokens? (ts : List Token) : Option (Option Tree) := do
  let fuel := 4 * ts.length + 4
  let (directives, ts) := ts.span isDirective
  guard (directives.all isKnownDirective)
  match ts with
  | [] => if directives.isEmpty then some none else none
  | .documentStart :: ts =>
    let bare := ts.head?.isNone || ts.head? == some .documentEnd || ts.head? == some .documentStart
    let (t, s) ← if bare then some (absent, ⟨ts, []⟩) else node? fuel .block ⟨ts, []⟩
    guard (s.tokens.all (· == .documentEnd))
    return some t
  | ts =>
    guard directives.isEmpty
    let (t, s) ← node? fuel .block ⟨ts, []⟩
    guard (s.tokens.all (· == .documentEnd))
    return some t

end Tree

end Excerpt.Yaml
