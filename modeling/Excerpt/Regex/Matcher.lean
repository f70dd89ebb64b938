import Excerpt.Regex.Fold

/-!
# Matching

A matcher takes a position and what is to be matched after it, and gives the first way in which both succeed. The order
of the ways is that of backtracking: the first branch of a choice before the second, more repetitions before fewer for a
greedy loop and fewer before more for a lazy one.

An optional repetition starts only where the one before it did not start, so that a loop over an empty match ends.
-/

namespace Excerpt

/-- A position in a text, with what the groups have captured so far, latest first. -/
structure Cursor where
  before : Text
  after : Text
  place : Nat
  captures : List (Nat × Text)

namespace Cursor

/-- The start of a text. -/
def start (t : Text) : Cursor :=
  ⟨[], t, 0, []⟩

/-- What a group has captured last. -/
def capture? (c : Cursor) (n : Nat) : Option Text :=
  c.captures.lookup n

/-- The position after one more character. -/
def step (c : Cursor) (x : Char) (rest : Text) : Cursor :=
  { c with before := x :: c.before, after := rest, place := c.place + 1 }

/-- The position `n` characters earlier. -/
def back? : Nat → Cursor → Option Cursor
  | 0, c => some c
  | n + 1, c =>
    match c.before with
    | [] => none
    | x :: xs => back? n { c with before := xs, after := x :: c.after, place := c.place - 1 }

/-- The position after a text, compared under a rule for case. -/
def skip? (rule : CaseRule) : Text → Cursor → Option Cursor
  | [], c => some c
  | x :: xs, c =>
    match c.after with
    | [] => none
    | y :: rest => if rule.same x y then skip? rule xs (c.step y rest) else none

/-- Whether exactly one side of the position is a word character; never in an empty text. -/
def atWordEdge (asciiOnly : Bool) (c : Cursor) : Bool :=
  let isWord := fun x : Char => CharKind.word.holds asciiOnly x
  (c.before.head?.map isWord).getD false != (c.after.head?.map isWord).getD false

/-- Whether the text as a whole is empty. -/
def inEmptyText (c : Cursor) : Bool :=
  c.before.isEmpty && c.after.isEmpty

end Cursor

/-- Whether the condition holds at the position. -/
def Anchor.holds (c : Cursor) : Anchor → Bool
  | .textStart => c.before.isEmpty
  | .textEnd => c.after.isEmpty
  | .lineStart => c.before.isEmpty || c.before.head? == some '\n'
  | .lineEnd => c.after.isEmpty || c.after.head? == some '\n'
  | .lastLineEnd => c.after.isEmpty || c.after == ['\n']
  | .wordEdge asciiOnly => !c.inEmptyText && c.atWordEdge asciiOnly
  | .notWordEdge asciiOnly => !c.inEmptyText && !c.atWordEdge asciiOnly

namespace Regex

/-- What follows a match, as a function of the position after it. -/
abbrev Next := Cursor → Option Cursor

/-- Whether one more repetition is allowed after `count`. -/
def hasRoom (count : Nat) : Option Nat → Bool
  | none => true
  | some most => count < most

/-- Repetitions, as many as possible first. -/
def greedyLoop (body : Next → Next) (least : Nat) (most : Option Nat) (next : Next) :
    Nat → Nat → Option Nat → Next
  | 0, _, _, _ => none
  | fuel + 1, count, last, c =>
    if count < least then body (greedyLoop body least most next fuel (count + 1) last) c
    else if hasRoom count most && last != some c.place then
      match body (greedyLoop body least most next fuel (count + 1) (some c.place)) c with
      | some r => some r
      | none => next c
    else next c

/-- Repetitions, as few as possible first. -/
def lazyLoop (body : Next → Next) (least : Nat) (most : Option Nat) (next : Next) :
    Nat → Nat → Option Nat → Next
  | 0, _, _, _ => none
  | fuel + 1, count, last, c =>
    if count < least then body (lazyLoop body least most next fuel (count + 1) last) c
    else
      match next c with
      | some r => some r
      | none =>
        if hasRoom count most && last != some c.place then
          body (lazyLoop body least most next fuel (count + 1) (some c.place)) c
        else none

/-- Repetitions of the first match of the body, as many as there are, and none of them taken back. -/
def possessiveLoop (body : Next → Next) (least : Nat) (most : Option Nat) : Nat → Nat → Option Nat → Next
  | 0, _, _, _ => none
  | fuel + 1, count, last, c =>
    if count < least then
      match body some c with
      | some r => possessiveLoop body least most fuel (count + 1) last r
      | none => none
    else if hasRoom count most && last != some c.place then
      match body some c with
      | some r => possessiveLoop body least most fuel (count + 1) (some c.place) r
      | none => some c
    else some c

/-- The first way to match the expression at a position and what follows after it. -/
def run : Regex → Next → Next
  | .empty, next, c => next c
  | .any newlines, next, c =>
    match c.after with
    | [] => none
    | x :: rest => if newlines || x != '\n' then next (c.step x rest) else none
  | .set s, next, c =>
    match c.after with
    | [] => none
    | x :: rest => if s.holds x then next (c.step x rest) else none
  | .anchor a, next, c => if a.holds c then next c else none
  | .seq a b, next, c => a.run (b.run next) c
  | .alt a b, next, c =>
    match a.run next c with
    | some r => some r
    | none => b.run next c
  | .group none a, next, c => a.run next c
  | .group (some n) a, next, c =>
    a.run (fun d => next { d with captures := (n, c.after.take (d.place - c.place)) :: d.captures }) c
  | .loop least most .greedy a, next, c =>
    greedyLoop a.run least most next (least + c.after.length + 2) 0 none c
  | .loop least most .lazy a, next, c =>
    lazyLoop a.run least most next (least + c.after.length + 2) 0 none c
  | .loop least most .possessive a, next, c =>
    match possessiveLoop a.run least most (least + c.after.length + 2) 0 none c with
    | some r => next r
    | none => none
  | .backref n rule, next, c =>
    match c.capture? n with
    | none => none
    | some t =>
      match c.skip? rule t with
      | some d => next d
      | none => none
  | .ahead negated a, next, c =>
    match a.run some c with
    | some d => if negated then none else next { c with captures := d.captures }
    | none => if negated then next c else none
  | .behind negated n a, next, c =>
    match (c.back? n).bind (a.run some) with
    | some d => if negated then none else next { c with captures := d.captures }
    | none => if negated then next c else none
  | .atomic a, next, c =>
    match a.run some c with
    | some d => next d
    | none => none
  | .ifGroup n a b, next, c =>
    match c.capture? n with
    | some _ => a.run next c
    | none => b.run next c

end Regex

/-- A compiled expression with the number of its groups. -/
structure Pattern where
  regex : Regex
  groups : Nat
deriving DecidableEq, Repr

/-- An occurrence in a text: its place, what stands before it, the matched text, what follows, and the captures. -/
structure Occurrence where
  place : Nat
  before : Text
  matched : Text
  after : Text
  captures : List (Nat × Text)

/-- What a group stands for, nothing if it took no part; group 0 is the whole occurrence. -/
def Occurrence.group (o : Occurrence) (n : Nat) : Text :=
  if n = 0 then o.matched else (o.captures.lookup n).getD []

namespace Pattern

/-- Whether the expression matches the whole text. -/
def fullMatch (p : Pattern) (t : Text) : Bool :=
  (p.regex.run (fun c => if c.after.isEmpty then some c else none) (.start t)).isSome

/-- An occurrence that starts at the position; not an empty one if `nonempty`. -/
def matchAt? (p : Pattern) (nonempty : Bool) (c : Cursor) : Option Occurrence :=
  (p.regex.run (fun d => if nonempty && d.place == c.place then none else some d) c).map fun d =>
    ⟨c.place, c.before, c.after.take (d.place - c.place), d.after, d.captures⟩

/-- The first occurrence at the position or after it; at the position itself not an empty one if `nonempty`. -/
def findFrom? (p : Pattern) (nonempty : Bool) (before : Text) (place : Nat) : Text → Option Occurrence
  | [] => p.matchAt? nonempty ⟨before, [], place, []⟩
  | x :: rest =>
    match p.matchAt? nonempty ⟨before, x :: rest, place, []⟩ with
    | some o => some o
    | none => findFrom? p false (x :: before) (place + 1) rest

/-- The first occurrence in a text. -/
def find? (p : Pattern) (t : Text) : Option Occurrence :=
  p.findFrom? false [] 0 t

/-- Whether the expression occurs in a text. -/
def occursIn (p : Pattern) (t : Text) : Bool :=
  (p.find? t).isSome

/-- The rest of a text with occurrences replaced, at most `limit` of them if there is a limit. No two
empty occurrences stand at one place. -/
def replaceFrom (p : Pattern) (new : Occurrence → Text) :
    Nat → Option Nat → Bool → Text → Nat → Text → Text
  | 0, _, _, _, _, rest => rest
  | fuel + 1, limit, afterEmpty, before, place, rest =>
    if limit = some 0 then rest
    else
      match p.findFrom? afterEmpty before place rest with
      | none => rest
      | some o =>
        let skipped := rest.take (o.place - place)
        skipped ++ new o ++
          replaceFrom p new fuel (limit.map (· - 1)) o.matched.isEmpty (o.matched.reverse ++ o.before)
            (o.place + o.matched.length) o.after

/-- The text with its occurrences replaced, at most `limit` of them if there is a limit. -/
def replace (p : Pattern) (limit : Option Nat) (new : Occurrence → Text) (t : Text) : Text :=
  p.replaceFrom new (2 * t.length + 2) limit false [] 0 t

end Pattern

end Excerpt
