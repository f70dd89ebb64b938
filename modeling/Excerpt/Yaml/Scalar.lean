import Excerpt.Doc.Json
import Excerpt.Yaml.Spot

/-!
# Scalars of a YAML text

The texts of quoted, block and plain scalars. Line ends inside a quoted or plain scalar are folded: one becomes a blank,
and of several the first is left out.
-/

namespace Excerpt.Yaml

/-- One line end folded with the further ones after it. -/
def folded (first : Text) (further : List Text) : Text :=
  (if first != ['\n'] then first else if further.isEmpty then [' '] else []) ++ further.flatten

/-! ## Quoted scalars -/

/-- The further line ends in a quoted scalar, with the blanks around them passed over; a document mark may not stand
there. Each line takes one unit of fuel. -/
def quotedBreaks? : Nat → Spot → Option (List Text × Spot)
  | 0, _ => none
  | n + 1, s =>
    if s.seesDocumentMark then none
    else
      let s := s.skipWhile isBlank
      if s.sees isBreak then
        let (b, s) := s.lineBreak
        (quotedBreaks? n s).map fun (bs, s) => (b :: bs, s)
      else some ([], s)

/-- Blanks or line ends in a quoted scalar. -/
def quotedGap? (s : Spot) : Option (Text × Spot) :=
  let (blanks, s) := s.take isBlank
  match s.head? with
  | none => none
  | some c =>
    if isBreak c then
      let (b, s) := s.lineBreak
      (quotedBreaks? (s.rest.length + 1) s).map fun (bs, s) => (folded b bs, s)
    else some (blanks, s)

/-- The character that a short escape stands for. -/
def shortEscape? : Char → Option Char
  | '0' => some '\x00'
  | 'a' => some '\x07'
  | 'b' => some '\x08'
  | 't' | '\t' => some '\t'
  | 'n' => some '\n'
  | 'v' => some '\x0b'
  | 'f' => some '\x0c'
  | 'r' => some '\r'
  | 'e' => some '\x1b'
  | ' ' => some ' '
  | '"' => some '"'
  | '\\' => some '\\'
  | '/' => some '/'
  | 'N' => some '\x85'
  | '_' => some '\xa0'
  | 'L' => some '\u2028'
  | 'P' => some '\u2029'
  | _ => none

/-- The number of digits of a numbered escape. -/
def escapeWidth? : Char → Option Nat
  | 'x' => some 2
  | 'u' => some 4
  | 'U' => some 8
  | _ => none

/-- The value of hexadecimal digits. -/
def hexValue? (ds : Text) : Option Nat :=
  ds.foldlM (fun n c => (Json.hexValue? c).map fun d => n * 16 + d) 0

/-- What an escape stands for, after the backslash. -/
def escape? (s : Spot) : Option (Text × Spot) := do
  let c ← s.head?
  match shortEscape? c, escapeWidth? c with
  | some e, _ => return ([e], s.next)
  | none, some width =>
    let digits := s.next.rest.take width
    guard (digits.length == width)
    let n ← hexValue? digits
    return ([if n.isValidChar then Char.ofNat n else '\ufffd'], s.next.skip width)
  | none, none =>
    guard (isBreak c)
    let (_, s) := s.lineBreak
    let (bs, s) ← quotedBreaks? (s.rest.length + 1) s
    return (bs.flatten, s)

/-- The text of a quoted scalar after its opening quote, and the spot after the closing one; each step takes one unit of
fuel. -/
def quotedWith? (double : Bool) : Nat → Spot → Option (Text × Spot)
  | 0, _ => none
  | n + 1, s => do
    let c ← s.head?
    if c == (if double then '"' else '\'') then
      if !double && s.peek 1 == some '\'' then
        let (t, s) ← quotedWith? double n (s.skip 2)
        return ('\'' :: t, s)
      else return ([], s.next)
    else if double && c == '\\' then
      let (e, s) ← escape? s.next
      let (t, s) ← quotedWith? double n s
      return (e ++ t, s)
    else if isGap c then
      let (g, s) ← quotedGap? s
      let (t, s) ← quotedWith? double n s
      return (g ++ t, s)
    else
      let (t, s) ← quotedWith? double n s.next
      return (c :: t, s)

/-- The text of a quoted scalar that begins at the spot. -/
def quoted? (double : Bool) (s : Spot) : Option (Text × Spot) :=
  quotedWith? double (s.rest.length + 1) s.next

/-! ## Block scalars -/

/-- What becomes of the line ends at the end of a block scalar. -/
inductive Chomping where
  | strip
  | clip
  | keep
deriving DecidableEq, Repr

/-- The chomping that a sign stands for. -/
def chomping? (s : Spot) : Option Chomping :=
  match s.head? with
  | some '+' => some .keep
  | some '-' => some .strip
  | _ => none

/-- The indentation that a digit stands for; zero is none. -/
def increment? (s : Spot) : Option (Option Nat) :=
  match s.head? with
  | some c => if c.isDigit then (if c == '0' then none else some (some (c.toNat - 48))) else some none
  | none => some none

/-- The signs after the start of a block scalar, in either order. -/
def blockSigns? (s : Spot) : Option ((Chomping × Option Nat) × Spot) := do
  match chomping? s with
  | some c =>
    let i ← increment? s.next
    let s := if i.isSome then s.next.next else s.next
    guard (endOr (fun c => c == ' ' || isBreak c) s.head?)
    return ((c, i), s)
  | none =>
    let i ← increment? s
    let s := if i.isSome then s.next else s
    let c := if i.isSome then chomping? s else none
    let s := if c.isSome then s.next else s
    guard (endOr (fun c => c == ' ' || isBreak c) s.head?)
    return ((c.getD .clip, i), s)

/-- The spot on the line after the signs of a block scalar, where only a comment may stand. -/
def afterSigns? (s : Spot) : Option Spot := do
  let s := s.skipWhile (· == ' ')
  let s := if s.at? '#' then s.skipWhile (!isBreak ·) else s
  guard (endOr isBreak s.head?)
  return s.lineBreak.2

/-- The empty lines before a block scalar, and the greatest indentation met; each character takes one unit of fuel. -/
def leadingLines : Nat → Nat → Spot → List Text × Nat × Spot
  | 0, most, s => ([], most, s)
  | n + 1, most, s =>
    if s.at? ' ' then
      let s := s.next
      leadingLines n (max most s.column) s
    else if s.sees isBreak then
      let (b, s) := s.lineBreak
      let (bs, most, s) := leadingLines n most s
      (b :: bs, most, s)
    else ([], most, s)

/-- The spot after blanks up to a column. -/
def indented (column : Nat) (s : Spot) : Spot :=
  s.skip (min (s.rest.takeWhile (· == ' ')).length (column - s.column))

/-- The empty lines inside a block scalar; each line takes one unit of fuel. -/
def emptyLines (column : Nat) : Nat → Spot → List Text × Spot
  | 0, s => ([], s)
  | n + 1, s =>
    let s := indented column s
    if s.sees isBreak then
      let (b, s) := s.lineBreak
      let (bs, s) := emptyLines column n s
      (b :: bs, s)
    else ([], s)

/-- Whether a line of a block scalar is at the spot. -/
def hasLine (column : Nat) (s : Spot) : Bool :=
  s.column == column && !s.rest.isEmpty

/-- The lines of a block scalar, `before` being the empty ones in front; then the last line end and the empty lines at
the end. Each line takes one unit of fuel. -/
def blockLines (fold : Bool) (column : Nat) : Nat → List Text → Spot → Text × Text × List Text × Spot
  | 0, before, s => ([], [], before, s)
  | n + 1, before, s =>
    let plain := !s.sees isBlank
    let (line, s) := s.take (!isBreak ·)
    let (b, s) := s.lineBreak
    let (empty, s) := emptyLines column (s.rest.length + 1) s
    if hasLine column s then
      let joint := if fold && b == ['\n'] && plain && !s.sees isBlank then (if empty.isEmpty then [' '] else []) else b
      let (t, last, ends, s) := blockLines fold column n empty s
      (before.flatten ++ line ++ joint ++ t, last, ends, s)
    else (before.flatten ++ line, b, empty, s)

/-- The text of a block scalar that begins at the spot, `least` being the least indentation of its lines. -/
def block? (fold : Bool) (least : Nat) (s : Spot) : Option (Text × Spot) := do
  let ((chomping, increment), s) ← blockSigns? s.next
  let s ← afterSigns? s
  let (before, column, s) :=
    match increment with
    | some i =>
      let (bs, s) := emptyLines (least + i - 1) (s.rest.length + 1) s
      (bs, least + i - 1, s)
    | none =>
      let (bs, most, s) := leadingLines s.rest.length 0 s
      (bs, max least most, s)
  let (t, last, ends, s) :=
    if hasLine column s then blockLines fold column (s.rest.length + 1) before s else ([], [], before, s)
  let tail :=
    match chomping with
    | .strip => []
    | .clip => last
    | .keep => last ++ ends.flatten
  return (t ++ tail, s)

/-! ## Plain scalars -/

/-- Whether a character ends a run of a plain scalar, given the one after it. -/
def endsPlain (inFlow : Bool) (c : Char) (after : Option Char) : Bool :=
  isGap c || (c == ':' && endOr (fun d => isGap d || (inFlow && [',', '[', ']', '\x7b', '\x7d'].contains d)) after) ||
    (inFlow && [',', '?', '[', ']', '\x7b', '\x7d'].contains c)

/-- The length of the run of a plain scalar at the start of a text. -/
def plainRun (inFlow : Bool) : Text → Nat
  | [] => 0
  | c :: r => if endsPlain inFlow c r.head? then 0 else plainRun inFlow r + 1

/-- The further line ends in a plain scalar, or nothing where a document mark stands; each character takes one unit of
fuel. -/
def plainBreaks? : Nat → Spot → Option (List Text) × Spot
  | 0, s => (some [], s)
  | n + 1, s =>
    if s.at? ' ' then plainBreaks? n s.next
    else if s.sees isBreak then
      let (b, s) := s.lineBreak
      if s.seesDocumentMark then (none, s)
      else
        let (bs, s) := plainBreaks? n s
        (bs.map (b :: ·), s)
    else (some [], s)

/-- The blanks or line ends after a run of a plain scalar, nothing if the scalar ends there; whether a line has ended;
and the spot after them. -/
def plainGap (s : Spot) : Text × Bool × Spot :=
  let (blanks, s) := s.take (· == ' ')
  if s.sees isBreak then
    let (b, s) := s.lineBreak
    if s.seesDocumentMark then ([], true, s)
    else
      match plainBreaks? (s.rest.length + 1) s with
      | (some bs, s) => (folded b bs, true, s)
      | (none, s) => ([], true, s)
  else (blanks, false, s)

/-- The text of a plain scalar, whether a line has ended after its last run, and the spot after it; `column` is the
least column of its further lines, and each run takes one unit of fuel. -/
def plainWith (inFlow : Bool) (column : Nat) : Nat → Text → Bool → Spot → Text × Bool × Spot
  | 0, _, ended, s => ([], ended, s)
  | n + 1, before, ended, s =>
    let length := if s.at? '#' then 0 else plainRun inFlow s.rest
    if length = 0 then ([], ended, s)
    else
      let run := s.rest.take length
      let (gap, ended, s) := plainGap (s.skip length)
      if gap.isEmpty || s.at? '#' || (!inFlow && s.column < column) then (before ++ run, ended, s)
      else
        let (t, ended, s) := plainWith inFlow column n gap ended s
        (before ++ run ++ t, ended, s)

/-- The text of a plain scalar that begins at the spot, and whether a line has ended after it. -/
def plain (inFlow : Bool) (column : Nat) (s : Spot) : Text × Bool × Spot :=
  plainWith inFlow column (s.rest.length + 1) [] false s

end Excerpt.Yaml
