import Excerpt.Text.Basic

/-!
# Places in a YAML text

A spot is what is left to read of a text, with the number of characters, lines and columns passed.
-/

namespace Excerpt.Yaml

/-- A place in a text. -/
structure Spot where
  rest : Text
  index : Nat
  line : Nat
  column : Nat
deriving DecidableEq, Repr

/-- Characters that end a line. -/
def isBreak (c : Char) : Bool :=
  c == '\n' || c == '\r' || c == '\x85' || c == '\u2028' || c == '\u2029'

/-- Blanks and tabs. -/
def isBlank (c : Char) : Bool :=
  c == ' ' || c == '\t'

/-- Blanks, tabs and line ends. -/
def isGap (c : Char) : Bool :=
  isBlank c || isBreak c

/-- Whether a character is there and has the property, or the text has ended. -/
def endOr (p : Char → Bool) (c : Option Char) : Bool :=
  (c.map p).getD true

/-- Characters that a text may hold. -/
def isPrintable (c : Char) : Bool :=
  let n := c.toNat
  n == 9 || n == 10 || n == 13 || (0x20 ≤ n && n ≤ 0x7E) || n == 0x85 || (0xA0 ≤ n && n ≤ 0xFFFD) || 0x10000 ≤ n

namespace Spot

/-- The start of a text. -/
def start (t : Text) : Spot :=
  ⟨t, 0, 0, 0⟩

/-- The character at a distance. -/
def peek (s : Spot) (i : Nat) : Option Char :=
  s.rest[i]?

/-- The next character. -/
def head? (s : Spot) : Option Char :=
  s.rest.head?

/-- Whether the next character is the given one. -/
def at? (s : Spot) (c : Char) : Bool :=
  s.rest.head? == some c

/-- Whether the next character has a property. -/
def sees (s : Spot) (p : Char → Bool) : Bool :=
  (s.rest.head?.map p).getD false

/-- The spot after one character; a carriage return and a line feed after it end one line. -/
def next (s : Spot) : Spot :=
  match s.rest with
  | [] => s
  | c :: r =>
    if isBreak c && !(c == '\r' && r.head? == some '\n') then ⟨r, s.index + 1, s.line + 1, 0⟩
    else ⟨r, s.index + 1, s.line, if c == '\ufeff' then s.column else s.column + 1⟩

/-- The spot after several characters. -/
def skip : Nat → Spot → Spot
  | 0, s => s
  | n + 1, s => skip n s.next

/-- The leading characters with a property, and the spot after them. -/
def take (p : Char → Bool) (s : Spot) : Text × Spot :=
  let t := s.rest.takeWhile p
  (t, s.skip t.length)

/-- The spot after the leading characters with a property. -/
def skipWhile (p : Char → Bool) (s : Spot) : Spot :=
  (s.take p).2

/-- The line end at the spot, as it counts in a text, and the spot after it. -/
def lineBreak (s : Spot) : Text × Spot :=
  match s.rest with
  | '\r' :: '\n' :: _ => (['\n'], s.skip 2)
  | c :: _ =>
    if c == '\u2028' || c == '\u2029' then ([c], s.next)
    else if isBreak c then (['\n'], s.next)
    else ([], s)
  | [] => ([], s)

/-- Whether a mark of three characters with a gap or the end after it stands here. -/
def seesMark (s : Spot) (c : Char) : Bool :=
  s.rest.take 3 == [c, c, c] && endOr isGap (s.peek 3)

/-- Whether the start or the end of a document stands here. -/
def seesDocumentMark (s : Spot) : Bool :=
  s.seesMark '-' || s.seesMark '.'

end Spot

end Excerpt.Yaml
