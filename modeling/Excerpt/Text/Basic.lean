import Excerpt.Text.ClassTable

/-!
# Text

A text is its list of characters. This module holds the character classes and the operations that the rest of the
library is written in: trimming, splitting at a character, joining, collapsing white space, and cutting off a prefix.
-/

namespace Excerpt

/-- A text as the list of its characters. -/
abbrev Text := List Char

namespace Text

/-! ## Character classes -/

/-- White space in the sense of Unicode, the four ASCII separators included. -/
def isSpace (c : Char) : Bool :=
  let n := c.toNat
  (9 ≤ n && n ≤ 13) || (28 ≤ n && n ≤ 32) || n == 0x85 || n == 0xA0 || n == 0x1680 || (0x2000 ≤ n && n ≤ 0x200A) ||
    n == 0x2028 || n == 0x2029 || n == 0x202F || n == 0x205F || n == 0x3000

/-- Letters and numbers. -/
def isAlphanumeric (c : Char) : Bool :=
  if c.toNat < 128 then c.isAlphanum else inRuns alphanumericRuns c.toNat

/-- Letters, numbers and the underscore. -/
def isWord (c : Char) : Bool :=
  c == '_' || isAlphanumeric c

/-- Decimal digits of every script. -/
def isDecimal (c : Char) : Bool :=
  if c.toNat < 128 then c.isDigit else inRuns decimalRuns c.toNat

/-- The place of a code point in its run. -/
def runOffset : List Nat → Nat → Nat
  | gap :: run :: rest, n => if n < gap + run then n - gap else runOffset rest (n - gap - run)
  | _, n => n

/-- The value of a decimal digit. -/
def decimalValue (c : Char) : Nat :=
  runOffset decimalRuns c.toNat % 10

/-- Characters that are shown as themselves when a text is quoted. -/
def isPrintable (c : Char) : Bool :=
  if c.toNat < 128 then 32 ≤ c.toNat && c.toNat < 127 else inRuns printableRuns c.toNat

/-- Characters that an identifier may begin with. -/
def isIdentifierStart (c : Char) : Bool :=
  if c.toNat < 128 then c.isAlpha || c == '_' else inRuns identifierStartRuns c.toNat

/-- Characters of identifiers. -/
def isIdentifierChar (c : Char) : Bool :=
  if c.toNat < 128 then c.isAlphanum || c == '_' else inRuns identifierRuns c.toNat

/-- Whether the text is an identifier. -/
def isIdentifier : Text → Bool
  | [] => false
  | c :: cs => isIdentifierStart c && cs.all isIdentifierChar

/-- Characters that are written from left to right. -/
def isLeftToRight (c : Char) : Bool :=
  inRuns leftToRightRuns c.toNat

/-- Characters that are written from right to left. -/
def isRightToLeft (c : Char) : Bool :=
  inRuns rightToLeftRuns c.toNat

/-! ## Trimming -/

/-- The text without the leading characters of the class. -/
def trimStart (p : Char → Bool) (t : Text) : Text :=
  t.dropWhile p

/-- The text without the trailing characters of the class. -/
def trimEnd (p : Char → Bool) : Text → Text
  | [] => []
  | c :: cs =>
    match trimEnd p cs with
    | [] => if p c then [] else [c]
    | r => c :: r

/-- The text without the characters of the class at either end. -/
def trimBy (p : Char → Bool) (t : Text) : Text :=
  trimEnd p (trimStart p t)

/-- The text without white space at either end. -/
def trim (t : Text) : Text :=
  trimBy isSpace t

/-- Whether nothing but white space stands in the text. -/
def isBlank (t : Text) : Bool :=
  t.all isSpace

/-- Each run of white space becomes one blank; `inRun` says that the last character read was white space. -/
def collapseFrom (inRun : Bool) : Text → Text
  | [] => []
  | c :: cs =>
    if isSpace c then
      if inRun then collapseFrom true cs else ' ' :: collapseFrom true cs
    else c :: collapseFrom false cs

/-- Each run of white space becomes one blank, and none is left at the ends. -/
def collapse (t : Text) : Text :=
  trim (collapseFrom false t)

/-! ## Splitting and joining -/

/-- The pieces between the separators, at least one. -/
def splitOn (sep : Char) : Text → List Text
  | [] => [[]]
  | c :: cs =>
    if c = sep then [] :: splitOn sep cs
    else
      match splitOn sep cs with
      | [] => [[c]]
      | w :: ws => (c :: w) :: ws

/-- The words between runs of white space, none of them empty. -/
def words (t : Text) : List Text :=
  let rec go : Text → List Text
    | [] => [[]]
    | c :: cs =>
      if isSpace c then [] :: go cs
      else
        match go cs with
        | [] => [[c]]
        | w :: ws => (c :: w) :: ws
  (go t).filter (fun w => !w.isEmpty)

/-- The texts with the separator between them. -/
def join (sep : Text) : List Text → Text
  | [] => []
  | [t] => t
  | t :: ts => t ++ sep ++ join sep ts

/-- The parts before and after the first separator, or `none` without one. -/
def cut? (sep : Char) : Text → Option (Text × Text)
  | [] => none
  | c :: cs => if c = sep then some ([], cs) else (cut? sep cs).map fun (a, b) => (c :: a, b)

/-- What follows the given beginning. -/
def dropPrefix? : Text → Text → Option Text
  | [], t => some t
  | _ :: _, [] => none
  | p :: ps, c :: cs => if p = c then dropPrefix? ps cs else none

/-- Whether the text begins with the first argument. -/
def startsWith (p t : Text) : Bool :=
  (dropPrefix? p t).isSome

/-- Whether the text holds the first argument somewhere. -/
def includes (p : Text) : Text → Bool
  | [] => p.isEmpty
  | c :: cs => startsWith p (c :: cs) || includes p cs

/-- Whether the text ends with the character. -/
def endsWith (c : Char) (t : Text) : Bool :=
  t.getLast? == some c

/-- The text with every occurrence of `old` taken out, read from the left. -/
def erase (old : Text) (t : Text) : Text :=
  go t.length t
where
  go : Nat → Text → Text
    | 0, t => t
    | _ + 1, [] => []
    | n + 1, c :: cs =>
      match dropPrefix? old (c :: cs) with
      | some rest => if old.isEmpty then c :: go n cs else go n rest
      | none => c :: go n cs

/-- The text with each occurrence of one character replaced by a text. -/
def replaceChar (c : Char) (new : Text) (t : Text) : Text :=
  t.flatMap fun d => if d = c then new else [d]

/-! ## Numbers -/

/-- The digits of a number in base ten. -/
def ofNat (n : Nat) : Text :=
  Nat.toDigits 10 n

/-- The value of a run of decimal digits. -/
def natValue (t : Text) : Nat :=
  t.foldl (fun n c => 10 * n + decimalValue c) 0

end Text

end Excerpt
