import Excerpt.Text.Basic
import Excerpt.Text.CharNameTable

/-!
# Names of characters

Most characters are named in a table, and some have other names besides; these are looked up without regard to the case
of ASCII letters. A syllable of Hangul is named by its letters, and an ideograph by its code point.
-/

namespace Excerpt.Text

/-! ## The table -/

/-- The value of a hexadecimal digit that is no small letter. -/
def capitalHexDigit? (c : Char) : Option Nat :=
  if c.isDigit then some (c.toNat - 48) else if 'A' ≤ c ∧ c ≤ 'F' then some (c.toNat - 55) else none

/-- The number that such digits stand for. -/
def capitalHex? (ds : Text) : Option Nat :=
  ds.foldlM (fun n d => (capitalHexDigit? d).map (16 * n + ·)) 0

/-- The words of a name: some of those in front of it, as a digit says, and the ones that are written. -/
def nameWords (before : List Text) : Text → List Text
  | kept :: new => before.take (kept.toNat - 48) ++ splitOn ' ' new
  | [] => []

/-- The words of the names in a row, with the characters from a code point on; `before` are the words in front. -/
def namesInRow (before : List Text) (code : Nat) : List Text → List (List Text × Nat)
  | [] => []
  | entry :: entries =>
    let words := nameWords before entry
    (words, code) :: namesInRow words (code + 1) entries

/-- The words of the names in lines of the table, with their characters. -/
def namesInLines (before : List Text) : List String → List (List Text × Nat)
  | [] => []
  | line :: lines =>
    let (code, entries) := (cut? ' ' line.toList).getD ([], [])
    let names := namesInRow before ((capitalHex? code).getD 0) (splitOn '/' entries)
    names ++ namesInLines ((names.getLast?.map (·.1)).getD []) lines

/-- The code point of the character with a name in the table. -/
def tableNamed? (name : Text) : Option Nat :=
  ((namesInLines [] nameLines).find? fun p => p.1 == splitOn ' ' name).map (·.2)

/-- The code point of the character that has the name besides. -/
def otherNamed? (name : Text) : Option Nat :=
  (otherNameLines.flatMap fun line => splitOn '/' line.toList).findSome? fun entry =>
    (cut? ' ' entry).bind fun (code, other) => if other == name then capitalHex? code else none

/-! ## Names by rule -/

/-- The letters of Hangul that begin a syllable. -/
def initialLetters : List String :=
  ["G", "GG", "N", "D", "DD", "R", "M", "B", "BB", "S", "SS", "", "J", "JJ", "C", "K", "T", "P", "H"]

/-- The vowels of Hangul. -/
def vowelLetters : List String :=
  ["A", "AE", "YA", "YAE", "EO", "E", "YEO", "YE", "O", "WA", "WAE", "OE", "YO", "U", "WEO", "WE", "WI", "YU", "EU",
    "YI", "I"]

/-- The letters of Hangul that end a syllable; it may have none. -/
def finalLetters : List String :=
  ["", "G", "GG", "GS", "N", "NJ", "NH", "D", "L", "LG", "LM", "LB", "LS", "LT", "LP", "LH", "M", "B", "BS", "S", "SS",
    "NG", "J", "C", "K", "T", "P", "H"]

/-- The letters of the syllables of Hangul, in the order of their characters. -/
def syllables : List Text :=
  initialLetters.flatMap fun a => vowelLetters.flatMap fun b => finalLetters.map fun c => (a ++ b ++ c).toList

/-- The first and the last characters of the runs of ideographs. -/
def ideographRuns : List (Nat × Nat) :=
  [(0x3400, 0x4DBF), (0x4E00, 0x9FFF), (0x20000, 0x2A6DF), (0x2A700, 0x2B738), (0x2B740, 0x2B81D), (0x2B820, 0x2CEA1),
    (0x2CEB0, 0x2EBE0), (0x30000, 0x3134A)]

/-- The ideograph with a code point of four or five digits. -/
def ideograph? (digits : Text) : Option Nat :=
  if digits.length == 4 || digits.length == 5 then
    (capitalHex? digits).filter fun n => ideographRuns.any fun (first, last) => first ≤ n && n ≤ last
  else none

/-- The code point of the character with a name. -/
def charNamed? (name : Text) : Option Nat :=
  match dropPrefix? "HANGUL SYLLABLE ".toList name, dropPrefix? "CJK UNIFIED IDEOGRAPH-".toList name with
  | some letters, _ => (syllables.findIdx? (· == letters)).map (0xAC00 + ·)
  | none, some digits => ideograph? digits
  | none, none =>
    let capital := name.map Char.toUpper
    tableNamed? capital <|> otherNamed? capital

end Excerpt.Text
