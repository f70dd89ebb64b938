import Excerpt.Text.Basic
import Excerpt.Text.CaseTable

/-!
# Upper, lower and title case

The full case maps of Unicode on texts. The one rule that looks at more than one character is the final sigma: a capital
sigma at the end of a word becomes `ς`, any other becomes `σ`.
-/

namespace Excerpt.Text

/-- One character by the simple map of a list of runs. -/
def simpleCase (runs : List CaseRun) (c : Char) : Char :=
  match CaseRun.find? runs c.toNat with
  | some n => Char.ofNat n
  | none => c

/-- One character by a full map, else by a simple one. -/
def fullCase (full : List (Nat × List Nat)) (runs : List CaseRun) (c : Char) : Text :=
  match full.lookup c.toNat with
  | some ns => ns.map Char.ofNat
  | none => [simpleCase runs c]

/-- The lower case of one character by the simple map. -/
def lowerChar (c : Char) : Char :=
  if c.toNat < 128 then c.toLower else simpleCase lowerRuns c

/-- The upper case of one character. -/
def upperChar (c : Char) : Text :=
  if c.toNat < 128 then [c.toUpper] else fullCase upperFull upperRuns c

/-- The title case of one character. -/
def titleChar (c : Char) : Text :=
  if c.toNat < 128 then [c.toUpper] else fullCase titleFull titleRuns c

/-- Whether the nearest character that is not passed over is a cased letter. -/
def meetsCased (t : Text) : Bool :=
  match t.dropWhile (fun c => inRuns caseIgnorableRuns c.toNat) with
  | [] => false
  | c :: _ => inRuns casedRuns c.toNat

/-- The lower case of a text that follows the characters `before`, nearest first. -/
def lowerAfter (before : Text) : Text → Text
  | [] => []
  | c :: cs =>
    let image : Text :=
      if c = 'Σ' then [if meetsCased before && !meetsCased cs then 'ς' else 'σ']
      else if c = 'İ' then ['i', '\u0307']
      else [lowerChar c]
    image ++ lowerAfter (c :: before) cs

/-- The text in lower case. -/
def toLower (t : Text) : Text :=
  lowerAfter [] t

/-- The text in upper case. -/
def toUpper (t : Text) : Text :=
  t.flatMap upperChar

/-- The first character in title case and the others in lower case. -/
def capitalize : Text → Text
  | [] => []
  | c :: cs => titleChar c ++ lowerAfter [c] cs

/-- Each word between blanks capitalized. -/
def capitalizeWords (t : Text) : Text :=
  join [' '] ((splitOn ' ' t).map capitalize)

end Excerpt.Text

namespace Excerpt

/-- A name in lower case. -/
def lowerName (s : String) : String :=
  String.ofList (Text.toLower s.toList)

end Excerpt
