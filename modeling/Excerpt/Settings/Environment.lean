import Excerpt.Rule.Decoded
import Excerpt.Settings

/-!
# Settings from the environment

Settings are taken from variables whose names begin with `CONTENT_FIELDS_`, without regard to case, and from a file of
variables; the environment comes first.
-/

namespace Excerpt

/-- Variables by their names. -/
abbrev Variables := List (String × Text)

namespace Variables

/-! ## Files of variables -/

/-- Blanks inside a line. -/
def isBlank (c : Char) : Bool :=
  Text.isSpace c && c != '\n' && c != '\r'

/-- The text between quotes at the start of a text, with its escapes resolved by `unescape?`, and the rest; a backslash
and the quote stand for the quote. -/
def quotedValue? (quote : Char) (unescape? : Char → Option Char) : Text → Option (Text × Text)
  | [] => none
  | '\\' :: c :: r =>
    if c == quote then (quotedValue? quote unescape? r).map fun (t, rest) => (quote :: t, rest)
    else
      match unescape? c with
      | some e => (quotedValue? quote unescape? r).map fun (t, rest) => (e :: t, rest)
      | none => (quotedValue? quote unescape? (c :: r)).map fun (t, rest) => ('\\' :: t, rest)
  | c :: r => if c == quote then some ([], r) else (quotedValue? quote unescape? r).map fun (t, rest) => (c :: t, rest)

/-- The escapes between single quotes. -/
def singleEscape? (c : Char) : Option Char :=
  if c == '\\' then some c else none

/-- The escapes between double quotes. -/
def doubleEscape? : Char → Option Char
  | '\\' => some '\\'
  | '\'' => some '\''
  | 'a' => some '\x07'
  | 'b' => some '\x08'
  | 'f' => some '\x0c'
  | 'n' => some '\n'
  | 'r' => some '\r'
  | 't' => some '\t'
  | 'v' => some '\x0b'
  | _ => none

/-- A value without quotes up to a comment, which follows a blank; `afterBlank` says that a blank was read last. -/
def beforeComment (afterBlank : Bool) : Text → Text
  | [] => []
  | c :: r => if afterBlank && c == '#' then [] else c :: beforeComment (isBlank c) r

/-- Whether a character ends a line. -/
def isBreak (c : Char) : Bool :=
  c == '\n' || c == '\r'

/-- The text after the rest of a line. -/
def afterLine (t : Text) : Text :=
  t.dropWhile (!isBreak ·)

/-- The text after a comment, where only a comment may stand on the rest of the line. -/
def afterComment? (t : Text) : Option Text :=
  let r := t.dropWhile isBlank
  match r with
  | [] => some []
  | c :: _ => if isBreak c then some r else if c == '#' then some (afterLine r) else none

/-- The value after an equals sign, and the text after its line. -/
def value? (t : Text) : Option (Text × Text) := do
  match t.dropWhile isBlank with
  | '\'' :: r =>
    let (v, rest) ← quotedValue? '\'' singleEscape? r
    return (v, ← afterComment? rest)
  | '"' :: r =>
    let (v, rest) ← quotedValue? '"' doubleEscape? r
    return (v, ← afterComment? rest)
  | r => return (Text.trimEnd Text.isSpace (beforeComment false (r.takeWhile (!isBreak ·))), afterLine r)

/-- The text after the word `export` and blanks, if they are there. -/
def afterExport (t : Text) : Text :=
  match Text.dropPrefix? "export".toList t with
  | some (c :: r) => if isBlank c then r.dropWhile isBlank else t
  | _ => t

/-- A variable at the start of a text, if its line sets one, and the text after its line. -/
def binding? (t : Text) : Option (Option (String × Text) × Text) := do
  match afterExport t with
  | '#' :: r => return (none, afterLine r)
  | r =>
    let (name, rest) :=
      match r with
      | '\'' :: q => let (n, rest) := q.span (· != '\''); (n, rest.drop 1)
      | q => q.span fun c => c != '=' && c != '#' && !Text.isSpace c
    guard (!name.isEmpty)
    match rest.dropWhile isBlank with
    | '=' :: rest =>
      let (v, rest) ← value? rest
      return (some (String.ofList name, v), rest)
    | rest => return (none, ← afterComment? rest)

/-- The variables of a file; a line that is not well formed is passed over, and each line takes one unit of fuel. -/
def ofLines : Nat → Text → Variables
  | 0, _ => []
  | n + 1, t =>
    let t := t.dropWhile Text.isSpace
    if t.isEmpty then []
    else
      match binding? t with
      | some (some v, rest) => v :: ofLines n rest
      | some (none, rest) => ofLines n rest
      | none => ofLines n (afterLine t)

/-- The variables of a file. -/
def ofFile (t : Text) : Variables :=
  ofLines (t.length + 1) t

/-! ## Look-up -/

/-- The value of a variable by its name in small letters; the last one counts. -/
def find? (vs : Variables) (name : String) : Option Text :=
  (vs.reverse.find? fun v => lowerName v.1 == name).map (·.2)

end Variables

namespace Settings

/-- The start of the names of variables, in small letters. -/
def variablePrefix : String :=
  "content_fields_"

/-- The digits of a number with underscores between them, without the underscores. -/
def plainDigits? (t : Text) : Option Text :=
  let parts := Text.splitOn '_' t
  if parts.all fun p => !p.isEmpty && p.all Char.isDigit then some parts.flatten else none

/-- The text before a point that only zeros follow. -/
def withoutZeroFraction (t : Text) : Text :=
  match Text.cut? '.' t with
  | some (whole, zeros) => if !zeros.isEmpty && zeros.all (· == '0') then whole else t
  | none => t

/-- The integer that a text is, blanks around it passed over. -/
def integer? (t : Text) : Option Int :=
  let t := Text.trim t
  match t with
  | '-' :: r => (plainDigits? (withoutZeroFraction r)).map fun ds => -(Text.natValue ds : Int)
  | '+' :: r => (plainDigits? (withoutZeroFraction r)).map fun ds => (Text.natValue ds : Int)
  | r => (plainDigits? (withoutZeroFraction r)).map fun ds => (Text.natValue ds : Int)

/-- An integer setting. -/
def readInt (vs : Variables) (name : String) (default : Int) : Decoded Int :=
  match vs.find? (variablePrefix ++ lowerName name) with
  | none => .ok default
  | some t =>
    match integer? t with
    | some n => .ok n
    | none => Decoded.under (.key name) (.fail .notInteger)

/-- A text setting. -/
def readString (vs : Variables) (name default : String) : Decoded String :=
  .ok (((vs.find? (variablePrefix ++ lowerName name)).map String.ofList).getD default)

/-- The settings that variables give. -/
def ofVariables (vs : Variables) : Decoded Settings :=
  Settings.mk <$> readInt vs "MAX_EXPRESSION_LENGTH" Settings.default.maxExpressionLength
    <*> readInt vs "SUMMARY_MIN_LENGTH" Settings.default.summaryMinLength
    <*> readInt vs "SUMMARY_MAX_LENGTH" Settings.default.summaryMaxLength
    <*> readString vs "HTML_PARSER" Settings.default.htmlParser

/-- The settings that the environment gives, and a file of variables where the environment says nothing. -/
def ofEnvironment (environment : Variables) (file : Option Text) : Decoded Settings :=
  ofVariables (((file.map Variables.ofFile).getD []) ++ environment)

/-- The settings as a mapping. -/
def toDoc (s : Settings) : Doc :=
  .ofFields
    [("MAX_EXPRESSION_LENGTH", .int s.maxExpressionLength), ("SUMMARY_MIN_LENGTH", .int s.summaryMinLength),
      ("SUMMARY_MAX_LENGTH", .int s.summaryMaxLength), ("HTML_PARSER", .str s.htmlParser)]

end Settings

end Excerpt
