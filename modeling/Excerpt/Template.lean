import Excerpt.Doc.Display
import Excerpt.Regex.Matcher

/-!
# Replacement templates

In a template `$` and digits stand for a group, `$` and a name in braces for a property, and every other character for
itself. `Template.escaped` writes a template as a replacement: backslashes doubled, groups as `\g<digits>`, and
properties put in. `Template.read?` reads the parts of a replacement, and `Template.fill` gives their text at an
occurrence.
-/

namespace Excerpt

/-- Named values, as the texts that they put into a template. -/
abbrev Properties := List (Text × Text)

/-- The properties of a mapping. -/
def Properties.ofEntries (es : Doc.Entries) : Properties :=
  es.filterMap fun (k, v) =>
    match k with
    | .str s => some (s.toList, v.display)
    | _ => none

namespace Template

/-! ## From templates to replacements -/

/-- The text with each backslash doubled. -/
def doubleBackslashes (t : Text) : Text :=
  Text.replaceChar '\\' ['\\', '\\'] t

/-- Whether a digit comes first. -/
def digitFirst : Text → Bool
  | d :: _ => Text.isDecimal d
  | [] => false

/-- Each `$` and digits as `\g<digits>`; `inside` says that the digits of a group are being read. -/
def groupsFrom (inside : Bool) : Text → Text
  | [] => if inside then ['>'] else []
  | c :: r =>
    if inside && Text.isDecimal c then c :: groupsFrom true r
    else
      (if inside then ['>'] else []) ++
        if c == '$' && digitFirst r then '\\' :: 'g' :: '<' :: groupsFrom true r else c :: groupsFrom false r

/-- Characters of a property name. -/
def isNameChar (c : Char) : Bool :=
  c == '-' || Text.isWord c

/-- The name in braces at the start of a text, and what follows the brace. -/
def braced? : Text → Option (Text × Text)
  | '\x7b' :: r =>
    match r.span isNameChar with
    | (c :: cs, '\x7d' :: rest) => some (c :: cs, rest)
    | _ => none
  | _ => none

/-- The text that a name in braces stands for: the property, or the braces and name as they stand. -/
def propertyText (props : Properties) (name : Text) : Text :=
  match props.lookup name with
  | some value => value
  | none => '$' :: '\x7b' :: name ++ ['\x7d']

/-- Each `$` and name in braces as the text that it stands for, with backslashes doubled; `skip` characters have been
read with what comes before. -/
def propertiesFrom (props : Properties) (skip : Nat) : Text → Text
  | [] => []
  | c :: r =>
    match skip with
    | n + 1 => propertiesFrom props n r
    | 0 =>
      match if c == '$' then braced? r else none with
      | some (name, _) => doubleBackslashes (propertyText props name) ++ propertiesFrom props (name.length + 2) r
      | none => c :: propertiesFrom props 0 r

/-- A template as a replacement. -/
def escaped (t : Text) (props : Properties) : Text :=
  propertiesFrom props 0 (groupsFrom false (doubleBackslashes t))

/-! ## Reading replacements -/

/-- A part of a replacement. -/
inductive Part where
  | char (c : Char)
  | group (digits : Text)
deriving DecidableEq, Repr

/-- The most digits that are read as a number. -/
def longestNumber : Nat := 4300

/-- Whether digits name the whole occurrence or one of the first `count` groups. -/
def namesGroup (count : Nat) (digits : Text) : Bool :=
  !digits.isEmpty && digits.all Text.isDecimal && digits.length ≤ longestNumber && Text.natValue digits ≤ count

/-- The parts of a replacement for an expression with `count` groups; `digits?` holds those of the group being read,
last one first. Of the escapes with a backslash only a backslash and a group are read. -/
def partsFrom? (count : Nat) (digits? : Option Text) : Text → Option (List Part)
  | [] => if digits?.isNone then some [] else none
  | c :: r =>
    match digits? with
    | some ds =>
      if c == '>' then
        if namesGroup count ds.reverse then (partsFrom? count none r).map (.group ds.reverse :: ·) else none
      else partsFrom? count (some (c :: ds)) r
    | none =>
      match c, r with
      | '\\', 'g' :: '<' :: r => partsFrom? count (some []) r
      | '\\', '\\' :: r => (partsFrom? count none r).map (.char '\\' :: ·)
      | '\\', _ => none
      | c, r => (partsFrom? count none r).map (.char c :: ·)

/-- The parts of a replacement, or `none` if it cannot be read or names a group that is not there. -/
def read? (count : Nat) (t : Text) : Option (List Part) :=
  partsFrom? count none t

/-- What a part stands for at an occurrence. -/
def Part.fill (o : Occurrence) : Part → Text
  | .char c => [c]
  | .group ds => o.group (Text.natValue ds)

/-- What parts stand for at an occurrence. -/
def fill (parts : List Part) (o : Occurrence) : Text :=
  parts.flatMap (·.fill o)

end Template

end Excerpt
