import Excerpt.Doc.Basic
import Excerpt.Text.Quoted

/-!
# Documents as JSON

`Json.parse?` reads the JSON form of a document and `Json.render` writes it on one line, `Json.renderIndented` on
several. Entries keep their order; characters outside ASCII are written as themselves.
-/

namespace Excerpt.Json

/-! ## Writing -/

/-- One character inside a string. -/
def escapeChar (c : Char) : Text :=
  if c = '"' ∨ c = '\\' then ['\\', c]
  else if c = '\n' then ['\\', 'n']
  else if c = '\r' then ['\\', 'r']
  else if c = '\t' then ['\\', 't']
  else if c = '\x08' then ['\\', 'b']
  else if c = '\x0c' then ['\\', 'f']
  else if c.toNat < 0x20 then '\\' :: 'u' :: Text.hexDigits 4 c.toNat
  else [c]

/-- A text as a string. -/
def renderText (t : Text) : Text :=
  '"' :: t.flatMap escapeChar ++ ['"']

/-- An integer in base ten. -/
def renderInt (n : Int) : Text :=
  if n < 0 then '-' :: Text.ofNat n.natAbs else Text.ofNat n.natAbs

/-- A decimal number with an exponent. -/
def renderDecimal (d : Decimal) : Text :=
  let sign : Text := if d.negative then ['-'] else []
  sign ++ Text.ofNat d.digits ++ ['e'] ++ renderInt d.exponent

/-- A value without parts. -/
def renderScalar : Scalar → Text
  | .null => "null".toList
  | .bool true => "true".toList
  | .bool false => "false".toList
  | .int n => renderInt n
  | .decimal d => renderDecimal d
  | .infinity false => "Infinity".toList
  | .infinity true => "-Infinity".toList
  | .notANumber => "NaN".toList
  | .str s => renderText s.toList
  | .date s | .stamp s => renderText s.toList
  | .bytes b => renderText (b.flatMap fun x => Text.hexDigits 2 x.toNat)

/-- A key, always as a string. -/
def renderKey : Scalar → Text
  | .str s => renderText s.toList
  | .date s | .stamp s => renderText s.toList
  | .bytes b => renderText (b.flatMap fun x => Text.hexDigits 2 x.toNat)
  | k => '"' :: renderScalar k ++ ['"']

mutual

/-- A document on one line without blanks. -/
def render : Doc → Text
  | .scalar s => renderScalar s
  | .list [] => ['[', ']']
  | .list (d :: ds) => '[' :: render d ++ renderItems ds
  | .map [] => ['\x7b', '\x7d']
  | .map ((k, d) :: es) => '\x7b' :: renderKey k ++ ':' :: render d ++ renderEntries es

/-- The items after the first, and the end of the list. -/
def renderItems : List Doc → Text
  | [] => [']']
  | d :: ds => ',' :: render d ++ renderItems ds

/-- The entries after the first, and the end of the mapping. -/
def renderEntries : List (Scalar × Doc) → Text
  | [] => ['\x7d']
  | (k, d) :: es => ',' :: renderKey k ++ ':' :: render d ++ renderEntries es

end

/-- A new line with two blanks for each level. -/
def newLine (level : Nat) : Text :=
  '\n' :: List.replicate (2 * level) ' '

mutual

/-- A document on several lines, each item and entry on its own. -/
def renderAt (level : Nat) : Doc → Text
  | .scalar s => renderScalar s
  | .list [] => ['[', ']']
  | .list (d :: ds) => '[' :: newLine (level + 1) ++ renderAt (level + 1) d ++ renderItemsAt level ds
  | .map [] => ['\x7b', '\x7d']
  | .map ((k, d) :: es) =>
    '\x7b' :: newLine (level + 1) ++ renderKey k ++ ':' :: ' ' :: renderAt (level + 1) d ++ renderEntriesAt level es

/-- The items after the first, and the end of the list. -/
def renderItemsAt (level : Nat) : List Doc → Text
  | [] => newLine level ++ [']']
  | d :: ds => ',' :: newLine (level + 1) ++ renderAt (level + 1) d ++ renderItemsAt level ds

/-- The entries after the first, and the end of the mapping. -/
def renderEntriesAt (level : Nat) : List (Scalar × Doc) → Text
  | [] => newLine level ++ ['\x7d']
  | (k, d) :: es =>
    ',' :: newLine (level + 1) ++ renderKey k ++ ':' :: ' ' :: renderAt (level + 1) d ++ renderEntriesAt level es

end

/-- A document on several lines. -/
def renderIndented (d : Doc) : Text :=
  renderAt 0 d

/-! ## Reading -/

/-- The text after blanks. -/
def skipBlanks : Text → Text :=
  List.dropWhile fun c => c == ' ' || c == '\t' || c == '\n' || c == '\r'

/-- The value of a hexadecimal digit. -/
def hexValue? (c : Char) : Option Nat :=
  if c.isDigit then some (c.toNat - 48)
  else if 'a' ≤ c ∧ c ≤ 'f' then some (c.toNat - 87)
  else if 'A' ≤ c ∧ c ≤ 'F' then some (c.toNat - 55)
  else none

/-- The value of four hexadecimal digits. -/
def hex4? (a b c d : Char) : Option Nat := do
  return ((← hexValue? a) * 16 + (← hexValue? b)) * 256 + ((← hexValue? c) * 16 + (← hexValue? d))

/-- The character that a short escape stands for. -/
def shortEscape? : Char → Option Char
  | '"' => some '"'
  | '\\' => some '\\'
  | '/' => some '/'
  | 'b' => some '\x08'
  | 'f' => some '\x0c'
  | 'n' => some '\n'
  | 'r' => some '\r'
  | 't' => some '\t'
  | _ => none

/-- The code units of a string up to its closing quote, and what follows the quote. -/
def stringUnits? : Text → Option (List Nat × Text)
  | [] => none
  | '"' :: r => some ([], r)
  | '\\' :: 'u' :: a :: b :: c :: d :: r => do
    let n ← hex4? a b c d
    let (ns, rest) ← stringUnits? r
    return (n :: ns, rest)
  | '\\' :: e :: r => do
    let c ← shortEscape? e
    let (ns, rest) ← stringUnits? r
    return (c.toNat :: ns, rest)
  | c :: r =>
    if c.toNat < 0x20 ∨ c = '\\' then none
    else (stringUnits? r).map fun (ns, rest) => (c.toNat :: ns, rest)

/-- The characters of code units: two halves of a pair are one character, a lone half is the replacement character. -/
def joinPairs : List Nat → Text
  | [] => []
  | [n] => [if 0xD800 ≤ n ∧ n < 0xE000 then '\ufffd' else Char.ofNat n]
  | h :: l :: r =>
    if 0xD800 ≤ h ∧ h < 0xDC00 ∧ 0xDC00 ≤ l ∧ l < 0xE000 then
      Char.ofNat (0x10000 + (h - 0xD800) * 0x400 + (l - 0xDC00)) :: joinPairs r
    else (if 0xD800 ≤ h ∧ h < 0xE000 then '\ufffd' else Char.ofNat h) :: joinPairs (l :: r)

/-- A string after its opening quote. -/
def string? (t : Text) : Option (String × Text) :=
  (stringUnits? t).map fun (ns, rest) => (String.ofList (joinPairs ns), rest)

/-- The leading ASCII digits and the rest. -/
def digits (t : Text) : Text × Text :=
  t.span Char.isDigit

/-- The digits after a point, if there are any, and the rest. -/
def fraction (t : Text) : Text × Text :=
  match t with
  | '.' :: r =>
    match digits r with
    | ([], _) => ([], t)
    | (ds, rest) => (ds, rest)
  | _ => ([], t)

/-- The exponent, if there is one, and the rest. -/
def exponent? (t : Text) : Option Int × Text :=
  match t with
  | c :: r =>
    if c = 'e' ∨ c = 'E' then
      let (negative, r') :=
        match r with
        | '-' :: r' => (true, r')
        | '+' :: r' => (false, r')
        | r' => (false, r')
      match digits r' with
      | ([], _) => (none, t)
      | (ds, rest) => (some (if negative then -(Text.natValue ds : Int) else Text.natValue ds), rest)
    else (none, t)
  | [] => (none, t)

/-- A number after its sign. -/
def number? (negative : Bool) (t : Text) : Option (Scalar × Text) :=
  let (whole, r) :=
    match t with
    | '0' :: r => (['0'], r)
    | t => digits t
  if whole.isEmpty then none
  else
    let (part, r) := fraction r
    let (exp?, r) := exponent? r
    if part.isEmpty ∧ exp?.isNone then
      let n : Int := Text.natValue whole
      some (.int (if negative then -n else n), r)
    else some (.decimal ⟨negative, Text.natValue (whole ++ part), exp?.getD 0 - part.length⟩, r)

/-- A value that is a word or a number. -/
def scalar? (t : Text) : Option (Scalar × Text) :=
  match t with
  | 'n' :: 'u' :: 'l' :: 'l' :: r => some (.null, r)
  | 't' :: 'r' :: 'u' :: 'e' :: r => some (.bool true, r)
  | 'f' :: 'a' :: 'l' :: 's' :: 'e' :: r => some (.bool false, r)
  | 'N' :: 'a' :: 'N' :: r => some (.notANumber, r)
  | '-' :: r =>
    match Text.dropPrefix? "Infinity".toList r with
    | some r => some (.infinity true, r)
    | none => number? true r
  | _ =>
    match Text.dropPrefix? "Infinity".toList t with
    | some r => some (.infinity false, r)
    | none => number? false t

mutual

/-- A document at the start of the text, and the rest; each level of nesting and each item takes one unit of fuel. -/
def value? : Nat → Text → Option (Doc × Text)
  | 0, _ => none
  | n + 1, t =>
    match t with
    | '"' :: r => (string? r).map fun (s, rest) => (.str s, rest)
    | '[' :: r =>
      match skipBlanks r with
      | ']' :: rest => some (.list [], rest)
      | r => (items? n r).map fun (ds, rest) => (.list ds, rest)
    | '\x7b' :: r =>
      match skipBlanks r with
      | '\x7d' :: rest => some (.map [], rest)
      | r => (entries? n r).map fun (es, rest) => (.map (Doc.Entries.ofPairs es), rest)
    | t => (scalar? t).map fun (s, rest) => (.scalar s, rest)

/-- One item or more, up to the closing bracket. -/
def items? : Nat → Text → Option (List Doc × Text)
  | 0, _ => none
  | n + 1, t => do
    let (d, r) ← value? n t
    match skipBlanks r with
    | ']' :: rest => return ([d], rest)
    | ',' :: r =>
      let (ds, rest) ← items? n (skipBlanks r)
      return (d :: ds, rest)
    | _ => none

/-- One entry or more, up to the closing brace. -/
def entries? : Nat → Text → Option (List (Scalar × Doc) × Text)
  | 0, _ => none
  | n + 1, t =>
    match t with
    | '"' :: r => do
      let (k, r) ← string? r
      match skipBlanks r with
      | ':' :: r =>
        let (d, r) ← value? n (skipBlanks r)
        match skipBlanks r with
        | '\x7d' :: rest => return ([(.str k, d)], rest)
        | ',' :: r =>
          let (es, rest) ← entries? n (skipBlanks r)
          return ((.str k, d) :: es, rest)
        | _ => none
      | _ => none
    | _ => none

end

/-- The document that a text is the JSON form of. -/
def parse? (t : Text) : Option Doc := do
  let (d, r) ← value? (t.length + 1) (skipBlanks t)
  guard (skipBlanks r).isEmpty
  return d

end Excerpt.Json
