import Excerpt.Page.Node

/-!
# Markup as tokens

The text of a page is read as a list of tokens: the starts and ends of elements, texts with their references resolved,
comments and processing instructions. Texts in scripts and styles hold no tags and no references.
-/

namespace Excerpt

/-- A piece of markup. -/
inductive Token where
  | opens (tag : String) (attrs : List (String × Text)) (closed : Bool)
  | closes (tag : String)
  | text (s : Text)
  | comment (s : Text)
  | instruction (s : Text)
deriving DecidableEq, Repr

namespace Token

/-- The white space of markup. -/
def isBlank (c : Char) : Bool :=
  c == ' ' || c == '\n' || c == '\t' || c == '\r' || c == '\x0c'

/-! ## References -/

/-- The value of digits in a base, if there are any and nothing else. -/
def digitsValue? (base : Nat) (ds : Text) : Option Nat :=
  if ds.isEmpty then none
  else
    ds.foldlM (fun n c =>
      let d := if c.isDigit then c.toNat - 48 else if c.toLower.isLower then c.toLower.toNat - 87 else base
      if d < base then some (n * base + d) else none) 0

/-- The text that a reference stands for, by what is between the sign and the semicolon; a number that is no character
stands for nothing. -/
def reference? : Text → Option Text
  | ['a', 'm', 'p'] => some ['&']
  | ['l', 't'] => some ['<']
  | ['g', 't'] => some ['>']
  | ['q', 'u', 'o', 't'] => some ['"']
  | '#' :: r =>
    let value? :=
      match r with
      | 'x' :: ds | 'X' :: ds => digitsValue? 16 ds
      | ds => digitsValue? 10 ds
    value?.map fun n => if n = 0 ∨ (n < 0x20 ∧ n ≠ 9 ∧ n ≠ 10 ∧ n ≠ 13) ∨ ¬ n.isValidChar then [] else [Char.ofNat n]
  | _ => none

/-- Characters between the sign and the semicolon of a reference. -/
def isReferenceChar (c : Char) : Bool :=
  c == '#' || c.isAlphanum

/-- The text with references resolved; each step takes one unit of fuel. -/
def resolveWith : Nat → Text → Text
  | 0, _ | _, [] => []
  | n + 1, '&' :: r =>
    match r.span isReferenceChar with
    | (name, ';' :: rest) =>
      match reference? name with
      | some s => s ++ resolveWith n rest
      | none => '&' :: resolveWith n r
    | _ => '&' :: resolveWith n r
  | n + 1, c :: r => c :: resolveWith n r

/-- The text with references resolved. -/
def resolve (t : Text) : Text :=
  resolveWith t.length t

/-! ## Tags -/

/-- Characters of the name of an element or attribute. -/
def isNameChar (c : Char) : Bool :=
  !isBlank c && c != '=' && c != '>' && c != '/' && c != '<'

/-- A name in small letters. -/
def nameOf (t : Text) : String :=
  String.ofList (t.map Char.toLower)

/-- The value of an attribute after its equals sign, and the rest. -/
def value (t : Text) : Text × Text :=
  match t.dropWhile isBlank with
  | '"' :: r => let (v, rest) := r.span (· != '"'); (resolve v, rest.drop 1)
  | '\'' :: r => let (v, rest) := r.span (· != '\''); (resolve v, rest.drop 1)
  | r => let (v, rest) := r.span fun c => !isBlank c && c != '>'; (resolve v, rest)

/-- The attributes up to the end of a tag, whether the tag closes its element, and the rest; each step takes one unit of
fuel. -/
def attributes : Nat → Text → List (String × Text) × Bool × Text
  | 0, _ | _, [] => ([], false, [])
  | _ + 1, '>' :: r => ([], false, r)
  | _ + 1, '/' :: '>' :: r => ([], true, r)
  | n + 1, c :: r =>
    match (c :: r).span isNameChar with
    | ([], _) => attributes n r
    | (name, rest) =>
      match rest.dropWhile isBlank with
      | '=' :: afterSign =>
        let (v, rest) := value afterSign
        let (as, closed, rest) := attributes n rest
        ((nameOf name, v) :: as, closed, rest)
      | _ =>
        let (as, closed, rest) := attributes n rest
        ((nameOf name, []) :: as, closed, rest)

/-- The parts before and after the first place where the given end begins, the end left out of both. -/
def upTo (ending : Text) : Text → Text × Text
  | [] => ([], [])
  | c :: r =>
    match Text.dropPrefix? ending (c :: r) with
    | some rest => ([], rest)
    | none => let (before, rest) := upTo ending r; (c :: before, rest)

/-- Elements whose text holds no tags. -/
def isRaw (tag : String) : Bool :=
  tag == "script" || tag == "style"

/-- The raw text of an element up to its end tag, and the end tag with the rest. -/
def rawText (tag : String) : Text → Text × Text
  | [] => ([], [])
  | c :: r =>
    if nameOf ((c :: r).take (tag.length + 2)) == "</" ++ tag then ([], c :: r)
    else let (before, rest) := rawText tag r; (c :: before, rest)

/-- The tokens of a text; each step takes one unit of fuel. -/
def scanWith : Nat → Text → List Token
  | 0, _ | _, [] => []
  | n + 1, '<' :: '!' :: '-' :: '-' :: r =>
    let (s, rest) := upTo ['-', '-', '>'] r
    .comment s :: scanWith n rest
  | n + 1, '<' :: '!' :: r => scanWith n (upTo ['>'] r).2
  | n + 1, '<' :: '?' :: r =>
    let (s, rest) := upTo ['>'] r
    .instruction s :: scanWith n rest
  | n + 1, '<' :: '/' :: r =>
    let (name, rest) := r.span isNameChar
    .closes (nameOf name) :: scanWith n (upTo ['>'] rest).2
  | n + 1, '<' :: c :: r =>
    if c.isAlpha then
      let (name, rest) := (c :: r).span isNameChar
      let tag := nameOf name
      let (as, closed, rest) := attributes rest.length rest
      if isRaw tag && !closed then
        let (s, rest) := rawText tag rest
        .opens tag as closed :: .text s :: scanWith n rest
      else .opens tag as closed :: scanWith n rest
    else
      let (s, rest) := (c :: r).span (· != '<')
      .text ('<' :: resolve s) :: scanWith n rest
  | n + 1, c :: r =>
    let (s, rest) := r.span (· != '<')
    .text (resolve (c :: s)) :: scanWith n rest

/-- The tokens of a text. -/
def scan (t : Text) : List Token :=
  scanWith t.length t

end Token

end Excerpt
