import Excerpt.Regex.Matcher
import Excerpt.Text.CharNames

/-!
# Reading a regular expression

`Pattern.parse` reads the written form of an expression from left to right and ends at the first fault. The point
matches every character unless a scope says otherwise. Options are given in a scope `(?i:…)`, or for the whole
expression by `(?i)` at its start.

What is malformed: an escape of an ASCII letter that has no meaning, an unclosed group or set, a repetition of nothing,
of a position or of a repetition, a range or count whose end is before its start, a reference to a group that is
missing, still open, or in the same assertion behind, a name that is given twice, and an assertion behind without a
fixed width. The groups that conditions name and the widths of assertions are looked at only once the whole expression
has been read.

A count too large for the matcher is told apart (`Refusal.countTooLarge`), and so are a count of more digits than can be
read as a number and options for the whole expression that exclude each other (`Refusal.unfit`).
-/

namespace Excerpt.Regex

/-- Why an expression is not read. -/
inductive Refusal where
  | malformed
  | unfit
  | countTooLarge
deriving DecidableEq, Repr

/-- Fails as malformed without a value. -/
def orMalformed {α : Type} : Option α → Except Refusal α
  | some a => .ok a
  | none => .error .malformed

/-- Fails as malformed unless the condition holds. -/
def require (condition : Bool) : Except Refusal Unit :=
  if condition then .ok () else .error .malformed

/-- The options of a scope. -/
structure Scope where
  ignoreCase : Bool
  perLine : Bool
  dotAll : Bool
  asciiOnly : Bool
  spaced : Bool
deriving DecidableEq, Repr

/-- The options that an expression starts with. -/
def Scope.initial : Scope :=
  ⟨false, false, true, false, false⟩

/-- How the case of a letter counts in the scope. -/
def Scope.case (s : Scope) : CaseRule :=
  if s.ignoreCase then (if s.asciiOnly then .ascii else .unicode) else .exact

/-- What has been read so far: the options in force, the letters of options for the whole expression, the number of
groups opened, the widths of the groups closed, the names of groups, the groups that conditions name, how many groups
stood before the assertion behind that is open, whether all assertions behind have a fixed width, and whether there is a
repetition. A step of reading gives its result and the state after it. -/
structure Reader where
  rest : Text
  scope : Scope
  whole : Text
  groups : Nat
  closed : List (Nat × Nat × Option Nat)
  names : List (Text × Nat)
  conditions : List Nat
  behind : Option Nat
  fixed : Bool
  repeating : Bool

/-- The state before anything is read. -/
def Reader.start (t : Text) : Reader :=
  ⟨t, .initial, [], 1, [], [], [], none, true, false⟩

/-- The state with another rest. -/
def Reader.at (st : Reader) (t : Text) : Reader :=
  { st with rest := t }

/-- The width of a group, zero if it is still open. -/
def Reader.groupWidth (st : Reader) (n : Nat) : Nat × Option Nat :=
  (st.closed.lookup n).getD (0, some 0)

/-- Whether a group that an assertion behind refers to is closed and stands before the assertion. -/
def Reader.seenBehind (st : Reader) (n : Nat) : Bool :=
  match st.behind with
  | none => true
  | some first => (st.closed.lookup n).isSome && n < first

/-- Whether a back reference to the group is allowed. -/
def Reader.mayRefer (st : Reader) (n : Nat) : Bool :=
  (st.closed.lookup n).isSome && st.seenBehind n

/-! ## Escapes -/

/-- One character in the scope. -/
def literal (s : Scope) (code : Nat) : Regex :=
  .set ⟨false, [.char code], s.case⟩

/-- The value of digits in base eight. -/
def octalValue (t : Text) : Nat :=
  t.foldl (fun n c => 8 * n + (c.toNat - 48)) 0

/-- Digits of base eight. -/
def isOctal (c : Char) : Bool :=
  '0' ≤ c && c ≤ '7'

/-- The value of a hexadecimal digit. -/
def hexDigit? (c : Char) : Option Nat :=
  if c.isDigit then some (c.toNat - 48)
  else if 'a' ≤ c ∧ c ≤ 'f' then some (c.toNat - 87)
  else if 'A' ≤ c ∧ c ≤ 'F' then some (c.toNat - 55)
  else none

/-- The value of exactly `n` hexadecimal digits, and the rest. -/
def hexCode? : Nat → Nat → Text → Option (Nat × Text)
  | 0, acc, t => some (acc, t)
  | _ + 1, _, [] => none
  | n + 1, acc, c :: r => (hexDigit? c).bind fun d => hexCode? n (16 * acc + d) r

/-- A character given by its name in braces. -/
def namedCode? : Text → Option (Nat × Text)
  | '\x7b' :: r => do
    let (name, rest) ← Text.cut? '\x7d' r
    let n ← Text.charNamed? name
    return (n, rest)
  | _ => none

/-- Letters before the code or the name of a character. -/
def isCodeSign (c : Char) : Bool :=
  c == 'x' || c == 'u' || c == 'U' || c == 'N'

/-- A character given by its code after `x`, `u` or `U`, or by its name after `N`. -/
def codeEscape? (c : Char) (r : Text) : Option (Nat × Text) :=
  if c = 'x' then hexCode? 2 0 r
  else if c = 'u' then hexCode? 4 0 r
  else if c = 'U' then (hexCode? 8 0 r).filter fun p => p.1 < 0x110000
  else namedCode? r

/-- The code of a control character that a letter stands for. -/
def controlCode? : Char → Option Nat
  | 'a' => some 7
  | 'f' => some 12
  | 'n' => some 10
  | 'r' => some 13
  | 't' => some 9
  | 'v' => some 11
  | _ => none

/-- The class that a letter stands for. -/
def kindEscape? (asciiOnly : Bool) : Char → Option SetItem
  | 'd' => some (.kind .digit asciiOnly false)
  | 'D' => some (.kind .digit asciiOnly true)
  | 's' => some (.kind .space asciiOnly false)
  | 'S' => some (.kind .space asciiOnly true)
  | 'w' => some (.kind .word asciiOnly false)
  | 'W' => some (.kind .word asciiOnly true)
  | _ => none

/-- The condition on a position that a letter stands for. -/
def anchorEscape? (asciiOnly : Bool) : Char → Option Anchor
  | 'A' => some .textStart
  | 'Z' => some .textEnd
  | 'b' => some (.wordEdge asciiOnly)
  | 'B' => some (.notWordEdge asciiOnly)
  | _ => none

/-- Up to `n` digits of base eight at the start, and the rest. -/
def takeOctal : Nat → Text → Text × Text
  | 0, t => ([], t)
  | _ + 1, [] => ([], [])
  | n + 1, c :: r =>
    if isOctal c then
      let (ds, rest) := takeOctal n r
      (c :: ds, rest)
    else ([], c :: r)

/-- An escape inside a set, after the backslash. -/
def setEscape? (asciiOnly : Bool) : Text → Option (SetItem × Text)
  | [] => none
  | c :: r =>
    match controlCode? c, kindEscape? asciiOnly c with
    | some n, _ => some (.char n, r)
    | _, some k => some (k, r)
    | none, none =>
      if c = 'b' then some (.char 8, r)
      else if isCodeSign c then (codeEscape? c r).map fun (n, rest) => (.char n, rest)
      else if isOctal c then
        let (ds, rest) := takeOctal 2 r
        let n := octalValue (c :: ds)
        if n > 255 then none else some (.char n, rest)
      else if c.isAlphanum then none
      else some (.char c.toNat, r)

/-- A reference to a group that is there. -/
def backrefTo? (st : Reader) (n : Nat) (rest : Text) : Option (Regex × Reader) :=
  if n < st.groups ∧ st.mayRefer n then some (.backref n st.scope.case, st.at rest) else none

/-- An escape of a digit other than zero: a back reference, or a character given by three digits of base eight. -/
def digitEscape? (st : Reader) (c : Char) (r : Text) : Option (Regex × Reader) :=
  match r with
  | d :: r' =>
    if d.isDigit then
      match r' with
      | e :: r'' =>
        if isOctal c ∧ isOctal d ∧ isOctal e then
          let n := octalValue [c, d, e]
          if n > 255 then none else some (literal st.scope n, st.at r'')
        else backrefTo? st (Text.natValue [c, d]) r'
      | [] => backrefTo? st (Text.natValue [c, d]) r'
    else backrefTo? st (Text.natValue [c]) r
  | [] => backrefTo? st (Text.natValue [c]) r

/-- An escape outside a set, after the backslash. -/
def escape? (st : Reader) : Text → Option (Regex × Reader)
  | [] => none
  | c :: r =>
    match anchorEscape? st.scope.asciiOnly c, kindEscape? st.scope.asciiOnly c, controlCode? c with
    | some a, _, _ => some (.anchor a, st.at r)
    | _, some k, _ => some (.set ⟨false, [k], st.scope.case⟩, st.at r)
    | _, _, some n => some (literal st.scope n, st.at r)
    | none, none, none =>
      if isCodeSign c then (codeEscape? c r).map fun (n, rest) => (literal st.scope n, st.at rest)
      else if c = '0' then
        let (ds, rest) := takeOctal 2 r
        some (literal st.scope (octalValue ds), st.at rest)
      else if c.isDigit then digitEscape? st c r
      else if c.isAlpha then none
      else some (literal st.scope c.toNat, st.at r)

/-! ## Sets -/

/-- A member of a set: an escape or a character as it stands. -/
def setMember? (asciiOnly : Bool) : Text → Option (SetItem × Text)
  | [] => none
  | '\\' :: r => setEscape? asciiOnly r
  | c :: r => some (.char c.toNat, r)

/-- The members of a set up to its closing bracket; a bracket that comes first is a member. -/
def setItems? (asciiOnly : Bool) : Nat → Bool → Text → Option (List SetItem × Text)
  | 0, _, _ => none
  | fuel + 1, first, t =>
    match t, first with
    | ']' :: r, false => some ([], r)
    | t, _ => do
      let (item, r) ← setMember? asciiOnly t
      match r with
      | '-' :: ']' :: rest => return ([item, .char '-'.toNat], rest)
      | '-' :: r =>
        let (last, r) ← setMember? asciiOnly r
        match item, last with
        | .char a, .char b =>
          if b < a then none
          else
            let (items, rest) ← setItems? asciiOnly fuel false r
            return (.range a b :: items, rest)
        | _, _ => none
      | r =>
        let (items, rest) ← setItems? asciiOnly fuel false r
        return (item :: items, rest)

/-- A set after its opening bracket. -/
def set? (st : Reader) (t : Text) : Option (Regex × Reader) :=
  let (negated, t) :=
    match t with
    | '^' :: r => (true, r)
    | t => (false, t)
  (setItems? st.scope.asciiOnly (t.length + 1) true t).map fun (items, rest) =>
    (.set ⟨negated, items, st.scope.case⟩, st.at rest)

/-! ## Repetitions -/

/-- The digits of the two bounds of a repetition in braces, after the opening brace, and the rest; `none` if the brace
stands for itself. One number is both bounds. -/
def bounds? (t : Text) : Option (Text × Text × Text) :=
  match t with
  | '\x7d' :: _ => none
  | t =>
    let (low, r) := t.span Char.isDigit
    match r with
    | '\x7d' :: rest => some (low, low, rest)
    | ',' :: r =>
      let (high, r) := r.span Char.isDigit
      match r with
      | '\x7d' :: rest => some (low, high, rest)
      | _ => none
    | _ => none

/-- The least count that the matcher cannot hold. -/
def countLimit : Nat := 4294967295

/-- The most digits that are read as a number. -/
def longestNumber : Nat := 4300

/-- The count that digits stand for, none without digits. -/
def count (ds : Text) : Except Refusal (Option Nat) :=
  if ds.isEmpty then .ok none
  else if longestNumber < ds.length then .error .unfit
  else if countLimit ≤ Text.natValue ds then .error .countTooLarge
  else .ok (some (Text.natValue ds))

/-- The counts of a repetition whose bounds stand before `rest`. A backslash that ends the expression is
noticed first. -/
def counts (low high rest : Text) : Except Refusal (Nat × Option Nat) := do
  require (rest != ['\\'])
  let least ← count low
  let most ← count high
  return (least.getD 0, most)

/-- How greedy a repetition is, by the sign after it. -/
def greed (t : Text) : Greed × Text :=
  match t with
  | '?' :: r => (.lazy, r)
  | '+' :: r => (.possessive, r)
  | t => (.greedy, t)

/-- The last item repeated; `rest` follows the bounds. -/
def repeated? (st : Reader) (items : List Regex) (least : Nat) (most : Option Nat) (rest : Text) :
    Option (List Regex × Reader) :=
  match items with
  | [] => none
  | item :: items =>
    if item.isAnchor || item.isLoop then none
    else if (most.map (decide <| · < least)).getD false then none
    else
      let (g, rest) := greed rest
      some (.loop least most g item :: items, { st with rest, repeating := true })

/-! ## Groups -/

/-- What follows a comment in a spaced expression. -/
def afterLine? : Text → Option Text
  | [] => some []
  | ['\\'] => none
  | '\\' :: _ :: r => afterLine? r
  | '\n' :: r => some r
  | _ :: r => afterLine? r

/-- What follows a comment in parentheses. -/
def afterComment? : Text → Option Text
  | [] => none
  | '\\' :: _ :: r => afterComment? r
  | ')' :: r => some r
  | _ :: r => afterComment? r

/-- A name up to the character that ends it. -/
def name? (last : Char) (t : Text) : Option (Text × Text) :=
  (Text.cut? last t).filter fun p => Text.isIdentifier p.1

/-- The options that letters name, in order, and what follows them. -/
def options : Text → Text × Text
  | [] => ([], [])
  | c :: r =>
    if "imsxatu".toList.contains c then
      let (os, rest) := options r
      (c :: os, rest)
    else ([], c :: r)

/-- The scope with one option turned on or off. -/
def Scope.set (s : Scope) (on : Bool) : Char → Scope
  | 'i' => { s with ignoreCase := on }
  | 'm' => { s with perLine := on }
  | 's' => { s with dotAll := on }
  | 'x' => { s with spaced := on }
  | 'a' => { s with asciiOnly := true }
  | 'u' => { s with asciiOnly := false }
  | _ => s

/-- The scope with options turned on or off. -/
def Scope.setAll (s : Scope) (on : Bool) (os : Text) : Scope :=
  os.foldl (fun s o => s.set on o) s

/-- What an option group asks for: a change for the whole expression, or for the group that follows. -/
inductive OptionGroup where
  | whole (letters : Text) (scope : Scope) (rest : Text)
  | part (scope : Scope) (rest : Text)

/-- An option group after its question mark. -/
def optionGroup? (s : Scope) (t : Text) : Option OptionGroup :=
  let (on, r) := options t
  if on.contains 'a' && on.contains 'u' then none
  else
    match r with
    | ')' :: rest => if on.isEmpty then none else some (.whole on (s.setAll true on) rest)
    | ':' :: rest => if on.isEmpty || on.contains 't' then none else some (.part (s.setAll true on) rest)
    | '-' :: r =>
      let (off, r) := options r
      let barred := off.any fun o => on.contains o || o == 'a' || o == 'u' || o == 't'
      match r with
      | ':' :: rest =>
        if off.isEmpty || barred || on.contains 't' then none else some
          (.part ((s.setAll true on).setAll false off) rest)
      | _ => none
    | _ => none

/-- The most groups that an expression may have. -/
def groupLimit : Nat := 1073741823

/-- The number of a group: decimal digits, single underscores between them, a plus sign in front and blanks around. -/
def groupNumber? (t : Text) : Option Nat :=
  let digits :=
    match Text.trim t with
    | '+' :: r => r
    | r => r
  let parts := Text.splitOn '_' digits
  let n := Text.natValue parts.flatten
  if parts.all (fun p => !p.isEmpty && p.all Text.isDecimal) && 0 < n && n < groupLimit then some n else none

/-- The group that a condition names. -/
def conditionGroup? (st : Reader) (t : Text) : Option (Nat × Bool × Text) := do
  let (name, rest) ← Text.cut? ')' t
  if Text.isIdentifier name then
    let n ← st.names.lookup name
    return (n, true, rest)
  else
    let n ← groupNumber? name
    return (n, false, rest)

/-- The state inside a group with the next number, and that number. -/
def openGroup (st : Reader) (name : Option Text) (rest : Text) : Nat × Reader :=
  (st.groups,
    { st with
      rest
      groups := st.groups + 1
      names :=
        match name with
        | some n => (n, st.groups) :: st.names
        | none => st.names })

/-- The state after the closing parenthesis. -/
def closeParen? (st : Reader) : Option Reader :=
  match st.rest with
  | ')' :: r => some (st.at r)
  | _ => none

mutual

/-- Alternatives up to a closing parenthesis or the end; `top` says that no group is open. -/
def readAlternatives : Nat → Bool → Reader → Except Refusal (Regex × Reader)
  | 0, _, _ => .error .malformed
  | fuel + 1, top, st => do
    let (found, st) ← readItems fuel top [] st
    let branch := ofList found.reverse
    match st.rest with
    | '|' :: r =>
      let (others, st) ← readAlternatives fuel false (st.at r)
      return (.alt branch others, st)
    | _ => return (branch, st)

/-- The items of one alternative, latest first. -/
def readItems : Nat → Bool → List Regex → Reader → Except Refusal (List Regex × Reader)
  | 0, _, _, _ => .error .malformed
  | fuel + 1, top, done, st =>
    match st.rest with
    | [] | '|' :: _ | ')' :: _ => .ok (done, st)
    | c :: r =>
      if st.scope.spaced && (c == ' ' || (9 ≤ c.toNat && c.toNat ≤ 13)) then readItems fuel top done (st.at r)
      else if st.scope.spaced && c == '#' then do
        let rest ← orMalformed (afterLine? r)
        readItems fuel top done (st.at rest)
      else
        match c with
        | '\\' => do
          let (item, st) ← orMalformed (escape? st r)
          readItems fuel top (item :: done) st
        | '[' => do
          let (item, st) ← orMalformed (set? st r)
          readItems fuel top (item :: done) st
        | '.' => readItems fuel top (.any st.scope.dotAll :: done) (st.at r)
        | '^' => readItems fuel top (.anchor (if st.scope.perLine then .lineStart else .textStart) :: done) (st.at r)
        | '$' => readItems fuel top (.anchor (if st.scope.perLine then .lineEnd else .lastLineEnd) :: done) (st.at r)
        | '*' => do
          let (done, st) ← orMalformed (repeated? st done 0 none r)
          readItems fuel top done st
        | '+' => do
          let (done, st) ← orMalformed (repeated? st done 1 none r)
          readItems fuel top done st
        | '?' => do
          let (done, st) ← orMalformed (repeated? st done 0 (some 1) r)
          readItems fuel top done st
        | '\x7b' =>
          match bounds? r with
          | none => readItems fuel top (literal st.scope c.toNat :: done) (st.at r)
          | some (low, high, rest) => do
            let (least, most) ← counts low high rest
            let (done, st) ← orMalformed (repeated? st done least most rest)
            readItems fuel top done st
        | '(' => do
          let (item?, st) ← readGroup fuel (top && done.isEmpty) st r
          match item? with
          | some item => readItems fuel top (item :: done) st
          | none => readItems fuel top done st
        | c => readItems fuel top (literal st.scope c.toNat :: done) (st.at r)

/-- A group after its opening parenthesis; a comment or a change of options is no item. -/
def readGroup : Nat → Bool → Reader → Text → Except Refusal (Option Regex × Reader)
  | 0, _, _, _ => .error .malformed
  | fuel + 1, start, st, t =>
    match t with
    | '?' :: 'P' :: '<' :: r => do
      let (name, rest) ← orMalformed (name? '>' r)
      require (st.names.lookup name).isNone
      readCaptured fuel (some name) st rest
    | '?' :: 'P' :: '=' :: r => do
      let (name, rest) ← orMalformed (name? ')' r)
      let n ← orMalformed (st.names.lookup name)
      require (st.mayRefer n)
      return (some (.backref n st.scope.case), st.at rest)
    | '?' :: ':' :: r => do
      let (body, st) ← readEnclosed fuel (st.at r)
      return (some (.group none body), st)
    | '?' :: '#' :: r => do
      let rest ← orMalformed (afterComment? r)
      return (none, st.at rest)
    | '?' :: '=' :: r => do
      let (body, st) ← readEnclosed fuel (st.at r)
      return (some (.ahead false body), st)
    | '?' :: '!' :: r => do
      let (body, st) ← readEnclosed fuel (st.at r)
      return (some (.ahead true body), st)
    | '?' :: '<' :: c :: r => do
      require (c == '=' || c == '!')
      let (body, st') ← readEnclosed fuel { st with rest := r, behind := some (st.behind.getD st.groups) }
      -- whether the width is fixed is settled at the end of the expression
      let (least, most) := body.width st'.groupWidth
      let fixed := most == some least && least ≤ countLimit
      return (some (.behind (c == '!') least body), { st' with behind := st.behind, fixed := st'.fixed && fixed })
    | '?' :: '(' :: r => do
      let (n, named, rest) ← orMalformed (conditionGroup? st r)
      require (st.seenBehind n)
      let st := { st with rest, conditions := if named then st.conditions else n :: st.conditions }
      readConditional fuel n st
    | '?' :: '>' :: r => do
      let (body, st) ← readEnclosed fuel (st.at r)
      return (some (.atomic body), st)
    | '?' :: r =>
      match optionGroup? st.scope r with
      | some (.whole letters scope rest) =>
        if start then .ok (none, { st with scope, rest, whole := letters ++ st.whole }) else .error .malformed
      | some (.part scope rest) => do
        let (body, st') ← readEnclosed fuel { st with scope, rest }
        return (some (.group none body), { st' with scope := st.scope })
      | none => .error .malformed
    | r => readCaptured fuel none st r

/-- The body of a group and its closing parenthesis. -/
def readEnclosed : Nat → Reader → Except Refusal (Regex × Reader)
  | 0, _ => .error .malformed
  | fuel + 1, st => do
    let (body, st) ← readAlternatives fuel false st
    let st ← orMalformed (closeParen? st)
    return (body, st)

/-- A group that captures. -/
def readCaptured : Nat → Option Text → Reader → Text → Except Refusal (Option Regex × Reader)
  | 0, _, _, _ => .error .malformed
  | fuel + 1, name, st, rest => do
    let (n, st) := openGroup st name rest
    let (body, st) ← readEnclosed fuel st
    return (some (.group (some n) body), { st with closed := (n, body.width st.groupWidth) :: st.closed })

/-- The one or two branches of a conditional group. -/
def readConditional : Nat → Nat → Reader → Except Refusal (Option Regex × Reader)
  | 0, _, _ => .error .malformed
  | fuel + 1, n, st => do
    let (present, st) ← readItems fuel false [] st
    match st.rest with
    | '|' :: r =>
      let (absent, st) ← readItems fuel false [] (st.at r)
      let st ← orMalformed (closeParen? st)
      return (some (.ifGroup n (ofList present.reverse) (ofList absent.reverse)), st)
    | _ =>
      let st ← orMalformed (closeParen? st)
      return (some (.ifGroup n (ofList present.reverse) .empty), st)

end

/-- Whether the options for the whole expression exclude each other. -/
def Reader.clashes (st : Reader) : Bool :=
  st.whole.contains 'a' && st.whole.contains 'u'

/-- Whether the whole expression has been read, with groups for all conditions and fixed widths behind. The option `t`
is for expressions without repetitions. -/
def Reader.complete (st : Reader) : Bool :=
  st.rest.isEmpty && st.conditions.all (· < st.groups) && st.fixed && !(st.whole.contains 't' && st.repeating)

end Excerpt.Regex

namespace Excerpt.Pattern

/-- The expression that a text is the written form of. -/
def parse (t : Text) : Except Regex.Refusal Pattern := do
  let (regex, st) ← Regex.readAlternatives (5 * t.length + 5) true (.start t)
  if st.clashes then .error .unfit
  else if st.complete then .ok ⟨regex, st.groups - 1⟩
  else .error .malformed

/-- The expression that a text is the written form of, if it can be read. -/
def parse? (t : Text) : Option Pattern :=
  (parse t).toOption

end Excerpt.Pattern
