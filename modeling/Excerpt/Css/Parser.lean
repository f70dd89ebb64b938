import Excerpt.Css.Pseudo

/-!
# Reading CSS selectors

`Css.parse` reads a selector list from left to right and stops at the first fault. A pseudo-element or an at-rule is a
known form that cannot select elements and is told apart from malformed text.
-/

namespace Excerpt.Css

/-- Why a selector is refused. -/
inductive SelectorDefect where
  | malformed
  | unsupported
deriving DecidableEq, Repr

/-- What is read at the start of a text, and the rest. -/
abbrev Parse (α : Type) := Except SelectorDefect (α × Text)

/-! ## Blanks, names and values -/

/-- What follows a comment. -/
def afterComment? : Text → Option Text
  | [] => none
  | '*' :: '/' :: r => some r
  | _ :: r => afterComment? r

/-- What follows one blank or comment. -/
def afterBlank? : Text → Option Text
  | '\r' :: '\n' :: r => some r
  | '/' :: '*' :: r => afterComment? r
  | c :: r => if isBlank c then some r else none
  | [] => none

/-- What follows blanks and comments, at most `n` of them. -/
def skipBlanks : Nat → Text → Text
  | 0, t => t
  | n + 1, t =>
    match afterBlank? t with
    | some r => skipBlanks n r
    | none => t

/-- What follows blanks and comments. -/
def skip (t : Text) : Text :=
  skipBlanks t.length t

/-- Line breaks. -/
def isBreak (c : Char) : Bool :=
  c == '\n' || c == '\r' || c == '\x0c'

/-- Up to `n` hexadecimal digits at the start, as a number, with the count of them and the rest. -/
def hexRun : Nat → Text → Nat × Nat × Text
  | 0, t => (0, 0, t)
  | n + 1, t => go (n + 1) 0 0 t
where
  go : Nat → Nat → Nat → Text → Nat × Nat × Text
    | 0, acc, count, t => (acc, count, t)
    | _ + 1, acc, count, [] => (acc, count, [])
    | n + 1, acc, count, c :: r =>
      let value? : Option Nat :=
        if c.isDigit then some (c.toNat - 48)
        else if 'a' ≤ c ∧ c ≤ 'f' then some (c.toNat - 87)
        else if 'A' ≤ c ∧ c ≤ 'F' then some (c.toNat - 55)
        else none
      match value? with
      | some d => go n (16 * acc + d) (count + 1) r
      | none => (acc, count, c :: r)

/-- The character with a code; the replacement character if there is none. -/
def codeChar (n : Nat) : Char :=
  if n = 0 ∨ 0x110000 ≤ n ∨ (0xD800 ≤ n ∧ n < 0xE000) then '\ufffd' else Char.ofNat n

/-- The character of an escape after its backslash, and the rest. -/
def escape? (t : Text) : Option (Char × Text) :=
  match t with
  | [] => some ('\ufffd', [])
  | c :: r =>
    match hexRun 6 t with
    | (_, 0, _) => if isBreak c then none else some (c, r)
    | (n, _ + 1, rest) =>
      let rest :=
        match rest with
        | '\r' :: '\n' :: r => r
        | c :: r => if isBlank c then r else c :: r
        | [] => []
      some (codeChar n, rest)

/-- Characters that a name may begin with, a hyphen before them apart. -/
def isNameStart (c : Char) : Bool :=
  c.isAlpha || c == '_' || 0xA0 ≤ c.toNat

/-- Characters of a name. -/
def isNameChar (c : Char) : Bool :=
  isNameStart c || c.isDigit || c == '-'

/-- The characters of a name and the rest, at most `n` of them. -/
def nameChars : Nat → Text → Text × Text
  | 0, t => ([], t)
  | n + 1, t =>
    match t with
    | '\\' :: r =>
      match escape? r with
      | some (c, rest) =>
        let (cs, rest) := nameChars n rest
        (c :: cs, rest)
      | none => ([], t)
    | c :: r =>
      if isNameChar c then
        let (cs, rest) := nameChars n r
        (c :: cs, rest)
      else ([], t)
    | [] => ([], [])

/-- Whether a name begins here. -/
def nameBegins : Text → Bool
  | '-' :: '-' :: _ => true
  | '-' :: c :: r => isNameStart c || (c == '\\' && (escape? r).isSome)
  | c :: r => isNameStart c || (c == '\\' && (escape? r).isSome)
  | [] => false

/-- A name and the rest. -/
def name? (t : Text) : Option (String × Text) :=
  if nameBegins t then
    let (cs, rest) := nameChars t.length t
    some (String.ofList cs, rest)
  else none

/-- The characters of a quoted value up to the quote, and what follows it. -/
def quotedChars? (quote : Char) : Nat → Text → Option (Text × Text)
  | 0, _ => none
  | n + 1, t =>
    match t with
    | [] => none
    | '\\' :: '\r' :: '\n' :: r => quotedChars? quote n r
    | '\\' :: c :: r =>
      if isBreak c then quotedChars? quote n r
      else
        match escape? (c :: r) with
        | some (d, rest) => (quotedChars? quote n rest).map fun (cs, rest) => (d :: cs, rest)
        | none => none
    | c :: r =>
      if c = quote then some ([], r)
      else if isBreak c || c == '\\' then none
      else (quotedChars? quote n r).map fun (cs, rest) => (c :: cs, rest)

/-- A quoted value or a name, and the rest. -/
def value? (t : Text) : Option (Text × Text) :=
  match t with
  | '"' :: r => quotedChars? '"' (r.length + 1) r
  | '\'' :: r => quotedChars? '\'' (r.length + 1) r
  | t => (name? t).map fun (s, rest) => (s.toList, rest)

/-! ## Attributes -/

/-- The comparison that a sign before the equals sign stands for; the flag says that the outcome is reversed. -/
def comparison? : Text → Option (ValueTest × Bool × Text)
  | '=' :: r => some (.equal, false, r)
  | '!' :: '=' :: r => some (.equal, true, r)
  | '^' :: '=' :: r => some (.starting, false, r)
  | '$' :: '=' :: r => some (.ending, false, r)
  | '*' :: '=' :: r => some (.containing, false, r)
  | '~' :: '=' :: r => some (.word, false, r)
  | '|' :: '=' :: r => some (.dashed, false, r)
  | _ => none

/-- The end of an attribute test: an optional sign for case, and the bracket. -/
def caseSign? (t : Text) : Option (Option Bool × Text) :=
  match skip t with
  | ']' :: rest => some (none, rest)
  | c :: r =>
    match skip r with
    | ']' :: rest =>
      if c == 'i' || c == 'I' then some (some true, rest)
      else if c == 's' || c == 'S' then some (some false, rest)
      else none
    | _ => none
  | [] => none

/-- A name after an optional namespace, which any element is in; and the rest. -/
def qualifiedName? (t : Text) : Option (String × Text) :=
  match t with
  | '|' :: r => name? r
  | '*' :: '|' :: r => name? r
  | t => (name? t).map fun (s, rest) => (s, rest)

/-- An attribute test after its opening bracket. -/
def attrTest? (t : Text) : Option (Test × Text) := do
  let (name, r) ← qualifiedName? (skip t)
  let r := skip r
  match comparison? r with
  | none =>
    match r with
    | ']' :: rest => return (.attr ⟨smallName name, .present, [], false⟩, rest)
    | _ => none
  | some (test, reversed, r) =>
    let (value, r) ← value? (skip r)
    let (sign, rest) ← caseSign? r
    let a : AttrTest := ⟨smallName name, test, value, sign.getD (smallName name == "type")⟩
    return (if reversed then .noneOf [.only [.attr a]] else .attr a, rest)

/-! ## Series -/

/-- Digits as a number, and the rest; `none` without digits. -/
def number? (t : Text) : Option (Nat × Text) :=
  match t.span Char.isDigit with
  | ([], _) => none
  | (ds, rest) => some (Text.natValue ds, rest)

/-- The number after a sign, which may have blanks around it. -/
def signedTail? (t : Text) : Option (Int × Text) :=
  match skip t with
  | '+' :: r => (number? (skip r)).map fun (n, rest) => ((n : Int), rest)
  | '-' :: r => (number? (skip r)).map fun (n, rest) => (-(n : Int), rest)
  | _ => none

/-- A series such as `2n+1`, `even` or `5`. -/
def series? (t : Text) : Option (Series × Text) :=
  let small := t.map Char.toLower
  if Text.startsWith "even".toList small then some (⟨2, 0⟩, t.drop 4)
  else if Text.startsWith "odd".toList small then some (⟨2, 1⟩, t.drop 3)
  else
    let (sign, r) : Int × Text :=
      match t with
      | '-' :: r => (-1, r)
      | '+' :: r => (1, r)
      | t => (1, t)
    let (digits, r) := r.span Char.isDigit
    match r with
    | c :: rest =>
      if c == 'n' || c == 'N' then
        let step : Int := if digits.isEmpty then sign else sign * Text.natValue digits
        match signedTail? rest with
        | some (b, rest) => some (⟨step, b⟩, rest)
        | none => some (⟨step, 0⟩, rest)
      else if digits.isEmpty then none
      else some (⟨0, sign * Text.natValue digits⟩, r)
    | [] => none

/-- What follows the word `of` with blanks on both sides. -/
def afterOf? (t : Text) : Option Text :=
  match skip t with
  | c :: d :: r =>
    if (c == 'o' || c == 'O') && (d == 'f' || d == 'F') && (skip t).length < t.length && (skip r).length < r.length then
      some (skip r)
    else none
  | _ => none

/-! ## Lists -/

/-- The combinator that a sign stands for. -/
def combinatorOf : Char → Combinator
  | '>' => .child
  | '+' => .adjacent
  | '~' => .sibling
  | _ => .descendant

/-- Signs between compounds. -/
def isSign (c : Char) : Bool :=
  c == ',' || c == '+' || c == '>' || c == '~'

/-- The sign between two compounds, a blank for the descendant one, and what follows. -/
def sign? : Nat → Text → Option (Char × Text)
  | 0, _ => none
  | n + 1, t =>
    match t with
    | [] => none
    | c :: r =>
      if isSign c then some (c, skip r)
      else
        match afterBlank? t with
        | none => none
        | some rest =>
          if isBlank c && !((rest.head?.map isSign).getD false) then some (' ', skip rest) else sign? n rest

/-- What follows a closing parenthesis. -/
def close? (t : Text) : Option Text :=
  match skip t with
  | ')' :: r => some r
  | _ => none

/-- How a list in parentheses is read: `inside` says that a parenthesis has to close it, `forgiving` that items may be
missing. -/
structure ListMode where
  inside : Bool
  forgiving : Bool

/-- A chain with one more compound. -/
def extend (earlier : Option (Chain × Combinator)) (tests : List Test) : Chain :=
  match earlier with
  | none => .only tests.reverse
  | some (chain, c) => .join chain c tests.reverse

/-- A chain away from an element, from its compounds in reverse. -/
def lookaheadOf (last : Combinator × List Test) : List (Combinator × List Test) → Lookahead
  | [] => .only last.1 last.2
  | before => go before (.only last.1 last.2)
where
  go : List (Combinator × List Test) → Lookahead → Lookahead
    | [], l => l
    | (c, ts) :: rest, l => go rest (.join c ts l)

/-- Values with commas between them, up to a closing parenthesis, at most `n` of them. -/
def values? : Nat → Text → Option (List Text × Text)
  | 0, _ => none
  | n + 1, t => do
    let (v, r) ← value? t
    match close? r, skip r with
    | some rest, _ => return ([v], rest)
    | none, ',' :: r =>
      let (vs, rest) ← values? n (skip r)
      return (v :: vs, rest)
    | none, _ => none

/-- The tests of a pseudo-class whose parentheses hold values, after the opening one. -/
def valuePseudo? (name : String) (t : Text) : Option (Test × Text) :=
  match name with
  | ":contains" | ":-soup-contains" => (values? t.length t).map fun (vs, rest) => (.mentions false vs, rest)
  | ":-soup-contains-own" => (values? t.length t).map fun (vs, rest) => (.mentions true vs, rest)
  | ":lang" => (values? t.length t).map fun (vs, rest) => (.language vs, rest)
  | ":dir" => do
    let d ← namedDirection? (t.take 3)
    let rest ← close? (t.drop 3)
    return (.direction d, rest)
  | _ => none

/-- Fails as malformed without a value. -/
def orMalformed {α : Type} : Option α → Except SelectorDefect α
  | some a => .ok a
  | none => .error .malformed

mutual

/-- A list of chains from a state: the chains done, the chain that the current compound continues, and the tests of the
compound, latest first. -/
def chains : Nat → ListMode → List Chain → Option (Chain × Combinator) → List Test → Text → Parse (List Chain)
  | 0, _, _, _, _, _ => .error .malformed
  | fuel + 1, mode, done, earlier, tests, t =>
    if (skip t).isEmpty then
      if mode.inside || tests.isEmpty then .error .malformed else .ok ((extend earlier tests :: done).reverse, [])
    else
      match close? t with
      | some rest =>
        if !mode.inside then .error .malformed
        else if !tests.isEmpty then .ok ((extend earlier tests :: done).reverse, rest)
        else if mode.forgiving && (done.isEmpty || earlier.isNone) then .ok ((.only [.never] :: done).reverse, rest)
        else .error .malformed
      | none =>
        match simple fuel t with
        | .error e => .error e
        | .ok (some (new, isTag), rest) =>
          if isTag && !tests.isEmpty then .error .malformed
          else chains fuel mode done earlier (new.reverse ++ tests) rest
        | .ok (none, _) =>
          match sign? t.length t with
          | none => .error .malformed
          | some (c, rest) =>
            if tests.isEmpty then
              if mode.forgiving && c == ',' then chains fuel mode (.only [.never] :: done) none [] rest
              else .error .malformed
            else if c == ',' then chains fuel mode (extend earlier tests :: done) none [] rest
            else chains fuel mode done (some (extend earlier tests, combinatorOf c)) [] rest

/-- A list of chains that lead away from an element, up to a closing parenthesis. -/
def lookaheads : Nat → List Lookahead → List (Combinator × List Test) → Combinator → List Test → Text →
    Parse (List Lookahead)
  | 0, _, _, _, _, _ => .error .malformed
  | fuel + 1, done, before, lead, tests, t =>
    if (skip t).isEmpty then .error .malformed
    else
      match close? t with
      | some rest =>
        if tests.isEmpty then .error .malformed
        else .ok ((lookaheadOf (lead, tests.reverse) before :: done).reverse, rest)
      | none =>
        match simple fuel t with
        | .error e => .error e
        | .ok (some (new, isTag), rest) =>
          if isTag && !tests.isEmpty then .error .malformed
          else lookaheads fuel done before lead (new.reverse ++ tests) rest
        | .ok (none, _) =>
          match sign? t.length t with
          | none => .error .malformed
          | some (c, rest) =>
            if c == ',' then
              lookaheads fuel (lookaheadOf (lead, tests.reverse) before :: done) [] .descendant [] rest
            else if !tests.isEmpty then
              lookaheads fuel done ((lead, tests.reverse) :: before) (combinatorOf c) [] rest
            else if lead == .descendant then lookaheads fuel done before (combinatorOf c) [] rest
            else .error .malformed

/-- The tests that one simple selector stands for, and whether it is a tag; nothing if none begins here. -/
def simple : Nat → Text → Parse (Option (List Test × Bool))
  | 0, _ => .error .malformed
  | fuel + 1, t =>
    match t with
    | ':' :: ':' :: r => if (name? r).isSome then .error .unsupported else .error .malformed
    | ':' :: r =>
      match name? r with
      | none => .error .malformed
      | some (name, r) =>
        match pseudo fuel (":" ++ smallName name) r with
        | .error e => .error e
        | .ok (ts, rest) => .ok (some (ts, false), rest)
    | '&' :: r => .ok (some ([.scope], false), r)
    | '@' :: c :: r => if (c == 'p' || c == 'P') && (name? r).isSome then .error .unsupported else .error .malformed
    | '#' :: r => (orMalformed (name? r)).map fun (s, rest) => (some ([.id s], false), rest)
    | '.' :: r => (orMalformed (name? r)).map fun (s, rest) => (some ([.cls s], false), rest)
    | '[' :: r => (orMalformed (attrTest? r)).map fun (a, rest) => (some ([a], false), rest)
    | '*' :: '|' :: '*' :: r => .ok (some ([.anyTag], true), r)
    | '*' :: '|' :: r =>
      match name? r with
      | some (s, rest) => .ok (some ([.tag s], true), rest)
      | none => .ok (some ([.anyTag], true), '|' :: r)
    | '*' :: r => .ok (some ([.anyTag], true), r)
    | '|' :: '*' :: r => .ok (some ([.noNamespace], true), r)
    | '|' :: r => (orMalformed (name? r)).map fun (_, rest) => (some ([.noNamespace], true), rest)
    | t =>
      match name? t with
      | none => .ok (none, t)
      | some (_, '|' :: '*' :: rest) => .ok (some ([.noNamespace], true), rest)
      | some (s, '|' :: rest) =>
        match name? rest with
        | some (_, rest) => .ok (some ([.noNamespace], true), rest)
        | none => .ok (some ([.tag s], true), '|' :: rest)
      | some (s, rest) => .ok (some ([.tag s], true), rest)

/-- The tests of a pseudo-class, after its name. -/
def pseudo : Nat → String → Text → Parse (List Test)
  | 0, _, _ => .error .malformed
  | fuel + 1, name, t =>
    match t with
    | '(' :: r =>
      let r := skip r
      match counting? name, valuePseudo? name r with
      | some counting, _ =>
        match series? r with
        | none => .error .malformed
        | some (series, rest) =>
          match close? rest with
          | some rest => .ok ([.nth series counting []], rest)
          | none =>
            match afterOf? rest with
            | some rest =>
              if counting.ofTag then .error .malformed
              else
                match chains fuel ⟨true, false⟩ [] none [] rest with
                | .error e => .error e
                | .ok (among, rest) => .ok ([.nth series counting among], rest)
            | none => .error .malformed
      | none, some (test, rest) => .ok ([test], rest)
      | none, none =>
        if name == ":has" then
          match lookaheads fuel [] [] .descendant [] r with
          | .error e => .error e
          | .ok (ls, rest) => .ok ([.having ls], rest)
        else if listNames.contains name then
          match chains fuel ⟨true, name == ":is" || name == ":where"⟩ [] none [] r with
          | .error e => .error e
          | .ok (cs, rest) => .ok ([if name == ":not" then .noneOf cs else .oneOf cs], rest)
        else if liveNames.contains name then
          match chains fuel ⟨true, false⟩ [] none [] r with
          | .error e => .error e
          | .ok (_, rest) => .ok ([.never], rest)
        else .error .malformed
    | t =>
      match simplePseudo? name with
      | some ts => .ok (ts, t)
      | none => .error .malformed

end

/-- The chains of a selector list. -/
def parse (t : Text) : Except SelectorDefect (List Chain) :=
  (chains (6 * t.length + 6) ⟨false, false⟩ [] none [] (skip t)).map (·.1)

end Excerpt.Css
