import Mathlib.Data.List.TakeWhile
import Excerpt.Proofs.Rule.Restored

/-!
# Nested repetitions

Matching may run away if a group is repeated without a bound and holds a repetition without a bound (`Regex.IsNested`).
The check of expressions looks at the text alone: it refuses an expression that spells a group without parentheses
inside, with a star or a plus in it and a repetition sign behind it (`FlatNested`). `nested_refused_iff` says that
these, and the ones that are too long, are all the nested expressions that cannot get into a rule.
-/

namespace Excerpt

namespace Regex

/-! ## Nested repetitions of an expression -/

/-- The expression holds a repetition without a bound. -/
def HasUnbounded : Regex → Prop
  | .seq a b | .alt a b | .ifGroup _ a b => a.HasUnbounded ∨ b.HasUnbounded
  | .group _ a | .ahead _ a | .behind _ _ a | .atomic a => a.HasUnbounded
  | .loop _ most _ a => most = none ∨ a.HasUnbounded
  | .empty | .any _ | .set _ | .anchor _ | .backref .. => False

/-- The expression holds a repetition without a bound of something that holds another one. -/
def IsNested : Regex → Prop
  | .seq a b | .alt a b | .ifGroup _ a b => a.IsNested ∨ b.IsNested
  | .group _ a | .ahead _ a | .behind _ _ a | .atomic a => a.IsNested
  | .loop _ most _ a => (most = none ∧ a.HasUnbounded) ∨ a.IsNested
  | .empty | .any _ | .set _ | .anchor _ | .backref .. => False

end Regex

namespace Expression

/-! ## Nested repetitions of a text -/

/-- A text without parentheses but for escaped ones; what is escaped is no line break. -/
inductive Flat : Text → Prop
  | nil : Flat []
  | char {c : Char} {t : Text} (hopen : c ≠ '(') (hclose : c ≠ ')') (hescape : c ≠ '\\') (ht : Flat t) : Flat (c :: t)
  | escape {c : Char} {t : Text} (hc : c ≠ '\n') (ht : Flat t) : Flat ('\\' :: c :: t)

/-- A star or a plus. -/
def IsSign (c : Char) : Prop :=
  c = '*' ∨ c = '+'

/-- A star, a plus, or braces with a comma between digits that may be missing. -/
def Repeating (t : Text) : Prop :=
  (∃ c r, t = c :: r ∧ IsSign c) ∨
    ∃ low high r, t = '\x7b' :: (low ++ ',' :: (high ++ '\x7d' :: r)) ∧
      (∀ c ∈ low, Text.isDecimal c = true) ∧ ∀ c ∈ high, Text.isDecimal c = true

/-- A group that is flat but for its own parentheses has a star or a plus in it and a repetition sign behind it. -/
def FlatNested (t : Text) : Prop :=
  ∃ before a sign b rest, t = before ++ '(' :: (a ++ sign :: (b ++ ')' :: rest)) ∧
    Flat a ∧ IsSign sign ∧ Flat b ∧ Repeating rest

theorem repetitionFollows_iff (t : Text) : repetitionFollows t = true ↔ Repeating t := by
  constructor
  · intro h
    rw [repetitionFollows.eq_def] at h
    split at h
    · exact .inl ⟨_, _, rfl, .inl rfl⟩
    · exact .inl ⟨_, _, rfl, .inr rfl⟩
    · rename_i r
      split at h
      · rename_i r' hr
        obtain ⟨r'', hr'⟩ := List.head?_eq_some_iff.mp (beq_iff_eq.mp h)
        refine .inr ⟨r.takeWhile Text.isDecimal, r'.takeWhile Text.isDecimal, r'', ?_, fun c => List.mem_takeWhile_imp,
          fun c => List.mem_takeWhile_imp⟩
        rw [← hr', List.takeWhile_append_dropWhile, ← hr, List.takeWhile_append_dropWhile]
      · cases h
    · cases h
  · rintro (⟨c, r, rfl, rfl | rfl⟩ | ⟨low, high, r, rfl, hlow, hhigh⟩)
    · rfl
    · rfl
    · have hcomma : (',' :: (high ++ '\x7d' :: r)).dropWhile Text.isDecimal = ',' :: (high ++ '\x7d' :: r) :=
        List.dropWhile_cons_of_neg (by decide)
      have hbrace : ('\x7d' :: r).dropWhile Text.isDecimal = '\x7d' :: r := List.dropWhile_cons_of_neg (by decide)
      rw [repetitionFollows, List.dropWhile_append_of_pos hlow, hcomma]
      change (((high ++ '\x7d' :: r).dropWhile Text.isDecimal).head? == some '\x7d') = true
      rw [List.dropWhile_append_of_pos hhigh, hbrace]
      rfl

/-! ### What stands behind a flat text -/

/-- Behind a flat beginning stands a text with the property. -/
def After (P : Text → Prop) (t : Text) : Prop :=
  ∃ a r, t = a ++ r ∧ Flat a ∧ P r

section After

variable {P : Text → Prop} {c : Char} {t : Text}

theorem After.here (h : P t) : After P t :=
  ⟨[], t, rfl, .nil, h⟩

theorem After.char (hopen : c ≠ '(') (hclose : c ≠ ')') (hescape : c ≠ '\\') (h : After P t) : After P (c :: t) := by
  obtain ⟨a, r, rfl, ha, hr⟩ := h
  exact ⟨c :: a, r, rfl, .char hopen hclose hescape ha, hr⟩

theorem After.escape (hc : c ≠ '\n') (h : After P t) : After P ('\\' :: c :: t) := by
  obtain ⟨a, r, rfl, ha, hr⟩ := h
  exact ⟨'\\' :: c :: a, r, rfl, .escape hc ha, hr⟩

/-- What stands behind a flat text stands right here, or behind the flat rest of it. -/
theorem after_cases (h : After P t) :
    P t ∨ (∃ c r, t = c :: r ∧ c ≠ '(' ∧ c ≠ ')' ∧ c ≠ '\\' ∧ After P r) ∨
      ∃ c r, t = '\\' :: c :: r ∧ c ≠ '\n' ∧ After P r := by
  obtain ⟨a, r, rfl, ha, hr⟩ := h
  cases ha with
  | nil => exact .inl hr
  | char hopen hclose hescape ha => exact .inr (.inl ⟨_, _, rfl, hopen, hclose, hescape, _, _, rfl, ha, hr⟩)
  | escape hc ha => exact .inr (.inr ⟨_, _, rfl, hc, _, _, rfl, ha, hr⟩)

theorem after_nil : After P [] ↔ P [] := by
  refine ⟨fun h => ?_, .here⟩
  rcases after_cases h with h | ⟨c, r, h, -⟩ | ⟨c, r, h, -⟩
  · exact h
  · cases h
  · cases h

theorem after_lone : After P ['\\'] ↔ P ['\\'] := by
  refine ⟨fun h => ?_, .here⟩
  rcases after_cases h with h | ⟨c, r, he, -, -, hescape, -⟩ | ⟨c, r, he, -⟩
  · exact h
  · cases he
    exact (hescape rfl).elim
  · cases he

theorem after_paren (hc : c = '(' ∨ c = ')') : After P (c :: t) ↔ P (c :: t) := by
  refine ⟨fun h => ?_, .here⟩
  rcases after_cases h with h | ⟨d, r, he, hopen, hclose, -⟩ | ⟨d, r, he, -⟩
  · exact h
  · cases he
    exact (hc.elim hopen hclose).elim
  · cases he
    rcases hc with hc | hc <;> cases hc

theorem after_escape : After P ('\\' :: c :: t) ↔ P ('\\' :: c :: t) ∨ (c ≠ '\n' ∧ After P t) := by
  constructor
  · intro h
    rcases after_cases h with h | ⟨d, r, he, -, -, hescape, -⟩ | ⟨d, r, he, hd, hr⟩
    · exact .inl h
    · cases he
      exact (hescape rfl).elim
    · cases he
      exact .inr ⟨hd, hr⟩
  · rintro (h | ⟨hc, h⟩)
    · exact .here h
    · exact h.escape hc

theorem after_char (hopen : c ≠ '(') (hclose : c ≠ ')') (hescape : c ≠ '\\') :
    After P (c :: t) ↔ P (c :: t) ∨ After P t := by
  constructor
  · intro h
    rcases after_cases h with h | ⟨d, r, he, -, -, -, hr⟩ | ⟨d, r, he, -⟩
    · exact .inl h
    · cases he
      exact .inr hr
    · cases he
      exact (hescape rfl).elim
  · rintro (h | h)
    · exact .here h
    · exact h.char hopen hclose hescape

end After

/-- The group ends here and is repeated. -/
def Ends (t : Text) : Prop :=
  ∃ rest, t = ')' :: rest ∧ Repeating rest

/-- A star or a plus stands here, and the group that it stands in has no further parentheses and is repeated. -/
def Signs (t : Text) : Prop :=
  ∃ sign r, t = sign :: r ∧ IsSign sign ∧ After Ends r

theorem not_ends_nil : ¬ Ends [] := by
  rintro ⟨rest, h, -⟩
  cases h

theorem ends_cons {c : Char} {t : Text} : Ends (c :: t) ↔ c = ')' ∧ Repeating t := by
  constructor
  · rintro ⟨rest, h, hrest⟩
    cases h
    exact ⟨rfl, hrest⟩
  · rintro ⟨rfl, h⟩
    exact ⟨t, rfl, h⟩

theorem not_signs_nil : ¬ Signs [] := by
  rintro ⟨sign, r, h, -⟩
  cases h

theorem signs_cons {c : Char} {t : Text} : Signs (c :: t) ↔ IsSign c ∧ After Ends t := by
  constructor
  · rintro ⟨sign, r, h, hsign, hr⟩
    cases h
    exact ⟨hsign, hr⟩
  · rintro ⟨hc, h⟩
    exact ⟨c, t, rfl, hc, h⟩

theorem IsSign.plain {c : Char} (h : IsSign c) : c ≠ '(' ∧ c ≠ ')' ∧ c ≠ '\\' := by
  rcases h with rfl | rfl <;> decide

theorem after_ends_of_signs {t : Text} (h : After Signs t) : After Ends t := by
  obtain ⟨a, r, rfl, ha, hr⟩ := h
  induction ha with
  | nil =>
    obtain ⟨sign, r, rfl, hsign, hr⟩ := hr
    exact hr.char hsign.plain.1 hsign.plain.2.1 hsign.plain.2.2
  | char hopen hclose hescape _ ih => exact ih.char hopen hclose hescape
  | escape hc _ ih => exact ih.escape hc

theorem not_isSign_paren {c : Char} (hc : c = '(' ∨ c = ')') : ¬ IsSign c := by
  intro h
  rcases hc with rfl | rfl
  · exact h.plain.1 rfl
  · exact h.plain.2.1 rfl

theorem not_isSign_escape : ¬ IsSign '\\' :=
  fun h => h.plain.2.2 rfl

/-- What the scan of a group looks for: its end, and a sign before it unless one has been seen. -/
def Sought (seen : Bool) (t : Text) : Prop :=
  if seen then After Ends t else After Signs t

/-- Behind a character that is not a parenthesis and escapes nothing, the same is sought, or the end once it
is a sign. -/
theorem sought_char {c : Char} (hopen : c ≠ '(') (hclose : c ≠ ')') (hescape : c ≠ '\\') (seen : Bool) (t : Text) :
    Sought seen (c :: t) ↔ Sought (seen || c == '*' || c == '+') t := by
  have hsign : IsSign c ↔ (c == '*' || c == '+') = true := by simp [IsSign]
  rw [Bool.or_assoc]
  cases seen with
  | true => simp [Sought, after_char hopen hclose hescape, ends_cons, hclose]
  | false =>
    cases hc : c == '*' || c == '+' with
    | true =>
      simp only [Sought, Bool.false_or, after_char hopen hclose hescape, signs_cons, hsign, hc, true_and]
      exact or_iff_left_of_imp after_ends_of_signs
    | false => simp [Sought, after_char hopen hclose hescape, signs_cons, hsign, hc]

theorem repeatedGroupFollows_iff (seen : Bool) (t : Text) : repeatedGroupFollows seen t = true ↔ Sought seen t := by
  induction seen, t using repeatedGroupFollows.induct with
  | case1 seen => cases seen <;> simp [repeatedGroupFollows, Sought, after_nil, not_ends_nil, not_signs_nil]
  | case2 seen =>
    cases seen <;> simp [repeatedGroupFollows, Sought, after_lone, ends_cons, signs_cons, not_isSign_escape]
  | case3 seen t =>
    cases seen <;> simp [repeatedGroupFollows, Sought, after_paren, ends_cons, signs_cons, not_isSign_paren]
  | case4 seen c t ih =>
    rw [repeatedGroupFollows, Bool.and_eq_true, ih]
    cases seen <;> simp [Sought, after_escape, ends_cons, signs_cons, not_isSign_escape]
  | case5 seen t =>
    cases seen <;> simp [repeatedGroupFollows, Sought, after_paren, ends_cons, signs_cons, not_isSign_paren,
      repetitionFollows_iff]
  | case6 seen c t hlone hopen hescape hclose ih =>
    have hc : c ≠ '\\' := by
      rintro rfl
      cases t with
      | nil => exact hlone rfl rfl
      | cons d t => exact hescape d t rfl rfl
    have hstep : repeatedGroupFollows seen (c :: t) = repeatedGroupFollows (seen || c == '*' || c == '+') t := by
      rw [repeatedGroupFollows] <;> assumption
    rw [hstep, ih, sought_char hopen hclose hc]

/-- The check of a text finds the nested repetitions that are flat. -/
theorem hasNestedRepetition_iff (t : Text) : hasNestedRepetition t = true ↔ FlatNested t := by
  have hscan : ∀ t, hasNestedRepetition t = true ↔ ∃ before r, t = before ++ '(' :: r ∧ After Signs r := by
    intro t
    induction t with
    | nil => simp [hasNestedRepetition]
    | cons c t ih =>
      rw [hasNestedRepetition, Bool.or_eq_true, Bool.and_eq_true, beq_iff_eq, ih, repeatedGroupFollows_iff, Sought]
      constructor
      · rintro (⟨rfl, h⟩ | ⟨before, r, rfl, h⟩)
        · exact ⟨[], t, rfl, h⟩
        · exact ⟨c :: before, r, rfl, h⟩
      · rintro ⟨before, r, ht, h⟩
        cases before with
        | nil =>
          cases ht
          exact .inl ⟨rfl, h⟩
        | cons d before =>
          cases ht
          exact .inr ⟨before, r, rfl, h⟩
  rw [hscan]
  constructor
  · rintro ⟨before, r, rfl, a, -, rfl, ha, sign, -, rfl, hsign, b, -, rfl, hb, rest, rfl, hrest⟩
    exact ⟨before, a, sign, b, rest, rfl, ha, hsign, hb, hrest⟩
  · rintro ⟨before, a, sign, b, rest, rfl, ha, hsign, hb, hrest⟩
    exact ⟨before, _, rfl, a, _, rfl, ha, sign, _, rfl, hsign, b, _, rfl, hb, rest, rfl, hrest⟩

/-! ## Refused expressions -/

/-- The text is too long, or holds a flat nested repetition. -/
def Refused (limit : Int) (t : Text) : Prop :=
  limit < t.length ∨ FlatNested t

theorem check_error_iff (limit : Int) (t : Text) : (∃ e, check limit t = .error e) ↔ Refused limit t := by
  rw [check, Refused, ← hasNestedRepetition_iff]
  split
  · simp [*]
  · split <;> simp [*]

theorem parse_eq_ok {t : Text} {p : Pattern} (h : Pattern.parse? t = some p) : Pattern.parse t = .ok p := by
  rw [Pattern.parse?] at h
  cases hp : Pattern.parse t with
  | error e =>
    rw [hp] at h
    cases h
  | ok q =>
    rw [hp] at h
    rw [Option.some.inj h]

/-- An expression with a nested repetition is not empty. -/
theorem ne_nil_of_isNested {t : Text} {p : Pattern} (hp : Pattern.parse? t = some p) (hn : p.regex.IsNested) :
    t ≠ [] := by
  rintro rfl
  have hempty : Pattern.parse? [] = some ⟨.empty, 0⟩ := rfl
  rw [hempty] at hp
  cases hp
  exact hn

theorem compile_error_iff (limit : Int) {t : Text} (hne : t ≠ []) {p : Pattern} (hp : Pattern.parse? t = some p) :
    (∃ e, compile limit t = .error e) ↔ Refused limit t := by
  rw [← check_error_iff, compile, if_neg (by simpa using hne), parse_eq_ok hp]
  cases check limit t <;> simp

/-! ## Rules -/

/-- Whether the expression can be compiled in a rule. -/
def Compiles (s : String) : Prop :=
  ¬ ∃ e, compile Settings.default.maxExpressionLength s.toList = .error e

/-- An expression is read from a document if it can be compiled, and is kept as it is. -/
theorem expression_eq_ok {d : Doc} {s : String} : Decoded.expression d = .ok s ↔ d = .str s ∧ Compiles s := by
  rw [Decoded.expression, Decoded.andThen_eq_ok]
  simp only [Decoded.string_eq_ok]
  constructor
  · rintro ⟨t, rfl, h⟩
    split at h
    · rename_i p hp
      cases h
      exact ⟨rfl, by simp [Compiles, hp]⟩
    · split at h <;> cases h
  · rintro ⟨rfl, h⟩
    refine ⟨s, rfl, ?_⟩
    split
    · rfl
    · rename_i e he
      exact (h ⟨e, he⟩).elim

/-- An expression that is the default or has been read can be compiled. -/
theorem compiles_of_attrOr {es : Doc.Entries} {key s : String} (h : es.attrOr key "" Decoded.expression = .ok s) :
    Compiles s :=
  (expression_eq_ok.mp (Doc.Entries.attrOr_restores Decoded.restores_expression rfl h)).2

theorem attrOr_of_compiles {es : Doc.Entries} {key k s : String} (hk : es.attr? key = some (k, .str s))
    (h : Compiles s) : es.attrOr key "" Decoded.expression = .ok s :=
  (Doc.Entries.attrOr_of_attr? hk).mpr (expression_eq_ok.mpr ⟨rfl, h⟩)

/-- A rule has exactly the expressions that can be compiled, if reading it compiles its expression and each expression
that can be compiled is that of a rule. -/
theorem exists_built_iff {α : Type} {ofDoc : Doc → Decoded α} {expr : α → String} {s : String}
    (hread : ∀ d a, ofDoc d = .ok a → Compiles (expr a)) (hbuild : Compiles s → ∃ d a, ofDoc d = .ok a ∧ expr a = s) :
    (∃ d a, ofDoc d = .ok a ∧ expr a = s) ↔ Compiles s :=
  ⟨fun ⟨d, a, h, hs⟩ => hs ▸ hread d a h, hbuild⟩

theorem exists_filter_iff (s : String) : (∃ d f, Filter.ofDoc d = .ok f ∧ f.expr = s) ↔ Compiles s := by
  refine exists_built_iff (fun d f h => ?_) fun h => ?_
  · obtain ⟨es, hes⟩ := exists_entries h
    exact compiles_of_attrOr (Filter.ofEntries_eq_ok.mp hes).1
  · exact ⟨.str s, ⟨s, .all, false⟩, Filter.ofEntries_eq_ok.mpr ⟨attrOr_of_compiles rfl h, rfl, rfl⟩, rfl⟩

theorem exists_condition_iff (s : String) : (∃ d c, Condition.ofDoc d = .ok c ∧ c.expr = s) ↔ Compiles s := by
  refine exists_built_iff (fun d c h => ?_) fun h => ?_
  · obtain ⟨es, hes⟩ := exists_entries h
    exact compiles_of_attrOr (Condition.ofEntries_eq_ok.mp hes).1
  · exact ⟨.str s, ⟨s, .accept⟩, Condition.ofEntries_eq_ok.mpr ⟨attrOr_of_compiles rfl h, rfl⟩, rfl⟩

theorem exists_extractor_iff (s : String) : (∃ d x, Extractor.ofDoc d = .ok x ∧ x.expr = s) ↔ Compiles s := by
  refine exists_built_iff (fun d x h => ?_) fun h => ?_
  · obtain ⟨es, hes⟩ := exists_entries h
    exact compiles_of_attrOr (Extractor.ofEntries_eq_ok.mp hes).1
  · refine ⟨.str s, ⟨s, Extractor.defaultFormat, .first, ""⟩, ?_, rfl⟩
    exact Extractor.ofEntries_eq_ok.mpr ⟨attrOr_of_compiles rfl h, rfl, rfl, rfl⟩

theorem exists_validator_iff (s : String) : (∃ d x, Extractor.ofDoc d = .ok x ∧ x.validator = s) ↔ Compiles s := by
  refine exists_built_iff (fun d x h => ?_) fun h => ?_
  · obtain ⟨es, hes⟩ := exists_entries h
    exact compiles_of_attrOr (Extractor.ofEntries_eq_ok.mp hes).2.2.2
  · refine ⟨.map [(.str "validator", .str s)], ⟨"", Extractor.defaultFormat, .first, s⟩, ?_, rfl⟩
    exact Extractor.ofEntries_eq_ok.mpr ⟨rfl, rfl, rfl, attrOr_of_compiles rfl h⟩

/-- **Which nested expressions are refused.** The check of a nested expression fails, and so does its compilation,
exactly if it is too long or holds a flat nested repetition; and exactly then no filter, no condition and no extractor
can be built with it. -/
theorem nested_refused_iff (limit : Int) {s : String} {p : Pattern} (hp : Pattern.parse? s.toList = some p)
    (hn : p.regex.IsNested) :
    ((∃ e, check limit s.toList = .error e) ↔ Refused limit s.toList) ∧
    ((∃ e, compile limit s.toList = .error e) ↔ Refused limit s.toList) ∧
    ((∃ d f, Filter.ofDoc d = .ok f ∧ f.expr = s) ↔ ¬ Refused Settings.default.maxExpressionLength s.toList) ∧
    ((∃ d c, Condition.ofDoc d = .ok c ∧ c.expr = s) ↔ ¬ Refused Settings.default.maxExpressionLength s.toList) ∧
    ((∃ d x, Extractor.ofDoc d = .ok x ∧ x.expr = s) ↔ ¬ Refused Settings.default.maxExpressionLength s.toList) ∧
    ((∃ d x, Extractor.ofDoc d = .ok x ∧ x.validator = s) ↔
      ¬ Refused Settings.default.maxExpressionLength s.toList) := by
  have hcompile := fun limit => compile_error_iff limit (ne_nil_of_isNested hp hn) hp
  refine ⟨check_error_iff limit s.toList, hcompile limit, ?_, ?_, ?_, ?_⟩
  · rw [exists_filter_iff, Compiles, hcompile]
  · rw [exists_condition_iff, Compiles, hcompile]
  · rw [exists_extractor_iff, Compiles, hcompile]
  · rw [exists_validator_iff, Compiles, hcompile]

/-- One or more of a letter. -/
def letters : Regex :=
  .loop 1 none .greedy (.set ⟨false, [.char 97], .exact⟩)

theorem refused_letters : ∃ p, Pattern.parse? "(a+)+".toList = some p ∧ p.regex.IsNested ∧
    (∃ e, check 1000 "(a+)+".toList = .error e) ∧ ¬ ∃ d f, Filter.ofDoc d = .ok f ∧ f.expr = "(a+)+" := by
  have hp : Pattern.parse? "(a+)+".toList = some ⟨.loop 1 none .greedy (.group (some 1) letters), 1⟩ := rfl
  have hn : (Regex.loop 1 none .greedy (.group (some 1) letters)).IsNested := .inl ⟨rfl, .inl rfl⟩
  have hflat : FlatNested "(a+)+".toList :=
    ⟨[], ['a'], '+', [], ['+'], rfl, .char (by decide) (by decide) (by decide) .nil, .inr rfl, .nil,
      .inl ⟨'+', [], rfl, .inr rfl⟩⟩
  obtain ⟨hcheck, -, hfilter, -⟩ := nested_refused_iff 1000 hp hn
  refine ⟨_, hp, hn, hcheck.mpr (.inr hflat), fun h => ?_⟩
  exact hfilter.mp h (.inr hflat)

/-- A letter behind a group that repeats it. -/
def lettersThen (last : Char) : Regex :=
  .seq (.group (some 2) letters) (.set ⟨false, [.char last.toNat], .exact⟩)

/-- A group with a further group in it gets through. -/
theorem check_group_in_group : ¬ ∀ (limit : Int) (s : String) (p : Pattern), Pattern.parse? s.toList = some p →
    p.regex.IsNested → ∃ e, check limit s.toList = .error e := by
  intro h
  have hp : Pattern.parse? "((a+)b)+".toList =
      some ⟨.loop 1 none .greedy (.group (some 1) (lettersThen 'b')), 2⟩ := by decide +kernel
  have hn : (Regex.loop 1 none .greedy (.group (some 1) (lettersThen 'b'))).IsNested := .inl ⟨rfl, .inl (.inl rfl)⟩
  have hflat : hasNestedRepetition "((a+)b)+".toList = false := by decide +kernel
  rcases (check_error_iff 1000 _).mp (h 1000 "((a+)b)+" _ hp hn) with hlong | hnested
  · exact absurd hlong (by decide)
  · rw [← hasNestedRepetition_iff, hflat] at hnested
    cases hnested

end Expression

end Excerpt
