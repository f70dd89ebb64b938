import Excerpt.Extract.Field
import Excerpt.Proofs.Extract.Traced

/-!
# What a field finds

The candidates of a selector are what it reads, through the extractors. A candidate stops the field if a filter stops
it, is fatal if it has to be a date and is none, and survives if its value is not empty (`stops`, `fatal`, `survivor?`).
The first selector with a candidate of one of these kinds decides what the field finds (`outcome`).

A candidate breaks off the evaluation if it is no link where it has to be one, or if its date comes to a pattern that
names a directive twice before one that reads it (`Breaks`). `evaluate_eq_outcome_iff` says that the field finds its
outcome exactly if no candidate breaks off before the outcome is decided.
-/

namespace Excerpt

/-! ## The first of its kind -/

/-- The list has an element with `Q` that only elements with `P` precede. -/
def Reached {α : Type} (P Q : α → Prop) (l : List α) : Prop :=
  ∃ before x after, l = before ++ x :: after ∧ (∀ y ∈ before, P y) ∧ Q x

section Reached

variable {α : Type} {P Q : α → Prop}

theorem not_reached_nil : ¬ Reached P Q [] := by
  rintro ⟨before, x, after, h, -⟩
  cases before <;> cases h

theorem reached_cons {x : α} {l : List α} : Reached P Q (x :: l) ↔ Q x ∨ (P x ∧ Reached P Q l) := by
  constructor
  · rintro ⟨before, y, after, h, hp, hq⟩
    cases before with
    | nil =>
      cases h
      exact .inl hq
    | cons z before =>
      cases h
      exact .inr ⟨hp x List.mem_cons_self, before, y, after, rfl, fun w hw => hp w (List.mem_cons_of_mem _ hw), hq⟩
  · rintro (hq | ⟨hx, before, y, after, rfl, hp, hq⟩)
    · exact ⟨[], x, l, rfl, fun _ h => (List.not_mem_nil h).elim, hq⟩
    · refine ⟨x :: before, y, after, rfl, ?_, hq⟩
      intro z hz
      rcases List.mem_cons.mp hz with rfl | hz
      · exact hx
      · exact hp z hz

end Reached

/-! ## Dates -/

namespace DatePattern

/-- The pattern names a directive twice, whether by itself or by a letter that stands for a pattern. -/
def IsRepeating (pattern : Text) : Prop :=
  ∃ ps, pieces? pattern = some ps ∧ repeats ps = true

/-- The date that a pattern reads from a text; one that is malformed or names a directive twice reads none. -/
def stamp? (t pattern : Text) : Option Stamp :=
  (pieces? pattern).bind fun ps => if repeats ps then none else read? ps t

/-- A pattern that names a directive twice comes before every pattern that reads the text. -/
def Stuck (t : Text) (patterns : List Text) : Prop :=
  Reached (fun p => stamp? t p = none) IsRepeating patterns

end DatePattern

namespace FieldRule

open DatePattern

theorem firstDate?_of_repeating {t p : Text} (hp : IsRepeating p) (ps : List Text) :
    firstDate? t (p :: ps) = .error .repeatedDirective := by
  obtain ⟨pieces, hpieces, hr⟩ := hp
  simp [firstDate?, hpieces, hr]

/-- The date and time that `%c` stands for have a year of their own. -/
example : IsRepeating "%c %Y".toList :=
  ⟨_, rfl, rfl⟩

theorem firstDate?_of_not_repeating {t p : Text} (hp : ¬ IsRepeating p) (ps : List Text) :
    firstDate? t (p :: ps) =
      match stamp? t p with
      | some d => .ok (some d)
      | none => firstDate? t ps := by
  rw [firstDate?, stamp?]
  cases hpieces : pieces? p with
  | none => rfl
  | some pieces =>
    have hr : repeats pieces = false := by
      rw [← Bool.not_eq_true]
      exact fun h => hp ⟨pieces, hpieces, h⟩
    cases hread : read? pieces t <;> simp [hr, hread]

/-- Reading a date either gets stuck or gives what the first pattern reads. -/
theorem firstDate?_eq (t : Text) : ∀ ps : List Text,
    (Stuck t ps → firstDate? t ps = .error .repeatedDirective) ∧
    (¬ Stuck t ps → firstDate? t ps = .ok (ps.findSome? (stamp? t)))
  | [] => ⟨fun h => (not_reached_nil h).elim, fun _ => rfl⟩
  | p :: ps => by
    obtain ⟨hstuck, hfree⟩ := firstDate?_eq t ps
    rw [Stuck, reached_cons]
    by_cases hp : IsRepeating p
    · exact ⟨fun _ => firstDate?_of_repeating hp ps, fun h => (h (.inl hp)).elim⟩
    · rw [firstDate?_of_not_repeating hp, List.findSome?_cons]
      cases hs : stamp? t p with
      | some d => simp [hp]
      | none => simpa [hp] using ⟨hstuck, hfree⟩

/-- The date that a candidate is: the one that the first date pattern to read it gives. -/
def stamp? (f : FieldRule) (t : Text) : Option Stamp :=
  (f.datePatterns.map String.toList).findSome? (DatePattern.stamp? (f.inCase t))

/-- Reading the date of a candidate gets stuck at a pattern that names a directive twice. -/
def DateStuck (f : FieldRule) (t : Text) : Prop :=
  Stuck (f.inCase t) (f.datePatterns.map String.toList)

/-! ## Candidates -/

section Candidates

variable (f : FieldRule) (baseUrl : Text) (scope : Scope) (t : Text)

/-- The candidates of a selector: what it reads, through the extractors. -/
def offered (props : Properties) (document : Node) (p : Place) (s : Selector) : List Text :=
  (Extractor.applyAll f.extractors props (f.raw document p s)).result.toOption.getD []

/-- A filter stops the candidate. -/
def stops : Bool :=
  Filter.applyAll f.filters t scope == .stop

/-- No filter stops or skips the candidate. -/
def passes : Bool :=
  Filter.applyAll f.filters t scope == .none

/-- There are date patterns, and none reads the candidate. -/
def unparseable : Bool :=
  !f.datePatterns.isEmpty && (f.stamp? t).isNone

/-- The candidate has to be a date and is none. -/
def fatal : Bool :=
  f.passes scope t && f.unparseable t && !f.optional

/-- The candidate in the case of the field, and as a date in ISO form if the field has date patterns. -/
def dateText? : Option Text :=
  if f.datePatterns.isEmpty then some (f.inCase t) else (f.stamp? t).map Stamp.iso

/-- The value of a candidate: in case, as a date, and as a link if the field holds links. -/
def formatted? : Option Text :=
  (f.dateText? t).bind fun value => if f.isUrl then f.link? baseUrl value else some value

/-- The value of a candidate that no filter takes out, unless it is empty. -/
def survivor? : Option Text :=
  if f.passes scope t then (f.formatted? baseUrl t).filter (!·.isEmpty) else none

/-- The candidate ends the field. -/
def ends : Bool :=
  f.stops scope t || f.fatal scope t

/-- The candidate settles that its selector decides. -/
def decides : Bool :=
  f.ends scope t || (f.survivor? baseUrl scope t).isSome

/-- What the field finds if the candidate ends it. -/
def ending : Finding :=
  if f.stops scope t then .stopped else .invalid (f.dateFault (f.inCase t))

/-- What candidates come to: the first one that stops the field or is fatal ends it, or else all survivors
are values. -/
def verdict (ts : List Text) : Finding ⊕ List Text :=
  match ts.find? (f.ends scope) with
  | some t => .inl (f.ending scope t)
  | none => .inr (ts.filterMap (f.survivor? baseUrl scope))

/-- What selectors find: the first one with a stopping, fatal or surviving candidate decides. -/
def outcome (offered : Selector → List Text) (ss : List Selector) : Finding :=
  match ss.find? fun s => (offered s).any (f.decides baseUrl scope) with
  | none => .missing
  | some s =>
    match f.verdict baseUrl scope (offered s) with
    | .inl finding => finding
    | .inr values => .found values

/-- The candidate comes to its date and gets stuck there, or to its link, which is malformed. -/
def Breaks : Prop :=
  f.passes scope t = true ∧
    (f.DateStuck t ∨ f.isUrl = true ∧ ∃ value, f.dateText? t = some value ∧ f.link? baseUrl value = none)

/-- A candidate breaks off the evaluation of a list of candidates: none before it ends the field. -/
def BreaksIn (ts : List Text) : Prop :=
  Reached (fun t => f.ends scope t = false) (f.Breaks baseUrl scope) ts

/-- A candidate breaks off the evaluation of selectors: none before its own decides. -/
def BreaksOff (offered : Selector → List Text) (ss : List Selector) : Prop :=
  Reached (fun s => (offered s).any (f.decides baseUrl scope) = false)
    (fun s => f.BreaksIn baseUrl scope (offered s)) ss

end Candidates

/-! ## One candidate -/

section Judge

variable {f : FieldRule} {baseUrl : Text} {scope : Scope} {t : Text}

/-- What becomes of a candidate that does not break off. -/
def fate (f : FieldRule) (baseUrl : Text) (scope : Scope) (t : Text) : Fate :=
  if f.ends scope t then .ended (f.ending scope t)
  else
    match f.survivor? baseUrl scope t with
    | some value => .kept value
    | none => .passed

theorem date?_of_stuck (h : f.DateStuck t) : f.date? (f.inCase t) = .error .repeatedDirective :=
  (firstDate?_eq _ _).1 h

theorem date?_of_not_stuck (h : ¬ f.DateStuck t) : f.date? (f.inCase t) = .ok (f.stamp? t) :=
  (firstDate?_eq _ _).2 h

theorem dated_of_stuck (h : f.DateStuck t) : (f.dated (f.inCase t)).result = .error .repeatedDirective := by
  have hne : f.datePatterns.isEmpty = false := by
    cases hd : f.datePatterns with
    | nil =>
      rw [DateStuck, hd] at h
      exact (not_reached_nil h).elim
    | cons p ps => rfl
  rw [dated, hne, date?_of_stuck h]
  rfl

/-- A candidate as a date: its text, or the end of the field if it is fatal, or nothing if it may be left out. -/
theorem dated_of_not_stuck (h : ¬ f.DateStuck t) : (f.dated (f.inCase t)).result = .ok
    (match f.dateText? t with
    | some value => .kept value
    | none => if f.optional then .passed else .ended (.invalid (f.dateFault (f.inCase t)))) := by
  rw [dated, dateText?, date?_of_not_stuck h]
  cases f.datePatterns.isEmpty with
  | true => rfl
  | false =>
    cases f.stamp? t with
    | some d => rfl
    | none => cases f.optional <;> rfl

theorem isNone_dateText? : (f.dateText? t).isNone = f.unparseable t := by
  rw [dateText?, unparseable]
  cases f.datePatterns.isEmpty <;> simp

theorem linked_result (value : Text) : (f.linked baseUrl value).result =
    match if f.isUrl then f.link? baseUrl value else some value with
    | some v => .ok (if v.isEmpty then .passed else .kept v)
    | none => .error .malformedLink := by
  rw [linked]
  cases f.isUrl with
  | false => rfl
  | true => cases hl : f.link? baseUrl value <;> simp [Traced.result_bind, Traced.ofOption, Traced.fail,
      Traced.ok, Except.bind]

/-- A candidate that no filter takes out is dated and then linked. -/
theorem judge_of_passes (h : f.passes scope t = true) : f.judge baseUrl scope t =
    (f.dated (f.inCase t) >>= fun fate =>
      match fate with
      | .kept value => f.linked baseUrl value
      | fate => pure fate) := by
  rw [passes, beq_iff_eq] at h
  unfold judge
  generalize Filter.applyAll f.filters t scope = verdict at h
  subst h
  rfl

theorem judge_of_breaks (h : f.Breaks baseUrl scope t) : ∃ e, (f.judge baseUrl scope t).result = .error e := by
  obtain ⟨hpass, h⟩ := h
  rw [judge_of_passes hpass, Traced.result_bind]
  by_cases hstuck : f.DateStuck t
  · exact ⟨.repeatedDirective, by rw [dated_of_stuck hstuck]; rfl⟩
  · obtain ⟨hurl, value, hvalue, hlink⟩ := h.resolve_left hstuck
    refine ⟨.malformedLink, ?_⟩
    rw [dated_of_not_stuck hstuck, hvalue]
    change (f.linked baseUrl value).result = _
    rw [linked_result, hurl, if_pos rfl, hlink]

theorem judge_of_not_breaks (h : ¬ f.Breaks baseUrl scope t) :
    (f.judge baseUrl scope t).result = .ok (f.fate baseUrl scope t) := by
  cases hres : Filter.applyAll f.filters t scope with
  | stop => simp [judge, fate, ends, ending, stops, hres, Traced.result_bind, Traced.note, Except.bind]
  | skip => simp [judge, fate, ends, stops, fatal, survivor?, passes, hres]
  | none =>
    have hpass : f.passes scope t = true := by simp [passes, hres]
    have hstop : f.stops scope t = false := by simp [stops, hres]
    rw [Breaks, not_and, not_or] at h
    obtain ⟨hstuck, hlink⟩ := h hpass
    rw [judge_of_passes hpass, Traced.result_bind, dated_of_not_stuck hstuck]
    cases hd : f.dateText? t with
    | none =>
      have hbad : f.unparseable t = true := by rw [← isNone_dateText?, hd]; rfl
      cases ho : f.optional <;>
        simp [Except.bind, fate, ends, ending, fatal, survivor?, formatted?, hpass, hstop, hbad, hd, ho]
    | some value =>
      have hgood : f.unparseable t = false := by rw [← isNone_dateText?, hd]; rfl
      simp only [Except.bind, linked_result, fate, ends, fatal, survivor?, formatted?, hpass, hstop, hgood, hd,
        Option.bind_some]
      cases hv : if f.isUrl then f.link? baseUrl value else some value with
      | none =>
        cases hurl : f.isUrl with
        | false => simp [hurl] at hv
        | true => exact (hlink ⟨hurl, value, hd, by simpa [hurl] using hv⟩).elim
      | some v => cases hempty : v.isEmpty <;> simp [Option.filter, hempty]

end Judge

/-! ## All candidates of a selector -/

section JudgeAll

variable {f : FieldRule} {baseUrl : Text} {scope : Scope} {t : Text} {ts : List Text}

theorem verdict_of_ends (h : f.ends scope t = true) (ts : List Text) :
    f.verdict baseUrl scope (t :: ts) = .inl (f.ending scope t) := by
  rw [verdict, List.find?_cons_of_pos h]

theorem verdict_of_not_ends (h : f.ends scope t = false) (ts : List Text) : f.verdict baseUrl scope (t :: ts) =
    (f.verdict baseUrl scope ts).map id fun vs => (f.survivor? baseUrl scope t).toList ++ vs := by
  rw [verdict, verdict, List.find?_cons_of_neg (by simp [h])]
  cases ts.find? (f.ends scope) with
  | some u => rfl
  | none => cases hs : f.survivor? baseUrl scope t <;> simp [hs]

/-- The result on a candidate and those after it, from the result on those after it. -/
theorem judgeAll_cons_of_not_breaks (h : ¬ f.Breaks baseUrl scope t) : (f.judgeAll baseUrl scope (t :: ts)).result =
    if f.ends scope t then .ok (.inl (f.ending scope t))
    else (f.judgeAll baseUrl scope ts).result.map fun r =>
      r.map id fun vs => (f.survivor? baseUrl scope t).toList ++ vs := by
  rw [judgeAll, Traced.result_bind, judge_of_not_breaks h, fate]
  cases f.ends scope t with
  | true => rfl
  | false =>
    cases f.survivor? baseUrl scope t with
    | none => cases hr : (f.judgeAll baseUrl scope ts).result with
      | error e => simp [Except.bind, Except.map, hr]
      | ok r => cases r <;> simp [Except.bind, Except.map, hr]
    | some value => cases hr : (f.judgeAll baseUrl scope ts).result with
      | error e => simp [Except.bind, Except.map, Traced.result_bind, hr]
      | ok r => cases r <;> simp [Except.bind, Except.map, Traced.result_bind, hr]

theorem judgeAll_eq (f : FieldRule) (baseUrl : Text) (scope : Scope) : ∀ ts : List Text,
    (f.BreaksIn baseUrl scope ts → ∃ e, (f.judgeAll baseUrl scope ts).result = .error e) ∧
    (¬ f.BreaksIn baseUrl scope ts → (f.judgeAll baseUrl scope ts).result = .ok (f.verdict baseUrl scope ts))
  | [] => ⟨fun h => (not_reached_nil h).elim, fun _ => rfl⟩
  | t :: ts => by
    obtain ⟨hbreak, hfree⟩ := judgeAll_eq f baseUrl scope ts
    rw [BreaksIn, reached_cons]
    by_cases ht : f.Breaks baseUrl scope t
    · refine ⟨fun _ => ?_, fun h => (h (.inl ht)).elim⟩
      obtain ⟨e, he⟩ := judge_of_breaks ht
      exact ⟨e, by rw [judgeAll, Traced.result_bind, he]; rfl⟩
    · rw [judgeAll_cons_of_not_breaks ht]
      cases hends : f.ends scope t with
      | true => exact ⟨fun h => by simp [ht] at h, fun _ => by rw [verdict_of_ends hends]; rfl⟩
      | false =>
        rw [verdict_of_not_ends hends]
        constructor
        · intro h
          obtain ⟨e, he⟩ := hbreak (h.resolve_left ht).2
          exact ⟨e, by rw [he]; rfl⟩
        · intro h
          rw [hfree fun hin => h (.inr ⟨rfl, hin⟩)]
          rfl

/-- A verdict that ends the field is the ending of a candidate. -/
theorem verdict_eq_inl {finding : Finding} (h : f.verdict baseUrl scope ts = .inl finding) :
    ∃ t, f.ends scope t = true ∧ f.ending scope t = finding := by
  rw [verdict] at h
  cases hfind : ts.find? (f.ends scope) with
  | some t =>
    rw [hfind] at h
    exact ⟨t, List.find?_some hfind, Sum.inl.inj h⟩
  | none =>
    rw [hfind] at h
    cases h

/-- The candidates of a selector decide exactly if one of them ends the field or survives. -/
theorem verdict_eq_inr_nil_iff :
    f.verdict baseUrl scope ts = .inr [] ↔ ts.any (f.decides baseUrl scope) = false := by
  rw [verdict]
  cases hfind : ts.find? (f.ends scope) with
  | some t =>
    have hends := List.find?_some hfind
    refine iff_of_false (by simp) ?_
    rw [Bool.not_eq_false, List.any_eq_true]
    exact ⟨t, List.mem_of_find?_eq_some hfind, by simp [decides, hends]⟩
  | none =>
    rw [List.find?_eq_none] at hfind
    simp only [Sum.inr.injEq, List.filterMap_eq_nil_iff, List.any_eq_false, decides, Bool.or_eq_true, not_or,
      Option.not_isSome_iff_eq_none]
    exact ⟨fun h t ht => ⟨hfind t ht, h t ht⟩, fun h t ht => (h t ht).2⟩

end JudgeAll

/-! ## All selectors -/

section Evaluate

variable (f : FieldRule) (baseUrl : Text) (scope : Scope) (props : Properties) (document : Node) (p : Place)

/-- Extractors take texts out or change them and never fail. -/
theorem chain_eq_ok : ∀ (xs : List Extractor) (t : Text), ∃ t?, (Extractor.chain props t xs).result = .ok t?
  | [], t => ⟨some t, rfl⟩
  | x :: xs, t => by
    rw [Extractor.chain]
    cases x.extract props t with
    | kept t => exact chain_eq_ok xs t
    | dropped => exact ⟨none, rfl⟩
    | unknownGroup => exact ⟨none, rfl⟩

theorem applyAll_eq_ok (xs : List Extractor) : ∀ ts : List Text, ∃ vs, (Extractor.applyAll xs props ts).result = .ok vs
  | [] => ⟨[], rfl⟩
  | t :: ts => by
    obtain ⟨t?, ht⟩ := chain_eq_ok props xs t
    obtain ⟨vs, hvs⟩ := applyAll_eq_ok xs ts
    cases t? with
    | none => exact ⟨vs, by simp [Extractor.applyAll, Traced.result_bind, ht, hvs, Except.bind]⟩
    | some v =>
      refine ⟨if v.isEmpty then vs else v :: vs, ?_⟩
      cases v <;> simp [Extractor.applyAll, Traced.result_bind, ht, hvs, Except.bind]

theorem applyAll_offered (s : Selector) : (Extractor.applyAll f.extractors props (f.raw document p s)).result =
    .ok (f.offered props document p s) := by
  obtain ⟨vs, hvs⟩ := applyAll_eq_ok props f.extractors (f.raw document p s)
  rw [offered, hvs]
  rfl

theorem evaluateWith_cons (s : Selector) (ss : List Selector) :
    (f.evaluateWith baseUrl scope props document p (s :: ss)).result =
      (f.judgeAll baseUrl scope (f.offered props document p s)).result.bind fun r =>
        match r with
        | .inl finding => .ok finding
        | .inr [] => (f.evaluateWith baseUrl scope props document p ss).result
        | .inr values => .ok (.found values) := by
  rw [evaluateWith, Traced.result_bind, applyAll_offered]
  simp only [Except.bind, Traced.result_bind]
  cases (f.judgeAll baseUrl scope (f.offered props document p s)).result with
  | error e => rfl
  | ok r =>
    rcases r with finding | _ | ⟨v, vs⟩ <;> rfl

theorem evaluateWith_eq : ∀ ss : List Selector,
    (f.BreaksOff baseUrl scope (f.offered props document p) ss →
      ∃ e, (f.evaluateWith baseUrl scope props document p ss).result = .error e) ∧
    (¬ f.BreaksOff baseUrl scope (f.offered props document p) ss →
      (f.evaluateWith baseUrl scope props document p ss).result =
        .ok (f.outcome baseUrl scope (f.offered props document p) ss))
  | [] => by
    refine ⟨fun h => (not_reached_nil h).elim, fun _ => ?_⟩
    rw [evaluateWith]
    cases f.optional <;> rfl
  | s :: ss => by
    obtain ⟨hbreak, hfree⟩ := evaluateWith_eq ss
    obtain ⟨hbreakIn, hfreeIn⟩ := judgeAll_eq f baseUrl scope (f.offered props document p s)
    rw [BreaksOff, reached_cons, evaluateWith_cons]
    by_cases hs : f.BreaksIn baseUrl scope (f.offered props document p s)
    · refine ⟨fun _ => ?_, fun h => (h (.inl hs)).elim⟩
      obtain ⟨e, he⟩ := hbreakIn hs
      exact ⟨e, by rw [he]; rfl⟩
    · rw [hfreeIn hs]
      cases hany : (f.offered props document p s).any (f.decides baseUrl scope) with
      | false =>
        rw [verdict_eq_inr_nil_iff.mpr hany, outcome, List.find?_cons_of_neg (by simp [hany])]
        constructor
        · intro h
          exact hbreak (h.resolve_left hs).2
        · intro h
          exact hfree fun hin => h (.inr ⟨rfl, hin⟩)
      | true =>
        simp only [outcome, List.find?_cons, hany]
        refine ⟨fun h => by simp [hs] at h, fun _ => ?_⟩
        have hne : f.verdict baseUrl scope (f.offered props document p s) ≠ .inr [] := by
          rw [Ne, verdict_eq_inr_nil_iff, hany]
          exact Bool.noConfusion
        rcases hv : f.verdict baseUrl scope (f.offered props document p s) with finding | _ | ⟨v, vs⟩
        · rfl
        · exact (hne hv).elim
        · rfl

/-- An outcome has values exactly if it is a find, and a fault exactly if it is invalid. -/
theorem outcome_consistent (offered : Selector → List Text) (ss : List Selector) :
    ((f.outcome baseUrl scope offered ss).values ≠ [] ↔ (f.outcome baseUrl scope offered ss).status = .found) ∧
    ((f.outcome baseUrl scope offered ss).fault?.isSome = true ↔
      (f.outcome baseUrl scope offered ss).status = .invalid) := by
  rw [outcome]
  cases hs : ss.find? fun s => (offered s).any (f.decides baseUrl scope) with
  | none => simp [Finding.values, Finding.status, Finding.fault?]
  | some s =>
    have hany := List.find?_some hs
    rcases hv : f.verdict baseUrl scope (offered s) with finding | values
    · obtain ⟨t, -, rfl⟩ := verdict_eq_inl hv
      simp only [hv, ending]
      split <;> simp [Finding.values, Finding.status, Finding.fault?]
    · have hne : values ≠ [] := by
        rintro rfl
        rw [verdict_eq_inr_nil_iff] at hv
        simp [hv] at hany
      simp [hv, Finding.values, Finding.status, Finding.fault?, hne]

/-- **What a field finds.** The evaluation of a field finds its outcome exactly if no candidate breaks it off, and if it
finds anything, then values exactly if the status says found and a fault exactly if it says invalid. -/
theorem evaluate_eq_outcome_iff :
    ((f.evaluate baseUrl scope props document p).result =
        .ok ⟨f.name.toList, f.outcome baseUrl scope (f.offered props document p) f.selectors⟩ ↔
      ¬ f.BreaksOff baseUrl scope (f.offered props document p) f.selectors) ∧
    ∀ report, (f.evaluate baseUrl scope props document p).result = .ok report →
      (report.finding.values ≠ [] ↔ report.finding.status = .found) ∧
      (report.finding.fault?.isSome = true ↔ report.finding.status = .invalid) := by
  obtain ⟨hbreak, hfree⟩ := evaluateWith_eq f baseUrl scope props document p f.selectors
  have hresult : (f.evaluate baseUrl scope props document p).result =
      (f.evaluateWith baseUrl scope props document p f.selectors).result.bind fun finding =>
        .ok ⟨f.name.toList, finding⟩ := Traced.result_bind _ _
  rw [hresult]
  by_cases hb : f.BreaksOff baseUrl scope (f.offered props document p) f.selectors
  · obtain ⟨e, he⟩ := hbreak hb
    rw [he]
    exact ⟨iff_of_false (fun h => by cases h) (not_not_intro hb), fun report h => by cases h⟩
  · rw [hfree hb]
    refine ⟨iff_of_true rfl hb, ?_⟩
    rintro report ⟨⟩
    exact outcome_consistent f baseUrl scope _ _

end Evaluate

/-- A field that holds dates by a pattern that names the year twice. -/
def yearTwice : FieldRule :=
  ((FieldRule.ofDoc (.ofFields [("name", .str "published-date"), ("selector", .str "p"),
    ("date-pattern", .str "%Y %Y")])).toOption).getD ⟨"", [], [], .none, [], [], [], "", true, false, true⟩

/-- A page with one paragraph, which is no date. -/
def undatedPage : Place :=
  .top (.element "[document]" [] [.element "p" [] [.text .plain "soon".toList]])

/-- The outcome is an invalid date, for no pattern reads it; yet the evaluation ends without a report. -/
theorem evaluate_stuck_at_repeated_directive :
    yearTwice.outcome [] .text (yearTwice.offered [] undatedPage.node undatedPage) yearTwice.selectors =
      .invalid (.notADate "published-date".toList "soon".toList ["%Y %Y".toList]) ∧
    (yearTwice.evaluate [] .text [] undatedPage.node undatedPage).result = .error .repeatedDirective :=
  ⟨rfl, rfl⟩

end FieldRule

end Excerpt
