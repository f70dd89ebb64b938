import Excerpt.Proofs.Extract.Outcome
import Excerpt.Proofs.Rule.Filtering

/-!
# One more filter that stops

A filter that stops is put in at any place among the filters of a field. A candidate that it catches stops the field
then; what becomes of any other candidate is the same (`judge_insert`). So the candidates of a selector, and all
selectors in turn, come to a stop or to what they came to before (`judgeAll_insert`, `evaluateWith_insert`), and to the
latter if the filter catches no candidate of a selector that the evaluation reaches
(`evaluateWith_insert_of_not_reached`). `evaluate_insert` is the statement for the field.
-/

namespace Excerpt

namespace Traced

variable {α β : Type}

/-- A next part matters only for what the first one results in. -/
theorem bind_congr {m : Traced α} {k l : α → Traced β} (h : ∀ a, m.result = .ok a → k a = l a) : m >>= k = m >>= l := by
  obtain ⟨notices, result⟩ := m
  cases result with
  | error e => rfl
  | ok a =>
    change Traced.bind _ k = Traced.bind _ l
    simp only [Traced.bind, h a rfl]

end Traced

namespace Filter

variable {scope : Scope} {t : Text} {x : Filter}

/-- Among other filters, one that stops decides on what it catches and on nothing else. -/
theorem applyAll_insert (hx : x.stop = true) (pre post : List Filter) : applyAll (pre ++ x :: post) t scope =
    if x.Catches scope t then .stop else applyAll (pre ++ post) t scope := by
  rw [applyAll_perm List.perm_middle, applyAll_cons]
  by_cases h : x.Catches scope t
  · rw [if_pos h, verdict_of_catches h, if_pos hx, max_eq_left (FilterResult.le_stop _)]
  · rw [if_neg h, verdict_of_not_catches h, max_eq_right (FilterResult.none_le _)]

end Filter

namespace FieldRule

/-- The field rule with other filters. -/
def withFilters (f : FieldRule) (xs : List Filter) : FieldRule :=
  { f with filters := xs }

/-- The candidates of a selector leave the field open: none of them ends it, and none survives. -/
def FindsNothing (f : FieldRule) (baseUrl : Text) (scope : Scope) (candidates : List Text) : Prop :=
  (f.judgeAll baseUrl scope candidates).result = .ok (.inr [])

/-- The evaluation reaches a selector: every selector before it finds nothing. -/
def Reaches (f : FieldRule) (baseUrl : Text) (scope : Scope) (offered : Selector → List Text) (s : Selector) : Prop :=
  ∃ before after, f.selectors = before ++ s :: after ∧ ∀ s' ∈ before, f.FindsNothing baseUrl scope (offered s')

section Insert

variable {f : FieldRule} {x : Filter} {pre post : List Filter} (hf : f.filters = pre ++ post) (hx : x.stop = true)
  (baseUrl : Text) (scope : Scope) (props : Properties) (document : Node) (p : Place)

include hf hx

/-! ## One candidate -/

theorem judge_insert (t : Text) : (f.withFilters (pre ++ x :: post)).judge baseUrl scope t =
    if x.Catches scope t then (do Traced.note (.stopped f.name.toList t); return .ended .stopped)
    else f.judge baseUrl scope t := by
  rw [judge, judge, hf, show (f.withFilters (pre ++ x :: post)).filters = pre ++ x :: post from rfl,
    Filter.applyAll_insert hx]
  by_cases h : x.Catches scope t
  · rw [if_pos h, if_pos h]
    rfl
  · rw [if_neg h, if_neg h]
    rfl

theorem judge_insert_of_not_catches {t : Text} (h : ¬ x.Catches scope t) :
    (f.withFilters (pre ++ x :: post)).judge baseUrl scope t = f.judge baseUrl scope t := by
  rw [judge_insert hf hx, if_neg h]

theorem judge_insert_of_catches {t : Text} (h : x.Catches scope t) :
    ((f.withFilters (pre ++ x :: post)).judge baseUrl scope t).result = .ok (.ended .stopped) := by
  rw [judge_insert hf hx, if_pos h]
  rfl

/-! ## All candidates of a selector -/

theorem judgeAll_insert_of_not_catches : ∀ {ts : List Text}, (∀ t ∈ ts, ¬ x.Catches scope t) →
    (f.withFilters (pre ++ x :: post)).judgeAll baseUrl scope ts = f.judgeAll baseUrl scope ts
  | [], _ => rfl
  | t :: ts, h => by
    rw [List.forall_mem_cons] at h
    rw [judgeAll, judgeAll, judge_insert_of_not_catches hf hx baseUrl scope h.1, judgeAll_insert_of_not_catches h.2]

/-- The candidates of a selector stop the field or come to what they came to. -/
theorem judgeAll_insert : ∀ ts : List Text,
    ((f.withFilters (pre ++ x :: post)).judgeAll baseUrl scope ts).result = .ok (.inl .stopped) ∨
      (f.withFilters (pre ++ x :: post)).judgeAll baseUrl scope ts = f.judgeAll baseUrl scope ts
  | [] => .inr rfl
  | t :: ts => by
    by_cases ht : x.Catches scope t
    · left
      rw [judgeAll, Traced.result_bind, judge_insert_of_catches hf hx baseUrl scope ht]
      rfl
    · rw [judgeAll, judgeAll, judge_insert_of_not_catches hf hx baseUrl scope ht]
      rcases judgeAll_insert ts with hstop | heq
      · -- The candidates behind stop the field, unless this one ends it before.
        cases hfate : (f.judge baseUrl scope t).result with
        | error e => exact .inr (Traced.bind_congr fun a ha => by rw [hfate] at ha; cases ha)
        | ok fate =>
          cases fate with
          | ended finding =>
            refine .inr (Traced.bind_congr fun a ha => ?_)
            rw [hfate] at ha
            cases ha
            rfl
          | passed =>
            left
            rw [Traced.result_bind, hfate]
            exact hstop
          | kept value =>
            left
            rw [Traced.result_bind, hfate]
            exact Traced.bind_eq_ok.mpr ⟨.inl .stopped, hstop, rfl⟩
      · right
        rw [heq]

/-! ## All selectors -/

omit hf hx in
/-- With the same verdict on a selector, and the same on those behind it if it finds nothing, the findings are
the same. -/
theorem evaluateWith_insert_cons {s : Selector} {ss : List Selector}
    (hs : (f.withFilters (pre ++ x :: post)).judgeAll baseUrl scope (f.offered props document p s) =
      f.judgeAll baseUrl scope (f.offered props document p s))
    (hss : f.FindsNothing baseUrl scope (f.offered props document p s) →
      (f.withFilters (pre ++ x :: post)).evaluateWith baseUrl scope props document p ss =
        f.evaluateWith baseUrl scope props document p ss) :
    (f.withFilters (pre ++ x :: post)).evaluateWith baseUrl scope props document p (s :: ss) =
      f.evaluateWith baseUrl scope props document p (s :: ss) := by
  rw [evaluateWith, evaluateWith]
  refine Traced.bind_congr fun candidates hcandidates => ?_
  obtain rfl : candidates = f.offered props document p s :=
    Except.ok.inj (hcandidates.symm.trans (applyAll_offered f props document p s))
  rw [hs]
  refine Traced.bind_congr fun r hr => ?_
  cases r with
  | inl finding => rfl
  | inr values =>
    cases values with
    | nil => exact hss hr
    | cons v vs => rfl

/-- The filter makes no difference if it catches no candidate of a selector that is reached. -/
theorem evaluateWith_insert_of_not_reached : ∀ {ss : List Selector},
    ¬ Reached (fun s => f.FindsNothing baseUrl scope (f.offered props document p s))
      (fun s => ∃ t ∈ f.offered props document p s, x.Catches scope t) ss →
    (f.withFilters (pre ++ x :: post)).evaluateWith baseUrl scope props document p ss =
      f.evaluateWith baseUrl scope props document p ss
  | [], _ => rfl
  | s :: ss, h => by
    rw [reached_cons, not_or, not_exists] at h
    have hnone : ∀ t ∈ f.offered props document p s, ¬ x.Catches scope t := fun t ht hc => h.1 t ⟨ht, hc⟩
    have hsame := judgeAll_insert_of_not_catches hf hx baseUrl scope hnone
    exact evaluateWith_insert_cons baseUrl scope props document p hsame fun hopen =>
      evaluateWith_insert_of_not_reached fun hreached => h.2 ⟨hopen, hreached⟩

/-- Selectors come to a stop or to what they came to. -/
theorem evaluateWith_insert : ∀ ss : List Selector,
    ((f.withFilters (pre ++ x :: post)).evaluateWith baseUrl scope props document p ss).result = .ok .stopped ∨
      (f.withFilters (pre ++ x :: post)).evaluateWith baseUrl scope props document p ss =
        f.evaluateWith baseUrl scope props document p ss
  | [] => .inr rfl
  | s :: ss => by
    have hcons := evaluateWith_cons (f.withFilters (pre ++ x :: post)) baseUrl scope props document p s ss
    rw [show (f.withFilters (pre ++ x :: post)).offered props document p s =
      f.offered props document p s from rfl] at hcons
    rcases judgeAll_insert hf hx baseUrl scope (f.offered props document p s) with hstop | hsame
    · left
      rw [hcons, hstop]
      rfl
    · by_cases hopen : f.FindsNothing baseUrl scope (f.offered props document p s)
      · rcases evaluateWith_insert ss with hstop | hrest
        · left
          rw [hcons, hsame, show (f.judgeAll baseUrl scope (f.offered props document p s)).result = _ from hopen]
          exact hstop
        · exact .inr (evaluateWith_insert_cons baseUrl scope props document p hsame fun _ => hrest)
      · exact .inr (evaluateWith_insert_cons baseUrl scope props document p hsame fun h => absurd h hopen)

/-- **A filter that stops can only stop.** With one more such filter, at any place among its filters, a field is
stopped, or its evaluation is the same, the notices included; and it is not the same only if the filter catches, in the
phase, a candidate of a selector that the evaluation without it reaches. -/
theorem evaluate_insert :
    (((f.withFilters (pre ++ x :: post)).evaluate baseUrl scope props document p).result =
      .ok ⟨f.name.toList, .stopped⟩ ∨
      (f.withFilters (pre ++ x :: post)).evaluate baseUrl scope props document p =
        f.evaluate baseUrl scope props document p) ∧
    ((f.withFilters (pre ++ x :: post)).evaluate baseUrl scope props document p ≠
        f.evaluate baseUrl scope props document p →
      ∃ s, f.Reaches baseUrl scope (f.offered props document p) s ∧
        ∃ t ∈ f.offered props document p s, x.Catches scope t) := by
  have hself : ∀ g : FieldRule, g.evaluate baseUrl scope props document p =
      (g.evaluateWith baseUrl scope props document p g.selectors >>= fun finding => pure ⟨g.name.toList, finding⟩) :=
    fun _ => rfl
  rw [hself, hself, show (f.withFilters (pre ++ x :: post)).selectors = f.selectors from rfl]
  constructor
  · rcases evaluateWith_insert hf hx baseUrl scope props document p f.selectors with hstop | hsame
    · exact .inl (Traced.bind_eq_ok.mpr ⟨.stopped, hstop, rfl⟩)
    · right
      rw [hsame]
      rfl
  · intro hne
    by_contra hnone
    refine hne ?_
    rw [evaluateWith_insert_of_not_reached hf hx baseUrl scope props document p]
    · rfl
    · rintro ⟨before, s, after, hss, hopen, hcaught⟩
      exact hnone ⟨s, ⟨before, after, hss, hopen⟩, hcaught⟩

end Insert

/-- A field with two selectors and a filter that skips drafts. -/
def drafted : FieldRule :=
  ((FieldRule.ofDoc (.ofFields [("name", .str "title"), ("selectors", .list [.str "h1", .str "h2"]),
    ("filter", .str "Draft.*")])).toOption).getD ⟨"", [], [], .none, [], [], [], "", true, false, true⟩

/-- A page with a draft and a closing line. -/
def draftedPage : Place :=
  .top (.element "[document]" [] [.element "h1" [] [.text .plain "Draft".toList],
    .element "h2" [] [.text .plain "The end".toList]])

/-- A filter that stops at a closing line. -/
def closing : Filter :=
  ⟨".* end", .text, true⟩

/-- The second selector reads the closing line, at which the filter stops. -/
theorem evaluate_insert_closing :
    let plain := drafted.evaluate [] .text [] draftedPage.node draftedPage
    let stopped :=
      (drafted.withFilters (drafted.filters ++ [closing])).evaluate [] .text [] draftedPage.node draftedPage
    closing.stop = true ∧ drafted.filters = drafted.filters ++ [] ∧
      plain.result = .ok ⟨"title".toList, .found ["The end".toList]⟩ ∧
      stopped.result = .ok ⟨"title".toList, .stopped⟩ ∧
      ∃ s, drafted.Reaches [] .text (drafted.offered [] draftedPage.node draftedPage) s ∧
        ∃ t ∈ drafted.offered [] draftedPage.node draftedPage s, closing.Catches .text t := by
  intro plain stopped
  have hplain : plain.result = .ok ⟨"title".toList, .found ["The end".toList]⟩ := rfl
  have hstopped : stopped.result = .ok ⟨"title".toList, .stopped⟩ := rfl
  have hfilters : drafted.filters = drafted.filters ++ [] := (List.append_nil _).symm
  refine ⟨rfl, hfilters, hplain, hstopped, ?_⟩
  refine (evaluate_insert hfilters (x := closing) rfl [] .text [] draftedPage.node draftedPage).2 fun hsame => ?_
  have hresult : stopped.result = plain.result := congrArg Traced.result hsame
  rw [hplain, hstopped] at hresult
  cases hresult

end FieldRule

end Excerpt
