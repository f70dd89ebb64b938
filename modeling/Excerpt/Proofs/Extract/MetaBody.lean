import Excerpt.Proofs.Extract.BodySelectors
import Excerpt.Proofs.Extract.Outcome

/-!
# Bodies from meta elements

A body with meta selectors only is what the field comes to as text if that is a find, and nothing otherwise
(`result_of_metadata`). So a candidate that ends the field, by a filter that stops it or as an unreadable date, leaves
the body missing where any other slot is stopped or invalid: `body_eq_evaluate_iff` says that the body is the field as
text exactly if the evaluation comes to no such candidate (`EndsEarly`).
-/

namespace Excerpt

namespace FieldRule

section EndsEarly

variable (f : FieldRule) (baseUrl : Text) (scope : Scope) (offered : Selector → List Text)

/-- The evaluation of selectors comes to one with a candidate that ends the field: no selector before it decides. -/
def EndsEarly (ss : List Selector) : Prop :=
  Reached (fun s => (offered s).any (f.decides baseUrl scope) = false)
    (fun s => (offered s).any (f.ends scope) = true) ss

variable {f baseUrl scope offered}

/-- A candidate that ends the field decides. -/
theorem any_ends_eq_false {ts : List Text} (h : ts.any (f.decides baseUrl scope) = false) :
    ts.any (f.ends scope) = false := by
  rw [List.any_eq_false] at h ⊢
  intro t ht hends
  exact h t ht (by rw [decides, hends, Bool.true_or])

/-- Only candidates that end the field make it stopped or invalid. -/
theorem status_verdict (baseUrl : Text) {ts : List Text} (hend : ts.any (f.ends scope) = true) :
    ∃ finding, f.verdict baseUrl scope ts = .inl finding ∧ (finding.status = .stopped ∨ finding.status = .invalid) := by
  obtain ⟨t, hmem, ht⟩ := List.any_eq_true.mp hend
  rw [verdict]
  cases hfind : ts.find? (f.ends scope) with
  | none => exact (List.find?_eq_none.mp hfind t hmem ht).elim
  | some u =>
    refine ⟨_, rfl, ?_⟩
    rw [ending]
    split
    · exact .inl rfl
    · exact .inr rfl

theorem verdict_of_not_any_ends {ts : List Text} (h : ts.any (f.ends scope) = false) :
    f.verdict baseUrl scope ts = .inr (ts.filterMap (f.survivor? baseUrl scope)) := by
  rw [verdict, List.find?_eq_none.mpr (List.any_eq_false.mp h)]

section Cons

variable {s : Selector} (ss : List Selector)

theorem outcome_cons_of_not_decides (h : (offered s).any (f.decides baseUrl scope) = false) :
    f.outcome baseUrl scope offered (s :: ss) = f.outcome baseUrl scope offered ss := by
  simp only [outcome, List.find?_cons, h]

theorem outcome_cons_of_ended (h : (offered s).any (f.decides baseUrl scope) = true) {finding : Finding}
    (hv : f.verdict baseUrl scope (offered s) = .inl finding) :
    f.outcome baseUrl scope offered (s :: ss) = finding := by
  simp only [outcome, List.find?_cons, h, hv]

theorem outcome_cons_of_found (h : (offered s).any (f.decides baseUrl scope) = true) {values : List Text}
    (hv : f.verdict baseUrl scope (offered s) = .inr values) :
    f.outcome baseUrl scope offered (s :: ss) = .found values := by
  simp only [outcome, List.find?_cons, h, hv]

end Cons

/-- Whether a field is stopped or invalid is settled by the first selector that decides. -/
theorem endsEarly_iff : ∀ ss : List Selector, f.EndsEarly baseUrl scope offered ss ↔
    (f.outcome baseUrl scope offered ss).status = .stopped ∨ (f.outcome baseUrl scope offered ss).status = .invalid
  | [] => iff_of_false not_reached_nil (by simp [outcome, Finding.status])
  | s :: ss => by
    have ih := endsEarly_iff ss
    rw [EndsEarly] at ih
    rw [EndsEarly, reached_cons, ih]
    cases hany : (offered s).any (f.decides baseUrl scope) with
    | false =>
      rw [any_ends_eq_false hany, outcome_cons_of_not_decides ss hany]
      simp
    | true =>
      cases hend : (offered s).any (f.ends scope) with
      | true =>
        obtain ⟨finding, hv, hstatus⟩ := status_verdict baseUrl hend
        rw [outcome_cons_of_ended ss hany hv]
        exact iff_of_true (.inl rfl) hstatus
      | false =>
        rw [outcome_cons_of_found ss hany (verdict_of_not_any_ends hend)]
        simp [Finding.status]

end EndsEarly

end FieldRule

namespace Extraction

variable {x : Extraction} {f : FieldRule} {root : Place}

/-- A body with meta selectors only is what the field comes to as text, or missing if that finds nothing. -/
theorem result_of_metadata (hroot : x.root? = some root) (hmeta : ∀ s ∈ f.selectors, s.source = .metadata) :
    (x.body f).result =
      if findsNothing (x.bodyText f root) then .ok ⟨f.name.toList, .missing⟩ else x.bodyText f root := by
  rw [body, hroot]
  change (x.bodyWith f root f.selectors).result = _
  rw [result_bodyWith]
  cases hs : f.selectors with
  | nil =>
    have hnone : x.bodyText f root = .ok ⟨f.name.toList, .missing⟩ := by
      rw [bodyText, FieldRule.evaluate, Traced.result_bind, hs, FieldRule.evaluateWith]
      cases f.optional <;> rfl
    rw [hnone]
    rfl
  | cons s ss =>
    have hall : ∀ s ∈ f.selectors, settled? f root (x.bodyText f root) s =
        if findsNothing (x.bodyText f root) then none else some (x.bodyText f root) :=
      fun s hs => settled?_metadata (hmeta s hs)
    rw [hs, List.forall_mem_cons] at hall
    rw [List.findSome?_cons, hall.1]
    cases hnothing : findsNothing (x.bodyText f root) with
    | false => rfl
    | true =>
      have hrest : ss.findSome? (settled? f root (x.bodyText f root)) = none :=
        List.findSome?_eq_none_iff.mpr fun s hs => by rw [hall.2 s hs, hnothing, if_pos rfl]
      simp [hrest]

/-- **When a body from meta elements is the field as text**: exactly if the evaluation breaks off, or comes to no
candidate that ends the field. If it does come to one, the body is missing. -/
theorem body_eq_evaluate_iff (hroot : x.root? = some root) (hmeta : ∀ s ∈ f.selectors, s.source = .metadata) :
    let offered := f.offered x.properties x.document root
    ((x.body f).result = (f.evaluate x.baseUrl .body x.properties x.document root).result ↔
        f.BreaksOff x.baseUrl .body offered f.selectors ∨ ¬ f.EndsEarly x.baseUrl .body offered f.selectors) ∧
      (¬ f.BreaksOff x.baseUrl .body offered f.selectors → f.EndsEarly x.baseUrl .body offered f.selectors →
        (x.body f).result = .ok ⟨f.name.toList, .missing⟩) := by
  intro offered
  obtain ⟨hbreak, hfree⟩ := FieldRule.evaluateWith_eq f x.baseUrl .body x.properties x.document root f.selectors
  have htext : x.bodyText f root =
      (f.evaluateWith x.baseUrl .body x.properties x.document root f.selectors).result.bind fun finding =>
        .ok ⟨f.name.toList, finding⟩ := Traced.result_bind _ _
  rw [result_of_metadata hroot hmeta]
  change (_ = x.bodyText f root ↔ _) ∧ _
  rw [FieldRule.endsEarly_iff]
  by_cases hb : f.BreaksOff x.baseUrl .body offered f.selectors
  · obtain ⟨e, he⟩ := hbreak hb
    have herror : x.bodyText f root = .error e := by rw [htext, he]; rfl
    rw [herror]
    exact ⟨iff_of_true rfl (.inl hb), fun h => (h hb).elim⟩
  · have hok : x.bodyText f root = .ok ⟨f.name.toList, f.outcome x.baseUrl .body offered f.selectors⟩ := by
      rw [htext, hfree hb]
      rfl
    rw [hok]
    cases f.outcome x.baseUrl .body offered f.selectors <;>
      simp [findsNothing, Finding.isFound, Finding.status, hb]

/-- A page with a description. -/
def describedPage : Extraction where
  page := .top (.element "[document]" []
    [.element "meta" [("name", .one "description"), ("content", .one "Advertisement")] []])
  rules := ⟨none, fun _ => none⟩
  baseUrl := []
  properties := []

/-- A body that is read from the description and stops at advertisements. -/
def describedBody : FieldRule :=
  ⟨"body", [plainSelector .metadata "description"], [], .none, [], [⟨"Advert.*", .body, true⟩], [],
    "", true, false, true⟩

/-- The description of the page ends the field, so the body is missing. -/
theorem body_eq_evaluate_iff_described : describedPage.root? = some describedPage.page ∧
    (∀ s ∈ describedBody.selectors, s.source = .metadata) ∧
    (describedPage.body describedBody).result = .ok ⟨"body".toList, .missing⟩ := by
  have hmeta : ∀ s ∈ describedBody.selectors, s.source = .metadata := List.forall_mem_singleton.mpr rfl
  refine ⟨rfl, hmeta, (body_eq_evaluate_iff (x := describedPage) rfl hmeta).2 ?_ ?_⟩
  · rintro ⟨-, s, -, -, -, -, t, -, -, -, -, hstuck | ⟨hurl, -⟩⟩
    · exact not_reached_nil hstuck
    · cases hurl
  · exact ⟨[], _, [], rfl, by simp, rfl⟩

/-- The field as text is stopped there. -/
theorem body_missing_of_stopped : ¬ ∀ (x : Extraction) (f : FieldRule) (root : Place), x.root? = some root →
    f.isBody = true → (∀ s ∈ f.selectors, s.source = .metadata) →
    (x.body f).result = (f.evaluate x.baseUrl .body x.properties x.document root).result := by
  intro h
  have hsame := h describedPage describedBody describedPage.page rfl rfl (List.forall_mem_singleton.mpr rfl)
  have hbody : (describedPage.body describedBody).result = .ok ⟨"body".toList, .missing⟩ := rfl
  have htext : (describedBody.evaluate describedPage.baseUrl .body describedPage.properties describedPage.document
      describedPage.page).result = .ok ⟨"body".toList, .stopped⟩ := rfl
  rw [hbody, htext] at hsame
  cases hsame

end Extraction

end Excerpt
