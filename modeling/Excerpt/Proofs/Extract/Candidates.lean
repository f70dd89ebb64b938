import Excerpt.Proofs.Extract.Narrowed
import Excerpt.Proofs.Extract.Outcome

/-!
# Candidates and finds

The candidates of a field are what the extractors leave of the first selector that reads anything (`firstOffered`). A
field that takes its values as they are read (`TakesAsRead`) finds what they leave of the first selector of which they
leave anything (`firstLeft`). Both are the same selector unless the extractors leave nothing of the former
(`LosesFirst`): then there are no candidates, though there may be values. `candidates_evaluate` is the main statement.
-/

namespace Excerpt

namespace Extractor

variable (props : Properties)

/-- What several extractors make of a text in turn; one that drops it ends the matter. -/
def narrow? (xs : List Extractor) (t : Text) : Option Text :=
  xs.foldlM (fun t x => (x.extract props t).text?) t

/-- What several extractors leave of a text: what they make of it, unless that is empty. -/
def leave? (xs : List Extractor) (t : Text) : Option Text :=
  (narrow? props xs t).filter (!·.isEmpty)

/-- A chain of extractors leaves one text or drops it, and it ends in no fault. -/
theorem chain_result : ∀ (xs : List Extractor) (t : Text), (chain props t xs).result = .ok (narrow? props xs t)
  | [], _ => rfl
  | x :: xs, t => by
    rw [chain, narrow?, List.foldlM_cons]
    cases x.extract props t with
    | kept u => exact chain_result xs u
    | dropped => rfl
    | unknownGroup => rfl

/-- Each text goes through the chain by itself, and the dropped ones are left out. -/
theorem applyAll_result (xs : List Extractor) : ∀ ts : List Text,
    (applyAll xs props ts).result = .ok (ts.filterMap (leave? props xs))
  | [] => rfl
  | t :: ts => by
    rw [applyAll, Traced.result_bind, chain_result, List.filterMap_cons, leave?]
    simp only [Except.bind, Traced.result_bind, applyAll_result xs ts]
    cases narrow? props xs t with
    | none => rfl
    | some u => cases u <;> rfl

end Extractor

namespace FieldRule

open Extractor (leave?)

variable {f : FieldRule} {baseUrl : Text} {scope : Scope} {props : Properties} {document : Node} {p : Place}

/-! ## Candidates -/

/-- What a selector offers is what the chain leaves of what it reads. -/
theorem offered_eq (s : Selector) :
    f.offered props document p s = (f.raw document p s).filterMap (leave? props f.extractors) := by
  rw [offered, Extractor.applyAll_result]
  rfl

theorem offered_eq_nil_iff {s : Selector} :
    f.offered props document p s = [] ↔ ∀ t ∈ f.raw document p s, leave? props f.extractors t = none := by
  rw [offered_eq, List.filterMap_eq_nil_iff]

theorem offered_ne_nil_iff {s : Selector} : f.offered props document p s ≠ [] ↔
    ∃ t ∈ f.raw document p s, (leave? props f.extractors t).isSome = true := by
  simp only [Ne, offered_eq_nil_iff, not_forall, exists_prop, Option.isSome_iff_ne_none]

theorem offered_of_raw {s : Selector} (h : f.raw document p s = []) : f.offered props document p s = [] := by
  rw [offered_eq, h]
  rfl

/-- Empty texts are dropped, so no candidate is empty. -/
theorem ne_nil_of_mem_offered {s : Selector} {t : Text} (h : t ∈ f.offered props document p s) : t ≠ [] := by
  rw [offered_eq] at h
  obtain ⟨u, -, hu⟩ := List.mem_filterMap.mp h
  have hne := Option.eq_some_of_filter_eq_some hu
  rintro rfl
  simp [leave?, hne] at hu

/-- What the extractors leave of the first selector that reads anything. -/
def firstOffered (f : FieldRule) (props : Properties) (document : Node) (p : Place) : List Text :=
  ((f.selectors.find? fun s => !(f.raw document p s).isEmpty).map (f.offered props document p)).getD []

/-- The selectors are asked in turn, up to the first one that reads anything. -/
theorem candidates_result : (f.candidates props document p).result = .ok (f.firstOffered props document p) := by
  rw [candidates, firstOffered]
  cases f.selectors.find? fun s => !(f.raw document p s).isEmpty with
  | none => rfl
  | some s => exact applyAll_offered f props document p s

/-! ## Finds -/

/-- The field takes its values as they are read: no filters, no dates, no case of its own and no links. -/
structure TakesAsRead (f : FieldRule) : Prop where
  filters : f.filters = []
  datePatterns : f.datePatterns = []
  textCase : f.textCase = .none
  isUrl : f.isUrl = false

namespace TakesAsRead

/-- A field that takes its values as they are read has no dates and no links to break off at. -/
theorem not_breaks (hf : f.TakesAsRead) (t : Text) : ¬ f.Breaks baseUrl scope t := by
  rintro ⟨-, hstuck | ⟨hurl, -⟩⟩
  · rw [DateStuck, hf.datePatterns] at hstuck
    exact not_reached_nil hstuck
  · cases hf.isUrl.symm.trans hurl

/-- It has no filters either, so no candidate ends it. -/
theorem not_ends (hf : f.TakesAsRead) (t : Text) : f.ends scope t = false := by
  simp [ends, stops, fatal, unparseable, hf.filters, hf.datePatterns, Filter.applyAll]

/-- A candidate that is not empty is a value as it is. -/
theorem survivor?_eq (hf : f.TakesAsRead) {t : Text} (ht : t ≠ []) : f.survivor? baseUrl scope t = some t := by
  have hpass : f.passes scope t = true := by simp [passes, hf.filters, Filter.applyAll]
  have hdate : f.dateText? t = some t := by simp [dateText?, hf.datePatterns, inCase, hf.textCase]
  simp [survivor?, hpass, formatted?, hdate, hf.isUrl, ht]

/-- Hence a selector decides as soon as it offers anything. -/
theorem any_decides (hf : f.TakesAsRead) (s : Selector) :
    (f.offered props document p s).any (f.decides baseUrl scope) = !(f.offered props document p s).isEmpty := by
  have hall : ∀ t ∈ f.offered props document p s, f.decides baseUrl scope t = true := fun t ht => by
    rw [decides, hf.survivor?_eq (ne_nil_of_mem_offered ht), Option.isSome_some, Bool.or_true]
  cases ho : f.offered props document p s with
  | nil => rfl
  | cons t ts =>
    rw [ho] at hall
    rw [List.any_cons, hall t List.mem_cons_self]
    rfl

/-- All candidates of the deciding selector are values. -/
theorem verdict_eq (hf : f.TakesAsRead) (s : Selector) :
    f.verdict baseUrl scope (f.offered props document p s) = .inr (f.offered props document p s) := by
  have hfind : (f.offered props document p s).find? (f.ends scope) = none :=
    List.find?_eq_none.mpr fun t _ => by simp [hf.not_ends t]
  have hsame : (f.offered props document p s).filterMap (f.survivor? baseUrl scope) = f.offered props document p s := by
    rw [List.filterMap_congr fun t ht => hf.survivor?_eq (ne_nil_of_mem_offered ht), List.filterMap_some]
  rw [verdict, hfind, hsame]

end TakesAsRead

/-- The find of what the extractors leave of the first selector of which they leave anything. -/
def firstLeft (f : FieldRule) (props : Properties) (document : Node) (p : Place) : Finding :=
  ((f.selectors.find? fun s => !(f.offered props document p s).isEmpty).map fun s =>
    .found (f.offered props document p s)).getD .missing

/-- The field finds what the first selector with a candidate offers. -/
theorem TakesAsRead.evaluate_result (hf : f.TakesAsRead) : (f.evaluate baseUrl scope props document p).result =
    .ok ⟨f.name.toList, f.firstLeft props document p⟩ := by
  have hfree : ¬ f.BreaksOff baseUrl scope (f.offered props document p) f.selectors := by
    rintro ⟨-, s, -, -, -, -, t, -, -, -, ht⟩
    exact hf.not_breaks t ht
  rw [(evaluate_eq_outcome_iff f baseUrl scope props document p).1.mpr hfree, outcome, firstLeft]
  simp only [hf.any_decides]
  cases f.selectors.find? fun s => !(f.offered props document p s).isEmpty with
  | none => rfl
  | some s => simp only [hf.verdict_eq, Option.map_some, Option.getD_some]

/-- Something is found if any selector offers anything. -/
theorem isFound_firstLeft_iff : (f.firstLeft props document p).isFound = true ↔
    ∃ s ∈ f.selectors, f.offered props document p s ≠ [] := by
  rw [firstLeft]
  cases hs : f.selectors.find? fun s => !(f.offered props document p s).isEmpty with
  | none =>
    have hnone := List.find?_eq_none.mp hs
    exact iff_of_false (by simp [Finding.isFound]) fun ⟨s, hmem, hne⟩ => hnone s hmem (by simpa using hne)
  | some s => exact iff_of_true rfl ⟨s, List.mem_of_find?_eq_some hs, by simpa using List.find?_some hs⟩

/-! ## The first selector of either kind -/

/-- If the extractors leave something of the first selector that reads anything, it is the first of which they do. -/
theorem firstLeft_of_ne_nil (h : f.firstOffered props document p ≠ []) :
    f.firstLeft props document p = .found (f.firstOffered props document p) := by
  rw [firstOffered] at h
  rw [firstLeft, firstOffered]
  cases hs : f.selectors.find? fun s => !(f.raw document p s).isEmpty with
  | none =>
    rw [hs] at h
    exact (h rfl).elim
  | some s =>
    rw [hs] at h
    have hne : f.offered props document p s ≠ [] := h
    obtain ⟨-, before, after, hss, hbefore⟩ := List.find?_eq_some_iff_append.mp hs
    have hleft : f.selectors.find? (fun s => !(f.offered props document p s).isEmpty) = some s :=
      List.find?_eq_some_iff_append.mpr ⟨by simpa using hne, before, after, hss, fun r hr => by
        simpa using offered_of_raw (by simpa using hbefore r hr)⟩
    rw [hleft]
    rfl

/-- The extractors leave nothing of the first selector that reads anything, and something of a later one. -/
def LosesFirst (f : FieldRule) (props : Properties) (document : Node) (p : Place) : Prop :=
  ∃ before s after, f.selectors = before ++ s :: after ∧ (∀ r ∈ before, f.raw document p r = []) ∧
    f.raw document p s ≠ [] ∧ (∀ t ∈ f.raw document p s, leave? props f.extractors t = none) ∧
    ∃ r ∈ after, ∃ t ∈ f.raw document p r, (leave? props f.extractors t).isSome = true

theorem losesFirst_iff : f.LosesFirst props document p ↔
    f.firstOffered props document p = [] ∧ ∃ s ∈ f.selectors, f.offered props document p s ≠ [] := by
  constructor
  · rintro ⟨before, s, after, hss, hbefore, hraw, hlost, r, hr, hkept⟩
    have hfind : f.selectors.find? (fun s => !(f.raw document p s).isEmpty) = some s :=
      List.find?_eq_some_iff_append.mpr
        ⟨by simpa using hraw, before, after, hss, fun u hu => by simpa using hbefore u hu⟩
    rw [firstOffered, hfind]
    exact ⟨offered_eq_nil_iff.mpr hlost, r, by simp [hss, hr], offered_ne_nil_iff.mpr hkept⟩
  · rintro ⟨hnone, r, hr, hkept⟩
    have hraw : f.raw document p r ≠ [] := mt offered_of_raw hkept
    obtain ⟨s, hfind⟩ : ∃ s, f.selectors.find? (fun s => !(f.raw document p s).isEmpty) = some s := by
      rw [← Option.isSome_iff_exists, List.find?_isSome]
      exact ⟨r, hr, by simpa using hraw⟩
    rw [firstOffered, hfind] at hnone
    have hlost : f.offered props document p s = [] := hnone
    obtain ⟨hs, before, after, hss, hbefore⟩ := List.find?_eq_some_iff_append.mp hfind
    have hbefore : ∀ u ∈ before, f.raw document p u = [] := fun u hu => by simpa using hbefore u hu
    refine ⟨before, s, after, hss, hbefore, by simpa using hs, offered_eq_nil_iff.mp hlost, r, ?_,
      offered_ne_nil_iff.mp hkept⟩
    -- The selector that is left something of is neither the first one nor before it.
    rw [hss, List.mem_append, List.mem_cons] at hr
    rcases hr with hr | rfl | hr
    · exact (hraw (hbefore r hr)).elim
    · exact (hkept hlost).elim
    · exact hr

/-- **Candidates and finds.** If a field takes its values as they are read, both its candidates and its finding come
out. If there are candidates, the field finds exactly them; if it finds nothing, there are none; and there are none
where it finds something exactly if the extractors leave nothing of the first selector that reads anything, and
something of a later one. -/
theorem candidates_evaluate (hf : f.TakesAsRead) (baseUrl : Text) (scope : Scope) (props : Properties) (document : Node)
    (p : Place) : ∃ values finding, (f.candidates props document p).result = .ok values ∧
      (f.evaluate baseUrl scope props document p).result = .ok ⟨f.name.toList, finding⟩ ∧
      (values ≠ [] → finding = .found values) ∧
      (finding = .missing → values = []) ∧
      (values = [] ∧ finding.isFound = true ↔ f.LosesFirst props document p) := by
  refine ⟨_, _, candidates_result, hf.evaluate_result, firstLeft_of_ne_nil, fun hmissing => ?_, ?_⟩
  · by_contra hne
    cases hmissing.symm.trans (firstLeft_of_ne_nil hne)
  · rw [isFound_firstLeft_iff, losesFirst_iff]

/-- A validator with two selectors and an extractor for numbers. -/
def numbered : FieldRule :=
  ((FieldRule.ofDoc (.ofFields [("name", .str "validator"), ("selectors", .list [.str "h1", .str "h2"]),
    ("extractor", .str "(\\d+)")])).toOption).getD ⟨"", [], [], .none, [], [], [], "", true, false, true⟩

/-- A page with a number in its second heading only. -/
def numberedPage : Place :=
  .top (.element "[document]" [] [.element "h1" [] [.text .plain "News".toList],
    .element "h2" [] [.text .plain "12".toList]])

/-- The first heading is read and dropped, so there is no candidate; yet the field finds the number in the second. -/
theorem candidates_evaluate_numbered : numbered.TakesAsRead ∧
    (numbered.candidates [] numberedPage.node numberedPage).result = .ok [] ∧
    (numbered.evaluate [] .text [] numberedPage.node numberedPage).result =
      .ok ⟨"validator".toList, .found ["12".toList]⟩ ∧
    numbered.LosesFirst [] numberedPage.node numberedPage := by
  have hf : numbered.TakesAsRead := ⟨rfl, rfl, rfl, rfl⟩
  have hcandidates : (numbered.candidates [] numberedPage.node numberedPage).result = .ok [] := rfl
  have hfound : (numbered.evaluate [] .text [] numberedPage.node numberedPage).result =
      .ok ⟨"validator".toList, .found ["12".toList]⟩ := rfl
  obtain ⟨values, finding, hvalues, hfinding, -, -, hloses⟩ :=
    candidates_evaluate hf [] .text [] numberedPage.node numberedPage
  rw [hcandidates] at hvalues
  rw [hfound] at hfinding
  cases hvalues
  cases hfinding
  exact ⟨hf, hcandidates, hfound, hloses.mp ⟨rfl, rfl⟩⟩

end FieldRule

end Excerpt
