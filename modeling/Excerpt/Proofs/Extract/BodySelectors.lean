import Excerpt.Extract.Page
import Excerpt.Proofs.Extract.Traced

/-!
# The selectors of a body

The selectors of a body are tried in order. A page selector settles the body if its elements give some markup. A meta
selector settles it if the whole field, read as text, comes to something other than nothing found. `result_bodyWith`
says so in one line: the body is what the first selector settles.

A meta selector whose key has no content does not change what the field is as text (`evaluate_without`), yet it brings
that text in. `body_without_iff` says exactly when the body is the same without it.
-/

namespace Excerpt

namespace FieldRule

variable (baseUrl : Text) (scope : Scope) (props : Properties) (document : Node) (p : Place)

/-- The field rule with other selectors. -/
def withSelectors (f : FieldRule) (ss : List Selector) : FieldRule :=
  { f with selectors := ss }

@[simp] theorem withSelectors_name (f : FieldRule) (ss : List Selector) : (f.withSelectors ss).name = f.name := rfl

theorem judgeAll_withSelectors (f : FieldRule) (l : List Selector) : ∀ ts : List Text,
    (f.withSelectors l).judgeAll baseUrl scope ts = f.judgeAll baseUrl scope ts
  | [] => rfl
  | t :: ts => by
    rw [judgeAll, judgeAll, judgeAll_withSelectors f l ts]
    rfl

/-- What selectors find does not depend on the other selectors of the field. -/
theorem evaluateWith_withSelectors (f : FieldRule) (l : List Selector) : ∀ ss : List Selector,
    (f.withSelectors l).evaluateWith baseUrl scope props document p ss =
      f.evaluateWith baseUrl scope props document p ss
  | [] => rfl
  | s :: ss => by
    rw [evaluateWith, evaluateWith, evaluateWith_withSelectors f l ss]
    simp only [judgeAll_withSelectors]
    rfl

variable {baseUrl scope props document p}

/-- A selector that reads nothing is passed over. -/
theorem evaluateWith_skip {f : FieldRule} {m : Selector} (hm : f.raw document p m = []) : ∀ pre post : List Selector,
    f.evaluateWith baseUrl scope props document p (pre ++ m :: post) =
      f.evaluateWith baseUrl scope props document p (pre ++ post)
  | [], post => by
    rw [List.nil_append, evaluateWith, hm]
    rfl
  | s :: pre, post => by
    rw [List.cons_append, evaluateWith, evaluateWith_skip hm pre post]
    rfl

/-- A meta selector whose key has no content reads nothing. -/
theorem raw_of_no_content {f : FieldRule} {m : Selector} (hm : m.source = .metadata)
    (hnone : (document.metaContent? m.expr.toList).getD [] = []) : f.raw document p m = [] := by
  rw [raw, Selector.select, hm]
  cases hc : document.metaContent? m.expr.toList with
  | none => simp [Selector.present]
  | some t =>
    rw [hc] at hnone
    simp [Selector.present, show t = [] from hnone]

/-- A meta selector whose key has no content does not change what the field finds. -/
theorem evaluate_without {f : FieldRule} {pre post : List Selector} {m : Selector} (hm : m.source = .metadata)
    (hnone : (document.metaContent? m.expr.toList).getD [] = []) :
    (f.withSelectors (pre ++ post)).evaluate baseUrl scope props document p =
      (f.withSelectors (pre ++ m :: post)).evaluate baseUrl scope props document p := by
  rw [evaluate, evaluate, evaluateWith_withSelectors, evaluateWith_withSelectors]
  simp only [withSelectors]
  rw [evaluateWith_skip (raw_of_no_content hm hnone)]

end FieldRule

namespace Extraction

/-- What a field comes to when the whole of it is read as text. -/
def bodyText (x : Extraction) (f : FieldRule) (root : Place) : Except Fault FieldReport :=
  (f.evaluate x.baseUrl .body x.properties x.document root).result

/-- Whether a report says that nothing was found. -/
def findsNothing : Except Fault FieldReport → Bool
  | .ok report => !report.finding.isFound
  | .error _ => false

/-- What a selector settles the body to, if it does; `text` is what the field comes to as text. -/
def settled? (f : FieldRule) (root : Place) (text : Except Fault FieldReport) (s : Selector) :
    Option (Except Fault FieldReport) :=
  match s.source with
  | .metadata => if findsNothing text then none else some text
  | .page => (bodyValue? f s root).map fun value => .ok ⟨f.name.toList, .found [value]⟩

/-- **The body is what the first selector settles.** -/
theorem result_bodyWith (x : Extraction) (f : FieldRule) (root : Place) : ∀ ss : List Selector,
    (x.bodyWith f root ss).result =
      (ss.findSome? (settled? f root (x.bodyText f root))).getD (.ok ⟨f.name.toList, .missing⟩)
  | [] => by
    rw [bodyWith]
    split <;> rfl
  | s :: ss => by
    have ih := result_bodyWith x f root ss
    rw [bodyWith, List.findSome?_cons]
    cases hs : s.source with
    | metadata =>
      simp only [settled?, hs, Traced.result_bind]
      change (x.bodyText f root).bind _ = _
      cases ht : x.bodyText f root with
      | error e => rfl
      | ok report =>
        rw [ht] at ih
        cases hf : report.finding.isFound with
        | true => simp [findsNothing, Except.bind, hf]
        | false => simpa [findsNothing, Except.bind, hf] using ih
    | page =>
      simp only [settled?, hs]
      cases bodyValue? f s root with
      | none => exact ih
      | some value => rfl

/-! ## Without a meta selector -/

/-- Whether a selector is a meta selector or gives some markup. -/
def settles (f : FieldRule) (root : Place) (s : Selector) : Bool :=
  s.source == .metadata || (bodyValue? f s root).isSome

theorem settled?_metadata {f : FieldRule} {root : Place} {text : Except Fault FieldReport} {s : Selector}
    (hs : s.source = .metadata) : settled? f root text s = if findsNothing text then none else some text := by
  rw [settled?, hs]

theorem settled?_page {f : FieldRule} {root : Place} {text : Except Fault FieldReport} {s : Selector}
    (hs : s.source = .page) : settled? f root text s =
      (bodyValue? f s root).map fun value => .ok ⟨f.name.toList, .found [value]⟩ := by
  rw [settled?, hs]

/-- Only meta selectors and selectors with markup settle the body. -/
theorem settles_of_settled? {f : FieldRule} {root : Place} {text a : Except Fault FieldReport} {s : Selector}
    (h : settled? f root text s = some a) : settles f root s = true := by
  rw [settles]
  cases hs : s.source with
  | metadata => rfl
  | page =>
    rw [settled?_page hs] at h
    obtain ⟨value, hv, -⟩ := Option.map_eq_some_iff.mp h
    simp [hv]

/-- If the field as text comes to something, all of them do. -/
theorem exists_settled? {f : FieldRule} {root : Place} {text : Except Fault FieldReport} {s : Selector}
    (ht : findsNothing text = false) (h : settles f root s = true) : ∃ a, settled? f root text s = some a := by
  cases hs : s.source with
  | metadata =>
    rw [settled?_metadata hs, ht]
    exact ⟨text, rfl⟩
  | page =>
    rw [settles, hs] at h
    obtain ⟨value, hv⟩ := Option.isSome_iff_exists.mp h
    rw [settled?_page hs, hv]
    exact ⟨_, rfl⟩

theorem findSome?_settled? {f : FieldRule} {root : Place} {text : Except Fault FieldReport}
    (ht : findsNothing text = false) : ∀ ss : List Selector,
    ss.findSome? (settled? f root text) = (ss.find? (settles f root)).bind (settled? f root text)
  | [] => rfl
  | s :: ss => by
    rw [List.findSome?_cons, List.find?_cons]
    cases hs : settles f root s with
    | true =>
      obtain ⟨a, ha⟩ := exists_settled? ht hs
      rw [ha]
      exact ha.symm
    | false =>
      cases ha : settled? f root text s with
      | none => exact findSome?_settled? ht ss
      | some a =>
        rw [settles_of_settled? ha] at hs
        cases hs

/-- When the selectors after a meta selector settle the body to what the field is as text. -/
theorem post_settles_iff {f : FieldRule} {root : Place} {text : Except Fault FieldReport}
    (ht : findsNothing text = false) (post : List Selector) :
    (post.findSome? (settled? f root text)).getD (.ok ⟨f.name.toList, .missing⟩) = text ↔
      ∃ s, post.find? (settles f root) = some s ∧
        (s.source = .metadata ∨ ∃ value, bodyValue? f s root = some value ∧
          text = .ok ⟨f.name.toList, .found [value]⟩) := by
  rw [findSome?_settled? ht]
  cases hp : post.find? (settles f root) with
  | none =>
    refine iff_of_false ?_ (by simp)
    intro (h : Except.ok ⟨f.name.toList, .missing⟩ = text)
    rw [← h] at ht
    cases ht
  | some s =>
    simp only [Option.bind_some, Option.some.injEq, exists_eq_left']
    cases hs : s.source with
    | metadata =>
      rw [settled?_metadata hs, ht]
      simp
    | page =>
      have hset := List.find?_some hp
      rw [settles, hs] at hset
      obtain ⟨value, hv⟩ := Option.isSome_iff_exists.mp hset
      rw [settled?_page hs, hv]
      simp [eq_comm]

/-- **When a meta selector without content leaves the body alone**: the field as text comes to nothing, or an earlier
selector is a meta selector or gives markup, or the first such selector after it settles the body to the same. -/
theorem body_without_iff (x : Extraction) (f : FieldRule) (pre post : List Selector) {m : Selector}
    (hm : m.source = .metadata) (hnone : (x.document.metaContent? m.expr.toList).getD [] = []) :
    (x.body (f.withSelectors (pre ++ post))).result = (x.body (f.withSelectors (pre ++ m :: post))).result ↔
      ∀ root, x.root? = some root →
        findsNothing (x.bodyText (f.withSelectors (pre ++ m :: post)) root) = true ∨
        (∃ s ∈ pre, settles f root s = true) ∨
        ∃ s, post.find? (settles f root) = some s ∧
          (s.source = .metadata ∨ ∃ value, bodyValue? f s root = some value ∧
            x.bodyText (f.withSelectors (pre ++ m :: post)) root = .ok ⟨f.name.toList, .found [value]⟩) := by
  cases hroot : x.root? with
  | none => simp [body, hroot]
  | some root =>
    have hsame : x.bodyText (f.withSelectors (pre ++ post)) root =
        x.bodyText (f.withSelectors (pre ++ m :: post)) root := by
      rw [bodyText, bodyText, FieldRule.evaluate_without hm hnone]
    simp only [body, hroot, result_bodyWith, hsame, Option.some.injEq, forall_eq']
    generalize x.bodyText (f.withSelectors (pre ++ m :: post)) root = text
    change ((pre ++ post).findSome? (settled? f root text)).getD (.ok ⟨f.name.toList, .missing⟩) =
      ((pre ++ m :: post).findSome? (settled? f root text)).getD (.ok ⟨f.name.toList, .missing⟩) ↔ _
    rw [List.findSome?_append, List.findSome?_append, List.findSome?_cons, settled?_metadata hm]
    cases hpre : pre.findSome? (settled? f root text) with
    | some a =>
      obtain ⟨s, hs, ha⟩ := List.exists_of_findSome?_eq_some hpre
      exact iff_of_true rfl (Or.inr (Or.inl ⟨s, hs, settles_of_settled? ha⟩))
    | none =>
      cases ht : findsNothing text with
      | true => exact iff_of_true rfl (Or.inl rfl)
      | false =>
        have hnot : ¬ ∃ s ∈ pre, settles f root s = true := by
          rintro ⟨s, hs, hset⟩
          obtain ⟨a, ha⟩ := exists_settled? ht hset
          rw [List.findSome?_eq_none_iff.mp hpre s hs] at ha
          cases ha
        simp only [Bool.false_eq_true, if_false, false_or, hnot, Option.none_or, Option.getD_some]
        exact post_settles_iff ht post

/-- A page with a block of two paragraphs and without `meta` elements; there are no rules for its slots. -/
def twoParagraphs : Extraction where
  page := .top (.element "[document]" []
    [.element "div" [] [.element "p" [] [.text .plain "A".toList], .element "p" [] [.text .plain "B".toList]]])
  rules := ⟨none, fun _ => none⟩
  baseUrl := []
  properties := []

/-- A selector with the usual values of all attributes but two. -/
def plainSelector (source : Source) (expr : String) : Selector :=
  ⟨expr, source, .text, none, none, none, [], none, false⟩

/-- A body without selectors. -/
def plainBody : FieldRule :=
  ⟨"body", [], [], .none, [], [], [], "", true, false, true⟩

/-- Behind the selector that settles the body, a meta selector without content does nothing. -/
theorem body_without_last :
    let m := plainSelector .metadata "og:none"
    (m.source = .metadata ∧ (twoParagraphs.document.metaContent? m.expr.toList).getD [] = []) ∧
      (twoParagraphs.body (plainBody.withSelectors [plainSelector .page "div"])).result =
        (twoParagraphs.body (plainBody.withSelectors [plainSelector .page "div", m])).result := by
  intro m
  have hm : m.source = .metadata := rfl
  have hnone : (twoParagraphs.document.metaContent? m.expr.toList).getD [] = [] := rfl
  have hfirst : settles plainBody twoParagraphs.page (plainSelector .page "div") = true := rfl
  refine ⟨⟨hm, hnone⟩, (body_without_iff twoParagraphs plainBody [plainSelector .page "div"] [] hm hnone).mpr ?_⟩
  rintro root ⟨⟩
  exact Or.inr (Or.inl ⟨_, List.mem_singleton_self _, hfirst⟩)

/-- In front of it, it turns markup into text. -/
theorem body_without_first : ¬ ∀ (x : Extraction) (f : FieldRule) (pre post : List Selector) (m : Selector),
    f.isBody = true → (∃ s ∈ pre ++ post, s.source = .page) → m.source = .metadata →
    (x.document.metaContent? m.expr.toList).getD [] = [] →
    (x.body (f.withSelectors (pre ++ post))).result = (x.body (f.withSelectors (pre ++ m :: post))).result := by
  intro h
  have he := h twoParagraphs plainBody [] [plainSelector .page "div"] (plainSelector .metadata "og:none") rfl
    ⟨_, List.mem_singleton_self _, rfl⟩ rfl rfl
  have hmarkup : (twoParagraphs.body (plainBody.withSelectors [plainSelector .page "div"])).result =
      .ok ⟨"body".toList, .found ["<p>A</p>\n<p>B</p>".toList]⟩ := rfl
  have htext : (twoParagraphs.body (plainBody.withSelectors
      [plainSelector .metadata "og:none", plainSelector .page "div"])).result =
      .ok ⟨"body".toList, .found ["AB".toList]⟩ := rfl
  rw [List.nil_append, List.nil_append, hmarkup, htext] at he
  exact absurd (Except.ok.inj he) (by decide)

end Extraction

end Excerpt
