import Excerpt.Proofs.Extract.Slots

/-!
# The gate of a page

A page is refused if its root is not found or its validator denies it (`Refused`). `report_gate` says what a report is
for every page and every rule set: rejected, with a reason and nothing else, if the page is refused, and otherwise one
entry for each slot that is there, each as if the slot were the only one.
-/

namespace Excerpt

/-! ## Conditions -/

namespace Condition

/-- There is an expression, and it matches the whole text. -/
def Applies (c : Condition) (t : Text) : Prop :=
  c.expr ≠ "" ∧ c.holds t = true

/-- The first of the conditions that applies to the text is `c`. -/
def FirstApplies (cs : List Condition) (t : Text) (c : Condition) : Prop :=
  ∃ before after, cs = before ++ c :: after ∧ c.Applies t ∧ ∀ d ∈ before, ¬ d.Applies t

/-- The first condition that applies to the text does not accept it, or none applies. -/
def Refuse (cs : List Condition) (t : Text) : Prop :=
  (∃ c, FirstApplies cs t c ∧ c.action ≠ .accept) ∨ ∀ c ∈ cs, ¬ c.Applies t

variable {cs : List Condition} {t : Text}

theorem applies_iff {c : Condition} : c.Applies t ↔ (c.hasExpr && c.holds t) = true := by
  simp [Applies, hasExpr]

theorem firstApplies_iff {c : Condition} :
    FirstApplies cs t c ↔ (cs.find? fun c => c.hasExpr && c.holds t) = some c := by
  rw [List.find?_eq_some_iff_append]
  simp only [FirstApplies, applies_iff, Bool.not_eq_true', Bool.not_eq_true]
  constructor
  · rintro ⟨before, after, hcs, hc, hb⟩
    exact ⟨hc, before, after, hcs, hb⟩
  · rintro ⟨hc, before, after, hcs, hb⟩
    exact ⟨before, after, hcs, hc, hb⟩

theorem accepts_eq_false_iff : accepts cs t = false ↔ Refuse cs t := by
  have hnone : (∀ c ∈ cs, ¬ c.Applies t) ↔ (cs.find? fun c => c.hasExpr && c.holds t) = none := by
    simp only [List.find?_eq_none, applies_iff]
  rw [Refuse, hnone, accepts]
  simp only [firstApplies_iff]
  cases cs.find? fun c => c.hasExpr && c.holds t with
  | none => simp
  | some c => simp

end Condition

theorem Rejection.message_ne_nil (reason : Rejection) : reason.message ≠ [] := by
  cases reason with
  | noRoot => decide
  | noValidator => decide
  | refused value => exact List.append_ne_nil_of_left_ne_nil (by decide) _

namespace Extraction

/-! ## Refusal -/

/-- The values of a validator do not let a page in: there is none, or the conditions refuse the first one. -/
def Denies (f : FieldRule) (values : List Text) : Prop :=
  values = [] ∨ ∃ value rest, values = value :: rest ∧ f.conditions ≠ [] ∧ Condition.Refuse f.conditions value

/-- The root selector matches nothing, or there is a validator and it denies what it reads below the root. -/
def Refused (x : Extraction) : Prop :=
  (∃ s, x.rules.root = some s ∧ s.find false x.page = []) ∨
  ∃ root f values, x.root? = some root ∧ x.rules.field .validator = some f ∧ f.selectors ≠ [] ∧
    (f.candidates x.properties x.document root).result = .ok values ∧ Denies f values

theorem denies_iff (f : FieldRule) (values : List Text) :
    Denies f values ↔ (judgeValidator f values).isSome = true := by
  rw [Denies]
  cases values with
  | nil => simp [judgeValidator]
  | cons value rest =>
    simp only [judgeValidator, ← Condition.accepts_eq_false_iff]
    cases hc : f.conditions.isEmpty <;> cases ha : Condition.accepts f.conditions value <;>
      simp_all [List.isEmpty_iff]

theorem root?_eq_none_iff (x : Extraction) :
    x.root? = none ↔ ∃ s, x.rules.root = some s ∧ s.find false x.page = [] := by
  rw [root?]
  cases x.rules.root with
  | none => simp
  | some s => simp [List.head?_eq_none_iff]

/-- What was found out about a page says whether it is refused. -/
theorem refused_iff {x : Extraction} {reason? : Option Rejection} (h : x.rejection?.result = .ok reason?) :
    x.Refused ↔ reason?.isSome = true := by
  rw [Refused, ← root?_eq_none_iff]
  rw [rejection?] at h
  cases hroot : x.root? with
  | none =>
    rw [hroot] at h
    cases h
    simp
  | some root =>
    rw [hroot] at h
    cases hf : x.rules.field .validator with
    | none =>
      rw [hf] at h
      cases h
      simp
    | some f =>
      simp only [hf] at h
      cases hs : f.selectors.isEmpty with
      | true =>
        rw [hs] at h
        cases h
        simp [List.isEmpty_iff.mp hs]
      | false =>
        rw [hs] at h
        obtain ⟨values, hv, hr⟩ := Traced.bind_eq_ok.mp h
        cases hr
        have hne : f.selectors ≠ [] := fun he => by simp [he] at hs
        simp [hv, hne, denies_iff]

/-! ## The report -/

theorem report_eq_ok {x : Extraction} {r : PageReport} (h : x.report.result = .ok r) :
    (∃ reason, x.rejection?.result = .ok (some reason) ∧ r = .rejected reason.message) ∨
    ∃ es, x.rejection?.result = .ok none ∧ (x.fields x.slots).result = .ok es ∧ r = .read es := by
  obtain ⟨reason?, hreason, h⟩ := Traced.bind_eq_ok.mp h
  cases reason? with
  | some reason => exact .inl ⟨reason, hreason, (Except.ok.inj h).symm⟩
  | none =>
    obtain ⟨es, hes, h⟩ := Traced.bind_eq_ok.mp h
    exact .inr ⟨es, hreason, hes, (Except.ok.inj h).symm⟩

theorem report_of_ok {x : Extraction} {es : List (String × FieldReport)} (hreason : x.rejection?.result = .ok none)
    (hes : (x.fields x.slots).result = .ok es) : x.report.result = .ok (.read es) :=
  Traced.bind_eq_ok.mpr ⟨none, hreason, Traced.bind_eq_ok.mpr ⟨es, hes, rfl⟩⟩

/-- With one slot alone, a page that is not refused still is not. -/
theorem rejection?_alone {x : Extraction} {s : Slot} (hs : s ≠ .validator) (h : x.rejection?.result = .ok none) :
    (x.alone s).rejection?.result = .ok none := by
  have hroot : (x.alone s).root? = x.root? := rfl
  have hfield : (x.alone s).rules.field .validator = none := RuleSet.only_field_of_ne x.rules hs.symm
  rw [rejection?, hroot, hfield]
  rw [rejection?] at h
  cases hx : x.root? with
  | none => simp [hx] at h
  | some root => rfl

/-- An entry of a report is the report with its slot alone. -/
theorem report_alone {x : Extraction} {s : Slot} {entry : FieldReport} (hs : s ∈ x.slots)
    (hreason : x.rejection?.result = .ok none) (h : (x.field s.key).result = .ok entry) :
    (x.alone s).report.result = .ok (.read [(s.key, entry)]) := by
  have hne : s ≠ .validator := by
    rw [slots_eq, List.mem_filter] at hs
    simp_all
  refine report_of_ok (rejection?_alone hne hreason) ?_
  rw [slots_alone hs]
  refine fields_eq_ok.mpr (.cons ⟨rfl, ?_⟩ .nil)
  rw [field_alone, h]

/-- **The report on a page.** It is rejected if and only if the page is refused, and then has a reason and no entries.
Otherwise its keys are those of the slots that are there, in order and without the validator; an entry carries the name
of its slot and is what the root and that slot alone give. -/
theorem report_gate (x : Extraction) (hb : x.rules.Built) {r : PageReport} (h : x.report.result = .ok r) :
    (r.isRejected = true ↔ x.Refused) ∧
    (r.isRejected = true → (∃ reason, r.reason? = some reason ∧ reason ≠ []) ∧ r.fields = []) ∧
    (r.isRejected = false →
      r.fields.map (·.1) = (Slot.all.filter fun s => s != .validator && x.rules.has s).map Slot.key ∧
      ∀ s entry, (s.key, entry) ∈ r.fields →
        entry.name = s.key.toList ∧ (x.alone s).report.result = .ok (.read [(s.key, entry)])) := by
  rcases report_eq_ok h with ⟨reason, hreason, rfl⟩ | ⟨es, hreason, hes, rfl⟩
  · refine ⟨?_, ?_, ?_⟩
    · rw [refused_iff hreason]
      exact iff_of_true rfl rfl
    · intro _
      exact ⟨⟨_, rfl, reason.message_ne_nil⟩, rfl⟩
    · intro hr
      cases hr
  · refine ⟨?_, ?_, ?_⟩
    · rw [refused_iff hreason]
      exact iff_of_false Bool.false_ne_true Bool.false_ne_true
    · intro hr
      cases hr
    · intro _
      rw [← slots_eq]
      refine ⟨keys_of_fields hes, ?_⟩
      intro s entry hm
      obtain ⟨hs, hentry⟩ := field_of_mem_fields hes hm
      exact ⟨name_of_field hb.named hentry, report_alone hs hreason hentry⟩

/-- Rules with a root, a validator with a condition, and three slots, one of them without a selector. -/
def newsDoc : Doc :=
  .ofFields
    [("root", .str "main"), ("validator", .ofFields [("selector", .str "h1"), ("condition", .str "News")]),
      ("title", .str "h1"), ("author-link", .ofFields [("optional", .bool true)]), ("body", .str "p")]

/-- A page that the validator lets in. -/
def newsPage : Extraction where
  page := .top (.element "[document]" [] [.element "main" []
    [.element "h1" [] [.text .plain "News".toList], .element "p" [] [.text .plain "Text".toList]]])
  rules := (RuleSet.ofDoc newsDoc).toOption.getD ⟨none, fun _ => none⟩
  baseUrl := []
  properties := []

/-- The report on the page. -/
def newsReport : PageReport :=
  .read [("title", ⟨"title".toList, .found ["News".toList]⟩), ("body", ⟨"body".toList, .found ["<p>Text</p>".toList]⟩)]

theorem report_gate_news : newsPage.rules.Built ∧ newsPage.report.result = .ok newsReport ∧ ¬ newsPage.Refused ∧
    (newsPage.alone .title).report.result = .ok (.read [("title", ⟨"title".toList, .found ["News".toList]⟩)]) := by
  have hb : newsPage.rules.Built := ⟨newsDoc, rfl⟩
  have hr : newsPage.report.result = .ok newsReport := rfl
  obtain ⟨hgate, -, hread⟩ := report_gate newsPage hb hr
  have hopen : ¬ newsPage.Refused := fun h => Bool.false_ne_true (hgate.mpr h)
  exact ⟨hb, hr, hopen, ((hread rfl).2 .title _ List.mem_cons_self).2⟩

end Extraction

end Excerpt
