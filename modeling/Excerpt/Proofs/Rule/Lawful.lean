import Excerpt.Proofs.Regex.Nested
import Excerpt.Proofs.Rule.WrittenOrder

/-!
# The laws of rule sets

Rule sets are read from documents, from JSON or YAML text, from arguments and from files over templates, and derived
from each other; rules that have been built before may stand in what they are made from (`RuleSet.Obtained`). All of
these ways end in the reading of a document (`Obtained.built`), and what has been read obeys the laws (`Built.lawful`):

* a field rule has the name of its slot, and a selector or leave to do without (`FieldRule.Lawful`);
* a selector has a trimmed expression that is not empty, and is CSS if it has to be (`Selector.Lawful`);
* each expression of a filter, condition or extractor is accepted (`Expression.Accepted`).
-/

namespace Excerpt

open Doc (Entries)

/-! ## Ways to rule sets -/

/-- What may be given for a part of a rule set: a document, or a rule that has been built. -/
inductive Given where
  | doc (d : Doc)
  | selector (s : Selector)
  | field (f : FieldRule)

/-- A rule is taken in its written form, its name included. -/
def Given.toDoc : Given → Doc
  | .doc d => d
  | .selector s => s.toDoc
  | .field f => f.toDoc .snake

/-- The mapping of what is given under several keys. -/
def Given.entries (gs : List (Scalar × Given)) : Entries :=
  gs.map fun g => (g.1, g.2.toDoc)

namespace RuleSet

/-- The rule sets that can be made in any number of steps. A template that is a mapping of rules that have been built
needs no way of its own: what it comes to with the document laid over it is read as a `mapping`. -/
inductive Obtained : RuleSet → Prop
  | read {d : Doc} {r : RuleSet} : schema.read d = .ok r → Obtained r
  | mapping {gs : List (Scalar × Given)} {r : RuleSet} : schema.read (.map (Given.entries gs)) = .ok r → Obtained r
  | arguments {gs : List (Scalar × Given)} {r : RuleSet} :
      schema.ofArguments (.map (Given.entries gs)) = .ok r → Obtained r
  | json {t : Text} {r : RuleSet} : schema.ofJson t = .ok r → Obtained r
  | yaml {t : Text} {r : RuleSet} : schema.ofYaml t = .ok r → Obtained r
  | loaded {files : Files} {name : String} {template : Option Entries} {r : RuleSet} :
      Load.ruleSet files name template = .ok r → Obtained r
  | loadedOver {files : Files} {name : String} {template r : RuleSet} : Obtained template →
      Load.ruleSet files name (template.toDoc .kebab).entries? = .ok r → Obtained r
  | derived {gs : List (Scalar × Given)} {r r' : RuleSet} : Obtained r →
      schema.derive r (Given.entries gs) = .ok r' → Obtained r'

theorem built_of_read {d : Doc} {r : RuleSet} (h : schema.read d = .ok r) : r.Built :=
  ⟨d, Schema.read_eq_ok.mp h⟩

theorem built_of_ruleSet {files : Files} {name : String} {template : Option Entries} {r : RuleSet}
    (h : Load.ruleSet files name template = .ok r) : r.Built := by
  obtain ⟨es, -, hload⟩ := Normal.bind_eq_ok.mp h
  cases template with
  | none =>
    obtain ⟨slots, -, hread⟩ := Normal.bind_eq_ok.mp hload
    exact built_of_read hread
  | some base =>
    obtain ⟨slots, -, hread⟩ := Normal.bind_eq_ok.mp hload
    exact built_of_read hread

/-- Every way to a rule set ends in the reading of a document. -/
theorem Obtained.built {r : RuleSet} (h : r.Obtained) : r.Built := by
  cases h with
  | read h | mapping h => exact built_of_read h
  | arguments h => exact built_of_read (Schema.read_eq_ok.mpr (Schema.readAs_eq_ok.mp h))
  | json h =>
    obtain ⟨d, -, hd⟩ := Schema.ofJson_eq_ok.mp h
    exact ⟨d, hd⟩
  | yaml h => exact Schema.ofYaml_eq_ok h
  | loaded h => exact built_of_ruleSet h
  | loadedOver _ h => exact built_of_ruleSet h
  | derived _ h => exact built_of_read h

end RuleSet

/-! ## Laws -/

/-- An expression that a rule may hold: the empty one, or one that passes the check and can be read. -/
def Expression.Accepted (s : String) : Prop :=
  s = "" ∨ (check Settings.default.maxExpressionLength s.toList = .ok () ∧ ∃ p, Pattern.parse? s.toList = some p)

/-- The laws of a selector. -/
structure Selector.Lawful (s : Selector) : Prop where
  expr_ne : s.expr ≠ ""
  trimmed : Text.trim s.expr.toList = s.expr.toList
  css : s.source = .page → s.expr ≠ rootExpr → ∃ cs, Css.parse s.expr.toList = .ok cs

/-- The laws of a field rule. -/
structure FieldRule.Lawful (f : FieldRule) : Prop where
  located : f.selectors = [] → f.optional = true
  selectors : ∀ s ∈ f.selectors, s.Lawful
  filters : ∀ x ∈ f.filters, Expression.Accepted x.expr
  conditions : ∀ c ∈ f.conditions, Expression.Accepted c.expr
  extractors : ∀ x ∈ f.extractors, Expression.Accepted x.expr ∧ Expression.Accepted x.validator

/-- The laws of a rule set. -/
structure RuleSet.Lawful (r : RuleSet) : Prop where
  root : ∀ s, r.root = some s → s.Lawful
  fields : ∀ slot f, r.field slot = some f → f.name = slot.key ∧ f.Lawful

theorem Expression.accepted_of_compiles {s : String} (h : Compiles s) : Accepted s := by
  by_cases hs : s = ""
  · exact .inl hs
  · have hne : s.toList.isEmpty = false := by simpa using hs
    rw [Compiles, compile, hne] at h
    refine .inr ?_
    cases hcheck : check Settings.default.maxExpressionLength s.toList with
    | error e => simp [hcheck] at h
    | ok _ =>
      cases hp : Pattern.parse s.toList with
      | error e => simp [hcheck, hp] at h
      | ok p => exact ⟨rfl, p, by rw [Pattern.parse?, hp]; rfl⟩

theorem Selector.lawful_of_ofDoc {d : Doc} {s : Selector} (h : ofDoc d = .ok s) : s.Lawful := by
  obtain ⟨es, hes⟩ : ∃ es, ofEntries es = .ok s := by
    rw [ofDoc.eq_def] at h
    split at h
    · exact ⟨_, h⟩
    · exact ⟨_, h⟩
    · cases h
  obtain ⟨hexpr, -, -, -, -, -, -, -, -, hchecked⟩ := ofEntries_eq_ok.mp hes
  obtain ⟨e, he, htrim⟩ := Decoded.andThen_eq_ok.mp (restores_expr hexpr)
  cases he
  have hne : (Text.trim s.expr.toList).isEmpty = false := by
    by_contra hempty
    rw [Bool.not_eq_false] at hempty
    simp [hempty, Decoded.fail] at htrim
  simp only [hne, Bool.false_eq_true, if_false, Decoded.ok.injEq] at htrim
  have htrimmed : Text.trim s.expr.toList = s.expr.toList := by
    simpa only [String.toList_ofList] using congrArg String.toList htrim
  refine ⟨?_, htrimmed, fun hsource hroot => ?_⟩
  · intro hexpr
    rw [hexpr] at hne
    cases hne
  · have hcss : s.isCss = true := by simp [isCss, isRoot, hsource, hroot]
    rw [checked, if_pos hcss] at hchecked
    split at hchecked
    · exact ⟨_, by assumption⟩
    · cases hchecked
    · cases hchecked

/-- The items of a list that is read back from its written form are. -/
theorem Decoded.read_write_of_mem {α : Type} {read : Doc → Decoded α} {write : α → Doc} {as : List α}
    (h : listOf read (.list (as.map write)) = .ok as) : ∀ a ∈ as, read (write a) = .ok a := by
  rw [listOf, items_eq_ok] at h
  exact List.forall₂_same.mp (List.forall₂_map_left_iff.mp h)

theorem FieldRule.Sound.lawful {f : FieldRule} (h : f.Sound) : f.Lawful := by
  obtain ⟨hattr, hlocated⟩ := h
  refine ⟨hlocated, fun s hs => ?_, fun x hx => ?_, fun c hc => ?_, fun x hx => ?_⟩
  · exact Selector.lawful_of_ofDoc (Decoded.read_write_of_mem (hattr (.list .selectors)) s hs)
  · have hread := Decoded.read_write_of_mem (hattr (.list .filters)) x hx
    exact Expression.accepted_of_compiles ((Expression.exists_filter_iff x.expr).mp ⟨_, x, hread, rfl⟩)
  · have hread := Decoded.read_write_of_mem (hattr (.list .conditions)) c hc
    exact Expression.accepted_of_compiles ((Expression.exists_condition_iff c.expr).mp ⟨_, c, hread, rfl⟩)
  · have hread := Decoded.read_write_of_mem (hattr (.list .extractors)) x hx
    exact ⟨Expression.accepted_of_compiles ((Expression.exists_extractor_iff x.expr).mp ⟨_, x, hread, rfl⟩),
      Expression.accepted_of_compiles ((Expression.exists_validator_iff x.validator).mp ⟨_, x, hread, rfl⟩)⟩

namespace RuleSet

/-- A rule set that is read from a document obeys the laws. -/
theorem Built.lawful {r : RuleSet} (h : r.Built) : r.Lawful :=
  ⟨fun s hs => Selector.lawful_of_ofDoc (h.sound.root s hs),
    fun slot f hf => ⟨h.named slot f hf, (h.sound.field slot f hf).lawful⟩⟩

/-- **Every rule set obeys the laws**, in whatever way it has been obtained. -/
theorem lawful_of_obtained {r : RuleSet} (h : r.Obtained) : r.Lawful :=
  h.built.lawful

/-- A rule that has been built under a name that is none of a slot. -/
def headline : FieldRule where
  name := "headline"
  selectors := [⟨"h1", .page, .text, none, none, none, [], none, false⟩]
  extractors := []
  textCase := .none
  datePatterns := []
  filters := [⟨"by .*", .all, false⟩]
  conditions := []
  basePath := ""
  removeParameters := true
  trailingSlash := false
  optional := false

/-- A rule set with a title, derived by the headline in another slot. -/
def borrowing : Except LoadError RuleSet := do
  let r ← schema.read (.ofFields [("title", .str "h2")])
  schema.derive r (Given.entries [(.str "author-link", .field headline)])

/-- The headline takes the name of the slot that it is put into. -/
theorem lawful_of_obtained_borrowing : FieldRule.schema.Made headline ∧ ∃ r f, borrowing = .ok r ∧ r.Obtained ∧
    r.field .authorLink = some f ∧ f.name = "author-link" ∧ f.filters = headline.filters ∧ f.Lawful := by
  have hmade : FieldRule.schema.Made headline :=
    .read (d := .ofFields [("name", .str "headline"), ("selector", .str "h1"), ("filter", .str "by .*")]) rfl
  have hread : borrowing.toOption.map (fun r => (r.field .authorLink).map FieldRule.filters) =
      some (some headline.filters) := by decide +kernel
  obtain ⟨r', hok, hfield⟩ := exists_of_toOption hread
  obtain ⟨f, hf, hfilters⟩ := Option.map_eq_some_iff.mp hfield
  obtain ⟨r, hr, hderive⟩ := Normal.bind_eq_ok.mp hok
  have hobtained : r'.Obtained := .derived (.read hr) hderive
  have hlawful := (lawful_of_obtained hobtained).fields .authorLink f hf
  exact ⟨hmade, r', f, hok, hobtained, hf, hlawful.1, hfilters, hlawful.2⟩

end RuleSet

end Excerpt
