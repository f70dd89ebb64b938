import Excerpt.Extract.Page
import Excerpt.Proofs.Css.Outline
import Excerpt.Proofs.Rule.Named
import Mathlib.Data.List.Find

/-!
# Extraction is confined to the root

Below the root of a page, selectors find elements and read texts from them; outside of it, selectors that do not ask for
texts (`RuleSet.SeesOutline`) see the outline of the page only, and of a `meta` element anywhere only its attributes. So
what is read at a place depends on the place with its surroundings in outline and on the outline of the document
(`Selector.select_framed`), and so does what a field finds (`FieldRule.evaluate_framed`).

Two pages agree for an extraction if they have one outline and the same tree at the path of the root
(`Extraction.AgreesOn`). The root is found at the same place in both (`Extraction.AgreesOn.root?_eq`), and everything
that is extracted is the same (`Extraction.report_confined`).
-/

namespace Excerpt

open Place (outline framed)

/-! ## Selectors -/

namespace Selector

/-- Whether the selector depends on no more of a page than its outline, where it is CSS. -/
def SeesOutline (s : Selector) : Prop :=
  Css.SeesOutline (s.css?.getD [])

theorem find_outline {s : Selector} (hs : s.SeesOutline) (multiple : Bool) (p : Place) :
    s.find multiple p.outline = (s.find multiple p).map outline := by
  rw [find, find]
  cases s.source with
  | metadata => rfl
  | page =>
    simp only [Css.select_outline hs]
    split
    · rfl
    · split
      · rfl
      · exact List.map_take.symm

theorem root_of_mem_find {s : Selector} {multiple : Bool} {p q : Place} (h : q ∈ s.find multiple p) :
    q.root = p.root := by
  rw [find] at h
  cases hsource : s.source with
  | metadata =>
    rw [hsource] at h
    cases h
  | page =>
    simp only [hsource] at h
    split at h
    · rw [List.mem_singleton.mp h]
    · have hselect : q ∈ Css.select (s.css?.getD []) p := by
        split at h
        · exact h
        · exact List.mem_of_mem_take h
      exact Place.root_of_mem_descendants (List.mem_filter.mp hselect).1

variable {p p' : Place} {document document' : Node}

theorem framed_find {s : Selector} (hs : s.SeesOutline) (multiple : Bool) (h : p'.framed = p.framed) :
    (s.find multiple p').map framed = (s.find multiple p).map framed := by
  rw [find, find]
  cases s.source with
  | metadata => rfl
  | page =>
    have hselect := Css.framed_select hs h
    dsimp only
    split
    · rw [List.map_singleton, List.map_singleton, h]
    · split
      · exact hselect
      · rw [List.map_take, List.map_take, hselect]

/-- The elements found are the same, with everything below them. -/
theorem node_find {s : Selector} (hs : s.SeesOutline) (multiple : Bool) (h : p'.framed = p.framed) :
    (s.find multiple p').map Place.node = (s.find multiple p).map Place.node := by
  have hnode : Place.node = Place.node ∘ framed := rfl
  rw [hnode, ← List.map_map, ← List.map_map, framed_find hs multiple h]

/-- What is read at a place does not depend on what the texts around it say. -/
theorem select_framed {s : Selector} (hs : s.SeesOutline) (multiple image : Bool)
    (hd : document'.outline = document.outline) (h : p'.framed = p.framed) :
    s.select multiple image document' p' = s.select multiple image document p := by
  rw [select, select]
  cases s.source with
  | metadata =>
    dsimp only
    rw [← Node.metaContent?_outline, hd, Node.metaContent?_outline]
  | page =>
    have hread : ∀ q : Place, ((s.find multiple q).map fun r => s.read? image (Exclude.strip s.excludes r.node)) =
        ((s.find multiple q).map Place.node).map fun n => s.read? image (Exclude.strip s.excludes n) := by
      intro q
      rw [List.map_map]
      rfl
    dsimp only
    rw [hread, hread, node_find hs multiple h]

end Selector

/-! ## Fields -/

namespace FieldRule

variable {f : FieldRule} {p p' : Place} {document document' : Node}

/-- Whether each selector of a field rule depends on no more of a page than its outline. -/
def SeesOutline (f : FieldRule) : Prop :=
  ∀ s ∈ f.selectors, s.SeesOutline

theorem raw_framed (f : FieldRule) {s : Selector} (hs : s.SeesOutline) (hd : document'.outline = document.outline)
    (h : p'.framed = p.framed) : f.raw document' p' s = f.raw document p s :=
  Selector.select_framed hs f.isBody f.isImage hd h

theorem candidates_framed (hf : f.SeesOutline) (props : Properties) (hd : document'.outline = document.outline)
    (h : p'.framed = p.framed) : f.candidates props document' p' = f.candidates props document p := by
  have hraw : ∀ s ∈ f.selectors, f.raw document' p' s = f.raw document p s := fun s hs => f.raw_framed (hf s hs) hd h
  have hfirst : (f.selectors.find? fun s => !(f.raw document' p' s).isEmpty) =
      f.selectors.find? fun s => !(f.raw document p s).isEmpty :=
    List.find?_congr fun s hs => by rw [hraw s hs]
  rw [candidates, candidates, hfirst]
  cases hs : f.selectors.find? fun s => !(f.raw document p s).isEmpty with
  | none => rfl
  | some s =>
    dsimp only
    rw [hraw s (List.mem_of_find?_eq_some hs)]

theorem evaluateWith_framed (f : FieldRule) (baseUrl : Text) (scope : Scope) (props : Properties)
    (hd : document'.outline = document.outline) (h : p'.framed = p.framed) : ∀ {ss : List Selector},
    (∀ s ∈ ss, s.SeesOutline) →
      f.evaluateWith baseUrl scope props document' p' ss = f.evaluateWith baseUrl scope props document p ss
  | [], _ => rfl
  | s :: ss, hss => by
    obtain ⟨hs, hrest⟩ := List.forall_mem_cons.mp hss
    rw [evaluateWith, evaluateWith, f.raw_framed hs hd h, evaluateWith_framed f baseUrl scope props hd h hrest]

/-- What a field finds below a place does not depend on what the texts around it say. -/
theorem evaluate_framed (hf : f.SeesOutline) (baseUrl : Text) (scope : Scope) (props : Properties)
    (hd : document'.outline = document.outline) (h : p'.framed = p.framed) :
    f.evaluate baseUrl scope props document' p' = f.evaluate baseUrl scope props document p := by
  rw [evaluate, evaluate, f.evaluateWith_framed baseUrl scope props hd h hf]

end FieldRule

/-! ## Rule sets -/

namespace RuleSet

/-- Whether the selectors of a rule set, that of the root and those of the slots, depend on no more of a page than its
outline: on tags and attributes, on the shape of the tree, and on which texts are blank. -/
structure SeesOutline (r : RuleSet) : Prop where
  root : ∀ s, r.root = some s → s.SeesOutline
  fields : ∀ slot f, r.field slot = some f → f.SeesOutline

/-- Whether some selector of a rule set asks for texts. -/
def asksTexts (r : RuleSet) : Bool :=
  (r.root.toList ++ Slot.all.flatMap fun slot => ((r.field slot).map (·.selectors)).getD []).any fun s =>
    Css.anyAsksTexts (s.css?.getD [])

/-- **Rules without questions about texts see outlines.** -/
theorem seesOutline_of_asksTexts {r : RuleSet} (h : r.asksTexts = false) : r.SeesOutline := by
  rw [asksTexts, List.any_eq_false] at h
  have hselector : ∀ s ∈ r.root.toList ++ Slot.all.flatMap fun slot => ((r.field slot).map (·.selectors)).getD [],
      s.SeesOutline := fun s hs => Css.seesOutline_of_asksTexts (Bool.eq_false_iff.mpr (h s hs))
  refine ⟨fun s hs => hselector s ?_, fun slot f hf s hs => hselector s ?_⟩
  · rw [hs]
    exact List.mem_append_left _ List.mem_cons_self
  · have hslot : slot ∈ Slot.all := by cases slot <;> decide
    refine List.mem_append_right _ (List.mem_flatMap.mpr ⟨slot, hslot, ?_⟩)
    rwa [hf]

theorem SeesOutline.of_get? {r : RuleSet} (h : r.SeesOutline) {name : String} {f : FieldRule}
    (hf : r.get? name = some f) :
    f.SeesOutline := by
  obtain ⟨slot, -, hslot⟩ := Option.bind_eq_some_iff.mp hf
  exact h.fields slot f hslot

end RuleSet

/-! ## Pages -/

namespace Extraction

/-- The extraction with another page. -/
def on (x : Extraction) (page : Place) : Extraction :=
  { x with page := page }

theorem rules_on (x : Extraction) (page : Place) : (x.on page).rules = x.rules := rfl

theorem baseUrl_on (x : Extraction) (page : Place) : (x.on page).baseUrl = x.baseUrl := rfl

theorem properties_on (x : Extraction) (page : Place) : (x.on page).properties = x.properties := rfl

/-- Another page agrees with the one of an extraction: it is the same but for what texts outside the root say. -/
structure AgreesOn (x : Extraction) (page : Place) : Prop where
  outline : page.outline = x.page.outline
  inside : ∀ r, x.root? = some r → page.nodeAt? r.path = x.page.nodeAt? r.path

theorem root_of_root? {x : Extraction} {r : Place} (h : x.root? = some r) : r.root = x.page.root := by
  rw [root?] at h
  cases hroot : x.rules.root with
  | none =>
    rw [hroot] at h
    rw [Option.some.inj h]
  | some s =>
    rw [hroot] at h
    exact Selector.root_of_mem_find (List.mem_of_mem_head? h)

/-- The tree at the path of the root is that of the root. -/
theorem nodeAt?_root {x : Extraction} {r : Place} (h : x.root? = some r) : x.page.nodeAt? r.path = some r.node := by
  rw [← r.nodeAt?_path, Place.nodeAt?, Place.nodeAt?, root_of_root? h]

theorem outline_root? {x : Extraction} (hx : x.rules.SeesOutline) {page : Place} (h : page.outline = x.page.outline) :
    (x.on page).root?.map Place.outline = x.root?.map Place.outline := by
  rw [root?, root?, on]
  cases hroot : x.rules.root with
  | none => exact congrArg some h
  | some s =>
    have hs := hx.root s hroot
    dsimp only
    rw [← List.head?_map, ← List.head?_map, ← Selector.find_outline hs, ← Selector.find_outline hs, h]

variable {x : Extraction} {page : Place}

/-- The root is found at the same place, and there is the same tree below it. -/
theorem AgreesOn.root?_eq (h : x.AgreesOn page) (hrules : x.rules.SeesOutline) :
    (x.on page).root?.map framed = x.root?.map framed := by
  have houtline := outline_root? hrules h.outline
  cases hx : x.root? with
  | none =>
    rw [hx, Option.map_none, Option.map_eq_none_iff] at houtline
    rw [houtline]
  | some r =>
    rw [hx, Option.map_some, Option.map_eq_some_iff] at houtline
    obtain ⟨r', hr', hsame⟩ := houtline
    have hpath : r'.path = r.path := by rw [← r'.path_outline, hsame, r.path_outline]
    -- the path leads to the root in either page, and to the same tree
    have hnode : r'.node = r.node := by
      have hat : (x.on page).page.nodeAt? r.path = x.page.nodeAt? r.path := h.inside r hx
      rw [← hpath, nodeAt?_root hr', hpath, nodeAt?_root hx] at hat
      exact Option.some.inj hat
    have htrail := congrArg Place.trail hsame
    rw [hr', Option.map_some, Option.map_some, framed, framed, hnode]
    exact congrArg (fun fs => some (Place.mk r.node fs)) htrail

/-- Either no root is found, or one that is the same with its surroundings in outline. -/
theorem AgreesOn.root?_cases (h : x.AgreesOn page) (hrules : x.rules.SeesOutline) :
    ((x.on page).root? = none ∧ x.root? = none) ∨
      ∃ r' r, (x.on page).root? = some r' ∧ x.root? = some r ∧ r'.framed = r.framed := by
  have heq := h.root?_eq hrules
  cases hx : x.root? with
  | none =>
    rw [hx, Option.map_none, Option.map_eq_none_iff] at heq
    exact .inl ⟨heq, rfl⟩
  | some r =>
    rw [hx, Option.map_some, Option.map_eq_some_iff] at heq
    obtain ⟨r', hr', hframed⟩ := heq
    exact .inr ⟨r', r, hr', rfl, hframed⟩

theorem AgreesOn.document_outline (h : x.AgreesOn page) : (x.on page).document.outline = x.document.outline :=
  congrArg Place.node h.outline

theorem AgreesOn.rejection?_eq (h : x.AgreesOn page) (hrules : x.rules.SeesOutline) :
    (x.on page).rejection? = x.rejection? := by
  rw [rejection?, rejection?]
  rcases h.root?_cases hrules with ⟨h', hx⟩ | ⟨r', r, h', hx, hframed⟩
  · rw [h', hx]
  · rw [h', hx, rules_on, properties_on]
    cases hf : x.rules.field .validator with
    | none => rfl
    | some f =>
      have hcandidates : f.candidates x.properties (x.on page).document r' = f.candidates x.properties x.document r :=
        FieldRule.candidates_framed (hrules.fields _ f hf) x.properties h.document_outline hframed
      dsimp only
      rw [hcandidates]

/-! ### Bodies -/

theorem bodyValue?_framed (f : FieldRule) {s : Selector} (hs : s.SeesOutline) {r r' : Place}
    (h : r'.framed = r.framed) :
    bodyValue? f s r' = bodyValue? f s r := by
  have hmarkup : ∀ q : Place, (s.find true q).map (bodyMarkup f s) =
      ((s.find true q).map Place.node).map fun n => Body.render f.filters (Body.collect s.excludes [] n) := by
    intro q
    rw [List.map_map]
    rfl
  rw [bodyValue?, bodyValue?, hmarkup, hmarkup, Selector.node_find hs true h]

theorem selectorSummary_framed (f : FieldRule) (least greatest : Int) {r r' : Place} (h : r'.framed = r.framed)
    {s : Selector} (hs : s.SeesOutline) :
    selectorSummary f least greatest r' s = selectorSummary f least greatest r s := by
  have hblocks : ∀ q : Place, (s.find true q).foldl (fun bs p => Body.collect s.excludes bs p.node) [] =
      ((s.find true q).map Place.node).foldl (Body.collect s.excludes) [] := by
    intro q
    rw [List.foldl_map]
  rw [selectorSummary, selectorSummary, hblocks, hblocks, Selector.node_find hs true h]

theorem AgreesOn.bodyWith_eq (h : x.AgreesOn page) {f : FieldRule} (hf : f.SeesOutline) {r r' : Place}
    (hr : r'.framed = r.framed) : ∀ {ss : List Selector}, (∀ s ∈ ss, s.SeesOutline) →
      (x.on page).bodyWith f r' ss = x.bodyWith f r ss
  | [], _ => rfl
  | s :: ss, hss => by
    obtain ⟨hs, hrest⟩ := List.forall_mem_cons.mp hss
    have hevaluate := FieldRule.evaluate_framed hf x.baseUrl .body x.properties h.document_outline hr
    simp only [bodyWith, baseUrl_on, properties_on, hevaluate, bodyValue?_framed f hs hr, h.bodyWith_eq hf hr hrest]

theorem AgreesOn.body_eq (h : x.AgreesOn page) (hrules : x.rules.SeesOutline) {f : FieldRule} (hf : f.SeesOutline) :
    (x.on page).body f = x.body f := by
  rw [body, body]
  rcases h.root?_cases hrules with ⟨h', hx⟩ | ⟨r', r, h', hx, hr⟩
  · rw [h', hx]
  · rw [h', hx]
    exact h.bodyWith_eq hf hr hf

theorem AgreesOn.summary?_eq (h : x.AgreesOn page) (hrules : x.rules.SeesOutline) (least greatest : Int) :
    (x.on page).summary? least greatest = x.summary? least greatest := by
  rw [summary?, summary?]
  rcases h.root?_cases hrules with ⟨h', hx⟩ | ⟨r', r, h', hx, hr⟩
  · rw [h', hx]
    rfl
  · simp only [h', hx, rules_on, Option.bind_eq_bind, Option.bind_some]
    cases hf : x.rules.field .body with
    | none => rfl
    | some f =>
      have hsummaries : f.selectors.map (selectorSummary f least greatest r') =
          f.selectors.map (selectorSummary f least greatest r) :=
        List.map_congr_left fun s hs => selectorSummary_framed f least greatest hr (hrules.fields _ f hf s hs)
      rw [Option.bind_some, Option.bind_some, hsummaries]

/-! ### Reports -/

theorem AgreesOn.field_eq (h : x.AgreesOn page) (hrules : x.rules.SeesOutline) (name : String) :
    (x.on page).field name = x.field name := by
  rw [field, field, rules_on]
  cases hf : x.rules.get? name with
  | none => rfl
  | some f =>
    have hsees := hrules.of_get? hf
    rcases h.root?_cases hrules with ⟨h', hx⟩ | ⟨r', r, h', hx, hr⟩
    · simp only [h', hx]
    · have hevaluate := FieldRule.evaluate_framed hsees x.baseUrl .text x.properties h.document_outline hr
      simp only [h', hx, baseUrl_on, properties_on, h.body_eq hrules hsees, hevaluate]

theorem AgreesOn.fields_eq (h : x.AgreesOn page) (hrules : x.rules.SeesOutline) : ∀ ss : List Slot,
    (x.on page).fields ss = x.fields ss
  | [] => rfl
  | s :: ss => by rw [fields, fields, h.field_eq hrules, h.fields_eq hrules ss]

/-- **Extraction is confined to the root.** On a page with the same outline, and with the same tree at the path of the
root, the report is the same with its notices, and so are the reports on single slots and the summaries, if the
selectors depend on no more of a page than its outline. -/
theorem report_confined (hrules : x.rules.SeesOutline) (h : x.AgreesOn page) : (x.on page).report = x.report ∧
    (∀ name, (x.on page).field name = x.field name) ∧
    ∀ least greatest, (x.on page).summary? least greatest = x.summary? least greatest := by
  refine ⟨?_, h.field_eq hrules, h.summary?_eq hrules⟩
  have hslots : (x.on page).slots = x.slots := rfl
  rw [report, report, h.rejection?_eq hrules, hslots, h.fields_eq hrules]

/-- The content area of a page. -/
def asideMain : Node :=
  .element "main" [] [.element "h1" [] [.text .plain "News".toList], .element "p" [] [.text .plain "Text".toList]]

/-- A page with a remark beside its content area. -/
def asidePage (remark : String) : Place :=
  .top (.element "[document]" [] [.element "html" []
    [.element "head" [] [.element "meta" [("name", .one "author"), ("content", .one "Ann")] []],
      .element "body" [] [.element "aside" [] [.text .plain remark.toList], asideMain]]])

/-- Rules that look around the content area and for a `meta` element. -/
def asideDoc : Doc :=
  .ofFields
    [("root", .str "main"), ("title", .str "aside:not(:empty) + main > h1"), ("body", .str "p"),
      ("author", .ofFields [("selector", .ofFields [("expr", .str "author"), ("source", .str "meta")])])]

/-- The extraction of the page with a remark. -/
def asideExtraction : Extraction where
  page := asidePage "Ad"
  rules := (RuleSet.ofDoc asideDoc).toOption.getD ⟨none, fun _ => none⟩
  baseUrl := []
  properties := []

/-- The report on the page. -/
def asideReport : PageReport :=
  .read [("title", ⟨"title".toList, .found ["News".toList]⟩), ("author", ⟨"author".toList, .found ["Ann".toList]⟩),
    ("body", ⟨"body".toList, .found ["<p>Text</p>".toList]⟩)]

theorem built_asideExtraction : asideExtraction.rules.Built := by
  have hok : (RuleSet.ofDoc asideDoc).isOk = true := by decide +kernel
  refine ⟨asideDoc, ?_⟩
  rw [asideExtraction]
  cases hd : RuleSet.ofDoc asideDoc with
  | ok r => rfl
  | rejected ps => simp [hd, Decoded.isOk] at hok
  | halted h => simp [hd, Decoded.isOk] at hok

/-- What the remark says does not matter, even to rules that see whether there is one. -/
theorem report_confined_aside : asideExtraction.rules.Built ∧ asideExtraction.rules.SeesOutline ∧
    asideExtraction.AgreesOn (asidePage "Offer") ∧
    asideExtraction.report.result.toOption = some asideReport ∧
    (asideExtraction.on (asidePage "Offer")).report = asideExtraction.report ∧
    (asidePage "Ad").node.innerText ≠ (asidePage "Offer").node.innerText := by
  have hpath : asideExtraction.root?.map Place.path = some [0, 1, 1] := by decide +kernel
  have hagrees : asideExtraction.AgreesOn (asidePage "Offer") := by
    refine ⟨rfl, fun r hr => ?_⟩
    rw [hr, Option.map_some, Option.some.injEq] at hpath
    rw [hpath]
    rfl
  have hreport : asideExtraction.report.result.toOption = some asideReport := by decide +kernel
  have hrules : asideExtraction.rules.SeesOutline := RuleSet.seesOutline_of_asksTexts (by decide +kernel)
  exact ⟨built_asideExtraction, hrules, hagrees, hreport, (report_confined hrules hagrees).1, by decide +kernel⟩

end Extraction

end Excerpt
