import Excerpt.Body.Collect
import Excerpt.Body.Markup
import Excerpt.Body.Summary
import Excerpt.Extract.Field

/-!
# Extracting a page

A page is narrowed to its root, checked against its validator, and each other slot is then evaluated on its own.
-/

namespace Excerpt

/-- A page together with the rules for it, its address, and the properties for templates. -/
structure Extraction where
  page : Place
  rules : RuleSet
  baseUrl : Text
  properties : Properties

namespace Extraction

/-- The document that the page belongs to. -/
def document (x : Extraction) : Node :=
  x.page.node

/-- The place that the slots are looked for below. -/
def root? (x : Extraction) : Option Place :=
  match x.rules.root with
  | none => some x.page
  | some s => (s.find false x.page).head?

/-! ## Rejection -/

/-- Whether a field rule accepts the first value of a validator. -/
def judgeValidator (f : FieldRule) : List Text → Option Rejection
  | [] => some .noValidator
  | value :: _ =>
    if !f.conditions.isEmpty && !Condition.accepts f.conditions value then some (.refused value) else none

/-- Why the page is rejected, if it is. -/
def rejection? (x : Extraction) : Traced (Option Rejection) :=
  match x.root? with
  | none => pure (some .noRoot)
  | some root =>
    match x.rules.field .validator with
    | none => pure none
    | some f => do
      if f.selectors.isEmpty then return none
      let values ← f.candidates x.properties x.document root
      return judgeValidator f values

/-! ## Bodies -/

/-- The blocks of an element as simplified markup. -/
def bodyMarkup (f : FieldRule) (s : Selector) (p : Place) : Text :=
  Body.render f.filters (Body.collect s.excludes [] p.node)

/-- The value of a body for the elements that a selector finds. -/
def bodyValue? (f : FieldRule) (s : Selector) (root : Place) : Option Text :=
  match ((s.find true root).map (bodyMarkup f s)).filter (!·.isEmpty) with
  | [] => none
  | values => some (Text.join ((s.separator.map String.toList).getD ['\n']) values)

/-- What several selectors of a body find. -/
def bodyWith (x : Extraction) (f : FieldRule) (root : Place) : List Selector → Traced FieldReport
  | [] => do
    if !f.optional then Traced.note (.notFound f.name.toList)
    return ⟨f.name.toList, .missing⟩
  | s :: ss =>
    match s.source with
    | .metadata => do
      let report ← f.evaluate x.baseUrl .body x.properties x.document root
      if report.finding.isFound then return report else x.bodyWith f root ss
    | .page =>
      match bodyValue? f s root with
      | some value => return ⟨f.name.toList, .found [value]⟩
      | none => x.bodyWith f root ss

/-- The report on a body. -/
def body (x : Extraction) (f : FieldRule) : Traced FieldReport :=
  match x.root? with
  | none => return ⟨f.name.toList, .missing⟩
  | some root => x.bodyWith f root f.selectors

/-- The summary of the blocks of the elements that a selector finds. -/
def selectorSummary (f : FieldRule) (least greatest : Int) (root : Place) (s : Selector) : Text :=
  match s.source with
  | .metadata => []
  | .page =>
    Body.summarize f.filters least greatest
      ((s.find true root).foldl (fun bs p => Body.collect s.excludes bs p.node) [])

/-- The summary of the body, by the first selector that gives one. -/
def summary? (x : Extraction) (least greatest : Int) : Option Text := do
  let root ← x.root?
  let f ← x.rules.field .body
  (f.selectors.map (selectorSummary f least greatest root)).find? (!·.isEmpty)

/-! ## Slots -/

/-- The report on a slot, by its key in either style. -/
def field (x : Extraction) (name : String) : Traced FieldReport :=
  match x.rules.get? name with
  | none => .fail (.notConfigured name.toList)
  | some f =>
    if f.selectors.isEmpty then .fail (.notConfigured name.toList)
    else
      match x.root? with
      | none => return ⟨name.toList, .missing⟩
      | some root =>
        if f.isBody then x.body f else f.evaluate x.baseUrl .text x.properties x.document root

/-- The reports on several slots. -/
def fields (x : Extraction) : List Slot → Traced (List (String × FieldReport))
  | [] => pure []
  | s :: ss => do
    let report ← x.field s.key
    let rest ← x.fields ss
    return (s.key, report) :: rest

/-- The slots that are reported on: those with a selector, but for the validator. -/
def slots (x : Extraction) : List Slot :=
  (x.rules.present.map (·.1)).filter (· != .validator)

/-- The report on the page. -/
def report (x : Extraction) : Traced PageReport := do
  match ← x.rejection? with
  | some reason =>
    Traced.note (.rejected reason)
    return .rejected reason.message
  | none => return .read (← x.fields x.slots)

end Extraction

end Excerpt
