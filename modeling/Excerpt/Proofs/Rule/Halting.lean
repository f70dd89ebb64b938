import Excerpt.Proofs.Rule.Decoded
import Excerpt.Rule.RuleSet

/-!
# When reading is ended

A selector that can never select elements ends the reading of the rules around it, whatever else is wrong with them, and
so does an expression with a count that the matcher cannot hold. Nothing else does: the reading of a rule set is ended
exactly if the document of one of its selectors is CSS of an unsupported kind, or the document of one of its expressions
has such a count (`RuleSet.halts_ofEntries`).

The way there goes from the parts to the whole. `Decoded.Halts` passes through the operations that readers are made of;
a reader that is never ended is `Decoded.Completes`; of each kind of rule it is settled which documents in it decide.
-/

namespace Excerpt

variable {α β : Type}

/-- An item of one of several lists, with a property. -/
theorem exists_mem_flatMap {l : List α} {f : α → List β} {p : β → Prop} :
    (∃ b ∈ l.flatMap f, p b) ↔ ∃ a ∈ l, ∃ b ∈ f a, p b := by
  simp only [List.mem_flatMap]
  constructor
  · rintro ⟨b, ⟨a, ha, hb⟩, h⟩
    exact ⟨a, ha, b, hb, h⟩
  · rintro ⟨a, ha, b, hb, h⟩
    exact ⟨b, ⟨a, ha, hb⟩, h⟩

namespace Decoded

/-! ## Operations -/

/-- Reading was ended before there was an outcome. -/
def Halts (d : Decoded α) : Prop :=
  ∃ h, d = .halted h

@[simp] theorem halts_halted (h : Halt) : Halts (.halted h : Decoded α) :=
  ⟨h, rfl⟩

@[simp] theorem not_halts_ok (a : α) : ¬ Halts (.ok a) := by
  rintro ⟨h, ⟨⟩⟩

@[simp] theorem not_halts_rejected (ps : List Problem) : ¬ Halts (.rejected ps : Decoded α) := by
  rintro ⟨h, ⟨⟩⟩

@[simp] theorem not_halts_fail (d : Defect) : ¬ Halts (fail d : Decoded α) :=
  not_halts_rejected _

@[simp] theorem halts_map {f : α → β} {d : Decoded α} : Halts (f <$> d) ↔ Halts d := by
  cases d <;> simp [Functor.map, map]

/-- Two parts are read together: the first one that is ended ends both. -/
@[simp] theorem halts_seq {f : Decoded (α → β)} {d : Decoded α} : Halts (f <*> d) ↔ Halts f ∨ Halts d := by
  cases f <;> cases d <;> simp [Seq.seq, apply]

@[simp] theorem halts_under {s : DocStep} {d : Decoded α} : Halts (under s d) ↔ Halts d := by
  cases d <;> simp [under]

/-- A check has its turn only behind a value. -/
theorem halts_andThen {d : Decoded α} {f : α → Decoded β} :
    Halts (d.andThen f) ↔ Halts d ∨ ∃ a, d = .ok a ∧ Halts (f a) := by
  cases d <;> simp [andThen]

/-- A list of readings is ended by one of its items. -/
theorem halts_items {read : Doc → Decoded α} {ds : List Doc} : Halts (items read ds) ↔ ∃ d ∈ ds, Halts (read d) := by
  rw [items]
  generalize 0 = i
  induction ds generalizing i with
  | nil => simp [itemsFrom]
  | cons d ds ih => simp [itemsFrom, ih]

/-- A missing attribute has its default, so that only a document under the key can end the reading. -/
theorem halts_attrOr {es : Doc.Entries} {key : String} {default : α} {read : Doc → Decoded α} :
    Halts (es.attrOr key default read) ↔ ∃ e, es.attr? key = some e ∧ Halts (read e.2) := by
  rw [Doc.Entries.attrOr]
  cases es.attr? key <;> simp

/-- An empty document is read as nothing; where the reader itself would not be ended by it, that makes no difference. -/
theorem halts_optional {read : Doc → Decoded α} (h : ¬ Halts (read .null)) {d : Doc} :
    Halts (Decoded.optional read d) ↔ Halts (read d) := by
  rw [Decoded.optional]
  split
  · rename_i hnull
    have hd : d = .null := by
      rw [Doc.isNull.eq_def] at hnull
      split at hnull
      · rfl
      · cases hnull
    rw [hd]
    exact iff_of_false (not_halts_ok _) h
  · rw [show (read d).map some = some <$> read d from rfl, halts_map]

/-! ## Readers that are never ended -/

/-- Every document is read to an outcome. -/
def Completes (read : Doc → Decoded α) : Prop :=
  ∀ d, ¬ Halts (read d)

theorem Completes.attrOr {read : Doc → Decoded α} (h : Completes read) (es : Doc.Entries) (key : String) (default : α) :
    ¬ Halts (es.attrOr key default read) := by
  rw [halts_attrOr]
  rintro ⟨e, -, he⟩
  exact h e.2 he

/-- A missing attribute is a problem, and a problem ends nothing. -/
theorem Completes.attr {read : Doc → Decoded α} (h : Completes read) (es : Doc.Entries) (key : String) :
    ¬ Halts (es.attr key read) := by
  rw [Doc.Entries.attr]
  split
  · rw [halts_under]
    exact h _
  · rw [halts_under]
    exact not_halts_fail _

theorem Completes.items {read : Doc → Decoded α} (h : Completes read) :
    Completes fun d => Decoded.items read d.toItems := by
  intro d hd
  obtain ⟨e, -, he⟩ := halts_items.mp hd
  exact h e he

theorem Completes.optional {read : Doc → Decoded α} (h : Completes read) : Completes (Decoded.optional read) := by
  intro d
  rw [halts_optional (h .null)]
  exact h d

theorem completes_string : Completes string := by
  intro d
  rw [string.eq_def]
  split <;> simp

theorem completes_bool : Completes bool := by
  intro d
  rw [bool.eq_def]
  split <;> simp

theorem completes_member (all : List α) (name : α → String) : Completes (member all name) := by
  intro d
  rw [member.eq_def]
  split
  · split <;> simp
  · simp

end Decoded

open Decoded

/-! ## Expressions -/

namespace Expression

/-- The document of an expression in which a count is met that the matcher cannot hold. -/
def Overcounts (d : Doc) : Prop :=
  ∃ s, d = .str s ∧ compile Settings.default.maxExpressionLength s.toList = .error .countTooLarge

/-- Every other defect has a wording. -/
theorem message?_eq_none {e : ExpressionDefect} : e.message? = none ↔ e = .countTooLarge := by
  cases e <;> simp [ExpressionDefect.message?]

/-- An expression that is refused in words is a problem of the document; a count without words ends the reading. -/
theorem halts_expression {d : Doc} : Halts (expression d) ↔ Overcounts d := by
  rw [expression, halts_andThen, or_iff_right (completes_string d), Overcounts]
  have hstring : ∀ s, string d = .ok s ↔ d = .str s := fun s => by
    rw [string.eq_def]
    split <;> simp_all [fail]
  refine exists_congr fun s => and_congr (hstring s) ?_
  cases compile Settings.default.maxExpressionLength s.toList with
  | ok p => simp
  | error e =>
    cases hm : e.message? with
    | none =>
      obtain rfl := message?_eq_none.mp hm
      simp [hm]
    | some m =>
      have hne : e ≠ .countTooLarge := fun he => by
        rw [message?_eq_none.mpr he] at hm
        cases hm
      simp [hm, hne]

/-- A rule that is made of its expressions: it is read from one expression, or from a mapping. -/
def mapping? : Doc → Option Doc.Entries
  | .scalar (.str s) => some [(.str "expr", .str s)]
  | .map es => some es
  | _ => none

/-- The documents under keys of such a rule. -/
def docs (keys : List String) (d : Doc) : List Doc :=
  ((mapping? d).map fun es => keys.filterMap fun k => (es.attr? k).map (·.2)).getD []

/-- If the reading of a mapping is ended by its expressions only, the reading of a rule is. -/
theorem halts_iff_docs {ofDoc : Doc → Decoded α} {keys : List String} (ofEntries : Doc.Entries → Decoded α)
    (hof : ∀ d, ofDoc d = (mapping? d).elim (.fail .notModel) ofEntries)
    (hentries : ∀ es, Halts (ofEntries es) ↔ ∃ k ∈ keys, Halts (es.attrOr k "" expression)) (d : Doc) :
    Halts (ofDoc d) ↔ ∃ e ∈ docs keys d, Overcounts e := by
  rw [hof, docs]
  cases mapping? d with
  | none => simp
  | some es =>
    rw [Option.elim_some, hentries, Option.map_some, Option.getD_some]
    simp only [halts_attrOr, halts_expression, List.mem_filterMap, Option.map_eq_some_iff]
    constructor
    · rintro ⟨k, hk, e, he, h⟩
      exact ⟨e.2, ⟨k, hk, e, he, rfl⟩, h⟩
    · rintro ⟨-, ⟨k, hk, e, he, rfl⟩, h⟩
      exact ⟨k, hk, e, he, h⟩

end Expression

open Expression

theorem Exclude.completes_ofDoc : Completes Exclude.ofDoc := by
  intro d
  rw [ofDoc.eq_def]
  split
  · exact not_halts_ok _
  · split
    · exact not_halts_ok _
    · split
      · exact not_halts_ok _
      · rw [halts_under, show ∀ x : Decoded String, x.map Exclude.mk = Exclude.mk <$> x from fun _ => rfl, halts_map]
        exact completes_string _
  · exact not_halts_fail _

/-- An extractor has two expressions: the one that is replaced and the one that has to occur. -/
theorem Extractor.halts_ofDoc (d : Doc) :
    Halts (Extractor.ofDoc d) ↔ ∃ e ∈ Expression.docs ["expr", "validator"] d, Overcounts e := by
  refine halts_iff_docs Extractor.ofEntries (fun d => ?_) (fun es => ?_) d
  · cases d with
    | scalar v => cases v <;> rfl
    | _ => rfl
  · simp [ofEntries, completes_string.attrOr, (completes_member _ _).attrOr]

theorem Filter.halts_ofDoc (d : Doc) : Halts (Filter.ofDoc d) ↔ ∃ e ∈ Expression.docs ["expr"] d, Overcounts e := by
  refine halts_iff_docs Filter.ofEntries (fun d => ?_) (fun es => ?_) d
  · cases d with
    | scalar v => cases v <;> rfl
    | _ => rfl
  · simp [ofEntries, completes_bool.attrOr, (completes_member _ _).attrOr]

theorem Condition.halts_ofDoc (d : Doc) :
    Halts (Condition.ofDoc d) ↔ ∃ e ∈ Expression.docs ["expr"] d, Overcounts e := by
  refine halts_iff_docs Condition.ofEntries (fun d => ?_) (fun es => ?_) d
  · cases d with
    | scalar v => cases v <;> rfl
    | _ => rfl
  · simp [ofEntries, (completes_member _ _).attrOr]

/-! ## Selectors -/

namespace Selector

/-- The attributes of a selector, before its expression is looked at as CSS. -/
def attributes (es : Doc.Entries) : Decoded Selector :=
  Selector.mk <$> es.attr "expr" readExpr
    <*> es.attrOr "source" .page (Decoded.member Source.members Source.name)
    <*> es.attrOr "output" .text (Decoded.member Output.members Output.name)
    <*> es.attrOr "attribute" none (Decoded.optional Decoded.string)
    <*> es.attrOr "multiple" none (Decoded.optional Decoded.bool)
    <*> es.attrOr "separator" none (Decoded.optional Decoded.string)
    <*> es.attrOr "excludes" [] (fun d => Decoded.items Exclude.ofDoc d.toItems)
    <*> es.attrOr "size" none (Decoded.optional Decoded.string)
    <*> es.attrOr "background" false Decoded.bool

theorem ofEntries_eq (es : Doc.Entries) : ofEntries es = (attributes es).andThen checked := rfl

/-- The mapping that a selector is read from. -/
def mapping? : Doc → Option Doc.Entries
  | .scalar (.str s) => some [(.str "expr", .str s)]
  | .map es => some (mergeExcludes es)
  | _ => none

theorem completes_readExpr : Completes readExpr := by
  intro d
  rw [readExpr, halts_andThen, not_or]
  refine ⟨completes_string d, ?_⟩
  rintro ⟨s, -, hs⟩
  dsimp only at hs
  split at hs <;> simp at hs

/-- The attributes of a selector hold no expression for texts, so that none of them ends the reading. -/
theorem not_halts_attributes (es : Doc.Entries) : ¬ Halts (attributes es) := by
  simp [attributes, completes_readExpr.attr, (completes_member _ _).attrOr, completes_string.optional.attrOr,
    completes_bool.optional.attrOr, Exclude.completes_ofDoc.items.attrOr, completes_bool.attrOr]

theorem halts_checked {s : Selector} :
    Halts (checked s) ↔ s.isCss = true ∧ Css.parse s.expr.toList = .error .unsupported := by
  rw [checked]
  cases hs : s.isCss with
  | false => simp
  | true =>
    simp only [if_true, true_and]
    split <;> simp_all

/-- The attributes can be read, and the expression is CSS of an unsupported kind. -/
def Unsupported (d : Doc) : Prop :=
  ∃ es s, mapping? d = some es ∧ attributes es = .ok s ∧ s.isCss = true ∧ Css.parse s.expr.toList = .error .unsupported

theorem ofDoc_eq (d : Doc) : ofDoc d = (mapping? d).elim (.fail .notModel) ofEntries := by
  cases d with
  | scalar v => cases v <;> rfl
  | list ds => rfl
  | map es => rfl

/-- A selector ends the reading only by its expression, and only once the other attributes are in order. -/
theorem halts_ofDoc {d : Doc} : Halts (ofDoc d) ↔ Unsupported d := by
  rw [ofDoc_eq, Unsupported]
  cases mapping? d with
  | none => simp
  | some es =>
    rw [Option.elim_some, ofEntries_eq, halts_andThen]
    simp [not_halts_attributes, halts_checked]

end Selector

/-! ## Field rules -/

namespace FieldRule

/-- The mapping that a field rule is read from. -/
def mapping? : Doc → Option Doc.Entries
  | .map es => some (mergeLists es)
  | .scalar (.str s) => some (shorthand (.str s))
  | .list ds => some (shorthand (.list ds))
  | _ => none

/-- The documents of the items of a list attribute. -/
def itemDocs (a : ListAttr) (d : Doc) : List Doc :=
  (((mapping? d).bind (·.attr? a.key)).map fun e => e.2.toItems).getD []

/-- The documents of the expressions of a field rule: those of its extractors, filters and conditions. -/
def expressionDocs (d : Doc) : List Doc :=
  (itemDocs .extractors d).flatMap (Expression.docs ["expr", "validator"]) ++
    (itemDocs .filters d ++ itemDocs .conditions d).flatMap (Expression.docs ["expr"])

theorem not_halts_checked (f : FieldRule) : ¬ Halts (checked f) := by
  rw [checked]
  split <;> simp

theorem ofDoc_eq (d : Doc) : ofDoc d = (mapping? d).elim (.fail .notModel) ofEntries := by
  cases d with
  | scalar v => cases v <;> rfl
  | list ds => rfl
  | map es => rfl

/-- A list attribute is ended by one of its items. -/
theorem halts_readList {es : Doc.Entries} {a : ListAttr} {read : Doc → Decoded α} :
    Halts (readList es a read) ↔ ∃ e ∈ ((es.attr? a.key).map fun e => e.2.toItems).getD [], Halts (read e) := by
  rw [readList, halts_attrOr]
  simp only [halts_items]
  cases es.attr? a.key <;> simp

/-- **The reading of a field rule is ended by one of its selectors or of its expressions.** -/
theorem halts_ofDoc {d : Doc} : Halts (ofDoc d) ↔
    (∃ e ∈ itemDocs .selectors d, Selector.Unsupported e) ∨ ∃ e ∈ expressionDocs d, Overcounts e := by
  rw [ofDoc_eq, expressionDocs]
  unfold itemDocs
  cases mapping? d with
  | none => simp
  | some es =>
    simp only [Option.elim_some, Option.bind_some, ofEntries, halts_andThen, not_halts_checked, and_false, exists_false,
      or_false, halts_seq, halts_map, halts_readList, completes_string.attrOr, completes_bool.attrOr,
      (completes_member _ _).attrOr, Selector.halts_ofDoc, Extractor.halts_ofDoc, Filter.halts_ofDoc,
      Condition.halts_ofDoc, completes_string _, false_or, List.flatMap_append, List.mem_append,
      or_and_right, exists_or, exists_mem_flatMap, or_assoc]

end FieldRule

/-! ## Rule sets -/

namespace RuleSet

/-- The documents of the field rules of a rule set, each with the name of its slot. -/
def fieldDocs (es : Doc.Entries) : List Doc :=
  Slot.all.filterMap fun s => (es.attr? s.snakeKey).map fun e => named s e.2

/-- The documents of the selectors of a rule set: its root and those of its slots. -/
def selectorDocs (es : Doc.Entries) : List Doc :=
  ((es.attr? "root").map (·.2)).toList ++ (fieldDocs es).flatMap (FieldRule.itemDocs .selectors)

/-- The documents of the expressions of a rule set. -/
def expressionDocs (es : Doc.Entries) : List Doc :=
  (fieldDocs es).flatMap FieldRule.expressionDocs

theorem halts_readSlot {es : Doc.Entries} {s : Slot} :
    Halts (readSlot es s) ↔ ∃ e, es.attr? s.snakeKey = some e ∧ Halts (FieldRule.ofDoc (named s e.2)) := by
  rw [readSlot, halts_attrOr]
  have hnull : ¬ Halts (FieldRule.ofDoc (named s .null)) := not_halts_fail _
  exact exists_congr fun e => and_congr_right fun _ => @halts_optional _ (fun d => FieldRule.ofDoc (named s d)) hnull _

theorem halts_readSlots {es : Doc.Entries} : ∀ {ss : List Slot},
    Halts (readSlots es ss) ↔ ∃ s ∈ ss, Halts (readSlot es s)
  | [] => by simp [readSlots]
  | s :: ss => by simp [readSlots, halts_readSlots]

/-- The slots are ended by one of the field rules. -/
theorem halts_slots {es : Doc.Entries} :
    Halts (readSlots es Slot.all) ↔ ∃ d ∈ fieldDocs es, Halts (FieldRule.ofDoc d) := by
  simp only [halts_readSlots, halts_readSlot, fieldDocs, List.mem_filterMap, Option.map_eq_some_iff]
  constructor
  · rintro ⟨s, hs, e, he, h⟩
    exact ⟨_, ⟨s, hs, e, he, rfl⟩, h⟩
  · rintro ⟨-, ⟨s, hs, e, he, rfl⟩, h⟩
    exact ⟨s, hs, e, he, h⟩

/-- **The reading of a rule set is ended by one of its selectors or of its expressions.** -/
theorem halts_ofEntries {es : Doc.Entries} : Halts (ofEntries es) ↔
    (∃ d ∈ selectorDocs es, Selector.Unsupported d) ∨ ∃ d ∈ expressionDocs es, Overcounts d := by
  have hroot : Halts (es.attrOr "root" none (Decoded.optional Selector.ofDoc)) ↔
      ∃ d ∈ ((es.attr? "root").map (·.2)).toList, Selector.Unsupported d := by
    have hnull : ¬ Halts (Selector.ofDoc .null) := not_halts_fail _
    simp only [halts_attrOr, halts_optional hnull, Selector.halts_ofDoc]
    cases es.attr? "root" <;> simp
  have hfields : (∃ d ∈ fieldDocs es, Halts (FieldRule.ofDoc d)) ↔
      (∃ e ∈ (fieldDocs es).flatMap (FieldRule.itemDocs .selectors), Selector.Unsupported e) ∨
        ∃ e ∈ (fieldDocs es).flatMap FieldRule.expressionDocs, Overcounts e := by
    simp only [FieldRule.halts_ofDoc, exists_mem_flatMap, and_or_left, exists_or]
  rw [ofEntries, halts_seq, halts_map, hroot, halts_slots, hfields, selectorDocs, expressionDocs]
  simp only [List.mem_append, or_and_right, exists_or, or_assoc]

end RuleSet

end Excerpt
