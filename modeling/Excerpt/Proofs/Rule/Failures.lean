import Excerpt.Command.Run
import Excerpt.Proofs.Rule.Halting
import Excerpt.Proofs.Rule.Overlaid

/-!
# Failures without a wording

Most failures to load rules say in words what is wrong with the document. `Load.ruleSet_explained_iff` lists the ones
that do not: bytes that are no text, a value that cannot be made, a key that is no string in the document or in its
template, a selector of an unsupported kind, and an expression with a count that the matcher cannot hold. A run of the
command whose rules fail ends with exit code 1 exactly if the failure has a wording (`Command.run_of_rules_error`).
-/

namespace Excerpt

/-! ## Failures -/

/-- The outcome is a failure without a wording. -/
def Unexplained {α : Type} (x : Except LoadError α) : Prop :=
  ∃ e, x = .error e ∧ e.message? = none

section Unexplained

variable {α β : Type}

theorem not_unexplained_ok (a : α) : ¬ Unexplained (.ok a) := by
  rintro ⟨e, he, -⟩
  cases he

theorem unexplained_error {e : LoadError} : Unexplained (.error e : Except LoadError α) ↔ e.message? = none := by
  constructor
  · rintro ⟨d, hd, h⟩
    cases hd
    exact h
  · intro h
    exact ⟨e, rfl, h⟩

instance (x : Except LoadError α) : Decidable (Unexplained x) :=
  match x with
  | .ok a => .isFalse (not_unexplained_ok a)
  | .error e => decidable_of_iff (e.message? = none) unexplained_error.symm

/-- Of two steps in a row, the first failure is that of the whole. -/
theorem unexplained_bind {x : Except LoadError α} {f : α → Except LoadError β} :
    Unexplained (x >>= f) ↔ Unexplained x ∨ ∃ a, x = .ok a ∧ Unexplained (f a) := by
  cases x with
  | error e =>
    rw [show (Except.error e >>= f) = .error e from rfl, unexplained_error, unexplained_error]
    simp
  | ok a => simp [bind, Except.bind, not_unexplained_ok]

/-- Every outcome is a value, a failure with a wording, or a failure without one. -/
theorem explained_iff {x : Except LoadError α} :
    ((∃ a, x = .ok a) ∨ ∃ e m, x = .error e ∧ e.message? = some m) ↔ ¬ Unexplained x := by
  cases x with
  | ok a => simp [not_unexplained_ok]
  | error e => simp [unexplained_error, Option.ne_none_iff_exists', ← ne_eq]

end Unexplained

/-! ## Keys that are no strings -/

namespace Normal

open Doc

variable {ps : Entries} {d : Doc}

/-- All keys are strings. -/
def StringKeys (es : Entries) : Prop :=
  ∀ e ∈ es, ∃ t, e.1 = .str t

/-- The key is a string, and if it stands for a slot, the keys of the mapping under it are. -/
def SlotKeyed (k : Scalar) (d : Doc) : Prop :=
  ∃ t, k = .str t ∧ ∀ s : Slot, s.accepts k = true → ∀ inner, d = .map inner → StringKeys inner

/-- A normal form is made key by key, and only of keys that are strings. -/
theorem stringKeys_of_addEntries : ∀ {ps es es' : Entries}, Normal.addEntries es ps = .ok es' → StringKeys ps
  | [], _, _, _ => fun _ h => (List.not_mem_nil h).elim
  | (k, d) :: ps, es, es', h => by
    obtain ⟨es₁, h1, h2⟩ := bind_eq_ok.mp h
    obtain ⟨t, rfl, -⟩ := addEntry_eq_ok h1
    exact List.forall_mem_cons.mpr ⟨⟨t, rfl⟩, stringKeys_of_addEntries h2⟩

/-- A value that is no mapping always has a normal form, and a mapping has one if its keys are strings. -/
theorem exists_field_iff : (∃ d', field d = .ok d') ↔ ∀ inner, d = .map inner → StringKeys inner := by
  constructor
  · rintro ⟨d', hd⟩ inner rfl
    obtain ⟨es', h, -⟩ := field_eq_ok_of_mapping? rfl hd
    exact stringKeys_of_addEntries h
  · intro h
    refine exists_field fun es hes => ?_
    rw [mapping?.eq_def] at hes
    split at hes <;> cases hes
    · exact h es rfl
    · rintro e he
      exact ⟨"selectors", congrArg Prod.fst (List.mem_singleton.mp he)⟩
    · rintro e he
      exact ⟨"selectors", congrArg Prod.fst (List.mem_singleton.mp he)⟩

theorem exists_addSlot_iff {es : Entries} {k : Scalar} : (∃ es', addSlot es k d = .ok es') ↔ SlotKeyed k d := by
  constructor
  · rintro ⟨es', hadd⟩
    obtain ⟨t, rfl, hcase⟩ := addSlot_eq_ok hadd
    refine ⟨t, rfl, fun s hs => ?_⟩
    rcases hcase with ⟨s', d', -, hd, -⟩ | ⟨hnone, -⟩
    · exact exists_field_iff.mp ⟨d', hd⟩
    · rw [hnone s] at hs
      cases hs
  · rintro ⟨t, rfl, h⟩
    rw [addSlot]
    split
    · rename_i s hs
      obtain ⟨d', hd⟩ := exists_field_iff.mpr (h s (Slot.accepts_of_ofKey? hs))
      exact ⟨es.set s.snakeKey d', by rw [hd]; rfl⟩
    · exact ⟨_, rfl⟩

/-- A document has a normal form if each of its entries has one. -/
theorem exists_addSlots_iff : ∀ {ps es : Entries},
    (∃ es', Normal.addSlots es ps = .ok es') ↔ ∀ e ∈ ps, SlotKeyed e.1 e.2
  | [], es => iff_of_true ⟨es, rfl⟩ fun _ h => (List.not_mem_nil h).elim
  | (k, d) :: ps, es => by
    have hadd : (∃ es', addSlot es k d = .ok es') ↔ SlotKeyed k d := exists_addSlot_iff
    rw [List.forall_mem_cons, ← hadd]
    constructor
    · rintro ⟨es', h⟩
      obtain ⟨es₁, h1, h2⟩ := bind_eq_ok.mp h
      exact ⟨⟨es₁, h1⟩, exists_addSlots_iff.mp ⟨es', h2⟩⟩
    · rintro ⟨⟨es₁, h1⟩, h⟩
      obtain ⟨es', h2⟩ := exists_addSlots_iff.mpr h
      exact ⟨es', bind_eq_ok.mpr ⟨es₁, h1, h2⟩⟩

/-! Adding entries fails only at a key, and then without a wording. -/

/-- A key that is no string has no wording; nothing else can go wrong in a normal form, as the next ones show level by
level. -/
theorem addEntry_error {es : Entries} {k : Scalar} {e : LoadError} (h : addEntry es k d = .error e) :
    e.message? = none := by
  rw [addEntry.eq_def] at h
  split at h
  · dsimp only at h
    split at h <;> cases h
  · cases h
    rfl

theorem addEntries_error {e : LoadError} : ∀ {ps es : Entries}, addEntries es ps = .error e → e.message? = none
  | (k, d) :: ps, es, h => by
    rw [addEntries] at h
    cases h1 : addEntry es k d with
    | error e' =>
      rw [h1] at h
      cases h
      exact addEntry_error h1
    | ok es₁ =>
      rw [h1] at h
      exact addEntries_error h

theorem field_error {e : LoadError} (h : field d = .error e) : e.message? = none := by
  rw [field.eq_def] at h
  split at h
  · cases h
  · cases h
  · rename_i es
    cases hes : addEntries [] es with
    | error e' =>
      rw [hes] at h
      cases h
      exact addEntries_error hes
    | ok es' =>
      rw [hes] at h
      cases h
  · cases h

theorem addSlot_error {es : Entries} {k : Scalar} {e : LoadError} (h : addSlot es k d = .error e) :
    e.message? = none := by
  rw [addSlot.eq_def] at h
  split at h
  · split at h
    · cases hd : field d with
      | error e' =>
        rw [hd] at h
        cases h
        exact field_error hd
      | ok d' =>
        rw [hd] at h
        cases h
    · cases h
  · cases h
    rfl

theorem addSlots_error {e : LoadError} : ∀ {ps es : Entries}, addSlots es ps = .error e → e.message? = none
  | (k, d) :: ps, es, h => by
    rw [addSlots] at h
    cases h1 : addSlot es k d with
    | error e' =>
      rw [h1] at h
      cases h
      exact addSlot_error h1
    | ok es₁ =>
      rw [h1] at h
      exact addSlots_error h

/-- The document has slots, and some key among them or in the mapping of one of them is no string. -/
def HasOddKey (es : Entries) : Prop :=
  (∀ d, es.get? fieldsKey = some d → ∃ inner, d = .map inner) ∧ ∃ e ∈ slotEntries es, ¬ SlotKeyed e.1 e.2

/-- Hence there is no wording exactly if there is no normal form. -/
theorem unexplained_addSlots_iff {es : Entries} :
    Unexplained (Normal.addSlots [] es) ↔ ∃ e ∈ es, ¬ SlotKeyed e.1 e.2 := by
  have hok : (∃ es', Normal.addSlots [] es = .ok es') ↔ ∀ e ∈ es, SlotKeyed e.1 e.2 := exists_addSlots_iff
  cases h : Normal.addSlots [] es with
  | ok es' =>
    rw [h] at hok
    refine iff_of_false (not_unexplained_ok es') ?_
    rintro ⟨e, he, hodd⟩
    exact hodd (hok.mp ⟨es', rfl⟩ e he)
  | error e =>
    rw [h] at hok
    refine iff_of_true (unexplained_error.mpr (addSlots_error h)) ?_
    by_contra hnone
    obtain ⟨es', hes'⟩ := hok.mpr fun e he => by_contra fun hodd => hnone ⟨e, he, hodd⟩
    cases hes'

theorem unexplained_slots_iff {es : Entries} : Unexplained (slots es) ↔ HasOddKey es := by
  rw [HasOddKey, slots, slotEntries]
  cases hf : es.get? fieldsKey with
  | none => simp [unexplained_addSlots_iff]
  | some d =>
    cases d with
    | map inner => simp [unexplained_addSlots_iff]
    | scalar v => simp [unexplained_error, LoadError.message?]
    | list ds => simp [unexplained_error, LoadError.message?]

end Normal

namespace Load

open Doc

/-! ## Documents of files -/

/-- The file is read, but is no UTF-8, or is YAML with a value that cannot be made. -/
def Garbled (files : Files) (name : String) : Prop :=
  ∃ bytes, files (plainName name) = some bytes ∧
    (Utf8.decode? bytes = none ∨
      ∃ t, Utf8.decode? bytes = some t ∧ isJson name = false ∧ Yaml.read t = .error .impossible)

/-- JSON text fails with a wording. YAML text does too, unless it names a value that cannot be made. -/
theorem unexplained_parse_iff {name : String} {t : Text} :
    Unexplained (parse name t) ↔ isJson name = false ∧ Yaml.read t = .error .impossible := by
  rw [parse]
  cases isJson name with
  | true =>
    cases Json.parse? t <;> simp [not_unexplained_ok, unexplained_error, LoadError.message?]
  | false =>
    cases Yaml.read t with
    | ok d => simp [not_unexplained_ok]
    | error e => cases e <;> simp [unexplained_error, LoadError.message?]

/-- A file fails to be read, to be text or to be a document; the last two may lack a wording. -/
theorem unexplained_document_iff {files : Files} {name : String} :
    Unexplained (document files name) ↔ Garbled files name := by
  rw [document, Garbled]
  cases files (plainName name) with
  | none => simp [unexplained_error, LoadError.message?]
  | some bytes =>
    cases hd : Utf8.decode? bytes with
    | none => simp [hd, unexplained_error, LoadError.message?]
    | some t =>
      have hparse : Unexplained (parse name t) ↔ isJson name = false ∧ Yaml.read t = .error .impossible :=
        unexplained_parse_iff
      cases hp : parse name t with
      | error e => simpa [hd, hp, unexplained_error] using hparse
      | ok d =>
        simp only [hp, not_unexplained_ok, false_iff] at hparse
        cases d with
        | map es => simpa [hd, hp, not_unexplained_ok] using hparse
        | scalar v =>
          cases hv : (Doc.scalar v).isNull <;>
            simpa [hd, hp, hv, not_unexplained_ok, unexplained_error, LoadError.message?] using hparse
        | list ds => simpa [hd, hp, Doc.isNull, unexplained_error, LoadError.message?] using hparse

/-! ## Rule sets -/

/-- The slots of a document, laid over those of a template if there is one. -/
def normalForm (template : Option Entries) (es : Entries) : Except LoadError Entries :=
  match template with
  | none => Normal.slots es
  | some base => Normal.overTemplate base es

/-- A rule set is made in two steps: the document is brought into normal form, over the template, and then read. -/
theorem ruleSetOf_eq (template : Option Entries) (es : Entries) :
    ruleSetOf template es = (normalForm template es >>= fun slots => RuleSet.schema.read (.map slots)) := by
  cases template <;> rfl

/-- The document has a key that is no string, or the template has one. -/
def OddKeys (template : Option Entries) (es : Entries) : Prop :=
  Normal.HasOddKey es ∨ (∃ slots, Normal.slots es = .ok slots) ∧ ∃ base, template = some base ∧ Normal.HasOddKey base

/-- The slots come together, and among them there is a selector of an unsupported kind, or an expression of an
extractor, a filter or a condition with a count that the matcher cannot hold. -/
def IsHalted (template : Option Entries) (es : Entries) : Prop :=
  ∃ slots, normalForm template es = .ok slots ∧
    ((∃ d ∈ RuleSet.selectorDocs slots, Selector.Unsupported d) ∨
      ∃ d ∈ RuleSet.expressionDocs slots, Expression.Overcounts d)

/-- The template is brought into normal form first, and its odd keys count like those of the document. -/
theorem unexplained_normalForm_iff {template : Option Entries} {es : Entries} :
    Unexplained (normalForm template es) ↔ OddKeys template es := by
  cases template with
  | none => simp [normalForm, OddKeys, Normal.unexplained_slots_iff]
  | some base =>
    rw [normalForm, Normal.overTemplate, unexplained_bind, Normal.unexplained_slots_iff, OddKeys]
    simp only [unexplained_bind, Normal.unexplained_slots_iff, Option.some.injEq, exists_eq_left', pure, Except.pure,
      not_unexplained_ok, and_false, exists_false, or_false, exists_and_right]

/-- Reading is ended by a selector that cannot select or a count that is too great, and by nothing else. -/
theorem unexplained_read_iff {slots : Entries} : Unexplained (RuleSet.schema.read (.map slots)) ↔
    (∃ d ∈ RuleSet.selectorDocs slots, Selector.Unsupported d) ∨
      ∃ d ∈ RuleSet.expressionDocs slots, Expression.Overcounts d := by
  have hof : RuleSet.schema.ofDoc (.map slots) = RuleSet.ofEntries slots := rfl
  rw [← RuleSet.halts_ofEntries, Schema.read, Schema.readAs, hof]
  cases RuleSet.ofEntries slots <;> simp [not_unexplained_ok, unexplained_error, LoadError.message?]

/-- Loading fails without a wording. -/
def Uncaught (files : Files) (name : String) (template : Option Entries) : Prop :=
  Garbled files name ∨ ∃ es, document files name = .ok es ∧ (OddKeys template es ∨ IsHalted template es)

/-- The file is read, then the rule set is made. -/
theorem unexplained_ruleSet_iff {files : Files} {name : String} {template : Option Entries} :
    Unexplained (ruleSet files name template) ↔ Uncaught files name template := by
  rw [ruleSet, unexplained_bind, unexplained_document_iff, Uncaught]
  simp only [ruleSetOf_eq, unexplained_bind, unexplained_normalForm_iff, unexplained_read_iff, IsHalted]

end Load

namespace Command

/-- The document of the template that the arguments name, if they name one. -/
def template? (files : Files) (a : Arguments) : Except LoadError (Option Doc.Entries) :=
  if a.template.isEmpty then .ok none else (Load.document files (String.ofList a.template)).map some

/-- Loading the rules that the arguments name fails without a wording. -/
def Uncaught (files : Files) (a : Arguments) : Prop :=
  (a.template ≠ [] ∧ Load.Garbled files (String.ofList a.template)) ∨
    ∃ template, template? files a = .ok template ∧ Load.Uncaught files (String.ofList a.rules) template

/-- The command reads the template, if one is named, and then the rules. -/
theorem rules_eq (files : Files) (a : Arguments) :
    rules files a = (template? files a >>= Load.ruleSet files (String.ofList a.rules)) := by
  rw [rules, template?]
  cases a.template.isEmpty with
  | true => rfl
  | false => cases Load.document files (String.ofList a.template) <;> rfl

/-- A template is read as a document only; no rules are made of it by itself. -/
theorem unexplained_template?_iff {files : Files} {a : Arguments} :
    Unexplained (template? files a) ↔ a.template ≠ [] ∧ Load.Garbled files (String.ofList a.template) := by
  rw [template?, ← Load.unexplained_document_iff]
  cases ht : a.template with
  | nil => simp [not_unexplained_ok]
  | cons c t =>
    cases Load.document files (String.ofList (c :: t)) <;> simp [Except.map, not_unexplained_ok, unexplained_error]

theorem unexplained_rules_iff {files : Files} {a : Arguments} : Unexplained (rules files a) ↔ Uncaught files a := by
  rw [rules_eq, unexplained_bind, unexplained_template?_iff, Uncaught]
  simp only [Load.unexplained_ruleSet_iff]

/-- A run whose rules fail either ends with exit code 1 or breaks off, the latter if the failure has no wording. -/
theorem run_of_rules_error {files : Files} {a : Arguments} {e : LoadError} (h : rules files a = .error e)
    (input : List UInt8) : (∃ o, run files input a = .ok o ∧ o.exit = 1) ↔ ∃ m, e.message? = some m := by
  rw [run, h]
  cases hm : e.message? with
  | none => simp [hm]
  | some m => simp [hm, Outcome.failure]

end Command

/-- One file, whose document has a number among its slots. -/
def numberedSlot : Files
  | "r.yaml" => some "title: h1\n1: h2\n".toUTF8.toList
  | _ => none

end Excerpt
