import Excerpt.Rule.RuleSet
import Excerpt.Proofs.Doc.Entries
import Excerpt.Proofs.Rule.Decoded
import Excerpt.Proofs.Text.Trim
import Mathlib.Data.List.Forall2

/-!
# Reading the written form of a rule

A reader restores a writer if it reads back the written form of every value that it has ever read (`Decoded.Restores`).
The readers of attributes do so, and with them those of excludes, selectors, extractors, filters and conditions: reading
trims, merges keys and folds the names of members, and on a written form all of that changes nothing.
-/

namespace Excerpt

open Doc (Entries)

namespace Decoded

variable {α β : Type}

/-- What has been read is read again from its written form. -/
def Restores (read : Doc → Decoded α) (write : α → Doc) : Prop :=
  ∀ ⦃d a⦄, read d = .ok a → read (write a) = .ok a

/-! ## Lists and optional values -/

/-- Items are read one by one; the index of the first one counts in failures only. -/
theorem itemsFrom_eq_ok {read : Doc → Decoded α} : ∀ {ds : List Doc} {i : Nat} {as : List α},
    itemsFrom read i ds = .ok as ↔ List.Forall₂ (fun d a => read d = .ok a) ds as
  | [], i, as => by
    rw [List.forall₂_nil_left_iff, itemsFrom]
    simp [eq_comm]
  | d :: ds, i, as => by
    rw [List.forall₂_cons_left_iff, itemsFrom]
    simp only [seq_eq_ok, map_eq_ok, under_eq_ok, itemsFrom_eq_ok]
    constructor
    · rintro ⟨_, as, ⟨a, ha, rfl⟩, has, rfl⟩
      exact ⟨a, as, ha, has, rfl⟩
    · rintro ⟨a, as, ha, has, rfl⟩
      exact ⟨_, as, ⟨a, ha, rfl⟩, has, rfl⟩

theorem items_eq_ok {read : Doc → Decoded α} {ds : List Doc} {as : List α} :
    items read ds = .ok as ↔ List.Forall₂ (fun d a => read d = .ok a) ds as :=
  itemsFrom_eq_ok

/-- A list that is given as a single item or as a list. -/
def listOf (read : Doc → Decoded α) (d : Doc) : Decoded (List α) :=
  items read d.toItems

/-- A reader that restores single values restores lists of them. -/
theorem Restores.listOf {read : Doc → Decoded α} {write : α → Doc} (h : Restores read write) :
    Restores (listOf read) fun as => .list (as.map write) := by
  intro d as has
  rw [Decoded.listOf, items_eq_ok] at has
  refine items_eq_ok.mpr ?_
  change List.Forall₂ _ (as.map write) as
  generalize d.toItems = ds at has
  induction has with
  | nil => exact .nil
  | cons ha _ ih => exact .cons (h ha) ih

/-- A value that is there is never written as the empty value, so an absent one is told from it. -/
theorem Restores.optional {read : Doc → Decoded α} {write : α → Doc} (h : Restores read write)
    (hnull : ∀ a, (write a).isNull = false) :
    Restores (optional read) fun a? => (a?.map write).getD .null := by
  intro d a? hd
  rcases optional_eq_ok.mp hd with ⟨-, rfl⟩ | ⟨-, a, ha, rfl⟩
  · rfl
  · exact optional_eq_ok.mpr (.inr ⟨hnull a, a, h ha, rfl⟩)

/-! ## Plain values -/

theorem string_eq_ok {d : Doc} {s : String} : string d = .ok s ↔ d = .str s := by
  constructor
  · intro h
    rw [string.eq_def] at h
    split at h
    · cases h
      rfl
    · cases h
  · rintro rfl
    rfl

theorem restores_string : Restores string .str :=
  fun _ _ _ => rfl

theorem restores_bool : Restores bool .bool :=
  fun _ _ _ => rfl

/-- An expression that has been read is held as it was written. -/
theorem restores_expression : Restores expression .str := by
  intro d s h
  obtain ⟨t, ht, h'⟩ := andThen_eq_ok.mp h
  have hst : t = s := by
    split at h'
    · exact Decoded.ok.inj h'
    · split at h' <;> cases h'
  rwa [string_eq_ok.mp ht, hst] at h

end Decoded

/-! ## Attributes -/

namespace Doc.Entries

variable {α : Type} {es : Entries} {key k : String} {d : Doc} {default a : α} {read : Doc → Decoded α}

/-- A value that is given is read, whatever the default. -/
theorem attrOr_of_attr? (h : es.attr? key = some (k, d)) :
    es.attrOr key default read = .ok a ↔ read d = .ok a := by
  rw [attrOr, h]
  exact Decoded.under_eq_ok

/-- An attribute that has been read is read again from its written form, if its default is. -/
theorem attrOr_restores {write : α → Doc} (hread : Decoded.Restores read write)
    (hdefault : read (write default) = .ok default) (h : es.attrOr key default read = .ok a) :
    read (write a) = .ok a := by
  rw [attrOr] at h
  split at h
  · exact hread (Decoded.under_eq_ok.mp h)
  · cases h
    exact hdefault

end Doc.Entries

/-! ## Members of closed sets -/

/-- The names of the choices are different, so each of these readers finds the choice that was written. -/
theorem Verdict.read_name (v : Verdict) : Decoded.member members name (.str v.name) = .ok v := by
  cases v <;> rfl

theorem Scope.read_name (s : Scope) : Decoded.member members name (.str s.name) = .ok s := by
  cases s <;> rfl

theorem Output.read_name (o : Output) : Decoded.member members name (.str o.name) = .ok o := by
  cases o <;> rfl

theorem TextCase.read_name (c : TextCase) : Decoded.member members name (.str c.name) = .ok c := by
  cases c <;> rfl

theorem Extent.read_name (e : Extent) : Decoded.member members name (.str e.name) = .ok e := by
  cases e <;> rfl

theorem Source.read_name (s : Source) : Decoded.member members name (.str s.name) = .ok s := by
  cases s <;> rfl

/-! ## Rules -/

section Rules

open Decoded

/-- A rule that is read from its expression or from a mapping is read from some mapping. -/
theorem exists_entries {α : Type} {read : Entries → Decoded α} {d : Doc} {a : α}
    (h : (match d with
      | .scalar (.str s) => read [(.str "expr", .str s)]
      | .map es => read es
      | _ => .fail .notModel) = .ok a) : ∃ es, read es = .ok a := by
  split at h
  · exact ⟨_, h⟩
  · exact ⟨_, h⟩
  · cases h

/-- An exclude is read back from its written form, whatever its expression. -/
theorem Exclude.restores : Restores Exclude.ofDoc Exclude.toDoc := by
  rintro - x -
  change (if (Doc.str x.expr).isEmpty then Decoded.ok ⟨""⟩
    else Decoded.under (.key "expr") ((Decoded.string (.str x.expr)).map Exclude.mk)) = .ok x
  split
  · rename_i h
    rw [Doc.isEmpty, beq_iff_eq] at h
    rw [← h]
  · rfl

namespace Filter

/-- A rule is read from entries attribute by attribute. This and the like below are what reading and writing have in
common. -/
theorem ofEntries_eq_ok {es : Entries} {f : Filter} : ofEntries es = .ok f ↔
    es.attrOr "expr" "" expression = .ok f.expr ∧
    es.attrOr "scope" .all (member Scope.members Scope.name) = .ok f.scope ∧
    es.attrOr "stop" false Decoded.bool = .ok f.stop := by
  rw [ofEntries]
  simp only [seq_eq_ok, map_eq_ok]
  constructor
  · rintro ⟨_, _, ⟨_, _, ⟨_, h1, rfl⟩, h2, rfl⟩, h3, rfl⟩
    exact ⟨h1, h2, h3⟩
  · rintro ⟨h1, h2, h3⟩
    exact ⟨_, _, ⟨_, _, ⟨_, h1, rfl⟩, h2, rfl⟩, h3, rfl⟩

theorem restores : Restores ofDoc toDoc := by
  intro d f h
  obtain ⟨es, hes⟩ := exists_entries h
  have hexpr := Entries.attrOr_restores restores_expression rfl (ofEntries_eq_ok.mp hes).1
  exact ofEntries_eq_ok.mpr ⟨(Entries.attrOr_of_attr? rfl).mpr hexpr,
    (Entries.attrOr_of_attr? rfl).mpr f.scope.read_name, (Entries.attrOr_of_attr? rfl).mpr rfl⟩

end Filter

namespace Condition

theorem ofEntries_eq_ok {es : Entries} {c : Condition} : ofEntries es = .ok c ↔
    es.attrOr "expr" "" expression = .ok c.expr ∧
    es.attrOr "action" .accept (member Verdict.members Verdict.name) = .ok c.action := by
  rw [ofEntries]
  simp only [seq_eq_ok, map_eq_ok]
  constructor
  · rintro ⟨_, _, ⟨_, h1, rfl⟩, h2, rfl⟩
    exact ⟨h1, h2⟩
  · rintro ⟨h1, h2⟩
    exact ⟨_, _, ⟨_, h1, rfl⟩, h2, rfl⟩

theorem restores : Restores ofDoc toDoc := by
  intro d c h
  obtain ⟨es, hes⟩ := exists_entries h
  have hexpr := Entries.attrOr_restores restores_expression rfl (ofEntries_eq_ok.mp hes).1
  exact ofEntries_eq_ok.mpr
    ⟨(Entries.attrOr_of_attr? rfl).mpr hexpr, (Entries.attrOr_of_attr? rfl).mpr c.action.read_name⟩

end Condition

namespace Extractor

theorem ofEntries_eq_ok {es : Entries} {x : Extractor} : ofEntries es = .ok x ↔
    es.attrOr "expr" "" expression = .ok x.expr ∧
    es.attrOr "format" defaultFormat Decoded.string = .ok x.format ∧
    es.attrOr "match" .first (member Extent.members Extent.name) = .ok x.extent ∧
    es.attrOr "validator" "" expression = .ok x.validator := by
  rw [ofEntries]
  simp only [seq_eq_ok, map_eq_ok]
  constructor
  · rintro ⟨_, _, ⟨_, _, ⟨_, _, ⟨_, h1, rfl⟩, h2, rfl⟩, h3, rfl⟩, h4, rfl⟩
    exact ⟨h1, h2, h3, h4⟩
  · rintro ⟨h1, h2, h3, h4⟩
    exact ⟨_, _, ⟨_, _, ⟨_, _, ⟨_, h1, rfl⟩, h2, rfl⟩, h3, rfl⟩, h4, rfl⟩

theorem restores : Restores ofDoc toDoc := by
  intro d x h
  obtain ⟨es, hes⟩ := exists_entries h
  obtain ⟨h1, -, -, h4⟩ := ofEntries_eq_ok.mp hes
  have hexpr := Entries.attrOr_restores restores_expression rfl h1
  have hvalidator := Entries.attrOr_restores restores_expression rfl h4
  exact ofEntries_eq_ok.mpr ⟨(Entries.attrOr_of_attr? rfl).mpr hexpr, (Entries.attrOr_of_attr? rfl).mpr rfl,
    (Entries.attrOr_of_attr? rfl).mpr x.extent.read_name, (Entries.attrOr_of_attr? rfl).mpr hvalidator⟩

end Extractor

namespace Selector

/-- The check of a selector changes nothing in it. -/
theorem checked_eq_ok {s t : Selector} (h : checked s = .ok t) : s = t := by
  rw [checked] at h
  split at h
  · split at h
    · exact Decoded.ok.inj h
    · cases h
    · cases h
  · exact Decoded.ok.inj h

theorem ofEntries_eq_ok {es : Entries} {s : Selector} : ofEntries es = .ok s ↔
    es.attr "expr" readExpr = .ok s.expr ∧
    es.attrOr "source" .page (member Source.members Source.name) = .ok s.source ∧
    es.attrOr "output" .text (member Output.members Output.name) = .ok s.output ∧
    es.attrOr "attribute" none (Decoded.optional Decoded.string) = .ok s.attributeName ∧
    es.attrOr "multiple" none (Decoded.optional Decoded.bool) = .ok s.multiple ∧
    es.attrOr "separator" none (Decoded.optional Decoded.string) = .ok s.separator ∧
    es.attrOr "excludes" [] (listOf Exclude.ofDoc) = .ok s.excludes ∧
    es.attrOr "size" none (Decoded.optional Decoded.string) = .ok s.size ∧
    es.attrOr "background" false Decoded.bool = .ok s.background ∧
    checked s = .ok s := by
  rw [ofEntries]
  simp only [andThen_eq_ok, seq_eq_ok, map_eq_ok]
  constructor
  · rintro ⟨_, ⟨_, _, ⟨_, _, ⟨_, _, ⟨_, _, ⟨_, _, ⟨_, _, ⟨_, _, ⟨_, _, ⟨_, h1, rfl⟩, h2, rfl⟩, h3, rfl⟩, h4, rfl⟩,
      h5, rfl⟩, h6, rfl⟩, h7, rfl⟩, h8, rfl⟩, h9, rfl⟩, hs⟩
    have heq := checked_eq_ok hs
    subst heq
    exact ⟨h1, h2, h3, h4, h5, h6, h7, h8, h9, hs⟩
  · rintro ⟨h1, h2, h3, h4, h5, h6, h7, h8, h9, hs⟩
    exact ⟨_, ⟨_, _, ⟨_, _, ⟨_, _, ⟨_, _, ⟨_, _, ⟨_, _, ⟨_, _, ⟨_, _, ⟨_, h1, rfl⟩, h2, rfl⟩, h3, rfl⟩, h4, rfl⟩,
      h5, rfl⟩, h6, rfl⟩, h7, rfl⟩, h8, rfl⟩, h9, rfl⟩, hs⟩

/-- An expression is trimmed when it is read; what is written is trimmed already. -/
theorem restores_readExpr : Restores readExpr .str := by
  intro d s h
  obtain ⟨e, -, h'⟩ := andThen_eq_ok.mp h
  have hne : (Text.trim e.toList).isEmpty = false := by
    by_contra hempty
    rw [Bool.not_eq_false] at hempty
    simp [hempty, Decoded.fail] at h'
  simp only [hne, Bool.false_eq_true, if_false, Decoded.ok.injEq] at h'
  subst h'
  simp [readExpr, Decoded.string, andThen, Text.trim_trim, hne]

/-- The attribute `expr` has to be there. -/
theorem restores_expr {es : Entries} {e : String} (h : es.attr "expr" readExpr = .ok e) :
    readExpr (.str e) = .ok e := by
  rw [Entries.attr] at h
  split at h
  · exact restores_readExpr (under_eq_ok.mp h)
  · cases h

theorem optional_strOrNull (s? : Option String) : Decoded.optional Decoded.string (.strOrNull s?) = .ok s? := by
  cases s? <;> rfl

/-- A selector is read back from its written form: merging puts the excludes under the key that they stand under, and
leaves the key out if there are none. -/
theorem restores : Restores ofDoc toDoc := by
  intro d s h
  obtain ⟨es, hes⟩ : ∃ es, ofEntries es = .ok s := by
    rw [ofDoc.eq_def] at h
    split at h
    · exact ⟨_, h⟩
    · exact ⟨_, h⟩
    · cases h
  obtain ⟨h1, -, -, -, -, -, h7, -, -, hs⟩ := ofEntries_eq_ok.mp hes
  have hexpr := restores_expr h1
  have hexcludes := Entries.attrOr_restores Exclude.restores.listOf rfl h7
  obtain ⟨expr, source, output, named, multiple, separator, excludes, size, background⟩ := s
  refine ofEntries_eq_ok.mpr ⟨?_, ?_, ?_, ?_, ?_, ?_, ?_, ?_, ?_, hs⟩
  · cases excludes <;> exact under_eq_ok.mpr hexpr
  · cases excludes <;> exact (Entries.attrOr_of_attr? rfl).mpr source.read_name
  · cases excludes <;> exact (Entries.attrOr_of_attr? rfl).mpr output.read_name
  · cases excludes <;> exact (Entries.attrOr_of_attr? rfl).mpr (optional_strOrNull named)
  · cases excludes <;> cases multiple <;> rfl
  · cases excludes <;> exact (Entries.attrOr_of_attr? rfl).mpr (optional_strOrNull separator)
  · cases excludes with
    | nil => rfl
    | cons x xs =>
      refine (Entries.attrOr_of_attr? rfl).mpr ?_
      change listOf Exclude.ofDoc (.list ((x :: xs).map Exclude.toDoc ++ [])) = _
      rwa [List.append_nil]
  · cases excludes <;> exact (Entries.attrOr_of_attr? rfl).mpr (optional_strOrNull size)
  · cases excludes <;> rfl

end Selector

end Rules

end Excerpt
