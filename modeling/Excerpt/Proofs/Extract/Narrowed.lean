import Excerpt.Proofs.Extract.Template
import Excerpt.Proofs.Regex.Occurrences
import Excerpt.Proofs.Rule.Lawful

/-!
# What extractors make of a text

An extractor drops a text in which its validator or its expression does not occur, and every text if its template names
a group that is not there or names one with too many digits (`Extractor.Drops`). `Extractor.extract_reads` says that it
drops no other text, and what it makes of the others: with an empty expression the text itself, and otherwise the text
with the first occurrence, or every one, replaced by the reading of its template, and then trimmed.
-/

namespace Excerpt

/-- The expression can be read, and occurs in the text. -/
def Expression.OccursIn (expr : String) (t : Text) : Prop :=
  ∃ p, Pattern.parse? expr.toList = some p ∧ p.occursIn t = true

theorem Expression.pattern?_of_ne {expr : String} (h : expr ≠ "") :
    pattern? expr.toList = Pattern.parse? expr.toList := by
  rw [pattern?, if_neg (by simpa using h)]

theorem Expression.Accepted.exists_pattern {expr : String} (h : Accepted expr) (hne : expr ≠ "") :
    ∃ p, Pattern.parse? expr.toList = some p :=
  (h.resolve_left hne).2

namespace Template

/-- A reading names a group that an expression with `count` groups does not have. -/
def MissesGroup (count : Nat) (parts : List Part) : Prop :=
  ∃ ds, .group ds ∈ parts ∧ count < Text.natValue ds

/-- A reading names a group with more digits than are read as a number. -/
def IsOverlong (parts : List Part) : Prop :=
  ∃ ds, .group ds ∈ parts ∧ longestNumber < ds.length

/-- The groups of a reading are named by digits. -/
theorem Reads.digits_of_mem {props : Properties} {t ds : Text} {parts : List Part} (h : Reads props t parts)
    (hds : .group ds ∈ parts) : ds ≠ [] ∧ ∀ d ∈ ds, Text.isDecimal d = true := by
  induction h with
  | nil => cases hds
  | group hne hdigits _ _ ih =>
    rcases List.mem_cons.mp hds with hhead | htail
    · cases hhead
      exact ⟨hne, hdigits⟩
    · exact ih htail
  | property _ _ _ ih =>
    rcases List.mem_append.mp hds with hvalue | hrest
    · obtain ⟨c, -, hc⟩ := List.mem_map.mp hvalue
      cases hc
    · exact ih hrest
  | char _ _ ih =>
    rcases List.mem_cons.mp hds with hhead | htail
    · cases hhead
    · exact ih htail

theorem Reads.all_isNamed_iff {props : Properties} {t : Text} {parts : List Part} (h : Reads props t parts)
    (count : Nat) :
    parts.all (Part.isNamed count) = true ↔ ¬ (MissesGroup count parts ∨ IsOverlong parts) := by
  rw [List.all_eq_true, not_or, MissesGroup, IsOverlong]
  have hnamed : ∀ {ds}, .group ds ∈ parts →
      (namesGroup count ds = true ↔ Text.natValue ds ≤ count ∧ ds.length ≤ longestNumber) := by
    intro ds hds
    obtain ⟨hne, hdigits⟩ := h.digits_of_mem hds
    have hempty : ds.isEmpty = false := by simpa using hne
    have hall : ds.all Text.isDecimal = true := List.all_eq_true.mpr hdigits
    rw [namesGroup, hempty, hall]
    simp only [Bool.not_false, Bool.true_and, Bool.and_eq_true, decide_eq_true_eq]
    exact and_comm
  constructor
  · intro hall
    refine ⟨?_, ?_⟩ <;> rintro ⟨ds, hds, hlt⟩
    · exact absurd ((hnamed hds).mp (hall _ hds)).1 (Nat.not_le_of_lt hlt)
    · exact absurd ((hnamed hds).mp (hall _ hds)).2 (Nat.not_le_of_lt hlt)
  · rintro ⟨hgroup, hlong⟩ part hpart
    cases part with
    | char c => rfl
    | group ds =>
      exact (hnamed hpart).mpr
        ⟨Nat.le_of_not_lt fun hlt => hgroup ⟨ds, hpart, hlt⟩, Nat.le_of_not_lt fun hlt => hlong ⟨ds, hpart, hlt⟩⟩

end Template

namespace Extractor

/-- The text that is kept, if one is. -/
def Outcome.text? : Outcome → Option Text
  | .kept t => some t
  | .dropped | .unknownGroup => none

/-- Why an extractor drops a text, if its template reads as `parts`. -/
inductive Drops (x : Extractor) (parts : List Template.Part) (t : Text) : Prop
  | validator (hne : x.validator ≠ "") (h : ¬ Expression.OccursIn x.validator t)
  | expression (hne : x.expr ≠ "") (h : ¬ Expression.OccursIn x.expr t)
  | group (hne : x.expr ≠ "") {p : Pattern} (hp : Pattern.parse? x.expr.toList = some p)
      (h : Template.MissesGroup p.groups parts ∨ Template.IsOverlong parts)

section Extract

variable {x : Extractor} {props : Properties} {t : Text} {parts : List Template.Part}

theorem passesValidator_iff (hvalidator : Expression.Accepted x.validator) :
    x.passesValidator t = true ↔ ¬ (x.validator ≠ "" ∧ ¬ Expression.OccursIn x.validator t) := by
  by_cases hne : x.validator = ""
  · simp [passesValidator, hne, Expression.pattern?]
  · obtain ⟨p, hp⟩ := hvalidator.exists_pattern hne
    rw [passesValidator, Expression.pattern?_of_ne hne, hp]
    simp [hne, Expression.OccursIn, hp]

theorem extract_of_not_validated (hvalidator : Expression.Accepted x.validator) (hne : x.validator ≠ "")
    (h : ¬ Expression.OccursIn x.validator t) : x.extract props t = .dropped := by
  have hpass : x.passesValidator t = false := by
    rw [← Bool.not_eq_true, passesValidator_iff hvalidator]
    exact fun hnot => hnot ⟨hne, h⟩
  rw [extract, hpass]
  rfl

theorem extract_of_empty (hpass : x.passesValidator t = true) (hexpr : x.expr = "") : x.extract props t = .kept t := by
  simp [extract, hpass, hexpr, Expression.pattern?]

theorem extract_of_absent (hpass : x.passesValidator t = true) (hne : x.expr ≠ "") {p : Pattern}
    (hp : Pattern.parse? x.expr.toList = some p) (habsent : p.occursIn t = false) : x.extract props t = .dropped := by
  simp [extract, hpass, Expression.pattern?_of_ne hne, hp, habsent]

/-- Where the expression occurs, the reading of the template decides. -/
theorem extract_of_occursIn (hreads : Template.Reads props x.format.toList parts) (hpass : x.passesValidator t = true)
    (hne : x.expr ≠ "") {p : Pattern} (hp : Pattern.parse? x.expr.toList = some p) (hoccurs : p.occursIn t = true) :
    x.extract props t =
      if parts.all (Template.Part.isNamed p.groups) then
        .kept (Text.trim (p.replace (limit x.extent) (Template.fill parts) t))
      else .unknownGroup := by
  simp only [extract, hpass, Expression.pattern?_of_ne hne, hp, hoccurs, if_true, Template.read?_escaped hreads]
  cases parts.all (Template.Part.isNamed p.groups) <;> rfl

/-! ## Why a text is dropped -/

theorem drops_of_not_passes (hvalidator : Expression.Accepted x.validator) (hpass : x.passesValidator t = false) :
    x.Drops parts t ∧ x.extract props t = .dropped := by
  have hnot : x.validator ≠ "" ∧ ¬ Expression.OccursIn x.validator t := by
    by_contra h
    rw [← passesValidator_iff hvalidator, hpass] at h
    cases h
  exact ⟨.validator hnot.1 hnot.2, extract_of_not_validated hvalidator hnot.1 hnot.2⟩

theorem not_drops_of_empty (hvalidator : Expression.Accepted x.validator) (hpass : x.passesValidator t = true)
    (hexpr : x.expr = "") : ¬ x.Drops parts t := by
  rintro (⟨hv, h⟩ | ⟨hne, -⟩ | ⟨hne, -, -⟩)
  · exact (passesValidator_iff hvalidator).mp hpass ⟨hv, h⟩
  · exact hne hexpr
  · exact hne hexpr

theorem drops_of_absent (hne : x.expr ≠ "") {p : Pattern} (hp : Pattern.parse? x.expr.toList = some p)
    (habsent : p.occursIn t = false) : x.Drops parts t := by
  refine .expression hne ?_
  rintro ⟨q, hq, h⟩
  rw [hp] at hq
  cases hq
  rw [habsent] at h
  cases h

/-- Where the expression occurs, a text is dropped exactly if some group of the template cannot be filled. -/
theorem drops_iff_of_occursIn (hreads : Template.Reads props x.format.toList parts)
    (hvalidator : Expression.Accepted x.validator) (hpass : x.passesValidator t = true)
    (hne : x.expr ≠ "") {p : Pattern}
    (hp : Pattern.parse? x.expr.toList = some p) (hoccurs : p.occursIn t = true) :
    x.Drops parts t ↔ parts.all (Template.Part.isNamed p.groups) = false := by
  rw [← Bool.not_eq_true, hreads.all_isNamed_iff, not_not]
  constructor
  · rintro (⟨hv, h⟩ | ⟨-, h⟩ | ⟨-, hq, h⟩)
    · exact ((passesValidator_iff hvalidator).mp hpass ⟨hv, h⟩).elim
    · exact (h ⟨p, hp, hoccurs⟩).elim
    · rw [hp] at hq
      cases hq
      exact h
  · exact .group hne hp

/-- **What an extractor makes of a text.** The template has exactly one reading. A text is dropped exactly for one of
the reasons of `Drops`. Otherwise, with an empty expression it is kept as it is; and if there is an expression, it has
occurrences in the text, of which the first, or every one, is replaced by what the reading stands for there, and the
text is trimmed. -/
theorem extract_reads (x : Extractor) (props : Properties) (t : Text) (hexpr : Expression.Accepted x.expr)
    (hvalidator : Expression.Accepted x.validator) :
    ∃ parts, Template.Reads props x.format.toList parts ∧
      (∀ parts', Template.Reads props x.format.toList parts' → parts' = parts) ∧
      ((x.extract props t).text? = none ↔ x.Drops parts t) ∧
      (¬ x.Drops parts t → x.expr = "" → (x.extract props t).text? = some t) ∧
      (¬ x.Drops parts t → x.expr ≠ "" → ∃ p os out, Pattern.parse? x.expr.toList = some p ∧ p.OccursAs t os ∧ os ≠ [] ∧
        Pattern.Woven (Template.fill parts) t (Pattern.upTo (limit x.extent) os) out ∧
        (x.extract props t).text? = some (Text.trim out)) := by
  obtain ⟨parts, hreads⟩ := Template.exists_reads props x.format.toList
  refine ⟨parts, hreads, fun _ h => h.unique hreads, ?_⟩
  cases hpass : x.passesValidator t with
  | false =>
    obtain ⟨hdrops, hdropped⟩ : x.Drops parts t ∧ x.extract props t = .dropped := drops_of_not_passes hvalidator hpass
    rw [hdropped]
    exact ⟨iff_of_true rfl hdrops, fun h => (h hdrops).elim, fun h => (h hdrops).elim⟩
  | true =>
    by_cases hne : x.expr = ""
    · rw [extract_of_empty hpass hne]
      have hnot : ¬ x.Drops parts t := not_drops_of_empty hvalidator hpass hne
      exact ⟨iff_of_false (Option.some_ne_none t) hnot, fun _ _ => rfl, fun _ h => (h hne).elim⟩
    obtain ⟨p, hp⟩ := hexpr.exists_pattern hne
    cases hoccurs : p.occursIn t with
    | false =>
      have hdrops : x.Drops parts t := drops_of_absent hne hp hoccurs
      rw [extract_of_absent hpass hne hp hoccurs]
      exact ⟨iff_of_true rfl hdrops, fun h => (h hdrops).elim, fun h => (h hdrops).elim⟩
    | true =>
      rw [drops_iff_of_occursIn hreads hvalidator hpass hne hp hoccurs, extract_of_occursIn hreads hpass hne hp hoccurs]
      cases hall : parts.all (Template.Part.isNamed p.groups) with
      | false => exact ⟨iff_of_true rfl rfl, fun h => (h rfl).elim, fun h => (h rfl).elim⟩
      | true =>
        obtain ⟨os, hos, hwoven⟩ := p.replace_woven t
        refine ⟨iff_of_false (Option.some_ne_none _) (by decide), fun _ h => (hne h).elim, fun _ _ => ?_⟩
        exact ⟨p, os, _, hp, hos, hos.occursIn_iff.mp hoccurs, hwoven _ _, rfl⟩

end Extract

/-- Numbers in front of words, with a template that swaps them and puts a property between. -/
def swapping : Extractor where
  expr := "(\\d+) (\\w+)"
  format := "$2\\$\x7bmark\x7d$1 "
  extent := .all
  validator := "May"

theorem accepted_swapping : Expression.Accepted swapping.expr ∧ Expression.Accepted swapping.validator :=
  ⟨.inr ⟨rfl, Option.isSome_iff_exists.mp (by decide +kernel)⟩,
    .inr ⟨rfl, Option.isSome_iff_exists.mp (by decide +kernel)⟩⟩

/-- A property that looks like a group stands for itself. -/
theorem extract_reads_swapping :
    let props : Properties := [("mark".toList, "$1\\".toList)]
    let t := "12 May 1 June".toList
    (Expression.Accepted swapping.expr ∧ Expression.Accepted swapping.validator) ∧
      (swapping.extract props t).text? = some "May\\$1\\12  June\\$1\\1".toList ∧
      ∃ parts, Template.Reads props swapping.format.toList parts ∧ ¬ swapping.Drops parts t := by
  intro props t
  have htext : (swapping.extract props t).text? = some "May\\$1\\12  June\\$1\\1".toList := by decide +kernel
  obtain ⟨parts, hreads, -, hdrops, -⟩ := extract_reads swapping props t accepted_swapping.1 accepted_swapping.2
  refine ⟨accepted_swapping, htext, parts, hreads, fun h => ?_⟩
  rw [hdrops.mpr h] at htext
  cases htext

/-- A group in parentheses, with a template that names it by a run of zeros and a one. -/
def zeros : Extractor where
  expr := "(a)"
  format := String.ofList ('$' :: (List.replicate Template.longestNumber '0' ++ ['1']))
  extent := .first
  validator := ""

theorem natValue_zeros : ∀ (n : Nat) (t : Text), Text.natValue (List.replicate n '0' ++ t) = Text.natValue t
  | 0, _ => rfl
  | n + 1, t => by
    rw [List.replicate_succ, List.cons_append, Text.natValue, List.foldl_cons]
    exact natValue_zeros n t

theorem reads_zeros (props : Properties) : Template.Reads props zeros.format.toList
    [.group (List.replicate Template.longestNumber '0' ++ ['1'])] := by
  have hdigits : ∀ d ∈ List.replicate Template.longestNumber '0' ++ ['1'], Text.isDecimal d = true := by
    intro d hd
    rcases List.mem_append.mp hd with h | h
    · rw [List.eq_of_mem_replicate h]
      decide
    · rw [List.mem_singleton.mp h]
      decide
  have hformat : zeros.format.toList = '$' :: (List.replicate Template.longestNumber '0' ++ ['1']) :=
    String.toList_ofList
  have hgroup : Template.Reads props ('$' :: (List.replicate Template.longestNumber '0' ++ ['1'] ++ []))
      [.group (List.replicate Template.longestNumber '0' ++ ['1'])] := .group (by simp) hdigits rfl .nil
  rw [hformat]
  rwa [List.append_nil] at hgroup

/-- A text may be dropped although the validator and the expression occur in it and every group is there. -/
theorem extract_drops_zeros :
    ¬ ∀ (x : Extractor) (props : Properties) (t : Text) (parts : List Template.Part), Expression.Accepted x.expr →
      Expression.Accepted x.validator → Template.Reads props x.format.toList parts → (x.extract props t).text? = none →
      (x.validator ≠ "" ∧ ¬ Expression.OccursIn x.validator t) ∨ (x.expr ≠ "" ∧ ¬ Expression.OccursIn x.expr t) ∨
        ∃ p, Pattern.parse? x.expr.toList = some p ∧ Template.MissesGroup p.groups parts := by
  intro h
  obtain ⟨p, hp, hgroups, hoccurs⟩ : ∃ p, Pattern.parse? zeros.expr.toList = some p ∧ p.groups = 1 ∧
      p.occursIn "a".toList = true := ⟨_, rfl, rfl, rfl⟩
  have hlong : Template.namesGroup p.groups (List.replicate Template.longestNumber '0' ++ ['1']) = false := by
    have hlength : (List.replicate Template.longestNumber '0' ++ ['1']).length = Template.longestNumber + 1 := by simp
    rw [Template.namesGroup, hlength, decide_eq_false (Nat.not_succ_le_self _)]
    simp
  have hdropped : (zeros.extract [] "a".toList).text? = none := by
    rw [extract_of_occursIn (reads_zeros []) rfl (by decide) hp hoccurs, List.all_cons, Template.Part.isNamed, hlong]
    rfl
  have hcause := h zeros [] "a".toList _ (.inr ⟨rfl, p, hp⟩) (.inl rfl) (reads_zeros []) hdropped
  rcases hcause with ⟨hne, -⟩ | ⟨-, hnot⟩ | ⟨q, hq, hmiss⟩
  · exact hne rfl
  · exact hnot ⟨p, hp, hoccurs⟩
  · obtain ⟨ds, hds, hlt⟩ := hmiss
    rw [hp] at hq
    cases hq
    cases List.mem_singleton.mp hds
    rw [natValue_zeros, hgroups] at hlt
    exact absurd hlt (by decide)

end Extractor

end Excerpt
