import Mathlib.Data.List.Perm.Basic
import Mathlib.Order.MinMax
import Excerpt.Rule.Filter

/-!
# What filters do with a text

A filter catches a text in a phase if it has an expression, belongs to the phase, and its expression matches the whole
text (`Filter.Catches`). Its own verdict is to stop or to skip a text that it catches, and nothing otherwise.

With nothing below skipping and skipping below stopping, one more filter raises the result to its verdict if that is
greater (`step_eq_max`). So several filters come to the greatest of their verdicts: `Filter.applyAll_greatest` says what
that is, that the order of the filters does not matter, and that two lists of filters come to the greater of their
results.
-/

namespace Excerpt

namespace FilterResult

/-- The place of a result: nothing, skipped, stopped. -/
def rank : FilterResult → Nat
  | .none => 0
  | .skip => 1
  | .stop => 2

/-- Results are told apart by their rank. -/
theorem rank_injective : Function.Injective rank := by
  intro a b h
  cases a <;> cases b <;> simp [rank] at h ⊢

/-- The greater result prevails. -/
instance : LinearOrder FilterResult :=
  LinearOrder.lift' rank rank_injective

theorem none_le (r : FilterResult) : .none ≤ r := by
  cases r <;> decide

theorem le_stop (r : FilterResult) : r ≤ .stop := by
  cases r <;> decide

theorem le_none_iff {r : FilterResult} : r ≤ .none ↔ r = .none := by
  cases r <;> decide

/-- There are three results, so one that is no less than skipping skips or stops. -/
theorem skip_le_iff {r : FilterResult} : .skip ≤ r ↔ r = .skip ∨ r = .stop := by
  cases r <;> decide

end FilterResult

namespace Filter

variable {scope : Scope} {t : Text} {f : Filter}

/-- A filter with an expression, of the phase or of all phases, whose expression matches the whole text. -/
def Catches (f : Filter) (scope : Scope) (t : Text) : Prop :=
  f.expr ≠ "" ∧ (f.scope = .all ∨ f.scope = scope) ∧
    ∃ p, Pattern.parse? f.expr.toList = some p ∧ p.fullMatch t = true

/-- A filter with an expression holds of the texts that this matches as a whole. -/
theorem holds_iff (h : f.expr ≠ "") :
    f.holds t = true ↔ ∃ p, Pattern.parse? f.expr.toList = some p ∧ p.fullMatch t = true := by
  have hne : f.expr.toList.isEmpty = false := by simpa using h
  rw [holds, Expression.matchesAll, Expression.pattern?, hne]
  cases Pattern.parse? f.expr.toList <;> simp

/-- Catching is decided by what the program asks of the filter and the text. -/
theorem catches_iff : f.Catches scope t ↔ (f.applies scope && f.hasExpr && f.holds t) = true := by
  rw [Catches]
  by_cases h : f.expr = ""
  · simp [h, hasExpr]
  · rw [← holds_iff h]
    simp only [applies, hasExpr, Bool.and_eq_true, Bool.or_eq_true, beq_iff_eq, bne_iff_ne, ne_eq, h, not_false_eq_true,
      and_true, true_and]

instance : Decidable (f.Catches scope t) :=
  decidable_of_iff _ catches_iff.symm

/-- What a filter on its own does with a text. -/
def verdict (f : Filter) (scope : Scope) (t : Text) : FilterResult :=
  if f.Catches scope t then (if f.stop then .stop else .skip) else .none

theorem verdict_of_catches (h : f.Catches scope t) : f.verdict scope t = if f.stop then .stop else .skip :=
  if_pos h

theorem verdict_of_not_catches (h : ¬ f.Catches scope t) : f.verdict scope t = .none :=
  if_neg h

/-- What a single filter comes to says whether it catches the text, and if so, whether it stops. -/
theorem verdict_eq_stop_iff : f.verdict scope t = .stop ↔ f.Catches scope t ∧ f.stop = true := by
  by_cases h : f.Catches scope t
  · rw [verdict_of_catches h]
    cases f.stop <;> simp [h]
  · simp [verdict_of_not_catches h, h]

theorem verdict_eq_skip_iff : f.verdict scope t = .skip ↔ f.Catches scope t ∧ f.stop = false := by
  by_cases h : f.Catches scope t
  · rw [verdict_of_catches h]
    cases f.stop <;> simp [h]
  · simp [verdict_of_not_catches h, h]

theorem verdict_eq_none_iff : f.verdict scope t = .none ↔ ¬ f.Catches scope t := by
  by_cases h : f.Catches scope t
  · rw [verdict_of_catches h]
    cases f.stop <;> simp [h]
  · simp [verdict_of_not_catches h, h]

/-! ## One more filter -/

/-- One more filter raises the result to its verdict, and never lowers it. -/
theorem step_eq_max (result : FilterResult) : step scope t result f = max result (f.verdict scope t) := by
  rw [step]
  by_cases h : f.Catches scope t
  · rw [catches_iff.mp h, verdict_of_catches h, Bool.true_and]
    cases f.stop <;> cases result <;> rfl
  · have hnot : (f.applies scope && f.hasExpr && f.holds t) = false := by
      rw [← Bool.not_eq_true, ← catches_iff]
      exact h
    rw [hnot, verdict_of_not_catches h, max_eq_left (FilterResult.none_le result)]
    rfl

/-- The fold over filters is a maximum. The result so far counts like one more filter in front. -/
theorem foldl_step_eq_max : ∀ (fs : List Filter) (result : FilterResult),
    fs.foldl (step scope t) result = max result (applyAll fs t scope)
  | [], result => (max_eq_left (FilterResult.none_le result)).symm
  | f :: fs, result => by
    rw [applyAll, List.foldl_cons, List.foldl_cons, foldl_step_eq_max fs, foldl_step_eq_max fs,
      step_eq_max, step_eq_max, max_eq_right (FilterResult.none_le _), max_assoc]

/-! ## All filters -/

theorem applyAll_cons (f : Filter) (fs : List Filter) :
    applyAll (f :: fs) t scope = max (f.verdict scope t) (applyAll fs t scope) := by
  rw [applyAll, List.foldl_cons, foldl_step_eq_max, step_eq_max, max_eq_right (FilterResult.none_le _)]

/-- Filters in a row come to the greater of what the two parts come to. -/
theorem applyAll_append (fs gs : List Filter) :
    applyAll (fs ++ gs) t scope = max (applyAll fs t scope) (applyAll gs t scope) :=
  List.foldl_append.trans (foldl_step_eq_max gs (applyAll fs t scope))

/-- The result is reached by filters exactly if one of them reaches it alone, or it is no result. -/
theorem le_applyAll_iff {r : FilterResult} : ∀ {fs : List Filter},
    r ≤ applyAll fs t scope ↔ r = .none ∨ ∃ f ∈ fs, r ≤ f.verdict scope t
  | [] => by
    rw [show applyAll [] t scope = .none from rfl, FilterResult.le_none_iff]
    simp
  | f :: fs => by
    rw [applyAll_cons, le_max_iff, le_applyAll_iff]
    simp only [List.exists_mem_cons_iff]
    tauto

/-- A maximum does not depend on the order. -/
theorem applyAll_perm {fs gs : List Filter} (h : fs.Perm gs) : applyAll fs t scope = applyAll gs t scope := by
  refine eq_of_forall_le_iff fun r => ?_
  rw [le_applyAll_iff, le_applyAll_iff]
  simp only [h.mem_iff]

theorem applyAll_eq_stop_iff {fs : List Filter} :
    applyAll fs t scope = .stop ↔ ∃ f ∈ fs, f.Catches scope t ∧ f.stop = true := by
  have hstop : ∀ r : FilterResult, r = .stop ↔ .stop ≤ r := fun r =>
    ⟨fun h => h ▸ le_refl _, fun h => le_antisymm (FilterResult.le_stop r) h⟩
  rw [hstop, le_applyAll_iff]
  simp only [← hstop, verdict_eq_stop_iff, reduceCtorEq, false_or]

theorem applyAll_eq_none_iff {fs : List Filter} : applyAll fs t scope = .none ↔ ∀ f ∈ fs, ¬ f.Catches scope t := by
  have hnone : applyAll fs t scope = .none ↔ ¬ .skip ≤ applyAll fs t scope := by
    cases applyAll fs t scope <;> decide
  have hskip : ∀ f : Filter, ¬ .skip ≤ f.verdict scope t ↔ ¬ f.Catches scope t := by
    intro f
    rw [← verdict_eq_none_iff]
    cases f.verdict scope t <;> decide
  rw [hnone, le_applyAll_iff]
  simp only [reduceCtorEq, false_or, not_exists, not_and, hskip]

/-- A text is skipped if some filter catches it, and none of those that catch it stops. -/
theorem applyAll_eq_skip_iff {fs : List Filter} : applyAll fs t scope = .skip ↔
    (¬ ∃ f ∈ fs, f.Catches scope t ∧ f.stop = true) ∧ ∃ f ∈ fs, f.Catches scope t ∧ f.stop = false := by
  rw [← applyAll_eq_stop_iff]
  cases hres : applyAll fs t scope with
  | none =>
    rw [applyAll_eq_none_iff] at hres
    simpa using fun f hf hc => absurd hc (hres f hf)
  | stop => simp
  | skip =>
    have hcaught : .skip ≤ applyAll fs t scope := hres ▸ le_refl _
    obtain ⟨f, hf, hle⟩ := (le_applyAll_iff.mp hcaught).resolve_left (by decide)
    -- The filter that reaches the result does not stop, for the result would be to stop.
    have hnot : f.verdict scope t ≠ .stop := fun hstop => by
      have : applyAll fs t scope = .stop := applyAll_eq_stop_iff.mpr ⟨f, hf, verdict_eq_stop_iff.mp hstop⟩
      rw [hres] at this
      cases this
    have hskip : f.verdict scope t = .skip := (FilterResult.skip_le_iff.mp hle).resolve_right hnot
    simpa using ⟨f, hf, verdict_eq_skip_iff.mp hskip⟩

/-- **What filters do with a text.** They stop it if one of them that catches it stops, they skip it if none of these
stops but one catches it, and otherwise they do nothing; their order does not matter, and two lists of filters come to
the greater of their results. -/
theorem applyAll_greatest (fs gs : List Filter) (t : Text) (scope : Scope) :
    (applyAll fs t scope = .stop ↔ ∃ f ∈ fs, f.Catches scope t ∧ f.stop = true) ∧
    (applyAll fs t scope = .skip ↔
      (¬ ∃ f ∈ fs, f.Catches scope t ∧ f.stop = true) ∧ ∃ f ∈ fs, f.Catches scope t ∧ f.stop = false) ∧
    (applyAll fs t scope = .none ↔ ∀ f ∈ fs, ¬ f.Catches scope t) ∧
    (fs.Perm gs → applyAll fs t scope = applyAll gs t scope) ∧
    FilterResult.none < FilterResult.skip ∧ FilterResult.skip < FilterResult.stop ∧
    applyAll (fs ++ gs) t scope = max (applyAll fs t scope) (applyAll gs t scope) :=
  ⟨applyAll_eq_stop_iff, applyAll_eq_skip_iff, applyAll_eq_none_iff, applyAll_perm, by decide, by decide,
    applyAll_append fs gs⟩

/-- A filter that skips and a filter of the body that stops, in both orders. -/
theorem applyAll_greatest_twoFilters :
    let skip : Filter := ⟨"ad.*", .all, false⟩
    let stop : Filter := ⟨".*posts", .body, true⟩
    [skip, stop].Perm [stop, skip] ∧
      applyAll [skip, stop] "ad posts".toList .body = applyAll [stop, skip] "ad posts".toList .body ∧
      applyAll [stop, skip] "ad posts".toList .body = .stop ∧
      applyAll [stop, skip] "ad posts".toList .text = .skip := by
  intro skip stop
  have hperm : [skip, stop].Perm [stop, skip] := .swap stop skip []
  exact ⟨hperm, (applyAll_greatest [skip, stop] [stop, skip] "ad posts".toList .body).2.2.2.1 hperm,
    by decide +kernel, by decide +kernel⟩

end Filter

end Excerpt
