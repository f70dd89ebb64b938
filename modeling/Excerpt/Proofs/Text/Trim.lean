import Excerpt.Text.Basic
import Mathlib.Data.List.DropRight

/-!
# Trimming

Trimming stops at the first character that is not of the class: it leaves what lies behind it (`trimEnd_cons_of_not`,
`trimEnd_append_of_ne_nil`), and takes away a text of the class as a whole (`trimEnd_append_of_all`). Trimming the end
first makes no difference (`trimBy_trimEnd`), so what is left is trimmed (`trim_trim`); it begins with no white space
(`isSpace_of_head?_trim`).
-/

namespace Excerpt.Text

variable {p : Char → Bool}

theorem trimEnd_cons_of_not {c : Char} (h : p c = false) (t : Text) : trimEnd p (c :: t) = c :: trimEnd p t := by
  rw [trimEnd]
  cases trimEnd p t with
  | nil => simp [h]
  | cons d r => rfl

theorem trimEnd_cons_of_ne_nil {t : Text} (h : trimEnd p t ≠ []) (c : Char) :
    trimEnd p (c :: t) = c :: trimEnd p t := by
  rw [trimEnd]
  cases ht : trimEnd p t with
  | nil => exact (h ht).elim
  | cons d r => rfl

theorem trimEnd_eq_nil_iff : ∀ {t : Text}, trimEnd p t = [] ↔ t.all p = true
  | [] => by simp [trimEnd]
  | c :: t => by
    by_cases ht : trimEnd p t = []
    · rw [trimEnd, ht, List.all_cons, trimEnd_eq_nil_iff.mp ht]
      cases p c <;> simp
    · have hall : t.all p = false := by simpa using mt trimEnd_eq_nil_iff.mpr ht
      rw [trimEnd_cons_of_ne_nil ht, List.all_cons, hall]
      simp

theorem trimEnd_eq_self : ∀ {t : Text}, (∀ c ∈ t, p c = false) → trimEnd p t = t
  | [], _ => rfl
  | c :: t, h => by
    rw [List.forall_mem_cons] at h
    rw [trimEnd_cons_of_not h.1, trimEnd_eq_self h.2]

/-- Trimming the end does not reach beyond a text of which something is left. -/
theorem trimEnd_append_of_ne_nil {b : Text} (h : trimEnd p b ≠ []) : ∀ a : Text, trimEnd p (a ++ b) = a ++ trimEnd p b
  | [] => rfl
  | c :: a => by
    have ha := trimEnd_append_of_ne_nil h a
    rw [List.cons_append, trimEnd_cons_of_ne_nil (by simp [ha, h]), ha, List.cons_append]

/-- A text of the class at the end is trimmed away. -/
theorem trimEnd_append_of_all {b : Text} (h : b.all p = true) : ∀ a : Text, trimEnd p (a ++ b) = trimEnd p a
  | [] => trimEnd_eq_nil_iff.mpr h
  | c :: a => by rw [List.cons_append, trimEnd, trimEnd, trimEnd_append_of_all h a]

theorem trimEnd_trimEnd : ∀ t : Text, trimEnd p (trimEnd p t) = trimEnd p t
  | [] => rfl
  | c :: t => by
    have ih := trimEnd_trimEnd t
    rw [trimEnd]
    cases h : trimEnd p t with
    | nil =>
      cases hc : p c with
      | true => simp [trimEnd]
      | false => simp [trimEnd, hc]
    | cons d r =>
      rw [h] at ih
      change trimEnd p (c :: d :: r) = c :: d :: r
      rw [trimEnd, ih]

theorem trimBy_cons_of_pos {c : Char} (h : p c = true) (t : Text) : trimBy p (c :: t) = trimBy p t := by
  rw [trimBy, trimBy, trimStart, trimStart, List.dropWhile_cons_of_pos h]

theorem trimBy_cons_of_not {c : Char} (h : p c = false) (t : Text) : trimBy p (c :: t) = c :: trimEnd p t := by
  rw [trimBy, trimStart, List.dropWhile_cons_of_neg (by rw [h]; decide), trimEnd_cons_of_not h]

/-- Trimming the end first makes no difference. -/
theorem trimBy_trimEnd : ∀ t : Text, trimBy p (trimEnd p t) = trimBy p t
  | [] => rfl
  | c :: t => by
    cases hc : p c with
    | true =>
      rw [trimBy_cons_of_pos hc, ← trimBy_trimEnd t, trimEnd]
      cases trimEnd p t with
      | nil => simp [hc]
      | cons d r => exact trimBy_cons_of_pos hc _
    | false => rw [trimEnd_cons_of_not hc, trimBy_cons_of_not hc, trimBy_cons_of_not hc, trimEnd_trimEnd]

/-- What is left after trimming is trimmed. -/
theorem trimBy_trimBy (t : Text) : trimBy p (trimBy p t) = trimBy p t := by
  rw [show trimBy p t = trimEnd p (trimStart p t) from rfl, trimBy_trimEnd, trimBy, trimStart, trimStart,
    List.dropWhile_idempotent]

theorem trim_trimEnd (t : Text) : trim (trimEnd isSpace t) = trim t :=
  trimBy_trimEnd t

theorem trim_trim (t : Text) : trim (trim t) = trim t :=
  trimBy_trimBy t

/-- What follows a run of a class begins with none of it. -/
theorem not_of_head?_dropWhile {t : Text} {c : Char} (h : (t.dropWhile p).head? = some c) : p c = false := by
  have hhead := List.head?_dropWhile_not p t
  rwa [h] at hhead

/-- A trimmed text does not begin with white space. -/
theorem isSpace_of_head?_trim {t : Text} {c : Char} (h : (trim t).head? = some c) : isSpace c = false := by
  rw [trim, trimBy, trimStart] at h
  cases ht : t.dropWhile isSpace with
  | nil =>
    rw [ht] at h
    cases h
  | cons d r =>
    have hd : isSpace d = false := not_of_head?_dropWhile (by rw [ht]; rfl)
    rw [ht, trimEnd_cons_of_not hd] at h
    exact Option.some.inj h ▸ hd

end Excerpt.Text
