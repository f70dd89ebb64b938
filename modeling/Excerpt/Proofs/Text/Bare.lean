import Excerpt.Text.Basic

/-!
# Texts without their white space

`Text.bare` is a text without its white space. Trimming and splitting at white space leave it as it is (`bare_trim`,
`bare_flatten_splitOn`). Cutting off a beginning is described by `dropPrefix?_eq_some_iff`, cutting at the first
separator by `cut?_append_cons` and `eq_of_cut?`, replacing a character by `replaceChar_eq_self` where it does not
occur, and taking out every occurrence of a text by `erase_append_left` and `erase_cons_of_ne`.
-/

namespace Excerpt.Text

/-- The text without its white space. -/
def bare (t : Text) : Text :=
  t.filter (!isSpace ·)

@[simp] theorem bare_nil : bare [] = [] := rfl

@[simp] theorem bare_append (a b : Text) : bare (a ++ b) = bare a ++ bare b := by
  simp [bare]

theorem bare_cons_of_space {c : Char} (h : isSpace c = true) (t : Text) : bare (c :: t) = bare t := by
  simp [bare, h]

theorem bare_cons_of_not_space {c : Char} (h : isSpace c = false) (t : Text) : bare (c :: t) = c :: bare t := by
  simp [bare, h]

theorem bare_cons_congr {c : Char} {a b : Text} (h : bare a = bare b) : bare (c :: a) = bare (c :: b) := by
  rw [show c :: a = [c] ++ a from rfl, show c :: b = [c] ++ b from rfl, bare_append, bare_append, h]

/-- White space is what leaves nothing. -/
theorem bare_eq_nil_iff {t : Text} : bare t = [] ↔ isBlank t = true := by
  rw [bare, List.filter_eq_nil_iff, isBlank, List.all_eq_true]
  simp

theorem mem_of_mem_bare {c : Char} {t : Text} (h : c ∈ bare t) : c ∈ t :=
  (List.mem_filter.mp h).1

/-! ## Trimming -/

theorem bare_trimStart (t : Text) : bare (trimStart isSpace t) = bare t := by
  induction t with
  | nil => rfl
  | cons c cs ih =>
    cases h : isSpace c with
    | true => simpa [trimStart, h, bare_cons_of_space h] using ih
    | false => simp [trimStart, h]

theorem bare_trimEnd (t : Text) : bare (trimEnd isSpace t) = bare t := by
  induction t with
  | nil => rfl
  | cons c cs ih =>
    rw [trimEnd]
    split
    · rename_i he
      rw [he] at ih
      cases h : isSpace c with
      | true => simpa [bare_cons_of_space h] using ih
      | false => simpa [bare_cons_of_not_space h] using ih
    · cases h : isSpace c with
      | true => rw [bare_cons_of_space h, bare_cons_of_space h, ih]
      | false => rw [bare_cons_of_not_space h, bare_cons_of_not_space h, ih]

/-- Trimming takes away white space only. -/
@[simp] theorem bare_trim (t : Text) : bare (trim t) = bare t := by
  rw [trim, trimBy, bare_trimEnd, bare_trimStart]

theorem mem_of_mem_trimEnd {p : Char → Bool} {c : Char} : ∀ {t : Text}, c ∈ trimEnd p t → c ∈ t
  | [], h => by simp [trimEnd] at h
  | d :: ds, h => by
    rw [trimEnd] at h
    split at h
    · split at h
      · cases h
      · exact List.mem_cons.mpr (Or.inl (List.mem_singleton.mp h))
    · rcases List.mem_cons.mp h with h | h
      · exact List.mem_cons.mpr (Or.inl h)
      · exact List.mem_cons_of_mem _ (mem_of_mem_trimEnd h)

theorem mem_of_mem_trim {c : Char} {t : Text} (h : c ∈ trim t) : c ∈ t :=
  (List.dropWhile_sublist isSpace).subset (mem_of_mem_trimEnd h)

/-! ## Splitting -/

theorem splitOn_ne_nil (sep : Char) (t : Text) : splitOn sep t ≠ [] := by
  induction t with
  | nil => simp [splitOn]
  | cons c cs ih =>
    rw [splitOn]
    split
    · simp
    · split <;> simp

/-- Splitting in front of a character that is no separator. -/
theorem splitOn_cons_of_ne {sep c : Char} {cs w : Text} {ws : List Text} (hc : c ≠ sep) (h : splitOn sep cs = w :: ws) :
    splitOn sep (c :: cs) = (c :: w) :: ws := by
  simp [splitOn, hc, h]

theorem splitOn_cons_self (sep : Char) (cs : Text) : splitOn sep (sep :: cs) = [] :: splitOn sep cs := by
  simp [splitOn]

/-- A text without separators in front of another one is put before its first piece. -/
theorem splitOn_append_of_not_mem {sep : Char} {w : Text} {ws : List Text} : ∀ {a t : Text}, sep ∉ a →
    splitOn sep t = w :: ws → splitOn sep (a ++ t) = (a ++ w) :: ws
  | [], _, _, h => h
  | c :: a, t, ha, h => by
    rw [List.mem_cons, not_or] at ha
    exact splitOn_cons_of_ne (Ne.symm ha.1) (splitOn_append_of_not_mem ha.2 h)

/-- The pieces between separators that are white space hold the text without its white space. -/
theorem bare_flatten_splitOn {sep : Char} (hs : isSpace sep = true) (t : Text) :
    bare (splitOn sep t).flatten = bare t := by
  induction t with
  | nil => rfl
  | cons c cs ih =>
    by_cases hc : c = sep
    · subst hc
      rw [splitOn_cons_self, bare_cons_of_space hs, ← ih]
      rfl
    · obtain ⟨w, ws, hw⟩ := List.exists_cons_of_ne_nil (splitOn_ne_nil sep cs)
      rw [hw] at ih
      rw [splitOn_cons_of_ne hc hw]
      exact bare_cons_congr ih

theorem mem_of_mem_splitOn {sep : Char} {t w : Text} {c : Char} (hw : w ∈ splitOn sep t) (hc : c ∈ w) : c ∈ t := by
  induction t generalizing w with
  | nil =>
    rw [splitOn, List.mem_singleton] at hw
    rw [hw] at hc
    exact hc
  | cons d ds ih =>
    by_cases hd : d = sep
    · rw [hd, splitOn_cons_self] at hw
      rcases List.mem_cons.mp hw with h | h
      · rw [h] at hc
        cases hc
      · exact List.mem_cons_of_mem _ (ih h hc)
    · obtain ⟨v, vs, hv⟩ := List.exists_cons_of_ne_nil (splitOn_ne_nil sep ds)
      rw [splitOn_cons_of_ne hd hv] at hw
      rcases List.mem_cons.mp hw with h | h
      · rw [h] at hc
        rcases List.mem_cons.mp hc with h | h
        · exact List.mem_cons.mpr (Or.inl h)
        · exact List.mem_cons_of_mem _ (ih (hv ▸ List.mem_cons_self) h)
      · exact List.mem_cons_of_mem _ (ih (hv ▸ List.mem_cons_of_mem _ h) hc)

/-! ## Beginnings -/

/-- A beginning can be cut off just if it is there. -/
theorem dropPrefix?_eq_some_iff {p t r : Text} : dropPrefix? p t = some r ↔ t = p ++ r := by
  induction p generalizing t with
  | nil => simp [dropPrefix?]
  | cons a p ih =>
    cases t with
    | nil => simp [dropPrefix?]
    | cons c cs =>
      by_cases h : a = c
      · subst h
        simp [dropPrefix?, ih]
      · simp [dropPrefix?, h, Ne.symm h]

/-! ## Cutting -/

theorem cut?_of_not_mem {sep : Char} : ∀ {t : Text}, sep ∉ t → cut? sep t = none
  | [], _ => rfl
  | c :: t, h => by
    rw [List.mem_cons, not_or] at h
    rw [cut?, if_neg (Ne.symm h.1), cut?_of_not_mem h.2]
    rfl

/-- The first separator is looked for before a text without separators. -/
theorem cut?_append {sep : Char} {w : Text} (hw : sep ∉ w) : ∀ t : Text,
    cut? sep (t ++ w) = (cut? sep t).map fun p => (p.1, p.2 ++ w)
  | [] => cut?_of_not_mem hw
  | c :: t => by
    rw [List.cons_append, cut?, cut?]
    split
    · rfl
    · rw [cut?_append hw t, Option.map_map, Option.map_map]
      rfl

/-- A text without separators in front of one. -/
theorem cut?_append_cons {sep : Char} : ∀ {s : Text} (t : Text), sep ∉ s → cut? sep (s ++ sep :: t) = some (s, t)
  | [], t, _ => by rw [List.nil_append, cut?, if_pos rfl]
  | c :: s, t, h => by
    rw [List.mem_cons, not_or] at h
    rw [List.cons_append, cut?, if_neg (Ne.symm h.1), cut?_append_cons t h.2]
    rfl

/-- What is cut is put together again with the separator. -/
theorem eq_of_cut? {sep : Char} : ∀ {t a b : Text}, cut? sep t = some (a, b) → t = a ++ sep :: b
  | [], _, _, h => by cases h
  | c :: t, a, b, h => by
    rw [cut?] at h
    split at h
    · rename_i hc
      cases h
      rw [hc, List.nil_append]
    · obtain ⟨⟨a', b'⟩, hcut, he⟩ := Option.map_eq_some_iff.mp h
      cases he
      rw [eq_of_cut? hcut, List.cons_append]

/-! ## Replacing -/

/-- Nothing is replaced where the character is not. -/
theorem replaceChar_eq_self {c : Char} {new : Text} : ∀ {t : Text}, c ∉ t → replaceChar c new t = t
  | [], _ => rfl
  | d :: t, h => by
    rw [List.mem_cons, not_or] at h
    rw [replaceChar, List.flatMap_cons, if_neg (Ne.symm h.1), ← replaceChar, replaceChar_eq_self h.2]
    rfl

theorem replaceChar_append_of_not_mem {c : Char} {new w : Text} (hw : c ∉ w) (t : Text) :
    replaceChar c new (w ++ t) = w ++ replaceChar c new t := by
  rw [replaceChar, List.flatMap_append, ← replaceChar, ← replaceChar, replaceChar_eq_self hw]

/-! ## Taking out -/

/-- More steps than characters change nothing. -/
theorem erase_go_of_le (old : Text) : ∀ {m n : Nat} {t : Text}, t.length ≤ m → t.length ≤ n →
    erase.go old m t = erase.go old n t
  | 0, 0, _, _, _ => rfl
  | 0, n + 1, [], _, _ => rfl
  | m + 1, 0, [], _, _ => rfl
  | m + 1, n + 1, [], _, _ => rfl
  | m + 1, n + 1, c :: cs, hm, hn => by
    simp only [List.length_cons, Nat.add_le_add_iff_right] at hm hn
    have hc : erase.go old m cs = erase.go old n cs := erase_go_of_le old hm hn
    rw [erase.go, erase.go]
    split
    · rename_i rest hr
      split
      · rw [hc]
      · rename_i ho
        obtain ⟨o, os, rfl⟩ := List.exists_cons_of_ne_nil (show old ≠ [] by simpa using ho)
        have hlen := congrArg List.length (dropPrefix?_eq_some_iff.mp hr)
        simp only [List.length_cons, List.length_append] at hlen
        exact erase_go_of_le _ (by omega) (by omega)
    · rw [hc]

/-- An occurrence at the beginning is taken out. -/
theorem erase_append_left {old : Text} (ho : old ≠ []) (t : Text) : erase old (old ++ t) = erase old t := by
  obtain ⟨o, os, rfl⟩ := List.exists_cons_of_ne_nil ho
  have hd : dropPrefix? (o :: os) (o :: (os ++ t)) = some t := dropPrefix?_eq_some_iff.mpr rfl
  rw [erase, List.cons_append, List.length_cons, erase.go, hd]
  exact erase_go_of_le _ (by simp) (Nat.le_refl _)

/-- A character that does not begin an occurrence stays. -/
theorem erase_cons_of_ne {o c : Char} {os t : Text} (h : c ≠ o) :
    erase (o :: os) (c :: t) = c :: erase (o :: os) t := by
  rw [erase, List.length_cons, erase.go, show dropPrefix? (o :: os) (c :: t) = none by simp [dropPrefix?, Ne.symm h]]
  rfl

end Excerpt.Text
