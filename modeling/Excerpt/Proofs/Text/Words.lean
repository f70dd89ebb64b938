import Excerpt.Proofs.Text.Lines

/-!
# Words

The words of a text are the pieces between its white space. One character changes only the first piece
(`go_cons_of_space`, `go_cons_of_not_space`), which ends where the white space begins (`go_eq_takeWhile`). White space
at the ends is no part of any word (`words_trim`).

`SameWords` relates texts with the same words of which the first begin alike, so that one more character in front of
both keeps their words the same.
-/

namespace Excerpt.Text

variable {c : Char} {s t w : Text} {ws : List Text}

/-- There is always a first word, which may be empty. -/
theorem go_ne_nil : ∀ t : Text, words.go t ≠ []
  | [] => List.cons_ne_nil _ _
  | c :: cs => by
    rw [words.go]
    split
    · exact List.cons_ne_nil _ _
    · split <;> exact List.cons_ne_nil _ _

/-- White space ends the word in front of it, so that an empty one begins the rest. -/
theorem go_cons_of_space (h : isSpace c = true) (t : Text) : words.go (c :: t) = [] :: words.go t := by
  rw [words.go, if_pos h]

theorem go_cons_of_not_space (h : isSpace c = false) (ht : words.go t = w :: ws) :
    words.go (c :: t) = (c :: w) :: ws := by
  rw [words.go, if_neg (Bool.eq_false_iff.mp h), ht]

/-- The first piece ends where the white space begins. -/
theorem go_eq_takeWhile : ∀ t : Text, ∃ ws, words.go t = (t.takeWhile fun c => !isSpace c) :: ws
  | [] => ⟨[], rfl⟩
  | c :: t => by
    cases hc : isSpace c with
    | true => exact ⟨words.go t, by rw [go_cons_of_space hc, List.takeWhile_cons_of_neg (by simp [hc])]⟩
    | false =>
      obtain ⟨ws, hws⟩ := go_eq_takeWhile t
      exact ⟨ws, by rw [go_cons_of_not_space hc hws, List.takeWhile_cons_of_pos (by simp [hc])]⟩

/-- Empty words do not count. -/
theorem words_cons_of_space (h : isSpace c = true) (t : Text) : words (c :: t) = words t := by
  rw [words, go_cons_of_space h]
  rfl

/-! ## The same words -/

/-- Texts whose words are the same, with the same piece in front of the first white space. -/
def SameWords (s t : Text) : Prop :=
  ∃ w vs ws, words.go s = w :: vs ∧ words.go t = w :: ws ∧
    (vs.filter fun v => !v.isEmpty) = ws.filter fun v => !v.isEmpty

namespace SameWords

theorem refl (t : Text) : SameWords t t := by
  obtain ⟨w, ws, hw⟩ := List.exists_cons_of_ne_nil (go_ne_nil t)
  exact ⟨w, ws, ws, hw, hw, rfl⟩

/-- Texts with the same pieces have the same words. -/
theorem words_eq (h : SameWords s t) : words s = words t := by
  obtain ⟨w, vs, ws, hs, ht, hwords⟩ := h
  rw [words, words, hs, ht, List.filter_cons, List.filter_cons, hwords]

/-- One more character goes to the first pieces of both. -/
theorem cons (h : SameWords s t) (c : Char) : SameWords (c :: s) (c :: t) := by
  cases hc : isSpace c with
  | true => exact ⟨[], _, _, go_cons_of_space hc s, go_cons_of_space hc t, h.words_eq⟩
  | false =>
    obtain ⟨w, vs, ws, hs, ht, hwords⟩ := h
    exact ⟨c :: w, vs, ws, go_cons_of_not_space hc hs, go_cons_of_not_space hc ht, hwords⟩

/-- Behind white space the first words need not begin alike. -/
theorem cons_space (hc : isSpace c = true) (h : words s = words t) : SameWords (c :: s) (c :: t) :=
  ⟨[], _, _, go_cons_of_space hc s, go_cons_of_space hc t, h⟩

end SameWords

theorem words_of_isBlank : ∀ {t : Text}, isBlank t = true → words t = []
  | [], _ => rfl
  | c :: t, h => by
    rw [isBlank, List.all_cons, Bool.and_eq_true] at h
    rw [words_cons_of_space h.1, words_of_isBlank h.2]

/-- White space at the end adds empty words only. -/
theorem sameWords_append_blank {b : Text} (hb : isBlank b = true) : ∀ t : Text, SameWords (t ++ b) t
  | [] => by
    cases b with
    | nil => exact SameWords.refl []
    | cons c b =>
      have hblank := hb
      rw [isBlank, List.all_cons, Bool.and_eq_true] at hb
      exact ⟨[], words.go b, [], go_cons_of_space hb.1 b, rfl, words_of_isBlank hb.2⟩
  | c :: t => (sameWords_append_blank hb t).cons c

theorem words_blank_append : ∀ {a : Text}, isBlank a = true → ∀ t : Text, words (a ++ t) = words t
  | [], _, _ => rfl
  | c :: a, h, t => by
    rw [isBlank, List.all_cons, Bool.and_eq_true] at h
    rw [List.cons_append, words_cons_of_space h.1, words_blank_append h.2]

/-- White space at the ends is no part of any word. -/
theorem words_trim (t : Text) : words (trim t) = words t := by
  obtain ⟨a, b, ha, hb, ht⟩ := exists_trim t
  conv_rhs => rw [ht]
  rw [words_blank_append ha, (sameWords_append_blank hb _).words_eq]

end Excerpt.Text
