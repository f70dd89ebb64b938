import Excerpt.Proofs.Url.Finished

/-!
# What a normal form loses when it is prepared

What preparing a link takes away is white space, points, question marks and hashes (`Sheds`, `sheds_prepared`), and
reading, ending the path and writing add none of them (`weight_finished_le`). So a normal form whose normal form is the
same is left as it is when it is prepared: it is `Untouched` (`untouched_of_weight_le`).
-/

namespace Excerpt.Link

open Url

/-! ## The weight of a text -/

/-- White space, points, question marks and hashes. -/
def isLoose (c : Char) : Bool :=
  Text.isSpace c || c == '.' || c == '?' || c == '#'

/-- The number of characters in a text that preparing a link can take away. -/
def weight (t : Text) : Nat :=
  t.countP isLoose

section Weight

variable {c : Char} {t : Text}

@[simp] theorem weight_nil : weight [] = 0 := rfl

/-- The weight adds up over the parts of a text, so it can be compared part by part. -/
@[simp] theorem weight_append (a b : Text) : weight (a ++ b) = weight a + weight b :=
  List.countP_append

theorem weight_cons_of_not (h : isLoose c = false) (t : Text) : weight (c :: t) = weight t :=
  List.countP_cons_of_neg (by simp [h])

theorem weight_cons_of_loose (h : isLoose c = true) (t : Text) : weight (c :: t) = weight t + 1 :=
  List.countP_cons_of_pos h

@[simp] theorem weight_slash (t : Text) : weight ('/' :: t) = weight t :=
  weight_cons_of_not (by decide) t

/-- White space is all weight. -/
theorem weight_of_isBlank (h : Text.isBlank t = true) : weight t = t.length := by
  rw [weight, List.countP_eq_length]
  intro c hc
  rw [isLoose, List.all_eq_true.mp h c hc]
  rfl

/-- Whatever else is left out of a text, the text becomes no heavier. -/
theorem weight_le_of_sublist {a b : Text} (h : a.Sublist b) : weight a ≤ weight b :=
  h.countP_le

end Weight

/-- A step that leaves a text as it is or makes it lighter. -/
def Sheds (f : Text → Text) : Prop :=
  ∀ t, f t = t ∨ weight (f t) < weight t

section Sheds

variable {f g : Text → Text} {t : Text}

/-- A step that changes nothing takes no weight away. -/
theorem Sheds.weight_le (hf : Sheds f) (t : Text) : weight (f t) ≤ weight t := by
  rcases hf t with h | h
  · rw [h]
  · exact Nat.le_of_lt h

/-- If two steps leave the weight as it is, each leaves the text as it is. -/
theorem Sheds.eq_self (hf : Sheds f) (hg : Sheds g) (h : weight t ≤ weight (g (f t))) : f t = t ∧ g t = t := by
  have hft : f t = t := by
    refine (hf t).resolve_right fun hlt => ?_
    exact absurd (Nat.lt_of_le_of_lt (Nat.le_trans h (hg.weight_le (f t))) hlt) (Nat.lt_irrefl _)
  rw [hft] at h
  exact ⟨hft, (hg t).resolve_right (Nat.not_lt.mpr h)⟩

/-- Of two steps in a row, each leaves the text as it is or takes weight away. -/
theorem Sheds.comp (hg : Sheds g) (hf : Sheds f) : Sheds fun t => g (f t) := by
  intro t
  rcases Nat.lt_or_ge (weight (g (f t))) (weight t) with h | h
  · exact .inr h
  · obtain ⟨hft, hgt⟩ := hf.eq_self hg h
    exact .inl ((congrArg g hft).trans hgt)

/-- What is trimmed away is white space. -/
theorem sheds_trim : Sheds Text.trim := by
  intro t
  obtain ⟨a, b, ha, hb, ht⟩ := Text.exists_trim t
  have hweight := congrArg weight ht
  rw [weight_append, weight_append, weight_of_isBlank ha, weight_of_isBlank hb] at hweight
  by_cases hnone : a.length + b.length = 0
  · rw [Nat.add_eq_zero_iff, List.length_eq_zero_iff, List.length_eq_zero_iff] at hnone
    rw [hnone.1, hnone.2, List.nil_append, List.append_nil] at ht
    exact .inl ht.symm
  · right
    omega

/-- Encoding makes a text lighter by its blanks. -/
theorem weight_encoded (t : Text) : weight (Text.replaceChar ' ' "%20".toList t) + t.count ' ' = weight t := by
  induction t with
  | nil => rfl
  | cons c t ih =>
    rw [Text.replaceChar, List.flatMap_cons, ← Text.replaceChar, weight_append]
    by_cases hc : c = ' '
    · subst hc
      rw [if_pos rfl, List.count_cons_self, weight_cons_of_loose (by decide), ← ih,
        show weight "%20".toList = 0 by decide]
      omega
    · rw [if_neg hc, List.count_cons_of_ne hc, Nat.add_assoc, ih, ← weight_append]
      rfl

/-- A blank weighs something, and what is written for it nothing. -/
theorem sheds_encoded : Sheds (Text.replaceChar ' ' "%20".toList) := by
  intro t
  by_cases h : ' ' ∈ t
  · have hcount := List.count_pos_iff.mpr h
    have hweight := weight_encoded t
    right
    omega
  · exact .inl (Text.replaceChar_eq_self h)

/-- One leading `..` is dropped. -/
def levelled (t : Text) : Text :=
  if Text.startsWith "../".toList t then t.drop 2 else t

/-- The two points go, the slash stays. -/
theorem weight_levelled (h : Text.startsWith "../".toList t = true) : weight (levelled t) + 2 = weight t := by
  obtain ⟨r, rfl⟩ := Text.startsWith_iff.mp h
  rw [levelled, if_pos h]
  change weight ('/' :: r) + 2 = weight ('.' :: '.' :: '/' :: r)
  rw [weight_cons_of_loose (c := '.') (by decide), weight_cons_of_loose (c := '.') (by decide)]

theorem sheds_levelled : Sheds levelled := by
  intro t
  cases h : Text.startsWith "../".toList t with
  | true =>
    have hweight := weight_levelled h
    right
    omega
  | false =>
    rw [levelled, h]
    exact .inl rfl

/-- The sign that begins the parameters is taken away with them. -/
theorem sheds_withoutParameters : Sheds withoutParameters := by
  intro t
  have ht : t = withoutParameters t ++ t.dropWhile fun c => c != '?' && c != '#' := List.takeWhile_append_dropWhile.symm
  cases hrest : t.dropWhile fun c => c != '?' && c != '#' with
  | nil =>
    rw [hrest, List.append_nil] at ht
    exact .inl ht.symm
  | cons c r =>
    have hend : (c != '?' && c != '#') = false := by
      refine Text.not_of_head?_dropWhile (p := fun c => c != '?' && c != '#') (t := t) ?_
      rw [hrest]
      rfl
    have hloose : isLoose c = true := by
      have hc : c = '?' ∨ c = '#' := by simpa [or_iff_not_imp_left] using hend
      rcases hc with rfl | rfl <;> decide
    rw [hrest] at ht
    have hweight := congrArg weight ht
    rw [weight_append, weight_cons_of_loose hloose] at hweight
    right
    omega

theorem tidy_eq (t : Text) : tidy t = levelled (Text.replaceChar ' ' "%20".toList (Text.trim t)) := rfl

theorem sheds_tidy : Sheds tidy :=
  sheds_levelled.comp (sheds_encoded.comp sheds_trim)

/-- Each step of preparing a link sheds, and so does the whole. -/
theorem sheds_prepared (removeParameters : Bool) : Sheds (prepared removeParameters) := by
  cases removeParameters with
  | true => exact sheds_withoutParameters.comp sheds_tidy
  | false => exact sheds_tidy

end Sheds

/-- Preparing takes nothing away from a link: there is no white space around it and no blank in it, it does not begin
with `../`, and it has no query and no fragment if they are to be removed. -/
structure Untouched (removeParameters : Bool) (t : Text) : Prop where
  trimmed : Text.trim t = t
  encoded : ' ' ∉ t
  level : Text.startsWith "../".toList t = false
  kept : removeParameters = true → ∀ c ∈ t, c ≠ '?' ∧ c ≠ '#'

section Untouched

variable {removeParameters : Bool} {t : Text}

/-- No step of preparing finds anything to do. -/
theorem Untouched.prepared_eq (h : Untouched removeParameters t) : prepared removeParameters t = t := by
  have htidy : tidy t = t := by
    rw [tidy_eq, h.trimmed, Text.replaceChar_eq_self h.encoded, levelled, h.level]
    rfl
  rw [prepared, htidy]
  split
  · rename_i hremove
    rw [withoutParameters, List.takeWhile_eq_self_iff]
    intro c hc
    simpa using h.kept hremove c hc
  · rfl

/-- **A link that gets no lighter when it is prepared is left as it is.** -/
theorem untouched_of_weight_le (h : weight t ≤ weight (prepared removeParameters t)) :
    Untouched removeParameters t := by
  have htidy : weight t ≤ weight (tidy t) := by
    refine Nat.le_trans h ?_
    cases removeParameters with
    | true => exact sheds_withoutParameters.weight_le (tidy t)
    | false => exact Nat.le_refl _
  obtain ⟨htrim, hrest⟩ := sheds_trim.eq_self (sheds_levelled.comp sheds_encoded) htidy
  have hlevel : weight t ≤ weight (levelled (Text.replaceChar ' ' "%20".toList t)) := by rw [hrest]
  obtain ⟨hencoded, hlevelled⟩ := sheds_encoded.eq_self sheds_levelled hlevel
  refine ⟨htrim, ?_, ?_, ?_⟩
  · have hcount := weight_encoded t
    rw [hencoded, Nat.add_eq_left, List.count_eq_zero] at hcount
    exact hcount
  · rw [← Bool.not_eq_true]
    intro hstarts
    have hweight := weight_levelled hstarts
    rw [hlevelled] at hweight
    omega
  · rintro rfl c hc
    have hsame : prepared true t = t := (sheds_prepared true t).resolve_right (Nat.not_lt.mpr h)
    rw [← hsame] at hc
    simpa using List.mem_takeWhile_imp hc

end Untouched

/-! ## The weight of what is written -/

section Written

variable {scheme netloc w path part s : Text}

/-- A slash in front of a way weighs nothing. -/
theorem weight_slashed (w : Text) : weight (slashed w) = weight w := by
  rcases slashed_cases w with h | ⟨c, r, -, -, h⟩
  · rw [h]
  · rw [h, weight_slash]

/-- Neither do the slashes in front of a host. -/
theorem weight_renderPlace (scheme netloc w : Text) :
    weight (renderPlace scheme netloc w) = weight netloc + weight w := by
  by_cases h : WritesHost scheme netloc w
  · rw [renderPlace_of_host h, weight_slash, weight_slash, weight_append, weight_slashed]
  · have hnetloc : netloc = [] := by
      by_contra hne
      exact h (.inl hne)
    rw [renderPlace_of_no_host h, hnetloc, weight_nil, Nat.zero_add]

/-- Slashes at the end of a path come and go, points do not. -/
theorem weight_ended_le (trailingSlash : Bool) (path : Text) : weight (ended trailingSlash path) ≤ weight path := by
  have hle := weight_le_of_sublist (ended_sublist trailingSlash path)
  rwa [weight_append, weight_slash, weight_nil, Nat.add_zero] at hle

theorem isLoose_toLower : ∀ c, isSchemeChar c = true → isLoose c.toLower = true → isLoose c = true :=
  forall_schemeChar (by decide)

/-- The scheme is read in lower case; the characters of a scheme that weigh something are points, which have no other
case. -/
theorem weight_toLower_le (h : ∀ c ∈ s, isSchemeChar c = true) : weight (s.map Char.toLower) ≤ weight s := by
  rw [weight, weight, List.countP_map]
  exact List.countP_mono_left fun c hc => isLoose_toLower c (h c hc)

/-- **Reading a text, ending its path and writing it again makes it no heavier.** -/
theorem weight_finished_le {t : Text} {u : Url} (h : parse? t = some u) (trailingSlash : Bool) :
    weight (finished trailingSlash u).render ≤ weight t := by
  obtain ⟨-, front, opening, semi, quest, hash, hpieces⟩ := exists_pieces h
  have hfront : weight (if u.scheme.isEmpty then [] else u.scheme ++ [':']) ≤ weight front := by
    rcases hpieces.front_eq with ⟨rfl, hscheme⟩ | ⟨s, hs, rfl, hscheme⟩
    · rw [hscheme]
      exact Nat.le_refl _
    · have hlower := weight_toLower_le hs.2
      rw [hscheme]
      split
      · exact Nat.zero_le _
      · rw [weight_append, weight_append]
        exact Nat.add_le_add_right hlower _
  have hopening : weight u.netloc ≤ weight opening := by
    rcases hpieces.opening_eq with rfl | ⟨rfl, hnetloc⟩
    · rw [weight_slash, weight_slash]
    · rw [hnetloc]
  have hpath := weight_ended_le trailingSlash u.path
  have hsemi := weight_le_of_sublist hpieces.semi_eq.delimited_sublist
  have hquest := weight_le_of_sublist hpieces.quest_eq.delimited_sublist
  have hhash := weight_le_of_sublist hpieces.hash_eq.delimited_sublist
  calc weight (finished trailingSlash u).render
      = weight (if u.scheme.isEmpty then [] else u.scheme ++ [':']) + (weight u.netloc +
          (weight (ended trailingSlash u.path) + weight (delimited ';' u.params)) + weight (delimited '?' u.query) +
            weight (delimited '#' u.fragment)) := by
        rw [render_eq_body, body, place, way, weight_append, weight_append, weight_append, weight_renderPlace,
          weight_append]
        rfl
    _ ≤ weight (front ++ (opening ++ (u.path ++ (semi ++ (quest ++ hash))))) := by
        simp only [weight_append]
        omega
    _ = weight (clean t) := by rw [hpieces.eq]
    _ ≤ weight t := weight_le_of_sublist (List.filter_sublist.trans (List.dropWhile_sublist _))

end Written

end Excerpt.Link
