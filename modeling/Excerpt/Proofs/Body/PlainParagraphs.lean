import Excerpt.Body.Cleanup
import Excerpt.Proofs.Text.Lines
import Mathlib.Data.List.SplitBy

/-!
# The paragraphs of a plain text

The paragraphs of a plain text are its stretches of lines between blank ones (`stretches`), joined and trimmed:
`paragraphs_eq`. The text is cut at runs of white space with two line breaks or more; between two such runs the text is
`Calm`, and in a calm text no line but the first and the last one can be blank (`not_blank_of_calm`).

Everything about stretches follows from one equation: they can be taken apart at a blank line
(`stretchesOf_append_blank`).
-/

namespace Excerpt.Body

open Text (isBlank isBlank_append isSpace splitOn join trim)

/-! ## Stretches of lines -/

/-- The stretches of lines between blank ones. -/
def stretchesOf (lines : List Text) : List (List Text) :=
  (lines.splitOnP isBlank).filter (!·.isEmpty)

/-- The stretches of lines of a text between blank ones. -/
def stretches (t : Text) : List (List Text) :=
  stretchesOf (splitOn '\n' t)

theorem stretchesOf_append_blank {line : Text} (h : isBlank line = true) (xs ys : List Text) :
    stretchesOf (xs ++ line :: ys) = stretchesOf xs ++ stretchesOf ys := by
  rw [stretchesOf, List.splitOnP_append_cons xs ys h, List.filter_append]
  rfl

theorem stretchesOf_blank_append : ∀ {xs : List Text}, (∀ line ∈ xs, isBlank line = true) → ∀ ys : List Text,
    stretchesOf (xs ++ ys) = stretchesOf ys
  | [], _, _ => rfl
  | line :: xs, h, ys => by
    rw [List.forall_mem_cons] at h
    have hcons := stretchesOf_append_blank h.1 [] (xs ++ ys)
    rw [List.nil_append] at hcons
    rw [List.cons_append, hcons, stretchesOf_blank_append h.2 ys]
    rfl

theorem stretchesOf_append_blanks {ys : List Text} (h : ∀ line ∈ ys, isBlank line = true) (xs : List Text) :
    stretchesOf (xs ++ ys) = stretchesOf xs := by
  cases ys with
  | nil => rw [List.append_nil]
  | cons line ys =>
    rw [List.forall_mem_cons] at h
    have hnil := stretchesOf_blank_append h.2 []
    rw [List.append_nil] at hnil
    rw [stretchesOf_append_blank h.1, hnil]
    exact List.append_nil _

theorem stretchesOf_eq_singleton {xs : List Text} (hne : xs ≠ []) (h : ∀ line ∈ xs, isBlank line = false) :
    stretchesOf xs = [xs] := by
  rw [stretchesOf, List.splitOnP_eq_singleton h, List.filter_cons_of_pos (by simpa using hne), List.filter_nil]

theorem of_mem_splitOnP {α : Type} {p : α → Bool} {xs g : List α} (hg : g ∈ xs.splitOnP p) {x : α} (hx : x ∈ g) :
    x ∈ xs ∧ p x = false := by
  induction xs generalizing g with
  | nil =>
    rw [List.splitOnP_nil, List.mem_singleton] at hg
    rw [hg] at hx
    cases hx
  | cons y ys ih =>
    obtain ⟨h, hs, hys⟩ := List.exists_cons_of_ne_nil (List.splitOnP_ne_nil p ys)
    rw [List.splitOnP_cons_eq_if_modifyHead] at hg
    split at hg
    · rcases List.mem_cons.mp hg with rfl | hg
      · cases hx
      · exact (ih hg hx).imp_left (List.mem_cons_of_mem _)
    · rename_i hy
      rw [hys, List.modifyHead_cons] at hg
      rcases List.mem_cons.mp hg with rfl | hg
      · rcases List.mem_cons.mp hx with rfl | hx
        · exact ⟨List.mem_cons_self, Bool.not_eq_true _ ▸ hy⟩
        · exact (ih (hys ▸ List.mem_cons_self) hx).imp_left (List.mem_cons_of_mem _)
      · exact (ih (hys ▸ List.mem_cons_of_mem _ hg) hx).imp_left (List.mem_cons_of_mem _)

/-- A stretch has lines, and they are lines of the text that are not blank. -/
theorem of_mem_stretches {t : Text} {lines : List Text} (h : lines ∈ stretches t) :
    lines ≠ [] ∧ ∀ line ∈ lines, line ∈ splitOn '\n' t ∧ isBlank line = false := by
  obtain ⟨hmem, hne⟩ := List.mem_filter.mp h
  exact ⟨by simpa using hne, fun line hline => of_mem_splitOnP hmem hline⟩

/-! ## Stretches around a text -/

/-- The stretches of a text, joined and trimmed. -/
def joined (t : Text) : List Text :=
  (stretches t).map fun lines => trim (join ['\n'] lines)

theorem joined_of_isBlank {t : Text} (h : isBlank t = true) : joined t = [] := by
  have hs : stretchesOf ([] ++ splitOn '\n' t) = stretchesOf [] :=
    stretchesOf_append_blanks (fun _ hl => Text.isBlank_of_mem_splitOn h hl) []
  rw [joined, stretches, ← List.nil_append (splitOn '\n' t), hs]
  rfl

/-- A trimmed text without blank lines is one paragraph, whatever white space is around it. -/
theorem joined_within {a b t : Text} (ha : isBlank a = true) (hb : isBlank b = true) (ht : trim t = t)
    (hlines : ∀ line ∈ splitOn '\n' t, isBlank line = false) : joined (a ++ (t ++ b)) = [t] := by
  obtain ⟨ws, w, hw⟩ := List.eq_nil_or_concat' (splitOn '\n' t) |>.resolve_left (Text.splitOn_ne_nil _ t)
  obtain ⟨v, vs, hv, hvs, hend⟩ := Text.exists_splitOn_append_blank hb hw
  obtain ⟨z, zs, hz⟩ :=
    List.exists_cons_of_ne_nil (List.append_ne_nil_of_right_ne_nil ws (List.cons_ne_nil (w ++ v) []))
  rw [List.append_cons, hz, List.cons_append] at hend
  obtain ⟨us, u, hus, hu, hall⟩ := Text.exists_splitOn_blank_append ha hend
  -- The lines with text are those of `t`, the first and the last one with white space.
  have hlast : ∀ line ∈ z :: zs, isBlank line = false := by
    rw [hw, List.forall_mem_append, List.forall_mem_singleton] at hlines
    rw [← hz, List.forall_mem_append, List.forall_mem_singleton, isBlank_append, hlines.2]
    exact ⟨hlines.1, rfl⟩
  have hfull : ∀ line ∈ (u ++ z) :: zs, isBlank line = false := by
    rw [List.forall_mem_cons] at hlast
    rw [List.forall_mem_cons, isBlank_append, hlast.1, Bool.and_false]
    exact ⟨rfl, hlast.2⟩
  have hjoin : join ['\n'] ((u ++ z) :: zs) = u ++ (t ++ v) := by
    rw [Text.join_append_cons, ← hz, Text.join_concat_append, ← hw, Text.join_splitOn]
  rw [joined, stretches, hall, stretchesOf_blank_append hus, ← List.cons_append, stretchesOf_append_blanks hvs,
    stretchesOf_eq_singleton (List.cons_ne_nil _ _) hfull, List.map_singleton, hjoin, Text.trim_blank_append hu,
    Text.trim_append_blank hv, ht]

/-- A run of white space with two line breaks parts the paragraphs. -/
theorem joined_append {s : Text} (hs : isBlank s = true) (hn : 2 ≤ s.count '\n') (q r : Text) :
    ∃ s₀ s₂, isBlank s₀ = true ∧ isBlank s₂ = true ∧ joined (q ++ (s ++ r)) = joined (q ++ s₀) ++ joined (s₂ ++ r) := by
  obtain ⟨s₀, s', rfl, hs₀⟩ :=
    List.eq_append_cons_of_mem (List.count_pos_iff.mp (Nat.lt_of_lt_of_le Nat.zero_lt_two hn))
  rw [List.count_append, List.count_eq_zero_of_not_mem hs₀, List.count_cons_self] at hn
  obtain ⟨s₁, s₂, rfl⟩ := List.append_of_mem (List.count_pos_iff.mp (show 0 < s'.count '\n' by omega))
  have hall := List.all_eq_true.mp hs
  simp only [List.forall_mem_append, List.forall_mem_cons] at hall
  obtain ⟨hb₀, -, hb₁, -, hb₂⟩ := hall
  refine ⟨s₀, s₂, List.all_eq_true.mpr hb₀, List.all_eq_true.mpr hb₂, ?_⟩
  obtain ⟨l, ls, hl⟩ := List.exists_cons_of_ne_nil (Text.splitOn_ne_nil '\n' s₁)
  have hblank : ∀ line ∈ l :: ls, isBlank line = true := fun line hline =>
    Text.isBlank_of_mem_splitOn (List.all_eq_true.mpr hb₁) (hl ▸ hline)
  rw [List.forall_mem_cons] at hblank
  have hlines : splitOn '\n' (q ++ (s₀ ++ '\n' :: (s₁ ++ '\n' :: s₂) ++ r)) =
      splitOn '\n' (q ++ s₀) ++ l :: (ls ++ splitOn '\n' (s₂ ++ r)) := by
    have hparts : q ++ (s₀ ++ '\n' :: (s₁ ++ '\n' :: s₂) ++ r) = (q ++ s₀) ++ '\n' :: (s₁ ++ '\n' :: (s₂ ++ r)) := by
      simp
    rw [hparts, Text.splitOn_append_cons, Text.splitOn_append_cons, hl, List.cons_append]
  rw [joined, stretches, hlines, stretchesOf_append_blank hblank.1, stretchesOf_blank_append hblank.2, List.map_append]
  rfl

/-! ## Calm texts -/

/-- A text without two line breaks in one run of white space. -/
def Calm (t : Text) : Prop :=
  ∀ s, s <:+: t → isBlank s = true → s.count '\n' ≤ 1

theorem trim_within (t : Text) : trim t <:+: t := by
  obtain ⟨a, b, -, -, ht⟩ := Text.exists_trim t
  exact ⟨a, b, by rw [List.append_assoc, ← ht]⟩

/-- White space does not end a trimmed text. -/
theorem not_blank_suffix_trim {t u v : Text} (h : trim t = u ++ v) (hv : isBlank v = true) : v = [] := by
  have hend : Text.trimEnd isSpace (trim t) = trim t := by rw [trim, Text.trimBy, Text.trimEnd_trimEnd]
  rw [h, Text.trimEnd_append_of_all hv] at hend
  obtain ⟨b, -, hu⟩ := Text.exists_trimEnd isSpace u
  have hlen := congrArg List.length hend
  have hlen' := congrArg List.length hu
  rw [List.length_append] at hlen hlen'
  exact List.eq_nil_of_length_eq_zero (by omega)

/-- White space does not begin a trimmed text. -/
theorem not_blank_prefix_trim {t u v : Text} (h : trim t = u ++ v) (hu : isBlank u = true) : u = [] := by
  cases u with
  | nil => rfl
  | cons c u =>
    have hc : isSpace c = false := Text.isSpace_of_head?_trim (t := t) (by rw [h]; rfl)
    rw [isBlank, List.all_cons, hc] at hu
    cases hu

/-- No line of a calm text is blank once the text is trimmed. -/
theorem not_blank_of_calm {t : Text} (ht : Calm t) (hb : isBlank t = false) :
    ∀ line ∈ splitOn '\n' (trim t), isBlank line = false := by
  intro line hline
  refine Bool.eq_false_iff.mpr fun hblank => ?_
  obtain ⟨xs, ys, hlines⟩ := List.append_of_mem hline
  have hjoin := Text.join_splitOn '\n' (trim t)
  rw [hlines] at hjoin
  have hnl : isBlank ['\n'] = true := rfl
  by_cases hxs : xs = []
  · -- The first line begins with no white space.
    subst hxs
    by_cases hys : ys = []
    · subst hys
      have hnil := not_blank_prefix_trim (hjoin.symm.trans (List.append_nil line).symm) hblank
      rw [hnil] at hjoin
      rw [Text.trim_eq_nil_iff.mp hjoin.symm] at hb
      cases hb
    · rw [List.nil_append, show line :: ys = [line] ++ ys from rfl,
        Text.join_append ['\n'] hys (List.cons_ne_nil line [])] at hjoin
      cases (List.append_eq_nil_iff.mp
        (not_blank_prefix_trim hjoin.symm (by rw [isBlank_append, hnl, Bool.and_true]; exact hblank))).2
  · rw [Text.join_append ['\n'] (List.cons_ne_nil line ys) hxs] at hjoin
    by_cases hys : ys = []
    · -- The last line ends with no white space.
      subst hys
      rw [List.append_assoc] at hjoin
      cases (List.append_eq_nil_iff.mp
        (not_blank_suffix_trim hjoin.symm (by rw [isBlank_append, hnl, Bool.true_and]; exact hblank))).1
    · -- Any other line has a line break in front and one behind.
      rw [show line :: ys = [line] ++ ys from rfl, Text.join_append ['\n'] hys (List.cons_ne_nil line []),
        List.append_assoc] at hjoin
      have hwithin : ['\n'] ++ (line ++ ['\n']) <:+: trim t :=
        ⟨join ['\n'] xs, join ['\n'] ys, by rw [← hjoin]; simp [join]⟩
      have hcount := ht _ (hwithin.trans (trim_within t)) (by rw [isBlank_append, isBlank_append, hnl, hblank]; rfl)
      simp at hcount

/-! ## Runs -/

/-- The runs of white space and of other characters in a text. -/
def runs (t : Text) : List Text :=
  t.splitBy fun a b => isSpace a == isSpace b

/-- A list of runs: none is empty, the characters of a run are all white space or none of them is, and two runs next to
each other are not of one class. -/
structure AreRuns (rs : List Text) : Prop where
  nonempty : ∀ r ∈ rs, r ≠ []
  uniform : ∀ r ∈ rs, (∀ c ∈ r, isSpace c = true) ∨ ∀ c ∈ r, isSpace c = false
  turns : rs.IsChain fun a b => ∀ c ∈ a, ∀ d ∈ b, isSpace c ≠ isSpace d

theorem uniform_of_isChain {r : Text} (h : r.IsChain fun a b => (isSpace a == isSpace b) = true) :
    (∀ c ∈ r, isSpace c = true) ∨ ∀ c ∈ r, isSpace c = false := by
  induction r with
  | nil => exact .inl (by simp)
  | cons c cs ih =>
    cases cs with
    | nil => simp
    | cons d ds =>
      rw [List.isChain_cons_cons, beq_iff_eq] at h
      have hd := ih h.2
      simp only [List.forall_mem_cons] at hd ⊢
      rw [h.1]
      exact hd.imp (fun hd => ⟨hd.1, hd⟩) fun hd => ⟨hd.1, hd⟩

theorem areRuns_runs (t : Text) : AreRuns (runs t) := by
  have huniform : ∀ r ∈ runs t, (∀ c ∈ r, isSpace c = true) ∨ ∀ c ∈ r, isSpace c = false :=
    fun r hr => uniform_of_isChain (List.isChain_of_mem_splitBy hr)
  refine ⟨fun r hr => List.ne_nil_of_mem_splitBy hr, huniform, ?_⟩
  refine (List.isChain_getLast_head_splitBy _ t).imp_of_mem_imp fun r s hr hs hturn c hc d hd => ?_
  obtain ⟨hrne, hsne, hturn⟩ := hturn
  have hsame : ∀ {r : Text}, r ∈ runs t → ∀ {c d}, c ∈ r → d ∈ r → isSpace c = isSpace d := by
    intro r hr c d hc hd
    rcases huniform r hr with h | h <;> rw [h c hc, h d hd]
  rw [hsame hr hc (List.getLast_mem hrne), hsame hs hd (List.head_mem hsne)]
  simpa using hturn

theorem joinRuns_eq (rs : List Text) : joinRuns rs = (rs.splitOnP partsParagraphs).map List.flatten := by
  induction rs with
  | nil => rw [joinRuns, List.splitOnP_nil]; rfl
  | cons r rs ih =>
    rw [joinRuns, List.splitOnP_cons_eq_if_modifyHead, ih]
    obtain ⟨g, gs, hg⟩ := List.exists_cons_of_ne_nil (List.splitOnP_ne_nil partsParagraphs rs)
    split
    · rfl
    · rw [hg]
      rfl

theorem AreRuns.of_append {xs ys : List Text} (h : AreRuns (xs ++ ys)) : AreRuns xs ∧ AreRuns ys := by
  have hturns := List.isChain_append.mp h.turns
  have hnonempty := List.forall_mem_append.mp h.nonempty
  have huniform := List.forall_mem_append.mp h.uniform
  exact ⟨⟨hnonempty.1, huniform.1, hturns.1⟩, ⟨hnonempty.2, huniform.2, hturns.2.1⟩⟩

theorem AreRuns.of_cons {r : Text} {rs : List Text} (h : AreRuns (r :: rs)) : AreRuns rs :=
  have happend : AreRuns ([r] ++ rs) := h
  happend.of_append.2

theorem isBlank_of_partsParagraphs {r : Text} (hr : (∀ c ∈ r, isSpace c = true) ∨ ∀ c ∈ r, isSpace c = false)
    (hparts : partsParagraphs r = true) : isBlank r = true ∧ 2 ≤ r.count '\n' := by
  rw [partsParagraphs, Bool.and_eq_true, decide_eq_true_eq] at hparts
  refine ⟨List.all_eq_true.mpr (hr.resolve_right fun hnot => ?_), hparts.2⟩
  cases r with
  | nil => cases hparts.1
  | cons c cs =>
    have hc : isSpace c = true := hparts.1
    rw [hnot c List.mem_cons_self] at hc
    cases hc

/-- White space within a run that does not part paragraphs has one line break at most. -/
theorem count_of_within {r s : Text} (hr : (∀ c ∈ r, isSpace c = true) ∨ ∀ c ∈ r, isSpace c = false)
    (hparts : partsParagraphs r = false) (hs : s <:+: r) (hblank : isBlank s = true) : s.count '\n' ≤ 1 := by
  cases s with
  | nil => exact Nat.zero_le 1
  | cons d ds =>
    have hd : isSpace d = true := List.all_eq_true.mp hblank d List.mem_cons_self
    rcases hr with hr | hr
    · cases r with
      | nil => cases List.infix_nil.mp hs
      | cons c cs =>
        have hc : isSpace c = true := hr c List.mem_cons_self
        have hcount : ¬ 2 ≤ (c :: cs).count '\n' := by simpa [partsParagraphs, hc] using hparts
        have hle := hs.count_le '\n'
        omega
    · rw [hr d (hs.subset List.mem_cons_self)] at hd
      cases hd

/-- What begins the text behind a run is not of the class of the run. -/
theorem AreRuns.turn_of_flatten {r : Text} {rs : List Text} (h : AreRuns (r :: rs)) {d : Char} {v : Text}
    (hv : d :: v <+: rs.flatten) : ∀ c ∈ r, isSpace c ≠ isSpace d := by
  cases rs with
  | nil => cases List.prefix_nil.mp hv
  | cons r' rs =>
    obtain ⟨e, r', rfl⟩ := List.exists_cons_of_ne_nil (h.of_cons.nonempty r' List.mem_cons_self)
    rw [List.flatten_cons, List.cons_append, List.cons_prefix_cons] at hv
    intro c hc
    exact (List.isChain_cons_cons.mp h.turns).1 c hc d (hv.1 ▸ List.mem_cons_self)

theorem calm_flatten : ∀ {rs : List Text}, AreRuns rs → (∀ r ∈ rs, partsParagraphs r = false) → Calm rs.flatten
  | [], _, _ => fun s hs _ => by
    rw [List.flatten_nil, List.infix_nil] at hs
    rw [hs]
    exact Nat.zero_le 1
  | r :: rs, h, hnot => by
    have hrest : AreRuns rs := h.of_cons
    rw [List.forall_mem_cons] at hnot
    have hr := h.uniform r List.mem_cons_self
    intro s hs hblank
    rw [List.flatten_cons, List.infix_append_iff] at hs
    rcases hs with hs | hs | ⟨u, v, rfl, hu, hv⟩
    · exact count_of_within hr hnot.1 hs hblank
    · exact calm_flatten hrest hnot.2 s hs hblank
    · cases v with
      | nil =>
        rw [List.append_nil] at hblank ⊢
        exact count_of_within hr hnot.1 hu.isInfix hblank
      | cons d v =>
        -- White space goes on into the next run, so there is none in this one.
        rw [isBlank_append, Bool.and_eq_true] at hblank
        have hd : isSpace d = true := List.all_eq_true.mp hblank.2 d List.mem_cons_self
        have hnil : u = [] := by
          cases u with
          | nil => rfl
          | cons c u =>
            have hc : isSpace c = true := List.all_eq_true.mp hblank.1 c List.mem_cons_self
            exact absurd (hc.trans hd.symm) (h.turn_of_flatten hv c (hu.subset List.mem_cons_self))
        rw [hnil]
        exact calm_flatten hrest hnot.2 _ hv.isInfix hblank.2

/-- The paragraphs of runs, whatever white space is around them. -/
theorem joined_flatten (rs : List Text) (h : AreRuns rs) {a b : Text} (ha : isBlank a = true) (hb : isBlank b = true) :
    joined (a ++ (rs.flatten ++ b)) = ((joinRuns rs).map trim).filter (!·.isEmpty) := by
  rw [joinRuns_eq]
  by_cases hnot : ∀ r ∈ rs, partsParagraphs r = false
  · rw [List.splitOnP_eq_singleton hnot, List.map_singleton, List.map_singleton]
    cases hblank : isBlank rs.flatten with
    | true =>
      rw [joined_of_isBlank (by rw [isBlank_append, isBlank_append, ha, hblank, hb]; rfl),
        Text.trim_eq_nil_iff.mpr hblank]
      rfl
    | false =>
      obtain ⟨u, v, hu, hv, ht⟩ := Text.exists_trim rs.flatten
      have hne : trim rs.flatten ≠ [] := fun he => by
        rw [Text.trim_eq_nil_iff.mp he] at hblank
        cases hblank
      have hall : a ++ (rs.flatten ++ b) = (a ++ u) ++ (trim rs.flatten ++ (v ++ b)) := by
        rw [List.append_assoc, ← List.append_assoc (trim _), ← List.append_assoc u, ← ht]
      rw [hall, joined_within (by rw [isBlank_append, ha, hu]; rfl) (by rw [isBlank_append, hv, hb]; rfl)
        (Text.trim_trim _) (not_blank_of_calm (calm_flatten h hnot) hblank),
        List.filter_cons_of_pos (by simpa using hne), List.filter_nil]
  · obtain ⟨s, hs, hparts⟩ : ∃ r ∈ rs, partsParagraphs r = true := by simpa using hnot
    obtain ⟨xs, ys, hrs⟩ := List.append_of_mem hs
    have hxlen : xs.length < rs.length := by rw [hrs, List.length_append, List.length_cons]; omega
    have hylen : ys.length < rs.length := by rw [hrs, List.length_append, List.length_cons]; omega
    obtain ⟨hblank, hcount⟩ := isBlank_of_partsParagraphs (h.uniform s hs) hparts
    rw [hrs] at h ⊢
    obtain ⟨hxs, hys⟩ := h.of_append
    have hys := hys.of_cons
    obtain ⟨s₀, s₂, hs₀, hs₂, hcut⟩ := joined_append hblank hcount (a ++ xs.flatten) (ys.flatten ++ b)
    have hall : a ++ ((xs ++ s :: ys).flatten ++ b) = a ++ xs.flatten ++ (s ++ (ys.flatten ++ b)) := by simp
    rw [hall, hcut, List.append_assoc, joined_flatten xs hxs ha hs₀, joined_flatten ys hys hs₂ hb,
      List.splitOnP_append_cons xs ys hparts, List.map_append, List.map_append, List.filter_append, joinRuns_eq,
      joinRuns_eq]
termination_by rs.length

/-- **The paragraphs of a plain text are its stretches of lines between blank ones.** -/
theorem paragraphs_eq (t : Text) : paragraphs t = (stretches t).map fun lines => trim (join ['\n'] lines) := by
  have h := joined_flatten (runs t) (areRuns_runs t) (a := []) (b := []) rfl rfl
  rw [List.nil_append, List.append_nil, runs, List.flatten_splitBy] at h
  exact h.symm

end Excerpt.Body
