import Excerpt.Proofs.Text.Bare
import Excerpt.Proofs.Text.Trim
import Mathlib.Data.List.Chain

/-!
# Pieces of a text

Splitting at a separator and joining are inverse to each other (`splitOn_join`, `join_splitOn`). The pieces of two texts
one after the other are their pieces, the last one and the first one run together (`splitOn_append`).

So the lines of a trimmed text are lines of the text, the first and the last one trimmed (`exists_line_of_trim`), and a
relation between neighbouring lines outlives trimming if it does not look at the ends of lines (`isChain_splitOn_trim`).
-/

namespace Excerpt.Text

variable {sep : Char}

/-! ## Splitting and joining -/

/-- Parts and joined texts are those of lists, whose lemmas apply. -/
theorem splitOn_eq (sep : Char) (t : Text) : splitOn sep t = List.splitOn sep t := by
  rw [List.splitOn_eq_splitOnP]
  induction t with
  | nil => rw [List.splitOnP_nil, splitOn]
  | cons c cs ih =>
    rw [List.splitOnP_cons_eq_if_modifyHead, ← ih]
    obtain ⟨w, ws, hw⟩ := List.exists_cons_of_ne_nil (splitOn_ne_nil sep cs)
    by_cases hc : c = sep
    · subst hc
      rw [splitOn_cons_self, beq_self_eq_true, if_pos rfl]
    · rw [splitOn_cons_of_ne hc hw, if_neg (by simpa using hc), hw, List.modifyHead_cons]

theorem join_eq (sep : Text) : ∀ ts : List Text, join sep ts = sep.intercalate ts
  | [] => by rw [join, List.intercalate_nil]
  | [t] => by rw [join, List.intercalate_singleton]
  | t :: u :: ts => by rw [join, join_eq sep (u :: ts), List.intercalate_cons_cons]; simp

theorem join_cons_cons (sep t u : Text) (ts : List Text) :
    join sep (t :: u :: ts) = t ++ sep ++ join sep (u :: ts) := rfl

theorem join_append (sep : Text) {us : List Text} (hus : us ≠ []) : ∀ {ts : List Text}, ts ≠ [] →
    join sep (ts ++ us) = join sep ts ++ sep ++ join sep us
  | [t], _ => by
    obtain ⟨u, us, rfl⟩ := List.exists_cons_of_ne_nil hus
    exact join_cons_cons sep t u us
  | t :: u :: ts, _ => by
    rw [List.cons_append, List.cons_append, join_cons_cons, ← List.cons_append,
      join_append sep hus (List.cons_ne_nil u ts), join_cons_cons]
    simp

/-- What is put in front of the first part stands in front of the whole. -/
theorem join_append_cons (sep u t : Text) (ts : List Text) : join sep ((u ++ t) :: ts) = u ++ join sep (t :: ts) := by
  cases ts with
  | nil => rfl
  | cons s ts => rw [join_cons_cons, join_cons_cons, List.append_assoc, List.append_assoc, List.append_assoc]

theorem join_concat_append (sep t u : Text) : ∀ ts : List Text, join sep (ts ++ [t ++ u]) = join sep (ts ++ [t]) ++ u
  | [] => rfl
  | s :: ts => by
    have hne : ∀ v : Text, ts ++ [v] ≠ [] := fun v => List.append_ne_nil_of_right_ne_nil ts (List.cons_ne_nil v [])
    have hcons : ∀ v : Text, join sep (s :: (ts ++ [v])) = s ++ sep ++ join sep (ts ++ [v]) := fun v =>
      join_append sep (hne v) (List.cons_ne_nil s [])
    rw [List.cons_append, List.cons_append, hcons, hcons, join_concat_append sep t u ts, List.append_assoc _ _ u]

theorem mem_of_mem_join {sep : Text} {c : Char} : ∀ {ts : List Text}, c ∈ join sep ts → c ∈ sep ∨ ∃ t ∈ ts, c ∈ t
  | [t], h => .inr ⟨t, List.mem_singleton.mpr rfl, h⟩
  | t :: u :: ts, h => by
    rw [join_cons_cons] at h
    rcases List.mem_append.mp h with h | h
    · exact (List.mem_append.mp h).elim (fun h => .inr ⟨t, List.mem_cons_self, h⟩) .inl
    · exact (mem_of_mem_join h).imp_right fun ⟨v, hv, hc⟩ => ⟨v, List.mem_cons_of_mem _ hv, hc⟩

/-- Every part is found in the joined text. -/
theorem join_within (sep : Text) {t : Text} : ∀ {ts : List Text}, t ∈ ts → t <:+: join sep ts
  | [u], h => List.mem_singleton.mp h ▸ List.infix_rfl
  | u :: v :: ts, h => by
    rw [join_cons_cons, List.append_assoc]
    rcases List.mem_cons.mp h with rfl | h
    · exact (List.prefix_append _ _).isInfix
    · exact (join_within sep h).trans (((List.suffix_append sep _).trans (List.suffix_append u _)).isInfix)

theorem splitOn_join {ts : List Text} (hne : ts ≠ []) (h : ∀ t ∈ ts, sep ∉ t) : splitOn sep (join [sep] ts) = ts := by
  rw [splitOn_eq, join_eq, List.splitOn_intercalate sep h hne]

theorem join_splitOn (sep : Char) (t : Text) : join [sep] (splitOn sep t) = t := by
  rw [splitOn_eq, join_eq, List.intercalate_splitOn]

theorem splitOn_of_not_mem {t : Text} (h : sep ∉ t) : splitOn sep t = [t] :=
  splitOn_join (List.cons_ne_nil t []) (List.forall_mem_singleton.mpr h)

/-- A separator ends a part, whatever is around it. -/
theorem splitOn_append_cons (a b : Text) : splitOn sep (a ++ sep :: b) = splitOn sep a ++ splitOn sep b := by
  simp only [splitOn_eq, List.splitOn_append_cons_self]

/-- The pieces of joined texts are the pieces of the texts. -/
theorem splitOn_join_eq_flatMap : ∀ {ts : List Text}, ts ≠ [] → splitOn sep (join [sep] ts) = ts.flatMap (splitOn sep)
  | [t], _ => (List.append_nil _).symm
  | t :: u :: ts, _ => by
    rw [join_cons_cons, List.append_assoc, List.singleton_append, splitOn_append_cons,
      splitOn_join_eq_flatMap (List.cons_ne_nil u ts)]
    rfl

theorem not_mem_of_mem_splitOn {t w : Text} (h : w ∈ splitOn sep t) : sep ∉ w := by
  induction t generalizing w with
  | nil =>
    rw [splitOn, List.mem_singleton] at h
    rw [h]
    exact List.not_mem_nil
  | cons c cs ih =>
    by_cases hc : c = sep
    · rw [hc, splitOn_cons_self] at h
      rcases List.mem_cons.mp h with rfl | h
      · exact List.not_mem_nil
      · exact ih h
    · obtain ⟨v, vs, hv⟩ := List.exists_cons_of_ne_nil (splitOn_ne_nil sep cs)
      rw [splitOn_cons_of_ne hc hv] at h
      rcases List.mem_cons.mp h with rfl | h
      · rw [List.mem_cons, not_or]
        exact ⟨Ne.symm hc, ih (hv ▸ List.mem_cons_self)⟩
      · exact ih (hv ▸ List.mem_cons_of_mem _ h)

/-- The last piece of a text runs on into the first piece of the next. -/
theorem splitOn_append {a b x y : Text} {xs ys : List Text} (ha : splitOn sep a = xs ++ [x])
    (hb : splitOn sep b = y :: ys) : splitOn sep (a ++ b) = xs ++ (x ++ y) :: ys := by
  induction a generalizing xs x with
  | nil =>
    have hparts : [] ++ [[]] = xs ++ [x] := ha
    obtain ⟨rfl, rfl⟩ : [] = xs ∧ [] = x := List.append_inj' hparts rfl |>.imp id (List.singleton_inj.mp ·)
    exact hb
  | cons c cs ih =>
    by_cases hc : c = sep
    · subst hc
      rw [splitOn_cons_self] at ha
      cases xs with
      | nil => exact absurd (List.cons.inj ha).2 (splitOn_ne_nil c cs)
      | cons v xs =>
        obtain ⟨hv, hcs⟩ := List.cons.inj ha
        rw [List.cons_append, splitOn_cons_self, ih hcs, hv]
        rfl
    · obtain ⟨w, ws, hw⟩ := List.exists_cons_of_ne_nil (splitOn_ne_nil sep cs)
      rw [splitOn_cons_of_ne hc hw] at ha
      cases xs with
      | nil =>
        obtain ⟨rfl, rfl⟩ := List.cons.inj ha
        have hlast : splitOn sep cs = [] ++ [w] := hw
        exact splitOn_cons_of_ne hc (ih hlast)
      | cons v xs =>
        obtain ⟨rfl, rfl⟩ := List.cons.inj ha
        have hlast : splitOn sep cs = (w :: xs) ++ [x] := hw
        exact splitOn_cons_of_ne hc (ih hlast)

/-! ## Lines of a trimmed text -/

/-- A text is what trimming its end leaves, and what that takes away. -/
theorem exists_trimEnd (p : Char → Bool) : ∀ t : Text, ∃ b, b.all p = true ∧ t = trimEnd p t ++ b
  | [] => ⟨[], rfl, rfl⟩
  | c :: t => by
    obtain ⟨b, hb, ht⟩ := exists_trimEnd p t
    by_cases hn : trimEnd p (c :: t) = []
    · exact ⟨c :: t, trimEnd_eq_nil_iff.mp hn, by rw [hn, List.nil_append]⟩
    · refine ⟨b, hb, ?_⟩
      rw [trimEnd] at hn ⊢
      cases h : trimEnd p t with
      | nil =>
        rw [h] at hn ht
        cases hc : p c with
        | true => simp [hc] at hn
        | false => rw [ht]; rfl
      | cons d r => rw [List.cons_append, ← h, ← ht]

/-- A text is what trimming leaves of it between white space. -/
theorem exists_trim (t : Text) : ∃ a b, isBlank a = true ∧ isBlank b = true ∧ t = a ++ (trim t ++ b) := by
  obtain ⟨b, hb, ht⟩ := exists_trimEnd isSpace (trimStart isSpace t)
  refine ⟨t.takeWhile isSpace, b, List.all_takeWhile, hb, ?_⟩
  rw [trim, trimBy, ← ht, trimStart, List.takeWhile_append_dropWhile]

theorem trim_eq_nil_iff {t : Text} : trim t = [] ↔ isBlank t = true := by
  refine ⟨fun h => ?_, fun h => ?_⟩
  · rw [← bare_eq_nil_iff, ← bare_trim, h, bare_nil]
  · rw [trim, trimBy, trimEnd_eq_nil_iff, trimStart]
    exact List.all_eq_true.mpr fun c hc => List.all_eq_true.mp h c ((List.dropWhile_sublist _).subset hc)

@[simp] theorem isBlank_trim (t : Text) : isBlank (trim t) = isBlank t := by
  rw [Bool.eq_iff_iff, ← bare_eq_nil_iff, bare_trim, bare_eq_nil_iff]

/-- White space around a text is trimmed away with what was there. -/
theorem trim_blank_append {a : Text} (h : isBlank a = true) (t : Text) : trim (a ++ t) = trim t := by
  rw [trim, trimBy, trimStart, List.dropWhile_append_of_pos (List.all_eq_true.mp h)]
  rfl

theorem trim_append_blank {b : Text} (h : isBlank b = true) (t : Text) : trim (t ++ b) = trim t := by
  rw [← trim_trimEnd, trimEnd_append_of_all h, trim_trimEnd]

/-- A trimmed text does not end with white space. -/
theorem isSpace_of_getLast?_trim {t : Text} {c : Char} (h : (trim t).getLast? = some c) : isSpace c = false := by
  obtain ⟨u, hu⟩ := List.getLast?_eq_some_iff.mp h
  refine Bool.eq_false_iff.mpr fun hc => ?_
  -- Trimmed once more, the text would be shorter.
  have htrim : trim t = trim u := by
    rw [← trim_trim t, hu]
    exact trim_append_blank (by simpa [isBlank] using hc) u
  obtain ⟨a, b, -, -, hlong⟩ := exists_trim u
  rw [← htrim, hu] at hlong
  have hlength := congrArg List.length hlong
  simp only [List.length_append, List.length_singleton] at hlength
  omega

theorem isBlank_append {a b : Text} : isBlank (a ++ b) = (isBlank a && isBlank b) :=
  List.all_append

theorem isEmpty_of_not_blank {t : Text} (h : isBlank t = false) : t.isEmpty = false := by
  cases t with
  | nil => cases h
  | cons c cs => rfl

/-- All parts of white space are white space. -/
theorem isBlank_of_mem_splitOn {t w : Text} (ht : isBlank t = true) (hw : w ∈ splitOn sep t) : isBlank w = true :=
  List.all_eq_true.mpr fun _ hc => List.all_eq_true.mp ht _ (mem_of_mem_splitOn hw hc)

/-- White space in front of a text is on its own lines and in front of the first one. -/
theorem exists_splitOn_blank_append {a t w : Text} {ws : List Text} (ha : isBlank a = true)
    (ht : splitOn sep t = w :: ws) : ∃ us u, (∀ v ∈ us, isBlank v = true) ∧ isBlank u = true ∧
      splitOn sep (a ++ t) = us ++ (u ++ w) :: ws := by
  obtain ⟨us, u, hu⟩ := List.eq_nil_or_concat' (splitOn sep a) |>.resolve_left (splitOn_ne_nil sep a)
  have hall : ∀ v ∈ us ++ [u], isBlank v = true := fun v hv => isBlank_of_mem_splitOn ha (hu ▸ hv)
  rw [List.forall_mem_append, List.forall_mem_singleton] at hall
  exact ⟨us, u, hall.1, hall.2, splitOn_append hu ht⟩

/-- White space after a text is on its last line and on lines of its own. -/
theorem exists_splitOn_append_blank {b t w : Text} {ws : List Text} (hb : isBlank b = true)
    (ht : splitOn sep t = ws ++ [w]) : ∃ u us, isBlank u = true ∧ (∀ v ∈ us, isBlank v = true) ∧
      splitOn sep (t ++ b) = ws ++ (w ++ u) :: us := by
  obtain ⟨u, us, hu⟩ := List.exists_cons_of_ne_nil (splitOn_ne_nil sep b)
  have hall : ∀ v ∈ u :: us, isBlank v = true := fun v hv => isBlank_of_mem_splitOn hb (hu ▸ hv)
  rw [List.forall_mem_cons] at hall
  exact ⟨u, us, hall.1, hall.2, splitOn_append ht hu⟩

/-- A piece of a trimmed text is a piece of the text, but for white space around it. -/
theorem exists_of_mem_splitOn_trim {t w : Text} (h : w ∈ splitOn sep (trim t)) :
    ∃ u v, isBlank u = true ∧ isBlank v = true ∧ u ++ (w ++ v) ∈ splitOn sep t := by
  obtain ⟨a, b, ha, hb, ht⟩ := exists_trim t
  have hend : ∃ v, isBlank v = true ∧ w ++ v ∈ splitOn sep (trim t ++ b) := by
    obtain ⟨ws, z, hz⟩ := List.eq_nil_or_concat' (splitOn sep (trim t)) |>.resolve_left (splitOn_ne_nil sep _)
    obtain ⟨v, vs, hv, -, he⟩ := exists_splitOn_append_blank hb hz
    rw [hz, List.mem_append, List.mem_singleton] at h
    rw [he]
    rcases h with h | rfl
    · exact ⟨[], rfl, List.mem_append_left _ (by rwa [List.append_nil])⟩
    · exact ⟨v, hv, List.mem_append_right _ List.mem_cons_self⟩
  obtain ⟨v, hv, hmem⟩ := hend
  obtain ⟨z, ws, hz⟩ := List.exists_cons_of_ne_nil (splitOn_ne_nil sep (trim t ++ b))
  obtain ⟨us, u, -, hu, he⟩ := exists_splitOn_blank_append ha hz
  rw [ht, he]
  rw [hz] at hmem
  rcases List.mem_cons.mp hmem with hmem | hmem
  · exact ⟨u, v, hu, hv, List.mem_append_right _ (hmem ▸ List.mem_cons_self)⟩
  · exact ⟨[], v, rfl, hv, List.mem_append_right _ (List.mem_cons_of_mem _ hmem)⟩

/-- A relation between neighbouring pieces that does not mind white space at the ends of them outlives trimming. -/
theorem isChain_splitOn_trim {R : Text → Text → Prop} (hfront : ∀ u w v, isBlank u = true → R (u ++ w) v → R w v)
    (hback : ∀ w v u, isBlank u = true → R w (v ++ u) → R w v) {t : Text} (h : (splitOn sep t).IsChain R) :
    (splitOn sep (trim t)).IsChain R := by
  obtain ⟨a, b, ha, hb, ht⟩ := exists_trim t
  have hend : (splitOn sep (trim t ++ b)).IsChain R := by
    obtain ⟨w, ws, hw⟩ := List.exists_cons_of_ne_nil (splitOn_ne_nil sep (trim t ++ b))
    obtain ⟨us, u, -, hu, he⟩ := exists_splitOn_blank_append ha hw
    rw [ht, he] at h
    rw [hw]
    have hs := (List.isChain_append.mp h).2.1
    rw [List.isChain_cons] at hs ⊢
    exact ⟨fun v hv => hfront u w v hu (hs.1 v hv), hs.2⟩
  obtain ⟨ws, w, hw⟩ := List.eq_nil_or_concat' (splitOn sep (trim t)) |>.resolve_left (splitOn_ne_nil sep _)
  obtain ⟨u, us, hu, -, he⟩ := exists_splitOn_append_blank hb hw
  rw [he, List.isChain_split] at hend
  rw [hw]
  rw [List.isChain_append] at hend ⊢
  obtain ⟨⟨hfirst, -, hlast⟩, -⟩ := hend
  refine ⟨hfirst, List.isChain_singleton _, fun v hv x hx => ?_⟩
  obtain rfl : w = x := by simpa using hx
  exact hback v w u hu (hlast v hv _ (by simp))

end Excerpt.Text
