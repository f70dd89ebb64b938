import Excerpt.Proofs.Body.Provenance
import Excerpt.Proofs.Text.Lines
import Mathlib.Data.List.TakeDrop

/-!
# Cleaned lines

Each step of the cleaning of a line keeps what lies behind the leading white space, so a cleaned line begins with a time
of the day only if the line does (`isTimestamp_of_cleanText`).

`Clean` describes the texts in which cleaning finds nothing to do between the ends: the steps leave them as they are,
what the steps give is one of them, and trimming keeps them. Hence cleaning a line once is enough
(`cleanText_cleanText`). A line with a mark in front is cleaned behind the mark (`exists_cleanText_mark`).
-/

namespace Excerpt.Body

open Text (bare isBlank)

/-- The text with plain blanks for those of other widths. -/
def evenBlanks (t : Text) : Text :=
  t.map fun c => if isOddBlank c then ' ' else c

theorem cleanText_eq (t : Text) : cleanText t = Text.trim (singleBlanks (tighten (evenBlanks t))) := rfl

/-! ## Characters of a cleaned line -/

theorem tightenFrom_sublist (w : Bool) (t : Text) : (tightenFrom w t).Sublist t := by
  induction t generalizing w with
  | nil => exact .slnil
  | cons c cs ih =>
    rw [tightenFrom]
    split
    · rename_i hc
      subst hc
      split
      · exact (ih true).cons ' '
      · exact (ih false).cons_cons ' '
    · exact (ih _).cons_cons c

theorem singleBlanksFrom_sublist (r : Bool) (t : Text) : (singleBlanksFrom r t).Sublist t := by
  induction t generalizing r with
  | nil => exact .slnil
  | cons c cs ih =>
    rw [singleBlanksFrom]
    split
    · rename_i hc
      subst hc
      split
      · exact (ih true).cons ' '
      · exact (ih true).cons_cons ' '
    · exact (ih false).cons_cons c

/-- Cleaning brings no other characters than blanks into a line. -/
theorem mem_of_mem_cleanText {c : Char} {t : Text} (hc : c ≠ ' ') (h : c ∈ cleanText t) : c ∈ t := by
  obtain ⟨d, hd, he⟩ := List.mem_map.mp
    ((tightenFrom_sublist _ _).subset ((singleBlanksFrom_sublist _ _).subset (Text.mem_of_mem_trim h)))
  split at he
  · exact (hc he.symm).elim
  · exact he ▸ hd

/-- Nothing is left of a line just if it is blank. -/
theorem cleanText_eq_nil_iff {t : Text} : cleanText t = [] ↔ isBlank t = true := by
  rw [← Text.bare_eq_nil_iff, ← bare_cleanText, Text.bare_eq_nil_iff]
  refine ⟨fun h => h ▸ rfl, fun h => ?_⟩
  rw [← Text.trim_eq_nil_iff, cleanText_eq, Text.trim_trim] at h
  exact h

/-! ## White space -/

/-- The code points of white space. -/
def spaceCodes : List Nat :=
  List.range' 9 5 ++ List.range' 28 5 ++ List.range' 0x2000 11 ++
    [0x85, 0xA0, 0x1680, 0x2028, 0x2029, 0x202F, 0x205F, 0x3000]

theorem toNat_mem_spaceCodes {c : Char} (h : Text.isSpace c = true) : c.toNat ∈ spaceCodes := by
  simp only [Text.isSpace, Bool.or_eq_true, Bool.and_eq_true, decide_eq_true_eq, beq_iff_eq] at h
  simp only [spaceCodes, List.mem_append, List.mem_range'_1, List.mem_cons, List.not_mem_nil]
  omega

/-- Characters of a class without the code points of white space are no white space. -/
theorem isSpace_eq_false {p : Char → Bool} (hp : ∀ n ∈ spaceCodes, p (Char.ofNat n) = false) {c : Char}
    (h : p c = true) :
    Text.isSpace c = false := by
  refine Bool.eq_false_iff.mpr fun hs => ?_
  have hno := hp _ (toNat_mem_spaceCodes hs)
  rw [Char.ofNat_toNat, h] at hno
  cases hno

theorem isSpace_of_isDecimal {c : Char} (h : Text.isDecimal c = true) : Text.isSpace c = false :=
  isSpace_eq_false (by decide +kernel) h

theorem isSpace_of_isAlphanumeric {c : Char} (h : Text.isAlphanumeric c = true) : Text.isSpace c = false :=
  isSpace_eq_false (by decide +kernel) h

/-! ## Times of the day -/

/-- Hours of one digit or two and minutes of two. -/
def IsTime (w : Text) : Prop :=
  ∃ hours a b, w = hours ++ [':', a, b] ∧ (hours.length = 1 ∨ hours.length = 2) ∧
    (∀ d ∈ hours, Text.isDecimal d = true) ∧ Text.isDecimal a = true ∧ Text.isDecimal b = true

/-- Whether the character may follow a time. -/
def endsTime (c : Char) : Bool :=
  Text.isSpace c || c == '|' || c == '-'

theorem isClosingMark_iff {c : Char} : isClosingMark c = true ↔ c = '.' ∨ c = '?' ∨ c = '!' := by
  simp [isClosingMark, or_assoc]

theorem isClosingMark_of_isSpace {c : Char} (h : Text.isSpace c = true) : isClosingMark c = false := by
  refine Bool.eq_false_iff.mpr fun hm => ?_
  rcases isClosingMark_iff.mp hm with rfl | rfl | rfl <;> cases h

theorem isClosingMark_of_isDecimal {c : Char} (h : Text.isDecimal c = true) : isClosingMark c = false := by
  refine Bool.eq_false_iff.mpr fun hm => ?_
  rcases isClosingMark_iff.mp hm with rfl | rfl | rfl <;> cases h

theorem isClosingMark_of_endsTime {c : Char} (h : endsTime c = true) : isClosingMark c = false := by
  simp only [endsTime, Bool.or_eq_true, beq_iff_eq] at h
  rcases h with (h | rfl) | rfl
  · exact isClosingMark_of_isSpace h
  · rfl
  · rfl

/-- There is neither white space nor a closing mark in a time. -/
theorem IsTime.mem {w : Text} (hw : IsTime w) {c : Char} (hc : c ∈ w) :
    Text.isSpace c = false ∧ isClosingMark c = false := by
  obtain ⟨hours, a, b, rfl, -, hh, ha, hb⟩ := hw
  have hd : ∀ {d}, Text.isDecimal d = true → Text.isSpace d = false ∧ isClosingMark d = false :=
    fun h => ⟨isSpace_of_isDecimal h, isClosingMark_of_isDecimal h⟩
  simp only [List.mem_append, List.mem_cons, List.not_mem_nil, or_false] at hc
  rcases hc with hc | rfl | rfl | rfl
  · exact hd (hh c hc)
  · exact ⟨rfl, rfl⟩
  · exact hd ha
  · exact hd hb

theorem IsTime.ne_nil {w : Text} (hw : IsTime w) : w ≠ [] := by
  obtain ⟨hours, a, b, rfl, -⟩ := hw
  exact List.append_ne_nil_of_right_ne_nil _ (List.cons_ne_nil _ _)

/-- A time of the day begins a text: white space, the time, and a character that may follow it. -/
theorem isTimestamp_iff {t : Text} : isTimestamp t = true ↔
    ∃ s w c r, isBlank s = true ∧ IsTime w ∧ endsTime c = true ∧ t = s ++ (w ++ c :: r) := by
  constructor
  · intro h
    rw [isTimestamp, List.span_eq_takeWhile_dropWhile] at h
    simp only [Bool.and_eq_true, Bool.or_eq_true, beq_iff_eq] at h
    obtain ⟨hlen, h⟩ := h
    split at h
    · rename_i a b c r hr
      simp only [Bool.and_eq_true] at h
      refine ⟨t.takeWhile Text.isSpace, (t.dropWhile Text.isSpace).takeWhile Text.isDecimal ++ [':', a, b], c, r,
        List.all_takeWhile, ⟨_, a, b, rfl, hlen, fun d hd => ?_, h.1.1, h.1.2⟩, ?_, ?_⟩
      · exact List.all_eq_true.mp List.all_takeWhile d hd
      · simpa [endsTime] using h.2
      · rw [List.append_assoc, show [':', a, b] ++ c :: r = ':' :: a :: b :: c :: r from rfl, ← hr,
          List.takeWhile_append_dropWhile, List.takeWhile_append_dropWhile]
    · cases h
  · rintro ⟨s, w, c, r, hs, hw, hc, rfl⟩
    obtain ⟨d, ds, hd⟩ := List.exists_cons_of_ne_nil hw.ne_nil
    have hfirst : Text.isSpace d = false := (hw.mem (hd ▸ List.mem_cons_self)).1
    obtain ⟨hours, a, b, rfl, hlen, hh, ha, hb⟩ := hw
    have hdrop : (s ++ (hours ++ [':', a, b] ++ c :: r)).dropWhile Text.isSpace = hours ++ ':' :: a :: b :: c :: r := by
      rw [List.dropWhile_append_of_pos (by simpa [isBlank] using hs), hd, List.cons_append,
        List.dropWhile_cons_of_neg (by rw [hfirst]; decide), ← List.cons_append, ← hd, List.append_assoc]
      rfl
    have hspan : (hours ++ ':' :: a :: b :: c :: r).span Text.isDecimal = (hours, ':' :: a :: b :: c :: r) := by
      rw [List.span_eq_takeWhile_dropWhile, List.takeWhile_append_of_pos hh, List.dropWhile_append_of_pos hh,
        List.takeWhile_cons_of_neg (by decide), List.dropWhile_cons_of_neg (by decide), List.append_nil]
    rw [isTimestamp, hdrop, hspan]
    simp only [endsTime] at hc
    simpa [ha, hb, hlen, Bool.or_assoc] using hc

/-- Blanks are taken out in front of a closing mark only. -/
theorem exists_tightenFrom_of_closes {t : Text} (h : closes t = true) :
    ∃ m r, tightenFrom true t = m :: r ∧ isClosingMark m = true := by
  induction t with
  | nil => cases h
  | cons c cs ih =>
    rw [tightenFrom]
    by_cases hc : c = ' '
    · subst hc
      have hcs : closes cs = true := h
      rw [if_pos rfl, hcs]
      exact ih hcs
    · rw [if_neg hc]
      rw [closes, afterBlanks, List.dropWhile_cons_of_neg (by simpa using hc)] at h
      exact ⟨c, _, rfl, h⟩

theorem tightenFrom_eq_append : ∀ {u : Text} {w : Bool} {t r : Text}, (∀ c ∈ u, isClosingMark c = false) →
    tightenFrom w t = u ++ r → ∃ r', t = u ++ r'
  | [], _, t, _, _, _ => ⟨t, rfl⟩
  | c :: u, w, [], r, _, h => by cases h
  | c :: u, w, d :: ds, r, hu, h => by
    rw [List.forall_mem_cons] at hu
    rw [tightenFrom, List.cons_append] at h
    split at h
    · rename_i hd
      subst hd
      split at h
      · -- A closing mark would come next.
        rename_i hw
        obtain ⟨m, r', hm, hmark⟩ := exists_tightenFrom_of_closes (Bool.and_eq_true_iff.mp hw).2
        rw [hm] at h
        rw [(List.cons.inj h).1, hu.1] at hmark
        cases hmark
      · obtain ⟨rfl, hds⟩ := List.cons.inj h
        obtain ⟨r', rfl⟩ := tightenFrom_eq_append hu.2 hds
        exact ⟨r', rfl⟩
    · obtain ⟨rfl, hds⟩ := List.cons.inj h
      obtain ⟨r', rfl⟩ := tightenFrom_eq_append hu.2 hds
      exact ⟨r', rfl⟩

theorem isTimestamp_of_tighten {t : Text} (h : isTimestamp (tighten t) = true) : isTimestamp t = true := by
  obtain ⟨s, w, c, r, hs, hw, hc, he⟩ := isTimestamp_iff.mp h
  have hu : ∀ d ∈ s ++ (w ++ [c]), isClosingMark d = false := by
    simp only [List.forall_mem_append, List.forall_mem_singleton]
    exact ⟨fun d hd => isClosingMark_of_isSpace (List.all_eq_true.mp hs d hd), fun d hd => (hw.mem hd).2,
      isClosingMark_of_endsTime hc⟩
  obtain ⟨r', rfl⟩ := tightenFrom_eq_append hu (r := r) (by rw [← tighten, he]; simp)
  exact isTimestamp_iff.mpr ⟨s, w, c, r', hs, hw, hc, by simp⟩

/-- Up to the first blank, nothing is taken out of several blanks. -/
theorem singleBlanksFrom_eq_append : ∀ {w : Text} {t : Text} {c : Char} {r : Text}, (∀ d ∈ w, Text.isSpace d = false) →
    singleBlanksFrom false t = w ++ c :: r → ∃ r', t = w ++ c :: r'
  | w, [], c, r, _, h => by simp [singleBlanksFrom] at h
  | [], d :: ds, c, r, _, h => by
    rw [singleBlanksFrom] at h
    split at h
    · rename_i hd
      exact ⟨ds, by rw [List.nil_append, hd, (List.cons.inj h).1]⟩
    · exact ⟨ds, by rw [List.nil_append, (List.cons.inj h).1]⟩
  | x :: w, d :: ds, c, r, hw, h => by
    rw [List.forall_mem_cons] at hw
    rw [singleBlanksFrom, List.cons_append] at h
    split at h
    · rw [← (List.cons.inj h).1] at hw
      cases hw.1
    · obtain ⟨rfl, hds⟩ := List.cons.inj h
      obtain ⟨r', rfl⟩ := singleBlanksFrom_eq_append hw.2 hds
      exact ⟨r', rfl⟩

theorem singleBlanksFrom_eq_blank_append {w : Text} {c : Char} {r : Text} (hw : IsTime w) :
    ∀ {t s : Text} {b : Bool}, isBlank s = true → singleBlanksFrom b t = s ++ (w ++ c :: r) →
      ∃ s' r', isBlank s' = true ∧ t = s' ++ (w ++ c :: r')
  | [], s, b, _, h => by simp [singleBlanksFrom] at h
  | d :: ds, s, b, hs, h => by
    have hmore : ∀ {s b}, isBlank s = true → Text.isSpace d = true → singleBlanksFrom b ds = s ++ (w ++ c :: r) →
        ∃ s' r', isBlank s' = true ∧ d :: ds = s' ++ (w ++ c :: r') := by
      intro s b hs hd h
      obtain ⟨s', r', hs', rfl⟩ := singleBlanksFrom_eq_blank_append hw hs h
      exact ⟨d :: s', r', List.all_eq_true.mpr (List.forall_mem_cons.mpr ⟨hd, List.all_eq_true.mp hs'⟩), rfl⟩
    have hall := List.all_eq_true.mp hs
    rw [singleBlanksFrom] at h
    cases s with
    | cons e s =>
      rw [List.forall_mem_cons] at hall
      split at h
      · rename_i hd
        subst hd
        split at h
        · exact hmore hs isSpace_blank h
        · exact hmore (List.all_eq_true.mpr hall.2) isSpace_blank (List.cons.inj h).2
      · obtain ⟨rfl, hds⟩ := List.cons.inj h
        exact hmore (List.all_eq_true.mpr hall.2) hall.1 hds
    | nil =>
      obtain ⟨x, w, rfl⟩ := List.exists_cons_of_ne_nil hw.ne_nil
      have hnot : ∀ y ∈ x :: w, Text.isSpace y = false := fun y hy => (hw.mem hy).1
      rw [List.forall_mem_cons] at hnot
      split at h
      · rename_i hd
        subst hd
        split at h
        · exact hmore hs isSpace_blank h
        · rw [← (List.cons.inj h).1] at hnot
          cases hnot.1
      · obtain ⟨rfl, hds⟩ := List.cons.inj h
        obtain ⟨r', rfl⟩ := singleBlanksFrom_eq_append hnot.2 hds
        exact ⟨[], r', rfl, rfl⟩

theorem isTimestamp_of_singleBlanks {t : Text} (h : isTimestamp (singleBlanks t) = true) : isTimestamp t = true := by
  obtain ⟨s, w, c, r, hs, hw, hc, he⟩ := isTimestamp_iff.mp h
  obtain ⟨s', r', hs', rfl⟩ := singleBlanksFrom_eq_blank_append hw hs he
  exact isTimestamp_iff.mpr ⟨s', w, c, r', hs', hw, hc, rfl⟩

theorem evenBlanks_eq_self {t : Text} (h : ∀ c ∈ t, isOddBlank c = false) : evenBlanks t = t :=
  (List.map_congr_left fun c hc => if_neg (by rw [h c hc]; decide)).trans (List.map_id' t)

theorem isTimestamp_of_evenBlanks {t : Text} (h : isTimestamp (evenBlanks t) = true) : isTimestamp t = true := by
  obtain ⟨s, w, c, r, hs, hw, hc, he⟩ := isTimestamp_iff.mp h
  obtain ⟨s', u, rfl, rfl, hu⟩ := List.map_eq_append_iff.mp he
  obtain ⟨w', v, rfl, rfl, hv⟩ := List.map_eq_append_iff.mp hu
  obtain ⟨d, r', rfl, rfl, -⟩ := List.map_eq_cons_iff.mp hv
  have hw' : evenBlanks w' = w' := evenBlanks_eq_self fun e he' => by
    have hspace := (hw.mem (List.mem_map_of_mem he')).1
    cases hodd : isOddBlank e with
    | false => rfl
    | true =>
      rw [hodd, if_pos rfl] at hspace
      cases hspace
  rw [show List.map _ w' = evenBlanks w' from rfl, hw'] at hw
  refine isTimestamp_iff.mpr ⟨s', w', d, r', ?_, hw, ?_, rfl⟩
  · rw [← Text.bare_eq_nil_iff, ← bare_evenBlanks, Text.bare_eq_nil_iff]
    exact hs
  · cases hodd : isOddBlank d with
    | false => simpa [hodd] using hc
    | true => simp [endsTime, isSpace_of_isOddBlank hodd]

/-- White space around a time of the day counts for nothing. -/
theorem isTimestamp_of_within {u v t : Text} (hu : isBlank u = true) (h : isTimestamp t = true) :
    isTimestamp (u ++ (t ++ v)) = true := by
  obtain ⟨s, w, c, r, hs, hw, hc, rfl⟩ := isTimestamp_iff.mp h
  refine isTimestamp_iff.mpr ⟨u ++ s, w, c, r ++ v, ?_, hw, hc, by simp⟩
  rw [isBlank, List.all_append, Bool.and_eq_true]
  exact ⟨hu, hs⟩

/-- **A cleaned line begins with a time of the day only if the line does.** -/
theorem isTimestamp_of_cleanText {t : Text} (h : isTimestamp (cleanText t) = true) : isTimestamp t = true := by
  obtain ⟨a, b, ha, -, he⟩ := Text.exists_trim (singleBlanks (tighten (evenBlanks t)))
  refine isTimestamp_of_evenBlanks (isTimestamp_of_tighten (isTimestamp_of_singleBlanks ?_))
  rw [he]
  exact isTimestamp_of_within ha h

/-! ## Clean texts -/

/-- Texts in which cleaning finds nothing to do between the ends. What stands in front is told by two flags: whether it
ends with a word, and whether it ends with a blank. -/
inductive Clean : Bool → Bool → Text → Prop
  | nil {word blank : Bool} : Clean word blank []
  | blank {word : Bool} {t : Text} : (word && closes t) = false → Clean false true t → Clean word false (' ' :: t)
  | char {word blank : Bool} {c : Char} {t : Text} : c ≠ ' ' → isOddBlank c = false → Clean (Text.isWord c) false t →
      Clean word blank (c :: t)

theorem closes_append {u : Text} (v : Text) (h : closes u = true) : closes (u ++ v) = true := by
  rw [closes, afterBlanks] at h ⊢
  rw [List.dropWhile_append]
  cases hu : u.dropWhile (· == ' ') with
  | nil =>
    rw [hu] at h
    cases h
  | cons d ds =>
    rw [hu] at h
    exact h

namespace Clean

variable {word blank : Bool} {t : Text}

theorem even (h : Clean word blank t) : evenBlanks t = t := by
  induction h with
  | nil => rfl
  | blank _ _ ih => exact congrArg (' ' :: ·) ih
  | char _ ho _ ih => rw [evenBlanks, List.map_cons, if_neg (by rw [ho]; decide), ← evenBlanks, ih]

theorem tight (h : Clean word blank t) : tightenFrom word t = t := by
  induction h with
  | nil => rfl
  | blank hw _ ih => rw [tightenFrom, if_pos rfl, hw, if_neg Bool.false_ne_true, ih]
  | char hc _ _ ih => rw [tightenFrom, if_neg hc, ih]

theorem single (h : Clean word blank t) : singleBlanksFrom blank t = t := by
  induction h with
  | nil => rfl
  | blank _ _ ih => rw [singleBlanksFrom, if_pos rfl, if_neg Bool.false_ne_true, ih]
  | char hc _ _ ih => rw [singleBlanksFrom, if_neg hc, ih]

theorem of_append {v : Text} : ∀ {word blank : Bool} {u : Text}, Clean word blank (u ++ v) → Clean word blank u
  | _, _, [], _ => nil
  | _, _, _ :: u, h => by
    cases h with
    | blank hw ht =>
      refine blank (Bool.eq_false_iff.mpr fun hu => Bool.eq_false_iff.mp hw ?_) (of_append ht)
      rw [Bool.and_eq_true] at hu ⊢
      exact ⟨hu.1, closes_append v hu.2⟩
    | char hc ho ht => exact char hc ho (of_append ht)

theorem trimStart (h : Clean word blank t) : Clean false false (Text.trimStart Text.isSpace t) := by
  induction h with
  | nil => exact nil
  | blank _ _ ih => exact ih
  | @char _ _ c t hc ho ht ih =>
    cases hs : Text.isSpace c with
    | true =>
      rw [Text.trimStart, List.dropWhile_cons_of_pos hs]
      exact ih
    | false =>
      rw [Text.trimStart, List.dropWhile_cons_of_neg (by rw [hs]; decide)]
      exact char hc ho ht

theorem trim (h : Clean word blank t) : Clean false false (Text.trim t) := by
  obtain ⟨b, -, he⟩ := Text.exists_trimEnd Text.isSpace (Text.trimStart Text.isSpace t)
  exact of_append (he ▸ h.trimStart)

end Clean

theorem closes_tightenFrom : ∀ t : Text, closes (tightenFrom false t) = closes t
  | [] => rfl
  | c :: cs => by
    rw [tightenFrom]
    by_cases hc : c = ' '
    · subst hc
      exact closes_tightenFrom cs
    · rw [if_neg hc, closes, closes, afterBlanks, List.dropWhile_cons_of_neg (by simpa using hc),
        List.dropWhile_cons_of_neg (by simpa using hc)]
      rfl

theorem closes_singleBlanksFrom : ∀ (b : Bool) (t : Text), closes (singleBlanksFrom b t) = closes t
  | _, [] => rfl
  | b, c :: cs => by
    rw [singleBlanksFrom]
    by_cases hc : c = ' '
    · subst hc
      rw [if_pos rfl]
      split <;> exact closes_singleBlanksFrom true cs
    · rw [if_neg hc, closes, closes, afterBlanks, List.dropWhile_cons_of_neg (by simpa using hc),
        List.dropWhile_cons_of_neg (by simpa using hc)]
      rfl

/-- The steps of the cleaning give a clean text. A blank that is kept ends the word in front of it, so the two flags are
never set both. -/
theorem clean_steps {t : Text} (ho : ∀ c ∈ t, isOddBlank c = false) : ∀ {word blank : Bool}, (word && blank) = false →
    Clean word blank (singleBlanksFrom blank (tightenFrom word t)) := by
  induction t with
  | nil => exact fun _ => .nil
  | cons c cs ih =>
    intro word blank hf
    rw [List.forall_mem_cons] at ho
    rw [tightenFrom]
    split
    · split
      · rename_i hw
        rw [(Bool.and_eq_true_iff.mp hw).1] at hf ⊢
        exact ih ho.2 hf
      · rename_i hw
        rw [Bool.not_eq_true] at hw
        rw [singleBlanksFrom, if_pos rfl]
        cases blank with
        | true =>
          rw [Bool.and_true] at hf
          subst hf
          exact ih ho.2 rfl
        | false =>
          refine .blank ?_ (ih ho.2 rfl)
          rw [closes_singleBlanksFrom, closes_tightenFrom]
          exact hw
    · rename_i hc
      rw [singleBlanksFrom, if_neg hc]
      exact .char hc ho.1 (ih ho.2 (Bool.and_false _))

theorem clean_cleanText (t : Text) : Clean false false (cleanText t) := by
  refine (clean_steps (fun c hc => ?_) rfl).trim
  obtain ⟨d, -, rfl⟩ := List.mem_map.mp hc
  split
  · rfl
  · rename_i h
    exact Bool.not_eq_true _ ▸ h

/-- **Cleaning a line once is enough.** -/
theorem cleanText_cleanText (t : Text) : cleanText (cleanText t) = cleanText t := by
  have h := clean_cleanText t
  rw [cleanText_eq, h.even, tighten, h.tight, singleBlanks, h.single, cleanText_eq, Text.trim_trim]

/-! ## A mark in front -/

theorem steps_mark (t : Text) : singleBlanks (tighten (evenBlanks (lineBreak ++ t))) =
    lineBreak ++ singleBlanks (tighten (evenBlanks t)) := by
  have heven : evenBlanks (lineBreak ++ t) = lineBreak ++ evenBlanks t := by
    rw [evenBlanks, List.map_append]
    rfl
  -- The mark ends neither with a word nor with a blank, as if nothing stood in front.
  have htight : tighten (lineBreak ++ evenBlanks t) = lineBreak ++ tighten (evenBlanks t) := by
    simp [tighten, tightenFrom, lineBreak, show Text.isWord '>' = false by decide]
  rw [heven, htight]
  simp [singleBlanks, singleBlanksFrom, lineBreak]

/-- A line with a mark in front is cleaned behind the mark, but for white space next to it. -/
theorem exists_cleanText_mark (t : Text) : ∃ rest, cleanText (lineBreak ++ t) = lineBreak ++ rest ∧
    Text.trim rest = cleanText t ∧ (rest = [] ↔ isBlank t = true) := by
  refine ⟨Text.trimEnd Text.isSpace (singleBlanks (tighten (evenBlanks t))), ?_, Text.trim_trimEnd _, ?_⟩
  · rw [cleanText_eq, steps_mark, trim_append isSpace_lineBreak (by decide)]
  · rw [Text.trimEnd_eq_nil_iff, ← isBlank, ← Text.trim_eq_nil_iff, ← cleanText_eq, cleanText_eq_nil_iff]

end Excerpt.Body
