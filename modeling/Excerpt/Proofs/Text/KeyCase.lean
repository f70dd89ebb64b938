import Excerpt.Proofs.Text.Bare
import Excerpt.Text.KeyCase
import Mathlib.Data.List.Basic

/-!
# Lower case and snake case are settled

No character that a lower case brings in has another lower case (`find?_image`), so all characters of a text in lower
case are their own lower case (`Lowered`, `lowered_toLower`), and lower case once is enough (`toLower_toLower`). A key
in snake case has no capital and no hyphen besides, so that there is nothing to part or to replace in it the second time
(`snakeCase_snakeCase`).
-/

namespace Excerpt.Text

variable {c : Char} {t : Text} {n m : Nat}

/-! ## Runs of the case table -/

namespace CaseRun

/-- Whether a run maps a code point. -/
def Holds (r : CaseRun) (n : Nat) : Prop :=
  r.first ≤ n ∧ n ≤ r.last ∧ (n - r.first) % r.step = 0

theorem exists_of_find? : ∀ {runs : List CaseRun}, find? runs n = some m →
    ∃ r ∈ runs, r.Holds n ∧ m = r.image + (n - r.first)
  | r :: runs, h => by
    rw [find?] at h
    split at h
    · rename_i hr
      exact ⟨r, List.mem_cons_self, hr, (Option.some.inj h).symm⟩
    · obtain ⟨q, hq, hholds⟩ := exists_of_find? h
      exact ⟨q, List.mem_cons_of_mem r hq, hholds⟩

theorem find?_eq_none : ∀ {runs : List CaseRun}, (∀ r ∈ runs, ¬ r.Holds n) → find? runs n = none
  | [], _ => rfl
  | r :: runs, h => by
    rw [List.forall_mem_cons] at h
    rw [Holds] at h
    rw [find?, if_neg h.1, find?_eq_none h.2]

/-- Whether the images of one run lie outside another one: beyond its ends, or between its members. -/
def apart (r q : CaseRun) : Bool :=
  Nat.blt (r.image + (r.last - r.first)) q.first || Nat.blt q.last r.image ||
    ((r.step % 2 == 0 || r.first == r.last) && q.step % 2 == 0 && (r.image + q.first) % 2 == 1)

theorem mod_two_eq_zero {a k : Nat} (hk : k % 2 = 0) (ha : a % k = 0) : a % 2 = 0 := by
  have hdvd : 2 ∣ a := Nat.dvd_trans (Nat.dvd_of_mod_eq_zero hk) (Nat.dvd_of_mod_eq_zero ha)
  exact Nat.mod_eq_zero_of_dvd hdvd

theorem not_holds_of_apart {r q : CaseRun} (h : r.apart q = true) (hr : r.Holds n) :
    ¬ q.Holds (r.image + (n - r.first)) := by
  rintro ⟨hfirst, hlast, hstep⟩
  obtain ⟨hn, hn', hmod⟩ := hr
  simp only [apart, Bool.or_eq_true, Bool.and_eq_true, Nat.blt_eq, beq_iff_eq] at h
  rcases h with (h | h) | ⟨⟨heven, hq⟩, hodd⟩
  · omega
  · omega
  · -- both runs keep to every second code point, and the images have the parity that the members of `q` have not
    have hoffset : (n - r.first) % 2 = 0 := by
      rcases heven with heven | hsingle
      · exact mod_two_eq_zero heven hmod
      · omega
    have hplace := mod_two_eq_zero hq hstep
    omega

end CaseRun

theorem apart_lowerRuns : (lowerRuns.all fun r => lowerRuns.all r.apart) = true := by
  decide +kernel

/-- No character that a lower case brings in has another lower case. -/
theorem find?_image (h : CaseRun.find? lowerRuns n = some m) : CaseRun.find? lowerRuns m = none := by
  obtain ⟨r, hr, hholds, rfl⟩ := CaseRun.exists_of_find? h
  have hall := List.all_eq_true.mp apart_lowerRuns r hr
  exact CaseRun.find?_eq_none fun q hq => CaseRun.not_holds_of_apart (List.all_eq_true.mp hall q hq) hholds

/-! ## Characters in lower case -/

/-- Characters that are their own lower case, whatever stands around them. -/
structure Lowered (c : Char) : Prop where
  sigma : c ≠ 'Σ'
  dotted : c ≠ 'İ'
  lowerChar_eq : lowerChar c = c

theorem lowered_of_lt (h : c.toNat < 128) (hc : c.toLower = c) : Lowered c := by
  refine ⟨?_, ?_, ?_⟩
  · rintro rfl
    exact absurd h (by decide)
  · rintro rfl
    exact absurd h (by decide)
  · rw [lowerChar, if_pos h, hc]

theorem toLower_eq_of_find? (h : n < 128) (hn : CaseRun.find? lowerRuns n = none) :
    (Char.ofNat n).toLower = Char.ofNat n := by
  revert n
  decide +kernel

/-- A character that no run maps is its own lower case, but for the dotted capital. -/
theorem lowered_of_find? (hn : CaseRun.find? lowerRuns c.toNat = none) (hdotted : c ≠ 'İ') : Lowered c := by
  refine ⟨?_, hdotted, ?_⟩
  · rintro rfl
    exact absurd hn (by decide +kernel)
  · rw [lowerChar]
    split
    · rename_i h
      have hlower := toLower_eq_of_find? h hn
      rwa [Char.ofNat_toNat] at hlower
    · rw [simpleCase, hn]

theorem image_ne_dotted (h : CaseRun.find? lowerRuns n = some m) : m ≠ 'İ'.toNat := by
  have hruns : ∀ r ∈ lowerRuns, 'İ'.toNat < r.image ∨ r.image + (r.last - r.first) < 'İ'.toNat := by decide +kernel
  obtain ⟨r, hr, ⟨hfirst, hlast, -⟩, rfl⟩ := CaseRun.exists_of_find? h
  have himage := hruns r hr
  omega

/-- What a run gives is in lower case. -/
theorem lowered_image (h : CaseRun.find? lowerRuns n = some m) : Lowered (Char.ofNat m) := by
  by_cases hv : m.isValidChar
  · have hm : (Char.ofNat m).toNat = m := by
      rw [Char.ofNat, dif_pos hv]
      rfl
    refine lowered_of_find? (by rw [hm, find?_image h]) fun he => image_ne_dotted h ?_
    rw [← hm, he]
  · rw [Char.ofNat, dif_neg hv]
    exact lowered_of_lt (by decide) (by decide)

theorem lowered_lowerChar (hdotted : c ≠ 'İ') : Lowered (lowerChar c) := by
  have hascii : ∀ n < 128, ((Char.ofNat n).toLower).toNat < 128 ∧ (Char.ofNat n).toLower.toLower =
      (Char.ofNat n).toLower := by
    decide +kernel
  rw [lowerChar]
  split
  · rename_i h
    have hlower := hascii c.toNat h
    rw [Char.ofNat_toNat] at hlower
    exact lowered_of_lt hlower.1 hlower.2
  · rw [simpleCase]
    split
    · rename_i h
      exact lowered_image h
    · rename_i h
      exact lowered_of_find? h hdotted

/-- A text in lower case has only characters in lower case. -/
theorem lowered_lowerAfter : ∀ (before t : Text), ∀ c ∈ lowerAfter before t, Lowered c
  | _, [] => fun _ h => nomatch h
  | before, c :: t => by
    have hsigma : Lowered 'ς' ∧ Lowered 'σ' :=
      ⟨⟨by decide, by decide, by decide +kernel⟩, ⟨by decide, by decide, by decide +kernel⟩⟩
    rw [lowerAfter, List.forall_mem_append]
    refine ⟨?_, lowered_lowerAfter (c :: before) t⟩
    split
    · split
      · exact List.forall_mem_singleton.mpr hsigma.1
      · exact List.forall_mem_singleton.mpr hsigma.2
    · split
      · rw [List.forall_mem_cons, List.forall_mem_singleton]
        exact ⟨lowered_of_lt (by decide) (by decide), ⟨by decide, by decide, by decide +kernel⟩⟩
      · rename_i h
        exact List.forall_mem_singleton.mpr (lowered_lowerChar h)

theorem lowered_toLower (t : Text) : ∀ c ∈ toLower t, Lowered c :=
  lowered_lowerAfter [] t

theorem lowerAfter_eq_self : ∀ {t : Text} (before : Text), (∀ c ∈ t, Lowered c) → lowerAfter before t = t
  | [], _, _ => rfl
  | c :: t, before, h => by
    rw [List.forall_mem_cons] at h
    rw [lowerAfter, if_neg h.1.sigma, if_neg h.1.dotted, h.1.lowerChar_eq, lowerAfter_eq_self _ h.2]
    rfl

theorem toLower_eq_self (h : ∀ c ∈ t, Lowered c) : toLower t = t :=
  lowerAfter_eq_self [] h

/-- **Lower case once is enough.** -/
theorem toLower_toLower (t : Text) : toLower (toLower t) = toLower t :=
  toLower_eq_self (lowered_toLower t)

/-! ## Keys in snake case -/

/-- A character in lower case is no capital. -/
theorem Lowered.isCapital_eq_false (h : Lowered c) : isCapital c = false := by
  have hascii : ∀ n < 128, isCapital (Char.ofNat n) = true → (Char.ofNat n).toLower ≠ Char.ofNat n := by decide +kernel
  refine Bool.eq_false_iff.mpr fun hc => ?_
  have hlt : c.toNat < 128 := by
    have hrange : 'A'.val ≤ c.val ∧ c.val ≤ 'Z'.val := of_decide_eq_true hc
    exact Nat.lt_of_le_of_lt (UInt32.le_iff_toNat_le.mp hrange.2) (by decide)
  have hne := hascii c.toNat hlt
  rw [Char.ofNat_toNat] at hne
  have heq := h.lowerChar_eq
  rw [lowerChar, if_pos hlt] at heq
  exact hne hc heq

theorem splitAcronyms_eq_self : ∀ {t : Text} (b : Bool), (∀ c ∈ t, isCapital c = false) → splitAcronyms b t = t
  | [], _, _ => rfl
  | c :: t, b, h => by
    rw [List.forall_mem_cons] at h
    rw [splitAcronyms, h.1, Bool.and_false, Bool.false_and, if_neg Bool.false_ne_true, splitAcronyms_eq_self false h.2]

theorem splitHumps_eq_self : ∀ {t : Text}, (∀ c ∈ t, isCapital c = false) → splitHumps t = t
  | [], _ => rfl
  | c :: t, h => by
    rw [List.forall_mem_cons] at h
    have hhead : (t.head?.map isCapital).getD false = false := by
      cases t with
      | nil => rfl
      | cons d t => exact h.2 d List.mem_cons_self
    rw [splitHumps, hhead, Bool.and_false, if_neg Bool.false_ne_true, splitHumps_eq_self h.2]

theorem ofNat_ne_hyphen {n : Nat} (h : n ≠ '-'.toNat) : Char.ofNat n ≠ '-' := by
  intro hc
  by_cases hv : n.isValidChar
  · have hn : Char.ofNat n = Char.ofNatAux n hv := dif_pos hv
    exact h (congrArg Char.toNat (hn.symm.trans hc))
  · have hn : Char.ofNat n = '\x00' := dif_neg hv
    exact absurd (hn.symm.trans hc) (by decide)

theorem lowerChar_ne_hyphen (h : c ≠ '-') : lowerChar c ≠ '-' := by
  have hascii : ∀ n < 128, (Char.ofNat n).toLower = '-' → Char.ofNat n = '-' := by decide +kernel
  have hruns : ∀ r ∈ lowerRuns, '-'.toNat < r.image := by decide +kernel
  rw [lowerChar]
  split
  · rename_i hc
    have hlow := hascii c.toNat hc
    rw [Char.ofNat_toNat] at hlow
    exact mt hlow h
  · rw [simpleCase]
    split
    · rename_i hn
      obtain ⟨r, hr, -, rfl⟩ := CaseRun.exists_of_find? hn
      have himage := hruns r hr
      exact ofNat_ne_hyphen (by omega)
    · exact h

theorem hyphen_not_mem_lowerAfter : ∀ (before t : Text), '-' ∉ t → '-' ∉ lowerAfter before t
  | _, [], h => h
  | before, c :: cs, h => by
    rw [List.mem_cons, not_or] at h
    have hrest := hyphen_not_mem_lowerAfter (c :: before) cs h.2
    rw [lowerAfter, List.mem_append, not_or]
    refine ⟨?_, hrest⟩
    split
    · split <;> decide
    · split
      · decide
      · rw [List.mem_singleton]
        exact (lowerChar_ne_hyphen (Ne.symm h.1)).symm

theorem hyphen_not_mem_snakeCase (t : Text) : '-' ∉ snakeCase t := by
  refine hyphen_not_mem_lowerAfter [] _ ?_
  rw [replaceChar, List.mem_flatMap]
  rintro ⟨c, -, hc⟩
  split at hc
  · exact absurd hc (by decide)
  · rename_i hne
    exact hne (List.mem_singleton.mp hc).symm

/-- The characters of a key in snake case. -/
theorem lowered_snakeCase (t : Text) : ∀ c ∈ snakeCase t, Lowered c :=
  lowered_toLower _

/-- **Snake case once is enough.** -/
theorem snakeCase_snakeCase (t : Text) : snakeCase (snakeCase t) = snakeCase t := by
  have hlowered := lowered_snakeCase t
  have hcapital : ∀ c ∈ snakeCase t, isCapital c = false := fun c hc => (hlowered c hc).isCapital_eq_false
  conv_lhs => rw [snakeCase]
  rw [splitAcronyms_eq_self false hcapital, splitHumps_eq_self hcapital,
    replaceChar_eq_self (hyphen_not_mem_snakeCase t), toLower_eq_self hlowered]

end Excerpt.Text
