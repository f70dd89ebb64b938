import Excerpt.Proofs.Text.Lines
import Excerpt.Proofs.Url.Reread

/-!
# The end of a path

A path is ended with a slash or without slashes (`Link.ended`), and its parameters are written behind it. If such a way
is read again, the path can end elsewhere: its last segment is split at the first semicolon in it. So reading a way,
ending its path and writing it again (`Link.rewritten`) leaves it as it is exactly if it is `Link.Firm`
(`Link.rewritten_eq_iff`): a slash at the end is asked for, the scheme has no parameters, or the way is `Url.Parted`
well.

Behind a host, a slash is written in front of the way, which changes nothing of this (`Link.slashed_rewritten_eq_iff`).
-/

namespace Excerpt

namespace Text

theorem endsWith_append_singleton (c : Char) (t : Text) : endsWith c (t ++ [c]) = true := by
  rw [endsWith, List.getLast?_concat, beq_self_eq_true]

theorem endsWith_append_of_ne_nil {c : Char} {b : Text} (hb : b ≠ []) (a : Text) :
    endsWith c (a ++ b) = endsWith c b := by
  rw [endsWith, endsWith, List.getLast?_append_of_ne_nil _ hb]

theorem endsWith_eq_false_of_not_mem {c : Char} {t : Text} (h : c ∉ t) : endsWith c t = false := by
  rw [endsWith, beq_eq_false_iff_ne]
  exact fun hc => h (List.mem_of_getLast? hc)

/-- Nothing of a class is left at the end. -/
theorem endsWith_trimEnd (c : Char) (t : Text) : endsWith c (trimEnd (· == c) t) = false := by
  rw [← Bool.not_eq_true]
  intro h
  obtain ⟨r, hr⟩ := List.getLast?_eq_some_iff.mp (beq_iff_eq.mp h)
  have hagain := trimEnd_append_of_all (p := (· == c)) (b := [c]) (by simp) r
  rw [← hr, trimEnd_trimEnd] at hagain
  have hlength := congrArg List.length hagain
  obtain ⟨b, -, hb⟩ := exists_trimEnd (· == c) r
  have hshorter : (trimEnd (· == c) r).length ≤ r.length := by
    conv_rhs => rw [hb]
    rw [List.length_append]
    exact Nat.le_add_right _ _
  rw [hr, List.length_append, List.length_singleton] at hlength
  omega

end Text

namespace Url

/-- Whether the last segment of a way stays what it is when it is split at its first semicolon and written again without
slashes at the end of the path: text follows the semicolon, and the segment begins with text, or no more than a slash
stands before it. -/
def Parted (w : Text) : Prop :=
  ∀ dir name rest, w = dir ++ (name ++ ';' :: rest) → IsDirectory dir → '/' ∉ name → ';' ∉ name → '/' ∉ rest →
    rest ≠ [] ∧ (name ≠ [] ∨ dir.length ≤ 1)

theorem isDirectory_of_endsWith {dir : Text} (h : Text.endsWith '/' dir = true) : IsDirectory dir := by
  intro c hc
  rw [Text.endsWith, hc, beq_iff_eq] at h
  exact Option.some.inj h

theorem endsWith_of_isDirectory {dir : Text} (h : IsDirectory dir) (hne : dir ≠ []) : Text.endsWith '/' dir = true := by
  rw [Text.endsWith, List.getLast?_eq_some_getLast hne, h _ (List.getLast?_eq_some_getLast hne), beq_self_eq_true]

section Parted

variable {dir name rest : Text}

theorem semicolon_append_inj {name' rest' : Text} (h : name ++ ';' :: rest = name' ++ ';' :: rest') (hname : ';' ∉ name)
    (hname' : ';' ∉ name') : name = name' ∧ rest = rest' := by
  have hcut := Text.cut?_append_cons rest hname
  rw [h, Text.cut?_append_cons rest' hname', Option.some.injEq, Prod.mk.injEq] at hcut
  exact ⟨hcut.1.symm, hcut.2.symm⟩

theorem slash_not_mem_segment (hname : '/' ∉ name) (hrest : '/' ∉ rest) : '/' ∉ name ++ ';' :: rest := by
  rw [List.mem_append, List.mem_cons, not_or, not_or]
  exact ⟨hname, by decide, hrest⟩

/-- A way is split in one place only. -/
theorem parted_iff (hdir : IsDirectory dir) (hname : '/' ∉ name) (hsemi : ';' ∉ name) (hrest : '/' ∉ rest) :
    Parted (dir ++ (name ++ ';' :: rest)) ↔ rest ≠ [] ∧ (name ≠ [] ∨ dir.length ≤ 1) := by
  refine ⟨fun h => h dir name rest rfl hdir hname hsemi hrest, ?_⟩
  intro h dir' name' rest' he hdir' hname' hsemi' hrest'
  obtain ⟨rfl, hseg⟩ := directory_append_inj he hdir (slash_not_mem_segment hname hrest) hdir'
    (slash_not_mem_segment hname' hrest')
  obtain ⟨rfl, rfl⟩ := semicolon_append_inj hseg hsemi hsemi'
  exact h

theorem parted_of_not_mem {seg : Text} (hdir : IsDirectory dir) (hseg : '/' ∉ seg) (hsemi : ';' ∉ seg) :
    Parted (dir ++ seg) := by
  intro dir' name' rest' he hdir' hname' _ hrest'
  obtain ⟨-, hsame⟩ := directory_append_inj he hdir hseg hdir' (slash_not_mem_segment hname' hrest')
  exact (hsemi (hsame ▸ List.mem_append_right _ List.mem_cons_self)).elim

end Parted

/-- A way as it stands behind a host, with a slash in front. -/
def slashed (w : Text) : Text :=
  if w.isEmpty || w.head? == some '/' then w else '/' :: w

section Slashed

variable {scheme netloc w : Text}

theorem slashed_eq_self (h : ∀ c, w.head? = some c → c = '/') : slashed w = w := by
  cases w with
  | nil => rfl
  | cons c w =>
    rw [h c rfl]
    rfl

theorem slashed_cons {c : Char} (h : c ≠ '/') (w : Text) : slashed (c :: w) = '/' :: c :: w := by
  simp [slashed, h]

/-- A way gets a slash in front unless it is empty or has one. -/
theorem slashed_cases (w : Text) : slashed w = w ∨ ∃ c r, w = c :: r ∧ c ≠ '/' ∧ slashed w = '/' :: w := by
  cases w with
  | nil => exact .inl rfl
  | cons c r =>
    by_cases hc : c = '/'
    · exact .inl (slashed_eq_self fun d hd => (Option.some.inj hd).symm.trans hc)
    · exact .inr ⟨c, r, rfl, hc, slashed_cons hc r⟩

theorem head?_slashed {c : Char} (h : (slashed w).head? = some c) : c = '/' := by
  rw [slashed] at h
  split at h
  · rename_i hw
    rcases Bool.or_eq_true_iff.mp hw with hw | hw
    · rw [List.isEmpty_iff.mp hw] at h
      cases h
    · rw [beq_iff_eq.mp hw] at h
      exact (Option.some.inj h).symm
  · exact (Option.some.inj h).symm

/-- Whether the slashes of a host are written in front of a way. -/
def WritesHost (scheme netloc w : Text) : Prop :=
  netloc ≠ [] ∨ scheme ≠ [] ∧ schemeIn hostSchemes scheme = true ∧ Text.startsWith ['/', '/'] w = false

theorem renderPlace_of_host (h : WritesHost scheme netloc w) :
    renderPlace scheme netloc w = '/' :: '/' :: (netloc ++ slashed w) := by
  rw [renderPlace, if_pos]
  · rfl
  · rcases h with h | ⟨hne, hscheme, hstarts⟩
    · simp [h]
    · simp [hne, hscheme, hstarts]

theorem renderPlace_of_no_host (h : ¬ WritesHost scheme netloc w) : renderPlace scheme netloc w = w := by
  rw [renderPlace, if_neg]
  simp only [WritesHost, not_or, not_and, Bool.not_eq_false, not_not] at h
  obtain ⟨rfl, h⟩ := h
  simp only [List.isEmpty_nil, Bool.not_true, Bool.false_or, Bool.and_eq_true, Bool.not_eq_true', not_and,
    List.isEmpty_eq_false_iff, Bool.not_eq_false, and_imp]
  exact h

theorem startsWith_slashed : Text.startsWith ['/', '/'] (slashed w) = Text.startsWith ['/', '/'] w := by
  rcases slashed_cases w with h | ⟨c, r, rfl, hc, h⟩
  · rw [h]
  · have hc' := Ne.symm hc
    rw [h]
    simp [Text.startsWith, Text.dropPrefix?, hc']

/-- A text is written as a host with a way behind it exactly if the slashes of a host are written there, and the text
comes to the way. -/
theorem renderPlace_eq_iff {x : Text} (hw : ∀ c, w.head? = some c → c = '/') (hx : x.length ≤ w.length + 1) :
    renderPlace scheme netloc x = '/' :: '/' :: (netloc ++ w) ↔ WritesHost scheme netloc w ∧ slashed x = w := by
  have hsame : slashed x = w → (WritesHost scheme netloc w ↔ WritesHost scheme netloc x) := by
    rintro rfl
    rw [WritesHost, WritesHost, startsWith_slashed]
  by_cases hhost : WritesHost scheme netloc x
  · rw [renderPlace_of_host hhost, List.cons.injEq, List.cons.injEq, List.append_cancel_left_eq]
    exact ⟨fun h => ⟨(hsame h.2.2).mpr hhost, h.2.2⟩, fun h => ⟨rfl, rfl, h.2⟩⟩
  · rw [renderPlace_of_no_host hhost]
    refine iff_of_false (fun h => ?_) fun h => hhost ((hsame h.2).mp h.1)
    rw [h, List.length_cons, List.length_cons, List.length_append] at hx
    omega

theorem parted_slashed_iff : Parted (slashed w) ↔ Parted w := by
  rcases slashed_cases w with h | ⟨c, r, rfl, hc, h⟩
  · rw [h]
  rw [h]
  constructor
  · intro hparted dir name rest he hdir
    have hdir' : IsDirectory ('/' :: dir) := by
      intro d hd
      cases dir with
      | nil => exact (Option.some.inj hd).symm
      | cons e dir => exact hdir d hd
    intro hname hsemi hrest
    refine (hparted ('/' :: dir) name rest (by rw [he]; rfl) hdir' hname hsemi hrest).imp_right fun h => h.imp_right ?_
    intro hlength
    exact Nat.le_trans (Nat.le_succ dir.length) hlength
  · intro hparted dir name rest he hdir hname hsemi hrest
    cases dir with
    | nil =>
      -- The slash in front would begin the name.
      cases name with
      | nil => exact absurd (List.cons.inj he).1 (by decide)
      | cons d name =>
        rw [(List.cons.inj he).1] at hname
        exact (hname List.mem_cons_self).elim
    | cons d dir =>
      have hw := (List.cons.inj he).2
      have hdir' : IsDirectory dir := by
        intro e hlast
        cases dir with
        | nil => cases hlast
        | cons f dir => exact hdir e hlast
      refine (hparted dir name rest hw hdir' hname hsemi hrest).imp_right fun h => h.imp_right ?_
      intro hlength
      match dir, hlength with
      | [], _ => exact Nat.le_refl 1
      | [e], _ =>
        rw [hdir' e rfl] at hw
        exact (hc (List.cons.inj hw).1).elim

end Slashed

theorem splitWay_of_not {scheme : Text} (h : schemeIn paramSchemes scheme = false) (w : Text) :
    splitWay scheme w = (w, []) := by
  rw [splitWay, h]
  rfl

end Url

namespace Link

open Url

/-- The path with a slash at its end, or without slashes there. -/
def ended (trailingSlash : Bool) (path : Text) : Text :=
  if trailingSlash then withSlash path else withoutSlash path

/-- The URL with its path ended. -/
def finished (trailingSlash : Bool) (u : Url) : Url :=
  { u with path := ended trailingSlash u.path }

/-- A way after it was read, its path was ended and it was written again. -/
def rewritten (trailingSlash : Bool) (scheme w : Text) : Text :=
  ended trailingSlash (splitWay scheme w).1 ++ delimited ';' (splitWay scheme w).2

/-- A way whose path is ended. -/
def IsEnded (trailingSlash : Bool) (scheme w : Text) : Prop :=
  if trailingSlash then
    ∃ path params, w = path ++ delimited ';' params ∧ Text.endsWith '/' path = true ∧ '/' ∉ params ∧
      (params ≠ [] → schemeIn paramSchemes scheme = true)
  else w.length ≤ 1 ∨ Text.endsWith '/' w = false

/-- Whether a way keeps its end when it is read again. -/
def Firm (trailingSlash : Bool) (scheme w : Text) : Prop :=
  trailingSlash = false → schemeIn paramSchemes scheme = true → Parted w

section Ended

variable {path : Text}

theorem ended_true_of_endsWith (h : Text.endsWith '/' path = true) : ended true path = path := by
  rw [ended, if_pos rfl, withSlash, if_pos h]

theorem ended_true_of_not (h : Text.endsWith '/' path = false) : ended true path = path ++ ['/'] := by
  rw [ended, if_pos rfl, withSlash, h]
  rfl

theorem endsWith_ended_true (path : Text) : Text.endsWith '/' (ended true path) = true := by
  cases h : Text.endsWith '/' path with
  | true => rw [ended_true_of_endsWith h, h]
  | false => rw [ended_true_of_not h, Text.endsWith_append_singleton]

theorem ended_false_of_short (h : path.length ≤ 1) : ended false path = path := by
  rw [ended, if_neg Bool.false_ne_true, withoutSlash, decide_eq_false (Nat.not_lt.mpr h)]
  rfl

theorem ended_false_of_not (h : Text.endsWith '/' path = false) : ended false path = path := by
  rw [ended, if_neg Bool.false_ne_true, withoutSlash, h, Bool.and_false]
  rfl

theorem ended_false_of_long (hlong : 1 < path.length) (h : Text.endsWith '/' path = true) :
    ended false path = Text.trimEnd (· == '/') path := by
  rw [ended, if_neg Bool.false_ne_true, withoutSlash, h, decide_eq_true hlong]
  rfl

theorem ended_false (path : Text) : (ended false path).length ≤ 1 ∨ Text.endsWith '/' (ended false path) = false := by
  cases h : Text.endsWith '/' path with
  | false => exact .inr (by rw [ended_false_of_not h, h])
  | true =>
    rcases Nat.lt_or_ge 1 path.length with hlong | hshort
    · exact .inr (by rw [ended_false_of_long hlong h, Text.endsWith_trimEnd])
    · exact .inl (by rwa [ended_false_of_short hshort])

/-- A path without slashes at its end is left as it is, and no other. -/
theorem ended_false_eq_iff : ended false path = path ↔ path.length ≤ 1 ∨ Text.endsWith '/' path = false := by
  refine ⟨fun h => h ▸ ended_false path, ?_⟩
  rintro (h | h)
  · exact ended_false_of_short h
  · exact ended_false_of_not h

/-- Ending a path without slashes takes away slashes. -/
theorem exists_ended_false (path : Text) : ∃ n, path = ended false path ++ List.replicate n '/' := by
  cases h : Text.endsWith '/' path with
  | false => exact ⟨0, by rw [ended_false_of_not h, List.replicate_zero, List.append_nil]⟩
  | true =>
    rcases Nat.lt_or_ge 1 path.length with hlong | hshort
    · rw [ended_false_of_long hlong h]
      exact Text.trimEnd_append_replicate '/' path
    · exact ⟨0, by rw [ended_false_of_short hshort, List.replicate_zero, List.append_nil]⟩

/-- Ending a path adds no more than a slash. -/
theorem ended_sublist (trailingSlash : Bool) (path : Text) : (ended trailingSlash path).Sublist (path ++ ['/']) := by
  cases trailingSlash with
  | true =>
    cases h : Text.endsWith '/' path with
    | true =>
      rw [ended_true_of_endsWith h]
      exact List.sublist_append_left path ['/']
    | false => rw [ended_true_of_not h]
  | false =>
    obtain ⟨n, hn⟩ := exists_ended_false path
    have hpath : (ended false path).Sublist path := by
      conv_rhs => rw [hn]
      exact List.sublist_append_left _ _
    exact hpath.trans (List.sublist_append_left path ['/'])

theorem mem_ended {trailingSlash : Bool} {c : Char} (h : c ∈ ended trailingSlash path) : c = '/' ∨ c ∈ path := by
  have hmem := (ended_sublist trailingSlash path).subset h
  rw [List.mem_append, List.mem_singleton] at hmem
  exact hmem.symm

end Ended

section Rewritten

variable {trailingSlash : Bool} {scheme w : Text}

theorem rewritten_true (h : IsEnded true scheme w) : rewritten true scheme w = w := by
  obtain ⟨path, params, rfl, hpath, hslash, hparams⟩ := h
  have hdir := isDirectory_of_endsWith hpath
  have hsplit : splitWay scheme (path ++ delimited ';' params) = (path, params) := by
    cases hscheme : schemeIn paramSchemes scheme with
    | false =>
      have hnil : params = [] := by
        by_contra hne
        rw [hparams hne] at hscheme
        cases hscheme
      simp [splitWay_of_not hscheme, hnil, delimited]
    | true =>
      rw [splitWay, if_pos hscheme]
      cases params with
      | nil => simpa [delimited] using splitParams_of_not_mem hdir List.not_mem_nil List.not_mem_nil
      | cons c params => simpa [delimited] using splitParams_semicolon hdir List.not_mem_nil List.not_mem_nil hslash
  rw [rewritten, hsplit, ended_true_of_endsWith hpath]

theorem delimited_of_ne_nil {d : Char} {part : Text} (h : part ≠ []) : delimited d part = d :: part := by
  rw [delimited, if_neg (by simpa using h)]

/-- A path and its parameters are written again as they were exactly if the path keeps its end and there are
parameters. -/
theorem ended_append_delimited_eq_iff {path params : Text} :
    ended false path ++ delimited ';' params = path ++ ';' :: params ↔ params ≠ [] ∧ ended false path = path := by
  constructor
  · intro h
    obtain ⟨n, hn⟩ := exists_ended_false path
    have hrest : delimited ';' params = List.replicate n '/' ++ ';' :: params := by
      conv_rhs at h => rw [hn]
      rwa [List.append_assoc, List.append_cancel_left_eq] at h
    cases params with
    | nil =>
      have hlength := congrArg List.length hrest
      simp [delimited] at hlength
    | cons c params =>
      have hlength := congrArg List.length hrest
      simp only [delimited, List.isEmpty_cons, List.length_append, List.length_replicate, List.length_cons] at hlength
      have hzero : n = 0 := by simpa using hlength
      rw [hzero, List.replicate_zero, List.append_nil] at hn
      exact ⟨List.cons_ne_nil _ _, hn.symm⟩
  · rintro ⟨hne, hpath⟩
    rw [hpath, delimited_of_ne_nil hne]

theorem rewritten_false_eq_iff (h : IsEnded false scheme w) (hscheme : schemeIn paramSchemes scheme = true) :
    rewritten false scheme w = w ↔ Parted w := by
  obtain ⟨dir, seg, rfl, hdir, hseg⟩ := exists_directory w
  rw [rewritten, splitWay, if_pos hscheme]
  cases hcut : Text.cut? ';' seg with
  | none =>
    have hsemi := Text.not_mem_of_cut?_eq_none hcut
    rw [splitParams_of_not_mem hdir hseg hsemi]
    refine iff_of_true ?_ (parted_of_not_mem hdir hseg hsemi)
    simpa [delimited] using ended_false_eq_iff.mpr h
  | some p =>
    obtain ⟨name, rest⟩ := p
    have hsemi := Text.not_mem_of_cut? hcut
    obtain rfl := Text.eq_of_cut? hcut
    rw [List.mem_append, List.mem_cons, not_or, not_or] at hseg
    rw [splitParams_semicolon hdir hseg.1 hsemi hseg.2.2, parted_iff hdir hseg.1 hsemi hseg.2.2, ← List.append_assoc,
      ended_append_delimited_eq_iff, ended_false_eq_iff]
    refine and_congr_right fun _ => ?_
    by_cases hname : name = []
    · -- Then the path is the directory, which has a slash at its end.
      subst hname
      rw [List.append_nil]
      have hslash : Text.endsWith '/' dir = false → dir.length ≤ 1 := by
        intro hend
        by_contra hlong
        rw [endsWith_of_isDirectory hdir (by rintro rfl; exact hlong (Nat.zero_le _))] at hend
        cases hend
      simpa using hslash
    · refine iff_of_true (.inr ?_) (.inl hname)
      rw [Text.endsWith_append_of_ne_nil hname, Text.endsWith_eq_false_of_not_mem hseg.1]

/-- **Which ways stay as they are when they are read, ended and written again.** -/
theorem rewritten_eq_iff (h : IsEnded trailingSlash scheme w) :
    rewritten trailingSlash scheme w = w ↔ Firm trailingSlash scheme w := by
  cases trailingSlash with
  | true => exact iff_of_true (rewritten_true h) fun he => Bool.noConfusion he
  | false =>
    cases hscheme : schemeIn paramSchemes scheme with
    | true => simp [Firm, hscheme, rewritten_false_eq_iff h hscheme]
    | false =>
      refine iff_of_true ?_ fun _ hin => by simp [hscheme] at hin
      rw [rewritten, splitWay_of_not hscheme]
      simpa [delimited] using ended_false_eq_iff.mpr h

theorem IsEnded.slashed (h : IsEnded trailingSlash scheme w) : IsEnded trailingSlash scheme (slashed w) := by
  rcases slashed_cases w with hw | ⟨c, r, rfl, hc, hw⟩
  · rwa [hw]
  rw [hw]
  cases trailingSlash with
  | true =>
    obtain ⟨path, params, he, hpath, hrest⟩ := h
    refine ⟨'/' :: path, params, by rw [he]; rfl, ?_, hrest⟩
    have hne : path ≠ [] := by
      rintro rfl
      cases hpath
    rw [← List.singleton_append, Text.endsWith_append_of_ne_nil hne, hpath]
  | false =>
    refine .inr ?_
    rw [← List.singleton_append, Text.endsWith_append_of_ne_nil (List.cons_ne_nil c r)]
    rcases h with hshort | hend
    · rw [List.length_cons, Nat.succ_le_succ_iff, Nat.le_zero, List.length_eq_zero_iff] at hshort
      rw [hshort]
      exact Text.endsWith_eq_false_of_not_mem (by simpa using Ne.symm hc)
    · exact hend

theorem firm_slashed_iff : Firm trailingSlash scheme (slashed w) ↔ Firm trailingSlash scheme w := by
  rw [Firm, Firm, parted_slashed_iff]

/-- A path that begins with a slash still does when it is ended, unless it is nothing but slashes. -/
theorem ended_cons_slash (trailingSlash : Bool) (r : Text) :
    (∃ r', ended trailingSlash ('/' :: r) = '/' :: r') ∨ ended trailingSlash ('/' :: r) = [] ∧ r ≠ [] := by
  cases trailingSlash with
  | true =>
    cases h : Text.endsWith '/' ('/' :: r) with
    | true => exact .inl ⟨r, ended_true_of_endsWith h⟩
    | false => exact .inl ⟨r ++ ['/'], by rw [ended_true_of_not h, List.cons_append]⟩
  | false =>
    obtain ⟨n, hn⟩ := exists_ended_false ('/' :: r)
    cases he : ended false ('/' :: r) with
    | nil =>
      refine .inr ⟨rfl, ?_⟩
      rintro rfl
      rw [ended_false_of_short (show ['/'].length ≤ 1 from Nat.le_refl 1)] at he
      cases he
    | cons c r' =>
      rw [he, List.cons_append] at hn
      exact .inl ⟨r', by rw [(List.cons.inj hn).1]⟩

theorem length_rewritten_le (trailingSlash : Bool) (scheme w : Text) :
    (rewritten trailingSlash scheme w).length ≤ w.length + 1 := by
  obtain ⟨path, params, semi, hsplit, rfl, hsemi, -⟩ := exists_splitWay scheme w
  rw [rewritten, hsplit, List.length_append, List.length_append]
  have hpath := (ended_sublist trailingSlash path).length_le
  have hparams := hsemi.delimited_sublist.length_le
  rw [List.length_append, List.length_singleton] at hpath
  dsimp only
  omega

/-- The slash in front of a way makes no difference to whether it stays as it is. -/
theorem slashed_rewritten_eq_iff (hw : ∀ c, w.head? = some c → c = '/') :
    slashed (rewritten trailingSlash scheme w) = w ↔ rewritten trailingSlash scheme w = w := by
  refine ⟨fun h => ?_, fun h => by rw [h, slashed_eq_self hw]⟩
  rcases slashed_cases (rewritten trailingSlash scheme w) with hsame | ⟨c, r, hcons, hc, hslash⟩
  · rwa [hsame] at h
  rw [hslash] at h
  obtain ⟨path, params, semi, hsplit, rfl, hsemi, -⟩ := exists_splitWay scheme w
  rw [rewritten, hsplit] at hcons h
  dsimp only at hcons h
  cases path with
  | nil =>
    -- A way that begins with a slash has a path.
    have hhead : semi.head? = some '/' := by
      rw [← List.nil_append semi, ← h]
      rfl
    exact absurd (hsemi.head hhead) (by decide)
  | cons d path =>
    obtain rfl : '/' = d := (List.cons.inj h).1
    rcases ended_cons_slash trailingSlash path with ⟨r', hr'⟩ | ⟨hnil, hne⟩
    · rw [hr', List.cons_append] at hcons
      exact (hc (List.cons.inj hcons).1.symm).elim
    · -- Then more slashes were taken away than one.
      rw [hnil, List.nil_append, List.cons_append, List.cons.injEq] at h
      have hlength := congrArg List.length h.2
      rw [List.length_append] at hlength
      have hshort := hsemi.delimited_sublist.length_le
      have hlong := List.length_pos_iff.mpr hne
      omega

end Rewritten

/-- The way of a URL whose path is ended. -/
theorem isEnded_way {u : Url} (hu : Sound u) (trailingSlash : Bool) :
    IsEnded trailingSlash u.scheme (finished trailingSlash u).way := by
  have hslash : '/' ∉ u.params := fun hm => (hu.params_char _ hm).2.2 rfl
  cases trailingSlash with
  | true => exact ⟨ended true u.path, u.params, rfl, endsWith_ended_true u.path, hslash, hu.params_scheme⟩
  | false =>
    by_cases hparams : u.params = []
    · have hway : (finished false u).way = ended false u.path := by simp [way, finished, hparams, delimited]
      rw [hway]
      exact ended_false u.path
    · refine .inr ?_
      have hend : Text.endsWith '/' (';' :: u.params) = false :=
        Text.endsWith_eq_false_of_not_mem (by simpa using hslash)
      rw [way, show (finished false u).params = u.params from rfl, delimited_of_ne_nil hparams,
        Text.endsWith_append_of_ne_nil (List.cons_ne_nil _ _), hend]

end Link

end Excerpt
