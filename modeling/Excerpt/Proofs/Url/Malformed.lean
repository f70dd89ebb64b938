import Mathlib.Data.List.TakeDrop
import Mathlib.Data.List.TakeWhile
import Excerpt.Proofs.Text.Bare
import Excerpt.Url.Link

/-!
# URLs whose host is malformed

Reading a URL fails exactly if the part of it that names the host is malformed (`parseWith?_eq_none_iff`). That part
does not depend on the default scheme, on slashes at the end (`host_append_slashes`), or on a scheme in front of it
(`host_scheme`).

Hence `Link.normalize?_eq_none_iff`: against a well-formed base, a link has no normal form exactly if it names a
malformed host itself, or the URL that it is resolved to does.
-/

namespace Excerpt

namespace Text

/-- What is trimmed off the end of a text is the one character, over and over. -/
theorem trimEnd_append_replicate (c : Char) : ∀ t : Text, ∃ n, t = trimEnd (· == c) t ++ List.replicate n c
  | [] => ⟨0, rfl⟩
  | d :: t => by
    obtain ⟨n, hn⟩ := trimEnd_append_replicate c t
    rw [trimEnd]
    split
    · rename_i he
      rw [he, List.nil_append] at hn
      by_cases hd : d = c
      · refine ⟨n + 1, ?_⟩
        subst hd
        rw [if_pos (beq_self_eq_true d), List.nil_append, List.replicate_succ, ← hn]
      · refine ⟨n, ?_⟩
        rw [if_neg (by simpa using hd), List.cons_append, List.nil_append, ← hn]
    · exact ⟨n, by rw [List.cons_append, ← hn]⟩

end Text

namespace Url

/-! ## The part that names the host -/

/-- The part of a text that names the host. -/
def host (t : Text) : Text :=
  (splitNetloc (splitScheme (clean t)).2).1

/-- Reading fails only over the host, whatever scheme it starts from. -/
theorem parseWith?_eq_none_iff {scheme t : Text} : parseWith? scheme t = none ↔ fitsNetloc (host t) = false := by
  simp only [parseWith?, host]
  split <;> simp_all

theorem parse?_eq_none_iff {t : Text} : parse? t = none ↔ fitsNetloc (host t) = false :=
  parseWith?_eq_none_iff

/-- Texts that name the same host can be read or not alike. -/
theorem parse?_congr {a b : Text} (h : host a = host b) : parse? a = none ↔ parse? b = none := by
  rw [parse?_eq_none_iff, parse?_eq_none_iff, h]

/-! ## Slashes at the end -/

section Slashes

variable (n : Nat)

/-- Some slashes. -/
abbrev slashes : Text :=
  List.replicate n '/'

/-- Slashes are no controls, so they are left at the end. -/
theorem clean_append_slashes (t : Text) : clean (t ++ slashes n) = clean t ++ slashes n := by
  have hkeep : (slashes n).filter (fun c => !isTabOrBreak c) = slashes n := by simp [isTabOrBreak]
  have hdrop : (t ++ slashes n).dropWhile isControlOrBlank = t.dropWhile isControlOrBlank ++ slashes n := by
    induction t with
    | nil => cases n <;> simp [List.replicate_succ, isControlOrBlank]
    | cons c t ih =>
      rw [List.cons_append, List.dropWhile_cons, List.dropWhile_cons]
      split
      · exact ih
      · rfl
  rw [clean, hdrop, List.filter_append, hkeep, clean]

/-- A text that begins with a slash names no scheme. -/
theorem splitScheme_slash (t : Text) : splitScheme ('/' :: t) = ([], '/' :: t) := by
  cases hc : Text.cut? ':' ('/' :: t) with
  | none => simp [splitScheme, hc]
  | some p => simp [splitScheme, hc]

/-- Slashes at the end are no part of a scheme. -/
theorem splitScheme_append_slashes (t : Text) :
    splitScheme (t ++ slashes n) = ((splitScheme t).1, (splitScheme t).2 ++ slashes n) := by
  have hcolon : ':' ∉ slashes n := by simp
  cases t with
  | nil =>
    cases n with
    | zero => rfl
    | succ n => rw [List.nil_append, slashes, List.replicate_succ, splitScheme_slash]; rfl
  | cons c t =>
    have hcut := Text.cut?_append hcolon (c :: t)
    rw [List.cons_append] at hcut
    cases hc : Text.cut? ':' (c :: t) with
    | none => simp [splitScheme, hcut, hc]
    | some p =>
      simp only [splitScheme, List.cons_append, hcut, hc, Option.map_some]
      split <;> rfl

/-- Characters that do not end the host. -/
def isHostChar (c : Char) : Bool :=
  c != '/' && c != '?' && c != '#'

/-- A host ends where a character of no host is, a slash for one. -/
theorem splitNetloc_slashes (q : Text) : (splitNetloc ('/' :: '/' :: q)).1 = q.takeWhile isHostChar := by
  rw [splitNetloc, List.span_eq_takeWhile_dropWhile]
  rfl

theorem splitNetloc_of_ne {t : Text} (h : ∀ q, t ≠ '/' :: '/' :: q) : splitNetloc t = ([], t) := by
  rw [splitNetloc]
  exact h

theorem takeWhile_append_slashes (q : Text) : (q ++ slashes n).takeWhile isHostChar = q.takeWhile isHostChar := by
  induction q with
  | nil => cases n <;> simp [List.replicate_succ, isHostChar]
  | cons c q ih => rw [List.cons_append, List.takeWhile_cons, List.takeWhile_cons, ih]

theorem splitNetloc_only_slashes : (splitNetloc (slashes n)).1 = [] := by
  match n with
  | 0 | 1 => rfl
  | n + 2 =>
    rw [slashes, List.replicate_succ, List.replicate_succ, splitNetloc_slashes]
    simpa using takeWhile_append_slashes n []

/-- More slashes at the end make no difference to the host, also where the text is all slashes. -/
theorem splitNetloc_append_slashes (t : Text) : (splitNetloc (t ++ slashes n)).1 = (splitNetloc t).1 := by
  match t with
  | [] => exact splitNetloc_only_slashes n
  | [c] =>
    by_cases hc : c = '/'
    · subst hc
      exact splitNetloc_only_slashes (n + 1)
    · rw [splitNetloc_of_ne, splitNetloc_of_ne] <;> simp [hc]
  | c :: d :: q =>
    by_cases h : c = '/' ∧ d = '/'
    · obtain ⟨rfl, rfl⟩ := h
      rw [List.cons_append, List.cons_append, splitNetloc_slashes, splitNetloc_slashes, takeWhile_append_slashes]
    · rw [splitNetloc_of_ne, splitNetloc_of_ne] <;> simpa using h

/-- Slashes at the end do not belong to the host. -/
theorem host_append_slashes (t : Text) : host (t ++ slashes n) = host t := by
  rw [host, clean_append_slashes, splitScheme_append_slashes, splitNetloc_append_slashes, host]

end Slashes

/-! ## A scheme in front -/

section Schemes

theorem toNat_le_of_isUpper {c : Char} (h : c.isUpper = true) : c.toNat ≤ 90 :=
  UInt32.le_iff_toNat_le.mp (of_decide_eq_true h).2

theorem toNat_le_of_isLower {c : Char} (h : c.isLower = true) : c.toNat ≤ 122 :=
  UInt32.le_iff_toNat_le.mp (of_decide_eq_true (Bool.and_eq_true_iff.mp h).2)

theorem toNat_le_of_isDigit {c : Char} (h : c.isDigit = true) : c.toNat ≤ 57 :=
  UInt32.le_iff_toNat_le.mp (of_decide_eq_true (Bool.and_eq_true_iff.mp h).2)

/-- Schemes are made of ASCII characters, so that what holds of each can be decided (`forall_schemeChar`). -/
theorem toNat_lt_of_isSchemeChar {c : Char} (h : isSchemeChar c = true) : c.toNat < 128 := by
  simp only [isSchemeChar, Bool.or_eq_true, beq_iff_eq] at h
  rcases h with ((h | rfl) | rfl) | rfl
  · rcases Bool.or_eq_true_iff.mp h with h | h
    · rcases Bool.or_eq_true_iff.mp h with h | h
      · exact Nat.lt_of_le_of_lt (toNat_le_of_isUpper h) (by decide)
      · exact Nat.lt_of_le_of_lt (toNat_le_of_isLower h) (by decide)
    · exact Nat.lt_of_le_of_lt (toNat_le_of_isDigit h) (by decide)
  · decide
  · decide
  · decide

/-- What holds of the characters of schemes in ASCII holds of all of them. -/
theorem forall_schemeChar {P : Char → Prop} (hP : ∀ n : Fin 128, isSchemeChar (Char.ofNat n) = true → P (Char.ofNat n))
    (c : Char) (h : isSchemeChar c = true) : P c := by
  have hlt := toNat_lt_of_isSchemeChar h
  rw [← Char.ofNat_toNat c] at h ⊢
  exact hP ⟨c.toNat, hlt⟩ h

/-- What is needed of the characters of a scheme, each decided by going through them. -/
theorem schemeChar_ne_colon : ∀ c, isSchemeChar c = true → c ≠ ':' :=
  forall_schemeChar (by decide)

theorem schemeChar_not_tabOrBreak : ∀ c, isSchemeChar c = true → isTabOrBreak c = false :=
  forall_schemeChar (by decide)

theorem schemeChar_not_blank : ∀ c, isSchemeChar c = true → isControlOrBlank c = false :=
  forall_schemeChar (by decide)

theorem schemeChar_toLower : ∀ c, isSchemeChar c = true → isSchemeChar c.toLower = true :=
  forall_schemeChar (by decide)

theorem isAlpha_toLower : ∀ c, isSchemeChar c = true → c.isAlpha = true → c.toLower.isAlpha = true :=
  forall_schemeChar (by decide)

/-- A letter and further characters of schemes. -/
def IsScheme (s : Text) : Prop :=
  (∃ c cs, s = c :: cs ∧ c.isAlpha = true) ∧ ∀ c ∈ s, isSchemeChar c = true

/-- The scheme that is put in front of links without one. -/
theorem isScheme_https : IsScheme "https".toList :=
  ⟨⟨'h', "ttps".toList, rfl, by decide⟩, List.all_eq_true.mp (by decide)⟩

variable {s : Text}

/-- A scheme in lower case is a scheme. -/
theorem IsScheme.toLower (hs : IsScheme s) : IsScheme (s.map Char.toLower) := by
  obtain ⟨⟨c, cs, rfl, hc⟩, hall⟩ := hs
  refine ⟨⟨c.toLower, cs.map Char.toLower, rfl, isAlpha_toLower c (hall c List.mem_cons_self) hc⟩, ?_⟩
  intro d hd
  obtain ⟨c, hc, rfl⟩ := List.mem_map.mp hd
  exact schemeChar_toLower c (hall c hc)

theorem IsScheme.colon_not_mem (hs : IsScheme s) : ':' ∉ s :=
  fun h => schemeChar_ne_colon ':' (hs.2 ':' h) rfl

/-- Cleaning touches nothing in a scheme and goes on behind it. -/
theorem clean_scheme (hs : IsScheme s) (r : Text) :
    clean (s ++ ':' :: r) = s ++ ':' :: r.filter (!isTabOrBreak ·) := by
  have hkeep : s.filter (!isTabOrBreak ·) = s :=
    List.filter_eq_self.mpr fun c hc => by simp [schemeChar_not_tabOrBreak c (hs.2 c hc)]
  have hdrop : (s ++ ':' :: r).dropWhile isControlOrBlank = s ++ ':' :: r := by
    obtain ⟨⟨c, cs, rfl, -⟩, hall⟩ := hs
    exact List.dropWhile_cons_of_neg (by simp [schemeChar_not_blank c (hall c List.mem_cons_self)])
  rw [clean, hdrop, List.filter_append, hkeep]
  rfl

/-- A scheme is split off at its colon, in lower case. -/
theorem splitScheme_scheme (hs : IsScheme s) (r : Text) : splitScheme (s ++ ':' :: r) = (s.map Char.toLower, r) := by
  have hcut := Text.cut?_append_cons r hs.colon_not_mem
  obtain ⟨⟨c, cs, rfl, hc⟩, hall⟩ := hs
  rw [List.cons_append] at hcut ⊢
  simp only [splitScheme, hcut]
  rw [if_pos]
  simpa [hc, List.all_eq_true] using hall

/-- A text has a scheme in front, or is read as one without. -/
theorem splitScheme_eq (t : Text) : splitScheme t = ([], t) ∨ ∃ s r, IsScheme s ∧ t = s ++ ':' :: r := by
  cases t with
  | nil => exact .inl rfl
  | cons c t =>
    cases hcut : Text.cut? ':' (c :: t) with
    | none => exact .inl (by simp [splitScheme, hcut])
    | some p =>
      obtain ⟨s, r⟩ := p
      have ht := Text.eq_of_cut? hcut
      cases hs : !s.isEmpty && c.isAlpha && s.all isSchemeChar with
      | false => exact .inl (by simp only [splitScheme, hcut, hs]; rfl)
      | true =>
        refine .inr ⟨s, r, ?_, ht⟩
        simp only [Bool.and_eq_true, List.all_eq_true] at hs
        obtain ⟨⟨hne, hc⟩, hall⟩ := hs
        cases s with
        | nil => cases hne
        | cons d s =>
          cases ht
          exact ⟨⟨_, s, rfl, hc⟩, hall⟩

/-- The host behind a scheme and its colon is read like one without them. -/
theorem host_scheme (hs : IsScheme s) (q : Text) : host (s ++ ':' :: '/' :: '/' :: q) = host ('/' :: '/' :: q) := by
  have hclean : clean ('/' :: '/' :: q) = '/' :: '/' :: q.filter (!isTabOrBreak ·) := rfl
  rw [host, host, clean_scheme hs, splitScheme_scheme hs, hclean, splitScheme_slash]
  rfl

/-- The host of a text that begins with two slashes stands behind them. -/
theorem host_slashes (q : Text) : host ('/' :: '/' :: q) = (q.filter (!isTabOrBreak ·)).takeWhile isHostChar := by
  rw [host, show clean ('/' :: '/' :: q) = '/' :: '/' :: q.filter (!isTabOrBreak ·) from rfl, splitScheme_slash,
    splitNetloc_slashes]

/-- A host holds none of the delimiters after it, and nothing that is left out in reading. -/
theorem host_char {t : Text} {c : Char} (hc : c ∈ host t) : isHostChar c = true ∧ isTabOrBreak c = false := by
  have hmem : ∀ r : Text, (∀ d ∈ r, d ∈ clean t) → c ∈ (splitNetloc r).1 →
      isHostChar c = true ∧ isTabOrBreak c = false := by
    intro r hr hc
    by_cases h : ∃ q, r = '/' :: '/' :: q
    · obtain ⟨q, rfl⟩ := h
      rw [splitNetloc_slashes] at hc
      have hkept := hr c (List.mem_cons_of_mem _ (List.mem_cons_of_mem _ (List.takeWhile_subset _ hc)))
      exact ⟨List.mem_takeWhile_imp hc, by simpa using (List.mem_filter.mp hkept).2⟩
    · rw [splitNetloc_of_ne fun q hq => h ⟨q, hq⟩] at hc
      cases hc
  rcases splitScheme_eq (clean t) with h | ⟨s, r, hs, ht⟩
  · exact hmem _ (by rw [h]; exact fun d hd => hd) hc
  · refine hmem _ ?_ hc
    rw [ht, splitScheme_scheme hs]
    exact fun d hd => List.mem_append_right _ (List.mem_cons_of_mem _ hd)

/-- What is read of a text that names a well-formed host. -/
theorem parse?_eq_some {t : Text} {u : Url} (h : parse? t = some u) :
    u.scheme = (splitScheme (clean t)).1 ∧ u.netloc = host t ∧ fitsNetloc (host t) = true := by
  simp only [parse?, parseWith?] at h
  split at h
  · rename_i hfits
    cases h
    refine ⟨?_, rfl, hfits⟩
    cases hs : (splitScheme (clean t)).1 <;> rfl
  · cases h

/-- The scheme and host of a URL make a URL again. -/
theorem parse?_render_place {t : Text} {u : Url} (h : parse? t = some u) (hs : u.scheme ≠ []) (hn : u.netloc ≠ []) :
    parse? (render ⟨u.scheme, u.netloc, [], [], [], []⟩) ≠ none := by
  obtain ⟨hscheme, hnetloc, hfits⟩ := parse?_eq_some h
  have his : IsScheme u.scheme := by
    rcases splitScheme_eq (clean t) with hnone | ⟨s, r, his, ht⟩
    · rw [hnone] at hscheme
      exact (hs hscheme).elim
    · rw [hscheme, ht, splitScheme_scheme his]
      exact his.toLower
  have hrender : render ⟨u.scheme, u.netloc, [], [], [], []⟩ = u.scheme ++ ':' :: '/' :: '/' :: u.netloc := by
    simp [render, renderPlace, delimited, hs, hn]
  have hhost : host ('/' :: '/' :: u.netloc) = u.netloc := by
    rw [host_slashes, List.filter_eq_self.mpr fun c hc => by simp [(host_char (hnetloc ▸ hc)).2],
      List.takeWhile_eq_self_iff.mpr fun c hc => (host_char (hnetloc ▸ hc)).1]
  rw [Ne, parse?_eq_none_iff, hrender, host_scheme his, hhost, hnetloc, hfits]
  exact Bool.noConfusion

end Schemes

/-! ## Resolving -/

/-- Resolving against a well-formed base fails only if the link is malformed. -/
theorem resolve?_eq_none_iff {base url : Text} (hb : parse? base ≠ none) (hu : url ≠ []) (hbase : base ≠ []) :
    resolve? base url = none ↔ parse? url = none := by
  obtain ⟨b, hb⟩ := Option.ne_none_iff_exists'.mp hb
  have hsame : parseWith? b.scheme url = none ↔ parse? url = none := by
    rw [parseWith?_eq_none_iff, parse?_eq_none_iff]
  rw [resolve?, if_neg (by simpa using hbase), if_neg (by simpa using hu), hb, ← hsame]
  simp only [Option.bind_eq_bind, Option.bind_some]
  cases parseWith? b.scheme url with
  | none => simp
  | some u =>
    -- every branch gives a text
    simp only [Option.bind_some, reduceCtorEq, iff_false]
    repeat' split
    all_goals exact Option.some_ne_none _

end Url

namespace Link

/-! ## Links -/

/-- A base path with one slash at its end. -/
def rooted (base : Text) : Text :=
  Text.trimEnd (· == '/') base ++ ['/']

/-- A link as it is resolved: trimmed, and without its parameters if they are to be removed. -/
def prepared (removeParameters : Bool) (url : Text) : Text :=
  if removeParameters then withoutParameters (tidy url) else tidy url

/-- A link has a malformed host, or is relative and comes to a URL with one. -/
def Malformed (base : Text) (removeParameters : Bool) (url : Text) : Prop :=
  url ≠ [] ∧
    (Url.parse? (prepared removeParameters url) = none ∨
      base ≠ [] ∧ isRelative? (prepared removeParameters url) = some true ∧
        ∃ joined, Url.resolve? (rooted base) (prepared removeParameters url) = some joined ∧ Url.parse? joined = none)

/-- The slash at the end of a base path is put there or taken away without harm. -/
theorem parse?_rooted (base : Text) : Url.parse? (rooted base) = none ↔ Url.parse? base = none := by
  obtain ⟨n, hn⟩ := Text.trimEnd_append_replicate '/' base
  refine Url.parse?_congr ?_
  rw [show rooted base = Text.trimEnd (· == '/') base ++ Url.slashes 1 from rfl, Url.host_append_slashes]
  conv_rhs => rw [hn]
  exact (Url.host_append_slashes n _).symm

/-- The URL with a scheme if it begins with its host. -/
def schemed (url : Text) : Text :=
  if Text.startsWith ['/', '/'] url then "https:".toList ++ url else url

/-- The scheme that a URL gets in front of its host does not make it malformed. -/
theorem parse?_schemed (url : Text) : Url.parse? (schemed url) = none ↔ Url.parse? url = none := by
  rw [schemed]
  split
  · rename_i h
    obtain ⟨q, hq⟩ := Option.isSome_iff_exists.mp h
    rw [Text.dropPrefix?_eq_some_iff] at hq
    subst hq
    exact Url.parse?_congr (Url.host_scheme Url.isScheme_https q)
  · exact Iff.rfl

/-- Whether a link is relative can be asked just if it can be read. -/
theorem isRelative?_eq_none_iff {url : Text} : isRelative? url = none ↔ Url.parse? url = none := by
  rw [isRelative?, Option.map_eq_none_iff]

/-- A relative link is resolved if there is a base path; any other gets a scheme if it has none. -/
theorem absolute?_eq (base url : Text) : absolute? base url =
    if base = [] then some (schemed url)
    else (isRelative? url).bind fun relative =>
        if relative then Url.resolve? (rooted base) url else some (schemed url) := by
  cases base <;> rfl

/-- A URL is resolved against a base with a well-formed host if it has one itself. -/
theorem resolve?_rooted {base url : Text} (hb : Url.parse? base ≠ none) (hu : Url.parse? url ≠ none) :
    ∃ joined, Url.resolve? (rooted base) url = some joined := by
  have hroot : Url.parse? (rooted base) ≠ none := fun h => hb ((parse?_rooted base).mp h)
  cases hurl : url with
  | nil => exact ⟨rooted base, by simp [Url.resolve?, rooted]⟩
  | cons c t =>
    rw [← hurl]
    refine Option.ne_none_iff_exists'.mp fun h => hu ?_
    exact (Url.resolve?_eq_none_iff hroot (by simp [hurl]) (by simp [rooted])).mp h

/-- The absolute form of a link has a malformed host, or there is none, if the link has one, or its resolution does. -/
theorem absolute?_bind_eq_none_iff {base : Text} (hb : Url.parse? base ≠ none) (url : Text) :
    (absolute? base url).bind Url.parse? = none ↔
      Url.parse? url = none ∨
        base ≠ [] ∧ isRelative? url = some true ∧
          ∃ joined, Url.resolve? (rooted base) url = some joined ∧ Url.parse? joined = none := by
  rw [absolute?_eq]
  by_cases hbase : base = []
  · rw [if_pos hbase, Option.bind_some, parse?_schemed]
    simp [hbase]
  · rw [if_neg hbase]
    cases hrel : isRelative? url with
    | none => simp [isRelative?_eq_none_iff.mp hrel]
    | some relative =>
      have hparse : Url.parse? url ≠ none := by
        rw [Ne, ← isRelative?_eq_none_iff, hrel]
        exact Option.some_ne_none _
      cases relative with
      | false => simp [parse?_schemed]
      | true =>
        obtain ⟨joined, hjoined⟩ := resolve?_rooted hb hparse
        simp [hjoined, hbase, hparse]

/-- The normal form of a link is that of what it comes to. -/
theorem normalize?_eq {url : Text} (hne : url ≠ []) (base : Text) (removeParameters trailingSlash : Bool) :
    normalize? url base removeParameters trailingSlash =
      ((absolute? base (prepared removeParameters url)).bind Url.parse?).map fun u =>
        Url.render { u with path := if trailingSlash then withSlash u.path else withoutSlash u.path } := by
  simp only [normalize?, if_neg (show ¬ url.isEmpty = true by simpa using hne), Option.map_eq_bind, Option.bind_assoc]
  rfl

/-- Against a base with a well-formed host, a link has no normal form exactly if it is malformed. -/
theorem normalize?_eq_none_iff {base : Text} (hb : Url.parse? base ≠ none) (url : Text)
    (removeParameters trailingSlash : Bool) :
    normalize? url base removeParameters trailingSlash = none ↔ Malformed base removeParameters url := by
  rw [Malformed]
  cases hu : url.isEmpty with
  | true => simp [normalize?, List.isEmpty_iff.mp hu]
  | false =>
    have hne : url ≠ [] := fun h => by simp [h] at hu
    rw [normalize?_eq hne, Option.map_eq_none_iff, absolute?_bind_eq_none_iff hb]
    simp [hne]

/-- The base path of a URL is a URL. -/
theorem parse?_of_basePath? {url base : Text} (h : basePath? url = some base) : Url.parse? base ≠ none := by
  rw [basePath?] at h
  split at h
  · cases h
    decide
  · obtain ⟨u, hu, rfl⟩ := Option.map_eq_some_iff.mp h
    split
    · decide
    · rename_i hne
      rw [Bool.or_eq_true, not_or, List.isEmpty_iff, List.isEmpty_iff] at hne
      exact Url.parse?_render_place hu hne.1 hne.2

/-- Without a URL the base path is the empty one. -/
theorem basePath?_eq_none_iff {url : Text} :
    basePath? url = none ↔ url ≠ [] ∧ Url.parse? (Text.trim url) = none := by
  rw [basePath?]
  split <;> simp_all

end Link

end Excerpt
