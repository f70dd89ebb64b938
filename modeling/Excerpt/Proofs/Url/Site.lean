import Excerpt.Proofs.Text.Trim
import Excerpt.Proofs.Url.Malformed

/-!
# Links that stay on their site

A `Site` is a scheme of the web and a host. A text that names neither a scheme nor a host (`Url.Relative`) is resolved
to a URL of the site: `Site.names_resolve?`.

Encoding blanks and cutting off parameters leaves a relative link relative (`Url.Relative.replaceChar`,
`Url.Relative.of_append`), but taking `..` off in front of two slashes makes a host of what follows. So
`Link.names_normalize?_iff`: the normal form of a relative link names its site exactly if the link does not begin with
`..//`, or if it names the site without any base path.
-/

namespace Excerpt

namespace Text

variable {c : Char} {new : Text}

/-- A beginning that is not touched by a replacement is one of the text that it was made in. -/
theorem exists_append_of_replaceChar {d : Char} {ds : Text} (hnew : new = d :: ds) : ∀ {w t r : Text}, d ∉ w →
    replaceChar c new t = w ++ r → ∃ r', t = w ++ r'
  | [], t, _, _, _ => ⟨t, rfl⟩
  | x :: w, [], _, _, h => by cases h
  | x :: w, e :: t, r, hd, h => by
    rw [List.mem_cons, not_or] at hd
    rw [replaceChar, List.flatMap_cons, ← replaceChar] at h
    split at h
    · rw [hnew, List.cons_append, List.cons_append, List.cons.injEq] at h
      exact (hd.1 h.1).elim
    · rw [List.singleton_append, List.cons_append, List.cons.injEq] at h
      obtain ⟨r', rfl⟩ := exists_append_of_replaceChar hnew hd.2 h.2
      exact ⟨r', by rw [h.1, List.cons_append]⟩

theorem startsWith_iff {p t : Text} : startsWith p t = true ↔ ∃ r, t = p ++ r := by
  rw [startsWith, Option.isSome_iff_exists]
  exact exists_congr fun r => dropPrefix?_eq_some_iff

end Text

namespace Url

/-! ## Relative texts -/

/-- A text with neither a scheme nor a host in front. -/
def Relative (t : Text) : Prop :=
  (∀ s r, IsScheme s → t ≠ s ++ ':' :: r) ∧ ∀ r, t ≠ '/' :: '/' :: r

section Relative

variable {t : Text}

theorem Relative.of_append {a b : Text} (h : Relative (a ++ b)) : Relative a := by
  refine ⟨?_, ?_⟩
  · rintro s r hs rfl
    exact h.1 s (r ++ b) hs (List.append_assoc _ _ _)
  · rintro r rfl
    exact h.2 (r ++ b) rfl

/-- A replacement by a text that begins with no character of a scheme keeps a relative text relative. -/
theorem Relative.replaceChar {c d : Char} {ds : Text} (hd : isSchemeChar d = false) (hcolon : d ≠ ':')
    (hslash : d ≠ '/')
    (h : Relative t) : Relative (Text.replaceChar c (d :: ds) t) := by
  refine ⟨fun s r hs he => ?_, fun r he => ?_⟩
  · have hmem : d ∉ s ++ [':'] := by
      rw [List.mem_append, List.mem_singleton, not_or]
      exact ⟨fun hm => by simp [hs.2 d hm] at hd, hcolon⟩
    obtain ⟨r', rfl⟩ := Text.exists_append_of_replaceChar rfl hmem (he.trans (List.append_cons s ':' r))
    exact h.1 s r' hs (List.append_assoc _ _ _)
  · obtain ⟨r', rfl⟩ := Text.exists_append_of_replaceChar (w := ['/', '/']) rfl (by simpa using hslash) he
    exact h.2 r' rfl

/-- One slash in front makes a text relative, two do not. -/
theorem relative_slash (h : ∀ r, t ≠ '/' :: r) : Relative ('/' :: t) := by
  refine ⟨?_, fun r he => h r (List.cons.inj he).2⟩
  rintro s r ⟨⟨c, cs, rfl, hc⟩, -⟩ he
  cases he
  exact absurd hc (by decide)

/-- What is read of a text without controls that does not begin with a blank is the text. -/
theorem clean_eq_self (hall : ∀ c ∈ t, 32 ≤ c.toNat) (hhead : t.head? ≠ some ' ') : clean t = t := by
  have hdrop : t.dropWhile isControlOrBlank = t := by
    cases t with
    | nil => rfl
    | cons c t =>
      refine List.dropWhile_cons_of_neg fun hc => hhead ?_
      have hle : c.toNat ≤ 32 := of_decide_eq_true hc
      have hge := hall c List.mem_cons_self
      rw [List.head?_cons, ← Char.ofNat_toNat c, Nat.le_antisymm hle hge]
  have hkeep : ∀ c ∈ t, (!isTabOrBreak c) = true := by
    intro c hc
    have hge := hall c hc
    simp only [isTabOrBreak, Bool.not_eq_true', Bool.or_eq_false_iff, beq_eq_false_iff_ne]
    refine ⟨⟨?_, ?_⟩, ?_⟩ <;> rintro rfl <;> exact absurd hge (by decide)
  rw [clean, hdrop, List.filter_eq_self.mpr hkeep]

theorem relative_of_isRelative? (hclean : clean t = t) (h : Link.isRelative? t = some true) : Relative t := by
  obtain ⟨u, hu, hrel⟩ := Option.map_eq_some_iff.mp h
  rw [Bool.and_eq_true, List.isEmpty_iff, Bool.not_eq_true'] at hrel
  obtain ⟨hempty, hstarts⟩ := hrel
  have hscheme := (parse?_eq_some hu).1
  rw [hclean, hempty] at hscheme
  refine ⟨?_, ?_⟩
  · rintro s r hs rfl
    rw [splitScheme_scheme hs, List.nil_eq, List.map_eq_nil_iff] at hscheme
    obtain ⟨⟨c, cs, rfl, -⟩, -⟩ := hs
    cases hscheme
  · rintro r rfl
    cases hstarts

theorem Relative.splitScheme_eq (h : Relative t) : splitScheme t = ([], t) := by
  rcases Url.splitScheme_eq t with hs | ⟨s, r, hs, ht⟩
  · exact hs
  · exact (h.1 s r hs ht).elim

/-- A relative text takes the default scheme and has no host. -/
theorem Relative.parseWith?_eq_some (h : Relative t) (hclean : clean t = t) {scheme : Text} {u : Url}
    (hu : parseWith? scheme t = some u) : u.scheme = scheme ∧ u.netloc = [] := by
  simp only [parseWith?, hclean, h.splitScheme_eq, splitNetloc_of_ne h.2] at hu
  split at hu
  · cases hu
    exact ⟨rfl, rfl⟩
  · cases hu

theorem Relative.isRelative? (h : Relative t) (hclean : clean t = t) {relative : Bool}
    (hr : Link.isRelative? t = some relative) : relative = true := by
  obtain ⟨u, hu, rfl⟩ := Option.map_eq_some_iff.mp hr
  have hstarts : Text.startsWith ['/', '/'] t = false := by
    rw [← Bool.not_eq_true, Text.startsWith_iff]
    exact fun ⟨r, hr⟩ => h.2 r hr
  rw [(h.parseWith?_eq_some hclean hu).1, hstarts]
  rfl

end Relative

/-- A part that is written begins with its delimiter. -/
theorem eq_of_head?_delimited {d c : Char} {part : Text} (h : (delimited d part).head? = some c) : c = d := by
  rw [delimited] at h
  split at h
  · cases h
  · exact (Option.some.inj h).symm

end Url

/-! ## Sites -/

/-- A scheme of the web and a host. -/
structure Site where
  scheme : Text
  host : Text
  scheme_eq : scheme = "http".toList ∨ scheme = "https".toList
  host_ne_nil : host ≠ []
  host_char : ∀ c ∈ host, Url.isHostChar c = true ∧ Url.isTabOrBreak c = false

namespace Site

variable (s : Site)

/-- The base path of a site. -/
def base : Text :=
  s.scheme ++ ':' :: '/' :: '/' :: s.host

/-- Whether a link is a URL of the site. -/
def Names (link : Text) : Prop :=
  ∃ u, Url.parse? link = some u ∧ u.scheme = s.scheme ∧ u.netloc = s.host

variable {s}

theorem isScheme : Url.IsScheme s.scheme := by
  rcases s.scheme_eq with h | h <;> rw [h]
  · exact ⟨⟨'h', "ttp".toList, rfl, by decide⟩, List.all_eq_true.mp (by decide)⟩
  · exact Url.isScheme_https

theorem map_toLower_scheme : s.scheme.map Char.toLower = s.scheme := by
  rcases s.scheme_eq with h | h <;> rw [h] <;> decide

theorem scheme_ne_nil : s.scheme ≠ [] := by
  rcases s.scheme_eq with h | h <;> rw [h] <;> decide

/-- References are resolved against URLs of both schemes. -/
theorem schemeIn_relativeSchemes : Url.schemeIn Url.relativeSchemes s.scheme = true := by
  rcases s.scheme_eq with h | h <;> rw [h] <;> decide

/-- URLs of both schemes have a host. -/
theorem schemeIn_hostSchemes : Url.schemeIn Url.hostSchemes s.scheme = true := by
  rcases s.scheme_eq with h | h <;> rw [h] <;> decide

theorem base_ne_nil : s.base ≠ [] :=
  List.append_ne_nil_of_right_ne_nil _ (List.cons_ne_nil _ _)

/-- A text behind the base path leaves the host as it is if it begins with a delimiter. -/
theorem host_base_append {rest : Text} (hrest : ∀ c, rest.head? = some c → Url.isHostChar c = false) :
    Url.host (s.base ++ rest) = s.host := by
  have hread :
      Url.host (s.base ++ rest) = ((s.host ++ rest).filter (!Url.isTabOrBreak ·)).takeWhile Url.isHostChar := by
    rw [base, List.append_assoc, ← Url.host_slashes]
    exact Url.host_scheme s.isScheme (s.host ++ rest)
  have hkeep : s.host.filter (!Url.isTabOrBreak ·) = s.host :=
    List.filter_eq_self.mpr fun c hc => by simp [(s.host_char c hc).2]
  rw [hread, List.filter_append, hkeep, List.takeWhile_append_of_pos fun c hc => (s.host_char c hc).1]
  cases rest with
  | nil => exact List.append_nil _
  | cons c rest =>
    have hc := hrest c rfl
    -- A delimiter is no tab or line break.
    have hkept : (!Url.isTabOrBreak c) = true := by
      simp only [Url.isHostChar, Bool.and_eq_false_iff, bne_eq_false_iff_eq] at hc
      rcases hc with (rfl | rfl) | rfl <;> decide
    rw [List.filter_cons_of_pos (by exact hkept), List.takeWhile_cons_of_neg (by simp [hc]), List.append_nil]

theorem names_base_append {rest : Text} (hrest : ∀ c, rest.head? = some c → Url.isHostChar c = false)
    (hfits : Url.fitsNetloc s.host = true) : s.Names (s.base ++ rest) := by
  have hhost := host_base_append (s := s) hrest
  have hparse : Url.parse? (s.base ++ rest) ≠ none := by
    rw [Ne, Url.parse?_eq_none_iff, hhost, hfits]
    exact Bool.noConfusion
  obtain ⟨u, hu⟩ := Option.ne_none_iff_exists'.mp hparse
  obtain ⟨hscheme, hnetloc, -⟩ := Url.parse?_eq_some hu
  refine ⟨u, hu, ?_, hnetloc.trans hhost⟩
  rw [hscheme, base, List.append_assoc, List.cons_append, Url.clean_scheme s.isScheme,
    Url.splitScheme_scheme s.isScheme, map_toLower_scheme]

/-- A host is written behind two slashes, and a path behind it begins with a slash. -/
theorem exists_renderPlace (s : Site) (path : Text) : ∃ path', Url.renderPlace s.scheme s.host path =
    '/' :: '/' :: s.host ++ path' ∧ ∀ c, path'.head? = some c → c = '/' := by
  rw [Url.renderPlace, if_pos (by simp [s.host_ne_nil])]
  refine ⟨_, rfl, fun c hc => ?_⟩
  split at hc
  · rename_i hpath
    rcases Bool.or_eq_true_iff.mp hpath with h | h
    · rw [List.isEmpty_iff.mp h] at hc
      cases hc
    · rw [beq_iff_eq.mp h] at hc
      exact (Option.some.inj hc).symm
  · exact (Option.some.inj hc).symm

/-- A URL with the scheme and the host of a site is written behind its base path. -/
theorem render_eq {u : Url} (hscheme : u.scheme = s.scheme) (hnetloc : u.netloc = s.host) :
    ∃ rest, u.render = s.base ++ rest ∧ ∀ c, rest.head? = some c → Url.isHostChar c = false := by
  obtain ⟨path, hpath, hhead⟩ := exists_renderPlace s (u.path ++ Url.delimited ';' u.params)
  refine ⟨path ++ (Url.delimited '?' u.query ++ Url.delimited '#' u.fragment), ?_, fun c hc => ?_⟩
  · rw [Url.render, hscheme, hnetloc, hpath, if_neg (by simpa using s.scheme_ne_nil), base]
    simp only [List.append_assoc, List.cons_append, List.nil_append]
  · -- What follows the host begins with a slash, a question mark or a hash.
    rw [List.head?_append, List.head?_append, Option.or_eq_some_iff, Option.or_eq_some_iff] at hc
    rcases hc with hc | ⟨-, hc | ⟨-, hc⟩⟩
    · rw [hhead c hc]
      decide
    · rw [Url.eq_of_head?_delimited hc]
      decide
    · rw [Url.eq_of_head?_delimited hc]
      decide

theorem names_render {u : Url} (hscheme : u.scheme = s.scheme) (hnetloc : u.netloc = s.host)
    (hfits : Url.fitsNetloc s.host = true) : s.Names u.render := by
  obtain ⟨rest, hrender, hrest⟩ := render_eq hscheme hnetloc
  exact hrender ▸ names_base_append hrest hfits

/-! ## Resolving -/

theorem rooted_base : Link.rooted s.base = s.base ++ ['/'] := by
  have hhost : Text.trimEnd (· == '/') s.host = s.host := by
    refine Text.trimEnd_eq_self fun c hc => ?_
    have hc := (s.host_char c hc).1
    simp only [Url.isHostChar, Bool.and_eq_true, bne_iff_ne] at hc
    exact beq_eq_false_iff_ne.mpr hc.1.1
  have hbase : Text.trimEnd (· == '/') s.base = s.base := by
    have happend : s.base = (s.scheme ++ [':', '/', '/']) ++ s.host := by simp [base]
    rw [happend, Text.trimEnd_append_of_ne_nil (by rw [hhost]; exact s.host_ne_nil), hhost]
  rw [Link.rooted, hbase]

/-- A URL that a relative text is resolved to against a site names the site. -/
theorem names_resolve? {t joined : Text} (ht : Url.Relative t) (hclean : Url.clean t = t)
    (h : Url.resolve? (Link.rooted s.base) t = some joined) (hparse : Url.parse? joined ≠ none) : s.Names joined := by
  have hslash : ∀ c, ['/'].head? = some c → Url.isHostChar c = false := by
    intro c hc
    cases hc
    rfl
  have hrooted : Url.parse? (Link.rooted s.base) = none ↔ Url.fitsNetloc s.host = false := by
    rw [Url.parse?_eq_none_iff, rooted_base, host_base_append hslash]
  rw [Url.resolve?, if_neg (by simp [rooted_base])] at h
  cases hfits : Url.fitsNetloc s.host with
  | false =>
    have hnone := hrooted.mpr hfits
    split at h
    · cases h
      exact (hparse hnone).elim
    · rw [hnone] at h
      cases h
  | true =>
    obtain ⟨b, hb, hscheme, hnetloc⟩ : s.Names (Link.rooted s.base) := rooted_base ▸ names_base_append hslash hfits
    split at h
    · cases h
      exact ⟨b, hb, hscheme, hnetloc⟩
    · simp only [hb, Option.bind_eq_bind, Option.bind_some, hscheme] at h
      obtain ⟨u, hu, h⟩ := Option.bind_eq_some_iff.mp h
      obtain ⟨huscheme, hunetloc⟩ := ht.parseWith?_eq_some hclean hu
      simp only [huscheme, hunetloc, s.schemeIn_relativeSchemes, s.schemeIn_hostSchemes, hnetloc, bne_self_eq_false,
        Bool.not_true, Bool.or_self, Bool.false_eq_true, if_false, if_true, List.isEmpty_nil, Bool.and_false] at h
      split at h
      all_goals
        cases h
        exact names_render rfl rfl hfits

end Site

namespace Link

/-! ## Links of a site -/

/-- Whether a link goes up and then names an empty directory: without its first two points, it begins with a host. -/
def Climbs (url : Text) : Prop :=
  Text.startsWith "..//".toList (Text.trim url) = true

section Links

variable {url : Text}

/-- A link without controls comes to a text without controls and blanks. -/
theorem printable_prepared (hcontrol : ∀ c ∈ url, 32 ≤ c.toNat) (removeParameters : Bool) :
    ∀ c ∈ prepared removeParameters url, 32 ≤ c.toNat ∧ c ≠ ' ' := by
  have hencoded : ∀ c ∈ Text.replaceChar ' ' "%20".toList (Text.trim url), 32 ≤ c.toNat ∧ c ≠ ' ' := by
    intro c hc
    obtain ⟨d, hd, hcd⟩ := List.mem_flatMap.mp hc
    split at hcd
    · have hall : ∀ c ∈ ['%', '2', '0'], 32 ≤ c.toNat ∧ c ≠ ' ' := by simp
      exact hall c hcd
    · rename_i hne
      rw [List.mem_singleton.mp hcd]
      exact ⟨hcontrol d (Text.mem_of_mem_trim hd), hne⟩
  have htidy : ∀ c ∈ tidy url, 32 ≤ c.toNat ∧ c ≠ ' ' := by
    intro c hc
    rw [tidy] at hc
    split at hc
    · exact hencoded c (List.mem_of_mem_drop hc)
    · exact hencoded c hc
  intro c hc
  rw [prepared] at hc
  split at hc
  · exact htidy c (List.takeWhile_subset _ hc)
  · exact htidy c hc

theorem clean_prepared (hcontrol : ∀ c ∈ url, 32 ≤ c.toNat) (removeParameters : Bool) :
    Url.clean (prepared removeParameters url) = prepared removeParameters url := by
  have hprintable := printable_prepared hcontrol removeParameters
  exact Url.clean_eq_self (fun c hc => (hprintable c hc).1) fun h => (hprintable ' ' (List.mem_of_mem_head? h)).2 rfl

theorem prefix_prepared (removeParameters : Bool) (url : Text) :
    ∃ rest, tidy url = prepared removeParameters url ++ rest := by
  rw [prepared]
  split
  · exact ⟨_, (List.takeWhile_append_dropWhile).symm⟩
  · exact ⟨[], (List.append_nil _).symm⟩

/-- A relative link stays relative when it is prepared, unless a host begins behind its first two points. -/
theorem relative_prepared (h : Url.Relative (Text.trim url)) (hclimbs : ¬ Climbs url) (removeParameters : Bool) :
    Url.Relative (prepared removeParameters url) := by
  have hencoded : Url.Relative (Text.replaceChar ' ' "%20".toList (Text.trim url)) :=
    h.replaceChar (by decide) (by decide) (by decide)
  have htidy : Url.Relative (tidy url) := by
    rw [tidy]
    split
    · rename_i hstarts
      obtain ⟨r, hr⟩ := Text.startsWith_iff.mp hstarts
      rw [hr]
      refine Url.relative_slash ?_
      rintro q rfl
      obtain ⟨r', hr'⟩ := Text.exists_append_of_replaceChar (w := "..//".toList) rfl (by decide) hr
      exact hclimbs (Text.startsWith_iff.mpr ⟨r', hr'⟩)
    · exact hencoded
  obtain ⟨rest, hrest⟩ := prefix_prepared removeParameters url
  exact (hrest ▸ htidy).of_append

/-- A link that climbs comes to one that begins with a host. -/
theorem exists_prepared_of_climbs (h : Climbs url) (removeParameters : Bool) :
    ∃ r, prepared removeParameters url = '/' :: '/' :: r := by
  obtain ⟨r, hr⟩ := Text.startsWith_iff.mp h
  have hencoded : Text.replaceChar ' ' "%20".toList ("..//".toList ++ r) =
      "..//".toList ++ Text.replaceChar ' ' "%20".toList r := Text.replaceChar_append_of_not_mem (by decide) r
  have htidy : tidy url = '/' :: '/' :: Text.replaceChar ' ' "%20".toList r := by
    rw [tidy, hr, hencoded]
    rfl
  rw [prepared, htidy]
  split
  · exact ⟨_, rfl⟩
  · exact ⟨_, rfl⟩

/-- A base path makes no difference to a link that climbs. -/
theorem absolute?_of_climbs (h : Climbs url) {base link : Text} {removeParameters : Bool}
    (hlink : absolute? base (prepared removeParameters url) = some link) :
    link = "https:".toList ++ prepared removeParameters url := by
  obtain ⟨r, hr⟩ := exists_prepared_of_climbs h removeParameters
  rw [absolute?_eq, hr] at hlink
  have hschemed : schemed ('/' :: '/' :: r) = "https:".toList ++ '/' :: '/' :: r := rfl
  rw [hr, ← hschemed]
  split at hlink
  · exact (Option.some.inj hlink).symm
  · obtain ⟨relative, hrelative, hlink⟩ := Option.bind_eq_some_iff.mp hlink
    obtain ⟨u, -, rfl⟩ := Option.map_eq_some_iff.mp hrelative
    rw [show Text.startsWith ['/', '/'] ('/' :: '/' :: r) = true from rfl, Bool.not_true, Bool.and_false] at hlink
    exact (Option.some.inj hlink).symm

/-- The normal form of a link that climbs has the scheme `https`. -/
theorem scheme_of_climbs (h : Climbs url) {base link : Text} {removeParameters trailingSlash : Bool} (hne : url ≠ [])
    (hlink : normalize? url base removeParameters trailingSlash = some link) {u : Url} (hu : Url.parse? link = some u) :
    u.scheme = "https".toList := by
  have hscheme : ∀ {t : Text} {u : Url}, Url.parse? ("https".toList ++ ':' :: t) = some u →
      u.scheme = "https".toList := by
    intro t u hu
    rw [(Url.parse?_eq_some hu).1, Url.clean_scheme Url.isScheme_https, Url.splitScheme_scheme Url.isScheme_https]
    rfl
  rw [normalize?_eq hne] at hlink
  obtain ⟨v, hv, rfl⟩ := Option.map_eq_some_iff.mp hlink
  obtain ⟨joined, hjoined, hv⟩ := Option.bind_eq_some_iff.mp hv
  rw [absolute?_of_climbs h hjoined] at hv
  have hvscheme : v.scheme = "https".toList := hscheme hv
  rw [Url.render, if_neg (by simp [hvscheme]), hvscheme, List.append_assoc, List.append_assoc, List.append_assoc] at hu
  exact hscheme hu

/-- The normal form of a link that climbs is the same without a base path. -/
theorem normalize?_of_climbs (h : Climbs url) {base link : Text} {removeParameters trailingSlash : Bool}
    (hne : url ≠ [])
    (hlink : normalize? url base removeParameters trailingSlash = some link) :
    normalize? url [] removeParameters trailingSlash = some link := by
  rw [normalize?_eq hne] at hlink ⊢
  obtain ⟨u, hu, hrender⟩ := Option.map_eq_some_iff.mp hlink
  obtain ⟨joined, hjoined, hu⟩ := Option.bind_eq_some_iff.mp hu
  obtain ⟨r, hr⟩ := exists_prepared_of_climbs h removeParameters
  have hsame : absolute? [] (prepared removeParameters url) = some joined := by
    rw [absolute?_of_climbs h hjoined, absolute?_eq, if_pos rfl, hr]
    rfl
  rw [hsame, ← hrender, Option.bind_some, hu, Option.map_some]

/-- **A relative link that does not climb stays on its site.** -/
theorem names_of_not_climbs {s : Site} {link : Text} (hne : url ≠ []) (hcontrol : ∀ c ∈ url, 32 ≤ c.toNat)
    (hrelative : isRelative? (Text.trim url) = some true) (hclimbs : ¬ Climbs url)
    {removeParameters trailingSlash : Bool}
    (h : normalize? url s.base removeParameters trailingSlash = some link) : s.Names link := by
  rw [normalize?_eq hne] at h
  obtain ⟨u, hu, hrender⟩ := Option.map_eq_some_iff.mp h
  obtain ⟨joined, hjoined, hu⟩ := Option.bind_eq_some_iff.mp hu
  have htrimmed : Url.clean (Text.trim url) = Text.trim url := by
    refine Url.clean_eq_self (fun c hc => hcontrol c (Text.mem_of_mem_trim hc)) fun hhead => ?_
    exact absurd (Text.isSpace_of_head?_trim hhead) (by decide)
  have hprepared := relative_prepared (Url.relative_of_isRelative? htrimmed hrelative) hclimbs removeParameters
  have hclean := clean_prepared hcontrol removeParameters
  rw [absolute?_eq, if_neg s.base_ne_nil] at hjoined
  obtain ⟨relative, hrel, hjoined⟩ := Option.bind_eq_some_iff.mp hjoined
  rw [hprepared.isRelative? hclean hrel, if_pos rfl] at hjoined
  obtain ⟨v, hv, hscheme, hhost⟩ :=
    Site.names_resolve? hprepared hclean hjoined (by rw [hu]; exact Option.some_ne_none u)
  rw [hu] at hv
  cases hv
  have hfits : Url.fitsNetloc s.host = true := by
    have hparts := Url.parse?_eq_some hu
    rw [← hhost, hparts.2.1]
    exact hparts.2.2
  rw [← hrender]
  exact Site.names_render hscheme hhost hfits

end Links

/-- **Where a relative link stays on its site**: the normal form of a relative link without controls, resolved against
the base path of a site, names the site if and only if the link does not climb, or the site has the scheme `https` and
is the one that the link names without a base path. -/
theorem names_normalize?_iff (s : Site) {url link : Text} (hne : url ≠ []) (hcontrol : ∀ c ∈ url, 32 ≤ c.toNat)
    (hrelative : isRelative? (Text.trim url) = some true) {removeParameters trailingSlash : Bool}
    (h : normalize? url s.base removeParameters trailingSlash = some link) :
    s.Names link ↔ ¬ Climbs url ∨
      s.scheme = "https".toList ∧ ∃ alone, normalize? url [] removeParameters trailingSlash = some alone ∧
        s.Names alone := by
  by_cases hclimbs : Climbs url
  · have halone := normalize?_of_climbs hclimbs hne h
    constructor
    · rintro ⟨v, hv, hscheme, hhost⟩
      exact .inr ⟨hscheme.symm.trans (scheme_of_climbs hclimbs hne h hv), link, halone, v, hv, hscheme, hhost⟩
    · rintro (hno | ⟨-, alone, hsome, hnames⟩)
      · exact (hno hclimbs).elim
      · rw [halone] at hsome
        exact Option.some.inj hsome ▸ hnames
  · exact iff_of_true (names_of_not_climbs hne hcontrol hrelative hclimbs h) (.inl hclimbs)

/-- A site. -/
def exampleSite : Site where
  scheme := "https".toList
  host := "example.com".toList
  scheme_eq := .inr rfl
  host_ne_nil := by decide
  host_char := by
    have hall : "example.com".toList.all (fun c => Url.isHostChar c && !Url.isTabOrBreak c) = true := by decide
    simpa only [List.all_eq_true, Bool.and_eq_true, Bool.not_eq_true'] using hall

theorem forall_printable {t : Text} (h : t.all (32 ≤ ·.toNat) = true) : ∀ c ∈ t, 32 ≤ c.toNat := by
  simpa only [List.all_eq_true, decide_eq_true_eq] using h

/-- A link with blanks, a step up and parameters stays on its site. -/
theorem names_normalize?_stepUp :
    let url := " ../a b/./c?x=1".toList
    let link := "https://example.com/a%20b/c".toList
    (url ≠ [] ∧ (∀ c ∈ url, 32 ≤ c.toNat) ∧ isRelative? (Text.trim url) = some true ∧
      normalize? url exampleSite.base true false = some link) ∧ exampleSite.Names link := by
  intro url link
  have hne : url ≠ [] := by decide
  have hcontrol : ∀ c ∈ url, 32 ≤ c.toNat := forall_printable (by decide)
  have hrelative : isRelative? (Text.trim url) = some true := by decide +kernel
  have h : normalize? url exampleSite.base true false = some link := by decide +kernel
  exact ⟨⟨hne, hcontrol, hrelative, h⟩, (names_normalize?_iff exampleSite hne hcontrol hrelative h).mpr (.inl (by
    rw [Climbs]
    decide))⟩

/-- A relative link that leaves its site. -/
theorem normalize?_leaves_site :
    ¬ ∀ (s : Site) (url link : Text), url ≠ [] → (∀ c ∈ url, 32 ≤ c.toNat) → isRelative? (Text.trim url) = some true →
      normalize? url s.base true false = some link → s.Names link := by
  intro h
  have hlink : normalize? "..//evil.com".toList exampleSite.base true false = some "https://evil.com".toList := by
    decide +kernel
  obtain ⟨u, hu, -, hhost⟩ := h exampleSite _ _ (by decide) (forall_printable (by decide)) (by decide +kernel) hlink
  have hother : (Url.parse? "https://evil.com".toList).map Url.netloc = some "evil.com".toList := by decide +kernel
  rw [hu, Option.map_some, hhost] at hother
  exact absurd hother (by decide)

end Link

end Excerpt
