import Excerpt.Proofs.Url.Untouched

/-!
# Links whose normal form is kept

A normal form has a scheme if there is a base path, for it is resolved against one of the web
(`scheme_ne_nil_of_absolute?`). So it is not resolved again (`absolute?_bind_parse?`), and normalizing it comes down to
preparing, reading, finishing and writing it. Hence `normalize?_again_iff`: the normal form of a normal form is the same
exactly if it is `Settled`, that is, if preparing it takes nothing away and its way is read as it was written.
-/

namespace Excerpt.Link

open Url

/-! ## Links with a scheme -/

/-- A text with a scheme in front. -/
def HasScheme (t : Text) : Prop :=
  ∃ s r, IsScheme s ∧ t = s ++ ':' :: r

/-- A base path of the web. -/
def OfWeb (base : Text) : Prop :=
  ∃ b, parse? base = some b ∧ (b.scheme = "http".toList ∨ b.scheme = "https".toList)

section HasScheme

variable {base t : Text} {u : Url} {removeParameters : Bool}

theorem schemeChar_not_space : ∀ c, isSchemeChar c = true → Text.isSpace c = false :=
  forall_schemeChar (by decide)

theorem schemeChar_kept : ∀ c, isSchemeChar c = true → (c != '?' && c != '#') = true :=
  forall_schemeChar (by decide)

theorem HasScheme.scheme_ne_nil (h : HasScheme t) (hu : parse? t = some u) : u.scheme ≠ [] := by
  obtain ⟨s, r, hs, rfl⟩ := h
  obtain ⟨⟨c, cs, rfl, hc⟩, hall⟩ := hs
  rw [(parse?_eq_some hu).1, clean_scheme ⟨⟨c, cs, rfl, hc⟩, hall⟩, splitScheme_scheme ⟨⟨c, cs, rfl, hc⟩, hall⟩]
  exact List.cons_ne_nil _ _

theorem hasScheme_render (h : IsScheme u.scheme) : HasScheme u.render := by
  have hne : ¬ u.scheme.isEmpty = true := by
    obtain ⟨⟨c, cs, hcons, -⟩, -⟩ := h
    rw [hcons]
    exact Bool.false_ne_true
  refine ⟨u.scheme, u.body, h, ?_⟩
  rw [render_eq_body, if_neg hne, List.append_assoc]
  rfl

theorem HasScheme.not_startsWith (h : HasScheme t) {d : Char} (hd : d.isAlpha = false) (p : Text) :
    Text.startsWith (d :: p) t = false := by
  obtain ⟨s, r, ⟨⟨c, cs, rfl, hc⟩, -⟩, rfl⟩ := h
  rw [← Bool.not_eq_true, Text.startsWith_iff]
  rintro ⟨q, hq⟩
  rw [(List.cons.inj hq).1, hd] at hc
  cases hc

theorem HasScheme.schemed_eq (h : HasScheme t) : schemed t = t := by
  rw [schemed, h.not_startsWith (by decide)]
  rfl

theorem HasScheme.levelled_eq (h : HasScheme t) : levelled t = t := by
  rw [levelled, show "../".toList = '.' :: "./".toList from rfl, h.not_startsWith (by decide)]
  rfl

theorem HasScheme.trim (h : HasScheme t) : HasScheme (Text.trim t) := by
  obtain ⟨s, r, hs, rfl⟩ := h
  have hcolon : Text.trimEnd Text.isSpace (':' :: r) = ':' :: Text.trimEnd Text.isSpace r :=
    Text.trimEnd_cons_of_not (by decide) r
  have hstart : (s ++ ':' :: r).dropWhile Text.isSpace = s ++ ':' :: r := by
    obtain ⟨⟨c, cs, rfl, -⟩, hall⟩ := hs
    exact List.dropWhile_cons_of_neg (by simp [schemeChar_not_space c (hall c List.mem_cons_self)])
  refine ⟨s, Text.trimEnd Text.isSpace r, hs, ?_⟩
  rw [Text.trim, Text.trimBy, Text.trimStart, hstart,
    Text.trimEnd_append_of_ne_nil (by rw [hcolon]; exact List.cons_ne_nil _ _), hcolon]

theorem HasScheme.encoded (h : HasScheme t) : HasScheme (Text.replaceChar ' ' "%20".toList t) := by
  obtain ⟨s, r, hs, rfl⟩ := h
  have hblank : ' ' ∉ s ++ [':'] := by
    rw [List.mem_append, List.mem_singleton, not_or]
    exact ⟨fun hm => absurd (schemeChar_not_space ' ' (hs.2 ' ' hm)) (by decide), by decide⟩
  refine ⟨s, Text.replaceChar ' ' "%20".toList r, hs, ?_⟩
  rw [List.append_cons, Text.replaceChar_append_of_not_mem hblank, ← List.append_cons]

theorem HasScheme.withoutParameters (h : HasScheme t) : HasScheme (withoutParameters t) := by
  obtain ⟨s, r, hs, rfl⟩ := h
  have hkept : ∀ c ∈ s, (c != '?' && c != '#') = true := fun c hc => schemeChar_kept c (hs.2 c hc)
  refine ⟨s, Link.withoutParameters r, hs, ?_⟩
  rw [Link.withoutParameters, List.takeWhile_append_of_pos hkept]
  rfl

/-- Preparing a link leaves its scheme as it is. -/
theorem HasScheme.prepared (h : HasScheme t) (removeParameters : Bool) : HasScheme (prepared removeParameters t) := by
  have htidy : HasScheme (tidy t) := by
    rw [tidy_eq, h.trim.encoded.levelled_eq]
    exact h.trim.encoded
  cases removeParameters with
  | true => exact htidy.withoutParameters
  | false => exact htidy

/-- A link with a scheme is not resolved, and without a base path, none is. -/
theorem absolute?_bind_parse? (h : base = [] ∨ HasScheme t) : (absolute? base t).bind parse? = parse? (schemed t) := by
  rw [absolute?_eq]
  by_cases hbase : base = []
  · rw [if_pos hbase, Option.bind_some]
  · have hscheme := h.resolve_left hbase
    rw [if_neg hbase, hscheme.schemed_eq, isRelative?]
    cases hp : parse? t with
    | none => rfl
    | some p =>
      have hne := hscheme.scheme_ne_nil hp
      simp [hne, hp]

end HasScheme

/-! ## Base paths of the web -/

section OfWeb

variable {base t a : Text} {u : Url}

theorem OfWeb.ne_nil (h : OfWeb base) : base ≠ [] := by
  rintro rfl
  obtain ⟨b, hb, hscheme⟩ := h
  have hnone : parse? [] = some ⟨[], [], [], [], [], []⟩ := by decide
  rw [hnone] at hb
  cases hb
  exact absurd hscheme (by decide)

/-- A slash at the end of a base path makes no difference to its scheme. -/
theorem OfWeb.exists_parse?_rooted (h : OfWeb base) :
    ∃ b, parse? (rooted base) = some b ∧ (b.scheme = "http".toList ∨ b.scheme = "https".toList) := by
  obtain ⟨b, hb, hscheme⟩ := h
  have hsome : parse? (rooted base) ≠ none := fun hnone => by
    rw [parse?_rooted, hb] at hnone
    cases hnone
  obtain ⟨b', hb'⟩ := Option.ne_none_iff_exists'.mp hsome
  obtain ⟨n, hn⟩ := Text.trimEnd_append_replicate '/' base
  have hsame : b'.scheme = b.scheme := by
    rw [(parse?_eq_some hb').1, (parse?_eq_some hb).1]
    conv_rhs => rw [hn]
    rw [rooted, show ['/'] = slashes 1 from rfl, clean_append_slashes, clean_append_slashes, splitScheme_append_slashes,
      splitScheme_append_slashes]
  exact ⟨b', hb', hsame ▸ hscheme⟩

theorem parseWith?_scheme {scheme : Text} {p r : Url} (hp : parse? t = some p) (hnone : p.scheme = [])
    (hr : parseWith? scheme t = some r) : r.scheme = scheme := by
  have hfound := (parse?_eq_some hp).1
  rw [hnone] at hfound
  simp only [parseWith?, ← hfound] at hr
  split at hr
  · cases hr
    rfl
  · cases hr

/-- What a text without a scheme is resolved to has the scheme of the base. -/
theorem scheme_ne_nil_of_resolve? {b p : Url} (hb : parse? base = some b)
    (hscheme : b.scheme = "http".toList ∨ b.scheme = "https".toList) (hp : parse? t = some p) (hnone : p.scheme = [])
    (hbase : base ≠ []) (ha : resolve? base t = some a) (hu : parse? a = some u) : u.scheme ≠ [] := by
  have hne : b.scheme ≠ [] := by
    rcases hscheme with h | h <;> rw [h] <;> decide
  have hrelative : schemeIn relativeSchemes b.scheme = true := by
    rcases hscheme with h | h <;> rw [h] <;> decide
  have hrender : ∀ w : Url, w.scheme = b.scheme → HasScheme w.render := fun w hw =>
    hasScheme_render (hw ▸ ((exists_pieces hb).1.scheme_eq.resolve_left hne).1)
  rw [resolve?, if_neg (by simpa using hbase)] at ha
  split at ha
  · cases ha
    rw [hb] at hu
    cases hu
    exact hne
  · simp only [hb, Option.bind_eq_bind, Option.bind_some] at ha
    obtain ⟨r, hr, ha⟩ := Option.bind_eq_some_iff.mp ha
    have hr := parseWith?_scheme hp hnone hr
    simp only [hr, hrelative, bne_self_eq_false, Bool.not_true, Bool.or_self, Bool.false_eq_true, if_false] at ha
    -- Whatever is taken from the base, the URL is written with its scheme.
    repeat' split at ha
    all_goals
      cases ha
      exact (hrender _ (by simp [hr])).scheme_ne_nil hu

/-- **Against a base path of the web, what a link comes to has a scheme.** -/
theorem scheme_ne_nil_of_absolute? (h : OfWeb base) (ha : absolute? base t = some a) (hu : parse? a = some u) :
    u.scheme ≠ [] := by
  rw [absolute?_eq, if_neg h.ne_nil] at ha
  obtain ⟨relative, hrelative, ha⟩ := Option.bind_eq_some_iff.mp ha
  obtain ⟨p, hp, rfl⟩ := Option.map_eq_some_iff.mp hrelative
  obtain ⟨b, hb, hscheme⟩ := h.exists_parse?_rooted
  split at ha
  · rename_i hrel
    rw [Bool.and_eq_true, List.isEmpty_iff] at hrel
    exact scheme_ne_nil_of_resolve? hb hscheme hp hrel.1 (by simp [rooted]) ha hu
  · rename_i hrel
    cases ha
    by_cases hstarts : Text.startsWith ['/', '/'] t = true
    · rw [schemed, if_pos hstarts] at hu
      exact HasScheme.scheme_ne_nil ⟨"https".toList, t, isScheme_https, rfl⟩ hu
    · rw [schemed, if_neg hstarts, hp] at hu
      cases hu
      simpa [hstarts] using hrel

end OfWeb

/-! ## The normal form of a normal form -/

/-- The URL that the normal form of a link is written from, or `none` if its host or that of the base is malformed. -/
def written? (url base : Text) (removeParameters trailingSlash : Bool) : Option Url :=
  ((absolute? base (prepared removeParameters url)).bind parse?).map (finished trailingSlash)

/-- A URL is written as a text that preparing takes nothing away from, and that is read as it was written. -/
structure Settled (removeParameters trailingSlash : Bool) (v : Url) : Prop where
  untouched : Untouched removeParameters v.render
  rereads : Rereads trailingSlash v

section Written

variable {url base : Text} {removeParameters trailingSlash : Bool} {v : Url}

theorem normalize?_eq_written (hne : url ≠ []) :
    normalize? url base removeParameters trailingSlash =
      (written? url base removeParameters trailingSlash).map render := by
  rw [normalize?_eq hne, written?, Option.map_map]
  rfl

theorem weight_schemed (t : Text) : weight (schemed t) = weight t := by
  rw [schemed]
  split
  · rw [weight_append, show weight "https:".toList = 0 by decide, Nat.zero_add]
  · rfl

theorem sound_of_written? (hv : written? url base removeParameters trailingSlash = some v) :
    Sound v ∧ IsEnded trailingSlash v.scheme v.way := by
  obtain ⟨u, hu, rfl⟩ := Option.map_eq_some_iff.mp hv
  obtain ⟨a, -, hu⟩ := Option.bind_eq_some_iff.mp hu
  have hsound := (exists_pieces hu).1
  exact ⟨sound_finished hsound trailingSlash, isEnded_way hsound trailingSlash⟩

/-- A normal form without a scheme is that of a relative link without a base path, and is relative itself. -/
theorem bare_of_written? (hcontrol : ∀ c ∈ url, 32 ≤ c.toNat) (hbase : base = [] ∨ OfWeb base)
    (hv : written? url base removeParameters trailingSlash = some v) (hnone : v.scheme = []) :
    base = [] ∧ Relative v.render ∧ clean v.render = v.render := by
  obtain ⟨u, hu, rfl⟩ := Option.map_eq_some_iff.mp hv
  obtain ⟨a, ha, hu⟩ := Option.bind_eq_some_iff.mp hu
  have hempty : base = [] := hbase.resolve_right fun h => scheme_ne_nil_of_absolute? h ha hu hnone
  have hprintable := printable_prepared hcontrol removeParameters
  have hclean := clean_prepared hcontrol removeParameters
  rw [absolute?_eq, if_pos hempty, Option.some.injEq] at ha
  have hhost : Text.startsWith ['/', '/'] (prepared removeParameters url) ≠ true := by
    intro hstarts
    rw [schemed, if_pos hstarts] at ha
    exact HasScheme.scheme_ne_nil ⟨"https".toList, _, isScheme_https, ha.symm⟩ hu hnone
  rw [schemed, if_neg hhost] at ha
  rw [← ha] at hu
  have hrelative : Relative (prepared removeParameters url) :=
    ⟨fun s r hs ht => HasScheme.scheme_ne_nil ⟨s, r, hs, ht⟩ hu hnone,
      fun r hr => hhost (Text.startsWith_iff.mpr ⟨r, hr⟩)⟩
  obtain ⟨-, hnetloc, hpath⟩ := hrelative.exists_path hclean hu
  have hwritten : ∀ c ∈ (finished trailingSlash u).render, 32 ≤ c.toNat ∧ c ≠ ' ' := by
    obtain ⟨-, front, opening, semi, quest, hash, hpieces⟩ := exists_pieces hu
    have hdelimiter : ∀ c ∈ ['/', ';', '?', '#'], 32 ≤ c.toNat ∧ c ≠ ' ' := by simp
    intro c hc
    rw [render_eq_body, hnone, List.isEmpty_nil, if_pos rfl, List.nil_append] at hc
    rcases mem_body hc with hc | hc
    · exact hdelimiter c hc
    · rcases mem_parts_finished hc with rfl | hc
      · exact hdelimiter _ List.mem_cons_self
      · exact hprintable c (hclean ▸ hpieces.mem_clean hc)
  exact ⟨hempty, relative_render hnone hnetloc (hpath.ended trailingSlash),
    clean_eq_self (fun c hc => (hwritten c hc).1) fun h => (hwritten ' ' (List.mem_of_mem_head? h)).2 rfl⟩

/-- With a slash at the end of its path, a URL is not written as an empty text. -/
theorem render_ne_nil (hended : IsEnded true v.scheme v.way) : v.render ≠ [] := by
  obtain ⟨path, params, hway, hpath, -⟩ := hended
  have hne : v.way ≠ [] := by
    rintro hnil
    rw [hnil, List.nil_eq, List.append_eq_nil_iff] at hway
    rw [hway.1] at hpath
    cases hpath
  have hplace : v.place ≠ [] := by
    by_cases hhost : WritesHost v.scheme v.netloc v.way
    · rw [place, renderPlace_of_host hhost]
      exact List.cons_ne_nil _ _
    · rwa [place, renderPlace_of_no_host hhost]
  intro hnil
  rw [render_eq_body, body, List.append_eq_nil_iff, List.append_eq_nil_iff, List.append_eq_nil_iff] at hnil
  exact hplace hnil.2.1.1

theorem normalize?_render_iff (hcontrol : ∀ c ∈ url, 32 ≤ c.toNat) (hbase : base = [] ∨ OfWeb base)
    (hv : written? url base removeParameters trailingSlash = some v) :
    normalize? v.render base removeParameters trailingSlash = some v.render ↔
        Settled removeParameters trailingSlash v := by
  obtain ⟨hsound, hended⟩ := sound_of_written? hv
  have hbare := bare_of_written? hcontrol hbase hv
  have hagain := finished_again_iff hsound hended fun hnone => (hbare hnone).2
  by_cases hnil : v.render = []
  · cases trailingSlash with
    | true => exact (render_ne_nil hended hnil).elim
    | false =>
      rw [hnil] at hagain ⊢
      refine iff_of_true rfl ⟨?_, hagain.mp (by decide)⟩
      rw [hnil]
      exact ⟨rfl, List.not_mem_nil, rfl, fun _ c hc => (List.not_mem_nil hc).elim⟩
  have hscheme : v.scheme ≠ [] → HasScheme v.render := fun hne => hasScheme_render (hsound.scheme_eq.resolve_left hne).1
  have halone : base = [] ∨ HasScheme (prepared removeParameters v.render) := by
    by_cases hnone : v.scheme = []
    · exact .inl (hbare hnone).1
    · exact .inr ((hscheme hnone).prepared removeParameters)
  have hschemed : schemed v.render = v.render := by
    by_cases hnone : v.scheme = []
    · rw [schemed, if_neg]
      intro hstarts
      obtain ⟨r, hr⟩ := Text.startsWith_iff.mp hstarts
      exact (hbare hnone).2.1.2 r hr
    · exact (hscheme hnone).schemed_eq
  rw [normalize?_eq_written hnil, written?, absolute?_bind_parse? halone, Option.map_map]
  constructor
  · intro h
    obtain ⟨u, hu, hrender⟩ := Option.map_eq_some_iff.mp h
    have huntouched : Untouched removeParameters v.render := by
      refine untouched_of_weight_le ?_
      calc weight v.render = weight (finished trailingSlash u).render := congrArg weight hrender.symm
        _ ≤ weight (schemed (prepared removeParameters v.render)) := weight_finished_le hu trailingSlash
        _ = weight (prepared removeParameters v.render) := weight_schemed _
    rw [huntouched.prepared_eq, hschemed] at h
    exact ⟨huntouched, hagain.mp h⟩
  · rintro ⟨huntouched, hrereads⟩
    rw [huntouched.prepared_eq, hschemed]
    exact hagain.mpr hrereads

end Written

/-- **Which normal forms are kept**: for a link without controls, and a base path of the web or none, the normal form of
the normal form is the same if and only if the link is empty, or the URL that its normal form is written from is
settled. -/
theorem normalize?_again_iff {url base link : Text} {removeParameters trailingSlash : Bool}
    (hcontrol : ∀ c ∈ url, 32 ≤ c.toNat) (hbase : base = [] ∨ OfWeb base)
    (h : normalize? url base removeParameters trailingSlash = some link) :
    normalize? link base removeParameters trailingSlash = some link ↔
      url = [] ∨ ∃ v, written? url base removeParameters trailingSlash = some v ∧
        Settled removeParameters trailingSlash v := by
  by_cases hne : url = []
  · rw [hne] at h
    cases h
    exact iff_of_true rfl (.inl hne)
  rw [normalize?_eq_written hne] at h
  obtain ⟨v, hv, rfl⟩ := Option.map_eq_some_iff.mp h
  rw [normalize?_render_iff hcontrol hbase hv, or_iff_right hne]
  constructor
  · exact fun hsettled => ⟨v, hv, hsettled⟩
  · rintro ⟨w, hw, hsettled⟩
    rw [hv] at hw
    cases hw
    exact hsettled

/-- The normal form of a link with parameters in its last segment and a query is kept. -/
theorem normalize?_again_params :
    let url := " ../a b/./c;p?x=1".toList
    let base := "http://h/d".toList
    let link := "http://h/a%20b/c;p".toList
    ((∀ c ∈ url, 32 ≤ c.toNat) ∧ (base = [] ∨ OfWeb base) ∧ normalize? url base true false = some link) ∧
      normalize? link base true false = some link := by
  intro url base link
  have hcontrol : ∀ c ∈ url, 32 ≤ c.toNat := forall_printable (by decide)
  have hbase : base = [] ∨ OfWeb base :=
    .inr ⟨⟨"http".toList, "h".toList, "/d".toList, [], [], []⟩, by decide +kernel, .inl rfl⟩
  have h : normalize? url base true false = some link := by decide +kernel
  refine ⟨⟨hcontrol, hbase, h⟩, (normalize?_again_iff hcontrol hbase h).mpr (.inr ?_)⟩
  refine ⟨⟨"http".toList, "h".toList, "/a%20b/c".toList, "p".toList, [], []⟩, by decide +kernel, ?_, fun _ _ => ?_⟩
  · have hkept : (link.all fun c => c != '?' && c != '#') = true := by decide
    refine ⟨by decide +kernel, by decide, by decide, fun _ c hc => ?_⟩
    simpa using List.all_eq_true.mp hkept c hc
  · have hdir : IsDirectory "/a%20b/".toList := isDirectory_of_endsWith (by decide)
    have hparted : Parted ("/a%20b/".toList ++ ("c".toList ++ ';' :: "p".toList)) :=
      (parted_iff hdir (by decide) (by decide) (by decide)).mpr ⟨by decide, .inl (by decide)⟩
    exact hparted

/-- Without the slash at its end, a path can end in a segment that is read as parameters. -/
theorem normalize?_moves :
    ¬ ∀ (url base link : Text) (removeParameters trailingSlash : Bool), (∀ c ∈ url, 32 ≤ c.toNat) →
      (base = [] ∨ OfWeb base) → normalize? url base removeParameters trailingSlash = some link →
      normalize? link base removeParameters trailingSlash = some link := by
  intro h
  have hfirst : normalize? "http://h/a/;p/".toList [] true false = some "http://h/a/;p".toList := by decide +kernel
  have hsecond : normalize? "http://h/a/;p".toList [] true false = some "http://h/a;p".toList := by decide +kernel
  have hsame := h _ _ _ _ _ (forall_printable (by decide)) (.inl rfl) hfirst
  rw [hsecond] at hsame
  exact absurd hsame (by decide)

end Excerpt.Link
