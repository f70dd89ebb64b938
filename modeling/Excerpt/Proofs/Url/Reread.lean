import Excerpt.Proofs.Url.Site

/-!
# URLs that are written and read again

A text that is read as a URL is the parts of the URL one behind another, each behind its delimiter (`Pieces`), and the
parts are such that they can be told apart again (`Sound`): `exists_pieces`.

Hence `Sound.parse?_render`: the written form of a sound URL is read with the same scheme, query and fragment. The host
and the way behind it are those of the place that is written; they can be others, since a way can begin with two
slashes.
-/

namespace Excerpt

namespace Text

variable {sep : Char}

theorem not_mem_of_cut? : ∀ {t a b : Text}, cut? sep t = some (a, b) → sep ∉ a
  | [], _, _, h => by cases h
  | c :: t, a, b, h => by
    rw [cut?] at h
    split at h
    · cases h
      exact List.not_mem_nil
    · rename_i hc
      obtain ⟨⟨a', b'⟩, hcut, he⟩ := Option.map_eq_some_iff.mp h
      cases he
      rw [List.mem_cons, not_or]
      exact ⟨Ne.symm hc, not_mem_of_cut? hcut⟩

theorem not_mem_of_cut?_eq_none : ∀ {t : Text}, cut? sep t = none → sep ∉ t
  | [], _ => List.not_mem_nil
  | c :: t, h => by
    rw [cut?] at h
    split at h
    · cases h
    · rename_i hc
      rw [List.mem_cons, not_or]
      exact ⟨Ne.symm hc, not_mem_of_cut?_eq_none (Option.map_eq_none_iff.mp h)⟩

theorem takeWhile_append_of_head {p : Char → Bool} {s : Text} (hs : ∀ c, s.head? = some c → p c = false) : ∀ t : Text,
    (t ++ s).takeWhile p = t.takeWhile p ∧ (t ++ s).dropWhile p = t.dropWhile p ++ s
  | [] => by
    cases s with
    | nil => exact ⟨rfl, rfl⟩
    | cons c s => simp [hs c rfl]
  | c :: t => by
    obtain ⟨htake, hdrop⟩ := takeWhile_append_of_head hs t
    cases hc : p c <;> simp [hc, htake, hdrop]

end Text

namespace Url

/-! ## Parts behind their delimiters -/

/-- A text is a part behind its delimiter, or nothing for an empty part. -/
def Behind (d : Char) (part t : Text) : Prop :=
  t = d :: part ∨ t = [] ∧ part = []

section Behind

variable {d : Char} {part s : Text}

theorem behind_delimited (d : Char) (part : Text) : Behind d part (delimited d part) := by
  rw [delimited]
  split
  · rename_i h
    exact .inr ⟨rfl, List.isEmpty_iff.mp h⟩
  · exact .inl rfl

theorem Behind.head (h : Behind d part s) {c : Char} (hc : s.head? = some c) : c = d := by
  rcases h with rfl | ⟨rfl, -⟩
  · exact (Option.some.inj hc).symm
  · cases hc

theorem Behind.subset (h : Behind d part s) : ∀ c ∈ part, c ∈ s := by
  rcases h with rfl | ⟨rfl, rfl⟩
  · exact fun c hc => List.mem_cons_of_mem _ hc
  · exact fun c hc => hc

/-- Written again, a part is part of what it was read of. -/
theorem Behind.delimited_sublist (h : Behind d part s) : (delimited d part).Sublist s := by
  rw [delimited]
  split
  · exact List.nil_sublist s
  · rcases h with rfl | ⟨rfl, rfl⟩
    · exact List.Sublist.refl _
    · contradiction

theorem mem_delimited {c : Char} (h : c ∈ delimited d part) : c = d ∨ c ∈ part := by
  rw [delimited] at h
  split at h
  · cases h
  · exact List.mem_cons.mp h

theorem splitAtFirst_append {a : Text} (ha : d ∉ a) (hs : Behind d part s) : splitAtFirst d (a ++ s) = (a, part) := by
  rcases hs with rfl | ⟨rfl, rfl⟩
  · rw [splitAtFirst, Text.cut?_append_cons part ha]
    rfl
  · rw [List.append_nil, splitAtFirst, Text.cut?_of_not_mem ha]
    rfl

theorem exists_splitAtFirst (d : Char) (t : Text) :
    ∃ a part s, splitAtFirst d t = (a, part) ∧ t = a ++ s ∧ Behind d part s ∧ d ∉ a := by
  rw [splitAtFirst]
  cases hcut : Text.cut? d t with
  | none => exact ⟨t, [], [], rfl, (List.append_nil t).symm, .inr ⟨rfl, rfl⟩, Text.not_mem_of_cut?_eq_none hcut⟩
  | some p => exact ⟨p.1, p.2, d :: p.2, rfl, Text.eq_of_cut? hcut, .inl rfl, Text.not_mem_of_cut? hcut⟩

end Behind

/-! ## The last segment of a way -/

/-- A text that is empty or has a slash at its end. -/
def IsDirectory (dir : Text) : Prop :=
  ∀ c, dir.getLast? = some c → c = '/'

/-- The path and the parameters of a way; only some schemes have parameters. -/
def splitWay (scheme w : Text) : Text × Text :=
  if schemeIn paramSchemes scheme then splitParams w else (w, [])

section Segments

variable {dir seg : Text}

theorem exists_directory (w : Text) : ∃ dir seg, w = dir ++ seg ∧ IsDirectory dir ∧ '/' ∉ seg := by
  refine ⟨(w.reverse.dropWhile (· != '/')).reverse, (w.reverse.takeWhile (· != '/')).reverse, ?_, fun c hc => ?_, ?_⟩
  · rw [← List.reverse_append, List.takeWhile_append_dropWhile, List.reverse_reverse]
  · rw [List.getLast?_reverse] at hc
    simpa using Text.not_of_head?_dropWhile hc
  · rw [List.mem_reverse]
    exact fun h => by simpa using List.mem_takeWhile_imp h

/-- What is behind the last slash. -/
theorem takeWhile_reverse_append (hdir : IsDirectory dir) (hseg : '/' ∉ seg) :
    ((dir ++ seg).reverse.takeWhile (· != '/')).reverse = seg := by
  have hhead : ∀ c, dir.reverse.head? = some c → (c != '/') = false := by
    intro c hc
    rw [List.head?_reverse] at hc
    simpa using hdir c hc
  have hall : seg.reverse.takeWhile (· != '/') = seg.reverse := by
    rw [List.takeWhile_eq_self_iff]
    intro c hc
    rw [bne_iff_ne]
    rintro rfl
    exact hseg (List.mem_reverse.mp hc)
  rw [List.reverse_append, (Text.takeWhile_append_of_head hhead seg.reverse).1, hall, List.reverse_reverse]

theorem directory_append_inj {dir' seg' : Text} (h : dir ++ seg = dir' ++ seg') (hdir : IsDirectory dir)
    (hseg : '/' ∉ seg)
    (hdir' : IsDirectory dir') (hseg' : '/' ∉ seg') : dir = dir' ∧ seg = seg' := by
  have hsame : seg = seg' := by rw [← takeWhile_reverse_append hdir hseg, h, takeWhile_reverse_append hdir' hseg']
  exact ⟨List.append_cancel_right (hsame ▸ h), hsame⟩

theorem splitParams_append (hdir : IsDirectory dir) (hseg : '/' ∉ seg) : splitParams (dir ++ seg) =
    match Text.cut? ';' seg with
    | some (name, params) => (dir ++ name, params)
    | none => (dir ++ seg, []) := by
  rw [splitParams, takeWhile_reverse_append hdir hseg]
  cases Text.cut? ';' seg with
  | none => rfl
  | some p => simp only [List.length_append, Nat.add_sub_cancel, List.take_left']

theorem splitParams_of_not_mem (hdir : IsDirectory dir) (hseg : '/' ∉ seg) (hsemi : ';' ∉ seg) :
    splitParams (dir ++ seg) = (dir ++ seg, []) := by
  rw [splitParams_append hdir hseg, Text.cut?_of_not_mem hsemi]

theorem splitParams_semicolon {name params : Text} (hdir : IsDirectory dir) (hname : '/' ∉ name) (hsemi : ';' ∉ name)
    (hparams : '/' ∉ params) : splitParams (dir ++ (name ++ ';' :: params)) = (dir ++ name, params) := by
  have hseg : '/' ∉ name ++ ';' :: params := by
    rw [List.mem_append, List.mem_cons, not_or, not_or]
    exact ⟨hname, by decide, hparams⟩
  rw [splitParams_append hdir hseg, Text.cut?_append_cons params hsemi]

theorem exists_splitWay (scheme w : Text) : ∃ path params s, splitWay scheme w = (path, params) ∧ w = path ++ s ∧
    Behind ';' params s ∧ '/' ∉ params ∧ (params ≠ [] → schemeIn paramSchemes scheme = true) := by
  cases hscheme : schemeIn paramSchemes scheme with
  | false =>
    exact ⟨w, [], [], by simp [splitWay, hscheme], (List.append_nil w).symm, .inr ⟨rfl, rfl⟩, List.not_mem_nil,
      fun h => (h rfl).elim⟩
  | true =>
    obtain ⟨dir, seg, rfl, hdir, hseg⟩ := exists_directory w
    rw [splitWay, if_pos hscheme, splitParams_append hdir hseg]
    cases hcut : Text.cut? ';' seg with
    | none => exact ⟨_, _, [], rfl, (List.append_nil _).symm, .inr ⟨rfl, rfl⟩, List.not_mem_nil, fun _ => rfl⟩
    | some p =>
      have hp := Text.eq_of_cut? hcut
      refine ⟨dir ++ p.1, p.2, ';' :: p.2, rfl, ?_, .inl rfl, fun h => hseg ?_, fun _ => rfl⟩
      · rw [List.append_assoc, ← hp]
      · rw [hp]
        exact List.mem_append_right _ (List.mem_cons_of_mem _ h)

end Segments

/-! ## Hosts -/

theorem eq_slash_of_not_isHostChar {c : Char} (h : isHostChar c = false) (hc : c ≠ '?' ∧ c ≠ '#') : c = '/' := by
  simpa [isHostChar, hc.1, hc.2] using h

theorem splitNetloc_cons (q : Text) :
    splitNetloc ('/' :: '/' :: q) = (q.takeWhile isHostChar, q.dropWhile isHostChar) := by
  rw [splitNetloc, List.span_eq_takeWhile_dropWhile]
  rfl

/-- A text is a host behind two slashes and what follows it, or has no host. -/
theorem exists_splitNetloc (t : Text) : ∃ netloc rest opening, splitNetloc t = (netloc, rest) ∧ t = opening ++ rest ∧
    (∀ c ∈ netloc, isHostChar c = true) ∧
      (opening = '/' :: '/' :: netloc ∧ (∀ c, rest.head? = some c → isHostChar c = false) ∨
        opening = [] ∧ netloc = []) := by
  by_cases h : ∃ q, t = '/' :: '/' :: q
  · obtain ⟨q, rfl⟩ := h
    refine ⟨_, _, _, splitNetloc_cons q, ?_, fun c hc => List.mem_takeWhile_imp hc, .inl ⟨rfl, fun c hc => ?_⟩⟩
    · rw [List.cons_append, List.cons_append, List.takeWhile_append_dropWhile]
    · exact Text.not_of_head?_dropWhile hc
  · exact ⟨[], t, [], splitNetloc_of_ne fun q hq => h ⟨q, hq⟩, rfl, fun c hc => (List.not_mem_nil hc).elim,
      .inr ⟨rfl, rfl⟩⟩

/-- What follows a place and begins with a delimiter does not belong to the host. -/
theorem splitNetloc_append {t s : Text} (hs : ∀ c, s.head? = some c → isHostChar c = false ∧ c ≠ '/') :
    splitNetloc (t ++ s) = ((splitNetloc t).1, (splitNetloc t).2 ++ s) := by
  by_cases h : ∃ q, t = '/' :: '/' :: q
  · obtain ⟨q, rfl⟩ := h
    obtain ⟨htake, hdrop⟩ := Text.takeWhile_append_of_head (fun c hc => (hs c hc).1) q
    rw [List.cons_append, List.cons_append, splitNetloc_cons, splitNetloc_cons, htake, hdrop]
  · have hne : ∀ q, t ++ s ≠ '/' :: '/' :: q := by
      intro q hq
      match t, h with
      | [], _ => exact (hs '/' (by rw [← List.nil_append s, hq]; rfl)).2 rfl
      | [c], _ =>
        rw [List.singleton_append, List.cons.injEq] at hq
        exact (hs '/' (by rw [hq.2]; rfl)).2 rfl
      | c :: d :: q', h =>
        rw [List.cons_append, List.cons_append, List.cons.injEq, List.cons.injEq] at hq
        exact h ⟨q', by rw [hq.1, hq.2.1]⟩
    rw [splitNetloc_of_ne hne, splitNetloc_of_ne fun q hq => h ⟨q, hq⟩]

/-! ## The parts of a URL that was read -/

/-- The path with the parameters behind it. -/
def way (u : Url) : Text :=
  u.path ++ delimited ';' u.params

/-- The host with the way behind it, as they are written. -/
def place (u : Url) : Text :=
  renderPlace u.scheme u.netloc u.way

/-- The parts behind the scheme. -/
def parts (u : Url) : Text :=
  u.netloc ++ (u.path ++ (u.params ++ (u.query ++ u.fragment)))

/-- What is written behind the scheme. -/
def body (u : Url) : Text :=
  u.place ++ delimited '?' u.query ++ delimited '#' u.fragment

/-- A text is the parts of a URL one behind another, each behind its delimiter. -/
structure Pieces (t : Text) (u : Url) (front opening semi quest hash : Text) : Prop where
  eq : clean t = front ++ (opening ++ (u.path ++ (semi ++ (quest ++ hash))))
  front_eq : front = [] ∧ u.scheme = [] ∨ ∃ s, IsScheme s ∧ front = s ++ [':'] ∧ u.scheme = s.map Char.toLower
  opening_eq : opening = '/' :: '/' :: u.netloc ∨ opening = [] ∧ u.netloc = []
  semi_eq : Behind ';' u.params semi
  quest_eq : Behind '?' u.query quest
  hash_eq : Behind '#' u.fragment hash

/-- The parts of a URL can be told apart behind their delimiters. -/
structure Sound (u : Url) : Prop where
  scheme_eq : u.scheme = [] ∨ IsScheme u.scheme ∧ u.scheme.map Char.toLower = u.scheme
  netloc_char : ∀ c ∈ u.netloc, isHostChar c = true
  fits : fitsNetloc u.netloc = true
  rooted : u.netloc ≠ [] → ∀ c, u.path.head? = some c → c = '/'
  path_char : ∀ c ∈ u.path, c ≠ '?' ∧ c ≠ '#'
  params_char : ∀ c ∈ u.params, c ≠ '?' ∧ c ≠ '#' ∧ c ≠ '/'
  params_scheme : u.params ≠ [] → schemeIn paramSchemes u.scheme = true
  query_char : '#' ∉ u.query
  kept : ∀ c ∈ u.parts, isTabOrBreak c = false

section Pieces

variable {t : Text} {u : Url} {front opening semi quest hash : Text}

theorem Pieces.mem_clean (h : Pieces t u front opening semi quest hash) {c : Char} (hc : c ∈ u.parts) :
    c ∈ clean t := by
  rw [h.eq]
  simp only [parts, List.mem_append] at hc ⊢
  rcases hc with hc | hc | hc | hc | hc
  · rcases h.opening_eq with he | ⟨-, he⟩
    · exact .inr (.inl (he ▸ List.mem_cons_of_mem _ (List.mem_cons_of_mem _ hc)))
    · rw [he] at hc
      cases hc
  · exact .inr (.inr (.inl hc))
  · exact .inr (.inr (.inr (.inl (h.semi_eq.subset c hc))))
  · exact .inr (.inr (.inr (.inr (.inl (h.quest_eq.subset c hc)))))
  · exact .inr (.inr (.inr (.inr (.inr (h.hash_eq.subset c hc)))))

theorem parse?_of_splits {scheme rest netloc body before fragment w query : Text}
    (hscheme : splitScheme (clean t) = (scheme, rest)) (hnetloc : splitNetloc rest = (netloc, body))
    (hfragment : splitAtFirst '#' body = (before, fragment)) (hquery : splitAtFirst '?' before = (w, query)) :
    parse? t =
      if fitsNetloc netloc then
        some ⟨scheme, netloc, (splitWay scheme w).1, (splitWay scheme w).2, query, fragment⟩
      else none := by
  have hfound : (if scheme.isEmpty then [] else scheme) = scheme := by
    cases scheme <;> rfl
  simp only [parse?, parseWith?, hscheme, hnetloc, hfragment, hquery, hfound, splitWay]

theorem toLower_toLower : ∀ c, isSchemeChar c = true → c.toLower.toLower = c.toLower :=
  forall_schemeChar (by decide)

/-- A text is a scheme in front of its colon and what follows it, or has no scheme. -/
theorem exists_splitScheme (t : Text) : ∃ scheme rest front, splitScheme t = (scheme, rest) ∧ t = front ++ rest ∧
    (front = [] ∧ scheme = [] ∨ ∃ s, IsScheme s ∧ front = s ++ [':'] ∧ scheme = s.map Char.toLower) := by
  rcases splitScheme_eq t with hnone | ⟨s, r, hs, rfl⟩
  · exact ⟨[], t, [], hnone, rfl, .inl ⟨rfl, rfl⟩⟩
  · exact ⟨_, r, s ++ [':'], splitScheme_scheme hs r, List.append_cons s ':' r, .inr ⟨s, hs, rfl, rfl⟩⟩

/-- **A text is the parts that are read of it, and they can be told apart.** -/
theorem exists_pieces (h : parse? t = some u) :
    Sound u ∧ ∃ front opening semi quest hash, Pieces t u front opening semi quest hash := by
  obtain ⟨scheme, rest, front, hscheme, ht, hfront⟩ := exists_splitScheme (clean t)
  obtain ⟨netloc, body, opening, hnetloc, hrest, hhost, hopening⟩ := exists_splitNetloc rest
  obtain ⟨before, fragment, hash, hfragment, hbody, hhash, hbefore⟩ := exists_splitAtFirst '#' body
  obtain ⟨w, query, quest, hquery, rfl, hquest, hw⟩ := exists_splitAtFirst '?' before
  obtain ⟨path, params, semi, hway, rfl, hsemi, hslash, hparams⟩ := exists_splitWay scheme w
  rw [parse?_of_splits hscheme hnetloc hfragment hquery, hway, Option.ite_none_right_eq_some] at h
  obtain ⟨hfits, he⟩ := h
  cases he
  have hpieces : Pieces t ⟨scheme, netloc, path, params, query, fragment⟩ front opening semi quest hash :=
    { eq := by rw [ht, hrest, hbody]; simp only [List.append_assoc]
      front_eq := hfront
      opening_eq := hopening.imp And.left id
      semi_eq := hsemi
      quest_eq := hquest
      hash_eq := hhash }
  rw [List.mem_append, List.mem_append, not_or, not_or] at hbefore
  rw [List.mem_append, not_or] at hw
  have hpath : ∀ c ∈ path, c ≠ '?' ∧ c ≠ '#' := fun c hc =>
    ⟨fun he => hw.1 (he ▸ hc), fun he => hbefore.1.1 (he ▸ hc)⟩
  refine ⟨?_, front, opening, semi, quest, hash, hpieces⟩
  exact
    { scheme_eq := by
        rcases hfront with ⟨-, rfl⟩ | ⟨s, hs, -, rfl⟩
        · exact .inl rfl
        · refine .inr ⟨hs.toLower, ?_⟩
          rw [List.map_map]
          exact List.map_congr_left fun c hc => toLower_toLower c (hs.2 c hc)
      netloc_char := hhost
      fits := hfits
      rooted := fun hne c hc => by
        -- What follows a host begins with a delimiter, and of these a path holds slashes only.
        rcases hopening with ⟨-, hend⟩ | ⟨-, rfl⟩
        · have hdelimiter : isHostChar c = false := hend c (by
            rw [hbody]
            simp only [List.head?_append, hc, Option.some_or])
          exact eq_slash_of_not_isHostChar hdelimiter (hpath c (List.mem_of_mem_head? hc))
        · exact (hne rfl).elim
      path_char := hpath
      params_char := fun c hc => ⟨fun he => hw.2 (hsemi.subset _ (he ▸ hc)),
        fun he => hbefore.1.2 (hsemi.subset _ (he ▸ hc)), fun he => hslash (he ▸ hc)⟩
      params_scheme := hparams
      query_char := fun hm => hbefore.2 (hquest.subset _ hm)
      kept := fun c hc => by simpa using (List.mem_filter.mp (hpieces.mem_clean hc)).2 }

end Pieces

/-! ## Reading what was written -/

section Written

variable {u : Url}

theorem mem_renderPlace {scheme netloc path : Text} {c : Char} (h : c ∈ renderPlace scheme netloc path) :
    c = '/' ∨ c ∈ netloc ∨ c ∈ path := by
  rw [renderPlace] at h
  split at h
  · simp only [List.cons_append, List.mem_cons, List.mem_append] at h
    rcases h with h | h | h | h
    · exact .inl h
    · exact .inl h
    · exact .inr (.inl h)
    · split at h
      · exact .inr (.inr h)
      · exact (List.mem_cons.mp h).imp id .inr
  · exact .inr (.inr h)

/-- What is written are the parts and their delimiters. -/
theorem mem_body {c : Char} (h : c ∈ u.body) : c ∈ ['/', ';', '?', '#'] ∨ c ∈ u.parts := by
  have hdelimiter : ∀ d ∈ ['/', ';', '?', '#'], ∀ {part : Text}, (∀ c ∈ part, c ∈ u.parts) → c ∈ delimited d part →
      c ∈ ['/', ';', '?', '#'] ∨ c ∈ u.parts := by
    intro d hd part hpart hc
    rcases mem_delimited hc with rfl | hc
    · exact .inl hd
    · exact .inr (hpart c hc)
  rw [body, List.mem_append, List.mem_append] at h
  rcases h with (h | h) | h
  · rcases mem_renderPlace h with rfl | h | h
    · exact .inl List.mem_cons_self
    · exact .inr (List.mem_append_left _ h)
    · rcases List.mem_append.mp h with h | h
      · exact .inr (by simp [parts, h])
      · exact hdelimiter ';' (by decide) (fun c hc => by simp [parts, hc]) h
  · exact hdelimiter '?' (by decide) (fun c hc => by simp [parts, hc]) h
  · exact hdelimiter '#' (by decide) (fun c hc => by simp [parts, hc]) h

theorem render_eq_body (u : Url) : u.render = (if u.scheme.isEmpty then [] else u.scheme ++ [':']) ++ u.body := by
  simp only [render, body, place, way, List.append_assoc]

theorem Sound.way_char (hu : Sound u) : ∀ c ∈ u.way, c ≠ '?' ∧ c ≠ '#' := by
  intro c hc
  rcases List.mem_append.mp hc with hc | hc
  · exact hu.path_char c hc
  · rcases mem_delimited hc with rfl | hc
    · decide
    · exact ⟨(hu.params_char c hc).1, (hu.params_char c hc).2.1⟩

theorem Sound.place_char (hu : Sound u) : ∀ c ∈ u.place, c ≠ '?' ∧ c ≠ '#' := by
  intro c hc
  rcases mem_renderPlace hc with rfl | hc | hc
  · decide
  · have hhost := hu.netloc_char c hc
    simp only [isHostChar, Bool.and_eq_true, bne_iff_ne] at hhost
    exact ⟨hhost.1.2, hhost.2⟩
  · exact hu.way_char c hc

theorem Sound.isTabOrBreak_body (hu : Sound u) : ∀ c ∈ u.body, isTabOrBreak c = false := by
  intro c hc
  rcases mem_body hc with hc | hc
  · have hall : ∀ c ∈ ['/', ';', '?', '#'], isTabOrBreak c = false := by simp [isTabOrBreak]
    exact hall c hc
  · exact hu.kept c hc

/-- The scheme of a written URL is read again; a URL without one has to be relative when it is written. -/
theorem Sound.splitScheme_render (hu : Sound u)
    (hbare : u.scheme = [] → Relative u.render ∧ clean u.render = u.render) :
    splitScheme (clean u.render) = (u.scheme, u.body) := by
  rcases hu.scheme_eq with hnone | ⟨hs, hlower⟩
  · obtain ⟨hrelative, hclean⟩ := hbare hnone
    rw [hclean, hrelative.splitScheme_eq, render_eq_body, hnone]
    rfl
  · have hne : u.scheme.isEmpty = false := by
      obtain ⟨⟨c, cs, hcons, -⟩, -⟩ := hs
      rw [hcons]
      rfl
    have hkeep : u.body.filter (!isTabOrBreak ·) = u.body :=
      List.filter_eq_self.mpr fun c hc => by simp [hu.isTabOrBreak_body c hc]
    rw [render_eq_body, hne, if_neg Bool.false_ne_true, List.append_assoc, List.singleton_append,
      clean_scheme hs, hkeep, splitScheme_scheme hs, hlower]

/-- **What is read of a written URL**: its scheme, query and fragment, and the host and the way that its place is read
as. -/
theorem Sound.parse?_render (hu : Sound u) (hbare : u.scheme = [] → Relative u.render ∧ clean u.render = u.render) :
    parse? u.render =
      if fitsNetloc (splitNetloc u.place).1 then
        some ⟨u.scheme, (splitNetloc u.place).1, (splitWay u.scheme (splitNetloc u.place).2).1,
          (splitWay u.scheme (splitNetloc u.place).2).2, u.query, u.fragment⟩
      else none := by
  have hsub : ∀ c ∈ (splitNetloc u.place).2, c ≠ '?' ∧ c ≠ '#' := by
    obtain ⟨netloc, rest, opening, hsplit, hplace, -⟩ := exists_splitNetloc u.place
    intro c hc
    rw [hsplit] at hc
    exact hu.place_char c (by rw [hplace]; exact List.mem_append_right _ hc)
  have hnetloc : splitNetloc u.body = ((splitNetloc u.place).1,
      (splitNetloc u.place).2 ++ delimited '?' u.query ++ delimited '#' u.fragment) := by
    rw [body, List.append_assoc, splitNetloc_append, List.append_assoc]
    intro c hc
    rw [List.head?_append, Option.or_eq_some_iff] at hc
    rcases hc with hc | ⟨-, hc⟩
    · rw [eq_of_head?_delimited hc]
      decide
    · rw [eq_of_head?_delimited hc]
      decide
  have hhash : '#' ∉ (splitNetloc u.place).2 ++ delimited '?' u.query := by
    intro hm
    rcases List.mem_append.mp hm with hm | hm
    · exact (hsub _ hm).2 rfl
    · rcases mem_delimited hm with he | hm
      · exact absurd he (by decide)
      · exact hu.query_char hm
  have hquest : '?' ∉ (splitNetloc u.place).2 := fun hm => (hsub _ hm).1 rfl
  exact parse?_of_splits (hu.splitScheme_render hbare) hnetloc (splitAtFirst_append hhash (behind_delimited _ _))
    (splitAtFirst_append hquest (behind_delimited _ _))

end Written

end Url

end Excerpt
