import Excerpt.Proofs.Url.PathEnd

/-!
# URLs that are finished twice

A sound URL whose path is ended is written, read, ended and written again. It stays as it is exactly if it
`Link.Rereads` (`Link.finished_again_iff`). With a host, or a way that does not begin with two slashes, that means that
the way keeps its end (`Link.keepsPlace_of_host`). Otherwise the way is read as a host and a way
(`Link.keepsPlace_of_no_host`).

A URL without a scheme has to be relative for that when it is written. It is if its path is (`Url.relative_render`).
-/

namespace Excerpt

namespace Url

/-! ## Relative URLs -/

section Relative

variable {t s path : Text} {u : Url}

/-- A text that is continued by a character of no scheme stays relative, unless two slashes come to stand in front. -/
theorem Relative.append (ht : Relative t) (hs : ∀ c, s.head? = some c → isSchemeChar c = false ∧ c ≠ ':')
    (hslash : ∀ r, t ++ s ≠ '/' :: '/' :: r) : Relative (t ++ s) := by
  refine ⟨fun w r hw he => ?_, hslash⟩
  rcases List.append_eq_append_iff.mp he with ⟨w', rfl, hs'⟩ | ⟨t', ht', hr⟩
  · cases w' with
    | nil => exact (hs ':' (by rw [hs']; rfl)).2 rfl
    | cons c w' =>
      have hc := (hs c (by rw [hs']; rfl)).1
      rw [hw.2 c (List.mem_append_right _ List.mem_cons_self)] at hc
      cases hc
  · cases t' with
    | nil => exact (hs ':' (by rw [← List.nil_append s, ← hr]; rfl)).2 rfl
    | cons c t' =>
      obtain rfl : ':' = c := (List.cons.inj hr).1
      exact ht.1 w t' hw ht'

theorem Relative.append_of_ne_slash (ht : Relative t)
    (hs : ∀ c, s.head? = some c → isSchemeChar c = false ∧ c ≠ ':' ∧ c ≠ '/') : Relative (t ++ s) := by
  refine ht.append (fun c hc => ⟨(hs c hc).1, (hs c hc).2.1⟩) fun r he => ?_
  match t, ht with
  | [], _ => exact (hs '/' (by rw [← List.nil_append s, he]; rfl)).2.2 rfl
  | [c], _ =>
    rw [List.singleton_append, List.cons.injEq] at he
    exact (hs '/' (by rw [he.2]; rfl)).2.2 rfl
  | c :: d :: t', ht =>
    rw [List.cons_append, List.cons_append, List.cons.injEq, List.cons.injEq] at he
    exact ht.2 t' (by rw [he.1, he.2.1])

theorem Relative.append_delimited (ht : Relative t) {d : Char} (hd : isSchemeChar d = false ∧ d ≠ ':' ∧ d ≠ '/')
    (part : Text) : Relative (t ++ delimited d part) :=
  ht.append_of_ne_slash fun c hc => by rwa [eq_of_head?_delimited hc]

theorem Relative.ended (h : Relative path) (trailingSlash : Bool) : Relative (Link.ended trailingSlash path) := by
  cases trailingSlash with
  | false =>
    obtain ⟨n, hn⟩ := Link.exists_ended_false path
    rw [hn] at h
    exact h.of_append
  | true =>
    cases hend : Text.endsWith '/' path with
    | true => rwa [Link.ended_true_of_endsWith hend]
    | false =>
      rw [Link.ended_true_of_not hend]
      refine h.append (fun c hc => ?_) fun r he => ?_
      · rw [← Option.some.inj hc]
        decide
      · match path, h with
        | [], _ => exact absurd (List.cons.inj he).2 (by simp)
        | [c], _ =>
          rw [(List.cons.inj he).1] at hend
          cases hend
        | c :: d :: path', h =>
          rw [List.cons_append, List.cons_append, List.cons.injEq, List.cons.injEq] at he
          exact h.2 path' (by rw [he.1, he.2.1])

theorem relative_render (hscheme : u.scheme = []) (hnetloc : u.netloc = []) (h : Relative u.path) :
    Relative u.render := by
  have hno : ¬ WritesHost u.scheme u.netloc u.way := by
    rw [WritesHost, hscheme, hnetloc]
    simp
  have hplace : u.place = u.way := renderPlace_of_no_host hno
  rw [render_eq_body, hscheme, List.isEmpty_nil, if_pos rfl, List.nil_append, body, hplace, way]
  exact ((h.append_delimited (by decide) _).append_delimited (by decide) _).append_delimited (by decide) _

/-- What is read of a relative text is its path in front. -/
theorem Relative.exists_path (ht : Relative t) (hclean : clean t = t) (hu : parse? t = some u) :
    u.scheme = [] ∧ u.netloc = [] ∧ Relative u.path := by
  obtain ⟨-, front, opening, semi, quest, hash, hpieces⟩ := exists_pieces hu
  obtain ⟨hscheme, hnetloc⟩ := ht.parseWith?_eq_some hclean hu
  have heq := hpieces.eq
  rw [hclean] at heq
  refine ⟨hscheme, hnetloc, ?_⟩
  rcases hpieces.front_eq with ⟨rfl, -⟩ | ⟨s, hs, rfl, -⟩
  · rcases hpieces.opening_eq with rfl | ⟨rfl, -⟩
    · exact (ht.2 _ (by rw [heq]; rfl)).elim
    · rw [heq, List.nil_append, List.nil_append] at ht
      exact ht.of_append
  · exact (ht.1 s _ hs (by rw [heq, List.append_assoc]; rfl)).elim

end Relative

end Url

namespace Link

open Url

/-! ## Ending the path of a URL -/

section Finished

variable {trailingSlash : Bool} {path : Text} {u v : Url}

/-- A path that begins with a slash, if with anything, still does when it is ended. -/
theorem head?_ended (h : ∀ c, path.head? = some c → c = '/') {c : Char}
    (hc : (ended trailingSlash path).head? = some c) :
    c = '/' := by
  cases path with
  | nil =>
    cases trailingSlash with
    | false =>
      rw [ended_false_of_short (show ([] : Text).length ≤ 1 from Nat.zero_le 1)] at hc
      cases hc
    | true => exact (Option.some.inj hc).symm
  | cons d r =>
    rw [h d rfl] at hc
    rcases ended_cons_slash trailingSlash r with ⟨r', hr'⟩ | ⟨hnil, -⟩
    · rw [hr'] at hc
      exact (Option.some.inj hc).symm
    · rw [hnil] at hc
      cases hc

theorem mem_parts_finished {c : Char} (h : c ∈ (finished trailingSlash u).parts) : c = '/' ∨ c ∈ u.parts := by
  simp only [parts, finished, List.mem_append] at h ⊢
  rcases h with h | h | h
  · exact .inr (.inl h)
  · exact (mem_ended h).imp_right fun h => .inr (.inl h)
  · exact .inr (.inr (.inr h))

theorem sound_finished (hu : Sound u) (trailingSlash : Bool) : Sound (finished trailingSlash u) :=
  { hu with
    rooted := fun hne c hc => head?_ended (hu.rooted hne) hc
    path_char := fun c hc => by
      rcases mem_ended hc with rfl | hc
      · decide
      · exact hu.path_char c hc
    kept := fun c hc => by
      rcases mem_parts_finished hc with rfl | hc
      · decide
      · exact hu.kept c hc }

/-- Whether a URL is read as it was written, up to the end of its path: its way keeps its end. If there is no host and
the way begins with two slashes, it is read as a host and a way. Then the host has to be well-formed and is to be
written again, and it is the way behind it that keeps its end, and is not empty if a slash is asked for. -/
def Rereads (trailingSlash : Bool) (v : Url) : Prop :=
  if v.netloc = [] ∧ Text.startsWith ['/', '/'] v.way = true then
    fitsNetloc (splitNetloc v.way).1 = true ∧ WritesHost v.scheme (splitNetloc v.way).1 (splitNetloc v.way).2 ∧
      (trailingSlash = true → (splitNetloc v.way).2 ≠ []) ∧ Firm trailingSlash v.scheme (splitNetloc v.way).2
  else Firm trailingSlash v.scheme v.way

/-- Whether the host and the way that the place of a URL is read as are well-formed and make the same place again. -/
def KeepsPlace (trailingSlash : Bool) (v : Url) : Prop :=
  fitsNetloc (splitNetloc v.place).1 = true ∧
    renderPlace v.scheme (splitNetloc v.place).1 (rewritten trailingSlash v.scheme (splitNetloc v.place).2) = v.place

theorem render_eq_iff (hscheme : u.scheme = v.scheme) (hquery : u.query = v.query)
    (hfragment : u.fragment = v.fragment) :
    u.render = v.render ↔ u.place = v.place := by
  rw [render_eq_body, render_eq_body, hscheme, List.append_cancel_left_eq, body, body, hquery, hfragment,
    List.append_cancel_right_eq, List.append_cancel_right_eq]

/-- Read and finished again, a URL has the same scheme, query and fragment, so that it is its place that matters. -/
theorem finished_again_iff_keepsPlace (hv : Sound v)
    (hbare : v.scheme = [] → Relative v.render ∧ clean v.render = v.render) :
    ((parse? v.render).map fun u => (finished trailingSlash u).render) = some v.render ↔
        KeepsPlace trailingSlash v := by
  rw [hv.parse?_render hbare, KeepsPlace]
  cases hfits : fitsNetloc (splitNetloc v.place).1 with
  | false => simp
  | true =>
    rw [if_pos rfl, Option.map_some, Option.some.injEq, eq_self_iff_true, true_and]
    exact render_eq_iff rfl rfl rfl

/-- The way behind a host that is written is what it is read as. -/
theorem splitNetloc_written {netloc w : Text} (hnetloc : ∀ c ∈ netloc, isHostChar c = true)
    (hw : ∀ c, w.head? = some c → c = '/') : splitNetloc ('/' :: '/' :: (netloc ++ w)) = (netloc, w) := by
  have hhead : ∀ c, w.head? = some c → isHostChar c = false := fun c hc => by
    rw [hw c hc]
    decide
  have htake := Text.takeWhile_append_of_head hhead netloc
  have hall : netloc.takeWhile isHostChar = netloc := List.takeWhile_eq_self_iff.mpr hnetloc
  have hnone : netloc.dropWhile isHostChar = [] := List.dropWhile_eq_nil_iff.mpr hnetloc
  rw [splitNetloc_cons, htake.1, htake.2, hall, hnone, List.nil_append]

/-- What is behind the host of an ended way is ended, if there is anything. -/
theorem IsEnded.of_append {scheme h r : Text} (hended : IsEnded trailingSlash scheme ('/' :: '/' :: (h ++ r)))
    (hr : ∀ c, r.head? = some c → c = '/') (hne : trailingSlash = true → r ≠ []) : IsEnded trailingSlash scheme r := by
  cases trailingSlash with
  | false =>
    by_cases hnil : r = []
    · exact .inl (by rw [hnil]; exact Nat.zero_le 1)
    · rcases hended with hshort | hend
      · simp at hshort
      · rw [show '/' :: '/' :: (h ++ r) = ('/' :: '/' :: h) ++ r from rfl, Text.endsWith_append_of_ne_nil hnil] at hend
        exact .inr hend
  | true =>
    obtain ⟨path, params, he, hpath, hslash, hparams⟩ := hended
    obtain ⟨c, r', rfl⟩ := List.exists_cons_of_ne_nil (hne rfl)
    obtain rfl : c = '/' := hr c rfl
    rw [show '/' :: '/' :: (h ++ '/' :: r') = ('/' :: '/' :: h) ++ '/' :: r' from rfl, List.append_eq_append_iff] at he
    rcases he with ⟨path', rfl, hrest⟩ | ⟨h', -, hrest⟩
    · -- The path reaches beyond the host, since there are no slashes in the parameters.
      have hne : path' ≠ [] := by
        rintro rfl
        have hhead : (delimited ';' params).head? = some '/' := by
          rw [← List.nil_append (delimited ';' params), ← hrest]
          rfl
        exact absurd (eq_of_head?_delimited hhead) (by decide)
      rw [Text.endsWith_append_of_ne_nil hne] at hpath
      exact ⟨path', params, hrest, hpath, hslash, hparams⟩
    · have hmem : '/' ∈ delimited ';' params := by
        rw [hrest]
        exact List.mem_append_right _ List.mem_cons_self
      rcases mem_delimited hmem with hc | hc
      · exact absurd hc (by decide)
      · exact (hslash hc).elim

/-- A way that is read as a host and a way is written as it was exactly if the host is written and the way keeps its
end. -/
theorem renderPlace_rewritten_iff {scheme host rest : Text}
    (hended : IsEnded trailingSlash scheme ('/' :: '/' :: (host ++ rest)))
    (hrest : ∀ c, rest.head? = some c → c = '/') :
    renderPlace scheme host (rewritten trailingSlash scheme rest) = '/' :: '/' :: (host ++ rest) ↔
      WritesHost scheme host rest ∧ (trailingSlash = true → rest ≠ []) ∧ Firm trailingSlash scheme rest := by
  rw [renderPlace_eq_iff hrest (length_rewritten_le _ _ _), slashed_rewritten_eq_iff hrest]
  refine and_congr_right fun _ => ?_
  by_cases hne : trailingSlash = true → rest ≠ []
  · rw [rewritten_eq_iff (hended.of_append hrest hne), and_iff_right hne]
  · refine iff_of_false (fun h => ?_) fun h => hne h.1
    rw [Classical.not_imp, not_not] at hne
    obtain ⟨rfl, rfl⟩ := hne
    -- The empty way gets a slash.
    have hslash := endsWith_ended_true (splitWay scheme []).1
    rw [rewritten, List.append_eq_nil_iff] at h
    rw [h.1] at hslash
    cases hslash

/-- The place of a URL with a host is read as it was written. -/
theorem keepsPlace_of_host (hv : Sound v) (hended : IsEnded trailingSlash v.scheme v.way)
    (hhost : WritesHost v.scheme v.netloc v.way) : KeepsPlace trailingSlash v ↔ Firm trailingSlash v.scheme v.way := by
  have hslashed : ∀ c, (slashed v.way).head? = some c → c = '/' := fun c hc => head?_slashed hc
  have hwritten : WritesHost v.scheme v.netloc (slashed v.way) := by rwa [WritesHost, startsWith_slashed]
  have hplace : v.place = '/' :: '/' :: (v.netloc ++ slashed v.way) := renderPlace_of_host hhost
  rw [KeepsPlace, hplace, splitNetloc_written hv.netloc_char hslashed]
  dsimp only
  rw [renderPlace_eq_iff hslashed (length_rewritten_le _ _ _), slashed_rewritten_eq_iff hslashed,
    rewritten_eq_iff hended.slashed, firm_slashed_iff]
  exact ⟨fun h => h.2.2, fun h => ⟨hv.fits, hwritten, h⟩⟩

/-- Without a host, the place of a URL is its way, which is read as a host and a way if it begins with two slashes. -/
theorem keepsPlace_of_no_host (hv : Sound v) (hended : IsEnded trailingSlash v.scheme v.way)
    (hhost : ¬ WritesHost v.scheme v.netloc v.way) : KeepsPlace trailingSlash v ↔ Rereads trailingSlash v := by
  have hplace : v.place = v.way := renderPlace_of_no_host hhost
  have hnetloc : v.netloc = [] := by
    by_contra h
    exact hhost (.inl h)
  rw [KeepsPlace, hplace, Rereads]
  cases hstarts : Text.startsWith ['/', '/'] v.way with
  | false =>
    have hway : splitNetloc v.way = ([], v.way) := splitNetloc_of_ne fun q hq => by
      rw [Text.startsWith_iff.mpr ⟨q, hq⟩] at hstarts
      cases hstarts
    have hno : ∀ x, ¬ WritesHost v.scheme [] x := by
      rintro x (h | ⟨hne, hscheme, -⟩)
      · exact h rfl
      · exact hhost (.inr ⟨hne, hscheme, hstarts⟩)
    rw [if_neg (by simp), hway]
    dsimp only
    rw [renderPlace_of_no_host (hno _), rewritten_eq_iff hended]
    exact and_iff_right (by decide)
  | true =>
    rw [if_pos ⟨hnetloc, rfl⟩]
    refine and_congr_right fun _ => ?_
    obtain ⟨q, hq⟩ := Text.startsWith_iff.mp hstarts
    have hway : v.way = '/' :: '/' :: (q.takeWhile isHostChar ++ q.dropWhile isHostChar) := by
      rw [List.takeWhile_append_dropWhile]
      exact hq
    have hsplit : splitNetloc v.way = (q.takeWhile isHostChar, q.dropWhile isHostChar) := by
      rw [hq]
      exact splitNetloc_cons q
    have hrest : ∀ c, (q.dropWhile isHostChar).head? = some c → c = '/' := by
      intro c hc
      refine eq_slash_of_not_isHostChar (Text.not_of_head?_dropWhile hc) (hv.way_char c ?_)
      rw [hq]
      exact List.mem_append_right _ ((List.dropWhile_sublist _).subset (List.mem_of_mem_head? hc))
    rw [hsplit]
    dsimp only
    rw [hway] at hended ⊢
    exact renderPlace_rewritten_iff hended hrest

/-- **Which URLs stay as they are when they are written, read, finished and written again.** -/
theorem finished_again_iff (hv : Sound v) (hended : IsEnded trailingSlash v.scheme v.way)
    (hbare : v.scheme = [] → Relative v.render ∧ clean v.render = v.render) :
    ((parse? v.render).map fun u => (finished trailingSlash u).render) = some v.render ↔ Rereads trailingSlash v := by
  rw [finished_again_iff_keepsPlace hv hbare]
  by_cases hhost : WritesHost v.scheme v.netloc v.way
  · rw [keepsPlace_of_host hv hended hhost, Rereads, if_neg]
    rintro ⟨hnetloc, hstarts⟩
    rcases hhost with h | ⟨-, -, h⟩
    · exact h hnetloc
    · rw [hstarts] at h
      cases h
  · exact keepsPlace_of_no_host hv hended hhost

end Finished

end Link

end Excerpt
