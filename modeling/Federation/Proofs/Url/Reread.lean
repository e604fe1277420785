/-
  Federation.Proofs.Url.Reread
  ────────────────────────────
  **CANONICAL TEXTS READ BACK.**

  The canonical text of an address is cut at the same places as the text it
  was read from, and nothing in it is replaced.  Only slashes at its end are
  missing, and with them slashes at the end of the last part.  The address
  read back lacks just these, so its canonical text is the one it was read
  from.

  Main results:
    * `readAuthority_text` — the authority is read back;
    * `readWeb_text` — what stands after the scheme is read back, part by part;
    * `read_canonical` — the canonical text is read, as the address without
      the slashes at its end;
    * `canonical_again` — making an address canonical a second time changes
      nothing.
-/
import Federation.Proofs.Url.Settled
import Mathlib.Data.List.TakeDrop

namespace Federation.Url

open Text (splitFirst_append splitFirst_eq_none beq_false_of_not_mem)

/-! ## §1. Texts without blanks. -/

/-- What is dropped around a text, or inside it, is not visible. -/
theorem plain_of_isVisible {c : Char} (h : isVisible c = true) :
    (Text.isBlank c = false ∧ isOuter c = false) ∧ isIgnored c = false := by
  have hascii : c.toNat < 128 := by
    unfold isVisible at h
    rw [Bool.and_eq_true, decide_eq_true_iff, decide_eq_true_iff] at h
    exact Nat.lt_succ_of_lt h.2
  have hplain := ascii_imp (P := isVisible)
    (Q := fun c => !Text.isBlank c && !isOuter c && !isIgnored c) (by decide +kernel) hascii h
  rwa [Bool.and_eq_true, Bool.and_eq_true, Bool.not_eq_true', Bool.not_eq_true',
    Bool.not_eq_true'] at hplain

/-- **A text of visible characters** is taken as it stands. -/
theorem relevant_trimChars {cs : List Char} (h : ∀ c ∈ cs, isVisible c = true) :
    relevant (Text.trimChars cs) = cs := by
  have hplain (c : Char) (hc : c ∈ cs) := plain_of_isVisible (h c hc)
  have houter {xs : List Char} (hxs : ∀ c ∈ xs, c ∈ cs) : xs.dropWhile isOuter = xs := by
    cases xs with
    | nil => rfl
    | cons c xs =>
        refine List.dropWhile_cons_of_neg ?_
        rw [(hplain c (hxs c List.mem_cons_self)).1.2]
        decide
  -- Neither end is blank, so nothing is trimmed.
  rw [Text.trimChars_of_ends (fun c hc => (hplain c (List.mem_of_mem_head? hc)).1.1)
    (fun c hc => (hplain c (List.mem_of_getLast? hc)).1.1)]
  unfold relevant
  rw [houter fun c hc => hc, houter fun c hc => List.mem_reverse.1 hc, List.reverse_reverse]
  refine List.filter_eq_self.2 fun c hc => ?_
  rw [(hplain c hc).2]
  rfl

/-! ## §2. The authority read back. -/

/-- An authority ends where it did. -/
theorem splitAuthority_append {cs rest : List Char} (hcs : ∀ c ∈ cs, isInner c = true)
    (hrest : ∀ c ∈ rest.head?, endsAuthority true c = true) :
    splitAuthority true (cs ++ rest) = (cs, rest) := by
  have hinside : ∀ c ∈ cs, (!endsAuthority true c) = true := fun c hc =>
    (Bool.and_eq_true_iff.1 (hcs c hc)).2
  have hend : ∀ c ∈ rest.head?, (!endsAuthority true c) = false := fun c hc => by
    rw [hrest c hc]
    rfl
  obtain ⟨htake, hdrop⟩ := Text.span_append hend cs
  unfold splitAuthority
  rw [List.span_eq_takeWhile_dropWhile, htake, hdrop, List.takeWhile_eq_self_iff.2 hinside,
    List.dropWhile_eq_nil_iff.2 hinside, List.nil_append]

/-- A bare host is read by its name in ASCII. -/
theorem readHost_of_bare (cs : List Char) (hne : cs ≠ []) (hopen : ∀ c ∈ cs.head?, c ≠ '[')
    (hpercent : '%' ∉ cs) (hascii : Name.toAscii? cs = some cs) :
    readHost cs =
      if endsInNumber cs then
        match ipv4? cs with
        | some address => .ok (.ipv4 address)
        | none => .error .badIpv4
      else .ok (.name cs) := by
  have hdecode : (decode? cs).bind Name.toAscii? = some cs := by
    unfold decode?
    rw [if_neg (by simpa using hpercent)]
    exact hascii
  unfold readHost
  split
  · exact absurd rfl (hopen '[' rfl)
  · rw [hdecode]
    cases cs with
    | nil => exact absurd rfl hne
    | cons c cs => rfl

/-- **A host is read back.** -/
theorem Settled.readHost_text {u : Url} (h : Settled u) : readHost u.host.text = .ok u.host := by
  have hformed := h.host
  have hnamed := h.named
  generalize u.host = host at hformed hnamed
  have hne := hformed.text_ne_nil
  have hopen (hbare : host.isBare = true) : ∀ c ∈ host.text.head?, c ≠ '[' := by
    rintro c hc rfl
    exact hformed.not_mem_bare hbare (by decide) (List.mem_of_mem_head? hc)
  cases hformed with
  | @name ascii _ allowed figures =>
      -- A percent sign is forbidden in a name, so there is nothing to decode.
      have hpercent : '%' ∉ ascii := fun hmem => by
        have hforbidden : Name.isForbidden '%' = true := by decide
        rw [allowed _ hmem] at hforbidden
        cases hforbidden
      show readHost ascii = _
      rw [readHost_of_bare ascii hne (hopen rfl) hpercent (hnamed ascii rfl), figures]
      rfl
  | @ipv4 address fits =>
      have hfigures : Name.toAscii? (ipv4Text address).toList = some (ipv4Text address).toList := by
        rw [toList_ipv4Text]
        refine Name.toAscii?_figures (List.cons_ne_nil _ _) fun piece hpiece => ?_
        obtain ⟨n, -, rfl⟩ := List.mem_map.1 hpiece
        exact Text.isDigit_toDigits
      have hpercent := not_mem_ipv4Text (c := '%') (by decide) (by decide) address
      show readHost (ipv4Text address).toList = _
      have hread := readHost_of_bare (ipv4Text address).toList hne (hopen rfl) hpercent hfigures
      rw [hread, endsInNumber_ipv4Text, ipv4?_ipv4Text fits]
      rfl
  | @ipv6 pieces eight fits =>
      show readBracketed ((ipv6Text pieces).toList ++ [']']) = _
      unfold readBracketed
      rw [List.getLast?_concat, List.dropLast_concat, ipv6?_ipv6Text eight fits]
      rfl

/-- A port that is not the usual one is read back. -/
theorem readPortPart_text {usual port : Option Nat}
    (h : ∀ n ∈ port, n ≤ 65535 ∧ usual ≠ some n) : readPortPart usual (portText port) = .ok port := by
  cases port with
  | none => rfl
  | some n =>
      obtain ⟨hfits, husual⟩ := h n rfl
      have hne : Nat.toDigits 10 n ≠ [] := Nat.toDigits_ne_nil
      show readPort usual (Nat.toDigits 10 n) = _
      unfold readPort
      rw [if_neg (by simp), Text.decimal?_of_digits hne Text.isDigit_toDigits,
        Nat.ofDigitChars_ten_toDigits]
      dsimp only
      rw [if_neg (Nat.not_lt.2 hfits), if_neg husual]

/-- **The authority is read back.** -/
theorem readAuthority_text {u : Url} (h : Settled u) :
    readAuthority (usualPort? u.scheme) (authority u) = .ok (u.user, u.host, u.port) := by
  have huser := splitUser_text h.user (h.not_mem_located (c := '@') (by decide))
  have hhost := splitHost_text h.host (head_portText u.port)
  have hsome : u.host.text.isEmpty = false := List.isEmpty_eq_false_iff.2 h.host.text_ne_nil
  unfold readAuthority authority
  rw [huser]
  dsimp only
  rw [hhost]
  dsimp only
  rw [hsome, h.readHost_text]
  show (readPortPart _ _ >>= _) = _
  rw [readPortPart_text h.ported]
  rfl

/-! ## §3. What follows it. -/

/-- A part is cut off at its sign. -/
theorem cutAt_append {mark : Char} {cs : List Char} (h : mark ∉ cs) (part : Option (List Char)) :
    cutAt mark (cs ++ marked mark part) = (cs, part) := by
  unfold cutAt
  cases part with
  | none => rw [marked, List.append_nil, splitFirst_eq_none (beq_false_of_not_mem h)]
  | some after =>
      rw [marked, splitFirst_append (beq_false_of_not_mem h) (beq_self_eq_true mark)]

/-- **What stands after the scheme** is read part by part. -/
theorem readWeb_text {u : Url} (h : Settled u) {path : List Char} {query : Option (List Char)}
    (fragment : Option (List Char)) (hslash : ∀ c ∈ path.head?, c = '/') (hpath : '?' ∉ path)
    (hquery : '#' ∉ path ++ marked '?' query) :
    readWeb u.scheme (usualPort? u.scheme)
        ('/' :: '/' :: (authority u ++ (path ++ marked '?' query ++ marked '#' fragment)))
      = .ok { u with
          path := readPath path
          query := query.map (encode .query)
          fragment := fragment.map (encode .fragment) } := by
  have hbody (rest : List Char) : ('/' :: '/' :: (authority u ++ rest)).dropWhile
      (fun c => c == '/' || c == '\\') = authority u ++ rest := by
    have hne : authority u ≠ [] := fun hnil =>
      h.host.text_ne_nil (List.append_eq_nil_iff.1 (List.append_eq_nil_iff.1 hnil).2).1
    obtain ⟨c, cs, hauthority⟩ := List.exists_cons_of_ne_nil hne
    have hc : isInner c = true := h.isInner_authority c (hauthority ▸ List.mem_cons_self)
    have hstop : ¬(c == '/' || c == '\\') = true := by
      rintro hslash
      rcases Bool.or_eq_true_iff.1 hslash with heq | heq
      · rw [beq_iff_eq.1 heq] at hc
        exact absurd hc (by decide)
      · rw [beq_iff_eq.1 heq] at hc
        exact absurd hc (by decide)
    rw [List.dropWhile_cons_of_pos (by decide), List.dropWhile_cons_of_pos (by decide), hauthority]
    exact List.dropWhile_cons_of_neg hstop
  -- The authority ends with the first part after it that there is.
  have hends : ∀ c ∈ (path ++ marked '?' query ++ marked '#' fragment).head?,
      endsAuthority true c = true := by
    cases path with
    | cons c path =>
        intro x hx
        obtain rfl := Option.some.inj hx
        rw [hslash c rfl]
        decide
    | nil =>
        cases query with
        | some q => exact fun x hx => Option.some.inj hx ▸ by decide
        | none =>
            cases fragment with
            | some f => exact fun x hx => Option.some.inj hx ▸ by decide
            | none => exact fun x hx => nomatch hx
  unfold readWeb
  dsimp only
  rw [hbody, splitAuthority_append h.isInner_authority hends]
  dsimp only
  rw [readAuthority_text h, cutAt_append hquery, cutAt_append hpath]
  rfl

/-- A text with a scheme is read by what stands after it. -/
theorem read_of_visible {u v : Url} (h : Settled u) {rest : List Char}
    (hvisible : ∀ c ∈ u.scheme ++ ':' :: rest, isVisible c = true)
    (hread : readWeb u.scheme (usualPort? u.scheme) rest = .ok v) :
    read (String.ofList (u.scheme ++ ':' :: rest)) = .ok v := by
  have hsplit : splitScheme? (u.scheme ++ ':' :: rest) = some (u.scheme, rest) := by
    rcases h.scheme_eq with heq | heq <;> rw [heq] <;> rfl
  obtain ⟨usual, husual⟩ : ∃ usual, usualPort? u.scheme = some usual := by
    rcases h.scheme_eq with heq | heq
    · exact ⟨80, heq ▸ by decide⟩
    · exact ⟨443, heq ▸ by decide⟩
  rw [husual] at hread
  unfold read
  rw [String.toList_ofList, relevant_trimChars hvisible, hsplit]
  dsimp only
  rw [husual]
  dsimp only
  rw [hread, h.scheme]
  rfl

/-! ## §4. Slashes at the end. -/

/-- The segments up to the last one that is not empty; there is always one. -/
def dropEmpty (path : List (List Char)) : List (List Char) :=
  match path.rdropWhile List.isEmpty with
  | [] => [[]]
  | path => path

/-- **An address without the slashes at its end**, wherever they stand. -/
def bare (u : Url) : Url :=
  match u.query, u.fragment with
  | _, some f => { u with fragment := some (dropSlashes f) }
  | some q, none => { u with query := some (dropSlashes q) }
  | none, none => { u with path := dropEmpty u.path }

theorem dropSlashes_dropSlashes (cs : List Char) : dropSlashes (dropSlashes cs) = dropSlashes cs :=
  List.rdropWhile_idempotent (· == '/') cs

/-- **Slashes at the end of a path** are segments that are empty. -/
theorem dropSlashes_pathText {path : List (List Char)} (h : ∀ s ∈ path, '/' ∉ s) :
    dropSlashes (pathText path) = pathText (path.rdropWhile List.isEmpty) := by
  induction path using List.reverseRecOn with
  | nil => rfl
  | append_singleton front last ih =>
      have hfront := ih fun s hs => h s (List.mem_append_left [last] hs)
      have htext : pathText (front ++ [last]) = pathText front ++ '/' :: last := by
        unfold pathText
        rw [List.flatMap_append, List.flatMap_singleton]
      rw [htext]
      obtain rfl | ⟨start, c, rfl⟩ := List.eq_nil_or_concat' last
      · rw [List.rdropWhile_concat_pos _ _ _ rfl, ← hfront]
        exact List.rdropWhile_concat_pos (· == '/') (pathText front) '/' rfl
      · -- The last character of the last segment is kept, and all before it.
        have hc : c ≠ '/' := fun heq => h (start ++ [c]) (by simp) (by simp [heq])
        have hkept := dropSlashes_append_cons (pathText front ++ '/' :: start) hc []
        rw [List.append_assoc, List.append_assoc, List.cons_append] at hkept
        rw [List.rdropWhile_concat_neg _ _ _ (by simp), htext]
        exact hkept

/-- A path without its slashes at the end is read as its segments. -/
theorem readPath_dropSlashes {path : List (List Char)} (h : ∀ s ∈ path, Segment s) :
    readPath (dropSlashes (pathText path)) = dropEmpty path := by
  have hslash : ∀ s ∈ path, '/' ∉ s := fun s hs hmem =>
    absurd ((h s hs).whole '/' hmem) (by decide)
  rw [dropSlashes_pathText hslash]
  unfold dropEmpty
  split
  · rename_i hnone
    rw [hnone]
    rfl
  · rename_i hsome
    exact readPath_pathText hsome fun s hs => h s ((List.rdropWhile_prefix _ path).subset hs)

theorem dropSlashes_dropEmpty {path : List (List Char)} (h : ∀ s ∈ path, '/' ∉ s) :
    dropSlashes (pathText (dropEmpty path)) = dropSlashes (pathText path) := by
  unfold dropEmpty
  split
  · rename_i hnone
    rw [dropSlashes_pathText h, hnone]
    rfl
  · rw [← dropSlashes_pathText h, dropSlashes_dropSlashes]

/-! ## §5. The canonical text read back. -/

theorem Kept.encode_dropSlashes {p : Part} {cs : List Char} (h : Kept p cs) :
    encode p (dropSlashes cs) = dropSlashes cs :=
  encode_of_kept fun c hc => h c ((dropSlashes_isPrefixOf cs).subset hc)

/-- A path begins with a slash, also when some at its end are missing. -/
theorem head_pathText (path : List (List Char)) : ∀ c ∈ (pathText path).head?, c = '/' := by
  cases path with
  | nil => exact fun c hc => nomatch hc
  | cons s path => exact fun c hc => (Option.some.inj hc).symm

/-- What stands after the origin in the canonical text is read back. -/
theorem readWeb_dropSlashes {u : Url} (h : Settled u) :
    readWeb u.scheme (usualPort? u.scheme)
        ('/' :: '/' :: (authority u ++ dropSlashes (pathText u.path ++ u.ending)))
      = .ok (bare u) := by
  have hpath : '?' ∉ pathText u.path := h.not_mem_pathText (by decide) (by decide)
  have hquery := h.not_mem_beforeFragment
  have hsegments := readPath_pathText h.path_ne_nil h.segments
  have hencoded : u.query.map (encode .query) = u.query := by
    cases hu : u.query with
    | none => rfl
    | some q => exact congrArg some (h.query q hu).encode_eq
  rw [ending_eq]
  unfold bare
  -- The slashes are dropped from the last part that there is.
  cases hfragment : u.fragment with
  | some f =>
      have hkept := (h.fragment f hfragment).encode_dropSlashes
      have hread := readWeb_text h (some (dropSlashes f)) (head_pathText u.path) hpath hquery
      rw [hsegments, hencoded, Option.map_some, hkept] at hread
      rw [marked, ← List.append_assoc, dropSlashes_append_cons _ (by decide)]
      exact hread
  | none =>
      cases hu : u.query with
      | some q =>
          have hkept := (h.query q hu).encode_dropSlashes
          have hhash : '#' ∉ pathText u.path ++ marked '?' (some (dropSlashes q)) := by
            rw [hu] at hquery
            intro hmem
            refine hquery (List.mem_append.2 ((List.mem_append.1 hmem).imp_right fun hmem => ?_))
            refine List.mem_cons.2 ((List.mem_cons.1 hmem).imp_right fun hmem => ?_)
            exact (dropSlashes_isPrefixOf q).subset hmem
          have hread := readWeb_text h none (head_pathText u.path) hpath hhash
          rw [hsegments, Option.map_some, hkept] at hread
          simp only [marked, List.append_nil] at hread ⊢
          rw [dropSlashes_append_cons _ (by decide), hread]
          rfl
      | none =>
          have hstart := dropSlashes_isPrefixOf (pathText u.path)
          have hhead : ∀ c ∈ (dropSlashes (pathText u.path)).head?, c = '/' := by
            obtain ⟨dropped, hdropped⟩ := hstart
            refine fun c hc => head_pathText u.path c ?_
            rw [← hdropped]
            exact List.mem_head?_append_of_mem_head? hc
          have hhash : '#' ∉ dropSlashes (pathText u.path) ++ marked '?' none := by
            rw [marked, List.append_nil]
            exact fun hmem => h.not_mem_pathText (by decide) (by decide) (hstart.subset hmem)
          have hread := readWeb_text h none hhead
            (fun hmem => hpath (hstart.subset hmem)) hhash
          rw [readPath_dropSlashes h.segments] at hread
          simp only [marked, List.append_nil] at hread ⊢
          rw [hread]
          rfl

/-- **The canonical text is read** as the address without the slashes at its end. -/
theorem read_canonical {u : Url} (h : Settled u) :
    read (String.ofList (dropSlashes u.text)) = .ok (bare u) := by
  have hvisible : ∀ c ∈ dropSlashes u.text, isVisible c = true := fun c hc =>
    h.isVisible_text c ((dropSlashes_isPrefixOf u.text).subset hc)
  rw [dropSlashes_text h.toFormed] at hvisible ⊢
  exact read_of_visible h hvisible (readWeb_dropSlashes h)

/-- Only slashes at the end are missing. -/
theorem lastPartsAgree_bare {u : Url} (h : Settled u) :
    SameOrigin u (bare u) ∧ LastPartsAgree u (bare u) := by
  have hslash : ∀ s ∈ u.path, '/' ∉ s := fun s hs hmem =>
    absurd ((h.segments s hs).whole '/' hmem) (by decide)
  unfold bare
  cases hfragment : u.fragment with
  | some f =>
      exact ⟨⟨rfl, rfl, rfl, rfl⟩,
        .fragment ⟨hfragment, rfl⟩ rfl rfl (dropSlashes_dropSlashes f).symm⟩
  | none =>
      cases hquery : u.query with
      | some q =>
          exact ⟨⟨rfl, rfl, rfl, rfl⟩,
            .query ⟨hquery, rfl⟩ ⟨hfragment, rfl⟩ rfl (dropSlashes_dropSlashes q).symm⟩
      | none =>
          exact ⟨⟨rfl, rfl, rfl, rfl⟩, .path ⟨hquery, rfl⟩ ⟨hfragment, rfl⟩
            (dropSlashes_dropEmpty hslash).symm⟩

/-- **Making an address canonical a second time changes nothing.** -/
theorem canonical_again {s c : String} (h : canonical s = .ok c) : canonical c = .ok c := by
  obtain ⟨u, hread, hc⟩ := exists_of_canonical h
  have hsettled := settled_of_read hread
  have hagain : read c = .ok (bare u) := hc ▸ read_canonical hsettled
  -- The two addresses differ in slashes at the end alone, so the same is left of them.
  have hsame := (dropSlashes_text_iff (formed_of_read hread) (formed_of_read hagain)).2
    (lastPartsAgree_bare hsettled)
  unfold canonical
  rw [hagain]
  show Except.ok (String.ofList (dropSlashes (bare u).text)) = _
  rw [← hsame, hc]

end Federation.Url
