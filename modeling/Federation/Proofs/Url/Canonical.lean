/-
  Federation.Proofs.Url.Canonical
  ───────────────────────────────
  **WHAT A CANONICAL TEXT TELLS.**

  The text of an address in form can be cut into its parts again, so two
  addresses with one text have the same parts.  The canonical text lacks the
  slashes at the end of the text, wherever they stand: in the path if
  nothing follows it, else in the query or the fragment.  So it tells the
  origin, and all that comes before the last part; of the last part it tells
  all but the slashes at its end.

  Main results:
    * `splitUser_text`, `splitHost_text` — user and host are read back;
    * `authority_inj` — the authority by its text;
    * `canonical_eq_iff` — when two addresses have one canonical text.
-/
import Federation.Proofs.Url.Formed
import Mathlib.Data.List.DropRight

namespace Federation.Url

open Text (splitFirst splitFirst_append splitFirst_eq_none append_cons_inj beq_false_of_not_mem)

/-! ## §1. Marked parts. -/

/-- A part that may be missing, with the sign before it. -/
def marked (mark : Char) : Option (List Char) → List Char
  | none => []
  | some cs => mark :: cs

/-- A part is cut off at its sign. -/
theorem append_marked_inj {mark : Char} {a b : List Char} {o p : Option (List Char)}
    (ha : mark ∉ a) (hb : mark ∉ b) (h : a ++ marked mark o = b ++ marked mark p) :
    a = b ∧ o = p := by
  cases o with
  | none =>
      rw [marked, List.append_nil] at h
      cases p with
      | none => exact ⟨by rwa [marked, List.append_nil] at h, rfl⟩
      | some d =>
          rw [h] at ha
          exact absurd (by simp [marked]) ha
  | some c =>
      cases p with
      | none =>
          rw [marked, marked, List.append_nil] at h
          rw [← h] at hb
          exact absurd (by simp) hb
      | some d =>
          obtain ⟨hab, hcd⟩ := append_cons_inj ha hb h
          exact ⟨hab, congrArg some hcd⟩

/-- The digits of a port with the colon before them. -/
def portText (port : Option Nat) : List Char := marked ':' (port.map (Nat.toDigits 10))

theorem portText_inj {m n : Option Nat} (h : portText m = portText n) : m = n := by
  have hdigits : Function.Injective (Nat.toDigits 10) := by
    intro i j hij
    have hi : numberIn? 10 (Nat.toDigits 10 i) = some i :=
      numberIn?_toDigits (by decide) (by decide) i
    rw [hij, numberIn?_toDigits (by decide) (by decide)] at hi
    exact (Option.some.inj hi).symm
  have hparts := append_marked_inj (a := []) (b := []) List.not_mem_nil List.not_mem_nil h
  exact Option.map_injective hdigits hparts.2

/-! ## §2. Hosts. -/

/-- A host that is not in brackets. -/
def Host.isBare : Host → Bool
  | .ipv6 _ => false
  | _ => true

/-- No sign that ends a host, or that stands before one, is in a bare host. -/
theorem Host.Formed.not_mem_bare {h : Host} (hformed : h.Formed) (hbare : h.isBare = true)
    {c : Char} (hc : c ∈ [':', '/', '@', '[']) : c ∉ h.text := by
  obtain ⟨hforbidden, hdigit, hpoint⟩ :
      Name.isForbidden c = true ∧ digitIn? 16 c = none ∧ c ≠ '.' := by
    simp only [List.mem_cons, List.not_mem_nil, or_false] at hc
    rcases hc with rfl | rfl | rfl | rfl <;> decide
  cases hformed with
  | name _ allowed _ =>
      intro hmem
      rw [allowed c hmem] at hforbidden
      cases hforbidden
  | ipv4 _ => exact not_mem_ipv4Text hdigit hpoint _
  | ipv6 _ _ => cases hbare

theorem Host.Formed.text_ne_nil {h : Host} (hformed : h.Formed) : h.text ≠ [] := by
  cases hformed with
  | name nonempty _ _ => exact nonempty
  | @ipv4 a _ =>
      intro hnil
      have hnumber := endsInNumber_ipv4Text a
      have hempty : (ipv4Text a).toList = [] := hnil
      rw [hempty] at hnumber
      exact absurd hnumber (by decide)
  | ipv6 _ _ => exact List.cons_ne_nil _ _

/-- What is written for a host, and for what follows it, ends before any slash and at sign. -/
theorem Host.Formed.not_mem_text {h : Host} (hformed : h.Formed) {c : Char}
    (hc : c ∈ ['/', '@']) : c ∉ h.text := by
  cases hbare : h.isBare with
  | true =>
      refine hformed.not_mem_bare hbare ?_
      rcases List.mem_cons.1 hc with rfl | hc
      · decide
      · obtain rfl := List.mem_singleton.1 hc
        decide
  | false =>
      obtain ⟨hdigit, hcolon, hopen, hclose⟩ :
          digitIn? 16 c = none ∧ c ≠ ':' ∧ c ≠ '[' ∧ c ≠ ']' := by
        simp only [List.mem_cons, List.not_mem_nil, or_false] at hc
        rcases hc with rfl | rfl <;> decide
      cases hformed with
      | name _ _ _ => cases hbare
      | ipv4 _ => cases hbare
      | @ipv6 pieces _ _ =>
          have hpieces := not_mem_ipv6Text hdigit hcolon pieces
          intro hmem
          rcases List.mem_cons.1 hmem with heq | hmem
          · exact hopen heq
          · rcases List.mem_append.1 hmem with hmem | hmem
            · exact hpieces hmem
            · exact hclose (List.mem_singleton.1 hmem)

/-- A bare host ends at the first colon. -/
theorem splitHost_bare {cs rest : List Char} (h : ∀ c ∈ cs, c ≠ ':' ∧ c ≠ '[')
    (hrest : ∀ c ∈ rest.head?, c = ':') : splitHost false (cs ++ rest) = (cs, rest) := by
  induction cs with
  | nil =>
      cases rest with
      | nil => rfl
      | cons c rest =>
          obtain rfl := hrest c rfl
          rfl
  | cons c cs ih =>
      obtain ⟨hcolon, hopen⟩ := h c List.mem_cons_self
      have hrest := ih fun x hx => h x (List.mem_cons_of_mem c hx)
      rw [List.cons_append, splitHost]
      simp [hcolon, hopen, hrest]

/-- Inside brackets a colon ends nothing. -/
theorem splitHost_bracketed {cs rest : List Char} (h : ']' ∉ cs)
    (hrest : ∀ c ∈ rest.head?, c = ':') :
    splitHost true (cs ++ ']' :: rest) = (cs ++ [']'], rest) := by
  induction cs with
  | nil =>
      have hempty : splitHost false ([] ++ rest) = ([], rest) :=
        splitHost_bare (fun c hc => absurd hc List.not_mem_nil) hrest
      rw [List.nil_append] at hempty ⊢
      rw [splitHost]
      simp [hempty]
  | cons c cs ih =>
      have hclose : c ≠ ']' := fun heq => h (heq ▸ List.mem_cons_self)
      have hrest := ih fun hmem => h (List.mem_cons_of_mem c hmem)
      rw [List.cons_append, splitHost]
      simp [hclose, hrest]

/-- **A host is read back** from the text that it is the start of. -/
theorem splitHost_text {h : Host} (hformed : h.Formed) {rest : List Char}
    (hrest : ∀ c ∈ rest.head?, c = ':') : splitHost false (h.text ++ rest) = (h.text, rest) := by
  cases hbare : h.isBare with
  | true =>
      refine splitHost_bare (fun c hc => ⟨?_, ?_⟩) hrest
      · rintro rfl
        exact hformed.not_mem_bare hbare (by decide) hc
      · rintro rfl
        exact hformed.not_mem_bare hbare (by decide) hc
  | false =>
      cases hformed with
      | name _ _ _ => cases hbare
      | ipv4 _ => cases hbare
      | @ipv6 pieces _ _ =>
          have hclose : ']' ∉ (ipv6Text pieces).toList :=
            not_mem_ipv6Text (by decide) (by decide) pieces
          have hinside := splitHost_bracketed hclose hrest
          show splitHost false ('[' :: (_ ++ [']']) ++ rest) = _
          rw [List.cons_append, List.append_assoc, List.singleton_append, splitHost]
          simp [hinside, Host.text]

/-- Brackets are seen in the text. -/
theorem Host.Formed.mem_open {h : Host} (hformed : h.Formed) :
    '[' ∈ h.text ↔ h.isBare = false := by
  cases hbare : h.isBare with
  | true => exact iff_of_false (hformed.not_mem_bare hbare (by decide)) (by decide)
  | false =>
      cases hformed with
      | name _ _ _ => cases hbare
      | ipv4 _ => cases hbare
      | ipv6 _ _ => exact iff_of_true List.mem_cons_self rfl

/-- **A host is known by its text.** -/
theorem Host.text_inj {g h : Host} (hg : g.Formed) (hh : h.Formed) (heq : g.text = h.text) :
    g = h := by
  have hbare : g.isBare = h.isBare := by
    have hopen := hg.mem_open
    rw [heq, hh.mem_open] at hopen
    exact Bool.eq_iff_iff.2 (by simpa using not_congr hopen.symm)
  cases hg with
  | @name ascii _ _ named =>
      cases hh with
      | name _ _ _ => exact congrArg Host.name heq
      | @ipv4 b _ =>
          have hascii : ascii = (ipv4Text b).toList := heq
          rw [hascii, endsInNumber_ipv4Text] at named
          cases named
      | ipv6 _ _ => cases hbare
  | @ipv4 a fits =>
      cases hh with
      | @name ascii _ _ named =>
          have hascii : (ipv4Text a).toList = ascii := heq
          rw [← hascii, endsInNumber_ipv4Text] at named
          cases named
      | @ipv4 b hb =>
          have htext : (ipv4Text a).toList = (ipv4Text b).toList := heq
          have hread := ipv4?_ipv4Text fits
          rw [htext, ipv4?_ipv4Text hb] at hread
          exact congrArg Host.ipv4 (Option.some.inj hread).symm
      | ipv6 _ _ => cases hbare
  | @ipv6 pieces eight fits =>
      cases hh with
      | name _ _ _ => cases hbare
      | ipv4 _ => cases hbare
      | @ipv6 others eight' fits' =>
          have htext : (ipv6Text pieces).toList = (ipv6Text others).toList :=
            List.append_cancel_right (List.cons.inj heq).2
          have hread := ipv6?_ipv6Text eight fits
          rw [htext, ipv6?_ipv6Text eight' fits'] at hread
          exact congrArg Host.ipv6 (Option.some.inj hread).symm

/-! ## §3. The authority. -/

/-- The last at sign ends the user. -/
theorem splitLastAt_append {located : List Char} (h : '@' ∉ located) (before : List Char) :
    splitLastAt (before ++ '@' :: located) = some (before, located) := by
  have hno : ∀ c ∈ located.reverse, (c == '@') = false :=
    beq_false_of_not_mem (mt List.mem_reverse.1 h)
  unfold splitLastAt
  rw [List.reverse_append, List.reverse_cons, List.append_assoc, List.singleton_append,
    splitFirst_append hno (beq_self_eq_true '@'), Option.map_some]
  simp

theorem splitLastAt_eq_none {located : List Char} (h : '@' ∉ located) :
    splitLastAt located = none := by
  have hno : ∀ c ∈ located.reverse, (c == '@') = false :=
    beq_false_of_not_mem (mt List.mem_reverse.1 h)
  unfold splitLastAt
  rw [splitFirst_eq_none hno, Option.map_none]

/-- User information in form is read as it stands. -/
theorem readUserInfo_text {user : UserInfo} (h : user.Formed) :
    readUserInfo user.name = ⟨user.name, []⟩ ∧
      readUserInfo (user.name ++ ':' :: user.password) = user := by
  have hcolon : ∀ c ∈ user.name, (c == ':') = false :=
    beq_false_of_not_mem (h.name.not_mem (by decide))
  constructor
  · unfold readUserInfo
    rw [splitFirst_eq_none hcolon]
    dsimp only
    rw [h.name.encode_eq]
  · unfold readUserInfo
    rw [splitFirst_append hcolon (beq_self_eq_true ':')]
    dsimp only
    rw [h.name.encode_eq, h.password.encode_eq]

/-- **The user is read back** from the text that it is the start of. -/
theorem splitUser_text {user : UserInfo} (h : user.Formed) {located : List Char}
    (hlocated : '@' ∉ located) : splitUser (user.text ++ located) = (user, located) := by
  obtain ⟨hname, hboth⟩ := readUserInfo_text h
  have hmarked (before : List Char) :
      splitUser (before ++ ['@'] ++ located) = (readUserInfo before, located) := by
    unfold splitUser
    rw [List.append_assoc, List.singleton_append, splitLastAt_append hlocated]
  unfold UserInfo.text
  split
  · rename_i hempty
    rw [Bool.and_eq_true, List.isEmpty_iff, List.isEmpty_iff] at hempty
    obtain ⟨name, password⟩ := user
    obtain ⟨rfl, rfl⟩ := hempty
    unfold splitUser
    rw [List.nil_append, splitLastAt_eq_none hlocated]
  · split
    · rename_i hpassword
      rw [List.isEmpty_iff] at hpassword
      rw [hmarked, hname, ← hpassword]
    · rw [hmarked, hboth]

/-- What is written between the scheme and the path. -/
def authority (u : Url) : List Char := u.user.text ++ (u.host.text ++ portText u.port)

theorem head_portText (port : Option Nat) : ∀ c ∈ (portText port).head?, c = ':' := by
  cases port with
  | none => exact fun c hc => nomatch hc
  | some n => exact fun c hc => (Option.some.inj hc).symm

theorem not_mem_portText {c : Char} (h : digitIn? 16 c = none) (hc : c ≠ ':')
    (port : Option Nat) : c ∉ portText port := by
  cases port with
  | none => exact List.not_mem_nil
  | some n =>
      intro hmem
      rcases List.mem_cons.1 hmem with heq | hmem
      · exact hc heq
      · exact not_mem_toDigits (by decide) (by decide) h n hmem

theorem Formed.not_mem_located {u : Url} (h : Formed u) {c : Char} (hc : c ∈ ['/', '@']) :
    c ∉ u.host.text ++ portText u.port := by
  obtain ⟨hdigit, hcolon⟩ : digitIn? 16 c = none ∧ c ≠ ':' := by
    simp only [List.mem_cons, List.not_mem_nil, or_false] at hc
    rcases hc with rfl | rfl <;> decide
  intro hmem
  rcases List.mem_append.1 hmem with hmem | hmem
  · exact h.host.not_mem_text hc hmem
  · exact not_mem_portText hdigit hcolon u.port hmem

/-- **An authority is known by its text.** -/
theorem authority_inj {u v : Url} (hu : Formed u) (hv : Formed v)
    (h : authority u = authority v) : u.user = v.user ∧ u.host = v.host ∧ u.port = v.port := by
  have huser := splitUser_text hu.user (hu.not_mem_located (c := '@') (by decide))
  have hother := splitUser_text hv.user (hv.not_mem_located (c := '@') (by decide))
  unfold authority at h
  rw [h, hother] at huser
  obtain ⟨huser, hlocated⟩ := Prod.mk.inj huser
  have hhost := splitHost_text hu.host (head_portText u.port)
  rw [← hlocated, splitHost_text hv.host (head_portText v.port)] at hhost
  obtain ⟨hhost, hport⟩ := Prod.mk.inj hhost
  exact ⟨huser.symm, Host.text_inj hu.host hv.host hhost.symm, portText_inj hport.symm⟩

/-! ## §4. The slashes at the end. -/

/-- Slashes are dropped as far as the first other character. -/
theorem dropSlashes_append_cons (front : List Char) {c : Char} (hc : c ≠ '/') (back : List Char) :
    dropSlashes (front ++ c :: back) = front ++ c :: dropSlashes back := by
  unfold dropSlashes
  have hstop : (c :: front.reverse).dropWhile (· == '/') = c :: front.reverse :=
    List.dropWhile_cons_of_neg (by simpa using hc)
  rw [List.reverse_append, List.reverse_cons, List.append_assoc, List.singleton_append,
    List.dropWhile_append, hstop]
  split
  · rename_i hempty
    rw [List.isEmpty_iff] at hempty
    simp [hempty]
  · simp

theorem dropSlashes_isPrefixOf (cs : List Char) : dropSlashes cs <+: cs :=
  List.rdropWhile_prefix _ cs

/-- Whether all but the last part agree, and that one up to the slashes at
its end. -/
def AgreeFrom (a b : List Char) : Option (List Char) → Option (List Char) → Prop
  | none, none => dropSlashes a = dropSlashes b
  | some c, some d => a = b ∧ dropSlashes c = dropSlashes d
  | none, some _ => False
  | some _, none => False

/-- Either the last part is missing on both sides, or it is there on both. -/
theorem AgreeFrom.cases {a b : List Char} {o p : Option (List Char)} (h : AgreeFrom a b o p) :
    (o = none ∧ p = none) ∧ dropSlashes a = dropSlashes b ∨
      ∃ c d, (o = some c ∧ p = some d) ∧ a = b ∧ dropSlashes c = dropSlashes d := by
  cases o with
  | none =>
      cases p with
      | none => exact .inl ⟨⟨rfl, rfl⟩, h⟩
      | some d => exact h.elim
  | some c =>
      cases p with
      | none => exact h.elim
      | some d => exact .inr ⟨c, d, ⟨rfl, rfl⟩, h⟩

/-- A sign that is kept tells where the last part begins. -/
theorem dropSlashes_marked_iff {mark : Char} (hmark : mark ≠ '/') {a b : List Char}
    (ha : mark ∉ a) (hb : mark ∉ b) (o p : Option (List Char)) :
    dropSlashes (a ++ marked mark o) = dropSlashes (b ++ marked mark p) ↔ AgreeFrom a b o p := by
  have hmissing {cs : List Char} (h : mark ∉ cs) : mark ∉ dropSlashes cs := fun hmem =>
    h ((dropSlashes_isPrefixOf cs).subset hmem)
  cases o with
  | none =>
      cases p with
      | none => rw [marked, List.append_nil, List.append_nil, AgreeFrom]
      | some d =>
          rw [marked, marked, List.append_nil, dropSlashes_append_cons b hmark, AgreeFrom]
          refine iff_false_intro fun h => hmissing ha ?_
          rw [h]
          simp
  | some c =>
      rw [marked, dropSlashes_append_cons a hmark]
      cases p with
      | none =>
          rw [marked, List.append_nil, AgreeFrom]
          refine iff_false_intro fun h => hmissing hb ?_
          rw [← h]
          simp
      | some d =>
          rw [marked, dropSlashes_append_cons b hmark, AgreeFrom]
          refine ⟨append_cons_inj ha hb, fun ⟨hab, hcd⟩ => ?_⟩
          rw [hab, hcd]

/-- **What two addresses with one canonical text may differ in after the
origin**: slashes at the end of the last part that they have. -/
inductive LastPartsAgree (u v : Url) : Prop
  | path (noQuery : u.query = none ∧ v.query = none)
      (noFragment : u.fragment = none ∧ v.fragment = none)
      (path : dropSlashes (pathText u.path) = dropSlashes (pathText v.path))
  | query {q r : List Char} (queries : u.query = some q ∧ v.query = some r)
      (noFragment : u.fragment = none ∧ v.fragment = none)
      (path : pathText u.path = pathText v.path) (query : dropSlashes q = dropSlashes r)
  | fragment {f g : List Char} (fragments : u.fragment = some f ∧ v.fragment = some g)
      (path : pathText u.path = pathText v.path) (query : u.query = v.query)
      (fragment : dropSlashes f = dropSlashes g)

theorem Formed.not_mem_pathText {u : Url} (h : Formed u) {c : Char} (hc : Part.path.keeps c = false)
    (hslash : c ≠ '/') : c ∉ pathText u.path := by
  intro hmem
  obtain ⟨s, hs, hmem⟩ := List.mem_flatMap.1 hmem
  rcases List.mem_cons.1 hmem with heq | hmem
  · exact hslash heq
  · exact (h.path s hs).not_mem hc hmem

/-- No hash stands before the fragment. -/
theorem Formed.not_mem_beforeFragment {u : Url} (h : Formed u) :
    '#' ∉ pathText u.path ++ marked '?' u.query := by
  intro hmem
  rcases List.mem_append.1 hmem with hmem | hmem
  · exact h.not_mem_pathText (by decide) (by decide) hmem
  · cases hquery : u.query with
    | none =>
        rw [hquery] at hmem
        cases hmem
    | some q =>
        rw [hquery] at hmem
        rcases List.mem_cons.1 hmem with heq | hmem
        · exact absurd heq (by decide)
        · exact (h.query q hquery).not_mem (by decide) hmem

theorem ending_eq (u : Url) : u.ending = marked '?' u.query ++ marked '#' u.fragment := by
  unfold ending
  cases u.query <;> cases u.fragment <;> rfl

/-- **After the origin** only slashes at the end of the last part are lost. -/
theorem dropSlashes_afterOrigin_iff {u v : Url} (hu : Formed u) (hv : Formed v) :
    dropSlashes (pathText u.path ++ u.ending) = dropSlashes (pathText v.path ++ v.ending)
      ↔ LastPartsAgree u v := by
  have hpath {w : Url} (hw : Formed w) : '?' ∉ pathText w.path :=
    hw.not_mem_pathText (by decide) (by decide)
  rw [ending_eq, ending_eq, ← List.append_assoc, ← List.append_assoc,
    dropSlashes_marked_iff (by decide) hu.not_mem_beforeFragment hv.not_mem_beforeFragment]
  constructor
  · intro h
    obtain ⟨noFragment, h⟩ | ⟨f, g, fragments, hbefore, hfragment⟩ := h.cases
    · rw [dropSlashes_marked_iff (by decide) (hpath hu) (hpath hv)] at h
      obtain ⟨noQuery, hpaths⟩ | ⟨q, r, queries, hpaths, hqueries⟩ := h.cases
      · exact .path noQuery noFragment hpaths
      · exact .query queries noFragment hpaths hqueries
    · obtain ⟨hpaths, hqueries⟩ := append_marked_inj (hpath hu) (hpath hv) hbefore
      exact .fragment fragments hpaths hqueries hfragment
  · intro h
    cases h with
    | path noQuery noFragment path =>
        rw [noFragment.1, noFragment.2, AgreeFrom, noQuery.1, noQuery.2]
        simpa [marked] using path
    | query queries noFragment path query =>
        rw [noFragment.1, noFragment.2, AgreeFrom, queries.1, queries.2, path,
          dropSlashes_marked_iff (by decide) (hpath hv) (hpath hv)]
        exact ⟨rfl, query⟩
    | fragment fragments path query fragment =>
        rw [fragments.1, fragments.2, AgreeFrom, path, query]
        exact ⟨rfl, fragment⟩

/-! ## §5. Canonical texts. -/

/-- Whether two addresses have one origin. -/
structure SameOrigin (u v : Url) : Prop where
  scheme : u.scheme = v.scheme
  user : u.user = v.user
  host : u.host = v.host
  port : u.port = v.port

/-- **Whether two addresses are one target**: they differ at most in slashes
at the ends of their paths. -/
structure SameTarget (u v : Url) : Prop extends SameOrigin u v where
  path : dropSlashes (pathText u.path) = dropSlashes (pathText v.path)
  query : u.query = v.query
  fragment : u.fragment = v.fragment

theorem text_eq (u : Url) :
    u.text = u.scheme ++ ':' :: '/' :: '/' :: (authority u ++ (pathText u.path ++ u.ending)) := by
  obtain ⟨scheme, user, host, port, path, query, fragment⟩ := u
  unfold text origin authority
  cases port with
  | none => simp [portText, marked]
  | some n => simp [portText, marked]

/-- The authority ends before the first slash. -/
theorem Formed.not_mem_authority {u : Url} (h : Formed u) : '/' ∉ authority u := by
  intro hmem
  rcases List.mem_append.1 hmem with hmem | hmem
  · have hname := h.user.name.not_mem (c := '/') (by decide)
    have hpassword := h.user.password.not_mem (c := '/') (by decide)
    unfold UserInfo.text at hmem
    split at hmem
    · cases hmem
    · split at hmem
      · simp [hname] at hmem
      · simp [hname, hpassword] at hmem
  · exact h.not_mem_located (by decide) hmem

/-- **The canonical text** is the text up to the path, and what is left of
the rest. -/
theorem dropSlashes_text {u : Url} (h : Formed u) :
    dropSlashes u.text = u.scheme ++ ':' :: '/' :: '/' ::
      (authority u ++ dropSlashes (pathText u.path ++ u.ending)) := by
  -- A host is never empty, so the authority ends in a character that stays.
  have hsome : authority u ≠ [] := by
    intro hnil
    have hhost := (List.append_eq_nil_iff.1 hnil).2
    exact h.host.text_ne_nil (List.append_eq_nil_iff.1 hhost).1
  obtain hnil | ⟨front, c, hlast⟩ := List.eq_nil_or_concat' (authority u)
  · exact absurd hnil hsome
  · have hc : c ≠ '/' := by
      rintro rfl
      exact h.not_mem_authority (by simp [hlast])
    have hstop := dropSlashes_append_cons (u.scheme ++ ':' :: '/' :: '/' :: front) hc
      (pathText u.path ++ u.ending)
    rw [text_eq, hlast]
    simpa using hstop

theorem Formed.afterOrigin_marked {u : Url} (h : Formed u) :
    ∃ o, dropSlashes (pathText u.path ++ u.ending) = marked '/' o := by
  obtain ⟨s, path, hpath⟩ := List.exists_cons_of_ne_nil h.path_ne_nil
  have hprefix := dropSlashes_isPrefixOf (pathText u.path ++ u.ending)
  have hslash : pathText u.path ++ u.ending = '/' :: (s ++ pathText path ++ u.ending) := by
    rw [hpath]
    simp [pathText]
  rw [hslash] at hprefix ⊢
  cases hrest : dropSlashes ('/' :: (s ++ pathText path ++ u.ending)) with
  | nil => exact ⟨none, rfl⟩
  | cons c rest =>
      rw [hrest, List.cons_prefix_cons] at hprefix
      exact ⟨some rest, by rw [marked, hprefix.1]⟩

theorem Formed.scheme_eq {u : Url} (h : Formed u) :
    u.scheme = "http".toList ∨ u.scheme = "https".toList := by
  have hscheme := h.scheme
  unfold isSupported at hscheme
  rwa [Bool.or_eq_true, beq_iff_eq, beq_iff_eq] at hscheme

theorem Formed.not_mem_scheme {u : Url} (h : Formed u) : ':' ∉ u.scheme := by
  rcases h.scheme_eq with heq | heq
  · rw [heq]
    decide
  · rw [heq]
    decide

theorem dropSlashes_text_iff {u v : Url} (hu : Formed u) (hv : Formed v) :
    dropSlashes u.text = dropSlashes v.text ↔ SameOrigin u v ∧ LastPartsAgree u v := by
  rw [dropSlashes_text hu, dropSlashes_text hv, ← dropSlashes_afterOrigin_iff hu hv]
  constructor
  · intro h
    obtain ⟨hscheme, hrest⟩ := append_cons_inj hu.not_mem_scheme hv.not_mem_scheme h
    have hrest := (List.cons.inj (List.cons.inj hrest).2).2
    obtain ⟨o, ho⟩ := hu.afterOrigin_marked
    obtain ⟨p, hp⟩ := hv.afterOrigin_marked
    rw [ho, hp] at hrest ⊢
    obtain ⟨hauthority, hop⟩ := append_marked_inj hu.not_mem_authority hv.not_mem_authority hrest
    obtain ⟨huser, hhost, hport⟩ := authority_inj hu hv hauthority
    exact ⟨⟨hscheme, huser, hhost, hport⟩, by rw [hop]⟩
  · rintro ⟨horigin, hrest⟩
    unfold authority
    rw [horigin.scheme, horigin.user, horigin.host, horigin.port, hrest]

/-- A canonical text is what is left of an address that was read. -/
theorem exists_of_canonical {s t : String} (h : canonical s = .ok t) :
    ∃ u, read s = .ok u ∧ t = String.ofList (dropSlashes u.text) := by
  unfold canonical at h
  cases hread : read s with
  | error fault =>
      rw [hread] at h
      cases h
  | ok u =>
      rw [hread] at h
      exact ⟨u, rfl, (Except.ok.inj h).symm⟩

/-- **Two texts have one canonical text** exactly where they name one origin,
and what follows it differs at most in slashes at the very end. -/
theorem canonical_eq_iff {a b : String} {u v : Url} (ha : read a = .ok u) (hb : read b = .ok v) :
    canonical a = canonical b ↔ SameOrigin u v ∧ LastPartsAgree u v := by
  rw [← dropSlashes_text_iff (formed_of_read ha) (formed_of_read hb)]
  unfold canonical
  rw [ha, hb]
  show Except.ok _ = Except.ok _ ↔ _
  rw [Except.ok.injEq, String.ofList_inj]

/-- A web address of this machine. -/
def loopback (path : List (List Char)) (query : Option (List Char)) : Url where
  scheme := "http".toList
  user := ⟨[], []⟩
  host := .ipv6 [0, 0, 0, 0, 0, 0, 0, 1]
  port := none
  path
  query
  fragment := none

/-- A slash at the end of the path is the same target, however the address is
written. -/
theorem canonical_eq_loopback :
    canonical "HTTP://[0::1]:80/am/" = canonical "http://[::1]/am" :=
  (canonical_eq_iff (u := loopback [['a', 'm'], []] none) (v := loopback [['a', 'm']] none)
    (by decide +kernel) (by decide +kernel)).2
    ⟨⟨rfl, rfl, rfl, rfl⟩, .path ⟨rfl, rfl⟩ ⟨rfl, rfl⟩ (by decide)⟩

/-- **Different targets may have one canonical text**: a slash that belongs
to the query is dropped as well. -/
theorem canonical_conflates : ¬∀ (a b c : String) (u v : Url), canonical a = .ok c →
    canonical b = .ok c → read a = .ok u → read b = .ok v → SameTarget u v := by
  intro h
  have hsame := h "http://[::1]/am?dir=/" "http://[::1]/am?dir=" "http://[::1]/am?dir="
    (loopback [['a', 'm']] (some "dir=/".toList)) (loopback [['a', 'm']] (some "dir=".toList))
    (by decide +kernel) (by decide +kernel) (by decide +kernel) (by decide +kernel)
  exact absurd hsame.query (by decide)

end Federation.Url
