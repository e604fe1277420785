/-
  Federation.Proofs.Url.Settled
  ─────────────────────────────
  **WHAT READING LEAVES.**

  An address that was read has each of its parts as it would be read again:
  the host in its ASCII form, no usual port, segments without a meaning of
  their own.  Only ASCII characters stand in the text of it, blanks and
  controls not among them, and no character in the authority ends it.

  Main results:
    * `readPath_pathText` — a path is read back;
    * `settled_of_read` — what reading leaves;
    * `Settled.isInner_authority` — what stands in an authority;
    * `Settled.isVisible_text` — what stands in the whole text.
-/
import Federation.Proofs.Url.Canonical
import Federation.Proofs.Url.Renaming

namespace Federation.Url

open Text (splitAll)

/-! ## §1. Paths. -/

/-- What stands in a part once it is encoded. -/
theorem mem_encode {p : Part} {cs : List Char} {x : Char} (h : x ∈ encode p cs) :
    x ∈ cs ∨ x = '%' ∨ ∃ n < 16, x = upperHex n := by
  obtain ⟨c, hc, hx⟩ := List.mem_flatMap.1 h
  unfold encodeChar at hx
  split at hx
  · exact .inl (List.mem_singleton.1 hx ▸ hc)
  · obtain ⟨b, -, hb⟩ := List.mem_flatMap.1 hx
    have hbyte := UInt8.toNat_lt b
    unfold encodeByte at hb
    simp only [List.mem_cons, List.not_mem_nil, or_false] at hb
    rcases hb with rfl | rfl | rfl
    · exact .inr (.inl rfl)
    · exact .inr (.inr ⟨b.toNat / 16, by omega, rfl⟩)
    · exact .inr (.inr ⟨b.toNat % 16, by omega, rfl⟩)

/-- Whether a character ends a segment. -/
def isSlash (c : Char) : Bool := c == '/' || c == '\\'

/-- **A segment that stands for itself**: it is in form, has no meaning of its own, and holds no
slash of either kind. -/
structure Segment (s : List Char) : Prop where
  kept : Kept .path s
  plain : isPlain s = true
  whole : ∀ c ∈ s, isSlash c = false

theorem segment_nil : Segment [] := ⟨fun c hc => (nomatch hc), by decide, fun c hc => (nomatch hc)⟩

/-- **The segments that are read stand for themselves.** -/
theorem segment_of_readPath (cs : List Char) : ∀ s ∈ readPath cs, Segment s := by
  -- Encoding brings in percent signs and hexadecimal digits, and none of these is a slash.
  have hhex : ∀ n ∈ List.range 16, isSlash (upperHex n) = false := by decide
  refine settleFrom_all segment_nil (fun s hs hplain => ?_) [] fun s hs => nomatch hs
  obtain ⟨piece, hpiece, rfl⟩ := List.mem_map.1 hs
  refine ⟨kept_encode _ _, hplain, fun c hc => ?_⟩
  rcases mem_encode hc with hc | rfl | ⟨n, hn, rfl⟩
  · exact (Text.mem_of_mem_splitAll hpiece c hc).2
  · decide
  · exact hhex n (List.mem_range.2 hn)

/-- The text of a path is the segments with slashes between them, after one. -/
theorem pathText_cons (s : List Char) (path : List (List Char)) :
    pathText (s :: path) = '/' :: ['/'].intercalate (s :: path) := by
  induction path generalizing s with
  | nil => simp [pathText]
  | cons t path ih =>
      show '/' :: (s ++ pathText (t :: path)) = _
      rw [ih t, List.intercalate_cons_cons, List.append_assoc]
      rfl

/-- **A path is read back.** -/
theorem readPath_pathText {path : List (List Char)} (hne : path ≠ [])
    (h : ∀ s ∈ path, Segment s) : readPath (pathText path) = path := by
  have hsplit : splitAll (fun c => c == '/' || c == '\\') (['/'].intercalate path) = path := by
    have hsame : ∀ c ∈ ['/'].intercalate path, (c == '/' || c == '\\') = (c == '/') := by
      intro c hc
      rcases Text.mem_of_mem_intercalate hc with rfl | ⟨s, hs, hc⟩
      · rfl
      · have hwhole := (h s hs).whole c hc
        unfold isSlash at hwhole
        rw [hwhole, (Bool.or_eq_false_iff.1 hwhole).1]
    rw [Text.splitAll_congr hsame]
    exact Text.splitAll_intercalate hne fun s hs hmem =>
      absurd ((h s hs).whole _ hmem) (by decide)
  have hencode : path.map (encode .path) = path := by
    rw [List.map_congr_left fun s hs => (h s hs).kept.encode_eq]
    exact List.map_id _
  obtain ⟨s, rest, rfl⟩ := List.exists_cons_of_ne_nil hne
  unfold readPath
  rw [pathText_cons]
  show settle ((splitAll (fun c => c == '/' || c == '\\') (['/'].intercalate (s :: rest))).map
    (encode .path)) = _
  rw [hsplit, hencode, settle_of_plain hne fun t ht => (h t ht).plain]

/-! ## §2. What reading leaves. -/

/-- **An address as reading leaves it**: every part is what it would be read as. -/
structure Settled (u : Url) : Prop extends Formed u where
  named : ∀ ascii, u.host = .name ascii → Name.toAscii? ascii = some ascii
  ported : ∀ n ∈ u.port, n ≤ 65535 ∧ usualPort? u.scheme ≠ some n
  segments : ∀ s ∈ u.path, Segment s
  fragment : ∀ f ∈ u.fragment, Kept .fragment f

theorem named_of_readHost {cs : List Char} {host : Host} (h : readHost cs = .ok host) :
    ∀ ascii, host = .name ascii → Name.toAscii? ascii = some ascii := by
  rintro ascii rfl
  unfold readHost at h
  split at h
  · unfold readBracketed at h
    split at h
    · split at h <;> cases h
    · cases h
  · split at h
    · cases h
    · cases h
    · rename_i found _ hfound
      obtain ⟨decoded, -, hascii⟩ := Option.bind_eq_some_iff.1 hfound
      split at h
      · split at h <;> cases h
      · obtain rfl := Host.name.inj (Except.ok.inj h)
        exact Name.toAscii?_again hascii

theorem ported_of_readPortPart {usual : Option Nat} {cs : List Char} {port : Option Nat}
    (h : readPortPart usual cs = .ok port) : ∀ n ∈ port, n ≤ 65535 ∧ usual ≠ some n := by
  unfold readPortPart at h
  split at h
  · unfold readPort at h
    split at h
    · obtain rfl := Except.ok.inj h
      exact fun n hn => nomatch hn
    · split at h
      · cases h
      · split at h
        · cases h
        · rename_i m _ hfits
          obtain rfl := Except.ok.inj h
          intro n hn
          obtain ⟨husual, heq⟩ := Option.ite_none_left_eq_some.1 hn
          obtain rfl := Option.some.inj heq
          exact ⟨Nat.le_of_not_lt hfits, husual⟩
  · obtain rfl := Except.ok.inj h
    exact fun n hn => nomatch hn

theorem settled_of_readAuthority {usual : Option Nat} {cs : List Char} {user : UserInfo}
    {host : Host} {port : Option Nat} (h : readAuthority usual cs = .ok (user, host, port)) :
    (∀ ascii, host = .name ascii → Name.toAscii? ascii = some ascii) ∧
      ∀ n ∈ port, n ≤ 65535 ∧ usual ≠ some n := by
  unfold readAuthority at h
  generalize splitUser cs = cut at h
  obtain ⟨user, located⟩ := cut
  generalize splitHost false located = cut at h
  obtain ⟨text, portPart⟩ := cut
  dsimp only at h
  split at h
  · cases h
  · obtain ⟨found, hfound, h⟩ := exists_of_bind_ok h
    obtain ⟨port', hport, h⟩ := exists_of_bind_ok h
    obtain ⟨-, rest⟩ := Prod.mk.inj (Except.ok.inj h)
    obtain ⟨rfl, rfl⟩ := Prod.mk.inj rest
    exact ⟨named_of_readHost hfound, ported_of_readPortPart hport⟩

/-- **What reading leaves.** -/
theorem settled_of_read {s : String} {u : Url} (h : read s = .ok u) : Settled u := by
  obtain ⟨-, ⟨authority, hauthority⟩, ⟨path, hpath⟩, -, -⟩ := parts_of_read h
  obtain ⟨hnamed, hported⟩ := settled_of_readAuthority hauthority
  refine ⟨formed_of_read h, hnamed, hported, ?_, kept_fragment_of_read h⟩
  rw [hpath]
  exact segment_of_readPath _

/-! ## §3. Characters of an address. -/

/-- Whether a character is ASCII and no blank or control. -/
def isVisible (c : Char) : Bool := 33 ≤ c.toNat && c.toNat < 127

/-- Whether a character may stand in an authority: it is visible and ends none. -/
def isInner (c : Char) : Bool := isVisible c && !endsAuthority true c

/-- What follows for the characters of ASCII, one by one, follows for a character of ASCII. -/
theorem ascii_imp {P Q : Char → Bool}
    (h : ∀ n ∈ List.range 128, P (Char.ofNat n) = true → Q (Char.ofNat n) = true) {c : Char}
    (hascii : c.toNat < 128) (hc : P c = true) : Q c = true := by
  have hchar := h c.toNat (List.mem_range.2 hascii)
  rw [Char.ofNat_toNat] at hchar
  exact hchar hc

theorem ascii_of_kept {p : Part} {c : Char} (h : p.keeps c = true) : c.toNat < 128 := by
  unfold Part.keeps at h
  rw [Bool.and_eq_true, Bool.and_eq_true, decide_eq_true_iff, decide_eq_true_iff] at h
  exact Nat.lt_succ_of_lt h.1.2

/-- What is kept in a part is visible. -/
theorem isVisible_of_kept {p : Part} {c : Char} (h : p.keeps c = true) : isVisible c = true :=
  ascii_imp (P := p.keeps) (by cases p <;> decide +kernel) (ascii_of_kept h) h

theorem isInner_of_kept {c : Char} (h : Part.userInfo.keeps c = true) : isInner c = true :=
  ascii_imp (P := Part.userInfo.keeps) (by decide +kernel) (ascii_of_kept h) h

theorem isInner_of_allowed {c : Char} (hascii : c.toNat < 128) (h : Name.isForbidden c = false) :
    isInner c = true := by
  refine ascii_imp (P := fun c => !Name.isForbidden c) (by decide +kernel) hascii ?_
  rw [h]
  rfl

/-- Hexadecimal digits are ASCII, and none of them ends an authority. -/
theorem isInner_of_digitIn? {c : Char} (h : digitIn? 16 c ≠ none) : isInner c = true := by
  have hascii : c.toNat < 128 := by
    by_contra hhigh
    refine h ?_
    have hnone (last : Char) (hlast : last.toNat < 128) : ¬c ≤ last := fun hle =>
      hhigh (Nat.lt_of_le_of_lt hle hlast)
    unfold digitIn?
    dsimp only
    rw [if_neg fun hc => hnone '9' (by decide) hc.2, if_neg fun hc => hnone 'f' (by decide) hc.2,
      if_neg fun hc => hnone 'F' (by decide) hc.2]
    rfl
  exact ascii_imp (P := fun c => (digitIn? 16 c).isSome) (by decide +kernel) hascii
    (Option.isSome_iff_ne_none.2 h)

theorem isInner_toDigits {n : Nat} : ∀ c ∈ Nat.toDigits 10 n, isInner c = true := by
  have all : ∀ d ∈ List.range 10, isInner d.digitChar = true := by decide
  intro c hc
  obtain ⟨d, hd, rfl⟩ := mem_toDigits (by decide) (by decide) n c hc
  exact all d (List.mem_range.2 hd)

/-- What is written for a host. -/
theorem Settled.isInner_host {u : Url} (h : Settled u) : ∀ c ∈ u.host.text, isInner c = true := by
  intro c hc
  have hhost := h.host
  cases hu : u.host with
  | name ascii =>
      rw [hu] at hc hhost
      cases hhost with
      | name _ allowed _ =>
          have hascii := List.all_eq_true.1 (Name.isAscii_of_toAscii? (h.named ascii hu)) c hc
          exact isInner_of_allowed (of_decide_eq_true hascii) (allowed c hc)
  | ipv4 address =>
      rw [hu] at hc
      by_cases hpoint : c = '.'
      · exact hpoint ▸ (by decide)
      · exact isInner_of_digitIn? fun hnone => not_mem_ipv4Text hnone hpoint address hc
  | ipv6 pieces =>
      rw [hu] at hc
      rcases List.mem_cons.1 hc with rfl | hc
      · decide
      · rcases List.mem_append.1 hc with hc | hc
        · by_cases hcolon : c = ':'
          · exact hcolon ▸ (by decide)
          · exact isInner_of_digitIn? fun hnone => not_mem_ipv6Text hnone hcolon pieces hc
        · obtain rfl := List.mem_singleton.1 hc
          decide

/-- **What stands in an authority** ends none. -/
theorem Settled.isInner_authority {u : Url} (h : Settled u) :
    ∀ c ∈ authority u, isInner c = true := by
  have hname : ∀ c ∈ u.user.name, isInner c = true := fun c hc => isInner_of_kept (h.user.name c hc)
  have hpassword : ∀ c ∈ u.user.password, isInner c = true := fun c hc =>
    isInner_of_kept (h.user.password c hc)
  intro c hc
  rcases List.mem_append.1 hc with hc | hc
  · unfold UserInfo.text at hc
    split at hc
    · cases hc
    · split at hc
      · rcases List.mem_append.1 hc with hc | hc
        · exact hname c hc
        · exact List.mem_singleton.1 hc ▸ (by decide)
      · rcases List.mem_append.1 hc with hc | hc
        · rcases List.mem_append.1 hc with hc | hc
          · exact hname c hc
          · exact (List.mem_cons.1 hc).elim (fun heq => heq ▸ (by decide)) (hpassword c)
        · exact List.mem_singleton.1 hc ▸ (by decide)
  · rcases List.mem_append.1 hc with hc | hc
    · exact h.isInner_host c hc
    · cases hport : u.port with
      | none =>
          rw [hport] at hc
          cases hc
      | some n =>
          rw [hport] at hc
          exact (List.mem_cons.1 hc).elim (fun heq => heq ▸ (by decide)) (isInner_toDigits c)

/-- **What was read is written in visible characters.** -/
theorem Settled.isVisible_text {u : Url} (h : Settled u) : ∀ c ∈ u.text, isVisible c = true := by
  have hkept {p : Part} {cs : List Char} (hcs : Kept p cs) : ∀ c ∈ cs, isVisible c = true :=
    fun c hc => isVisible_of_kept (hcs c hc)
  have hmarked {p : Part} (mark : Char) (hmark : isVisible mark = true)
      {part : Option (List Char)} (hpart : ∀ cs ∈ part, Kept p cs) :
      ∀ c ∈ marked mark part, isVisible c = true := by
    cases part with
    | none => exact fun c hc => nomatch hc
    | some cs =>
        intro c hc
        rcases List.mem_cons.1 hc with rfl | hc
        · exact hmark
        · exact hkept (hpart cs rfl) c hc
  have hscheme : ∀ c ∈ u.scheme, isVisible c = true := by
    rcases h.scheme_eq with heq | heq <;> rw [heq] <;> exact List.all_eq_true.1 rfl
  have hauthority : ∀ c ∈ authority u, isVisible c = true := fun c hc =>
    (Bool.and_eq_true_iff.1 (h.isInner_authority c hc)).1
  have hpath : ∀ c ∈ pathText u.path, isVisible c = true := by
    intro c hc
    obtain ⟨s, hs, hc⟩ := List.mem_flatMap.1 hc
    rcases List.mem_cons.1 hc with rfl | hc
    · decide
    · exact hkept (h.path s hs) c hc
  have hquery := hmarked '?' (by decide) h.query
  have hfragment := hmarked '#' (by decide) h.fragment
  have hsigns : isVisible ':' = true ∧ isVisible '/' = true := by decide
  rw [text_eq, ending_eq]
  intro c hc
  simp only [List.mem_append, List.mem_cons] at hc
  rcases hc with hc | rfl | rfl | rfl | hc | hc | hc | hc
  · exact hscheme c hc
  · exact hsigns.1
  · exact hsigns.2
  · exact hsigns.2
  · exact hauthority c hc
  · exact hpath c hc
  · exact hquery c hc
  · exact hfragment c hc

end Federation.Url
