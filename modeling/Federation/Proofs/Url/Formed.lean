/-
  Federation.Proofs.Url.Formed
  ────────────────────────────
  **WHAT WAS READ IS IN FORM.**

  Whatever text an address was read from, its parts hold no sign that means
  something to the part before: no colon or at sign in a user's name, no
  slash in a host, no question mark in a path, no hash in a query.  A host
  that is a number was read as one.

  Main results:
    * `formed_of_read` — the parts up to the query;
    * `kept_fragment_of_read` — the fragment.
-/
import Federation.Proofs.Url.Address
import Federation.Proofs.Url.Name
import Federation.Url.Reader

namespace Federation.Url

/-! ## §1. Parts in form. -/

/-- Whether every character stands for itself in the part. -/
def Kept (p : Part) (cs : List Char) : Prop := ∀ c ∈ cs, p.keeps c = true

theorem kept_encode (p : Part) (cs : List Char) : Kept p (encode p cs) := fun _ hc =>
  kept_of_mem_encode hc

theorem Kept.not_mem {p : Part} {cs : List Char} (h : Kept p cs) {c : Char}
    (hc : p.keeps c = false) : c ∉ cs := by
  intro hmem
  rw [h c hmem] at hc
  cases hc

theorem Kept.encode_eq {p : Part} {cs : List Char} (h : Kept p cs) : encode p cs = cs :=
  encode_of_kept h

/-- A host that is written in its one form. -/
inductive Host.Formed : Host → Prop
  | name {ascii : List Char} (nonempty : ascii ≠ [])
      (allowed : ∀ c ∈ ascii, Name.isForbidden c = false) (named : endsInNumber ascii = false) :
      Formed (.name ascii)
  | ipv4 {address : Nat} (fits : address < 4294967296) : Formed (.ipv4 address)
  | ipv6 {pieces : List Nat} (eight : pieces.length = 8) (fits : ∀ n ∈ pieces, Sixteen n) :
      Formed (.ipv6 pieces)

/-- User information in form. -/
structure UserInfo.Formed (user : UserInfo) : Prop where
  name : Kept .userInfo user.name
  password : Kept .userInfo user.password

/-- **An address in form.** -/
structure Formed (u : Url) : Prop where
  scheme : isSupported u.scheme = true
  user : u.user.Formed
  host : u.host.Formed
  path_ne_nil : u.path ≠ []
  path : ∀ s ∈ u.path, Kept .path s
  query : ∀ q ∈ u.query, Kept .query q

/-! ## §2. Paths. -/

theorem mem_ascend {s : List Char} {folder : List (List Char)} (h : s ∈ ascend folder) :
    s ∈ folder := by
  cases folder with
  | nil => exact h
  | cons t above =>
      rw [ascend] at h
      split at h
      · exact h
      · exact List.mem_cons_of_mem t h

/-- **What holds of plain segments and of the empty one** holds along the dots. -/
theorem settleFrom_all {P : List Char → Prop} (hnil : P []) {segments : List (List Char)} :
    (∀ s ∈ segments, isPlain s = true → P s) → ∀ folder : List (List Char), (∀ s ∈ folder, P s) →
      ∀ s ∈ settleFrom folder segments, P s := by
  have hcons {s : List Char} {folder : List (List Char)} (hs : P s) (hfolder : ∀ t ∈ folder, P t) :
      ∀ t ∈ s :: folder, P t := fun t ht =>
    (List.mem_cons.1 ht).elim (fun heq => heq ▸ hs) (hfolder t)
  have hreverse {folder : List (List Char)} (hfolder : ∀ t ∈ folder, P t) :
      ∀ t ∈ folder.reverse, P t := fun t ht => hfolder t (List.mem_reverse.1 ht)
  have henter {s : List Char} {folder : List (List Char)} (hs : isPlain s = true → P s)
      (hfolder : ∀ t ∈ folder, P t) : ∀ t ∈ enter folder s, P t := by
    unfold enter
    split
    · exact fun t ht => hfolder t (mem_ascend ht)
    · rename_i hdouble
      split
      · exact hfolder
      · rename_i hdot
        refine hcons (hs ?_) hfolder
        unfold isPlain
        rw [eq_false_of_ne_true hdot, eq_false_of_ne_true hdouble]
        rfl
  induction segments with
  | nil => exact fun _ folder hfolder => hreverse (hcons hnil hfolder)
  | cons s rest ih =>
      intro hsegments folder hfolder
      have hs := hsegments s List.mem_cons_self
      cases rest with
      | nil =>
          rw [settleFrom]
          split
          · rename_i hplain
            exact hreverse (hcons (hs hplain) hfolder)
          · exact hreverse (hcons hnil (henter hs hfolder))
      | cons t rest =>
          exact ih (fun u hu => hsegments u (List.mem_cons_of_mem s hu)) _ (henter hs hfolder)

/-- The segments that are read are in form. -/
theorem kept_readPath (cs : List Char) : ∀ s ∈ readPath cs, Kept .path s := by
  have hnil : Kept .path [] := fun c hc => nomatch hc
  refine settleFrom_all hnil (fun s hs _ => ?_) [] fun s hs => nomatch hs
  obtain ⟨piece, -, rfl⟩ := List.mem_map.1 hs
  exact kept_encode _ _

/-! ## §3. The authority. -/

theorem formed_readUserInfo (cs : List Char) : (readUserInfo cs).Formed := by
  unfold readUserInfo
  split
  · exact ⟨kept_encode _ _, fun c hc => absurd hc List.not_mem_nil⟩
  · exact ⟨kept_encode _ _, kept_encode _ _⟩

theorem formed_splitUser (authority : List Char) : (splitUser authority).1.Formed := by
  unfold splitUser
  split
  · exact ⟨fun c hc => absurd hc List.not_mem_nil, fun c hc => absurd hc List.not_mem_nil⟩
  · exact formed_readUserInfo _

theorem formed_readBracketed {cs : List Char} {host : Host} (h : readBracketed cs = .ok host) :
    host.Formed := by
  unfold readBracketed at h
  split at h
  · split at h
    · rename_i pieces hpieces
      obtain rfl := Except.ok.inj h
      have hformed := sixteen_of_ipv6? hpieces
      exact .ipv6 hformed.1 hformed.2
    · cases h
  · cases h

/-- **A host that was read is in form.** -/
theorem formed_readHost {cs : List Char} {host : Host} (h : readHost cs = .ok host) :
    host.Formed := by
  unfold readHost at h
  split at h
  · exact formed_readBracketed h
  · split at h
    · cases h
    · cases h
    · rename_i ascii hnonempty hascii
      obtain ⟨decoded, -, hascii⟩ := Option.bind_eq_some_iff.1 hascii
      split at h
      · split at h
        · rename_i address haddress
          obtain rfl := Except.ok.inj h
          exact .ipv4 (ipv4?_lt haddress)
        · cases h
      · rename_i hnumber
        obtain rfl := Except.ok.inj h
        refine .name ?_ (Name.isForbidden_of_toAscii? hascii) (eq_false_of_ne_true hnumber)
        rintro rfl
        exact hnonempty rfl

theorem formed_readAuthority {usual : Option Nat} {authority : List Char} {user : UserInfo}
    {host : Host} {port : Option Nat} (h : readAuthority usual authority = .ok (user, host, port)) :
    user.Formed ∧ host.Formed := by
  unfold readAuthority at h
  have huser := formed_splitUser authority
  generalize splitUser authority = cut at h huser
  obtain ⟨user, located⟩ := cut
  generalize splitHost false located = cut at h
  obtain ⟨text, portPart⟩ := cut
  dsimp only at h
  split at h
  · cases h
  · obtain ⟨found, hfound, h⟩ := exists_of_bind_ok h
    obtain ⟨port, -, h⟩ := exists_of_bind_ok h
    obtain ⟨rfl, rest⟩ := Prod.mk.inj (Except.ok.inj h)
    obtain ⟨rfl, -⟩ := Prod.mk.inj rest
    exact ⟨huser, formed_readHost hfound⟩

/-! ## §4. Addresses. -/

/-- **Where the parts of an address come from**, whatever it was read from. -/
theorem parts_of_read {s : String} {u : Url} (h : read s = .ok u) :
    isSupported u.scheme = true ∧
      (∃ text, readAuthority (usualPort? u.scheme) text = .ok (u.user, u.host, u.port)) ∧
      (∃ text, u.path = readPath text) ∧ (∃ text, u.query = Option.map (encode .query) text) ∧
      ∃ text, u.fragment = Option.map (encode .fragment) text := by
  unfold read at h
  split at h
  · cases h
  · split at h
    · rename_i usual husual
      obtain ⟨web, hweb, h⟩ := exists_of_bind_ok h
      split at h
      · rename_i hscheme
        obtain rfl := Except.ok.inj h
        unfold readWeb at hweb
        dsimp only at hweb
        obtain ⟨⟨user, host, port⟩, hauthority, hweb⟩ := exists_of_bind_ok hweb
        obtain rfl := Except.ok.inj hweb
        rw [← husual] at hauthority
        exact ⟨hscheme, ⟨_, hauthority⟩, ⟨_, rfl⟩, ⟨_, rfl⟩, ⟨_, rfl⟩⟩
      · cases h
    · obtain ⟨_, -, h⟩ := exists_of_bind_ok h
      cases h

/-- What was encoded for a part is in form. -/
theorem kept_of_encoded {p : Part} {text part : Option (List Char)}
    (h : part = Option.map (encode p) text) : ∀ cs ∈ part, Kept p cs := by
  rintro cs hcs
  rw [h] at hcs
  obtain ⟨raw, -, rfl⟩ := Option.map_eq_some_iff.1 hcs
  exact kept_encode _ _

/-- **An address that was read is in form.** -/
theorem formed_of_read {s : String} {u : Url} (h : read s = .ok u) : Formed u := by
  obtain ⟨hscheme, ⟨authority, hauthority⟩, ⟨path, hpath⟩, ⟨query, hquery⟩, -⟩ := parts_of_read h
  obtain ⟨huser, hhost⟩ := formed_readAuthority hauthority
  refine ⟨hscheme, huser, hhost, ?_, ?_, kept_of_encoded hquery⟩
  · rw [hpath]
    exact settle_ne_nil _
  · rw [hpath]
    exact kept_readPath _

/-- What follows a hash is encoded like the other parts. -/
theorem kept_fragment_of_read {s : String} {u : Url} (h : read s = .ok u) :
    ∀ f ∈ u.fragment, Kept .fragment f := by
  obtain ⟨-, -, -, -, fragment, hfragment⟩ := parts_of_read h
  exact kept_of_encoded hfragment

end Federation.Url
