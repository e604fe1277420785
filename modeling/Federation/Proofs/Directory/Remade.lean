/-
  Federation.Proofs.Directory.Remade
  ──────────────────────────────────
  **ENDPOINTS MADE AGAIN FROM THEIR URL.**

  However an endpoint was made, its URL is a canonical text, and a canonical
  text is its own canonical form.  So an endpoint that is made from the URL
  of another one has that URL.  An identifier that is a URL is made into an
  endpoint twice, the second time with what the table of nicknames knows of
  it, and both times at the canonical form of the identifier.

  Main results:
    * `of_own_url` — an endpoint that is made again;
    * `endpointNamed_eq`, `endpointAt_eq` — endpoints made at the address of
      a text;
    * `named_url` — what an identifier that is a URL names;
    * `resolve_own_url` — the URLs of a resolution.
-/
import Federation.Proofs.Directory.Addresses
import Federation.Proofs.Text.Blank
import Federation.Proofs.Url.Reread

namespace Federation

/-! ## §1. Endpoints made again. -/

/-- Blanks around a text are not part of the address. -/
theorem Url.canonical_trim (s : String) : Url.canonical (Text.trim s) = Url.canonical s := by
  have hagain := congrArg String.toList (Text.trim_trim s)
  rw [Text.toList_trim, Text.toList_trim] at hagain
  have hread : Url.read (Text.trim s) = Url.read s := by
    unfold Url.read
    rw [Text.toList_trim, hagain]
  unfold Url.canonical
  rw [hread]

namespace Endpoint

/-- **How endpoints are made**: at an address, and from one another. -/
inductive Made : Endpoint → Prop
  | of {urn url : String} {e : Endpoint} (made : Endpoint.of urn url = .ok e) : Made e
  | named {e : Endpoint} (made : Made e) (nickname : String) : Made (e.named nickname)
  | atVersion {e : Endpoint} (made : Made e) (version : Nat) : Made (e.atVersion version)
  /-- An endpoint is moved to the canonical form of what was advertised. -/
  | moved {e : Endpoint} (made : Made e) {advertised url : String}
      (canonical : Url.canonical advertised = .ok url) (version : Nat) : Made (e.moved url version)

/-- However an endpoint was made, its URL is canonical. -/
theorem Made.addressed {e : Endpoint} (h : Made e) : Directory.Addressed e := by
  induction h with
  | of made => exact ⟨_, of_url made⟩
  | named _ _ ih => exact ih
  | atVersion _ _ ih => exact ih
  | moved _ canonical _ _ => exact ⟨_, canonical⟩

/-- The endpoint with a URN at a canonical address. -/
def standing (urn canonical : String) : Endpoint :=
  ⟨if (Text.trim urn).isEmpty then unspecifiedUrn else Text.trim urn, canonical, none, none⟩

theorem of_eq (urn url : String) :
    Endpoint.of urn url = match Url.canonical url with
      | .error fault => .error ⟨url, fault⟩
      | .ok canonical => .ok (standing urn canonical) := rfl

theorem of_canonical {url canonical : String} (h : Url.canonical url = .ok canonical)
    (urn : String) : Endpoint.of urn url = .ok (standing urn canonical) := by
  rw [of_eq, h]

/-- **An endpoint that is made again** from its URL, under whatever URN, is at the same one. -/
theorem of_own_url {e : Endpoint} (h : Directory.Addressed e) (urn : String) :
    Endpoint.of urn e.url = .ok (standing urn e.url) := by
  obtain ⟨text, htext⟩ := h
  exact of_canonical (Url.canonical_again htext) urn

end Endpoint

/-! ## §2. Identifiers that are URLs. -/

namespace Directory

/-- Whether this is the first entry of a table with an address. -/
def Nicknames.FirstAt (t : Nicknames) (canonical name : String) (target : Target) : Prop :=
  ∃ before after, t = before ++ (name, target) :: after ∧
    Url.canonical target.url = .ok canonical ∧
    ∀ p ∈ before, Url.canonical p.2.url ≠ .ok canonical

/-- Whether a usable text is at an address. -/
theorem sameAddress_canonical {canonical text : String}
    (h : Url.canonical canonical = .ok canonical) :
    Nicknames.sameAddress canonical text = true ↔ Url.canonical text = .ok canonical := by
  unfold Nicknames.sameAddress
  rw [h]
  cases Url.canonical text with
  | error fault => exact iff_of_false (nomatch ·) (nomatch ·)
  | ok other =>
      show (canonical == other) = true ↔ _
      rw [beq_iff_eq, Except.ok.injEq, eq_comm]

/-- **The first name for a canonical address.** -/
theorem byUrl_eq_some_iff {t : Nicknames} {canonical name : String} {target : Target}
    (h : Url.canonical canonical = .ok canonical) :
    t.byUrl canonical = some (name, target) ↔ t.FirstAt canonical name target := by
  unfold Nicknames.byUrl Nicknames.FirstAt
  rw [List.find?_eq_some_iff_append, sameAddress_canonical h]
  constructor
  · rintro ⟨hat, before, after, ht, hbefore⟩
    refine ⟨before, after, ht, hat, fun p hp hcanonical => ?_⟩
    have hother := hbefore p hp
    rw [(sameAddress_canonical h).2 hcanonical] at hother
    cases hother
  · rintro ⟨before, after, ht, hat, hbefore⟩
    refine ⟨hat, before, after, ht, fun p hp => ?_⟩
    rw [Bool.not_eq_true', ← Bool.not_eq_true, sameAddress_canonical h]
    exact hbefore p hp

/-- An address that some name has is found under the first one. -/
theorem exists_firstAt {t : Nicknames} {canonical : String}
    (h : Url.canonical canonical = .ok canonical)
    (hknown : ∃ p ∈ t, Url.canonical p.2.url = .ok canonical) :
    ∃ name target, t.FirstAt canonical name target := by
  obtain ⟨p, hp, hat⟩ := hknown
  cases hfound : t.byUrl canonical with
  | some found => exact ⟨found.1, found.2, (byUrl_eq_some_iff h).1 hfound⟩
  | none =>
      have hmissing := List.find?_eq_none.1 hfound p hp
      exact absurd ((sameAddress_canonical h).2 hat) hmissing

/-- What is made at an address, with what the table knows of it. -/
def standingAt (t : Nicknames) (urn canonical : String) : Endpoint :=
  match t.byUrl canonical with
  | none => .standing urn canonical
  | some (name, target) =>
      (Endpoint.standing (if Text.isBlankText urn then target.urn else urn) canonical).named name

theorem url_standingAt (t : Nicknames) (urn canonical : String) :
    (standingAt t urn canonical).url = canonical := by
  unfold standingAt
  cases t.byUrl canonical <;> rfl

/-- The canonical form of a text, or the fault that names the text. -/
def addressOf (url : String) : Except ResolutionFault String :=
  (Url.canonical url).mapError fun fault => .unusableUrl ⟨url, fault⟩

theorem addressOf_canonical {url canonical : String} (h : Url.canonical url = .ok canonical) :
    addressOf url = .ok canonical := by
  unfold addressOf
  rw [h]
  rfl

theorem endpointOf_eq (urn url : String) :
    endpointOf urn url = (addressOf url).map (Endpoint.standing urn) := by
  unfold endpointOf addressOf
  rw [Endpoint.of_eq]
  cases Url.canonical url <;> rfl

/-- **The endpoint of an entry** is made at its address. -/
theorem endpointNamed_eq (name : String) (target : Target) :
    endpointNamed name target = (addressOf target.url).map fun canonical =>
      (Endpoint.standing target.urn canonical).named name := by
  unfold endpointNamed
  rw [endpointOf_eq]
  cases addressOf target.url <;> rfl

/-- **The endpoint at an address** is made twice, at the same URL. -/
theorem endpointAt_eq (t : Nicknames) (urn url : String) :
    endpointAt t urn url = (addressOf url).map (standingAt t urn) := by
  unfold endpointAt
  rw [endpointOf_eq]
  cases h : Url.canonical url with
  | error fault =>
      unfold addressOf
      rw [h]
      rfl
  | ok canonical =>
      rw [addressOf_canonical h]
      show (match t.byUrl canonical with | none => _ | some (name, target) => _)
        = Except.ok (standingAt t urn canonical)
      unfold standingAt
      cases t.byUrl canonical with
      | none => rfl
      | some found =>
          show (endpointOf _ canonical >>= _) = _
          rw [endpointOf_eq, addressOf_canonical (Url.canonical_again h)]
          rfl

/-- What is made at the address of a text is there where the text has one. -/
theorem map_addressOf_eq_ok_iff {url : String} {make : String → Endpoint} {e : Endpoint} :
    (addressOf url).map make = .ok e ↔
      ∃ canonical, Url.canonical url = .ok canonical ∧ e = make canonical := by
  unfold addressOf
  cases Url.canonical url with
  | error fault => exact iff_of_false (nomatch ·) (fun ⟨_, h, _⟩ => nomatch h)
  | ok canonical =>
      constructor
      · intro h
        exact ⟨canonical, rfl, (Except.ok.inj h).symm⟩
      · rintro ⟨_, h, rfl⟩
        obtain rfl := Except.ok.inj h
        rfl

namespace Sources

variable {s : Sources}

/-- **What an identifier that is a URL names.** -/
theorem named_url {identifier : String}
    (hurl : Text.contains (Text.trim identifier) "://" = true) :
    s.named identifier = match Url.canonical identifier with
      | .error fault => .error (.unusableUrl ⟨Text.trim identifier, fault⟩)
      | .ok canonical => .ok (standingAt s.nicknames "" canonical) := by
  have hresolve : s.resolveOne (Text.trim identifier) = _ := if_pos hurl
  have hsettled := settles_pure (s := s) (endpointAt s.nicknames "" (Text.trim identifier))
  rw [← hresolve] at hsettled
  rw [hsettled.named_eq, endpointAt_eq, addressOf, Url.canonical_trim]
  cases Url.canonical identifier <;> rfl

/-- Nobody is asked for it. -/
theorem asked_url {identifier : String}
    (hurl : Text.contains (Text.trim identifier) "://" = true) :
    (s.resolve [identifier]).2 = 0 := by
  refine asked_of_atHand ?_
  unfold Nicknames.isAtHand
  rw [hurl]
  rfl

/-- One identifier that is a URL and has a nickname. -/
theorem resolve_known {identifier canonical : String}
    (hurl : Text.contains (Text.trim identifier) "://" = true)
    (h : Url.canonical identifier = .ok canonical)
    (hknown : ∃ p ∈ s.nicknames, Url.canonical p.2.url = .ok canonical) :
    ∃ name target, s.nicknames.FirstAt canonical name target ∧
      s.resolve [identifier] = (.ok [(Endpoint.standing target.urn canonical).named name], 0) := by
  have hagain := Url.canonical_again h
  obtain ⟨name, target, hfirst⟩ := exists_firstAt hagain hknown
  have hfound := (byUrl_eq_some_iff hagain).2 hfirst
  have hnamed : s.named identifier = .ok ((Endpoint.standing target.urn canonical).named name) := by
    rw [named_url hurl, h]
    unfold standingAt
    dsimp only
    rw [hfound]
    rfl
  refine ⟨name, target, hfirst, Prod.ext ?_ (asked_url hurl)⟩
  rw [resolve_singleton, hnamed]
  rfl

/-- Every endpoint is kept, or one before it at the same URL. -/
theorem exists_mem_firstOfEach {e : Endpoint} {all : List Endpoint} (h : e ∈ all) :
    ∃ kept ∈ firstOfEach all, kept.url = e.url := by
  induction all with
  | nil => cases h
  | cons first all ih =>
      rw [firstOfEach_cons]
      by_cases hsame : first.url = e.url
      · exact ⟨first, List.mem_cons_self, hsame⟩
      · obtain rfl | hrest := List.mem_cons.1 h
        · exact absurd rfl hsame
        · obtain ⟨kept, hkept, hurl⟩ := ih hrest
          refine ⟨kept, List.mem_cons_of_mem first (List.mem_filter.2 ⟨hkept, ?_⟩), hurl⟩
          rw [hurl]
          exact decide_eq_true (Ne.symm hsame)

/-- Each URL of a list that resolves leads to an endpoint at its canonical form. -/
theorem exists_of_resolved {identifiers : List String} {es : List Endpoint}
    (h : (s.resolve identifiers).1 = .ok es) {identifier : String}
    (hmem : identifier ∈ s.inUse identifiers)
    (hurl : Text.contains (Text.trim identifier) "://" = true) :
    ∃ e ∈ es, Url.canonical identifier = .ok e.url := by
  obtain ⟨all, hanswers, -, rfl⟩ := resolve_ok h
  have hanswer : s.named identifier ∈ all.map .ok := by
    have hsome : ¬(s.inUse identifiers).isEmpty = true := fun hnone => by
      rw [List.isEmpty_iff.1 hnone] at hmem
      cases hmem
    rw [← hanswers]
    unfold answers
    rw [if_neg hsome]
    exact List.mem_map_of_mem hmem
  obtain ⟨e, he, hnamed⟩ := List.mem_map.1 hanswer
  obtain ⟨kept, hkept, hsame⟩ := exists_mem_firstOfEach he
  refine ⟨kept, hkept, ?_⟩
  rw [named_url hurl] at hnamed
  cases hcanonical : Url.canonical identifier with
  | error fault =>
      rw [hcanonical] at hnamed
      cases hnamed
  | ok canonical =>
      rw [hcanonical] at hnamed
      rw [hsame, Except.ok.inj hnamed, url_standingAt]

/-- **Canonical forms are final.**  A canonical text is its own canonical form; an endpoint made
again from its URL is at that URL; an identifier that is a URL with a nickname names one endpoint, at
the canonical form of the identifier and under the first such nickname; and in a list that resolves
every URL leads to an endpoint at its canonical form. -/
theorem resolve_own_url :
    (∀ text canonical, Url.canonical text = .ok canonical →
      Url.canonical canonical = .ok canonical) ∧
    (∀ e, Endpoint.Made e → ∀ urn,
      ∃ again, Endpoint.of urn e.url = .ok again ∧ again.url = e.url) ∧
    (∀ (s : Sources) (identifier canonical : String),
      Text.contains (Text.trim identifier) "://" = true → Url.canonical identifier = .ok canonical →
        (∃ p ∈ s.nicknames, Url.canonical p.2.url = .ok canonical) →
          ∃ name target, s.nicknames.FirstAt canonical name target ∧
            s.resolve [identifier]
              = (.ok [(Endpoint.standing target.urn canonical).named name], 0)) ∧
    ∀ (s : Sources) (identifiers : List String) (es : List Endpoint),
      (s.resolve identifiers).1 = .ok es → ∀ identifier ∈ s.inUse identifiers,
        Text.contains (Text.trim identifier) "://" = true →
          ∃ e ∈ es, Url.canonical identifier = .ok e.url :=
  ⟨fun _ _ => Url.canonical_again, fun _ made urn => ⟨_, Endpoint.of_own_url made.addressed urn, rfl⟩,
    fun _ _ _ => resolve_known, fun _ _ _ h _ hmem => exists_of_resolved h hmem⟩

/-- An international name has an ASCII form, which is its own; and an address of the table, written
another way, is found under its nickname. -/
theorem resolve_own_url_roster :
    Url.canonical "https://xn--bcher-kva.example/am" = .ok "https://xn--bcher-kva.example/am" ∧
      (∃ again, Endpoint.of "" "http://[::1]" = .ok again ∧ again.url = "http://[::1]") ∧
      (∃ name target, Roster.sources.nicknames.FirstAt "http://[::1]" name target ∧
        Roster.sources.resolve [" HTTP://[0::1]:80//"]
          = (.ok [(Endpoint.standing target.urn "http://[::1]").named name], 0)) ∧
      ∃ e ∈ [Roster.alpha], Url.canonical " HTTP://[0::1]:80//" = .ok e.url := by
  obtain ⟨hfinal, hmade, hknown, hlist⟩ := resolve_own_url
  have hname : Url.canonical "https://Bücher.example:443/./am/"
      = .ok "https://xn--bcher-kva.example/am" := by decide +kernel
  have halpha : Endpoint.of "" "http://[::1]/" = .ok ⟨"unspecified_AM_URN", "http://[::1]", none, none⟩ :=
    by decide +kernel
  have hurl : Text.contains (Text.trim " HTTP://[0::1]:80//") "://" = true := by decide +kernel
  have hone : (Roster.sources.resolve [" HTTP://[0::1]:80//"]).1 = .ok [Roster.alpha] := by
    decide +kernel
  have hentry : ∃ p ∈ Roster.sources.nicknames, Url.canonical p.2.url = .ok "http://[::1]" :=
    ⟨("alpha", ⟨"urn:alpha+authority+cm", "http://[::1]/"⟩), by decide +kernel, by decide +kernel⟩
  exact ⟨hfinal _ _ hname, hmade _ (.of halpha) "",
    hknown Roster.sources _ _ hurl (by decide +kernel) hentry,
    hlist Roster.sources _ _ hone _ (by decide +kernel) hurl⟩

end Sources

end Directory

end Federation
