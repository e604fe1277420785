/-
  Federation.Proofs.Introspection.Decoding
  ────────────────────────────────────────
  **WHAT A REPLY TO GETVERSION IS TAKEN FOR.**

  A reply is of use if it is an object that reports no error and the map in it
  names a primary version.  Everything else may be missing or make no sense:
  each field of the snapshot is read from keys of its own, so two maps that
  agree in these give it the same value, whatever else is in them.

  An error counts as reported where its code is a number that codes may be.

  Main results:
    * `usable_iff` — which replies are of use;
    * `same_of_agree` — a field depends on its own keys alone;
    * `supports_iff` — which versions are supported;
    * `probe_decodes` — a live probe succeeds exactly for a reply of use.
-/
import Federation.Proofs.Introspection.Effect
import Federation.Proofs.Keyed
import Federation.Proofs.Text.Blank

namespace Federation.Introspection

/-! ## §1. Versions and codes. -/

/-- **How a version is spelled**: as a number, or as digits in a text. -/
inductive Spells : Json → Nat → Prop
  | number {v : Nat} (fits : v < versionBound) : Spells (.nat v) v
  | text {s : String} {v : Nat} (reads : Text.unsigned? versionBound (Text.trim s) = some v) :
      Spells (.string s) v

theorem versionOf?_eq_some_iff {j : Json} {v : Nat} : versionOf? j = some v ↔ Spells j v := by
  constructor
  · intro h
    cases j with
    | string s => exact .text h
    | number n =>
        cases n with
        | real x => cases h
        | integer i =>
            obtain ⟨⟨hlow, hhigh⟩, hi⟩ := Option.ite_none_right_eq_some.1 h
            obtain rfl := Option.some.inj hi
            have hnat : Json.number (.integer i) = .nat i.toNat := by
              rw [Json.nat, Int.toNat_of_nonneg hlow]
            rw [hnat]
            exact .number (by omega)
    | _ => cases h
  · rintro (⟨fits⟩ | ⟨reads⟩)
    · show (if 0 ≤ (v : Int) ∧ (v : Int) < versionBound then some (v : Int).toNat else none) = _
      rw [if_pos ⟨Int.natCast_nonneg v, Int.ofNat_lt.2 fits⟩, Int.toNat_natCast]
    · exact reads

/-- Whether an envelope has an integer as its code. -/
def HasCode (reply : Json) (n : Int) : Prop :=
  ∃ code, reply.member? "code" = some code ∧ code.member? "geni_code" = some (.int n)

theorem int64?_eq_some_iff {j : Json} {n : Int} :
    j.int64? = some n ↔ j = .int n ∧ Number.fitsSigned n = true := by
  constructor
  · intro h
    cases j with
    | number m =>
        cases m with
        | real x => cases h
        | integer i =>
            obtain ⟨hfits, hi⟩ := Option.ite_none_right_eq_some.1 h
            obtain rfl := Option.some.inj hi
            exact ⟨rfl, hfits⟩
    | _ => cases h
  · rintro ⟨rfl, hfits⟩
    exact if_pos hfits

/-- **An error is reported** by a code that is not zero, if codes may be so large. -/
theorem reportedCode?_eq_none_iff {reply : Json} :
    reportedCode? reply = none ↔
      ∀ n, HasCode reply n → Number.fitsSigned n = true → n = 0 := by
  unfold reportedCode?
  rw [Option.filter_eq_none_iff]
  constructor
  · rintro h n ⟨code, hcode, hmember⟩ hfits
    have hread : ((reply.member? "code").bind (Json.member? · "geni_code")).bind Json.int64?
        = some n := by
      rw [hcode, Option.bind_some, hmember, Option.bind_some]
      exact int64?_eq_some_iff.2 ⟨rfl, hfits⟩
    exact Decidable.byContradiction fun hzero => h n hread (decide_eq_true hzero)
  · intro h n hread hzero
    obtain ⟨value, hvalue, hint⟩ := Option.bind_eq_some_iff.1 hread
    obtain ⟨code, hcode, hmember⟩ := Option.bind_eq_some_iff.1 hvalue
    obtain ⟨rfl, hfits⟩ := int64?_eq_some_iff.1 hint
    exact of_decide_eq_true hzero (h n ⟨code, hcode, hmember⟩ hfits)

/-! ## §2. Replies of use. -/

/-- **The map that a reply is about**: its value if that names a version, else the reply. -/
def located (reply : Json) : Json := ((reply.member? "value").filter namesVersion).getD reply

/-- **Whether a reply is of use.** -/
structure Usable (reply : Json) : Prop where
  object : ∃ members, reply = .object members
  unreported : ∀ n, HasCode reply n → Number.fitsSigned n = true → n = 0
  named : ∃ value version,
    (located reply).member? "geni_api" = some value ∧ Spells value version

/-- The map is found where no error is reported and some version is named. -/
theorem locate_eq_ok_iff {reply c : Json} :
    locate reply = .ok c ↔ (∃ members, reply = .object members) ∧ reportedCode? reply = none ∧
      namesVersion c = true ∧ c = located reply := by
  have hobject : reply.members?.isNone = false ↔ ∃ members, reply = .object members := by
    cases reply <;> simp [Json.members?]
  unfold locate
  rw [← hobject]
  cases hmembers : reply.members?.isNone with
  | true => simp
  | false =>
      cases hcode : reportedCode? reply with
      | some code => simp
      | none =>
          unfold located
          -- The value of an envelope comes before the reply itself.
          cases hvalue : (reply.member? "value").filter namesVersion with
          | some value =>
              have hnames := (Option.filter_eq_some_iff.1 hvalue).2
              simp only [Option.getD_some, Bool.false_eq_true, if_false, Except.ok.injEq, true_and]
              exact ⟨fun h => ⟨h ▸ hnames, h.symm⟩, fun h => h.2.symm⟩
          | none =>
              simp only [Option.getD_none, Bool.false_eq_true, if_false, true_and]
              cases hnames : namesVersion reply with
              | true =>
                  simp only [if_true, Except.ok.injEq]
                  exact ⟨fun h => ⟨h ▸ hnames, h.symm⟩, fun h => h.2.symm⟩
              | false =>
                  refine iff_of_false (fun h => by cases h) ?_
                  rintro ⟨h, rfl⟩
                  rw [hnames] at h
                  cases h

/-- What is made of a reply is made of the map that it is about. -/
theorem of_ofReply {reply c : Json} {now : Time.Instant} {a : Snapshot}
    (h : ofReply reply now = .ok (c, a)) :
    c = located reply ∧ Snapshot.ofCapabilities (located reply) now = .ok a := by
  obtain ⟨c', hlocate, h⟩ := exists_of_bind_ok h
  obtain ⟨a', hmade, h⟩ := exists_of_bind_ok h
  obtain ⟨rfl, rfl⟩ := Prod.mk.inj (Except.ok.inj h)
  obtain ⟨-, -, -, rfl⟩ := locate_eq_ok_iff.1 hlocate
  exact ⟨rfl, hmade⟩

/-- **Which replies are of use**: whenever a snapshot is made, and of no others one is. -/
theorem usable_iff {reply : Json} {now : Time.Instant} :
    (∃ found, ofReply reply now = .ok found) ↔ Usable reply := by
  constructor
  · rintro ⟨⟨c, a⟩, h⟩
    obtain ⟨c', hlocate, -⟩ := exists_of_bind_ok h
    obtain ⟨hobject, hcode, -, -⟩ := locate_eq_ok_iff.1 hlocate
    obtain ⟨-, hmade⟩ := of_ofReply h
    have hprimary := (Snapshot.ofCapabilities_isOk_iff _ now).1 ⟨a, hmade⟩
    obtain ⟨version, hversion⟩ := Option.isSome_iff_exists.1 hprimary
    obtain ⟨value, hvalue, hspells⟩ := Option.bind_eq_some_iff.1 hversion
    exact ⟨hobject, reportedCode?_eq_none_iff.1 hcode, value, version, hvalue,
      versionOf?_eq_some_iff.1 hspells⟩
  · rintro ⟨hobject, hcode, value, version, hvalue, hspells⟩
    have hnames : namesVersion (located reply) = true := by
      unfold namesVersion
      rw [hvalue]
      rfl
    have hlocate := locate_eq_ok_iff.2
      ⟨hobject, reportedCode?_eq_none_iff.2 hcode, hnames, rfl⟩
    have hprimary : (primaryOf? (located reply)).isSome = true := by
      unfold primaryOf?
      rw [hvalue, Option.bind_some, versionOf?_eq_some_iff.2 hspells]
      rfl
    obtain ⟨a, hmade⟩ := (Snapshot.ofCapabilities_isOk_iff _ now).2 hprimary
    refine ⟨(located reply, a), ?_⟩
    unfold ofReply
    rw [hlocate]
    show (Snapshot.ofCapabilities (located reply) now >>= _) = _
    rw [hmade]
    rfl

/-! ## §3. Fields. -/

/-- The fields of a snapshot that a reply decides. -/
inductive Field where
  | primary
  | others
  | adFormats
  | requestFormats
  | credentialFamilies
  | singleAllocation
  | allocationStyle
  deriving DecidableEq, Repr

namespace Field

/-- **The keys that a field is read from.** -/
def keys : Field → List String
  | primary => ["geni_api"]
  | others => ["geni_api_versions"]
  | adFormats => ["geni_ad_rspec_versions", "ad_rspec_versions"]
  | requestFormats => ["geni_request_rspec_versions", "request_rspec_versions"]
  | credentialFamilies => ["geni_credential_types"]
  | singleAllocation => ["geni_single_allocation"]
  | allocationStyle => ["geni_allocate"]

/-- Whether two snapshots have the same in a field. -/
def Same (a b : Snapshot) : Field → Prop
  | primary => a.primary = b.primary
  | others => a.others = b.others
  | adFormats => a.adFormats = b.adFormats
  | requestFormats => a.requestFormats = b.requestFormats
  | credentialFamilies => a.credentialFamilies = b.credentialFamilies
  | singleAllocation => a.singleAllocation = b.singleAllocation
  | allocationStyle => a.allocationStyle = b.allocationStyle

end Field

/-- Only what is under the keys counts. -/
theorem itemsAt_congr {c d : Json} {keys : List String}
    (h : ∀ key ∈ keys, c.member? key = d.member? key) : itemsAt c keys = itemsAt d keys := by
  have hfind : (keys.findSome? fun key => (c.member? key).bind Json.items?)
      = keys.findSome? fun key => (d.member? key).bind Json.items? := by
    induction keys with
    | nil => rfl
    | cons key keys ih =>
        rw [List.findSome?_cons, List.findSome?_cons, h key List.mem_cons_self,
          ih fun other hother => h other (List.mem_cons_of_mem key hother)]
  unfold itemsAt
  rw [hfind]

/-- **A field depends on its own keys alone.** -/
theorem same_of_agree {c d : Json} {t u : Time.Instant} {a b : Snapshot}
    (ha : Snapshot.ofCapabilities c t = .ok a) (hb : Snapshot.ofCapabilities d u = .ok b)
    {field : Field} (h : ∀ key ∈ field.keys, c.member? key = d.member? key) : field.Same a b := by
  have hmade := Snapshot.madeOf ha
  have hother := Snapshot.madeOf hb
  cases field with
  | primary =>
      have hprimary := hmade.primary
      unfold primaryOf? at hprimary
      rw [h "geni_api" List.mem_cons_self] at hprimary
      exact Option.some.inj (hprimary.symm.trans hother.primary)
  | others =>
      refine hmade.others.trans (Eq.trans ?_ hother.others.symm)
      unfold alternatives
      rw [h "geni_api_versions" List.mem_cons_self]
  | adFormats =>
      exact hmade.adFormats.trans
        ((congrArg (List.filterMap _) (itemsAt_congr h)).trans hother.adFormats.symm)
  | requestFormats =>
      exact hmade.requestFormats.trans
        ((congrArg (List.filterMap _) (itemsAt_congr h)).trans hother.requestFormats.symm)
  | credentialFamilies =>
      exact hmade.credentialFamilies.trans
        ((congrArg (List.filterMap _) (itemsAt_congr h)).trans hother.credentialFamilies.symm)
  | singleAllocation =>
      refine hmade.singleAllocation.trans (Eq.trans ?_ hother.singleAllocation.symm)
      rw [h "geni_single_allocation" List.mem_cons_self]
  | allocationStyle =>
      refine hmade.allocationStyle.trans (Eq.trans ?_ hother.allocationStyle.symm)
      rw [h "geni_allocate" List.mem_cons_self]

/-! ## §4. Supported versions. -/

/-- **Whether a map advertises a version**: under a key that reads as the version stands a text
that is not blank. -/
def Advertises (c : Json) (v : Nat) : Prop :=
  ∃ members key url, c.member? "geni_api_versions" = some (.object members) ∧
    (key, Json.string url) ∈ members ∧
    Text.unsigned? versionBound (Text.trim key) = some v ∧ Text.isBlankText url = false

/-- An entry counts if its key is a version and its value a text that is not blank. -/
theorem alternative?_eq_some_iff {key : String} {value : Json} {v : Nat} {trimmed : String} :
    alternative? key value = some (v, trimmed) ↔
      Text.unsigned? versionBound (Text.trim key) = some v ∧
        ∃ url, value = .string url ∧ Text.trim url = trimmed ∧ Text.isBlankText url = false := by
  have htext : ∀ url, value.text? = some url ↔ value = .string url := by
    intro url
    cases value <;> simp [Json.text?]
  unfold alternative?
  constructor
  · intro h
    obtain ⟨version, hversion, h⟩ := Option.bind_eq_some_iff.1 h
    obtain ⟨url, hurl, h⟩ := Option.bind_eq_some_iff.1 h
    obtain ⟨rfl, rfl⟩ := Prod.mk.inj (Option.some.inj h)
    obtain ⟨hmapped, hsome⟩ := Option.filter_eq_some_iff.1 hurl
    obtain ⟨raw, hraw, rfl⟩ := Option.map_eq_some_iff.1 hmapped
    rw [Text.isEmpty_trim, Bool.not_eq_true'] at hsome
    exact ⟨hversion, raw, (htext raw).1 hraw, rfl, hsome⟩
  · rintro ⟨hversion, url, rfl, rfl, hsome⟩
    have hkept : ((Json.string url).text?.map Text.trim).filter (fun u => !u.isEmpty)
        = some (Text.trim url) := by
      refine Option.filter_eq_some_iff.2 ⟨rfl, ?_⟩
      rw [Text.isEmpty_trim, hsome]
      rfl
    rw [hversion, hkept]
    rfl

/-- The keys of the table are the versions that are advertised. -/
theorem mem_keys_alternatives {c : Json} {v : Nat} :
    v ∈ (alternatives c).keys ↔ Advertises c v := by
  unfold alternatives Advertises
  cases hmembers : (c.member? "geni_api_versions").bind Json.members? with
  | none =>
      refine iff_of_false List.not_mem_nil ?_
      rintro ⟨members, key, url, hobject, -⟩
      rw [hobject] at hmembers
      cases hmembers
  | some members =>
      have hobject : c.member? "geni_api_versions" = some (.object members) := by
        obtain ⟨value, hvalue, hms⟩ := Option.bind_eq_some_iff.1 hmembers
        cases value with
        | object ms => rw [hvalue, ← Option.some.inj hms]
        | _ => cases hms
      dsimp only
      rw [Keyed.mem_keys_ofPairs, List.mem_map]
      constructor
      · rintro ⟨⟨version, trimmed⟩, hmem, rfl⟩
        obtain ⟨⟨key, value⟩, hentry, hcounts⟩ := List.mem_filterMap.1 hmem
        obtain ⟨hversion, url, rfl, -, hsome⟩ := alternative?_eq_some_iff.1 hcounts
        exact ⟨members, key, url, hobject, hentry, hversion, hsome⟩
      · rintro ⟨other, key, url, hother, hentry, hversion, hsome⟩
        rw [hobject] at hother
        obtain rfl := Json.object.inj (Option.some.inj hother)
        exact ⟨(v, Text.trim url), List.mem_filterMap.2 ⟨(key, .string url), hentry,
          alternative?_eq_some_iff.2 ⟨hversion, url, rfl, rfl, hsome⟩⟩, rfl⟩

/-- **Which versions are supported.** -/
theorem supports_iff {c : Json} {t : Time.Instant} {a : Snapshot}
    (h : Snapshot.ofCapabilities c t = .ok a) (v : Nat) :
    a.supports v = true ↔ v = a.primary ∨ Advertises c v := by
  rw [Snapshot.supports_iff_mem, Snapshot.supported, mem_versionSet, List.mem_cons,
    (Snapshot.madeOf h).others, mem_keys_alternatives]

/-! ## §5. Live probes. -/

/-- Whether a snapshot is what is made of a reply, at some time. -/
def DecodedFrom (reply : Json) (a : Snapshot) : Prop :=
  ∃ now, Snapshot.ofCapabilities (located reply) now = .ok a

/-- **What becomes of a probe that is answered**: a snapshot of the reply where that is of use,
and else a fault. -/
theorem outcome_of_replied {w : World} {p : ProbePolicy} {force : Bool} {e : Endpoint} {s : Session}
    {reply : Json} (live : remembered? w p force e s = none) (go : ¬CalledOff w s)
    (replied : (w.transport s.requests (probeRequest p e)).reply = .ok reply) :
    (Usable reply ∧ ∃ a, DecodedFrom reply a ∧
        ((probe w p force e).alone s).1 = .ok ⟨a, located reply, false⟩) ∨
      (¬Usable reply ∧ ∃ fault : SnapshotFault,
        ((probe w p force e).alone s).1 = .error (.malformed fault.message)) := by
  have heffect := effect w p force e s
  generalize ((probe w p force e).alone s).1 = outcome at heffect
  generalize ((probe w p force e).alone s).2 = after at heffect
  cases heffect with
  | recalled remembered => cases live.symm.trans remembered
  | calledOff _ stop => exact absurd stop go
  | unreachable _ _ asked => cases replied.symm.trans asked.replied
  | @unusable other fault now _ _ _ _ _ makes asked =>
      obtain rfl := Except.ok.inj (replied.symm.trans asked.replied)
      refine .inr ⟨fun husable => ?_, fault, rfl⟩
      obtain ⟨found, hfound⟩ := usable_iff.2 husable
      cases hfound.symm.trans makes
  | @usable other c a now _ _ _ _ makes asked =>
      obtain rfl := Except.ok.inj (replied.symm.trans asked.replied)
      obtain ⟨rfl, hmade⟩ := of_ofReply makes
      exact .inl ⟨usable_iff.1 ⟨_, makes⟩, a, ⟨_, hmade⟩, rfl⟩

/-- **A reply is decoded tolerantly and exactly.**  A live probe that is answered succeeds exactly
where the reply is of use, and fails as malformed everywhere else.  Two snapshots agree in every
field for whose keys the maps that they were made of agree, whatever else differs in the maps and the
replies.  The supported versions are the primary one and those that are advertised with a text that
is not blank. -/
theorem probe_decodes :
    (∀ (w : World) (p : ProbePolicy) (force : Bool) (e : Endpoint) (s : Session) (reply : Json),
      remembered? w p force e s = none → ¬CalledOff w s →
        (w.transport s.requests (probeRequest p e)).reply = .ok reply →
          ((∃ probed, ((probe w p force e).alone s).1 = .ok probed) ↔ Usable reply) ∧
          ((∃ detail, ((probe w p force e).alone s).1 = .error (.malformed detail))
            ↔ ¬Usable reply) ∧
          ∀ probed, ((probe w p force e).alone s).1 = .ok probed →
            probed.capabilities = located reply ∧ DecodedFrom reply probed.snapshot) ∧
    (∀ (reply other : Json) (a b : Snapshot), DecodedFrom reply a → DecodedFrom other b →
      ∀ field : Field,
        (∀ key ∈ field.keys, (located reply).member? key = (located other).member? key) →
          field.Same a b) ∧
    ∀ (reply : Json) (a : Snapshot), DecodedFrom reply a → ∀ v,
      a.supports v = true ↔ v = a.primary ∨ Advertises (located reply) v := by
  refine ⟨fun w p force e s reply live go replied => ?_, fun reply other a b => ?_,
    fun reply a => ?_⟩
  · rcases outcome_of_replied live go replied with ⟨husable, a, hdecoded, houtcome⟩ |
      ⟨hunusable, fault, houtcome⟩
    · rw [houtcome]
      refine ⟨iff_of_true ⟨_, rfl⟩ husable, iff_of_false (fun ⟨_, h⟩ => nomatch h)
        (not_not_intro husable), fun probed hprobed => ?_⟩
      obtain rfl := Except.ok.inj hprobed
      exact ⟨rfl, hdecoded⟩
    · rw [houtcome]
      exact ⟨iff_of_false (fun ⟨_, h⟩ => nomatch h) hunusable, iff_of_true ⟨_, rfl⟩ hunusable,
        fun probed hprobed => nomatch hprobed⟩
  · rintro ⟨t, ha⟩ ⟨u, hb⟩ field h
    exact same_of_agree ha hb h
  · rintro ⟨t, ha⟩
    exact supports_iff ha

namespace Legacy

/-- An aggregate that gives one reply. -/
def world (reply : Json) : World := { Setback.world with transport := fun _ _ => ⟨.ok reply, false⟩ }

def session : Session := .start .absent

/-- What an aggregate yields that gives one reply. -/
def outcome (reply : Json) : ProbeOutcome :=
  ((probe (world reply) Setback.policy true Setback.endpoint).alone session).1

/-- The versions at URLs of their own, among others that make no sense. -/
def versions : List (String × Json) :=
  [(" 3", .string " http://[::3] "), ("5", .string " "), ("6", .null), ("four", .string "http://[::4]")]

/-- A map with its version in a text, and something that is no list of credentials. -/
def capabilities (allocation : Json) : Json := .object [
  ("geni_allocate", allocation), ("geni_api", .string " 2 "),
  ("geni_api_versions", .object versions), ("geni_credential_types", .nat 7)]

/-- An envelope around such a map. -/
def reply (code : Int) (allocation : Json) : Json :=
  .object [("code", .object [("geni_code", .int code)]), ("value", capabilities allocation)]

theorem going (reply : Json) : ¬CalledOff (world reply) session := by
  rintro (h | h) <;> cases h

theorem usable (allocation : Json) : Usable (reply 0 allocation) := by
  have hcode : reportedCode? (reply 0 allocation) = none := rfl
  exact ⟨⟨_, rfl⟩, reportedCode?_eq_none_iff.1 hcode, .string " 2 ", 2, rfl, .text (by decide)⟩

end Legacy

/-- Much in a reply makes no sense, and it is of use.  What stands for the style of allocation makes
no difference to the versions.  With another code the same reply is a fault. -/
theorem probe_decodes_legacy :
    (∃ probed, Legacy.outcome (Legacy.reply 0 .null) = .ok probed ∧
      probed.capabilities = Legacy.capabilities .null ∧ probed.snapshot.supports 3 = true ∧
      ∀ b, DecodedFrom (Legacy.reply 0 (.string "geni_many")) b →
        probed.snapshot.others = b.others) ∧
    ∃ detail, Legacy.outcome (Legacy.reply 7 .null) = .error (.malformed detail) := by
  obtain ⟨hprobe, hfields, hversions⟩ := probe_decodes
  have hlive (code : Int) := hprobe (Legacy.world (Legacy.reply code .null)) Setback.policy true
    Setback.endpoint Legacy.session (Legacy.reply code .null) rfl (Legacy.going _) rfl
  constructor
  · obtain ⟨hsucceeds, -, hmade⟩ := hlive 0
    obtain ⟨probed, hprobed⟩ := hsucceeds.2 (Legacy.usable .null)
    obtain ⟨hmap, hdecoded⟩ := hmade probed hprobed
    refine ⟨probed, hprobed, hmap, (hversions _ _ hdecoded 3).2 (.inr ?_), fun b hb =>
      hfields _ _ _ _ hdecoded hb .others fun key hkey => ?_⟩
    · exact ⟨Legacy.versions, " 3", " http://[::3] ", rfl, List.mem_cons_self, by decide, by decide⟩
    · obtain rfl := List.mem_singleton.1 hkey
      rfl
  · obtain ⟨-, hfails, -⟩ := hlive 7
    refine hfails.2 fun husable => ?_
    exact absurd (husable.unreported 7 ⟨_, rfl, rfl⟩ (by decide)) (by decide)

/-- **A code that is too large to be one is overlooked**: the reply has a code that is not zero, and
the probe succeeds. -/
theorem wide_code_overlooked :
    ¬∀ (w : World) (p : ProbePolicy) (force : Bool) (e : Endpoint) (s : Session) (reply : Json),
      remembered? w p force e s = none → ¬CalledOff w s →
        (w.transport s.requests (probeRequest p e)).reply = .ok reply →
          ((∃ probed, ((probe w p force e).alone s).1 = .ok probed) ↔
            (∃ members, reply = .object members) ∧ (∀ n, HasCode reply n → n = 0) ∧
              ∃ value version,
                (located reply).member? "geni_api" = some value ∧ Spells value version) := by
  intro h
  let wide := Legacy.reply 9223372036854775808 .null
  have hoverlooked : reportedCode? wide = none := by decide +kernel
  have husable : Usable wide :=
    ⟨⟨_, rfl⟩, reportedCode?_eq_none_iff.1 hoverlooked, (Legacy.usable .null).named⟩
  rcases @outcome_of_replied (Legacy.world wide) Setback.policy true Setback.endpoint Legacy.session
    wide rfl (Legacy.going wide) rfl with ⟨-, a, -, houtcome⟩ | ⟨hunusable, -⟩
  · obtain ⟨-, hzero, -⟩ := (h (Legacy.world wide) Setback.policy true Setback.endpoint
      Legacy.session wide rfl (Legacy.going wide) rfl).1 ⟨_, houtcome⟩
    exact absurd (hzero 9223372036854775808 ⟨_, rfl, rfl⟩) (by decide)
  · exact hunusable husable

end Federation.Introspection
