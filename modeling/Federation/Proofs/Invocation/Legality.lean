/-
  Federation.Proofs.Invocation.Legality
  ─────────────────────────────────────
  **STRICT MODE SENDS LEGAL OPTIONS.**

  In strict mode an option that is not legal for the operation at the
  version is never set, so the options of a call are legal ones and those
  that the caller demands in so many words.  The caller's own options come
  last: each is sent as it was given, whatever was set before.

  The options stand in the last argument of a call, where the method has a
  place for them.

  Main results:
    * `Call.buildOptions_lawful` — the options that are built;
    * `Engine.strict_options_legal` — the options of every call of a run.
-/
import Federation.Proofs.Call.Options
import Federation.Proofs.Call.Prepared
import Federation.Proofs.Invocation.Meeting
import Federation.Proofs.Invocation.Versions

namespace Federation

open Call (Options OptionKind)

namespace Call

/-! ## §1. Legal options. -/

/-- **The options that an operation takes at a version**, by name. -/
inductive LegalOption (o : Operation) (v : Nat) : String → Prop
  | bestEffort (modern : 3 ≤ v)
      (takes : o ∈ [Operation.provision, .performOperationalAction, .renew, .delete]) :
      LegalOption o v "geni_best_effort"
  | endTime (modern : 3 ≤ v) (takes : o ∈ [Operation.allocate, .provision]) :
      LegalOption o v "geni_end_time"
  | startTime (modern : 3 ≤ v) (takes : o = .allocate) : LegalOption o v "geni_start_time"
  | format (later : 2 ≤ v) (takes : o ∈ [Operation.listResources, .describe]) :
      LegalOption o v "geni_rspec_version"
  | firstFormat (first : v = 1) (takes : o ∈ [Operation.listResources, .describe]) :
      LegalOption o v "rspec_version"
  | available (takes : o = .listResources) : LegalOption o v "geni_available"
  | compressed (takes : o = .listResources) : LegalOption o v "geni_compressed"
  | slice (legacy : v < 3) (takes : o = .listResources) : LegalOption o v "geni_slice_urn"
  | extendAsLongAsPossible (modern : 3 ≤ v) (takes : o = .renew) :
      LegalOption o v "geni_extend_alap"
  | users (modern : 3 ≤ v) (takes : o = .provision) : LegalOption o v "geni_users"
  | speakingFor : LegalOption o v "geni_speaking_for"

theorem three_le_of_isModern {v : Nat} (h : Operation.isModern v = true) : 3 ≤ v :=
  of_decide_eq_true h

theorem multiResource_iff {o : Operation} : (o.kind == .multiResource) = true ↔
    o ∈ [Operation.provision, .performOperationalAction, .renew, .delete] := by
  cases o <;> decide

/-- What is taken for legal is legal, at every version that there is. -/
theorem legalOption_of_isLegal {o : Operation} {v : Nat} {kind : OptionKind} (hv : v ≠ 0)
    (h : kind.isLegal o v = true) : LegalOption o v (kind.name v) := by
  cases kind with
  | bestEffort =>
      obtain ⟨hmodern, htakes⟩ := Bool.and_eq_true_iff.1 h
      exact .bestEffort (three_le_of_isModern hmodern) (multiResource_iff.1 htakes)
  | endTime =>
      obtain ⟨hmodern, htakes⟩ := Bool.and_eq_true_iff.1 h
      exact .endTime (three_le_of_isModern hmodern) (List.contains_iff_mem.1 htakes)
  | startTime =>
      obtain ⟨hmodern, htakes⟩ := Bool.and_eq_true_iff.1 h
      exact .startTime (three_le_of_isModern hmodern) (eq_of_beq htakes)
  | format =>
      have htakes : o ∈ [Operation.listResources, .describe] := List.contains_iff_mem.1 h
      show LegalOption o v (if v < 2 then _ else _)
      by_cases hfirst : v < 2
      · rw [if_pos hfirst]
        exact .firstFormat (by omega) htakes
      · rw [if_neg hfirst]
        exact .format (Nat.le_of_not_lt hfirst) htakes
  | available => exact .available (eq_of_beq h)
  | compressed => exact .compressed (eq_of_beq h)
  | slice =>
      obtain ⟨hlegacy, htakes⟩ := Bool.and_eq_true_iff.1 h
      refine .slice (Nat.lt_of_not_le fun hmodern => ?_) (eq_of_beq htakes)
      rw [show Operation.isModern v = true from decide_eq_true hmodern] at hlegacy
      cases hlegacy
  | extendAsLongAsPossible =>
      obtain ⟨hmodern, htakes⟩ := Bool.and_eq_true_iff.1 h
      exact .extendAsLongAsPossible (three_le_of_isModern hmodern) (eq_of_beq htakes)
  | users =>
      obtain ⟨hmodern, htakes⟩ := Bool.and_eq_true_iff.1 h
      exact .users (three_le_of_isModern hmodern) (eq_of_beq htakes)
  | speakingFor => exact .speakingFor

/-! ## §2. What is set. -/

/-- Whether the options of a draft are all legal. -/
def Draft.Lawful (c : Context) (d : Draft) : Prop :=
  ∀ name ∈ d.options.keys, LegalOption c.operation c.version name

section

variable {c : Context} (hmode : c.mode = .strict) (hversion : c.version ≠ 0)
include hmode hversion

/-- **To grant an option is to set a legal one.** -/
theorem grant_lawful {kind : OptionKind} {value : Json} {d d' : Draft} (hd : d.Lawful c)
    (h : grant c kind value d = .ok d') : d'.Lawful c := by
  have hlegal := grant_strict hmode h
  rw [grant_of_legal value d hlegal] at h
  obtain rfl := Except.ok.inj h
  intro name hname
  obtain ⟨entry, hentry, rfl⟩ := List.mem_map.1 hname
  rcases Keyed.key_of_mem_insert hentry with heq | hold
  · rw [heq]
    exact legalOption_of_isLegal hversion hlegal
  · exact hd _ (List.mem_map.2 ⟨entry, hold, rfl⟩)

theorem grantAll_lawful {ws : List Wish} {d d' : Draft} (hd : d.Lawful c)
    (h : ws.foldlM (Wish.grant c) d = .ok d') : d'.Lawful c := by
  refine foldlM_keeps (fun a w b ha hb => ?_) hd h
  unfold Wish.grant at hb
  split at hb
  · cases hb
  · exact grant_lawful hmode hversion ha hb

theorem chooseFormat_lawful {i : Intent} {advertised : List ResourceFormat} {d d' : Draft}
    (hd : d.Lawful c) (h : chooseFormat c i advertised d = .ok d') : d'.Lawful c := by
  unfold chooseFormat at h
  split at h
  · unfold grantFormat at h
    split at h
    · rw [hmode] at h
      cases h
    · exact grant_lawful hmode hversion hd h
  · unfold defaultFormat at h
    split at h
    · exact Except.ok.inj h ▸ hd
    · split at h
      · exact grant_lawful hmode hversion hd h
      · exact Except.ok.inj h ▸ hd
      · exact Except.ok.inj h ▸ hd

end

/-! ## §3. All options. -/

/-- **In strict mode an option is demanded by the caller or legal.** -/
theorem buildOptions_lawful {c : Context} (hmode : c.mode = .strict) (hversion : c.version ≠ 0)
    {i : Intent} {a : Arguments} {advertised : List ResourceFormat} {d : Draft}
    (h : buildOptions c i a advertised = .ok d) :
    ∀ name ∈ d.options.keys,
      name ∈ i.overrides.keys ∨ LegalOption c.operation c.version name := by
  obtain ⟨early, chosen, set, hearly, hchosen, hset, rfl⟩ := set_of_buildOptions h
  have hempty : Draft.empty.Lawful c := fun name hname => nomatch hname
  have hlawful : set.Lawful c :=
    grantAll_lawful hmode hversion
      (chooseFormat_lawful hmode hversion (grantAll_lawful hmode hversion hempty hearly) hchosen)
      hset
  intro name hname
  rw [options_warnDropped] at hname
  rcases Keyed.mem_keys_insertAll hname with hdemanded | hold
  · exact .inl hdemanded
  · exact .inr (hlawful name hold)

end Call

/-! ## §4. The calls of a run. -/

/-- **Whether a call has legal options only**, those apart that the caller
demands, and has these as they are demanded.  A call whose method has no
place for options has none. -/
inductive OptionsLegal (i : Invocation) (v : Nat) (r : Request) : Prop
  | without (noPlace : Call.takesOptions i.operation v = false)
      (body : r.arguments.length = (Call.body i.operation v).length)
  | carried {before : List Json} {options : Options}
      (place : Call.takesOptions i.operation v = true)
      (body : before.length = (Call.body i.operation v).length)
      (arguments : r.arguments = before ++ [.object options])
      (legal : ∀ name ∈ options.keys,
        name ∈ i.intent.overrides.keys ∨ Call.LegalOption i.operation v name)
      (demanded : ∀ name value, (Keyed.ofPairs i.intent.overrides).get? name = some value →
        options.get? name = some value)

namespace Engine

/-- What the caller demands is not changed by what is preferred. -/
theorem overrides_intent (g : Engine) (i : Invocation) :
    (g.intent i).overrides = i.intent.overrides := by
  unfold intent
  split <;> rfl

/-- A call that fits a version has its options there. -/
theorem optionsLegal_of_fits {g : Engine} {i : Invocation} {t : Session}
    {credentials : List Credential} {version v : Nat} {slot : Endpoint} {a : Version.Agreed}
    {r : Request} (strict : g.settings.mode = .strict)
    (h : Fits g i t credentials version slot a v r) : OptionsLegal i v r := by
  obtain ⟨draft, built, prepared⟩ := h.prepared
  obtain ⟨before, hbefore, hplace⟩ := Call.prepare_options prepared
  have hv : v ≠ 0 := by
    rintro rfl
    have hmissing := (Operation.wireName?_eq_none_iff i.operation 0).2 (.inl rfl)
    rw [h.method] at hmissing
    cases hmissing
  have hlegal := Call.buildOptions_lawful strict hv built
  rw [overrides_intent] at hlegal
  cases htakes : Call.takesOptions i.operation v with
  | false =>
      rw [htakes, if_neg (by decide), List.append_nil] at hplace
      have hlength : r.arguments.length = before.length := congrArg List.length hplace
      exact .without htakes (hlength.trans hbefore)
  | true =>
      rw [htakes, if_pos rfl] at hplace
      refine .carried htakes hbefore hplace hlegal fun name value hvalue => ?_
      rw [← overrides_intent g i] at hvalue
      exact Call.get?_buildOptions built hvalue

/-- **In strict mode every call of a run has legal options**: at the version
of the invocation, which is the one that the aggregate is called at. -/
theorem strict_options_legal (w : World) (g : Engine) (i : Invocation) (s : Session)
    (strict : g.settings.mode = .strict) :
    ∃ sent, (ExceptT.run (g.run w i) s).2.requests = s.requests ++ sent ∧
      ∀ r ∈ callsOf sent, ∃ endpoints version message, g.named i = .ok endpoints ∧
        Adopted g i endpoints (ExceptT.run (g.run w i) s).2 version message ∧
        OptionsLegal i version r ∧
        ∀ report, (ExceptT.run (g.run w i) s).1 = .ok report → report.version = version ∧
          ∃ o ∈ report.outcomes, o.visit.calledUrl? = some r.url ∧
            o.visit.version = some version := by
  obtain ⟨sent, hlog, hcourse⟩ := course_run w g i s
  refine ⟨sent, hlog, fun r hr => ?_⟩
  generalize ExceptT.run (g.run w i) s = result at hcourse
  obtain ⟨outcome, t⟩ := result
  obtain hnone | ⟨endpoints, credentials, version, message, _, _, parts, launched, toured, hcalls,
    hreport⟩ := calls_of_course hcourse
  · rw [hnone] at hr
    cases hr
  · rw [hcalls] at hr
    obtain ⟨slot, -, visit, hvisit, hcalled⟩ := (calls_of_toured toured).2 r hr
    obtain ⟨a, v, hfits, -, -, hversion, -⟩ := fits_of_called hcalled
    obtain ⟨rfl, -⟩ := hfits.strict strict
    refine ⟨endpoints, v, message, launched.resolved, launched.adopted,
      optionsLegal_of_fits strict hfits, fun report h => ?_⟩
    obtain rfl := hreport report h
    obtain ⟨o, ho, hovisit, -⟩ := outcome_of_visit g i v message hvisit hversion
    exact ⟨rfl, o, ho, by rw [hovisit, hcalled.calledUrl?], by rw [hovisit, hversion]⟩

end Engine

namespace Listing

/-- The available resources of a slice, with two options of the caller's
own. -/
def invocation : Invocation :=
  ⟨.listResources, ["http://[::2]"], { Arguments.none with slice := some "urn:s" },
    { Call.Intent.plain with
      availableOnly := true
      overrides := [("geni_available", .bool false), ("vendor_detail", .nat 2)] },
    none, false, none⟩

/-- What it sends. -/
def sent : List String :=
  ["[\"document\"]",
    "\x7b\"geni_available\":false,\"geni_slice_urn\":\"urn:s\",\"vendor_detail\":2\x7d"]

end Listing

set_option maxRecDepth 10000 in
/-- A listing carries what is legal and what the caller demands, of which the
latter wins. -/
theorem strict_options_legal_listing :
    ∃ r, callsOf (ExceptT.run (Engine.plain.run Crossing.world Listing.invocation)
        (Session.start .absent)).2.requests = [r] ∧
      r.arguments.map Json.compact = Listing.sent ∧
      OptionsLegal Listing.invocation 2 r := by
  have hcalls : (callsOf (ExceptT.run (Engine.plain.run Crossing.world Listing.invocation)
      (Session.start .absent)).2.requests).map (·.arguments.map Json.compact) = [Listing.sent] := by
    decide +kernel
  obtain ⟨sent, hlog, hall⟩ := Engine.strict_options_legal Crossing.world Engine.plain
    Listing.invocation (Session.start .absent) rfl
  have hsent : (ExceptT.run (Engine.plain.run Crossing.world Listing.invocation)
      (Session.start .absent)).2.requests = sent := hlog.trans (List.nil_append sent)
  rw [hsent] at hcalls ⊢
  obtain ⟨r, hr, harguments⟩ := List.map_eq_singleton_iff.1 hcalls
  obtain ⟨endpoints, version, message, resolved, adopted, legal, -⟩ :=
    hall r (hr ▸ List.mem_singleton_self r)
  refine ⟨r, hr, harguments, ?_⟩
  cases adopted with
  | asked alone => exact legal
  | voted decided =>
      -- A single aggregate is not a fleet.
      have hone : Engine.plain.named Listing.invocation
          = .ok [⟨"unspecified_AM_URN", "http://[::2]", none, none⟩] := by decide +kernel
      rw [hone] at resolved
      obtain rfl := Except.ok.inj resolved
      exact absurd decided.several (by decide)

end Federation
