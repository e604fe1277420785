/-
  Federation.Proofs.Invocation.Acceptance
  ───────────────────────────────────────
  **WHAT A VOTE MAY DO TO A REQUEST.**

  A request that is in order at the version that was asked for is checked
  again at the version that the fleet adopts.  In strict mode two kinds of
  requests may then be refused: one for the status of slivers that names no
  slice, where version 1 or 2 is adopted, and a listing of the resources of a
  slice, where version 3 or later is.  All others are in order at every
  version.

  Main results:
    * `check_other_version` — what a request meets at another version;
    * `vote_refuses_only` — when a vote ends an invocation.
-/
import Federation.Proofs.Call.Options
import Federation.Proofs.Invocation.Calls

namespace Federation

open Call (Visit)

/-- Whether a fault says that the request is not in order. -/
def InvocationFault.blamesRequest : InvocationFault → Bool
  | .operation _ => true
  | .options _ => true
  | _ => false

namespace Engine

/-! ## §1. Another version. -/

/-- What a request that was in order at another version is refused for. -/
def refusalAt (i : Invocation) (v : Nat) : Option InvocationFault :=
  if i.operation = .status ∧ i.arguments.slice = none ∧ (v = 1 ∨ v = 2) then
    some (.operation (.missing .status .slice))
  else if i.operation = .listResources ∧ i.arguments.slice.isSome ∧ 3 ≤ v then
    some (.options (.notApplicable "geni_slice_urn" .listResources v))
  else none

variable {g : Engine} {i : Invocation} {q : Nat}

/-- Arguments are refused for the first requirement that they lack, where the
operation exists. -/
theorem checkArguments_eq (i : Invocation) (v : Nat) :
    checkArguments i v
      = if (i.operation.wireName? v).isNone then .ok ()
        else match (i.operation.requirements v).find? fun r => !i.arguments.meets r with
          | some r => .error (.fault (.operation (.missing i.operation r)))
          | none => .ok () := by
  unfold checkArguments Operation.validate
  cases i.operation.wireName? v with
  | none => rfl
  | some method =>
      cases (i.operation.requirements v).find? fun r => !i.arguments.meets r with
      | none => rfl
      | some r => rfl

/-- What names a slice names its resources. -/
theorem meets_targets_of_scope {a : Arguments} {q : Nat}
    (h : a.meets (Operation.scope q) = true) : a.meets .targets = true := by
  unfold Operation.scope at h
  split at h
  · exact h
  · have hslice : a.slice.isSome = true := h
    show (a.slice.isSome || _) = true
    rw [hslice, Bool.true_or]

/-- Arguments that are in order at one version are so at another, but for a
status without a slice. -/
theorem checkArguments_other_version (ho : i.operation.reconcilesFleet = true)
    (hvalid : i.operation.validate q i.arguments = .ok ()) (v : Nat) :
    checkArguments i v
      = if i.operation = .status ∧ i.arguments.slice = none ∧ (v = 1 ∨ v = 2) then
          .error (.fault (.operation (.missing .status .slice)))
        else .ok () := by
  obtain ⟨-, hmeets⟩ := (Operation.validate_eq_ok_iff _ _ _).1 hvalid
  rw [checkArguments_eq]
  cases hname : i.operation.wireName? v with
  | none =>
      -- The operation does not exist at the version, so it is told so later.
      have habsent := (Operation.wireName?_eq_none_iff _ _).1 hname
      have hother : ¬(i.operation = .status ∧ i.arguments.slice = none ∧ (v = 1 ∨ v = 2)) := by
        rintro ⟨hstatus, -, hv⟩
        rw [hstatus] at habsent
        simp at habsent
        omega
      rw [if_neg hother]
      rfl
  | some method =>
      have hpresent : ¬i.operation.wireName? v = none := by simp [hname]
      rw [Operation.wireName?_eq_none_iff] at hpresent
      rw [if_neg (by simp)]
      rcases Call.reads_of_reconcilesFleet ho with hop | hop | hop
      · rw [hop, if_neg (by simp)]
        rfl
      · -- A description exists only where slivers are addressed one by one.
        rw [hop] at hpresent hmeets ⊢
        have htargets := meets_targets_of_scope (hmeets (Operation.scope q) List.mem_cons_self)
        have hmodern : Operation.isModern v = true := by
          by_contra hlow
          have hlow : ¬3 ≤ v := fun h => hlow (decide_eq_true h)
          exact hpresent (.inr ⟨by omega, .inl rfl⟩)
        simp [Operation.requirements, Operation.scope, hmodern, htargets]
      · -- A status asks for the slice below version 3, and for any target from there.
        rw [hop] at hpresent hmeets ⊢
        have htargets := meets_targets_of_scope (hmeets (Operation.scope q) List.mem_cons_self)
        by_cases hmodern : 3 ≤ v
        · have hlate : ¬(v = 1 ∨ v = 2) := by omega
          simp [Operation.requirements, Operation.scope, Operation.isModern,
            Operation.modernVersion, hmodern, htargets, hlate]
        · have hearly : v = 1 ∨ v = 2 := by
            simp at hpresent
            omega
          cases hslice : i.arguments.slice with
          | none =>
              simp [Operation.requirements, Operation.scope, Operation.isModern,
                Operation.modernVersion, hmodern, hearly, Arguments.meets, hslice]
          | some slice =>
              simp [Operation.requirements, Operation.scope, Operation.isModern,
                Operation.modernVersion, hmodern, Arguments.meets, hslice]

/-- Options that are in order at one version are so at another, but for the
slice of a listing. -/
theorem checkOptions_other_version (hmode : g.settings.mode = .strict)
    (ho : i.operation.reconcilesFleet = true) {d : Call.Draft}
    (hbuilt : Call.buildOptions ⟨.strict, i.operation, q⟩ (g.intent i) i.arguments [] = .ok d)
    (v : Nat) :
    checkOptions g i v
      = if i.operation = .listResources ∧ i.arguments.slice.isSome ∧ 3 ≤ v then
          .error (.fault (.options (.notApplicable "geni_slice_urn" .listResources v)))
        else .ok () := by
  have haccepted : Call.requestFault? ⟨.strict, i.operation, q⟩ (g.intent i) i.arguments
      = none := (Call.buildOptions_isOk_iff rfl _ _).1 ⟨d, hbuilt⟩
  have hrefused := Call.buildOptions_refusedFor (c := ⟨.strict, i.operation, v⟩) rfl
    (g.intent i) i.arguments
  rw [Call.requestFault?_other_version ho haccepted v] at hrefused
  unfold checkOptions
  rw [hmode]
  by_cases hslice : i.operation = .listResources ∧ i.arguments.slice.isSome ∧ 3 ≤ v
  · rw [if_pos hslice] at hrefused ⊢
    rw [show Call.buildOptions _ _ _ _ = _ from hrefused]
    rfl
  · rw [if_neg hslice] at hrefused ⊢
    obtain ⟨d', hd'⟩ := hrefused
    rw [hd']

/-- **What a request that is in order at one version meets at another.** -/
theorem check_other_version (hmode : g.settings.mode = .strict)
    (ho : i.operation.reconcilesFleet = true)
    (hvalid : i.operation.validate q i.arguments = .ok ()) {d : Call.Draft}
    (hbuilt : Call.buildOptions ⟨.strict, i.operation, q⟩ (g.intent i) i.arguments [] = .ok d)
    (v : Nat) :
    g.check i v = match refusalAt i v with
      | some fault => .error (.fault fault)
      | none => .ok () := by
  have hop := Operation.ne_getVersion_of_reconcilesFleet ho
  unfold check refusalAt
  rw [if_neg hop, checkArguments_other_version ho hvalid v,
    checkOptions_other_version hmode ho hbuilt v]
  split
  · rfl
  · split
    · rfl
    · rfl

/-! ## §2. The vote. -/

/-- Why no version was adopted, and the fault that says so. -/
inductive VotesNot (w : World) (g : Engine) (i : Invocation) (s : Session)
    (endpoints : List Endpoint) (t : Session) : InvocationFault → Prop
  | calledOff (stopped : (Action.stopped w s).1 = true) : VotesNot w g i s endpoints t .aborted
  | refused {reason : String} (h : w.credential i.credentialSubject = .error reason) :
      VotesNot w g i s endpoints t (.credential i.credentialSubject reason)
  | undecided {outcomes : List Introspection.ProbeOutcome} {fault : InvocationFault}
      (decided : Decided g i endpoints t outcomes (.error fault)) :
      VotesNot w g i s endpoints t fault

/-- Several aggregates never end an invocation once they are called. -/
theorem settled_of_several {w : World} {credentials : List Credential} {version : Nat}
    {slots : List Endpoint} {t : Session} {sent : List Request}
    {parts : List (List Request × Visit)} {fault : InvocationFault} (hseveral : 1 < slots.length)
    (toured : Toured w (g.itinerary i credentials version) slots t sent parts) :
    Call.settleLone (parts.map Prod.snd) ≠ .error fault := by
  intro h
  have htwo : 2 ≤ (parts.map Prod.snd).length := by
    rw [List.length_map, ← toured.1.length_eq]
    exact hseveral
  rw [Call.settleLone_of_two htwo] at h
  cases h

/-- **When a vote ends an invocation.**  In strict mode, let a request for
several aggregates be in order at the version that was asked for.  Where they
adopt no version, no fault blames the request; where they adopt one, the
invocation ends with what the request is refused for at it, and with a report
if that is nothing.  It never crashes. -/
theorem vote_refuses_only (w : World) (g : Engine) (i : Invocation) (s : Session)
    {endpoints : List Endpoint} {d : Call.Draft} (hmode : g.settings.mode = .strict)
    (ho : i.operation.reconcilesFleet = true) (hnamed : g.named i = .ok endpoints)
    (hseveral : 1 < endpoints.length)
    (hvalid : i.operation.validate (g.requested i).1 i.arguments = .ok ())
    (hbuilt : Call.buildOptions ⟨.strict, i.operation, (g.requested i).1⟩ (g.intent i)
      i.arguments [] = .ok d) :
    (∀ report, (ExceptT.run (g.run w i) s).1 = .ok report →
      Adopted g i endpoints (ExceptT.run (g.run w i) s).2 report.version report.fleetMessage ∧
        refusalAt i report.version = none) ∧
    ∀ halt, (ExceptT.run (g.run w i) s).1 = .error halt → ∃ fault, halt = .fault fault ∧
      ((fault.blamesRequest = false ∧
        VotesNot w g i s endpoints (ExceptT.run (g.run w i) s).2 fault) ∨
      ∃ version message, Adopted g i endpoints (ExceptT.run (g.run w i) s).2 version message ∧
        refusalAt i version = some fault) := by
  obtain ⟨sent, -, hcourse⟩ := course_run w g i s
  have same {es : List Endpoint} (resolved : g.named i = .ok es) : es = endpoints :=
    Except.ok.inj (resolved.symm.trans hnamed)
  constructor
  · intro report hreport
    rw [hreport] at hcourse
    cases hcourse with
    | reported launched checked _ _ =>
        obtain rfl := same launched.resolved
        rw [check_other_version hmode ho hvalid hbuilt] at checked
        refine ⟨launched.adopted, ?_⟩
        show refusalAt i _ = none
        split at checked
        · cases checked
        · assumption
  · intro halt hhalt
    rw [hhalt] at hcourse
    cases hcourse with
    | calledOff stopped => exact ⟨_, rfl, .inl ⟨rfl, .calledOff stopped⟩⟩
    | unresolved resolved => cases resolved.symm.trans hnamed
    | refused _ _ hrefused => exact ⟨_, rfl, .inl ⟨rfl, .refused hrefused⟩⟩
    | undecided resolved _ decided _ =>
        obtain rfl := same resolved
        refine ⟨_, rfl, .inl ⟨?_, .undecided decided⟩⟩
        rcases Version.decideFrom_error decided.decided.symm with rfl | ⟨failures, rfl⟩
        · rfl
        · rfl
    | @rejected _ _ version message _ _ launched checked =>
        obtain rfl := same launched.resolved
        rw [check_other_version hmode ho hvalid hbuilt] at checked
        split at checked
        · rename_i fault hrefusal
          exact ⟨fault, (Except.error.inj checked).symm, .inr ⟨version, message, launched.adopted,
            hrefusal⟩⟩
        · cases checked
    | crashed _ _ renews _ =>
        -- The fleet has no say in a renewal.
        rw [renews.1] at ho
        cases ho
    | ended launched _ toured settled =>
        obtain rfl := same launched.resolved
        exact absurd settled (settled_of_several hseveral toured)

/-! ## §3. Fleets that speak one version. -/

namespace Uniform

/-- All aggregates speak one version, and no other. -/
def world (primary : Nat) : World where
  transport := fun _ _ => ⟨.ok (.object [("geni_api", .nat primary)]), false⟩
  clock := fun _ => Time.Instant.epoch
  writes := fun _ => true
  credential := fun _ => .ok (Credential.sfa "document")
  keepsProof := fun _ _ => true

/-- The resources of a slice, at the version of the engine. -/
def listing : Invocation :=
  ⟨.listResources, ["http://[::1]", "http://[::2]"],
    { Arguments.none with slice := some "urn:s" }, Call.Intent.plain, none, false, none⟩

/-- The status of a sliver, at version 3. -/
def status : Invocation :=
  ⟨.status, ["http://[::1]", "http://[::2]"], { Arguments.none with slivers := ["urn:v"] },
    Call.Intent.plain, some 3, false, some "urn:s"⟩

/-- The endpoints of both. -/
def endpoints : List Endpoint :=
  [⟨Endpoint.unspecifiedUrn, "http://[::1]", none, none⟩,
    ⟨Endpoint.unspecifiedUrn, "http://[::2]", none, none⟩]

end Uniform


set_option maxRecDepth 10000 in
/-- A listing for a slice, where all aggregates speak version 3. -/
theorem vote_refuses_listing :
    ∃ version message,
      Adopted plain Uniform.listing Uniform.endpoints
        (ExceptT.run (plain.run (Uniform.world 3) Uniform.listing) (Session.start .absent)).2
        version message ∧
      refusalAt Uniform.listing version
        = some (.options (.notApplicable "geni_slice_urn" .listResources 3)) := by
  have hfault : (ExceptT.run (plain.run (Uniform.world 3) Uniform.listing)
      (Session.start .absent)).1
        = .error (.fault (.options (.notApplicable "geni_slice_urn" .listResources 3))) :=
    run_of_faultOf? (by decide +kernel)
  obtain ⟨d, hbuilt⟩ := (Call.buildOptions_isOk_iff (c := ⟨.strict, .listResources, 2⟩) rfl
    (plain.intent Uniform.listing) Uniform.listing.arguments).2 (by decide +kernel)
  have hnamed : plain.named Uniform.listing = .ok Uniform.endpoints := by decide +kernel
  obtain ⟨fault, hsame, hvote⟩ := (vote_refuses_only (Uniform.world 3) plain Uniform.listing
    (Session.start .absent) rfl rfl hnamed (by decide) (by decide +kernel) hbuilt).2 _ hfault
  obtain rfl := Halt.fault.inj hsame
  rcases hvote with ⟨hblameless, -⟩ | h
  · cases hblameless
  · exact h

set_option maxRecDepth 10000 in
/-- **A vote may refuse a request that is in order**: the status of a sliver at
version 3, where all aggregates speak version 2. -/
theorem vote_may_refuse :
    ¬∀ (w : World) (g : Engine) (i : Invocation) (s : Session) (endpoints : List Endpoint)
      (d : Call.Draft), g.settings.mode = .strict → i.operation.reconcilesFleet = true →
      g.named i = .ok endpoints → 1 < endpoints.length →
      i.operation.validate (g.requested i).1 i.arguments = .ok () →
      Call.buildOptions ⟨.strict, i.operation, (g.requested i).1⟩ (g.intent i) i.arguments []
        = .ok d →
      (∀ fault, (ExceptT.run (g.run w i) s).1 ≠ .error (.fault (.operation fault))) ∧
        ∀ fault, (ExceptT.run (g.run w i) s).1 ≠ .error (.fault (.options fault)) := by
  intro h
  obtain ⟨d, hbuilt⟩ := (Call.buildOptions_isOk_iff (c := ⟨.strict, .status, 3⟩) rfl
    (plain.intent Uniform.status) Uniform.status.arguments).2 (by decide +kernel)
  have hnever := (h (Uniform.world 2) plain Uniform.status (Session.start .absent)
    Uniform.endpoints d rfl rfl (by decide +kernel) (by decide) (by decide +kernel) hbuilt).1
  have hfault : (ExceptT.run (plain.run (Uniform.world 2) Uniform.status)
      (Session.start .absent)).1 = .error (.fault (.operation (.missing .status .slice))) :=
    run_of_faultOf? (by decide +kernel)
  exact hnever _ hfault

end Engine

end Federation
