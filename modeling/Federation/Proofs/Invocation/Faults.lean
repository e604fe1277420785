/-
  Federation.Proofs.Invocation.Faults
  ───────────────────────────────────
  **WHAT WAS DONE WHERE THERE IS NO REPORT.**

  A fault that ends an invocation says how far it came.  Where no endpoints
  were found, no credential was granted, or everything was called off before
  it began, nobody was asked anything.  Where the request does not fit, nobody
  answered, or the only aggregate was not called, nothing but versions was
  asked for.  Only where the call to the only aggregate did not get through
  was there a call, and it was the only one.  An invocation that crashes says
  nothing, but it has not called anybody either.

  Main result: `run_fault_keepsTo` — a fault keeps to what it says.
-/
import Federation.Proofs.Invocation.Calls

namespace Federation

open Call (Response Visit settleLone)
open Version (AreProbes areProbes_nil)

/-! ## §1. Which stage raises which fault. -/

/-- What a fault says of the requests that were sent before it. -/
def InvocationFault.KeepsTo (g : Engine) (i : Invocation) (sent : List Request) :
    InvocationFault → Prop
  | .resolution _ => sent = []
  | .credential _ _ => sent = []
  | .options _ => AreProbes sent
  | .operation _ => AreProbes sent
  | .noReachableEndpoints _ => AreProbes sent
  | .endpointSkipped _ _ => AreProbes sent
  | .aborted => AreProbes sent
  | .endpointFailed _ _ =>
      (∃ e, (g.sources.resolve i.identifiers).1 = .ok [e]) ∧ ∃ call, callsOf sent = [call]

/-- What is so of the requests that were sent where there is no report. -/
def Halt.KeepsTo (g : Engine) (i : Invocation) (sent : List Request) : Halt → Prop
  | .fault reason => reason.KeepsTo g i sent
  | .crash => AreProbes sent

/-- Without a report there was at most one call. -/
theorem Halt.KeepsTo.calls {g : Engine} {i : Invocation} {sent : List Request}
    {halt : Halt} (h : halt.KeepsTo g i sent) :
    callsOf sent = [] ∨ ∃ call, callsOf sent = [call] := by
  cases halt with
  | crash => exact .inl (callsOf_eq_nil_iff.2 h)
  | fault reason =>
      cases reason with
      | resolution _ => exact .inl (by rw [show sent = [] from h]; rfl)
      | credential _ _ => exact .inl (by rw [show sent = [] from h]; rfl)
      | endpointFailed _ _ => exact .inr h.2
      | _ => exact .inl (callsOf_eq_nil_iff.2 h)

namespace Call

/-- A round ends an invocation only through a lone aggregate, which was
skipped or failed. -/
theorem settleLone_error {visits : List Visit} {fault : InvocationFault}
    (h : settleLone visits = .error fault) :
    ∃ only, visits = [only] ∧
      ((only.response = .skipped .aborted ∧ fault = .aborted) ∨
        (∃ reason, only.response = .skipped reason ∧
          fault = .endpointSkipped only.slot.label reason) ∨
        ∃ failure, only.response = .failed failure ∧
          fault = .endpointFailed only.slot.label failure) := by
  unfold settleLone at h
  split at h
  · rename_i only
    refine ⟨only, rfl, ?_⟩
    split at h
    · rename_i hresponse
      cases h
      exact .inl ⟨hresponse, rfl⟩
    · rename_i reason _ hresponse
      cases h
      exact .inr (.inl ⟨reason, hresponse, rfl⟩)
    · rename_i failure hresponse
      cases h
      exact .inr (.inr ⟨failure, hresponse, rfl⟩)
    · cases h
    · cases h
  · cases h

end Call

namespace Engine

variable {w : World} {g : Engine} {i : Invocation}

/-- The check of a request raises no other faults than its own. -/
theorem check_error {version : Nat} {halt : Halt} (h : g.check i version = .error halt) :
    (∃ f, halt = .fault (.operation f)) ∨ (∃ f, halt = .fault (.options f)) ∨ halt = .crash := by
  unfold check at h
  split at h
  · cases h
  · cases harguments : checkArguments i version with
    | error f =>
        rw [harguments] at h
        cases h
        unfold checkArguments at harguments
        split at harguments <;> cases harguments
        exact .inl ⟨_, rfl⟩
    | ok u =>
        rw [harguments] at h
        have hoptions : checkOptions g i version = .error halt := h
        unfold checkOptions at hoptions
        split at hoptions
        · cases hoptions
        · obtain rfl := Except.error.inj hoptions
          split
          · exact .inr (.inr rfl)
          · exact .inr (.inl ⟨_, rfl⟩)

/-! ## §2. The lone aggregate. -/

/-- What the fate of a lone aggregate says is so. -/
theorem toured_keepsTo {t : Session} {endpoints : List Endpoint}
    {credentials : List Credential} {version : Nat} {probes sent : List Request}
    {parts : List (List Request × Visit)} {fault : InvocationFault}
    (resolved : g.named i = .ok endpoints) (quiet : AreProbes probes)
    (toured : Toured w (g.itinerary i credentials version) endpoints t sent parts)
    (settled : settleLone (parts.map Prod.snd) = .error fault) :
    fault.KeepsTo g i (probes ++ sent) := by
  obtain ⟨only, hvisits, hfate⟩ := Call.settleLone_error settled
  obtain ⟨own, rfl⟩ : ∃ own, parts = [(own, only)] := by
    obtain ⟨part, rfl, rfl⟩ := List.map_eq_singleton_iff.1 hvisits
    exact ⟨part.1, rfl⟩
  have hlog : callsOf (probes ++ sent) = [] ++ callsOf sent := by
    rw [callsOf_append, callsOf_eq_nil_iff.2 quiet]
  have hcalls : (callsOf sent).Perm (callsOf own) := by
    have := callsOf_perm toured.2
    rwa [List.flatMap_singleton] at this
  obtain ⟨hforall, -⟩ := toured
  cases hforall with
  | @cons slot _ _ _ hvisit hnil =>
  cases hnil
  -- A visit that was skipped leaves nothing but probes.
  have quiet_of_skipped (hskipped : only.response.isDelivered = false) :
      AreProbes (probes ++ sent) := by
    refine callsOf_eq_nil_iff.1 ?_
    rcases calls_of_visited hvisit with ⟨-, hown⟩ | ⟨r, -, hcalled⟩
    · rw [hlog, List.nil_append]
      exact (hown ▸ hcalls).eq_nil
    · cases hcalled with
      | made _ _ _ _ _ delivered _ => rw [hskipped] at delivered; cases delivered
  rcases hfate with ⟨hresponse, rfl⟩ | ⟨reason, hresponse, rfl⟩ | ⟨failure, hresponse, rfl⟩
  · exact quiet_of_skipped (by rw [hresponse]; rfl)
  · exact quiet_of_skipped (by rw [hresponse]; rfl)
  · -- A failure in transit comes of the one call that was sent.
    refine ⟨⟨slot, resolved⟩, ?_⟩
    rcases calls_of_visited hvisit with ⟨hskipped, -⟩ | ⟨r, hown, -⟩
    · rw [hresponse] at hskipped
      cases hskipped
    · refine ⟨r, ?_⟩
      rw [hlog, List.nil_append]
      exact List.perm_singleton.1 (hown ▸ hcalls)

/-! ## §3. All faults. -/

/-- A course without a report keeps to what is said of it. -/
theorem Course.keepsTo {s t : Session} {sent : List Request} {halt : Halt}
    (h : Course w g i s t sent (.error halt)) : halt.KeepsTo g i sent := by
  cases h with
  | calledOff _ => exact areProbes_nil
  | unresolved _ => rfl
  | refused _ _ _ => rfl
  | undecided _ _ decided quiet =>
      rcases Version.decideFrom_error decided.decided.symm with rfl | ⟨failures, rfl⟩
      · exact quiet
      · exact quiet
  | rejected launched checked =>
      rcases check_error checked with ⟨f, rfl⟩ | ⟨f, rfl⟩ | rfl
      · exact launched.quiet
      · exact launched.quiet
      · exact launched.quiet
  | crashed launched _ _ quiet =>
      exact fun r hr => (List.mem_append.1 hr).elim (launched.quiet r) (quiet r)
  | ended launched _ toured settled =>
      exact toured_keepsTo launched.resolved launched.quiet toured settled

/-- **A fault keeps to what it says**, whatever the aggregates answer,
whenever the signal to stop comes, and however the work is shared; what was
called off before it began asks nobody, and what crashes calls nobody. -/
theorem run_fault_keepsTo (w : World) (g : Engine) (i : Invocation) (s : Session) :
    ∃ sent, (ExceptT.run (g.run w i) s).2.requests = s.requests ++ sent ∧
      ((Action.stopped w s).1 = true → sent = []) ∧
      ∀ halt, (ExceptT.run (g.run w i) s).1 = .error halt → halt.KeepsTo g i sent := by
  obtain ⟨sent, hlog, hcourse⟩ := course_run w g i s
  refine ⟨sent, hlog, fun hstop => ?_, fun halt hhalt => ?_⟩
  · rw [run_of_stopped w g i hstop] at hlog
    exact List.append_cancel_left (hlog.symm.trans (List.append_nil _).symm)
  · rw [hhalt] at hcourse
    exact hcourse.keepsTo

end Engine

end Federation
