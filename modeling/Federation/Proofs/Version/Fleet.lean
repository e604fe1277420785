/-
  Federation.Proofs.Version.Fleet
  ───────────────────────────────
  **HOW A FLEET IS ASKED.**

  To decide on a version every aggregate is probed, several at a time where
  several workers share the list, and nothing else is sent.  Where no
  decision comes of it, either everything was called off or nobody answered.
  Where another version is decided on, someone who answered speaks it.

  Main results: `decideFrom_changed`, `decideFrom_candid`,
  `reconcileFleet_fulfils`.
-/
import Federation.Proofs.Version.Negotiation
import Federation.Version.Fleet

namespace Federation.Version

open Introspection (ProbeOutcome)

theorem areProbes_perm {rs qs : List Request} (h : AreProbes rs) (k : qs.Perm rs) :
    AreProbes qs := fun r hr => h r (k.subset hr)

/-- Where nothing is decided, and why. -/
theorem decideFrom_error {mode : Mode} {desired : Nat} {explicit : Bool} {probes : Probes}
    {fault : InvocationFault} (h : decideFrom mode desired explicit probes = .error fault) :
    fault = .aborted ∨ ∃ failures, fault = .noReachableEndpoints failures := by
  unfold decideFrom at h
  split at h
  · cases h
    exact .inl rfl
  · split at h
    · cases h
      exact .inr ⟨_, rfl⟩
    · cases h

theorem mem_speakers {probes : Probes} {speaker : Speaker} (h : speaker ∈ speakers probes) :
    ∃ e p, (e, .ok p) ∈ probes ∧ speaker = Speaker.ofSnapshot p.snapshot := by
  obtain ⟨⟨e, o⟩, hmem, hspeaker⟩ := List.mem_filterMap.1 h
  cases o with
  | error fault => cases hspeaker
  | ok p => exact ⟨e, p, hmem, (Option.some.inj hspeaker).symm⟩

theorem speakers_sound (probes : Probes) : (speakers probes).Sound := by
  intro speaker h
  obtain ⟨_, p, _, rfl⟩ := mem_speakers h
  refine (p.snapshot.supports_iff_mem p.snapshot.primary).1 ?_
  simp [Introspection.Snapshot.supports]

/-- What is decided is decided by those who answered. -/
theorem decideFrom_ok {mode : Mode} {desired : Nat} {explicit : Bool} {probes : Probes}
    {d : Decision} (h : decideFrom mode desired explicit probes = .ok d) :
    d = decide mode (speakers probes) desired explicit (unreachable probes) := by
  unfold decideFrom at h
  split at h
  · cases h
  · split at h
    · cases h
    · exact (Except.ok.inj h).symm

/-- In strict mode the vote is followed. -/
theorem decide_strict (fleet : Fleet) (desired : Nat) (explicit : Bool)
    (gone : List (String × String)) :
    (decide .strict fleet desired explicit gone).version = (vote fleet desired).version := by
  unfold decide
  by_cases hvote : (vote fleet desired).version = desired
  · simp [hvote]
  · simp [hvote]

/-- **Another version than the desired one** is adopted in strict mode only,
and someone who answered speaks it. -/
theorem decideFrom_changed {mode : Mode} {desired : Nat} {explicit : Bool} {probes : Probes}
    {d : Decision} (h : decideFrom mode desired explicit probes = .ok d)
    (hchanged : d.version ≠ desired) :
    mode = .strict ∧ ∃ e p, (e, .ok p) ∈ probes ∧ p.snapshot.supports d.version = true := by
  obtain rfl := decideFrom_ok h
  cases mode with
  | relaxed => exact absurd (decide_relaxed _ _ _ _) hchanged
  | strict =>
      refine ⟨rfl, ?_⟩
      rw [decide_strict] at hchanged ⊢
      rcases vote_spoken (speakers_sound probes) desired with hkept | ⟨speaker, hmem, hspeaks⟩
      · exact absurd hkept hchanged
      · obtain ⟨e, p, hprobe, rfl⟩ := mem_speakers hmem
        exact ⟨e, p, hprobe, (p.snapshot.supports_iff_mem _).2 hspeaks⟩

/-- The words in which another version is announced. -/
theorem decideFrom_message {mode : Mode} {desired : Nat} {explicit : Bool} {probes : Probes}
    {d : Decision} (h : decideFrom mode desired explicit probes = .ok d)
    (hchanged : d.version ≠ desired) :
    ∃ words, d.message = some (if explicit then emphaticWarning desired ++ words else words) := by
  obtain ⟨rfl, -⟩ := decideFrom_changed h hchanged
  obtain rfl := decideFrom_ok h
  rw [decide_strict] at hchanged
  refine ⟨switchingMessage (speakers probes) desired (vote (speakers probes) desired).version, ?_⟩
  unfold decide
  rw [if_neg hchanged]

/-- What a decision owes to whoever asked for a version. -/
structure Candid (mode : Mode) (desired : Nat) (explicit : Bool) (d : Decision) : Prop where
  requested : d.requested = desired
  relaxed : mode = .relaxed → d.version = desired
  warning : d.warning = true ↔ d.changed = true ∧ explicit = true

theorem decide_requested (mode : Mode) (fleet : Fleet) (desired : Nat) (explicit : Bool)
    (gone : List (String × String)) :
    (decide mode fleet desired explicit gone).requested = desired := by
  unfold decide
  by_cases hvote : (vote fleet desired).version = desired
  · rw [if_pos hvote]
  · rw [if_neg hvote]
    cases mode <;> rfl

/-- **No decision keeps anything back.** -/
theorem decideFrom_candid {mode : Mode} {desired : Nat} {explicit : Bool} {probes : Probes}
    {d : Decision} (h : decideFrom mode desired explicit probes = .ok d) :
    Candid mode desired explicit d := by
  obtain rfl := decideFrom_ok h
  refine ⟨decide_requested _ _ _ _ _, ?_, ?_⟩
  · rintro rfl
    exact decide_relaxed _ _ _ _
  · rw [warning_iff, Decision.changed, decide_requested, decide_eq_true_iff]
    exact And.comm

/-- **What the probes of a fleet come to**: one outcome for each aggregate,
known from then on, and no requests but probes. -/
theorem reconcileFleet_fulfils (w : World) (t : Terms) (endpoints : List Endpoint)
    (desired : Nat) (explicit : Bool) (workers : Nat) {s : Session} (hs : s.Telling) :
    ∃ outcomes,
      (reconcileFleet w t endpoints desired explicit workers s).1
        = decideFrom t.mode desired explicit (endpoints.zip outcomes) ∧
      s.Becomes (reconcileFleet w t endpoints desired explicit workers s).2 ∧
      List.Forall₂ (fun e o =>
        (reconcileFleet w t endpoints desired explicit workers s).2.Heard e.url o)
        endpoints outcomes ∧
      ∃ probes, AreProbes probes ∧
        (reconcileFleet w t endpoints desired explicit workers s).2.requests
          = s.requests ++ probes := by
  obtain ⟨hbecomes, parts, hresults, hparts, probes, hlog, hperm⟩ :=
    forEach_fulfils w workers (probeOnce w t) endpoints
      fun e _ _ hu => meets_probeOnce w t e (hu.telling hs)
  refine ⟨parts.map Prod.snd, ?_, hbecomes, ?_, probes, ?_, hlog⟩
  · rw [← hresults]
    rfl
  · rw [List.forall₂_map_right_iff]
    exact hparts.imp fun _ _ h => h.2
  · refine areProbes_perm ?_ hperm
    intro r hr
    obtain ⟨part, hpart, hr⟩ := List.mem_flatMap.1 hr
    obtain ⟨e, _, hpart⟩ := exists_left_of_mem hparts hpart
    exact areProbes_of_sublist [e] hpart.1 r hr

end Federation.Version
