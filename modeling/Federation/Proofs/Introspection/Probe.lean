/-
  Federation.Proofs.Introspection.Probe
  ─────────────────────────────────────
  **WHAT ONE PROBE DOES.**

  Whatever else goes on, a probe sends at most its own request, and it yields
  that everything was called off only where this is so and nothing was sent.
  To note what it yielded is left to whoever wanted it.

  Main results: `meets_probe`, `leaves_aside`.
-/
import Federation.Introspection.Probe
import Federation.Proofs.Session

namespace Federation.Introspection

open Call (classify)

/-- What a probe comes to: the requests it sent, and its outcome. -/
structure ProbeCourse (p : ProbePolicy) (e : Endpoint) (s : Session) (own : List Request)
    (o : ProbeOutcome) : Prop where
  sent : own = [] ∨ own = [probeRequest p e]
  calledOff : isAborted o = true → own = [] ∧ s.aborted = true

theorem meets_fromStore (w : World) (p : ProbePolicy) (url : String) (s : Session) :
    (fromStore w p url).Meets Session.conduct s fun _ own _ => own = [] := by
  simp only [fromStore, Errand.bind_eq, Errand.liftM_eq]
  refine Errand.meets_alike (fun _ => ⟨rfl, rfl, rfl⟩) fun t _ => ?_
  cases (Action.consult (·.get? url) t).1 with
  | none => exact fun _ _ => rfl
  | some found =>
      refine Errand.meets_alike (fun _ => ⟨rfl, rfl, rfl⟩) fun u _ => ?_
      exact fun _ _ => rfl

theorem alike_noteError (w : World) (e : Endpoint) (message : String) (s : Session) :
    s.Alike (noteError w e message s).2 := ⟨rfl, rfl, rfl⟩

/-- Whatever is made of a reply, nothing more is sent. -/
theorem meets_settleReply (w : World) (e : Endpoint) (reply : Json) (s : Session) :
    (settleReply w e reply).Meets Session.conduct s fun _ own o =>
      own = [] ∧ isAborted o = false := by
  simp only [settleReply, Errand.bind_eq, Errand.liftM_eq]
  refine Errand.meets_alike (fun _ => ⟨rfl, rfl, rfl⟩) fun t _ => ?_
  cases ofReply reply (Action.now w t).1 with
  | error fault =>
      refine Errand.meets_alike (alike_noteError w e fault.message) fun u _ => ?_
      exact fun _ _ => ⟨rfl, rfl⟩
  | ok found =>
      refine Errand.meets_alike (fun _ => ⟨rfl, rfl, rfl⟩) fun u _ => ?_
      exact fun _ _ => ⟨rfl, rfl⟩

theorem meets_probeLive (w : World) (p : ProbePolicy) (e : Endpoint) (s : Session) :
    (probeLive w p e).Meets Session.conduct s (ProbeCourse p e) := by
  simp only [probeLive, Errand.bind_eq, Errand.liftM_eq]
  refine Errand.meets_stopped (fun t _ hstop => ?_) (fun t _ => ?_)
  · exact fun u hu => ⟨.inl rfl, fun _ => ⟨rfl, hu.aborted hstop⟩⟩
  · refine (Errand.meets_send w (probeRequest p e) t).bind fun u own reply _ hsent => ?_
    obtain ⟨rfl, -⟩ := hsent
    cases reply with
    | error raw =>
        refine Errand.meets_alike (alike_noteError w e _) fun v _ => ?_
        exact fun _ _ => ⟨.inr rfl, fun h => by cases h⟩
    | ok reply =>
        refine (meets_settleReply w e reply u).imp fun v own o _ ho => ?_
        obtain ⟨rfl, ho⟩ := ho
        exact ⟨.inr rfl, fun h => by rw [ho] at h; cases h⟩

/-- **What one probe does.** -/
theorem meets_probe (w : World) (p : ProbePolicy) (force : Bool) (e : Endpoint) (s : Session) :
    (probe w p force e).Meets Session.conduct s (ProbeCourse p e) := by
  unfold probe
  by_cases hcache : (!force && p.useCache) = true
  · simp only [hcache, if_true, Errand.bind_eq]
    refine (meets_fromStore w p e.url s).bind fun t own found _ hown => ?_
    subst hown
    cases found with
    | some probed => exact fun _ _ => ⟨.inl rfl, fun h => by cases h⟩
    | none => exact meets_probeLive w p e t
  · simp only [hcache, Bool.false_eq_true, if_false]
    exact meets_probeLive w p e s

/-! ## What a probe leaves alone. -/

/-- What a probe of an aggregate has nothing to do with. -/
structure Aside where
  memo : List (String × ProbeOutcome)
  credentialEvents : List CredentialEvent
  listings : Nat
  rounds : Nat
  /-- What is on record of the other URLs. -/
  others : String → Option Record

/-- What of a session a probe of the aggregate at a URL has nothing to do with. -/
def aside (url : String) (s : Session) : Aside :=
  ⟨s.memo, s.credentialEvents, s.listings, s.rounds,
    fun other => if url = other then none else s.store.records.get? other⟩

/-- A change of one record leaves the others alone. -/
theorem aside_changeStore (w : World) {url : String} {change : Store → Bool → Store}
    (h : ∀ store written other, url ≠ other →
      (change store written).records.get? other = store.records.get? other) (s : Session) :
    aside url (Action.changeStore w change s).2 = aside url s := by
  have hothers : (aside url (Action.changeStore w change s).2).others = (aside url s).others := by
    funext other
    by_cases hother : url = other
    · exact (if_pos hother).trans (if_pos hother).symm
    · exact (if_neg hother).trans ((h s.store _ other hother).trans (if_neg hother).symm)
  exact congrArg (Aside.mk s.memo s.credentialEvents s.listings s.rounds) hothers

theorem aside_noteError (w : World) (e : Endpoint) (message : String) (s : Session) :
    aside e.url (noteError w e message s).2 = aside e.url s :=
  aside_changeStore w (fun store written _ => store.records_markError_ne e message written) s

theorem leaves_fromStore (w : World) (p : ProbePolicy) (url : String) :
    (fromStore w p url).Leaves (aside url) := by
  simp only [fromStore, Errand.bind_eq, Errand.liftM_eq]
  refine (Errand.leaves_act fun _ => rfl).bind fun found => ?_
  cases found with
  | none => exact trivial
  | some found => exact (Errand.leaves_act fun _ => rfl).bind fun _ => trivial

theorem leaves_settleReply (w : World) (e : Endpoint) (reply : Json) :
    (settleReply w e reply).Leaves (aside e.url) := by
  simp only [settleReply, Errand.bind_eq, Errand.liftM_eq]
  refine (Errand.leaves_act fun _ => rfl).bind fun now => ?_
  cases ofReply reply now with
  | error fault => exact (Errand.leaves_act (aside_noteError w e _)).bind fun _ => trivial
  | ok found =>
      refine (Errand.leaves_act ?_).bind fun _ => trivial
      exact aside_changeStore w fun store written _ => store.records_put_ne e _ _ written

theorem leaves_probeLive (w : World) (p : ProbePolicy) (e : Endpoint) :
    (probeLive w p e).Leaves (aside e.url) := by
  simp only [probeLive, Errand.bind_eq, Errand.liftM_eq]
  refine (Errand.leaves_act fun _ => rfl).bind fun stopped => ?_
  cases stopped with
  | true => exact trivial
  | false =>
      have hsend : (send w (probeRequest p e)).Leaves (aside e.url) :=
        (Errand.leaves_act fun _ => rfl).bind fun _ => Errand.leaves_act fun _ => rfl
      refine hsend.bind fun reply => ?_
      cases reply with
      | error raw => exact (Errand.leaves_act (aside_noteError w e _)).bind fun _ => trivial
      | ok reply => exact leaves_settleReply w e reply

/-- **A probe leaves alone what it has nothing to do with**: what is on record of the other
URLs, what earlier probes yielded, and all that is asked of anybody but the aggregate. -/
theorem leaves_aside (w : World) (p : ProbePolicy) (force : Bool) (e : Endpoint) :
    (probe w p force e).Leaves (aside e.url) := by
  unfold probe
  by_cases hcache : (!force && p.useCache) = true
  · rw [if_pos hcache, Errand.bind_eq]
    refine (leaves_fromStore w p e.url).bind fun found => ?_
    cases found with
    | some probed => exact trivial
    | none => exact leaves_probeLive w p e
  · rw [if_neg hcache]
    exact leaves_probeLive w p e

/-- **A probe leaves the memo to whoever wanted it.** -/
theorem leaves_probe (w : World) (p : ProbePolicy) (force : Bool) (e : Endpoint) :
    (probe w p force e).Leaves Session.memo :=
  (leaves_aside w p force e).map Aside.memo

end Federation.Introspection
