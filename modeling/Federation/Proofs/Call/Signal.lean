/-
  Federation.Proofs.Call.Signal
  ─────────────────────────────
  **WHERE A VISIT MAY BE CUT SHORT.**

  The signal to stop is looked for before a visit, before a probe and before
  the call.  Wherever it is found, the result says so: the probe yields that
  it was called off, negotiation passes this on whatever the mode, and the
  visit ends as skipped.  It is never taken for a version that is not spoken,
  nor for an aggregate that does not answer.

  Main results:
    * `abreast_probeOnce` — a probe is whole or tells that it was called off;
    * `abreast_resolve` — so is negotiation;
    * `abreast_visit` — so is a visit.
-/
import Federation.Call.Round
import Federation.Proofs.Signal
import Federation.Proofs.Version.Soundings

namespace Federation

open Call (Itinerary Prepared Response Visit)
open Introspection (Probed ProbeOutcome ProbePolicy isAborted)
open Version (Agreed Resolution Soundings Terms)

variable {w : World} {s : Session}

/-! ## §1. Probes. -/

namespace Introspection

theorem abreast_fromStore (w : World) (p : ProbePolicy) (url : String) (s : Session) :
    Abreast w (fun _ => False) (fromStore w p url) (fromStore w.calm p url) s := by
  simp only [fromStore, Errand.bind_eq, Errand.liftM_eq]
  refine abreast_quiet (fun _ => rfl) (fun _ => rfl) (fun _ => rfl) fun found t => ?_
  cases found with
  | none => exact abreast_done _
  | some found =>
      exact abreast_quiet (fun _ => rfl) (fun _ => rfl) (fun _ => rfl) fun now u => abreast_done _

theorem abreast_settleReply {cut : ProbeOutcome → Prop} (w : World) (e : Endpoint) (reply : Json)
    (s : Session) : Abreast w cut (settleReply w e reply) (settleReply w.calm e reply) s := by
  simp only [settleReply, Errand.bind_eq, Errand.liftM_eq]
  refine abreast_quiet (fun _ => rfl) (fun _ => rfl) (fun _ => rfl) fun now t => ?_
  cases ofReply reply now with
  | error fault =>
      exact abreast_quiet (fun _ => rfl) (fun _ => rfl) (fun _ => rfl) fun _ u => abreast_done _
  | ok found =>
      exact abreast_quiet (fun _ => rfl) (fun _ => rfl) (fun _ => rfl) fun _ u => abreast_done _

theorem abreast_probeLive (w : World) (p : ProbePolicy) (e : Endpoint) (s : Session) :
    Abreast w (isAborted · = true) (probeLive w p e) (probeLive w.calm p e) s := by
  simp only [probeLive, Errand.bind_eq, Errand.liftM_eq]
  refine abreast_stopped rfl rfl fun t hgo => ?_
  refine (abreast_send (probeRequest p e) hgo).bind
    (fun reply u => ?_) (fun _ _ h => h.elim)
  cases reply with
  | error raw =>
      exact abreast_quiet (fun _ => rfl) (fun _ => rfl) (fun _ => rfl) fun _ v => abreast_done _
  | ok reply => exact abreast_settleReply w e reply u

theorem abreast_probe (w : World) (p : ProbePolicy) (force : Bool) (e : Endpoint) (s : Session) :
    Abreast w (isAborted · = true) (probe w p force e) (probe w.calm p force e) s := by
  unfold probe
  by_cases hcache : (!force && p.useCache) = true
  · rw [if_pos hcache, if_pos hcache, Errand.bind_eq, Errand.bind_eq]
    refine (abreast_fromStore w p e.url s).bind (fun found t => ?_) (fun _ _ h => h.elim)
    cases found with
    | some probed => exact abreast_done _
    | none => exact abreast_probeLive w p e t
  · rw [if_neg hcache, if_neg hcache]
    exact abreast_probeLive w p e s

end Introspection

/-! ## §2. Negotiation. -/

namespace Version

/-- **A probe is whole or tells that it was called off.** -/
theorem abreast_probeOnce (w : World) (t : Terms) (e : Endpoint) (s : Session) :
    Abreast w (isAborted · = true) (probeOnce w t e) (probeOnce w.calm t e) s := by
  simp only [probeOnce, Errand.bind_eq, Errand.liftM_eq]
  refine abreast_quiet (fun _ => rfl) (fun _ => rfl) (fun _ => rfl) fun known u => ?_
  cases known with
  | some o => exact abreast_done _
  | none =>
      refine (Introspection.abreast_probe w t.probing t.forceRefresh e u).bind
        (fun o v => ?_) (fun o v ho => ?_)
      · by_cases hkeep : (!isAborted o) = true
        · simp only [hkeep, if_true]
          exact abreast_quiet (fun _ => rfl) (fun _ => rfl) (fun _ => rfl) fun _ x =>
            abreast_done _
        · simp only [hkeep]
          exact abreast_done _
      · -- Nothing is remembered of a probe that was called off.
        simp only [ho]
        exact ho

/-- Soundings that tell of the signal. -/
def CutShort (t : Terms) (desired : Nat) (e : Endpoint) (P : Soundings) : Prop :=
  judge t.mode desired e P = .skip .aborted

theorem isAborted_iff {o : ProbeOutcome} : isAborted o = true ↔ o = .error .aborted := by
  cases o with
  | ok p => simp [isAborted]
  | error fault => cases fault <;> simp [isAborted]

theorem cutShort_own {t : Terms} {desired : Nat} {e : Endpoint} {P : Soundings}
    (h : P e.url = .error .aborted) : CutShort t desired e P := by
  unfold CutShort judge
  rw [h]
  rfl

/-- A detour that was called off is no detour that fails. -/
theorem cutShort_there {t : Terms} {desired : Nat} {e : Endpoint} {own : ProbeOutcome}
    {url : String} (hdetour : detour? e desired own = some url) :
    CutShort t desired e (sounded e.url own (.error .aborted)) := by
  have hother := detour?_ne hdetour
  cases own with
  | error fault => cases hdetour
  | ok p =>
      by_cases hspeaks : speaksAtOwnUrl e desired p = true
      · rw [detour?, if_pos hspeaks] at hdetour
        cases hdetour
      · rw [detour?_of_silent hspeaks] at hdetour
        unfold CutShort
        rw [judge_of_some (sounded_home _ _ _) hspeaks t.mode hdetour, sounded_of_ne _ _ hother]
        rfl

theorem abreast_sound (w : World) (t : Terms) (desired : Nat) (e : Endpoint) (s : Session) :
    Abreast w (CutShort t desired e) (sound w t desired e) (sound w.calm t desired e) s := by
  unfold sound
  refine (abreast_probeOnce w t e s).bind (fun own u => ?_) (fun own u hown => ?_)
  · cases hdetour : detour? e desired own with
    | none => exact abreast_done _
    | some url =>
        refine (abreast_probeOnce w t (e.moved url desired) u).bind
          (fun there v => abreast_done _) (fun there v hthere => ?_)
        obtain rfl := isAborted_iff.1 hthere
        exact cutShort_there hdetour
  · obtain rfl := isAborted_iff.1 hown
    exact cutShort_own rfl

/-- **Negotiation is whole or tells that it was called off**, in either
mode. -/
theorem abreast_resolve (w : World) (t : Terms) (desired : Nat) (e : Endpoint) (s : Session) :
    Abreast w (· = .skip .aborted) (resolve w t desired e) (resolve w.calm t desired e) s := by
  rw [resolve_eq_judge, resolve_eq_judge]
  exact (abreast_sound w t desired e s).bind (fun _ _ => abreast_done _) (fun _ _ hcut => hcut)

end Version

/-! ## §3. Visits. -/

namespace Call

/-- An outcome that tells of the signal. -/
def IsCutShort (outcome : Except Halt Visit) : Prop :=
  ∃ v, outcome = .ok v ∧ v.response = .skipped .aborted

theorem abreast_invoke (w : World) (timeout : Nat) (e : Endpoint) (p : Prepared) (s : Session) :
    Abreast w (· = .skipped .aborted) (invoke w timeout e p) (invoke w.calm timeout e p) s := by
  simp only [invoke, Errand.bind_eq, Errand.liftM_eq]
  refine abreast_stopped rfl rfl fun t hgo => ?_
  refine (abreast_send _ hgo).bind (fun reply u => ?_)
    (fun _ _ h => h.elim)
  cases reply <;> exact abreast_done _

theorem abreast_carryOut (w : World) (i : Itinerary) (slot : Endpoint) (a : Agreed)
    (redirected : Bool) (s : Session) :
    Abreast w IsCutShort (carryOut w i slot a redirected) (carryOut w.calm i slot a redirected)
      s := by
  unfold carryOut
  cases i.planner.plan a with
  | error halt => exact abreast_done _
  | ok plan =>
      cases plan with
      | unavailable reason => exact abreast_done _
      | call p warnings =>
          refine (abreast_invoke w i.timeout a.endpoint p s).bind (fun _ _ => abreast_done _)
            (fun response u hresponse => ?_)
          exact ⟨_, rfl, hresponse⟩

/-- **A visit is whole or tells that it was cut short.** -/
theorem abreast_visit (w : World) (i : Itinerary) (slot : Endpoint) (s : Session) :
    Abreast w IsCutShort (visit w i slot) (visit w.calm i slot) s := by
  simp only [visit, Errand.bind_eq, Errand.liftM_eq]
  refine abreast_stopped (b := .ok (skippedVisit slot .aborted)) rfl ⟨_, rfl, rfl⟩ fun t _ => ?_
  rw [if_neg Bool.false_ne_true, if_neg Bool.false_ne_true]
  by_cases hanswers : i.planner.answersFromProbe = true
  · rw [if_pos hanswers, if_pos hanswers]
    refine (Version.abreast_probeOnce w i.terms slot t).bind (fun _ _ => abreast_done _)
      (fun o u ho => ?_)
    obtain rfl := Version.isAborted_iff.1 ho
    exact ⟨_, rfl, rfl⟩
  · rw [if_neg hanswers, if_neg hanswers]
    refine (Version.abreast_resolve w i.terms i.desired slot t).bind (fun r u => ?_)
      (fun r u hr => ?_)
    · cases r with
      | skip reason => exact abreast_done _
      | use a => exact abreast_carryOut w i slot a false u
      | redirect a => exact abreast_carryOut w i slot a true u
    · subst hr
      exact ⟨_, rfl, rfl⟩

end Call

end Federation
