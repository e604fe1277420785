/-
  Federation.Proofs.Version.Reconciliation
  ────────────────────────────────────────
  **A FLEET IS ASKED ONCE.**

  A fleet is probed by several workers at a time.  Where its URLs are all
  different, each worker has URLs of its own to ask and to note down, so
  nothing is asked twice and all that the probes yield is recalled, as if
  the fleet were probed in order.  Two workers on one URL may both ask, and
  the later answer counts from then on; so a fleet is orderly (`Orderly`)
  where it is probed in order or its URLs are all different.

  Whoever was heard of is not asked again, whatever the schedule.

  Main results:
    * `teaches_reconcileFleet` — what an orderly fleet learns and decides;
    * `reconcileFleet_again` — deciding once more sends nothing.
-/
import Federation.Proofs.Version.Fleet
import Federation.Proofs.Version.Recall

namespace Federation.Version

open Introspection (ProbeOutcome isAborted probeMethod)

/-! ## §1. A fleet that is probed. -/

/-- Whether a fleet is probed in order, or all its URLs are different. -/
def Orderly (workers : Nat) (endpoints : List Endpoint) : Prop :=
  workers ≤ 1 ∨ endpoints.Pairwise fun a b => a.url ≠ b.url

/-- Where each item has a share of one at most, under its own key, no key
comes up more often than among the items. -/
theorem sublist_of_shares {α β ρ κ : Type} {f : α → κ} {key : ρ → κ} {items : List α}
    {parts : List (List ρ × β)}
    (h : List.Forall₂ (fun a part => (part.1.map key).Sublist [f a]) items parts) :
    ((parts.flatMap Prod.fst).map key).Sublist (items.map f) := by
  induction h with
  | nil => exact List.Sublist.refl _
  | cons hshare _ ih =>
      rw [List.flatMap_cons, List.map_append, List.map_cons]
      exact hshare.append ih

theorem ProbedOnce.earlier {p : Introspection.ProbePolicy} {e : Endpoint} {s t u : Session}
    {own : List Request} {o : ProbeOutcome} (h : ProbedOnce p e t u own o) (hst : s.Becomes t) :
    ProbedOnce p e s u own o where
  sent := h.sent
  asked := by
    refine ⟨h.asked.probes, h.asked.once, fun r hr => ?_⟩
    obtain ⟨hbefore, hafter⟩ := h.asked.news r hr
    exact ⟨fun hs => hbefore (hs.later hst), hafter⟩
  known := h.known
  heard := fun hs => h.heard (hst.telling hs)

section

variable (Planned : Request → Prop) (w : World) (t : Terms) {workers : Nat}
  {endpoints : List Endpoint}

/-- The fleet in order. -/
theorem teaches_inOrder (hfew : workers ≤ 1) (s : Session) :
    Teaches Planned (Action.forEach w workers (probeOnce w t) endpoints) s fun u outcomes =>
      List.Forall₂ (fun e o => Recalls u e.url o) endpoints outcomes := by
  have hrun : Action.forEach w workers (probeOnce w t) endpoints s
      = (endpoints.mapM fun e => (probeOnce w t e).alone) { s with rounds := s.rounds + 1 } := by
    show perform workers (w.schedule s.rounds) (probeOnce w t) endpoints _ = _
    rw [perform_of_alone (probeOnce w t) endpoints _ (.inl hfew)]
  have hround : Learns Planned s { s with rounds := s.rounds + 1 } := learns_of_quiet rfl rfl
  have hall : Teaches Planned (endpoints.mapM fun e => (probeOnce w t e).alone)
      { s with rounds := s.rounds + 1 } fun u outcomes =>
        List.Forall₂ (fun e o => Recalls u e.url o) endpoints outcomes :=
    teaches_mapM (fun e _ u v o hlearns ho => ho.later hlearns)
      (fun e _ u => teaches_probeOnce Planned w t e u)
  unfold Teaches
  rw [hrun]
  exact ⟨hround.trans hall.1, hall.2⟩

/-- What several workers note down where all URLs are different. -/
theorem notes_of_apart (hapart : endpoints.Pairwise fun a b => a.url ≠ b.url) (s : Session) :
    ∃ notes, Notes s (Action.forEach w workers (probeOnce w t) endpoints s).2 notes ∧
      List.Forall₂ (fun e o =>
        Recalls (Action.forEach w workers (probeOnce w t) endpoints s).2 e.url o)
        endpoints (Action.forEach w workers (probeOnce w t) endpoints s).1 := by
  obtain ⟨-, parts, hresults, hparts, more, hlog, hperm⟩ :=
    forEach_fulfils_of (c := memoConduct) (s := s) w workers (probeOnce w t) endpoints
      ⟨List.suffix_rfl, rfl⟩ fun e _ u hu => meets_probeOnce_noted w t e hu
  generalize Action.forEach w workers (probeOnce w t) endpoints s = after at *
  -- However the workers' notes mix in the memo, no URL is noted twice.
  have hmem : ∀ note, note ∈ more ↔ note ∈ parts.flatMap Prod.fst := fun _ => hperm.mem_iff
  have hkeys : ((parts.flatMap Prod.fst).map Prod.fst).Nodup := by
    refine (sublist_of_shares (hparts.imp fun _ _ h => h.sublist)).nodup ?_
    exact List.pairwise_map.2 hapart
  have notes : Notes s after.2 more.reverse := by
    refine notes_of_log hlog ((hperm.map Prod.fst).nodup_iff.2 hkeys) fun note hnote => ?_
    obtain ⟨part, hpart, hnote⟩ := List.mem_flatMap.1 ((hmem note).1 hnote)
    obtain ⟨e, -, hnoted⟩ := exists_left_of_mem hparts hpart
    exact hnoted.unknown note hnote
  refine ⟨more.reverse, notes, ?_⟩
  rw [hresults, List.forall₂_map_right_iff]
  have hown : ∀ part ∈ parts, ∀ note ∈ part.1, note ∈ more.reverse := by
    intro part hpart note hnote
    rw [List.mem_reverse, hmem]
    exact List.mem_flatMap.2 ⟨part, hpart, hnote⟩
  have hboth := ((List.forall₂_and_left parts endpoints).2 ⟨hown, hparts.flip⟩).flip
  exact hboth.imp fun e part h => notes.recalls h.2 h.1

/-- What several workers ask where all URLs are different. -/
theorem asked_of_apart (hapart : endpoints.Pairwise fun a b => a.url ≠ b.url) (s : Session) :
    ∃ asked, (Action.forEach w workers (probeOnce w t) endpoints s).2.requests
        = s.requests ++ asked ∧
      Asked s (Action.forEach w workers (probeOnce w t) endpoints s).2 asked := by
  obtain ⟨-, parts, -, hparts, asked, hlog, hperm⟩ :=
    forEach_fulfils (s := s) w workers (probeOnce w t) endpoints fun e _ u hu =>
      (meets_probeOnce_fully w t e u).imp fun _ _ _ _ h => h.earlier hu
  generalize Action.forEach w workers (probeOnce w t) endpoints s = after at *
  -- Each worker asks the URL of its own item at most.
  have hurls : ((parts.flatMap Prod.fst).map (·.url)).Nodup := by
    refine (sublist_of_shares (hparts.imp fun e part h => ?_)).nodup (List.pairwise_map.2 hapart)
    exact h.sent.map Request.url
  have hnews : ∀ r ∈ asked, r.method = probeMethod ∧ ¬Knows s r.url ∧ Knows after.2 r.url := by
    intro r hr
    obtain ⟨part, hpart, hr⟩ := List.mem_flatMap.1 (hperm.mem_iff.1 hr)
    obtain ⟨e, -, hprobed⟩ := exists_left_of_mem hparts hpart
    exact ⟨hprobed.asked.probes r hr, hprobed.asked.news r hr⟩
  refine ⟨asked, hlog, fun r hr => (hnews r hr).1, ?_, fun r hr => (hnews r hr).2⟩
  exact (hperm.map (·.url)).nodup_iff.2 hurls

/-- **To probe a fleet learns**, and all that it yields is recalled. -/
theorem teaches_probes (orderly : Orderly workers endpoints) (s : Session) :
    Teaches Planned (Action.forEach w workers (probeOnce w t) endpoints) s fun u outcomes =>
      List.Forall₂ (fun e o => Recalls u e.url o) endpoints outcomes := by
  rcases orderly with hfew | hapart
  · exact teaches_inOrder Planned w t hfew s
  · obtain ⟨notes, hnotes, hrecalls⟩ := notes_of_apart w t hapart s
    obtain ⟨asked, hsent, hasked⟩ := asked_of_apart w t hapart s
    exact ⟨learns_asked hnotes.keeps hsent hasked, hrecalls⟩

end

theorem decideFrom_calledOff {mode : Mode} {desired : Nat} {explicit : Bool} {probes : Probes}
    (h : (probes.any fun (_, o) => isAborted o) = true) :
    decideFrom mode desired explicit probes = .error .aborted := if_pos h

/-- **What a fleet decides follows from what is known**, unless it was called
off. -/
theorem decideFrom_recalled {mode : Mode} {desired : Nat} {explicit : Bool} {P : Soundings}
    {endpoints : List Endpoint} {outcomes : List ProbeOutcome}
    (h : List.Forall₂ (fun e o => isAborted o = true ∨ o = P e.url) endpoints outcomes) :
    decideFrom mode desired explicit (endpoints.zip outcomes) = .error .aborted ∨
      decideFrom mode desired explicit (endpoints.zip outcomes)
        = decideFrom mode desired explicit (endpoints.map fun e => (e, P e.url)) := by
  by_cases hany : ((endpoints.zip outcomes).any fun (_, o) => isAborted o) = true
  · exact .inl (decideFrom_calledOff hany)
  · right
    congr 1
    -- None of the outcomes was called off, so each is the one that is known.
    induction h with
    | nil => rfl
    | @cons e o endpoints outcomes ho _ ih =>
        rw [List.zip_cons_cons, List.any_cons, Bool.or_eq_true, not_or] at hany
        have hfirst : o = P e.url := ho.resolve_left hany.1
        rw [List.zip_cons_cons, List.map_cons, ih hany.2, hfirst]

section

variable (Planned : Request → Prop) (w : World) (t : Terms) {endpoints : List Endpoint}
  (desired : Nat) (explicit : Bool) {workers : Nat}

/-- **Deciding for a fleet learns**, and the decision follows from what is
known. -/
theorem teaches_reconcileFleet (orderly : Orderly workers endpoints) (s : Session) :
    Teaches Planned (reconcileFleet w t endpoints desired explicit workers) s fun u r =>
      ∀ P, Covers P u → r = .error .aborted ∨
        r = decideFrom t.mode desired explicit (endpoints.map fun e => (e, P e.url)) := by
  obtain ⟨hlearns, hrecalls⟩ := teaches_probes Planned w t orderly s
  refine ⟨hlearns, fun P covers => ?_⟩
  exact decideFrom_recalled (hrecalls.imp fun e o ho => covers.recalled ho)

end

/-! ## §2. Deciding once more. -/

/-- What matters where everything is known: nothing is noted or sent. -/
def stillConduct : Conduct Session Request where
  log := Session.requests
  allows s t := t.memo = s.memo ∧ t.requests = s.requests
  refl _ := ⟨rfl, rfl⟩
  trans h k := ⟨k.1.trans h.1, k.2.trans h.2⟩

section

variable (w : World) (t : Terms) {endpoints : List Endpoint} (desired : Nat) (explicit : Bool)
  (workers : Nat)

theorem meets_probeOnce_known {e : Endpoint} {s u : Session} (h : Knows s e.url)
    (hsu : stillConduct.allows s u) :
    (probeOnce w t e).Meets stillConduct u fun _ _ o => o = heardIn s e.url := by
  obtain ⟨o, ho⟩ := Option.ne_none_iff_exists'.1 h
  simp only [probeOnce, Errand.bind_eq, Errand.liftM_eq]
  refine Errand.meets_look fun v hv => ?_
  have hknown : Keyed.get? v.memo e.url = some o := by
    rw [hv.1, hsu.1]
    exact ho
  rw [hknown]
  intro x _
  show o = heardIn s e.url
  exact (covers_heardIn s _ _ ho).symm

/-- **Where everything is known nothing is sent**, whatever the schedule. -/
theorem reconcileFleet_of_known {s : Session} (h : ∀ e ∈ endpoints, Knows s e.url) :
    (reconcileFleet w t endpoints desired explicit workers s).2.requests = s.requests ∧
      (reconcileFleet w t endpoints desired explicit workers s).1
        = decideFrom t.mode desired explicit (endpoints.map fun e => (e, heardIn s e.url)) := by
  obtain ⟨⟨-, hrequests⟩, parts, hresults, hparts, -⟩ :=
    forEach_fulfils_of (c := stillConduct) (s := s) w workers (probeOnce w t) endpoints
      ⟨⟨rfl, rfl⟩, rfl⟩ fun e he u hu => meets_probeOnce_known w t (h e he) hu
  refine ⟨hrequests, ?_⟩
  have houtcomes : parts.map Prod.snd = endpoints.map fun e => heardIn s e.url := by
    have hequal : List.Forall₂ Eq (parts.map Prod.snd) (endpoints.map fun e => heardIn s e.url) :=
      List.forall₂_map_left_iff.2 (List.forall₂_map_right_iff.2 hparts.flip)
    rw [List.forall₂_eq_eq_eq] at hequal
    exact hequal
  show decideFrom t.mode desired explicit
    (endpoints.zip (Action.forEach w workers (probeOnce w t) endpoints s).1) = _
  rw [hresults, houtcomes, List.map_prod_left_eq_zip]

/-- Whoever was probed is known, unless it was called off. -/
theorem knows_of_probes (endpoints : List Endpoint) (workers : Nat) (s : Session) :
    List.Forall₂ (fun e o => isAborted o = false →
      Knows (Action.forEach w workers (probeOnce w t) endpoints s).2 e.url) endpoints
      (Action.forEach w workers (probeOnce w t) endpoints s).1 := by
  obtain ⟨-, parts, hresults, hparts, -⟩ :=
    forEach_fulfils (s := s) w workers (probeOnce w t) endpoints fun e _ u _ =>
      (meets_probeOnce_fully w t e u).imp fun _ _ _ _ h => h.known
  rw [hresults, List.forall₂_map_right_iff]
  exact hparts

/-- Where none of a fleet was called off, all its URLs are known. -/
theorem knows_of_settled {workers : Nat} {s : Session}
    (h : ∀ o ∈ (Action.forEach w workers (probeOnce w t) endpoints s).1, isAborted o = false) :
    ∀ e ∈ endpoints, Knows (Action.forEach w workers (probeOnce w t) endpoints s).2 e.url := by
  intro e he
  obtain ⟨o, -, hsettled, hknown⟩ := exists_left_of_mem ((List.forall₂_and_left _ _).2
    ⟨h, (knows_of_probes w t endpoints workers s).flip⟩) he
  exact hknown hsettled

/-- Where a fleet was not called off, all its URLs are known. -/
theorem knows_of_reconcileFleet {s : Session} {workers : Nat}
    (h : (reconcileFleet w t endpoints desired explicit workers s).1 ≠ .error .aborted) :
    ∀ e ∈ endpoints, Knows (reconcileFleet w t endpoints desired explicit workers s).2 e.url := by
  refine knows_of_settled w t fun o ho => ?_
  -- One probe that was called off would have spoilt the decision.
  have hlength := (knows_of_probes w t endpoints workers s).length_eq
  rw [← List.map_snd_zip hlength.ge] at ho
  obtain ⟨⟨e, o⟩, hmem, rfl⟩ := List.mem_map.1 ho
  by_cases hcut : isAborted o = true
  · exact absurd (decideFrom_calledOff (List.any_eq_true.2 ⟨(e, o), hmem, hcut⟩)) h
  · simpa using hcut

/-- **To decide once more sends nothing**, unless it was called off, and comes
to the same where the fleet is orderly.  It does not matter what was learnt in
between. -/
theorem reconcileFleet_again {s u : Session} {workers : Nat} (more : Nat)
    (h : (reconcileFleet w t endpoints desired explicit workers s).1 ≠ .error .aborted)
    (later : Keeps (reconcileFleet w t endpoints desired explicit workers s).2 u) :
    (reconcileFleet w t endpoints desired explicit more u).2.requests = u.requests ∧
      (Orderly workers endpoints →
        (reconcileFleet w t endpoints desired explicit more u).1
          = (reconcileFleet w t endpoints desired explicit workers s).1) := by
  have hknown : ∀ e ∈ endpoints, Knows u e.url := fun e he =>
    later.knows (knows_of_reconcileFleet w t desired explicit h e he)
  obtain ⟨hquiet, hsame⟩ := reconcileFleet_of_known w t desired explicit more hknown
  refine ⟨hquiet, fun orderly => ?_⟩
  -- Both decisions are told by what is known at the later time.
  obtain ⟨-, told⟩ := teaches_reconcileFleet (fun _ => True) w t desired explicit orderly s
  rw [hsame]
  exact ((told _ ((covers_heardIn u).earlier later)).resolve_left h).symm

end

end Federation.Version
