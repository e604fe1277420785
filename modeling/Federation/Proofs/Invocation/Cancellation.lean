/-
  Federation.Proofs.Invocation.Cancellation
  ─────────────────────────────────────────
  **THE SIGNAL TO STOP IN AN INVOCATION.**

  With a single worker, nothing is sent once the signal has come.  What was
  finished by then is as it would have been without the signal, and so is the
  report of it, if that run returns; whoever was not turned to yet is reported
  as skipped for it.  An aggregate that was being visited is told of in one of
  these two ways.  Where the fleet could not be heard out, or the lone aggregate
  was not called, there is no report, and the reason is the signal.

  Main result: `run_cancelled`.
-/
import Federation.Proofs.Call.Signal
import Federation.Proofs.Invocation.Causes

namespace Federation

open Answer (EndpointOutcome Report)
open Call (IsCutShort Visit settleLone settleVisits skippedVisit)
open Introspection (ProbeOutcome isAborted)

namespace Engine

variable {w : World} {g : Engine} {i : Invocation} {s : Session} {endpoints : List Endpoint}
  {credentials : List Credential}

/-! ## §1. Nothing is sent after the signal. -/

/-- Errands for all items, by a single worker. -/
theorem obeys_forEach {α β : Type} {cut : β → Prop} {task calm : α → Errand Session β}
    (sequential : g.settings.workerLimit ≤ 1) (h : ∀ a t, Abreast w cut (task a) (calm a) t)
    (items : List α) (s : Session) :
    Obeys w s (Action.forEach w g.settings.workerLimit task items s).2 := by
  rw [forEach_of_alone w sequential]
  have hround : Obeys w s { s with rounds := s.rounds + 1 } := obeys_nil rfl id
  exact hround.trans (obeys_each h items _)

/-- Errands that may end on a fatal result are errands for some items. -/
theorem obeys_forEachUntil {α β : Type} {cut : β → Prop} {task calm : α → Errand Session β}
    (sequential : g.settings.workerLimit ≤ 1) (h : ∀ a t, Abreast w cut (task a) (calm a) t)
    (fatal : β → Bool) (items : List α) (s : Session) :
    Obeys w s (Action.forEachUntil w g.settings.workerLimit fatal task items s).2 := by
  obtain ⟨seen, -, hrun, -⟩ := forEachUntil_eq w g.settings.workerLimit fatal task items s
  rw [hrun]
  exact obeys_forEach sequential h seen s

/-- **An undertaking heeds the signal.** -/
theorem obeys_undertake (sequential : g.settings.workerLimit ≤ 1) (endpoints : List Endpoint)
    (credentials : List Credential) (s : Session) :
    (undertake w g i endpoints credentials).Ends s fun _ t => Obeys w s t := by
  unfold undertake
  have hagree : (agree w g i endpoints).Ends s fun _ t => Obeys w s t := by
    show Obeys w s (adopt w g i endpoints s).2
    by_cases votes : Votes i endpoints
    · rw [adopt_of_votes w g votes]
      exact obeys_forEach sequential (Version.abreast_probeOnce w g.settings.terms) endpoints s
    · rw [adopt_of_not_votes w g votes]
      exact obeys_refl w s
  refine hagree.bind (fun adopted t ht => ?_) (fun fault t ht => ht)
  refine Attempt.ends_outcome (fun _ _ => ?_) (fun _ _ => ht)
  have hround := ht.trans (obeys_forEachUntil sequential
    (Call.abreast_visit w (g.itinerary i credentials adopted.1)) isCrash endpoints t)
  refine Attempt.ends_action (fun visits _ => ?_) (fun _ _ => hround)
  have halike := (interpret_all w g.settings.mode adopted.1 visits
    (Call.makeRound w (g.itinerary i credentials adopted.1) endpoints
      g.settings.workerLimit t).2).2
  exact Attempt.ends_always (Attempt.ends_pure
    (hround.trans (obeys_nil halike.requests fun hs => halike.aborted.trans hs)))

/-- **An invocation heeds the signal**, and one that was called off before it
began sends nothing. -/
theorem heeds_run (sequential : g.settings.workerLimit ≤ 1) (i : Invocation) (s : Session) :
    ∃ sent, Heeds w s (ExceptT.run (run w g i) s).2 sent ∧
      ((Action.stopped w s).1 = true → sent = []) := by
  have hlook : s.aborted = true → (Action.stopped w s).1 = true := fun hs => by
    show (s.aborted || w.interrupts s.looks) = true
    rw [hs, Bool.true_or]
  cases admitted : letIn w g i s with
  | error fault =>
      obtain ⟨-, hlog, hstop⟩ := run_of_refused admitted
      exact ⟨[], heeds_nil hlog fun hs => hstop.trans (hlook hs), fun _ => rfl⟩
  | ok found =>
      obtain ⟨endpoints, credentials⟩ := found
      have hgo := aborted_threshold admitted
      obtain ⟨sent, heeds⟩ := obeys_undertake (w := w) (i := i) sequential endpoints credentials
        (threshold w g i s)
      have hthreshold : Heeds w s (threshold w g i s) [] := heeds_nil requests_threshold hlook
      rw [run_of_admitted admitted]
      refine ⟨[] ++ sent, hthreshold.trans heeds, fun hstop => ?_⟩
      have hstopped : (threshold w g i s).aborted = true := hstop
      rw [hgo] at hstopped
      cases hstopped

/-! ## §2. The stages in the calm world. -/

theorem threshold_calm (w : World) (g : Engine) (i : Invocation) (s : Session) :
    threshold w.calm g i s.calmed = (threshold w g i s).calmed := rfl

/-- What is let in would be let in without the signal. -/
theorem letIn_calm {found : List Endpoint × List Credential} (h : letIn w g i s = .ok found) :
    letIn w.calm g i s.calmed = .ok found := by
  have hgo : (Action.stopped w s).1 = false := aborted_threshold h
  unfold letIn at h ⊢
  rw [hgo] at h
  rw [stopped_calm]
  exact h

theorem canvass_calm (sequential : g.settings.workerLimit ≤ 1)
    (hwhole : ∀ o ∈ (canvass w g endpoints s).1, ¬isAborted o = true) :
    canvass w.calm g endpoints s.calmed
      = ((canvass w g endpoints s).1, (canvass w g endpoints s).2.calmed) := by
  unfold canvass at hwhole ⊢
  rw [forEach_of_alone w sequential] at hwhole ⊢
  rw [forEach_of_alone w.calm sequential]
  exact each_calm (Version.abreast_probeOnce w g.settings.terms) endpoints
    { s with rounds := s.rounds + 1 } hwhole

/-- A version that is adopted would be adopted without the signal. -/
theorem adopt_calm (sequential : g.settings.workerLimit ≤ 1) {adopted : Nat × Option String}
    {t : Session} (h : adopt w g i endpoints s = (.ok adopted, t)) :
    adopt w.calm g i endpoints s.calmed = (.ok adopted, t.calmed) := by
  by_cases votes : Votes i endpoints
  · have hcases := adopt_cases w g i endpoints s
    rw [h] at hcases
    -- A probe that was called off would have spoilt the vote.
    have hwhole : ∀ o ∈ (canvass w g endpoints s).1, ¬isAborted o = true := fun o ho hcut =>
      hcases votes _ (.spoilt ho hcut)
    rw [adopt_of_votes w g votes] at h
    rw [adopt_of_votes w.calm g votes, canvass_calm sequential hwhole]
    obtain ⟨hverdict, rfl⟩ := Prod.mk.inj h
    rw [hverdict]
  · rw [adopt_of_not_votes w g votes] at h
    rw [adopt_of_not_votes w.calm g votes]
    cases h
    rfl

/-! ## §3. The round. -/

/-- The visits of a round, one after another. -/
def tour (w : World) (g : Engine) (i : Invocation) (credentials : List Credential)
    (version : Nat) : Endpoint → Errand Session (Except Halt Visit) :=
  Call.visit w (g.itinerary i credentials version)

/-- A round that has visits made all of them. -/
theorem outcomes_of_settleVisits {outcomes : List (Except Halt Visit)}
    {visits : List Visit} (h : settleVisits outcomes = .ok visits) :
    outcomes = visits.map .ok := by
  unfold settleVisits at h
  split at h
  · cases h
  · obtain ⟨found, hfound, hlone⟩ := exists_of_bind_ok h
    cases hsettled : settleLone found with
    | error fault => rw [hsettled] at hlone; cases hlone
    | ok settled =>
        rw [hsettled] at hlone
        cases hlone
        obtain rfl := settleLone_ok hsettled
        exact eq_map_ok_of_mapM_id hfound

/-- **A round that has visits makes them one after another**, and leaves nobody
out. -/
theorem each_of_goRound (sequential : g.settings.workerLimit ≤ 1) {version : Nat}
    {visits : List Visit}
    (round : (goRound w g i endpoints credentials version s).1 = .ok visits) :
    (each (tour w g i credentials version) endpoints { s with rounds := s.rounds + 1 }).1
      = visits.map .ok := by
  have houtcomes : (visitAll w g i endpoints credentials version s).1 = visits.map .ok :=
    outcomes_of_settleVisits round
  obtain ⟨seen, -, hrun, hall⟩ := forEachUntil_eq w g.settings.workerLimit isCrash
    (tour w g i credentials version) endpoints s
  have hseen : (visitAll w g i endpoints credentials version s).1
      = (each (tour w g i credentials version) seen { s with rounds := s.rounds + 1 }).1 := by
    rw [← forEach_of_alone w sequential, ← hrun]
    rfl
  obtain rfl : seen = endpoints := hall fun _ hmem => isCrash_of_mem (houtcomes ▸ hmem)
  rw [← hseen, houtcomes]

/-- The session in which the `n`-th slot of a round is turned to. -/
def turn (w : World) (g : Engine) (i : Invocation) (endpoints : List Endpoint)
    (credentials : List Credential) (version : Nat) (s : Session) (n : Nat) : Session :=
  turnTo (tour w g i credentials version) endpoints n { s with rounds := s.rounds + 1 }

/-- The visit of a slot is made in its turn. -/
theorem visit_of_goRound (sequential : g.settings.workerLimit ≤ 1) {version : Nat}
    {visits : List Visit}
    (round : (goRound w g i endpoints credentials version s).1 = .ok visits) {n : Nat}
    {slot : Endpoint} (hslot : endpoints[n]? = some slot) :
    ∃ v, visits[n]? = some v ∧
      ((tour w g i credentials version slot).alone
        (turn w g i endpoints credentials version s n)).1 = .ok v := by
  have houtcomes := each_of_goRound sequential round
  have hturn := getElem?_each (tour w g i credentials version)
    (s := { s with rounds := s.rounds + 1 }) hslot
  rw [houtcomes, List.getElem?_map, Option.map_eq_some_iff] at hturn
  obtain ⟨v, hv, houtcome⟩ := hturn
  exact ⟨v, hv, houtcome.symm⟩

/-- A round that leads to a report would do so without the signal, unless it
would crash. -/
theorem goRound_calm {version : Nat} {visits : List Visit} (hs : s.Telling)
    (round : (goRound w g i endpoints credentials version s).1 = .ok visits)
    (returns : (goRound w.calm g i endpoints credentials version s.calmed).1 ≠ .error .crash) :
    ∃ calm, (goRound w.calm g i endpoints credentials version s.calmed).1 = .ok calm := by
  have hcases := goRound_cases w.calm g i endpoints credentials version
    (s := s.calmed) hs
  cases hround : (goRound w.calm g i endpoints credentials version s.calmed).1 with
  | ok calm => exact ⟨calm, rfl⟩
  | error halt =>
      rw [hround] at hcases returns
      cases halt with
      | crash => exact absurd rfl returns
      | fault fault =>
      obtain ⟨slot, rfl⟩ := hcases
      exfalso
      rw [goRound_lone] at round hround
      -- The lone visit was not cut short, or there would be no report.
      rcases (Call.abreast_visit w (g.itinerary i credentials version) slot
          { s with rounds := s.rounds + 1 }).together with hsame | ⟨-, v, hv, hskipped⟩
      · have hcalm : settleVisits [((Call.visit w (g.itinerary i credentials version) slot).alone
            { s with rounds := s.rounds + 1 }).1] = .error (.fault fault) :=
          (congrArg (fun made => settleVisits [made.1]) hsame).symm.trans hround
        cases round.symm.trans hcalm
      · have hcut : ((Call.visit w (g.itinerary i credentials version) slot).alone
            { s with rounds := s.rounds + 1 }).1 = .ok v := hv
        rw [hcut, settleVisits_lone] at round
        simp only [settleLone, hskipped] at round
        cases round

/-- **What a visit is beside the one without the signal**, if there is one. -/
structure Upholds (after : Session) (v : Visit) (calm : Option (Except Halt Visit)) : Prop where
  /-- What was finished by then is the same. -/
  finished : after.aborted = false → calm = some (.ok v)
  /-- Whoever was being visited is told of in one of the two ways. -/
  told : calm = some (.ok v) ∨ v.response = .skipped .aborted

/-- Who was not turned to by the time of the signal is skipped for it. -/
theorem skipped_of_stopped {itinerary : Call.Itinerary} {slot : Endpoint} {before : Session}
    {v : Visit} (made : ((Call.visit w itinerary slot).alone before).1 = .ok v)
    (hstop : (Action.stopped w before).1 = true) : v = skippedVisit v.slot .aborted := by
  rw [Call.visit_of_stopped w itinerary slot hstop] at made
  cases made
  rfl

/-- Up to the signal the visits without it are the same, as far as they get. -/
theorem getElem?_visitAll_calm (sequential : g.settings.workerLimit ≤ 1) {version : Nat}
    {visits : List Visit}
    (round : (goRound w g i endpoints credentials version s).1 = .ok visits) {n : Nat}
    {slot : Endpoint} (hslot : endpoints[n]? = some slot)
    (hgo : (turn w g i endpoints credentials version s n).aborted = false) :
    (visitAll w.calm g i endpoints credentials version s.calmed).1[n]?
      = some ((tour w.calm g i credentials version slot).alone
          (turn w g i endpoints credentials version s n).calmed).1 := by
  obtain ⟨seen, ⟨rest, rfl⟩, hrun, hall⟩ := forEachUntil_eq w.calm g.settings.workerLimit isCrash
    (tour w.calm g i credentials version) endpoints s.calmed
  rw [forEach_of_alone w.calm sequential] at hrun
  -- A round that has visits has no crash in it.
  have sound : ∀ outcome ∈ (each (tour w g i credentials version) (seen ++ rest)
      { s with rounds := s.rounds + 1 }).1, isCrash outcome = false := by
    rw [each_of_goRound sequential round]
    exact fun _ => isCrash_of_mem
  have whole : (∀ outcome ∈ (each (tour w.calm g i credentials version) seen
      { s with rounds := s.rounds + 1 }.calmed).1, isCrash outcome = false) → rest = [] :=
    fun hcalm => List.append_right_eq_self.1 (hall (hrun ▸ hcalm)).symm
  have hturn := getElem?_each_calm (Call.abreast_visit w (g.itinerary i credentials version)) seen
    n { s with rounds := s.rounds + 1 } slot sound whole hslot hgo
  show (Action.forEachUntil _ _ _ _ _ _).1[n]? = _
  exact (congrArg (fun made => made.1[n]?) hrun).trans hturn

/-- **Every visit of a round beside the one without the signal.** -/
theorem upholds_goRound (sequential : g.settings.workerLimit ≤ 1) {version : Nat}
    {visits : List Visit}
    (round : (goRound w g i endpoints credentials version s).1 = .ok visits) {n : Nat}
    {slot : Endpoint} (hslot : endpoints[n]? = some slot) :
    ∃ v, visits[n]? = some v ∧ Upholds (turn w g i endpoints credentials version s (n + 1)) v
      (visitAll w.calm g i endpoints credentials version s.calmed).1[n]? := by
  obtain ⟨v, hv, made⟩ := visit_of_goRound sequential round hslot
  have hafter : turn w g i endpoints credentials version s (n + 1)
      = ((tour w g i credentials version slot).alone
          (turn w g i endpoints credentials version s n)).2 :=
    turnTo_succ (tour w g i credentials version) hslot
  have habreast := Call.abreast_visit w (g.itinerary i credentials version) slot
    (turn w g i endpoints credentials version s n)
  refine ⟨v, hv, ?_⟩
  rw [hafter]
  cases hbefore : (turn w g i endpoints credentials version s n).aborted with
  | true =>
      have hstop : (Action.stopped w (turn w g i endpoints credentials version s n)).1 = true := by
        show ((turn w g i endpoints credentials version s n).aborted || _) = true
        rw [hbefore, Bool.true_or]
      refine ⟨fun hgo => ?_, .inr (by rw [skipped_of_stopped made hstop]; rfl)⟩
      have hstays := habreast.obeys.stays hbefore
      cases hstays.symm.trans hgo
  | false =>
      rw [getElem?_visitAll_calm sequential round hslot hbefore]
      rcases habreast.together with hsame | ⟨hstop, u, hu, hskipped⟩
      · have hcalm : ((tour w.calm g i credentials version slot).alone
            (turn w g i endpoints credentials version s n).calmed).1 = .ok v :=
          (congrArg Prod.fst hsame).trans made
        rw [hcalm]
        exact ⟨fun _ => rfl, .inl rfl⟩
      · obtain rfl := Except.ok.inj (made.symm.trans hu)
        refine ⟨fun hgo => ?_, .inr hskipped⟩
        cases hstop.symm.trans hgo

/-! ## §4. Reports. -/

/-- The session in which the `n`-th aggregate of a run is turned to. -/
def reached (w : World) (g : Engine) (i : Invocation) (s : Session) (n : Nat) : Session :=
  match letIn w g i s with
  | .error _ => s
  | .ok (endpoints, credentials) =>
      match adopt w g i endpoints (threshold w g i s) with
      | (.error _, t) => t
      | (.ok (version, _), t) => turn w g i endpoints credentials version t n

/-- What the visits of a run come to, as far as it gets. -/
def visitsOf (w : World) (g : Engine) (i : Invocation) (s : Session) : List (Except Halt Visit) :=
  match letIn w g i s with
  | .error _ => []
  | .ok (endpoints, credentials) =>
      match adopt w g i endpoints (threshold w g i s) with
      | (.error _, _) => []
      | (.ok (version, _), t) => (visitAll w g i endpoints credentials version t).1

/-- **What a report is beside the one without the signal**: it tells of the
same aggregates at the same version, and each visit upholds its own. -/
structure Beside (w : World) (g : Engine) (i : Invocation) (s : Session)
    (report calm : Report) : Prop where
  version : report.version = calm.version
  message : report.fleetMessage = calm.fleetMessage
  slots : report.outcomes.map (·.visit.slot) = calm.outcomes.map (·.visit.slot)
  outcomes : ∀ (n : Nat) (o : EndpointOutcome), report.outcomes[n]? = some o →
    ((reached w g i s (n + 1)).aborted = false → calm.outcomes[n]? = some o) ∧
    (calm.outcomes[n]? = some o ∨ o.result.failure = some (.skipped .aborted))

theorem failure_of_skipped {version : Nat} {v : Visit} {reason : Call.SkipReason}
    (h : v.response = .skipped reason) :
    (g.outcomeAt i version v).result.failure = some (.skipped reason) := by
  unfold outcomeAt
  rw [h]
  rfl

/-- Where an invocation passes, its aggregates are turned to one by one. -/
theorem Passes.reached_eq {version : Nat} {message : Option String} {t : Session}
    {visits : List Visit} (h : Passes w g i s endpoints credentials version message t visits)
    (n : Nat) : reached w g i s n = turn w g i endpoints credentials version t n := by
  unfold reached
  rw [h.admitted]
  dsimp only
  rw [h.adopted]

/-- Nothing that is known is out of order in the round. -/
theorem Passes.telling {version : Nat} {message : Option String} {t : Session}
    {visits : List Visit} (h : Passes w g i s endpoints credentials version message t visits) :
    t.Telling := by
  have hadopt := telling_adopt w g i endpoints
    (telling_threshold (w := w) (g := g) (i := i) (s := s))
  rwa [h.adopted] at hadopt

/-- Every endpoint has its visit. -/
theorem Passes.slots_eq {version : Nat} {message : Option String} {t : Session}
    {visits : List Visit} (h : Passes w g i s endpoints credentials version message t visits) :
    visits.map (·.slot) = endpoints := by
  have hcases := goRound_cases w g i endpoints credentials version h.telling
  rwa [h.round] at hcases

/-- What passes would pass without the signal, if the run returned. -/
theorem Passes.calm (sequential : g.settings.workerLimit ≤ 1) {version : Nat}
    {message : Option String} {t : Session} {visits : List Visit}
    (h : Passes w g i s endpoints credentials version message t visits)
    (returns : (ExceptT.run (run w.calm g i) s.calmed).1 ≠ .error .crash) :
    ∃ calm, Passes w.calm g i s.calmed endpoints credentials version message t.calmed calm := by
  have admitted := letIn_calm h.admitted
  have adopted : adopt w.calm g i endpoints (threshold w.calm g i s.calmed)
      = (.ok (version, message), t.calmed) := by
    rw [threshold_calm]
    exact adopt_calm sequential h.adopted
  have hround : (goRound w.calm g i endpoints credentials version t.calmed).1
      ≠ .error .crash := fun hcrash => returns <| by
    rw [run_of_admitted admitted, run_undertake, adopted]
    dsimp only
    rw [h.checked]
    dsimp only [Except.bind]
    rw [hcrash]
    rfl
  obtain ⟨calm, hcalm⟩ := goRound_calm h.telling h.round hround
  exact ⟨calm, admitted, adopted, h.checked, hcalm⟩

/-- What is reported of an endpoint is what came of its visit. -/
theorem Passes.visit_of_outcome {version : Nat} {message : Option String} {t : Session}
    {visits : List Visit} (h : Passes w g i s endpoints credentials version message t visits)
    {n : Nat} {o : EndpointOutcome}
    (ho : (g.reportOn i version message visits).outcomes[n]? = some o) :
    visits[n]? = some o.visit ∧ endpoints[n]? = some o.visit.slot ∧
      o = g.outcomeAt i version o.visit := by
  rw [getElem?_reportOn, Option.map_eq_some_iff] at ho
  obtain ⟨v, hv, rfl⟩ := ho
  refine ⟨hv, ?_, rfl⟩
  rw [← h.slots_eq, List.getElem?_map, hv]
  rfl

/-- The visits without the signal are those of its round. -/
theorem Passes.visitsOf_calm (sequential : g.settings.workerLimit ≤ 1) {version : Nat}
    {message : Option String} {t : Session} {visits : List Visit}
    (h : Passes w g i s endpoints credentials version message t visits) :
    visitsOf w.calm g i s.calmed
      = (visitAll w.calm g i endpoints credentials version t.calmed).1 := by
  unfold visitsOf
  rw [letIn_calm h.admitted]
  dsimp only
  rw [threshold_calm, adopt_calm sequential h.adopted]

/-- **Whom the signal keeps from being turned to** is reported as skipped for
it. -/
theorem unreached_run (sequential : g.settings.workerLimit ≤ 1) {report : Report}
    (h : (ExceptT.run (run w g i) s).1 = .ok report) {n : Nat} {o : EndpointOutcome}
    (ho : report.outcomes[n]? = some o)
    (hstop : (Action.stopped w (reached w g i s n)).1 = true) :
    o.visit = skippedVisit o.visit.slot .aborted ∧
      o.result.failure = some (.skipped .aborted) := by
  obtain ⟨endpoints, credentials, version, message, t, visits, passes, rfl⟩ := passes_of_run h
  obtain ⟨hv, hslot, houtcome⟩ := passes.visit_of_outcome ho
  obtain ⟨v, hv', made⟩ := visit_of_goRound sequential passes.round hslot
  obtain rfl := Option.some.inj (hv.symm.trans hv')
  rw [passes.reached_eq] at hstop
  have hskipped : o.visit = skippedVisit o.visit.slot .aborted := skipped_of_stopped made hstop
  refine ⟨hskipped, ?_⟩
  rw [houtcome]
  exact failure_of_skipped (by rw [hskipped]; rfl)

/-- **Every visit that is reported beside the one without the signal**, whether
or not that run returns. -/
theorem upholds_run (sequential : g.settings.workerLimit ≤ 1) {report : Report}
    (h : (ExceptT.run (run w g i) s).1 = .ok report) {n : Nat} {o : EndpointOutcome}
    (ho : report.outcomes[n]? = some o) :
    Upholds (reached w g i s (n + 1)) o.visit (visitsOf w.calm g i s.calmed)[n]? := by
  obtain ⟨endpoints, credentials, version, message, t, visits, passes, rfl⟩ := passes_of_run h
  obtain ⟨hv, hslot, -⟩ := passes.visit_of_outcome ho
  obtain ⟨v, hv', upholds⟩ := upholds_goRound sequential passes.round hslot
  obtain rfl := Option.some.inj (hv.symm.trans hv')
  rw [passes.reached_eq, passes.visitsOf_calm sequential]
  exact upholds

/-- **A report beside the one without the signal**, where that run returns. -/
theorem beside_run (sequential : g.settings.workerLimit ≤ 1) {report : Report}
    (h : (ExceptT.run (run w g i) s).1 = .ok report)
    (returns : (ExceptT.run (run w.calm g i) s.calmed).1 ≠ .error .crash) :
    ∃ calm, (ExceptT.run (run w.calm g i) s.calmed).1 = .ok calm ∧ Beside w g i s report calm := by
  obtain ⟨endpoints, credentials, version, message, t, visits, passes, rfl⟩ := passes_of_run h
  obtain ⟨calm, hcalm⟩ := passes.calm sequential returns
  refine ⟨_, hcalm.run_eq, rfl, rfl, ?_, fun n o ho => ?_⟩
  · rw [slots_reportOn, slots_reportOn, passes.slots_eq, hcalm.slots_eq]
  · have upholds := upholds_run sequential h ho
    obtain ⟨-, -, houtcome⟩ := passes.visit_of_outcome ho
    have hvisits : visitsOf w.calm g i s.calmed = calm.map .ok :=
      (passes.visitsOf_calm sequential).trans (outcomes_of_settleVisits hcalm.round)
    -- A visit that is the same without the signal is reported as the same.
    have hsame (hvisit : (visitsOf w.calm g i s.calmed)[n]? = some (.ok o.visit)) :
        (g.reportOn i version message calm).outcomes[n]? = some o := by
      rw [hvisits, List.getElem?_map, Option.map_eq_some_iff] at hvisit
      obtain ⟨v, hv, hok⟩ := hvisit
      obtain rfl := Except.ok.inj hok
      rw [getElem?_reportOn, hv, houtcome]
      rfl
    refine ⟨fun hgo => hsame (upholds.finished hgo), ?_⟩
    rcases upholds.told with hvisit | hskipped
    · exact .inl (hsame hvisit)
    · rw [houtcome]
      exact .inr (failure_of_skipped hskipped)

/-! ## §5. Invocations that the signal ends. -/

/-- A fleet that was not heard out. -/
theorem aborted_of_spoilt (admitted : letIn w g i s = .ok (endpoints, credentials))
    (votes : Votes i endpoints) {o : ProbeOutcome}
    (ho : o ∈ (canvass w g endpoints (threshold w g i s)).1) (calledOff : isAborted o = true) :
    (ExceptT.run (run w g i) s).1 = .error (.fault .aborted) := by
  rw [run_of_admitted admitted, run_undertake, adopt_of_votes w g votes,
    verdict_spoilt g i (length_canvass w g endpoints _) ho calledOff]
  rfl

/-- A lone aggregate that was not called. -/
theorem aborted_of_lone {slot : Endpoint} (admitted : letIn w g i s = .ok ([slot], credentials))
    (checked : g.check i (g.requested i).1 = .ok ()) {v : Visit}
    (visited : loneVisit w g i slot credentials (threshold w g i s) = .ok v)
    (skipped : v.response = .skipped .aborted) :
    (ExceptT.run (run w g i) s).1 = .error (.fault .aborted) := by
  have votes : ¬Votes i [slot] := fun votes => by simpa using votes.1
  rw [run_of_admitted admitted, run_undertake, adopt_of_not_votes w g votes]
  dsimp only
  rw [checked]
  dsimp only [Except.bind]
  unfold loneVisit at visited
  rw [goRound_lone, visited, settleVisits_lone]
  simp only [settleLone, skipped]
  rfl

/-- **The signal to stop is final**, where a single worker goes about it:
nothing is sent once it has come; a report skips whom it had not turned to by
then, and tells of visits that were finished as they are made without the
signal, whose report is the same for them, if that run returns; and a fleet or
a lone aggregate that was not heard out for it ends the invocation. -/
theorem run_cancelled (w : World) (g : Engine) (i : Invocation) (s : Session)
    (sequential : g.settings.workerLimit ≤ 1) :
    (∃ sent, Heeds w s (ExceptT.run (run w g i) s).2 sent ∧
      ((Action.stopped w s).1 = true →
        sent = [] ∧ (ExceptT.run (run w g i) s).1 = .error (.fault .aborted))) ∧
    (∀ report, (ExceptT.run (run w g i) s).1 = .ok report →
      (∀ (n : Nat) (o : EndpointOutcome), report.outcomes[n]? = some o →
        ((Action.stopped w (reached w g i s n)).1 = true →
          o.visit = skippedVisit o.visit.slot .aborted ∧
            o.result.failure = some (.skipped .aborted)) ∧
        Upholds (reached w g i s (n + 1)) o.visit (visitsOf w.calm g i s.calmed)[n]?) ∧
      ((ExceptT.run (run w.calm g i) s.calmed).1 ≠ .error .crash →
        ∃ calm, (ExceptT.run (run w.calm g i) s.calmed).1 = .ok calm ∧
          Beside w g i s report calm)) ∧
    ∀ endpoints credentials, letIn w g i s = .ok (endpoints, credentials) →
      (Votes i endpoints → ∀ o ∈ (canvass w g endpoints (threshold w g i s)).1,
        isAborted o = true → (ExceptT.run (run w g i) s).1 = .error (.fault .aborted)) ∧
      ∀ slot v, endpoints = [slot] → g.check i (g.requested i).1 = .ok () →
        loneVisit w g i slot credentials (threshold w g i s) = .ok v →
        v.response = .skipped .aborted →
        (ExceptT.run (run w g i) s).1 = .error (.fault .aborted) := by
  refine ⟨?_, fun report h => ⟨fun n o ho => ⟨unreached_run sequential h ho,
    upholds_run sequential h ho⟩, beside_run sequential h⟩,
    fun endpoints credentials admitted => ?_⟩
  · obtain ⟨sent, heeds, hstop⟩ := heeds_run (w := w) (g := g) sequential i s
    refine ⟨sent, heeds, fun h => ⟨hstop h, ?_⟩⟩
    rw [run_of_stopped w g i h]
  · refine ⟨fun votes o ho calledOff => aborted_of_spoilt admitted votes ho calledOff, ?_⟩
    rintro slot v rfl checked visited skipped
    exact aborted_of_lone admitted checked visited skipped

namespace Halfway

/-- The signal comes with the reply to the first call. -/
def world : World where
  transport := fun _ r =>
    ⟨.ok (.object [("code", .object [("geni_code", .nat 0)]), ("geni_api", .nat 2),
        ("value", .bool true)]),
      r.url = "http://[::1]" && r.method ≠ Introspection.probeMethod⟩
  clock := fun _ => Time.Instant.epoch
  writes := fun _ => true
  credential := fun _ => .ok (Credential.sfa "document")
  keepsProof := fun _ _ => true

end Halfway

set_option maxRecDepth 10000 in
/-- Where the signal comes with the reply to the first of two calls, the first
aggregate is reported as without it, and the second one as skipped. -/
theorem halted_halfway :
    ∃ report calm,
      (ExceptT.run (plain.run Halfway.world Crossing.invocation) (Session.start .absent)).1
        = .ok report ∧
      (ExceptT.run (plain.run Halfway.world.calm Crossing.invocation)
        (Session.start .absent).calmed).1 = .ok calm ∧
      report.outcomes.map (·.result.failure) = [none, some (.skipped .aborted)] ∧
      report.outcomes[0]? = calm.outcomes[0]? := by
  have hrun : failuresOf? Halfway.world plain Crossing.invocation (Session.start .absent)
      = some (2, [none, some (.skipped .aborted)]) := by decide +kernel
  obtain ⟨report, hreport, -, hfailures⟩ := run_of_failuresOf? hrun
  obtain ⟨-, hbeside, -⟩ := run_cancelled Halfway.world plain Crossing.invocation
    (Session.start .absent) (by decide)
  obtain ⟨calm, hcalm, beside⟩ := (hbeside report hreport).2 (ne_crash (by decide +kernel))
  refine ⟨report, calm, hreport, hcalm, hfailures, ?_⟩
  cases hfirst : report.outcomes[0]? with
  | none =>
      have := congrArg (·[0]?) hfailures
      simp [hfirst] at this
  | some o =>
      -- It was not cut short, so it is what it would have been.
      rcases (beside.outcomes 0 o hfirst).2 with hsame | hskipped
      · exact hsame.symm
      · have := congrArg (·[0]?) hfailures
        simp [hfirst, hskipped] at this

end Engine

end Federation
