/-
  Federation.Proofs.Invocation.Stages
  ───────────────────────────────────
  **THE STAGES OF AN INVOCATION, ONE BY ONE.**

  An invocation is either not let in at all, or it comes to its threshold
  with endpoints and credentials.  From there the outcome is told stage by
  stage: the version, the check of the request, the visits.

  Main results:
    * `run_of_admitted` — what is let in undertakes the operation;
    * `run_undertake` — the outcome of an undertaking, from its stages;
    * `passes_of_run` — the stages behind a report.
-/
import Federation.Proofs.Invocation.Calls

namespace Federation

open Answer (Report)
open Call (Visit)
open Introspection (ProbeOutcome)

/-! ## §1. Attempts. -/

namespace Attempt

variable {α β : Type}

/-- One attempt after another. -/
theorem run_bind (x : Attempt α) (f : α → Attempt β) (s : Session) :
    ExceptT.run (x >>= f) s = match ExceptT.run x s with
      | (.ok a, t) => ExceptT.run (f a) t
      | (.error halt, t) => (.error halt, t) := by
  show (ExceptT.bind x f).run s = _
  simp only [ExceptT.bind, ExceptT.run, ExceptT.mk, Bind.bind, StateT.bind]
  generalize x s = y
  obtain ⟨r, t⟩ := y
  cases r <;> rfl

/-- An action that cannot fail, and what comes after it. -/
theorem run_always (action : Action α) (f : α → Attempt β) (s : Session) :
    ExceptT.run (always action >>= f) s = ExceptT.run (f (action s).1) (action s).2 := rfl

/-- An outcome that is known, and what comes after it. -/
theorem run_outcome (r : Except Halt α) (f : α → Attempt β) (s : Session) :
    ExceptT.run (outcome r >>= f) s = match r with
      | .ok a => ExceptT.run (f a) s
      | .error halt => (.error halt, s) := by
  cases r <;> rfl

/-- An action with an outcome, and what comes after it. -/
theorem run_action (action : Action (Except Halt α)) (f : α → Attempt β) (s : Session) :
    ExceptT.run (Attempt.action action >>= f) s = match action s with
      | (.ok a, t) => ExceptT.run (f a) t
      | (.error halt, t) => (.error halt, t) := run_bind (Attempt.action action) f s

end Attempt

namespace Engine

/-! ## §2. The opening. -/

/-- **Whether an invocation is let in**, and for which endpoints and with
which credentials. -/
def letIn (w : World) (g : Engine) (i : Invocation) (s : Session) :
    Except InvocationFault (List Endpoint × List Credential) :=
  if (Action.stopped w s).1 then .error .aborted
  else match g.named i with
    | .error fault => .error (.resolution fault)
    | .ok endpoints =>
        if i.operation = .getVersion then .ok (endpoints, [])
        else match w.credential i.credentialSubject with
          | .ok credential => .ok (endpoints, [credential])
          | .error reason => .error (.credential i.credentialSubject reason)

/-- The session in which the first aggregate is turned to. -/
def threshold (w : World) (g : Engine) (i : Invocation) (s : Session) : Session :=
  { s with
    aborted := (Action.stopped w s).1
    looks := s.looks + 1
    listings := s.listings + (g.sources.resolve i.identifiers).2
    credentialEvents :=
      if i.operation = .getVersion then s.credentialEvents
      else s.credentialEvents ++ [.asked i.credentialSubject]
    memo := [] }

/-- The part of an invocation that turns to the aggregates. -/
def undertake (w : World) (g : Engine) (i : Invocation) (endpoints : List Endpoint)
    (credentials : List Credential) : Attempt Report := do
  let (version, message) ← agree w g i endpoints
  Attempt.outcome (g.check i version)
  let visits ← Attempt.action
    (Call.makeRound w (g.itinerary i credentials version) endpoints g.settings.workerLimit)
  let parts ← Attempt.always (visits.mapM (interpret w g.settings.mode version))
  return Report.of i.operation version i.arguments.slivers message parts

section

variable {w : World} {g : Engine} {i : Invocation} {s : Session}

/-- Nothing is sent before the threshold. -/
theorem requests_threshold : (threshold w g i s).requests = s.requests := rfl

theorem telling_threshold : (threshold w g i s).Telling := fun _ hmem => nomatch hmem

/-- What is let in has not been called off. -/
theorem aborted_threshold {found : List Endpoint × List Credential}
    (h : letIn w g i s = .ok found) : (threshold w g i s).aborted = false := by
  unfold letIn at h
  show (Action.stopped w s).1 = false
  cases hstop : (Action.stopped w s).1 with
  | true => rw [hstop] at h; cases h
  | false => rfl

theorem run_endpoints (g : Engine) (i : Invocation) (s : Session) :
    ExceptT.run (endpoints g i) s
      = ((g.named i).mapError fun fault => .fault (.resolution fault),
        { s with listings := s.listings + (g.sources.resolve i.identifiers).2 }) := rfl

theorem run_credentials (w : World) (i : Invocation) (s : Session) :
    ExceptT.run (credentials w i) s
      = if i.operation = .getVersion then (.ok [], s)
        else (match w.credential i.credentialSubject with
            | .ok credential => .ok [credential]
            | .error reason => .error (.fault (.credential i.credentialSubject reason)),
          { s with credentialEvents := s.credentialEvents ++ [.asked i.credentialSubject] }) := by
  unfold credentials
  by_cases hop : i.operation = .getVersion
  · rw [if_pos hop, if_pos hop]
    rfl
  · rw [if_neg hop, if_neg hop, Attempt.run_always]
    have hask : (Action.askCredential w i.credentialSubject s).1
        = w.credential i.credentialSubject := rfl
    rw [hask]
    cases w.credential i.credentialSubject <;> rfl

/-- An invocation is let in and undertakes the operation, or it ends without
having sent anything. -/
theorem run_eq_letIn (w : World) (g : Engine) (i : Invocation) (s : Session) :
    ∃ t, t.requests = s.requests ∧ t.aborted = (Action.stopped w s).1 ∧
      ExceptT.run (run w g i) s = match letIn w g i s with
        | .ok (endpoints, credentials) =>
            ExceptT.run (undertake w g i endpoints credentials) (threshold w g i s)
        | .error fault => (.error (.fault fault), t) := by
  unfold run letIn
  rw [Attempt.run_always]
  by_cases hstop : (Action.stopped w s).1 = true
  · rw [if_pos hstop, if_pos hstop]
    exact ⟨(Action.stopped w s).2, rfl, rfl, rfl⟩
  · rw [if_neg hstop, if_neg hstop, Attempt.run_bind, run_endpoints]
    cases g.named i with
    | error fault =>
        refine ⟨_, ?_, ?_, rfl⟩
        · rfl
        · rfl
    | ok endpoints =>
        dsimp only [Except.mapError]
        rw [Attempt.run_bind, run_credentials]
        by_cases hop : i.operation = .getVersion
        · rw [if_pos hop, if_pos hop]
          refine ⟨(Action.stopped w s).2, rfl, rfl, ?_⟩
          unfold threshold
          rw [if_pos hop]
          rfl
        · rw [if_neg hop, if_neg hop]
          cases w.credential i.credentialSubject with
          | error reason =>
              refine ⟨_, ?_, ?_, rfl⟩
              · rfl
              · rfl
          | ok credential =>
              refine ⟨(Action.stopped w s).2, rfl, rfl, ?_⟩
              unfold threshold
              rw [if_neg hop]
              rfl

/-- **What is let in undertakes the operation** at its threshold. -/
theorem run_of_admitted {endpoints : List Endpoint} {credentials : List Credential}
    (h : letIn w g i s = .ok (endpoints, credentials)) :
    ExceptT.run (run w g i) s
      = ExceptT.run (undertake w g i endpoints credentials) (threshold w g i s) := by
  obtain ⟨t, -, -, hrun⟩ := run_eq_letIn w g i s
  rw [hrun, h]

/-- What is not let in ends with the reason, and nothing is sent. -/
theorem run_of_refused {fault : InvocationFault} (h : letIn w g i s = .error fault) :
    (ExceptT.run (run w g i) s).1 = .error (.fault fault) ∧
      (ExceptT.run (run w g i) s).2.requests = s.requests ∧
      (ExceptT.run (run w g i) s).2.aborted = (Action.stopped w s).1 := by
  obtain ⟨t, hlog, hstop, hrun⟩ := run_eq_letIn w g i s
  rw [hrun, h]
  exact ⟨rfl, hlog, hstop⟩

end

/-! ## §3. The undertaking. -/

/-- One aggregate's part in a report. -/
def outcomeAt (g : Engine) (i : Invocation) (version : Nat) (v : Visit) :
    Answer.EndpointOutcome :=
  Answer.outcomeOf (Answer.comparedSlivers i.operation i.arguments.slivers) v
    (Answer.normalise g.settings.mode (v.version.getD version) v.response)

theorem outcomes_reportOn (g : Engine) (i : Invocation) (version : Nat)
    (message : Option String) (visits : List Visit) :
    (g.reportOn i version message visits).outcomes = visits.map (g.outcomeAt i version) := by
  show (visits.map _).map _ = _
  rw [List.map_map]
  rfl

/-- A report tells of each visit at its place. -/
theorem getElem?_reportOn (g : Engine) (i : Invocation) (version : Nat)
    (message : Option String) (visits : List Visit) (n : Nat) :
    (g.reportOn i version message visits).outcomes[n]?
      = visits[n]?.map (g.outcomeAt i version) := by
  rw [outcomes_reportOn, List.getElem?_map]

/-- A report tells of the slots of the visits. -/
theorem slots_reportOn (g : Engine) (i : Invocation) (version : Nat) (message : Option String)
    (visits : List Visit) :
    (g.reportOn i version message visits).outcomes.map (·.visit.slot) = visits.map (·.slot) := by
  have hvisits := visits_reportOn g i version message visits
  conv_rhs => rw [← hvisits, List.map_map]
  rfl

/-- The version that an undertaking goes by, and the fleet's message. -/
def adopt (w : World) (g : Engine) (i : Invocation) (endpoints : List Endpoint) :
    Action (Except Halt (Nat × Option String)) :=
  ExceptT.run (agree w g i endpoints)

/-- Whether the fleet has a say in the version. -/
def Votes (i : Invocation) (endpoints : List Endpoint) : Prop :=
  1 < endpoints.length ∧ i.operation.reconcilesFleet = true

/-- To probe the fleet before the vote. -/
def canvass (w : World) (g : Engine) (endpoints : List Endpoint) : Action (List ProbeOutcome) :=
  Action.forEach w g.settings.workerLimit (Version.probeOnce w g.settings.terms) endpoints

/-- What the probes of the fleet mean for the version. -/
def verdict (g : Engine) (i : Invocation) (endpoints : List Endpoint)
    (outcomes : List ProbeOutcome) : Except InvocationFault (Nat × Option String) :=
  (Version.decideFrom g.settings.mode (g.requested i).1 (g.requested i).2
    (endpoints.zip outcomes)).map fun d => (d.version, d.message)

/-- Where the fleet has no say, the version is the one that was asked for. -/
theorem adopt_of_not_votes (w : World) (g : Engine) {i : Invocation} {endpoints : List Endpoint}
    (h : ¬Votes i endpoints) (s : Session) :
    adopt w g i endpoints s = (.ok ((g.requested i).1, none), s) := by
  unfold adopt agree
  have hnot : ¬(decide (1 < endpoints.length) && i.operation.reconcilesFleet) = true := by
    simpa [Votes] using h
  simp only [hnot]
  rfl

/-- Where it has, its probes tell. -/
theorem adopt_of_votes (w : World) (g : Engine) {i : Invocation} {endpoints : List Endpoint}
    (h : Votes i endpoints) (s : Session) :
    adopt w g i endpoints s
      = ((g.verdict i endpoints (canvass w g endpoints s).1).mapError .fault,
        (canvass w g endpoints s).2) := by
  unfold adopt agree verdict
  simp only [h.1, h.2, decide_true, Bool.and_self, if_true]
  rw [Attempt.run_always]
  have hfleet : Version.reconcileFleet w g.settings.terms endpoints (g.requested i).1
      (g.requested i).2 g.settings.workerLimit s
        = (Version.decideFrom g.settings.mode (g.requested i).1 (g.requested i).2
            (endpoints.zip (canvass w g endpoints s).1), (canvass w g endpoints s).2) := rfl
  rw [hfleet]
  cases Version.decideFrom g.settings.mode (g.requested i).1 (g.requested i).2
      (endpoints.zip (canvass w g endpoints s).1) with
  | error fault => rfl
  | ok d => rfl

/-- The round of an undertaking. -/
def goRound (w : World) (g : Engine) (i : Invocation) (endpoints : List Endpoint)
    (credentials : List Credential) (version : Nat) : Action (Except Halt (List Visit)) :=
  Call.makeRound w (g.itinerary i credentials version) endpoints g.settings.workerLimit

/-- What comes of its visits, as far as it gets. -/
def visitAll (w : World) (g : Engine) (i : Invocation) (endpoints : List Endpoint)
    (credentials : List Credential) (version : Nat) : Action (List (Except Halt Visit)) :=
  Action.forEachUntil w g.settings.workerLimit isCrash
    (Call.visit w (g.itinerary i credentials version)) endpoints

/-- A round means what its visits come to. -/
theorem goRound_eq (w : World) (g : Engine) (i : Invocation) (endpoints : List Endpoint)
    (credentials : List Credential) (version : Nat) (s : Session) :
    goRound w g i endpoints credentials version s
      = (Call.settleVisits (visitAll w g i endpoints credentials version s).1,
        (visitAll w g i endpoints credentials version s).2) := rfl

/-- **The outcome of an undertaking**, from its stages. -/
theorem run_undertake (w : World) (g : Engine) (i : Invocation) (endpoints : List Endpoint)
    (credentials : List Credential) (s : Session) :
    (ExceptT.run (undertake w g i endpoints credentials) s).1
      = match adopt w g i endpoints s with
        | (.error halt, _) => .error halt
        | (.ok (version, message), t) =>
            (g.check i version).bind fun _ =>
              (goRound w g i endpoints credentials version t).1.map
                (g.reportOn i version message) := by
  unfold undertake adopt
  rw [Attempt.run_bind]
  generalize ExceptT.run (agree w g i endpoints) s = agreed
  obtain ⟨outcome, t⟩ := agreed
  cases outcome with
  | error halt => rfl
  | ok adopted =>
      obtain ⟨version, message⟩ := adopted
      dsimp only
      rw [Attempt.run_outcome]
      cases g.check i version with
      | error halt => rfl
      | ok _ =>
          dsimp only [Except.bind]
          rw [Attempt.run_action]
          unfold goRound
          generalize Call.makeRound w (g.itinerary i credentials version) endpoints
            g.settings.workerLimit t = round
          obtain ⟨outcome, u⟩ := round
          cases outcome with
          | error halt => rfl
          | ok visits =>
              -- What the visits mean is told from the visits alone.
              dsimp only
              rw [Attempt.run_always, (interpret_all w g.settings.mode version visits u).1]
              rfl

/-! ## §4. Invocations that pass every stage. -/

section

variable {w : World} {g : Engine} {i : Invocation} {s : Session} {endpoints : List Endpoint}
  {credentials : List Credential} {version : Nat} {message : Option String} {t : Session}
  {visits : List Visit}

/-- **Whether an invocation passes every stage**, and by which version, in
which session and with which visits. -/
structure Passes (w : World) (g : Engine) (i : Invocation) (s : Session)
    (endpoints : List Endpoint) (credentials : List Credential) (version : Nat)
    (message : Option String) (t : Session) (visits : List Visit) : Prop where
  admitted : letIn w g i s = .ok (endpoints, credentials)
  adopted : adopt w g i endpoints (threshold w g i s) = (.ok (version, message), t)
  checked : g.check i version = .ok ()
  round : (goRound w g i endpoints credentials version t).1 = .ok visits

/-- What passes every stage comes to a report. -/
theorem Passes.run_eq
    (h : Passes w g i s endpoints credentials version message t visits) :
    (ExceptT.run (run w g i) s).1 = .ok (g.reportOn i version message visits) := by
  rw [run_of_admitted h.admitted, run_undertake, h.adopted]
  dsimp only
  rw [h.checked]
  dsimp only [Except.bind]
  rw [h.round]
  rfl

/-- **Every report is on visits**, at the end of all stages. -/
theorem passes_of_run {report : Report} (h : (ExceptT.run (run w g i) s).1 = .ok report) :
    ∃ endpoints credentials version message t visits,
      Passes w g i s endpoints credentials version message t visits ∧
        report = g.reportOn i version message visits := by
  cases admitted : letIn w g i s with
  | error fault => cases (run_of_refused admitted).1.symm.trans h
  | ok found =>
      obtain ⟨endpoints, credentials⟩ := found
      rw [run_of_admitted admitted, run_undertake] at h
      cases adopted : adopt w g i endpoints (threshold w g i s) with
      | mk agreed t =>
      rw [adopted] at h
      cases agreed with
      | error fault => cases h
      | ok agreed =>
          obtain ⟨version, message⟩ := agreed
          dsimp only at h
          cases checked : g.check i version with
          | error fault =>
              rw [checked] at h
              cases h
          | ok _ =>
              rw [checked] at h
              dsimp only [Except.bind] at h
              cases round : (goRound w g i endpoints credentials version t).1 with
              | error fault =>
                  rw [round] at h
                  cases h
              | ok visits =>
                  rw [round] at h
                  cases h
                  exact ⟨endpoints, credentials, version, message, t, visits,
                    ⟨admitted, adopted, checked, round⟩, rfl⟩

end

end Engine

end Federation
