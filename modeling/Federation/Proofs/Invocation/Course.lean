/-
  Federation.Proofs.Invocation.Course
  ───────────────────────────────────
  **THE COURSE OF AN INVOCATION.**

  An invocation goes through seven stages, and each but the last may end it:
  the signal to stop, the endpoints, the credential, the vote of the fleet,
  the check of the request, the visits, and the fate of a lone aggregate.
  `Course` has one constructor for each way to end, with what is known by
  then and the requests that were sent on the way.  The visits end it by a
  crash only.

  Main result: `Engine.course_run` — every run takes one of these courses.
-/
import Federation.Proofs.Collect
import Federation.Proofs.Invocation.Crashes
import Federation.Proofs.Version.Fleet

namespace Federation

open Answer (Report)
open Call (Visit Visited settleLone settleVisits)
open Introspection (ProbeOutcome)
open Version (AreProbes areProbes_nil)

/-! ## §1. Attempts. -/

namespace Attempt

variable {α β : Type}

/-- Whether a goal holds of the outcome of an attempt and the session after
it. -/
def Ends (x : Attempt α) (s : Session)
    (goal : Except Halt α → Session → Prop) : Prop :=
  goal (ExceptT.run x s).1 (ExceptT.run x s).2

variable {s : Session}

/-- **One attempt after another**: the second is made only if the first one
succeeded. -/
theorem Ends.bind {x : Attempt α} {f : α → Attempt β}
    {middle : Except Halt α → Session → Prop}
    {goal : Except Halt β → Session → Prop} (h : x.Ends s middle)
    (hok : ∀ a t, middle (.ok a) t → (f a).Ends t goal)
    (herror : ∀ halt t, middle (.error halt) t → goal (.error halt) t) :
    (x >>= f).Ends s goal := by
  have hrun : ExceptT.run (x >>= f) s = match ExceptT.run x s with
      | (.ok a, t) => ExceptT.run (f a) t
      | (.error halt, t) => (.error halt, t) := by
    show (ExceptT.bind x f).run s = _
    simp only [ExceptT.bind, ExceptT.run, ExceptT.mk, Bind.bind, StateT.bind]
    generalize x s = y
    obtain ⟨r, t⟩ := y
    cases r <;> rfl
  unfold Ends at h ⊢
  rw [hrun]
  generalize ExceptT.run x s = y at h
  obtain ⟨r, t⟩ := y
  cases r with
  | ok a => exact hok a t h
  | error halt => exact herror halt t h

/-- An action that cannot fail, and what comes after it. -/
theorem ends_always {action : Action α} {f : α → Attempt β}
    {goal : Except Halt β → Session → Prop}
    (h : (f (action s).1).Ends (action s).2 goal) : (always action >>= f).Ends s goal := h

/-- An outcome that is known, and what comes after it. -/
theorem ends_outcome {r : Except Halt α} {f : α → Attempt β}
    {goal : Except Halt β → Session → Prop}
    (hok : ∀ a, r = .ok a → (f a).Ends s goal)
    (herror : ∀ halt, r = .error halt → goal (.error halt) s) :
    (outcome r >>= f).Ends s goal := by
  have h : (outcome r).Ends s fun result t => result = r ∧ t = s := ⟨rfl, rfl⟩
  refine h.bind (fun a t ht => ?_) (fun halt t ht => ?_)
  · obtain ⟨hr, rfl⟩ := ht
    exact hok a hr.symm
  · obtain ⟨hr, rfl⟩ := ht
    exact herror halt hr.symm

/-- An action with an outcome, and what comes after it. -/
theorem ends_action {action : Action (Except Halt α)} {f : α → Attempt β}
    {goal : Except Halt β → Session → Prop}
    (hok : ∀ a, (action s).1 = .ok a → (f a).Ends (action s).2 goal)
    (herror : ∀ halt, (action s).1 = .error halt → goal (.error halt) (action s).2) :
    (Attempt.action action >>= f).Ends s goal := by
  have h : (Attempt.action action).Ends s fun result t =>
      result = (action s).1 ∧ t = (action s).2 := ⟨rfl, rfl⟩
  refine h.bind (fun a t ht => ?_) (fun halt t ht => ?_)
  · obtain ⟨hr, rfl⟩ := ht
    exact hok a hr.symm
  · obtain ⟨hr, rfl⟩ := ht
    exact herror halt hr.symm

theorem ends_throw {halt : Halt} {goal : Except Halt α → Session → Prop}
    (h : goal (.error halt) s) : (throw halt : Attempt α).Ends s goal := h

theorem ends_pure {a : α} {goal : Except Halt α → Session → Prop}
    (h : goal (.ok a) s) : (pure a : Attempt α).Ends s goal := h

end Attempt

namespace Engine

/-! ## §2. Before the calls. -/

/-- The endpoints that an invocation is for. -/
def named (g : Engine) (i : Invocation) : Except Directory.ResolutionFault (List Endpoint) :=
  (g.sources.resolve i.identifiers).1

/-- The credentials that the calls of an invocation carry. -/
inductive Credentialed (w : World) (i : Invocation) : List Credential → Prop
  | needless (hop : i.operation = .getVersion) : Credentialed w i []
  | granted {credential : Credential} (hop : i.operation ≠ .getVersion)
      (h : w.credential i.credentialSubject = .ok credential) : Credentialed w i [credential]

/-- The decision of a fleet that heard itself out. -/
structure Decided (g : Engine) (i : Invocation) (endpoints : List Endpoint) (t : Session)
    (outcomes : List ProbeOutcome) (decision : Except InvocationFault Version.Decision) : Prop where
  several : 1 < endpoints.length
  reconciles : i.operation.reconcilesFleet = true
  heard : List.Forall₂ (fun e o => t.Heard e.url o) endpoints outcomes
  decided : decision = Version.decideFrom g.settings.mode (g.requested i).1 (g.requested i).2
    (endpoints.zip outcomes)

/-- The version that an invocation goes by, and the fleet's message. -/
inductive Adopted (g : Engine) (i : Invocation) (endpoints : List Endpoint) (t : Session) :
    Nat → Option String → Prop
  | asked (alone : ¬(1 < endpoints.length ∧ i.operation.reconcilesFleet = true)) :
      Adopted g i endpoints t (g.requested i).1 none
  | voted {outcomes : List ProbeOutcome} {d : Version.Decision}
      (decided : Decided g i endpoints t outcomes (.ok d)) :
      Adopted g i endpoints t d.version d.message

/-- What is settled before aggregates are called. -/
structure Launched (w : World) (g : Engine) (i : Invocation) (t : Session)
    (endpoints : List Endpoint) (credentials : List Credential) (version : Nat)
    (message : Option String) (probes : List Request) : Prop where
  resolved : g.named i = .ok endpoints
  credentialed : Credentialed w i credentials
  adopted : Adopted g i endpoints t version message
  quiet : AreProbes probes

/-! ## §3. The calls. -/

/-- What becomes of all visits: each slot has its own, and their requests are
those of the round. -/
def Toured (w : World) (i : Call.Itinerary) (slots : List Endpoint) (t : Session)
    (sent : List Request) (parts : List (List Request × Visit)) : Prop :=
  List.Forall₂ (fun slot part => Visited w i slot t part.1 (.ok part.2)) slots parts ∧
    sent.Perm (parts.flatMap Prod.fst)

/-- The report on visits. -/
def reportOn (g : Engine) (i : Invocation) (version : Nat) (message : Option String)
    (visits : List Visit) : Report :=
  Report.of i.operation version i.arguments.slivers message
    (visits.map fun v =>
      (v, Answer.normalise g.settings.mode (v.version.getD version) v.response))

/-- **The ways in which an invocation ends**, with the requests that were
sent. -/
inductive Course (w : World) (g : Engine) (i : Invocation) (s t : Session) :
    List Request → Except Halt Report → Prop
  | calledOff (stopped : (Action.stopped w s).1 = true) :
      Course w g i s t [] (.error (.fault .aborted))
  | unresolved {fault : Directory.ResolutionFault} (resolved : g.named i = .error fault) :
      Course w g i s t [] (.error (.fault (.resolution fault)))
  | refused {endpoints : List Endpoint} {reason : String} (resolved : g.named i = .ok endpoints)
      (hop : i.operation ≠ .getVersion)
      (h : w.credential i.credentialSubject = .error reason) :
      Course w g i s t [] (.error (.fault (.credential i.credentialSubject reason)))
  | undecided {endpoints : List Endpoint} {credentials : List Credential}
      {outcomes : List ProbeOutcome} {fault : InvocationFault} {probes : List Request}
      (resolved : g.named i = .ok endpoints) (credentialed : Credentialed w i credentials)
      (decided : Decided g i endpoints t outcomes (.error fault)) (quiet : AreProbes probes) :
      Course w g i s t probes (.error (.fault fault))
  | rejected {endpoints : List Endpoint} {credentials : List Credential} {version : Nat}
      {message : Option String} {halt : Halt} {probes : List Request}
      (launched : Launched w g i t endpoints credentials version message probes)
      (checked : g.check i version = .error halt) : Course w g i s t probes (.error halt)
  | crashed {endpoints : List Endpoint} {credentials : List Credential} {version : Nat}
      {message : Option String} {probes sent : List Request}
      (launched : Launched w g i t endpoints credentials version message probes)
      (checked : g.check i version = .ok ()) (renews : i.RenewsBeyond) (quiet : AreProbes sent) :
      Course w g i s t (probes ++ sent) (.error .crash)
  | ended {endpoints : List Endpoint} {credentials : List Credential} {version : Nat}
      {message : Option String} {fault : InvocationFault} {probes sent : List Request}
      {parts : List (List Request × Visit)}
      (launched : Launched w g i t endpoints credentials version message probes)
      (checked : g.check i version = .ok ())
      (toured : Toured w (g.itinerary i credentials version) endpoints t sent parts)
      (settled : settleLone (parts.map Prod.snd) = .error fault) :
      Course w g i s t (probes ++ sent) (.error (.fault fault))
  | reported {endpoints : List Endpoint} {credentials : List Credential} {version : Nat}
      {message : Option String} {probes sent : List Request}
      {parts : List (List Request × Visit)}
      (launched : Launched w g i t endpoints credentials version message probes)
      (checked : g.check i version = .ok ())
      (toured : Toured w (g.itinerary i credentials version) endpoints t sent parts)
      (settled : settleLone (parts.map Prod.snd) = .ok (parts.map Prod.snd)) :
      Course w g i s t (probes ++ sent)
        (.ok (g.reportOn i version message (parts.map Prod.snd)))

/-! ## §4. What is known stays known. -/

section Later

variable {w : World} {g : Engine} {i : Invocation} {t u : Session} (htu : t.Becomes u)
include htu

theorem Decided.later {endpoints : List Endpoint} {outcomes : List ProbeOutcome}
    {decision : Except InvocationFault Version.Decision}
    (h : Decided g i endpoints t outcomes decision) :
    Decided g i endpoints u outcomes decision :=
  ⟨h.several, h.reconciles, h.heard.imp fun _ _ heard => heard.later htu, h.decided⟩

theorem Adopted.later {endpoints : List Endpoint} {version : Nat} {message : Option String}
    (h : Adopted g i endpoints t version message) : Adopted g i endpoints u version message := by
  cases h with
  | asked alone => exact .asked alone
  | voted decided => exact .voted (decided.later htu)

theorem Launched.later {endpoints : List Endpoint} {credentials : List Credential}
    {version : Nat} {message : Option String} {probes : List Request}
    (h : Launched w g i t endpoints credentials version message probes) :
    Launched w g i u endpoints credentials version message probes :=
  ⟨h.resolved, h.credentialed, h.adopted.later htu, h.quiet⟩

theorem Toured.later {i : Call.Itinerary} {slots : List Endpoint} {sent : List Request}
    {parts : List (List Request × Visit)} (h : Toured w i slots t sent parts) :
    Toured w i slots u sent parts :=
  ⟨h.1.imp fun _ _ visited => visited.later htu, h.2⟩

end Later

/-! ## §5. One stage after another. -/

/-- Where nobody crashes every slot has a visit. -/
theorem visits_of_visited {w : World} {g : Engine} {i : Invocation} {credentials : List Credential}
    {version : Nat} {slots : List Endpoint} {t : Session}
    {parts : List (List Request × Except Halt Visit)}
    (h : List.Forall₂ (fun slot part =>
      Visited w (g.itinerary i credentials version) slot t part.1 part.2) slots parts)
    (whole : ∀ part ∈ parts, isCrash part.2 = false) :
    ∃ visits : List (List Request × Visit),
      parts = visits.map (fun part => (part.1, .ok part.2)) ∧
      List.Forall₂ (fun slot part =>
        Visited w (g.itinerary i credentials version) slot t part.1 (.ok part.2)) slots visits := by
  induction h with
  | nil => exact ⟨[], rfl, .nil⟩
  | @cons slot part slots parts hvisit _ ih =>
      obtain ⟨visits, rfl, hvisits⟩ := ih fun other h => whole other (List.mem_cons_of_mem _ h)
      obtain ⟨own, outcome⟩ := part
      cases outcome with
      | ok visit => exact ⟨(own, visit) :: visits, rfl, .cons hvisit hvisits⟩
      | error halt =>
          -- A plan that is not made is a crash, and there is none.
          obtain rfl := crash_of_visited hvisit
          cases whole _ List.mem_cons_self

/-- A visit that was made did not crash. -/
theorem isCrash_of_mem {visits : List Visit} {outcome : Except Halt Visit}
    (h : outcome ∈ visits.map .ok) : isCrash outcome = false := by
  obtain ⟨v, -, rfl⟩ := List.mem_map.1 h
  rfl

theorem settleVisits_ok (visits : List Visit) :
    settleVisits (visits.map .ok) = (settleLone visits).mapError .fault := by
  have hnone : (visits.map .ok).any isCrash = false :=
    List.any_eq_false.2 fun _ hmem => Bool.eq_false_iff.1 (isCrash_of_mem hmem)
  unfold settleVisits
  rw [hnone, if_neg Bool.false_ne_true, mapM_id_map_ok]
  rfl

/-- **A round crashes exactly where one of its visits does.** -/
theorem settleVisits_eq_crash_iff {outcomes : List (Except Halt Visit)} :
    settleVisits outcomes = .error .crash ↔ ∃ outcome ∈ outcomes, isCrash outcome = true := by
  unfold settleVisits
  by_cases crash : ∃ outcome ∈ outcomes, isCrash outcome = true
  · rw [if_pos (List.any_eq_true.2 crash)]
    exact ⟨fun _ => crash, fun _ => rfl⟩
  · rw [if_neg fun h => crash (List.any_eq_true.1 h)]
    refine ⟨fun h => ?_, fun h => absurd h crash⟩
    rcases error_of_bind h with hvisits | ⟨visits, -, hlone⟩
    · exact ⟨_, error_mem_of_mapM_id hvisits, rfl⟩
    · cases hsettled : settleLone visits with
      | ok settled => rw [hsettled] at hlone; cases hlone
      | error fault => rw [hsettled] at hlone; cases hlone

/-- A lone aggregate ends the invocation or is reported as it is. -/
theorem settleLone_ok {visits settled : List Visit} (h : settleLone visits = .ok settled) :
    settled = visits := by
  unfold settleLone at h
  split at h
  · split at h <;> cases h <;> rfl
  · cases h
    rfl

/-- **What becomes of the round of an invocation**: it crashes, or every slot is
visited.  Where the request was checked nobody is called in a round that
crashes. -/
inductive Rounded (w : World) (g : Engine) (i : Invocation) (credentials : List Credential)
    (version : Nat) (slots : List Endpoint) (t : Session) (sent : List Request) :
    Except Halt (List Visit) → Prop
  | crashed (quiet : g.check i version = .ok () → i.RenewsBeyond ∧ AreProbes sent) :
      Rounded w g i credentials version slots t sent (.error .crash)
  | toured {parts : List (List Request × Visit)}
      (toured : Toured w (g.itinerary i credentials version) slots t sent parts) :
      Rounded w g i credentials version slots t sent
        ((settleLone (parts.map Prod.snd)).mapError .fault)

/-- A round that has visits visited every slot. -/
theorem Rounded.toured_of_ok {w : World} {g : Engine} {i : Invocation}
    {credentials : List Credential} {version : Nat} {slots : List Endpoint} {t : Session}
    {sent : List Request} {visits : List Visit}
    (h : Rounded w g i credentials version slots t sent (.ok visits)) :
    ∃ parts, Toured w (g.itinerary i credentials version) slots t sent parts ∧
      settleLone (parts.map Prod.snd) = .ok visits := by
  generalize hround : (Except.ok visits : Except Halt (List Visit)) = round at h
  cases h with
  | crashed _ => cases hround
  | @toured parts toured =>
      cases hsettled : settleLone (parts.map Prod.snd) with
      | error fault => rw [hsettled] at hround; cases hround
      | ok settled =>
          rw [hsettled] at hround
          cases hround
          exact ⟨parts, toured, hsettled⟩

/-- A round without visits crashed, or a lone aggregate ended it. -/
theorem Rounded.of_error {w : World} {g : Engine} {i : Invocation}
    {credentials : List Credential} {version : Nat} {slots : List Endpoint} {t : Session}
    {sent : List Request} {halt : Halt}
    (h : Rounded w g i credentials version slots t sent (.error halt)) :
    (halt = .crash ∧ (g.check i version = .ok () → i.RenewsBeyond ∧ AreProbes sent)) ∨
      ∃ parts fault, halt = .fault fault ∧
        Toured w (g.itinerary i credentials version) slots t sent parts ∧
        settleLone (parts.map Prod.snd) = .error fault := by
  generalize hround : (Except.error halt : Except Halt (List Visit)) = round at h
  cases h with
  | crashed quiet => exact .inl ⟨Except.error.inj hround, quiet⟩
  | @toured parts toured =>
      cases hsettled : settleLone (parts.map Prod.snd) with
      | error fault =>
          rw [hsettled] at hround
          exact .inr ⟨parts, fault, Except.error.inj hround, toured, hsettled⟩
      | ok settled => rw [hsettled] at hround; cases hround

/-- **The round of an invocation.** -/
theorem makeRound_rounded (w : World) (g : Engine) (i : Invocation)
    (credentials : List Credential) (version : Nat) (slots : List Endpoint) {s : Session}
    (hs : s.Telling) :
    let round := Call.makeRound w (g.itinerary i credentials version) slots
      g.settings.workerLimit s
    ∃ sent, Rounded w g i credentials version slots round.2 sent round.1 ∧
      s.Becomes round.2 ∧ round.2.requests = s.requests ++ sent := by
  obtain ⟨seen, outcomes, -, hall, hround, hbecomes, parts, rfl, hparts, sent, hlog, hperm⟩ :=
    Call.makeRound_fulfils w (g.itinerary i credentials version) slots g.settings.workerLimit hs
  refine ⟨sent, ?_, hbecomes, hlog⟩
  by_cases crash : ∃ part ∈ parts, isCrash part.2 = true
  · obtain ⟨part, hpart, hcrash⟩ := crash
    rw [hround, settleVisits_eq_crash_iff.2 ⟨_, List.mem_map_of_mem hpart, hcrash⟩]
    refine .crashed fun checked => ?_
    obtain ⟨renews, quiet⟩ := quiet_of_crash checked hparts ⟨part, hpart, hcrash⟩
    exact ⟨renews, fun r hr => quiet r (hperm.subset hr)⟩
  · have whole : ∀ part ∈ parts, isCrash part.2 = false := fun part hpart =>
      Bool.eq_false_iff.2 fun hcrash => crash ⟨part, hpart, hcrash⟩
    -- Without a crash no slot is left out.
    obtain rfl : seen = slots := hall fun outcome houtcome => by
      obtain ⟨part, hpart, rfl⟩ := List.mem_map.1 houtcome
      exact whole part hpart
    obtain ⟨visits, rfl, hvisits⟩ := visits_of_visited hparts whole
    have hsettled : settleVisits ((visits.map fun part => (part.1, Except.ok part.2)).map Prod.snd)
        = (settleLone (visits.map Prod.snd)).mapError .fault := by
      rw [← settleVisits_ok, List.map_map, List.map_map]
      rfl
    rw [hround, hsettled]
    rw [List.flatMap_map] at hperm
    exact .toured ⟨hvisits, hperm⟩

/-- What is handed over of a visit: the proof that came with the reply, where
there is one. -/
def handed (w : World) (version : Nat) (v : Visit) : List CredentialEvent :=
  (Answer.proofOf? (v.version.getD version) v.response).toList.map fun proof =>
    .proof (v.called.getD v.slot) proof (w.keepsProof (v.called.getD v.slot) proof)

/-- What a visit means is told from the visit alone, and the session changes
in what was handed over only. -/
theorem interpret_eq (w : World) (mode : Mode) (version : Nat) (v : Visit) (s : Session) :
    interpret w mode version v s
      = ((v, Answer.normalise mode (v.version.getD version) v.response),
        { s with credentialEvents := s.credentialEvents ++ handed w version v }) := by
  unfold interpret handed
  cases Answer.proofOf? (v.version.getD version) v.response with
  | none =>
      show (_, s) = _
      rw [Option.toList_none, List.map_nil, List.append_nil]
  | some proof => rfl

/-- What was handed over of one visit after the other. -/
theorem interpret_visits (w : World) (mode : Mode) (version : Nat) (visits : List Visit) :
    ∀ s : Session, visits.mapM (interpret w mode version) s
      = (visits.map fun v => (v, Answer.normalise mode (v.version.getD version) v.response),
        { s with
          credentialEvents := s.credentialEvents ++ visits.flatMap (handed w version) }) := by
  induction visits with
  | nil =>
      intro s
      show (_, s) = _
      rw [List.flatMap_nil, List.append_nil]
      rfl
  | cons v visits ih =>
      intro s
      have hrun : (v :: visits).mapM (interpret w mode version) s
          = ((interpret w mode version v s).1 ::
              (visits.mapM (interpret w mode version) (interpret w mode version v s).2).1,
            (visits.mapM (interpret w mode version) (interpret w mode version v s).2).2) := by
        rw [List.mapM_cons]
        rfl
      rw [hrun, interpret_eq, ih, List.flatMap_cons, List.append_assoc]
      rfl

/-- What the visits mean is told without asking anybody. -/
theorem interpret_all (w : World) (mode : Mode) (version : Nat) (visits : List Visit)
    (s : Session) : (visits.mapM (interpret w mode version) s).1
        = visits.map (fun v => (v, Answer.normalise mode (v.version.getD version) v.response)) ∧
      s.Alike (visits.mapM (interpret w mode version) s).2 := by
  rw [interpret_visits]
  exact ⟨rfl, rfl, rfl, rfl⟩

/-! ## §6. All stages. -/

/-- The goal of a run: its requests, its outcome, and the course that it
took. -/
def Goes (w : World) (g : Engine) (i : Invocation) (s : Session)
    (outcome : Except Halt Report) (t : Session) : Prop :=
  ∃ sent, t.requests = s.requests ++ sent ∧ Course w g i s t sent outcome

/-- To resolve identifiers sends nothing. -/
theorem named_endpoints (g : Engine) (i : Invocation) (s : Session) :
    (endpoints g i).Ends s fun outcome t =>
      t.requests = s.requests ∧
        outcome = (g.named i).mapError fun fault => .fault (.resolution fault) := by
  unfold endpoints
  exact Attempt.ends_always ⟨rfl, rfl⟩

/-- To ask for a credential sends nothing. -/
theorem credentialed_credentials (w : World) (i : Invocation) (s : Session) :
    (credentials w i).Ends s fun outcome t => t.requests = s.requests ∧
      match outcome with
      | .ok cs => Credentialed w i cs
      | .error halt => i.operation ≠ .getVersion ∧ ∃ reason,
          halt = .fault (.credential i.credentialSubject reason) ∧
          w.credential i.credentialSubject = .error reason := by
  unfold credentials
  by_cases hop : i.operation = .getVersion
  · rw [if_pos hop]
    exact Attempt.ends_pure ⟨rfl, .needless hop⟩
  · rw [if_neg hop]
    refine Attempt.ends_always ?_
    have hask : (Action.askCredential w i.credentialSubject s).1
        = w.credential i.credentialSubject := rfl
    rw [hask]
    cases h : w.credential i.credentialSubject with
    | ok credential => exact Attempt.ends_pure ⟨rfl, .granted hop h⟩
    | error reason => exact Attempt.ends_throw ⟨rfl, hop, reason, rfl, rfl⟩

/-- What is settled once the version is, whoever it was adopted by. -/
theorem adopted_agree (w : World) (g : Engine) (i : Invocation) (endpoints : List Endpoint)
    {s : Session} (hs : s.Telling) :
    (agree w g i endpoints).Ends s fun outcome t =>
      ∃ probes, t.requests = s.requests ++ probes ∧ AreProbes probes ∧ s.Becomes t ∧
        match outcome with
        | .ok (version, message) => Adopted g i endpoints t version message
        | .error halt => ∃ outcomes fault, halt = .fault fault ∧
            Decided g i endpoints t outcomes (.error fault) := by
  unfold agree
  by_cases h : 1 < endpoints.length ∧ i.operation.reconcilesFleet = true
  · obtain ⟨outcomes, hdecided, hbecomes, heard, probes, quiet, hlog⟩ :=
      Version.reconcileFleet_fulfils w g.settings.terms endpoints (g.requested i).1
        (g.requested i).2 g.settings.workerLimit hs
    simp only [h.1, h.2, decide_true, Bool.and_self, if_true]
    refine Attempt.ends_always ?_
    generalize Version.reconcileFleet w g.settings.terms endpoints (g.requested i).1
      (g.requested i).2 g.settings.workerLimit s = fleet at *
    obtain ⟨decision, t⟩ := fleet
    cases decision with
    | ok d => exact ⟨probes, hlog, quiet, hbecomes, .voted ⟨h.1, h.2, heard, hdecided⟩⟩
    | error fault =>
        exact ⟨probes, hlog, quiet, hbecomes, outcomes, fault, rfl, h.1, h.2, heard, hdecided⟩
  · have hnot : ¬(decide (1 < endpoints.length) && i.operation.reconcilesFleet) = true := by
      simpa using h
    simp only [hnot]
    exact ⟨[], (List.append_nil _).symm, areProbes_nil, .refl s, .asked h⟩

/-- From the check of the request on. -/
theorem course_check (w : World) (g : Engine) (i : Invocation) {s t : Session}
    {endpoints : List Endpoint} {credentials : List Credential} {version : Nat}
    {message : Option String} {probes : List Request}
    (ht : t.Telling) (hlog : t.requests = s.requests ++ probes)
    (launched : Launched w g i t endpoints credentials version message probes) :
    Attempt.Ends (do
      Attempt.outcome (g.check i version)
      let visits ← Attempt.action
        (Call.makeRound w (g.itinerary i credentials version) endpoints g.settings.workerLimit)
      let parts ← Attempt.always (visits.mapM (interpret w g.settings.mode version))
      return Report.of i.operation version i.arguments.slivers message parts)
      t (Goes w g i s) := by
  refine Attempt.ends_outcome (fun _ checked => ?_) (fun halt checked => ?_)
  · obtain ⟨sent, hrounded, hbecomes, hsent⟩ :=
      makeRound_rounded w g i credentials version endpoints ht
    refine Attempt.ends_action (fun visits hvisits => ?_) (fun halt hhalt => ?_)
    · rw [hvisits] at hrounded
      obtain ⟨parts, toured, settled⟩ := hrounded.toured_of_ok
      obtain rfl := settleLone_ok settled
      -- What the visits mean is told after the last request.
      obtain ⟨hresults, halike⟩ := interpret_all w g.settings.mode version
        (parts.map Prod.snd) _
      have hall := hbecomes.trans halike.becomes
      refine Attempt.ends_always (Attempt.ends_pure ⟨probes ++ sent, ?_, ?_⟩)
      · rw [halike.requests, hsent, hlog, List.append_assoc]
      · rw [hresults]
        exact .reported (launched.later hall) checked (toured.later halike.becomes) settled
    · refine ⟨probes ++ sent, ?_, ?_⟩
      · rw [hsent, hlog, List.append_assoc]
      · rw [hhalt] at hrounded
        rcases hrounded.of_error with ⟨rfl, quiet⟩ | ⟨parts, fault, rfl, toured, settled⟩
        · obtain ⟨renews, hprobes⟩ := quiet checked
          exact .crashed (launched.later hbecomes) checked renews hprobes
        · exact .ended (launched.later hbecomes) checked toured settled
  · exact ⟨probes, hlog, .rejected launched checked⟩

/-- From the vote of the fleet on. -/
theorem course_agree (w : World) (g : Engine) (i : Invocation) {s t : Session}
    {endpoints : List Endpoint} {credentials : List Credential}
    (ht : t.Telling) (hlog : t.requests = s.requests)
    (resolved : g.named i = .ok endpoints) (credentialed : Credentialed w i credentials) :
    Attempt.Ends (do
      let (version, message) ← agree w g i endpoints
      Attempt.outcome (g.check i version)
      let visits ← Attempt.action
        (Call.makeRound w (g.itinerary i credentials version) endpoints g.settings.workerLimit)
      let parts ← Attempt.always (visits.mapM (interpret w g.settings.mode version))
      return Report.of i.operation version i.arguments.slivers message parts)
      t (Goes w g i s) := by
  refine (adopted_agree w g i endpoints ht).bind (fun adopted u hu => ?_) (fun halt u hu => ?_)
  · obtain ⟨probes, hsent, quiet, hbecomes, hadopted⟩ := hu
    exact course_check w g i (hbecomes.telling ht) (hsent.trans (by rw [hlog]))
      ⟨resolved, credentialed, hadopted, quiet⟩
  · obtain ⟨probes, hsent, quiet, _, outcomes, fault, rfl, hdecided⟩ := hu
    exact ⟨probes, hsent.trans (by rw [hlog]), .undecided resolved credentialed hdecided quiet⟩

/-- **Every run takes one of the courses.** -/
theorem course_run (w : World) (g : Engine) (i : Invocation) (s : Session) :
    Attempt.Ends (run w g i) s (Goes w g i s) := by
  unfold run
  refine Attempt.ends_always ?_
  by_cases hstop : (Action.stopped w s).1 = true
  · rw [if_pos hstop]
    exact ⟨[], (List.append_nil _).symm, .calledOff hstop⟩
  · rw [if_neg hstop]
    have hlook : (Action.stopped w s).2.requests = s.requests := rfl
    refine (named_endpoints g i _).bind (fun endpoints t ht => ?_) (fun halt t ht => ?_)
    · obtain ⟨hlog, hresolved⟩ := ht
      have resolved : g.named i = .ok endpoints := by
        cases h : g.named i with
        | ok es => rw [h] at hresolved; cases hresolved; rfl
        | error fault => rw [h] at hresolved; cases hresolved
      refine (credentialed_credentials w i t).bind (fun cs u hu => ?_) (fun halt u hu => ?_)
      · obtain ⟨hlog', credentialed⟩ := hu
        -- With an empty memo nothing in it is out of order.
        refine Attempt.ends_always
          (course_agree w g i (fun known hmem => nomatch hmem) ?_ resolved credentialed)
        exact hlog'.trans (hlog.trans hlook)
      · obtain ⟨hlog', hop, reason, rfl, hrefused⟩ := hu
        refine ⟨[], ?_, .refused resolved hop hrefused⟩
        rw [List.append_nil, hlog', hlog, hlook]
    · obtain ⟨hlog, hresolved⟩ := ht
      refine ⟨[], (hlog.trans hlook).trans (List.append_nil _).symm, ?_⟩
      cases h : g.named i with
      | ok es => rw [h] at hresolved; cases hresolved
      | error reason =>
          rw [h] at hresolved
          cases hresolved
          exact .unresolved h

end Engine

end Federation
