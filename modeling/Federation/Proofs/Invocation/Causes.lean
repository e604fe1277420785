/-
  Federation.Proofs.Invocation.Causes
  ───────────────────────────────────
  **WHY THERE IS NO REPORT.**

  What goes wrong at an aggregate is told in its outcome and does not end the
  invocation.  `Cause` lists what does: the signal to stop before anything
  was begun, a credential that is refused, a request that does not fit, and a
  fleet that has a say in the version but could not be heard.  Where there is
  a lone aggregate its skip or the failure of its call is a cause as well.

  Each cause is told by the session at the threshold, so whether there is a
  report is known from the causes alone.

  A crash is no cause: it leaves the caller with neither a report nor a fault.
  `Crash` lists the two places where a time that leaves the calendar is met.

  Main results:
    * `run_eq_crash_iff` — when an invocation returns nothing;
    * `report_or_cause` — what returns ends in a complete report exactly where
      there is no cause.
-/
import Federation.Proofs.Answer.Report
import Federation.Proofs.Invocation.Acceptance
import Federation.Proofs.Invocation.Meeting
import Federation.Proofs.Invocation.Stages

namespace Federation

open Answer (Report)
open Call (Visit settleLone settleVisits)
open Introspection (ProbeFault ProbeOutcome isAborted)

/-! ## §1. Errands for one item. -/

/-- An errand for a single item is run alone. -/
theorem forEachUntil_singleton {α β : Type} (w : World) (limit : Nat) (fatal : β → Bool)
    (task : α → Errand Session β) (a : α) (s : Session) :
    Action.forEachUntil w limit fatal task [a] s
      = ([((task a).alone { s with rounds := s.rounds + 1 }).1],
        ((task a).alone { s with rounds := s.rounds + 1 }).2) :=
  performUntil_singleton limit (w.schedule s.rounds) fatal task a _

namespace Engine

variable {w : World} {g : Engine} {i : Invocation} {s : Session} {endpoints : List Endpoint}

/-! ## §2. The fleet. -/

/-- Every aggregate of the fleet is probed. -/
theorem length_canvass (w : World) (g : Engine) (endpoints : List Endpoint) (s : Session) :
    (canvass w g endpoints s).1.length = endpoints.length := length_forEach w _ _ endpoints s

/-- What is said where nobody answered. -/
def silence (endpoints : List Endpoint) (outcomes : List ProbeOutcome) : List String :=
  (Version.unreachable (endpoints.zip outcomes)).map fun (label, words) => label ++ ": " ++ words

/-- **Why there is no vote**: a probe was called off, or all failed. -/
inductive Voteless (endpoints : List Endpoint) (outcomes : List ProbeOutcome) :
    InvocationFault → Prop
  | spoilt {o : ProbeOutcome} (probed : o ∈ outcomes) (calledOff : isAborted o = true) :
      Voteless endpoints outcomes .aborted
  | unheard (silent : ∀ o ∈ outcomes, ∃ fault, o = .error fault) :
      Voteless endpoints outcomes (.noReachableEndpoints (silence endpoints outcomes))

theorem speakers_isEmpty_iff {outcomes : List ProbeOutcome}
    (hlen : outcomes.length = endpoints.length) :
    (Version.speakers (endpoints.zip outcomes)).isEmpty = true
      ↔ ∀ o ∈ outcomes, ∃ fault, o = .error fault := by
  rw [List.isEmpty_iff, Version.speakers, List.filterMap_eq_nil_iff]
  have hsnd : (endpoints.zip outcomes).map Prod.snd = outcomes :=
    List.map_snd_zip (Nat.le_of_eq hlen)
  constructor
  · intro h o ho
    rw [← hsnd] at ho
    obtain ⟨⟨e, o⟩, hmem, rfl⟩ := List.mem_map.1 ho
    have := h (e, o) hmem
    cases o with
    | error fault => exact ⟨fault, rfl⟩
    | ok p => cases this
  · intro h probe hmem
    obtain ⟨fault, hfault⟩ := h probe.2 (hsnd ▸ List.mem_map_of_mem hmem)
    obtain ⟨e, o⟩ := probe
    cases hfault
    rfl

theorem any_isAborted_iff {outcomes : List ProbeOutcome}
    (hlen : outcomes.length = endpoints.length) :
    ((endpoints.zip outcomes).any fun probe => isAborted probe.2) = true
      ↔ ∃ o ∈ outcomes, isAborted o = true := by
  have hsnd : (endpoints.zip outcomes).map Prod.snd = outcomes :=
    List.map_snd_zip (Nat.le_of_eq hlen)
  show (endpoints.zip outcomes).any (isAborted ∘ Prod.snd) = true ↔ _
  rw [← List.any_map, hsnd, List.any_eq_true]

/-- **There is a verdict or a reason why there is none.** -/
theorem verdict_cases (g : Engine) (i : Invocation) {outcomes : List ProbeOutcome}
    (hlen : outcomes.length = endpoints.length) :
    match g.verdict i endpoints outcomes with
    | .error fault => Voteless endpoints outcomes fault
    | .ok _ => ∀ fault, ¬Voteless endpoints outcomes fault := by
  have hany := any_isAborted_iff hlen
  have hempty := speakers_isEmpty_iff hlen
  unfold verdict Version.decideFrom
  split_ifs with hspoilt hsilent
  · obtain ⟨o, ho, hcalled⟩ := hany.1 hspoilt
    exact .spoilt ho hcalled
  · exact .unheard (hempty.1 hsilent)
  · intro fault h
    cases h with
    | spoilt probed calledOff => exact hspoilt (hany.2 ⟨_, probed, calledOff⟩)
    | unheard silent => exact hsilent (hempty.2 silent)

/-- One probe that was called off spoils the vote. -/
theorem verdict_spoilt (g : Engine) (i : Invocation) {outcomes : List ProbeOutcome}
    (hlen : outcomes.length = endpoints.length) {o : ProbeOutcome} (ho : o ∈ outcomes)
    (calledOff : isAborted o = true) : g.verdict i endpoints outcomes = .error .aborted := by
  unfold verdict Version.decideFrom
  rw [if_pos ((any_isAborted_iff hlen).2 ⟨o, ho, calledOff⟩)]
  rfl

/-! ## §3. The request. -/

/-- **Why a request does not fit** at a version. -/
inductive Unfit (g : Engine) (i : Invocation) (version : Nat) : InvocationFault → Prop
  | arguments {fault : OperationFault} (hop : i.operation ≠ .getVersion)
      (invalid : i.operation.validate version i.arguments = .error fault)
      (defined : ∀ o v, fault ≠ .unavailable o v) : Unfit g i version (.operation fault)
  | options {fault : Call.OptionFault} (hop : i.operation ≠ .getVersion)
      (built : Call.buildOptions ⟨g.settings.mode, i.operation, version⟩ (g.intent i) i.arguments []
        = .error fault) (inner : fault.leavesCalendar = false) : Unfit g i version (.options fault)

/-- The arguments are in order, or the operation does not exist at the
version, which passes this check. -/
theorem checkArguments_cases (g : Engine) {i : Invocation} (version : Nat)
    (hop : i.operation ≠ .getVersion) :
    match checkArguments i version with
    | .error halt => ∃ fault, halt = .fault fault ∧ Unfit g i version fault
    | .ok _ => ∀ fault, i.operation.validate version i.arguments = .error fault →
        ∃ o v, fault = .unavailable o v := by
  unfold checkArguments
  cases hvalid : i.operation.validate version i.arguments with
  | ok _ => exact fun fault h => nomatch h
  | error fault =>
      cases fault with
      | unavailable o v => exact fun fault h => ⟨o, v, (Except.error.inj h).symm⟩
      | _ => exact ⟨_, rfl, .arguments hop hvalid nofun⟩

/-- **A request fits or there is a reason why it does not**, unless the check
crashes. -/
theorem check_cases (g : Engine) (i : Invocation) (version : Nat) :
    match g.check i version with
    | .error (.fault fault) => Unfit g i version fault
    | .error .crash => True
    | .ok _ => ∀ fault, ¬Unfit g i version fault := by
  unfold check
  by_cases hop : i.operation = .getVersion
  · rw [if_pos hop]
    intro fault h
    cases h with
    | arguments hop' _ _ => exact hop' hop
    | options hop' _ _ => exact hop' hop
  · rw [if_neg hop]
    have hfirst := checkArguments_cases g version hop
    cases harguments : checkArguments i version with
    | error halt =>
        rw [harguments] at hfirst
        obtain ⟨fault, rfl, unfit⟩ := hfirst
        exact unfit
    | ok _ =>
        rw [harguments] at hfirst
        show match checkOptions g i version with
          | .error (.fault fault) => Unfit g i version fault
          | .error .crash => True
          | .ok _ => ∀ fault, ¬Unfit g i version fault
        unfold checkOptions
        cases hbuilt : Call.buildOptions ⟨g.settings.mode, i.operation, version⟩ (g.intent i)
            i.arguments [] with
        | error fault =>
            cases inner : fault.leavesCalendar with
            | true => simp only [inner, if_true]
            | false =>
                simp only [inner, Bool.false_eq_true, if_false]
                exact .options hop hbuilt inner
        | ok draft =>
            intro fault h
            cases h with
            | arguments _ invalid defined =>
                obtain ⟨o, v, hfault⟩ := hfirst _ invalid
                exact defined o v hfault
            | options _ built _ => cases hbuilt.symm.trans built

/-! ## §4. The lone aggregate. -/

/-- The visit of a lone aggregate. -/
def loneVisit (w : World) (g : Engine) (i : Invocation) (slot : Endpoint)
    (credentials : List Credential) (s : Session) : Except Halt Visit :=
  ((Call.visit w (g.itinerary i credentials (g.requested i).1) slot).alone
    { s with rounds := s.rounds + 1 }).1

/-- **What a lone aggregate's visit ends the invocation with**: it was
skipped, or its call did not get through. -/
inductive Forsaken (v : Visit) : InvocationFault → Prop
  | calledOff (skipped : v.response = .skipped .aborted) : Forsaken v .aborted
  | skipped {reason : Call.SkipReason} (skipped : v.response = .skipped reason)
      (other : reason ≠ .aborted) : Forsaken v (.endpointSkipped v.slot.label reason)
  | failed {failure : Call.TransportFailure} (failed : v.response = .failed failure) :
      Forsaken v (.endpointFailed v.slot.label failure)

theorem settleLone_cases (v : Visit) :
    match settleLone [v] with
    | .error fault => Forsaken v fault
    | .ok _ => ∀ fault, ¬Forsaken v fault := by
  cases hresponse : v.response with
  | skipped reason =>
      by_cases hreason : reason = .aborted
      · subst hreason
        simp only [settleLone, hresponse]
        exact .calledOff hresponse
      · have hsettled : settleLone [v] = .error (.endpointSkipped v.slot.label reason) := by
          cases reason <;> first | exact absurd rfl hreason | simp only [settleLone, hresponse]
        rw [hsettled]
        exact .skipped hresponse hreason
  | failed failure =>
      simp only [settleLone, hresponse]
      exact .failed hresponse
  | replied reply =>
      simp only [settleLone, hresponse]
      rintro fault (h | ⟨h, -⟩ | h) <;> cases hresponse.symm.trans h
  | probed capabilities fromCache =>
      simp only [settleLone, hresponse]
      rintro fault (h | ⟨h, -⟩ | h) <;> cases hresponse.symm.trans h

/-- A visit is made or it crashes. -/
theorem visit_cases (w : World) (g : Engine) (i : Invocation) (slot : Endpoint)
    (credentials : List Credential) (version : Nat) {s : Session} (hs : s.Telling) :
    (∃ v, ((Call.visit w (g.itinerary i credentials version) slot).alone s).1 = .ok v) ∨
      ((Call.visit w (g.itinerary i credentials version) slot).alone s).1 = .error .crash := by
  obtain ⟨-, own, -, hgoal⟩ :=
    (Call.meets_visit w (g.itinerary i credentials version) slot hs).alone
  have hvisited := hgoal _ (.refl _)
  generalize ((Call.visit w (g.itinerary i credentials version) slot).alone s).1 = outcome
    at hvisited ⊢
  cases outcome with
  | ok v => exact .inl ⟨v, rfl⟩
  | error halt => exact .inr (congrArg Except.error (crash_of_visited hvisited))

/-- The round of a lone aggregate is its visit. -/
theorem goRound_lone (w : World) (g : Engine) (i : Invocation) (slot : Endpoint)
    (credentials : List Credential) (version : Nat) (s : Session) :
    (goRound w g i [slot] credentials version s).1
      = settleVisits [((Call.visit w (g.itinerary i credentials version) slot).alone
          { s with rounds := s.rounds + 1 }).1] := by
  rw [goRound_eq]
  unfold visitAll
  rw [forEachUntil_singleton]

/-- A lone visit that was made decides by itself. -/
theorem settleVisits_lone (v : Visit) :
    settleVisits [.ok v] = (settleLone [v]).mapError .fault := settleVisits_ok [v]

/-! ## §5. All causes. -/

/-- **What ends an invocation without a report.** -/
inductive Cause (w : World) (g : Engine) (i : Invocation) (s : Session)
    (endpoints : List Endpoint) : InvocationFault → Prop
  /-- Everything was called off before anything was begun. -/
  | calledOff (stopped : (Action.stopped w s).1 = true) : Cause w g i s endpoints .aborted
  | refused {reason : String} (hop : i.operation ≠ .getVersion)
      (refused : w.credential i.credentialSubject = .error reason) :
      Cause w g i s endpoints (.credential i.credentialSubject reason)
  | voteless {fault : InvocationFault} (votes : Votes i endpoints)
      (voteless : Voteless endpoints (canvass w g endpoints (threshold w g i s)).1 fault) :
      Cause w g i s endpoints fault
  /-- The request does not fit at the version that was adopted. -/
  | unfit {version : Nat} {message : Option String} {fault : InvocationFault}
      (adopted : (adopt w g i endpoints (threshold w g i s)).1 = .ok (version, message))
      (unfit : Unfit g i version fault) : Cause w g i s endpoints fault
  | forsaken {slot : Endpoint} {credentials : List Credential} {v : Visit}
      {fault : InvocationFault} (lone : endpoints = [slot])
      (admitted : letIn w g i s = .ok ([slot], credentials))
      (visited : loneVisit w g i slot credentials (threshold w g i s) = .ok v)
      (forsaken : Forsaken v fault) : Cause w g i s endpoints fault

/-- What is not let in has a cause. -/
theorem letIn_cases (resolved : g.named i = .ok endpoints) :
    match letIn w g i s with
    | .error fault => Cause w g i s endpoints fault
    | .ok found => found.1 = endpoints ∧ (Action.stopped w s).1 = false ∧
        (i.operation ≠ .getVersion → ∀ reason,
          w.credential i.credentialSubject ≠ .error reason) := by
  unfold letIn
  rw [resolved]
  by_cases hstop : (Action.stopped w s).1 = true
  · rw [if_pos hstop]
    exact .calledOff hstop
  · rw [if_neg hstop]
    have hgo : (Action.stopped w s).1 = false := by simpa using hstop
    by_cases hop : i.operation = .getVersion
    · simp only [hop, if_true]
      exact ⟨trivial, hgo, fun h => absurd rfl h⟩
    · simp only [hop, if_false]
      cases hcredential : w.credential i.credentialSubject with
      | error reason => exact .refused hop hcredential
      | ok credential => exact ⟨rfl, hgo, fun _ _ h => nomatch h⟩

/-- The version is adopted or there is a cause. -/
theorem adopt_cases (w : World) (g : Engine) (i : Invocation) (endpoints : List Endpoint)
    (s : Session) :
    match (adopt w g i endpoints s).1 with
    | .error halt => ∃ fault, halt = .fault fault ∧ Votes i endpoints ∧
        Voteless endpoints (canvass w g endpoints s).1 fault
    | .ok _ => Votes i endpoints →
        ∀ fault, ¬Voteless endpoints (canvass w g endpoints s).1 fault := by
  by_cases votes : Votes i endpoints
  · rw [adopt_of_votes w g votes]
    have hverdict := verdict_cases g i (length_canvass w g endpoints s)
    dsimp only
    cases h : g.verdict i endpoints (canvass w g endpoints s).1 with
    | error fault =>
        rw [h] at hverdict
        exact ⟨fault, rfl, votes, hverdict⟩
    | ok adopted =>
        rw [h] at hverdict
        exact fun _ => hverdict
  · rw [adopt_of_not_votes w g votes]
    exact fun h => absurd h votes

/-- What is known stays in order until a version is adopted. -/
theorem telling_adopt (w : World) (g : Engine) (i : Invocation) (endpoints : List Endpoint)
    {s : Session} (hs : s.Telling) : (adopt w g i endpoints s).2.Telling := by
  obtain ⟨probes, -, -, hbecomes, -⟩ := adopted_agree w g i endpoints hs
  exact hbecomes.telling hs

/-- A round has a visit for each slot, or ends through a lone aggregate, unless
it crashes. -/
theorem goRound_cases (w : World) (g : Engine) (i : Invocation) (endpoints : List Endpoint)
    (credentials : List Credential) (version : Nat) {s : Session} (hs : s.Telling) :
    match (goRound w g i endpoints credentials version s).1 with
    | .error (.fault _) => ∃ slot, endpoints = [slot]
    | .error .crash => True
    | .ok visits => visits.map (·.slot) = endpoints := by
  obtain ⟨sent, hrounded, -, -⟩ := makeRound_rounded w g i credentials version endpoints hs
  show match (Call.makeRound w (g.itinerary i credentials version) endpoints
      g.settings.workerLimit s).1 with
    | .error (.fault _) => ∃ slot, endpoints = [slot]
    | .error .crash => True
    | .ok visits => visits.map (·.slot) = endpoints
  generalize (Call.makeRound w (g.itinerary i credentials version) endpoints
    g.settings.workerLimit s).1 = round at hrounded
  cases hrounded with
  | crashed _ => trivial
  | @toured parts toured =>
      have hslots := slots_of_toured toured
      cases hsettled : settleLone (parts.map Prod.snd) with
      | error fault =>
          obtain ⟨only, hvisits, -⟩ := Call.settleLone_error hsettled
          exact ⟨only.slot, by rw [← hslots, hvisits]; rfl⟩
      | ok visits =>
          obtain rfl := settleLone_ok hsettled
          exact hslots

/-- For a lone aggregate nothing is asked before its visit. -/
theorem adopt_lone {slot : Endpoint} {version : Nat} {message : Option String} {t : Session}
    (h : adopt w g i [slot] s = (.ok (version, message), t)) :
    version = (g.requested i).1 ∧ t = s := by
  rw [adopt_of_not_votes w g (fun votes => by simpa using votes.1)] at h
  cases h
  exact ⟨rfl, rfl⟩

/-- A round that ends through a lone aggregate has a cause in its visit. -/
theorem cause_of_lone {slot : Endpoint} {credentials : List Credential} {fault : InvocationFault}
    (admitted : letIn w g i s = .ok ([slot], credentials))
    (round : (goRound w g i [slot] credentials (g.requested i).1 (threshold w g i s)).1
      = .error (.fault fault)) : Cause w g i s [slot] fault := by
  rw [goRound_lone] at round
  rcases visit_cases w g i slot credentials (g.requested i).1
      (s := { threshold w g i s with rounds := (threshold w g i s).rounds + 1 })
      (fun _ hmem => nomatch hmem) with ⟨v, visited⟩ | hcrash
  · rw [visited, settleVisits_lone] at round
    have hsettled := settleLone_cases v
    cases h : settleLone [v] with
    | ok visits => rw [h] at round; cases round
    | error reason =>
        rw [h] at round hsettled
        cases round
        exact .forsaken rfl admitted visited hsettled
  · rw [hcrash] at round
    cases round

/-- Where every stage was passed there is no cause. -/
theorem Passes.not_cause {endpoints : List Endpoint} {credentials : List Credential}
    {version : Nat} {message : Option String} {t : Session} {visits : List Visit}
    (h : Passes w g i s endpoints credentials version message t visits)
    (resolved : g.named i = .ok endpoints) (fault : InvocationFault) :
    ¬Cause w g i s endpoints fault := by
  obtain ⟨admitted, adopted, checked, round⟩ := h
  have hletIn := letIn_cases (w := w) (s := s) resolved
  rw [admitted] at hletIn
  obtain ⟨-, hgo, hgranted⟩ := hletIn
  intro cause
  cases cause with
  | calledOff stopped => rw [hgo] at stopped; cases stopped
  | refused hop refused => exact hgranted hop _ refused
  | voteless votes voteless =>
      have hadopt := adopt_cases w g i endpoints (threshold w g i s)
      rw [adopted] at hadopt
      exact hadopt votes _ voteless
  | unfit adopted' unfit =>
      rw [adopted] at adopted'
      cases adopted'
      have hcheck := check_cases g i version
      rw [checked] at hcheck
      exact hcheck _ unfit
  | @forsaken _ _ v _ lone admitted' visited forsaken =>
      subst lone
      obtain ⟨rfl, rfl⟩ := adopt_lone adopted
      cases admitted.symm.trans admitted'
      unfold loneVisit at visited
      rw [goRound_lone, visited, settleVisits_lone] at round
      have hsettled := settleLone_cases v
      cases h : settleLone [v] with
      | error fault => rw [h] at round; cases round
      | ok visits =>
          rw [h] at hsettled
          exact hsettled _ forsaken

/-! ## §6. Crashes. -/

/-- **When an invocation returns nothing**: the check of the options meets a
time that leaves the calendar, or the plan for an aggregate does. -/
inductive Crash (w : World) (g : Engine) (i : Invocation) (s : Session)
    (endpoints : List Endpoint) : Prop
  | checked {credentials : List Credential} {version : Nat} {message : Option String}
      {name text : String} (admitted : letIn w g i s = .ok (endpoints, credentials))
      (adopted : (adopt w g i endpoints (threshold w g i s)).1 = .ok (version, message))
      (hop : i.operation ≠ .getVersion) (arguments : checkArguments i version = .ok ())
      (reaches : Call.Reaches ⟨g.settings.mode, i.operation, version⟩ (g.intent i) name text)
      (overhangs : Time.Overhangs text) : Crash w g i s endpoints
  | planned {credentials : List Credential} {version : Nat} {message : Option String} {t : Session}
      (admitted : letIn w g i s = .ok (endpoints, credentials))
      (adopted : adopt w g i endpoints (threshold w g i s) = (.ok (version, message), t))
      (checked : g.check i version = .ok ())
      (met : .error .crash ∈ (visitAll w g i endpoints credentials version t).1) :
      Crash w g i s endpoints

theorem goRound_eq_crash_iff {credentials : List Credential} {version : Nat} {t : Session} :
    (goRound w g i endpoints credentials version t).1 = .error .crash ↔
      .error .crash ∈ (visitAll w g i endpoints credentials version t).1 := by
  rw [goRound_eq, settleVisits_eq_crash_iff]
  constructor
  · rintro ⟨outcome, hmem, hcrash⟩
    exact isCrash_iff.1 hcrash ▸ hmem
  · exact fun hmem => ⟨_, hmem, rfl⟩

/-- **An invocation returns nothing exactly where it crashes.** -/
theorem run_eq_crash_iff (resolved : g.named i = .ok endpoints) :
    (ExceptT.run (run w g i) s).1 = .error .crash ↔ Crash w g i s endpoints := by
  constructor
  · intro h
    cases admitted : letIn w g i s with
    | error fault => cases (run_of_refused admitted).1.symm.trans h
    | ok found =>
        obtain ⟨found, credentials⟩ := found
        have hletIn := letIn_cases (w := w) (s := s) resolved
        rw [admitted] at hletIn
        obtain rfl : found = endpoints := hletIn.1
        rw [run_of_admitted admitted, run_undertake] at h
        have hadopt := adopt_cases w g i found (threshold w g i s)
        cases adopted : adopt w g i found (threshold w g i s) with
        | mk agreed t =>
        rw [adopted] at h hadopt
        cases agreed with
        | error halt =>
            obtain ⟨fault, rfl, -⟩ := hadopt
            cases h
        | ok agreed =>
            obtain ⟨version, message⟩ := agreed
            dsimp only at h
            cases checked : g.check i version with
            | error halt =>
                rw [checked] at h
                obtain rfl := Except.error.inj h
                obtain ⟨hop, arguments, name, text, reaches, overhangs⟩ :=
                  check_eq_crash_iff.1 checked
                exact .checked admitted (by rw [adopted]) hop arguments reaches overhangs
            | ok _ =>
                rw [checked] at h
                dsimp only [Except.bind] at h
                cases round : (goRound w g i found credentials version t).1 with
                | ok visits => rw [round] at h; cases h
                | error halt =>
                    rw [round] at h
                    obtain rfl := Except.error.inj h
                    exact .planned admitted adopted checked (goRound_eq_crash_iff.1 round)
  · rintro (⟨admitted, adopted, hop, arguments, reaches, overhangs⟩ |
      ⟨admitted, adopted, checked, met⟩)
    · rw [run_of_admitted admitted, run_undertake]
      cases hadopted : adopt w g i endpoints (threshold w g i s) with
      | mk agreed t =>
      rw [hadopted] at adopted
      obtain rfl : agreed = _ := adopted
      dsimp only
      rw [check_eq_crash_iff.2 ⟨hop, arguments, _, _, reaches, overhangs⟩]
      rfl
    · rw [run_of_admitted admitted, run_undertake, adopted]
      dsimp only
      rw [checked]
      dsimp only [Except.bind]
      rw [goRound_eq_crash_iff.2 met]
      rfl

/-- **What crashes asks for a time that leaves the calendar.** -/
theorem Crash.leavesCalendar (h : Crash w g i s endpoints) : i.LeavesCalendar := by
  cases h with
  | checked _ _ _ _ reaches overhangs =>
      have hwished := reaches.wished
      rw [(times_intent g i).1, (times_intent g i).2] at hwished
      exact .option hwished overhangs
  | @planned credentials version message t admitted adopted checked met =>
      have htelling := telling_adopt w g i endpoints (telling_threshold (w := w) (g := g) (i := i)
        (s := s))
      rw [adopted] at htelling
      obtain ⟨sent, hrounded, -, -⟩ :=
        makeRound_rounded w g i credentials version endpoints htelling
      have hcrash : (Call.makeRound w (g.itinerary i credentials version) endpoints
          g.settings.workerLimit t).1 = .error .crash := goRound_eq_crash_iff.2 met
      rw [hcrash] at hrounded
      rcases hrounded.of_error with ⟨-, quiet⟩ | ⟨parts, fault, hfault, -, -⟩
      · exact .renewal (quiet checked).1
      · cases hfault

/-! ## §7. All ends. -/

/-- **How an invocation may end**: with a fault only for a cause, with a report
only where there is none, and then it tells of each endpoint; and without
either exactly where it crashes. -/
inductive Ending (w : World) (g : Engine) (i : Invocation) (s : Session)
    (endpoints : List Endpoint) : Except Halt Report → Prop
  | faulted {fault : InvocationFault} (cause : Cause w g i s endpoints fault)
      (returns : ¬Crash w g i s endpoints) : Ending w g i s endpoints (.error (.fault fault))
  | crashed (crash : Crash w g i s endpoints) (leaves : i.LeavesCalendar) :
      Ending w g i s endpoints (.error .crash)
  | reported {report : Report} (without : ∀ fault, ¬Cause w g i s endpoints fault)
      (returns : ¬Crash w g i s endpoints) (tells : report.Tells endpoints) :
      Ending w g i s endpoints (.ok report)

/-- What returns has a cause or a report. -/
theorem cause_or_report (resolved : g.named i = .ok endpoints) :
    match (ExceptT.run (run w g i) s).1 with
    | .error (.fault fault) => Cause w g i s endpoints fault
    | .error .crash => True
    | .ok report => (∀ fault, ¬Cause w g i s endpoints fault) ∧ report.Tells endpoints := by
  have hletIn := letIn_cases (w := w) (s := s) resolved
  cases admitted : letIn w g i s with
  | error fault =>
      rw [admitted] at hletIn
      rw [(run_of_refused admitted).1]
      exact hletIn
  | ok found =>
      obtain ⟨found, credentials⟩ := found
      rw [admitted] at hletIn
      obtain rfl : found = endpoints := hletIn.1
      rw [run_of_admitted admitted, run_undertake]
      have hadopt := adopt_cases w g i found (threshold w g i s)
      have htelling := telling_adopt w g i found (telling_threshold (w := w) (g := g) (i := i)
        (s := s))
      cases hadopted : adopt w g i found (threshold w g i s) with
      | mk agreed t =>
      rw [hadopted] at hadopt htelling
      cases agreed with
      | error halt =>
          obtain ⟨fault, rfl, votes, voteless⟩ := hadopt
          exact .voteless votes voteless
      | ok adopted =>
          obtain ⟨version, message⟩ := adopted
          have hcheck := check_cases g i version
          dsimp only
          cases checked : g.check i version with
          | error halt =>
              rw [checked] at hcheck
              cases halt with
              | crash => trivial
              | fault fault => exact .unfit (by rw [hadopted]) hcheck
          | ok _ =>
              dsimp only [Except.bind]
              have hround := goRound_cases w g i found credentials version htelling
              cases round : (goRound w g i found credentials version t).1 with
              | error halt =>
                  rw [round] at hround
                  cases halt with
                  | crash => trivial
                  | fault fault =>
                      obtain ⟨slot, rfl⟩ := hround
                      obtain ⟨rfl, rfl⟩ := adopt_lone hadopted
                      exact cause_of_lone admitted round
              | ok visits =>
                  rw [round] at hround
                  have passes : Passes w g i s found credentials version message t visits :=
                    ⟨admitted, hadopted, checked, round⟩
                  refine ⟨passes.not_cause resolved, Report.tells_of_slots ?_
                    (Directory.Sources.resolve_pairwise resolved)⟩
                  rw [slots_reportOn]
                  exact hround

/-- **What returns ends in a complete report exactly where there is no cause**,
whatever the aggregates answer, whenever the signal to stop comes, and however
the work is shared; and it returns unless a time leaves the calendar where it
is met. -/
theorem report_or_cause (w : World) (g : Engine) (i : Invocation) (s : Session)
    {endpoints : List Endpoint} (resolved : g.named i = .ok endpoints) :
    Ending w g i s endpoints (ExceptT.run (run w g i) s).1 := by
  have hcrash := run_eq_crash_iff (w := w) (s := s) resolved
  have hends := cause_or_report (w := w) (s := s) resolved
  cases hrun : (ExceptT.run (run w g i) s).1 with
  | ok report =>
      rw [hrun] at hcrash hends
      exact .reported hends.1 (fun crash => nomatch hcrash.2 crash) hends.2
  | error halt =>
      rw [hrun] at hcrash hends
      cases halt with
      | crash => exact .crashed (hcrash.1 rfl) (hcrash.1 rfl).leavesCalendar
      | fault fault => exact .faulted hends fun crash => nomatch hcrash.2 crash

/-! ## §8. Two aggregates in ruins. -/

namespace Ruin

/-- The call to the first URL gets lost, and what the second one says of itself makes
no sense. -/
def world : World where
  transport := fun _ r =>
    if r.url = "http://[::1]" then ⟨.error "lost", false⟩ else ⟨.ok .null, false⟩
  clock := fun _ => Time.Instant.epoch
  writes := fun _ => true
  credential := fun _ => .ok (Credential.sfa "document")
  keepsProof := fun _ _ => true

end Ruin

set_option maxRecDepth 10000 in
/-- Where neither aggregate is of any use, both are told of all the same. -/
theorem ruin_reported :
    ∃ report, (ExceptT.run (plain.run Ruin.world Crossing.invocation)
        (Session.start .absent)).1 = .ok report ∧
      report.outcomes.map (·.result.isSuccess) = [false, false] ∧
      report.Tells Uniform.endpoints := by
  have hrun : failuresOf? Ruin.world plain Crossing.invocation (Session.start .absent)
      = some (2,
        [some (.skipped (.transport ⟨.other, "lost"⟩)),
          some (.skipped (.malformedCapabilities "reply is not a map"))]) := by
    decide +kernel
  obtain ⟨report, hreport, -, hfailures⟩ := run_of_failuresOf? hrun
  have hnamed : plain.named Crossing.invocation = .ok Uniform.endpoints := by decide +kernel
  have htells := report_or_cause Ruin.world plain Crossing.invocation (Session.start .absent)
    hnamed
  rw [hreport] at htells
  cases htells with
  | reported _ _ tells =>
  refine ⟨report, hreport, ?_, tells⟩
  have hnone : report.outcomes.map (·.result.isSuccess)
      = (report.outcomes.map (·.result.failure)).map Option.isNone := by
    rw [List.map_map]
    rfl
  rw [hnone, hfailures]
  rfl

/-- Both aggregates are to keep a slice up to an hour after the last one. -/
def Ruin.renewal : Invocation :=
  ⟨.renew, ["http://[::1]", "http://[::2]"],
    { Arguments.none with
      slice := some "urn:s"
      expiration := some "9999-12-31T23:59:59-01:00" },
    Call.Intent.plain, none, false, none⟩

set_option maxRecDepth 10000 in
/-- **A renewal may return nothing**, although both aggregates speak the version
and nothing that they do is at fault. -/
theorem renewal_returns_nothing :
    ¬∀ (w : World) (g : Engine) (i : Invocation) (s : Session) (endpoints : List Endpoint),
      g.named i = .ok endpoints → 1 < endpoints.length →
      (∃ fault, (ExceptT.run (run w g i) s).1 = .error (.fault fault) ∧
        Cause w g i s endpoints fault) ∨
      ∃ report, (ExceptT.run (run w g i) s).1 = .ok report ∧ report.Tells endpoints := by
  intro h
  have hnamed : plain.named Ruin.renewal = .ok Uniform.endpoints := by decide +kernel
  have hcrash : (ExceptT.run (plain.run (Uniform.world 2) Ruin.renewal)
      (Session.start .absent)).1 = .error .crash := isCrash_iff.1 (by decide +kernel)
  rcases h (Uniform.world 2) plain Ruin.renewal (Session.start .absent) Uniform.endpoints hnamed
    (by decide) with ⟨fault, hfault, -⟩ | ⟨report, hreport, -⟩
  · cases hcrash.symm.trans hfault
  · cases hcrash.symm.trans hreport

end Engine

end Federation
