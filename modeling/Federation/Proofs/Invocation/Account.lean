/-
  Federation.Proofs.Invocation.Account
  ────────────────────────────────────
  **WHAT IS REPORTED AGREES WITH WHAT WAS SENT.**

  The requests of an invocation, probes apart, are those of its visits, and
  every visit has its own.  A report tells of each visit truly: where it says
  that the aggregate was skipped, or answers from what the aggregate says of
  itself, nothing was sent for the slot; everywhere else the method of the
  operation was sent once, to the endpoint that is reported as called.  That
  endpoint is at another URL than the slot exactly where the report says so.

  Main results:
    * `Call.Visited.redirected_iff` — where a visit went;
    * `Engine.accounted_of_visited` — one visit and its calls;
    * `Engine.report_accounts` — a whole report.
-/
import Federation.Proofs.Invocation.Cancellation
import Federation.Proofs.Invocation.Meeting

namespace Federation

open Answer (EndpointOutcome Report)
open Call (Response Visit Visited)
open Version (Agreed Agreement)

/-! ## §1. Where a visit went. -/

/-- What is advertised is another URL, or the version would be spoken at
home. -/
theorem Version.Agreement.redirected_iff {terms : Version.Terms} {desired : Nat} {e : Endpoint}
    {t : Session} {a : Agreed} {redirected : Bool}
    (h : Agreement terms desired e t a redirected) :
    redirected = true ↔ a.endpoint.url ≠ e.url := by
  cases h with
  | own _ _ => exact iff_of_false (by decide) fun hne => hne rfl
  | @detour p q url _ silent advertised _ _ =>
      have hdetour : Version.detour? e desired (.ok p) = some url := by
        rw [Version.detour?_of_silent (by simp [silent]), advertised]
      exact iff_of_true rfl (Version.detour?_ne hdetour)
  | unheard _ _ _ => exact iff_of_false (by decide) fun hne => hne rfl
  | mismatch _ _ => exact iff_of_false (by decide) fun hne => hne rfl

/-- **A visit is reported as redirected** exactly where the endpoint that it
was for is at another URL. -/
theorem Call.Visited.redirected_iff {w : World} {i : Call.Itinerary} {slot : Endpoint}
    {t : Session} {own : List Request} {v : Visit} (h : Visited w i slot t own (.ok v)) :
    v.redirected = true ↔ ∃ e, v.called = some e ∧ e.url ≠ v.slot.url := by
  have hunmoved {v : Visit} (hredirected : v.redirected = false)
      (hcalled : ∀ e, v.called = some e → e.url = v.slot.url) :
      v.redirected = true ↔ ∃ e, v.called = some e ∧ e.url ≠ v.slot.url := by
    refine iff_of_false (by simp [hredirected]) ?_
    rintro ⟨e, he, hne⟩
    exact hne (hcalled e he)
  have hagreed {a : Agreed} {redirected : Bool}
      (agreement : Agreement i.terms i.desired slot t a redirected) :
      redirected = true ↔ ∃ e, some a.endpoint = some e ∧ e.url ≠ slot.url := by
    rw [agreement.redirected_iff]
    exact ⟨fun hne => ⟨_, rfl, hne⟩, fun ⟨e, he, hne⟩ => Option.some.inj he ▸ hne⟩
  cases h with
  | calledOff _ => exact hunmoved rfl fun e he => nomatch he
  | @probed _ o _ _ _ =>
      cases o with
      | error fault => exact hunmoved rfl fun e he => nomatch he
      | ok p => exact hunmoved rfl fun e he => Option.some.inj he ▸ rfl
  | refused _ _ => exact hunmoved rfl fun e he => nomatch he
  | unavailable _ _ agreement _ => exact hagreed agreement
  | called _ _ agreement _ _ => exact hagreed agreement

/-! ## §2. One visit and its calls. -/

/-- Whether an outcome gives a true account of the requests that are its
visit's own. -/
structure Accounted (w : World) (i : Call.Itinerary) (operation : Operation) (t : Session)
    (own : List Request) (o : EndpointOutcome) : Prop where
  visited : Visited w i o.visit.slot t own (.ok o.visit)
  /-- A call was sent unless there was a skip or the probe was the answer. -/
  sent_iff : callsOf own ≠ [] ↔
    (∀ reason, o.result.failure ≠ some (.skipped reason)) ∧
      ∀ capabilities fromCache, o.visit.response ≠ .probed capabilities fromCache
  /-- It was the only one, had the method of the operation, and went where
  the report says. -/
  once : ∀ r ∈ callsOf own, callsOf own = [r] ∧ o.visit.called.map Endpoint.url = some r.url ∧
    ∃ v, o.visit.version = some v ∧ operation.wireName? v = some r.method
  redirected_iff : o.visit.redirected = true ↔
    ∃ e, o.visit.called = some e ∧ e.url ≠ o.visit.slot.url

theorem Call.Response.isDelivered_iff (mode : Mode) (version : Nat) (response : Response) :
    response.isDelivered = true ↔
      (∀ reason, (Answer.normalise mode version response).failure ≠ some (.skipped reason)) ∧
        ∀ capabilities fromCache, response ≠ .probed capabilities fromCache := by
  have hskipped := Answer.skipped_iff mode version response
  simp only [ne_eq, hskipped]
  cases response with
  | skipped reason => exact iff_of_false Bool.false_ne_true fun h => h.1 reason rfl
  | replied reply => exact iff_of_true rfl ⟨nofun, nofun⟩
  | failed failure => exact iff_of_true rfl ⟨nofun, nofun⟩
  | probed capabilities fromCache =>
      exact iff_of_false Bool.false_ne_true fun h => h.2 capabilities fromCache rfl

namespace Engine

section

variable {w : World} {g : Engine} {i : Invocation} {credentials : List Credential}
  {version : Nat} {t : Session}

theorem Called.once {slot : Endpoint} {v : Visit} {r : Request}
    (h : Called w g i credentials version slot t v r) :
    v.response.isDelivered = true ∧ v.called.map Endpoint.url = some r.url ∧
      ∃ n, v.version = some n ∧ i.operation.wireName? n = some r.method := by
  cases h with
  | made hop agreement speaks built prepared delivered invoked =>
      exact ⟨delivered, rfl, _, speaks, Call.prepare_method prepared⟩

/-- **The calls of a visit** are as many as were delivered: one or none. -/
theorem length_callsOf {slot : Endpoint} {own : List Request} {v : Visit}
    (h : Visited w (g.itinerary i credentials version) slot t own (.ok v)) :
    (callsOf own).length = if v.response.isDelivered then 1 else 0 := by
  rcases calls_of_visited h with ⟨hskipped, hnone⟩ | ⟨r, hone, hcalled⟩
  · rw [hnone, hskipped]
    rfl
  · rw [hone, hcalled.once.1]
    rfl

/-- **An outcome accounts for its visit.** -/
theorem accounted_of_visited {slot : Endpoint} {own : List Request} {o : EndpointOutcome}
    (h : Visited w (g.itinerary i credentials version) slot t own (.ok o.visit))
    (hresult : o.result
      = Answer.normalise g.settings.mode (o.visit.version.getD version) o.visit.response) :
    Accounted w (g.itinerary i credentials version) i.operation t own o := by
  refine ⟨h.slot_eq ▸ h, ?_, ?_, h.redirected_iff⟩
  · rw [hresult, ← Call.Response.isDelivered_iff, ← List.length_pos_iff, length_callsOf h]
    cases o.visit.response.isDelivered <;> decide
  · intro r hr
    rcases calls_of_visited h with ⟨-, hnone⟩ | ⟨q, hone, hcalled⟩
    · rw [hnone] at hr
      cases hr
    · rw [hone] at hr
      obtain rfl := List.mem_singleton.1 hr
      exact ⟨hone, hcalled.once.2⟩

/-! ## §3. Whole reports. -/

/-- The calls of a round are as many as its visits that were delivered. -/
theorem length_callsOf_round {slots : List Endpoint} {parts : List (List Request × Visit)}
    (h : List.Forall₂ (fun slot part =>
      Visited w (g.itinerary i credentials version) slot t part.1 (.ok part.2)) slots parts) :
    ((parts.map Prod.fst).flatMap callsOf).length
      = (parts.map Prod.snd).countP (·.response.isDelivered) := by
  induction h with
  | nil => rfl
  | @cons slot part slots parts hvisit _ ih =>
      rw [List.map_cons, List.flatMap_cons, List.length_append, ih, length_callsOf hvisit,
        List.map_cons, List.countP_cons, Nat.add_comm]

theorem callsOf_flatMap {α : Type} (parts : List α) (own : α → List Request) :
    callsOf (parts.flatMap own) = parts.flatMap fun part => callsOf (own part) := by
  unfold callsOf
  exact List.filter_flatMap

end

/-- **A report accounts for all calls of its run**: slot by slot, and so in
number. -/
theorem report_accounts (w : World) (g : Engine) (i : Invocation) (s : Session) {report : Report}
    (h : (ExceptT.run (g.run w i) s).1 = .ok report) :
    ∃ endpoints credentials sent owns, g.named i = .ok endpoints ∧
      report.outcomes.map (·.visit.slot) = endpoints ∧
      (ExceptT.run (g.run w i) s).2.requests = s.requests ++ sent ∧
      (callsOf sent).Perm (owns.flatMap callsOf) ∧
      List.Forall₂ (Accounted w (g.itinerary i credentials report.version) i.operation
        (ExceptT.run (g.run w i) s).2) owns report.outcomes ∧
      (callsOf sent).length = report.outcomes.countP (·.visit.response.isDelivered) := by
  obtain ⟨sent, hlog, hcourse⟩ := course_run w g i s
  generalize ExceptT.run (g.run w i) s = result at hcourse hlog h ⊢
  obtain ⟨outcome, t⟩ := result
  obtain rfl : outcome = .ok report := h
  cases hcourse with
  | @reported endpoints credentials version message probes round parts launched checked toured _ =>
      have hcalls : (callsOf (probes ++ round)).Perm ((parts.map Prod.fst).flatMap callsOf) := by
        rw [callsOf_append, callsOf_eq_nil_iff.2 launched.quiet, List.nil_append,
          List.flatMap_map, ← callsOf_flatMap]
        exact callsOf_perm toured.2
      rw [outcomes_reportOn, List.map_map, List.map_map, List.countP_map, List.countP_map]
      refine ⟨endpoints, credentials, probes ++ round, parts.map Prod.fst, launched.resolved, ?_,
        hlog, hcalls, ?_, ?_⟩
      · rw [← slots_of_toured toured, List.map_map]
        rfl
      · rw [List.forall₂_map_left_iff, List.forall₂_map_right_iff, List.forall₂_map_right_iff,
          List.forall₂_same]
        intro part hpart
        obtain ⟨slot, -, hvisit⟩ := exists_left_of_mem toured.1 hpart
        exact accounted_of_visited (o := g.outcomeAt i version part.2) hvisit rfl
      · rw [hcalls.length_eq, length_callsOf_round toured.1, List.countP_map]
        rfl

/-- For each aggregate in a report, its failure and whether it was called. -/
def accountOf (report : Report) : List (Option Call.Failure × Bool) :=
  report.outcomes.map fun o => (o.result.failure, o.visit.response.isDelivered)

set_option maxRecDepth 10000 in
/-- Where the signal to stop comes with the reply to the first of two calls,
the second aggregate is reported as skipped, and there was one call. -/
theorem report_accounts_halfway :
    ∃ report, (ExceptT.run (plain.run Halfway.world Crossing.invocation)
        (Session.start .absent)).1 = .ok report ∧
      accountOf report = [(none, true), (some (.skipped .aborted), false)] ∧
      (callsOf (ExceptT.run (plain.run Halfway.world Crossing.invocation)
        (Session.start .absent)).2.requests).length = 1 := by
  have hrun : (ExceptT.run (plain.run Halfway.world Crossing.invocation)
      (Session.start .absent)).1.toOption.map accountOf
        = some [(none, true), (some (.skipped .aborted), false)] := by decide +kernel
  obtain ⟨report, hreport, haccount⟩ := Option.map_eq_some_iff.1 hrun
  have hok : (ExceptT.run (plain.run Halfway.world Crossing.invocation)
      (Session.start .absent)).1 = .ok report := by
    cases houtcome : (ExceptT.run (plain.run Halfway.world Crossing.invocation)
        (Session.start .absent)).1 with
    | error fault =>
        rw [houtcome] at hreport
        cases hreport
    | ok other =>
        rw [houtcome] at hreport
        exact congrArg Except.ok (Option.some.inj hreport)
  refine ⟨report, hok, haccount, ?_⟩
  obtain ⟨_, _, sent, _, -, -, hlog, -, -, hlength⟩ := report_accounts _ _ _ _ hok
  have hsent : (ExceptT.run (plain.run Halfway.world Crossing.invocation)
      (Session.start .absent)).2.requests = sent := hlog.trans (List.nil_append sent)
  have hcount : report.outcomes.countP (·.visit.response.isDelivered)
      = (accountOf report).countP Prod.snd := by
    unfold accountOf
    rw [List.countP_map]
    rfl
  rw [hsent, hlength, hcount, haccount]
  rfl

end Engine

end Federation
