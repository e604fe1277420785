/-
  Federation.Proofs.Invocation.Order
  ──────────────────────────────────
  **AGGREGATES IN ANOTHER ORDER.**

  Where nothing changes, the order in which the aggregates are named makes no
  difference to the version that is adopted, to the fleet's message, to what
  is counted, and to which slivers are missing or failed; nor to what is
  reported of each aggregate, except for words.  Those of a probe that failed
  may differ where another aggregate is sent to the URL (`Misnamed`): whoever
  comes first is named in them.  A run that returns nothing in one order
  returns nothing in any other.

  Main results:
    * `decideFrom_perm` — the vote, for probes in another order;
    * `order_indifferent` — the report, for aggregates in another order;
    * `order_misnamed` — the exception.
-/
import Federation.Proofs.Invocation.Isolation
import Federation.Proofs.Version.Vote
import Mathlib.Data.List.Perm.Basic

namespace Federation

open Answer (EndpointOutcome OutcomeClass Report)
open Call (Visit detourIn?)
open Introspection (Scene)

/-! ## §1. Votes. -/

/-- Whether two faults are the same but for the order in which those who did
not answer are listed. -/
def InvocationFault.Reorders (fault fault' : InvocationFault) : Prop :=
  fault = fault' ∨ ∃ failures failures', fault = .noReachableEndpoints failures ∧
    fault' = .noReachableEndpoints failures' ∧ failures.Perm failures'

namespace Version

/-- A decision says the same for a fleet in another order. -/
theorem decide_perm {fleet other : Fleet} (h : other.Perm fleet) (mode : Mode) (desired : Nat)
    (explicit : Bool) (gone gone' : List (String × String)) :
    (decide mode other desired explicit gone).version
        = (decide mode fleet desired explicit gone').version ∧
      (decide mode other desired explicit gone).message
        = (decide mode fleet desired explicit gone').message := by
  have hlength : other.length = fleet.length := h.length_eq
  unfold decide keepingMessage overrulingMessage switchingMessage
  rw [vote_perm h, live_perm h, anywhere_perm h, hlength]
  by_cases hkept : (vote fleet desired).version = desired
  · simp only [hkept, if_true, and_self]
  · cases mode <;> simp only [hkept, if_false, and_self]

/-- Whether two outcomes of a vote are the same, but for the order of those who
did not answer. -/
inductive Concludes : Except InvocationFault (Nat × Option String) →
    Except InvocationFault (Nat × Option String) → Prop
  | adopted (a : Nat × Option String) : Concludes (.ok a) (.ok a)
  | undecided {fault fault' : InvocationFault} (h : fault.Reorders fault') :
      Concludes (.error fault) (.error fault')

/-- **The vote does not depend on the order of the probes.** -/
theorem decideFrom_perm (mode : Mode) (desired : Nat) (explicit : Bool) {probes probes' : Probes}
    (h : probes.Perm probes') :
    Concludes ((decideFrom mode desired explicit probes).map fun d => (d.version, d.message))
      ((decideFrom mode desired explicit probes').map fun d => (d.version, d.message)) := by
  have hspeakers : (speakers probes).Perm (speakers probes') := h.filterMap _
  have hgone : (unreachable probes).Perm (unreachable probes') := h.filterMap _
  have hempty : (speakers probes).isEmpty = (speakers probes').isEmpty := hspeakers.isEmpty_eq
  unfold decideFrom
  rw [h.any_eq, hempty]
  split
  · exact .undecided (.inl rfl)
  · split
    · exact .undecided (.inr ⟨_, _, rfl, rfl, hgone.map _⟩)
    · obtain ⟨hversion, hmessage⟩ := decide_perm hspeakers mode desired explicit
        (unreachable probes) (unreachable probes')
      show Concludes (.ok (_, _)) (.ok (_, _))
      rw [hversion, hmessage]
      exact .adopted _

end Version

namespace Engine

open Version (Concludes)

/-! ## §2. Undertakings. -/

section

variable {g : Engine} {i : Invocation} {c : Scene} {endpoints others : List Endpoint}
  {credentials : List Credential} {version : Nat} {slot : Endpoint}

theorem votes_perm (perm : endpoints.Perm others) : Votes i endpoints ↔ Votes i others := by
  unfold Votes
  rw [perm.length_eq]

theorem adoptIn_perm (g : Engine) (c : Scene) (i : Invocation) (perm : endpoints.Perm others) :
    Concludes (g.adoptIn c i endpoints) (g.adoptIn c i others) := by
  unfold adoptIn
  rw [perm.length_eq]
  split
  · exact Version.decideFrom_perm _ _ _ (perm.map _)
  · exact .adopted _

/-- Once the fleet was asked, all failures are told by their own names. -/
theorem not_misnamed_of_votes (votes : Votes i endpoints) :
    ¬Misnamed c i endpoints version slot := by
  rintro ⟨-, e, namer, hname⟩
  cases namer with
  | itself => exact hname rfl
  | other unasked _ _ => exact unasked votes

theorem misnamed_perm (perm : endpoints.Perm others)
    (h : Misnamed c i endpoints version slot) : Misnamed c i others version slot := by
  obtain ⟨lost, e, namer, hname⟩ := h
  refine ⟨lost, e, ?_, hname⟩
  cases namer with
  | itself => exact .itself
  | other unasked hmem leads =>
      exact .other (fun votes => unasked ((votes_perm perm).2 votes)) (perm.subset hmem) leads

/-- **What two orders have in common.**  Both crash, both end with one fault, or
both give a report; the reports agree, and of an aggregate whose failure is not
told by another's name they report the same. -/
inductive Indifferent (misnamed : Endpoint → Prop) :
    Except Halt Report → Except Halt Report → Prop
  | crashed : Indifferent misnamed (.error .crash) (.error .crash)
  | ended {fault fault' : InvocationFault} (h : fault.Reorders fault') :
      Indifferent misnamed (.error (.fault fault)) (.error (.fault fault'))
  | reported {r r' : Report} (agree : r.Agree r')
      (same : ∀ url o o', r.byUrl.get? url = some o → r'.byUrl.get? url = some o' →
        ¬misnamed o.visit.slot → o = o') : Indifferent misnamed (.ok r) (.ok r')

theorem Indifferent.imp {misnamed misnamed' : Endpoint → Prop}
    {outcome outcome' : Except Halt Report}
    (h : Indifferent misnamed outcome outcome') (k : ∀ slot, misnamed slot → misnamed' slot) :
    Indifferent misnamed' outcome outcome' := by
  cases h with
  | crashed => exact .crashed
  | ended reorders => exact .ended reorders
  | reported agree same =>
      exact .reported agree fun url o o' ho ho' named => same url o o' ho ho' (mt (k _) named)

/-- Where nothing is misnamed, the same is reported at each URL. -/
theorem Indifferent.byUrl_eq {misnamed : Endpoint → Prop}
    {outcome outcome' : Except Halt Report}
    (h : Indifferent misnamed outcome outcome') (named : ∀ slot, ¬misnamed slot) :
    outcome.toOption.map Report.byUrl = outcome'.toOption.map Report.byUrl := by
  cases h with
  | crashed => rfl
  | ended reorders => rfl
  | reported agree same =>
      exact congrArg some (Report.byUrl_ext agree.urls fun url o o' ho ho' =>
        same url o o' ho ho' (named _))

/-- Two lists beside a third one. -/
theorem forall₂_beside {α β γ : Type} {R : α → β → Prop} {S : α → γ → Prop} {T : β → γ → Prop}
    (hT : ∀ {a b c}, R a b → S a c → T b c) {as : List α} {bs : List β} {cs : List γ}
    (h : List.Forall₂ R as bs) (k : List.Forall₂ S as cs) : List.Forall₂ T bs cs := by
  induction h generalizing cs with
  | nil =>
      cases k
      exact .nil
  | cons hR _ ih =>
      cases k with
      | cons hS hrest => exact .cons (hT hR hS) (ih hrest)

/-- A report tells of the slots in their order. -/
theorem urls_of_staging {slots : List Endpoint} {visits : List Visit} (message : Option String)
    (visited : List.Forall₂ (Staging g c i slots credentials version) slots visits) :
    (g.reportOn i version message visits).outcomes.map (·.visit.slot.url)
      = slots.map (·.url) := by
  have hvisits : visits.map (·.slot) = slots := by
    have hequal : List.Forall₂ Eq (visits.map (·.slot)) slots :=
      List.forall₂_map_left_iff.2 (visited.flip.imp fun _ _ staged => slot_of_staging staged)
    rwa [List.forall₂_eq_eq_eq] at hequal
  rw [← hvisits, ← slots_reportOn g i version message visits, List.map_map]
  rfl

/-- **Reports on the same slots in another order.** -/
theorem indifferent_reports (message : Option String) (perm : endpoints.Perm others)
    (apart : endpoints.Pairwise fun a b => a.url ≠ b.url) {visits visits' : List Visit}
    (visited : List.Forall₂ (Staging g c i endpoints credentials version) endpoints visits)
    (visited' : List.Forall₂ (Staging g c i others credentials version) others visits') :
    Indifferent (Misnamed c i endpoints version)
      (.ok (g.reportOn i version message visits))
      (.ok (g.reportOn i version message visits')) := by
  -- The visits of the other order, put into this one.
  obtain ⟨moved, hmoved, hperm⟩ := List.perm_comp_forall₂ perm visited'
  have hakin : List.Forall₂ (fun v v' : Visit => v.Akin v' ∧
      (¬Misnamed c i endpoints version v.slot → v = v')) visits moved := by
    refine forall₂_beside (fun hv hv' => ?_) visited hmoved
    rw [slot_of_staging hv]
    obtain ⟨akin, same⟩ := akin_of_staging (.refl c) (.refl c _) (fun _ _ => .refl c _) hv hv'
    exact ⟨akin, fun named => same named fun h => named (misnamed_perm perm.symm h)⟩
  have hrelated : List.Forall₂ (fun o o' : EndpointOutcome => o.Akin o' ∧
      (¬Misnamed c i endpoints version o.visit.slot → o = o'))
      (g.reportOn i version message visits).outcomes (moved.map (g.outcomeAt i version)) := by
    rw [outcomes_reportOn, List.forall₂_map_left_iff, List.forall₂_map_right_iff]
    exact hakin.imp fun v v' h => ⟨akin_outcomeAt g i version h.1, fun named => by
      rw [h.2 named]⟩
  have hmovedTo : (moved.map (g.outcomeAt i version)).Perm
      (g.reportOn i version message visits').outcomes := by
    rw [outcomes_reportOn]
    exact hperm.map _
  have hdifferent : ((g.reportOn i version message visits').outcomes.map
      (·.visit.slot.url)).Nodup := by
    rw [urls_of_staging message visited']
    exact nodup_urls (perm.pairwise apart fun h => Ne.symm h)
  refine .reported ?_ fun url o o' ho ho' => ?_
  · exact Report.agree_of_perm rfl rfl (hrelated.imp fun _ _ h => h.1) hmovedTo hdifferent
  · exact (Report.both_byUrl (fun h => by rw [h.1.visit.slot]) hrelated hmovedTo hdifferent
      ho ho').2

end

/-- It crashes in one order as in another. -/
theorem Performed.crashes_perm {g : Engine} {i : Invocation} {c : Scene}
    {endpoints others : List Endpoint} {credentials : List Credential} {version : Nat}
    {message : Option String} {outcome outcome' : Except Halt Report}
    (perm : endpoints.Perm others)
    (h : Performed g c i endpoints credentials version message outcome)
    (h' : Performed g c i others credentials version message outcome') :
    outcome = .error .crash ↔ outcome' = .error .crash := by
  rw [h.eq_crash_iff, h'.eq_crash_iff]
  simp only [perm.mem_iff]

/-- **What is staged for one order and for another.** -/
theorem indifferent_of_staged {g : Engine} {i : Invocation} {c : Scene}
    {endpoints others : List Endpoint} {credentials : List Credential}
    {outcome outcome' : Except Halt Report} (perm : endpoints.Perm others)
    (apart : endpoints.Pairwise fun a b => a.url ≠ b.url)
    (staged : Staged g c i endpoints credentials outcome)
    (staged' : Staged g c i others credentials outcome') :
    Indifferent (Misnamed c i endpoints (g.requested i).1) outcome outcome' := by
  have hadopted := adoptIn_perm g c i perm
  cases staged with
  | undecided undecided =>
      rw [undecided] at hadopted
      cases staged' with
      | undecided undecided' =>
          rw [undecided'] at hadopted
          cases hadopted with
          | undecided reorders => exact .ended reorders
      | adopted adopted performed =>
          rw [adopted] at hadopted
          cases hadopted
  | @adopted version message _ adopted performed =>
      rw [adopted] at hadopted
      cases staged' with
      | undecided undecided =>
          rw [undecided] at hadopted
          cases hadopted
      | adopted adopted' performed' =>
          rw [adopted'] at hadopted
          cases hadopted
          have halike := performed.crashes_perm perm performed'
          by_cases hcrash : outcome = .error .crash
          · rw [hcrash, halike.1 hcrash]
            exact .crashed
          rcases performed.both performed' hcrash (mt halike.2 hcrash) with
            ⟨fault, rfl, rfl⟩ | ⟨visits, visits', rfl, rfl, visited, visited'⟩
          · exact .ended (.inl rfl)
          · have hreports := indifferent_reports message perm apart visited visited'
            refine hreports.imp fun slot misnamed => ?_
            by_cases votes : Votes i endpoints
            · exact absurd misnamed (not_misnamed_of_votes votes)
            · cases (adoptIn_of_not_votes g c votes).symm.trans adopted
              exact misnamed

/-- **The order of the aggregates makes no difference** to an undertaking: with
the same time, rules and replies, and with the same records kept, both orders
end with one fault, or their reports agree, or neither order returns.  Of an
aggregate whose failure is not told by another's name the same is reported.  How
the workers take their turns may differ as well. -/
theorem order_indifferent (g : Engine) (i : Invocation) {w w' : World} {c : Scene}
    {s s' : Session} {endpoints others : List Endpoint} (perm : endpoints.Perm others)
    (several : 1 < endpoints.length) (apart : endpoints.Pairwise fun a b => a.url ≠ b.url)
    (steady : w.Steady c) (steady' : w'.Steady c) (finds : g.Finds c s) (finds' : g.Finds c s')
    (fresh : s.memo = []) (fresh' : s'.memo = []) (credentials : List Credential) :
    Indifferent (Misnamed c i endpoints (g.requested i).1)
      (ExceptT.run (undertake w g i endpoints credentials) s).1
      (ExceptT.run (undertake w' g i others credentials) s').1 := by
  have apart' : others.Pairwise fun a b => a.url ≠ b.url :=
    perm.pairwise apart fun h => Ne.symm h
  have several' : 1 < others.length := perm.length_eq ▸ several
  exact indifferent_of_staged perm apart
    (undertake_staged steady finds fresh apart several credentials)
    (undertake_staged steady' finds' fresh' apart' several' credentials)

end Engine

/-! ## §3. A failure under another's name. -/

namespace Misnaming

/-- What the stop of a slice at these aggregates comes to. -/
def undertaken (reply : Json) (endpoints : List Endpoint) : Except Halt Report :=
  (ExceptT.run (Engine.undertake (world reply) engine stop endpoints [Credential.sfa "document"])
    (Session.start .absent)).1

end Misnaming

/-- Two aggregates that are not sent to each other may be named in either
order. -/
theorem Engine.indifferent_bravo :
    (1 < [Misnaming.alpha, Misnaming.bravo].length ∧
      [Misnaming.alpha, Misnaming.bravo].Perm [Misnaming.bravo, Misnaming.alpha]) ∧
    (Misnaming.undertaken (Crossing.reply 2 []) [Misnaming.alpha, Misnaming.bravo]).toOption.map
        Report.byUrl
      = (Misnaming.undertaken (Crossing.reply 2 []) [Misnaming.bravo, Misnaming.alpha]).toOption.map
        Report.byUrl :=
  ⟨⟨by decide, .swap _ _ _⟩,
    (Engine.order_indifferent Misnaming.engine Misnaming.stop (.swap _ _ _) (by decide)
      (by decide) (Misnaming.steady (Crossing.reply 2 [])) (Misnaming.steady (Crossing.reply 2 []))
      (Misnaming.finds (Crossing.reply 2 [])) (Misnaming.finds (Crossing.reply 2 [])) rfl rfl
      [Credential.sfa "document"]).byUrl_eq
        (Misnaming.not_misnamed (by decide +kernel))⟩

set_option maxRecDepth 10000 in
/-- **A failure may be reported under the name of who comes first**: where one
aggregate says that the version is spoken at the URL of another one, the
order of the two changes what is reported of the latter. -/
theorem Engine.order_misnamed :
    ¬∀ (w : World) (g : Engine) (i : Invocation) (s : Session) (c : Scene)
      (endpoints others : List Endpoint) (credentials : List Credential),
      endpoints.Perm others → 1 < endpoints.length →
      (endpoints.Pairwise fun a b => a.url ≠ b.url) → w.Steady c → g.Finds c s → s.memo = [] →
      (ExceptT.run (Engine.undertake w g i endpoints credentials) s).1.toOption.map Report.byUrl
        = (ExceptT.run (Engine.undertake w g i others credentials) s).1.toOption.map
            Report.byUrl := by
  intro h
  generalize hpointing : Crossing.reply 3 [("2", "http://[::2]")] = pointing
  have hsame : (Misnaming.undertaken pointing [Misnaming.alpha, Misnaming.bravo]).toOption.map
        Report.byUrl
      = (Misnaming.undertaken pointing [Misnaming.bravo, Misnaming.alpha]).toOption.map
        Report.byUrl :=
    h (Misnaming.world pointing) Misnaming.engine Misnaming.stop (Session.start .absent)
      (Misnaming.scene pointing) [Misnaming.alpha, Misnaming.bravo]
      [Misnaming.bravo, Misnaming.alpha] [Credential.sfa "document"] (.swap _ _ _) (by decide)
      (by decide) (Misnaming.steady pointing) (Misnaming.finds pointing) rfl
  have hfailures := congrArg (fun found => (found.bind (·.get? "http://[::2]")).bind
    (·.result.failure)) hsame
  subst hpointing
  exact absurd hfailures (by decide +kernel)

end Federation
