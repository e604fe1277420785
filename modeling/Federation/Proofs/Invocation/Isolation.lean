/-
  Federation.Proofs.Invocation.Isolation
  ──────────────────────────────────────
  **ONE AGGREGATE AMONG OTHERS.**

  What an operation that the fleet has no say in reports of an aggregate is
  told by what is said at its own URL and at the one that it advertises for
  the version, whatever the others reply.  There is one exception, and it is
  one of words.  What a probe of a URL yielded is remembered under the URL,
  with the failure as it was told to the one who was probed first; so where
  another aggregate is sent to the URL, and nothing comes back from there,
  the failure may be reported under the name of that one (`Misnamed`).

  Main results:
    * `outcome_isolated` — two runs that return and agree about an aggregate;
    * `outcome_misnamed` — the exception.
-/
import Federation.Proofs.Invocation.Scene

namespace Federation

open Answer (EndpointOutcome Report)
open Call (Visit detourIn? visitIn)
open Introspection (Scene)

namespace Engine

/-! ## §1. Misnamed failures. -/

/-- **Whether a failure at a slot's URL may be told by another's name**: its
probe is lost in a way whose words have a name in them, and another aggregate
of another name is sent there. -/
structure Misnamed (c : Scene) (i : Invocation) (endpoints : List Endpoint) (desired : Nat)
    (slot : Endpoint) : Prop where
  lost : c.Names slot.url
  other : ∃ e, Namer c i endpoints desired slot e ∧ e.nickname ≠ slot.nickname

section

variable {g : Engine} {i : Invocation} {c c' : Scene} {endpoints others : List Endpoint}
  {credentials : List Credential} {version : Nat} {slot : Endpoint} {v v' : Visit}

theorem nickname_of_named (named : ¬Misnamed c i endpoints version slot)
    (lost : c.Names slot.url) {e : Endpoint} (namer : Namer c i endpoints version slot e) :
    e.nickname = slot.nickname :=
  Classical.byContradiction fun hne => named ⟨lost, e, namer, hne⟩

/-- **A slot comes to the same whoever is heard in its place**, except for
words. -/
theorem akin_of_staging (parallel : c.Parallel c') (own : c.AgreesAt c' slot.url)
    (there : ∀ url, detourIn? c version slot = some url → c.AgreesAt c' url)
    (staged : Staging g c i endpoints credentials version slot v)
    (staged' : Staging g c' i others credentials version slot v') :
    v.Akin v' ∧ (¬Misnamed c i endpoints version slot → ¬Misnamed c' i others version slot →
      v = v') := by
  obtain ⟨e, namer, hv⟩ := staged
  obtain ⟨e', namer', hv'⟩ := staged'
  have sober : (g.itinerary i credentials version).planner.Sober :=
    sober_planner g i credentials version
  rw [← Call.visitIn_local parallel own there e'] at hv'
  refine ⟨?_, fun named named' => ?_⟩
  · have hakin := Call.visitIn_akin sober c slot e e'
    rw [hv, hv'] at hakin
    cases hakin with
    | visits akin => exact akin
  · have hsame := Call.visitIn_eq sober (c := c) (a := e) (b := e')
      fun ⟨lost, hne⟩ => hne ((nickname_of_named named lost namer).trans
        (nickname_of_named named' (Scene.names_local parallel.symm own.symm lost) namer').symm)
    exact Except.ok.inj (hv.symm.trans (hsame.trans hv'))

end

/-! ## §2. Two runs. -/

/-- **What two runs that return have in common about a slot.**  Both end with one
fault, or both report on it; the outcomes are the same, except for words, and
they are the same altogether where no failure is told by another's name. -/
inductive Isolated (misnamed : Prop) (n : Nat) (slot : Endpoint) :
    Except Halt Report → Except Halt Report → Prop
  | ended (fault : InvocationFault) :
      Isolated misnamed n slot (.error (.fault fault)) (.error (.fault fault))
  | reported {r r' : Report} {o o' : EndpointOutcome} (told : r.outcomes[n]? = some o)
      (told' : r'.outcomes[n]? = some o') (slot_eq : o.visit.slot = slot) (akin : o.Akin o')
      (same : ¬misnamed → o = o') : Isolated misnamed n slot (.ok r) (.ok r')

/-- What is reported of the `n`-th aggregate, where there is a report. -/
def told? (n : Nat) : Except Halt Report → Option EndpointOutcome
  | .ok r => r.outcomes[n]?
  | .error _ => none

/-- Where nothing is misnamed, the same is reported. -/
theorem Isolated.told_eq {misnamed : Prop} {n : Nat} {slot : Endpoint}
    {outcome outcome' : Except Halt Report}
    (h : Isolated misnamed n slot outcome outcome') (named : ¬misnamed) :
    told? n outcome = told? n outcome' := by
  cases h with
  | ended fault => rfl
  | reported told told' slot_eq akin same =>
      obtain rfl := same named
      exact told.trans told'.symm

theorem slot_of_staging {g : Engine} {i : Invocation} {c : Scene} {endpoints : List Endpoint}
    {credentials : List Credential} {version : Nat} {slot : Endpoint} {v : Visit}
    (staged : Staging g c i endpoints credentials version slot v) : v.slot = slot := by
  obtain ⟨e, -, hv⟩ := staged
  rcases visitIn_cases c g i credentials version slot e with hcrash | ⟨v', hv', hslot⟩
  · cases hv.symm.trans hcrash
  · obtain rfl := Except.ok.inj (hv.symm.trans hv')
    exact hslot

theorem getElem?_of_forall₂ {α β : Type} {R : α → β → Prop} {as : List α} {bs : List β}
    (h : List.Forall₂ R as bs) {n : Nat} {a : α} (ha : as[n]? = some a) :
    ∃ b, bs[n]? = some b ∧ R a b := by
  obtain ⟨hlength, hget⟩ := List.forall₂_iff_get.1 h
  obtain ⟨hn, rfl⟩ := List.getElem?_eq_some_iff.1 ha
  exact ⟨bs[n], List.getElem?_eq_getElem (hlength ▸ hn), hget n hn (hlength ▸ hn)⟩

section

variable (g : Engine) (i : Invocation) {w w' : World} {c c' : Scene} {s s' : Session}
  {endpoints : List Endpoint} {n : Nat} {slot : Endpoint}

/-- Where the fleet has no say, the version is the one that was asked for. -/
theorem Staged.of_not_votes {credentials : List Credential}
    {outcome : Except Halt Report} (unvoted : ¬Votes i endpoints)
    (staged : Staged g c i endpoints credentials outcome) :
    Performed g c i endpoints credentials (g.requested i).1 none outcome := by
  have hadopted := adoptIn_of_not_votes g c unvoted
  cases staged with
  | undecided undecided => cases hadopted.symm.trans undecided
  | adopted adopted performed =>
      cases hadopted.symm.trans adopted
      exact performed

/-- What is staged of a slot in one scene and in another. -/
theorem isolated_of_staged {credentials : List Credential}
    {outcome outcome' : Except Halt Report} (unvoted : ¬Votes i endpoints)
    (hslot : endpoints[n]? = some slot) (parallel : c.Parallel c')
    (own : c.AgreesAt c' slot.url)
    (there : ∀ url, detourIn? c (g.requested i).1 slot = some url → c.AgreesAt c' url)
    (staged : Staged g c i endpoints credentials outcome)
    (staged' : Staged g c' i endpoints credentials outcome') (returns : outcome ≠ .error .crash)
    (returns' : outcome' ≠ .error .crash) :
    Isolated (Misnamed c i endpoints (g.requested i).1 slot ∨
      Misnamed c' i endpoints (g.requested i).1 slot) n slot outcome outcome' := by
  rcases (staged.of_not_votes g i unvoted).both (staged'.of_not_votes g i unvoted) returns
    returns' with ⟨fault, rfl, rfl⟩ | ⟨visits, visits', rfl, rfl, visited, visited'⟩
  · exact .ended fault
  · obtain ⟨v, hv, hstaged⟩ := getElem?_of_forall₂ visited hslot
    obtain ⟨v', hv', hstaged'⟩ := getElem?_of_forall₂ visited' hslot
    obtain ⟨akin, same⟩ := akin_of_staging parallel own there hstaged hstaged'
    have told : ∀ {visits : List Visit} {v : Visit}, visits[n]? = some v →
        (g.reportOn i (g.requested i).1 none visits).outcomes[n]?
          = some (g.outcomeAt i (g.requested i).1 v) := by
      intro visits v hv
      rw [getElem?_reportOn, hv]
      rfl
    refine .reported (told hv) (told hv') ?_ (akin_outcomeAt g i _ akin) fun named => ?_
    · exact slot_of_staging hstaged
    · rw [not_or] at named
      rw [same named.1 named.2]

theorem not_stopped (steady : w.Steady c) (finds : g.Finds c s) :
    (Action.stopped w s).1 = false := by
  show (s.aborted || w.interrupts s.looks) = false
  rw [finds.calm, steady.interrupts]
  rfl

/-- At the threshold the scene is still the same. -/
theorem Finds.threshold (steady : w.Steady c) (finds : g.Finds c s) :
    g.Finds c (threshold w g i s) :=
  ⟨finds.policy, finds.force, finds.kept, not_stopped g steady finds⟩

/-- **Two runs that agree about an aggregate report the same of it**, where both
return and except where a failure is told by another's name, and there they
differ in words only.  The runs may differ in whatever the other aggregates
reply, in what was kept of them, and in how the workers take their turns. -/
theorem outcome_isolated (unvoted : i.operation.reconcilesFleet = false)
    (several : 1 < endpoints.length) (apart : endpoints.Pairwise fun a b => a.url ≠ b.url)
    (hslot : endpoints[n]? = some slot) (steady : w.Steady c) (steady' : w'.Steady c')
    (finds : g.Finds c s) (finds' : g.Finds c' s') (now : c.now = c'.now)
    (own : c.AgreesAt c' slot.url)
    (there : ∀ url, detourIn? c (g.requested i).1 slot = some url → c.AgreesAt c' url) :
    (∀ credentials, s.memo = [] → s'.memo = [] →
      (ExceptT.run (undertake w g i endpoints credentials) s).1 ≠ .error .crash →
      (ExceptT.run (undertake w' g i endpoints credentials) s').1 ≠ .error .crash →
      Isolated (Misnamed c i endpoints (g.requested i).1 slot ∨
          Misnamed c' i endpoints (g.requested i).1 slot) n slot
        (ExceptT.run (undertake w g i endpoints credentials) s).1
        (ExceptT.run (undertake w' g i endpoints credentials) s').1) ∧
    (g.named i = .ok endpoints →
      w.credential i.credentialSubject = w'.credential i.credentialSubject →
      (ExceptT.run (run w g i) s).1 ≠ .error .crash →
      (ExceptT.run (run w' g i) s').1 ≠ .error .crash →
      Isolated (Misnamed c i endpoints (g.requested i).1 slot ∨
          Misnamed c' i endpoints (g.requested i).1 slot) n slot
        (ExceptT.run (run w g i) s).1 (ExceptT.run (run w' g i) s').1) := by
  have parallel : c.Parallel c' :=
    ⟨now, finds.policy.symm.trans finds'.policy, finds.force.symm.trans finds'.force⟩
  have hvotes : ¬Votes i endpoints := fun votes => by
    cases unvoted.symm.trans votes.2
  have undertaken : ∀ credentials {s s'}, g.Finds c s → g.Finds c' s' → s.memo = [] →
      s'.memo = [] →
      (ExceptT.run (undertake w g i endpoints credentials) s).1 ≠ .error .crash →
      (ExceptT.run (undertake w' g i endpoints credentials) s').1 ≠ .error .crash →
      Isolated (Misnamed c i endpoints (g.requested i).1 slot ∨
          Misnamed c' i endpoints (g.requested i).1 slot) n slot
        (ExceptT.run (undertake w g i endpoints credentials) s).1
        (ExceptT.run (undertake w' g i endpoints credentials) s').1 :=
    fun credentials _ _ finds finds' fresh fresh' =>
      isolated_of_staged g i hvotes hslot parallel own there
        (undertake_staged steady finds fresh apart several credentials)
        (undertake_staged steady' finds' fresh' apart several credentials)
  refine ⟨fun credentials => undertaken credentials finds finds',
    fun named credential returns returns' => ?_⟩
  -- Both are let in alike, as nothing has been asked of an aggregate by then.
  have hletIn : letIn w g i s = letIn w' g i s' := by
    unfold letIn
    rw [not_stopped g steady finds, not_stopped g steady' finds', credential]
  cases admitted : letIn w g i s with
  | error fault =>
      rw [(run_of_refused admitted).1, (run_of_refused (hletIn.symm.trans admitted)).1]
      exact .ended fault
  | ok found =>
      obtain ⟨found, credentials⟩ := found
      have hcases := letIn_cases (w := w) (s := s) named
      rw [admitted] at hcases
      obtain rfl : found = endpoints := hcases.1
      rw [run_of_admitted admitted] at returns ⊢
      rw [run_of_admitted (hletIn.symm.trans admitted)] at returns' ⊢
      exact undertaken credentials (finds.threshold g i steady) (finds'.threshold g i steady')
        rfl rfl returns returns'

end

end Engine

/-! ## §3. A failure under another's name. -/

namespace Misnaming

/-- Two aggregates that are known by name. -/
def engine : Engine where
  settings := ⟨2, false, .strict, 0, false, 60, false, 360, 1, none⟩
  sources := ⟨Directory.Nicknames.ofDirectives
    [⟨"alpha", "", "http://[::1]"⟩, ⟨"bravo", "", "http://[::2]"⟩], [], none⟩

def alpha : Endpoint := ⟨Endpoint.unspecifiedUrn, "http://[::1]", some "alpha", none⟩

def bravo : Endpoint := ⟨Endpoint.unspecifiedUrn, "http://[::2]", some "bravo", none⟩

/-- What the first one says of itself; the second one does not answer in
time. -/
def replies (alpha : Json) : String → String → List Json → Except String Json :=
  fun url _ _ => if url = "http://[::1]" then .ok alpha else .error "timeout"

def scene (alpha : Json) : Scene :=
  ⟨replies alpha, Time.Instant.epoch, engine.settings.terms.probing,
    engine.settings.terms.forceRefresh, fun _ => none⟩

def world (alpha : Json) : World where
  transport := fun _ r => ⟨replies alpha r.url r.method r.arguments, false⟩
  clock := fun _ => Time.Instant.epoch
  writes := fun _ => true
  credential := fun _ => .ok (Credential.sfa "document")
  keepsProof := fun _ _ => true

theorem steady (alpha : Json) : (world alpha).Steady (scene alpha) :=
  ⟨fun _ _ => rfl, fun _ => rfl, fun _ => rfl⟩

theorem finds (alpha : Json) : engine.Finds (scene alpha) (Session.start .absent) :=
  ⟨rfl, rfl, fun _ => rfl, rfl⟩

/-- Whatever the first one says, the same is said at the second one's URL. -/
theorem agrees (reply reply' : Json) : (scene reply).AgreesAt (scene reply') bravo.url :=
  ⟨fun _ _ => rfl, rfl⟩

/-- The second one advertises nothing. -/
theorem no_detour (reply : Json) (desired : Nat) :
    detourIn? (scene reply) desired bravo = none := rfl

/-- The request to stop a slice at both. -/
def stop : Invocation := Crossing.invocation

/-- What the run comes to. -/
def outcome (reply : Json) : Except Halt Report :=
  (ExceptT.run (Engine.run (world reply) engine stop) (Session.start .absent)).1

set_option maxRecDepth 10000 in
theorem named_stop : engine.named stop = .ok [alpha, bravo] := by decide +kernel

/-- Where the first one is not sent to the second one, nothing is misnamed. -/
theorem not_misnamed {reply : Json} (h : detourIn? (scene reply) 2 alpha = none)
    (slot : Endpoint) : ¬Engine.Misnamed (scene reply) stop [alpha, bravo] 2 slot := by
  rintro ⟨-, e, namer, hname⟩
  cases namer with
  | itself => exact hname rfl
  | other unasked hmem leads =>
      have hleads := leads.2
      rcases List.mem_pair.1 hmem with rfl | rfl
      · cases h.symm.trans hleads
      · cases (no_detour reply 2).symm.trans hleads

end Misnaming

set_option maxRecDepth 10000 in
/-- The first of two aggregates may speak one version or another: it makes no
difference to what is reported of the second one. -/
theorem Engine.isolated_bravo :
    (1 < [Misnaming.alpha, Misnaming.bravo].length ∧
      (Misnaming.scene (Crossing.reply 2 [])).AgreesAt (Misnaming.scene (Crossing.reply 3 []))
        Misnaming.bravo.url) ∧
    Engine.told? 1 (Misnaming.outcome (Crossing.reply 2 []))
      = Engine.told? 1 (Misnaming.outcome (Crossing.reply 3 [])) :=
  ⟨⟨by decide, Misnaming.agrees _ _⟩,
    ((Engine.outcome_isolated Misnaming.engine Misnaming.stop rfl (by decide) (by decide) rfl
      (Misnaming.steady (Crossing.reply 2 [])) (Misnaming.steady (Crossing.reply 3 []))
      (Misnaming.finds (Crossing.reply 2 [])) (Misnaming.finds (Crossing.reply 3 [])) rfl
      (Misnaming.agrees (Crossing.reply 2 []) (Crossing.reply 3 []))
      (fun url hurl => nomatch (Misnaming.no_detour (Crossing.reply 2 []) 2).symm.trans hurl)).2
        Misnaming.named_stop rfl (ne_crash (by decide +kernel))
          (ne_crash (by decide +kernel))).told_eq
          (not_or.2 ⟨Misnaming.not_misnamed (by decide +kernel) _,
            Misnaming.not_misnamed (by decide +kernel) _⟩)⟩

set_option maxRecDepth 10000 in
/-- **A failure may be reported under another's name**: where the first
aggregate says that the version is spoken at the URL of the second one, this
changes what is reported of the second one. -/
theorem Engine.outcome_misnamed :
    ¬∀ (w w' : World) (g : Engine) (i : Invocation) (s s' : Session) (c c' : Scene)
      (endpoints : List Endpoint) (n : Nat) (slot : Endpoint),
      i.operation.reconcilesFleet = false → 1 < endpoints.length →
      (endpoints.Pairwise fun a b => a.url ≠ b.url) → endpoints[n]? = some slot →
      w.Steady c → w'.Steady c' → g.Finds c s → g.Finds c' s' → c.now = c'.now →
      c.AgreesAt c' slot.url →
      (∀ url, detourIn? c (g.requested i).1 slot = some url → c.AgreesAt c' url) →
      g.named i = .ok endpoints →
      w.credential i.credentialSubject = w'.credential i.credentialSubject →
      (ExceptT.run (Engine.run w g i) s).1 ≠ .error .crash →
      (ExceptT.run (Engine.run w' g i) s').1 ≠ .error .crash →
      Engine.told? n (ExceptT.run (Engine.run w g i) s).1
        = Engine.told? n (ExceptT.run (Engine.run w' g i) s').1 := by
  intro h
  have returns : Misnaming.outcome (Crossing.reply 2 []) ≠ .error .crash :=
    ne_crash (by decide +kernel)
  have returns' : Misnaming.outcome (Crossing.reply 3 [("2", "http://[::2]")])
      ≠ .error .crash := ne_crash (by decide +kernel)
  generalize hplain : Crossing.reply 2 [] = plain at returns
  generalize hpointing : Crossing.reply 3 [("2", "http://[::2]")] = pointing at returns'
  have hsame : Engine.told? 1 (Misnaming.outcome plain)
      = Engine.told? 1 (Misnaming.outcome pointing) :=
    h (Misnaming.world plain) (Misnaming.world pointing) Misnaming.engine
      Misnaming.stop (Session.start .absent) (Session.start .absent)
      (Misnaming.scene plain) (Misnaming.scene pointing)
      [Misnaming.alpha, Misnaming.bravo] 1 Misnaming.bravo rfl (by decide) (by decide) rfl
      (Misnaming.steady plain) (Misnaming.steady pointing) (Misnaming.finds plain)
      (Misnaming.finds pointing) rfl (Misnaming.agrees plain pointing)
      (fun url hurl => nomatch (Misnaming.no_detour plain 2).symm.trans hurl)
      Misnaming.named_stop rfl returns returns'
  have hfailures := congrArg (Option.bind · (·.result.failure)) hsame
  subst hplain hpointing
  exact absurd hfailures (by decide +kernel)

end Federation
