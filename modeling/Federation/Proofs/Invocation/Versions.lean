/-
  Federation.Proofs.Invocation.Versions
  ─────────────────────────────────────
  **EVERY CALL IS AT ONE VERSION.**

  The version that was agreed on with an aggregate decides on the method, on
  the options, on the arguments and the form of the credentials, and on how
  the reply is read.  In strict mode it is the version of the invocation, and
  a probe of the URL that is called spoke or advertised it there.  In relaxed
  mode it may instead be the version that the aggregate speaks, where it
  answered but does not serve the one that was wanted.

  Main results:
    * `fits_of_called` — the call of a visit fits its version;
    * `run_calls_fit` — so does every call of an invocation, and its reply
      is read at the same version.
-/
import Federation.Proofs.Call.Prepared
import Federation.Proofs.Invocation.Calls

namespace Federation

open Answer (EndpointOutcome Report)
open Call (Prepared Response Visit)
open Introspection (Probed)
open Version (Agreed Agreement Unserved advertisedUrl? speaksAtOwnUrl)

/-! ## §1. What fits. -/

namespace Engine

/-- **A request that fits a version**, sent for a slot after an agreement in
an invocation at a version. -/
structure Fits (g : Engine) (i : Invocation) (t : Session) (credentials : List Credential)
    (version : Nat) (slot : Endpoint) (a : Agreed) (v : Nat) (r : Request) : Prop where
  negotiated : a.endpoint.version = some v
  url : r.url = a.endpoint.url
  method : i.operation.wireName? v = some r.method
  /-- What the options are made by was said at the URL that is called. -/
  known : ∀ p, a.probed = some p → (a.endpoint.url, .ok p) ∈ t.memo
  prepared : ∃ draft,
    Call.buildOptions ⟨g.settings.mode, i.operation, v⟩ (g.intent i) i.arguments
      (advertisedFormats a) = .ok draft ∧
    Call.prepare i.operation v i.arguments credentials draft.options
      = .ok ⟨r.method, r.arguments⟩
  signed : ∀ (n : Nat) (argument : Json),
    (Call.shape i.operation v)[n]? = some Call.Slot.credentials →
    r.arguments[n]? = some argument → argument = .array (credentials.map (·.wire v))
  strict : g.settings.mode = .strict → v = version ∧ ∃ p, (r.url, .ok p) ∈ t.memo ∧
    (p.snapshot.primary = v ∨ advertisedUrl? p v = some r.url)
  relaxed : g.settings.mode = .relaxed → v = version ∨ ∃ p, (r.url, .ok p) ∈ t.memo ∧
    r.url = slot.url ∧ Unserved t version slot p ∧ p.snapshot.primary = v

/-- A call that was answered at the version that it was made at, or did not
get through. -/
def ReadAt (w : World) (g : Engine) (t : Session) (v : Nat) (r : Request)
    (o : EndpointOutcome) : Prop :=
  o.visit.version = some v ∧
    ((∃ reply, t.Answered w r (.ok reply) ∧ o.visit.response = .replied reply ∧
        o.result = Answer.unwrap g.settings.mode v reply) ∨
      ∃ raw failure, t.Answered w r (.error raw) ∧ o.visit.response = .failed failure ∧
        o.result = .ofFailure (.transport failure))

section

variable {w : World} {g : Engine} {i : Invocation} {credentials : List Credential}
  {version : Nat} {slot : Endpoint} {t : Session}

/-! ## §2. One call. -/

/-- What is known of the URL that is called was said there. -/
theorem known_of_agreement {a : Agreed} {redirected : Bool}
    (h : Agreement g.settings.terms version slot t a redirected) :
    ∀ p, a.probed = some p → (a.endpoint.url, .ok p) ∈ t.memo := by
  intro p hp
  cases h with
  | own heard _ => cases hp; exact heard
  | detour _ _ _ heardThere _ => cases hp; exact heardThere
  | unheard _ _ _ => cases hp
  | mismatch _ unserved => cases hp; exact unserved.heard

/-- In strict mode the version is the one that was wanted, spoken or
advertised where the call goes. -/
theorem strict_of_agreement {a : Agreed} {redirected : Bool} {v : Nat}
    (h : Agreement g.settings.terms version slot t a redirected)
    (hmode : g.settings.mode = .strict) (hv : a.version = some v) :
    v = version ∧ ∃ p, (a.endpoint.url, .ok p) ∈ t.memo ∧
      (p.snapshot.primary = v ∨ advertisedUrl? p v = some a.endpoint.url) := by
  cases h with
  | @own p heard speaks =>
      cases hv
      refine ⟨rfl, p, heard, ?_⟩
      simpa [speaksAtOwnUrl] using speaks
  | @detour p q url _ _ _ heardThere confirmed =>
      cases hv
      exact ⟨rfl, q, heardThere, .inl confirmed⟩
  -- Nothing else is agreed on in strict mode.
  | unheard relaxed _ _ => cases hmode.symm.trans relaxed
  | mismatch relaxed _ => cases hmode.symm.trans relaxed

/-- In relaxed mode the version is the one that was wanted, or the one that
is spoken where it is not served. -/
theorem relaxed_of_agreement {a : Agreed} {redirected : Bool} {v : Nat}
    (h : Agreement g.settings.terms version slot t a redirected) (hv : a.version = some v) :
    v = version ∨ ∃ p, (a.endpoint.url, .ok p) ∈ t.memo ∧ a.endpoint.url = slot.url ∧
      Unserved t version slot p ∧ p.snapshot.primary = v := by
  cases h with
  | own _ _ => cases hv; exact .inl rfl
  | detour _ _ _ _ _ => cases hv; exact .inl rfl
  | unheard _ _ _ => cases hv; exact .inl rfl
  | @mismatch p _ unserved => cases hv; exact .inr ⟨p, unserved.heard, rfl, unserved, rfl⟩

/-- **The call of a visit fits the version that was agreed on**, and its
reply is read at it. -/
theorem fits_of_called {visit : Visit} {r : Request}
    (h : Called w g i credentials version slot t visit r) :
    ∃ a v, Fits g i t credentials version slot a v r ∧ visit.slot = slot ∧
      visit.called = some a.endpoint ∧ visit.version = some v ∧
      ((∃ reply, t.Answered w r (.ok reply) ∧ visit.response = .replied reply) ∨
        ∃ raw failure, t.Answered w r (.error raw) ∧ visit.response = .failed failure) := by
  cases h with
  | @made a redirected v draft p response hop agreement speaks built prepared delivered invoked =>
      have hfits : Fits g i t credentials version slot a v
          (Call.callRequest g.settings.callTimeout a.endpoint p) :=
        { negotiated := speaks
          url := rfl
          method := Call.prepare_method prepared
          known := known_of_agreement agreement
          prepared := ⟨draft, built, prepared⟩
          signed := fun _ _ hslot hargument =>
            Call.prepare_credentials prepared hslot hargument
          strict := fun hmode => strict_of_agreement agreement hmode speaks
          relaxed := fun _ => relaxed_of_agreement agreement speaks }
      refine ⟨a, v, hfits, rfl, rfl, speaks, ?_⟩
      cases invoked with
      | replied answered => exact .inl ⟨_, answered, rfl⟩
      | failed answered => exact .inr ⟨_, _, answered, rfl⟩

/-! ## §3. All calls. -/

/-- A report reads what came of a visit at the visit's version. -/
theorem outcome_of_visit (g : Engine) (i : Invocation) (version : Nat)
    (message : Option String) {visits : List Visit} {visit : Visit} {v : Nat} (hmem : visit ∈ visits)
    (hversion : visit.version = some v) :
    ∃ o ∈ (g.reportOn i version message visits).outcomes, o.visit = visit ∧
      o.result = Answer.normalise g.settings.mode v visit.response := by
  refine ⟨_, List.mem_map.2 ⟨_, List.mem_map.2 ⟨visit, hmem, rfl⟩, rfl⟩, rfl, ?_⟩
  show Answer.normalise g.settings.mode (visit.version.getD version) visit.response = _
  rw [hversion]
  rfl

end

/-- What is to be shown of the calls of a run that ended with an outcome. -/
def CallsFit (w : World) (g : Engine) (i : Invocation) (t : Session) (calls : List Request)
    (outcome : Except Halt Report) : Prop :=
  ∀ r ∈ calls, ∃ endpoints credentials version message slot a v,
    g.named i = .ok endpoints ∧ slot ∈ endpoints ∧ Credentialed w i credentials ∧
      Adopted g i endpoints t version message ∧
      Fits g i t credentials version slot a v r ∧
      ∀ report, outcome = .ok report → report.version = version ∧
        ∃ o ∈ report.outcomes, o.visit.slot = slot ∧ o.visit.called = some a.endpoint ∧
          ReadAt w g t v r o

/-- The calls of a round fit. -/
theorem callsFit_of_toured {w : World} {g : Engine} {i : Invocation} {t : Session}
    {endpoints : List Endpoint} {credentials : List Credential} {version : Nat}
    {message : Option String} {probes sent : List Request}
    {parts : List (List Request × Visit)} {outcome : Except Halt Report}
    (launched : Launched w g i t endpoints credentials version message probes)
    (toured : Toured w (g.itinerary i credentials version) endpoints t sent parts)
    (houtcome : ∀ report, outcome = .ok report →
      report = g.reportOn i version message (parts.map Prod.snd)) :
    CallsFit w g i t (callsOf (probes ++ sent)) outcome := by
  rw [callsOf_append, callsOf_eq_nil_iff.2 launched.quiet, List.nil_append]
  intro r hr
  obtain ⟨slot, hslot, visit, hvisit, hcalled⟩ := (calls_of_toured toured).2 r hr
  obtain ⟨a, v, hfits, hvslot, hvcalled, hversion, hresponse⟩ := fits_of_called hcalled
  refine ⟨endpoints, credentials, version, message, slot, a, v, launched.resolved, hslot,
    launched.credentialed, launched.adopted, hfits, fun report hreport => ?_⟩
  obtain rfl := houtcome report hreport
  obtain ⟨o, ho, hovisit, horesult⟩ := outcome_of_visit g i version message hvisit hversion
  refine ⟨rfl, o, ho, by rw [hovisit, hvslot], by rw [hovisit, hvcalled],
    by rw [hovisit, hversion], ?_⟩
  rw [horesult, hovisit]
  rcases hresponse with ⟨reply, answered, hreply⟩ | ⟨raw, failure, answered, hfailure⟩
  · refine .inl ⟨reply, answered, hreply, ?_⟩
    rw [hreply, Answer.normalise_replied]
  · refine .inr ⟨raw, failure, answered, hfailure, ?_⟩
    rw [hfailure]
    rfl

/-- **Every call of an invocation fits the version that was agreed on with the
aggregate**, and what it is answered is read at that version. -/
theorem run_calls_fit (w : World) (g : Engine) (i : Invocation) (s : Session) :
    ∃ sent, (ExceptT.run (g.run w i) s).2.requests = s.requests ++ sent ∧
      CallsFit w g i (ExceptT.run (g.run w i) s).2 (callsOf sent)
        (ExceptT.run (g.run w i) s).1 := by
  obtain ⟨sent, hlog, hcourse⟩ := course_run w g i s
  refine ⟨sent, hlog, ?_⟩
  generalize ExceptT.run (g.run w i) s = result at hcourse
  obtain ⟨outcome, t⟩ := result
  have hnone (hquiet : callsOf sent = []) : CallsFit w g i t (callsOf sent) outcome := by
    rw [hquiet]
    exact fun r hr => nomatch hr
  cases hcourse with
  | calledOff _ => exact hnone rfl
  | unresolved _ => exact hnone rfl
  | refused _ _ _ => exact hnone rfl
  | undecided _ _ _ quiet => exact hnone (callsOf_eq_nil_iff.2 quiet)
  | rejected launched _ => exact hnone (callsOf_eq_nil_iff.2 launched.quiet)
  | crashed launched _ _ quiet =>
      refine hnone ?_
      rw [callsOf_append, callsOf_eq_nil_iff.2 launched.quiet, callsOf_eq_nil_iff.2 quiet]
      rfl
  | ended launched _ toured _ =>
      exact callsFit_of_toured launched toured fun report h => nomatch h
  | reported launched _ toured _ =>
      exact callsFit_of_toured launched toured fun report h => (Except.ok.inj h).symm

end Engine

end Federation
