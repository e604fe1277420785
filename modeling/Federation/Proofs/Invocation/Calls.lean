/-
  Federation.Proofs.Invocation.Calls
  ──────────────────────────────────
  **THE CALLS OF AN INVOCATION.**

  Of the requests that an invocation sends, those that do not just ask for a
  version are its calls.  Every call belongs to one visit, and a visit has a
  call exactly where its response came from the aggregate: where it was
  skipped it has none.

  Main results:
    * `calls_of_visited` — the call of a visit, and how it was planned;
    * `calls_of_toured` — the calls of all visits;
    * `calls_of_course` — the calls of a run are those of its round.
-/
import Federation.Proofs.Invocation.Course

namespace Federation

open Call (Prepared Response Visit Visited callRequest)
open Introspection (probeMethod)
open Version (Agreed Agreement AreProbes)

/-! ## §1. Calls among requests. -/

/-- The requests that do not just ask for a version. -/
def callsOf (requests : List Request) : List Request :=
  requests.filter fun r => r.method ≠ probeMethod

theorem callsOf_append (rs qs : List Request) : callsOf (rs ++ qs) = callsOf rs ++ callsOf qs :=
  List.filter_append rs qs

theorem callsOf_perm {rs qs : List Request} (h : rs.Perm qs) : (callsOf rs).Perm (callsOf qs) :=
  h.filter _

theorem callsOf_eq_nil_iff {rs : List Request} : callsOf rs = [] ↔ AreProbes rs := by
  simp [callsOf, AreProbes, List.filter_eq_nil_iff]

/-- No operation but the one that asks for a version has the method of
probes. -/
theorem wireName?_ne_probe {o : Operation} {v : Nat} {method : String}
    (hop : o ≠ .getVersion) (h : o.wireName? v = some method) : method ≠ probeMethod := by
  unfold Operation.wireName? at h
  split at h
  · cases h
  · split at h
    · cases h
      cases o <;> first | exact absurd rfl hop | decide
    · cases o <;> first | exact absurd rfl hop | (cases h; done) | (cases h; decide)

/-! ## §2. Visits that were answered. -/

/-- Whether a call was sent: it was answered, or it did not get through. -/
def Call.Response.isDelivered : Response → Bool
  | .replied _ => true
  | .failed _ => true
  | .skipped _ => false
  | .probed _ _ => false

/-- The URL that a visit called. -/
def Call.Visit.calledUrl? (v : Visit) : Option String :=
  if v.response.isDelivered then v.called.map Endpoint.url else none

namespace Engine

/-- **The call of a visit, and how it was planned**: for the version that was
agreed on, with the options and the arguments of that version. -/
inductive Called (w : World) (g : Engine) (i : Invocation) (credentials : List Credential)
    (version : Nat) (slot : Endpoint) (t : Session) : Visit → Request → Prop
  | made {a : Agreed} {redirected : Bool} {v : Nat} {draft : Call.Draft} {p : Prepared}
      {response : Response} (hop : i.operation ≠ .getVersion)
      (agreement : Agreement g.settings.terms version slot t a redirected)
      (speaks : a.version = some v)
      (built : Call.buildOptions ⟨g.settings.mode, i.operation, v⟩ (g.intent i) i.arguments
        (advertisedFormats a) = .ok draft)
      (prepared : Call.prepare i.operation v i.arguments credentials draft.options = .ok p)
      (delivered : response.isDelivered = true)
      (invoked : Call.Invoked w g.settings.callTimeout a.endpoint p t
        [callRequest g.settings.callTimeout a.endpoint p] response) :
      Called w g i credentials version slot t
        ⟨slot, some a.endpoint, redirected, response, a.warnings ++ draft.warnings⟩
        (callRequest g.settings.callTimeout a.endpoint p)

section

variable {w : World} {g : Engine} {i : Invocation} {credentials : List Credential}
  {version : Nat} {slot : Endpoint} {t : Session}

/-- What is agreed on has a version. -/
theorem version_of_agreement {terms : Version.Terms} {desired : Nat} {a : Agreed}
    {redirected : Bool} (h : Agreement terms desired slot t a redirected) :
    ∃ v, a.version = some v := by
  cases h with
  | own _ _ => exact ⟨_, rfl⟩
  | detour _ _ _ _ _ => exact ⟨_, rfl⟩
  | unheard _ _ _ => exact ⟨_, rfl⟩
  | mismatch _ _ => exact ⟨_, rfl⟩

/-- **The call of a visit**: there is one exactly where it was delivered. -/
theorem calls_of_visited {own : List Request} {v : Visit}
    (h : Visited w (g.itinerary i credentials version) slot t own (.ok v)) :
    (v.response.isDelivered = false ∧ callsOf own = []) ∨
      ∃ r, callsOf own = [r] ∧ Called w g i credentials version slot t v r := by
  cases h with
  | calledOff stopped => exact .inl ⟨rfl, rfl⟩
  | @probed probes o answers quiet heard =>
      refine .inl ⟨?_, callsOf_eq_nil_iff.2 quiet⟩
      cases o <;> rfl
  | refused quiet refusal => exact .inl ⟨rfl, callsOf_eq_nil_iff.2 quiet⟩
  | unavailable _ quiet _ _ => exact .inl ⟨rfl, callsOf_eq_nil_iff.2 quiet⟩
  | @called probes call a redirected p warnings response answers quiet agreement planned invoked =>
      -- The plan was made for the version agreed on, not for a default.
      obtain ⟨n, speaks⟩ := version_of_agreement agreement
      have hplan : g.planAt i credentials n (advertisedFormats a) = .ok (.call p warnings) := by
        have hplanned : g.planAt i credentials (a.version.getD version) (advertisedFormats a)
            = .ok (.call p warnings) := planned
        rwa [speaks] at hplanned
      obtain ⟨draft, hbuilt, hprepared, rfl⟩ := planAt_call hplan
      have hop : i.operation ≠ .getVersion := of_decide_eq_false answers
      have hmethod := wireName?_ne_probe hop (Call.prepare_method hprepared)
      have hcall : callsOf [callRequest g.settings.callTimeout a.endpoint p]
          = [callRequest g.settings.callTimeout a.endpoint p] := by
        simp [callsOf, callRequest, hmethod]
      rw [callsOf_append, callsOf_eq_nil_iff.2 quiet, List.nil_append]
      cases invoked with
      | calledOff stopped => exact .inl ⟨rfl, rfl⟩
      | replied answered =>
          exact .inr ⟨_, hcall,
            .made hop agreement speaks hbuilt hprepared rfl (.replied answered)⟩
      | failed answered =>
          exact .inr ⟨_, hcall,
            .made hop agreement speaks hbuilt hprepared rfl (.failed answered)⟩

theorem Called.calledUrl? {v : Visit} {r : Request}
    (h : Called w g i credentials version slot t v r) : v.calledUrl? = some r.url := by
  cases h with
  | made hop agreement speaks built prepared delivered invoked =>
      show (if Response.isDelivered _ then _ else _) = _
      rw [if_pos delivered]
      rfl

/-- **The calls of all visits**: each belongs to a visit, and the URLs that
are called are those of the visits. -/
theorem calls_of_toured {slots : List Endpoint} {sent : List Request}
    {parts : List (List Request × Visit)}
    (h : Toured w (g.itinerary i credentials version) slots t sent parts) :
    ((callsOf sent).map (·.url)).Perm ((parts.map Prod.snd).filterMap Visit.calledUrl?) ∧
      ∀ r ∈ callsOf sent, ∃ slot ∈ slots, ∃ v ∈ parts.map Prod.snd,
        Called w g i credentials version slot t v r := by
  obtain ⟨hvisits, hperm⟩ := h
  have hcalls := callsOf_perm hperm
  suffices hparts :
      (callsOf (parts.flatMap Prod.fst)).map (·.url)
          = (parts.map Prod.snd).filterMap Visit.calledUrl? ∧
        ∀ r ∈ callsOf (parts.flatMap Prod.fst), ∃ slot ∈ slots, ∃ v ∈ parts.map Prod.snd,
          Called w g i credentials version slot t v r by
    exact ⟨hparts.1 ▸ hcalls.map _, fun r hr => hparts.2 r (hcalls.subset hr)⟩
  clear hcalls hperm
  -- In the order of the slots, whatever order they were sent in.
  induction hvisits with
  | nil => exact ⟨rfl, fun r hr => nomatch hr⟩
  | @cons slot part slots parts hvisit _ ih =>
      obtain ⟨hurls, hmembers⟩ := ih
      rw [List.flatMap_cons, callsOf_append, List.map_append, hurls, List.map_cons]
      have hrest : ∀ r ∈ callsOf (parts.flatMap Prod.fst), ∃ slot' ∈ slot :: slots,
          ∃ v ∈ part.2 :: parts.map Prod.snd,
            Called w g i credentials version slot' t v r := by
        intro r hr
        obtain ⟨slot', hslot', v, hv, hcalled⟩ := hmembers r hr
        exact ⟨slot', List.mem_cons_of_mem _ hslot', v, List.mem_cons_of_mem _ hv, hcalled⟩
      rcases calls_of_visited hvisit with ⟨hskipped, hown⟩ | ⟨r, hown, hcalled⟩
      · have hurl : part.2.calledUrl? = none := by
          unfold Call.Visit.calledUrl?
          rw [hskipped]
          rfl
        rw [hown, List.filterMap_cons_none hurl]
        exact ⟨rfl, hrest⟩
      · rw [hown, List.filterMap_cons_some hcalled.calledUrl?]
        refine ⟨rfl, fun q hq => ?_⟩
        rcases List.mem_append.1 hq with hq | hq
        · obtain rfl := List.mem_singleton.1 hq
          exact ⟨slot, List.mem_cons_self, part.2, List.mem_cons_self, hcalled⟩
        · exact hrest q hq

/-- The slots of the visits are those that were asked for. -/
theorem slots_of_toured {slots : List Endpoint} {sent : List Request}
    {parts : List (List Request × Visit)}
    (h : Toured w (g.itinerary i credentials version) slots t sent parts) :
    (parts.map Prod.snd).map (·.slot) = slots := by
  obtain ⟨hvisits, -⟩ := h
  induction hvisits with
  | nil => rfl
  | cons hvisit _ ih => rw [List.map_cons, List.map_cons, ih, hvisit.slot_eq]

end

/-- **Where the calls of a run come from**: the visits of its round.  A run
that ends before there is a round makes none, and neither does one that
crashes. -/
theorem calls_of_course {s : Session} {sent : List Request}
    {outcome : Except Halt Answer.Report} (h : Course w g i s t sent outcome) :
    callsOf sent = [] ∨ ∃ endpoints credentials version message probes round parts,
      Launched w g i t endpoints credentials version message probes ∧
        Toured w (g.itinerary i credentials version) endpoints t round parts ∧
        callsOf sent = callsOf round ∧
        ∀ report, outcome = .ok report →
          report = g.reportOn i version message (parts.map Prod.snd) := by
  cases h with
  | calledOff _ => exact .inl rfl
  | unresolved _ => exact .inl rfl
  | refused _ _ _ => exact .inl rfl
  | undecided _ _ _ quiet => exact .inl (callsOf_eq_nil_iff.2 quiet)
  | rejected launched _ => exact .inl (callsOf_eq_nil_iff.2 launched.quiet)
  | crashed launched _ _ quiet =>
      refine .inl ?_
      rw [callsOf_append, callsOf_eq_nil_iff.2 launched.quiet, callsOf_eq_nil_iff.2 quiet]
      rfl
  | ended launched _ toured _ =>
      refine .inr ⟨_, _, _, _, _, _, _, launched, toured, ?_, fun report h => nomatch h⟩
      rw [callsOf_append, callsOf_eq_nil_iff.2 launched.quiet, List.nil_append]
  | reported launched _ toured _ =>
      refine .inr ⟨_, _, _, _, _, _, _, launched, toured, ?_,
        fun report h => (Except.ok.inj h).symm⟩
      rw [callsOf_append, callsOf_eq_nil_iff.2 launched.quiet, List.nil_append]

/-- A report tells of the visits in their order. -/
theorem visits_reportOn (g : Engine) (i : Invocation) (version : Nat) (message : Option String)
    (visits : List Visit) : (g.reportOn i version message visits).outcomes.map (·.visit)
      = visits := by
  unfold reportOn Answer.Report.of
  rw [List.map_map, List.map_map]
  exact List.map_id visits

/-- An outcome in a report belongs to a visit, and its result is the one of
the visit. -/
theorem visit_of_outcome {g : Engine} {i : Invocation} {version : Nat} {message : Option String}
    {visits : List Visit} {o : Answer.EndpointOutcome}
    (ho : o ∈ (g.reportOn i version message visits).outcomes) :
    o.visit ∈ visits ∧
      o.result
        = Answer.normalise g.settings.mode (o.visit.version.getD version) o.visit.response := by
  unfold reportOn Answer.Report.of at ho
  rw [List.map_map] at ho
  obtain ⟨visit, hvisit, rfl⟩ := List.mem_map.1 ho
  exact ⟨hvisit, rfl⟩

/-! ## §4. A plain engine. -/

/-- An engine that goes by version 2, strictly, and knows no aggregate by
name. -/
def plain : Engine :=
  ⟨⟨2, false, .strict, 0, true, 60, false, 360, 1, none⟩,
    ⟨Directory.Nicknames.ofDirectives [], [], none⟩⟩

/-- The fault that a run ends with. -/
def faultOf? (w : World) (g : Engine) (i : Invocation) (s : Session) : Option InvocationFault :=
  match (ExceptT.run (g.run w i) s).1 with
  | .error (.fault fault) => some fault
  | _ => none

theorem run_of_faultOf? {w : World} {g : Engine} {i : Invocation} {s : Session}
    {fault : InvocationFault} (h : faultOf? w g i s = some fault) :
    (ExceptT.run (g.run w i) s).1 = .error (.fault fault) := by
  unfold faultOf? at h
  split at h
  · rename_i f hf
    rw [hf, Option.some.inj h]
  · cases h

/-- The version of the report that a run ends with, and the failures in
it. -/
def failuresOf? (w : World) (g : Engine) (i : Invocation) (s : Session) :
    Option (Nat × List (Option Call.Failure)) :=
  match (ExceptT.run (g.run w i) s).1 with
  | .error _ => none
  | .ok report => some (report.version, report.outcomes.map (·.result.failure))

theorem run_of_failuresOf? {w : World} {g : Engine} {i : Invocation} {s : Session} {version : Nat}
    {failures : List (Option Call.Failure)}
    (h : failuresOf? w g i s = some (version, failures)) :
    ∃ report, (ExceptT.run (g.run w i) s).1 = .ok report ∧ report.version = version ∧
      report.outcomes.map (·.result.failure) = failures := by
  unfold failuresOf? at h
  split at h
  · cases h
  · rename_i report hreport
    cases h
    exact ⟨report, hreport, rfl, rfl⟩

end Engine

end Federation
