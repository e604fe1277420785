/-
  Federation.Proofs.Invocation.Plans
  ──────────────────────────────────
  **WHAT IS PLANNED IN STRICT MODE.**

  In strict mode an aggregate is called at the version of the invocation, for
  which the request was found in order.  No call is planned only where the
  operation does not exist at that version, where the aggregate does not
  advertise the format that is asked for, and where a renewal asks for a time
  that cannot be read (`Plans`).  The last has nothing to do with the
  aggregate: the check before the calls looks for a time and does not read
  it.  Where the time of a renewal leaves the calendar nothing is planned, and
  the run returns nothing.

  Main result: `incompatible_iff_unreadable` — in a strict run that returns an
  aggregate is skipped for a request without a form exactly where the time of a
  renewal cannot be read.
-/
import Federation.Proofs.Invocation.Acceptance
import Federation.Proofs.Invocation.Faults
import Federation.Proofs.Invocation.Versions

namespace Federation

open Answer (EndpointOutcome)
open Call (Plan SkipReason Visit Visited skippedVisit timeFault?)
open Version (Refusal)

/-! ## §1. Checked requests. -/

namespace Engine

section Checked

variable {g : Engine} {i : Invocation} {v : Nat} (hop : i.operation ≠ .getVersion)
  (checked : g.check i v = .ok ())
include hop checked

/-- The arguments are in order, where the operation exists. -/
theorem valid_of_checked (present : (i.operation.wireName? v).isSome = true) :
    i.operation.validate v i.arguments = .ok () := by
  have harguments := (stages_of_checked hop checked).1
  unfold checkArguments at harguments
  cases hvalid : i.operation.validate v i.arguments with
  | ok u => rfl
  | error fault =>
      rw [hvalid] at harguments
      cases fault with
      | unavailable o v' =>
          -- An operation that exists is not found missing.
          unfold Operation.validate at hvalid
          have hname : ¬(i.operation.wireName? v).isNone = true := fun h =>
            Option.isSome_iff_ne_none.1 present (Option.isNone_iff_eq_none.1 h)
          rw [if_neg hname] at hvalid
          split at hvalid <;> cases hvalid
      | _ => cases harguments

/-- The options are in order, where no formats are advertised. -/
theorem accepted_of_checked (hmode : g.settings.mode = .strict) :
    Call.requestFault? ⟨.strict, i.operation, v⟩ (g.intent i) i.arguments = none := by
  have hoptions := (stages_of_checked hop checked).2
  unfold checkOptions at hoptions
  rw [hmode] at hoptions
  refine (Call.buildOptions_isOk_iff rfl (g.intent i) i.arguments).1 ?_
  cases hbuilt : Call.buildOptions ⟨.strict, i.operation, v⟩ (g.intent i) i.arguments [] with
  | ok draft => exact ⟨draft, rfl⟩
  | error fault => rw [hbuilt] at hoptions; cases hoptions

end Checked

/-! ## §2. Plans for checked requests. -/

/-- **What is planned for a request that was found in order**, at the version
that it was checked for. -/
inductive Plans (i : Invocation) (v : Nat) : Except Halt Plan → Prop
  | absent (lacking : i.operation.wireName? v = none) :
      Plans i v (.ok (.unavailable (.operationUnavailable i.operation v)))
  | unadvertised {requested advertised : String}
      (present : (i.operation.wireName? v).isSome = true)
      (takes : i.operation.takesFormat = true) :
      Plans i v (.ok (.unavailable (.unsupportedFormat requested advertised)))
  | unreadable {fault : Time.TimeFault} (present : (i.operation.wireName? v).isSome = true)
      (time : timeFault? i.operation i.arguments = some fault)
      (inCalendar : fault ≠ .outOfCalendar) :
      Plans i v (.ok (.unavailable
        (.incompatibleRequest v (OperationFault.invalid i.operation "expiration" fault).message)))
  | beyond (time : timeFault? i.operation i.arguments = some .outOfCalendar) :
      Plans i v (.error .crash)
  | call {prepared : Call.Prepared} {warnings : List String}
      (present : (i.operation.wireName? v).isSome = true)
      (time : timeFault? i.operation i.arguments = none) : Plans i v (.ok (.call prepared warnings))

theorem plans_of_checked {g : Engine} {i : Invocation} {v : Nat}
    (hmode : g.settings.mode = .strict) (hop : i.operation ≠ .getVersion)
    (checked : g.check i v = .ok ()) (credentials : List Credential)
    (advertised : List ResourceFormat) : Plans i v (g.planAt i credentials v advertised) := by
  unfold planAt
  by_cases absent : (i.operation.wireName? v).isNone = true
  · rw [if_pos absent]
    exact .absent (Option.isNone_iff_eq_none.1 absent)
  · rw [if_neg absent]
    have present : (i.operation.wireName? v).isSome = true :=
      Option.isSome_iff_ne_none.2 fun h => absent (Option.isNone_iff_eq_none.2 h)
    have valid := valid_of_checked hop checked present
    have hbuilt := Call.buildOptions_of_accepted (c := ⟨.strict, i.operation, v⟩) rfl
      (accepted_of_checked hop checked hmode) advertised
    rw [hmode]
    cases hformat : Call.advertisedFault? ⟨.strict, i.operation, v⟩ (g.intent i) advertised with
    | some fault =>
        -- Nothing but the format can be at fault by now.
        obtain ⟨requested, listed, rfl, takes⟩ := Call.advertisedFault?_eq_some hformat
        rw [hformat] at hbuilt
        rw [show Call.buildOptions _ _ _ _ = _ from hbuilt]
        exact .unadvertised present takes
    | none =>
        rw [hformat] at hbuilt
        obtain ⟨draft, hdraft⟩ := hbuilt
        rw [hdraft]
        have hprepare := Call.prepare_of_valid valid credentials draft.options
        cases time : timeFault? i.operation i.arguments with
        | some fault =>
            rw [time] at hprepare
            simp only [hprepare]
            cases fault with
            | outOfCalendar => exact .beyond time
            | unreadable => exact .unreadable present time nofun
            | yearOutOfText => exact .unreadable present time nofun
        | none =>
            rw [time] at hprepare
            obtain ⟨p, hp⟩ := hprepare
            simp only [hp]
            exact .call present time

/-! ## §3. Visits in strict mode. -/

theorem refusal_ne_incompatible {t : Version.Terms} {desired : Nat} {e : Endpoint} {s : Session}
    {reason : SkipReason} (h : Refusal t desired e s reason) (n : Nat) (detail : String) :
    reason ≠ .incompatibleRequest n detail := by
  cases h with
  | calledOff _ => nofun
  | @unheard fault _ _ _ => cases fault <;> nofun
  | mismatch _ _ => nofun

/-- **What a visit in strict mode comes to**: the aggregate is given up, no
call is planned for it, or one is. -/
inductive Dealt (i : Invocation) (v : Nat) (visit : Visit) : Prop
  | givenUp {reason : SkipReason} (called : visit.called = none)
      (response : visit.response = .skipped reason)
      (other : ∀ n detail, reason ≠ .incompatibleRequest n detail) : Dealt i v visit
  | barred {reason : SkipReason} (called : visit.called.isSome = true)
      (plans : Plans i v (.ok (.unavailable reason)))
      (response : visit.response = .skipped reason) : Dealt i v visit
  | tried {prepared : Call.Prepared} {warnings : List String}
      (called : visit.called.isSome = true) (plans : Plans i v (.ok (.call prepared warnings)))
      (response : visit.response.isDelivered = true ∨ visit.response = .skipped .aborted) :
      Dealt i v visit

theorem dealt_of_visited {w : World} {g : Engine} {i : Invocation} {credentials : List Credential}
    {version : Nat} {slot : Endpoint} {t : Session} {own : List Request} {visit : Visit}
    (hmode : g.settings.mode = .strict) (hop : i.operation ≠ .getVersion)
    (checked : g.check i version = .ok ())
    (h : Visited w (g.itinerary i credentials version) slot t own (.ok visit)) :
    Dealt i version visit := by
  -- In strict mode the plan is made for the version that was checked.
  have plans {a : Version.Agreed} {redirected : Bool} {plan : Plan}
      (agreement : Version.Agreement g.settings.terms version slot t a redirected)
      (planned : (g.itinerary i credentials version).planner.plan a = .ok plan) :
      Plans i version (.ok plan) := by
    obtain ⟨n, speaks⟩ := version_of_agreement agreement
    obtain ⟨rfl, -⟩ := strict_of_agreement agreement hmode speaks
    have hplan : g.planAt i credentials n (advertisedFormats a) = .ok plan := by
      rw [← planned]
      show _ = g.planAt i credentials (a.version.getD _) _
      rw [speaks]
      rfl
    rw [← hplan]
    exact plans_of_checked hmode hop checked credentials (advertisedFormats a)
  cases h with
  | calledOff _ => exact .givenUp rfl rfl nofun
  | probed answers _ _ => exact absurd (of_decide_eq_true answers) hop
  | refused _ refusal => exact .givenUp rfl rfl (refusal_ne_incompatible refusal)
  | unavailable _ _ agreement planned => exact .barred rfl (plans agreement planned) rfl
  | called _ _ agreement planned invoked =>
      refine .tried rfl (plans agreement planned) ?_
      cases invoked with
      | calledOff _ => exact .inr rfl
      | replied _ => exact .inl rfl
      | failed _ => exact .inl rfl

/-! ## §4. Requests without a form. -/

/-- A renewal up to a time that cannot be read. -/
structure Unreadable (i : Invocation) (fault : Time.TimeFault) : Prop where
  renews : i.operation = .renew
  time : ∃ text, i.arguments.expiration = some text ∧ Time.normalise text = .error fault

/-- What is said of it. -/
def unreadableDetail (fault : Time.TimeFault) : String :=
  (OperationFault.invalid .renew "expiration" fault).message

theorem timeFault?_of_unreadable {i : Invocation} {fault : Time.TimeFault}
    (h : Unreadable i fault) : timeFault? i.operation i.arguments = some fault := by
  obtain ⟨hrenew, text, htext, hfault⟩ := h
  unfold timeFault?
  rw [if_pos hrenew, htext, Option.getD_some, hfault]

/-- Where a time was found to be there, it is the one at fault. -/
theorem unreadable_of_timeFault? {i : Invocation} {v : Nat} {fault : Time.TimeFault}
    (valid : i.operation.validate v i.arguments = .ok ())
    (h : timeFault? i.operation i.arguments = some fault) : Unreadable i fault := by
  unfold timeFault? at h
  split at h
  · rename_i hrenew
    obtain ⟨-, hmeets⟩ := (Operation.validate_eq_ok_iff _ _ _).1 valid
    have hthere : i.arguments.meets .expiration = true :=
      hmeets .expiration (by rw [hrenew]; exact List.mem_cons_of_mem _ List.mem_cons_self)
    obtain ⟨text, htext⟩ := Option.isSome_iff_exists.1 hthere
    rw [htext] at h
    refine ⟨hrenew, text, htext, ?_⟩
    cases hread : Time.normalise text with
    | ok s => simp [hread] at h
    | error fault' => simpa [hread] using h
  · cases h

/-- **A visit is skipped for a request without a form** exactly where an
aggregate was agreed with and the time of the renewal cannot be read. -/
theorem Dealt.incompatible_iff {g : Engine} {i : Invocation} {v : Nat} {visit : Visit}
    (h : Dealt i v visit) (hop : i.operation ≠ .getVersion) (checked : g.check i v = .ok ())
    (n : Nat) (detail : String) :
    visit.response = .skipped (.incompatibleRequest n detail) ↔
      visit.called.isSome = true ∧ n = v ∧ v ≠ 0 ∧
        ∃ fault, Unreadable i fault ∧ detail = unreadableDetail fault := by
  constructor
  · intro hresponse
    cases h with
    | givenUp _ response other =>
        exact absurd (Call.Response.skipped.inj (response.symm.trans hresponse)) (other n detail)
    | barred called plans response =>
        obtain rfl := Call.Response.skipped.inj (response.symm.trans hresponse)
        cases plans with
        | unreadable present time _ =>
            have hunreadable := unreadable_of_timeFault? (valid_of_checked hop checked present) time
            refine ⟨called, rfl, ?_, _, hunreadable, by rw [hunreadable.renews]; rfl⟩
            rintro rfl
            cases present
    | tried _ _ response =>
        rw [hresponse] at response
        rcases response with delivered | stopped
        · cases delivered
        · cases stopped
  · rintro ⟨hcalled, rfl, hv, fault, hunreadable, rfl⟩
    have time := timeFault?_of_unreadable hunreadable
    cases h with
    | givenUp called _ _ => rw [called] at hcalled; cases hcalled
    | barred _ plans response =>
        rw [response]
        cases plans with
        | absent lacking =>
            rw [Operation.wireName?_eq_none_iff, hunreadable.renews] at lacking
            simp [hv] at lacking
        | unadvertised _ takes => rw [hunreadable.renews] at takes; cases takes
        | unreadable _ time' _ =>
            obtain rfl := Option.some.inj (time'.symm.trans time)
            rw [hunreadable.renews]
            rfl
    | tried _ plans _ =>
        cases plans with
        | call _ time' => cases time'.symm.trans time

/-! ## §5. Runs in strict mode. -/

/-- Who is asked for its version is not skipped for a request. -/
theorem version_not_incompatible {w : World} {g : Engine} {i : Invocation}
    {credentials : List Credential} {version : Nat} {slot : Endpoint} {t : Session}
    {own : List Request} {visit : Visit} (hop : i.operation = .getVersion)
    (h : Visited w (g.itinerary i credentials version) slot t own (.ok visit)) (n : Nat)
    (detail : String) : visit.response ≠ .skipped (.incompatibleRequest n detail) := by
  have answers : (g.itinerary i credentials version).planner.answersFromProbe = true :=
    decide_eq_true hop
  cases h with
  | calledOff _ => nofun
  | @probed _ o _ _ _ =>
      cases o with
      | ok p => nofun
      | error fault => cases fault <;> nofun
  | refused _ refusal =>
      intro h
      exact refusal_ne_incompatible refusal n detail (Call.Response.skipped.inj h)
  | unavailable answers' _ _ _ => cases answers'.symm.trans answers
  | called answers' _ _ _ _ => cases answers'.symm.trans answers

theorem visit_incompatible_iff {w : World} {g : Engine} {i : Invocation}
    {credentials : List Credential} {version : Nat} {slots : List Endpoint} {t : Session}
    {sent : List Request} {parts : List (List Request × Visit)} {visit : Visit}
    (hmode : g.settings.mode = .strict) (checked : g.check i version = .ok ())
    (toured : Toured w (g.itinerary i credentials version) slots t sent parts)
    (hvisit : visit ∈ parts.map Prod.snd) (n : Nat) (detail : String) :
    visit.response = .skipped (.incompatibleRequest n detail) ↔
      visit.called.isSome = true ∧ n = version ∧ version ≠ 0 ∧
        ∃ fault, Unreadable i fault ∧ detail = unreadableDetail fault := by
  obtain ⟨part, hpart, rfl⟩ := List.mem_map.1 hvisit
  obtain ⟨slot, -, visited⟩ := exists_left_of_mem toured.1 hpart
  by_cases hop : i.operation = .getVersion
  · refine ⟨fun h => absurd h (version_not_incompatible hop visited n detail), ?_⟩
    rintro ⟨-, -, -, fault, hunreadable, -⟩
    cases hop.symm.trans hunreadable.renews
  · exact (dealt_of_visited hmode hop checked visited).incompatible_iff hop checked n detail

/-- **In strict mode a request without a form is a renewal up to a time that
cannot be read**, and nothing else is: where the run returns every aggregate that
it was agreed with is skipped for it, and a lone one ends the invocation. -/
theorem incompatible_iff_unreadable (w : World) (g : Engine) (i : Invocation) (s : Session)
    (hmode : g.settings.mode = .strict) :
    (∀ report, (ExceptT.run (g.run w i) s).1 = .ok report → ∀ o ∈ report.outcomes,
      ∀ n detail, o.result.failure = some (.skipped (.incompatibleRequest n detail)) ↔
        o.visit.called.isSome = true ∧ n = report.version ∧ report.version ≠ 0 ∧
          ∃ fault, Unreadable i fault ∧ detail = unreadableDetail fault) ∧
    ∀ label n detail, (ExceptT.run (g.run w i) s).1
        = .error (.fault (.endpointSkipped label (.incompatibleRequest n detail))) →
      n = (g.requested i).1 ∧ ∃ fault, Unreadable i fault ∧ detail = unreadableDetail fault := by
  obtain ⟨sent, -, hcourse⟩ := course_run w g i s
  constructor
  · intro report hreport o ho n detail
    rw [hreport] at hcourse
    cases hcourse with
    | reported launched checked toured _ =>
        obtain ⟨hvisit, hresult⟩ := visit_of_outcome ho
        rw [hresult, Answer.skipped_iff]
        exact visit_incompatible_iff hmode checked toured hvisit n detail
  · intro label n detail hfault
    rw [hfault] at hcourse
    cases hcourse with
    | undecided _ _ decided _ =>
        rcases Version.decideFrom_error decided.decided.symm with h | ⟨failures, h⟩ <;> cases h
    | rejected _ checked => rcases check_error checked with ⟨f, h⟩ | ⟨f, h⟩ | h <;> cases h
    | ended launched checked toured settled =>
        obtain ⟨only, hvisits, hfate⟩ := Call.settleLone_error settled
        have hvisit := hvisits ▸ List.mem_singleton_self only
        rcases hfate with ⟨_, h⟩ | ⟨reason, hresponse, h⟩ | ⟨failure, _, h⟩
        · cases h
        · cases h
          obtain ⟨-, rfl, -, fault, hunreadable, hdetail⟩ :=
            (visit_incompatible_iff hmode checked toured hvisit n detail).1 hresponse
          refine ⟨?_, fault, hunreadable, hdetail⟩
          -- No fleet votes on the version of a renewal.
          cases launched.adopted with
          | asked _ => rfl
          | voted decided =>
              have hvotes := decided.reconciles
              rw [hunreadable.renews] at hvotes
              cases hvotes
        · cases h

namespace Tomorrow

/-- A slice is to be renewed up to a time that cannot be read. -/
def renewal (identifiers : List String) : Invocation :=
  ⟨.renew, identifiers,
    { Arguments.none with slice := some "urn:s", expiration := some "tomorrow" },
    Call.Intent.plain, none, false, none⟩

/-- What an aggregate is skipped for. -/
def reason : SkipReason := .incompatibleRequest 2 (unreadableDetail .unreadable)

set_option maxRecDepth 10000 in
/-- Both aggregates speak the version, and neither is called. -/
theorem both_skipped :
    ∃ report, (ExceptT.run (plain.run (Uniform.world 2)
        (renewal ["http://[::1]", "http://[::2]"])) (Session.start .absent)).1 = .ok report ∧
      ∃ o ∈ report.outcomes, o.result.failure = some (.skipped reason) := by
  have hrun : failuresOf? (Uniform.world 2) plain (renewal ["http://[::1]", "http://[::2]"])
      (Session.start .absent)
        = some (2, [some (.skipped reason), some (.skipped reason)]) := by decide +kernel
  obtain ⟨report, hreport, -, hfailures⟩ := run_of_failuresOf? hrun
  have hskip : some (.skipped reason) ∈ report.outcomes.map (·.result.failure) :=
    hfailures ▸ List.mem_cons_self
  obtain ⟨o, ho, hfailure⟩ := List.mem_map.1 hskip
  exact ⟨report, hreport, o, ho, hfailure⟩

end Tomorrow

set_option maxRecDepth 10000 in
/-- Two aggregates are skipped, and a lone one ends the invocation. -/
theorem incompatible_tomorrow :
    (∃ report, (ExceptT.run (plain.run (Uniform.world 2)
        (Tomorrow.renewal ["http://[::1]", "http://[::2]"])) (Session.start .absent)).1
          = .ok report ∧
      ∃ o ∈ report.outcomes, o.visit.called.isSome = true ∧
        ∃ fault, Unreadable (Tomorrow.renewal ["http://[::1]", "http://[::2]"]) fault) ∧
    (ExceptT.run (plain.run (Uniform.world 2) (Tomorrow.renewal ["http://[::1]"]))
        (Session.start .absent)).1
          = .error (.fault (.endpointSkipped "http://[::1]" Tomorrow.reason)) ∧
      ∃ fault, Unreadable (Tomorrow.renewal ["http://[::1]"]) fault := by
  constructor
  · obtain ⟨report, hreport, o, ho, hfailure⟩ := Tomorrow.both_skipped
    have honly := (incompatible_iff_unreadable (Uniform.world 2) plain
      (Tomorrow.renewal ["http://[::1]", "http://[::2]"]) (Session.start .absent) rfl).1
        report hreport o ho
    obtain ⟨hcalled, -, -, fault, hunreadable, -⟩ := (honly _ _).1 hfailure
    exact ⟨report, hreport, o, ho, hcalled, fault, hunreadable⟩
  · have hfault : (ExceptT.run (plain.run (Uniform.world 2) (Tomorrow.renewal ["http://[::1]"]))
        (Session.start .absent)).1
          = .error (.fault (.endpointSkipped "http://[::1]" Tomorrow.reason)) :=
      run_of_faultOf? (by decide +kernel)
    obtain ⟨-, fault, hunreadable, -⟩ := (incompatible_iff_unreadable (Uniform.world 2) plain
      (Tomorrow.renewal ["http://[::1]"]) (Session.start .absent) rfl).2 _ _ _ hfault
    exact ⟨hfault, fault, hunreadable⟩

/-- **An aggregate may be skipped for what the caller did wrong**, although it
speaks the version that the request was checked for. -/
theorem incompatible_although_checked :
    ¬∀ (w : World) (g : Engine) (i : Invocation) (s : Session), g.settings.mode = .strict →
      (∀ report, (ExceptT.run (g.run w i) s).1 = .ok report → ∀ o ∈ report.outcomes,
        ∀ n detail, o.result.failure ≠ some (.skipped (.incompatibleRequest n detail))) ∧
      ∀ label n detail, (ExceptT.run (g.run w i) s).1
        ≠ .error (.fault (.endpointSkipped label (.incompatibleRequest n detail))) := by
  intro h
  obtain ⟨report, hreport, o, ho, hfailure⟩ := Tomorrow.both_skipped
  have hnever := (h (Uniform.world 2) plain (Tomorrow.renewal ["http://[::1]", "http://[::2]"])
    (Session.start .absent) rfl).1 report hreport o ho
  exact hnever _ _ hfailure

end Engine

end Federation
