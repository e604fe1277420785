/-
  Federation.Proofs.Invocation.Crashes
  ────────────────────────────────────
  **INVOCATIONS THAT RETURN NOTHING.**

  An invocation crashes on a time that leaves the calendar, in one of two
  places.  An end or a start is met by the check of the options, before any
  aggregate is called.  The expiration of a renewal is met by the plan for
  the first aggregate that a version is agreed on with.  Once the check has
  been passed only the second is left: what it read of times may be read
  again at any version.

  The expiration is the same for all aggregates.  Where the plan for one of
  them crashes no plan for another comes to a call, so a round that crashes
  has sent nothing but probes.

  Main results:
    * `check_eq_crash_iff` — when the check crashes;
    * `planAt_eq_crash_iff` — when a plan crashes;
    * `quiet_of_crash` — in a round that crashes nobody is called.
-/
import Federation.Invocation
import Federation.Proofs.Call.Mistimed
import Federation.Proofs.Call.Round

namespace Federation

open Call (Prepared Reaches Visit Visited)
open Time (Overhangs)
open Version (AreProbes areProbes_nil)

/-! ## §1. Requests. -/

/-- Whether a renewal asks for a time that leaves the calendar. -/
def Invocation.RenewsBeyond (i : Invocation) : Prop :=
  i.operation = .renew ∧ Overhangs (i.arguments.expiration.getD "")

/-- **Which requests have a time that leaves the calendar.** -/
inductive Invocation.LeavesCalendar (i : Invocation) : Prop
  | option {text : String}
      (wished : i.intent.endTime = some text ∨ i.intent.startTime = some text)
      (overhangs : Overhangs text) : LeavesCalendar i
  | renewal (renews : i.RenewsBeyond) : LeavesCalendar i

/-- It is the expiration that is at fault. -/
theorem Invocation.renewsBeyond_iff {i : Invocation} : i.RenewsBeyond ↔
    Call.timeFault? i.operation i.arguments = some .outOfCalendar := by
  unfold RenewsBeyond
  rw [Call.timeFault?_eq_some_iff, Time.normalise_eq_outOfCalendar_iff]

theorem not_overhangs_of_read {text wire : String} (h : Time.normalise text = .ok wire) :
    ¬Overhangs text := fun overhangs => by
  cases h.symm.trans ((Time.normalise_eq_outOfCalendar_iff text).2 overhangs)

namespace Engine

variable {w : World} {g : Engine} {i : Invocation} {credentials : List Credential}
  {version : Nat}

/-! ## §2. The check. -/

/-- The preferred format is all that is filled in. -/
theorem times_intent (g : Engine) (i : Invocation) :
    (g.intent i).endTime = i.intent.endTime ∧ (g.intent i).startTime = i.intent.startTime := by
  unfold intent
  split <;> exact ⟨rfl, rfl⟩

theorem checkArguments_ne_crash (i : Invocation) (v : Nat) :
    checkArguments i v ≠ .error .crash := by
  unfold checkArguments
  split <;> simp

theorem checkOptions_eq_crash_iff {v : Nat} : checkOptions g i v = .error .crash ↔
    ∃ name text, Reaches ⟨g.settings.mode, i.operation, v⟩ (g.intent i) name text ∧
      Overhangs text := by
  have hbuilt : (∃ fault, Call.buildOptions ⟨g.settings.mode, i.operation, v⟩ (g.intent i)
      i.arguments [] = .error fault ∧ fault.leavesCalendar = true) ↔ _ :=
    Call.buildOptions_leavesCalendar_iff
  rw [← hbuilt]
  unfold checkOptions
  cases Call.buildOptions ⟨g.settings.mode, i.operation, v⟩ (g.intent i) i.arguments [] with
  | ok d => simp
  | error fault => cases h : fault.leavesCalendar <;> simp [h]

/-- **The check crashes** on a time among the options, once the arguments are
in order. -/
theorem check_eq_crash_iff {v : Nat} : g.check i v = .error .crash ↔
    i.operation ≠ .getVersion ∧ checkArguments i v = .ok () ∧
      ∃ name text, Reaches ⟨g.settings.mode, i.operation, v⟩ (g.intent i) name text ∧
        Overhangs text := by
  rw [← checkOptions_eq_crash_iff]
  unfold check
  by_cases hop : i.operation = .getVersion
  · simp [hop]
  · rw [if_neg hop]
    have hcrash := checkArguments_ne_crash i v
    cases harguments : checkArguments i v with
    | error halt =>
        rw [harguments] at hcrash
        simpa [bind, Except.bind] using hcrash
    | ok u => simp [bind, Except.bind, hop]

section Checked

variable {v : Nat} (hop : i.operation ≠ .getVersion) (checked : g.check i v = .ok ())
include hop checked

theorem stages_of_checked : checkArguments i v = .ok () ∧ checkOptions g i v = .ok () := by
  unfold check at checked
  rw [if_neg hop] at checked
  cases harguments : checkArguments i v with
  | error halt => rw [harguments] at checked; cases checked
  | ok u =>
      rw [harguments] at checked
      exact ⟨rfl, checked⟩

/-- What was checked has no end and no start that leaves the calendar. -/
theorem inner_of_checked {text : String}
    (wished : (g.intent i).endTime = some text ∨ (g.intent i).startTime = some text) :
    ¬Overhangs text := by
  have hoptions := (stages_of_checked hop checked).2
  unfold checkOptions at hoptions
  cases hbuilt : Call.buildOptions ⟨g.settings.mode, i.operation, v⟩ (g.intent i) i.arguments []
    with
  | error fault => rw [hbuilt] at hoptions; cases hoptions
  | ok d =>
      obtain ⟨wire, hread⟩ := Call.readable_of_built hbuilt wished
      exact not_overhangs_of_read hread

end Checked

/-! ## §3. Plans. -/

/-- A call is planned only with options and arguments that fit. -/
theorem planAt_call {v : Nat} {formats : List ResourceFormat} {p : Prepared}
    {warnings : List String} (h : g.planAt i credentials v formats = .ok (.call p warnings)) :
    ∃ draft, Call.buildOptions ⟨g.settings.mode, i.operation, v⟩ (g.intent i) i.arguments formats
        = .ok draft ∧
      Call.prepare i.operation v i.arguments credentials draft.options = .ok p ∧
      warnings = draft.warnings := by
  have hmisfit {v : Nat} {leaves : Bool} {message : String} :
      misfit v leaves message ≠ .ok (.call p warnings) := by
    unfold misfit
    split <;> simp
  unfold planAt at h
  split at h
  · cases h
  · split at h
    · cases h
    · exact absurd h hmisfit
    · rename_i draft hbuilt
      split at h
      · exact absurd h hmisfit
      · rename_i prepared hprepared
        cases h
        exact ⟨draft, hbuilt, hprepared, rfl⟩

/-- Nothing but a crash leaves one without a plan. -/
theorem planAt_error {v : Nat} {formats : List ResourceFormat} {halt : Halt}
    (h : g.planAt i credentials v formats = .error halt) : halt = .crash := by
  have hmisfit {leaves : Bool} {message : String} (h : misfit v leaves message = .error halt) :
      halt = .crash := by
    unfold misfit at h
    split at h
    · exact (Except.error.inj h).symm
    · cases h
  unfold planAt at h
  split at h
  · cases h
  · split at h
    · cases h
    · exact hmisfit h
    · split at h
      · exact hmisfit h
      · cases h

theorem misfit_eq_crash_iff {v : Nat} {leaves : Bool} {message : String} :
    misfit v leaves message = .error .crash ↔ leaves = true := by
  cases leaves <;> simp [misfit]

/-- **When a plan crashes**: the operation exists at the version, and the options
reach a time that leaves the calendar, or all is in order but the expiration. -/
theorem planAt_eq_crash_iff {v : Nat} {formats : List ResourceFormat} :
    g.planAt i credentials v formats = .error .crash ↔
      (i.operation.wireName? v).isSome = true ∧
        ((∃ name text, Reaches ⟨g.settings.mode, i.operation, v⟩ (g.intent i) name text ∧
            Overhangs text) ∨
          (∃ draft, Call.buildOptions ⟨g.settings.mode, i.operation, v⟩ (g.intent i) i.arguments
              formats = .ok draft) ∧
            i.operation.validate v i.arguments = .ok () ∧ i.RenewsBeyond) := by
  have hoptions : (∃ fault, Call.buildOptions ⟨g.settings.mode, i.operation, v⟩ (g.intent i)
      i.arguments formats = .error fault ∧ fault.leavesCalendar = true) ↔ _ :=
    Call.buildOptions_leavesCalendar_iff
  rw [← hoptions]
  unfold planAt
  by_cases absent : (i.operation.wireName? v).isNone = true
  · rw [if_pos absent, Option.isNone_iff_eq_none.1 absent]
    simp
  · have present : (i.operation.wireName? v).isSome = true :=
      Option.isSome_iff_ne_none.2 fun h => absent (Option.isNone_iff_eq_none.2 h)
    rw [if_neg absent]
    cases Call.buildOptions ⟨g.settings.mode, i.operation, v⟩ (g.intent i) i.arguments formats with
    | error fault =>
        cases fault with
        | unadvertised _ _ => simp [Call.OptionFault.leavesCalendar]
        | _ => simp [misfit_eq_crash_iff, present]
    | ok draft =>
        have hprepare : (∃ fault, Call.prepare i.operation v i.arguments credentials draft.options
            = .error fault ∧ fault.leavesCalendar = true) ↔ _ := Call.prepare_leavesCalendar_iff
        simp only [present, reduceCtorEq, false_and, exists_false, false_or, true_and,
          Except.ok.injEq, exists_eq', Invocation.renewsBeyond_iff, ← hprepare]
        cases Call.prepare i.operation v i.arguments credentials draft.options with
        | error fault => simp [misfit_eq_crash_iff]
        | ok prepared => simp

/-- **Once a request was checked a plan crashes on its expiration**, whatever
the version it is made for. -/
theorem renewsBeyond_of_planAt {v : Nat} (hop : i.operation ≠ .getVersion)
    (checked : g.check i version = .ok ()) {formats : List ResourceFormat} {halt : Halt}
    (h : g.planAt i credentials v formats = .error halt) : i.RenewsBeyond := by
  obtain rfl := planAt_error h
  rcases (planAt_eq_crash_iff.1 h).2 with ⟨name, text, reaches, overhangs⟩ | ⟨-, -, renews⟩
  · exact absurd overhangs (inner_of_checked hop checked reaches.wished)
  · exact renews

/-- A renewal beyond the calendar comes to no call. -/
theorem not_renewsBeyond_of_call {v : Nat} {formats : List ResourceFormat} {p : Prepared}
    {warnings : List String} (h : g.planAt i credentials v formats = .ok (.call p warnings)) :
    ¬i.RenewsBeyond := by
  intro renews
  obtain ⟨draft, -, hprepared, -⟩ := planAt_call h
  obtain ⟨fault, hfault, -⟩ := Call.prepare_leavesCalendar_iff.2
    ⟨Call.validate_of_prepare hprepared, Invocation.renewsBeyond_iff.1 renews⟩
  cases hprepared.symm.trans hfault

/-! ## §4. Rounds. -/

variable {slot : Endpoint} {slots : List Endpoint} {t : Session}

/-- A visit that was not made crashed. -/
theorem crash_of_visited {own : List Request} {halt : Halt}
    (h : Visited w (g.itinerary i credentials version) slot t own (.error halt)) :
    halt = .crash := by
  cases h with
  | unplanned _ _ _ planned => exact planAt_error planned

theorem renewsBeyond_of_visited (checked : g.check i version = .ok ()) {own : List Request}
    {halt : Halt} (h : Visited w (g.itinerary i credentials version) slot t own (.error halt)) :
    i.RenewsBeyond := by
  cases h with
  | unplanned answers _ _ planned =>
      exact renewsBeyond_of_planAt (of_decide_eq_false answers) checked planned

/-- Visits for such a renewal do no more than probe. -/
theorem quiet_of_renewsBeyond (renews : i.RenewsBeyond) {own : List Request}
    {outcome : Except Halt Visit}
    (h : Visited w (g.itinerary i credentials version) slot t own outcome) : AreProbes own := by
  cases h with
  | calledOff _ => exact areProbes_nil
  | probed _ quiet _ => exact quiet
  | refused quiet _ => exact quiet
  | unplanned _ quiet _ _ => exact quiet
  | unavailable _ quiet _ _ => exact quiet
  | called _ _ _ planned _ => exact absurd renews (not_renewsBeyond_of_call planned)

/-- **In a round that crashes nobody is called.** -/
theorem quiet_of_crash (checked : g.check i version = .ok ())
    {parts : List (List Request × Except Halt Visit)}
    (h : List.Forall₂ (fun slot part =>
      Visited w (g.itinerary i credentials version) slot t part.1 part.2) slots parts)
    (crash : ∃ part ∈ parts, isCrash part.2 = true) :
    i.RenewsBeyond ∧ AreProbes (parts.flatMap Prod.fst) := by
  obtain ⟨⟨own, outcome⟩, hpart, hcrash⟩ := crash
  obtain ⟨slot, -, hvisited⟩ := exists_left_of_mem h hpart
  have renews : i.RenewsBeyond := by
    cases outcome with
    | ok visit => cases hcrash
    | error halt => exact renewsBeyond_of_visited checked hvisited
  refine ⟨renews, fun r hr => ?_⟩
  obtain ⟨part, hpart, hr⟩ := List.mem_flatMap.1 hr
  obtain ⟨slot, -, hvisited⟩ := exists_left_of_mem h hpart
  exact quiet_of_renewsBeyond renews hvisited r hr

end Engine

end Federation
