/-
  Federation.Proofs.Call.Mistimed
  ───────────────────────────────
  **CALLS THAT END ON A TIME.**

  A call brings up to three times of the caller's: the expiration that a
  renewal asks for, and the end and the start that go into options.  A time
  at fault is reported where it is reached, and no other fault is a time's.
  So a call leaves the calendar on the texts that do, and on no others.

  Main results:
    * `prepare_eq_invalid_iff` — the expiration of a renewal;
    * `buildOptions_eq_invalidTime_iff` — the times among the options;
    * `calls_leave_calendar_iff` — which texts take a call out of the
      calendar.
-/
import Federation.Proofs.Call.Options
import Federation.Proofs.Call.Prepared
import Federation.Proofs.Call.Leniency
import Federation.Proofs.Time.Bounds

namespace Federation.Call

open Time (TimeFault Overhangs Instant minYear maxYear yearOf normalise_eq_outOfCalendar_iff)

/-! ## §1. The expiration. -/

section

variable {o : Operation} {v : Nat} {a : Arguments} {cs : List Credential} {opts : Options}

/-- **A renewal ends on its expiration** once its arguments are found in order. -/
theorem prepare_eq_invalid_iff {p : Operation} {argument : String} {fault : TimeFault} :
    prepare o v a cs opts = .error (.invalid p argument fault) ↔
      o.validate v a = .ok () ∧ p = o ∧ argument = "expiration" ∧ timeFault? o a = some fault := by
  cases hvalid : o.validate v a with
  | error refusal =>
      have hprepare : prepare o v a cs opts = .error refusal := by
        unfold prepare
        rw [hvalid]
        rfl
      have hrefusal : refusal ≠ .invalid p argument fault := by
        rintro rfl
        unfold Operation.validate at hvalid
        split at hvalid
        · cases hvalid
        · split at hvalid <;> cases hvalid
      rw [hprepare]
      exact ⟨fun h => absurd (Except.error.inj h) hrefusal, fun h => nomatch h.1⟩
  | ok =>
      have hprepare := prepare_of_valid hvalid cs opts
      split at hprepare
      · rename_i late hlate
        rw [hprepare, hlate, Except.error.injEq, OperationFault.invalid.injEq,
          Option.some.injEq]
        constructor
        · rintro ⟨rfl, rfl, rfl⟩
          exact ⟨rfl, rfl, rfl, rfl⟩
        · rintro ⟨-, rfl, rfl, rfl⟩
          exact ⟨rfl, rfl, rfl⟩
      · rename_i hnone
        obtain ⟨prepared, hprepared⟩ := hprepare
        rw [hprepared, hnone]
        exact ⟨fun h => (nomatch h), fun h => nomatch h.2.2.2⟩

/-- **A renewal leaves the calendar** on such an expiration. -/
theorem prepare_leavesCalendar_iff :
    (∃ fault, prepare o v a cs opts = .error fault ∧ fault.leavesCalendar = true) ↔
      o.validate v a = .ok () ∧ timeFault? o a = some .outOfCalendar := by
  constructor
  · rintro ⟨fault, hfault, hleaves⟩
    cases fault with
    | invalid p argument reason =>
        cases reason with
        | outOfCalendar =>
            obtain ⟨hvalid, -, -, htime⟩ := prepare_eq_invalid_iff.1 hfault
            exact ⟨hvalid, htime⟩
        | _ => cases hleaves
    | _ => cases hleaves
  · rintro ⟨hvalid, htime⟩
    exact ⟨_, prepare_eq_invalid_iff.2 ⟨hvalid, rfl, rfl, htime⟩, rfl⟩

theorem timeFault?_eq_some_iff {fault : TimeFault} : timeFault? o a = some fault ↔
    o = .renew ∧ Time.normalise (a.expiration.getD "") = .error fault := by
  unfold timeFault?
  cases Time.normalise (a.expiration.getD "") with
  | ok wire => simp
  | error other => simp

end

/-! ## §2. Times among the options. -/

section

variable {c : Context} {i : Intent} {a : Arguments} {advertised : List ResourceFormat}

/-- Whether the mode takes an option of a kind. -/
def Admits (c : Context) (kind : OptionKind) : Prop :=
  kind.isLegal c.operation c.version = true ∨ c.mode = .relaxed

/-- What is wrong with an option of a kind in the mode there is. -/
def refusal? (c : Context) (kind : OptionKind) : Option OptionFault :=
  match c.mode with
  | .strict => kindFault? c kind
  | .relaxed => none

theorem refusal?_eq_none_iff {kind : OptionKind} : refusal? c kind = none ↔ Admits c kind := by
  unfold refusal? Admits
  cases c.mode with
  | strict => simp [kindFault?_eq_none_iff]
  | relaxed => simp

/-- It is no fault of a time. -/
theorem refusal?_ne_invalidTime (kind : OptionKind) (name text : String) (fault : TimeFault) :
    refusal? c kind ≠ some (.invalidTime name text fault) := by
  unfold refusal? kindFault?
  split
  · split <;> simp
  · simp

theorem grant_refused (kind : OptionKind) (value : Json) (d : Draft) :
    RefusedFor (refusal? c kind) (grant c kind value d) := by
  cases hmode : c.mode with
  | strict =>
      have hrefusal : refusal? c kind = kindFault? c kind := by
        unfold refusal?
        rw [hmode]
      rw [hrefusal]
      exact grant_refusedFor hmode kind value d
  | relaxed =>
      have hrefusal : refusal? c kind = none := by
        unfold refusal?
        rw [hmode]
      rw [hrefusal]
      show ∃ d', _ = _
      unfold grant
      dsimp only
      split
      · exact ⟨_, rfl⟩
      · rw [hmode]
        exact ⟨_, rfl⟩

/-- What is wrong with a wish in the mode there is. -/
def Wish.refusal? (c : Context) (w : Wish) : Option OptionFault :=
  match w.value with
  | .error fault => some fault
  | .ok _ => Call.refusal? c w.kind

theorem Wish.grant_refused (d : Draft) (w : Wish) : RefusedFor (w.refusal? c) (w.grant c d) := by
  unfold Wish.refusal? Wish.grant
  cases w.value with
  | error fault => rfl
  | ok value => exact Call.grant_refused w.kind value d

/-- **Wishes end on the first one that is refused**, in either mode. -/
theorem grantAll_refused (ws : List Wish) :
    ∀ d, RefusedFor (ws.findSome? (Wish.refusal? c)) (ws.foldlM (Wish.grant c) d) :=
  refusedFor_foldlM Wish.grant_refused ws

/-- The fault that there is, is the one it is refused for. -/
theorem RefusedFor.eq_some {α : Type} {f : Option OptionFault} {r : Except OptionFault α}
    {fault : OptionFault} (h : RefusedFor f r) (hr : r = .error fault) : f = some fault := by
  subst hr
  cases f with
  | some other => exact congrArg some (Except.error.inj h).symm
  | none =>
      obtain ⟨x, hx⟩ := h
      cases hx

/-! ## §3. The first time that is refused. -/

/-- **How far the wishes get**: to the time of an option that is asked for, if what is asked for
before it is taken. -/
inductive Reaches (c : Context) (i : Intent) : String → String → Prop
  | endTime {text : String} (wished : i.endTime = some text)
      (bestEffort : i.bestEffort = true → Admits c .bestEffort) :
      Reaches c i "geni_end_time" text
  | startTime {text : String} (wished : i.startTime = some text)
      (bestEffort : i.bestEffort = true → Admits c .bestEffort)
      (readable : ∀ other, i.endTime = some other →
        (∃ wire, Time.normalise other = .ok wire) ∧ Admits c .endTime) :
      Reaches c i "geni_start_time" text

/-- What is wrong with a wish for a time. -/
theorem refusal_timeWish (time : Option String) (kind : OptionKind) :
    (timeWish c time kind).findSome? (Wish.refusal? c) = time.bind fun text =>
      match Time.normalise text with
      | .ok _ => refusal? c kind
      | .error fault => some (.invalidTime (kind.name c.version) text fault) := by
  cases time with
  | none => rfl
  | some text =>
      show [_].findSome? _ = _
      rw [List.findSome?_singleton]
      show Wish.refusal? c ⟨kind, timeValue c kind text⟩ = _
      unfold Wish.refusal? timeValue
      dsimp only [Option.bind_some]
      cases Time.normalise text <;> rfl

theorem refusal_timeWish_eq_invalidTime_iff {time : Option String} {kind : OptionKind}
    {name text : String} {fault : TimeFault} :
    (timeWish c time kind).findSome? (Wish.refusal? c) = some (.invalidTime name text fault) ↔
      time = some text ∧ name = kind.name c.version ∧ Time.normalise text = .error fault := by
  rw [refusal_timeWish, Option.bind_eq_some_iff]
  constructor
  · rintro ⟨other, rfl, h⟩
    split at h
    · exact absurd h (refusal?_ne_invalidTime kind name text fault)
    · rename_i reason hreason
      obtain ⟨rfl, rfl, rfl⟩ := OptionFault.invalidTime.inj (Option.some.inj h)
      exact ⟨rfl, rfl, hreason⟩
  · rintro ⟨rfl, rfl, hreason⟩
    exact ⟨text, rfl, by rw [hreason]⟩

theorem refusal_timeWish_eq_none_iff {time : Option String} {kind : OptionKind} :
    (timeWish c time kind).findSome? (Wish.refusal? c) = none ↔ ∀ text, time = some text →
      (∃ wire, Time.normalise text = .ok wire) ∧ Admits c kind := by
  rw [refusal_timeWish, Option.bind_eq_none_iff]
  refine forall₂_congr fun text _ => ?_
  cases Time.normalise text with
  | ok wire => simp [refusal?_eq_none_iff]
  | error fault => simp

theorem refusal_flagWish (flag : Bool) (kind : OptionKind) :
    (flagWish flag kind).findSome? (Wish.refusal? c) = if flag then refusal? c kind else none := by
  cases flag with
  | false => rfl
  | true => exact List.findSome?_singleton

/-- **The early wishes end on a time that they reach** and that is at fault. -/
theorem refusal_earlyWishes_iff {name text : String} {fault : TimeFault} :
    (earlyWishes c i).findSome? (Wish.refusal? c) = some (.invalidTime name text fault) ↔
      Reaches c i name text ∧ Time.normalise text = .error fault := by
  -- A wish for best effort comes first, and is never refused for a time.
  have hflag : (flagWish i.bestEffort .bestEffort).findSome? (Wish.refusal? c)
      ≠ some (.invalidTime name text fault) := by
    rw [refusal_flagWish]
    split
    · exact refusal?_ne_invalidTime _ name text fault
    · simp
  have hnone : (flagWish i.bestEffort .bestEffort).findSome? (Wish.refusal? c) = none ↔
      (i.bestEffort = true → Admits c .bestEffort) := by
    rw [refusal_flagWish]
    cases i.bestEffort with
    | false => simp
    | true => simp [refusal?_eq_none_iff]
  unfold earlyWishes
  rw [List.findSome?_append, List.findSome?_append, Option.or_eq_some_iff, Option.or_eq_some_iff,
    Option.or_eq_none_iff, hnone, refusal_timeWish_eq_invalidTime_iff,
    refusal_timeWish_eq_invalidTime_iff, refusal_timeWish_eq_none_iff]
  constructor
  · rintro ((h | ⟨hbest, htime, rfl, hfault⟩) | ⟨⟨hbest, hend⟩, htime, rfl, hfault⟩)
    · exact absurd h hflag
    · exact ⟨.endTime htime hbest, hfault⟩
    · exact ⟨.startTime htime hbest hend, hfault⟩
  · rintro ⟨htime | ⟨htime, hbest, hend⟩, hfault⟩
    · rename_i hbest
      exact .inl (.inr ⟨hbest, htime, rfl, hfault⟩)
    · exact .inr ⟨⟨hbest, hend⟩, htime, rfl, hfault⟩

/-! ## §4. All options. -/

/-- No format is refused for a time. -/
theorem chooseFormat_ne_invalidTime (d : Draft) (name text : String) (fault : TimeFault) :
    chooseFormat c i advertised d ≠ .error (.invalidTime name text fault) := by
  have hgrant (value : Json) (d : Draft) :
      grant c .format value d ≠ .error (.invalidTime name text fault) := fun h =>
    refusal?_ne_invalidTime .format name text fault ((grant_refused .format value d).eq_some h)
  unfold chooseFormat
  cases i.format with
  | some requested =>
      dsimp only
      unfold grantFormat
      split
      · split
        · simp
        · exact hgrant _ _
      · exact hgrant _ _
  | none =>
      dsimp only
      unfold defaultFormat
      split
      · simp
      · split
        · exact hgrant _ _
        · simp
        · simp

/-- The wishes after the format have their values. -/
theorem value_of_lateWishes : ∀ w ∈ lateWishes c i a, ∃ value, w.value = .ok value := by
  have hflag (flag : Bool) (kind : OptionKind) : ∀ w ∈ flagWish flag kind,
      ∃ value, w.value = .ok value := by
    intro w hw
    cases flag with
    | false => cases hw
    | true =>
        obtain rfl := List.mem_singleton.1 hw
        exact ⟨_, rfl⟩
  have hvalue (value : Option Json) (kind : OptionKind) : ∀ w ∈ valueWish value kind,
      ∃ value, w.value = .ok value := by
    intro w hw
    obtain ⟨json, -, rfl⟩ := List.mem_map.1 hw
    exact ⟨json, rfl⟩
  intro w hw
  unfold lateWishes at hw
  simp only [List.mem_append] at hw
  rcases hw with ((((hw | hw) | hw) | hw) | hw) | hw
  · exact hflag _ _ w hw
  · exact hflag _ _ w hw
  · exact hvalue _ _ w hw
  · exact hflag _ _ w hw
  · exact hvalue _ _ w hw
  · exact hvalue _ _ w hw

theorem lateWishes_ne_invalidTime (d : Draft) (name text : String) (fault : TimeFault) :
    (lateWishes c i a).foldlM (Wish.grant c) d ≠ .error (.invalidTime name text fault) := by
  intro h
  obtain ⟨w, hw, hrefusal⟩ := List.exists_of_findSome?_eq_some ((grantAll_refused _ d).eq_some h)
  obtain ⟨value, hvalue⟩ := value_of_lateWishes w hw
  unfold Wish.refusal? at hrefusal
  rw [hvalue] at hrefusal
  exact refusal?_ne_invalidTime w.kind name text fault hrefusal

/-- **Options end on a time** where the wishes reach it and it is at fault. -/
theorem buildOptions_eq_invalidTime_iff {name text : String} {fault : TimeFault} :
    buildOptions c i a advertised = .error (.invalidTime name text fault) ↔
      Reaches c i name text ∧ Time.normalise text = .error fault := by
  rw [← refusal_earlyWishes_iff]
  have hearly := grantAll_refused (c := c) (earlyWishes c i) Draft.empty
  unfold buildOptions
  cases hfault : (earlyWishes c i).findSome? (Wish.refusal? c) with
  | some refused =>
      rw [hfault] at hearly
      have herror : (earlyWishes c i).foldlM (Wish.grant c) Draft.empty = .error refused := hearly
      rw [herror, Option.some.injEq]
      exact ⟨Except.error.inj, fun h => h ▸ rfl⟩
  | none =>
      rw [hfault] at hearly
      obtain ⟨early, hok⟩ := hearly
      refine ⟨fun h => ?_, fun h => nomatch h⟩
      -- What comes after the times has no fault of that kind.
      rcases error_of_bind h with htimes | ⟨early, -, h⟩
      · rw [hok] at htimes
        cases htimes
      · rcases error_of_bind h with hformat | ⟨middle, -, h⟩
        · exact absurd hformat (chooseFormat_ne_invalidTime early name text fault)
        · rcases error_of_bind h with hlate | ⟨last, -, hlast⟩
          · exact absurd hlate (lateWishes_ne_invalidTime middle name text fault)
          · cases hlast

/-- **Where options are made, their times were read.** -/
theorem readable_of_built {d : Draft} (built : buildOptions c i a advertised = .ok d)
    {text : String} (wished : i.endTime = some text ∨ i.startTime = some text) :
    ∃ wire, Time.normalise text = .ok wire := by
  have hearly := grantAll_refused (c := c) (earlyWishes c i) Draft.empty
  cases hfault : (earlyWishes c i).findSome? (Wish.refusal? c) with
  | some refused =>
      rw [hfault] at hearly
      have herror : (earlyWishes c i).foldlM (Wish.grant c) Draft.empty = .error refused := hearly
      unfold buildOptions at built
      rw [herror] at built
      cases built
  | none =>
      unfold earlyWishes at hfault
      rw [List.findSome?_append, List.findSome?_append, Option.or_eq_none_iff,
        Option.or_eq_none_iff, refusal_timeWish_eq_none_iff, refusal_timeWish_eq_none_iff] at hfault
      obtain ⟨⟨-, hend⟩, hstart⟩ := hfault
      rcases wished with wished | wished
      · exact (hend text wished).1
      · exact (hstart text wished).1

theorem OptionFault.leavesCalendar_iff {fault : OptionFault} :
    fault.leavesCalendar = true ↔ ∃ name text, fault = .invalidTime name text .outOfCalendar := by
  cases fault with
  | invalidTime name text reason => cases reason <;> simp [leavesCalendar]
  | _ => simp [leavesCalendar]

/-- **Options leave the calendar** on a time that they reach. -/
theorem buildOptions_leavesCalendar_iff :
    (∃ fault, buildOptions c i a advertised = .error fault ∧ fault.leavesCalendar = true) ↔
      ∃ name text, Reaches c i name text ∧ Overhangs text := by
  constructor
  · rintro ⟨fault, hfault, hleaves⟩
    obtain ⟨name, text, rfl⟩ := OptionFault.leavesCalendar_iff.1 hleaves
    obtain ⟨reaches, hreason⟩ := buildOptions_eq_invalidTime_iff.1 hfault
    exact ⟨name, text, reaches, (normalise_eq_outOfCalendar_iff text).1 hreason⟩
  · rintro ⟨name, text, reaches, overhangs⟩
    exact ⟨_, buildOptions_eq_invalidTime_iff.2
      ⟨reaches, (normalise_eq_outOfCalendar_iff text).2 overhangs⟩, rfl⟩

/-- What is reached was wished for. -/
theorem Reaches.wished {name text : String} (h : Reaches c i name text) :
    i.endTime = some text ∨ i.startTime = some text := by
  cases h with
  | endTime wished _ => exact .inl wished
  | startTime wished _ _ => exact .inr wished

end

/-! ## §5. Calls and the calendar. -/

/-- **Which texts leave the calendar.**  A text does where the moment that it writes has a year
in UTC before the first or after the last one; it never does where its local year lies between
them.  Options that reach the text, as an end or a start, leave the calendar exactly if it does,
and a renewal leaves it exactly on such an expiration. -/
theorem calls_leave_calendar_iff (s : String) :
    (Time.normalise s = .error .outOfCalendar ↔ Overhangs s) ∧
    (∀ t, Instant.read s = .ok t → t.Written ∧
      (minYear < yearOf t.localDay.1 ∧ yearOf t.localDay.1 < maxYear → ¬Overhangs s)) ∧
    (∀ c i a advertised name,
      buildOptions c i a advertised = .error (.invalidTime name s .outOfCalendar) ↔
        Reaches c i name s ∧ Overhangs s) ∧
    ∀ o v a cs opts p argument,
      prepare o v a cs opts = .error (.invalid p argument .outOfCalendar) ↔
        o.validate v a = .ok () ∧ p = o ∧ argument = "expiration" ∧ o = .renew ∧
          Overhangs (a.expiration.getD "") := by
  refine ⟨normalise_eq_outOfCalendar_iff s, fun t h => ⟨Time.written_of_read h,
    Time.not_overhangs_of_inner h⟩, fun c i a advertised name => ?_,
    fun o v a cs opts p argument => ?_⟩
  · rw [buildOptions_eq_invalidTime_iff, normalise_eq_outOfCalendar_iff]
  · rw [prepare_eq_invalid_iff, timeFault?_eq_some_iff, normalise_eq_outOfCalendar_iff]

namespace LastHour

/-- The last second of the last year, an hour behind UTC. -/
def text : String := "9999-12-31T23:59:59-01:00"

/-- A slice is to be kept until then. -/
def arguments : Arguments :=
  { Arguments.none with slice := some "urn:s", expiration := some text }

/-- An allocation is to end then. -/
def intent : Intent := { Intent.plain with endTime := some text }

end LastHour

/-- A renewal until the last hour, behind UTC, leaves the calendar, as an allocation that ends
then does; a day earlier the offset does no harm, and neither does the last hour in UTC. -/
theorem calls_leave_calendar_last_hour :
    prepare .renew 3 LastHour.arguments [] []
      = .error (.invalid .renew "expiration" .outOfCalendar) ∧
    buildOptions ⟨.strict, .allocate, 3⟩ LastHour.intent LastHour.arguments []
      = .error (.invalidTime "geni_end_time" LastHour.text .outOfCalendar) ∧
    ¬Overhangs "9999-12-30T23:59:59-01:00" ∧ ¬Overhangs "9998-12-31T23:59:59-01:00" := by
  obtain ⟨htext, -, hoptions, hrenewal⟩ := calls_leave_calendar_iff LastHour.text
  have hleaves : Overhangs LastHour.text := htext.1 (by decide +kernel)
  refine ⟨(hrenewal _ _ _ _ _ _ _).2 ⟨rfl, rfl, rfl, rfl, hleaves⟩,
    (hoptions _ _ _ _ _).2 ⟨.endTime rfl fun h => (nomatch h), hleaves⟩, fun h => ?_, ?_⟩
  · have hfault := (calls_leave_calendar_iff _).1.2 h
    revert hfault
    decide +kernel
  · have hread : Instant.read "9998-12-31T23:59:59-01:00" = .ok ⟨253370768399, 0, -3600⟩ := by
      decide +kernel
    exact ((calls_leave_calendar_iff _).2.1 _ hread).2 (by decide +kernel)

/-- **A text that is read need not stay in the calendar**: at the last year an offset behind UTC
leads out of it, at the first year one ahead of UTC, and calls go with it. -/
theorem calendar_left_at_either_end :
    (∃ t, Instant.read "9999-12-31T23:59:59-01:00" = .ok t ∧
      ¬(minYear ≤ Time.utcYear t.seconds ∧ Time.utcYear t.seconds ≤ maxYear)) ∧
    Time.normalise "9999-12-31T23:59:59-01:00" = .error .outOfCalendar ∧
    Time.normalise "-009999-01-01T00:00:00+01:00" = .error .outOfCalendar ∧
    prepare .renew 3 LastHour.arguments [] []
      = .error (.invalid .renew "expiration" .outOfCalendar) ∧
    buildOptions ⟨.strict, .allocate, 3⟩ LastHour.intent LastHour.arguments []
      = .error (.invalidTime "geni_end_time" "9999-12-31T23:59:59-01:00" .outOfCalendar) := by
  have hlast : Time.normalise "9999-12-31T23:59:59-01:00" = .error .outOfCalendar := by
    decide +kernel
  refine ⟨(normalise_eq_outOfCalendar_iff _).1 hlast, hlast, by decide +kernel, ?_, ?_⟩
  · exact prepare_eq_invalid_iff.2 ⟨rfl, rfl, rfl, timeFault?_eq_some_iff.2 ⟨rfl, hlast⟩⟩
  · exact buildOptions_eq_invalidTime_iff.2 ⟨.endTime rfl fun h => (nomatch h), hlast⟩

end Federation.Call
