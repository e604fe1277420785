/-
  Federation.Proofs.Call.Leniency
  ───────────────────────────────
  **RELAXED MODE EXTENDS STRICT MODE.**

  Both modes make the options of a call in the same steps.  Where strict mode
  comes through, relaxed mode makes the same options and says the same.
  Where strict mode ends, with an option that is not legal or a format that
  is not advertised, relaxed mode says what it lets pass and goes on.  It
  ends for nothing but a time that cannot be read, and so does strict mode.

  Main results:
    * `Loosens.bind`, `loosens_grantAll` — one step after another;
    * `loosens_buildOptions` — all options of a call;
    * `relaxed_extends_strict` — the outcomes in the two modes.
-/
import Federation.Call.Options
import Federation.Proofs.Collect

namespace Federation.Call

/-! ## §1. Outcomes in the two modes. -/

/-- **What relaxed mode says of a fault that it lets pass.** -/
inductive Conceded (o : Operation) (v : Nat) : OptionFault → String → Prop
  | option (option : String) :
      Conceded o v (.notApplicable option o v)
        (option ++ " is not supported by " ++ o.name ++ " at AM API version " ++ toString v
          ++ "; passing it anyway")
  | format (requested advertised : String) :
      Conceded o v (.unadvertised requested advertised)
        ("resource description format " ++ requested ++ " is not advertised (available: "
          ++ advertised ++ ")" ++ "; requesting it anyway")

/-- **A fault for a time** that is wished for and cannot be read. -/
inductive Untimely (i : Intent) : OptionFault → Prop
  | endTime {text : String} {reason : Time.TimeFault} (wished : i.endTime = some text)
      (unreadable : Time.normalise text = .error reason) :
      Untimely i (.invalidTime "geni_end_time" text reason)
  | startTime {text : String} {reason : Time.TimeFault} (wished : i.startTime = some text)
      (unreadable : Time.normalise text = .error reason) :
      Untimely i (.invalidTime "geni_start_time" text reason)

section

variable {o : Operation} {v : Nat} {i : Intent}

/-- **How the outcome in relaxed mode extends that in strict mode.** -/
inductive Extends (o : Operation) (v : Nat) (i : Intent) :
    Except OptionFault Draft → Except OptionFault Draft → Prop
  | same (d : Draft) : Extends o v i (.ok d) (.ok d)
  | conceded {fault : OptionFault} {warning : String} {d : Draft}
      (said : Conceded o v fault warning) (warned : warning ∈ d.warnings) :
      Extends o v i (.error fault) (.ok d)
  | untimely {fault other : OptionFault} (late : Untimely i other) :
      Extends o v i (.error fault) (.error other)

/-! ## §2. Steps in the two modes. -/

/-- **How a step in relaxed mode loosens one in strict mode.**  What was said
before is not taken back, so that a concession is still there at the end. -/
structure Loosens (o : Operation) (v : Nat) (i : Intent)
    (strict relaxed : Draft → Except OptionFault Draft) : Prop where
  outcome : ∀ d, Extends o v i (strict d) (relaxed d)
  keeps : ∀ d d', relaxed d = .ok d' → d.warnings ⊆ d'.warnings

/-- A step that is the same in both modes. -/
theorem loosens_same {step : Draft → Draft} (h : ∀ d, d.warnings ⊆ (step d).warnings) :
    Loosens o v i (fun d => .ok (step d)) (fun d => .ok (step d)) where
  outcome d := .same (step d)
  keeps d d' hd := by
    obtain rfl := Except.ok.inj hd
    exact h d

/-- **One step after another.** -/
theorem Loosens.bind {strict relaxed strict' relaxed' : Draft → Except OptionFault Draft}
    (h : Loosens o v i strict relaxed) (h' : Loosens o v i strict' relaxed') :
    Loosens o v i (fun d => strict d >>= strict') (fun d => relaxed d >>= relaxed') where
  outcome d := by
    have hfirst := h.outcome d
    generalize strict d = s, relaxed d = r at hfirst
    cases hfirst with
    | same d => exact h'.outcome d
    | @conceded fault warning d said warned =>
        -- Strict mode has ended; what relaxed mode said of it is kept.
        show Extends o v i (.error fault) (relaxed' d)
        have hsecond := h'.outcome d
        cases hnext : relaxed' d with
        | ok d' => exact .conceded said (h'.keeps d d' hnext warned)
        | error other =>
            rw [hnext] at hsecond
            generalize strict' d = s' at hsecond
            cases hsecond with
            | untimely late => exact .untimely late
    | untimely late => exact .untimely late
  keeps d d' hd := by
    obtain ⟨middle, hmiddle, hd⟩ := exists_of_bind_ok hd
    exact List.Subset.trans (h.keeps d middle hmiddle) (h'.keeps middle d' hd)

theorem subset_warn (d : Draft) (warning : String) : d.warnings ⊆ (d.warn warning).warnings :=
  List.subset_append_left d.warnings [warning]

theorem mem_warn (d : Draft) (warning : String) : warning ∈ (d.warn warning).warnings :=
  List.mem_append_right d.warnings (List.mem_singleton_self warning)

/-- **One option**: what strict mode refuses is set with a concession. -/
theorem loosens_grant (kind : OptionKind) (value : Json) :
    Loosens o v i (grant ⟨.strict, o, v⟩ kind value) (grant ⟨.relaxed, o, v⟩ kind value) := by
  cases hlegal : kind.isLegal o v with
  | true =>
      have hset (mode : Mode) : grant ⟨mode, o, v⟩ kind value
          = fun d => .ok (d.set (kind.name v) value) :=
        funext fun d => grant_of_legal value d hlegal
      rw [hset, hset]
      exact loosens_same fun d => List.Subset.refl d.warnings
  | false =>
      have hstrict : grant ⟨.strict, o, v⟩ kind value
          = fun _ => .error (.notApplicable (kind.name v) o v) := by
        funext d
        simp [grant, hlegal]
      have hrelaxed : grant ⟨.relaxed, o, v⟩ kind value = fun d =>
          .ok ((d.warn (passedAnyway ⟨.relaxed, o, v⟩ (kind.name v))).set (kind.name v) value) := by
        funext d
        simp [grant, hlegal]
      rw [hstrict, hrelaxed]
      exact {
        outcome := fun d => .conceded (.option (kind.name v)) (mem_warn d _)
        keeps := fun d d' hd => by
          obtain rfl := Except.ok.inj hd
          exact subset_warn d _ }

/-- Whether a wish is at fault for its time alone. -/
def Timely (i : Intent) (w : Wish) : Prop := ∀ fault, w.value = .error fault → Untimely i fault

theorem loosens_wish {w : Wish} (h : Timely i w) :
    Loosens o v i (fun d => w.grant ⟨.strict, o, v⟩ d) (fun d => w.grant ⟨.relaxed, o, v⟩ d) := by
  unfold Wish.grant
  cases hvalue : w.value with
  | error fault =>
      exact {
        outcome := fun _ => .untimely (h fault hvalue)
        keeps := fun _ _ hd => nomatch hd }
  | ok value => exact loosens_grant w.kind value

/-- **Wishes, one after another.** -/
theorem loosens_grantAll {ws : List Wish} (h : ∀ w ∈ ws, Timely i w) :
    Loosens o v i (fun d => ws.foldlM (Wish.grant ⟨.strict, o, v⟩) d)
      (fun d => ws.foldlM (Wish.grant ⟨.relaxed, o, v⟩) d) := by
  induction ws with
  | nil => exact loosens_same fun d => List.Subset.refl d.warnings
  | cons w ws ih =>
      simp only [List.foldlM_cons]
      exact (loosens_wish (h w List.mem_cons_self)).bind
        (ih fun w' hw' => h w' (List.mem_cons_of_mem w hw'))

/-! ## §3. All options. -/

theorem timely_flagWish (flag : Bool) (kind : OptionKind) :
    ∀ w ∈ flagWish flag kind, Timely i w := by
  intro w hw fault hfault
  cases flag with
  | false => cases hw
  | true =>
      obtain rfl := List.mem_singleton.1 hw
      cases hfault

theorem timely_valueWish (value : Option Json) (kind : OptionKind) :
    ∀ w ∈ valueWish value kind, Timely i w := by
  intro w hw fault hfault
  obtain ⟨json, -, rfl⟩ := List.mem_map.1 hw
  cases hfault

/-- A time that cannot be read is at fault, and no other is. -/
theorem timeValue_eq_error_iff {c : Context} {kind : OptionKind} {text : String}
    {fault : OptionFault} : timeValue c kind text = .error fault ↔
      ∃ reason, Time.normalise text = .error reason ∧
        fault = .invalidTime (kind.name c.version) text reason := by
  unfold timeValue
  cases Time.normalise text with
  | ok s => simp
  | error reason => simp [eq_comm]

theorem timely_earlyWishes (c : Context) (i : Intent) : ∀ w ∈ earlyWishes c i, Timely i w := by
  intro w hw
  unfold earlyWishes at hw
  rcases List.mem_append.1 hw with hw | hw
  · rcases List.mem_append.1 hw with hw | hw
    · exact timely_flagWish _ _ w hw
    · intro fault hfault
      obtain ⟨text, htext, rfl⟩ := List.mem_map.1 hw
      obtain ⟨reason, hreason, rfl⟩ := timeValue_eq_error_iff.1 hfault
      exact .endTime (Option.mem_toList.1 htext) hreason
  · intro fault hfault
    obtain ⟨text, htext, rfl⟩ := List.mem_map.1 hw
    obtain ⟨reason, hreason, rfl⟩ := timeValue_eq_error_iff.1 hfault
    exact .startTime (Option.mem_toList.1 htext) hreason

theorem timely_lateWishes (c : Context) (i : Intent) (a : Arguments) :
    ∀ w ∈ lateWishes c i a, Timely i w := by
  intro w hw
  unfold lateWishes at hw
  simp only [List.mem_append] at hw
  rcases hw with ((((hw | hw) | hw) | hw) | hw) | hw
  · exact timely_flagWish _ _ w hw
  · exact timely_flagWish _ _ w hw
  · exact timely_valueWish _ _ w hw
  · exact timely_flagWish _ _ w hw
  · exact timely_valueWish _ _ w hw
  · exact timely_valueWish _ _ w hw

/-- **The format**: one that is not advertised is asked for with a
concession. -/
theorem loosens_chooseFormat (advertised : List ResourceFormat) :
    Loosens o v i (chooseFormat ⟨.strict, o, v⟩ i advertised)
      (chooseFormat ⟨.relaxed, o, v⟩ i advertised) := by
  unfold chooseFormat
  cases i.format with
  | some requested =>
      dsimp only
      unfold grantFormat
      by_cases hmissing : (o.takesFormat && isUnadvertised requested advertised) = true
      · have hlegal : OptionKind.format.isLegal o v = true :=
          (Bool.and_eq_true_iff.1 hmissing).1
        simp only [hmissing, if_true]
        exact {
          outcome := fun d => by
            rw [grant_of_legal (c := ⟨.relaxed, o, v⟩) _ _ hlegal]
            exact .conceded (.format requested.text (formatList advertised)) (mem_warn d _)
          keeps := fun d d' hd => by
            rw [grant_of_legal (c := ⟨.relaxed, o, v⟩) _ _ hlegal] at hd
            obtain rfl := Except.ok.inj hd
            exact subset_warn d _ }
      · simp only [hmissing]
        exact loosens_grant .format (formatValue requested)
  | none =>
      dsimp only
      unfold defaultFormat
      by_cases htakes : o.takesFormat = true
      · simp only [htakes, Bool.not_true, Bool.false_eq_true, if_false]
        match advertised with
        | [] => exact loosens_same fun d => subset_warn d _
        | [only] => exact loosens_grant .format (formatValue only)
        | _ :: _ :: _ => exact loosens_same fun d => subset_warn d _
      · simp only [htakes, Bool.not_false, if_true]
        exact loosens_same fun d => List.Subset.refl d.warnings

theorem subset_warnDropped (c : Context) (d : Draft) :
    d.warnings ⊆ (warnDropped c d).warnings := by
  unfold warnDropped
  split
  · exact subset_warn d _
  · exact List.Subset.refl d.warnings

/-- **All options of a call.** -/
theorem loosens_buildOptions (o : Operation) (v : Nat) (i : Intent) (a : Arguments)
    (advertised : List ResourceFormat) :
    Extends o v i (buildOptions ⟨.strict, o, v⟩ i a advertised)
      (buildOptions ⟨.relaxed, o, v⟩ i a advertised) := by
  have early : Loosens o v i _ _ := loosens_grantAll (timely_earlyWishes ⟨.strict, o, v⟩ i)
  have late : Loosens o v i _ _ := loosens_grantAll (timely_lateWishes ⟨.strict, o, v⟩ i a)
  -- The caller's own options, and the word on those that are dropped.
  have last : Loosens o v i (fun d => .ok (warnDropped ⟨.strict, o, v⟩ (override i d)))
      (fun d => .ok (warnDropped ⟨.strict, o, v⟩ (override i d))) :=
    loosens_same fun d => subset_warnDropped _ (override i d)
  exact (early.bind ((loosens_chooseFormat advertised).bind (late.bind last))).outcome Draft.empty

end

/-! ## §4. Strict and relaxed mode. -/

/-- What is granted has a value. -/
theorem value_of_grantAll {c : Context} {ws : List Wish} {d d' : Draft}
    (h : ws.foldlM (Wish.grant c) d = .ok d') : ∀ w ∈ ws, ∃ value, w.value = .ok value := by
  induction ws generalizing d with
  | nil => exact fun w hw => nomatch hw
  | cons w ws ih =>
      rw [List.foldlM_cons] at h
      obtain ⟨middle, hmiddle, h⟩ := exists_of_bind_ok h
      intro w' hw'
      rcases List.mem_cons.1 hw' with rfl | hw'
      · unfold Wish.grant at hmiddle
        cases hvalue : w'.value with
        | error fault =>
            rw [hvalue] at hmiddle
            cases hmiddle
        | ok value => exact ⟨value, rfl⟩
      · exact ih h w' hw'

/-- A time that cannot be read is refused in either mode. -/
theorem not_untimely_of_ok {c : Context} {i : Intent} {a : Arguments}
    {advertised : List ResourceFormat} {d : Draft} (h : buildOptions c i a advertised = .ok d)
    (fault : OptionFault) : ¬Untimely i fault := by
  obtain ⟨early, hearly, -⟩ := exists_of_bind_ok h
  have hvalues := value_of_grantAll hearly
  have hreadable (kind : OptionKind) {text : String} {reason : Time.TimeFault}
      (hwish : ⟨kind, timeValue c kind text⟩ ∈ earlyWishes c i)
      (hreason : Time.normalise text = .error reason) : False := by
    obtain ⟨value, hvalue⟩ := hvalues _ hwish
    have herror : timeValue c kind text = .error (.invalidTime (kind.name c.version) text reason) :=
      timeValue_eq_error_iff.2 ⟨reason, hreason, rfl⟩
    rw [herror] at hvalue
    cases hvalue
  rintro (⟨hwished, hreason⟩ | ⟨hwished, hreason⟩)
  · refine hreadable .endTime ?_ hreason
    unfold earlyWishes timeWish
    rw [hwished]
    simp
  · refine hreadable .startTime ?_ hreason
    unfold earlyWishes timeWish
    rw [hwished]
    simp

/-- **Relaxed mode extends strict mode.**  What strict mode accepts comes out
the same.  What relaxed mode accepts beyond that is conceded in a warning,
and is an option that is not legal or a format that is not advertised.
Relaxed mode refuses exactly those requests that wish for a time that cannot
be read, for that, and strict mode refuses them as well. -/
theorem relaxed_extends_strict (o : Operation) (v : Nat) (i : Intent) (a : Arguments)
    (advertised : List ResourceFormat) :
    (∀ d, buildOptions ⟨.strict, o, v⟩ i a advertised = .ok d →
      buildOptions ⟨.relaxed, o, v⟩ i a advertised = .ok d) ∧
    (∀ d fault, buildOptions ⟨.relaxed, o, v⟩ i a advertised = .ok d →
      buildOptions ⟨.strict, o, v⟩ i a advertised = .error fault →
        ∃ warning ∈ d.warnings, Conceded o v fault warning) ∧
    (∀ fault, buildOptions ⟨.relaxed, o, v⟩ i a advertised = .error fault →
      Untimely i fault ∧
        ∃ other, buildOptions ⟨.strict, o, v⟩ i a advertised = .error other) ∧
    ((∃ fault, Untimely i fault) →
      ∃ fault, buildOptions ⟨.relaxed, o, v⟩ i a advertised = .error fault) := by
  have hextends := loosens_buildOptions o v i a advertised
  refine ⟨fun d hstrict => ?_, fun d fault hrelaxed hstrict => ?_, fun fault hrelaxed => ?_, ?_⟩
  · rw [hstrict] at hextends
    generalize buildOptions ⟨.relaxed, o, v⟩ i a advertised = relaxed at hextends
    cases hextends
    rfl
  · rw [hstrict, hrelaxed] at hextends
    cases hextends with
    | conceded said warned => exact ⟨_, warned, said⟩
  · rw [hrelaxed] at hextends
    generalize buildOptions ⟨.strict, o, v⟩ i a advertised = strict at hextends
    cases hextends with
    | untimely late => exact ⟨late, _, rfl⟩
  · rintro ⟨fault, huntimely⟩
    cases hrelaxed : buildOptions ⟨.relaxed, o, v⟩ i a advertised with
    | ok d => exact absurd huntimely (not_untimely_of_ok hrelaxed fault)
    | error other => exact ⟨other, rfl⟩

namespace Haste

/-- Whatever can be done is to be done. -/
def intent : Intent := { Intent.plain with bestEffort := true }

/-- And it is to last until a time that is none. -/
def deadline : Intent := { intent with endTime := some "tomorrow" }

end Haste

/-- A renewal may do what it can at version 3, in either mode; at version 2 relaxed mode says that
it passes the option, and a time that cannot be read is refused at any version. -/
theorem relaxed_extends_strict_renewal :
    (∃ d, buildOptions ⟨.strict, .renew, 3⟩ Haste.intent Arguments.none [] = .ok d ∧
      buildOptions ⟨.relaxed, .renew, 3⟩ Haste.intent Arguments.none [] = .ok d) ∧
    (∃ d, buildOptions ⟨.relaxed, .renew, 2⟩ Haste.intent Arguments.none [] = .ok d ∧
      ∃ warning ∈ d.warnings,
        Conceded .renew 2 (.notApplicable "geni_best_effort" .renew 2) warning) ∧
    ∃ fault other,
      buildOptions ⟨.relaxed, .renew, 2⟩ Haste.deadline Arguments.none [] = .error fault ∧
      Untimely Haste.deadline fault ∧
      buildOptions ⟨.strict, .renew, 2⟩ Haste.deadline Arguments.none [] = .error other := by
  have hlate : Untimely Haste.deadline (.invalidTime "geni_end_time" "tomorrow" .unreadable) :=
    .endTime rfl rfl
  refine ⟨⟨_, rfl, ?_⟩, ⟨_, rfl, ?_⟩, ?_⟩
  · exact (relaxed_extends_strict .renew 3 Haste.intent Arguments.none []).1 _ rfl
  · exact (relaxed_extends_strict .renew 2 Haste.intent Arguments.none []).2.1 _ _ rfl rfl
  · obtain ⟨-, -, hrefused, hrefuses⟩ :=
      relaxed_extends_strict .renew 2 Haste.deadline Arguments.none []
    obtain ⟨fault, hfault⟩ := hrefuses ⟨_, hlate⟩
    obtain ⟨huntimely, other, hother⟩ := hrefused fault hfault
    exact ⟨fault, other, hfault, huntimely, hother⟩

end Federation.Call
