/-
  Federation.Proofs.Call.Options
  ──────────────────────────────
  **WHAT STRICT MODE REFUSES.**

  In strict mode the options of a call are refused for the first wish that
  cannot be granted, and for nothing else.  For an operation that a fleet
  votes on, whether a wish can be granted is the same at every version, with
  one exception: a listing of resources may name a slice only below
  version 3.

  Main results:
    * `buildOptions_isOk_iff` — what strict mode accepts;
    * `buildOptions_of_accepted` — what advertised formats change;
    * `requestFault?_other_version` — what a request that is accepted at one
      version meets at another;
    * `set_of_buildOptions`, `get?_buildOptions` — the options that are built,
      in either mode.
-/
import Federation.Call.Options
import Federation.Proofs.Keyed

namespace Federation.Call

/-! ## §1. Refusals. -/

/-- What is refused for a fault, or, where there is none, not at all. -/
def RefusedFor {α : Type} (fault : Option OptionFault) (r : Except OptionFault α) : Prop :=
  match fault with
  | some f => r = .error f
  | none => ∃ a, r = .ok a

/-- What is done step by step is refused for the fault of the first step that
has one. -/
theorem RefusedFor.bind {α β : Type} {f f' : Option OptionFault} {r : Except OptionFault α}
    {next : α → Except OptionFault β} (h : RefusedFor f r) (hnext : ∀ a, RefusedFor f' (next a)) :
    RefusedFor (f.or f') (r >>= next) := by
  cases f with
  | some fault =>
      have hr : r = .error fault := h
      rw [hr]
      rfl
  | none =>
      obtain ⟨a, rfl⟩ := h
      exact hnext a

/-- **Many steps are refused for the first one that is at fault.** -/
theorem refusedFor_foldlM {α σ : Type} {step : σ → α → Except OptionFault σ}
    {fault? : α → Option OptionFault} (h : ∀ a x, RefusedFor (fault? x) (step a x))
    (xs : List α) : ∀ a, RefusedFor (xs.findSome? fault?) (xs.foldlM step a) := by
  induction xs with
  | nil => exact fun a => ⟨a, rfl⟩
  | cons x xs ih =>
      intro a
      have hfirst : (x :: xs).findSome? fault? = (fault? x).or (xs.findSome? fault?) := by
        rw [List.findSome?_cons]
        cases fault? x <;> rfl
      rw [hfirst, List.foldlM_cons]
      exact (h a x).bind ih

/-! ## §2. Wishes at fault. -/

/-- What is wrong with an option of a kind in strict mode. -/
def kindFault? (c : Context) (kind : OptionKind) : Option OptionFault :=
  if kind.isLegal c.operation c.version then none
  else some (.notApplicable (kind.name c.version) c.operation c.version)

theorem kindFault?_eq_none_iff {c : Context} {kind : OptionKind} :
    kindFault? c kind = none ↔ kind.isLegal c.operation c.version = true := by
  unfold kindFault?
  split
  · rename_i hlegal
    simp [hlegal]
  · rename_i hlegal
    simp [hlegal]

theorem grant_refusedFor {c : Context} (hmode : c.mode = .strict) (kind : OptionKind)
    (value : Json) (d : Draft) : RefusedFor (kindFault? c kind) (grant c kind value d) := by
  unfold kindFault?
  cases hlegal : kind.isLegal c.operation c.version with
  | true => exact ⟨_, grant_of_legal value d hlegal⟩
  | false =>
      show grant c kind value d = _
      simp [grant, hlegal, hmode]

/-- What is wrong with a wish in strict mode. -/
def Wish.fault? (c : Context) (w : Wish) : Option OptionFault :=
  match w.value with
  | .error fault => some fault
  | .ok _ => kindFault? c w.kind

theorem Wish.grant_refusedFor {c : Context} (hmode : c.mode = .strict) (d : Draft) (w : Wish) :
    RefusedFor (w.fault? c) (w.grant c d) := by
  unfold Wish.fault? Wish.grant
  cases w.value with
  | error fault => rfl
  | ok value => exact Call.grant_refusedFor hmode w.kind value d

/-- **Wishes are refused for the first one that is at fault.** -/
theorem grantAll_refusedFor {c : Context} (hmode : c.mode = .strict) (ws : List Wish) :
    ∀ d, RefusedFor (ws.findSome? (Wish.fault? c)) (ws.foldlM (Wish.grant c) d) :=
  refusedFor_foldlM (Wish.grant_refusedFor hmode) ws

/-! ## §3. All options. -/

/-- What is wrong with the format where none is advertised. -/
def formatFault? (c : Context) (i : Intent) : Option OptionFault :=
  i.format.bind fun _ => kindFault? c .format

/-- What is wrong with a request in strict mode, where no formats are
advertised. -/
def requestFault? (c : Context) (i : Intent) (a : Arguments) : Option OptionFault :=
  ((earlyWishes c i).findSome? (Wish.fault? c)).or
    ((formatFault? c i).or ((lateWishes c i a).findSome? (Wish.fault? c)))

theorem chooseFormat_refusedFor {c : Context} (hmode : c.mode = .strict) (i : Intent)
    (d : Draft) : RefusedFor (formatFault? c i) (chooseFormat c i [] d) := by
  unfold formatFault? chooseFormat
  cases i.format with
  | none =>
      show ∃ d', defaultFormat c [] d = .ok d'
      unfold defaultFormat
      split
      · exact ⟨_, rfl⟩
      · exact ⟨_, rfl⟩
  | some requested =>
      have hgrant : grantFormat c requested [] d = grant c .format (formatValue requested) d := by
        simp [grantFormat, isUnadvertised]
      show RefusedFor _ (grantFormat c requested [] d)
      rw [hgrant]
      exact grant_refusedFor hmode .format _ d

/-- **A request is refused for what is wrong with it**, and for nothing
else. -/
theorem buildOptions_refusedFor {c : Context} (hmode : c.mode = .strict) (i : Intent)
    (a : Arguments) : RefusedFor (requestFault? c i a) (buildOptions c i a []) := by
  unfold requestFault? buildOptions
  refine (grantAll_refusedFor hmode _ _).bind fun d => ?_
  refine (chooseFormat_refusedFor hmode i d).bind fun d => ?_
  rw [← Option.or_none (o := List.findSome? _ _)]
  exact (grantAll_refusedFor hmode _ d).bind fun d => ⟨_, rfl⟩

/-- **In strict mode a request is accepted exactly where nothing is wrong with
it.** -/
theorem buildOptions_isOk_iff {c : Context} (hmode : c.mode = .strict) (i : Intent)
    (a : Arguments) : (∃ d, buildOptions c i a [] = .ok d) ↔ requestFault? c i a = none := by
  have hrefused := buildOptions_refusedFor hmode i a
  cases hfault : requestFault? c i a with
  | some fault =>
      rw [hfault] at hrefused
      have herror : buildOptions c i a [] = .error fault := hrefused
      simp [herror]
  | none =>
      rw [hfault] at hrefused
      exact ⟨fun _ => rfl, fun _ => hrefused⟩

/-! ## §4. Advertised formats. -/

/-- What is wrong with the format that is asked for, where formats are
advertised. -/
def advertisedFault? (c : Context) (i : Intent) (advertised : List ResourceFormat) :
    Option OptionFault :=
  match i.format with
  | none => none
  | some requested =>
      if c.operation.takesFormat && isUnadvertised requested advertised then
        some (.unadvertised requested.text (formatList advertised))
      else none

theorem advertisedFault?_eq_some {c : Context} {i : Intent} {advertised : List ResourceFormat}
    {fault : OptionFault} (h : advertisedFault? c i advertised = some fault) :
    ∃ requested listed, fault = .unadvertised requested listed ∧
      c.operation.takesFormat = true := by
  unfold advertisedFault? at h
  split at h
  · cases h
  · split at h
    · rename_i hunadvertised
      cases h
      exact ⟨_, _, rfl, (Bool.and_eq_true_iff.1 hunadvertised).1⟩
    · cases h

theorem chooseFormat_of_accepted {c : Context} (hmode : c.mode = .strict) {i : Intent}
    (haccepted : formatFault? c i = none) (advertised : List ResourceFormat) (d : Draft) :
    RefusedFor (advertisedFault? c i advertised) (chooseFormat c i advertised d) := by
  unfold advertisedFault? chooseFormat
  cases hformat : i.format with
  | none =>
      show ∃ d', defaultFormat c advertised d = .ok d'
      unfold defaultFormat
      by_cases htakes : c.operation.takesFormat = true
      · simp only [htakes, Bool.not_true, Bool.false_eq_true, if_false]
        match advertised with
        | [] => exact ⟨_, rfl⟩
        | [only] => exact ⟨_, grant_of_legal _ d htakes⟩
        | _ :: _ :: _ => exact ⟨_, rfl⟩
      · simp [htakes]
  | some requested =>
      have hlegal : OptionKind.format.isLegal c.operation c.version = true := by
        unfold formatFault? at haccepted
        rw [hformat] at haccepted
        exact kindFault?_eq_none_iff.1 haccepted
      show RefusedFor (if _ then _ else none) (grantFormat c requested advertised d)
      unfold grantFormat
      by_cases h : (c.operation.takesFormat && isUnadvertised requested advertised) = true
      · rw [if_pos h, if_pos h, hmode]
        rfl
      · rw [if_neg h, if_neg h]
        exact ⟨_, grant_of_legal _ d hlegal⟩

/-- **A request that is accepted where no formats are advertised** is refused
elsewhere for the format alone. -/
theorem buildOptions_of_accepted {c : Context} (hmode : c.mode = .strict) {i : Intent}
    {a : Arguments} (haccepted : requestFault? c i a = none) (advertised : List ResourceFormat) :
    RefusedFor (advertisedFault? c i advertised) (buildOptions c i a advertised) := by
  unfold requestFault? at haccepted
  rw [Option.or_eq_none_iff, Option.or_eq_none_iff] at haccepted
  obtain ⟨hearly, hformat, hlate⟩ := haccepted
  have early := grantAll_refusedFor hmode (earlyWishes c i) Draft.empty
  have late := grantAll_refusedFor hmode (lateWishes c i a)
  rw [hearly] at early
  simp only [hlate] at late
  have hall : RefusedFor (none.or ((advertisedFault? c i advertised).or (none.or none)))
      (buildOptions c i a advertised) := by
    unfold buildOptions
    refine early.bind fun d => ?_
    refine (chooseFormat_of_accepted hmode hformat advertised d).bind fun d => ?_
    exact (late d).bind fun d => ⟨_, rfl⟩
  rwa [Option.none_or, Option.or_none, Option.or_none] at hall

/-! ## §5. Another version. -/

theorem fault_flagWish (c : Context) (flag : Bool) (kind : OptionKind) :
    (flagWish flag kind).findSome? (Wish.fault? c)
      = if flag then kindFault? c kind else none := by
  cases flag with
  | true => exact List.findSome?_singleton
  | false => rfl

theorem fault_valueWish (c : Context) (value : Option Json) (kind : OptionKind) :
    (valueWish value kind).findSome? (Wish.fault? c)
      = value.bind fun _ => kindFault? c kind := by
  cases value with
  | none => rfl
  | some v => exact List.findSome?_singleton

/-- No time is asked for where none is legal. -/
theorem time_eq_none {c : Context} {time : Option String} {kind : OptionKind}
    (h : (timeWish c time kind).findSome? (Wish.fault? c) = none)
    (hillegal : kind.isLegal c.operation c.version = false) : time = none := by
  cases time with
  | none => rfl
  | some text =>
      have hwish : Wish.fault? c ⟨kind, timeValue c kind text⟩ = none :=
        (List.findSome?_singleton (f := Wish.fault? c)).symm.trans h
      unfold Wish.fault? at hwish
      split at hwish
      · cases hwish
      · simp [kindFault?, hillegal] at hwish

/-- An operation that a fleet votes on only reads. -/
theorem reads_of_reconcilesFleet {o : Operation} (ho : o.reconcilesFleet = true) :
    o = .listResources ∨ o = .describe ∨ o = .status := by
  cases o <;> first | exact absurd ho (by decide) | simp

/-- Options that are legal at all versions or at none. -/
theorem kindFault?_steady {mode : Mode} {o : Operation} {q : Nat} {kind : OptionKind}
    (hkind : kind ∈ [OptionKind.format, .available, .compressed])
    (h : kindFault? ⟨mode, o, q⟩ kind = none) (v : Nat) : kindFault? ⟨mode, o, v⟩ kind = none := by
  rw [kindFault?_eq_none_iff] at h ⊢
  simp only [List.mem_cons, List.not_mem_nil, or_false] at hkind
  rcases hkind with rfl | rfl | rfl <;> exact h

section

variable {mode : Mode} {o : Operation} (ho : o.reconcilesFleet = true)
include ho

/-- Options that such an operation never takes. -/
theorem never_legal {kind : OptionKind} (hkind : kind ∈ [OptionKind.bestEffort, .endTime,
    .startTime, .extendAsLongAsPossible, .users]) (v : Nat) : kind.isLegal o v = false := by
  simp only [List.mem_cons, List.not_mem_nil, or_false] at hkind
  rcases reads_of_reconcilesFleet ho with rfl | rfl | rfl <;>
    rcases hkind with rfl | rfl | rfl | rfl | rfl <;>
    exact Bool.and_eq_false_imp.2 fun _ => rfl

/-- A flag for an option that is never taken was not set. -/
theorem flag_eq_false {flag : Bool} {kind : OptionKind} {q : Nat}
    (hkind : kind ∈ [OptionKind.bestEffort, .endTime, .startTime, .extendAsLongAsPossible,
      .users])
    (h : (if flag then kindFault? ⟨mode, o, q⟩ kind else none) = none) : flag = false := by
  cases flag with
  | false => rfl
  | true =>
      have hlegal : kind.isLegal o q = true := kindFault?_eq_none_iff.1 h
      rw [never_legal ho hkind q] at hlegal
      cases hlegal

/-- **What a request that is accepted at one version meets at another**, for
an operation that a fleet votes on: nothing is wrong with it, unless it lists
the resources of a slice at version 3 or later. -/
theorem requestFault?_other_version {q : Nat} {i : Intent} {a : Arguments}
    (haccepted : requestFault? ⟨mode, o, q⟩ i a = none) (v : Nat) :
    requestFault? ⟨mode, o, v⟩ i a
      = if o = .listResources ∧ a.slice.isSome ∧ 3 ≤ v then
          some (.notApplicable "geni_slice_urn" .listResources v)
        else none := by
  unfold requestFault? earlyWishes lateWishes at haccepted ⊢
  simp only [List.findSome?_append, fault_flagWish, fault_valueWish, Option.or_eq_none_iff]
    at haccepted ⊢
  obtain ⟨⟨⟨hbest, hend⟩, hstart⟩, hformat, ⟨⟨⟨⟨havailable, hcompressed⟩, _⟩, hextend⟩, _⟩, _⟩ :=
    haccepted
  -- Most options are taken at all versions or at none.
  have hbest' := flag_eq_false ho (by simp) hbest
  have hextend' := flag_eq_false ho (by simp) hextend
  have hend' := time_eq_none hend (never_legal ho (by simp) q)
  have hstart' := time_eq_none hstart (never_legal ho (by simp) q)
  have hformat' : formatFault? ⟨mode, o, v⟩ i = none := by
    unfold formatFault? at hformat ⊢
    cases hwanted : i.format with
    | none => rfl
    | some f =>
        rw [hwanted] at hformat
        exact kindFault?_steady (by simp) hformat v
  have hflag {flag : Bool} {kind : OptionKind}
      (hkind : kind ∈ [OptionKind.format, .available, .compressed])
      (h : (if flag then kindFault? ⟨mode, o, q⟩ kind else none) = none) :
      (if flag then kindFault? ⟨mode, o, v⟩ kind else none) = none := by
    cases flag with
    | false => rfl
    | true => exact kindFault?_steady hkind h v
  have husers : OptionKind.users.isLegal o v = false := never_legal ho (by simp) v
  have hspeaking : kindFault? ⟨mode, o, v⟩ .speakingFor = none :=
    kindFault?_eq_none_iff.2 rfl
  rw [hflag (by simp) havailable, hflag (by simp) hcompressed, hbest', hextend', hend', hstart',
    hformat']
  simp only [husers, hspeaking, Bool.false_eq_true, if_false, Option.none_or, Option.bind_none,
    Option.or_none, timeWish, Option.toList_none, List.map_nil, List.findSome?_nil,
    Option.bind_fun_none]
  -- What is left is the slice.
  by_cases hlist : o = .listResources
  · subst hlist
    simp only [if_true, true_and]
    cases a.slice with
    | none => simp
    | some slice =>
        by_cases hv : 3 ≤ v
        · simp [kindFault?, OptionKind.isLegal, Operation.isModern, Operation.modernVersion, hv,
            OptionKind.name]
        · simp [kindFault?, OptionKind.isLegal, Operation.isModern, Operation.modernVersion, hv]
  · simp [hlist]

end

/-! ## §6. What is built. -/

/-- Warnings are no options. -/
theorem options_warnDropped (c : Context) (d : Draft) :
    (warnDropped c d).options = d.options := by
  unfold warnDropped
  split <;> rfl

/-- What is built is what is set, on top of it the caller's own options, and
a word on those that have no place. -/
theorem set_of_buildOptions {c : Context} {i : Intent} {a : Arguments}
    {advertised : List ResourceFormat} {d : Draft}
    (h : buildOptions c i a advertised = .ok d) :
    ∃ early chosen set, (earlyWishes c i).foldlM (Wish.grant c) Draft.empty = .ok early ∧
      chooseFormat c i advertised early = .ok chosen ∧
      (lateWishes c i a).foldlM (Wish.grant c) chosen = .ok set ∧
      d = warnDropped c (override i set) := by
  unfold buildOptions at h
  obtain ⟨early, hearly, h⟩ := exists_of_bind_ok h
  obtain ⟨chosen, hchosen, h⟩ := exists_of_bind_ok h
  obtain ⟨set, hset, h⟩ := exists_of_bind_ok h
  exact ⟨early, chosen, set, hearly, hchosen, hset, (Except.ok.inj h).symm⟩

/-- **What the caller demands is sent as it was given**, in either mode. -/
theorem get?_buildOptions {c : Context} {i : Intent} {a : Arguments}
    {advertised : List ResourceFormat} {d : Draft} (h : buildOptions c i a advertised = .ok d)
    {name : String} {value : Json} (hvalue : (Keyed.ofPairs i.overrides).get? name = some value) :
    d.options.get? name = some value := by
  obtain ⟨-, -, set, -, -, -, rfl⟩ := set_of_buildOptions h
  rw [Keyed.get?_ofPairs] at hvalue
  rw [options_warnDropped]
  show (Keyed.insertAll set.options i.overrides).get? name = some value
  rw [Keyed.get?_insertAll, hvalue, Option.some_or]

end Federation.Call
