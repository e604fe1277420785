/-
  Federation.Proofs.Invocation.Carriage
  ─────────────────────────────────────
  **NO OPTION IS LOST WITHOUT A WORD.**

  Options are built in one place and put into a call in another, and each
  decides for itself which calls have a place for them.  But for the
  operation that asks for the version both decide alike: the options of a
  call stand in it, or a warning names each of them.

  Main results:
    * `Call.dropsOptions_eq` — both decide alike;
    * `Call.ascending_buildOptions` — no option is there twice;
    * `Call.options_carried_or_named` — the options of one call;
    * `Engine.run_conveys` — every call of a run.
-/
import Federation.Proofs.Call.Genuine
import Federation.Proofs.Call.Options
import Federation.Proofs.Invocation.Calls
import Federation.Proofs.Text.Split

namespace Federation

open Call (Visit)

namespace Call

/-! ## §1. No option twice. -/

section

variable {c : Context} {i : Intent} {a : Arguments} {advertised : List ResourceFormat}

/-- To grant an option is to set it, or to set it with a warning. -/
theorem ascending_grant {kind : OptionKind} {value : Json} {d d' : Draft}
    (hd : d.options.Ascending) (h : grant c kind value d = .ok d') : d'.options.Ascending := by
  unfold grant at h
  dsimp only at h
  split at h
  · obtain rfl := Except.ok.inj h
    exact Keyed.ascending_insert hd _ _
  · split at h
    · cases h
    · obtain rfl := Except.ok.inj h
      exact Keyed.ascending_insert hd _ _

theorem ascending_grantAll {ws : List Wish} {d d' : Draft} (hd : d.options.Ascending)
    (h : ws.foldlM (Wish.grant c) d = .ok d') : d'.options.Ascending := by
  refine foldlM_keeps (P := fun d => d.options.Ascending) (fun d w d' hd hgrant => ?_) hd h
  unfold Wish.grant at hgrant
  split at hgrant
  · cases hgrant
  · exact ascending_grant hd hgrant

theorem ascending_chooseFormat {d d' : Draft} (hd : d.options.Ascending)
    (h : chooseFormat c i advertised d = .ok d') : d'.options.Ascending := by
  unfold chooseFormat at h
  split at h
  · unfold grantFormat at h
    split at h
    · split at h
      · cases h
      · exact ascending_grant (d := d.warn _) hd h
    · exact ascending_grant hd h
  · unfold defaultFormat at h
    split at h
    · exact Except.ok.inj h ▸ hd
    · split at h
      · exact ascending_grant hd h
      · exact Except.ok.inj h ▸ hd
      · exact Except.ok.inj h ▸ hd

/-- **No option is there twice**, so that the options make an object. -/
theorem ascending_buildOptions {d : Draft} (h : buildOptions c i a advertised = .ok d) :
    d.options.Ascending := by
  obtain ⟨early, chosen, set, hearly, hchosen, hset, rfl⟩ := set_of_buildOptions h
  have hempty : Draft.empty.options.Ascending := List.Pairwise.nil
  have hall := ascending_grantAll (ascending_chooseFormat (ascending_grantAll hempty hearly)
    hchosen) hset
  rw [options_warnDropped]
  exact Keyed.ascending_insertAll hall i.overrides

/-! ## §2. Where options have no place. -/

/-- **Both decide alike** which calls have no place for options. -/
theorem dropsOptions_eq (ho : c.operation ≠ .getVersion) (d : Draft) :
    dropsOptions c d = (!takesOptions c.operation c.version && !d.options.isEmpty) := by
  obtain ⟨mode, o, v⟩ := c
  have hplace : (decide (v < 2) && decide (o ≠ .listResources)) = !takesOptions o v := by
    have hlater : decide (v < 2) = !decide (2 ≤ v) := by
      rw [← decide_not]
      exact decide_eq_decide.2 Nat.not_le.symm
    rw [hlater]
    cases o with
    | getVersion => exact absurd rfl ho
    | listResources => simp [takesOptions]
    | _ => simp [takesOptions]
  show (_ && !d.options.isEmpty) = _
  rw [hplace]

/-- What has no place is named. -/
theorem warned_of_buildOptions {d : Draft} (h : buildOptions c i a advertised = .ok d)
    (hdrops : dropsOptions c d = true) : droppedWarning c d ∈ d.warnings := by
  obtain ⟨-, -, set, -, -, -, rfl⟩ := set_of_buildOptions h
  -- Whether there is something to say, and what, is told by the options alone.
  have hsame : dropsOptions c (override i set) = true := by
    unfold dropsOptions at hdrops ⊢
    rwa [options_warnDropped] at hdrops
  have hwords : droppedWarning c (warnDropped c (override i set))
      = droppedWarning c (override i set) := by
    unfold droppedWarning
    rw [options_warnDropped]
  rw [hwords]
  unfold warnDropped
  rw [if_pos hsame]
  exact List.mem_append_right _ (List.mem_singleton_self _)

/-- What is said of options that have no place names each of them. -/
theorem mentions_droppedWarning (c : Context) (d : Draft) :
    ∀ name ∈ d.options.keys, Text.Mentions (droppedWarning c d) name := fun _ hname =>
  (Text.mentions_commaList hname).prepend _

/-- Where the call has no place for options, there are none or they are named. -/
theorem named_of_noPlace {d : Draft} (ho : c.operation ≠ .getVersion)
    (h : buildOptions c i a advertised = .ok d)
    (noPlace : takesOptions c.operation c.version = false) :
    d.options = [] ∨ droppedWarning c d ∈ d.warnings := by
  by_cases hnone : d.options = []
  · exact .inl hnone
  · refine .inr (warned_of_buildOptions h ?_)
    rw [dropsOptions_eq ho, noPlace]
    simpa using hnone

/-- **No option is lost without a word.**  Unless a call asks for the version,
its last argument is the object of all its options, or there are none, or a
warning says that they are dropped and names each of them. -/
theorem options_carried_or_named {cs : List Credential} {d : Draft} {p : Prepared}
    (ho : c.operation ≠ .getVersion) (built : buildOptions c i a advertised = .ok d)
    (prepared : prepare c.operation c.version a cs d.options = .ok p) :
    d.options.keys.Nodup ∧
      ((∃ before, p.arguments = before ++ [.object d.options]) ∨
        d.options = [] ∨
        ∃ warning ∈ d.warnings,
          warning = "AM API version 1 " ++ c.operation.name ++ " takes no options; dropping "
            ++ ", ".intercalate d.options.keys ∧
          ∀ name ∈ d.options.keys, Text.Mentions warning name) := by
  refine ⟨Keyed.nodup_keys (ascending_buildOptions built), ?_⟩
  obtain ⟨before, -, hplace⟩ := prepare_options prepared
  cases htakes : takesOptions c.operation c.version with
  | true =>
      rw [htakes, if_pos rfl] at hplace
      exact .inl ⟨before, hplace⟩
  | false =>
      refine .inr ((named_of_noPlace ho built htakes).imp_right fun hwarned => ?_)
      exact ⟨_, hwarned, rfl, mentions_droppedWarning c d⟩

end

end Call

namespace Vendor

/-- A call on somebody's behalf, with an option of the caller's own. -/
def intent : Call.Intent :=
  { Call.Intent.plain with
    speakingFor := some "urn:u"
    overrides := [("vendor_detail", .nat 2)] }

/-- For a slice. -/
def arguments : Arguments := { Arguments.none with slice := some "urn:s" }

/-- The options that this takes. -/
def options : Call.Options := [("geni_speaking_for", .string "urn:u"), ("vendor_detail", .nat 2)]

/-- What is said where they have no place. -/
def dropped : String :=
  "AM API version 1 Delete takes no options; dropping geni_speaking_for, vendor_detail"

end Vendor

/-- A deletion carries both options at version 2; at version 1, where it has no place for them, a
warning names both. -/
theorem options_carried_or_named_delete :
    (∃ p, Call.buildOptions ⟨.strict, .delete, 2⟩ Vendor.intent Vendor.arguments []
        = .ok ⟨Vendor.options, []⟩ ∧
      Call.prepare .delete 2 Vendor.arguments [] Vendor.options = .ok p ∧
      ∃ before, p.arguments = before ++ [.object Vendor.options]) ∧
    ∃ p, Call.buildOptions ⟨.strict, .delete, 1⟩ Vendor.intent Vendor.arguments []
        = .ok ⟨Vendor.options, [Vendor.dropped]⟩ ∧
      Call.prepare .delete 1 Vendor.arguments [] Vendor.options = .ok p ∧
      ∃ warning ∈ [Vendor.dropped], ∀ name ∈ Vendor.options.keys, Text.Mentions warning name := by
  constructor
  · have built : Call.buildOptions ⟨.strict, .delete, 2⟩ Vendor.intent Vendor.arguments []
        = .ok ⟨Vendor.options, []⟩ := rfl
    have prepared : Call.prepare .delete 2 Vendor.arguments [] Vendor.options
        = .ok ⟨"DeleteSliver", [.string "urn:s", .array [], .object Vendor.options]⟩ := rfl
    refine ⟨_, built, prepared, ?_⟩
    obtain ⟨-, hcarried | hnone | ⟨warning, hwarning, -⟩⟩ :=
      Call.options_carried_or_named (by decide) built prepared
    · exact hcarried
    · cases hnone
    · cases hwarning
  · have built : Call.buildOptions ⟨.strict, .delete, 1⟩ Vendor.intent Vendor.arguments []
        = .ok ⟨Vendor.options, [Vendor.dropped]⟩ := rfl
    have prepared : Call.prepare .delete 1 Vendor.arguments [] Vendor.options
        = .ok ⟨"DeleteSliver", [.string "urn:s", .array []]⟩ := rfl
    refine ⟨_, built, prepared, ?_⟩
    obtain ⟨-, ⟨before, hcarried⟩ | hnone | ⟨warning, hwarning, -, hnames⟩⟩ :=
      Call.options_carried_or_named (by decide) built prepared
    · have hlast := congrArg List.getLast? hcarried
      rw [List.getLast?_concat] at hlast
      cases hlast
    · cases hnone
    · exact ⟨warning, hwarning, hnames⟩

/-- The operation that asks for the version is an exception: at version 2 it has no place for
options, and nothing is said of them. -/
example :
    Call.buildOptions ⟨.strict, .getVersion, 2⟩ Vendor.intent Arguments.none []
        = .ok ⟨Vendor.options, []⟩ ∧
      Call.prepare .getVersion 2 Arguments.none [] Vendor.options = .ok ⟨"GetVersion", []⟩ :=
  ⟨rfl, rfl⟩

/-! ## §3. The calls of a run. -/

/-- **What a call conveys**: for each position what the caller has given, and
every option that was built for it, unless a warning of its visit names the
option. -/
structure Conveys (i : Invocation) (credentials : List Credential) (v : Nat)
    (options : Call.Options) (r : Request) (visit : Visit) : Prop where
  arguments : List.Forall₂ (Call.Genuine v i.arguments credentials options)
    (Call.shape i.operation v) r.arguments
  options : (∃ before, r.arguments = before ++ [.object options]) ∨
    ∀ name ∈ options.keys, ∃ warning ∈ visit.warnings, Text.Mentions warning name

namespace Engine

/-- The call of a visit conveys what was built for it. -/
theorem conveys_of_called {w : World} {g : Engine} {i : Invocation} {credentials : List Credential}
    {version : Nat} {slot : Endpoint} {t : Session} {visit : Visit} {r : Request}
    (h : Called w g i credentials version slot t visit r) :
    ∃ v formats draft,
      Call.buildOptions ⟨g.settings.mode, i.operation, v⟩ (g.intent i) i.arguments formats
        = .ok draft ∧
      Conveys i credentials v draft.options r visit := by
  cases h with
  | @made a redirected v draft p response hop agreement speaks built prepared delivered invoked =>
      refine ⟨v, _, draft, built, Call.genuine_arguments prepared, ?_⟩
      obtain ⟨before, -, hplace⟩ := Call.prepare_options prepared
      cases htakes : Call.takesOptions i.operation v with
      | true =>
          rw [htakes, if_pos rfl] at hplace
          exact .inl ⟨before, hplace⟩
      | false =>
          refine .inr fun name hname => ?_
          obtain hnone | hwarned := Call.named_of_noPlace hop built htakes
          · rw [hnone] at hname
            cases hname
          -- What is said of the options is said after what is said of the version.
          · exact ⟨_, List.mem_append_right a.warnings hwarned,
              Call.mentions_droppedWarning _ draft name hname⟩

/-- **Every call of a run conveys what was built for it**, and what it does
not convey is named in the report. -/
theorem run_conveys (w : World) (g : Engine) (i : Invocation) (s : Session) :
    ∃ sent, (ExceptT.run (g.run w i) s).2.requests = s.requests ++ sent ∧
      ∀ r ∈ callsOf sent, ∃ credentials v formats draft visit,
        Credentialed w i credentials ∧
        Call.buildOptions ⟨g.settings.mode, i.operation, v⟩ (g.intent i) i.arguments formats
          = .ok draft ∧
        Conveys i credentials v draft.options r visit ∧
        visit.calledUrl? = some r.url ∧
        ∀ report, (ExceptT.run (g.run w i) s).1 = .ok report →
          ∃ o ∈ report.outcomes, o.visit = visit := by
  obtain ⟨sent, hlog, hcourse⟩ := course_run w g i s
  refine ⟨sent, hlog, fun r hr => ?_⟩
  generalize ExceptT.run (g.run w i) s = result at hcourse
  obtain ⟨outcome, t⟩ := result
  obtain hnone | ⟨endpoints, credentials, version, message, _, _, parts, launched, toured, hcalls,
    hreport⟩ := calls_of_course hcourse
  · rw [hnone] at hr
    cases hr
  · rw [hcalls] at hr
    obtain ⟨slot, -, visit, hvisit, hcalled⟩ := (calls_of_toured toured).2 r hr
    obtain ⟨v, formats, draft, built, conveys⟩ := conveys_of_called hcalled
    refine ⟨credentials, v, formats, draft, visit, launched.credentialed, built, conveys,
      hcalled.calledUrl?, fun report h => ?_⟩
    obtain rfl := hreport report h
    rw [← visits_reportOn g i version message (parts.map Prod.snd)] at hvisit
    exact List.mem_map.1 hvisit

end Engine

end Federation
