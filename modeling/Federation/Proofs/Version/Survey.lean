/-
  Federation.Proofs.Version.Survey
  ────────────────────────────────
  **NEGOTIATION WHERE NOTHING CHANGES.**

  In a survey everything that negotiation looks at is known beforehand, but
  for the words in which a failure is told: they are the words for whoever
  came first.  A judgement does not depend on when a snapshot was fetched nor
  where it was found (`gist_judge`), and of what it finds elsewhere the words
  are of no account to it (`judge_concur`).  So an endpoint is judged by its
  scene, as somebody heard it who was probed at the endpoint's own URL
  (`heardBy`).

  Main results:
    * `Survey.meets_probeOnce` — what is found or yielded at a URL;
    * `Survey.meets_resolve` — what an endpoint is judged by.
-/
import Federation.Proofs.Introspection.Survey
import Federation.Proofs.Version.Modes
import Federation.Version.Fleet

namespace Federation

open Introspection (Probed ProbeOutcome Scene gist isAborted probeRequest)

namespace Version

/-! ## §1. Gists of judgements. -/

/-- An agreement apart from when the snapshot was fetched and where it was
found. -/
def Agreed.gist (a : Agreed) : Agreed := { a with probed := a.probed.map Probed.gist }

/-- A resolution apart from the same. -/
def Resolution.gist : Resolution → Resolution
  | .use a => .use a.gist
  | .redirect a => .redirect a.gist
  | .skip reason => .skip reason

theorem speaksAtOwnUrl_gist (e : Endpoint) (desired : Nat) (p : Probed) :
    speaksAtOwnUrl e desired p.gist = speaksAtOwnUrl e desired p := rfl

theorem detour?_gist (e : Endpoint) (desired : Nat) (o : ProbeOutcome) :
    detour? e desired (gist o) = detour? e desired o := by
  cases o <;> rfl

theorem gist_withoutProbe (mode : Mode) (e : Endpoint) (desired : Nat)
    (fault : Introspection.ProbeFault) :
    (withoutProbe mode e desired fault).gist = withoutProbe mode e desired fault := by
  cases fault <;> cases mode <;> rfl

theorem gist_mismatched (mode : Mode) (e : Endpoint) (desired : Nat) (p : Probed) :
    (mismatched mode e desired p).gist = mismatched mode e desired p.gist := by
  cases mode <;> rfl

theorem gist_judgeDetour (mode : Mode) (desired : Nat) (e : Endpoint) (p : Probed)
    (url : String) (o : ProbeOutcome) :
    (judgeDetour mode desired e p url o).gist
      = judgeDetour mode desired e p.gist url (gist o) := by
  cases o with
  | error fault => cases fault <;> first | rfl | exact gist_mismatched mode e desired p
  | ok q =>
      have hprimary : q.gist.snapshot.primary = q.snapshot.primary := rfl
      show Resolution.gist (if q.snapshot.primary = desired then _ else _)
        = if q.gist.snapshot.primary = desired then _ else _
      rw [hprimary]
      split
      · rfl
      · exact gist_mismatched mode e desired p

/-- **The gist of a judgement follows from the gists of the soundings.** -/
theorem gist_judge (mode : Mode) (desired : Nat) (e : Endpoint) (P : Soundings) :
    (judge mode desired e P).gist = judge mode desired e fun url => gist (P url) := by
  unfold judge
  dsimp only
  cases hown : P e.url with
  | error fault => exact gist_withoutProbe mode e desired fault
  | ok p =>
      show Resolution.gist (if speaksAtOwnUrl e desired p = true then _ else _)
        = if speaksAtOwnUrl e desired p.gist = true then _ else _
      rw [speaksAtOwnUrl_gist]
      split
      · rfl
      · have hadvertised : advertisedUrl? p.gist desired = advertisedUrl? p desired := rfl
        rw [hadvertised]
        cases advertisedUrl? p desired with
        | none => exact gist_mismatched mode e desired p
        | some url => exact gist_judgeDetour mode desired e p url (P url)

/-! ## §2. Words that are of no account. -/

/-- Whether two outcomes come to the same, though a failure may be told in
other words. -/
def Concur (o o' : ProbeOutcome) : Prop :=
  gist o = gist o' ∨ ∃ f f', o = .error (.transport f) ∧ o' = .error (.transport f') ∧
    f.kind = f'.kind

theorem Concur.of_gist {o o' o'' : ProbeOutcome} (h : gist o = gist o') (k : Concur o' o'') :
    Concur o o'' := by
  rcases k with k | ⟨f, f', ho, ho', hkind⟩
  · exact .inl (h.trans k)
  · subst ho
    cases o with
    | ok p => cases h
    | error fault =>
        cases h
        exact .inr ⟨f, f', rfl, ho', hkind⟩

theorem Concur.detour?_eq {o o' : ProbeOutcome} (h : Concur o o') (e : Endpoint)
    (desired : Nat) : detour? e desired o = detour? e desired o' := by
  rcases h with h | ⟨f, f', rfl, rfl, -⟩
  · rw [← detour?_gist e desired o, h, detour?_gist]
  · rfl

/-- **Of what is found elsewhere the words are of no account.** -/
theorem judge_concur {P Q : Soundings} {mode : Mode} {desired : Nat} {e : Endpoint}
    (own : gist (P e.url) = gist (Q e.url))
    (there : ∀ url, detour? e desired (P e.url) = some url → Concur (P url) (Q url)) :
    (judge mode desired e P).gist = (judge mode desired e Q).gist := by
  rw [gist_judge, gist_judge]
  cases hown : P e.url with
  | error fault =>
      rw [hown] at own
      simp only [judge, ← own, hown]
      rfl
  | ok p =>
      have hp : gist (P e.url) = .ok p.gist := by rw [hown]; rfl
      have hq : gist (Q e.url) = .ok p.gist := own ▸ hp
      by_cases speaks : speaksAtOwnUrl e desired p.gist = true
      · simp only [judge, hp, hq, speaks, if_true]
      · cases advertised : advertisedUrl? p.gist desired with
        | none =>
            rw [judge_of_none hp speaks mode advertised, judge_of_none hq speaks mode advertised]
        | some url =>
            rw [judge_of_some hp speaks mode advertised, judge_of_some hq speaks mode advertised]
            have hdetour : detour? e desired (P e.url) = some url := by
              rw [hown, ← detour?_gist]
              exact (detour?_of_silent speaks).trans advertised
            rcases there url hdetour with h | ⟨f, f', ho, ho', -⟩
            · rw [h]
            · rw [ho, ho']
              rfl

/-- Which URL is called after a judgement. -/
def Resolution.Reaches (own : String) (There : String → Prop) : Resolution → Prop
  | .use a => a.endpoint.url = own
  | .redirect a => There a.endpoint.url
  | .skip _ => True

/-- **It is the endpoint's own one**, or the one that is looked at beside
it. -/
theorem judge_reaches (mode : Mode) (desired : Nat) (e : Endpoint) (P : Soundings) :
    (judge mode desired e P).Reaches e.url fun url =>
      detour? e desired (P e.url) = some url := by
  obtain ⟨verdict, hjudged, hverdict⟩ := judged P desired e
  rw [hverdict]
  cases hjudged with
  | @unheard fault own => cases fault <;> cases mode <;> first | exact trivial | rfl
  | here own speaks => exact rfl
  | calledOff own silent advertised there => exact trivial
  | elsewhere own silent advertised there confirmed =>
      show detour? e desired (P e.url) = _
      rw [own, detour?_of_silent silent]
      exact advertised
  | nowhere own silent unconfirmed => cases mode <;> first | exact trivial | rfl

/-- Probes apart from when snapshots were fetched and where they were
found. -/
def gists (probes : Probes) : Probes := probes.map fun (e, o) => (e, gist o)

/-- **A vote depends on the gists of the probes only.** -/
theorem decideFrom_gists (mode : Mode) (desired : Nat) (explicit : Bool) (probes : Probes) :
    decideFrom mode desired explicit (gists probes) = decideFrom mode desired explicit probes := by
  have hany : ((gists probes).any fun (_, o) => isAborted o)
      = probes.any fun (_, o) => isAborted o := by
    unfold gists
    rw [List.any_map]
    congr 1
    funext ⟨e, o⟩
    exact Introspection.isAborted_gist o
  have hspeakers : speakers (gists probes) = speakers probes := by
    unfold speakers gists
    rw [List.filterMap_map]
    congr 1
    funext ⟨e, o⟩
    cases o <;> rfl
  have hgone : unreachable (gists probes) = unreachable probes := by
    unfold unreachable gists
    rw [List.filterMap_map]
    congr 1
    funext ⟨e, o⟩
    cases o <;> rfl
  unfold decideFrom
  rw [hany, hspeakers, hgone]

/-- So it does not matter in which of two ways they were come by. -/
theorem decideFrom_told (mode : Mode) (desired : Nat) (explicit : Bool)
    {tell : Endpoint → ProbeOutcome} {endpoints : List Endpoint} {outcomes : List ProbeOutcome}
    (h : List.Forall₂ (fun e o => gist o = gist (tell e)) endpoints outcomes) :
    decideFrom mode desired explicit (endpoints.zip outcomes)
      = decideFrom mode desired explicit (endpoints.map fun e => (e, tell e)) := by
  have hgists : gists (endpoints.zip outcomes) = gists (endpoints.map fun e => (e, tell e)) := by
    induction h with
    | nil => rfl
    | @cons e o endpoints outcomes ho _ ih =>
        show (e, gist o) :: gists (endpoints.zip outcomes) = (e, gist (tell e)) :: gists _
        rw [ho, ih]
  rw [← decideFrom_gists, hgists, decideFrom_gists]

end Version

/-! ## §3. What a scene sounds like. -/

namespace Introspection.Scene

open Version

variable {c : Scene}

/-- **The soundings of a scene**, failures told in the words for an
endpoint. -/
def heardBy (c : Scene) (e : Endpoint) : Soundings := fun url => c.sounding { e with url }

/-- Endpoints of one name at one URL hear the same. -/
theorem sounding_congr {a e : Endpoint} (hurl : a.url = e.url)
    (hname : a.nickname = e.nickname) : c.sounding a = c.sounding e := by
  have hclassify : ∀ raw timeout, Call.classify a raw timeout = Call.classify e raw timeout := by
    intro raw timeout
    unfold Call.classify Call.transportMessage Endpoint.label
    rw [hurl, hname]
  unfold sounding live
  rw [hurl]
  simp only [hclassify]

theorem heardBy_own (c : Scene) (e : Endpoint) : c.heardBy e e.url = c.sounding e := rfl

theorem heardBy_congr {a e : Endpoint} (hname : a.nickname = e.nickname) :
    c.heardBy a = c.heardBy e := funext fun _ => sounding_congr rfl hname

/-- Whether a failure at a URL is told by the name of who was probed there. -/
structure Names (c : Scene) (url : String) : Prop where
  unstored : c.stored? url = none
  lost : ∃ raw, c.replies url probeMethod [] = .error raw ∧ Call.kindOf raw ≠ .other

/-- What is not recognised is passed on as it is. -/
theorem classify_other {raw : String} {timeout : Nat} (e : Endpoint)
    (h : Call.kindOf raw = .other) : Call.classify e raw timeout = ⟨.other, raw⟩ := by
  unfold Call.classify
  rw [h]
  unfold Call.transportMessage
  rfl

/-- **At one URL all hear the same**, apart from the words for a failure that
have a name in them. -/
theorem sounding_cases {a e : Endpoint} (hurl : a.url = e.url) :
    c.sounding a = c.sounding e ∨ c.Names e.url ∧ a.nickname ≠ e.nickname ∧
      ∃ f f', c.sounding a = .error (.transport f) ∧ c.sounding e = .error (.transport f') ∧
        f.kind = f'.kind := by
  by_cases hname : a.nickname = e.nickname
  · exact .inl (sounding_congr hurl hname)
  · cases hstored : c.stored? e.url with
    | some p =>
        left
        rw [sounding_of_stored (e := a) (hurl ▸ hstored), sounding_of_stored hstored]
    | none =>
        rw [sounding_of_unstored (e := a) (hurl ▸ hstored), sounding_of_unstored hstored]
        unfold live
        rw [hurl]
        cases hreply : c.replies e.url probeMethod [] with
        | ok reply => exact .inl rfl
        | error raw =>
            by_cases hkind : Call.kindOf raw = .other
            · left
              dsimp only
              rw [classify_other a hkind, classify_other e hkind]
            · exact .inr ⟨⟨hstored, raw, hreply, hkind⟩, hname, _, _, rfl, rfl, rfl⟩

theorem sounding_concur {a e : Endpoint} (hurl : a.url = e.url) :
    Concur (c.sounding a) (c.sounding e) := by
  rcases sounding_cases (c := c) hurl with h | ⟨-, -, hfailed⟩
  · exact .inl (congrArg gist h)
  · exact .inr hfailed

/-- Whether two scenes have the time and the rules in common. -/
structure Parallel (c c' : Scene) : Prop where
  now : c.now = c'.now
  policy : c.policy = c'.policy
  force : c.force = c'.force

theorem Parallel.refl (c : Scene) : c.Parallel c := ⟨rfl, rfl, rfl⟩

theorem Parallel.symm {c c' : Scene} (h : c.Parallel c') : c'.Parallel c :=
  ⟨h.now.symm, h.policy.symm, h.force.symm⟩

/-- Whether two scenes have all in common that is about a URL. -/
structure AgreesAt (c c' : Scene) (url : String) : Prop where
  replies : ∀ method arguments, c.replies url method arguments = c'.replies url method arguments
  kept : c.kept url = c'.kept url

theorem AgreesAt.refl (c : Scene) (url : String) : c.AgreesAt c url := ⟨fun _ _ => rfl, rfl⟩

theorem AgreesAt.symm {c c' : Scene} {url : String} (h : c.AgreesAt c' url) : c'.AgreesAt c url :=
  ⟨fun method arguments => (h.replies method arguments).symm, h.kept.symm⟩

section

variable {c' : Scene}

theorem stored?_local (parallel : c.Parallel c') {url : String} (agrees : c.AgreesAt c' url) :
    c.stored? url = c'.stored? url := by
  unfold stored? find? consults
  rw [agrees.kept, parallel.now, parallel.policy, parallel.force]

/-- **What is heard at a URL** is told by what is about the URL. -/
theorem sounding_local (parallel : c.Parallel c') {e : Endpoint}
    (agrees : c.AgreesAt c' e.url) : c.sounding e = c'.sounding e := by
  unfold sounding live
  rw [stored?_local parallel agrees, agrees.replies, parallel.now, parallel.policy]

/-- So is whether a failure there is told by a name. -/
theorem names_local (parallel : c.Parallel c') {url : String} (agrees : c.AgreesAt c' url)
    (names : c'.Names url) : c.Names url := by
  obtain ⟨unstored, raw, hraw, hkind⟩ := names
  exact ⟨(stored?_local parallel agrees).trans unstored, raw, (agrees.replies _ _).trans hraw,
    hkind⟩

end

end Introspection.Scene

/-! ## §4. Negotiation in a survey. -/

namespace Survey

open Version

variable {v : Survey} {w : World} {t : Terms} {s : Session}

/-- Whether negotiation goes by what the scene goes by. -/
structure GoesBy (v : Survey) (t : Terms) : Prop where
  policy : t.probing = v.scene.policy
  force : t.forceRefresh = v.scene.force

/-- **What is found or yielded at a URL**: what somebody's probe of it
yields. -/
def Told (v : Survey) (s : Session) (url : String) (own : List Request) (o : ProbeOutcome) :
    Prop :=
  ∃ a, v.Asks a ∧ a.url = url ∧ v.Yields s a own o

theorem Told.later {u : Session} {url : String} {own : List Request} {o : ProbeOutcome}
    (h : v.Told s url own o) (hsu : s.requests <+: u.requests) : v.Told u url own o := by
  obtain ⟨a, asks, hurl, yields⟩ := h
  exact ⟨a, asks, hurl, yields.later hsu⟩

theorem Yields.gist_eq {e : Endpoint} {own : List Request} {o : ProbeOutcome}
    (h : v.Yields s e own o) : gist o = gist (v.scene.sounding e) := by
  cases h with
  | itself => rfl
  | left silent asked same => exact same

theorem Yields.not_aborted {e : Endpoint} {own : List Request} {o : ProbeOutcome}
    (h : v.Yields s e own o) : isAborted o = false := by
  rw [← Introspection.isAborted_gist, h.gist_eq, Introspection.isAborted_gist]
  exact v.scene.sounding_not_aborted e

/-- What is told at a URL is what anyone hears there, but for the words. -/
theorem Told.concur {url : String} {own : List Request} {o : ProbeOutcome}
    (h : v.Told s url own o) {e : Endpoint} (hurl : e.url = url) :
    Concur o (v.scene.sounding e) := by
  obtain ⟨a, -, rfl, yields⟩ := h
  exact .of_gist yields.gist_eq (Scene.sounding_concur hurl.symm)

/-- **What probing once comes to in a survey.** -/
theorem meets_probeOnce (steady : w.Steady v.scene) (terms : v.GoesBy t) (hs : v.Holds s)
    {e : Endpoint} (opens : v.Asks e ∨ v.Known e.url) :
    (probeOnce w t e).Meets v.conduct s fun u own o =>
      own.Sublist [probeRequest v.scene.policy e] ∧ v.Told u e.url own o := by
  simp only [probeOnce, Errand.bind_eq, Errand.liftM_eq]
  refine Errand.meets_look fun u hu => ?_
  have hheld := hu.2 hs
  cases hfound : Keyed.get? u.memo e.url with
  | some o =>
      obtain ⟨a, asks, hurl, yields⟩ := hheld.memo e.url o (Keyed.mem_of_get? hfound)
      exact fun x hx => ⟨List.nil_sublist _, a, asks, hurl, yields.later hx.1⟩
  | none =>
      -- Whatever was known beforehand would have been found.
      have asks : v.Asks e := opens.resolve_right fun known =>
        Keyed.get?_eq_none_iff.1 hfound (hheld.known e.url known)
      rw [terms.policy, terms.force]
      refine (Survey.meets_probe steady hheld e).bind fun x own o hx hprobe => ?_
      obtain ⟨sent, yields⟩ := hprobe
      simp only [yields.not_aborted, Bool.not_false, if_true]
      refine Errand.meets_quiet fun y hy => ?_
      have hyields : v.Yields y e [] o := by
        cases yields with
        | itself => exact .itself
        | left silent asked same => exact .left rfl (asked.later hy.1) same
      refine ⟨⟨List.prefix_rfl, fun hheld => hheld.remember asks hyields⟩, rfl, fun z hz => ?_⟩
      show (own ++ []).Sublist _ ∧ v.Told z e.url (own ++ []) o
      rw [List.append_nil]
      exact ⟨sent, e, asks, rfl, yields.later (hy.1.trans hz.1)⟩

/-- What a negotiation looks at: the endpoint's own URL and, at most, the one
that is advertised there. -/
def Opens (v : Survey) (desired : Nat) (e : Endpoint) : Prop :=
  (v.Asks e ∨ v.Known e.url) ∧
    ∀ url, detour? e desired (v.scene.sounding e) = some url →
      v.Asks (e.moved url desired) ∨ v.Known url

/-- What the soundings of a negotiation are. -/
def Sounded (v : Survey) (s : Session) (desired : Nat) (e : Endpoint) (P : Soundings) : Prop :=
  (∃ own, v.Told s e.url own (P e.url)) ∧
    ∀ url, detour? e desired (P e.url) = some url → ∃ own, v.Told s url own (P url)

theorem meets_sound (steady : w.Steady v.scene) (terms : v.GoesBy t) (hs : v.Holds s)
    {desired : Nat} {e : Endpoint} (opens : v.Opens desired e) :
    (sound w t desired e).Meets v.conduct s fun u _ P => v.Sounded u desired e P := by
  unfold sound
  refine (meets_probeOnce steady terms hs opens.1).bind fun u own o hu htold => ?_
  obtain ⟨-, told⟩ := htold
  cases hdetour : detour? e desired o with
  | none =>
      intro x hx
      refine ⟨⟨own, told.later hx.1⟩, fun url hurl => ?_⟩
      cases hdetour.symm.trans hurl
  | some url =>
      have hopen := opens.2 url (by rw [← (told.concur rfl).detour?_eq, hdetour])
      refine (meets_probeOnce steady terms (hu.2 hs) (e := e.moved url desired) hopen).bind
        fun x more there hx hthere => ?_
      intro y hy
      unfold Sounded
      rw [sounded_home]
      refine ⟨⟨own, told.later (hx.1.trans hy.1)⟩, fun url' hurl' => ?_⟩
      obtain rfl := Option.some.inj (hdetour.symm.trans hurl')
      rw [sounded_of_ne _ _ (detour?_ne hdetour)]
      exact ⟨more, hthere.2.later hy.1⟩

/-- **What an endpoint is judged by in a survey**: the scene, as somebody hears
it who asks at the endpoint's URL. -/
theorem meets_resolve (steady : w.Steady v.scene) (terms : v.GoesBy t) (hs : v.Holds s)
    {desired : Nat} {e : Endpoint} (opens : v.Opens desired e) :
    (resolve w t desired e).Meets v.conduct s fun _ _ r =>
      ∃ a, v.Asks a ∧ a.url = e.url ∧
        r.gist = (judge t.mode desired e (v.scene.heardBy a)).gist := by
  rw [resolve_eq_judge]
  refine (meets_sound steady terms hs opens).bind fun u _ P _ hsounded => ?_
  obtain ⟨⟨own, a, asks, hurl, yields⟩, there⟩ := hsounded
  intro x _
  refine ⟨a, asks, hurl, judge_concur ?_ fun url hdetour => ?_⟩
  · rw [yields.gist_eq, ← hurl, Scene.heardBy_own]
  · obtain ⟨own, told⟩ := there url hdetour
    exact told.concur (e := { a with url }) rfl

end Survey

end Federation
