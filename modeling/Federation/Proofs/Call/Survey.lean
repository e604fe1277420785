/-
  Federation.Proofs.Call.Survey
  ─────────────────────────────
  **VISITS WHERE NOTHING CHANGES.**

  In a survey the visit of a slot comes to what the scene says of the slot's
  own URL and of the one that is advertised there (`visitIn`), whoever else
  is visited.  The only thing that somebody else may have a part in is the
  name in the words for a failure at the slot's own URL: it is that of the
  one who was probed there first.  Whoever that was, the visits are akin
  (`Akin`), and where the words have no name in them they are the same.

  Main results:
    * `Survey.meets_visit` — what a visit comes to in a survey;
    * `visitIn_akin` — it matters for the words only who was probed first;
    * `visitIn_local` — only what is said at the two URLs matters.
-/
import Federation.Call.Round
import Federation.Proofs.Answer.Words
import Federation.Proofs.Version.Survey

namespace Federation

open Introspection (Probed ProbeOutcome Scene gist probeRequest)
open Version (Agreed Concur Resolution Soundings detour? judge)

namespace Call

/-! ## §1. What a visit comes to. -/

/-- What a scene responds to a planned call. -/
def respond (c : Scene) (timeout : Nat) (e : Endpoint) (p : Prepared) : Response :=
  match c.replies e.url p.method p.arguments with
  | .ok reply => .replied reply
  | .error raw => .failed (classify e raw timeout)

/-- What comes of the plan for a slot that a version was agreed on with. -/
def carriedOut (c : Scene) (i : Itinerary) (slot : Endpoint) (a : Agreed) (redirected : Bool) :
    Except Halt Visit :=
  match i.planner.plan a with
  | .error halt => .error halt
  | .ok (.unavailable reason) =>
      .ok ⟨slot, some a.endpoint, redirected, .skipped reason, a.warnings⟩
  | .ok (.call prepared warnings) =>
      .ok ⟨slot, some a.endpoint, redirected, respond c i.timeout a.endpoint prepared,
        a.warnings ++ warnings⟩

/-- What comes of a resolution. -/
def resolved (c : Scene) (i : Itinerary) (slot : Endpoint) :
    Resolution → Except Halt Visit
  | .skip reason => .ok (skippedVisit slot reason)
  | .use a => carriedOut c i slot a false
  | .redirect a => carriedOut c i slot a true

/-- **What a visit comes to** where nothing changes, failures told in the words
for an endpoint. -/
def visitIn (c : Scene) (i : Itinerary) (slot e : Endpoint) : Except Halt Visit :=
  if i.planner.answersFromProbe then .ok (probedVisit slot (c.heardBy e slot.url))
  else resolved c i slot (judge i.terms.mode i.desired slot (c.heardBy e))

/-- Whether plans are made without regard to warnings, and to when a snapshot
was fetched and where it was found. -/
def Planner.Sober (p : Planner) : Prop :=
  ∀ a b : Agreed, a.endpoint = b.endpoint → a.probed.map Probed.gist = b.probed.map Probed.gist →
    p.plan a = p.plan b

theorem carriedOut_gist {i : Itinerary} (sober : i.planner.Sober) (c : Scene) (slot : Endpoint)
    (a : Agreed) (redirected : Bool) :
    carriedOut c i slot a.gist redirected = carriedOut c i slot a redirected := by
  have hplan : i.planner.plan a.gist = i.planner.plan a := by
    refine sober a.gist a rfl ?_
    show (a.probed.map Probed.gist).map Probed.gist = _
    rw [Option.map_map]
    rfl
  unfold carriedOut
  rw [hplan]
  rfl

/-- What comes of a resolution depends on its gist only. -/
theorem resolved_congr {i : Itinerary} (sober : i.planner.Sober) {c : Scene} {slot : Endpoint}
    {r r' : Resolution} (h : r.gist = r'.gist) : resolved c i slot r = resolved c i slot r' := by
  have hgist : ∀ r, resolved c i slot r.gist = resolved c i slot r := by
    intro r
    cases r with
    | skip reason => rfl
    | use a => exact carriedOut_gist sober c slot a false
    | redirect a => exact carriedOut_gist sober c slot a true
  rw [← hgist r, h, hgist]

/-- What somebody of the same name hears makes no difference. -/
theorem visitIn_congr (c : Scene) (i : Itinerary) (slot : Endpoint) {a b : Endpoint}
    (hname : a.nickname = b.nickname) : visitIn c i slot a = visitIn c i slot b := by
  unfold visitIn
  rw [Scene.heardBy_congr hname]

/-! ## §2. Visits that differ in words. -/

/-- Whether two outcomes of visits are the same, except for words. -/
inductive AkinOutcomes : Except Halt Visit → Except Halt Visit → Prop
  | halts (halt : Halt) : AkinOutcomes (.error halt) (.error halt)
  | visits {v v' : Visit} (akin : v.Akin v') : AkinOutcomes (.ok v) (.ok v')

theorem AkinOutcomes.refl (o : Except Halt Visit) : AkinOutcomes o o := by
  cases o with
  | error halt => exact .halts halt
  | ok v => exact .visits (.refl v)

/-- Warnings have no part in what is planned. -/
theorem akin_carriedOut {i : Itinerary} (sober : i.planner.Sober) (c : Scene) (slot : Endpoint)
    (a : Agreed) (warnings : List String) (redirected : Bool) :
    AkinOutcomes (carriedOut c i slot a redirected)
      (carriedOut c i slot { a with warnings } redirected) := by
  have hplan : i.planner.plan { a with warnings } = i.planner.plan a := sober _ _ rfl rfl
  unfold carriedOut
  rw [hplan]
  cases i.planner.plan a with
  | error halt => exact .halts halt
  | ok plan => cases plan <;> exact .visits ⟨rfl, rfl, rfl, .inl rfl⟩

/-- Where the endpoint's own URL is not heard of, that is what it is judged
by. -/
theorem judge_unheard {P : Soundings} {mode : Mode} {desired : Nat} {e : Endpoint}
    {fault : Introspection.ProbeFault} (h : P e.url = .error fault) :
    judge mode desired e P = Version.withoutProbe mode e desired fault := by
  unfold judge
  rw [h]

/-- Where the probe failed, the words are all that may differ. -/
theorem akin_unheard {i : Itinerary} (sober : i.planner.Sober) (c : Scene) (slot : Endpoint)
    {f f' : TransportFailure} (hkind : f.kind = f'.kind) :
    AkinOutcomes
      (resolved c i slot
        (Version.withoutProbe i.terms.mode slot i.desired (.transport f)))
      (resolved c i slot
        (Version.withoutProbe i.terms.mode slot i.desired (.transport f'))) := by
  cases i.terms.mode with
  | strict => exact .visits ⟨rfl, rfl, rfl, .inr ⟨f, f', rfl, rfl, hkind⟩⟩
  | relaxed => exact akin_carriedOut sober c slot _ _ false

/-- **What a visit comes to does not depend on who was probed first**, except
for the words for a failure. -/
theorem visitIn_akin {i : Itinerary} (sober : i.planner.Sober) (c : Scene)
    (slot a b : Endpoint) : AkinOutcomes (visitIn c i slot a) (visitIn c i slot b) := by
  have hconcur : ∀ url, Concur (c.heardBy a url) (c.heardBy b url) := fun url =>
    Scene.sounding_concur rfl
  unfold visitIn
  rcases Scene.sounding_cases (c := c) (a := { a with url := slot.url })
    (e := { b with url := slot.url }) rfl with h | ⟨-, -, f, f', ha, hb, hkind⟩
  · have hown : c.heardBy a slot.url = c.heardBy b slot.url := h
    rw [hown, resolved_congr sober
      (Version.judge_concur (congrArg gist hown) fun url _ => hconcur url)]
    exact .refl _
  · split
    · have hskipped : ∀ {e : Endpoint} {f : TransportFailure},
          c.sounding { e with url := slot.url } = .error (.transport f) →
          probedVisit slot (c.heardBy e slot.url) = skippedVisit slot (.transport f) := by
        intro e f he
        show probedVisit slot (c.sounding { e with url := slot.url }) = _
        rw [he]
        rfl
      rw [hskipped ha, hskipped hb]
      exact .visits ⟨rfl, rfl, rfl, .inr ⟨f, f', rfl, rfl, hkind⟩⟩
    · rw [judge_unheard ha, judge_unheard hb]
      exact akin_unheard sober c slot hkind

/-- **Where the words have no name in them, or the same one, the visits are the
same.** -/
theorem visitIn_eq {i : Itinerary} (sober : i.planner.Sober) {c : Scene} {slot a b : Endpoint}
    (h : ¬(c.Names slot.url ∧ a.nickname ≠ b.nickname)) :
    visitIn c i slot a = visitIn c i slot b := by
  have hown : c.heardBy a slot.url = c.heardBy b slot.url := by
    rcases Scene.sounding_cases (c := c) (a := { a with url := slot.url })
      (e := { b with url := slot.url }) rfl with hsame | ⟨names, hname, -⟩
    · exact hsame
    · exact absurd ⟨names, hname⟩ h
  unfold visitIn
  rw [hown, resolved_congr sober (Version.judge_concur (congrArg gist hown) fun url _ =>
    Scene.sounding_concur rfl)]

/-! ## §3. Two scenes. -/

/-- What a slot looks at in a scene beside its own URL. -/
def detourIn? (c : Scene) (desired : Nat) (slot : Endpoint) : Option String :=
  detour? slot desired (c.sounding slot)

theorem detour?_heardBy (c : Scene) (desired : Nat) (slot e : Endpoint) :
    detour? slot desired (c.heardBy e slot.url) = detourIn? c desired slot := by
  have hconcur : Concur (c.heardBy e slot.url) (c.sounding slot) := Scene.sounding_concur rfl
  exact hconcur.detour?_eq slot desired

theorem respond_local {c c' : Scene} {e : Endpoint} (agrees : c.AgreesAt c' e.url) (timeout : Nat)
    (p : Prepared) : respond c timeout e p = respond c' timeout e p := by
  unfold respond
  rw [agrees.replies]

theorem carriedOut_local {c c' : Scene} (i : Itinerary) (slot : Endpoint) {a : Agreed}
    (agrees : c.AgreesAt c' a.endpoint.url) (redirected : Bool) :
    carriedOut c i slot a redirected = carriedOut c' i slot a redirected := by
  unfold carriedOut
  cases i.planner.plan a with
  | error halt => rfl
  | ok plan =>
      cases plan with
      | unavailable reason => rfl
      | call prepared warnings => dsimp only; rw [respond_local agrees]

/-- **What a visit comes to is told by what is about the slot's own URL** and
the one that is looked at beside it. -/
theorem visitIn_local {c c' : Scene} (parallel : c.Parallel c') {i : Itinerary}
    {slot : Endpoint} (own : c.AgreesAt c' slot.url)
    (there : ∀ url, detourIn? c i.desired slot = some url → c.AgreesAt c' url) (e : Endpoint) :
    visitIn c i slot e = visitIn c' i slot e := by
  have hown : c.heardBy e slot.url = c'.heardBy e slot.url :=
    Scene.sounding_local parallel (e := { e with url := slot.url }) own
  have hjudge : judge i.terms.mode i.desired slot (c.heardBy e)
      = judge i.terms.mode i.desired slot (c'.heardBy e) := by
    refine Version.judge_congr hown fun url hurl => ?_
    rw [detour?_heardBy] at hurl
    exact Scene.sounding_local parallel (e := { e with url }) (there url hurl)
  have hreaches := Version.judge_reaches i.terms.mode i.desired slot (c.heardBy e)
  rw [detour?_heardBy] at hreaches
  unfold visitIn
  rw [← hown, ← hjudge]
  split
  · rfl
  · cases hr : judge i.terms.mode i.desired slot (c.heardBy e) with
    | skip reason => rfl
    | use a =>
        rw [hr] at hreaches
        have hurl : a.endpoint.url = slot.url := hreaches
        exact carriedOut_local i slot (hurl ▸ own) false
    | redirect a =>
        rw [hr] at hreaches
        exact carriedOut_local i slot (there a.endpoint.url hreaches) true

end Call

/-! ## §4. Visits in a survey. -/

namespace Survey

open Call

variable {v : Survey} {w : World} {i : Itinerary} {s : Session}

theorem meets_invoke (steady : w.Steady v.scene) (hs : v.Holds s) (timeout : Nat) (e : Endpoint)
    (p : Prepared) :
    (invoke w timeout e p).Meets v.conduct s fun _ _ r => r = respond v.scene timeout e p := by
  simp only [invoke, Errand.bind_eq, Errand.liftM_eq]
  refine meets_stopped steady hs fun t ht => ?_
  refine (meets_send steady (ht.2 hs) ⟨e.url, p.method, p.arguments, timeout⟩).bind
    fun u own reply _ hsent => ?_
  obtain ⟨-, hreply, -⟩ := hsent
  have hreply' : reply = v.scene.replies e.url p.method p.arguments := hreply
  unfold respond
  rw [← hreply']
  cases reply <;> exact fun _ _ => rfl

theorem meets_carryOut (steady : w.Steady v.scene) (hs : v.Holds s) (slot : Endpoint)
    (a : Agreed) (redirected : Bool) :
    (carryOut w i slot a redirected).Meets v.conduct s fun _ _ o =>
      o = carriedOut v.scene i slot a redirected := by
  unfold carryOut carriedOut
  cases i.planner.plan a with
  | error halt => exact fun _ _ => rfl
  | ok plan =>
      cases plan with
      | unavailable reason => exact fun _ _ => rfl
      | call prepared warnings =>
          refine (meets_invoke steady hs i.timeout a.endpoint prepared).bind
            fun t own response _ hresponse => ?_
          subst hresponse
          exact fun _ _ => rfl

/-- **The visit of a slot that a version is negotiated with.** -/
theorem meets_visit (steady : w.Steady v.scene) (terms : v.GoesBy i.terms) (hs : v.Holds s)
    (sober : i.planner.Sober) (negotiates : i.planner.answersFromProbe = false)
    {slot : Endpoint} (opens : v.Opens i.desired slot) :
    (visit w i slot).Meets v.conduct s fun _ _ o =>
      ∃ a, v.Asks a ∧ a.url = slot.url ∧ o = visitIn v.scene i slot a := by
  simp only [visit, Errand.bind_eq, Errand.liftM_eq]
  refine meets_stopped steady hs fun t ht => ?_
  rw [if_neg Bool.false_ne_true, negotiates, if_neg Bool.false_ne_true]
  refine (meets_resolve steady terms (ht.2 hs) opens).bind fun u own r hu hr => ?_
  obtain ⟨a, asks, hurl, hgist⟩ := hr
  have hvisit : visitIn v.scene i slot a = resolved v.scene i slot r := by
    unfold visitIn
    rw [negotiates, if_neg Bool.false_ne_true]
    exact (resolved_congr sober hgist).symm
  have hheld : v.Holds u := (v.conduct.trans ht hu).2 hs
  cases r with
  | skip reason => exact fun _ _ => ⟨a, asks, hurl, hvisit.symm⟩
  | use agreed =>
      refine (meets_carryOut steady hheld slot agreed false).imp fun _ _ o _ ho => ?_
      exact ⟨a, asks, hurl, ho.trans hvisit.symm⟩
  | redirect agreed =>
      refine (meets_carryOut steady hheld slot agreed true).imp fun _ _ o _ ho => ?_
      exact ⟨a, asks, hurl, ho.trans hvisit.symm⟩

/-- **The visit of a slot that answers for itself.** -/
theorem meets_visit_answered (steady : w.Steady v.scene) (terms : v.GoesBy i.terms)
    (hs : v.Holds s) (answers : i.planner.answersFromProbe = true) {slot : Endpoint}
    (asks : v.Asks slot) :
    (visit w i slot).Meets v.conduct s fun t own outcome =>
      own.Sublist [probeRequest v.scene.policy slot] ∧
        ∃ o, outcome = .ok (probedVisit slot o) ∧ v.Told t slot.url own o := by
  simp only [visit, Errand.bind_eq, Errand.liftM_eq]
  refine meets_stopped steady hs fun t ht => ?_
  rw [if_neg Bool.false_ne_true, answers, if_pos rfl]
  refine (meets_probeOnce steady terms (ht.2 hs) (.inl asks)).bind fun u own o _ htold => ?_
  obtain ⟨sent, told⟩ := htold
  intro x hx
  show (own ++ []).Sublist _ ∧ _
  rw [List.append_nil]
  exact ⟨sent, o, rfl, told.later hx.1⟩

end Survey

end Federation
