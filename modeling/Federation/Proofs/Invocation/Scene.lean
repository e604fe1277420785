/-
  Federation.Proofs.Invocation.Scene
  ──────────────────────────────────
  **AN INVOCATION WHERE NOTHING CHANGES.**

  Where replies depend on nothing but the request, the clock stands still and
  no signal comes, an undertaking is told by the scene that it finds: the
  version that the fleet adopts, and for each slot the visit that the scene
  makes of it.  Neither the schedule of the workers nor what they leave in
  the store has a part in it.  What is left open is in whose words a failure
  at a slot's own URL is told (`Namer`): it may be another aggregate's, where
  that one is sent to the URL and the fleet was not asked beforehand.

  Main results:
    * `goRound_staged` — every visit of a round, or the crash of one;
    * `undertake_staged` — an undertaking, stage by stage.
-/
import Federation.Proofs.Call.Survey
import Federation.Proofs.Invocation.Causes
import Federation.Proofs.Version.Reconciliation
import Mathlib.Data.List.Nodup

namespace Federation

open Answer (Report)
open Call (Visit detourIn? probedVisit settleVisits skippedVisit visitIn)
open Introspection (Probed ProbeOutcome Scene gist isAborted probeRequest)
open Version (Soundings detour?)

namespace Engine

/-! ## §1. The scene of an invocation. -/

/-- **Whether a scene is the one that an invocation finds** in a session. -/
structure Finds (g : Engine) (c : Scene) (s : Session) : Prop where
  policy : g.settings.terms.probing = c.policy
  force : g.settings.terms.forceRefresh = c.force
  kept : ∀ url, s.store.records.get? url = c.kept url
  calm : s.aborted = false

/-- Whether negotiation with an aggregate goes on to a URL that is not its
own. -/
def LeadsTo (c : Scene) (i : Invocation) (desired : Nat) (e : Endpoint) (url : String) : Prop :=
  i.operation ≠ .getVersion ∧ detourIn? c desired e = some url

/-- The survey of a round, in which some URLs are known from the vote. -/
def survey (c : Scene) (i : Invocation) (origin : Session) (endpoints : List Endpoint)
    (desired : Nat) (Known : String → Prop) : Survey where
  scene := c
  origin := origin
  Asks e := e ∈ endpoints ∨ ∃ other ∈ endpoints, LeadsTo c i desired other e.url ∧
    e.nickname = other.nickname ∧ ¬Known e.url
  Known := Known

section

variable {w : World} {g : Engine} {i : Invocation} {c : Scene} {s : Session}
  {endpoints : List Endpoint} {credentials : List Credential} {version : Nat}

/-- A survey begins where nothing is known. -/
theorem Finds.holds (finds : g.Finds c s) (fresh : s.memo = []) (Asks : Endpoint → Prop) :
    (⟨c, s, Asks, fun _ => False⟩ : Survey).Holds s where
  calm := finds.calm
  log := List.prefix_rfl
  untouched url _ := by
    rw [finds.kept]
    rfl
  kept url p hstored := by
    rw [finds.kept]
    exact hstored
  alike e p hfound := by
    rw [finds.kept] at hfound
    have hstored : c.stored? e.url = some p := hfound
    show gist (.ok p) = gist (c.sounding e)
    rw [Scene.sounding_of_stored hstored]
  memo url o hmem := by
    rw [fresh] at hmem
    cases hmem
  known _ hknown := hknown.elim

/-- The formats that are advertised do not depend on when a snapshot was
fetched. -/
theorem sober_planner (g : Engine) (i : Invocation) (credentials : List Credential)
    (version : Nat) : (g.planner i credentials version).Sober := by
  have hformats : ∀ a : Version.Agreed, advertisedFormats a
      = advertisedFormats { a with probed := a.probed.map Probed.gist } := by
    intro a
    unfold advertisedFormats
    cases a.probed <;> rfl
  intro a b hendpoint hprobed
  show g.planAt i credentials (a.endpoint.version.getD version) (advertisedFormats a)
    = g.planAt i credentials (b.endpoint.version.getD version) (advertisedFormats b)
  rw [hformats a, hformats b, hendpoint, hprobed]
  rfl

/-- A visit is told under the slot that it is for, unless it crashes. -/
theorem visitIn_cases (c : Scene) (g : Engine) (i : Invocation) (credentials : List Credential)
    (version : Nat) (slot e : Endpoint) :
    visitIn c (g.itinerary i credentials version) slot e = .error .crash ∨
      ∃ v, visitIn c (g.itinerary i credentials version) slot e = .ok v ∧ v.slot = slot := by
  have hcarried : ∀ a redirected,
      Call.carriedOut c (g.itinerary i credentials version) slot a redirected = .error .crash ∨
        ∃ v, Call.carriedOut c (g.itinerary i credentials version) slot a redirected = .ok v ∧
          v.slot = slot := by
    intro a redirected
    unfold Call.carriedOut
    cases hplan : (g.itinerary i credentials version).planner.plan a with
    | error halt =>
        obtain rfl := planAt_error hplan
        exact .inl rfl
    | ok plan => cases plan <;> exact .inr ⟨_, rfl, rfl⟩
  unfold visitIn
  split
  · cases c.heardBy e slot.url <;> exact .inr ⟨_, rfl, rfl⟩
  · cases Version.judge (g.itinerary i credentials version).terms.mode
        (g.itinerary i credentials version).desired slot (c.heardBy e) with
    | skip reason => exact .inr ⟨_, rfl, rfl⟩
    | use a => exact hcarried a false
    | redirect a => exact hcarried a true

/-- Whoever is heard in place of a slot, its visit crashes or it does not. -/
theorem visitIn_eq_crash (g : Engine) (i : Invocation) (credentials : List Credential)
    (version : Nat) {slot a : Endpoint} (b : Endpoint)
    (h : visitIn c (g.itinerary i credentials version) slot a = .error .crash) :
    visitIn c (g.itinerary i credentials version) slot b = .error .crash := by
  have sober : (g.itinerary i credentials version).planner.Sober :=
    sober_planner g i credentials version
  have hakin := Call.visitIn_akin sober c slot a b
  rw [h] at hakin
  generalize visitIn c (g.itinerary i credentials version) slot b = other at hakin
  cases hakin with
  | halts => rfl

theorem answersFromProbe_iff : (g.itinerary i credentials version).planner.answersFromProbe = true
    ↔ i.operation = .getVersion := decide_eq_true_iff

end

/-! ## §2. The round. -/

theorem nodup_urls {endpoints : List Endpoint}
    (apart : endpoints.Pairwise fun a b => a.url ≠ b.url) : (endpoints.map (·.url)).Nodup :=
  List.pairwise_map.2 apart

/-- Of endpoints with different URLs each is told by its own. -/
theorem eq_of_url {endpoints : List Endpoint}
    (apart : endpoints.Pairwise fun a b => a.url ≠ b.url) {a b : Endpoint} (ha : a ∈ endpoints)
    (hb : b ∈ endpoints) (hurl : a.url = b.url) : a = b :=
  List.inj_on_of_nodup_map (nodup_urls apart) ha hb hurl

/-- Where each asks at its own URL at most, nobody else asks there. -/
theorem unasked_of_silent {β : Type} {p : Introspection.ProbePolicy} {endpoints : List Endpoint}
    {parts : List (List Request × β)} (apart : endpoints.Pairwise fun a b => a.url ≠ b.url)
    (h : List.Forall₂ (fun slot part => part.1.Sublist [probeRequest p slot]) endpoints parts) :
    List.Forall₂ (fun slot part => part.1 = [] →
      ∀ r ∈ parts.flatMap Prod.fst, r.url ≠ slot.url) endpoints parts := by
  obtain ⟨hlength, hparts⟩ := List.forall₂_iff_get.1 h
  refine List.forall₂_iff_get.2 ⟨hlength, fun n hn hn' silent r hr hurl => ?_⟩
  obtain ⟨part, hpart, hr⟩ := List.mem_flatMap.1 hr
  obtain ⟨m, hm, rfl⟩ := List.getElem_of_mem hpart
  have hm' : m < endpoints.length := hlength ▸ hm
  have hprobe : r = probeRequest p endpoints[m] :=
    List.mem_singleton.1 ((hparts m hm' hm).subset hr)
  have hsame : endpoints[m].url = endpoints[n].url := by
    rw [hprobe] at hurl
    exact hurl
  have hdifferent := List.pairwise_iff_getElem.1 apart
  obtain hmn | rfl | hnm := Nat.lt_trichotomy m n
  · exact absurd hsame (hdifferent m n hm' hn hmn)
  · have hsilent : parts[m].1 = [] := silent
    rw [hsilent] at hr
    cases hr
  · exact absurd hsame.symm (hdifferent n m hn hm' hnm)

section

variable {w : World} {g : Engine} {i : Invocation} {c : Scene} {s : Session}
  {endpoints : List Endpoint} {credentials : List Credential} {version : Nat}
  {Known : String → Prop}

/-- Whoever is visited in a round may be probed, and so may wherever that
leads. -/
theorem opens_survey (c : Scene) (origin : Session) (Known : String → Prop)
    (negotiates : i.operation ≠ .getVersion) {slot : Endpoint} (hslot : slot ∈ endpoints) :
    (survey c i origin endpoints version Known).Opens version slot := by
  refine ⟨.inl (.inl hslot), fun url hurl => ?_⟩
  by_cases hknown : Known url
  · exact .inr hknown
  · exact .inl (.inr ⟨slot, hslot, ⟨negotiates, hurl⟩, rfl, hknown⟩)

/-- Who may be heard in place of a slot: itself, or whoever is sent to its URL
before the fleet was asked. -/
inductive Namer (c : Scene) (i : Invocation) (endpoints : List Endpoint) (desired : Nat)
    (slot : Endpoint) : Endpoint → Prop
  | itself : Namer c i endpoints desired slot slot
  | other {e : Endpoint} (unasked : ¬Votes i endpoints) (hmem : e ∈ endpoints)
      (leads : LeadsTo c i desired e slot.url) : Namer c i endpoints desired slot e

/-- **Whoever asks at a slot's URL** says the same as one who may be heard in
its place. -/
theorem namer_of_asks (apart : endpoints.Pairwise fun a b => a.url ≠ b.url) {slot a : Endpoint}
    (hslot : slot ∈ endpoints) (known : Votes i endpoints → Known slot.url)
    (asks : (survey c i s endpoints version Known).Asks a) (hurl : a.url = slot.url)
    (it : Call.Itinerary) :
    ∃ e, Namer c i endpoints version slot e ∧ visitIn c it slot a = visitIn c it slot e := by
  rcases asks with ha | ⟨other, hother, leads, hname, unknown⟩
  · obtain rfl := eq_of_url apart ha hslot hurl
    exact ⟨_, .itself, rfl⟩
  · have unasked : ¬Votes i endpoints := fun votes => unknown (hurl ▸ known votes)
    exact ⟨other, .other unasked hother (hurl ▸ leads), Call.visitIn_congr c _ _ hname⟩

/-- **What the visits of a round come to in a scene**, of those slots that are
turned to before nobody is left to go on. -/
def Attended (g : Engine) (c : Scene) (i : Invocation) (endpoints : List Endpoint)
    (credentials : List Credential) (version : Nat) (outcomes : List (Except Halt Visit)) : Prop :=
  ∃ seen, seen <+: endpoints ∧
    List.Forall₂ (fun slot o => ∃ e, Namer c i endpoints version slot e ∧
      o = visitIn c (g.itinerary i credentials version) slot e) seen outcomes ∧
    ((∀ o ∈ outcomes, isCrash o = false) → seen = endpoints)

/-- **The round of an operation that a version is negotiated for.**  Once the
fleet was asked, all its URLs are known. -/
theorem attended_negotiated (steady : w.Steady c) (finds : g.Finds c s)
    (apart : endpoints.Pairwise fun a b => a.url ≠ b.url) {t : Session}
    (holds : (survey c i s endpoints version Known).Holds t)
    (known : Votes i endpoints → ∀ e ∈ endpoints, Known e.url)
    (negotiates : i.operation ≠ .getVersion) (credentials : List Credential) :
    Attended g c i endpoints credentials version
      (visitAll w g i endpoints credentials version t).1 := by
  have hanswers : (g.itinerary i credentials version).planner.answersFromProbe = false :=
    decide_eq_false negotiates
  have hround : (survey c i s endpoints version Known).conduct.allows t
      { t with rounds := t.rounds + 1 } :=
    ⟨List.prefix_rfl, fun h => h.later List.prefix_rfl rfl rfl rfl⟩
  obtain ⟨seen, hseen, hrun, hall⟩ := forEachUntil_eq w g.settings.workerLimit isCrash
    (Call.visit w (g.itinerary i credentials version)) endpoints t
  obtain ⟨-, parts, hresults, hparts, -⟩ :=
    forEach_fulfils_of w g.settings.workerLimit
      (Call.visit w (g.itinerary i credentials version)) seen ⟨hround, rfl⟩
      fun slot hslot u hu => Survey.meets_visit steady ⟨finds.policy, finds.force⟩ (hu.2 holds)
        (sober_planner g i credentials version) hanswers
        (opens_survey c s Known negotiates (hseen.subset hslot))
  refine ⟨seen, hseen, ?_, hall⟩
  show List.Forall₂ _ seen (Action.forEachUntil w g.settings.workerLimit isCrash _ endpoints t).1
  rw [hrun, hresults, List.forall₂_map_right_iff]
  refine ((List.forall₂_and_left _ _).2 ⟨fun _ h => hseen.subset h, hparts⟩).imp ?_
  rintro slot part ⟨hslot, a, asks, hurl, ho⟩
  obtain ⟨e, namer, hsame⟩ :=
    namer_of_asks apart hslot (known · slot hslot) asks hurl (g.itinerary i credentials version)
  exact ⟨e, namer, ho.trans hsame⟩

/-- **The round of an operation that each aggregate answers for itself.**  Where
all URLs are different, none finds what another one left. -/
theorem attended_answered (steady : w.Steady c) (finds : g.Finds c s) (fresh : s.memo = [])
    (apart : endpoints.Pairwise fun a b => a.url ≠ b.url) (answers : i.operation = .getVersion)
    (credentials : List Credential) (version : Nat) :
    Attended g c i endpoints credentials version
      (visitAll w g i endpoints credentials version s).1 := by
  have hanswers : (g.itinerary i credentials version).planner.answersFromProbe = true :=
    answersFromProbe_iff.2 answers
  have holds : (survey c i s endpoints version fun _ => False).Holds s := finds.holds fresh _
  have hround : (survey c i s endpoints version fun _ => False).conduct.allows s
      { s with rounds := s.rounds + 1 } :=
    ⟨List.prefix_rfl, fun h => h.later List.prefix_rfl rfl rfl rfl⟩
  obtain ⟨seen, hseen, hrun, hall⟩ := forEachUntil_eq w g.settings.workerLimit isCrash
    (Call.visit w (g.itinerary i credentials version)) endpoints s
  obtain ⟨-, parts, hresults, hparts, sent, hlog, hperm⟩ :=
    forEach_fulfils_of w g.settings.workerLimit
      (Call.visit w (g.itinerary i credentials version)) seen ⟨hround, rfl⟩
      fun slot hslot u hu => Survey.meets_visit_answered steady ⟨finds.policy, finds.force⟩
        (hu.2 holds) hanswers (.inl (hseen.subset hslot))
  refine ⟨seen, hseen, ?_, hall⟩
  show List.Forall₂ _ seen (Action.forEachUntil w g.settings.workerLimit isCrash _ endpoints s).1
  rw [hrun, hresults, List.forall₂_map_right_iff]
  have hsilent := unasked_of_silent (apart.sublist hseen.sublist)
    (hparts.imp fun slot part h => h.1)
  generalize Action.forEach w g.settings.workerLimit
    (Call.visit w (g.itinerary i credentials version)) seen s = after at *
  obtain ⟨hlength, hvisits⟩ := List.forall₂_iff_get.1 hparts
  refine List.forall₂_iff_get.2 ⟨hlength, fun n hn hn' => ⟨_, .itself, ?_⟩⟩
  obtain ⟨-, o, houtcome, a, asks, hurl, yields⟩ := hvisits n hn hn'
  have ha : a ∈ endpoints := by
    rcases asks with ha | ⟨other, -, leads, -⟩
    · exact ha
    · exact absurd answers leads.1
  obtain rfl := eq_of_url apart ha (hseen.subset (List.get_mem seen ⟨n, hn⟩)) hurl
  have hvisit : visitIn c (g.itinerary i credentials version) (seen.get ⟨n, hn⟩)
      (seen.get ⟨n, hn⟩) = .ok (probedVisit (seen.get ⟨n, hn⟩) (c.sounding (seen.get ⟨n, hn⟩))) :=
    if_pos hanswers
  rw [hvisit, houtcome]
  cases yields with
  | itself => rfl
  | left silent asked same =>
      -- Somebody asked at this URL, but it was not this slot, and no other does.
      obtain ⟨sent', hsent', r, hr, hr', -⟩ := asked
      obtain rfl := List.append_cancel_left (hlog.symm.trans hsent')
      exact absurd hr' ((List.forall₂_iff_get.1 hsilent).2 n hn hn' silent r (hperm.subset hr))

/-! ## §3. The vote. -/

/-- **What the fleet adopts in a scene.** -/
def adoptIn (g : Engine) (c : Scene) (i : Invocation) (endpoints : List Endpoint) :
    Except InvocationFault (Nat × Option String) :=
  if 1 < endpoints.length ∧ i.operation.reconcilesFleet = true then
    (Version.decideFrom g.settings.mode (g.requested i).1 (g.requested i).2
      (endpoints.map fun e => (e, c.sounding e))).map fun d => (d.version, d.message)
  else .ok ((g.requested i).1, none)

theorem adoptIn_of_not_votes (g : Engine) (c : Scene) {i : Invocation}
    {endpoints : List Endpoint} (h : ¬Votes i endpoints) :
    g.adoptIn c i endpoints = .ok ((g.requested i).1, none) := if_neg h

/-- What is known once the fleet was asked. -/
def KnownOf (endpoints : List Endpoint) (url : String) : Prop := ∃ e ∈ endpoints, e.url = url

/-- **To ask the fleet yields what each aggregate sounds like**, and then all
their URLs are known. -/
theorem canvass_in (steady : w.Steady c) (finds : g.Finds c s) (fresh : s.memo = [])
    (apart : endpoints.Pairwise fun a b => a.url ≠ b.url) (desired : Nat) :
    List.Forall₂ (fun e o => gist o = gist (c.sounding e)) endpoints
        (canvass w g endpoints s).1 ∧
      (survey c i s endpoints desired (KnownOf endpoints)).Holds (canvass w g endpoints s).2 := by
  let v : Survey := ⟨c, s, (· ∈ endpoints), fun _ => False⟩
  have holds : v.Holds s := finds.holds fresh _
  have hround : v.conduct.allows s { s with rounds := s.rounds + 1 } :=
    ⟨List.prefix_rfl, fun h => h.later List.prefix_rfl rfl rfl rfl⟩
  obtain ⟨hallows, parts, hresults, hparts, -⟩ :=
    forEach_fulfils_of w g.settings.workerLimit (Version.probeOnce w g.settings.terms) endpoints
      ⟨hround, rfl⟩ fun e he u hu => Survey.meets_probeOnce (v := v) steady
        ⟨finds.policy, finds.force⟩ (hu.2 holds) (.inl he)
  have hgists : List.Forall₂ (fun e o => gist o = gist (c.sounding e)) endpoints
      (canvass w g endpoints s).1 := by
    unfold canvass
    rw [hresults, List.forall₂_map_right_iff]
    refine List.forall₂_iff_get.2 ⟨hparts.length_eq, fun n hn hn' => ?_⟩
    obtain ⟨-, a, ha, hurl, yields⟩ := (List.forall₂_iff_get.1 hparts).2 n hn hn'
    obtain rfl := eq_of_url apart ha (List.get_mem endpoints ⟨n, hn⟩) hurl
    exact yields.gist_eq
  -- Nothing was called off, so whatever was probed is known.
  have hsettled : ∀ o ∈ (canvass w g endpoints s).1, isAborted o = false := fun o ho => by
    obtain ⟨e, -, hgist⟩ := exists_left_of_mem hgists ho
    rw [← Introspection.isAborted_gist, hgist, Introspection.isAborted_gist]
    exact c.sounding_not_aborted e
  refine ⟨hgists, (hallows.2 holds).widen (fun _ he => .inl he) ?_⟩
  rintro url ⟨e, he, rfl⟩
  exact Version.knows_iff.1 (Version.knows_of_settled w g.settings.terms hsettled e he)

/-- What a slot comes to in a scene, in somebody's words. -/
def Staging (g : Engine) (c : Scene) (i : Invocation) (endpoints : List Endpoint)
    (credentials : List Credential) (version : Nat) (slot : Endpoint) (v : Visit) : Prop :=
  ∃ e, Namer c i endpoints version slot e ∧
    visitIn c (g.itinerary i credentials version) slot e = .ok v

/-- **What a round comes to in a scene**: the visit of some slot crashes, or
each slot has its visit. -/
inductive Rounds (g : Engine) (c : Scene) (i : Invocation) (endpoints : List Endpoint)
    (credentials : List Credential) (version : Nat) : Except Halt (List Visit) → Prop
  | crashed {slot : Endpoint} (hmem : slot ∈ endpoints)
      (crash : visitIn c (g.itinerary i credentials version) slot slot = .error .crash) :
      Rounds g c i endpoints credentials version (.error .crash)
  | visited {visits : List Visit}
      (visited : List.Forall₂ (Staging g c i endpoints credentials version) endpoints visits) :
      Rounds g c i endpoints credentials version (.ok visits)

/-- Where no visit crashes, the outcomes are those of visits. -/
theorem staging_of_outcomes {slots : List Endpoint} {outcomes : List (Except Halt Visit)}
    (h : List.Forall₂ (fun slot o => ∃ e, Namer c i endpoints version slot e ∧
      o = visitIn c (g.itinerary i credentials version) slot e) slots outcomes)
    (whole : ∀ o ∈ outcomes, isCrash o = false) :
    ∃ visits, outcomes = visits.map .ok ∧
      List.Forall₂ (Staging g c i endpoints credentials version) slots visits := by
  induction h with
  | nil => exact ⟨[], rfl, .nil⟩
  | @cons slot o slots outcomes ho _ ih =>
      obtain ⟨e, namer, rfl⟩ := ho
      obtain ⟨visits, rfl, hvisits⟩ := ih fun o ho => whole o (List.mem_cons_of_mem _ ho)
      rcases visitIn_cases c g i credentials version slot e with hcrash | ⟨v, hv, -⟩
      · exact absurd hcrash (ne_crash (whole _ List.mem_cons_self))
      · exact ⟨v :: visits, by rw [hv]; rfl, .cons ⟨e, namer, hv⟩ hvisits⟩

/-- Where no slot is alone, the round is told by the visits. -/
theorem rounds_of_attended {outcomes : List (Except Halt Visit)} (several : 1 < endpoints.length)
    (h : Attended g c i endpoints credentials version outcomes) :
    Rounds g c i endpoints credentials version (settleVisits outcomes) := by
  obtain ⟨seen, hseen, houtcomes, hall⟩ := h
  by_cases crash : ∃ o ∈ outcomes, isCrash o = true
  · obtain ⟨o, ho, hcrash⟩ := crash
    rw [settleVisits_eq_crash_iff.2 ⟨o, ho, hcrash⟩]
    obtain ⟨slot, hslot, hvisit⟩ := exists_left_of_mem
      ((List.forall₂_and_left _ _).2 ⟨fun _ h => hseen.subset h, houtcomes⟩) ho
    obtain ⟨hmem, e, -, rfl⟩ := hvisit
    exact .crashed hmem (visitIn_eq_crash g i credentials version slot (isCrash_iff.1 hcrash))
  · have whole : ∀ o ∈ outcomes, isCrash o = false := fun o ho =>
      Bool.eq_false_iff.2 fun hcrash => crash ⟨o, ho, hcrash⟩
    obtain ⟨visits, rfl, hvisits⟩ := staging_of_outcomes houtcomes whole
    obtain rfl : seen = endpoints := hall whole
    have hlength : 2 ≤ visits.length := hvisits.length_eq ▸ several
    rw [settleVisits_ok, Call.settleLone_of_two hlength]
    exact .visited hvisits

/-- **Every visit of a round in a scene.** -/
theorem goRound_staged (steady : w.Steady c) (finds : g.Finds c s) (fresh : s.memo = [])
    (apart : endpoints.Pairwise fun a b => a.url ≠ b.url) (several : 1 < endpoints.length)
    (credentials : List Credential) {adopted : Nat × Option String} {t : Session}
    (agreed : adopt w g i endpoints s = (.ok adopted, t)) :
    Rounds g c i endpoints credentials adopted.1
      (goRound w g i endpoints credentials adopted.1 t).1 := by
  refine rounds_of_attended several ?_
  by_cases votes : Votes i endpoints
  · obtain ⟨-, holds⟩ := canvass_in (i := i) steady finds fresh apart adopted.1
    rw [adopt_of_votes w g votes] at agreed
    obtain ⟨-, rfl⟩ := Prod.mk.inj agreed
    exact attended_negotiated steady finds apart holds (fun _ e he => ⟨e, he, rfl⟩)
      (Operation.ne_getVersion_of_reconcilesFleet votes.2) credentials
  · rw [adopt_of_not_votes w g votes] at agreed
    obtain ⟨-, rfl⟩ := Prod.mk.inj agreed
    by_cases answers : i.operation = .getVersion
    · exact attended_answered steady finds fresh apart answers credentials adopted.1
    · have holds : (survey c i s endpoints adopted.1 fun _ => False).Holds s :=
        finds.holds fresh _
      exact attended_negotiated steady finds apart holds (fun h => absurd h votes) answers
        credentials

/-! ## §4. The undertaking. -/

/-- What an undertaking comes to once a version is adopted. -/
inductive Performed (g : Engine) (c : Scene) (i : Invocation) (endpoints : List Endpoint)
    (credentials : List Credential) (version : Nat) (message : Option String) :
    Except Halt Report → Prop
  | unfit {halt : Halt} (unfit : g.check i version = .error halt) :
      Performed g c i endpoints credentials version message (.error halt)
  | crashed {slot : Endpoint} (fit : g.check i version = .ok ()) (hmem : slot ∈ endpoints)
      (crash : visitIn c (g.itinerary i credentials version) slot slot = .error .crash) :
      Performed g c i endpoints credentials version message (.error .crash)
  | reported {visits : List Visit} (fit : g.check i version = .ok ())
      (visited : List.Forall₂ (Staging g c i endpoints credentials version) endpoints visits) :
      Performed g c i endpoints credentials version message
        (.ok (g.reportOn i version message visits))

/-- **What an undertaking comes to in a scene.** -/
inductive Staged (g : Engine) (c : Scene) (i : Invocation) (endpoints : List Endpoint)
    (credentials : List Credential) : Except Halt Report → Prop
  | undecided {fault : InvocationFault} (undecided : g.adoptIn c i endpoints = .error fault) :
      Staged g c i endpoints credentials (.error (.fault fault))
  | adopted {version : Nat} {message : Option String} {outcome : Except Halt Report}
      (adopted : g.adoptIn c i endpoints = .ok (version, message))
      (performed : Performed g c i endpoints credentials version message outcome) :
      Staged g c i endpoints credentials outcome

/-- **At one version the request fits for whomever it is meant, or for nobody**:
of two undertakings that return both end with one fault, or both report. -/
theorem Performed.both {c' : Scene} {others : List Endpoint} {message : Option String}
    {outcome outcome' : Except Halt Report}
    (h : Performed g c i endpoints credentials version message outcome)
    (h' : Performed g c' i others credentials version message outcome')
    (returns : outcome ≠ .error .crash) (returns' : outcome' ≠ .error .crash) :
    (∃ fault, outcome = .error (.fault fault) ∧ outcome' = .error (.fault fault)) ∨
      ∃ visits visits', outcome = .ok (g.reportOn i version message visits) ∧
        outcome' = .ok (g.reportOn i version message visits') ∧
        List.Forall₂ (Staging g c i endpoints credentials version) endpoints visits ∧
        List.Forall₂ (Staging g c' i others credentials version) others visits' := by
  cases h with
  | crashed _ _ _ => exact absurd rfl returns
  | @unfit halt unfit =>
      cases h' with
      | crashed fit _ _ => cases unfit.symm.trans fit
      | reported fit _ => cases unfit.symm.trans fit
      | unfit unfit' =>
          cases unfit.symm.trans unfit'
          cases halt with
          | crash => exact absurd rfl returns
          | fault fault => exact .inl ⟨fault, rfl, rfl⟩
  | reported fit visited =>
      cases h' with
      | crashed _ _ _ => exact absurd rfl returns'
      | unfit unfit => cases fit.symm.trans unfit
      | reported _ visited' => exact .inr ⟨_, _, rfl, rfl, visited, visited'⟩

/-- **When an undertaking crashes in a scene**: on the check of the request, or
on the visit of some slot. -/
theorem Performed.eq_crash_iff {message : Option String} {outcome : Except Halt Report}
    (h : Performed g c i endpoints credentials version message outcome) :
    outcome = .error .crash ↔ g.check i version = .error .crash ∨
      g.check i version = .ok () ∧ ∃ slot ∈ endpoints,
        visitIn c (g.itinerary i credentials version) slot slot = .error .crash := by
  cases h with
  | unfit unfit =>
      rw [unfit]
      simp
  | crashed fit hmem crash => exact ⟨fun _ => .inr ⟨fit, _, hmem, crash⟩, fun _ => rfl⟩
  | reported fit visited =>
      refine ⟨nofun, fun h => ?_⟩
      rcases h with unfit | ⟨-, slot, hslot, crash⟩
      · cases fit.symm.trans unfit
      · obtain ⟨v, -, e, -, hv⟩ := exists_left_of_mem visited.flip hslot
        cases hv.symm.trans (visitIn_eq_crash g i credentials version e crash)

theorem adopt_in (steady : w.Steady c) (finds : g.Finds c s) (fresh : s.memo = [])
    (apart : endpoints.Pairwise fun a b => a.url ≠ b.url) :
    (adopt w g i endpoints s).1 = (g.adoptIn c i endpoints).mapError .fault := by
  by_cases votes : Votes i endpoints
  · obtain ⟨hgists, -⟩ := canvass_in (i := i) steady finds fresh apart 0
    rw [adopt_of_votes w g votes]
    show (g.verdict i endpoints (canvass w g endpoints s).1).mapError Halt.fault = _
    unfold verdict adoptIn
    rw [Version.decideFrom_told _ _ _ hgists]
    exact congrArg (Except.mapError Halt.fault) (if_pos votes).symm
  · rw [adopt_of_not_votes w g votes, adoptIn_of_not_votes g c votes]
    rfl

/-- **An undertaking is told by the scene that it finds.** -/
theorem undertake_staged (steady : w.Steady c) (finds : g.Finds c s) (fresh : s.memo = [])
    (apart : endpoints.Pairwise fun a b => a.url ≠ b.url) (several : 1 < endpoints.length)
    (credentials : List Credential) :
    Staged g c i endpoints credentials
      (ExceptT.run (undertake w g i endpoints credentials) s).1 := by
  have hadopt := adopt_in (i := i) steady finds fresh apart
  rw [run_undertake]
  cases hagreed : adopt w g i endpoints s with
  | mk outcome t =>
  rw [hagreed] at hadopt
  cases hadopted : g.adoptIn c i endpoints with
  | error fault =>
      rw [hadopted] at hadopt
      obtain rfl : outcome = .error (.fault fault) := hadopt
      exact .undecided hadopted
  | ok adopted =>
      rw [hadopted] at hadopt
      obtain rfl : outcome = .ok adopted := hadopt
      obtain ⟨version, message⟩ := adopted
      refine .adopted hadopted ?_
      dsimp only
      cases hcheck : g.check i version with
      | error halt => exact .unfit hcheck
      | ok _ =>
          have hround := goRound_staged steady finds fresh apart several credentials hagreed
          dsimp only [Except.bind] at hround ⊢
          generalize (goRound w g i endpoints credentials version t).1 = round at hround
          cases hround with
          | crashed hmem crash => exact .crashed hcheck hmem crash
          | visited hvisits => exact .reported hcheck hvisits

end

/-! ## §5. The report. -/

/-- **Visits that are akin have outcomes that are.** -/
theorem akin_outcomeAt (g : Engine) (i : Invocation) (version : Nat) {v v' : Visit}
    (h : v.Akin v') : (g.outcomeAt i version v).Akin (g.outcomeAt i version v') :=
  Answer.akin_outcomeOf _ g.settings.mode version h

end Engine

end Federation
