/-
  Federation.Proofs.Version.Tally
  ───────────────────────────────
  **NEGOTIATION HONOURS THE COUNTS OF THE VOTE.**

  A fleet votes by what its aggregates say of themselves, and afterwards a
  version is negotiated with each of them.  Whoever speaks a version at its
  own URL is called at it, and whoever is called at it claims to speak it
  somewhere: so the number of those that are called lies between the two
  counts.  Between the two stand the aggregates whose advertised URL turns
  out not to serve the version.

  Both counts and all negotiations go by the same soundings.  What is known
  when the negotiations begin stays known alike while they go on
  (`steadfast`), although several of them may ask one further URL at the
  same time and come to different answers there.

  Main results:
    * `honours_judge` — what a judgement owes to the aggregate's own words;
    * `counts_honoured` — the counts, and how many are called.
-/
import Federation.Proofs.Version.Reconciliation

namespace Federation.Version

open Introspection (Probed ProbeOutcome isAborted)

/-! ## §1. One aggregate. -/

/-- Whether an aggregate is called after a resolution. -/
def Resolution.serves : Resolution → Bool
  | .use _ => true
  | .redirect _ => true
  | .skip _ => false

/-- **What a resolution owes to what the aggregate says of itself**: its
primary version is honoured, and no version is made up. -/
structure Honours (v : Nat) (own : ProbeOutcome) (r : Resolution) : Prop where
  kept : ∀ p, own = .ok p → p.snapshot.primary = v → r.serves = true
  backed : r.serves = true → ∃ p, own = .ok p ∧ p.snapshot.supports v = true

/-- A version with an advertised URL is a supported one. -/
theorem supports_of_advertised {p : Probed} {v : Nat} {url : String}
    (h : advertisedUrl? p v = some url) : p.snapshot.supports v = true := by
  unfold advertisedUrl? Introspection.Snapshot.urlFor? at h
  cases hurl : p.snapshot.others.get? v with
  | none =>
      rw [hurl] at h
      cases h
  | some advertised =>
      simp [Introspection.Snapshot.supports, Keyed.hasKey, hurl]

/-- So is one that is spoken at the aggregate's own URL. -/
theorem supports_of_speaks {e : Endpoint} {v : Nat} {p : Probed}
    (h : speaksAtOwnUrl e v p = true) : p.snapshot.supports v = true := by
  rcases speaksAtOwnUrl_iff.1 h with hprimary | hadvertised
  · simp [Introspection.Snapshot.supports, hprimary]
  · exact supports_of_advertised hadvertised

/-- **A strict judgement honours what the aggregate says of itself**, whatever
is found elsewhere. -/
theorem honours_judge (P : Soundings) (v : Nat) (e : Endpoint) :
    Honours v (P e.url) (judge .strict v e P) := by
  obtain ⟨verdict, hjudged, hverdict⟩ := judged P v e
  rw [hverdict]
  -- An aggregate with the primary version is used, so it is never silent.
  have loud : ∀ p, ¬speaksAtOwnUrl e v p = true → p.snapshot.primary ≠ v := by
    intro p silent
    exact (silent_iff.1 silent).1
  cases hjudged with
  | @unheard fault own =>
      have hskip : (withoutProbe .strict e v fault).serves = false := by
        rw [withoutProbe_strict]
        rfl
      refine ⟨fun p hp => ?_, fun h => ?_⟩
      · cases own.symm.trans hp
      · cases hskip.symm.trans h
  | here own speaks => exact ⟨fun _ _ _ => rfl, fun _ => ⟨_, own, supports_of_speaks speaks⟩⟩
  | calledOff own silent advertised there =>
      refine ⟨fun p hp hprimary => ?_, fun h => nomatch h⟩
      obtain rfl := Except.ok.inj (own.symm.trans hp)
      exact absurd hprimary (loud _ silent)
  | elsewhere own silent advertised there confirmed =>
      exact ⟨fun _ _ _ => rfl, fun _ => ⟨_, own, supports_of_advertised advertised⟩⟩
  | nowhere own silent unconfirmed =>
      refine ⟨fun p hp hprimary => ?_, fun h => nomatch h⟩
      obtain rfl := Except.ok.inj (own.symm.trans hp)
      exact absurd hprimary (loud _ silent)

/-! ## §2. A fleet. -/

/-- Whether an aggregate answered and counts. -/
def tallied (counts : Speaker → Bool) : ProbeOutcome → Bool
  | .ok p => counts (Speaker.ofSnapshot p.snapshot)
  | .error _ => false

/-- Of how many of a fleet something holds, counted by their probes. -/
theorem countP_speakers (counts : Speaker → Bool) (probes : Probes) :
    (speakers probes).countP counts = probes.countP fun probe => tallied counts probe.2 := by
  unfold speakers
  rw [List.countP_filterMap]
  congr 1
  funext probe
  obtain ⟨e, o⟩ := probe
  cases o <;> rfl

/-- Where each that is counted has a counterpart that is counted, there are
at least as many counterparts. -/
theorem countP_le_of_forall₂ {α β : Type} {p : α → Bool} {q : β → Bool} {as : List α} {bs : List β}
    (h : List.Forall₂ (fun a b => p a = true → q b = true) as bs) : as.countP p ≤ bs.countP q := by
  induction h with
  | nil => exact Nat.le_refl 0
  | @cons a b as bs hab _ ih =>
      rw [List.countP_cons, List.countP_cons]
      cases hp : p a with
      | false => simp; omega
      | true => simp [hab hp]; omega

/-- **Where each resolution honours a probe, their number lies between the
counts.** -/
theorem counts_of_honours {v : Nat} {probes : Probes} {rs : List Resolution}
    (h : List.Forall₂ (fun probe r => Honours v probe.2 r) probes rs) :
    live (speakers probes) v ≤ rs.countP Resolution.serves ∧
      rs.countP Resolution.serves ≤ anywhere (speakers probes) v := by
  unfold live anywhere
  rw [countP_speakers, countP_speakers]
  constructor
  · -- Nobody is turned away at its own primary version.
    refine countP_le_of_forall₂ (h.imp fun probe r hhonours hlive => ?_)
    cases hprobe : probe.2 with
    | error fault => simp [tallied, hprobe] at hlive
    | ok p =>
        simp only [tallied, hprobe, Speaker.ofSnapshot, beq_iff_eq] at hlive
        exact hhonours.kept p hprobe hlive
  · -- Nobody is called at a version that it does not claim.
    refine countP_le_of_forall₂ (h.flip.imp fun r probe hhonours hserves => ?_)
    obtain ⟨p, hprobe, hsupports⟩ := hhonours.backed hserves
    have hmem := (p.snapshot.supports_iff_mem v).1 hsupports
    simpa [tallied, hprobe, Speaker.ofSnapshot] using hmem

/-! ## §3. What stays known. -/

/-- What matters while versions are negotiated: what was known at the start
is known alike. -/
def steadfast (origin : Session) : Conduct Session Unit where
  log _ := []
  allows s t := Keeps origin s → Keeps origin t
  refl _ := id
  trans h k := k ∘ h

section

variable {origin s : Session} (w : World) (t : Terms)

/-- **What was known at the start is not learnt anew**, whoever else is
asking. -/
theorem meets_probeOnce_steadfast (e : Endpoint) (hs : Keeps origin s) :
    (probeOnce w t e).Meets (steadfast origin) s fun _ _ o =>
      ∀ known, Keyed.get? origin.memo e.url = some known → o = known := by
  simp only [probeOnce, Errand.bind_eq, Errand.liftM_eq]
  refine Errand.meets_look fun u hu => ?_
  cases hfound : Keyed.get? u.memo e.url with
  | some o =>
      intro _ _ known hknown
      have hsame := hu hs _ _ hknown
      exact Option.some.inj (hfound.symm.trans hsame)
  | none =>
      have hunknown : Keyed.get? origin.memo e.url = none := by
        cases hknown : Keyed.get? origin.memo e.url with
        | none => rfl
        | some o => cases hfound.symm.trans (hu hs _ _ hknown)
      have hquiet : ∀ x y : Session, y.memo = x.memo →
          (steadfast origin).allows x y ∧ (steadfast origin).log y = (steadfast origin).log x := by
        intro x y h
        refine ⟨fun hx url o ho => ?_, rfl⟩
        rw [h]
        exact hx url o ho
      have hprobe := (Introspection.leaves_probe w t.probing t.forceRefresh e).meets hquiet u
      refine hprobe.bind fun x own o _ _ => ?_
      have hgoal : ∀ known, Keyed.get? origin.memo e.url = some known → o = known := by
        intro known hknown
        cases hunknown.symm.trans hknown
      cases isAborted o with
      | true => exact fun _ _ => hgoal
      | false =>
          refine Errand.meets_act fun y _ => ?_
          refine ⟨fun hy url known hknown => ?_, [], rfl, fun _ _ => hgoal⟩
          -- What is put in front is about another URL.
          have hother : e.url ≠ url := by
            rintro rfl
            cases hunknown.symm.trans hknown
          show Keyed.get? ((e.url, o) :: y.memo) url = some known
          rw [Keyed.get?_cons, if_neg hother]
          exact hy url known hknown

/-- Negotiation judges an aggregate by what was known of it at the start. -/
theorem meets_resolve_steadfast (v : Nat) (e : Endpoint) (hs : Keeps origin s) :
    (resolve w t v e).Meets (steadfast origin) s fun _ _ r =>
      ∃ P : Soundings, r = judge t.mode v e P ∧
        ∀ known, Keyed.get? origin.memo e.url = some known → P e.url = known := by
  rw [resolve_eq_judge]
  unfold sound
  rw [Errand.bind_eq, Errand.bind_assoc]
  refine (meets_probeOnce_steadfast w t e hs).bind fun u _ own hu hown => ?_
  cases hdetour : detour? e v own with
  | none => exact fun _ _ => ⟨_, rfl, hown⟩
  | some url =>
      show ((probeOnce w t (e.moved url v)).bind _ |>.bind _).Meets _ _ _
      rw [Errand.bind_assoc]
      refine (meets_probeOnce_steadfast w t (e.moved url v) (hu hs)).bind fun x _ there _ _ => ?_
      refine fun _ _ => ⟨_, rfl, ?_⟩
      rw [sounded_home]
      exact hown

end

/-! ## §4. The counts. -/

section

variable (w : World) (t : Terms) {endpoints : List Endpoint}

/-- **Each resolution honours what is known of its own aggregate**, whoever
resolves beside it. -/
theorem honours_forEach (strict : t.mode = .strict) (v limit : Nat) {told : Session}
    (hknown : ∀ e ∈ endpoints, Knows told e.url) :
    List.Forall₂ (fun probe r => Honours v probe.2 r)
      (endpoints.map fun e => (e, heardIn told e.url))
      (Action.forEach w limit (resolve w t v) endpoints told).1 := by
  obtain ⟨-, parts, hresults, hparts, -⟩ := forEach_fulfils_of (c := steadfast told) w limit
    (resolve w t v) endpoints (s := told) ⟨id, rfl⟩ fun e _ u hu =>
      meets_resolve_steadfast w t v e (hu fun _ _ => id)
  rw [hresults, List.forall₂_map_left_iff, List.forall₂_map_right_iff]
  have hboth := (List.forall₂_and_left endpoints parts).2 ⟨hknown, hparts⟩
  refine hboth.imp fun e part h => ?_
  obtain ⟨hknows, P, hjudge, hown⟩ := h
  obtain ⟨o, ho⟩ := Option.ne_none_iff_exists'.1 hknows
  show Honours v (heardIn told e.url) part.2
  rw [hjudge, strict, covers_heardIn told _ _ ho, ← hown o ho]
  exact honours_judge P v e

/-- What an orderly fleet says is what is known of it afterwards. -/
theorem probeAll_of_orderly {workers : Nat} (orderly : Orderly workers endpoints) (s : Session)
    (settled : ∀ o ∈ (Action.forEach w workers (probeOnce w t) endpoints s).1,
      isAborted o = false) :
    (probeAll w t workers endpoints s).1
      = endpoints.map fun e => (e, heardIn (probeAll w t workers endpoints s).2 e.url) := by
  obtain ⟨-, hrecalls⟩ := teaches_probes (fun _ => True) w t orderly s
  have hsame : List.Forall₂ (fun e o => heardIn (probeAll w t workers endpoints s).2 e.url = o)
      endpoints (Action.forEach w workers (probeOnce w t) endpoints s).1 := by
    have hboth := ((List.forall₂_and_left _ endpoints).2 ⟨settled, hrecalls.flip⟩).flip
    refine hboth.imp fun e o h => ?_
    obtain ⟨hsettled, hrecalled⟩ := h
    rcases hrecalled with haborted | hfound
    · rw [hsettled] at haborted
      cases haborted
    · exact covers_heardIn _ _ _ hfound
  show endpoints.zip _ = _
  rw [List.map_prod_left_eq_zip]
  congr 1
  exact (List.forall₂_eq_eq_eq ▸ List.forall₂_map_left_iff.2 hsame : _ = _).symm

end

/-- **The counts of the vote are honoured.**  Once a fleet has been probed,
and nothing was called off, a version is negotiated with each of its
aggregates, so many at a time and in whatever order.  The number of those
that are called at the version lies between the count of those that speak it
at their own URL and the count of those that speak it at any URL.  Where the
fleet was orderly, these are the counts of the probes by which it decided. -/
theorem counts_honoured (w : World) (t : Terms) (strict : t.mode = .strict)
    (endpoints : List Endpoint) (v workers limit : Nat) (s : Session)
    (calm : ∀ probe ∈ (probeAll w t workers endpoints s).1, isAborted probe.2 = false) :
    let told := (probeAll w t workers endpoints s).2
    let probes : Probes := endpoints.map fun e => (e, heardIn told e.url)
    let resolutions := (Action.forEach w limit (resolve w t v) endpoints told).1
    resolutions.length = endpoints.length ∧
      live (speakers probes) v ≤ resolutions.countP Resolution.serves ∧
      resolutions.countP Resolution.serves ≤ anywhere (speakers probes) v ∧
      (Orderly workers endpoints → (probeAll w t workers endpoints s).1 = probes) := by
  intro told probes resolutions
  have hlength := length_forEach w workers (probeOnce w t) endpoints s
  have houtcomes : ∀ o ∈ (Action.forEach w workers (probeOnce w t) endpoints s).1,
      isAborted o = false := by
    intro o ho
    rw [← List.map_snd_zip hlength.le] at ho
    obtain ⟨probe, hprobe, rfl⟩ := List.mem_map.1 ho
    exact calm probe hprobe
  have hknown : ∀ e ∈ endpoints, Knows told e.url := knows_of_settled w t houtcomes
  obtain ⟨hlive, hanywhere⟩ := counts_of_honours (honours_forEach w t strict v limit hknown)
  refine ⟨length_forEach w limit _ _ _, hlive, hanywhere, fun orderly => ?_⟩
  exact probeAll_of_orderly w t orderly s houtcomes

namespace Signpost

/-- The two aggregates that advertise each other, and a third one that has
the first one's URL for a version which that one does not speak there. -/
def fleet : List Endpoint :=
  ["http://[::1]", "http://[::2]", "http://[::3]"].map fun url => { endpoint with url }

/-- The third one speaks version 4. -/
def thirdWorld : World :=
  { world with
    transport := fun before r =>
      if r.url = "http://[::3]" then
        ⟨.ok (.object [("geni_api", .nat 4),
          ("geni_api_versions", .object [("2", .string "http://[::1]")])]), false⟩
      else world.transport before r }

/-- What is known once the fleet has been probed by two workers. -/
def heardOf : Probes × Session := probeAll thirdWorld terms 2 fleet (Session.start .absent)

end Signpost

/-- One of the three speaks version 2 at its own URL, all claim to speak it
somewhere, and two are called. -/
theorem counts_honoured_between :
    live (speakers Signpost.heardOf.1) 2 = 1 ∧
      (Action.forEach Signpost.thirdWorld 2 (resolve Signpost.thirdWorld Signpost.terms 2)
        Signpost.fleet Signpost.heardOf.2).1.countP Resolution.serves = 2 ∧
      anywhere (speakers Signpost.heardOf.1) 2 = 3 ∧
      live (speakers Signpost.heardOf.1) 2
        ≤ (Action.forEach Signpost.thirdWorld 2 (resolve Signpost.thirdWorld Signpost.terms 2)
          Signpost.fleet Signpost.heardOf.2).1.countP Resolution.serves := by
  have calm : ∀ probe ∈ Signpost.heardOf.1, isAborted probe.2 = false := by
    have : (Signpost.heardOf.1.all fun probe => !isAborted probe.2) = true := by decide +kernel
    simpa using this
  have orderly : Orderly 2 Signpost.fleet := by
    right
    simp [Signpost.fleet]
  obtain ⟨-, hlive, -, hprobes⟩ := counts_honoured Signpost.thirdWorld Signpost.terms rfl
    Signpost.fleet 2 2 2 (Session.start .absent) calm
  refine ⟨by decide +kernel, by decide +kernel, by decide +kernel, ?_⟩
  have hsame : Signpost.heardOf.1 = _ := hprobes orderly
  rw [hsame]
  exact hlive

end Federation.Version
