/-
  Federation.Proofs.Version.Negotiation
  ─────────────────────────────────────
  **HOW A RESOLUTION COMES ABOUT.**

  What is to be done about an aggregate follows from what the probes of its
  own URL and of the URL that it advertises yielded, and from nothing else.
  `Agreement` and `Refusal` list the ways.  What a probe yielded is found in
  the memo of the session, whoever it was that probed.

  Negotiation sends nothing but probes.

  Main results:
    * `meets_probeOnce` — what comes of a probe is known from then on;
    * `meets_resolve` — what negotiation does among others.
-/
import Federation.Proofs.Introspection.Probe
import Federation.Proofs.Version.Soundings

namespace Federation.Version

open Call (SkipReason)
open Introspection (Probed ProbeFault ProbeOutcome isAborted probeMethod probeRequest)

/-! ## §1. Probing once. -/

/-- Whether requests only ask for versions. -/
def AreProbes (requests : List Request) : Prop := ∀ r ∈ requests, r.method = probeMethod

theorem areProbes_nil : AreProbes [] := fun _ h => nomatch h

/-- So do requests that are among certain probes. -/
theorem areProbes_of_sublist {p : Introspection.ProbePolicy} (asked : List Endpoint)
    {own : List Request} (h : own.Sublist (asked.map (probeRequest p))) : AreProbes own := by
  intro r hr
  obtain ⟨e, _, rfl⟩ := List.mem_map.1 (h.subset hr)
  rfl

/-- Whether it is known what a probe of a URL yields. -/
def Knows (s : Session) (url : String) : Prop := Keyed.get? s.memo url ≠ none

theorem knows_iff {s : Session} {url : String} : Knows s url ↔ url ∈ Keyed.keys s.memo := by
  unfold Knows
  rw [Ne, Keyed.get?_eq_none_iff, Decidable.not_not]

theorem Knows.later {s t : Session} {url : String} (h : Knows s url) (hst : s.Becomes t) :
    Knows t url := by
  rw [knows_iff] at h ⊢
  exact (hst.memo.map Prod.fst).subset h

theorem knows_of_mem {s : Session} {url : String} {o : ProbeOutcome} (h : (url, o) ∈ s.memo) :
    Knows s url := knows_iff.2 (List.mem_map.2 ⟨(url, o), h, rfl⟩)

/-- Probes of URLs that nothing was known of before, one for each. -/
structure Asked (s t : Session) (asked : List Request) : Prop where
  probes : AreProbes asked
  once : (asked.map (·.url)).Nodup
  news : ∀ r ∈ asked, ¬Knows s r.url ∧ Knows t r.url

theorem asked_nil (s t : Session) : Asked s t [] := ⟨areProbes_nil, List.nodup_nil, nofun⟩

theorem asked_one {s t : Session} {p : Introspection.ProbePolicy} {e : Endpoint}
    {own : List Request} (sent : own = [] ∨ own = [probeRequest p e]) (before : ¬Knows s e.url)
    (after : Knows t e.url) : Asked s t own := by
  rcases sent with rfl | rfl
  · exact asked_nil s t
  · refine ⟨areProbes_of_sublist [e] (List.Sublist.refl _), by simp, fun r hr => ?_⟩
    obtain rfl := List.mem_singleton.1 hr
    exact ⟨before, after⟩

/-- **What comes of probing once**: the request that is sent, if any, and what
is known in the end. -/
structure ProbedOnce (p : Introspection.ProbePolicy) (e : Endpoint) (s t : Session)
    (own : List Request) (o : ProbeOutcome) : Prop where
  sent : own.Sublist [probeRequest p e]
  asked : Asked s t own
  known : isAborted o = false → Knows t e.url
  heard : s.Telling → t.Heard e.url o

theorem meets_probeOnce_fully (w : World) (t : Terms) (e : Endpoint) (s : Session) :
    (probeOnce w t e).Meets Session.conduct s (ProbedOnce t.probing e s) := by
  simp only [probeOnce, Errand.bind_eq, Errand.liftM_eq]
  refine Errand.meets_look fun u hu => ?_
  cases hknown : Keyed.get? u.memo e.url with
  | some o =>
      intro v hv
      have hmem := Keyed.mem_of_get? hknown
      exact {
        sent := List.nil_sublist _
        asked := asked_nil s v
        known := fun _ => (knows_of_mem hmem).later hv
        heard := fun hs => (Session.heard_of_mem (hu.telling hs) hmem).later hv }
  | none =>
      have hbefore : ¬Knows s e.url := fun h => h.later hu hknown
      -- Somebody else may probe the same URL meanwhile; both outcomes are kept.
      refine (Introspection.meets_probe w t.probing t.forceRefresh e u).bind
        fun v own o hv hcourse => ?_
      have hsent : own.Sublist [probeRequest t.probing e] := by
        rcases hcourse.sent with rfl | rfl
        · exact List.nil_sublist _
        · exact List.Sublist.refl _
      by_cases ho : isAborted o = true
      · -- Nothing is remembered, and the signal to stop has come.
        simp only [ho]
        intro x hx
        rw [List.append_nil]
        obtain ⟨hnone, hstop⟩ := hcourse.calledOff ho
        refine ⟨hsent, hnone ▸ asked_nil s x, fun h => ?_, fun _ => ?_⟩
        · rw [ho] at h
          cases h
        · unfold Session.Heard
          rw [if_pos ho]
          exact hx.aborted hstop
      · have hkeep : (!isAborted o) = true := by simp [ho]
        simp only [hkeep, if_true]
        refine Errand.meets_remember (by simpa using ho) fun x hx hmem => ?_
        intro y hy
        rw [List.append_nil]
        have hafter : Knows y e.url := (knows_of_mem hmem).later hy
        refine ⟨hsent, asked_one hcourse.sent hbefore hafter, fun _ => hafter, fun hs => ?_⟩
        have htelling := hx.telling (hv.telling (hu.telling hs))
        exact (Session.heard_of_mem htelling hmem).later hy

/-- **What comes of a probe is known from then on**, unless everything was
called off; at most the one request is sent. -/
theorem meets_probeOnce (w : World) (t : Terms) (e : Endpoint) {s : Session} (hs : s.Telling) :
    (probeOnce w t e).Meets Session.conduct s fun u own o =>
      own.Sublist [probeRequest t.probing e] ∧ u.Heard e.url o :=
  (meets_probeOnce_fully w t e s).imp fun _ _ _ _ h => ⟨h.sent, h.heard hs⟩

/-! ## §2. Agreements and refusals. -/

/-- An aggregate that answered, but serves the desired version neither at its
own URL nor at the one that it advertises for it. -/
structure Unserved (s : Session) (desired : Nat) (e : Endpoint) (p : Probed) : Prop where
  heard : s.Heard e.url (.ok p)
  silent : speaksAtOwnUrl e desired p = false
  elsewhere : ∀ url, advertisedUrl? p desired = some url → ∃ o, s.Heard url o ∧
    isAborted o = false ∧ ∀ q, o = .ok q → q.snapshot.primary ≠ desired

/-- **What is agreed on with an aggregate**, and whether it is called at
another URL than its own. -/
inductive Agreement (t : Terms) (desired : Nat) (e : Endpoint) (s : Session) :
    Agreed → Bool → Prop
  /-- It speaks the desired version at its own URL. -/
  | own {p : Probed} (heard : s.Heard e.url (.ok p)) (speaks : speaksAtOwnUrl e desired p = true) :
      Agreement t desired e s ⟨e.atVersion desired, some p, []⟩ false
  /-- It advertises a URL where the desired version is the primary one. -/
  | detour {p q : Probed} {url : String} (heard : s.Heard e.url (.ok p))
      (silent : speaksAtOwnUrl e desired p = false)
      (advertised : advertisedUrl? p desired = some url) (heardThere : s.Heard url (.ok q))
      (confirmed : q.snapshot.primary = desired) :
      Agreement t desired e s ⟨e.moved url desired, some q, []⟩ true
  /-- It was not heard of, which relaxed mode puts up with. -/
  | unheard {fault : ProbeFault} (relaxed : t.mode = .relaxed)
      (heard : s.Heard e.url (.error fault)) (failed : fault ≠ .aborted) :
      Agreement t desired e s
        ⟨e.atVersion desired, none, [unprobedWarning e fault desired]⟩ false
  /-- It does not serve the desired version, which relaxed mode puts up
  with. -/
  | mismatch {p : Probed} (relaxed : t.mode = .relaxed) (unserved : Unserved s desired e p) :
      Agreement t desired e s
        ⟨e.atVersion p.snapshot.primary, some p,
          [mismatchWarning e desired p.snapshot.primary]⟩ false

/-- Why an aggregate is not called. -/
inductive Refusal (t : Terms) (desired : Nat) (e : Endpoint) (s : Session) : SkipReason → Prop
  | calledOff (stopped : s.aborted = true) : Refusal t desired e s .aborted
  | unheard {fault : ProbeFault} (strict : t.mode = .strict)
      (heard : s.Heard e.url (.error fault)) (failed : fault ≠ .aborted) :
      Refusal t desired e s fault.skipReason
  | mismatch {p : Probed} (strict : t.mode = .strict) (unserved : Unserved s desired e p) :
      Refusal t desired e s (.versionMismatch desired p.snapshot.supported)

/-- How a resolution came about. -/
def Resolved (t : Terms) (desired : Nat) (e : Endpoint) (s : Session) : Resolution → Prop
  | .use a => Agreement t desired e s a false
  | .redirect a => Agreement t desired e s a true
  | .skip reason => Refusal t desired e s reason

section Later

variable {t : Terms} {desired : Nat} {e : Endpoint} {s u : Session} (hsu : s.Becomes u)
include hsu

theorem Unserved.later {p : Probed} (h : Unserved s desired e p) : Unserved u desired e p := by
  refine ⟨h.heard.later hsu, h.silent, ?_⟩
  intro url hurl
  obtain ⟨o, ho, hrest⟩ := h.elsewhere url hurl
  exact ⟨o, ho.later hsu, hrest⟩

theorem Agreement.later {a : Agreed} {redirected : Bool}
    (h : Agreement t desired e s a redirected) : Agreement t desired e u a redirected := by
  cases h with
  | own heard speaks => exact .own (heard.later hsu) speaks
  | detour heard silent advertised heardThere confirmed =>
      exact .detour (heard.later hsu) silent advertised (heardThere.later hsu) confirmed
  | unheard relaxed heard failed => exact .unheard relaxed (heard.later hsu) failed
  | mismatch relaxed unserved => exact .mismatch relaxed (unserved.later hsu)

theorem Refusal.later {reason : SkipReason} (h : Refusal t desired e s reason) :
    Refusal t desired e u reason := by
  cases h with
  | calledOff stopped => exact .calledOff (hsu.aborted stopped)
  | unheard strict heard failed => exact .unheard strict (heard.later hsu) failed
  | mismatch strict unserved => exact .mismatch strict (unserved.later hsu)

theorem Resolved.later {r : Resolution} (h : Resolved t desired e s r) :
    Resolved t desired e u r := by
  cases r with
  | use a => exact Agreement.later hsu h
  | redirect a => exact Agreement.later hsu h
  | skip reason => exact Refusal.later hsu h

end Later

/-! ## §3. Resolving. -/

section

variable {t : Terms} {desired : Nat} {e : Endpoint} {s : Session}

/-- Where the probe failed. -/
theorem resolved_withoutProbe {fault : ProbeFault} (heard : s.Heard e.url (.error fault)) :
    Resolved t desired e s (withoutProbe t.mode e desired fault) := by
  cases fault with
  | aborted => exact .calledOff heard
  | transport failure =>
      cases hmode : t.mode with
      | strict => exact .unheard hmode heard (by simp)
      | relaxed => exact .unheard hmode heard (by simp)
  | malformed detail =>
      cases hmode : t.mode with
      | strict => exact .unheard hmode heard (by simp)
      | relaxed => exact .unheard hmode heard (by simp)

/-- Where the desired version is not served. -/
theorem resolved_mismatched {p : Probed} (unserved : Unserved s desired e p) :
    Resolved t desired e s (mismatched t.mode e desired p) := by
  cases hmode : t.mode with
  | strict => exact .mismatch hmode unserved
  | relaxed => exact .mismatch hmode unserved

/-- The soundings of a negotiation tell what was heard at the URLs that count
for it. -/
def Told (s : Session) (desired : Nat) (e : Endpoint) (soundings : Soundings) : Prop :=
  s.Heard e.url (soundings e.url) ∧
    ∀ url, detour? e desired (soundings e.url) = some url → s.Heard url (soundings url)

theorem Told.later {soundings : Soundings} {u : Session} (h : Told s desired e soundings)
    (hsu : s.Becomes u) : Told u desired e soundings :=
  ⟨h.1.later hsu, fun url hurl => (h.2 url hurl).later hsu⟩

/-- **What is judged follows from what was heard.** -/
theorem resolved_judge {soundings : Soundings} (told : Told s desired e soundings) :
    Resolved t desired e s (judge t.mode desired e soundings) := by
  obtain ⟨heard, heardThere⟩ := told
  obtain ⟨verdict, hjudged, hverdict⟩ := judged soundings desired e
  rw [hverdict]
  cases hjudged with
  | unheard own => exact resolved_withoutProbe (own ▸ heard)
  | here own speaks => exact .own (own ▸ heard) speaks
  | calledOff own silent advertised there =>
      rw [own, detour?_of_silent silent] at heardThere
      have stopped := heardThere _ advertised
      rw [there] at stopped
      exact .calledOff stopped
  | elsewhere own silent advertised there confirmed =>
      rw [own, detour?_of_silent silent] at heardThere
      exact .detour (own ▸ heard) (by simpa using silent) advertised
        (there ▸ heardThere _ advertised) confirmed
  | nowhere own silent unconfirmed =>
      rw [own, detour?_of_silent silent] at heardThere
      refine resolved_mismatched ⟨own ▸ heard, by simpa using silent, fun url hurl => ?_⟩
      exact ⟨soundings url, heardThere url hurl, unconfirmed url hurl⟩

end

/-- **What the soundings of a negotiation send**: at most one probe for its
own URL and one for another, and what they yield is known from then on. -/
theorem meets_sound (w : World) (t : Terms) (desired : Nat) (e : Endpoint) {s : Session}
    (hs : s.Telling) :
    (sound w t desired e).Meets Session.conduct s fun u own soundings =>
      (∃ url, own.Sublist ([e, e.moved url desired].map (probeRequest t.probing))) ∧
        Told u desired e soundings := by
  unfold sound
  refine (meets_probeOnce w t e hs).bind fun u own o hu ho => ?_
  obtain ⟨hown, heard⟩ := ho
  cases hdetour : detour? e desired o with
  | none =>
      intro v hv
      rw [List.append_nil]
      refine ⟨⟨e.url, hown.trans (List.sublist_append_left [_] [_])⟩, heard.later hv,
        fun url hurl => ?_⟩
      cases hdetour.symm.trans hurl
  | some url =>
      refine (meets_probeOnce w t (e.moved url desired) (hu.telling hs)).bind
        fun v more o' hv ho' => ?_
      intro x hx
      rw [List.append_nil]
      refine ⟨⟨url, hown.append ho'.1⟩, ?_, fun url' hurl' => ?_⟩
      · rw [sounded_home]
        exact heard.later (hv.trans hx)
      · rw [sounded_home] at hurl'
        obtain rfl := Option.some.inj (hdetour.symm.trans hurl')
        rw [sounded_of_ne _ _ (detour?_ne hdetour)]
        exact ho'.2.later hx

/-- **Whatever else goes on, negotiation sends nothing but probes**, and what
it settles on follows from what they yielded. -/
theorem meets_resolve (w : World) (t : Terms) (desired : Nat) (e : Endpoint) {s : Session}
    (hs : s.Telling) :
    (resolve w t desired e).Meets Session.conduct s fun u own r =>
      AreProbes own ∧ Resolved t desired e u r := by
  rw [resolve_eq_judge]
  refine (meets_sound w t desired e hs).bind fun u own soundings _ hsound => ?_
  obtain ⟨⟨url, hown⟩, told⟩ := hsound
  intro v hv
  rw [List.append_nil]
  exact ⟨areProbes_of_sublist _ hown, resolved_judge (told.later hv)⟩

end Federation.Version
