/-
  Federation.Proofs.Version.Modes
  ───────────────────────────────
  **STRICT AND RELAXED NEGOTIATION.**

  Strict negotiation is exact: what it does about an aggregate is told by
  what the probes yield, case by case (`Exactly`), whatever cycles the
  advertised URLs form, and no more than two URLs are probed for it.

  Relaxed negotiation takes the same soundings.  It differs only where strict
  negotiation gives the aggregate up (`Extends`): there it calls it at its
  own URL, with one warning.

  Main results:
    * `resolve_strict_exact` — strict negotiation, case by case;
    * `resolve_relaxed_extends` — relaxed negotiation beside it.
-/
import Federation.Proofs.Version.Negotiation
import Mathlib.Data.List.Sort

namespace Federation.Version

open Call (SkipReason)
open Introspection (Probed ProbeFault ProbeOutcome isAborted probeMethod probeRequest)

/-! ## §1. What each case is told by. -/

/-- None of the probes was called off. -/
def Soundings.Settled (P : Soundings) : Prop := ∀ url, isAborted (P url) = false

/-- **What strict negotiation does**, case by case. -/
inductive Exactly (P : Soundings) (desired : Nat) (e : Endpoint) : Resolution → Prop
  | unheard {fault : ProbeFault} (own : P e.url = .error fault) :
      Exactly P desired e (.skip fault.skipReason)
  -- The version is the primary one, or the URL that is advertised for it is
  -- the one that was probed.
  | here {p : Probed} (own : P e.url = .ok p)
      (speaks : p.snapshot.primary = desired ∨ advertisedUrl? p desired = some e.url) :
      Exactly P desired e (.use ⟨e.atVersion desired, some p, []⟩)
  | elsewhere {p q : Probed} {url : String} (own : P e.url = .ok p)
      (other : p.snapshot.primary ≠ desired) (advertised : advertisedUrl? p desired = some url)
      (away : url ≠ e.url) (there : P url = .ok q) (confirmed : q.snapshot.primary = desired) :
      Exactly P desired e (.redirect ⟨⟨e.urn, url, e.nickname, some desired⟩, some q, []⟩)
  | nowhere {p : Probed} {versions : List Nat} (own : P e.url = .ok p)
      (other : p.snapshot.primary ≠ desired) (away : advertisedUrl? p desired ≠ some e.url)
      (unconfirmed : ∀ url q, advertisedUrl? p desired = some url → P url = .ok q →
        q.snapshot.primary ≠ desired)
      (ascending : versions.Pairwise (· < ·))
      (listed : ∀ v, v ∈ versions ↔ p.snapshot.supports v = true) :
      Exactly P desired e (.skip (.versionMismatch desired versions))

section

variable {P : Soundings} {desired : Nat} {e : Endpoint}

theorem exactly_judge (settled : P.Settled) :
    Exactly P desired e (judge .strict desired e P) := by
  obtain ⟨verdict, hjudged, hverdict⟩ := judged P desired e
  rw [hverdict]
  cases hjudged with
  | unheard own =>
      show Exactly P desired e (withoutProbe .strict e desired _)
      rw [withoutProbe_strict]
      exact .unheard own
  | here own speaks => exact .here own (speaksAtOwnUrl_iff.1 speaks)
  | @calledOff p url own silent advertised there =>
      -- This case is left out by the assignment.
      have hurl := settled url
      rw [there] at hurl
      cases hurl
  | @elsewhere p q url own silent advertised there confirmed =>
      obtain ⟨other, hurl⟩ := silent_iff.1 silent
      have away : url ≠ e.url := fun heq => hurl (advertised.trans (congrArg some heq))
      exact .elsewhere own other advertised away there confirmed
  | @nowhere p own silent unconfirmed =>
      obtain ⟨other, away⟩ := silent_iff.1 silent
      exact .nowhere own other away (fun url q hurl => (unconfirmed url hurl).2 q)
        p.snapshot.supported_ascending fun v => (p.snapshot.supports_iff_mem v).symm

theorem Exactly.judge_eq (settled : P.Settled) {r : Resolution} (h : Exactly P desired e r) :
    judge .strict desired e P = r := by
  cases h with
  | unheard own =>
      rw [← withoutProbe_strict e desired]
      simp [judge, own]
  | here own speaks => simp [judge, own, speaksAtOwnUrl_iff.2 speaks]
  | @elsewhere p q url own other advertised away there confirmed =>
      have hurl : advertisedUrl? p desired ≠ some e.url := by
        rw [advertised]
        exact fun heq => away (Option.some.inj heq)
      rw [judge_of_some own (silent_iff.2 ⟨other, hurl⟩) .strict advertised, there]
      exact if_pos confirmed
  | @nowhere p versions own other away unconfirmed ascending listed =>
      have silent := silent_iff.2 ⟨other, away⟩
      -- Two ascending lists of the same versions are the same list.
      have hversions : p.snapshot.supported = versions :=
        p.snapshot.supported_ascending.eq_of_mem_iff ascending fun v =>
          (p.snapshot.supports_iff_mem v).symm.trans (listed v).symm
      rw [← hversions]
      cases advertised : advertisedUrl? p desired with
      | none => exact judge_of_none own silent .strict advertised
      | some url =>
          rw [judge_of_some own silent .strict advertised]
          cases there : P url with
          | ok q => exact if_neg (unconfirmed url q advertised there)
          | error fault =>
              have hurl := settled url
              rw [there] at hurl
              cases fault with
              | aborted => cases hurl
              | _ => rfl

/-- **The cases tell the judgement**, and it tells the case. -/
theorem judge_strict_iff (settled : P.Settled) (r : Resolution) :
    judge .strict desired e P = r ↔ Exactly P desired e r := by
  constructor
  · rintro rfl
    exact exactly_judge settled
  · exact Exactly.judge_eq settled

end

/-! ## §2. Strict negotiation among others. -/

/-- Nobody called anything off, and what is known of the probes of a session
is what the assignment says. -/
structure Bears (s : Session) (P : Soundings) : Prop where
  calm : s.aborted = false
  known : ∀ known ∈ s.memo, known.2 = P known.1

theorem Bears.eq_of_heard {s : Session} {P : Soundings} (h : Bears s P) {url : String}
    {o : ProbeOutcome} (heard : s.Heard url o) : o = P url := by
  unfold Session.Heard at heard
  by_cases ho : isAborted o = true
  · rw [if_pos ho, h.calm] at heard
    cases heard
  · rw [if_neg ho] at heard
    exact h.known _ heard

/-- What is known of the probes of a session. -/
def heardIn (s : Session) : Soundings := fun url =>
  (Keyed.get? s.memo url).getD (.error (.malformed "not asked"))

theorem settled_heardIn {s : Session} (hs : s.Telling) : (heardIn s).Settled := by
  intro url
  unfold heardIn
  cases known : Keyed.get? s.memo url with
  | none => rfl
  | some o => exact hs _ (Keyed.mem_of_get? known)

/-- Where no two workers probed one URL at the same time, a session bears an
assignment. -/
theorem bears_heardIn {s : Session} (calm : s.aborted = false) (once : (Keyed.keys s.memo).Nodup) :
    Bears s (heardIn s) := by
  refine ⟨calm, fun known hknown => ?_⟩
  unfold heardIn
  rw [Keyed.get?_of_mem once hknown]
  rfl

/-- Only the soundings at the URLs that count for it bear on a judgement. -/
theorem judge_congr {P Q : Soundings} {mode : Mode} {desired : Nat} {e : Endpoint}
    (own : Q e.url = P e.url)
    (there : ∀ url, detour? e desired (Q e.url) = some url → Q url = P url) :
    judge mode desired e Q = judge mode desired e P := by
  cases hown : Q e.url with
  | error fault => simp [judge, ← own, hown]
  | ok p =>
      by_cases speaks : speaksAtOwnUrl e desired p = true
      · simp [judge, ← own, hown, speaks]
      · rw [hown, detour?_of_silent speaks] at there
        cases advertised : advertisedUrl? p desired with
        | none =>
            rw [judge_of_none hown speaks mode advertised,
              judge_of_none (own ▸ hown) speaks mode advertised]
        | some url =>
            rw [judge_of_some hown speaks mode advertised,
              judge_of_some (own ▸ hown) speaks mode advertised, there url advertised]

/-- **Strict negotiation is exact.**  It takes soundings at no more than two
URLs and judges by them; for every assignment of outcomes to URLs, the
judgement is the one of the case; and whatever else goes on meanwhile, it
sends no more than the two probes, and where what was heard in the session is
such an assignment, the case is the one for it. -/
theorem resolve_strict_exact (w : World) (t : Terms) (desired : Nat) (e : Endpoint) :
    (resolve w { t with mode := .strict } desired e
      = (sound w t desired e).bind fun P => .done (judge .strict desired e P)) ∧
    (∀ P : Soundings, P.Settled → ∀ r, judge .strict desired e P = r ↔ Exactly P desired e r) ∧
    ∀ s : Session, s.Telling →
      (resolve w { t with mode := .strict } desired e).Meets Session.conduct s fun u own r =>
        (∃ url, own.Sublist ([e, e.moved url desired].map (probeRequest t.probing))) ∧
        ∀ P : Soundings, P.Settled → Bears u P → Exactly P desired e r := by
  have hresolve : resolve w { t with mode := .strict } desired e
      = (sound w t desired e).bind fun P => .done (judge .strict desired e P) := by
    rw [resolve_eq_judge, sound_mode]
  refine ⟨hresolve, fun P settled r => judge_strict_iff settled r, fun s hs => ?_⟩
  rw [hresolve]
  refine (meets_sound w t desired e hs).bind fun u own Q _ hsound => ?_
  obtain ⟨hown, told⟩ := hsound
  intro v hv
  rw [List.append_nil]
  refine ⟨hown, fun P settled bears => ?_⟩
  -- Where it counts, the soundings taken are those of the assignment.
  obtain ⟨heard, heardThere⟩ := told.later hv
  have hjudge : judge .strict desired e Q = judge .strict desired e P :=
    judge_congr (bears.eq_of_heard heard) fun url hurl => bears.eq_of_heard (heardThere url hurl)
  show Exactly P desired e (judge .strict desired e Q)
  rw [hjudge]
  exact exactly_judge settled

namespace Signpost

/-- Two aggregates that speak different versions, and each advertises the
other one for its own. -/
def world : World where
  transport := fun _ r =>
    let here := if r.url = "http://[::1]" then 3 else 2
    let sign := if here = 3 then ("2", "http://[::2]") else ("3", "http://[::1]")
    ⟨.ok (.object [("geni_api", .nat here),
      ("geni_api_versions", .object [(sign.1, .string sign.2)])]), false⟩
  clock := fun _ => Time.Instant.epoch
  writes := fun _ => true
  credential := fun _ => .ok (Credential.sfa "document")
  keepsProof := fun _ _ => true

def terms : Terms := ⟨.strict, ⟨⟨0, 0⟩, false, 30⟩, false⟩

def endpoint : Endpoint := ⟨Endpoint.unspecifiedUrn, "http://[::1]", none, none⟩

/-- What comes of asking the one for the version of the other. -/
def after : Resolution × Session :=
  (resolve world { terms with mode := .strict } 2 endpoint).alone (Session.start .absent)

end Signpost

/-- The detour is found, although it leads back. -/
theorem resolve_strict_detour :
    ∃ P : Soundings, P.Settled ∧ Bears Signpost.after.2 P ∧
      Exactly P 2 Signpost.endpoint Signpost.after.1 ∧
      (match Signpost.after.1 with
        | .redirect a => a.endpoint.url == "http://[::2]"
        | _ => false) = true := by
  have hs : (Session.start .absent).Telling := fun _ h => nomatch h
  obtain ⟨hbecomes, _, _, hgoal⟩ :=
    ((resolve_strict_exact Signpost.world Signpost.terms 2 Signpost.endpoint).2.2 _ hs).alone
  have settled : (heardIn Signpost.after.2).Settled := settled_heardIn (hbecomes.telling hs)
  have bears : Bears Signpost.after.2 (heardIn Signpost.after.2) :=
    bears_heardIn (by decide +kernel) (by decide +kernel)
  exact ⟨_, settled, bears, (hgoal _ (.refl _)).2 _ settled bears, by decide +kernel⟩

/-! ## §3. Relaxed negotiation. -/

/-- **What relaxed negotiation makes of a strict resolution.** -/
structure Extends (P : Soundings) (desired : Nat) (e : Endpoint) (strict relaxed : Resolution) :
    Prop where
  use : ∀ a, strict = .use a → relaxed = .use a
  redirect : ∀ a, strict = .redirect a → relaxed = .redirect a
  calledOff : strict = .skip .aborted → relaxed = .skip .aborted
  -- Where strict negotiation gives up, one warning is enough.
  unheard : ∀ reason fault, strict = .skip reason → reason ≠ .aborted → P e.url = .error fault →
    ∃ warning, relaxed = .use ⟨e.atVersion desired, none, [warning]⟩
  unserved : ∀ reason p, strict = .skip reason → reason ≠ .aborted → P e.url = .ok p →
    ∃ warning, relaxed = .use ⟨e.atVersion p.snapshot.primary, some p, [warning]⟩
  skips : ∀ reason, relaxed = .skip reason → reason = .aborted
  redirects : ∀ a, relaxed = .redirect a → strict = .redirect a

/-- A resolution that both modes come to. -/
theorem extends_refl {P : Soundings} {desired : Nat} {e : Endpoint} {r : Resolution}
    (h : ∀ reason, r = .skip reason → reason = .aborted) : Extends P desired e r r where
  use _ := id
  redirect _ := id
  calledOff := id
  unheard reason _ hskip hreason := absurd (h reason hskip) hreason
  unserved reason _ hskip hreason := absurd (h reason hskip) hreason
  skips := h
  redirects _ := id

/-- What strict negotiation gives up and relaxed negotiation goes ahead with. -/
theorem extends_of_skip {P : Soundings} {desired : Nat} {e : Endpoint} {reason : SkipReason}
    {a : Agreed} (given : reason ≠ .aborted)
    (unheard : ∀ fault, P e.url = .error fault →
      ∃ warning, a = ⟨e.atVersion desired, none, [warning]⟩)
    (unserved : ∀ p, P e.url = .ok p →
      ∃ warning, a = ⟨e.atVersion p.snapshot.primary, some p, [warning]⟩) :
    Extends P desired e (.skip reason) (.use a) where
  use _ h := nomatch h
  redirect _ h := nomatch h
  calledOff h := absurd (Resolution.skip.inj h) given
  unheard _ fault _ _ own := (unheard fault own).imp fun _ h => congrArg Resolution.use h
  unserved _ p _ _ own := (unserved p own).imp fun _ h => congrArg Resolution.use h
  skips _ h := nomatch h
  redirects _ h := nomatch h

theorem judge_extends (P : Soundings) (desired : Nat) (e : Endpoint) :
    Extends P desired e (judge .strict desired e P) (judge .relaxed desired e P) := by
  obtain ⟨verdict, hjudged, hverdict⟩ := judged P desired e
  rw [hverdict, hverdict]
  cases hjudged with
  | @unheard fault own =>
      by_cases habort : fault = .aborted
      · subst habort
        exact extends_refl fun reason h => (Resolution.skip.inj h).symm
      · show Extends P desired e (withoutProbe .strict e desired fault)
          (withoutProbe .relaxed e desired fault)
        rw [withoutProbe_strict, withoutProbe_relaxed e desired habort]
        refine extends_of_skip (skipReason_ne_aborted habort) (fun _ _ => ⟨_, rfl⟩) fun p own' => ?_
        cases own.symm.trans own'
  | here own speaks => exact extends_refl nofun
  | calledOff own silent advertised there =>
      exact extends_refl fun reason h => (Resolution.skip.inj h).symm
  | elsewhere own silent advertised there confirmed => exact extends_refl nofun
  | @nowhere p own silent unconfirmed =>
      refine extends_of_skip nofun (fun fault own' => ?_) fun p' own' => ?_
      · cases own.symm.trans own'
      · cases own.symm.trans own'
        exact ⟨_, rfl⟩

/-- **Relaxed negotiation is a conservative extension of strict negotiation.**
Both take the same soundings, and by these relaxed negotiation does the very
same wherever strict negotiation comes to anything. -/
theorem resolve_relaxed_extends (w : World) (t : Terms) (desired : Nat) (e : Endpoint) :
    (∀ mode, resolve w { t with mode } desired e
      = (sound w t desired e).bind fun P => .done (judge mode desired e P)) ∧
    ∀ P : Soundings,
      Extends P desired e (judge .strict desired e P) (judge .relaxed desired e P) := by
  constructor
  · intro mode
    rw [resolve_eq_judge, sound_mode]
  · intro P
    exact judge_extends P desired e

end Federation.Version
