/-
  Federation.Proofs.Version.Soundings
  ───────────────────────────────────
  **WHAT NEGOTIATION LOOKS AT.**

  To settle on a version, negotiation probes the aggregate's own URL and, at
  most, the one URL that is advertised there.  Which URLs these are does not
  depend on the mode.  What the probes yield is an assignment of outcomes to
  URLs (`Soundings`), and the resolution is a function of it (`judge`): what
  the second look by itself would have come to, under whichever mode, is
  weighed again and leaves no other trace.

  Main results:
    * `judged` — the grounds of a judgement, the same in both modes;
    * `resolve_eq_judge` — negotiation takes its soundings and judges by
      them.
-/
import Federation.Version.Negotiation

namespace Federation.Version

open Introspection (Probed ProbeFault ProbeOutcome isAborted)

/-! ## §1. Soundings. -/

/-- What probes yield, by URL. -/
abbrev Soundings := String → ProbeOutcome

/-- One outcome at home and another one elsewhere. -/
def sounded (home : String) (own there : ProbeOutcome) : Soundings :=
  fun url => if url = home then own else there

theorem sounded_home (home : String) (own there : ProbeOutcome) :
    sounded home own there home = own := if_pos rfl

theorem sounded_of_ne {home url : String} (own there : ProbeOutcome) (h : url ≠ home) :
    sounded home own there url = there := if_neg h

theorem speaksAtOwnUrl_iff {e : Endpoint} {desired : Nat} {p : Probed} :
    speaksAtOwnUrl e desired p = true
      ↔ p.snapshot.primary = desired ∨ advertisedUrl? p desired = some e.url := by
  simp [speaksAtOwnUrl]

theorem silent_iff {e : Endpoint} {desired : Nat} {p : Probed} :
    ¬speaksAtOwnUrl e desired p = true
      ↔ p.snapshot.primary ≠ desired ∧ advertisedUrl? p desired ≠ some e.url := by
  rw [speaksAtOwnUrl_iff, not_or]

/-- The URL that is looked at beside the aggregate's own one. -/
def detour? (e : Endpoint) (desired : Nat) : ProbeOutcome → Option String
  | .error _ => none
  | .ok p => if speaksAtOwnUrl e desired p then none else advertisedUrl? p desired

theorem detour?_of_silent {e : Endpoint} {desired : Nat} {p : Probed}
    (h : ¬speaksAtOwnUrl e desired p = true) :
    detour? e desired (.ok p) = advertisedUrl? p desired := if_neg h

/-- It is another URL, or the version would be spoken at home. -/
theorem detour?_ne {e : Endpoint} {desired : Nat} {o : ProbeOutcome} {url : String}
    (h : detour? e desired o = some url) : url ≠ e.url := by
  intro heq
  cases o with
  | error fault => cases h
  | ok p =>
      by_cases hspeaks : speaksAtOwnUrl e desired p = true
      · simp [detour?, hspeaks] at h
      · rw [detour?_of_silent hspeaks] at h
        exact hspeaks (speaksAtOwnUrl_iff.2 (.inr (heq ▸ h)))

/-- **Take the soundings of a negotiation.** -/
def sound (w : World) (t : Terms) (desired : Nat) (e : Endpoint) : Errand Session Soundings := do
  let own ← probeOnce w t e
  match detour? e desired own with
  | none => return fun _ => own
  | some url =>
      let there ← probeOnce w t (e.moved url desired)
      return sounded e.url own there

/-- The mode has no part in the soundings. -/
theorem sound_mode (w : World) (t : Terms) (mode : Mode) (desired : Nat) (e : Endpoint) :
    sound w { t with mode } desired e = sound w t desired e := rfl

/-! ## §2. Judging by them. -/

/-- What to do about an aggregate, from the probe of the URL that it
advertises. -/
def judgeDetour (mode : Mode) (desired : Nat) (e : Endpoint) (p : Probed) (url : String) :
    ProbeOutcome → Resolution
  | .error .aborted => .skip .aborted
  | .error _ => mismatched mode e desired p
  | .ok q =>
      if q.snapshot.primary = desired then .redirect ⟨e.moved url desired, some q, []⟩
      else mismatched mode e desired p

/-- **What to do about an aggregate**, from the soundings. -/
def judge (mode : Mode) (desired : Nat) (e : Endpoint) (soundings : Soundings) : Resolution :=
  match soundings e.url with
  | .error fault => withoutProbe mode e desired fault
  | .ok p =>
      if speaksAtOwnUrl e desired p then .use ⟨e.atVersion desired, some p, []⟩
      else match advertisedUrl? p desired with
        | none => mismatched mode e desired p
        | some url => judgeDetour mode desired e p url (soundings url)

section

variable {P : Soundings} {desired : Nat} {e : Endpoint} {p : Probed} (own : P e.url = .ok p)
  (silent : ¬speaksAtOwnUrl e desired p = true)
include own silent

theorem judge_of_none (mode : Mode) (advertised : advertisedUrl? p desired = none) :
    judge mode desired e P = mismatched mode e desired p := by
  simp [judge, own, silent, advertised]

theorem judge_of_some (mode : Mode) {url : String} (advertised : advertisedUrl? p desired = some url) :
    judge mode desired e P = judgeDetour mode desired e p url (P url) := by
  simp [judge, own, silent, advertised]

end

/-- **The grounds of a judgement**, and what each mode makes of them. -/
inductive Judged (P : Soundings) (desired : Nat) (e : Endpoint) : (Mode → Resolution) → Prop
  | unheard {fault : ProbeFault} (own : P e.url = .error fault) :
      Judged P desired e fun mode => withoutProbe mode e desired fault
  | here {p : Probed} (own : P e.url = .ok p) (speaks : speaksAtOwnUrl e desired p = true) :
      Judged P desired e fun _ => .use ⟨e.atVersion desired, some p, []⟩
  | calledOff {p : Probed} {url : String} (own : P e.url = .ok p)
      (silent : ¬speaksAtOwnUrl e desired p = true)
      (advertised : advertisedUrl? p desired = some url) (there : P url = .error .aborted) :
      Judged P desired e fun _ => .skip .aborted
  | elsewhere {p q : Probed} {url : String} (own : P e.url = .ok p)
      (silent : ¬speaksAtOwnUrl e desired p = true)
      (advertised : advertisedUrl? p desired = some url) (there : P url = .ok q)
      (confirmed : q.snapshot.primary = desired) :
      Judged P desired e fun _ => .redirect ⟨e.moved url desired, some q, []⟩
  | nowhere {p : Probed} (own : P e.url = .ok p) (silent : ¬speaksAtOwnUrl e desired p = true)
      (unconfirmed : ∀ url, advertisedUrl? p desired = some url →
        isAborted (P url) = false ∧ ∀ q, P url = .ok q → q.snapshot.primary ≠ desired) :
      Judged P desired e fun mode => mismatched mode e desired p

/-- **The grounds of a judgement are the same in both modes.** -/
theorem judged (P : Soundings) (desired : Nat) (e : Endpoint) :
    ∃ verdict, Judged P desired e verdict ∧ ∀ mode, judge mode desired e P = verdict mode := by
  cases own : P e.url with
  | error fault => exact ⟨_, .unheard own, fun mode => by simp [judge, own]⟩
  | ok p =>
      by_cases speaks : speaksAtOwnUrl e desired p = true
      · exact ⟨_, .here own speaks, fun mode => by simp [judge, own, speaks]⟩
      · cases advertised : advertisedUrl? p desired with
        | none =>
            refine ⟨_, .nowhere own speaks fun url h => ?_, fun mode =>
              judge_of_none own speaks mode advertised⟩
            cases advertised.symm.trans h
        | some url =>
            have hjudge := fun mode => judge_of_some own speaks mode advertised
            -- Where the version is not confirmed there, it is served nowhere.
            have unconfirmed (settled : isAborted (P url) = false)
                (hno : ∀ q, P url = .ok q → q.snapshot.primary ≠ desired) :
                Judged P desired e fun mode => mismatched mode e desired p := by
              refine .nowhere own speaks fun url' h => ?_
              obtain rfl := Option.some.inj (advertised.symm.trans h)
              exact ⟨settled, hno⟩
            cases there : P url with
            | error fault =>
                cases fault with
                | aborted =>
                    refine ⟨_, .calledOff own speaks advertised there, fun mode => ?_⟩
                    rw [hjudge, there]
                    rfl
                | _ =>
                    refine ⟨_, unconfirmed (by rw [there]; rfl) (by rw [there]; nofun),
                      fun mode => ?_⟩
                    rw [hjudge, there]
                    rfl
            | ok q =>
                by_cases confirmed : q.snapshot.primary = desired
                · refine ⟨_, .elsewhere own speaks advertised there confirmed, fun mode => ?_⟩
                  rw [hjudge, there]
                  exact if_pos confirmed
                · refine ⟨_, unconfirmed (by rw [there]; rfl) fun q' h => ?_, fun mode => ?_⟩
                  · cases there.symm.trans h
                    exact confirmed
                  · rw [hjudge, there]
                    exact if_neg confirmed

/-! ## §3. One hop. -/

theorem withoutProbe_strict (c : Endpoint) (desired : Nat) (fault : ProbeFault) :
    withoutProbe .strict c desired fault = .skip fault.skipReason := by
  cases fault <;> rfl

theorem withoutProbe_relaxed (c : Endpoint) (desired : Nat) {fault : ProbeFault}
    (h : fault ≠ .aborted) :
    withoutProbe .relaxed c desired fault
      = .use ⟨c.atVersion desired, none, [unprobedWarning c fault desired]⟩ := by
  cases fault with
  | aborted => exact absurd rfl h
  | _ => rfl

theorem skipReason_ne_aborted {fault : ProbeFault} (h : fault ≠ .aborted) :
    fault.skipReason ≠ .aborted := by
  cases fault with
  | aborted => exact absurd rfl h
  | transport failure => exact fun hreason => nomatch hreason
  | malformed detail => exact fun hreason => nomatch hreason

/-- A refusal that does not call everything off is not passed on. -/
theorem accepted?_skip {desired : Nat} {reason : Call.SkipReason} (h : reason ≠ .aborted) :
    accepted? desired (.skip reason) = none := by
  cases reason with
  | aborted => exact absurd rfl h
  | _ => rfl

/-- Where the probe of a URL failed, neither mode's answer is passed on. -/
theorem accepted?_withoutProbe (mode : Mode) (desired : Nat) (c : Endpoint) {fault : ProbeFault}
    (h : fault ≠ .aborted) : accepted? desired (withoutProbe mode c desired fault) = none := by
  cases mode with
  | strict =>
      rw [withoutProbe_strict]
      exact accepted?_skip (skipReason_ne_aborted h)
  | relaxed =>
      rw [withoutProbe_relaxed c desired h]
      rfl

/-- Nor is it where another version is the primary one. -/
theorem accepted?_mismatched (mode : Mode) {desired : Nat} (c : Endpoint) {q : Probed}
    (h : q.snapshot.primary ≠ desired) :
    accepted? desired (mismatched mode c desired q) = none := by
  cases mode with
  | strict => rfl
  | relaxed => simp [accepted?, mismatched, h]

/-- What to do about an aggregate from the probe of its own URL alone. -/
def judgeAlone (mode : Mode) (desired : Nat) (c : Endpoint) : ProbeOutcome → Resolution
  | .error fault => withoutProbe mode c desired fault
  | .ok q =>
      if speaksAtOwnUrl c desired q then .use ⟨c.atVersion desired, some q, []⟩
      else mismatched mode c desired q

/-- **What a look at the advertised URL comes to**, once it is weighed. -/
theorem accepted?_judgeAlone (mode : Mode) (desired : Nat) (e : Endpoint) (p : Probed)
    (url : String) (o : ProbeOutcome) :
    (accepted? desired (judgeAlone mode desired (e.moved url desired) o)).getD
        (mismatched mode e desired p)
      = judgeDetour mode desired e p url o := by
  cases o with
  | error fault =>
      by_cases h : fault = .aborted
      · subst h
        rfl
      · show (accepted? desired (withoutProbe mode _ desired fault)).getD _ = _
        rw [accepted?_withoutProbe mode desired _ h]
        cases fault with
        | aborted => exact absurd rfl h
        | _ => rfl
  | ok q =>
      by_cases hprimary : q.snapshot.primary = desired
      · have hspeaks : speaksAtOwnUrl (e.moved url desired) desired q = true := by
          simp [speaksAtOwnUrl, hprimary]
        have hdetour : judgeDetour mode desired e p url (.ok q)
            = .redirect ⟨e.moved url desired, some q, []⟩ := if_pos hprimary
        have halone : judgeAlone mode desired (e.moved url desired) (.ok q)
            = .use ⟨(e.moved url desired).atVersion desired, some q, []⟩ := if_pos hspeaks
        rw [hdetour, halone]
        simp only [accepted?, Option.any_some, hprimary, beq_self_eq_true, if_true]
        rfl
      · have hdetour : judgeDetour mode desired e p url (.ok q) = mismatched mode e desired p :=
          if_neg hprimary
        rw [hdetour]
        -- It may advertise itself for the version, which is not enough either.
        by_cases hspeaks : speaksAtOwnUrl (e.moved url desired) desired q = true
        · have halone : judgeAlone mode desired (e.moved url desired) (.ok q)
              = .use ⟨(e.moved url desired).atVersion desired, some q, []⟩ := if_pos hspeaks
          rw [halone]
          simp [accepted?, hprimary]
        · have halone : judgeAlone mode desired (e.moved url desired) (.ok q)
              = mismatched mode (e.moved url desired) desired q := if_neg hspeaks
          rw [halone, accepted?_mismatched mode _ hprimary]
          rfl

/-- Where nothing is followed, only the URL itself is looked at. -/
theorem resolveWithin_zero (w : World) (t : Terms) (desired : Nat) (c : Endpoint) :
    resolveWithin w t desired 0 c
      = (probeOnce w t c).bind fun o => .done (judgeAlone t.mode desired c o) := by
  unfold resolveWithin resolveHop
  rw [Errand.bind_eq]
  congr 1
  funext o
  cases o with
  | error fault => rfl
  | ok q =>
      unfold judgeAlone
      by_cases hspeaks : speaksAtOwnUrl c desired q = true
      · simp only [hspeaks, if_true]
        rfl
      · simp only [hspeaks]
        cases advertisedUrl? q desired <;> rfl

/-- **Negotiation takes its soundings and judges by them.** -/
theorem resolve_eq_judge (w : World) (t : Terms) (desired : Nat) (e : Endpoint) :
    resolve w t desired e
      = (sound w t desired e).bind fun soundings => .done (judge t.mode desired e soundings) := by
  unfold resolve resolveWithin resolveHop sound
  rw [Errand.bind_eq, Errand.bind_eq, Errand.bind_assoc]
  congr 1
  funext own
  cases own with
  | error fault => rfl
  | ok p =>
      by_cases hspeaks : speaksAtOwnUrl e desired p = true
      · have hdetour : detour? e desired (.ok p) = none := if_pos hspeaks
        simp only [hspeaks, if_true, hdetour]
        simp [judge, hspeaks]
      · have hdetour := detour?_of_silent hspeaks
        simp only [hspeaks, hdetour]
        cases hurl : advertisedUrl? p desired with
        | none => simp [judge, hspeaks, hurl]
        | some url =>
            have hother : url ≠ e.url := detour?_ne (hdetour.trans hurl)
            simp only [Errand.bind_eq, resolveWithin_zero, Errand.bind_assoc]
            show (probeOnce w t _).bind _ = (probeOnce w t _).bind _
            congr 1
            funext there
            simp only [Errand.bind_done, Errand.pure_eq]
            rw [accepted?_judgeAlone]
            unfold judge
            rw [sounded_home]
            simp [hspeaks, hurl, sounded_of_ne _ _ hother]

end Federation.Version
