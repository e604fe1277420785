/-
  Federation.Proofs.Invocation.Meeting
  ────────────────────────────────────
  **WHEN ONE URL IS CALLED TWICE.**

  The slots of an invocation have pairwise different URLs, and each is
  called at most once.  But negotiation may send the call of a slot to
  another URL, and nobody looks whether that one is called for another slot
  as well.  So one URL is called twice exactly where two visits meet: both
  calls were sent to it, and at least one of them had been redirected there,
  to a URL that its own aggregate advertises and that confirmed the version.

  Main results:
    * `toured_nodup_iff` — when a round calls no URL twice;
    * `url_called_once_iff` — when an invocation calls no URL twice.
-/
import Federation.Proofs.Directory.Resolution
import Federation.Proofs.Invocation.Faults

namespace Federation

open Call (Visit)
open Introspection (probeMethod)
open Version (Agreed Agreement speaksAtOwnUrl advertisedUrl?)

/-! ## §1. Visits that meet. -/

/-- A visit that was redirected to a URL: it is advertised at the URL of the
slot, where the desired version is not spoken, and it confirmed the
version. -/
def Detoured (t : Session) (desired : Nat) (v : Visit) (url : String) : Prop :=
  v.redirected = true ∧ ∃ p q,
    (v.slot.url, .ok p) ∈ t.memo ∧ speaksAtOwnUrl v.slot desired p = false ∧
      advertisedUrl? p desired = some url ∧ (url, .ok q) ∈ t.memo ∧
      q.snapshot.primary = desired

/-- Two visits that called one URL, because one of them was redirected
there. -/
def Meet (t : Session) (desired : Nat) (a b : Visit) : Prop :=
  ∃ url, a.calledUrl? = some url ∧ b.calledUrl? = some url ∧
    (Detoured t desired a url ∨ Detoured t desired b url)

namespace Engine

variable {w : World} {g : Engine} {i : Invocation} {credentials : List Credential}
  {version : Nat} {t : Session}

/-- A visit calls the URL of its slot or was redirected. -/
theorem calledUrl_of_visited {slot : Endpoint} {own : List Request} {v : Visit} {url : String}
    (h : Call.Visited w (g.itinerary i credentials version) slot t own (.ok v))
    (hurl : v.calledUrl? = some url) : url = v.slot.url ∨ Detoured t version v url := by
  rcases calls_of_visited h with ⟨hskipped, -⟩ | ⟨r, -, hcalled⟩
  · unfold Call.Visit.calledUrl? at hurl
    rw [hskipped] at hurl
    cases hurl
  · rw [hcalled.calledUrl?] at hurl
    cases hcalled with
    | made hop agreement speaks built prepared delivered invoked =>
        obtain rfl := Option.some.inj hurl
        cases agreement with
        | own _ _ => exact .inl rfl
        | detour heard silent advertised heardThere confirmed =>
            exact .inr ⟨rfl, _, _, heard, silent, advertised, heardThere, confirmed⟩
        | unheard _ _ _ => exact .inl rfl
        | mismatch _ _ => exact .inl rfl

/-- **In a round no URL is called twice exactly where no two visits meet.** -/
theorem toured_nodup_iff {endpoints : List Endpoint} {sent : List Request}
    {parts : List (List Request × Visit)} (resolved : g.named i = .ok endpoints)
    (toured : Toured w (g.itinerary i credentials version) endpoints t sent parts) :
    ((callsOf sent).map (·.url)).Nodup ↔
      (parts.map Prod.snd).Pairwise fun a b => ¬Meet t version a b := by
  have hslots : (parts.map Prod.snd).Pairwise fun a b => a.slot.url ≠ b.slot.url := by
    have hpairwise := Directory.Sources.resolve_pairwise resolved
    rw [← slots_of_toured toured, List.pairwise_map] at hpairwise
    exact hpairwise
  have hurls : ∀ v ∈ parts.map Prod.snd, ∀ url, v.calledUrl? = some url →
      url = v.slot.url ∨ Detoured t version v url := by
    intro v hv url hurl
    obtain ⟨part, hpart, rfl⟩ := List.mem_map.1 hv
    obtain ⟨slot, -, hvisit⟩ := exists_left_of_mem toured.1 hpart
    exact calledUrl_of_visited hvisit hurl
  -- The URLs that are called are those of the visits, in some order.
  rw [(calls_of_toured toured).1.nodup_iff]
  unfold List.Nodup
  rw [List.pairwise_filterMap]
  constructor
  · intro h
    refine h.imp fun {a b} hne hmeet => ?_
    obtain ⟨url, ha, hb, -⟩ := hmeet
    exact hne url ha url hb rfl
  · intro h
    refine (h.and hslots).imp_of_mem fun {a b} hamem hbmem hab url ha url' hb heq => ?_
    subst heq
    -- Two visits that were not redirected call different URLs.
    rcases hurls a hamem url ha with hown | hdetour
    · rcases hurls b hbmem url hb with hown' | hdetour'
      · exact hab.2 (hown.symm.trans hown')
      · exact hab.1 ⟨url, ha, hb, .inr hdetour'⟩
    · exact hab.1 ⟨url, ha, hb, .inl hdetour⟩

/-- **When no URL is called twice**: where an invocation ends without a report
never, and otherwise exactly where no two visits that it reports meet. -/
theorem url_called_once_iff (w : World) (g : Engine) (i : Invocation) (s : Session) :
    ∃ sent, (ExceptT.run (g.run w i) s).2.requests = s.requests ++ sent ∧
      match (ExceptT.run (g.run w i) s).1 with
      | .error _ => ((callsOf sent).map (·.url)).Nodup
      | .ok report => ((callsOf sent).map (·.url)).Nodup ↔
          (report.outcomes.map (·.visit)).Pairwise fun a b =>
            ¬Meet (ExceptT.run (g.run w i) s).2 report.version a b := by
  obtain ⟨sent, hlog, hcourse⟩ := course_run w g i s
  refine ⟨sent, hlog, ?_⟩
  generalize ExceptT.run (g.run w i) s = result at hcourse hlog ⊢
  obtain ⟨outcome, t⟩ := result
  cases outcome with
  | error fault =>
      -- Without a report there was one call at most.
      show ((callsOf sent).map (·.url)).Nodup
      rcases hcourse.keepsTo.calls with hnone | ⟨call, hone⟩
      · rw [hnone]
        exact List.nodup_nil
      · rw [hone]
        exact List.pairwise_singleton _ _
  | ok report =>
      cases hcourse with
      | @reported endpoints credentials version message probes sent parts launched _ toured _ =>
          show ((callsOf (probes ++ sent)).map (·.url)).Nodup ↔ _
          rw [callsOf_append, callsOf_eq_nil_iff.2 launched.quiet, List.nil_append,
            visits_reportOn]
          exact toured_nodup_iff launched.resolved toured

end Engine

/-! ## §2. Two slots that meet. -/

namespace Crossing

/-- What an aggregate says of itself: its version, and the URLs of others. -/
def reply (primary : Nat) (others : List (String × String)) : Json :=
  .object [("geni_api", .nat primary),
    ("geni_api_versions", .object (others.map fun (version, url) => (version, .string url)))]

/-- An aggregate at version 3 that sends version 2 to the other one. -/
def world : World where
  transport := fun _ r =>
    if r.method ≠ probeMethod then ⟨.ok (reply 0 []), false⟩
    else if r.url = "http://[::1]" then ⟨.ok (reply 3 [("2", "http://[::2]")]), false⟩
    else ⟨.ok (reply 2 []), false⟩
  clock := fun _ => Time.Instant.epoch
  writes := fun _ => true
  credential := fun _ => .ok (Credential.sfa "document")
  keepsProof := fun _ _ => true

/-- Both aggregates are to stop a slice. -/
def invocation : Invocation :=
  ⟨.shutdown, ["http://[::1]", "http://[::2]"], { Arguments.none with slice := some "urn:s" },
    Call.Intent.plain, none, false, none⟩

end Crossing

set_option maxRecDepth 10000 in
/-- **A URL may be called twice**: once for its own slot, and once for the
slot that is redirected there. -/
theorem url_called_twice :
    ¬∀ (w : World) (g : Engine) (i : Invocation) (s : Session) (sent : List Request),
      i.operation ≠ .getVersion →
      (ExceptT.run (g.run w i) s).2.requests = s.requests ++ sent →
      ((callsOf sent).map (·.url)).Nodup := by
  intro h
  have hnodup := h Crossing.world Engine.plain Crossing.invocation (Session.start .absent) _
    (by decide) (List.nil_append _).symm
  have hurls : (callsOf (ExceptT.run (Engine.plain.run Crossing.world Crossing.invocation)
      (Session.start .absent)).2.requests).map (·.url) = ["http://[::2]", "http://[::2]"] := by
    decide +kernel
  rw [hurls] at hnodup
  exact absurd hnodup (by decide)

end Federation
