/-
  Federation.Proofs.Introspection.Survey
  ──────────────────────────────────────
  **PROBES WHERE NOTHING CHANGES.**

  Where replies depend on nothing but the request, the clock stands still and
  no signal comes, what the probe of an endpoint yields is known beforehand:
  the record that was kept, if it is fresh, and otherwise what is made of the
  reply (`Scene.sounding`).  It does not matter who else probes meanwhile,
  with two exceptions.  One who comes second may find the first one's reply
  in the store, which shows in when it was fetched and where it was found,
  and in nothing else (`gist`).  And one who comes second is told of a
  failure in the words for the one who came first, whom they name.

  A `Survey` is a scene, where it began, who may ask, and what is known
  already.  What holds of the session throughout is its conduct.

  Main results:
    * `gist_of_usable` — a record of a reply says what the reply says;
    * `Survey.meets_probe` — what a probe yields in a survey.
-/
import Federation.Proofs.Introspection.Probe

namespace Federation

open Call (classify)

/-! ## §1. Scenes. -/

/-- All that an outcome may depend on where nothing changes. -/
structure Introspection.Scene where
  /-- By URL, method and arguments. -/
  replies : String → String → List Json → Except String Json
  now : Time.Instant
  policy : Introspection.ProbePolicy
  /-- Whether what was kept is passed over. -/
  force : Bool
  kept : String → Option Introspection.Record

/-- Whether nothing changes in a world, and it answers as in a scene. -/
structure World.Steady (w : World) (c : Introspection.Scene) : Prop where
  transport : ∀ before r, w.transport before r = ⟨c.replies r.url r.method r.arguments, false⟩
  clock : ∀ n, w.clock n = c.now
  interrupts : ∀ n, w.interrupts n = false

namespace Introspection

/-- A probe result apart from when it was fetched and where it was found. -/
def Probed.gist (p : Probed) : Probed :=
  ⟨{ p.snapshot with fetchedAt := Time.Instant.epoch }, p.capabilities, false⟩

/-- An outcome apart from when it was fetched and where it was found. -/
def gist (o : ProbeOutcome) : ProbeOutcome := o.map Probed.gist

theorem isAborted_gist (o : ProbeOutcome) : isAborted (gist o) = isAborted o := by
  cases o with
  | ok p => rfl
  | error fault => rfl

/-- What a record is good for at a moment. -/
def usable? (p : ProbePolicy) (now : Time.Instant) (r : Record) : Option Probed :=
  (r.snapshot?.filter (·.isFresh p.maxAge now)).map fun s => ⟨s, r.capabilities, true⟩

namespace Scene

variable (c : Scene)

/-- Whether what was kept counts. -/
def consults : Bool := !c.force && c.policy.useCache

/-- What is found in a record. -/
def find? (r : Option Record) : Option Probed :=
  if c.consults then r.bind (usable? c.policy c.now) else none

/-- What is found in what was kept. -/
def stored? (url : String) : Option Probed := c.find? (c.kept url)

/-- **What is made of the reply to an endpoint's probe.** -/
def live (e : Endpoint) : ProbeOutcome :=
  match c.replies e.url probeMethod [] with
  | .error raw => .error (.transport (classify e raw c.policy.timeout))
  | .ok reply =>
      match ofReply reply c.now with
      | .error fault => .error (.malformed fault.message)
      | .ok (capabilities, snapshot) => .ok ⟨snapshot, capabilities, false⟩

/-- **What the probe of an endpoint yields**, if nobody else asks. -/
def sounding (e : Endpoint) : ProbeOutcome :=
  match c.stored? e.url with
  | some p => .ok p
  | none => c.live e

variable {c}

theorem sounding_of_stored {e : Endpoint} {p : Probed} (h : c.stored? e.url = some p) :
    c.sounding e = .ok p := by
  unfold sounding
  rw [h]

theorem sounding_of_unstored {e : Endpoint} (h : c.stored? e.url = none) :
    c.sounding e = c.live e := by
  unfold sounding
  rw [h]

theorem live_not_aborted (c : Scene) (e : Endpoint) : isAborted (c.live e) = false := by
  unfold live
  cases c.replies e.url probeMethod [] with
  | error raw => rfl
  | ok reply =>
      dsimp only
      cases ofReply reply c.now <;> rfl

/-- No probe is called off. -/
theorem sounding_not_aborted (c : Scene) (e : Endpoint) : isAborted (c.sounding e) = false := by
  cases h : c.stored? e.url with
  | some p =>
      rw [sounding_of_stored h]
      rfl
  | none =>
      rw [sounding_of_unstored h]
      exact live_not_aborted c e

end Scene

/-! ## §2. Records of replies. -/

/-- The time of a reply is all that a snapshot has from elsewhere. -/
theorem ofCapabilities_at (capabilities : Json) (t u : Time.Instant) :
    Snapshot.ofCapabilities capabilities t
      = (Snapshot.ofCapabilities capabilities u).map fun s => { s with fetchedAt := t } := by
  unfold Snapshot.ofCapabilities
  split
  · rfl
  · split <;> rfl

/-- A snapshot is made of the capabilities that come with it. -/
theorem ofReply_ok {reply capabilities : Json} {snapshot : Snapshot} {t : Time.Instant}
    (h : ofReply reply t = .ok (capabilities, snapshot)) :
    Snapshot.ofCapabilities capabilities t = .ok snapshot := by
  unfold ofReply at h
  cases hlocate : locate reply with
  | error fault =>
      rw [hlocate] at h
      cases h
  | ok found =>
      rw [hlocate] at h
      cases hsnapshot : Snapshot.ofCapabilities found t with
      | error fault =>
          have h' : (Snapshot.ofCapabilities found t).map (fun s => (found, s))
              = .ok (capabilities, snapshot) := h
          rw [hsnapshot] at h'
          cases h'
      | ok s =>
          have h' : (Snapshot.ofCapabilities found t).map (fun s => (found, s))
              = .ok (capabilities, snapshot) := h
          rw [hsnapshot] at h'
          cases h'
          exact hsnapshot

/-- What is used of a record had no error noted. -/
theorem usable?_some {p : ProbePolicy} {now : Time.Instant} {r : Record} {found : Probed}
    (h : usable? p now r = some found) :
    r.error = none ∧ r.snapshot? = some found.snapshot ∧ found.capabilities = r.capabilities := by
  unfold usable? at h
  obtain ⟨s, hs, rfl⟩ := Option.map_eq_some_iff.1 h
  obtain ⟨hsnapshot, hfresh⟩ := Option.filter_eq_some_iff.1 hs
  refine ⟨?_, hsnapshot, rfl⟩
  unfold Snapshot.isFresh at hfresh
  rw [Record.snapshot?_lastError hsnapshot] at hfresh
  cases hr : r.error with
  | none => rfl
  | some message =>
      rw [hr] at hfresh
      cases hfresh

/-- What a store is good for, where it is consulted. -/
theorem Scene.find?_of_store {c : Scene} (consults : c.consults = true) (store : Store)
    (url : String) :
    c.find? (store.records.get? url)
      = (store.get? url).bind fun (s, capabilities) =>
          if s.isFresh c.policy.maxAge c.now then some ⟨s, capabilities, true⟩ else none := by
  unfold find? Store.get?
  rw [if_pos consults]
  cases store.records.get? url with
  | none => rfl
  | some r =>
      unfold usable?
      rw [Option.bind_some, Option.bind_some]
      cases r.snapshot? with
      | none => rfl
      | some s =>
          rw [Option.map_some, Option.bind_some]
          by_cases hfresh : s.isFresh c.policy.maxAge c.now = true
          · simp [Option.filter, hfresh]
          · simp [Option.filter, hfresh]

/-- What had an error noted is of no use. -/
theorem usable?_of_error {p : ProbePolicy} {now : Time.Instant} {r : Record}
    (h : r.error ≠ none) : usable? p now r = none := by
  cases hfound : usable? p now r with
  | none => rfl
  | some found => exact absurd (usable?_some hfound).1 h

/-- **A record of a reply says what the reply says**, apart from the time. -/
theorem gist_of_usable {p : ProbePolicy} {now t : Time.Instant} {e : Endpoint}
    {capabilities : Json} {snapshot : Snapshot} {found : Probed}
    (made : Snapshot.ofCapabilities capabilities t = .ok snapshot)
    (h : usable? p now (Store.freshRecord e capabilities t) = some found) :
    found.gist = Probed.gist ⟨snapshot, capabilities, false⟩ := by
  obtain ⟨-, hsnapshot, hcapabilities⟩ := usable?_some h
  generalize hat : (Store.freshRecord e capabilities t).fetchedAt = u
  have hmade : Snapshot.ofCapabilities capabilities u = .ok { snapshot with fetchedAt := u } := by
    rw [ofCapabilities_at capabilities u t, made]
    rfl
  unfold Record.snapshot? at hsnapshot
  have hrecord : (Store.freshRecord e capabilities t).capabilities = capabilities := rfl
  rw [hat, hrecord, hmade] at hsnapshot
  have hfound : { snapshot with fetchedAt := u, lastError := none } = found.snapshot :=
    Option.some.inj hsnapshot
  unfold Probed.gist
  rw [hcapabilities, ← hfound, ← (Snapshot.madeOf made).lastError, hrecord]

/-! ## §3. Surveys. -/

end Introspection

open Introspection (Probed ProbeOutcome ProbePolicy Scene gist isAborted probeMethod probeRequest)

/-- Whether anybody was asked for the versions at a URL in the meantime. -/
def Session.AskedSince (origin s : Session) (url : String) : Prop :=
  ∃ sent, s.requests = origin.requests ++ sent ∧ ∃ r ∈ sent, r.url = url ∧ r.method = probeMethod

theorem Session.AskedSince.later {origin s t : Session} {url : String}
    (h : origin.AskedSince s url) (hst : s.requests <+: t.requests) :
    origin.AskedSince t url := by
  obtain ⟨sent, hsent, r, hr, hprobe⟩ := h
  obtain ⟨more, hmore⟩ := hst
  refine ⟨sent ++ more, ?_, r, List.mem_append_left more hr, hprobe⟩
  rw [← hmore, hsent, List.append_assoc]

/-- A scene in which endpoints are probed. -/
structure Survey where
  scene : Scene
  /-- Where it began. -/
  origin : Session
  /-- Who may be probed. -/
  Asks : Endpoint → Prop
  /-- What was known before anybody was probed. -/
  Known : String → Prop

namespace Survey

/-- **What the probe of an endpoint may yield**: what it would yield if nobody
else asked, or what somebody else's probe left in the store. -/
inductive Yields (v : Survey) (s : Session) (e : Endpoint) (own : List Request) :
    ProbeOutcome → Prop
  | itself : Yields v s e own (v.scene.sounding e)
  | left {o : ProbeOutcome} (silent : own = []) (asked : v.origin.AskedSince s e.url)
      (same : gist o = gist (v.scene.sounding e)) : Yields v s e own o

/-- **What holds throughout a survey.** -/
structure Holds (v : Survey) (s : Session) : Prop where
  calm : s.aborted = false
  log : v.origin.requests <+: s.requests
  /-- Records change for those who were asked only. -/
  untouched : ∀ url, ¬v.origin.AskedSince s url →
    v.scene.find? (s.store.records.get? url) = v.scene.stored? url
  /-- What was kept and is of use stays. -/
  kept : ∀ url p, v.scene.stored? url = some p →
    v.scene.find? (s.store.records.get? url) = some p
  /-- Whatever is of use says what a probe would say. -/
  alike : ∀ e p, v.scene.find? (s.store.records.get? e.url) = some p →
    gist (.ok p) = gist (v.scene.sounding e)
  memo : ∀ url o, (url, o) ∈ s.memo → ∃ e, v.Asks e ∧ e.url = url ∧ v.Yields s e [] o
  known : ∀ url, v.Known url → url ∈ Keyed.keys s.memo

/-- The conduct of a survey. -/
def conduct (v : Survey) : Conduct Session Request where
  log := Session.requests
  allows s t := s.requests <+: t.requests ∧ (v.Holds s → v.Holds t)
  refl _ := ⟨List.prefix_rfl, id⟩
  trans h k := ⟨h.1.trans k.1, fun hr => k.2 (h.2 hr)⟩

theorem Yields.later {v : Survey} {s t : Session} {e : Endpoint} {own : List Request}
    {o : ProbeOutcome} (h : v.Yields s e own o) (hst : s.requests <+: t.requests) :
    v.Yields t e own o := by
  cases h with
  | itself => exact .itself
  | left silent asked same => exact .left silent (asked.later hst) same

section

variable {v : Survey} {s t : Session}

/-- What is sent does no harm, nor does what nobody looks at. -/
theorem Holds.later (h : v.Holds s) (requests : s.requests <+: t.requests)
    (memo : t.memo = s.memo) (aborted : t.aborted = s.aborted)
    (records : t.store.records = s.store.records) : v.Holds t where
  calm := aborted.trans h.calm
  log := h.log.trans requests
  untouched url hnot := by
    rw [records]
    exact h.untouched url fun hs => hnot (hs.later requests)
  kept := by
    rw [records]
    exact h.kept
  alike := by
    rw [records]
    exact h.alike
  memo url o hmem := by
    rw [memo] at hmem
    obtain ⟨e, asks, hurl, yields⟩ := h.memo url o hmem
    exact ⟨e, asks, hurl, yields.later requests⟩
  known := by
    rw [memo]
    exact h.known

/-- **A record may change** after its aggregate was asked, where nothing of
use was kept, and as long as it says what a probe would say. -/
theorem Holds.changed (h : v.Holds s) (halike : s.Alike t) {url : String}
    (asked : v.origin.AskedSince s url) (unstored : v.scene.stored? url = none)
    (others : ∀ other, url ≠ other →
      t.store.records.get? other = s.store.records.get? other)
    (truthful : ∀ e p, e.url = url → v.scene.find? (t.store.records.get? url) = some p →
      gist (.ok p) = gist (v.scene.sounding e)) : v.Holds t := by
  have requests : s.requests <+: t.requests := halike.requests ▸ List.prefix_rfl
  have same : ∀ other, other ≠ url →
      t.store.records.get? other = s.store.records.get? other := fun other hne =>
    others other (Ne.symm hne)
  exact {
    calm := halike.aborted.trans h.calm
    log := h.log.trans requests
    untouched := fun other hnot => by
      by_cases hother : other = url
      · subst hother
        exact absurd (asked.later requests) hnot
      · rw [same other hother]
        exact h.untouched other fun hs => hnot (hs.later requests)
    kept := fun other p hstored => by
      by_cases hother : other = url
      · subst hother
        cases unstored.symm.trans hstored
      · rw [same other hother]
        exact h.kept other p hstored
    alike := fun e p hfound => by
      by_cases hother : e.url = url
      · rw [hother] at hfound
        exact truthful e p hother hfound
      · rw [same e.url hother] at hfound
        exact h.alike e p hfound
    memo := fun other o hmem => by
      rw [halike.memo] at hmem
      obtain ⟨e, asks, hurl, yields⟩ := h.memo other o hmem
      exact ⟨e, asks, hurl, yields.later requests⟩
    known := by
      rw [halike.memo]
      exact h.known }

/-- More may be asked and known in a survey than was. -/
theorem Holds.widen (h : v.Holds s) {Asks : Endpoint → Prop} {Known : String → Prop}
    (asks : ∀ e, v.Asks e → Asks e) (known : ∀ url, Known url → url ∈ Keyed.keys s.memo) :
    (⟨v.scene, v.origin, Asks, Known⟩ : Survey).Holds s where
  calm := h.calm
  log := h.log
  untouched := h.untouched
  kept := h.kept
  alike := h.alike
  memo url o hmem := by
    obtain ⟨e, he, hurl, yields⟩ := h.memo url o hmem
    refine ⟨e, asks e he, hurl, ?_⟩
    cases yields with
    | itself => exact .itself
    | left silent asked same => exact .left silent asked same
  known := known

/-- What a probe yielded may be remembered. -/
theorem Holds.remember (h : v.Holds s) {e : Endpoint} {o : ProbeOutcome} (asks : v.Asks e)
    (yields : v.Yields s e [] o) : v.Holds (Action.remember e.url o s).2 where
  calm := h.calm
  log := h.log
  untouched := h.untouched
  kept := h.kept
  alike := h.alike
  memo url o' hmem := by
    rcases List.mem_cons.1 hmem with heq | hmem
    · obtain ⟨rfl, rfl⟩ := Prod.mk.inj heq
      exact ⟨e, asks, rfl, yields.later List.prefix_rfl⟩
    · obtain ⟨a, hasks, hurl, hyields⟩ := h.memo url o' hmem
      exact ⟨a, hasks, hurl, hyields.later List.prefix_rfl⟩
  known url hknown := List.mem_cons_of_mem _ (h.known url hknown)

end

/-! ## §4. Single actions. -/

section

variable {α β : Type} {v : Survey} {w : World} {s : Session}
  {goal : Session → List Request → β → Prop}

/-- An action that changes nothing of a survey, and what comes after it. -/
theorem meets_alike {action : Action α} {f : α → Errand Session β} (hs : v.Holds s)
    (halike : ∀ t : Session, t.Alike (action t).2)
    (hrecords : ∀ t : Session, (action t).2.store.records = t.store.records)
    (h : ∀ t, v.conduct.allows s t → v.Holds t →
      (f (action t).1).Meets v.conduct (action t).2 goal) :
    ((Errand.ofAction action).bind f).Meets v.conduct s goal := by
  refine Errand.meets_quiet fun t ht => ?_
  have hsame := halike t
  have hlater : t.requests <+: (action t).2.requests := hsame.requests ▸ List.prefix_rfl
  exact ⟨⟨hlater, fun ht => ht.later hlater hsame.memo hsame.aborted (hrecords t)⟩,
    hsame.requests, h t ht (ht.2 hs)⟩

/-- No signal comes. -/
theorem meets_stopped {f : Bool → Errand Session β} (steady : w.Steady v.scene) (hs : v.Holds s)
    (h : ∀ t, v.conduct.allows s t → (f false).Meets v.conduct t goal) :
    ((Errand.ofAction (Action.stopped w)).bind f).Meets v.conduct s goal := by
  refine Errand.meets_quiet fun t ht => ?_
  have hgo : ∀ u : Session, (Action.stopped w u).1 = u.aborted := fun u => by
    show (u.aborted || w.interrupts u.looks) = u.aborted
    rw [steady.interrupts, Bool.or_false]
  have hlook : v.conduct.allows t (Action.stopped w t).2 :=
    ⟨List.prefix_rfl, fun ht => ht.later List.prefix_rfl rfl (hgo t) rfl⟩
  refine ⟨hlook, rfl, ?_⟩
  rw [hgo, (ht.2 hs).calm]
  exact h _ (v.conduct.trans ht hlook)

/-- **What is sent is answered by the scene.** -/
theorem meets_send (steady : w.Steady v.scene) (hs : v.Holds s) (r : Request) :
    (send w r).Meets v.conduct s fun t own reply =>
      own = [r] ∧ reply = v.scene.replies r.url r.method r.arguments ∧
        (r.method = probeMethod → v.origin.AskedSince t r.url) := by
  refine Errand.meets_act fun t ht => ?_
  have hposted : t.requests <+: t.requests ++ [r] := List.prefix_append _ _
  refine ⟨⟨hposted, fun ht => ht.later hposted rfl rfl rfl⟩, [r], rfl, ?_⟩
  -- The reply is settled by now, whatever the others do until it is taken in.
  show (Action.receive (w.transport t.requests r) : Errand Session _).Meets _ _ _
  rw [steady.transport]
  intro u hu
  refine ⟨⟨List.prefix_rfl, fun h => h.later List.prefix_rfl rfl (Bool.or_false _) rfl⟩, [],
    (List.append_nil _).symm, fun x hx => ⟨rfl, rfl, fun hprobe => ?_⟩⟩
  obtain ⟨sent, hsent⟩ := (ht.2 hs).log
  have hasked : v.origin.AskedSince { t with requests := t.requests ++ [r] } r.url := by
    refine ⟨sent ++ [r], ?_, r, by simp, rfl, hprobe⟩
    show t.requests ++ [r] = _
    rw [← hsent, List.append_assoc]
  exact hasked.later (hu.1.trans hx.1)

/-- What was learnt may be put into the store, and what comes after it. -/
theorem meets_change {e : Endpoint} {change : Introspection.Store → Bool → Introspection.Store}
    {f : Bool → Errand Session β} (asked : v.origin.AskedSince s e.url)
    (unstored : v.scene.stored? e.url = none)
    (others : ∀ store written other, e.url ≠ other →
      (change store written).records.get? other = store.records.get? other)
    (truthful : ∀ store written a p, a.url = e.url →
      v.scene.find? ((change store written).records.get? e.url) = some p →
        gist (.ok p) = gist (v.scene.sounding a))
    (h : ∀ t written, v.conduct.allows s t → (f written).Meets v.conduct t goal) :
    ((Errand.ofAction (Action.changeStore w change)).bind f).Meets v.conduct s goal := by
  refine Errand.meets_quiet fun t ht => ?_
  have hchange : v.conduct.allows t (Action.changeStore w change t).2 :=
    ⟨List.prefix_rfl, fun hheld => hheld.changed ⟨rfl, rfl, rfl⟩ (asked.later ht.1) unstored
      (fun other => others _ _ other) (fun a p => truthful _ _ a p)⟩
  exact ⟨hchange, rfl, h _ _ (v.conduct.trans ht hchange)⟩

end

/-! ## §5. Probes. -/

section

variable {v : Survey} {w : World} {s : Session}

/-- **What is found in the store**, and what it means that nothing is. -/
theorem meets_fromStore (steady : w.Steady v.scene) (hs : v.Holds s)
    (consults : v.scene.consults = true) (e : Endpoint) :
    (Introspection.fromStore w v.scene.policy e.url).Meets v.conduct s fun t own found =>
      own = [] ∧ (∀ p, found = some p → v.Yields t e [] (.ok p)) ∧
        (found = none → v.scene.stored? e.url = none) := by
  -- All is settled by what the record was when it was looked up.
  have hfound : ∀ t u : Session, v.Holds t → t.requests <+: u.requests → ∀ found,
      found = v.scene.find? (t.store.records.get? e.url) →
        (∀ p, found = some p → v.Yields u e [] (.ok p)) ∧
          (found = none → v.scene.stored? e.url = none) := by
    rintro t u ht htu found rfl
    refine ⟨fun p hp => ?_, fun hnone => ?_⟩
    · cases hstored : v.scene.stored? e.url with
      | some q =>
          obtain rfl := Option.some.inj ((ht.kept e.url q hstored).symm.trans hp)
          rw [← Scene.sounding_of_stored hstored]
          exact .itself
      | none =>
          have hasked : v.origin.AskedSince t e.url := by
            refine Classical.byContradiction fun hnot => ?_
            cases (hp.symm.trans (ht.untouched e.url hnot)).trans hstored
          exact .left rfl (hasked.later htu) (ht.alike e p hp)
    · cases hstored : v.scene.stored? e.url with
      | none => rfl
      | some q => cases hnone.symm.trans (ht.kept e.url q hstored)
  simp only [Introspection.fromStore, Errand.bind_eq, Errand.liftM_eq]
  refine meets_alike hs (fun _ => ⟨rfl, rfl, rfl⟩) (fun _ => rfl) fun t _ ht => ?_
  have hlookup := Scene.find?_of_store consults t.store e.url
  have hget : (Action.consult (·.get? e.url) t).1 = t.store.get? e.url := rfl
  have hloaded : v.Holds (Action.consult (·.get? e.url) t).2 :=
    ht.later List.prefix_rfl rfl rfl rfl
  rw [hget]
  cases hstore : t.store.get? e.url with
  | none =>
      rw [hstore] at hlookup
      exact fun u hu => ⟨rfl, hfound t u ht hu.1 none hlookup.symm⟩
  | some found =>
      rw [hstore] at hlookup
      refine meets_alike hloaded (fun _ => ⟨rfl, rfl, rfl⟩) (fun _ => rfl) fun u hu _ => ?_
      have hnow : (Action.now w u).1 = v.scene.now := steady.clock _
      rw [hnow]
      exact fun x hx => ⟨rfl, hfound t x ht (hu.1.trans hx.1) _ hlookup.symm⟩

/-- Where a reply came, an endpoint at the URL yields what is made of it. -/
theorem sounding_of_made {c : Scene} {e a : Endpoint} {reply capabilities : Json}
    {snapshot : Introspection.Snapshot} (hurl : a.url = e.url)
    (unstored : c.stored? e.url = none) (replied : c.replies e.url probeMethod [] = .ok reply)
    (made : Introspection.ofReply reply c.now = .ok (capabilities, snapshot)) :
    c.sounding a = .ok ⟨snapshot, capabilities, false⟩ := by
  rw [Scene.sounding_of_unstored (hurl ▸ unstored)]
  unfold Scene.live
  rw [hurl, replied]
  dsimp only
  rw [made]

/-- No record with an error noted is of use. -/
theorem find?_withError {c : Scene} {records : Introspection.Records} {e : Endpoint}
    {message : String} :
    c.find? ((Introspection.Store.withError records e message).get? e.url) = none := by
  have herror : (Introspection.Store.flawed records e message).error ≠ none := by
    rw [Introspection.Store.error_flawed]
    exact Option.some_ne_none message
  rw [Introspection.Store.withError_eq_insert, Keyed.get?_insert_self]
  unfold Scene.find?
  split
  · rw [Option.bind_some]
    exact Introspection.usable?_of_error herror
  · rfl

/-- To note an error leaves nothing of use. -/
theorem meets_noteError {e : Endpoint} {message : String} {β : Type}
    {f : Unit → Errand Session β} {goal : Session → List Request → β → Prop}
    (asked : v.origin.AskedSince s e.url) (unstored : v.scene.stored? e.url = none)
    (h : ∀ t, v.conduct.allows s t → (f ()).Meets v.conduct t goal) :
    ((Errand.ofAction (Introspection.noteError w e message)).bind f).Meets v.conduct s goal := by
  refine meets_change (w := w) (f := fun _ => f ()) asked unstored
    (fun store written _ hne => store.records_markError_ne e message written hne)
    (fun store written a p _ hp => ?_) fun t _ ht => h t ht
  cases find?_withError.symm.trans hp

/-- What is made of a reply, and what is put into the store. -/
theorem meets_settleReply (steady : w.Steady v.scene) (hs : v.Holds s) {e : Endpoint}
    (asked : v.origin.AskedSince s e.url) (unstored : v.scene.stored? e.url = none)
    {reply : Json} (replied : v.scene.replies e.url probeMethod [] = .ok reply) :
    (Introspection.settleReply w e reply).Meets v.conduct s fun _ own o =>
      own = [] ∧ o = v.scene.sounding e := by
  simp only [Introspection.settleReply, Errand.bind_eq, Errand.liftM_eq]
  refine meets_alike hs (fun _ => ⟨rfl, rfl, rfl⟩) (fun _ => rfl) fun t ht _ => ?_
  have hnow : (Action.now w t).1 = v.scene.now := steady.clock _
  have hasked : v.origin.AskedSince (Action.now w t).2 e.url := asked.later ht.1
  rw [hnow]
  cases made : Introspection.ofReply reply v.scene.now with
  | error fault =>
      refine meets_noteError hasked unstored fun u _ => fun _ _ => ⟨rfl, ?_⟩
      rw [Scene.sounding_of_unstored unstored]
      unfold Scene.live
      rw [replied]
      dsimp only
      rw [made]
  | ok found =>
      obtain ⟨capabilities, snapshot⟩ := found
      refine meets_change hasked unstored
        (fun store written other hne => Introspection.Store.records_put_ne _ _ _ _ _ hne)
        (fun store written a p ha hp => ?_)
        fun u _ _ => fun _ _ => ⟨rfl, (sounding_of_made rfl unstored replied made).symm⟩
      -- The record was made of the reply, so that is what it says.
      rw [sounding_of_made ha unstored replied made]
      have hput : (store.put e capabilities v.scene.now written).records.get? e.url
          = some (Introspection.Store.freshRecord e capabilities v.scene.now) :=
        Keyed.get?_insert_self _ _ _
      rw [hput] at hp
      unfold Scene.find? at hp
      split at hp
      · exact congrArg Except.ok
          (Introspection.gist_of_usable (Introspection.ofReply_ok made) hp)
      · cases hp

/-- To ask yields what the scene replies. -/
theorem meets_probeLive (steady : w.Steady v.scene) (hs : v.Holds s) {e : Endpoint}
    (unstored : v.scene.stored? e.url = none) :
    (Introspection.probeLive w v.scene.policy e).Meets v.conduct s fun _ own o =>
      own = [probeRequest v.scene.policy e] ∧ o = v.scene.sounding e := by
  simp only [Introspection.probeLive, Errand.bind_eq, Errand.liftM_eq]
  refine meets_stopped steady hs fun t ht => ?_
  refine (meets_send steady (ht.2 hs) (probeRequest v.scene.policy e)).bind
    fun u own reply hu hsent => ?_
  obtain ⟨rfl, hreply, hasked⟩ := hsent
  have asked : v.origin.AskedSince u e.url := hasked rfl
  have hreply' : reply = v.scene.replies e.url probeMethod [] := hreply
  cases reply with
  | error raw =>
      refine meets_noteError asked unstored fun x _ => fun _ _ => ⟨rfl, ?_⟩
      rw [Scene.sounding_of_unstored unstored]
      unfold Scene.live
      rw [← hreply']
  | ok reply =>
      refine (meets_settleReply steady ((v.conduct.trans ht hu).2 hs) asked unstored
        hreply'.symm).imp fun x own o _ ho => ?_
      obtain ⟨rfl, rfl⟩ := ho
      exact ⟨rfl, rfl⟩

/-- **What a probe yields in a survey**, and what it sends. -/
theorem meets_probe (steady : w.Steady v.scene) (hs : v.Holds s) (e : Endpoint) :
    (Introspection.probe w v.scene.policy v.scene.force e).Meets v.conduct s fun t own o =>
      own.Sublist [probeRequest v.scene.policy e] ∧ v.Yields t e own o := by
  unfold Introspection.probe
  by_cases consults : v.scene.consults = true
  · have hcache : (!v.scene.force && v.scene.policy.useCache) = true := consults
    rw [if_pos hcache, Errand.bind_eq]
    refine (meets_fromStore steady hs consults e).bind fun t own found ht hstore => ?_
    obtain ⟨rfl, hsome, hnone⟩ := hstore
    cases found with
    | some p => exact fun u hu => ⟨List.nil_sublist _, (hsome p rfl).later hu.1⟩
    | none =>
        refine (meets_probeLive steady (ht.2 hs) (hnone rfl)).imp fun u own o _ ho => ?_
        obtain ⟨rfl, rfl⟩ := ho
        exact ⟨List.Sublist.refl _, .itself⟩
  · have hcache : ¬(!v.scene.force && v.scene.policy.useCache) = true := consults
    have unstored : v.scene.stored? e.url = none := if_neg consults
    rw [if_neg hcache]
    refine (meets_probeLive steady hs unstored).imp fun u own o _ ho => ?_
    obtain ⟨rfl, rfl⟩ := ho
    exact ⟨List.Sublist.refl _, .itself⟩

end

end Survey

end Federation
