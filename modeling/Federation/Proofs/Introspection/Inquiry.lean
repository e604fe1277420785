/-
  Federation.Proofs.Introspection.Inquiry
  ───────────────────────────────────────
  **WHERE REMEMBERED ANSWERS COME FROM.**

  Probes follow one another over one store, each with its own endpoint, policy
  and signal to stop.  What is on record of a URL is told by the last probe of
  it that asked the aggregate: its reply, or its failure beside whatever was
  known; and by the file, as long as nobody has asked.  So an answer from the
  records is the last reply again, and after a failure there is none.

  Main results:
    * `probing` — the four ways in which a probe may go;
    * `inquire_unwritten` — that the file cannot be written shows in no probe;
    * `recalls_last_reply` — what is answered from the records, and when
      nothing is.
-/
import Federation.Proofs.Introspection.Effect
import Federation.Proofs.Introspection.Store
import Federation.Proofs.Introspection.Survey

namespace Federation.Introspection

open Call (classify)

/-! ## §1. One probe. -/

/-- **The ways in which a probe may go** that nobody comes between: it is answered from the
records, called off, fails, or is answered by the aggregate. -/
inductive Probing (w : World) (p : ProbePolicy) (force : Bool) (e : Endpoint) (s : Session) :
    ProbeOutcome → Session → Prop
  | recalled {snapshot : Snapshot} {capabilities : Json} {t : Session}
      (consulted : force = false ∧ p.useCache = true)
      (found : s.store.get? e.url = some (snapshot, capabilities))
      (fresh : snapshot.isFresh p.maxAge (w.clock s.clockReads) = true)
      (requests : t.requests = s.requests) (records : t.store.records = s.store.records) :
      Probing w p force e s (.ok ⟨snapshot, capabilities, true⟩) t
  | calledOff {t : Session} (stop : s.aborted = true ∨ w.interrupts s.looks = true)
      (requests : t.requests = s.requests) (records : t.store.records = s.store.records) :
      Probing w p force e s (.error .aborted) t
  | failed {fault : ProbeFault} {message : String} {t : Session}
      (requests : t.requests = s.requests ++ [probeRequest p e])
      (records : t.store.records = Store.withError s.store.records e message) :
      Probing w p force e s (.error fault) t
  | replied {snapshot : Snapshot} {capabilities : Json} {n : Nat} {t : Session}
      (made : Snapshot.ofCapabilities capabilities (w.clock n) = .ok snapshot)
      (requests : t.requests = s.requests ++ [probeRequest p e])
      (records : t.store.records
        = s.store.records.insert e.url (Store.freshRecord e capabilities (w.clock n))) :
      Probing w p force e s (.ok ⟨snapshot, capabilities, false⟩) t

/-- What is recalled was found fresh, in records that were to be consulted. -/
theorem remembered?_some {w : World} {p : ProbePolicy} {force : Bool} {e : Endpoint} {s : Session}
    {probed : Probed} (h : remembered? w p force e s = some probed) :
    (force = false ∧ p.useCache = true) ∧
      s.store.get? e.url = some (probed.snapshot, probed.capabilities) ∧
      probed.snapshot.isFresh p.maxAge (w.clock s.clockReads) = true ∧
      probed.fromCache = true := by
  unfold remembered? at h
  split at h
  · rename_i hcache
    have hconsulted : force = false ∧ p.useCache = true := by
      simpa using hcache
    obtain ⟨⟨snapshot, capabilities⟩, hfound, hprobed⟩ := Option.bind_eq_some_iff.1 h
    obtain ⟨hfresh, hmade⟩ := Option.ite_none_right_eq_some.1 hprobed
    obtain rfl := Option.some.inj hmade
    exact ⟨hconsulted, hfound, hfresh, rfl⟩
  · cases h

/-- An error that is noted beside what was known. -/
theorem records_of_flawed {w : World} {p : ProbePolicy} {e : Endpoint} {s t : Session}
    {reply : Except String Json} {message : String} {x : Record}
    (asked : Asked w p e s t reply x) (flawed : Flawed (s.store.records.get? e.url) e message x) :
    t.store.records = Store.withError s.store.records e message := by
  have hx : x = Store.flawed s.store.records e message := by
    unfold Store.flawed
    cases hr : s.store.records.get? e.url with
    | none => exact flawed.placed hr
    | some r => exact flawed.kept r hr
  rw [asked.store, Store.records_change, Store.withError_eq_insert, hx]

/-- **Every probe goes in one of these ways.** -/
theorem probing (w : World) (p : ProbePolicy) (force : Bool) (e : Endpoint) (s : Session) :
    Probing w p force e s ((probe w p force e).alone s).1 ((probe w p force e).alone s).2 := by
  have heffect := effect w p force e s
  generalize ((probe w p force e).alone s).1 = outcome at heffect
  generalize ((probe w p force e).alone s).2 = t at heffect
  cases heffect with
  | @recalled probed t remembered idle =>
      obtain ⟨snapshot, capabilities, fromCache⟩ := probed
      obtain ⟨hconsulted, hfound, hfresh, hcache⟩ := remembered?_some remembered
      obtain rfl : fromCache = true := hcache
      exact .recalled hconsulted hfound hfresh idle.requests idle.records
  | calledOff _ stop idle => exact .calledOff stop idle.requests idle.records
  | unreachable _ _ asked flawed => exact .failed asked.requests (records_of_flawed asked flawed)
  | unusable _ _ _ _ asked flawed =>
      exact .failed asked.requests (records_of_flawed asked flawed)
  | @usable _ capabilities _ n _ _ _ _ makes asked =>
      have hrecords : t.store.records
          = s.store.records.insert e.url (Store.freshRecord e capabilities (w.clock n)) := by
        rw [asked.store, Store.records_change]
        rfl
      exact .replied (ofReply_ok makes) asked.requests hrecords

/-! ## §2. Probes one after another. -/

/-- A probe that is to be made: of whom, under which policy, whether what is on record is to be
passed over, and whether its signal to stop has come when it begins. -/
structure Inquiry where
  endpoint : Endpoint
  policy : ProbePolicy
  force : Bool
  aborted : Bool

/-- What came of a probe: its outcome, and the requests that it sent. -/
structure Finding where
  url : String
  outcome : ProbeOutcome
  sent : List Request

/-- Whether the aggregate at a URL was asked. -/
def Finding.asked (url : String) (f : Finding) : Bool := !f.sent.isEmpty && f.url == url

/-- **Make a probe** on its own. -/
def Inquiry.run (w : World) (q : Inquiry) : Action Finding := fun s =>
  let (outcome, t) := (probe w q.policy q.force q.endpoint).alone { s with aborted := q.aborted }
  (⟨q.endpoint.url, outcome, t.requests.drop s.requests.length⟩, t)

/-- Probes one after another. -/
def inquire (w : World) : List Inquiry → Action (List Finding)
  | [], s => ([], s)
  | q :: qs, s =>
      let (f, t) := q.run w s
      let (fs, u) := inquire w qs t
      (f :: fs, u)

/-- Which writes succeed makes no difference to a probe, nor to what it leaves in memory. -/
theorem Inquiry.run_unwritten (w : World) (writes : Nat → Bool) (q : Inquiry) {s t : Session}
    (h : inMemory s = inMemory t) :
    (q.run w s).1 = (q.run { w with writes } t).1 ∧
      inMemory (q.run w s).2 = inMemory (q.run { w with writes } t).2 := by
  have hstart := congrArg (fun u : Session => { u with aborted := q.aborted }) h
  obtain ⟨houtcome, hmemory⟩ :=
    (agree_probe w writes q.policy q.endpoint q.force).alone
      (s := { s with aborted := q.aborted }) (t := { t with aborted := q.aborted }) hstart
  refine ⟨?_, hmemory⟩
  show Finding.mk _ _ (List.drop _ _) = Finding.mk _ _ (List.drop _ _)
  rw [houtcome, requests_of_inMemory hmemory, requests_of_inMemory h]

/-- **No course of probes tells which of its writes succeeded.** -/
theorem inquire_unwritten (w : World) (writes : Nat → Bool) (qs : List Inquiry) :
    ∀ {s t : Session}, inMemory s = inMemory t →
      (inquire w qs s).1 = (inquire { w with writes } qs t).1 ∧
        inMemory (inquire w qs s).2 = inMemory (inquire { w with writes } qs t).2 := by
  induction qs with
  | nil => exact fun h => ⟨rfl, h⟩
  | cons q qs ih =>
      intro s t h
      obtain ⟨hfinding, hmemory⟩ := q.run_unwritten w writes h
      obtain ⟨hrest, hend⟩ := ih hmemory
      refine ⟨?_, hend⟩
      show (q.run w s).1 :: (inquire w qs (q.run w s).2).1 = _
      rw [hfinding, hrest]
      rfl

/-- The last probe of a URL that asked the aggregate. -/
def lastLive? (url : String) (findings : List Finding) : Option Finding :=
  (findings.filter (Finding.asked url)).getLast?

theorem lastLive?_concat (url : String) (findings : List Finding) (f : Finding) :
    lastLive? url (findings ++ [f])
      = if f.asked url then some f else lastLive? url findings := by
  unfold lastLive?
  rw [List.filter_append]
  by_cases h : f.asked url = true
  · rw [if_pos h, List.filter_cons_of_pos h, List.filter_nil, List.getLast?_concat]
  · rw [if_neg h, List.filter_cons_of_neg h, List.filter_nil, List.append_nil]

/-- **What is on record of a URL**: what the file said, as long as nobody has asked; then the
last reply, or the last failure beside whatever was known. -/
inductive OnRecord (w : World) (file : Contents) (url : String) (findings : List Finding)
    (r : Option Record) : Prop
  | unasked (last : lastLive? url findings = none) (record : r = file.records.get? url)
  | replied {f : Finding} {e : Endpoint} {snapshot : Snapshot} {capabilities : Json} {n : Nat}
      (last : lastLive? url findings = some f)
      (outcome : f.outcome = .ok ⟨snapshot, capabilities, false⟩)
      (made : Snapshot.ofCapabilities capabilities (w.clock n) = .ok snapshot)
      (record : r = some (Store.freshRecord e capabilities (w.clock n)))
  | failed {f : Finding} {fault : ProbeFault} {x : Record}
      (last : lastLive? url findings = some f) (outcome : f.outcome = .error fault)
      (record : r = some x) (error : x.error ≠ none)

/-- What a probe found, in whichever way it went. -/
theorem Inquiry.probing (w : World) (q : Inquiry) (s : Session) :
    Probing w q.policy q.force q.endpoint { s with aborted := q.aborted } (q.run w s).1.outcome
      (q.run w s).2 :=
  Introspection.probing w q.policy q.force q.endpoint { s with aborted := q.aborted }

/-- The requests that a probe sent itself. -/
theorem Inquiry.sent_run {w : World} {q : Inquiry} {s : Session} {own : List Request}
    (h : (q.run w s).2.requests = s.requests ++ own) : (q.run w s).1.sent = own := by
  show (q.run w s).2.requests.drop s.requests.length = own
  rw [h, List.drop_left]

theorem Inquiry.not_asked {w : World} {q : Inquiry} {s : Session} (url : String)
    (h : (q.run w s).2.requests = s.requests) : (q.run w s).1.asked url = false := by
  unfold Finding.asked
  have hsent : (q.run w s).1.sent = [] := sent_run (by rw [h, List.append_nil])
  rw [hsent]
  rfl

theorem Inquiry.asked_eq {w : World} {q : Inquiry} {s : Session} {r : Request} (url : String)
    (h : (q.run w s).2.requests = s.requests ++ [r]) :
    (q.run w s).1.asked url = (q.endpoint.url == url) := by
  unfold Finding.asked
  rw [sent_run h]
  rfl

/-- A probe that asked nobody leaves everything on record. -/
theorem OnRecord.quiet {w : World} {file : Contents} {url : String} {findings : List Finding}
    {r : Option Record} (h : OnRecord w file url findings r) {f : Finding}
    (hf : f.asked url = false) : OnRecord w file url (findings ++ [f]) r := by
  have hlast : lastLive? url (findings ++ [f]) = lastLive? url findings := by
    rw [lastLive?_concat, hf]
    rfl
  cases h with
  | unasked last record => exact .unasked (hlast.trans last) record
  | replied last outcome made record => exact .replied (hlast.trans last) outcome made record
  | failed last outcome record error => exact .failed (hlast.trans last) outcome record error

/-- **What a probe leaves on record that asked the aggregate** and put a record in place:
elsewhere all is as it was. -/
theorem OnRecord.asking {w : World} {file : Contents} {url : String} {findings : List Finding}
    {s : Session} (h : OnRecord w file url findings (s.store.records.get? url)) {q : Inquiry}
    {r : Request} (requests : (q.run w s).2.requests = s.requests ++ [r]) {x : Record}
    (records : (q.run w s).2.store.records = s.store.records.insert q.endpoint.url x)
    (own : lastLive? url (findings ++ [(q.run w s).1]) = some (q.run w s).1 →
      OnRecord w file url (findings ++ [(q.run w s).1]) (some x)) :
    OnRecord w file url (findings ++ [(q.run w s).1])
      ((q.run w s).2.store.records.get? url) := by
  have hasked := q.asked_eq url requests
  rw [records]
  by_cases hurl : q.endpoint.url = url
  · have hlast : lastLive? url (findings ++ [(q.run w s).1]) = some (q.run w s).1 := by
      rw [lastLive?_concat, hasked, if_pos (beq_iff_eq.2 hurl)]
    have hget : (s.store.records.insert q.endpoint.url x).get? url = some x := by
      rw [hurl]
      exact Keyed.get?_insert_self _ _ _
    rw [hget]
    exact own hlast
  · rw [Keyed.get?_insert_ne _ _ hurl]
    exact h.quiet (hasked.trans (beq_eq_false_iff_ne.2 hurl))

/-- **What one more probe leaves on record.** -/
theorem OnRecord.step {w : World} {file : Contents} {url : String} {findings : List Finding}
    {s : Session} (h : OnRecord w file url findings (s.store.records.get? url)) (q : Inquiry) :
    OnRecord w file url (findings ++ [(q.run w s).1])
      ((q.run w s).2.store.records.get? url) := by
  have hprobing := q.probing w s
  generalize hf : (q.run w s).1.outcome = outcome at hprobing
  cases hprobing with
  -- Nobody was asked, and the records are those from before.
  | recalled _ _ _ requests records =>
      rw [records]
      exact h.quiet (q.not_asked url requests)
  | calledOff _ requests records =>
      rw [records]
      exact h.quiet (q.not_asked url requests)
  -- The aggregate was asked, and a record put in place.
  | @failed fault message _ requests records =>
      have hinsert := records.trans (Store.withError_eq_insert _ _ _)
      refine h.asking requests hinsert fun hlast => .failed hlast hf rfl ?_
      rw [Store.error_flawed]
      exact Option.some_ne_none message
  | replied made requests records =>
      exact h.asking requests records fun hlast => .replied hlast hf made rfl

/-- **What a course of probes leaves on record.** -/
theorem OnRecord.run {w : World} {file : Contents} {url : String} (qs : List Inquiry) :
    ∀ {findings : List Finding} {s : Session},
      OnRecord w file url findings (s.store.records.get? url) →
      OnRecord w file url (findings ++ (inquire w qs s).1)
        ((inquire w qs s).2.store.records.get? url) := by
  induction qs with
  | nil =>
      intro findings s h
      show OnRecord w file url (findings ++ []) _
      rw [List.append_nil]
      exact h
  | cons q qs ih =>
      intro findings s h
      have hrest := ih (h.step q)
      rw [List.append_assoc] at hrest
      exact hrest

/-! ## §3. Answers from the records. -/

/-- A reply as it is remembered: it was fetched when the record says. -/
def Probed.remembered (p : Probed) : Probed :=
  { p with snapshot := { p.snapshot with fetchedAt := recorded p.snapshot.fetchedAt },
           fromCache := true }

/-- What the record of a reply holds is the reply as it is remembered. -/
theorem snapshot_of_fresh {e : Endpoint} {capabilities : Json} {t : Time.Instant}
    {snapshot found : Snapshot} (hnanos : t.nanos < 1000000000)
    (made : Snapshot.ofCapabilities capabilities t = .ok snapshot)
    (h : (Store.freshRecord e capabilities t).snapshot? = some found) :
    found = { snapshot with fetchedAt := recorded snapshot.fetchedAt } := by
  obtain ⟨again, hagain, rfl⟩ := (snapshot?_leftOf e capabilities hnanos none found).1 h
  rw [ofCapabilities_at capabilities (recorded t) t, made] at hagain
  obtain rfl := Except.ok.inj hagain
  rw [(Snapshot.madeOf made).fetchedAt, ← (Snapshot.madeOf made).lastError]

theorem Probed.remembered_of_dated {p : Probed}
    (h : p.snapshot.fetchedAt.recordText?.isSome = true) :
    p.remembered = { p with fromCache := true } := by
  unfold remembered recorded
  rw [if_pos h]

/-- Where an answer comes from for which nobody was asked. -/
inductive Source (file : Contents) (url : String) (findings : List Finding) (p : Probed) : Prop
  /-- The last probe that asked: its reply again, apart from where it was found, and with its
  time as it is kept, which is the same for any time that has a record text. -/
  | reply {f : Finding} {reply : Probed} (last : lastLive? url findings = some f)
      (outcome : f.outcome = .ok reply) (remembered : p = reply.remembered)
      (same : reply.snapshot.fetchedAt.recordText?.isSome = true →
        p = { reply with fromCache := true })
  /-- The file, since nobody has asked. -/
  | file {r : Record} (unasked : lastLive? url findings = none)
      (record : file.records.get? url = some r) (flawless : r.error = none)
      (snapshot : r.snapshot? = some p.snapshot) (capabilities : r.capabilities = p.capabilities)

/-- What is remembered of a URL is on record. -/
theorem record_of_get? {store : Store} {url : String} {snapshot : Snapshot} {capabilities : Json}
    (h : store.get? url = some (snapshot, capabilities)) :
    ∃ r, store.records.get? url = some r ∧ r.snapshot? = some snapshot ∧
      r.capabilities = capabilities := by
  obtain ⟨r, hr, hfound⟩ := Option.bind_eq_some_iff.1 h
  obtain ⟨found, hsnapshot, heq⟩ := Option.map_eq_some_iff.1 hfound
  obtain ⟨rfl, rfl⟩ := Prod.mk.inj heq
  exact ⟨r, hr, hsnapshot, rfl⟩

/-- What is fresh had no error noted. -/
theorem error_of_fresh {r : Record} {snapshot : Snapshot} {maxAge : Time.Span}
    {now : Time.Instant} (hsnapshot : r.snapshot? = some snapshot)
    (h : snapshot.isFresh maxAge now = true) :
    r.error = none ∧ snapshot.fetchedAt.within now maxAge = true := by
  unfold Snapshot.isFresh at h
  rw [Bool.and_eq_true, Option.isNone_iff_eq_none, Record.snapshot?_lastError hsnapshot] at h
  exact h

/-- **What is on record without an error has a source.** -/
theorem OnRecord.source {w : World} (hnanos : ∀ n, (w.clock n).nanos < 1000000000)
    {file : Contents} {url : String} {findings : List Finding} {r : Record} {snapshot : Snapshot}
    (h : OnRecord w file url findings (some r)) (herror : r.error = none)
    (hsnapshot : r.snapshot? = some snapshot) :
    Source file url findings ⟨snapshot, r.capabilities, true⟩ := by
  cases h with
  | unasked last record => exact .file last record.symm herror hsnapshot rfl
  | @replied f e made capabilities n last outcome hmade record =>
      obtain rfl := Option.some.inj record
      have hsame : Probed.mk snapshot capabilities true
          = Probed.remembered ⟨made, capabilities, false⟩ := by
        rw [snapshot_of_fresh (hnanos n) hmade hsnapshot]
        rfl
      exact .reply last outcome hsame fun hdated => hsame.trans (Probed.remembered_of_dated hdated)
  | failed last outcome record error =>
      obtain rfl := Option.some.inj record
      exact absurd herror error

/-- What a probe finds fresh is on record, without an error. -/
theorem OnRecord.flawless {w : World} {file : Contents} {url : String} {findings : List Finding}
    {store : Store} (h : OnRecord w file url findings (store.records.get? url))
    {snapshot : Snapshot} {capabilities : Json} {maxAge : Time.Span} {now : Time.Instant}
    (found : store.get? url = some (snapshot, capabilities))
    (fresh : snapshot.isFresh maxAge now = true) :
    ∃ r, OnRecord w file url findings (some r) ∧ r.error = none ∧ r.snapshot? = some snapshot ∧
      r.capabilities = capabilities ∧ snapshot.fetchedAt.within now maxAge = true := by
  obtain ⟨r, hr, hsnapshot, hcapabilities⟩ := record_of_get? found
  obtain ⟨herror, hwithin⟩ := error_of_fresh hsnapshot fresh
  rw [hr] at h
  exact ⟨r, h, herror, hsnapshot, hcapabilities, hwithin⟩

/-- After a failure there is an error on record. -/
theorem OnRecord.error_of_failed {w : World} {file : Contents} {url : String}
    {findings : List Finding} {r : Record} (h : OnRecord w file url findings (some r))
    {f : Finding} {fault : ProbeFault} (hlast : lastLive? url findings = some f)
    (hfault : f.outcome = .error fault) : r.error ≠ none := by
  cases h with
  | unasked unasked => cases hlast.symm.trans unasked
  | replied replied outcome =>
      obtain rfl := Option.some.inj (hlast.symm.trans replied)
      cases hfault.symm.trans outcome
  | failed _ _ record error =>
      obtain rfl := Option.some.inj record
      exact error

/-- **An answer from the records is the last reply.**  After any course of probes, one more: if
it is answered from the records, it was allowed to be, nobody was asked, the answer is the
reply of the last probe of the URL that asked anybody, or else what the file held, and it is
no older than the policy says by the clock as the probe reads it.  Where that last probe
failed, a probe that is not called off asks the aggregate. -/
theorem recalls_last_reply (w : World) (hnanos : ∀ n, (w.clock n).nanos < 1000000000)
    (file : Contents) (history : List Inquiry) (q : Inquiry) :
    let findings := (inquire w history (Session.start file)).1
    let s := (inquire w history (Session.start file)).2
    let f := (q.run w s).1
    (∀ p, f.outcome = .ok p → p.fromCache = true →
      q.force = false ∧ q.policy.useCache = true ∧ f.sent = [] ∧
        Source file q.endpoint.url findings p ∧
        p.snapshot.fetchedAt.within (w.clock s.clockReads) q.policy.maxAge = true) ∧
    (∀ last fault, lastLive? q.endpoint.url findings = some last → last.outcome = .error fault →
      q.aborted = false → w.interrupts s.looks = false →
      f.sent = [probeRequest q.policy q.endpoint]) := by
  intro findings s f
  have hstart : OnRecord w file q.endpoint.url []
      ((Session.start file).store.records.get? q.endpoint.url) := .unasked rfl rfl
  have hrecord : OnRecord w file q.endpoint.url findings
      (s.store.records.get? q.endpoint.url) := hstart.run history
  have hprobing := q.probing w s
  generalize hf : (q.run w s).1.outcome = outcome at hprobing
  refine ⟨fun p hp hcache => ?_, fun last fault hlast hfault hcalm hquiet => ?_⟩
  · subst hp
    cases hprobing with
    | replied => cases hcache
    | recalled consulted found fresh requests records =>
        obtain ⟨r, honrecord, herror, hsnapshot, rfl, hwithin⟩ := hrecord.flawless found fresh
        refine ⟨consulted.1, consulted.2, ?_, honrecord.source hnanos herror hsnapshot, hwithin⟩
        exact q.sent_run (by rw [requests, List.append_nil])
  · cases hprobing with
    | failed requests records => exact q.sent_run requests
    | replied made requests records => exact q.sent_run requests
    | calledOff stop =>
        rcases stop with hstop | hstop
        · have haborted : q.aborted = true := hstop
          rw [hcalm] at haborted
          cases haborted
        · have hinterrupted : w.interrupts s.looks = true := hstop
          rw [hquiet] at hinterrupted
          cases hinterrupted
    | recalled consulted found fresh requests records =>
        -- The failure is on record, so what is there is not fresh.
        obtain ⟨r, honrecord, herror, -⟩ := hrecord.flawless found fresh
        exact absurd herror (honrecord.error_of_failed hlast hfault)

namespace Relapse

/-- An aggregate that replies once, and the failures after that. -/
def world : World where
  transport := fun before _ =>
    ⟨if before = [] then .ok (.object [("geni_api", .nat 2)]) else .error "no route", false⟩
  clock := fun n => ⟨n, 0, 0⟩
  writes := fun _ => false
  credential := fun _ => .ok (Credential.sfa "document")
  keepsProof := fun _ _ => true

/-- A probe by somebody who trusts the records for an hour, and one who does not. -/
def inquiry (force : Bool) : Inquiry :=
  ⟨⟨Endpoint.unspecifiedUrn, "http://[::1]", none, none⟩, ⟨⟨3600, 0⟩, true, 30⟩, force, false⟩

end Relapse

/-- The second probe is answered from the records.  Where it insists on asking, it fails, and the
third one asks again. -/
theorem recalls_last_reply_relapse :
    (∀ n, (Relapse.world.clock n).nanos < 1000000000) ∧
      (∃ p, ((Relapse.inquiry false).run Relapse.world
          (inquire Relapse.world [Relapse.inquiry false] (Session.start .absent)).2).1.outcome
            = .ok p ∧ p.fromCache = true ∧
        Source .absent "http://[::1]"
          (inquire Relapse.world [Relapse.inquiry false] (Session.start .absent)).1 p) ∧
      ((Relapse.inquiry false).run Relapse.world (inquire Relapse.world
          [Relapse.inquiry false, Relapse.inquiry true] (Session.start .absent)).2).1.sent
        = [⟨"http://[::1]", probeMethod, [], 30⟩] := by
  have hnanos : ∀ n, (Relapse.world.clock n).nanos < 1000000000 := fun n => by
    show 0 < 1000000000
    decide
  obtain ⟨hrecalls, -⟩ := recalls_last_reply Relapse.world hnanos .absent [Relapse.inquiry false]
    (Relapse.inquiry false)
  obtain ⟨-, hasks⟩ := recalls_last_reply Relapse.world hnanos .absent
    [Relapse.inquiry false, Relapse.inquiry true] (Relapse.inquiry false)
  refine ⟨hnanos, ?_, hasks _ _ rfl rfl rfl rfl⟩
  have houtcome : ∃ p, ((Relapse.inquiry false).run Relapse.world
      (inquire Relapse.world [Relapse.inquiry false] (Session.start .absent)).2).1.outcome
        = .ok p ∧ p.fromCache = true := ⟨_, rfl, rfl⟩
  obtain ⟨p, hp, hcache⟩ := houtcome
  obtain ⟨-, -, -, hsource, -⟩ := hrecalls p hp hcache
  exact ⟨p, hp, hcache, hsource⟩

end Federation.Introspection
