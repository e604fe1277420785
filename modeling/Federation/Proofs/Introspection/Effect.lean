/-
  Federation.Proofs.Introspection.Effect
  ──────────────────────────────────────
  **THE EFFECT OF ONE PROBE.**

  What a probe does is settled by what it meets with: what is on record of the
  aggregate, the signal to stop, and the reply.  It sends one request or none,
  and of the records it changes the aggregate's own or none: a usable reply
  takes its place, a failure is noted beside what is known.

  The file is written after every change, and nobody looks whether that went
  well.  So two probes that differ in nothing but which writes succeed go
  alike, turn by turn, and so do whole courses of them.

  Main results:
    * `effect` — what a probe yields and changes, by what it meets with;
    * `agree_probe` — a probe does not go by what is in the file once the
      records are in memory, nor by whether they can be written;
    * `probe_effect` — both, and what it leaves alone among others.
-/
import Federation.Proofs.Introspection.Probe

namespace Federation.Introspection

open Call (classify)

/-! ## §1. What a probe does. -/

/-- What a probe is answered with from the records. -/
def remembered? (w : World) (p : ProbePolicy) (force : Bool) (e : Endpoint) (s : Session) :
    Option Probed :=
  if !force && p.useCache then
    (s.store.get? e.url).bind fun (snapshot, capabilities) =>
      if snapshot.isFresh p.maxAge (w.clock s.clockReads) then some ⟨snapshot, capabilities, true⟩
      else none
  else none

/-- Whether a probe is called off that looks for the signal to stop. -/
def CalledOff (w : World) (s : Session) : Prop := s.aborted = true ∨ w.interrupts s.looks = true

/-- Nothing was sent, and the records and their file are as they were. -/
structure Idle (s t : Session) : Prop where
  requests : t.requests = s.requests
  records : t.store.records = s.store.records
  file : t.store.file = s.store.file
  fileWrites : t.fileWrites = s.fileWrites

/-- One request was sent, which was answered, and one record was put in place; the records were
written once, if they could be. -/
structure Asked (w : World) (p : ProbePolicy) (e : Endpoint) (s t : Session)
    (reply : Except String Json) (x : Record) : Prop where
  replied : (w.transport s.requests (probeRequest p e)).reply = reply
  requests : t.requests = s.requests ++ [probeRequest p e]
  store : t.store = s.store.change (·.insert e.url x) (w.writes s.fileWrites)
  fileWrites : t.fileWrites = s.fileWrites + 1

/-- A record with an error noted: all else is kept from the record before it, if there was
one. -/
structure Flawed (before : Option Record) (e : Endpoint) (message : String) (x : Record) :
    Prop where
  kept : ∀ r, before = some r → x = ⟨r.timestamp, r.capabilities, r.urn, r.url, some message⟩
  placed : before = none → x = ⟨epochText, .null, e.urn, e.url, some message⟩

/-- **What a probe yields and changes**, by what it meets with.  The clock is read when the reply
has come, and not again. -/
inductive Effect (w : World) (p : ProbePolicy) (force : Bool) (e : Endpoint) (s : Session) :
    ProbeOutcome → Session → Prop
  | recalled {probed : Probed} {t : Session} (remembered : remembered? w p force e s = some probed)
      (idle : Idle s t) : Effect w p force e s (.ok probed) t
  | calledOff {t : Session} (remembered : remembered? w p force e s = none) (stop : CalledOff w s)
      (idle : Idle s t) : Effect w p force e s (.error .aborted) t
  | unreachable {raw : String} {x : Record} {t : Session}
      (remembered : remembered? w p force e s = none) (go : ¬CalledOff w s)
      (asked : Asked w p e s t (.error raw) x)
      (flawed : Flawed (s.store.records.get? e.url) e (classify e raw p.timeout).message x) :
      Effect w p force e s (.error (.transport (classify e raw p.timeout))) t
  | unusable {reply : Json} {fault : SnapshotFault} {n : Nat} {x : Record} {t : Session}
      (remembered : remembered? w p force e s = none) (go : ¬CalledOff w s)
      (clock : s.clockReads ≤ n ∧ t.clockReads = n + 1)
      (makes : ofReply reply (w.clock n) = .error fault)
      (asked : Asked w p e s t (.ok reply) x)
      (flawed : Flawed (s.store.records.get? e.url) e fault.message x) :
      Effect w p force e s (.error (.malformed fault.message)) t
  | usable {reply capabilities : Json} {snapshot : Snapshot} {n : Nat} {t : Session}
      (remembered : remembered? w p force e s = none) (go : ¬CalledOff w s)
      (clock : s.clockReads ≤ n ∧ t.clockReads = n + 1)
      (makes : ofReply reply (w.clock n) = .ok (capabilities, snapshot))
      (asked : Asked w p e s t (.ok reply)
        ⟨timestampOf (w.clock n), capabilities, e.urn, e.url, none⟩) :
      Effect w p force e s (.ok ⟨snapshot, capabilities, false⟩) t

theorem flawed_of_records (rs : Records) (e : Endpoint) (message : String) :
    Flawed (rs.get? e.url) e message (Store.flawed rs e message) where
  kept r hr := by
    unfold Store.flawed
    rw [hr]
  placed hnone := by
    unfold Store.flawed
    rw [hnone]
    rfl

theorem markError_eq_change (store : Store) (e : Endpoint) (message : String) (written : Bool) :
    store.markError e message written
      = store.change (·.insert e.url (Store.flawed store.records e message)) written := by
  unfold Store.markError Store.change
  dsimp only
  rw [Store.withError_eq_insert]

section

variable {w : World} {p : ProbePolicy} {force : Bool} {e : Endpoint} {s : Session}

/-- A session in which so far nothing was sent and nothing changed, except that the records may
have been read. -/
structure Unmoved (s u : Session) : Prop where
  requests : u.requests = s.requests
  aborted : u.aborted = s.aborted
  looks : u.looks = s.looks
  fileWrites : u.fileWrites = s.fileWrites
  clockReads : s.clockReads ≤ u.clockReads
  store : u.store = s.store ∨ u.store = s.store.loaded

theorem Unmoved.records {u : Session} (h : Unmoved s u) :
    u.store.records = s.store.records := by
  rcases h.store with hstore | hstore <;> rw [hstore]
  rfl

theorem Unmoved.file {u : Session} (h : Unmoved s u) : u.store.file = s.store.file := by
  rcases h.store with hstore | hstore <;> rw [hstore]
  rfl

theorem Unmoved.change {u : Session} (h : Unmoved s u) (f : Records → Records) (written : Bool) :
    u.store.change f written = s.store.change f written := by
  rcases h.store with hstore | hstore <;> rw [hstore]
  rfl

/-- To ask the aggregate, where there is no answer on record. -/
theorem effect_probeLive (remembered : remembered? w p force e s = none) {u : Session}
    (h : Unmoved s u) :
    Effect w p force e s ((probeLive w p e).alone u).1 ((probeLive w p e).alone u).2 := by
  have hsignal : (Action.stopped w u).1 = (s.aborted || w.interrupts s.looks) := by
    rw [← h.aborted, ← h.looks]
    rfl
  by_cases hstop : (Action.stopped w u).1 = true
  · rw [probeLive_of_stopped w p e hstop]
    rw [hsignal, Bool.or_eq_true] at hstop
    -- To look for the signal touches nothing.
    exact .calledOff remembered hstop ⟨h.requests, h.records, h.file, h.fileWrites⟩
  · have hgo : ¬CalledOff w s := by
      rwa [hsignal, Bool.or_eq_true] at hstop
    -- What was put in place is told of the store at the start.
    have hasked : ∀ (reply : Except String Json) (x : Record) (t : Session),
        (w.transport u.requests (probeRequest p e)).reply = reply →
        t.requests = u.requests ++ [probeRequest p e] →
        t.store = u.store.change (·.insert e.url x) (w.writes u.fileWrites) →
        t.fileWrites = u.fileWrites + 1 → Asked w p e s t reply x := by
      intro reply x t hreply hrequests hstore hwrites
      rw [h.requests] at hreply hrequests
      rw [h.fileWrites] at hstore hwrites
      exact ⟨hreply, hrequests, hstore.trans (h.change _ _), hwrites⟩
    have hflawed : ∀ message, Flawed (s.store.records.get? e.url) e message
        (Store.flawed u.store.records e message) := fun message =>
      h.records ▸ flawed_of_records u.store.records e message
    simp only [probeLive, Errand.bind_eq, Errand.liftM_eq, Errand.alone_bind,
      Errand.alone_ofAction, hstop, Bool.false_eq_true, if_false, alone_send]
    cases hreply : (w.transport (Action.stopped w u).2.requests (probeRequest p e)).reply with
    | error raw =>
        exact .unreachable remembered hgo
          (hasked _ _ _ hreply rfl (markError_eq_change _ _ _ _) rfl) (hflawed _)
    | ok reply =>
        simp only [settleReply, Errand.bind_eq, Errand.liftM_eq, Errand.alone_bind,
          Errand.alone_ofAction, Action.now]
        cases hmakes : ofReply reply (w.clock (Action.stopped w u).2.clockReads) with
        | error fault =>
            exact .unusable remembered hgo ⟨h.clockReads, rfl⟩ hmakes
              (hasked _ _ _ hreply rfl (markError_eq_change _ _ _ _) rfl) (hflawed _)
        | ok found =>
            exact .usable remembered hgo ⟨h.clockReads, rfl⟩ hmakes
              (hasked _ _ _ hreply rfl rfl rfl)

/-- Nothing is found where nothing is remembered. -/
theorem fromStore_none {url : String} (h : s.store.get? url = none) :
    (fromStore w p url).alone s = (none, { s with store := s.store.loaded }) := by
  simp only [fromStore, Errand.bind_eq, Errand.liftM_eq, Errand.alone_bind, Errand.alone_ofAction,
    Action.consult, h]
  rfl

/-- What is remembered is found if it is fresh. -/
theorem fromStore_some {url : String} {snapshot : Snapshot} {capabilities : Json}
    (h : s.store.get? url = some (snapshot, capabilities)) :
    (fromStore w p url).alone s =
      (if snapshot.isFresh p.maxAge (w.clock s.clockReads) then
          some ⟨snapshot, capabilities, true⟩
        else none,
        { s with store := s.store.loaded, clockReads := s.clockReads + 1 }) := by
  simp only [fromStore, Errand.bind_eq, Errand.liftM_eq, Errand.alone_bind, Errand.alone_ofAction,
    Action.consult, h]
  rfl

/-- What is found in the records, and that nothing is touched. -/
theorem fromStore_recalls (hcache : (!force && p.useCache) = true) :
    ((fromStore w p e.url).alone s).1 = remembered? w p force e s ∧
      Unmoved s ((fromStore w p e.url).alone s).2 := by
  unfold remembered?
  rw [if_pos hcache]
  cases hfound : s.store.get? e.url with
  | none =>
      rw [fromStore_none hfound]
      exact ⟨rfl, rfl, rfl, rfl, rfl, Nat.le_refl _, .inr rfl⟩
  | some found =>
      obtain ⟨snapshot, capabilities⟩ := found
      rw [fromStore_some hfound]
      exact ⟨rfl, rfl, rfl, rfl, rfl, Nat.le_succ _, .inr rfl⟩

end

/-- **What a probe does**, in every session. -/
theorem effect (w : World) (p : ProbePolicy) (force : Bool) (e : Endpoint) (s : Session) :
    Effect w p force e s ((probe w p force e).alone s).1 ((probe w p force e).alone s).2 := by
  unfold probe
  by_cases hcache : (!force && p.useCache) = true
  · rw [if_pos hcache, Errand.bind_eq, Errand.alone_bind]
    obtain ⟨hrecall, hunmoved⟩ := fromStore_recalls (w := w) (s := s) (e := e) hcache
    generalize hfound : ((fromStore w p e.url).alone s).1 = found at hrecall
    cases found with
    | some probed =>
        exact .recalled hrecall.symm
          ⟨hunmoved.requests, hunmoved.records, hunmoved.file, hunmoved.fileWrites⟩
    | none => exact effect_probeLive hrecall.symm hunmoved
  · rw [if_neg hcache]
    exact effect_probeLive (if_neg hcache) ⟨rfl, rfl, rfl, rfl, Nat.le_refl _, .inl rfl⟩

/-- A probe sends its own request or none. -/
theorem Effect.requests {w : World} {p : ProbePolicy} {force : Bool} {e : Endpoint}
    {s t : Session} {o : ProbeOutcome} (h : Effect w p force e s o t) :
    t.requests = s.requests ∨ t.requests = s.requests ++ [probeRequest p e] := by
  cases h with
  | recalled _ idle => exact .inl idle.requests
  | calledOff _ _ idle => exact .inl idle.requests
  | unreachable _ _ asked => exact .inr asked.requests
  | unusable _ _ _ _ asked => exact .inr asked.requests
  | usable _ _ _ _ asked => exact .inr asked.requests

/-! ## §2. Whether the file can be written. -/

/-- A session with its records in memory, whatever is in their file. -/
def inMemory (s : Session) : Session := { s with store := ⟨some s.store.records, .absent⟩ }

theorem requests_of_inMemory {s t : Session} (h : inMemory s = inMemory t) :
    s.requests = t.requests := by
  have hrequests := congrArg Session.requests h
  exact hrequests

/-- The clock shows what it shows whatever is in the file. -/
theorem now_of_inMemory (w : World) (writes : Nat → Bool) {s t : Session}
    (h : inMemory s = inMemory t) :
    (Action.now w s).1 = (Action.now { w with writes } t).1 := by
  have hclock := congrArg (fun u : Session => w.clock u.clockReads) h
  exact hclock

/-- What an action does by what is in memory it does to sessions that agree in it. -/
theorem agree_act_inMemory {α β : Type} {action action' : Action α}
    {f f' : α → Errand Session β}
    (halike : ∀ s, inMemory (action' s).2 = inMemory (action s).2)
    (hown : ∀ s, inMemory (action s).2 = inMemory (action (inMemory s)).2)
    (h : ∀ s t, inMemory s = inMemory t →
      (f (action s).1).Agree inMemory (f' (action' t).1)) :
    ((Errand.ofAction action).bind f).Agree inMemory ((Errand.ofAction action').bind f') := by
  refine Errand.agree_act fun s t hst => ⟨?_, h s t hst⟩
  rw [halike, hown s, hown t, hst]

section

variable (w : World) (writes : Nat → Bool) (p : ProbePolicy) (e : Endpoint)

/-- A look at what is remembered does not tell whether it was in memory. -/
theorem agree_fromStore (url : String) :
    (fromStore w p url).Agree inMemory (fromStore { w with writes } p url) := by
  simp only [fromStore, Errand.bind_eq, Errand.liftM_eq]
  refine agree_act_inMemory (fun _ => rfl) (fun _ => rfl) fun s t hst => ?_
  have hfound := congrArg (fun u : Session => u.store.get? url) hst
  have hlook : (Action.consult (·.get? url) s).1 = (Action.consult (·.get? url) t).1 := hfound
  rw [hlook]
  cases (Action.consult (·.get? url) t).1 with
  | none => exact Errand.agree_done none
  | some found =>
      refine agree_act_inMemory (fun _ => rfl) (fun _ => rfl) fun u v huv => ?_
      rw [now_of_inMemory w writes huv]
      exact Errand.agree_done _

/-- An error is noted in memory, whether or not it can be written. -/
theorem agree_noteError {β : Type} (message : String) {next : Errand Session β}
    (h : next.Agree inMemory next) :
    ((Errand.ofAction (noteError w e message)).bind fun _ => next).Agree inMemory
      ((Errand.ofAction (noteError { w with writes } e message)).bind fun _ => next) :=
  agree_act_inMemory (fun _ => rfl) (fun _ => rfl) fun _ _ _ => h

theorem agree_settleReply (reply : Json) :
    (settleReply w e reply).Agree inMemory (settleReply { w with writes } e reply) := by
  simp only [settleReply, Errand.bind_eq, Errand.liftM_eq]
  refine agree_act_inMemory (fun _ => rfl) (fun _ => rfl) fun s t hst => ?_
  rw [now_of_inMemory w writes hst]
  cases ofReply reply (Action.now { w with writes } t).1 with
  | error fault => exact agree_noteError w writes e fault.message (Errand.agree_done _)
  | ok found =>
      exact agree_act_inMemory (fun _ => rfl) (fun _ => rfl) fun _ _ _ => Errand.agree_done _

theorem agree_send (r : Request) :
    (send w r).Agree inMemory (send { w with writes } r) := by
  simp only [send, Errand.bind_eq, Errand.liftM_eq]
  refine agree_act_inMemory (fun _ => rfl) (fun _ => rfl) fun s t hst => ?_
  have hdelivery := congrArg (fun u : Session => w.transport u.requests r) hst
  have hpost : (Action.post w r s).1 = (Action.post { w with writes } r t).1 := hdelivery
  rw [hpost]
  exact fun u v huv => ⟨congrArg (fun x : Session =>
    (Action.receive (Action.post { w with writes } r t).1 x).2) huv, rfl⟩

theorem agree_probeLive :
    (probeLive w p e).Agree inMemory (probeLive { w with writes } p e) := by
  simp only [probeLive, Errand.bind_eq, Errand.liftM_eq]
  refine agree_act_inMemory (fun _ => rfl) (fun _ => rfl) fun s t hst => ?_
  have hsignal := congrArg (fun u : Session => u.aborted || w.interrupts u.looks) hst
  have hstopped : (Action.stopped w s).1 = (Action.stopped { w with writes } t).1 := hsignal
  rw [hstopped]
  cases (Action.stopped { w with writes } t).1 with
  | true => exact Errand.agree_done _
  | false =>
      refine (agree_send w writes (probeRequest p e)).bind fun reply => ?_
      cases reply with
      | error raw => exact agree_noteError w writes e _ (Errand.agree_done _)
      | ok reply => exact agree_settleReply w writes e reply

/-- **Whether the file can be written makes no difference to a probe**, nor does what is in the
file once the records are in memory. -/
theorem agree_probe (force : Bool) :
    (probe w p force e).Agree inMemory (probe { w with writes } p force e) := by
  unfold probe
  by_cases hcache : (!force && p.useCache) = true
  · rw [if_pos hcache, if_pos hcache]
    refine (agree_fromStore w writes p e.url).bind fun found => ?_
    cases found with
    | some probed => exact Errand.agree_done _
    | none => exact agree_probeLive w writes p e
  · rw [if_neg hcache, if_neg hcache]
    exact agree_probeLive w writes p e

end

/-! ## §3. One probe. -/

/-- **The effect of one probe.**  What it yields and changes is told by what it meets with.
Whatever else goes on, it sends at most one request and leaves alone all it has nothing to do
with.  If other writes succeeded, now or before, it would yield the same, and but for the file
the session would be the same. -/
theorem probe_effect (w : World) (p : ProbePolicy) (force : Bool) (e : Endpoint) (s : Session) :
    let outcome := ((probe w p force e).alone s).1
    let t := ((probe w p force e).alone s).2
    Effect w p force e s outcome t ∧
    (t.requests = s.requests ∨ t.requests = s.requests ++ [probeRequest p e]) ∧
    (∀ url, e.url ≠ url → t.store.records.get? url = s.store.records.get? url) ∧
    (probe w p force e).Meets Session.conduct s (fun _ own _ => own.length ≤ 1) ∧
    (probe w p force e).Leaves (aside e.url) ∧
    ∀ writes u, inMemory s = inMemory u →
      ((probe { w with writes } p force e).alone u).1 = outcome ∧
      inMemory ((probe { w with writes } p force e).alone u).2 = inMemory t := by
  intro outcome t
  have heffect : Effect w p force e s outcome t := effect w p force e s
  refine ⟨heffect, heffect.requests, fun url hurl => ?_, ?_, leaves_aside w p force e,
    fun writes u hu => ?_⟩
  · have hothers : aside e.url t = aside e.url s := (leaves_aside w p force e).alone s
    have hother := congrFun (congrArg Aside.others hothers) url
    have hin : ∀ u : Session, (aside e.url u).others url = u.store.records.get? url :=
      fun u => if_neg hurl
    rwa [hin, hin] at hother
  · refine (meets_probe w p force e s).imp fun _ own _ _ course => ?_
    rcases course.sent with rfl | rfl
    · exact Nat.zero_le 1
    · exact Nat.le_refl 1
  · obtain ⟨houtcome, hmemory⟩ := (agree_probe w writes p e force).alone hu
    exact ⟨houtcome.symm, hmemory.symm⟩

namespace Setback

/-- An aggregate that cannot be reached, and a file that can be written. -/
def world : World where
  transport := fun _ _ => ⟨.error "no route", false⟩
  clock := fun _ => .epoch
  writes := fun _ => true
  credential := fun _ => .ok (Credential.sfa "document")
  keepsProof := fun _ _ => true

def endpoint : Endpoint := ⟨Endpoint.unspecifiedUrn, "http://[::1]", none, none⟩

def known (url : String) : Record := ⟨epochText, .object [("geni_api", .nat 2)], "", url, none⟩

/-- Two aggregates are on record. -/
def session : Session :=
  { Session.start .absent with
    store := ⟨some [("http://[::1]", known "http://[::1]"), ("http://[::2]", known "http://[::2]")],
      .absent⟩ }

/-- The same, and the file cannot be read. -/
def unreadable : Session := { session with store := ⟨session.store.memory, .unreadable⟩ }

def policy : ProbePolicy := ⟨⟨3600, 0⟩, true, 30⟩

end Setback

/-- The other aggregate's record is kept, and the outcome is the same where the file can be
neither read nor written. -/
theorem probe_effect_setback :
    Setback.endpoint.url ≠ "http://[::2]" ∧
    ((probe Setback.world Setback.policy true Setback.endpoint).alone
      Setback.session).2.store.records.get? "http://[::2]" = some (Setback.known "http://[::2]") ∧
    ((probe { Setback.world with writes := fun _ => false } Setback.policy true
        Setback.endpoint).alone Setback.unreadable).1
      = ((probe Setback.world Setback.policy true Setback.endpoint).alone Setback.session).1 := by
  obtain ⟨-, -, hothers, -, -, hwrites⟩ :=
    probe_effect Setback.world Setback.policy true Setback.endpoint Setback.session
  have hurl : Setback.endpoint.url ≠ "http://[::2]" := by decide
  exact ⟨hurl, hothers _ hurl, (hwrites (fun _ => false) Setback.unreadable rfl).1⟩

end Federation.Introspection
