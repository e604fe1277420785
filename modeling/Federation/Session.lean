/-
  Federation.Session
  ──────────────────
  **THE COURSE OF EVENTS.**

  A session is what has happened so far: the requests that were sent, the
  signal to stop, how often the clock was read and the file written, the
  store of records, what the probes of the invocation yielded, and what was
  asked of and handed to the keeper of credentials.

  Whatever the library does from here on is an action on the session, in a
  given world, or an errand of several such actions.  Other requests may be
  sent while one waits for its reply.

  Main results:
    * `requests_send` — sending adds one request, at the end;
    * `forEachUntil_eq` — errands that may end their workers are those for the
      items that are taken.
-/
import Federation.Introspection.Probed
import Federation.Introspection.Store
import Federation.Workers
import Federation.World

namespace Federation

open Introspection (ProbeOutcome Store)

/-! ## §1. Sessions. -/

/-- What was asked of or handed to the keeper of credentials. -/
inductive CredentialEvent where
  | asked (subject : String)
  | proof (endpoint : Endpoint) (proof : Json) (kept : Bool)

/-- What has happened so far. -/
structure Session where
  /-- The requests, in the order in which they were sent. -/
  requests : List Request
  /-- Whether the signal to stop has come. -/
  aborted : Bool
  clockReads : Nat
  fileWrites : Nat
  store : Store
  /-- What the probes of this invocation yielded at each URL, the latest
  first. -/
  memo : List (String × ProbeOutcome)
  credentialEvents : List CredentialEvent
  /-- How often the registry was asked. -/
  listings : Nat
  /-- How often work was shared out. -/
  rounds : Nat
  /-- How often it was looked whether the signal to stop has come. -/
  looks : Nat

/-- A session at its start, with the records' file as it is found. -/
def Session.start (file : Introspection.Contents) : Session :=
  ⟨[], false, 0, 0, .opened file, [], [], 0, 0, 0⟩

/-- An action on the session. -/
abbrev Action := StateM Session

/-! ## §2. Single actions. -/

namespace Action

/-- Hand in a request; what comes of it is settled by then. -/
def post (w : World) (r : Request) : Action Delivery := fun s =>
  (w.transport s.requests r, { s with requests := s.requests ++ [r] })

/-- Take in what came of a request. -/
def receive (d : Delivery) : Action (Except String Json) := fun s =>
  (d.reply, { s with aborted := s.aborted || d.raisesAbort })

/-- Read the clock. -/
def now (w : World) : Action Time.Instant := fun s =>
  (w.clock s.clockReads, { s with clockReads := s.clockReads + 1 })

/-- Look whether the signal to stop has come. -/
def stopped (w : World) : Action Bool := fun s =>
  let stopped := s.aborted || w.interrupts s.looks
  (stopped, { s with aborted := stopped, looks := s.looks + 1 })

/-- Use the store without changing its records. -/
def consult {α : Type} (f : Store → α) : Action α := fun s =>
  (f s.store, { s with store := s.store.loaded })

/-- Change the store; whether the write succeeded is the result. -/
def changeStore (w : World) (f : Store → Bool → Store) : Action Bool := fun s =>
  let written := w.writes s.fileWrites
  (written, { s with store := f s.store written, fileWrites := s.fileWrites + 1 })

/-- What an earlier probe of this invocation yielded. -/
def known (url : String) : Action (Option ProbeOutcome) := fun s =>
  (Keyed.get? s.memo url, s)

/-- Remember what a probe yielded. -/
def remember (url : String) (outcome : ProbeOutcome) : Action Unit := fun s =>
  ((), { s with memo := (url, outcome) :: s.memo })

/-- Forget what the probes yielded, at the start of an invocation. -/
def forgetProbes : Action Unit := fun s => ((), { s with memo := [] })

/-- Ask for a credential. -/
def askCredential (w : World) (subject : String) : Action (Except String Credential) := fun s =>
  (w.credential subject, { s with credentialEvents := s.credentialEvents ++ [.asked subject] })

/-- Hand over a proof.  One that cannot be kept is lost. -/
def handOver (w : World) (e : Endpoint) (proof : Json) : Action Unit := fun s =>
  ((), { s with
    credentialEvents := s.credentialEvents ++ [.proof e proof (w.keepsProof e proof)] })

/-- Note that the registry was asked. -/
def noteListings (n : Nat) : Action Unit := fun s => ((), { s with listings := s.listings + n })

/-- Share out work: the order in which the workers take their turns. -/
def shareOut (w : World) : Action (List Nat) := fun s =>
  (w.schedule s.rounds, { s with rounds := s.rounds + 1 })

/-- **Run an errand for every item of a list**, with at most `limit`
workers. -/
def forEach {α β : Type} (w : World) (limit : Nat) (task : α → Errand Session β)
    (items : List α) : Action (List β) := do
  let schedule ← shareOut w
  perform limit schedule task items

/-- Run an errand for every item of a list, where a fatal result is the end of
its worker. -/
def forEachUntil {α β : Type} (w : World) (limit : Nat) (fatal : β → Bool)
    (task : α → Errand Session β) (items : List α) : Action (List β) := do
  let schedule ← shareOut w
  performUntil limit schedule fatal task items

end Action

/-! ## §3. Sending. -/

/-- **Send a request** and wait for what comes of it. -/
def send (w : World) (r : Request) : Errand Session (Except String Json) := do
  let d ← Action.post w r
  Action.receive d

/-! ## §4. Laws. -/

theorem alone_send (w : World) (r : Request) (s : Session) :
    (send w r).alone s =
      ((w.transport s.requests r).reply,
        { s with
          requests := s.requests ++ [r]
          aborted := s.aborted || (w.transport s.requests r).raisesAbort }) := rfl

/-- **Sending adds one request, at the end.** -/
theorem requests_send (w : World) (r : Request) (s : Session) :
    ((send w r).alone s).2.requests = s.requests ++ [r] := rfl

/-- **Errands that may end their workers are those for the items that are
taken**, which is all of them where no result is fatal. -/
theorem forEachUntil_eq {α β : Type} (w : World) (limit : Nat) (fatal : β → Bool)
    (task : α → Errand Session β) (items : List α) (s : Session) :
    ∃ seen, seen <+: items ∧
      Action.forEachUntil w limit fatal task items s = Action.forEach w limit task seen s ∧
      ((∀ result ∈ (Action.forEachUntil w limit fatal task items s).1, fatal result = false) →
        seen = items) :=
  performUntil_eq limit (w.schedule s.rounds) fatal task items { s with rounds := s.rounds + 1 }

end Federation
