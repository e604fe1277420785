/-
  Federation.Answer.Sliver
  ────────────────────────
  **SLIVERS IN A REPLY.**

  A reply about slivers holds a record for each of them.  Compared with the
  slivers that were asked for, some may be missing and some may report an
  error.  Where all slivers of a slice were asked for none can be missing.

  Main results:
    * `mem_missing_iff` — missing is what was asked for and has no record;
    * `missing_nodup` — nothing is missing twice.
-/
import Federation.Answer.Envelope
import Federation.Text.Fold
import Federation.Text.Split

namespace Federation.Answer

/-! ## §1. States. -/

/-- How far a sliver has come. -/
inductive AllocationState where
  | unallocated
  | allocated
  | provisioned
  /-- The aggregate does not say. -/
  | unreported
  | other (text : String)
  deriving DecidableEq, Repr

/-- Whether a sliver can be used. -/
inductive OperationalState where
  | ready
  | notReady
  | configuring
  | failed
  /-- The aggregate does not know. -/
  | unknown
  | other (text : String)
  deriving DecidableEq, Repr

/-- A state in the form in which it is looked up. -/
def stateKey (s : String) : String :=
  let folded := Text.lower (Text.trim s)
  (Text.dropStart? "geni_" folded).getD folded

/-- The allocation state of a text. -/
def AllocationState.read (s : String) : AllocationState :=
  match stateKey s with
  | "unallocated" => .unallocated
  | "allocated" => .allocated
  | "provisioned" => .provisioned
  | "" => .unreported
  | _ => .other s

/-- The operational state of a text. -/
def OperationalState.read (s : String) : OperationalState :=
  match stateKey s with
  | "ready" => .ready
  | "notready" | "not_ready" => .notReady
  | "configuring" | "changing" => .configuring
  | "failed" => .failed
  | "unknown" => .unknown
  | _ => .other s

/-! ## §2. Records. -/

/-- What a reply says of one sliver. -/
structure SliverRecord where
  urn : String
  allocation : AllocationState
  operational : Option OperationalState
  expires : Option String
  error : Option String
  deriving DecidableEq, Repr

/-- The record of a value, if it names a sliver. -/
def SliverRecord.ofJson? (j : Json) : Option SliverRecord := do
  let urn ← (textAt? j "geni_sliver_urn").or (textAt? j "geni_urn")
  return {
    urn
    allocation := ((textAt? j "geni_allocation_status").map AllocationState.read).getD .unreported
    operational :=
      ((textAt? j "geni_operational_status").or (textAt? j "geni_status")).map
        OperationalState.read
    expires := textAt? j "geni_expires"
    error := textAt? j "geni_error" }

/-- The values among which records are looked for: the items of a list, or
those under the first of two keys that holds a list. -/
def recordValues (j : Json) : List Json :=
  match j with
  | .array items => items
  | j =>
      (["geni_slivers", "geni_resources"].findSome? fun key =>
        (j.member? key).bind Json.items?).getD []

/-- The records in a value. -/
def recordsIn (j : Json) : List SliverRecord := (recordValues j).filterMap SliverRecord.ofJson?

/-! ## §3. Comparison with what was asked for. -/

/-- How a call turned out. -/
inductive OutcomeClass where
  /-- All that was asked for came back without an error. -/
  | success
  /-- Something is missing or has an error. -/
  | partialSuccess
  /-- There is no usable value. -/
  | failure
  deriving DecidableEq, Repr

/-- The items without those that came before. -/
def once : List String → List String
  | [] => []
  | s :: rest => s :: (once rest).filter (· ≠ s)

/-- What was asked for and has no record, each once and in the order in which
it was first asked for. -/
def missingFrom (records : List SliverRecord) (requested : List String) : List String :=
  once (requested.filter fun urn => !(records.map SliverRecord.urn).contains urn)

/-- The slivers with an error, and the error; of two records of one sliver
the last one with an error counts. -/
def failedIn (records : List SliverRecord) : Keyed String String :=
  Keyed.ofPairs (records.filterMap fun r => r.error.map fun e => (r.urn, e))

/-- A reply compared with what was asked for. -/
structure Reconciliation where
  records : List SliverRecord
  missing : List String
  failed : Keyed String String
  outcome : OutcomeClass
  deriving DecidableEq, Repr

/-- Whether a value says nothing. -/
def isEmptyAnswer : Option Json → Bool
  | none => true
  | some .null => true
  | some (.bool false) => true
  | _ => false

/-- **Compare a value with the slivers asked for.** -/
def reconcile (value : Option Json) (requested : List String) : Reconciliation :=
  match value.filter fun v => !isEmptyAnswer (some v) with
  | none => ⟨[], [], [], .failure⟩
  | some v =>
      let records := recordsIn v
      let missing := missingFrom records requested
      let failed := failedIn records
      let clean := missing.isEmpty && failed.isEmpty
      ⟨records, missing, failed, if clean then .success else .partialSuccess⟩

/-! ## §4. Laws. -/

theorem mem_once {s : String} {l : List String} : s ∈ once l ↔ s ∈ l := by
  induction l with
  | nil => simp [once]
  | cons t l ih =>
    by_cases h : s = t
    · simp [once, h]
    · simp [once, h, ih]

theorem once_nodup (l : List String) : (once l).Nodup := by
  induction l with
  | nil => exact List.nodup_nil
  | cons t l ih =>
    refine List.nodup_cons.2 ⟨by simp, ih.filter _⟩

/-- **Missing is what was asked for and has no record.** -/
theorem mem_missing_iff {records : List SliverRecord} {requested : List String} {urn : String} :
    urn ∈ missingFrom records requested ↔
      urn ∈ requested ∧ ∀ r ∈ records, r.urn ≠ urn := by
  simp [missingFrom, mem_once, List.mem_filter]

/-- **Nothing is missing twice.** -/
theorem missing_nodup (records : List SliverRecord) (requested : List String) :
    (missingFrom records requested).Nodup := once_nodup _

end Federation.Answer
