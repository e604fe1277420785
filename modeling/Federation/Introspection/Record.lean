/-
  Federation.Introspection.Record
  ───────────────────────────────
  **RECORDS OF REPLIES.**

  What is remembered of an aggregate: its map of capabilities, when it was
  fetched, and what went wrong since.  The records are kept in a file, one
  JSON object with the URLs as its keys.  A file that is no such object is
  as good as none, and in one that is, a member that is no record is left
  out without harm to the others.

  Main results:
    * `snapshot?_lastError` — a snapshot that is read back carries the
      record's error;
    * `readAll_eq_filterMap` — each member of the file stands or falls
      alone.
-/
import Federation.Introspection.Snapshot
import Federation.Json.Reader
import Federation.Time.Notation

namespace Federation.Introspection

/-! ## §1. Records. -/

/-- What is remembered of one aggregate. -/
structure Record where
  /-- When the capabilities were fetched. -/
  timestamp : String
  capabilities : Json
  urn : String
  url : String
  /-- What went wrong since then. -/
  error : Option String
  deriving Inhabited

/-- Records by URL. -/
abbrev Records := Keyed String Record

/-- The timestamp of a record that was never fetched, or was fetched at a
moment without a text. -/
def epochText : String := "1970-01-01T00:00:00Z"

/-- The text of the moment of a fetch. -/
def timestampOf (t : Time.Instant) : String := t.recordText?.getD epochText

namespace Record

/-- The moment of the fetch. -/
def fetchedAt (r : Record) : Time.Instant :=
  (Time.readRecord? r.timestamp.toList).getD Time.Instant.epoch

/-- The snapshot that a record holds, if its capabilities make one. -/
def snapshot? (r : Record) : Option Snapshot :=
  match Snapshot.ofCapabilities r.capabilities r.fetchedAt with
  | .ok s => some { s with lastError := r.error }
  | .error _ => none

theorem snapshot?_lastError {r : Record} {s : Snapshot} (h : r.snapshot? = some s) :
    s.lastError = r.error := by
  unfold snapshot? at h
  split at h
  · simp only [Option.some.injEq] at h
    rw [← h]
  · simp at h

/-! ## §2. The form in the file. -/

/-- The fields of a record, in the order in which they are written. -/
def toJson (r : Record) : Json :=
  .object ([("timestamp", .string r.timestamp), ("version", r.capabilities),
    ("urn", .string r.urn), ("url", .string r.url)]
      ++ r.error.toList.map fun e => ("error", .string e))

/-- A text that may be left out. -/
def textOr (fallback : String) : Option Json → Option String
  | none => some fallback
  | some j => j.text?

/-- A text that may be left out or null. -/
def optionalText : Option Json → Option (Option String)
  | none => some none
  | some .null => some none
  | some j => j.text?.map some

/-- A record from its fields, of which only the timestamp is required. -/
def ofFields? (timestamp capabilities urn url error : Option Json) : Option Record := do
  let timestamp ← timestamp.bind Json.text?
  let urn ← textOr "" urn
  let url ← textOr "" url
  let error ← optionalText error
  return ⟨timestamp, capabilities.getD .null, urn, url, error⟩

/-- A record as an object, or as the list of its fields. -/
def ofJson? : Json → Option Record
  | .object ms =>
      ofFields? (Keyed.get? ms "timestamp") (Keyed.get? ms "version") (Keyed.get? ms "urn")
        (Keyed.get? ms "url") (Keyed.get? ms "error")
  | .array items =>
      if 5 < items.length then none
      else ofFields? items[0]? items[1]? items[2]? items[3]? items[4]?
  | _ => none

end Record

namespace Records

/-- The records among the members of an object. -/
def readAll (members : Keyed String Json) : Records :=
  members.filterMap fun (url, j) => (Record.ofJson? j).map fun r => (url, r)

/-- **The records that a text holds.** -/
def ofText (s : String) : Records :=
  match (Json.parse? s).bind Json.members? with
  | some members => readAll members
  | none => []

/-- The records as one object. -/
def toJson (rs : Records) : Json := .object (rs.map fun (url, r) => (url, r.toJson))

/-- The text of the file. -/
def text (rs : Records) : String := (toJson rs).pretty

/-- **Each member stands or falls alone.** -/
theorem readAll_eq_filterMap (before after : Keyed String Json) (url : String) (j : Json) :
    readAll (before ++ (url, j) :: after)
      = readAll before
        ++ ((Record.ofJson? j).map fun r => (url, r)).toList ++ readAll after := by
  unfold readAll
  rw [List.filterMap_append, List.filterMap_cons]
  cases h : Record.ofJson? j <;> simp [h]

end Records

end Federation.Introspection
