/-
  Federation.Introspection.Store
  ──────────────────────────────
  **THE STORE OF RECORDS.**

  The store holds the records in memory and in a file.  The file is read
  once, when the store is first used; from then on every change is made in
  memory and the whole is written.  A write either replaces the file or
  leaves it as it was, and where it fails the change stays in memory, to be
  written with the next one.

  Main results:
    * `opened_after_change` — after a change that was written, a store newly
      opened on the file holds what the text of the records says;
    * `file_of_failed` — a write that fails leaves the file as it was;
    * `records_put_ne` — a change for one URL leaves all others as they
      were.
-/
import Federation.Directory.Endpoint
import Federation.Introspection.Record

namespace Federation.Introspection

/-! ## §1. The store. -/

/-- What is found where the records are kept. -/
inductive Contents where
  | absent
  /-- Something is there, but it cannot be read. -/
  | unreadable
  | bytes (data : ByteArray)
  deriving Inhabited

/-- The text of a file, if it has one. -/
def Contents.text? : Contents → Option String
  | .bytes data => String.fromUTF8? data
  | _ => none

/-- The records in a file; none where there is no text. -/
def Contents.records (c : Contents) : Records := (c.text?.map Records.ofText).getD []

/-- Memory and file. -/
structure Store where
  /-- The records, once the file was read. -/
  memory : Option Records
  file : Contents
  deriving Inhabited

namespace Store

/-- A store on a file, not used yet. -/
def opened (file : Contents) : Store := ⟨none, file⟩

/-- The records that the store holds. -/
def records (s : Store) : Records := s.memory.getD s.file.records

/-- The store after its first use. -/
def loaded (s : Store) : Store := { s with memory := some s.records }

/-! ## §2. Changes. -/

/-- Change the records; `written` tells whether the write that follows
succeeds. -/
def change (s : Store) (f : Records → Records) (written : Bool) : Store :=
  let rs := f s.records
  -- The whole is written, so changes whose own write failed go along.
  ⟨some rs, if written then .bytes (Records.text rs).toUTF8 else s.file⟩

/-- The record of a reply. -/
def freshRecord (e : Endpoint) (capabilities : Json) (fetchedAt : Time.Instant) : Record :=
  ⟨timestampOf fetchedAt, capabilities, e.urn, e.url, none⟩

/-- The record of an error where nothing was known before. -/
def errorRecord (e : Endpoint) (message : String) : Record :=
  ⟨epochText, .null, e.urn, e.url, some message⟩

/-- The records with an error noted; what was known before stays. -/
def withError (rs : Records) (e : Endpoint) (message : String) : Records :=
  match rs.get? e.url with
  | some r => rs.insert e.url { r with error := some message }
  | none => rs.insert e.url (errorRecord e message)

/-- **Remember a reply**, in place of what was known before. -/
def put (s : Store) (e : Endpoint) (capabilities : Json) (fetchedAt : Time.Instant)
    (written : Bool) : Store :=
  s.change (fun rs => rs.insert e.url (freshRecord e capabilities fetchedAt)) written

/-- **Note an error.** -/
def markError (s : Store) (e : Endpoint) (message : String) (written : Bool) : Store :=
  s.change (fun rs => withError rs e message) written

/-- **Forget an aggregate.** -/
def invalidate (s : Store) (url : String) (written : Bool) : Store :=
  s.change (fun rs => rs.erase url) written

/-- Whether anything is remembered of an aggregate. -/
def holds (s : Store) (url : String) : Bool := s.records.hasKey url

/-- **What is remembered of an aggregate**: its snapshot and its
capabilities. -/
def get? (s : Store) (url : String) : Option (Snapshot × Json) :=
  (s.records.get? url).bind fun r => r.snapshot?.map fun snapshot => (snapshot, r.capabilities)

/-! ## §3. Laws. -/

@[simp] theorem records_opened (file : Contents) : (opened file).records = file.records := rfl

@[simp] theorem records_change (s : Store) (f : Records → Records) (written : Bool) :
    (s.change f written).records = f s.records := rfl

theorem file_of_failed (s : Store) (f : Records → Records) :
    (s.change f false).file = s.file := rfl

/-- The bytes of a text are read as the text. -/
theorem text?_utf8 (t : String) : (Contents.bytes t.toUTF8).text? = some t := by
  have h : t.toUTF8.IsValidUTF8 := t.isValidUTF8
  rw [Contents.text?, String.fromUTF8?, dif_pos h]
  rfl

/-- **What was written is what a newly opened store reads.** -/
theorem opened_after_change (s : Store) (f : Records → Records) :
    (opened (s.change f true).file).records = Records.ofText (Records.text (f s.records)) := by
  simp only [opened, records, change, if_true, Contents.records, Option.getD_none]
  rw [text?_utf8]
  rfl

/-- What is on record of an aggregate once an error is noted. -/
def flawed (rs : Records) (e : Endpoint) (message : String) : Record :=
  match rs.get? e.url with
  | some r => { r with error := some message }
  | none => errorRecord e message

/-- To note an error is to put a record in place. -/
theorem withError_eq_insert (rs : Records) (e : Endpoint) (message : String) :
    withError rs e message = rs.insert e.url (flawed rs e message) := by
  unfold withError flawed
  cases rs.get? e.url <;> rfl

theorem error_flawed (rs : Records) (e : Endpoint) (message : String) :
    (flawed rs e message).error = some message := by
  unfold flawed
  cases rs.get? e.url <;> rfl

/-- A reply changes the record of its own URL only. -/
theorem records_put_ne (s : Store) (e : Endpoint) (c : Json) (t : Time.Instant) (written : Bool)
    {url : String} (h : e.url ≠ url) :
    (s.put e c t written).records.get? url = s.records.get? url := by
  simp [put, Keyed.get?_insert_ne _ _ h]

/-- An error changes the record of its own URL only. -/
theorem records_markError_ne (s : Store) (e : Endpoint) (message : String) (written : Bool)
    {url : String} (h : e.url ≠ url) :
    (s.markError e message written).records.get? url = s.records.get? url := by
  simp [markError, withError_eq_insert, Keyed.get?_insert_ne _ _ h]

/-- Forgetting changes the record of its own URL only. -/
theorem records_invalidate_ne (s : Store) (written : Bool) {u url : String} (h : u ≠ url) :
    (s.invalidate u written).records.get? url = s.records.get? url := by
  simp [invalidate, Keyed.get?_erase_ne _ h]

end Store

end Federation.Introspection
