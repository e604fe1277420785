/-
  Federation.Proofs.Introspection.Store
  ─────────────────────────────────────
  **HISTORIES OF THE STORE.**

  What happens to the store is a list of attempts: a reply is put, an error is
  noted, or an aggregate is forgotten, and the write that follows succeeds or
  fails.  The records in memory are what all changes make of the records in
  the file, whether or not their writes succeeded.  So whenever one does, all
  changes so far are in the file.

  What is remembered of a URL is told by the last reply that was put for it
  and not forgotten since, and by the last error noted after that reply.

  Main results:
    * `records_run` — no change is lost in memory;
    * `writes_through` — a write that succeeds leaves in the file what is in
      memory, one that fails leaves the file alone;
    * `get?_run` — what is remembered of a URL.
-/
import Federation.Proofs.Introspection.Record

namespace Federation.Introspection

open Json (Formed)

/-! ## §1. Changes. -/

/-- A change of the store. -/
inductive Mutation where
  | put (e : Endpoint) (capabilities : Json) (fetchedAt : Time.Instant)
  | markError (e : Endpoint) (message : String)
  | invalidate (url : String)

namespace Mutation

/-- The URL that a change is for. -/
def url : Mutation → String
  | .put e _ _ => e.url
  | .markError e _ => e.url
  | .invalidate url => url

/-- What a change does to the records. -/
def on : Mutation → Records → Records
  | .put e capabilities fetchedAt => fun rs =>
      rs.insert e.url (Store.freshRecord e capabilities fetchedAt)
  | .markError e message => fun rs => Store.withError rs e message
  | .invalidate url => fun rs => rs.erase url

/-- The change made to a store, `written` telling whether its write succeeds. -/
def apply (m : Mutation) (s : Store) (written : Bool) : Store :=
  match m with
  | .put e capabilities fetchedAt => s.put e capabilities fetchedAt written
  | .markError e message => s.markError e message written
  | .invalidate url => s.invalidate url written

theorem apply_eq_change (m : Mutation) (s : Store) (written : Bool) :
    m.apply s written = s.change m.on written := by
  cases m <;> rfl

@[simp] theorem records_apply (m : Mutation) (s : Store) (written : Bool) :
    (m.apply s written).records = m.on s.records := by
  rw [apply_eq_change, Store.records_change]

/-- **A change for one URL leaves the records of all others as they were.** -/
theorem get?_on_ne {m : Mutation} {url : String} (h : m.url ≠ url) (rs : Records) :
    (m.on rs).get? url = rs.get? url := by
  cases m with
  | put e capabilities fetchedAt => exact Keyed.get?_insert_ne rs _ h
  | markError e message =>
      show (Store.withError rs e message).get? url = _
      rw [Store.withError_eq_insert]
      exact Keyed.get?_insert_ne rs _ h
  | invalidate u => exact Keyed.get?_erase_ne rs h

end Mutation

/-- A change that was tried, and whether its write succeeded. -/
structure Attempt where
  change : Mutation
  written : Bool

/-- The store after a history of attempts. -/
def Store.run (s : Store) (history : List Attempt) : Store :=
  history.foldl (fun s a => a.change.apply s a.written) s

/-- The records after a list of changes. -/
def Records.after (rs : Records) (changes : List Mutation) : Records :=
  changes.foldl (fun rs m => m.on rs) rs

theorem Records.after_concat (rs : Records) (changes : List Mutation) (m : Mutation) :
    rs.after (changes ++ [m]) = m.on (rs.after changes) := List.foldl_append

/-- **No change is lost in memory**, whatever became of its write. -/
theorem Store.records_run (s : Store) (history : List Attempt) :
    (s.run history).records = s.records.after (history.map Attempt.change) := by
  induction history generalizing s with
  | nil => rfl
  | cons a history ih =>
      show ((a.change.apply s a.written).run history).records = _
      rw [ih, Mutation.records_apply]
      rfl

/-! ## §2. What is in the file. -/

/-- What was written is read. -/
theorem Contents.records_written (rs : Records) :
    (Contents.bytes (Records.text rs).toUTF8).records = Records.ofText (Records.text rs) :=
  Store.opened_after_change ⟨some rs, .absent⟩ id

/-- Whether what a change brings in is read back from the file: the capabilities of a reply
have to be in order, nest no deeper than there is room for, and last. -/
def Mutation.Storable : Mutation → Prop
  | .put _ capabilities _ => Formed capabilityDepth capabilities ∧ capabilities.Lasting
  | _ => True

/-- A record that is kept may be put among others that are. -/
theorem Records.Kept.insert {rs : Records} (h : rs.Kept) (url : String) {r : Record}
    (formed : Formed capabilityDepth r.capabilities) (lasting : r.capabilities.Lasting) :
    Kept (rs.insert url r) := by
  have hordered := Keyed.ascending_insert h.ordered url r
  -- Whatever is in the table now is the record itself or was there before.
  have hmem : ∀ p ∈ rs.insert url r, p.2 = r ∨ p ∈ rs := by
    intro p hp
    have hget := Keyed.get?_of_mem (Keyed.nodup_keys hordered) (show (p.1, p.2) ∈ _ from hp)
    rw [Keyed.get?_insert] at hget
    split at hget
    · exact .inl (Option.some.inj hget).symm
    · exact .inr (Keyed.mem_of_get? hget)
  refine ⟨hordered, fun p hp => ?_, fun p hp => ?_⟩
  · rcases hmem p hp with heq | hp
    · rw [heq]
      exact formed
    · exact h.formed p hp
  · rcases hmem p hp with heq | hp
    · rw [heq]
      exact lasting
    · exact h.lasting p hp

theorem Records.Kept.erase {rs : Records} (h : rs.Kept) (url : String) : Kept (rs.erase url) where
  ordered := h.ordered.filter _
  formed := fun p hp => h.formed p (List.mem_filter.1 hp).1
  lasting := fun p hp => h.lasting p (List.mem_filter.1 hp).1

/-- **Every change keeps the records such that they are read back.** -/
theorem Records.Kept.on {rs : Records} (h : rs.Kept) {m : Mutation} (storable : m.Storable) :
    Kept (m.on rs) := by
  cases m with
  | put e capabilities fetchedAt => exact h.insert e.url storable.1 storable.2
  | markError e message =>
      show Kept (Store.withError rs e message)
      rw [Store.withError_eq_insert]
      unfold Store.flawed
      -- The capabilities are those from before, or none.
      cases hr : rs.get? e.url with
      | some r =>
          have hmem := Keyed.mem_of_get? hr
          exact h.insert e.url (h.formed _ hmem) (h.lasting _ hmem)
      | none => exact h.insert e.url .null .null
  | invalidate url => exact h.erase url

theorem Records.Kept.after {rs : Records} (h : rs.Kept) {changes : List Mutation} :
    (∀ m ∈ changes, m.Storable) → Kept (rs.after changes) := by
  induction changes generalizing rs with
  | nil => exact fun _ => h
  | cons m changes ih =>
      intro storable
      exact ih (h.on (storable m List.mem_cons_self)) fun x hx =>
        storable x (List.mem_cons_of_mem m hx)

/-- **The file follows the memory.**  After any history of attempts, one more change: in memory
are all changes so far, applied to what was in the file at first.  If the write succeeds, a
store newly opened on the file holds the same; if it fails, the file is as it was. -/
theorem Store.writes_through {file : Contents}
    (lasting : ∀ p ∈ file.records, p.2.capabilities.Lasting) (history : List Attempt)
    (m : Mutation) (written : Bool)
    (storable : ∀ x ∈ history.map Attempt.change ++ [m], x.Storable) :
    let s := (opened file).run history
    let t := m.apply s written
    t.records = file.records.after (history.map Attempt.change ++ [m]) ∧
      (written = true → (opened t.file).records = t.records) ∧
      (written = false → t.file = s.file) := by
  intro s t
  have hrecords : t.records = file.records.after (history.map Attempt.change ++ [m]) := by
    rw [Mutation.records_apply, records_run, Records.after_concat]
    rfl
  refine ⟨hrecords, ?_, ?_⟩
  · rintro rfl
    have hkept := (Contents.kept_records lasting).after storable
    rw [← hrecords, Mutation.records_apply] at hkept
    show (opened (m.apply s true).file).records = (m.apply s true).records
    rw [Mutation.records_apply, Mutation.apply_eq_change, opened_after_change,
      Records.ofText_text hkept]
  · rintro rfl
    show (m.apply s false).file = s.file
    rw [Mutation.apply_eq_change, file_of_failed]

namespace Ledger

/-- An aggregate without a name. -/
def aggregate (url : String) : Endpoint := ⟨Endpoint.unspecifiedUrn, url, none, none⟩

/-- A map of capabilities with a real number in it. -/
def capabilities : Json :=
  .object [("geni_api", .nat 2), ("load", .number (.real ⟨false, 6755399441055744, -52⟩))]

/-- What was remembered once before. -/
def records : Records :=
  [("http://[::1]", Store.freshRecord (aggregate "http://[::1]") capabilities .epoch)]

/-- The file that was left behind. -/
def file : Contents := .bytes (Records.text records).toUTF8

theorem formed_capabilities : Formed capabilityDepth capabilities := by
  refine .object ?_ fun m hm => ?_
  · exact List.pairwise_pair.2 rfl
  · simp only [List.mem_cons, List.not_mem_nil, or_false] at hm
    rcases hm with rfl | rfl
    · exact .number _
    · exact .number _

theorem lasting_capabilities : capabilities.Lasting := by
  refine .object fun m hm => ?_
  simp only [List.mem_cons, List.not_mem_nil, or_false] at hm
  rcases hm with rfl | rfl
  · exact .number (Json.Numeral.lasts_integer (by decide) (by decide))
  · exact .number (by decide)

theorem kept_records : records.Kept := by
  refine ⟨List.pairwise_singleton _ _, fun p hp => ?_, fun p hp => ?_⟩
  · rw [List.mem_singleton.1 hp]
    exact formed_capabilities
  · rw [List.mem_singleton.1 hp]
    exact lasting_capabilities

theorem records_file : file.records = records := by
  unfold file
  rw [Contents.records_written, Records.ofText_text kept_records]

/-- A reply of a second aggregate, which could not be written. -/
def unwritten : Attempt := ⟨.put (aggregate "http://[::2]") capabilities .epoch, false⟩

/-- Then an error of the first one, which could. -/
def failure : Mutation := .markError (aggregate "http://[::1]") "no route"

end Ledger

/-- The change that could not be written is in the file with the next one. -/
theorem Store.writes_through_later :
    (∀ p ∈ Ledger.file.records, p.2.capabilities.Lasting) ∧
      (∀ x ∈ [Ledger.unwritten].map Attempt.change ++ [Ledger.failure], x.Storable) ∧
      (opened (Ledger.failure.apply ((opened Ledger.file).run [Ledger.unwritten])
          true).file).records
        = [("http://[::1]", ⟨epochText, Ledger.capabilities, Endpoint.unspecifiedUrn,
            "http://[::1]", some "no route"⟩),
          ("http://[::2]", ⟨epochText, Ledger.capabilities, Endpoint.unspecifiedUrn,
            "http://[::2]", none⟩)] := by
  have lasting : ∀ p ∈ Ledger.file.records, p.2.capabilities.Lasting := by
    rw [Ledger.records_file]
    exact Ledger.kept_records.lasting
  have storable : ∀ x ∈ [Ledger.unwritten].map Attempt.change ++ [Ledger.failure], x.Storable := by
    intro x hx
    simp only [List.map_cons, List.map_nil, List.cons_append, List.nil_append, List.mem_cons,
      List.not_mem_nil, or_false] at hx
    rcases hx with rfl | rfl
    · exact ⟨Ledger.formed_capabilities, Ledger.lasting_capabilities⟩
    · exact trivial
  obtain ⟨hrecords, hwritten, -⟩ := writes_through lasting [Ledger.unwritten] Ledger.failure true
    storable
  refine ⟨lasting, storable, ?_⟩
  rw [hwritten rfl, hrecords, Ledger.records_file]
  rfl

/-! ## §3. What is remembered of a URL. -/

namespace Mutation

/-- Whether a change does away with all that was remembered of a URL. -/
def Replaces (url : String) : Mutation → Prop
  | .put e _ _ => e.url = url
  | .markError _ _ => False
  | .invalidate u => u = url

/-- The error that a change notes of a URL. -/
def errorFor? (url : String) : Mutation → Option String
  | .markError e message => if e.url = url then some message else none
  | _ => none

theorem errorFor?_ne {m : Mutation} {url : String} (h : m.url ≠ url) : m.errorFor? url = none := by
  cases m with
  | put e capabilities fetchedAt => rfl
  | markError e message => exact if_neg h
  | invalidate u => rfl

end Mutation

/-- The last error that was noted of a URL. -/
def lastError? (url : String) (changes : List Mutation) : Option String :=
  (changes.filterMap (Mutation.errorFor? url)).getLast?

theorem lastError?_concat (url : String) (changes : List Mutation) (m : Mutation) :
    lastError? url (changes ++ [m]) = (m.errorFor? url).or (lastError? url changes) := by
  unfold lastError?
  rw [List.filterMap_append]
  cases h : m.errorFor? url with
  | none =>
      rw [List.filterMap_cons_none h, List.filterMap_nil, List.append_nil, Option.none_or]
  | some message =>
      rw [List.filterMap_cons_some h, List.filterMap_nil, List.getLast?_concat, Option.some_or]

/-- The last reply that was put for a URL and not forgotten since, and what came after it. -/
structure LastPut (url : String) (changes : List Mutation) (e : Endpoint) (capabilities : Json)
    (fetchedAt : Time.Instant) (after : List Mutation) : Prop where
  own : e.url = url
  since : ∃ before, changes = before ++ .put e capabilities fetchedAt :: after
  kept : ∀ m ∈ after, ¬m.Replaces url

/-- The record that is left of a reply. -/
def leftOf (e : Endpoint) (capabilities : Json) (fetchedAt : Time.Instant)
    (error : Option String) : Record :=
  { Store.freshRecord e capabilities fetchedAt with error }

/-- What a history has left of a URL: the last reply with the errors since, or at most the
placeholder of an error. -/
inductive Remains (url : String) (changes : List Mutation) (r : Option Record) : Prop
  | reply {e : Endpoint} {capabilities : Json} {fetchedAt : Time.Instant} {after : List Mutation}
      (last : LastPut url changes e capabilities fetchedAt after)
      (record : r = some (leftOf e capabilities fetchedAt (lastError? url after)))
  | placeholder
      (never : ∀ e capabilities fetchedAt after,
        ¬LastPut url changes e capabilities fetchedAt after)
      (empty : ∀ x, r = some x → x.capabilities = .null)

theorem LastPut.concat {url : String} {changes after : List Mutation} {e : Endpoint}
    {capabilities : Json} {fetchedAt : Time.Instant} {m : Mutation}
    (h : LastPut url changes e capabilities fetchedAt after) (hm : ¬m.Replaces url) :
    LastPut url (changes ++ [m]) e capabilities fetchedAt (after ++ [m]) := by
  obtain ⟨before, hbefore⟩ := h.since
  refine ⟨h.own, ⟨before, ?_⟩, fun x hx => ?_⟩
  · rw [hbefore, List.append_assoc, List.cons_append]
  · rcases List.mem_append.1 hx with hx | hx
    · exact h.kept x hx
    · rw [List.mem_singleton.1 hx]
      exact hm

/-- The last reply is the last change, or it was the last reply before. -/
theorem lastPut_of_concat {url : String} {changes after : List Mutation} {e : Endpoint}
    {capabilities : Json} {fetchedAt : Time.Instant} {m : Mutation}
    (h : LastPut url (changes ++ [m]) e capabilities fetchedAt after) :
    m = .put e capabilities fetchedAt ∨
      (¬m.Replaces url ∧ ∃ before, LastPut url changes e capabilities fetchedAt before) := by
  obtain ⟨before, hbefore⟩ := h.since
  rcases List.eq_nil_or_concat after with hafter | ⟨front, last, hafter⟩
  · -- Nothing came after the reply: it is the change itself.
    rw [hafter] at hbefore
    exact .inl (List.append_inj_right' hbefore rfl |> List.cons.inj).1
  · -- The change is the last of what came after the reply.
    rw [hafter, List.concat_eq_append] at hbefore
    have hsplit : changes = before ++ .put e capabilities fetchedAt :: front ∧ m = last := by
      rw [← List.cons_append, ← List.append_assoc] at hbefore
      exact ⟨List.append_inj_left' hbefore rfl,
        (List.cons.inj (List.append_inj_right' hbefore rfl)).1⟩
    obtain ⟨hchanges, rfl⟩ := hsplit
    have hmem : ∀ x ∈ front, x ∈ after := by
      intro x hx
      rw [hafter, List.concat_eq_append]
      exact List.mem_append_left _ hx
    refine .inr ⟨h.kept m ?_, front, h.own, ⟨before, hchanges⟩, fun x hx => h.kept x (hmem x hx)⟩
    rw [hafter, List.concat_eq_append]
    exact List.mem_append_right _ List.mem_cons_self

/-- There is one last reply. -/
theorem LastPut.unique {url : String} {changes after after' : List Mutation} {e e' : Endpoint}
    {capabilities capabilities' : Json} {fetchedAt fetchedAt' : Time.Instant}
    (h : LastPut url changes e capabilities fetchedAt after)
    (h' : LastPut url changes e' capabilities' fetchedAt' after') :
    e = e' ∧ capabilities = capabilities' ∧ fetchedAt = fetchedAt' ∧ after = after' := by
  obtain ⟨before, hbefore⟩ := h.since
  obtain ⟨before', hbefore'⟩ := h'.since
  rw [hbefore] at hbefore'
  rcases List.append_eq_append_iff.1 hbefore' with ⟨between, -, hrest⟩ | ⟨between, -, hrest⟩
  · cases between with
    | nil =>
        obtain ⟨hput, rfl⟩ := List.cons.inj hrest
        obtain ⟨rfl, rfl, rfl⟩ := Mutation.put.inj hput
        exact ⟨rfl, rfl, rfl, rfl⟩
    | cons x between =>
        -- The other reply would have come after this one.
        obtain ⟨-, rfl⟩ := List.cons.inj hrest
        exact absurd h'.own (h.kept _ (List.mem_append_right between List.mem_cons_self))
  · cases between with
    | nil =>
        obtain ⟨hput, rfl⟩ := List.cons.inj hrest
        obtain ⟨rfl, rfl, rfl⟩ := Mutation.put.inj hput
        exact ⟨rfl, rfl, rfl, rfl⟩
    | cons x between =>
        obtain ⟨-, rfl⟩ := List.cons.inj hrest
        exact absurd h.own (h'.kept _ (List.mem_append_right between List.mem_cons_self))

/-- What a change that does not replace the record makes of it: nothing, or it notes an
error. -/
theorem Mutation.get?_on_of_kept {m : Mutation} {url : String} (h : ¬m.Replaces url)
    (rs : Records) :
    (m.errorFor? url = none ∧ (m.on rs).get? url = rs.get? url) ∨
      ∃ e message, e.url = url ∧ m.errorFor? url = some message ∧
        (m.on rs).get? url = some (Store.flawed rs e message) := by
  by_cases hurl : m.url = url
  · cases m with
    | put e capabilities fetchedAt => exact absurd hurl h
    | invalidate u => exact absurd hurl h
    | markError e message =>
        have hown : e.url = url := hurl
        refine .inr ⟨e, message, hown, if_pos hown, ?_⟩
        show (Store.withError rs e message).get? url = _
        rw [Store.withError_eq_insert, ← hown]
        exact Keyed.get?_insert_self rs e.url _
  · exact .inl ⟨errorFor?_ne hurl, get?_on_ne hurl rs⟩

/-- **What one more change leaves of a URL.** -/
theorem Remains.step {url : String} {changes : List Mutation} {rs : Records}
    (h : Remains url changes (rs.get? url)) (m : Mutation) :
    Remains url (changes ++ [m]) ((m.on rs).get? url) := by
  by_cases hreplaces : m.Replaces url
  · -- What was remembered is gone, whatever it was.
    cases m with
    | put e capabilities fetchedAt =>
        have hown : e.url = url := hreplaces
        have last : LastPut url (changes ++ [.put e capabilities fetchedAt]) e capabilities
            fetchedAt [] := ⟨hown, ⟨changes, rfl⟩, fun x hx => by cases hx⟩
        refine .reply last ?_
        show (rs.insert e.url _).get? url = _
        rw [hown]
        exact Keyed.get?_insert_self rs url _
    | markError e message => exact hreplaces.elim
    | invalidate u =>
        refine .placeholder (fun e capabilities fetchedAt after last => ?_) fun x hx => ?_
        · rcases lastPut_of_concat last with hm | ⟨hkept, -⟩
          · cases hm
          · exact hkept hreplaces
        · have hgone : (rs.erase u).get? url = none := by
            rw [show u = url from hreplaces]
            exact Keyed.get?_erase_self rs url
          have hx' : (rs.erase u).get? url = some x := hx
          rw [hgone] at hx'
          cases hx'
  · -- What was remembered stays, at most with another error.
    cases h with
    | reply last record =>
        refine .reply (last.concat hreplaces) ?_
        rw [lastError?_concat]
        rcases Mutation.get?_on_of_kept hreplaces rs with
          ⟨hnone, hsame⟩ | ⟨e, message, hown, hsome, hget⟩
        · rw [hsame, record, hnone, Option.none_or]
        · unfold Store.flawed at hget
          rw [hown, record] at hget
          rw [hget, hsome]
          rfl
    | placeholder never empty =>
        refine .placeholder (fun e capabilities fetchedAt after last => ?_) fun x hx => ?_
        · rcases lastPut_of_concat last with rfl | ⟨-, before, hbefore⟩
          · exact hreplaces last.own
          · exact never _ _ _ _ hbefore
        · rcases Mutation.get?_on_of_kept hreplaces rs with
            ⟨-, hsame⟩ | ⟨e, message, hown, -, hget⟩
          · exact empty x (hsame ▸ hx)
          · rw [hget] at hx
            obtain rfl := Option.some.inj hx
            unfold Store.flawed
            rw [hown]
            cases hr : rs.get? url with
            | none => rfl
            | some r => exact empty r hr

/-- **What further changes leave of a URL.** -/
theorem Remains.run {url : String} (more : List Mutation) : ∀ {changes : List Mutation}
    {rs : Records}, Remains url changes (rs.get? url) →
      Remains url (changes ++ more) ((rs.after more).get? url) := by
  induction more with
  | nil =>
      intro changes rs h
      rw [List.append_nil]
      exact h
  | cons m more ih =>
      intro changes rs h
      rw [← List.singleton_append, ← List.append_assoc]
      exact ih (h.step m)

/-- What a history that begins with nothing leaves of a URL. -/
theorem remains_after (url : String) (changes : List Mutation) :
    Remains url changes ((Records.after [] changes).get? url) := by
  have hnone : Remains url [] (Keyed.get? ([] : Records) url) := by
    refine .placeholder (fun e capabilities fetchedAt after last => ?_) fun x hx => by cases hx
    obtain ⟨before, hbefore⟩ := last.since
    exact absurd hbefore.symm (List.append_ne_nil_of_right_ne_nil before (List.cons_ne_nil _ _))
  exact Remains.run changes hnone

/-- The snapshot of what is left of a reply. -/
theorem snapshot?_leftOf (e : Endpoint) (capabilities : Json) {fetchedAt : Time.Instant}
    (hnanos : fetchedAt.nanos < 1000000000) (error : Option String) (snapshot : Snapshot) :
    (leftOf e capabilities fetchedAt error).snapshot? = some snapshot ↔
      ∃ made, Snapshot.ofCapabilities capabilities (recorded fetchedAt) = .ok made ∧
        snapshot = { made with lastError := error } := by
  have hfetched : (leftOf e capabilities fetchedAt error).fetchedAt = recorded fetchedAt :=
    Store.fetchedAt_stamped e capabilities hnanos
  have hheld : (leftOf e capabilities fetchedAt error).capabilities = capabilities := rfl
  unfold Record.snapshot?
  rw [hfetched, hheld]
  cases Snapshot.ofCapabilities capabilities (recorded fetchedAt) with
  | error fault =>
      constructor
      · intro h
        cases h
      · rintro ⟨made, hmade, -⟩
        cases hmade
  | ok s =>
      constructor
      · intro h
        exact ⟨s, rfl, (Option.some.inj h).symm⟩
      · rintro ⟨made, hmade, rfl⟩
        obtain rfl := Except.ok.inj hmade
        rfl

/-- **What is found of what is left of a URL**: nothing but the last reply. -/
theorem Remains.found_iff {url : String} {changes : List Mutation} {r : Option Record}
    (h : Remains url changes r)
    (dated : ∀ {e capabilities fetchedAt after},
      LastPut url changes e capabilities fetchedAt after → fetchedAt.nanos < 1000000000)
    (snapshot : Snapshot) (capabilities : Json) :
    (r.bind fun r => r.snapshot?.map fun found => (found, r.capabilities))
        = some (snapshot, capabilities) ↔
      ∃ e fetchedAt after made, LastPut url changes e capabilities fetchedAt after ∧
        Snapshot.ofCapabilities capabilities (recorded fetchedAt) = .ok made ∧
        snapshot = { made with lastError := lastError? url after } := by
  cases h with
  | @reply e held fetchedAt after last record =>
      rw [record, Option.bind_some, Option.map_eq_some_iff]
      constructor
      · rintro ⟨found, hfound, heq⟩
        obtain ⟨rfl, rfl⟩ := Prod.mk.inj heq
        obtain ⟨made, hmade, hsnapshot⟩ := (snapshot?_leftOf e held (dated last) _ _).1 hfound
        exact ⟨e, fetchedAt, after, made, last, hmade, hsnapshot⟩
      · rintro ⟨e', fetchedAt', after', made, last', hmade, hsnapshot⟩
        obtain ⟨rfl, rfl, rfl, rfl⟩ := last.unique last'
        exact ⟨snapshot, (snapshot?_leftOf e held (dated last) _ _).2 ⟨made, hmade, hsnapshot⟩,
          rfl⟩
  | placeholder never empty =>
      constructor
      · intro h
        obtain ⟨r, hr, hfound⟩ := Option.bind_eq_some_iff.1 h
        obtain ⟨found, hsnapshot, -⟩ := Option.map_eq_some_iff.1 hfound
        -- A placeholder has no capabilities.
        unfold Record.snapshot? at hsnapshot
        rw [empty r hr] at hsnapshot
        cases hsnapshot
      · rintro ⟨e, fetchedAt, after, made, last, -, -⟩
        exact absurd last (never e capabilities fetchedAt after)

theorem LastPut.mem {url : String} {changes after : List Mutation} {e : Endpoint}
    {capabilities : Json} {fetchedAt : Time.Instant}
    (h : LastPut url changes e capabilities fetchedAt after) :
    .put e capabilities fetchedAt ∈ changes := by
  obtain ⟨before, hbefore⟩ := h.since
  rw [hbefore]
  exact List.mem_append_right before List.mem_cons_self

/-- **What is remembered of a URL** after a history of attempts that began with no file: the
capabilities of the last reply that was put and not forgotten since, if they make a snapshot,
as of when it was fetched and with the last error since.  A further change for another URL
leaves the record alone. -/
theorem Store.get?_run (history : List Attempt)
    (dated : ∀ a ∈ history, ∀ e capabilities fetchedAt,
      a.change = .put e capabilities fetchedAt → fetchedAt.nanos < 1000000000) (url : String) :
    let s := (opened .absent).run history
    (∀ snapshot capabilities, s.get? url = some (snapshot, capabilities) ↔
      ∃ e fetchedAt after made,
        LastPut url (history.map Attempt.change) e capabilities fetchedAt after ∧
        Snapshot.ofCapabilities capabilities (recorded fetchedAt) = .ok made ∧
        snapshot = { made with lastError := lastError? url after }) ∧
    (∀ (m : Mutation) (written : Bool), m.url ≠ url →
      (m.apply s written).records.get? url = s.records.get? url) := by
  intro s
  have hrecords : s.records = Records.after [] (history.map Attempt.change) :=
    records_run (opened .absent) history
  have hremains := remains_after url (history.map Attempt.change)
  rw [← hrecords] at hremains
  refine ⟨hremains.found_iff fun {e capabilities fetchedAt after} last => ?_,
    fun m written hm => ?_⟩
  · obtain ⟨a, ha, hput⟩ := List.mem_map.1 last.mem
    exact dated a ha e capabilities fetchedAt hput
  · rw [Mutation.records_apply]
    exact Mutation.get?_on_ne hm s.records

namespace Ledger

/-- When the second reply came. -/
def later : Time.Instant := ⟨86400, 5, 3600⟩

/-- A reply, which is forgotten; another one, which could not be written; and an error. -/
def history : List Attempt :=
  [⟨.put (aggregate "http://[::1]") (.object [("geni_api", .nat 3)]) .epoch, true⟩,
    ⟨.invalidate "http://[::1]", true⟩,
    ⟨.put (aggregate "http://[::1]") (.object [("geni_api", .nat 2)]) later, false⟩,
    ⟨.markError (aggregate "http://[::1]") "no route", true⟩]

theorem dated_history : ∀ a ∈ history, ∀ e capabilities fetchedAt,
    a.change = .put e capabilities fetchedAt → fetchedAt.nanos < 1000000000 := by
  intro a ha e capabilities fetchedAt hput
  simp only [history, List.mem_cons, List.not_mem_nil, or_false] at ha
  rcases ha with rfl | rfl | rfl | rfl
  · obtain ⟨-, -, rfl⟩ := Mutation.put.inj hput
    decide
  · cases hput
  · obtain ⟨-, -, rfl⟩ := Mutation.put.inj hput
    decide
  · cases hput

theorem lastPut_history : LastPut "http://[::1]" (history.map Attempt.change)
    (aggregate "http://[::1]") (.object [("geni_api", .nat 2)]) later
    [.markError (aggregate "http://[::1]") "no route"] where
  own := rfl
  since := ⟨[.put (aggregate "http://[::1]") (.object [("geni_api", .nat 3)]) .epoch,
    .invalidate "http://[::1]"], rfl⟩
  kept := by
    intro m hm
    rw [List.mem_singleton.1 hm]
    exact id

end Ledger

/-- What is remembered is the second reply, with the error. -/
theorem Store.get?_run_again :
    (∀ a ∈ Ledger.history, ∀ e capabilities fetchedAt,
      a.change = .put e capabilities fetchedAt → fetchedAt.nanos < 1000000000) ∧
    ∃ snapshot, ((opened .absent).run Ledger.history).get? "http://[::1]"
        = some (snapshot, .object [("geni_api", .nat 2)]) ∧
      snapshot.primary = 2 ∧ snapshot.fetchedAt = Ledger.later ∧
      snapshot.lastError = some "no route" := by
  have hlater : recorded Ledger.later = Ledger.later := by decide
  refine ⟨Ledger.dated_history, _, ((get?_run Ledger.history Ledger.dated_history
    "http://[::1]").1 _ _).2 ⟨_, _, _, _, Ledger.lastPut_history, rfl, rfl⟩, rfl, hlater, rfl⟩

end Federation.Introspection
