/-
  Federation.Proofs.Introspection.Salvage
  ───────────────────────────────────────
  **WHAT IS LEFT OF A DAMAGED FILE.**

  The file is outside the store, and anything may have become of it.  Where
  it is no text of one object, the store begins empty.  Where it is, each URL
  is judged by itself: the last member with its name counts, and it counts
  where it is a record.  So a member that is damaged or added takes nothing
  from the others.

  What is left is written with the next change whose write succeeds, and is
  all that the file holds then, that change applied, and with it any that
  were made before and could not be written.

  Main results:
    * `Contents.unusable_iff` — which files are of no use;
    * `Contents.get?_records` — what is left of a URL;
    * `Store.salvages` — every file, and the next change.
-/
import Federation.Proofs.Introspection.Store
import Federation.Proofs.Json.Members

namespace Federation.Introspection

/-! ## §1. Texts. -/

namespace Records

/-- **What is left of a URL** is told by the member with its name. -/
theorem get?_readAll {members : Keyed String Json} (h : members.Ascending) (url : String) :
    Keyed.get? (readAll members) url = (members.get? url).bind Record.ofJson? := by
  induction members with
  | nil => rfl
  | cons m members ih =>
      obtain ⟨name, j⟩ := m
      have hrest := ih (List.pairwise_cons.1 h).2
      cases hr : Record.ofJson? j with
      | some r =>
          rw [readAll_cons members hr, Keyed.get?_cons, Keyed.get?_cons, hrest]
          split
          · rw [Option.bind_some, hr]
          · rfl
      | none =>
          rw [readAll_cons_none members hr, Keyed.get?_cons]
          split
          · -- No later member has the name.
            rename_i hname
            rw [hrest, h.get?_tail (.inl hname.symm), Option.bind_none, Option.bind_some, hr]
          · exact hrest

/-- The records of a text that lists members. -/
theorem ofText_of_listed {s : String} {ps : List (String × Json)} (h : Json.listed? s = some ps) :
    ofText s = readAll (Keyed.ofPairs ps) := by
  have hparsed := Json.parse?_eq_object_iff.2 ⟨ps, h, rfl⟩
  unfold ofText
  rw [hparsed]
  rfl

/-- A text that lists none has no records. -/
theorem ofText_of_unlisted {s : String} (h : Json.listed? s = none) : ofText s = [] := by
  unfold ofText
  split
  · rename_i members hmembers
    obtain ⟨j, hj, hobject⟩ := Option.bind_eq_some_iff.1 hmembers
    cases j with
    | object ms =>
        obtain ⟨ps, hps, -⟩ := Json.parse?_eq_object_iff.1 hj
        rw [h] at hps
        cases hps
    | null => cases hobject
    | bool => cases hobject
    | number => cases hobject
    | string => cases hobject
    | array => cases hobject
  · rfl

end Records

/-! ## §2. Files. -/

namespace Contents

/-- **Why a file is of no use.** -/
inductive Unusable : Contents → Prop
  | absent : Unusable .absent
  | unreadable : Unusable .unreadable
  | undecodable {data : ByteArray} (invalid : ¬data.IsValidUTF8) : Unusable (.bytes data)
  | blank {text : String} (blank : Text.isBlankText text = true) : Unusable (.bytes text.toUTF8)
  | noObject {text : String} (other : ∀ ms, Json.parse? text ≠ some (.object ms)) :
      Unusable (.bytes text.toUTF8)

/-- Whether the file is the text of one object with these members, in this order. -/
def Lists (file : Contents) (ps : List (String × Json)) : Prop :=
  ∃ text, file.text? = some text ∧ Json.listed? text = some ps

/-- **A file of no use** is one that lists no members, not even none at all. -/
theorem unusable_iff {file : Contents} : file.Unusable ↔ ∀ ps, ¬file.Lists ps := by
  constructor
  · rintro h ps ⟨text, htext, hlisted⟩
    cases h with
    | absent => cases htext
    | unreadable => cases htext
    | @undecodable data invalid =>
        have hnone : String.fromUTF8? data = none := dif_neg invalid
        cases hnone.symm.trans htext
    | blank blank =>
        rw [Store.text?_utf8] at htext
        obtain rfl := Option.some.inj htext
        cases (Json.listed?_of_blank blank).symm.trans hlisted
    | noObject other =>
        rw [Store.text?_utf8] at htext
        obtain rfl := Option.some.inj htext
        exact other _ (Json.parse?_eq_object_iff.2 ⟨ps, hlisted, rfl⟩)
  · intro h
    cases file with
    | absent => exact .absent
    | unreadable => exact .unreadable
    | bytes data =>
        by_cases hvalid : data.IsValidUTF8
        · obtain ⟨text, rfl⟩ : ∃ text : String, text.toUTF8 = data := ⟨⟨data, hvalid⟩, rfl⟩
          -- A text of blanks is of no use for this reason, too.
          refine .noObject fun ms hms => ?_
          obtain ⟨ps, hps, -⟩ := Json.parse?_eq_object_iff.1 hms
          exact h ps ⟨text, Store.text?_utf8 text, hps⟩
        · exact .undecodable hvalid

theorem not_unusable_iff {file : Contents} : ¬file.Unusable ↔ ∃ ps, file.Lists ps :=
  (not_congr unusable_iff).trans not_forall_not

/-- There is nothing in a file of no use. -/
theorem records_of_unusable {file : Contents} (h : file.Unusable) : file.records = [] := by
  unfold records
  cases htext : file.text? with
  | none => rfl
  | some text =>
      refine Records.ofText_of_unlisted (Option.eq_none_iff_forall_ne_some.2 fun ps hps => ?_)
      exact unusable_iff.1 h ps ⟨text, htext, hps⟩

theorem records_of_lists {file : Contents} {ps : List (String × Json)} (h : file.Lists ps) :
    file.records = Records.readAll (Keyed.ofPairs ps) := by
  obtain ⟨text, htext, hlisted⟩ := h
  unfold records
  rw [htext]
  exact Records.ofText_of_listed hlisted

/-- **What is left of a URL**: its last member, if that is a record. -/
theorem get?_records {file : Contents} {ps : List (String × Json)} (h : file.Lists ps)
    (url : String) :
    file.records.get? url = (Keyed.get? ps.reverse url).bind Record.ofJson? := by
  rw [records_of_lists h, Records.get?_readAll (Keyed.ascending_ofPairs ps), Keyed.get?_ofPairs]

theorem ascending_records (file : Contents) : file.records.Ascending := by
  unfold records
  cases file.text? with
  | none => exact List.Pairwise.nil
  | some s => exact (Records.formed_of_ofText s).1

/-- **A member takes nothing from the others**, whatever is done to those of its name. -/
theorem get?_records_congr {file other : Contents} {ps qs : List (String × Json)}
    {changed url : String} (h : file.Lists ps) (h' : other.Lists qs)
    (same : Keyed.erase ps changed = Keyed.erase qs changed) (hurl : url ≠ changed) :
    other.records.get? url = file.records.get? url := by
  rw [get?_records h, get?_records h', Json.get?_listed_congr same hurl]

end Contents

/-! ## §3. The next change. -/

namespace Store

/-- Changes that could not be written. -/
def unwritten (changes : List Mutation) : List Attempt := changes.map fun m => ⟨m, false⟩

theorem records_run_unwritten (s : Store) (changes : List Mutation) :
    (s.run (unwritten changes)).records = s.records.after changes := by
  have hchanges : (unwritten changes).map Attempt.change = changes := by
    unfold unwritten
    rw [List.map_map]
    exact List.map_id changes
  rw [records_run, hchanges]

/-- **What the next write leaves**: all that was left of the file, with the change and those before
it that could not be written. -/
theorem opened_after_salvage {file : Contents}
    (lasting : ∀ p ∈ file.records, p.2.capabilities.Lasting) {changes : List Mutation}
    {m : Mutation} (storable : ∀ x ∈ changes ++ [m], x.Storable) :
    (opened (m.apply ((opened file).run (unwritten changes)) true).file).records
      = m.on (file.records.after changes) := by
  have hkept := (Contents.kept_records lasting).after storable
  rw [Records.after_concat] at hkept
  rw [Mutation.apply_eq_change, opened_after_change, records_run_unwritten]
  exact Records.ofText_text hkept

/-- **A damaged file does no harm.**  A store on a file of no use begins empty; on any other file
it begins with the last member of each name, where that is a record by itself, and with nothing
else, so members of one name make no difference to the others.  The next change that is written
leaves a file of just that, with the change and with those before it that could not be written. -/
theorem salvages (file : Contents) :
    (file.Unusable → (opened file).records = []) ∧
    (¬file.Unusable ↔ ∃ ps, file.Lists ps) ∧
    (∀ ps, file.Lists ps → (opened file).records.Ascending ∧
      ∀ url, (opened file).records.get? url = (Keyed.get? ps.reverse url).bind Record.ofJson?) ∧
    (∀ ps other qs changed, file.Lists ps → other.Lists qs →
      Keyed.erase ps changed = Keyed.erase qs changed → ∀ url, url ≠ changed →
        (opened other).records.get? url = (opened file).records.get? url) ∧
    ((∀ p ∈ (opened file).records, p.2.capabilities.Lasting) →
      ∀ (changes : List Mutation) (m : Mutation), (∀ x ∈ changes ++ [m], x.Storable) →
        (opened (m.apply ((opened file).run (unwritten changes)) true).file).records
          = m.on ((opened file).records.after changes)) :=
  ⟨Contents.records_of_unusable, Contents.not_unusable_iff,
    fun _ h => ⟨file.ascending_records, Contents.get?_records h⟩,
    fun _ _ _ _ h h' same _ hurl => Contents.get?_records_congr h h' same hurl,
    fun lasting _ _ storable => opened_after_salvage lasting storable⟩

end Store

namespace Ledger

/-- The members of the file that was left behind. -/
def members : List (String × Json) := records.map fun p => (p.1, p.2.toJson)

/-- The same, and two of another name that are no records. -/
def damagedMembers : List (String × Json) :=
  ("http://[::2]", .null) :: members ++ [("http://[::2]", .nat 5)]

def damagedFile : Contents := .bytes (Json.object damagedMembers).pretty.toUTF8

/-- Members around the records that are no records. -/
theorem lists_of_others {ps : List (String × Json)}
    (h : ∀ m ∈ ps, m ∈ members ∨ m.2 = .null ∨ m.2 = .nat 5) :
    (Contents.bytes (Json.object ps).pretty.toUTF8).Lists (Json.sortedMembers ps) := by
  have hmember : ∀ m ∈ ps, Json.Within (capabilityDepth + 1) m.2 ∧ m.2.Lasting := by
    intro m hm
    rcases h m hm with hrecord | hnull | hnumber
    · obtain ⟨p, hp, rfl⟩ := List.mem_map.1 hrecord
      exact ⟨Record.within_toJson (kept_records.formed p hp).within,
        Record.lasting_toJson (kept_records.lasting p hp)⟩
    · rw [hnull]
      exact ⟨.null, .null⟩
    · rw [hnumber]
      exact ⟨.number _, .number (Json.Numeral.lasts_integer (by decide) (by decide))⟩
  refine ⟨_, Store.text?_utf8 _, Json.listed?_pretty ?_ ?_⟩
  · rw [maxDepth_eq]
    exact .object fun m hm => (hmember m hm).1
  · exact .object fun m hm => (hmember m hm).2

end Ledger

/-- The record is left, and the next change is written with it. -/
theorem Store.salvages_record :
    (opened .absent).records = [] ∧
      (opened Ledger.damagedFile).records = Ledger.records ∧
      (opened (Ledger.failure.apply (opened Ledger.damagedFile) true).file).records
        = Ledger.failure.on Ledger.records := by
  obtain ⟨hunusable, -, -, -, -⟩ := salvages .absent
  obtain ⟨-, -, hleft, -, hnext⟩ := salvages Ledger.damagedFile
  obtain ⟨-, -, -, hother, -⟩ := salvages Ledger.file
  have hfile : Ledger.file.Lists (Json.sortedMembers Ledger.members) :=
    Ledger.lists_of_others fun m hm => .inl hm
  have hdamaged : Ledger.damagedFile.Lists (Json.sortedMembers Ledger.damagedMembers) := by
    refine Ledger.lists_of_others fun m hm => ?_
    simp only [Ledger.damagedMembers, List.cons_append, List.mem_cons, List.mem_append,
      List.not_mem_nil, or_false] at hm
    rcases hm with rfl | hm | rfl
    · exact .inr (.inl rfl)
    · exact .inl hm
    · exact .inr (.inr rfl)
  have hsame : Keyed.erase (Json.sortedMembers Ledger.members) "http://[::2]"
      = Keyed.erase (Json.sortedMembers Ledger.damagedMembers) "http://[::2]" := by
    simp [Json.sortedMembers_eq_map, Ledger.damagedMembers, Ledger.members, Ledger.records,
      Keyed.erase]
  obtain ⟨hordered, hlast⟩ := hleft _ hdamaged
  have hrecords : (opened Ledger.damagedFile).records = Ledger.records := by
    refine Keyed.ext_of_ascending hordered Ledger.kept_records.ordered fun url => ?_
    by_cases hurl : url = "http://[::2]"
    · rw [hlast, hurl]
      rfl
    · rw [hother _ _ _ "http://[::2]" hfile hdamaged hsame url hurl, records_opened,
        Ledger.records_file]
  refine ⟨hunusable .absent, hrecords, ?_⟩
  have hwritten := hnext (by rw [hrecords]; exact Ledger.kept_records.lasting) [] Ledger.failure
    fun x hx => List.mem_singleton.1 hx ▸ trivial
  rw [hrecords] at hwritten
  exact hwritten

end Federation.Introspection
