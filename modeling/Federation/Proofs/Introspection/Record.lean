/-
  Federation.Proofs.Introspection.Record
  ──────────────────────────────────────
  **RECORDS READ BACK FROM THE FILE.**

  A record is an object in the file, one of several under their URLs, so its
  capabilities stand two containers deep.  What is `Kept` of a store are the
  records in the order of their URLs whose capabilities are in order, nest no
  deeper than what is left to them, and last.  Such records are read back from
  their text, strings of any kind and the optional error included.  All of it
  but the lasting of numbers holds of whatever was read from a file.

  The time of a fetch is kept as a text, and read back as the moment it was
  written for (`fetchedAt_stamped`).

  Main results:
    * `ofText_text` — records that are kept are read back from their text;
    * `formed_of_ofText` — records that were read are in order and within the
      depth;
    * `fetchedAt_stamped` — the moment of a fetch is read back.
-/
import Federation.Introspection.Store
import Federation.Proofs.Json.Roundtrip
import Federation.Proofs.Time.RecordText

namespace Federation.Introspection

open Json (Formed Lasting Within sorted)

/-! ## §1. One record. -/

/-- How deep the capabilities of a record may nest: the record and the file stand around
them. -/
def capabilityDepth : Nat := 125

theorem maxDepth_eq : Json.Reader.maxDepth = capabilityDepth + 1 + 1 := rfl

/-- **A record is read from its form in the file.** -/
theorem Record.ofJson?_sorted {r : Record} (h : sorted r.capabilities = r.capabilities) :
    Record.ofJson? (sorted r.toJson) = some r := by
  obtain ⟨timestamp, capabilities, urn, url, error⟩ := r
  have htext : ∀ s, sorted (.string s) = .string s := fun s => by rw [sorted]
  have hcapabilities : sorted capabilities = capabilities := h
  unfold Record.toJson
  rw [sorted, Json.sortedMembers_eq_map]
  show Record.ofFields? _ _ _ _ _ = _
  simp only [Keyed.get?_ofPairs]
  cases error with
  | none =>
      simp [Keyed.get?_cons, htext, hcapabilities, ofFields?, textOr, optionalText, Json.text?]
  | some message =>
      simp [Keyed.get?_cons, htext, hcapabilities, ofFields?, textOr, optionalText, Json.text?]

/-- Apart from the capabilities a record consists of texts. -/
theorem Record.toJson_members (r : Record) :
    ∃ ms, r.toJson = .object ms ∧
      ∀ m ∈ ms, m.2 = r.capabilities ∨ ∃ s, m.2 = .string s := by
  refine ⟨_, rfl, fun m hm => ?_⟩
  rcases List.mem_append.1 hm with hm | hm
  · simp only [List.mem_cons, List.not_mem_nil, or_false] at hm
    rcases hm with rfl | rfl | rfl | rfl
    · exact .inr ⟨_, rfl⟩
    · exact .inl rfl
    · exact .inr ⟨_, rfl⟩
    · exact .inr ⟨_, rfl⟩
  · obtain ⟨e, -, rfl⟩ := List.mem_map.1 hm
    exact .inr ⟨e, rfl⟩

theorem Record.within_toJson {depth : Nat} {r : Record} (h : Within depth r.capabilities) :
    Within (depth + 1) r.toJson := by
  obtain ⟨ms, hjson, hms⟩ := r.toJson_members
  rw [hjson]
  refine .object fun m hm => ?_
  rcases hms m hm with hcapabilities | ⟨s, htext⟩
  · rw [hcapabilities]
    exact h
  · rw [htext]
    exact .string s

theorem Record.lasting_toJson {r : Record} (h : r.capabilities.Lasting) : r.toJson.Lasting := by
  obtain ⟨ms, hjson, hms⟩ := r.toJson_members
  rw [hjson]
  refine .object fun m hm => ?_
  rcases hms m hm with hcapabilities | ⟨s, htext⟩
  · rw [hcapabilities]
    exact h
  · rw [htext]
    exact .string s

/-! ## §2. All records. -/

/-- Records that are in the file as they are in memory, once they are written. -/
structure Records.Kept (rs : Records) : Prop where
  ordered : rs.Ascending
  formed : ∀ p ∈ rs, Formed capabilityDepth p.2.capabilities
  lasting : ∀ p ∈ rs, p.2.capabilities.Lasting

theorem Records.kept_nil : Kept [] where
  ordered := List.Pairwise.nil
  formed := fun _ hp => by cases hp
  lasting := fun _ hp => by cases hp

theorem Records.sorted_toJson {rs : Records} (h : rs.Kept) :
    sorted (Records.toJson rs) = .object (rs.map fun p => (p.1, sorted p.2.toJson)) := by
  have hordered : Keyed.Ascending (rs.map fun p => (p.1, sorted p.2.toJson)) :=
    List.pairwise_map.2 h.ordered
  unfold Records.toJson
  rw [sorted, Json.sortedMembers_eq_map, List.map_map]
  show Json.object (Keyed.ofPairs (rs.map fun p => (p.1, sorted p.2.toJson))) = _
  rw [Keyed.ofPairs_of_ascending hordered]

theorem Records.readAll_cons {url : String} {j : Json} {r : Record} (members : Keyed String Json)
    (h : Record.ofJson? j = some r) :
    readAll ((url, j) :: members) = (url, r) :: readAll members := by
  unfold readAll
  refine List.filterMap_cons_some ?_
  show (Record.ofJson? j).map _ = _
  rw [h]
  rfl

theorem Records.readAll_cons_none {url : String} {j : Json} (members : Keyed String Json)
    (h : Record.ofJson? j = none) : readAll ((url, j) :: members) = readAll members := by
  unfold readAll
  refine List.filterMap_cons_none ?_
  show (Record.ofJson? j).map _ = _
  rw [h]
  rfl

theorem Records.readAll_map {rs : Records}
    (h : ∀ p ∈ rs, Record.ofJson? (sorted p.2.toJson) = some p.2) :
    readAll (rs.map fun p => (p.1, sorted p.2.toJson)) = rs := by
  induction rs with
  | nil => rfl
  | cons p rs ih =>
      rw [List.map_cons, readAll_cons _ (h p List.mem_cons_self),
        ih fun q hq => h q (List.mem_cons_of_mem p hq)]

/-- **Records that are kept are read back from their text.** -/
theorem Records.ofText_text {rs : Records} (h : rs.Kept) : ofText (text rs) = rs := by
  have hwithin : Within Json.Reader.maxDepth (toJson rs) := by
    rw [maxDepth_eq]
    refine .object fun m hm => ?_
    obtain ⟨p, hp, rfl⟩ := List.mem_map.1 hm
    exact Record.within_toJson (h.formed p hp).within
  have hlasting : (toJson rs).Lasting := by
    refine .object fun m hm => ?_
    obtain ⟨p, hp, rfl⟩ := List.mem_map.1 hm
    exact Record.lasting_toJson (h.lasting p hp)
  unfold ofText text
  rw [Json.parse?_pretty hwithin hlasting, sorted_toJson h]
  exact readAll_map fun p hp => Record.ofJson?_sorted (Json.sorted_of_formed (h.formed p hp))

/-! ## §3. What was read. -/

theorem Record.capabilities_of_ofFields? {timestamp capabilities urn url error : Option Json}
    {r : Record} (h : Record.ofFields? timestamp capabilities urn url error = some r) :
    r.capabilities = capabilities.getD .null := by
  unfold Record.ofFields? at h
  obtain ⟨_, -, h⟩ := Option.bind_eq_some_iff.1 h
  obtain ⟨_, -, h⟩ := Option.bind_eq_some_iff.1 h
  obtain ⟨_, -, h⟩ := Option.bind_eq_some_iff.1 h
  obtain ⟨_, -, h⟩ := Option.bind_eq_some_iff.1 h
  obtain rfl := Option.some.inj h
  rfl

/-- The capabilities of a record that was read stand one container deeper. -/
theorem Record.formed_of_ofJson? {depth : Nat} {j : Json} {r : Record} (h : Formed (depth + 1) j)
    (hr : Record.ofJson? j = some r) : Formed depth r.capabilities := by
  have hgetD : ∀ found : Option Json, (∀ c, found = some c → Formed depth c) →
      Formed depth (found.getD .null) := by
    intro found hfound
    cases found with
    | none => exact .null
    | some c => exact hfound c rfl
  cases h with
  | object _ inner =>
      rw [capabilities_of_ofFields? hr]
      exact hgetD _ fun c hc => inner _ (Keyed.mem_of_get? hc)
  | @array _ items inner =>
      unfold Record.ofJson? at hr
      dsimp only at hr
      split at hr
      · cases hr
      · rw [capabilities_of_ofFields? hr]
        exact hgetD _ fun c hc => inner _ (List.mem_of_getElem? hc)
  | null => cases hr
  | bool => cases hr
  | number => cases hr
  | string => cases hr

theorem Records.ascending_readAll {members : Keyed String Json} (h : members.Ascending) :
    Keyed.Ascending (readAll members) := by
  refine List.pairwise_filterMap.2 (h.imp fun {a b} hbefore => ?_)
  intro p hp q hq
  obtain ⟨_, -, rfl⟩ := Option.map_eq_some_iff.1 hp
  obtain ⟨_, -, rfl⟩ := Option.map_eq_some_iff.1 hq
  exact hbefore

/-- **What was read is in order and within the depth.** -/
theorem Records.formed_of_ofText (s : String) :
    Keyed.Ascending (ofText s) ∧ ∀ p ∈ ofText s, Formed capabilityDepth p.2.capabilities := by
  unfold ofText
  split
  · rename_i members hmembers
    obtain ⟨j, hj, hobject⟩ := Option.bind_eq_some_iff.1 hmembers
    have hformed := Json.formed_of_parse hj
    cases j with
    | object ms =>
        obtain rfl := Option.some.inj hobject
        rw [maxDepth_eq] at hformed
        cases hformed with | object ordered inner =>
        refine ⟨ascending_readAll ordered, fun p hp => ?_⟩
        obtain ⟨m, hm, hread⟩ := List.mem_filterMap.1 hp
        obtain ⟨r, hr, rfl⟩ := Option.map_eq_some_iff.1 hread
        exact Record.formed_of_ofJson? (inner m hm) hr
    | null => cases hobject
    | bool => cases hobject
    | number => cases hobject
    | string => cases hobject
    | array => cases hobject
  · exact ⟨List.Pairwise.nil, fun p hp => by cases hp⟩

/-- Records that were read from a file are kept, if their numbers last. -/
theorem Contents.kept_records {file : Contents}
    (h : ∀ p ∈ file.records, p.2.capabilities.Lasting) : file.records.Kept := by
  unfold Contents.records at h ⊢
  cases hfile : file.text? with
  | none => exact Records.kept_nil
  | some s =>
      rw [hfile] at h
      obtain ⟨ordered, formed⟩ := Records.formed_of_ofText s
      exact ⟨ordered, formed, h⟩

/-! ## §4. When they were fetched. -/

/-- The moment that is kept of a fetch: the moment itself, or the start of 1970 where it
has no text. -/
def recorded (t : Time.Instant) : Time.Instant :=
  if t.recordText?.isSome then t else Time.Instant.epoch

/-- **The moment of a fetch is read back.** -/
theorem Store.fetchedAt_stamped (e : Endpoint) (capabilities : Json) {t : Time.Instant}
    (h : t.nanos < 1000000000) : (freshRecord e capabilities t).fetchedAt = recorded t := by
  show (Time.readRecord? (timestampOf t).toList).getD _ = _
  unfold timestampOf recorded
  cases htext : t.recordText? with
  | none => rfl
  | some s =>
      rw [Option.getD_some, Time.readRecord?_recordText h htext]
      rfl

end Federation.Introspection
