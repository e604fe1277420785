/-
  Federation.Proofs.Call.Genuine
  ──────────────────────────────
  **WHAT STANDS IN A CALL IS THE CALLER'S.**

  A position is filled with an empty text, or an empty list, where the caller
  has given nothing for it.  What is checked before a call is prepared is
  stated apart from what is filled in; that both agree, for each operation at
  each version, is why no such filling is ever sent.

  Main results:
    * `needs_shape` — what the positions need is what is checked;
    * `genuine_of_fill` — what is filled in where the need is met;
    * `prepare_genuine` — which calls are prepared, and what stands in them.
-/
import Federation.Proofs.Call.Prepared

namespace Federation.Call

/-! ## §1. What is the caller's. -/

/-- **A credential as it is presented at a version**: its document, from
version 3 on together with its family and the version of that. -/
inductive Presented (v : Nat) (c : Credential) : Json → Prop
  | bare (legacy : v < 3) : Presented v c (.string c.document)
  | typed (modern : 3 ≤ v) :
      Presented v c (.ofMembers [("geni_type", .string c.family),
        ("geni_version", .string c.version), ("geni_value", .string c.document)])

/-- **What the caller has given for a position.**  Only for users is there
something to send where nothing was given. -/
inductive Genuine (v : Nat) (a : Arguments) (cs : List Credential) (opts : Options) :
    Slot → Json → Prop
  | slice {urn : String} (given : a.slice = some urn) : Genuine v a cs opts .slice (.string urn)
  | slivers (given : a.slivers ≠ []) : Genuine v a cs opts .targets (Json.texts a.slivers)
  | wholeSlice {urn : String} (noSlivers : a.slivers = []) (given : a.slice = some urn) :
      Genuine v a cs opts .targets (Json.texts [urn])
  | credentials {wires : List Json} (each : List.Forall₂ (Presented v) cs wires) :
      Genuine v a cs opts .credentials (.array wires)
  | request {text : String} (given : a.request = some text) :
      Genuine v a cs opts .request (.string text)
  | users {keys : Json} (given : a.users = some keys) : Genuine v a cs opts .users keys
  | noUsers (notGiven : a.users = none) : Genuine v a cs opts .users (.array [])
  | expiration {text wire : String} (given : a.expiration = some text)
      (normal : Time.normalise text = .ok wire) :
      Genuine v a cs opts .expiration (.string wire)
  | action {name : String} (given : a.action = some name) :
      Genuine v a cs opts .action (.string name)
  | options : Genuine v a cs opts .options (.object opts)

theorem presented_wire (v : Nat) (c : Credential) : Presented v c (c.wire v) := by
  unfold Credential.wire
  by_cases hmodern : 3 ≤ v
  · rw [if_pos (show Operation.isModern v = true from decide_eq_true hmodern)]
    exact .typed hmodern
  · rw [if_neg (show ¬Operation.isModern v = true from fun h => hmodern (of_decide_eq_true h))]
    exact .bare (Nat.lt_of_not_le hmodern)

/-! ## §2. What is checked and what is filled in. -/

/-- What a position needs. -/
def Slot.need? : Slot → Option Requirement
  | .slice => some .slice
  | .targets => some .targets
  | .request => some .request
  | .expiration => some .expiration
  | .action => some .action
  | .credentials | .users | .options => none

section

variable {o : Operation} {v : Nat} {a : Arguments} {cs : List Credential} {opts : Options}
  {p : Prepared}

/-- What names the resources, and what is checked of it, is told by the version alike. -/
theorem need?_subject (v : Nat) : (subject v).need? = some (Operation.scope v) := by
  unfold subject Operation.scope
  split <;> rfl

/-- **What the positions of a call need is what is checked**, for each operation at each version
that has it. -/
theorem needs_shape (hname : (o.wireName? v).isSome = true) :
    (shape o v).filterMap Slot.need? = o.requirements v := by
  have hoptions : (if takesOptions o v then [Slot.options] else []).filterMap Slot.need? = [] := by
    split <;> rfl
  unfold shape
  rw [List.filterMap_append, hoptions, List.append_nil]
  cases o with
  | getVersion | listResources | shutdown => rfl
  | allocate =>
      show ([Slot.slice, Slot.credentials, Slot.request]
        ++ if Operation.isModern v then [] else [Slot.users]).filterMap Slot.need? = _
      split <;> rfl
  | performOperationalAction =>
      -- An action takes targets at every version, and there is none below version 3.
      have hmodern : Operation.isModern v = true := by
        refine Decidable.byContradiction fun hlegacy => ?_
        have hmissing := (Operation.wireName?_eq_none_iff .performOperationalAction v).2
          (.inr ⟨Nat.lt_of_not_le fun h => hlegacy (decide_eq_true h), by simp⟩)
        rw [hmissing] at hname
        cases hname
      unfold body Operation.requirements Operation.scope
      rw [hmodern]
      rfl
  | renew | describe | provision | status | delete =>
      unfold body
      rw [List.filterMap_cons_some (need?_subject v)]
      rfl

/-- Where the arguments are in order, each position has what it needs. -/
theorem meets_of_mem_shape (hvalid : o.validate v a = .ok ()) {slot : Slot}
    (hslot : slot ∈ shape o v) {r : Requirement} (hneed : slot.need? = some r) :
    a.meets r = true := by
  obtain ⟨hname, hchecked⟩ := (Operation.validate_eq_ok_iff o v a).1 hvalid
  have hr : r ∈ (shape o v).filterMap Slot.need? := List.mem_filterMap.2 ⟨slot, hslot, hneed⟩
  rw [needs_shape hname] at hr
  exact hchecked r hr

/-- **What is filled in where the need is met** is what the caller has given. -/
theorem genuine_of_fill {slot : Slot} (hmet : ∀ r, slot.need? = some r → a.meets r = true)
    {argument : Json} (h : fill o v a cs opts slot = .ok argument) :
    Genuine v a cs opts slot argument := by
  cases slot with
  | slice =>
      obtain ⟨urn, given⟩ := Option.isSome_iff_exists.1 (hmet .slice rfl)
      obtain rfl := Except.ok.inj h
      rw [given]
      exact .slice given
  | targets =>
      have hgiven := hmet .targets rfl
      obtain rfl := Except.ok.inj h
      unfold Arguments.targets
      by_cases hslivers : a.slivers = []
      · have hslice : a.slice.isSome = true := by
          simpa [Arguments.meets, hslivers] using hgiven
        obtain ⟨urn, given⟩ := Option.isSome_iff_exists.1 hslice
        rw [hslivers, given]
        exact .wholeSlice hslivers given
      · rw [if_neg (by simpa using hslivers)]
        exact .slivers hslivers
  | credentials =>
      obtain rfl := Except.ok.inj h
      refine .credentials ?_
      rw [List.forall₂_map_right_iff]
      exact List.forall₂_same.2 fun c _ => presented_wire v c
  | request =>
      obtain ⟨text, given⟩ := Option.isSome_iff_exists.1 (hmet .request rfl)
      obtain rfl := Except.ok.inj h
      rw [given]
      exact .request given
  | users =>
      obtain rfl := Except.ok.inj h
      cases given : a.users with
      | none => exact .noUsers given
      | some keys => exact .users given
  | expiration =>
      obtain ⟨text, given⟩ := Option.isSome_iff_exists.1 (hmet .expiration rfl)
      unfold fill expirationText at h
      rw [given] at h
      cases normal : Time.normalise ((some text).getD "") with
      | error fault =>
          rw [normal] at h
          cases h
      | ok wire =>
          rw [normal] at h
          obtain rfl := Except.ok.inj h
          exact .expiration given normal
  | action =>
      obtain ⟨name, given⟩ := Option.isSome_iff_exists.1 (hmet .action rfl)
      obtain rfl := Except.ok.inj h
      rw [given]
      exact .action given
  | options =>
      obtain rfl := Except.ok.inj h
      exact .options

/-! ## §3. Prepared calls. -/

/-- **What stands in a prepared call is the caller's**, position by position. -/
theorem genuine_arguments (h : prepare o v a cs opts = .ok p) :
    List.Forall₂ (Genuine v a cs opts) (shape o v) p.arguments := by
  have hmet : ∀ slot ∈ shape o v, ∀ r, slot.need? = some r → a.meets r = true :=
    fun slot hslot r hneed => meets_of_mem_shape (validate_of_prepare h) hslot hneed
  have hfilled := List.forall₂_and_left _ _ |>.2 ⟨hmet, prepare_arguments h⟩
  exact hfilled.imp fun slot argument ⟨hneeds, hfill⟩ => genuine_of_fill hneeds hfill

/-- A call has one place for credentials, unless it asks for the version. -/
theorem count_credentials_shape (ho : o ≠ .getVersion) (v : Nat) :
    (shape o v).count .credentials = 1 := by
  unfold shape body subject
  cases o with
  | getVersion => exact absurd rfl ho
  | _ =>
      cases Operation.isModern v <;> cases takesOptions _ v <;> decide

/-- A renewal is prepared only for a time that can be read. -/
theorem timely_of_prepare (h : prepare .renew v a cs opts = .ok p) :
    ∃ text wire, a.expiration = some text ∧ Time.normalise text = .ok wire := by
  have hall : List.Forall₂ (Genuine v a cs opts)
      (subject v :: .credentials :: .expiration :: _) p.arguments := genuine_arguments h
  obtain ⟨_, _, -, hall, -⟩ := List.forall₂_cons_left_iff.1 hall
  obtain ⟨_, _, -, hall, -⟩ := List.forall₂_cons_left_iff.1 hall
  obtain ⟨argument, _, hgenuine, -, -⟩ := List.forall₂_cons_left_iff.1 hall
  cases hgenuine with
  | expiration given normal => exact ⟨_, _, given, normal⟩

/-- What is wrong with a time is nothing where it can be read. -/
theorem timeFault?_eq_none
    (h : o = .renew → ∃ text wire, a.expiration = some text ∧ Time.normalise text = .ok wire) :
    timeFault? o a = none := by
  unfold timeFault?
  by_cases hrenew : o = .renew
  · obtain ⟨text, wire, given, normal⟩ := h hrenew
    rw [if_pos hrenew, given, Option.getD_some, normal]
  · rw [if_neg hrenew]

end

/-- **Which calls are prepared, and what stands in them.**  A call is prepared
exactly where the arguments are in order and, for a renewal, the time can be
read.  What stands in it is then what the caller has given, position by
position; credentials stand in one position of every call but that which asks
for the version. -/
theorem prepare_genuine (o : Operation) (v : Nat) (a : Arguments) (cs : List Credential)
    (opts : Options) :
    ((∃ p, prepare o v a cs opts = .ok p) ↔
      o.validate v a = .ok () ∧
        (o = .renew →
          ∃ text wire, a.expiration = some text ∧ Time.normalise text = .ok wire)) ∧
    ∀ p, prepare o v a cs opts = .ok p →
      List.Forall₂ (Genuine v a cs opts) (shape o v) p.arguments ∧
        (o ≠ .getVersion → (shape o v).count .credentials = 1) := by
  refine ⟨⟨?_, ?_⟩, fun p h => ⟨genuine_arguments h, fun ho => count_credentials_shape ho v⟩⟩
  · rintro ⟨p, h⟩
    refine ⟨validate_of_prepare h, ?_⟩
    rintro rfl
    exact timely_of_prepare h
  · rintro ⟨hvalid, htimely⟩
    have hprepare := prepare_of_valid hvalid cs opts
    rw [timeFault?_eq_none htimely] at hprepare
    exact hprepare

namespace Extension

/-- A slice is to be kept until a time that is told in another zone. -/
def arguments : Arguments :=
  { Arguments.none with slice := some "urn:s", expiration := some "2030-01-01T01:00:00+01:00" }

/-- With two credentials. -/
def credentials : List Credential := [.sfa "one", .sfa "two"]

end Extension

/-- A renewal for a slice at version 3 is prepared and carries the slice as its only target; it is
not prepared where nothing says what to renew. -/
theorem prepare_genuine_renewal :
    (∃ p, prepare .renew 3 Extension.arguments Extension.credentials [] = .ok p ∧
      List.Forall₂ (Genuine 3 Extension.arguments Extension.credentials []) (shape .renew 3)
        p.arguments ∧ (shape .renew 3).count .credentials = 1) ∧
    ¬∃ p, prepare .renew 3 { Extension.arguments with slice := none } Extension.credentials []
      = .ok p := by
  constructor
  · obtain ⟨hprepared, hgenuine⟩ :=
      prepare_genuine .renew 3 Extension.arguments Extension.credentials []
    have hnormal : Time.normalise "2030-01-01T01:00:00+01:00" = .ok "2030-01-01T00:00:00Z" := rfl
    obtain ⟨p, hp⟩ := hprepared.2 ⟨rfl, fun _ => ⟨_, _, rfl, hnormal⟩⟩
    obtain ⟨harguments, hcount⟩ := hgenuine p hp
    exact ⟨p, hp, harguments, hcount (by decide)⟩
  · intro h
    have hvalid := ((prepare_genuine .renew 3 { Extension.arguments with slice := none }
      Extension.credentials []).1.1 h).1
    cases hvalid

end Federation.Call
