/-
  Federation.Proofs.Call.Prepared
  ───────────────────────────────
  **WHAT A PREPARED CALL CARRIES.**

  A prepared call has one argument for each position of its shape, and each
  is what belongs there at the version.

  Main results:
    * `prepare_arguments` — position by position;
    * `prepare_credentials` — credentials stand in their wire form;
    * `prepare_options` — where the options stand;
    * `prepare_of_valid` — arguments that are in order make a call, but for
      a time that cannot be read.
-/
import Federation.Call.Prepared
import Federation.Proofs.Collect

namespace Federation.Call

/-! ## §1. Positions and arguments. -/

section

variable {o : Operation} {v : Nat} {a : Arguments} {cs : List Credential} {opts : Options}
  {p : Prepared}

/-- A call is prepared only from arguments that are in order. -/
theorem validate_of_prepare (h : prepare o v a cs opts = .ok p) : o.validate v a = .ok () := by
  obtain ⟨_, hvalid, -⟩ := exists_of_bind_ok h
  exact hvalid

/-- **Each argument is what belongs at its position.** -/
theorem prepare_arguments (h : prepare o v a cs opts = .ok p) :
    List.Forall₂ (fun slot argument => fill o v a cs opts slot = .ok argument) (shape o v)
      p.arguments := by
  have hmethod := prepare_method h
  obtain ⟨_, -, hrest⟩ := exists_of_bind_ok h
  rw [hmethod] at hrest
  obtain ⟨arguments, harguments, hp⟩ := exists_of_bind_ok hrest
  rw [← Except.ok.inj hp]
  exact forall₂_of_mapM harguments

/-- **Credentials stand in the wire form of the version.** -/
theorem prepare_credentials (h : prepare o v a cs opts = .ok p) {n : Nat} {argument : Json}
    (hslot : (shape o v)[n]? = some .credentials) (hargument : p.arguments[n]? = some argument) :
    argument = .array (cs.map (·.wire v)) := by
  have hall := prepare_arguments h
  obtain ⟨hn, hslot⟩ := List.getElem?_eq_some_iff.1 hslot
  obtain ⟨hn', hargument⟩ := List.getElem?_eq_some_iff.1 hargument
  have hfill := hall.get hn hn'
  rw [List.get_eq_getElem, List.get_eq_getElem, hslot, hargument] at hfill
  cases hfill
  rfl

/-- **Where the options stand**: last, if the method has a place for them. -/
theorem prepare_options (h : prepare o v a cs opts = .ok p) :
    ∃ before, before.length = (body o v).length ∧
      p.arguments = before ++ if takesOptions o v then [.object opts] else [] := by
  have hall := prepare_arguments h
  unfold shape at hall
  have hbefore := List.forall₂_take (body o v).length hall
  have hlast := List.forall₂_drop (body o v).length hall
  rw [List.take_left] at hbefore
  rw [List.drop_left] at hlast
  refine ⟨p.arguments.take (body o v).length, hbefore.length_eq.symm, ?_⟩
  have hplace : p.arguments.drop (body o v).length
      = if takesOptions o v then [.object opts] else [] := by
    cases htakes : takesOptions o v with
    | true =>
        rw [htakes, if_pos rfl] at hlast
        obtain ⟨argument, rest, hfill, hrest, heq⟩ := List.forall₂_cons_left_iff.1 hlast
        obtain rfl := List.forall₂_nil_left_iff.1 hrest
        obtain rfl := Except.ok.inj hfill
        exact heq
    | false =>
        rw [htakes, if_neg (by decide)] at hlast
        exact List.forall₂_nil_left_iff.1 hlast
  rw [← hplace, List.take_append_drop]

/-! ## §2. Whether a call can be prepared. -/

/-- What is wrong with the time that a renewal asks for. -/
def timeFault? (o : Operation) (a : Arguments) : Option Time.TimeFault :=
  if o = .renew then
    match Time.normalise (a.expiration.getD "") with
    | .ok _ => none
    | .error fault => some fault
  else none

theorem fill_isOk {slot : Slot} (h : slot ≠ .expiration) :
    ∃ argument, fill o v a cs opts slot = .ok argument := by
  cases slot with
  | expiration => exact absurd rfl h
  | _ => exact ⟨_, rfl⟩

theorem subject_ne (v : Nat) : subject v ≠ .expiration := by
  unfold subject
  split <;> nofun

/-- Only a renewal has a place for a time. -/
theorem renew_of_mem_shape (h : Slot.expiration ∈ shape o v) : o = .renew := by
  have hsubject := (subject_ne v).symm
  unfold shape at h
  rcases List.mem_append.1 h with h | h
  · cases o with
    | renew => rfl
    | allocate => cases hv : Operation.isModern v <;> simp [body, hv] at h
    | _ => simp [body, hsubject] at h
  · split at h
    · simp at h
    · cases h

/-- **Arguments that are in order make a call**, but for a time that cannot be
read. -/
theorem prepare_of_valid (hvalid : o.validate v a = .ok ()) (cs : List Credential)
    (opts : Options) :
    match timeFault? o a with
    | some fault => prepare o v a cs opts = .error (.invalid o "expiration" fault)
    | none => ∃ p, prepare o v a cs opts = .ok p := by
  obtain ⟨hname, -⟩ := (Operation.validate_eq_ok_iff o v a).1 hvalid
  obtain ⟨method, hmethod⟩ := Option.isSome_iff_exists.1 hname
  have hprepare : prepare o v a cs opts
      = (shape o v).mapM (fill o v a cs opts) >>= fun arguments => .ok ⟨method, arguments⟩ := by
    unfold prepare
    rw [hvalid, hmethod]
    rfl
  rw [hprepare]
  unfold timeFault?
  by_cases hrenew : o = .renew
  · subst hrenew
    rw [if_pos rfl]
    cases htime : Time.normalise (a.expiration.getD "") with
    | ok text =>
        have hfill : ∀ slot ∈ shape .renew v, ∃ argument,
            fill .renew v a cs opts slot = .ok argument := by
          intro slot _
          by_cases hslot : slot = .expiration
          · subst hslot
            refine ⟨.string text, ?_⟩
            unfold fill expirationText
            rw [htime]
            rfl
          · exact fill_isOk hslot
        obtain ⟨arguments, harguments⟩ := mapM_isOk hfill
        exact ⟨⟨method, arguments⟩, by rw [harguments]; rfl⟩
    | error fault =>
        -- What comes before the time can always be filled in.
        have hbefore : ∀ slot ∈ [subject v, .credentials], ∃ argument,
            fill .renew v a cs opts slot = .ok argument := by
          intro slot hslot
          rcases List.mem_cons.1 hslot with rfl | hslot
          · exact fill_isOk (subject_ne v)
          · exact fill_isOk fun h => by rw [List.mem_singleton.1 hslot] at h; cases h
        have hfill : fill .renew v a cs opts .expiration
            = .error (.invalid .renew "expiration" fault) := by
          unfold fill expirationText
          rw [htime]
          rfl
        have harguments : (shape .renew v).mapM (fill .renew v a cs opts)
            = .error (.invalid .renew "expiration" fault) := mapM_error hbefore hfill _
        show (shape .renew v).mapM _ >>= _ = _
        rw [harguments]
        rfl
  · rw [if_neg hrenew]
    have hfill : ∀ slot ∈ shape o v, ∃ argument, fill o v a cs opts slot = .ok argument :=
      fun slot hslot => fill_isOk fun heq => hrenew (renew_of_mem_shape (heq ▸ hslot))
    obtain ⟨arguments, harguments⟩ := mapM_isOk hfill
    exact ⟨⟨method, arguments⟩, by rw [harguments]; rfl⟩

end

end Federation.Call
