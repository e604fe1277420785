/-
  Federation.Proofs.Setup.Field
  ─────────────────────────────
  **WHAT A FIELD MAKES OF A VALUE.**

  Each field reads a value in its own way, whatever the other fields hold,
  and leaves the others as they are.  So after any named values have been put
  into a configuration, each field holds what it reads in the value of its own
  name, or what it held before.

  Main results:
    * `put?_law` — one value put into one field;
    * `withMembers_law` — named values put into their fields.
-/
import Federation.Proofs.Collect
import Federation.Proofs.Keyed
import Federation.Setup.Field

namespace Federation.Setup

/-! ## §1. One value. -/

/-- What the field makes of a value. -/
def Field.reading? (f : Field) (j : Json) : Option Json := (f.put? j (.builtin "")).map f.value

/-- **A value that is put into a field is read there**, and no other field changes. -/
theorem put?_law {f : Field} (hf : f ∈ Field.all) {j : Json} {c d : Config}
    (h : f.put? j c = some d) :
    f.reading? j = some (f.value d) ∧
      ∀ g ∈ Field.all, g.name ≠ f.name → g.value d = g.value c := by
  -- Every field stores what it reads, and shows what it stores.
  have key : ∀ {α : Type} {read : Option α} {store : α → Config → Config},
      (∀ c, f.put? j c = read.map fun v => store v c) →
      (∀ v c c', f.value (store v c) = f.value (store v c')) →
      (∀ v c, ∀ g ∈ Field.all, g.name ≠ f.name → g.value (store v c) = g.value c) →
      f.reading? j = some (f.value d) ∧
        ∀ g ∈ Field.all, g.name ≠ f.name → g.value d = g.value c := by
    intro α read store hput hown hothers
    rw [hput] at h
    obtain ⟨v, hv, rfl⟩ := Option.map_eq_some_iff.1 h
    refine ⟨?_, hothers v c⟩
    unfold Field.reading?
    rw [hput, hv]
    exact congrArg some (hown v _ _)
  simp only [Field.all, List.mem_cons, List.not_mem_nil, or_false] at hf
  rcases hf with rfl | rfl | rfl | rfl | rfl | rfl | rfl | rfl | rfl | rfl | rfl | rfl | rfl
    | rfl | rfl
  all_goals
    refine key (fun _ => rfl) (fun _ _ _ => rfl) fun v c g hg hname => ?_
    simp only [Field.all, List.mem_cons, List.not_mem_nil, or_false] at hg
    rcases hg with rfl | rfl | rfl | rfl | rfl | rfl | rfl | rfl | rfl | rfl | rfl | rfl | rfl
      | rfl | rfl
    all_goals first | rfl | exact absurd rfl hname

/-! ## §2. Named values. -/

/-- What a field holds after named values were put into their fields. -/
def Field.Follows (f : Field) (members : Keyed String Json) (before after : Config) : Prop :=
  match members.get? f.name with
  | none => f.value after = f.value before
  | some j => f.reading? j = some (f.value after)

/-- Put the value of a field's name into the field, if there is one. -/
def take (members : Keyed String Json) (c : Config) (f : Field) : Except ConfigFault Config :=
  match members.get? f.name with
  | none => .ok c
  | some j => f.put c j

theorem withMembers_eq_foldlM (c : Config) (members : Keyed String Json) :
    c.withMembers members = Field.all.foldlM (take members) c := rfl

theorem Field.Follows.kept {f : Field} {members : Keyed String Json} {before after : Config}
    (h : f.Follows members before after) (hnone : members.get? f.name = none) :
    f.value after = f.value before := by
  unfold Follows at h
  rwa [hnone] at h

theorem Field.Follows.reads {f : Field} {members : Keyed String Json} {before after : Config}
    (h : f.Follows members before after) {j : Json} (hj : members.get? f.name = some j) :
    f.reading? j = some (f.value after) := by
  unfold Follows at h
  rwa [hj] at h

theorem Field.Follows.congr {f : Field} {members : Keyed String Json} {b b' a a' : Config}
    (h : f.Follows members b a) (hb : f.value b' = f.value b) (ha : f.value a' = f.value a) :
    f.Follows members b' a' := by
  unfold Follows at h ⊢
  rwa [ha, hb]

theorem take_law {members : Keyed String Json} {f : Field} (hf : f ∈ Field.all) {c d : Config}
    (h : take members c f = .ok d) :
    f.Follows members c d ∧ ∀ g ∈ Field.all, g.name ≠ f.name → g.value d = g.value c := by
  unfold take at h
  unfold Field.Follows
  cases hj : members.get? f.name with
  | none =>
      rw [hj] at h
      obtain rfl := Except.ok.inj h
      exact ⟨rfl, fun _ _ _ => rfl⟩
  | some j =>
      rw [hj] at h
      dsimp only [Field.put] at h
      split at h
      · rename_i e hput
        obtain rfl := Except.ok.inj h
        exact put?_law hf hput
      · cases h

/-- Fields that are filled one after another: each by the value of its name, and the others not
at all. -/
theorem foldlM_take {members : Keyed String Json} {fs : List Field}
    (hall : ∀ f ∈ fs, f ∈ Field.all) (hnodup : (fs.map Field.name).Nodup) {c d : Config}
    (h : fs.foldlM (take members) c = .ok d) {f : Field} (hf : f ∈ Field.all) :
    (f ∈ fs → f.Follows members c d) ∧ (f.name ∉ fs.map Field.name → f.value d = f.value c) := by
  induction fs generalizing c with
  | nil =>
      obtain rfl := Except.ok.inj h
      exact ⟨fun hmem => (List.not_mem_nil hmem).elim, fun _ => rfl⟩
  | cons g fs ih =>
      rw [List.foldlM_cons] at h
      obtain ⟨e, he, h⟩ := exists_of_bind_ok h
      obtain ⟨hfirst, hrest⟩ := List.nodup_cons.1 hnodup
      obtain ⟨hown, hothers⟩ := take_law (hall g List.mem_cons_self) he
      obtain ⟨hin, hout⟩ := ih (fun x hx => hall x (List.mem_cons_of_mem g hx)) hrest h
      refine ⟨fun hmem => ?_, fun hnot => ?_⟩
      · rcases List.mem_cons.1 hmem with rfl | hmem
        · exact hown.congr rfl (hout hfirst)
        · have hne : f.name ≠ g.name := fun heq =>
            hfirst (heq ▸ List.mem_map_of_mem hmem)
          exact (hin hmem).congr (hothers f hf hne).symm rfl
      · obtain ⟨hne, hnot⟩ := not_or.1 (List.mem_cons.not.1 hnot)
        exact (hout hnot).trans (hothers f hf hne)

/-- **After named values were put into their fields**, each field holds what it reads in the
value of its name, or what it held before. -/
theorem withMembers_law {members : Keyed String Json} {c d : Config}
    (h : c.withMembers members = .ok d) {f : Field} (hf : f ∈ Field.all) :
    f.Follows members c d :=
  (foldlM_take (fun _ hg => hg) Config.names_nodup (withMembers_eq_foldlM c members ▸ h) hf).1 hf

end Federation.Setup
