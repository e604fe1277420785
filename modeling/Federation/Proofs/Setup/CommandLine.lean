/-
  Federation.Proofs.Setup.CommandLine
  ───────────────────────────────────
  **WHAT THE COMMAND LINE SETS.**

  What the arguments set in a field is what the field's flag says by the values
  with which it occurs.  A switch always says something: whether it is there.

  Main results:
    * `layer_law` — what the arguments set, field by field;
    * `switch_law` — what they set where the flag is a switch.
-/
import Mathlib.Data.List.Nodup
import Federation.Proofs.Collect
import Federation.Proofs.Keyed
import Federation.Setup.CommandLine

namespace Federation.Setup.CommandLine

/-! ## §1. Flags and fields. -/

/-- Whether a flag occurs among the arguments. -/
def Given (arguments : List String) (f : Flag) : Prop :=
  ∃ os, occurrences arguments = .ok os ∧ ∃ o ∈ os, o.flag.name = f.name

/-- No two flags are of one field. -/
theorem eq_of_field_name : ∀ f ∈ flags, ∀ g ∈ flags, f.field.name = g.field.name → f = g := by
  have hnodup : (flags.map (·.field.name)).Nodup := map_field_flags ▸ Config.names_nodup
  exact fun f hf g hg h => List.inj_on_of_nodup_map hnodup hf hg h

/-- What a flag says by the values with which it occurs, where they are in order. -/
def said (os : List Occurrence) (f : Flag) : Option Json :=
  ((settingOf f (valuesOf os f)).toOption).getD none

theorem settingOf_said {os : List Occurrence} {fs : List Flag}
    {settings : List (Option (String × Json))}
    (h : fs.mapM (fun f => do
      let setting ← settingOf f (valuesOf os f)
      return setting.map fun v => (f.field.name, v)) = .ok settings) :
    (∀ f ∈ fs, settingOf f (valuesOf os f) = .ok (said os f)) ∧
      settings = fs.map fun f => (said os f).map (f.field.name, ·) := by
  have hall := forall₂_of_mapM h
  clear h
  induction hall with
  | nil => exact ⟨fun _ hf => (List.not_mem_nil hf).elim, rfl⟩
  | @cons f pair fs settings hf _ ih =>
      obtain ⟨setting, hsetting, hpair⟩ := exists_of_bind_ok hf
      have hsaid : said os f = setting := by
        unfold said
        rw [hsetting]
        rfl
      obtain rfl := Except.ok.inj hpair
      refine ⟨fun g hg => ?_, ?_⟩
      · rcases List.mem_cons.1 hg with rfl | hg
        · rw [hsetting, hsaid]
        · exact ih.1 g hg
      · rw [List.map_cons, hsaid, ← ih.2]

/-- **What the arguments set, field by field**: what the field's flag says. -/
theorem layer_law {arguments : List String} {l : Keyed String Json}
    (h : layer arguments = .ok l) :
    ∃ os, occurrences arguments = .ok os ∧
      l = Keyed.ofPairs (flags.filterMap fun f => (said os f).map (f.field.name, ·)) ∧
      ∀ f ∈ flags, settingOf f (valuesOf os f) = .ok (said os f) ∧
        l.get? f.field.name = said os f := by
  obtain ⟨os, hos, h⟩ := exists_of_bind_ok h
  obtain ⟨settings, hsettings, h⟩ := exists_of_bind_ok h
  obtain rfl := Except.ok.inj h
  obtain ⟨hsaid, rfl⟩ := settingOf_said hsettings
  rw [List.filterMap_map]
  exact ⟨os, hos, rfl, fun f hf => ⟨hsaid f hf, Keyed.get?_ofPairs_own eq_of_field_name hf⟩⟩

/-! ## §2. Switches. -/

theorem valuesOf_eq_nil_iff {os : List Occurrence} {f : Flag} :
    valuesOf os f = [] ↔ ¬∃ o ∈ os, o.flag.name = f.name := by
  unfold valuesOf
  rw [List.map_eq_nil_iff, List.filter_eq_nil_iff]
  simp

/-- **A switch sets its field to whether it is there.** -/
theorem switch_law {arguments : List String} {l : Keyed String Json}
    (h : layer arguments = .ok l) {f : Flag} (hf : f ∈ flags) (hkind : f.kind = .switch) :
    ∃ b, l.get? f.field.name = some (.bool b) ∧ (b = true ↔ Given arguments f) := by
  obtain ⟨os, hos, -, hsettings⟩ := layer_law h
  obtain ⟨hsetting, hget⟩ := hsettings f hf
  have hgiven : Given arguments f ↔ valuesOf os f ≠ [] := by
    rw [Ne, valuesOf_eq_nil_iff, not_not]
    constructor
    · rintro ⟨os', hos', hmem⟩
      obtain rfl := Except.ok.inj (hos.symm.trans hos')
      exact hmem
    · exact fun hmem => ⟨os, hos, hmem⟩
  unfold settingOf at hsetting
  rw [hkind] at hsetting
  rw [hget, hgiven]
  generalize valuesOf os f = values at hsetting
  match values, hsetting with
  | [], hsetting =>
      refine ⟨false, (Except.ok.inj hsetting).symm, ?_⟩
      simp
  | [v], hsetting =>
      refine ⟨true, (Except.ok.inj hsetting).symm, ?_⟩
      simp
  | _ :: _ :: _, hsetting => cases hsetting

/-! ## §3. Objects. -/

/-- What a flag says is a truth value, what it reads in one text, or a list. -/
theorem settingOf_some {f : Flag} {values : List (Option String)} {j : Json}
    (h : settingOf f values = .ok (some j)) :
    (∃ b, j = .bool b) ∨ (∃ read? s, f.kind = .single read? ∧ read? s = some j) ∨
      ∃ js, j = .array js := by
  unfold settingOf at h
  split at h
  · exact .inl ⟨false, (Option.some.inj (Except.ok.inj h)).symm⟩
  · exact .inl ⟨true, (Option.some.inj (Except.ok.inj h)).symm⟩
  · cases h
  · rename_i read? v hkind
    unfold readValue at h
    cases hread : v.bind read? with
    | none =>
        rw [hread] at h
        cases h
    | some k =>
        rw [hread] at h
        obtain rfl := Option.some.inj (Except.ok.inj h)
        obtain ⟨s, -, hs⟩ := Option.bind_eq_some_iff.1 hread
        exact .inr (.inl ⟨read?, s, hkind, hs⟩)
  · cases h
  · rename_i values _ _ read? _ _
    cases hvalues : values.mapM (readValue f read?) with
    | error fault =>
        rw [hvalues] at h
        cases h
    | ok js =>
        rw [hvalues] at h
        exact .inr (.inr ⟨js, (Option.some.inj (Except.ok.inj h)).symm⟩)
  · cases h

/-- Only a format is read as an object, and the names in it are different. -/
theorem nodup_of_single {f : Flag} (hf : f ∈ flags) {read? : String → Option Json}
    (hkind : f.kind = .single read?) {s : String} {j : Json} (h : read? s = some j)
    {ms : Keyed String Json} (hms : j.members? = some ms) : ms.keys.Nodup := by
  have hreader : read? = text? ∨ read? = logFormat? ∨ read? = word? ∨ read? = long? ∨
      read? = format? := by
    simp only [flags, List.mem_cons, List.not_mem_nil, or_false] at hf
    rcases hf with rfl | rfl | rfl | rfl | rfl | rfl | rfl | rfl | rfl | rfl | rfl | rfl | rfl
      | rfl | rfl
    all_goals
      simp only [FlagKind.single.injEq, reduceCtorEq] at hkind <;>
        simp only [← hkind, true_or, or_true]
  have hread : j.members? = none ∨ ∃ format : ResourceFormat, j = Value.ofFormat format := by
    rcases hreader with rfl | rfl | rfl | rfl | rfl
    · obtain rfl := Option.some.inj h
      exact .inl rfl
    · obtain ⟨_, -, rfl⟩ := Option.map_eq_some_iff.1 h
      exact .inl rfl
    · obtain ⟨_, -, rfl⟩ := Option.map_eq_some_iff.1 h
      exact .inl rfl
    · obtain ⟨_, -, rfl⟩ := Option.map_eq_some_iff.1 h
      exact .inl rfl
    · obtain ⟨format, -, rfl⟩ := Option.map_eq_some_iff.1 h
      exact .inr ⟨format, rfl⟩
  rcases hread with hleaf | ⟨format, rfl⟩
  · cases hms.symm.trans hleaf
  · obtain rfl := Option.some.inj hms
    exact Keyed.nodup_keys (Keyed.ascending_ofPairs _)

/-- **The names in an object that the arguments set are all different.** -/
theorem nodup_of_layer {arguments : List String} {l : Keyed String Json}
    (h : layer arguments = .ok l) {name : String} {j : Json} (hj : l.get? name = some j)
    {ms : Keyed String Json} (hms : j.members? = some ms) : ms.keys.Nodup := by
  obtain ⟨os, -, hl, hsettings⟩ := layer_law h
  have hflag : ∃ f ∈ flags, said os f = some j := by
    have hmem := Keyed.mem_of_mem_ofPairs (hl ▸ Keyed.mem_of_get? hj)
    obtain ⟨f, hf, hpair⟩ := List.mem_filterMap.1 hmem
    obtain ⟨v, hv, heq⟩ := Option.map_eq_some_iff.1 hpair
    obtain ⟨-, rfl⟩ := Prod.mk.inj heq
    exact ⟨f, hf, hv⟩
  obtain ⟨f, hf, hsaid⟩ := hflag
  have hsetting := hsaid ▸ (hsettings f hf).1
  rcases settingOf_some hsetting with ⟨b, rfl⟩ | ⟨read?, s, hkind, hs⟩ | ⟨js, rfl⟩
  · cases hms
  · exact nodup_of_single hf hkind hs hms
  · cases hms

end Federation.Setup.CommandLine
