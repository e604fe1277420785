/-
  Federation.Proofs.Setup.Layers
  ──────────────────────────────
  **WHICH LAYER COUNTS.**

  In a field that takes a single value the last layer counts that sets it,
  whatever the layers set elsewhere.  An object counts member by member: only
  the layout of log lines and the resource format may be given as one.  In the
  lists the layers are joined, so that a nickname stands for what the last
  directive for it says in the last layer that has one.

  The command line is the last layer, and it always sets the switches: what
  the file or the environment say of them never counts.

  Main results:
    * `load_layered` — what is in a configuration that was made from its
      origin.
-/
import Federation.Proofs.Json.Overlay
import Federation.Proofs.Setup.CommandLine
import Federation.Proofs.Setup.Field
import Federation.Setup.Layers

namespace Federation.Setup

open Directory (Directive Nicknames Target nameKey)
open Json (laid)

/-! ## §1. Layers in which nothing is named twice. -/

/-- No two fields of a layer have one name, and no two members of one of its values. -/
structure Layer.Distinct (l : Layer) : Prop where
  fields : l.keys.Nodup
  members : ∀ {name j ms}, l.get? name = some j → j.members? = some ms → ms.keys.Nodup

/-- A layer in order, and so is every object in it. -/
structure Layer.Tidy (l : Layer) : Prop where
  fields : l.Ascending
  members : ∀ {name j ms}, l.get? name = some j → j.members? = some ms → ms.Ascending

theorem Layer.Tidy.distinct {l : Layer} (h : Tidy l) : Distinct l where
  fields := Keyed.nodup_keys h.fields
  members hj hms := Keyed.nodup_keys (h.members hj hms)

/-- What is laid over a layer in order comes into order. -/
theorem Layer.Tidy.overlayMembers (above : List (String × Json)) {below : Layer}
    (h : Tidy below) : Tidy (Json.overlayMembers below above) := by
  induction above generalizing below with
  | nil => rwa [Json.overlayMembers]
  | cons m rest ih =>
      obtain ⟨name, j⟩ := m
      rw [Json.overlayMembers]
      refine ih ⟨Keyed.ascending_insert h.fields _ _, fun {other k ms} hk hms => ?_⟩
      by_cases hname : name = other
      · subst hname
        rw [Keyed.get?_insert_self] at hk
        obtain rfl := Option.some.inj hk
        rw [Json.members?_overlay] at hms
        obtain ⟨above, -, rfl⟩ := Option.map_eq_some_iff.1 hms
        refine Json.ascending_overlayMembers above ?_
        -- What is below is a value of the layer, or nothing.
        cases hbelow : Keyed.get? below name with
        | none => exact List.Pairwise.nil
        | some v =>
            cases hv : v.members? with
            | none =>
                rw [Option.getD_some, hv]
                exact List.Pairwise.nil
            | some vs =>
                rw [Option.getD_some, hv]
                exact h.members hbelow hv
      · rw [Keyed.get?_insert_ne _ _ hname] at hk
        exact h.members hk hms

theorem tidy_nil : Layer.Tidy [] where
  fields := List.Pairwise.nil
  members hj := by cases hj

/-- The environment names nothing twice. -/
theorem distinct_environment (start : String) (vs : List (String × String)) :
    Layer.Distinct (Environment.layer start vs) := by
  have htidy : ∀ (settings : List Layer) {l : Layer}, l.Tidy →
      Layer.Tidy (settings.foldl Json.overlayMembers l) := by
    intro settings
    induction settings with
    | nil => exact fun h => h
    | cons setting settings ih => exact fun h => ih (h.overlayMembers setting)
  exact (htidy _ tidy_nil).distinct

/-- The command line names nothing twice. -/
theorem distinct_commandLine {arguments : List String} {flags : Layer}
    (h : CommandLine.layer arguments = .ok flags) : Layer.Distinct flags where
  fields := by
    obtain ⟨os, -, rfl, -⟩ := CommandLine.layer_law h
    exact Keyed.nodup_keys (Keyed.ascending_ofPairs _)
  members hj hms := CommandLine.nodup_of_layer h hj hms

/-! ## §2. One layer over another. -/

/-- **What the layers set in a field**, one over the other. -/
theorem get?_foldl_overlayMembers {layers : List Layer} (h : ∀ l ∈ layers, l.Distinct)
    (name : String) :
    Keyed.get? (layers.foldl Json.overlayMembers []) name
      = laid (layers.filterMap (·.get? name)) := by
  induction layers using List.reverseRecOn with
  | nil => rfl
  | append_singleton layers l ih =>
      have hlast := h l (List.mem_append_right layers List.mem_cons_self)
      rw [List.foldl_append, List.foldl_cons, List.foldl_nil, List.filterMap_append,
        Json.get?_overlayMembers hlast.fields, ih fun m hm => h m (List.mem_append_left _ hm)]
      have hword : [l].filterMap (·.get? name) = (Keyed.get? l name).toList := by
        rw [List.filterMap_cons]
        cases Keyed.get? l name <;> rfl
      rw [hword]
      cases Keyed.get? l name with
      | none => rw [Option.toList_none, List.append_nil]
      | some j => rw [Option.toList_some, Json.laid_concat]

/-- A field that takes a single value, so that the layers hide each other in it. -/
structure Field.Single (f : Field) : Prop where
  mem : f ∈ Field.all
  nicknames : f.name ≠ Field.nicknames.name
  aggregates : f.name ≠ Field.aggregates.name

theorem get?_merged_single {layers : List Layer} (h : ∀ l ∈ layers, l.Distinct) {f : Field}
    (hf : f.Single) :
    Keyed.get? (merged layers) f.name = laid (layers.filterMap (·.get? f.name)) := by
  unfold merged
  rw [Keyed.get?_insert_ne _ _ hf.aggregates.symm, Keyed.get?_insert_ne _ _ hf.nicknames.symm,
    get?_foldl_overlayMembers h]

/-! ## §3. Lists. -/

/-- What a layer adds to a list. -/
def Layer.listed (l : Layer) (name : String) : List Json := ((l.get? name).map itemsOf).getD []

/-- The nicknames of a layer. -/
def Layer.directives (l : Layer) : List Directive :=
  (l.listed Field.nicknames.name).filterMap Value.directive?

/-- The identifiers of a layer. -/
def Layer.identifiers (l : Layer) : List String :=
  (l.listed Field.aggregates.name).filterMap Json.text?

/-- What is read in a list is in the field, where what is written is read back. -/
theorem mapM_of_reading {α : Type} {read? : Json → Option α} {write : α → Json}
    (back : ∀ a, read? (write a) = some a) {js : List Json} {as : List α}
    (h : (Value.list? read? (.array js)).map (fun bs => Json.array (bs.map write))
      = some (.array (as.map write))) : js.mapM read? = some as := by
  obtain ⟨bs, hbs, heq⟩ := Option.map_eq_some_iff.1 h
  have hsame := Value.list?_map back bs
  rw [heq, Value.list?_map back as] at hsame
  rw [Option.some.inj hsame]
  exact hbs

/-- What is read in the lists of the layers is what is read in each of them. -/
theorem eq_flatMap_of_gathered {α : Type} {read? : Json → Option α} {layers : List Layer}
    {name : String} {as : List α} (h : (gathered layers name).mapM read? = some as) :
    as = layers.flatMap (fun l => (l.listed name).filterMap read?) ∧
      ∀ l ∈ layers, ∀ j ∈ l.listed name, (read? j).isSome = true := by
  obtain ⟨has, hall⟩ := eq_filterMap_of_mapM h
  refine ⟨?_, fun l hl j hj => hall j (List.mem_flatMap.2 ⟨l, hl, hj⟩)⟩
  rw [has]
  exact List.filterMap_flatMap

/-- **In a list the layers are joined**: it holds what is read in each of them, in order. -/
theorem joined_of_merged {layers : List Layer} {c d : Config}
    (h : c.withMembers (merged layers) = .ok d) {f : Field} (hf : f ∈ Field.all)
    (hjoined : (merged layers).get? f.name = some (.array (gathered layers f.name))) {α : Type}
    {read? : Json → Option α} {write : α → Json} (back : ∀ a, read? (write a) = some a)
    (hreads : ∀ j, f.reading? j
      = (Value.list? read? j).map fun as => .array (as.map write))
    {as : List α} (hvalue : f.value d = .array (as.map write)) :
    as = layers.flatMap (fun l => (l.listed f.name).filterMap read?) ∧
      ∀ l ∈ layers, ∀ j ∈ l.listed f.name, (read? j).isSome = true := by
  have hread := (withMembers_law h hf).reads hjoined
  rw [hreads, hvalue] at hread
  exact eq_flatMap_of_gathered (mapM_of_reading back hread)

/-! ## §4. Nicknames. -/

/-- What a directive says of a name. -/
def targetFor? (name : String) (d : Directive) : Option Target :=
  if nameKey d.nickname = nameKey name then some ⟨d.urn, d.url⟩ else none

/-- **A name stands for what the last directive for it says.** -/
theorem lookup_ofDirectives {ds : List Directive} {name : String} {t : Target} :
    (Nicknames.ofDirectives ds).lookup name = some t ↔ LastSays (targetFor? name) ds t := by
  have htable : Nicknames.ofDirectives ds
      = Keyed.ofPairs (ds.filterMap fun d => some (nameKey d.nickname, ⟨d.urn, d.url⟩)) := by
    rw [List.filterMap_eq_map']
    exact Nicknames.ofDirectives_eq ds
  have hspoken : targetFor? name = fun d =>
      (some (nameKey d.nickname, (⟨d.urn, d.url⟩ : Target))).bind
        (Keyed.valueAt? (nameKey name)) := by
    funext d
    rw [Option.bind_some]
    unfold targetFor? Keyed.valueAt?
    rfl
  unfold Nicknames.lookup
  rw [htable, hspoken]
  exact Keyed.get?_ofPairs_filterMap _ ds (nameKey name) t

/-! ## §5. Single values. -/

/-- Only the layout of log lines and the resource format are read from an object. -/
theorem reading?_object {f : Field} (hf : f.Single) (hlayout : f.name ≠ Field.logFormat.name)
    (hformat : f.name ≠ Field.preferredFormat.name) (ms : Keyed String Json) :
    f.reading? (.object ms) = none := by
  obtain ⟨hmem, hnicknames, haggregates⟩ := hf
  simp only [Field.all, List.mem_cons, List.not_mem_nil, or_false] at hmem
  rcases hmem with rfl | rfl | rfl | rfl | rfl | rfl | rfl | rfl | rfl | rfl | rfl | rfl | rfl
    | rfl | rfl
  all_goals first
    | rfl
    | exact absurd rfl hlayout
    | exact absurd rfl hformat

/-- The layout that is read from an object is the name of its one member. -/
theorem layout_of_object {ms : Keyed String Json} {c : Config}
    (h : Field.logFormat.reading? (.object ms) = some (Field.logFormat.value c)) :
    (Json.object ms).member? c.logFormat.name = some .null := by
  obtain ⟨d, hd, hvalue⟩ := Option.map_eq_some_iff.1 h
  obtain ⟨layout, hlayout, rfl⟩ := Option.map_eq_some_iff.1 hd
  have hname : layout.name = c.logFormat.name := Json.string.inj hvalue
  unfold Value.logFormat? at hlayout
  split at hlayout
  · rename_i heq
    cases heq
  · rename_i s heq
    obtain rfl := Json.object.inj heq
    have hfound : (layout.name == s) = true :=
      List.find?_some (p := fun f : LogFormat => f.name == s) hlayout
    have hs : s = c.logFormat.name := (beq_iff_eq.1 hfound).symm.trans hname
    rw [Json.member?_object, Keyed.get?_cons, if_pos hs]
  · cases hlayout

theorem eq_string_of_text? {j : Json} {s : String} (h : j.text? = some s) : j = .string s := by
  cases j with
  | string t => exact congrArg Json.string (Option.some.inj h)
  | _ => cases h

/-- The format that is read from an object is in two of its members. -/
theorem format_of_object {ms : Keyed String Json} {c : Config}
    (h : Field.preferredFormat.reading? (.object ms) = some (Field.preferredFormat.value c)) :
    ∃ format, c.preferredFormat = some format ∧
      (Json.object ms).member? "type" = some (.string format.kind) ∧
      (Json.object ms).member? "version" = some (.string format.version) := by
  obtain ⟨d, hd, hvalue⟩ := Option.map_eq_some_iff.1 h
  obtain ⟨read, hread, rfl⟩ := Option.map_eq_some_iff.1 hd
  obtain ⟨format, hformat, rfl⟩ := Option.map_eq_some_iff.1 hread
  obtain ⟨kindValue, hkindValue, hformat⟩ := Option.bind_eq_some_iff.1 hformat
  obtain ⟨kind, hkind, hformat⟩ := Option.bind_eq_some_iff.1 hformat
  obtain ⟨versionValue, hversionValue, hformat⟩ := Option.bind_eq_some_iff.1 hformat
  obtain ⟨version, hversion, hformat⟩ := Option.bind_eq_some_iff.1 hformat
  obtain rfl := Option.some.inj hformat
  have hsame : c.preferredFormat = some ⟨kind, version⟩ := by
    have hwritten : Value.ofFormat ⟨kind, version⟩
        = (c.preferredFormat.map Value.ofFormat).getD .null := hvalue
    cases hc : c.preferredFormat with
    | none =>
        rw [hc] at hwritten
        cases hwritten
    | some format =>
        rw [hc, Option.map_some, Option.getD_some] at hwritten
        have hback := Value.format?_ofFormat format
        rw [← hwritten, Value.format?_ofFormat] at hback
        exact hback.symm
  refine ⟨_, hsame, ?_, ?_⟩
  · rw [hkindValue, eq_string_of_text? hkind]
  · rw [hversionValue, eq_string_of_text? hversion]

/-- **What is in a configuration by what its layers set**, the last of them the strongest. -/
structure Layered (cacheFile : String) (layers : List Layer) (c : Config) : Prop where
  /-- A field that no layer sets is as it is where nothing is set. -/
  unset : ∀ f : Field, f.Single → (∀ l ∈ layers, l.get? f.name = none) →
    f.value c = f.value (.builtin cacheFile)
  /-- Any other field holds what it reads in the value that the last layer sets which sets it. -/
  top : ∀ f : Field, f.Single → ∀ j, LastSays (·.get? f.name) layers j → j.members? = none →
    f.reading? j = some (f.value c)
  /-- That value is no object, except in two fields. -/
  leaf : ∀ f : Field, f.Single → f.name ≠ Field.logFormat.name →
    f.name ≠ Field.preferredFormat.name → ∀ j, LastSays (·.get? f.name) layers j →
    j.members? = none
  /-- An object names a layout by the member that the last layer sets. -/
  layout : ∀ ms, LastSays (·.get? Field.logFormat.name) layers (.object ms) →
    LastSays (fun l : Layer => (l.get? Field.logFormat.name).bind (·.member? c.logFormat.name))
      layers .null
  /-- Of a format, kind and version are each from the last layer that sets them. -/
  format : ∀ ms, LastSays (·.get? Field.preferredFormat.name) layers (.object ms) →
    ∃ format, c.preferredFormat = some format ∧
      LastSays (fun l : Layer => (l.get? Field.preferredFormat.name).bind (·.member? "type"))
        layers (.string format.kind) ∧
      LastSays (fun l : Layer => (l.get? Field.preferredFormat.name).bind (·.member? "version"))
        layers (.string format.version)
  /-- The nicknames of all layers, in order, and all that is listed is one. -/
  nicknames : c.nicknames = layers.flatMap Layer.directives ∧
    ∀ l ∈ layers, ∀ j ∈ l.listed Field.nicknames.name, (Value.directive? j).isSome = true
  /-- The identifiers of all layers, in order, and all that is listed is one. -/
  aggregates : c.aggregates = layers.flatMap Layer.identifiers ∧
    ∀ l ∈ layers, ∀ j ∈ l.listed Field.aggregates.name, j.text?.isSome = true
  /-- A nickname stands for what the last directive for it says in the last layer with any. -/
  lookup : ∀ name t, c.table.lookup name = some t ↔
    ∃ before l after, layers = before ++ l :: after ∧
      LastSays (targetFor? name) l.directives t ∧
      ∀ m ∈ after, ∀ d ∈ m.directives, nameKey d.nickname ≠ nameKey name

theorem targetFor?_eq_none_iff {name : String} {d : Directive} :
    targetFor? name d = none ↔ nameKey d.nickname ≠ nameKey name := by
  unfold targetFor?
  by_cases h : nameKey d.nickname = nameKey name
  · simp [h]
  · simp [h]

/-- **What is in a configuration that holds the merged values of its layers.** -/
theorem layered_of_merged {cacheFile : String} {layers : List Layer} {c : Config}
    (distinct : ∀ l ∈ layers, l.Distinct)
    (h : (Config.builtin cacheFile).withMembers (merged layers) = .ok c) :
    Layered cacheFile layers c := by
  have hreading : ∀ f : Field, f.Single → ∀ j, laid (layers.filterMap (·.get? f.name)) = some j →
      f.reading? j = some (f.value c) := fun f hf j hj =>
    (withMembers_law h hf.mem).reads ((get?_merged_single distinct hf).trans hj)
  have hlast : ∀ {f : Field} {j : Json}, LastSays (·.get? f.name) layers j →
      LastSays some (layers.filterMap (·.get? f.name)) j := fun {f j} hj =>
    lastSays_filterMap.2 (by simpa using hj)
  -- An object on top leaves an object, whose members are from the layers.
  have hobject : ∀ {f : Field}, f.Single → ∀ {j ms}, LastSays (·.get? f.name) layers j →
      j.members? = some ms → ∃ ns, f.reading? (.object ns) = some (f.value c) ∧
        ∀ name t, (Json.object ns).member? name = some t → t.members? = none →
          LastSays (fun l : Layer => (l.get? f.name).bind (·.member? name)) layers t := by
    intro f hf j ms hj hms
    obtain ⟨ns, hns⟩ := Json.laid_object_of_last (hlast hj) hms
    refine ⟨ns, hreading f hf _ hns, fun name t hmember hleaf => ?_⟩
    refine lastSays_filterMap.1 (Json.lastSays_member_of_laid ?_ hns hmember hleaf)
    intro v hv vs hvs
    obtain ⟨l, hl, hget⟩ := List.mem_filterMap.1 hv
    exact (distinct l hl).members hget hvs
  have hnicknames : c.nicknames = layers.flatMap Layer.directives ∧
      ∀ l ∈ layers, ∀ j ∈ l.listed Field.nicknames.name, (Value.directive? j).isSome = true :=
    joined_of_merged h (f := Field.nicknames) (by simp [Field.all])
      (get?_merged_nicknames layers) Value.directive?_ofDirective
      (fun _ => Option.map_map _ _ _) rfl
  have haggregates : c.aggregates = layers.flatMap Layer.identifiers ∧
      ∀ l ∈ layers, ∀ j ∈ l.listed Field.aggregates.name, j.text?.isSome = true :=
    joined_of_merged h (f := Field.aggregates) (by simp [Field.all])
      (get?_merged_aggregates layers) (fun s => (rfl : (Json.string s).text? = some s))
      (fun _ => Option.map_map _ _ _) rfl
  refine ⟨fun f hf hunset => ?_, fun f hf j hj hleaf => ?_, fun f hf hlayout hformat j hj => ?_,
    fun ms hj => ?_, fun ms hj => ?_, hnicknames, haggregates, fun name t => ?_⟩
  · have hnone : layers.filterMap (·.get? f.name) = [] := List.filterMap_eq_nil_iff.2 hunset
    refine (withMembers_law h hf.mem).kept ?_
    rw [get?_merged_single distinct hf, hnone]
    rfl
  · exact hreading f hf j (Json.laid_of_last (hlast hj) hleaf)
  · refine Option.eq_none_iff_forall_ne_some.2 fun ms hms => ?_
    obtain ⟨ns, hns, -⟩ := hobject hf hj hms
    rw [reading?_object hf hlayout hformat] at hns
    cases hns
  · have hsingle : Field.logFormat.Single := ⟨by simp [Field.all], by decide, by decide⟩
    obtain ⟨ns, hns, hmembers⟩ := hobject hsingle hj rfl
    exact hmembers _ _ (layout_of_object hns) rfl
  · have hsingle : Field.preferredFormat.Single := ⟨by simp [Field.all], by decide, by decide⟩
    obtain ⟨ns, hns, hmembers⟩ := hobject hsingle hj rfl
    obtain ⟨format, hformat, hkind, hversion⟩ := format_of_object hns
    exact ⟨format, hformat, hmembers _ _ hkind rfl, hmembers _ _ hversion rfl⟩
  · unfold Config.table
    rw [lookup_ofDirectives, hnicknames.1, lastSays_flatMap]
    simp only [targetFor?_eq_none_iff]

/-! ## §6. From the origin. -/

theorem single_of_switch {f : CommandLine.Flag} (hf : f ∈ CommandLine.flags)
    (hkind : f.kind = .switch) :
    f.field.Single ∧ ∀ b, f.field.reading? (.bool b) = some (.bool b) := by
  simp only [CommandLine.flags, List.mem_cons, List.not_mem_nil, or_false] at hf
  rcases hf with rfl | rfl | rfl | rfl | rfl | rfl | rfl | rfl | rfl | rfl | rfl | rfl | rfl
    | rfl | rfl
  all_goals cases hkind <;> exact ⟨⟨by simp [Field.all], by decide, by decide⟩, fun _ => rfl⟩

/-- **A configuration is told by its layers**, the file, the environment and the command line:
single values are from the last layer that sets them, and lists are joined.  The command line sets
every switch, to whether it is there. -/
theorem load_layered {cacheFile start : String} {o : Origin} {c : Config}
    (distinct : Layer.Distinct (o.file.getD []))
    (h : Config.load cacheFile start o = .ok c) :
    ∃ flags, CommandLine.layer o.arguments = .ok flags ∧
      Layered cacheFile [o.file.getD [], Environment.layer start o.environment, flags] c ∧
      ∀ f ∈ CommandLine.flags, f.kind = .switch →
        ∃ b, f.field.value c = .bool b ∧ (b = true ↔ CommandLine.Given o.arguments f) := by
  obtain ⟨file, hfile, h⟩ := exists_of_bind_ok h
  obtain ⟨flags, hflags, h⟩ := exists_of_bind_ok h
  have hsame : file = o.file.getD [] := by
    unfold fileLayer at hfile
    split at hfile
    · cases hfile
    · split at hfile
      · cases hfile
      · exact (Except.ok.inj hfile).symm
  rw [hsame] at h
  have hlayers : ∀ l ∈ [o.file.getD [], Environment.layer start o.environment, flags],
      Layer.Distinct l := by
    intro l hl
    simp only [List.mem_cons, List.not_mem_nil, or_false] at hl
    rcases hl with rfl | rfl | rfl
    · exact distinct
    · exact distinct_environment start o.environment
    · exact distinct_commandLine hflags
  have hlayered := layered_of_merged hlayers h
  refine ⟨flags, hflags, hlayered, fun f hf hkind => ?_⟩
  obtain ⟨b, hb, hgiven⟩ := CommandLine.switch_law hflags hf hkind
  obtain ⟨hsingle, hreads⟩ := single_of_switch hf hkind
  have hlast : LastSays (·.get? f.field.name)
      [o.file.getD [], Environment.layer start o.environment, flags] (.bool b) :=
    @lastSays_concat Layer Json (·.get? f.field.name) [_, _] flags _ hb
  have hvalue := hlayered.top f.field hsingle _ hlast rfl
  rw [hreads] at hvalue
  exact ⟨b, (Option.some.inj hvalue).symm, hgiven⟩

namespace Mixture

/-- Four settings in a file, of which the environment overrides two and the command line one; and
two nicknames that are one. -/
def origin : Origin where
  file := some [("api_version", .nat 4), ("worker_limit", .nat 7), ("probe_timeout_secs", .nat 5),
    ("aggregate_nicknames", .array [.object [("nickname", .string "A"), ("urn", .string ""),
      ("url", .string "http://a")]])]
  environment := [("APP_API_VERSION", "9"), ("APP_PROBE_TIMEOUT_SECS", "30")]
  arguments := ["--api-version=3"]

/-- The command line's setting. -/
theorem layer_arguments :
    CommandLine.layer origin.arguments = .ok [("api_version", .nat 3),
      ("developer_mode", .bool false), ("explicit_api_version", .bool false),
      ("force_refresh", .bool false), ("no_version_cache", .bool false)] := by
  have hopening : CommandLine.opening? "--api-version=3"
      = some (⟨.version, .single CommandLine.word?⟩, some "3") := rfl
  have hnone : CommandLine.occurrences [] = .ok [] := by rw [CommandLine.occurrences]
  have hoccurrences : CommandLine.occurrences origin.arguments
      = .ok [⟨⟨.version, .single CommandLine.word?⟩, some "3"⟩] := by
    unfold origin
    rw [CommandLine.occurrences, hopening]
    simp only [hnone]
    rfl
  unfold CommandLine.layer
  rw [hoccurrences]
  rfl

/-- What comes of them. -/
def config : Config :=
  { Config.builtin "cache" with
    version := 3
    workerLimit := 7
    probeTimeout := 30
    nicknames := [⟨"A", "", "http://a"⟩] }

theorem load_origin : Config.load "cache" "APP_" origin = .ok config := by
  unfold Config.load
  rw [layer_arguments]
  decide +kernel

theorem distinct_file : Layer.Distinct (origin.file.getD []) where
  fields := by decide
  members {name j ms} hj hms := by
    have hmem := Keyed.mem_of_get? hj
    simp only [origin, Option.getD_some, List.mem_cons, List.not_mem_nil, or_false,
      Prod.mk.injEq] at hmem
    rcases hmem with ⟨-, rfl⟩ | ⟨-, rfl⟩ | ⟨-, rfl⟩ | ⟨-, rfl⟩ <;> cases hms

end Mixture

/-- The version is the command line's, and the other settings are where they are set last. -/
theorem load_layered_mixture :
    Layer.Distinct (Mixture.origin.file.getD []) ∧
    Config.load "cache" "APP_" Mixture.origin = .ok Mixture.config ∧
    ∃ flags, CommandLine.layer Mixture.origin.arguments = .ok flags ∧
      Layered "cache" [Mixture.origin.file.getD [],
        Environment.layer "APP_" Mixture.origin.environment, flags] Mixture.config := by
  obtain ⟨flags, hflags, hlayered, -⟩ := load_layered Mixture.distinct_file Mixture.load_origin
  exact ⟨Mixture.distinct_file, Mixture.load_origin, flags, hflags, hlayered⟩

/-- **A switch in the file does not count**, although nothing else sets it. -/
theorem load_overlooks_file :
    ∃ c, Config.load "cache" "APP_" ⟨some [("developer_mode", .bool true)], [], []⟩ = .ok c ∧
      ¬CommandLine.Given [] ⟨.developer, .switch⟩ ∧
      (Environment.layer "APP_" []).get? Field.developer.name = none ∧
      Field.developer.reading? (.bool true) ≠ some (Field.developer.value c) := by
  refine ⟨Config.builtin "cache", ?_, ?_, rfl, ?_⟩
  · unfold Config.load
    rw [CommandLine.layer_nil]
    rfl
  · rintro ⟨os, hos, o, ho, -⟩
    rw [CommandLine.occurrences] at hos
    obtain rfl := Except.ok.inj hos
    cases ho
  · intro h
    cases h

end Federation.Setup
