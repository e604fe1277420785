/-
  Federation.Introspection.Snapshot
  ─────────────────────────────────
  **WHAT AN AGGREGATE SAYS OF ITSELF.**

  The reply to `GetVersion` holds a map of capabilities, in which only the
  primary protocol version is required.  Every other field is read from its
  own key alone: where its value makes no sense the field is empty, and no
  other field suffers.

  Main results:
    * `ofCapabilities_isOk_iff` — a map is accepted exactly when it names a
      primary version;
    * `Snapshot.madeOf` — each field is read from its own keys;
    * `supports_iff_mem`, `supported_ascending` — the supported versions are
      the primary one and those with a URL of their own, in ascending order.
-/
import Federation.Json.Writer
import Federation.ResourceFormat
import Federation.Time.Instant

namespace Federation.Introspection

/-! ## §1. Snapshots. -/

/-- How resources may be allocated within a slice. -/
inductive AllocationStyle where
  | single
  | disjoint
  | many
  deriving DecidableEq, Repr, Inhabited

namespace AllocationStyle

/-- The name of a style in replies. -/
def name : AllocationStyle → String
  | .single => "geni_single"
  | .disjoint => "geni_disjoint"
  | .many => "geni_many"

/-- The style of a name, case and outer blanks aside. -/
def read? (s : String) : Option AllocationStyle :=
  [single, disjoint, many].find? fun style => style.name == Text.lower (Text.trim s)

end AllocationStyle

/-- A family of credentials and its version. -/
structure CredentialFamily where
  kind : String
  version : String
  deriving DecidableEq, Repr

/-- What an aggregate supports, as of one reply. -/
structure Snapshot where
  /-- The version spoken at the URL that replied. -/
  primary : Nat
  /-- The URLs at which other versions are spoken. -/
  others : Keyed Nat String
  adFormats : List ResourceFormat
  requestFormats : List ResourceFormat
  credentialFamilies : List CredentialFamily
  /-- Whether all slivers of a slice have to be handled together. -/
  singleAllocation : Bool
  allocationStyle : AllocationStyle
  fetchedAt : Time.Instant
  /-- What went wrong since then, if anything did. -/
  lastError : Option String
  deriving DecidableEq, Repr

/-- Why a reply gives no snapshot. -/
inductive SnapshotFault where
  | notAMap
  | noVersion
  | reported (code : Int) (output : String)
  deriving DecidableEq, Repr

/-- The words for a fault. -/
def SnapshotFault.message : SnapshotFault → String
  | .notAMap => "reply is not a map"
  | .noVersion => "reply does not name a primary AM API version"
  | .reported code output => "aggregate reported error " ++ toString code ++ ": " ++ output

/-! ## §2. Reading single fields. -/

/-- Protocol versions are numbers of 32 bits. -/
def versionBound : Nat := Number.wordBound

/-- A version as a number or as text. -/
def versionOf? : Json → Option Nat
  | .string s => Text.unsigned? versionBound (Text.trim s)
  | j => j.natBelow? versionBound

/-- Whether a value says yes. -/
def isYes : Json → Bool
  | .bool b => b
  | .string s => ["true", "1"].contains (Text.lower (Text.trim s))
  | j => j.int64?.any (· ≠ 0)

/-- A text, or a number as text. -/
def scalarText? : Json → Option String
  | .string s => some (Text.trim s)
  | .number n => some n.text
  | _ => none

/-- The version and URL of one advertised alternative. -/
def alternative? (key : String) (value : Json) : Option (Nat × String) := do
  let version ← Text.unsigned? versionBound (Text.trim key)
  let url ← (value.text?.map Text.trim).filter fun u => !u.isEmpty
  return (version, url)

/-- The advertised alternatives; of two keys for one version the later
counts. -/
def alternatives (capabilities : Json) : Keyed Nat String :=
  match (capabilities.member? "geni_api_versions").bind Json.members? with
  | none => []
  | some members => Keyed.ofPairs (members.filterMap fun (key, value) => alternative? key value)

/-- A pair of texts under two keys. -/
def textPair? (first second : String) (entry : Json) : Option (String × String) := do
  return (← scalarText? (← entry.member? first), ← scalarText? (← entry.member? second))

/-- The items of the first of these keys that holds an array. -/
def itemsAt (capabilities : Json) (keys : List String) : List Json :=
  (keys.findSome? fun key => (capabilities.member? key).bind Json.items?).getD []

/-- The formats under the first of these keys that holds an array. -/
def formatsAt (capabilities : Json) (keys : List String) : List ResourceFormat :=
  (itemsAt capabilities keys).filterMap fun entry =>
    (textPair? "type" "version" entry).map fun (kind, version) => ⟨kind, version⟩

/-- The accepted credentials. -/
def credentialFamiliesOf (capabilities : Json) : List CredentialFamily :=
  (itemsAt capabilities ["geni_credential_types"]).filterMap fun entry =>
    (textPair? "geni_type" "geni_version" entry).map fun (kind, version) => ⟨kind, version⟩

/-- The primary version of a map. -/
def primaryOf? (capabilities : Json) : Option Nat :=
  (capabilities.member? "geni_api").bind versionOf?

/-! ## §3. The whole map. -/

/-- **The snapshot of a map of capabilities.** -/
def Snapshot.ofCapabilities (capabilities : Json) (fetchedAt : Time.Instant) :
    Except SnapshotFault Snapshot :=
  if capabilities.members?.isNone then .error .notAMap
  else match primaryOf? capabilities with
    | none => .error .noVersion
    | some primary => .ok {
        primary
        others := alternatives capabilities
        adFormats := formatsAt capabilities ["geni_ad_rspec_versions", "ad_rspec_versions"]
        requestFormats :=
          formatsAt capabilities ["geni_request_rspec_versions", "request_rspec_versions"]
        credentialFamilies := credentialFamiliesOf capabilities
        singleAllocation := (capabilities.member? "geni_single_allocation").any isYes
        allocationStyle :=
          (((capabilities.member? "geni_allocate").bind Json.text?).bind
            AllocationStyle.read?).getD .single
        fetchedAt
        lastError := none }

/-- A map is accepted exactly when it names a primary version. -/
theorem Snapshot.ofCapabilities_isOk_iff (capabilities : Json) (t : Time.Instant) :
    (∃ s, ofCapabilities capabilities t = .ok s) ↔ (primaryOf? capabilities).isSome = true := by
  unfold ofCapabilities
  cases capabilities <;> simp [Json.members?, primaryOf?, Json.member?]
  split <;> simp_all

/-- **What a snapshot holds of its map**: each field what its own keys say. -/
structure Snapshot.MadeOf (s : Snapshot) (capabilities : Json) (t : Time.Instant) : Prop where
  primary : primaryOf? capabilities = some s.primary
  others : s.others = alternatives capabilities
  adFormats : s.adFormats = formatsAt capabilities ["geni_ad_rspec_versions", "ad_rspec_versions"]
  requestFormats : s.requestFormats =
    formatsAt capabilities ["geni_request_rspec_versions", "request_rspec_versions"]
  credentialFamilies : s.credentialFamilies = credentialFamiliesOf capabilities
  singleAllocation :
    s.singleAllocation = (capabilities.member? "geni_single_allocation").any isYes
  allocationStyle : s.allocationStyle =
    (((capabilities.member? "geni_allocate").bind Json.text?).bind AllocationStyle.read?).getD .single
  fetchedAt : s.fetchedAt = t
  lastError : s.lastError = none

theorem Snapshot.madeOf {capabilities : Json} {t : Time.Instant} {s : Snapshot}
    (h : ofCapabilities capabilities t = .ok s) : s.MadeOf capabilities t := by
  unfold ofCapabilities at h
  split at h
  · cases h
  · split at h
    · cases h
    · rename_i primary hprimary
      obtain rfl := Except.ok.inj h
      exact ⟨hprimary, rfl, rfl, rfl, rfl, rfl, rfl, rfl, rfl⟩

/-! ## §4. Versions. -/

/-- Whether the aggregate speaks the version at any URL. -/
def Snapshot.supports (s : Snapshot) (version : Nat) : Bool :=
  s.primary == version || s.others.hasKey version

/-- The URL advertised for a version. -/
def Snapshot.urlFor? (s : Snapshot) (version : Nat) : Option String := s.others.get? version

/-- A version put into an ascending list, once. -/
def insertVersion (v : Nat) : List Nat → List Nat
  | [] => [v]
  | w :: ws => if v < w then v :: w :: ws else if v = w then w :: ws else w :: insertVersion v ws

/-- Versions in ascending order, each once. -/
def versionSet (vs : List Nat) : List Nat := vs.foldr insertVersion []

/-- The supported versions, ascending. -/
def Snapshot.supported (s : Snapshot) : List Nat := versionSet (s.primary :: s.others.keys)

theorem mem_insertVersion {v x : Nat} {ws : List Nat} :
    x ∈ insertVersion v ws ↔ x = v ∨ x ∈ ws := by
  induction ws with
  | nil => simp [insertVersion]
  | cons w ws ih =>
    unfold insertVersion
    split
    · simp
    · split
      · rename_i h; subst h; simp
      · simp only [List.mem_cons, ih]
        constructor
        · rintro (h | h | h) <;> simp [h]
        · rintro (h | h | h) <;> simp [h]

theorem mem_versionSet {x : Nat} {vs : List Nat} : x ∈ versionSet vs ↔ x ∈ vs := by
  induction vs with
  | nil => simp [versionSet]
  | cons v vs ih =>
    show x ∈ insertVersion v (versionSet vs) ↔ x ∈ v :: vs
    rw [mem_insertVersion, ih, List.mem_cons]

theorem insertVersion_ascending {v : Nat} {ws : List Nat} (h : ws.Pairwise (· < ·)) :
    (insertVersion v ws).Pairwise (· < ·) := by
  induction ws with
  | nil => exact List.pairwise_singleton _ v
  | cons w ws ih =>
    obtain ⟨first, rest⟩ := List.pairwise_cons.1 h
    unfold insertVersion
    by_cases hbefore : v < w
    · rw [if_pos hbefore]
      refine List.pairwise_cons.2 ⟨fun x hx => ?_, h⟩
      rcases List.mem_cons.1 hx with rfl | hx
      · exact hbefore
      · exact Nat.lt_trans hbefore (first x hx)
    · rw [if_neg hbefore]
      by_cases hsame : v = w
      · rw [if_pos hsame]
        exact h
      · rw [if_neg hsame]
        refine List.pairwise_cons.2 ⟨fun x hx => ?_, ih rest⟩
        rcases mem_insertVersion.1 hx with rfl | hx
        · omega
        · exact first x hx

theorem versionSet_ascending (vs : List Nat) : (versionSet vs).Pairwise (· < ·) := by
  induction vs with
  | nil => exact List.Pairwise.nil
  | cons v vs ih => exact insertVersion_ascending ih

/-- **The supported versions are listed in ascending order, each once.** -/
theorem Snapshot.supported_ascending (s : Snapshot) : s.supported.Pairwise (· < ·) :=
  versionSet_ascending _

/-- **Supported is what the list of supported versions holds.** -/
theorem Snapshot.supports_iff_mem (s : Snapshot) (v : Nat) :
    s.supports v = true ↔ v ∈ s.supported := by
  have key : s.others.hasKey v = true ↔ v ∈ s.others.keys := by
    have : ∀ t : Keyed Nat String, t.hasKey v = true ↔ v ∈ t.keys := by
      intro t
      induction t with
      | nil => simp [Keyed.hasKey, Keyed.keys]
      | cons p t ih =>
        obtain ⟨k, u⟩ := p
        by_cases h : k = v
        · simp [Keyed.hasKey, Keyed.keys, Keyed.get?_cons, h]
        · have h' : ¬v = k := fun e => h e.symm
          simp only [Keyed.hasKey, Keyed.keys, Keyed.get?_cons, h, if_false, List.map_cons,
            List.mem_cons, h', false_or] at ih ⊢
          exact ih
    exact this s.others
  rw [supports, supported, mem_versionSet, List.mem_cons, Bool.or_eq_true, beq_iff_eq, key]
  exact or_congr_left eq_comm

/-! ## §5. Age. -/

/-- Whether the snapshot may still be used: nothing went wrong since it was
fetched, and it is not too old. -/
def Snapshot.isFresh (s : Snapshot) (maxAge : Time.Span) (now : Time.Instant) : Bool :=
  s.lastError.isNone && s.fetchedAt.within now maxAge

end Federation.Introspection
