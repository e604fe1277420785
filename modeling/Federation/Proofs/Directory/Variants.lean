/-
  Federation.Proofs.Directory.Variants
  ────────────────────────────────────
  **URNS OF ONE AUTHORITY.**

  An identifier that begins as a URN and is neither a URL nor a nickname is
  looked for by its authority alone: among the nicknames, and where none of
  them has it, in what the registry lists.  So two such identifiers of one
  authority are resolved alike; only the words for an unknown one say which
  it was.

  An entry without a URN is of no such authority, because something is always
  left of an identifier that begins as a URN.

  Main results:
    * `authorityKey_ne_empty` — what is left of such an identifier;
    * `Sources.named_urn` — what it names, told by its authority;
    * `Sources.FoundAt`, `Sources.ofAuthority_eq_ok_iff` — the endpoint of an
      authority;
    * `Sources.variants_alike` — identifiers of one authority.
-/
import Federation.Proofs.Directory.Remade
import Federation.Proofs.Keyed
import Federation.Proofs.Text.Fold

namespace Federation.Directory

open Text (trim)

/-! ## §1. Authorities. -/

theorem authorityKey_trim (urn : String) : authorityKey (trim urn) = authorityKey urn := by
  unfold authorityKey
  rw [Text.trim_trim]

/-- Blanks around a URN are not part of the authority. -/
theorem sameAuthority_trim (urn other : String) :
    sameAuthority urn (trim other) = sameAuthority urn other := by
  unfold sameAuthority
  rw [authorityKey_trim]

/-- To a third URN, two of one authority are the same. -/
theorem sameAuthority_congr {a b : String} (h : sameAuthority a b = true) (urn : String) :
    sameAuthority urn a = sameAuthority urn b := by
  have hkey : authorityKey a = authorityKey b := eq_of_beq h
  unfold sameAuthority
  rw [hkey]

/-- Whether an identifier begins as a URN, blanks before it aside. -/
def BeginsAsUrn (identifier : String) : Prop :=
  (Text.dropStart? "urn:" (trim identifier)).isSome = true

instance (identifier : String) : Decidable (BeginsAsUrn identifier) :=
  inferInstanceAs (Decidable (_ = true))

theorem BeginsAsUrn.head {identifier : String} (h : BeginsAsUrn identifier) :
    (trim identifier).toList.head? = some 'u' := by
  unfold BeginsAsUrn Text.dropStart? at h
  split at h
  · rename_i hprefix
    obtain ⟨rest, hrest⟩ := List.isPrefixOf_iff_prefix.1 hprefix
    rw [← hrest]
    rfl
  · cases h

/-- **Something is left of an identifier that begins as a URN**: it is longer than a manager's
ending, which begins otherwise. -/
theorem authorityKey_ne_empty {identifier : String} (h : BeginsAsUrn identifier) :
    authorityKey identifier ≠ "" := by
  have hhead : (Text.lower (trim identifier)).toList.head? = some 'u' := by
    rw [Text.toList_lower, List.head?_map, h.head]
    rfl
  intro hkey
  unfold authorityKey at hkey
  generalize Text.lower (trim identifier) = folded at hhead hkey
  cases hending : managerEndings.findSome? fun ending => Text.dropEnding? ending folded with
  | none =>
      simp only [hending, Option.getD_none] at hkey
      rw [hkey] at hhead
      cases hhead
  | some stem =>
      simp only [hending, Option.getD_some] at hkey
      obtain ⟨ending, hmem, hstem⟩ := List.exists_of_findSome?_eq_some hending
      unfold Text.dropEnding? at hstem
      split at hstem
      · rename_i hsuffix
        obtain ⟨before, hbefore⟩ := List.isSuffixOf_iff_suffix.1 hsuffix
        have hplus : ending.toList.head? = some '+' := by
          simp only [managerEndings, List.mem_cons, List.not_mem_nil, or_false] at hmem
          rcases hmem with rfl | rfl <;> rfl
        -- Nothing stands before the ending, so the text begins as the ending does.
        have hnone : before = [] := by
          have hempty := congrArg String.toList ((Option.some.inj hstem).trans hkey)
          rw [String.toList_ofList, ← hbefore, List.length_append, Nat.add_sub_cancel,
            List.take_left] at hempty
          exact hempty
        rw [← hbefore, hnone, List.nil_append, hplus] at hhead
        cases hhead
      · cases hstem

/-- Who has no URN is of no such authority. -/
theorem sameAuthority_empty {identifier : String} (h : BeginsAsUrn identifier) :
    sameAuthority "" identifier = false := by
  have hkey : authorityKey "" = "" := by decide +kernel
  unfold sameAuthority
  rw [hkey]
  exact beq_eq_false_iff_ne.2 (Ne.symm (authorityKey_ne_empty h))

/-- The nickname of a URN is told by its authority. -/
theorem Nicknames.byUrn_eq {identifier : String} (h : BeginsAsUrn identifier) (t : Nicknames) :
    t.byUrn (trim identifier) = t.find? fun p => sameAuthority p.2.urn identifier := by
  refine congrArg (List.find? · t) (funext fun p => ?_)
  rw [sameAuthority_trim]
  -- Without the check an entry that has no URN would not be found either.
  cases hurn : p.2.urn.isEmpty with
  | true => rw [String.isEmpty_iff.1 hurn, sameAuthority_empty h, Bool.and_false]
  | false => rw [Bool.not_false, Bool.true_and]

/-! ## §2. What a URN names. -/

namespace Sources

/-- **Whether an identifier can only be meant as a URN.** -/
structure IsUrn (s : Sources) (identifier : String) : Prop where
  begins : BeginsAsUrn identifier
  no_url : Text.contains (trim identifier) "://" = false
  no_nickname : s.nicknames.lookup (trim identifier) = none

/-- What an authority leads to, and the fault where it leads nowhere. -/
def ofAuthority (s : Sources) (urn : String) (fault : ResolutionFault) :
    Except ResolutionFault Endpoint :=
  match s.nicknames.find? fun p => sameAuthority p.2.urn urn with
  | some (name, target) => endpointNamed name target
  | none =>
      match s.registry with
      | none => .error fault
      | some (.error reason) => .error (.registryFailed reason)
      | some (.ok entries) =>
          match entries.find? fun entry => sameAuthority entry.urn urn with
          | some entry => endpointAt s.nicknames entry.urn entry.url
          | none => .error fault

variable {s : Sources}

/-- **A URN names what its authority leads to.** -/
theorem named_urn {identifier : String} (h : s.IsUrn identifier) :
    s.named identifier = s.ofAuthority identifier (.unknown (trim identifier)) := by
  have hsettled : ∃ asks, s.Settles (s.resolveOne (trim identifier))
      (s.ofAuthority identifier (.unknown (trim identifier))) asks := by
    unfold resolveOne ofAuthority
    rw [if_neg (ne_true_of_eq_false h.no_url), h.no_nickname, Option.isNone_eq_false_iff.2 h.begins,
      ← Nicknames.byUrn_eq h.begins]
    simp only [Bool.false_eq_true, if_false, sameAuthority_trim]
    cases s.nicknames.byUrn (trim identifier) with
    | some found => exact ⟨_, settles_pure (endpointNamed found.1 found.2)⟩
    | none =>
        cases hregistry : s.registry with
        | none => exact ⟨_, settles_throw s _⟩
        | some reply =>
            have hlooked := settles_lookUp s (trim identifier)
            simp only [sameAuthority_trim] at hlooked
            unfold listed at hlooked
            rw [hregistry] at hlooked
            cases reply <;> exact ⟨_, hlooked⟩
  obtain ⟨asks, hsettled⟩ := hsettled
  exact hsettled.named_eq

/-- Whether the registry is asked for a URN depends on the nicknames alone. -/
theorem asksFor_urn {identifier : String} (h : s.IsUrn identifier) :
    s.asksFor identifier = (s.registry.isSome &&
      !(s.nicknames.find? fun p => sameAuthority p.2.urn identifier).isSome) := by
  have hbegins : (Text.dropStart? "urn:" (trim identifier)).isSome = true := h.begins
  unfold asksFor Nicknames.isAtHand
  rw [h.no_url, h.no_nickname, hbegins, Nicknames.byUrn_eq h.begins]
  simp only [Option.isSome_none, Bool.or_false, Bool.false_or, Bool.and_true, Bool.true_and]

/-- **The endpoint of an authority**: that of the alphabetically first nickname whose URN is of it,
and where there is none, that of the first such entry of the registry. -/
inductive FoundAt (s : Sources) (urn : String) (e : Endpoint) : Prop
  | nicknamed {name canonical : String} {target : Target} (entry : (name, target) ∈ s.nicknames)
      (same : sameAuthority target.urn urn = true)
      (first : ∀ p ∈ s.nicknames, sameAuthority p.2.urn urn = true →
        p = (name, target) ∨ KeyOrder.before name p.1 = true)
      (address : Url.canonical target.url = .ok canonical)
      (made : e = (Endpoint.standing target.urn canonical).named name)
  | listed {before after : List Listed} {entry : Listed} {canonical : String}
      (unnamed : ∀ p ∈ s.nicknames, sameAuthority p.2.urn urn = false)
      (lists : s.registry = some (.ok (before ++ entry :: after)))
      (same : sameAuthority entry.urn urn = true)
      (first : ∀ other ∈ before, sameAuthority other.urn urn = false)
      (address : Url.canonical entry.url = .ok canonical)
      (made : e = standingAt s.nicknames entry.urn canonical)

/-- **The endpoint of an authority** is found there. -/
theorem ofAuthority_eq_ok_iff (ordered : Keyed.Ascending s.nicknames) {urn : String}
    {fault : ResolutionFault} {e : Endpoint} :
    s.ofAuthority urn fault = .ok e ↔ s.FoundAt urn e := by
  unfold ofAuthority
  constructor
  · intro h
    split at h
    · rename_i name target hfound
      obtain ⟨hmem, hsame, hfirst⟩ := (Keyed.find?_eq_some_iff_of_ascending ordered).1 hfound
      rw [endpointNamed_eq] at h
      obtain ⟨canonical, haddress, hmade⟩ := map_addressOf_eq_ok_iff.1 h
      exact .nicknamed hmem hsame hfirst haddress hmade
    · rename_i hnone
      have hunnamed : ∀ p ∈ s.nicknames, sameAuthority p.2.urn urn = false := fun p hp =>
        eq_false_of_ne_true (List.find?_eq_none.1 hnone p hp)
      split at h
      · cases h
      · cases h
      · rename_i entries hlists
        split at h
        · rename_i entry hentry
          obtain ⟨hsame, before, after, rfl, hbefore⟩ := List.find?_eq_some_iff_append.1 hentry
          rw [endpointAt_eq] at h
          obtain ⟨canonical, haddress, hmade⟩ := map_addressOf_eq_ok_iff.1 h
          exact .listed hunnamed hlists hsame
            (fun other hother => by simpa using hbefore other hother) haddress hmade
        · cases h
  · rintro (@⟨name, canonical, target, hmem, hsame, hfirst, haddress, hmade⟩ |
      @⟨before, after, entry, canonical, hunnamed, hlists, hsame, hfirst, haddress, hmade⟩)
    · have hfound : (s.nicknames.find? fun p => sameAuthority p.2.urn urn) = some (name, target) :=
        (Keyed.find?_eq_some_iff_of_ascending ordered).2 ⟨hmem, hsame, hfirst⟩
      rw [hfound]
      exact (endpointNamed_eq name target).trans
        (map_addressOf_eq_ok_iff.2 ⟨canonical, haddress, hmade⟩)
    · have hnone : (s.nicknames.find? fun p => sameAuthority p.2.urn urn) = none :=
        List.find?_eq_none.2 fun p hp => ne_true_of_eq_false (hunnamed p hp)
      have hentry : ((before ++ entry :: after).find? fun other => sameAuthority other.urn urn)
          = some entry :=
        List.find?_eq_some_iff_append.2 ⟨hsame, before, after, rfl,
          fun other hother => by rw [hfirst other hother]; rfl⟩
      rw [hnone, hlists]
      dsimp only
      rw [hentry]
      exact (endpointAt_eq s.nicknames entry.urn entry.url).trans
        (map_addressOf_eq_ok_iff.2 ⟨canonical, haddress, hmade⟩)

/-! ## §3. Identifiers of one authority. -/

/-- **Outcomes for two identifiers that are the same**, but that a fault for an unknown one says
which it was. -/
inductive Alike {α : Type} (a b : String) :
    Except ResolutionFault α → Except ResolutionFault α → Prop
  | same (outcome : Except ResolutionFault α) : Alike a b outcome outcome
  | unknown : Alike a b (.error (.unknown (trim a))) (.error (.unknown (trim b)))

theorem Alike.map {α β : Type} {a b : String} {x y : Except ResolutionFault α} (h : Alike a b x y)
    (f : α → β) : Alike a b (x.map f) (y.map f) := by
  cases h with
  | same => exact .same _
  | unknown => exact .unknown

/-- The registry is asked for both or for none. -/
theorem Alike.asksAny_eq {α : Type} {a b : String} {x y : Except ResolutionFault α}
    (h : Alike a b x y) (asks : Bool) : asksAny [(x, asks)] = asksAny [(y, asks)] := by
  cases h <;> rfl

/-- What an authority leads to is the same for each of its URNs. -/
theorem alike_ofAuthority {a b : String} (h : sameAuthority a b = true) :
    Alike a b (s.ofAuthority a (.unknown (trim a))) (s.ofAuthority b (.unknown (trim b))) := by
  unfold ofAuthority
  simp only [sameAuthority_congr h]
  cases s.nicknames.find? fun p => sameAuthority p.2.urn b with
  | some found => exact .same _
  | none =>
      cases s.registry with
      | none => exact .unknown
      | some reply =>
          cases reply with
          | error reason => exact .same _
          | ok entries =>
              dsimp only
              cases entries.find? fun entry => sameAuthority entry.urn b with
              | some entry => exact .same _
              | none => exact .unknown

/-- **URNs of one authority are resolved alike**, with the registry asked alike: to the endpoint of
the alphabetically first nickname of the authority, or else of its first entry in the registry. -/
theorem variants_alike {a b : String} (ordered : Keyed.Ascending s.nicknames) (ha : s.IsUrn a)
    (hb : s.IsUrn b) (same : sameAuthority a b = true) :
    Alike a b (s.resolve [a]).1 (s.resolve [b]).1 ∧ (s.resolve [a]).2 = (s.resolve [b]).2 ∧
      ∀ es, (s.resolve [a]).1 = .ok es ↔ ∃ e, es = [e] ∧ s.FoundAt a e := by
  have halike : Alike a b (s.named a) (s.named b) := by
    rw [named_urn ha, named_urn hb]
    exact alike_ofAuthority same
  have hasks : s.asks [a] = s.asks [b] := by
    have hone (i : String) : s.asks [i] = asksAny [(s.named i, s.asksFor i)] :=
      if_neg Bool.false_ne_true
    have hasked : s.asksFor a = s.asksFor b := by
      rw [asksFor_urn ha, asksFor_urn hb]
      simp only [sameAuthority_congr same]
    rw [hone, hone, hasked]
    exact halike.asksAny_eq _
  refine ⟨?_, ?_, fun es => ?_⟩
  · rw [resolve_singleton, resolve_singleton]
    exact halike.map _
  · rw [resolve_eq, resolve_eq, hasks]
  · have hfound (e : Endpoint) : s.named a = .ok e ↔ s.FoundAt a e := by
      rw [named_urn ha]
      exact ofAuthority_eq_ok_iff ordered
    rw [resolve_singleton]
    constructor
    · intro h
      cases hnamed : s.named a with
      | error fault =>
          rw [hnamed] at h
          cases h
      | ok e =>
          rw [hnamed] at h
          exact ⟨e, (Except.ok.inj h).symm, (hfound e).1 hnamed⟩
    · rintro ⟨e, rfl, he⟩
      rw [(hfound e).2 he]
      rfl

/-- An aggregate that only the registry has, by two of its URNs. -/
theorem variants_alike_roster :
    Alike "urn:bravo+authority+cm" " urn:BRAVO+authority+am "
        (Roster.sources.resolve ["urn:bravo+authority+cm"]).1
        (Roster.sources.resolve [" urn:BRAVO+authority+am "]).1 ∧
      ∃ e, [Roster.bravo] = [e] ∧ Roster.sources.FoundAt "urn:bravo+authority+cm" e := by
  have hmanager : Roster.sources.IsUrn "urn:bravo+authority+cm" :=
    ⟨by decide +kernel, by decide +kernel, by decide +kernel⟩
  have hcapitals : Roster.sources.IsUrn " urn:BRAVO+authority+am " :=
    ⟨by decide +kernel, by decide +kernel, by decide +kernel⟩
  have hsame : sameAuthority "urn:bravo+authority+cm" " urn:BRAVO+authority+am " = true := by
    decide +kernel
  obtain ⟨halike, -, hfound⟩ :=
    variants_alike (Nicknames.ascending_ofDirectives _) hmanager hcapitals hsame
  exact ⟨halike, (hfound [Roster.bravo]).1 (by decide +kernel)⟩

end Sources

end Federation.Directory
