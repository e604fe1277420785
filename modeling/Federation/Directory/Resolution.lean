/-
  Federation.Directory.Resolution
  ───────────────────────────────
  **FROM IDENTIFIERS TO ENDPOINTS.**

  An identifier is a URL, a nickname, or a URN that a nickname or the
  registry of known aggregates has.  Where the caller gives none, the
  configured ones are taken, and where there are none of these either, all
  that the registry lists.  The registry is asked only when it is needed and
  at most once.

  The endpoints come in the order of their identifiers, each URL once, under
  the first name it was asked for by.

  Main results: `distinct_sublist`, `distinct_pairwise` — what is kept is in
  order and has pairwise different URLs.
-/
import Federation.Directory.Endpoint
import Federation.Directory.Nickname

namespace Federation.Directory

/-! ## §1. What is known. -/

/-- An aggregate that the registry lists. -/
structure Listed where
  urn : String
  url : String
  deriving DecidableEq, Repr

/-- All that identifiers are resolved by. -/
structure Sources where
  nicknames : Nicknames
  defaults : List String
  /-- What the registry answers, or why it fails. -/
  registry : Option (Except String (List Listed))

/-- Why identifiers name no endpoints. -/
inductive ResolutionFault where
  | unusableUrl (url : UnusableUrl)
  | unknown (identifier : String)
  | noAggregates
  | registryFailed (reason : String)
  deriving DecidableEq, Repr

/-- The words for a fault. -/
def ResolutionFault.message : ResolutionFault → String
  | .unusableUrl url => url.message
  | .unknown identifier =>
      "unknown aggregate '" ++ identifier
        ++ "': not a URL, configured nickname, or known URN"
  | .noAggregates => "no aggregates specified and none configured"
  | .registryFailed reason => "aggregate registry lookup failed: " ++ reason

/-! ## §2. One identifier. -/

/-- What is known of the registry in the course of a resolution. -/
structure Consulted where
  /-- What it lists, once it said so. -/
  listing : Option (List Listed)
  /-- How often it was asked. -/
  asked : Nat
  deriving DecidableEq, Repr

/-- Before the registry is asked. -/
def Consulted.start : Consulted := ⟨none, 0⟩

/-- A resolution in progress. -/
abbrev Lookup := ExceptT ResolutionFault (StateM Consulted)

/-- An endpoint whose URL may turn out unusable. -/
def endpointOf (urn url : String) : Except ResolutionFault Endpoint :=
  (Endpoint.of urn url).mapError .unusableUrl

/-- The endpoint at an address; nickname, and the URN where none is given,
come from the table. -/
def endpointAt (t : Nicknames) (urn url : String) : Except ResolutionFault Endpoint := do
  let e ← endpointOf urn url
  match t.byUrl e.url with
  | none => return e
  | some (name, target) =>
      -- The address was found by its URL, so the URL stays as it is.
      let known ← endpointOf (if Text.isBlankText urn then target.urn else urn) e.url
      return known.named name

/-- The endpoint of an entry of the table. -/
def endpointNamed (name : String) (target : Target) : Except ResolutionFault Endpoint :=
  (endpointOf target.urn target.url).map (·.named name)

/-- Ask the registry, and remember what it lists. -/
def consult (reply : Except String (List Listed)) : Lookup (List Listed) := do
  modify fun c => { c with asked := c.asked + 1 }
  match reply with
  | .ok entries =>
      modify fun c => { c with listing := some entries }
      return entries
  | .error reason => throw (.registryFailed reason)

/-- What the registry lists; it is asked where nothing is remembered. -/
def Sources.listing (s : Sources) : Lookup (List Listed) := do
  match (← get).listing with
  | some entries => return entries
  | none =>
      match s.registry with
      | none => throw .noAggregates
      | some reply => consult reply

/-- **The endpoint of one identifier**, blanks around it taken off. -/
def Sources.resolveOne (s : Sources) (identifier : String) : Lookup Endpoint :=
  if Text.contains identifier "://" then liftExcept (endpointAt s.nicknames "" identifier)
  else match s.nicknames.lookup identifier with
    | some target => liftExcept (endpointNamed identifier target)
    | none =>
        -- Only a URN may stand in the registry.
        if (Text.dropStart? "urn:" identifier).isNone then throw (.unknown identifier)
        else match s.nicknames.byUrn identifier with
          | some (name, target) => liftExcept (endpointNamed name target)
          | none =>
              if s.registry.isNone then throw (.unknown identifier)
              else do
                match (← s.listing).find? (fun entry => sameAuthority entry.urn identifier) with
                | some entry => liftExcept (endpointAt s.nicknames entry.urn entry.url)
                | none => throw (.unknown identifier)
where
  /-- A pure outcome as part of a resolution. -/
  liftExcept {α : Type} (outcome : Except ResolutionFault α) : Lookup α :=
    match outcome with
    | .ok a => return a
    | .error fault => throw fault

/-! ## §3. Each URL once. -/

/-- The endpoints whose URL none before them has. -/
def distinct : List Endpoint → List Endpoint
  | [] => []
  | e :: es => e :: (distinct es).filter fun other => other.url ≠ e.url

theorem distinct_sublist (es : List Endpoint) : (distinct es).Sublist es := by
  induction es with
  | nil => exact List.Sublist.slnil
  | cons e es ih => exact (List.filter_sublist.trans ih).cons_cons e

/-- **The URLs that are left are pairwise different.** -/
theorem distinct_pairwise (es : List Endpoint) :
    (distinct es).Pairwise fun a b => a.url ≠ b.url := by
  induction es with
  | nil => exact List.Pairwise.nil
  | cons e es ih =>
    refine List.Pairwise.cons ?_ (ih.filter _)
    intro b hb
    have := (List.mem_filter.1 hb).2
    simp only [ne_eq, decide_eq_true_eq] at this
    exact fun h => this h.symm

/-! ## §4. Lists of identifiers. -/

/-- The endpoints before duplicates are dropped. -/
def Sources.resolveAll (s : Sources) (identifiers : List String) : Lookup (List Endpoint) :=
  if !identifiers.isEmpty then identifiers.mapM fun i => s.resolveOne (Text.trim i)
  else if !s.defaults.isEmpty then s.defaults.mapM fun i => s.resolveOne (Text.trim i)
  else do
    let entries ← s.listing
    entries.mapM fun entry =>
      Sources.resolveOne.liftExcept (endpointAt s.nicknames entry.urn entry.url)

/-- **The endpoints that identifiers name**, and how often the registry was
asked. -/
def Sources.resolve (s : Sources) (identifiers : List String) :
    Except ResolutionFault (List Endpoint) × Nat :=
  let (outcome, consulted) := named.run.run .start
  (outcome, consulted.asked)
where
  /-- At least one endpoint. -/
  named : Lookup (List Endpoint) := do
    match distinct (← s.resolveAll identifiers) with
    | [] => throw .noAggregates
    | es => return es

end Federation.Directory
