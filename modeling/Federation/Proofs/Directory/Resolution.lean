/-
  Federation.Proofs.Directory.Resolution
  ──────────────────────────────────────
  **A LIST OF IDENTIFIERS, ONE BY ONE.**

  What an identifier names does not depend on the others it stands among:
  the only thing that resolutions share is what the registry lists, and that
  is the same whenever it is asked.  So the endpoints of a list are those of
  its members, each URL where it occurs first, and the first member that
  names nothing decides how the list fails.

  The registry is asked by the first member that needs it, and what it lists
  is remembered for the others; where it fails the list fails.  So it is
  asked at most once.

  Main results:
    * `Sources.settles_resolveOne` — one identifier, whatever was asked
      before it;
    * `Sources.settles_mapM` — a list of them;
    * `distinct_eq_firstOfEach` — which endpoints are kept;
    * `Sources.resolve_in_order` — the endpoints of a list.
-/
import Federation.Directory.Resolution
import Federation.Proofs.Collect

namespace Federation.Directory

/-! ## §1. The registry in the course of a resolution. -/

namespace Sources

/-- What the registry says when it is asked. -/
def listed (s : Sources) : Except ResolutionFault (List Listed) :=
  match s.registry with
  | none => .error .noAggregates
  | some (.ok entries) => .ok entries
  | some (.error reason) => .error (.registryFailed reason)

/-- What is known once the registry was asked. -/
def consulted (s : Sources) : Consulted :=
  match s.registry with
  | none => .start
  | some (.ok entries) => ⟨some entries, 1⟩
  | some (.error _) => ⟨none, 1⟩

/-- Where a resolution stands while nothing has failed: the registry was not
asked, or what it lists is remembered. -/
inductive Stands (s : Sources) : Consulted → Prop
  | unasked : Stands s .start
  | remembered {entries : List Listed} (lists : s.registry = some (.ok entries)) :
      Stands s ⟨some entries, 1⟩

/-- **What becomes of a part of a resolution**, wherever it stands: the
outcome, and whether the registry is known to have been asked after it. -/
structure Settles {α : Type} (s : Sources) (x : Lookup α) (outcome : Except ResolutionFault α)
    (asks : Bool) : Prop where
  run : ∀ c, s.Stands c → x.run.run c = (outcome, if asks then s.consulted else c)
  stands : ∀ a, outcome = .ok a → asks = true → s.Stands s.consulted

section

variable {α β : Type} {s : Sources}

/-- What is known without the registry. -/
theorem settles_pure (outcome : Except ResolutionFault α) :
    s.Settles (resolveOne.liftExcept outcome) outcome false := by
  refine ⟨fun c _ => ?_, fun _ _ h => nomatch h⟩
  cases outcome <;> rfl

/-- Whether the registry is asked by one part or, where that succeeded, by
the one after it. -/
def asksEither (asks : Bool) (outcome : Except ResolutionFault α) (later : α → Bool) : Bool :=
  asks || match outcome with
    | .ok a => later a
    | .error _ => false

theorem asksEither_false (asks : Bool) (outcome : Except ResolutionFault α) :
    asksEither asks outcome (fun _ => false) = asks := by
  unfold asksEither
  cases outcome <;> exact Bool.or_false asks

/-- What a second part makes of what the first one leaves. -/
theorem run_bind (x : Lookup α) (f : α → Lookup β) (c : Consulted) :
    (x >>= f).run.run c = match x.run.run c with
      | (.ok a, d) => (f a).run.run d
      | (.error fault, d) => (.error fault, d) := by
  show (ExceptT.bind x f).run c = _
  simp only [ExceptT.bind, ExceptT.run, ExceptT.mk, Bind.bind, StateT.bind, StateT.run]
  generalize x c = y
  obtain ⟨r, d⟩ := y
  cases r <;> rfl

/-- One part after another: the second is reached only if the first one
succeeded. -/
theorem Settles.bind {x : Lookup α} {f : α → Lookup β} {outcome : Except ResolutionFault α}
    {rest : α → Except ResolutionFault β} {asks : Bool} {later : α → Bool}
    (hx : s.Settles x outcome asks) (hf : ∀ a, outcome = .ok a → s.Settles (f a) (rest a) (later a)) :
    s.Settles (x >>= f) (outcome.bind rest) (asksEither asks outcome later) := by
  cases outcome with
  | error fault =>
      refine ⟨fun c hc => ?_, fun _ h => nomatch h⟩
      rw [run_bind, hx.run c hc, asksEither, Bool.or_false]
      rfl
  | ok a =>
      have hstands : ∀ c, s.Stands c → s.Stands (if asks then s.consulted else c) := by
        intro c hc
        split
        · rename_i hasks
          exact hx.stands a rfl hasks
        · exact hc
      refine ⟨fun c hc => ?_, fun b hb hasks => ?_⟩
      · rw [run_bind, hx.run c hc]
        dsimp only
        rw [(hf a rfl).run _ (hstands c hc)]
        unfold asksEither
        cases asks with
        | true => cases later a <;> rfl
        | false => rfl
      · rcases Bool.or_eq_true_iff.1 hasks with hfirst | hlater
        · exact hx.stands a rfl hfirst
        · exact (hf a rfl).stands b hb hlater

/-- **What the registry lists**, whether or not it was asked before. -/
theorem settles_listing (s : Sources) : s.Settles s.listing s.listed s.registry.isSome := by
  refine ⟨fun c hc => ?_, fun entries hlisted _ => ?_⟩
  · cases hc with
    | unasked =>
        unfold listed consulted listing
        cases s.registry with
        | none => rfl
        | some reply => cases reply <;> rfl
    | remembered lists =>
        unfold listed consulted listing
        rw [lists]
        rfl
  · unfold listed at hlisted
    unfold consulted
    split at hlisted
    · cases hlisted
    · rename_i lists
      exact .remembered lists
    · cases hlisted

end

/-! ## §2. One identifier. -/

end Sources

/-- Whether an identifier is a URL, a nickname, or a URN of the table. -/
def Nicknames.isAtHand (t : Nicknames) (identifier : String) : Bool :=
  Text.contains identifier "://"
    || (t.lookup identifier).isSome
    || ((Text.dropStart? "urn:" identifier).isSome && (t.byUrn identifier).isSome)

namespace Sources

/-- **What one identifier names**, where it is the first one. -/
def named (s : Sources) (identifier : String) : Except ResolutionFault Endpoint :=
  ((s.resolveOne (Text.trim identifier)).run.run .start).1

/-- Whether the registry is asked for an identifier: it is a URN that the
table does not have. -/
def asksFor (s : Sources) (identifier : String) : Bool :=
  s.registry.isSome && (Text.dropStart? "urn:" (Text.trim identifier)).isSome
    && !s.nicknames.isAtHand (Text.trim identifier)

variable {s : Sources}

/-- What is settled is told by the outcome at the start. -/
theorem Settles.start {α : Type} {x : Lookup α} {outcome : Except ResolutionFault α} {asks : Bool}
    (h : s.Settles x outcome asks) : s.Settles x (x.run.run .start).1 asks := by
  rw [h.run .start .unasked]
  exact h

theorem Settles.named_eq {identifier : String} {outcome : Except ResolutionFault Endpoint}
    {asks : Bool} (h : s.Settles (s.resolveOne (Text.trim identifier)) outcome asks) :
    s.named identifier = outcome := by
  unfold named
  rw [h.run .start .unasked]

theorem settles_throw {α : Type} (s : Sources) (fault : ResolutionFault) :
    s.Settles (throw fault : Lookup α) (.error fault) false :=
  settles_pure (.error fault)

/-- The entry of an authority in what the registry lists. -/
theorem settles_lookUp (s : Sources) (identifier : String) :
    s.Settles (do
      match (← s.listing).find? (fun entry => sameAuthority entry.urn identifier) with
      | some entry => resolveOne.liftExcept (endpointAt s.nicknames entry.urn entry.url)
      | none => throw (.unknown identifier))
      (s.listed.bind fun entries =>
        match entries.find? (fun entry => sameAuthority entry.urn identifier) with
        | some entry => endpointAt s.nicknames entry.urn entry.url
        | none => .error (.unknown identifier))
      s.registry.isSome := by
  have hentries : ∀ entries, s.listed = .ok entries → s.Settles
      (match entries.find? (fun entry => sameAuthority entry.urn identifier) with
        | some entry => resolveOne.liftExcept (endpointAt s.nicknames entry.urn entry.url)
        | none => throw (.unknown identifier))
      (match entries.find? (fun entry => sameAuthority entry.urn identifier) with
        | some entry => endpointAt s.nicknames entry.urn entry.url
        | none => .error (.unknown identifier)) false := by
    intro entries _
    cases entries.find? (fun entry => sameAuthority entry.urn identifier) with
    | some entry => exact settles_pure _
    | none => exact settles_throw s _
  have h := (settles_listing s).bind hentries
  rwa [asksEither_false] at h

/-- **One identifier**, whatever was asked before it. -/
theorem settles_resolveOne (s : Sources) (identifier : String) :
    s.Settles (s.resolveOne (Text.trim identifier)) (s.named identifier)
      (s.asksFor identifier) := by
  suffices h : ∃ outcome, s.Settles (s.resolveOne (Text.trim identifier)) outcome
      (s.asksFor identifier) by
    obtain ⟨outcome, h⟩ := h
    exact h.start
  unfold asksFor Nicknames.isAtHand resolveOne
  generalize Text.trim identifier = i
  by_cases hurl : Text.contains i "://" = true
  · rw [if_pos hurl, hurl, Bool.true_or, Bool.true_or, Bool.not_true, Bool.and_false]
    exact ⟨_, settles_pure _⟩
  · rw [if_neg hurl, eq_false_of_ne_true hurl, Bool.false_or]
    cases s.nicknames.lookup i with
    | some target =>
        rw [Option.isSome_some, Bool.true_or, Bool.not_true, Bool.and_false]
        exact ⟨_, settles_pure _⟩
    | none =>
        rw [Option.isSome_none, Bool.false_or]
        cases Text.dropStart? "urn:" i with
        | none =>
            rw [Option.isSome_none, Bool.and_false, Bool.false_and]
            exact ⟨_, settles_throw s _⟩
        | some rest =>
            rw [Option.isSome_some, Bool.and_true, Bool.true_and, if_neg (nofun)]
            cases s.nicknames.byUrn i with
            | some found =>
                obtain ⟨name, target⟩ := found
                rw [Option.isSome_some, Bool.not_true, Bool.and_false]
                exact ⟨_, settles_pure (endpointNamed name target)⟩
            | none =>
                rw [Option.isSome_none, Bool.not_false, Bool.and_true]
                cases hregistry : s.registry with
                | none => exact ⟨_, settles_throw s _⟩
                | some reply =>
                    have h := settles_lookUp s i
                    rw [hregistry] at h
                    exact ⟨_, h⟩

/-! ## §3. Many of them. -/

/-- Whether the registry is asked before the first fault. -/
def asksAny {α : Type} : List (Except ResolutionFault α × Bool) → Bool
  | [] => false
  | (.ok _, asks) :: rest => asks || asksAny rest
  | (.error _, asks) :: _ => asks

/-- **Many parts one after another**: their outcomes are gathered, and the
registry is known to have been asked where one of them asks it. -/
theorem settles_mapM {α β : Type} {f : α → Lookup β} {outcome : α → Except ResolutionFault β}
    {asks : α → Bool} (h : ∀ a, s.Settles (f a) (outcome a) (asks a)) (as : List α) :
    s.Settles (as.mapM f) ((as.map outcome).mapM id)
      (asksAny (as.map fun a => (outcome a, asks a))) := by
  induction as with
  | nil =>
      rw [List.mapM_nil]
      exact settles_pure (.ok [])
  | cons a as ih =>
      have hrest (b : β) := ih.bind fun bs _ => settles_pure (s := s) (.ok (b :: bs))
      have hall := (h a).bind fun b _ => hrest b
      have hasks : asksAny ((a :: as).map fun a => (outcome a, asks a))
          = asksEither (asks a) (outcome a)
              fun _ => asksAny (as.map fun a => (outcome a, asks a)) := by
        rw [List.map_cons]
        unfold asksEither
        cases outcome a with
        | ok b => rfl
        | error fault => exact (Bool.or_false _).symm
      simp only [asksEither_false] at hall
      rw [hasks, List.map_cons, List.mapM_cons, List.mapM_cons]
      exact hall

end Sources

/-! ## §4. Each URL once. -/

/-- The endpoints whose URL none has that stands before them. -/
def firstOfEach (es : List Endpoint) : List Endpoint :=
  (es.zipIdx.filter fun p => (es.take p.2).all fun earlier => earlier.url ≠ p.1.url).map Prod.fst

/-- The first one is kept, and the others with its URL are not. -/
theorem firstOfEach_cons (e : Endpoint) (es : List Endpoint) :
    firstOfEach (e :: es) = e :: (firstOfEach es).filter fun other => other.url ≠ e.url := by
  have htail : es.zipIdx 1 = es.zipIdx.map fun p => (p.1, p.2 + 1) := by
    rw [List.zipIdx_succ]
  unfold firstOfEach
  rw [List.zipIdx_cons, List.filter_cons_of_pos (by simp), List.map_cons, htail, List.filter_map,
    List.map_map, List.filter_map, List.filter_filter]
  congr 2
  refine List.filter_congr fun p _ => ?_
  simp only [Function.comp_apply, List.take_succ_cons, List.all_cons]
  rw [decide_eq_decide.2 (ne_comm (a := e.url))]

/-- **What is kept is what stands first.** -/
theorem distinct_eq_firstOfEach (es : List Endpoint) : distinct es = firstOfEach es := by
  induction es with
  | nil => rfl
  | cons e es ih => rw [firstOfEach_cons, ← ih, distinct]

/-! ## §5. Lists of identifiers. -/

namespace Sources

variable {s : Sources}

/-- The identifiers that count: the caller's, or else the configured ones. -/
def inUse (s : Sources) (identifiers : List String) : List String :=
  if identifiers.isEmpty then s.defaults else identifiers

/-- What each identifier names by itself; where there is none, what each
entry of the registry does. -/
def answers (s : Sources) (identifiers : List String) : List (Except ResolutionFault Endpoint) :=
  if (s.inUse identifiers).isEmpty then
    match s.listed with
    | .ok entries => entries.map fun entry => endpointAt s.nicknames entry.urn entry.url
    | .error fault => [.error fault]
  else (s.inUse identifiers).map s.named

/-- Whether the registry is asked for a list of identifiers. -/
def asks (s : Sources) (identifiers : List String) : Bool :=
  if (s.inUse identifiers).isEmpty then s.registry.isSome
  else asksAny ((s.inUse identifiers).map fun i => (s.named i, s.asksFor i))

/-- All identifiers of a list. -/
theorem settles_identifiers (s : Sources) (identifiers : List String) :
    s.Settles (identifiers.mapM fun i => s.resolveOne (Text.trim i))
      ((identifiers.map s.named).mapM id)
      (asksAny (identifiers.map fun i => (s.named i, s.asksFor i))) :=
  settles_mapM (settles_resolveOne s) identifiers

/-- All entries of the registry. -/
theorem settles_entries (s : Sources) (entries : List Listed) :
    s.Settles
      (entries.mapM fun e => resolveOne.liftExcept (endpointAt s.nicknames e.urn e.url))
      ((entries.map fun e => endpointAt s.nicknames e.urn e.url).mapM id) false := by
  have hone : ∀ e : Listed, s.Settles
      (resolveOne.liftExcept (endpointAt s.nicknames e.urn e.url))
      (endpointAt s.nicknames e.urn e.url) false := fun e => settles_pure _
  have h := settles_mapM hone entries
  have hasks : asksAny (entries.map fun e => (endpointAt s.nicknames e.urn e.url, false))
      = false := by
    clear h
    induction entries with
    | nil => rfl
    | cons e entries ih =>
        rw [List.map_cons]
        cases endpointAt s.nicknames e.urn e.url with
        | ok endpoint => exact ih
        | error fault => rfl
  rwa [hasks] at h

theorem settles_resolveAll (s : Sources) (identifiers : List String) :
    s.Settles (s.resolveAll identifiers) ((s.answers identifiers).mapM id)
      (s.asks identifiers) := by
  unfold resolveAll answers asks inUse
  cases identifiers with
  | cons i identifiers =>
      simp only [List.isEmpty_cons, Bool.not_false, if_true, Bool.false_eq_true, if_false]
      exact settles_identifiers s (i :: identifiers)
  | nil =>
      simp only [List.isEmpty_nil, Bool.not_true, Bool.false_eq_true, if_false, if_true]
      cases hdefaults : s.defaults with
      | cons i defaults =>
          simp only [List.isEmpty_cons, Bool.not_false, if_true, Bool.false_eq_true, if_false]
          exact settles_identifiers s (i :: defaults)
      | nil =>
          simp only [List.isEmpty_nil, Bool.not_true, Bool.false_eq_true, if_false, if_true]
          have h := (settles_listing s).bind fun entries _ => settles_entries s entries
          rw [asksEither_false] at h
          refine cast ?_ h
          congr 1
          cases s.listed <;> rfl

/-- Nobody asks where nobody needs to. -/
theorem asksAny_eq_false {α : Type} {answers : List (Except ResolutionFault α × Bool)}
    (h : ∀ p ∈ answers, p.2 = false) : asksAny answers = false := by
  induction answers with
  | nil => rfl
  | cons p answers ih =>
      have hp := h p List.mem_cons_self
      have hrest := ih fun q hq => h q (List.mem_cons_of_mem p hq)
      obtain ⟨outcome, asks⟩ := p
      obtain rfl : asks = false := hp
      cases outcome with
      | ok a => exact hrest
      | error fault => rfl

theorem asksAny_map_eq_false {identifiers : List String}
    (h : ∀ i ∈ identifiers, s.asksFor i = false) :
    asksAny (identifiers.map fun i => (s.named i, s.asksFor i)) = false := by
  refine asksAny_eq_false fun p hp => ?_
  obtain ⟨i, hi, rfl⟩ := List.mem_map.1 hp
  exact h i hi

/-- **The registry is not asked for what is at hand.** -/
theorem asks_of_atHand {identifiers : List String} (hsome : s.inUse identifiers ≠ [])
    (h : ∀ i ∈ s.inUse identifiers, s.nicknames.isAtHand (Text.trim i) = true) :
    s.asks identifiers = false := by
  unfold asks
  rw [if_neg (by simpa using hsome)]
  refine asksAny_map_eq_false fun i hi => ?_
  unfold asksFor
  rw [h i hi, Bool.not_true, Bool.and_false]

/-- Who is asked is there. -/
theorem registry_of_asks {identifiers : List String} (h : s.asks identifiers = true) :
    s.registry.isSome = true := by
  refine Decidable.byContradiction fun hnone => ?_
  have hnone := eq_false_of_ne_true hnone
  unfold asks at h
  split at h
  · rw [hnone] at h
    cases h
  · rw [asksAny_map_eq_false fun i _ => by unfold asksFor; rw [hnone]; rfl] at h
    cases h

/-- What is left of all that was named. -/
def keep (all : List Endpoint) : Except ResolutionFault (List Endpoint) :=
  match firstOfEach all with
  | [] => .error .noAggregates
  | es => .ok es

/-- **The endpoints of a list, and how often the registry was asked.** -/
theorem resolve_eq (s : Sources) (identifiers : List String) :
    s.resolve identifiers
      = (((s.answers identifiers).mapM id).bind keep, if s.asks identifiers then 1 else 0) := by
  have hkeep (all : List Endpoint) : s.Settles
      (match distinct all with
        | [] => throw .noAggregates
        | es => return es) (keep all) false := by
    rw [distinct_eq_firstOfEach]
    unfold keep
    cases firstOfEach all with
    | nil => exact settles_throw s _
    | cons e es => exact settles_pure (.ok (e :: es))
  have h := (settles_resolveAll s identifiers).bind fun all _ => hkeep all
  rw [asksEither_false] at h
  have hrun : (resolve.named s identifiers).run.run .start = _ := h.run .start .unasked
  have hasked : (if s.asks identifiers then s.consulted else Consulted.start).asked
      = if s.asks identifiers then 1 else 0 := by
    cases hasks : s.asks identifiers with
    | false => rfl
    | true =>
        obtain ⟨reply, hreply⟩ := Option.isSome_iff_exists.1 (registry_of_asks hasks)
        unfold consulted
        rw [hreply]
        cases reply <;> rfl
  unfold resolve
  rw [hrun]
  exact Prod.ext rfl hasked

theorem firstOfEach_ne_nil {all : List Endpoint} (h : all ≠ []) : firstOfEach all ≠ [] := by
  cases all with
  | nil => exact absurd rfl h
  | cons e es =>
      rw [firstOfEach_cons]
      exact List.cons_ne_nil _ _

theorem keep_of_ne_nil {all : List Endpoint} (h : all ≠ []) :
    keep all = .ok (firstOfEach all) := by
  have hne := firstOfEach_ne_nil h
  unfold keep
  split
  · rename_i hnil
    exact absurd hnil hne
  · rfl

/-- What was found, one by one. -/
theorem resolve_ok {identifiers : List String} {es : List Endpoint}
    (h : (s.resolve identifiers).1 = .ok es) :
    ∃ all, s.answers identifiers = all.map .ok ∧ all ≠ [] ∧ es = firstOfEach all := by
  rw [resolve_eq] at h
  cases hall : (s.answers identifiers).mapM id with
  | error fault =>
      rw [hall] at h
      cases h
  | ok all =>
      rw [hall] at h
      have hne : all ≠ [] := by
        rintro rfl
        cases h
      have hkept : keep all = .ok es := h
      rw [keep_of_ne_nil hne] at hkept
      cases hkept
      exact ⟨all, eq_map_ok_of_mapM_id hall, hne, rfl⟩

/-- **No two endpoints have one URL.** -/
theorem resolve_pairwise {identifiers : List String} {es : List Endpoint}
    (h : (s.resolve identifiers).1 = .ok es) : es.Pairwise fun a b => a.url ≠ b.url := by
  obtain ⟨all, -, -, rfl⟩ := resolve_ok h
  rw [← distinct_eq_firstOfEach]
  exact distinct_pairwise all

/-- One identifier by itself. -/
theorem resolve_singleton (s : Sources) (identifier : String) :
    (s.resolve [identifier]).1 = (s.named identifier).map fun e => [e] := by
  have hanswers : s.answers [identifier] = [s.named identifier] := rfl
  rw [resolve_eq, hanswers]
  cases s.named identifier <;> rfl

/-- Nobody is asked for one that is at hand. -/
theorem asked_of_atHand {identifier : String}
    (h : s.nicknames.isAtHand (Text.trim identifier) = true) : (s.resolve [identifier]).2 = 0 := by
  have hatHand : ∀ i ∈ s.inUse [identifier], s.nicknames.isAtHand (Text.trim i) = true := by
    intro i hi
    obtain rfl := List.mem_singleton.1 hi
    exact h
  have hsome : s.inUse [identifier] ≠ [] := List.cons_ne_nil identifier []
  rw [resolve_eq, asks_of_atHand hsome hatHand]
  rfl

/-- **The endpoints of a list are those of its members**, the identifiers or,
where there are none, the entries of the registry: each URL where it occurs
first, with the URN and the nickname that it has there.  Of faults the first
one counts.  The registry is asked at most once, and not at all where all
identifiers are at hand. -/
theorem resolve_in_order (s : Sources) (identifiers : List String) :
    (∀ es, (s.resolve identifiers).1 = .ok es →
      es ≠ [] ∧ es.Pairwise (fun a b => a.url ≠ b.url) ∧
        ∃ all, s.answers identifiers = all.map .ok ∧ es = firstOfEach all) ∧
    (∀ all, s.answers identifiers = all.map .ok → all ≠ [] →
      (s.resolve identifiers).1 = .ok (firstOfEach all)) ∧
    (s.answers identifiers = [] → (s.resolve identifiers).1 = .error .noAggregates) ∧
    (∀ (before : List Endpoint) (fault : ResolutionFault)
      (after : List (Except ResolutionFault Endpoint)),
      s.answers identifiers = before.map .ok ++ .error fault :: after →
        (s.resolve identifiers).1 = .error fault) ∧
    (∀ i, (s.resolve [i]).1 = (s.named i).map fun e => [e]) ∧
    (s.resolve identifiers).2 ≤ 1 ∧
    (s.inUse identifiers ≠ [] →
      (∀ i ∈ s.inUse identifiers, s.nicknames.isAtHand (Text.trim i) = true) →
      (s.resolve identifiers).2 = 0) := by
  refine ⟨fun es h => ?_, fun all hall hne => ?_, fun hnone => ?_,
    fun before fault after hanswers => ?_, resolve_singleton s, ?_, fun hsome hathand => ?_⟩
  · obtain ⟨all, hall, hne, rfl⟩ := resolve_ok h
    exact ⟨firstOfEach_ne_nil hne, resolve_pairwise h, all, hall, rfl⟩
  · rw [resolve_eq, hall, mapM_id_map_ok]
    exact keep_of_ne_nil hne
  · rw [resolve_eq, hnone]
    rfl
  · have hbefore : ∀ z ∈ before.map (Except.ok (ε := ResolutionFault)), ∃ e, id z = .ok e := by
      intro z hz
      obtain ⟨e, -, rfl⟩ := List.mem_map.1 hz
      exact ⟨e, rfl⟩
    rw [resolve_eq, hanswers, mapM_error hbefore rfl after]
    rfl
  · rw [resolve_eq]
    dsimp only
    split <;> omega
  · rw [resolve_eq, asks_of_atHand hsome hathand]
    rfl

end Sources

/-! ## §6. A list with a duplicate. -/

namespace Roster

/-- One aggregate has a nickname, another one is listed by the registry. -/
def sources : Sources where
  nicknames := .ofDirectives [⟨"Alpha", "urn:alpha+authority+cm", "http://[::1]/"⟩]
  defaults := []
  registry := some (.ok [⟨"urn:bravo+authority+am", "http://[::2]"⟩])

/-- The listed aggregate by two of its URNs, the other one in between. -/
def identifiers : List String := ["urn:bravo+authority+cm", " alpha ", "urn:BRAVO+authority+am"]

def alpha : Endpoint := ⟨"urn:alpha+authority+cm", "http://[::1]", some "alpha", none⟩

def bravo : Endpoint := ⟨"urn:bravo+authority+am", "http://[::2]", none, none⟩

end Roster

/-- Two of three endpoints are left, and the registry is asked once for the
two identifiers that need it. -/
theorem resolve_in_order_roster :
    (Roster.sources.resolve Roster.identifiers).1 = .ok [Roster.bravo, Roster.alpha] ∧
      (Roster.sources.resolve Roster.identifiers).2 = 1 ∧
      (Roster.sources.resolve ["http://[::1]", "alpha"]).2 = 0 := by
  have hanswers : Roster.sources.answers Roster.identifiers
      = [Roster.bravo, Roster.alpha, Roster.bravo].map .ok := by decide +kernel
  have hasks : Roster.sources.asks Roster.identifiers = true := by decide +kernel
  obtain ⟨-, hall, -⟩ := Sources.resolve_in_order Roster.sources Roster.identifiers
  obtain ⟨-, -, -, -, -, -, hatHand⟩ :=
    Sources.resolve_in_order Roster.sources ["http://[::1]", "alpha"]
  refine ⟨(hall _ hanswers (by decide)).trans (by decide +kernel), ?_,
    hatHand (by decide) (by decide +kernel)⟩
  rw [Sources.resolve_eq, hasks]
  rfl

end Federation.Directory
