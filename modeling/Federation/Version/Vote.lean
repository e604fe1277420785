/-
  Federation.Version.Vote
  ───────────────────────
  **THE VOTE ON A PROTOCOL VERSION.**

  A call to many aggregates is made at one version.  Whether it is the
  desired one is decided by two counts: how many aggregates speak a version
  at their own URL (`live`), and how many speak it at any URL (`anywhere`).
  The rules are tried in a fixed order; ties between versions go to the one
  nearer to the desired version, then to the lower one, so the order of the
  aggregates does not matter.

  Main results:
    * `live_le_anywhere`, `anywhere_le_total` — the counts are ordered;
    * `favourite_mem` — the favourite is one of the candidates;
    * `favourite_isBest` — no candidate is preferred to the favourite;
    * `vote_spoken` — a version that is adopted instead of the desired one is
      spoken by someone.
-/
import Federation.Introspection.Snapshot

namespace Federation.Version

/-! ## §1. Counting. -/

/-- The versions that one aggregate speaks. -/
structure Speaker where
  /-- The version at its own URL. -/
  primary : Nat
  /-- All versions, ascending. -/
  supported : List Nat
  deriving DecidableEq, Repr

/-- A primary version counts as supported. -/
def Speaker.of (primary : Nat) (others : List Nat) : Speaker :=
  ⟨primary, Introspection.versionSet (primary :: others)⟩

/-- The versions of a snapshot. -/
def Speaker.ofSnapshot (s : Introspection.Snapshot) : Speaker := ⟨s.primary, s.supported⟩

theorem Speaker.primary_mem_of (primary : Nat) (others : List Nat) :
    primary ∈ (Speaker.of primary others).supported := by
  simp [Speaker.of, Introspection.mem_versionSet]

/-- The aggregates that take part. -/
abbrev Fleet := List Speaker

/-- How many speak the version at their own URL. -/
def live (fleet : Fleet) (v : Nat) : Nat := fleet.countP fun s => s.primary == v

/-- How many speak the version at any URL. -/
def anywhere (fleet : Fleet) (v : Nat) : Nat := fleet.countP fun s => s.supported.contains v

/-- Whether every primary version counts as supported. -/
def Fleet.Sound (fleet : Fleet) : Prop := ∀ s ∈ fleet, s.primary ∈ s.supported

theorem live_le_anywhere {fleet : Fleet} (h : fleet.Sound) (v : Nat) :
    live fleet v ≤ anywhere fleet v := by
  refine List.countP_mono_left fun s hs hv => ?_
  simp only [beq_iff_eq] at hv
  simpa [← hv] using h s hs

theorem anywhere_le_total (fleet : Fleet) (v : Nat) : anywhere fleet v ≤ fleet.length :=
  List.countP_le_length

/-! ## §2. Favourites. -/

/-- The distance between two versions. -/
def distance (a b : Nat) : Nat := (a - b) + (b - a)

/-- Whether `a` is preferred to `b`: it is counted more often, or as often
and nearer to the desired version, or as near and lower. -/
def preferred (count : Nat → Nat) (desired a b : Nat) : Bool :=
  count b < count a
    || (count a == count b
      && (distance a desired < distance b desired
        || (distance a desired == distance b desired && a < b)))

/-- The candidate preferred to every other. -/
def favourite (count : Nat → Nat) (desired : Nat) : List Nat → Option Nat
  | [] => none
  | v :: vs =>
      match favourite count desired vs with
      | none => some v
      | some w => some (if preferred count desired w v then w else v)

theorem favourite_mem {count : Nat → Nat} {desired v : Nat} {vs : List Nat}
    (h : favourite count desired vs = some v) : v ∈ vs := by
  induction vs generalizing v with
  | nil => simp [favourite] at h
  | cons w ws ih =>
    unfold favourite at h
    split at h
    · simp_all
    · rename_i u hu
      simp only [Option.some.injEq] at h
      split at h
      · exact List.mem_cons_of_mem _ (h ▸ ih hu)
      · simp [← h]

theorem preferred_irrefl (count : Nat → Nat) (d a : Nat) : preferred count d a a = false := by
  simp [preferred]

theorem preferred_trans {count : Nat → Nat} {d a b c : Nat}
    (h : preferred count d a b = true) (k : preferred count d b c = true) :
    preferred count d a c = true := by
  simp only [preferred, Bool.or_eq_true, Bool.and_eq_true, decide_eq_true_eq, beq_iff_eq] at *
  omega

theorem preferred_total (count : Nat → Nat) (d : Nat) {a b : Nat} (h : a ≠ b) :
    preferred count d a b = true ∨ preferred count d b a = true := by
  simp only [preferred, Bool.or_eq_true, Bool.and_eq_true, decide_eq_true_eq, beq_iff_eq]
  omega

/-- **No candidate is preferred to the favourite.** -/
theorem favourite_isBest {count : Nat → Nat} {d v : Nat} {vs : List Nat}
    (h : favourite count d vs = some v) : ∀ w ∈ vs, preferred count d w v = false := by
  induction vs generalizing v with
  | nil => simp
  | cons u us ih =>
    intro w hw
    unfold favourite at h
    split at h
    · rename_i hn
      have hnil : us = [] := by
        cases us with
        | nil => rfl
        | cons x xs =>
          unfold favourite at hn
          split at hn <;> simp at hn
      simp_all [preferred_irrefl]
    · rename_i x hx
      simp only [Option.some.injEq] at h
      by_cases hp : preferred count d x u = true
      · simp only [hp, if_true] at h
        subst h
        rcases List.mem_cons.1 hw with rfl | hw
        · refine Bool.eq_false_iff.2 fun hc => ?_
          have := preferred_trans hp hc
          simp [preferred_irrefl] at this
        · exact ih hx w hw
      · simp only [hp, Bool.false_eq_true, if_false] at h
        subst h
        rcases List.mem_cons.1 hw with rfl | hmem
        · exact preferred_irrefl _ _ _
        · refine Bool.eq_false_iff.2 fun hc => ?_
          by_cases hxu : x = u
          · subst hxu
            simp [ih hx w hmem] at hc
          · rcases preferred_total count d hxu with h' | h'
            · exact hp h'
            · have := ih hx w hmem
              simp [preferred_trans hc h'] at this

/-! ## §3. The vote. -/

/-- What settled a vote. -/
inductive Rule where
  /-- All speak the desired version at their own URL. -/
  | allLive
  /-- All speak the desired version at some URL. -/
  | allAnywhere
  /-- At least half speak the desired version at some URL. -/
  | desiredMajority
  /-- The favourite primary version is spoken by all. -/
  | mostLiveUniversal
  /-- The favourite primary version is the primary one of at least half. -/
  | mostLiveMajority
  /-- The favourite version is spoken by all. -/
  | mostAnywhereUniversal
  /-- The favourite version is spoken by at least half. -/
  | mostAnywhereMajority
  /-- No version has a majority, and someone speaks the desired one. -/
  | desiredStillSupported
  /-- No version has a majority, and nobody speaks the desired one. -/
  | lastResort
  deriving DecidableEq, Repr

/-- The outcome of a vote. -/
structure Vote where
  version : Nat
  rule : Rule
  deriving DecidableEq, Repr

/-- The favourite among the primary versions. -/
def mostLive (fleet : Fleet) (desired : Nat) : Option Nat :=
  favourite (live fleet) desired (fleet.map Speaker.primary)

/-- The favourite among all versions. -/
def mostAnywhere (fleet : Fleet) (desired : Nat) : Option Nat :=
  favourite (anywhere fleet) desired (fleet.flatMap Speaker.supported)

/-- The vote between two favourites, once the desired version has neither
all nor half of the fleet. -/
def voteAmong (fleet : Fleet) (desired mostLive mostAnywhere : Nat) : Vote :=
  if anywhere fleet mostLive = fleet.length then ⟨mostLive, .mostLiveUniversal⟩
  else if fleet.length ≤ 2 * live fleet mostLive then ⟨mostLive, .mostLiveMajority⟩
  else if anywhere fleet mostAnywhere = fleet.length then ⟨mostAnywhere, .mostAnywhereUniversal⟩
  else if fleet.length ≤ 2 * anywhere fleet mostAnywhere then
    ⟨mostAnywhere, .mostAnywhereMajority⟩
  -- From here on no version has half of the fleet.
  else if 0 < anywhere fleet desired then ⟨desired, .desiredStillSupported⟩
  else ⟨mostAnywhere, .lastResort⟩

/-- **The vote of a fleet.**  An empty fleet keeps the desired version. -/
def vote (fleet : Fleet) (desired : Nat) : Vote :=
  if live fleet desired = fleet.length then ⟨desired, .allLive⟩
  else if anywhere fleet desired = fleet.length then ⟨desired, .allAnywhere⟩
  else if fleet.length ≤ 2 * anywhere fleet desired then ⟨desired, .desiredMajority⟩
  else voteAmong fleet desired ((mostLive fleet desired).getD desired)
    ((mostAnywhere fleet desired).getD desired)

/-! ## §4. What is adopted. -/

/-- Whether a version is the desired one, or someone speaks it. -/
def Fleet.Offers (fleet : Fleet) (desired v : Nat) : Prop :=
  v = desired ∨ ∃ s ∈ fleet, v ∈ s.supported

theorem offers_mostLive {fleet : Fleet} (h : fleet.Sound) (desired : Nat) :
    fleet.Offers desired ((mostLive fleet desired).getD desired) := by
  cases hmost : mostLive fleet desired with
  | none => exact .inl rfl
  | some v =>
    obtain ⟨s, hs, rfl⟩ := List.mem_map.1 (favourite_mem hmost)
    exact .inr ⟨s, hs, h s hs⟩

theorem offers_mostAnywhere (fleet : Fleet) (desired : Nat) :
    fleet.Offers desired ((mostAnywhere fleet desired).getD desired) := by
  cases hmost : mostAnywhere fleet desired with
  | none => exact .inl rfl
  | some v =>
    obtain ⟨s, hs, hv⟩ := List.mem_flatMap.1 (favourite_mem hmost)
    exact .inr ⟨s, hs, hv⟩

theorem voteAmong_version (fleet : Fleet) (desired a b : Nat) :
    (voteAmong fleet desired a b).version = a ∨ (voteAmong fleet desired a b).version = b ∨
      (voteAmong fleet desired a b).version = desired := by
  unfold voteAmong
  split
  · exact .inl rfl
  · split
    · exact .inl rfl
    · split
      · exact .inr (.inl rfl)
      · split
        · exact .inr (.inl rfl)
        · split
          · exact .inr (.inr rfl)
          · exact .inr (.inl rfl)

/-- **What is adopted is the desired version, or someone speaks it.** -/
theorem vote_spoken {fleet : Fleet} (h : fleet.Sound) (desired : Nat) :
    fleet.Offers desired (vote fleet desired).version := by
  unfold vote
  split
  · exact .inl rfl
  · split
    · exact .inl rfl
    · split
      · exact .inl rfl
      · rcases voteAmong_version fleet desired ((mostLive fleet desired).getD desired)
          ((mostAnywhere fleet desired).getD desired) with hlive | hanywhere | hdesired
        · rw [hlive]
          exact offers_mostLive h desired
        · rw [hanywhere]
          exact offers_mostAnywhere fleet desired
        · exact .inl hdesired

end Federation.Version
