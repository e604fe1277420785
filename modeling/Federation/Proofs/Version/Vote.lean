/-
  Federation.Proofs.Version.Vote
  ──────────────────────────────
  **WHAT A VOTE GAINS.**

  Nine rules settle a vote, but what they come to is told by one count, how
  many aggregates speak a version at any URL.  Either the desired version
  has half of the fleet and is kept; or another one has half and is adopted;
  or none has, and then the desired version is kept as long as anybody
  speaks it (`Backed`).

  A version that came out of a vote is therefore kept when it is voted on in
  its turn, though ties now go to other versions and other rules apply.  And
  since a favourite is preferred to every other candidate, it does not
  matter in which order the aggregates are asked.

  Main results:
    * `vote_backed` — how a version comes out of a vote;
    * `vote_switches_iff` — when another version is adopted, and what for;
    * `vote_stable_perm` — to vote again, or in another order, changes
      nothing.
-/
import Federation.Version.Vote

namespace Federation.Version

/-! ## §1. Favourites. -/

section

variable {count : Nat → Nat} {desired v : Nat} {vs ws : List Nat}

theorem favourite_eq_none_iff : favourite count desired vs = none ↔ vs = [] := by
  cases vs with
  | nil => exact ⟨fun _ => rfl, fun _ => rfl⟩
  | cons v vs =>
      refine ⟨fun h => ?_, fun h => nomatch h⟩
      unfold favourite at h
      split at h <;> cases h

/-- **No candidate is counted more often than the favourite.** -/
theorem count_le_favourite (h : favourite count desired vs = some v) {w : Nat} (hw : w ∈ vs) :
    count w ≤ count v := by
  have hbest : preferred count desired w v = false := favourite_isBest h w hw
  apply Nat.le_of_not_lt
  intro hlt
  have hpreferred : preferred count desired w v = true := by
    unfold preferred
    rw [decide_eq_true hlt, Bool.true_or]
  rw [hbest] at hpreferred
  cases hpreferred

/-- **The order of the candidates does not matter.** -/
theorem favourite_perm (h : vs.Perm ws) :
    favourite count desired vs = favourite count desired ws := by
  cases hv : favourite count desired vs with
  | none =>
      have hvs : vs = [] := favourite_eq_none_iff.1 hv
      have hws : ws = [] := List.perm_nil.1 (hvs ▸ h).symm
      exact (favourite_eq_none_iff.2 hws).symm
  | some v =>
      cases hw : favourite count desired ws with
      | none =>
          have hws : ws = [] := favourite_eq_none_iff.1 hw
          have hmem : v ∈ ws := h.subset (favourite_mem hv)
          rw [hws] at hmem
          cases hmem
      | some w =>
          -- Either one is a candidate of both lists, so neither is preferred.
          have hvw : preferred count desired v w = false :=
            favourite_isBest hw v (h.subset (favourite_mem hv))
          have hwv : preferred count desired w v = false :=
            favourite_isBest hv w (h.symm.subset (favourite_mem hw))
          by_cases heq : v = w
          · rw [heq]
          · rcases preferred_total count desired heq with hp | hp
            · rw [hvw] at hp
              cases hp
            · rw [hwv] at hp
              cases hp

end

/-! ## §2. Counts. -/

/-- A fleet of aggregates that each count their primary version is sound. -/
theorem Fleet.sound_map_of (entries : List (Nat × List Nat)) :
    Fleet.Sound (entries.map fun (primary, others) => Speaker.of primary others) := by
  intro s hs
  obtain ⟨⟨primary, others⟩, _, rfl⟩ := List.mem_map.1 hs
  exact Speaker.primary_mem_of primary others

section

variable {fleet : Fleet} {desired m : Nat}

theorem anywhere_pos_iff {v : Nat} : 0 < anywhere fleet v ↔ ∃ s ∈ fleet, v ∈ s.supported := by
  unfold anywhere
  rw [List.countP_pos_iff]
  simp only [List.contains_iff_mem]

/-- A fleet of which somebody takes part has a favourite. -/
theorem exists_mostAnywhere (sound : fleet.Sound) (asked : fleet ≠ []) (desired : Nat) :
    ∃ m, mostAnywhere fleet desired = some m := by
  cases fleet with
  | nil => exact absurd rfl asked
  | cons s rest =>
      rw [← Option.isSome_iff_exists, Option.isSome_iff_ne_none]
      intro hnone
      have hspoken : s.primary ∈ (s :: rest).flatMap Speaker.supported :=
        List.mem_flatMap.2 ⟨s, List.mem_cons_self, sound s List.mem_cons_self⟩
      rw [favourite_eq_none_iff.1 hnone] at hspoken
      cases hspoken

/-- The favourite of all versions is spoken by somebody, -/
theorem mostAnywhere_spoken (h : mostAnywhere fleet desired = some m) :
    0 < anywhere fleet m := by
  obtain ⟨s, hs, hm⟩ := List.mem_flatMap.1 (favourite_mem h)
  exact anywhere_pos_iff.2 ⟨s, hs, hm⟩

/-- and no version is spoken by more, be it a candidate or not. -/
theorem anywhere_le_mostAnywhere (h : mostAnywhere fleet desired = some m) (v : Nat) :
    anywhere fleet v ≤ anywhere fleet m := by
  by_cases hv : 0 < anywhere fleet v
  · obtain ⟨s, hs, hspeaks⟩ := anywhere_pos_iff.1 hv
    exact count_le_favourite h (List.mem_flatMap.2 ⟨s, hs, hspeaks⟩)
  · omega

end

/-! ## §3. How a version comes out of a vote. -/

/-- **What backs the version that comes out of a vote.** -/
inductive Backed (fleet : Fleet) (desired : Nat) : Nat → Prop
  /-- Half of the fleet speaks the desired version. -/
  | kept (half : fleet.length ≤ 2 * anywhere fleet desired) : Backed fleet desired desired
  /-- Half of the fleet speaks another one. -/
  | adopted {v : Nat} (minority : 2 * anywhere fleet desired < fleet.length)
      (half : fleet.length ≤ 2 * anywhere fleet v) : Backed fleet desired v
  /-- No version has half of the fleet, and somebody speaks the desired
  one. -/
  | spared (split : ∀ w, 2 * anywhere fleet w < fleet.length)
      (spoken : 0 < anywhere fleet desired) : Backed fleet desired desired
  /-- No version has half of the fleet, and nobody speaks the desired one. -/
  | lastResort {v : Nat} (split : ∀ w, 2 * anywhere fleet w < fleet.length)
      (unspoken : anywhere fleet desired = 0) (spoken : 0 < anywhere fleet v) :
      Backed fleet desired v

section

variable {fleet : Fleet} {desired : Nat}

/-- Between two favourites, where the desired version is in the minority. -/
theorem voteAmong_backed (sound : fleet.Sound) (asked : fleet ≠ [])
    (minority : 2 * anywhere fleet desired < fleet.length) (mostLive : Nat) :
    Backed fleet desired (voteAmong fleet desired mostLive
      ((mostAnywhere fleet desired).getD desired)).version := by
  obtain ⟨m, hm⟩ := exists_mostAnywhere sound asked desired
  rw [hm, Option.getD_some]
  unfold voteAmong
  by_cases hall : anywhere fleet mostLive = fleet.length
  · rw [if_pos hall]
    have half : fleet.length ≤ 2 * anywhere fleet mostLive := by omega
    exact .adopted minority half
  rw [if_neg hall]
  by_cases hlive : fleet.length ≤ 2 * live fleet mostLive
  · rw [if_pos hlive]
    -- What is spoken at the own URL is spoken at some URL.
    have hle : live fleet mostLive ≤ anywhere fleet mostLive := live_le_anywhere sound mostLive
    have half : fleet.length ≤ 2 * anywhere fleet mostLive := by omega
    exact .adopted minority half
  rw [if_neg hlive]
  by_cases hall' : anywhere fleet m = fleet.length
  · rw [if_pos hall']
    have half : fleet.length ≤ 2 * anywhere fleet m := by omega
    exact .adopted minority half
  rw [if_neg hall']
  by_cases hhalf : fleet.length ≤ 2 * anywhere fleet m
  · rw [if_pos hhalf]
    exact .adopted minority hhalf
  rw [if_neg hhalf]
  -- The favourite falls short of half, so every version does.
  have split : ∀ w, 2 * anywhere fleet w < fleet.length := by
    intro w
    have hle : anywhere fleet w ≤ anywhere fleet m := anywhere_le_mostAnywhere hm w
    omega
  by_cases hspoken : 0 < anywhere fleet desired
  · rw [if_pos hspoken]
    exact .spared split hspoken
  · rw [if_neg hspoken]
    exact .lastResort split (by omega) (mostAnywhere_spoken hm)

/-- **How a version comes out of a vote.** -/
theorem vote_backed (sound : fleet.Sound) (asked : fleet ≠ []) (desired : Nat) :
    Backed fleet desired (vote fleet desired).version := by
  unfold vote
  by_cases hlive : live fleet desired = fleet.length
  · rw [if_pos hlive]
    have hle : live fleet desired ≤ anywhere fleet desired := live_le_anywhere sound desired
    exact .kept (by omega)
  rw [if_neg hlive]
  by_cases hall : anywhere fleet desired = fleet.length
  · rw [if_pos hall]
    exact .kept (by omega)
  rw [if_neg hall]
  by_cases hhalf : fleet.length ≤ 2 * anywhere fleet desired
  · rw [if_pos hhalf]
    exact .kept hhalf
  · rw [if_neg hhalf]
    exact voteAmong_backed sound asked (by omega) _

end

/-! ## §4. What a vote gains. -/

section

variable {fleet : Fleet} {desired v : Nat}

/-- A version that is adopted is spoken by more than the desired one. -/
theorem Backed.gains (h : Backed fleet desired v) (hv : v ≠ desired) :
    anywhere fleet desired < anywhere fleet v := by
  cases h with
  | kept half => exact absurd rfl hv
  | adopted minority half => omega
  | spared split spoken => exact absurd rfl hv
  | lastResort split unspoken spoken => omega

/-- Somebody speaks the version that comes out. -/
theorem Backed.spoken (h : Backed fleet desired v) (asked : fleet ≠ []) :
    0 < anywhere fleet v := by
  have hpos : 0 < fleet.length := List.length_pos_iff.2 asked
  cases h with
  | kept half => omega
  | adopted minority half => omega
  | spared split spoken => exact spoken
  | lastResort split unspoken spoken => exact spoken

/-- If any version has half of the fleet, the one that comes out has. -/
theorem Backed.hasHalf (h : Backed fleet desired v) {w : Nat}
    (hw : fleet.length ≤ 2 * anywhere fleet w) : fleet.length ≤ 2 * anywhere fleet v := by
  cases h with
  | kept half => exact half
  | adopted minority half => exact half
  | spared split spoken => exact absurd hw (Nat.not_le_of_lt (split w))
  | lastResort split unspoken spoken => exact absurd hw (Nat.not_le_of_lt (split w))

/-- **When another version comes out**: the desired one has less than half of
the fleet, and some other one has half or nobody speaks it at all. -/
theorem Backed.ne_iff (h : Backed fleet desired v) :
    v ≠ desired ↔ 2 * anywhere fleet desired < fleet.length ∧
      ((∃ w, fleet.length ≤ 2 * anywhere fleet w) ∨ anywhere fleet desired = 0) := by
  constructor
  · intro hv
    cases h with
    | kept half => exact absurd rfl hv
    | adopted minority half => exact ⟨minority, .inl ⟨v, half⟩⟩
    | spared split spoken => exact absurd rfl hv
    | lastResort split unspoken spoken => exact ⟨split desired, .inr unspoken⟩
  · rintro ⟨minority, hother⟩ rfl
    -- Were it the desired one, it would be kept by half or spared.
    cases h with
    | kept half => omega
    | adopted _ half => omega
    | spared split spoken =>
        rcases hother with ⟨w, hw⟩ | hnone
        · exact absurd hw (Nat.not_le_of_lt (split w))
        · omega
    | lastResort split unspoken spoken => omega

end

/-- **When a vote switches, more aggregates can be called.**  Another version
than the desired one comes out exactly where the desired one has less than
half of the fleet, while some version has half or nobody speaks the desired
one; the version that comes out is then spoken by more, it is always spoken
by somebody, and it has half of the fleet if any version has. -/
theorem vote_switches_iff {fleet : Fleet} (sound : fleet.Sound) (asked : fleet ≠ [])
    (desired : Nat) :
    ((vote fleet desired).version ≠ desired ↔
      2 * anywhere fleet desired < fleet.length ∧
        ((∃ w, fleet.length ≤ 2 * anywhere fleet w) ∨ anywhere fleet desired = 0)) ∧
    ((vote fleet desired).version ≠ desired →
      anywhere fleet desired < anywhere fleet (vote fleet desired).version) ∧
    0 < anywhere fleet (vote fleet desired).version ∧
    ((∃ w, fleet.length ≤ 2 * anywhere fleet w) →
      fleet.length ≤ 2 * anywhere fleet (vote fleet desired).version) := by
  have backed : Backed fleet desired (vote fleet desired).version :=
    vote_backed sound asked desired
  refine ⟨backed.ne_iff, backed.gains, backed.spoken asked, ?_⟩
  rintro ⟨w, hw⟩
  exact backed.hasHalf hw

/-- Three of four aggregates speak version 3 where version 2 is desired. -/
theorem vote_switches_up :
    let fleet : Fleet := [(2, []), (3, []), (3, []), (3, [])].map fun (primary, others) =>
      Speaker.of primary others
    (vote fleet 2).version ≠ 2 ∧ anywhere fleet 2 < anywhere fleet (vote fleet 2).version := by
  intro fleet
  obtain ⟨hiff, hgain, -⟩ := vote_switches_iff (Fleet.sound_map_of _ : fleet.Sound) (by decide) 2
  have hswitch : (vote fleet 2).version ≠ 2 := hiff.2 ⟨by decide, .inl ⟨3, by decide⟩⟩
  exact ⟨hswitch, hgain hswitch⟩

/-! ## §5. Voting again. -/

section

variable {fleet : Fleet} {desired : Nat}

/-- A version that half of the fleet speaks is kept. -/
theorem vote_of_hasHalf (half : fleet.length ≤ 2 * anywhere fleet desired) :
    (vote fleet desired).version = desired := by
  unfold vote
  by_cases hlive : live fleet desired = fleet.length
  · rw [if_pos hlive]
  rw [if_neg hlive]
  by_cases hall : anywhere fleet desired = fleet.length
  · rw [if_pos hall]
  · rw [if_neg hall, if_pos half]

/-- So is a version that somebody speaks, where none has half of the
fleet. -/
theorem vote_of_split (sound : fleet.Sound) (split : ∀ w, 2 * anywhere fleet w < fleet.length)
    (spoken : 0 < anywhere fleet desired) : (vote fleet desired).version = desired := by
  have asked : fleet ≠ [] := by
    rintro rfl
    cases spoken
  have backed := vote_backed sound asked desired
  generalize (vote fleet desired).version = v at backed
  cases backed with
  | kept half => rfl
  | adopted minority half => exact absurd half (Nat.not_le_of_lt (split v))
  | spared _ _ => rfl
  | lastResort _ unspoken _ => omega

/-- **A version that came out of a vote is kept by the next one.** -/
theorem vote_again (sound : fleet.Sound) (desired : Nat) :
    (vote fleet (vote fleet desired).version).version = (vote fleet desired).version := by
  by_cases hnone : fleet = []
  · subst hnone
    rfl
  have backed := vote_backed sound hnone desired
  generalize hv : (vote fleet desired).version = v at backed
  cases backed with
  | kept half => exact vote_of_hasHalf half
  | adopted minority half => exact vote_of_hasHalf half
  | spared split spoken => exact vote_of_split sound split spoken
  | lastResort split unspoken spoken => exact vote_of_split sound split spoken

end

/-! ## §6. Voting in another order. -/

section

variable {fleet other : Fleet} (h : other.Perm fleet)
include h

theorem live_perm : live other = live fleet := by
  funext v
  exact h.countP_eq _

theorem anywhere_perm : anywhere other = anywhere fleet := by
  funext v
  exact h.countP_eq _

theorem mostLive_perm (desired : Nat) : mostLive other desired = mostLive fleet desired := by
  unfold mostLive
  rw [live_perm h]
  exact favourite_perm (h.map Speaker.primary)

theorem mostAnywhere_perm (desired : Nat) :
    mostAnywhere other desired = mostAnywhere fleet desired := by
  unfold mostAnywhere
  rw [anywhere_perm h]
  exact favourite_perm (h.flatMap_right Speaker.supported)

/-- **The order of the aggregates matters neither for the version nor for the
rule.** -/
theorem vote_perm (desired : Nat) : vote other desired = vote fleet desired := by
  have hlength : other.length = fleet.length := h.length_eq
  unfold vote voteAmong
  rw [mostLive_perm h, mostAnywhere_perm h, live_perm h, anywhere_perm h, hlength]

end

/-- **A vote is stable, and blind to order.**  To vote again on the version
that came out keeps it, and any other order of the aggregates gives the same
vote. -/
theorem vote_stable_perm {fleet : Fleet} (sound : fleet.Sound) (desired : Nat) :
    (vote fleet (vote fleet desired).version).version = (vote fleet desired).version ∧
      ∀ other : Fleet, other.Perm fleet → vote other desired = vote fleet desired :=
  ⟨vote_again sound desired, fun _ h => vote_perm h desired⟩

/-- Five aggregates of which no version has half, in another order: nobody
speaks version 9, and the version that comes out instead is kept. -/
theorem vote_stable_split :
    let fleet : Fleet := [(1, []), (2, []), (3, [2]), (4, []), (5, [])].map
      fun (primary, others) => Speaker.of primary others
    (vote fleet 9).rule = .lastResort ∧
      (vote fleet (vote fleet 9).version).version = (vote fleet 9).version ∧
      vote fleet.reverse 9 = vote fleet 9 := by
  intro fleet
  obtain ⟨hagain, hperm⟩ := vote_stable_perm (Fleet.sound_map_of _ : fleet.Sound) 9
  exact ⟨by decide, hagain, hperm _ fleet.reverse_perm⟩

end Federation.Version
