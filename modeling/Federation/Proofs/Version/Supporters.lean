/-
  Federation.Proofs.Version.Supporters
  ────────────────────────────────────
  **WHAT SUPPORTERS ADD TO A VOTE.**

  An aggregate that joins a fleet and speaks the desired version alone adds
  one to its count and one to the size of the fleet, and nothing to the count
  of any other version.  Half of the larger fleet is then harder to reach for
  every other version, and no harder for the desired one.  Which of the nine
  rules settles the vote may well change, but a vote is told by these counts
  alone (`vote_keeps_iff`), and so a version that is kept stays kept.

  Main results:
    * `vote_keeps_iff` — when the desired version is kept, by the counts;
    * `Fleet.Joined.counts` — what those who join add to the counts;
    * `vote_keeps_joined` — supporters never cost the desired version its
      place.
-/
import Federation.Proofs.Version.Vote

namespace Federation.Version

/-! ## §1. Aggregates that speak one version only. -/

/-- An aggregate that speaks one version, at its own URL, and no other. -/
structure Speaker.SpeaksOnly (s : Speaker) (v : Nat) : Prop where
  primary : s.primary = v
  supported : ∀ w, w ∈ s.supported ↔ w = v

/-- Such an aggregate names no other version beside its primary one. -/
theorem Speaker.speaksOnly_of_iff {primary v : Nat} {others : List Nat} :
    (Speaker.of primary others).SpeaksOnly v ↔ primary = v ∧ ∀ w ∈ others, w = v := by
  have mem : ∀ w, w ∈ (Speaker.of primary others).supported ↔ w = primary ∨ w ∈ others := by
    intro w
    simp [Speaker.of, Introspection.mem_versionSet]
  constructor
  · intro h
    exact ⟨h.primary, fun w hw => (h.supported w).1 ((mem w).2 (.inr hw))⟩
  · rintro ⟨rfl, hothers⟩
    refine ⟨rfl, fun w => ?_⟩
    rw [mem]
    exact ⟨fun hw => hw.elim id (hothers w), .inl⟩

/-! ## §2. Fleets that supporters join. -/

/-- **A fleet and the fleet after some aggregates have joined it**, each in
whatever place, that speak one version only. -/
inductive Fleet.Joined (v : Nat) : Fleet → Fleet → Prop
  | nobody : Fleet.Joined v [] []
  /-- The next one was in the fleet before. -/
  | stays (s : Speaker) {fleet larger : Fleet} (rest : Fleet.Joined v fleet larger) :
      Fleet.Joined v (s :: fleet) (s :: larger)
  /-- The next one has joined. -/
  | joins {s : Speaker} {fleet larger : Fleet} (only : s.SpeaksOnly v)
      (rest : Fleet.Joined v fleet larger) : Fleet.Joined v fleet (s :: larger)

section

variable {v : Nat} {fleet larger : Fleet}

/-- Those who join count their primary version as supported. -/
theorem Fleet.Joined.sound (h : fleet.Joined v larger) (sound : fleet.Sound) :
    larger.Sound := by
  induction h with
  | nobody => exact sound
  | @stays s fleet larger _ ih =>
      have hrest : larger.Sound := ih fun t ht => sound t (List.mem_cons_of_mem s ht)
      intro t ht
      rcases List.mem_cons.1 ht with rfl | ht
      · exact sound t List.mem_cons_self
      · exact hrest t ht
  | joins only _ ih =>
      intro t ht
      rcases List.mem_cons.1 ht with rfl | ht
      · exact (only.supported _).2 only.primary
      · exact ih sound t ht

/-- **What those who join add to the counts.** -/
theorem Fleet.Joined.counts (h : fleet.Joined v larger) :
    ∃ joined, larger.length = fleet.length + joined ∧
      anywhere larger v = anywhere fleet v + joined ∧
      ∀ w, w ≠ v → anywhere larger w = anywhere fleet w := by
  unfold anywhere
  induction h with
  | nobody => exact ⟨0, rfl, rfl, fun _ _ => rfl⟩
  | stays s _ ih =>
      obtain ⟨joined, hlength, hself, hother⟩ := ih
      refine ⟨joined, ?_, ?_, fun w hw => ?_⟩
      · rw [List.length_cons, List.length_cons, hlength]
        omega
      · rw [List.countP_cons, List.countP_cons, hself]
        omega
      · rw [List.countP_cons, List.countP_cons, hother w hw]
  | @joins s _ _ only _ ih =>
      obtain ⟨joined, hlength, hself, hother⟩ := ih
      refine ⟨joined + 1, ?_, ?_, fun w hw => ?_⟩
      · rw [List.length_cons, hlength]
        rfl
      · have speaks : s.supported.contains v = true :=
          List.contains_iff_mem.2 ((only.supported v).2 rfl)
        rw [List.countP_cons, if_pos speaks, hself]
        omega
      · -- Whoever joins does not speak the other version.
        have silent : ¬s.supported.contains w = true := fun hspeaks =>
          hw ((only.supported w).1 (List.contains_iff_mem.1 hspeaks))
        rw [List.countP_cons, if_neg silent, hother w hw]
        omega

end

/-! ## §3. Keeping the desired version. -/

section

variable {fleet : Fleet} {desired : Nat}

/-- **When the desired version is kept**: half of the fleet speaks it, or no
version has half and somebody speaks it. -/
theorem vote_keeps_iff (sound : fleet.Sound) :
    (vote fleet desired).version = desired ↔
      fleet.length ≤ 2 * anywhere fleet desired ∨
        ((∀ w, 2 * anywhere fleet w < fleet.length) ∧ 0 < anywhere fleet desired) := by
  constructor
  · intro kept
    by_cases hnone : fleet = []
    · subst hnone
      exact .inl (Nat.zero_le _)
    have backed := vote_backed sound hnone desired
    generalize (vote fleet desired).version = v at kept backed
    subst kept
    cases backed with
    | kept half => exact .inl half
    | adopted _ half => exact .inl half
    | spared split spoken => exact .inr ⟨split, spoken⟩
    | lastResort split _ spoken => exact .inr ⟨split, spoken⟩
  · rintro (half | ⟨split, spoken⟩)
    · exact vote_of_hasHalf half
    · exact vote_of_split sound split spoken

end

/-- **Supporters never cost the desired version its place.**  Where a fleet
keeps the desired version, it is kept as well once any number of aggregates
have joined, in whatever places, that speak the desired version only. -/
theorem vote_keeps_joined {fleet larger : Fleet} {desired : Nat} (sound : fleet.Sound)
    (kept : (vote fleet desired).version = desired) (joined : fleet.Joined desired larger) :
    (vote larger desired).version = desired := by
  obtain ⟨n, hlength, hself, hother⟩ := joined.counts
  rw [vote_keeps_iff (joined.sound sound)]
  rcases (vote_keeps_iff sound).1 kept with half | ⟨split, spoken⟩
  · left
    omega
  -- No version had half.  With its supporters the desired one may have it
  -- now; the others are further from it than before.
  by_cases half : larger.length ≤ 2 * anywhere larger desired
  · exact .inl half
  · refine .inr ⟨fun w => ?_, by omega⟩
    by_cases hw : w = desired
    · rw [hw]
      omega
    · have hsplit : 2 * anywhere fleet w < fleet.length := split w
      rw [hother w hw]
      omega

/-- Version 5 is spared by a fleet that is split over five versions, and kept
by a majority once three others have joined that speak nothing else. -/
theorem vote_keeps_joined_five :
    let fleet : Fleet := [(1, []), (2, []), (3, [1]), (4, []), (5, [])].map
      fun (primary, others) => Speaker.of primary others
    let larger : Fleet :=
      [(5, []), (1, []), (2, []), (5, [5]), (3, [1]), (4, []), (5, []), (5, [])].map
        fun (primary, others) => Speaker.of primary others
    (vote fleet 5).rule = .desiredStillSupported ∧ (vote larger 5).rule = .desiredMajority ∧
      (vote larger 5).version = 5 := by
  intro fleet larger
  have sound : fleet.Sound := Fleet.sound_map_of _
  have only : (Speaker.of 5 []).SpeaksOnly 5 := Speaker.speaksOnly_of_iff.2 ⟨rfl, by simp⟩
  have only' : (Speaker.of 5 [5]).SpeaksOnly 5 := Speaker.speaksOnly_of_iff.2 ⟨rfl, by simp⟩
  have joined : fleet.Joined 5 larger :=
    .joins only <| .stays _ <| .stays _ <| .joins only' <| .stays _ <| .stays _ <| .stays _ <|
      .joins only .nobody
  exact ⟨by decide, by decide, vote_keeps_joined sound (by decide) joined⟩

end Federation.Version
