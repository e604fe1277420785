/-
  Federation.Proofs.Version.Recall
  ────────────────────────────────
  **WHAT IS KNOWN IS NOT ASKED AGAIN.**

  What a probe of a URL yielded is recalled whenever the URL comes up again,
  be it as an aggregate's own URL, as one that is advertised for a version,
  or in the vote of a fleet.  So whatever is done one after another learns
  (`Learns`): it keeps what was known, and asks at most once, and only where
  nothing was known.  All that is decided can then be told by one assignment
  of outcomes to URLs (`Covers`).

  What a probe puts in front of the memo are its notes (`Noted`); several
  workers may put theirs there in any order, and as long as they are on
  different URLs, each finds its own again (`Notes`).

  Main results:
    * `teaches_mapM` — learning step by step;
    * `Notes.recalls` — whatever was noted is recalled;
    * `teaches_probeOnce`, `teaches_resolve` — probing and negotiating.
-/
import Federation.Proofs.Version.Modes

namespace Federation.Version

open Introspection (ProbeOutcome isAborted probeMethod probeRequest)

/-! ## §1. What stays known. -/

/-- What a probe yielded is known, unless it was called off. -/
def Recalls (s : Session) (url : String) (o : ProbeOutcome) : Prop :=
  isAborted o = true ∨ Keyed.get? s.memo url = some o

theorem eq_aborted {o : ProbeOutcome} (h : isAborted o = true) : o = .error .aborted := by
  unfold isAborted at h
  split at h
  · rfl
  · cases h

/-- What is known in one session is known alike in another. -/
def Keeps (s t : Session) : Prop :=
  ∀ url o, Keyed.get? s.memo url = some o → Keyed.get? t.memo url = some o

section

variable {s t u : Session}

theorem knows_of_get? {url : String} {o : ProbeOutcome} (h : Keyed.get? s.memo url = some o) :
    Knows s url := fun hnone => nomatch h.symm.trans hnone

theorem Keeps.knows (h : Keeps s t) {url : String} (k : Knows s url) : Knows t url := by
  obtain ⟨o, ho⟩ := Option.ne_none_iff_exists'.1 k
  exact knows_of_get? (h url o ho)

/-- Probes of what was unknown, and then probes of what was unknown still. -/
theorem Asked.append {asked more : List Request} (h : Asked s t asked) (k : Asked t u more)
    (hst : Keeps s t) (htu : Keeps t u) : Asked s u (asked ++ more) where
  probes := by
    intro r hr
    rcases List.mem_append.1 hr with hr | hr
    · exact h.probes r hr
    · exact k.probes r hr
  once := by
    rw [List.map_append]
    refine List.nodup_append.2 ⟨h.once, k.once, ?_⟩
    intro url hurl url' hurl' heq
    obtain ⟨r, hr, rfl⟩ := List.mem_map.1 hurl
    obtain ⟨r', hr', rfl⟩ := List.mem_map.1 hurl'
    -- What was asked first is known by the time of the rest.
    have hknown : Knows t r.url := (h.news r hr).2
    rw [heq] at hknown
    exact (k.news r' hr').1 hknown
  news := by
    intro r hr
    rcases List.mem_append.1 hr with hr | hr
    · obtain ⟨hbefore, hafter⟩ := h.news r hr
      exact ⟨hbefore, htu.knows hafter⟩
    · obtain ⟨hbefore, hafter⟩ := k.news r hr
      exact ⟨fun hs => hbefore (hst.knows hs), hafter⟩

end

/-- **What one session learns on the way to another.**  Beside the probes
there may be requests of another origin. -/
structure Learns (Planned : Request → Prop) (s t : Session) : Prop where
  kept : Keeps s t
  sent : ∃ sent asked calls, t.requests = s.requests ++ sent ∧ sent.Perm (asked ++ calls) ∧
    Asked s t asked ∧ ∀ r ∈ calls, Planned r

section

variable {Planned : Request → Prop} {s t u : Session}

theorem learns_asked {asked : List Request} (kept : Keeps s t)
    (sent : t.requests = s.requests ++ asked) (h : Asked s t asked) : Learns Planned s t :=
  ⟨kept, asked, asked, [], sent, by rw [List.append_nil], h, nofun⟩

/-- Requests of another origin tell nothing of the URLs. -/
theorem learns_of_planned {calls : List Request} (hmemo : t.memo = s.memo)
    (sent : t.requests = s.requests ++ calls) (planned : ∀ r ∈ calls, Planned r) :
    Learns Planned s t := by
  refine ⟨fun url o h => ?_, calls, [], calls, sent, List.Perm.refl _, asked_nil s t, planned⟩
  rw [hmemo]
  exact h

/-- Nothing is learnt where neither is touched. -/
theorem learns_of_quiet (hmemo : t.memo = s.memo) (hrequests : t.requests = s.requests) :
    Learns Planned s t := by
  have hsent : t.requests = s.requests ++ [] := by rw [hrequests, List.append_nil]
  exact learns_of_planned hmemo hsent nofun

theorem Learns.refl (s : Session) : Learns Planned s s := learns_of_quiet rfl rfl

/-- **What is learnt in two steps.** -/
theorem Learns.trans (h : Learns Planned s t) (k : Learns Planned t u) : Learns Planned s u := by
  obtain ⟨sent, asked, calls, hsent, hperm, hasked, hcalls⟩ := h.sent
  obtain ⟨sent', asked', calls', hsent', hperm', hasked', hcalls'⟩ := k.sent
  refine ⟨fun url o ho => k.kept url o (h.kept url o ho), sent ++ sent', asked ++ asked',
    calls ++ calls', ?_, ?_, hasked.append hasked' h.kept k.kept, ?_⟩
  · rw [hsent', hsent, List.append_assoc]
  · -- What was asked is told apart from the calls, in either step.
    have hboth : (sent ++ sent').Perm ((asked ++ calls) ++ (asked' ++ calls')) :=
      hperm.append hperm'
    have hswap : (calls ++ asked').Perm (asked' ++ calls) := List.perm_append_comm
    have hmiddle : ((asked ++ calls) ++ (asked' ++ calls')).Perm
        ((asked ++ asked') ++ (calls ++ calls')) := by
      have := (hswap.append_left asked).append_right calls'
      simpa only [List.append_assoc] using this
    exact hboth.trans hmiddle
  · intro r hr
    rcases List.mem_append.1 hr with hr | hr
    · exact hcalls r hr
    · exact hcalls' r hr

theorem Recalls.later {url : String} {o : ProbeOutcome} (h : Recalls s url o)
    (hst : Learns Planned s t) : Recalls t url o := h.imp_right (hst.kept url o)

end

/-- An assignment of outcomes to URLs that agrees with all that is known. -/
def Covers (P : Soundings) (s : Session) : Prop :=
  ∀ url o, Keyed.get? s.memo url = some o → P url = o

theorem covers_heardIn (s : Session) : Covers (heardIn s) s := by
  intro url o h
  unfold heardIn
  rw [h]
  rfl

theorem Covers.earlier {P : Soundings} {s t : Session} (h : Covers P t) (hst : Keeps s t) :
    Covers P s := fun url o ho => h url o (hst url o ho)

theorem Covers.recalled {P : Soundings} {s : Session} (h : Covers P s) {url : String}
    {o : ProbeOutcome} (ho : Recalls s url o) : isAborted o = true ∨ o = P url :=
  ho.imp_right fun hfound => (h url o hfound).symm

/-! ## §2. Actions that learn. -/

/-- **An action learns, and its goal holds in the end.** -/
def Teaches {α : Type} (Planned : Request → Prop) (action : Action α) (s : Session)
    (goal : Session → α → Prop) : Prop :=
  Learns Planned s (action s).2 ∧ goal (action s).2 (action s).1

section

variable {α β : Type} {Planned : Request → Prop} {s : Session} {goal : Session → α → Prop}
  {goal' : Session → β → Prop}

/-- Errands one after another, with nobody between them. -/
theorem Teaches.bind {e : Errand Session α} {f : α → Errand Session β}
    (h : Teaches Planned e.alone s goal)
    (hf : ∀ t a, goal t a → Teaches Planned (f a).alone t goal') :
    Teaches Planned (e.bind f).alone s goal' := by
  obtain ⟨hlearns, hgoal⟩ := h
  obtain ⟨hrest, hgoal'⟩ := hf _ _ hgoal
  unfold Teaches
  rw [Errand.alone_bind]
  exact ⟨hlearns.trans hrest, hgoal'⟩

theorem Teaches.done {a : α} (h : goal s a) :
    Teaches Planned (Errand.done a).alone s goal := ⟨.refl s, h⟩

theorem Teaches.imp {action : Action α} {goal'' : Session → α → Prop}
    (h : Teaches Planned action s goal)
    (hg : ∀ t a, Learns Planned s t → goal t a → goal'' t a) :
    Teaches Planned action s goal'' := ⟨h.1, hg _ _ h.1 h.2⟩

/-- **Actions for all items, one after another.** -/
theorem teaches_mapM {action : α → Action β} {goal : α → Session → β → Prop} {items : List α}
    (later : ∀ a ∈ items, ∀ t u b, Learns Planned t u → goal a t b → goal a u b)
    (h : ∀ a ∈ items, ∀ t, Teaches Planned (action a) t (goal a)) :
    Teaches Planned (items.mapM action) s fun t results =>
      List.Forall₂ (fun a b => goal a t b) items results := by
  induction items generalizing s with
  | nil => exact ⟨.refl s, .nil⟩
  | cons a items ih =>
      obtain ⟨hfirst, hgoal⟩ := h a List.mem_cons_self s
      obtain ⟨hrest, hgoals⟩ := ih (s := (action a s).2)
        (fun b hb => later b (List.mem_cons_of_mem a hb))
        (fun b hb => h b (List.mem_cons_of_mem a hb))
      unfold Teaches
      rw [mapM_cons_run]
      exact ⟨hfirst.trans hrest, .cons (later a List.mem_cons_self _ _ _ hrest hgoal) hgoals⟩

end

/-! ## §3. The notes of a probe. -/

/-- What matters to the notes of a probe: the memo grows at its front, and
what is put there is the log. -/
def memoConduct : Conduct Session (String × ProbeOutcome) where
  log s := s.memo.reverse
  allows s t := s.memo <:+ t.memo
  refl _ := List.suffix_rfl
  trans := List.IsSuffix.trans

/-- What probing once notes down. -/
inductive Noted (s : Session) (url : String) (t : Session) :
    List (String × ProbeOutcome) → ProbeOutcome → Prop
  | calledOff {o : ProbeOutcome} (aborted : isAborted o = true) : Noted s url t [] o
  /-- Somebody had noted it by some time since. -/
  | known {memo : List (String × ProbeOutcome)} {o : ProbeOutcome} (since : s.memo <:+ memo)
      (before : memo <:+ t.memo) (found : Keyed.get? memo url = some o) : Noted s url t [] o
  | fresh {o : ProbeOutcome} (unknown : ¬Knows s url) : Noted s url t [(url, o)] o

theorem Noted.sublist {s t : Session} {url : String} {own : List (String × ProbeOutcome)}
    {o : ProbeOutcome} (h : Noted s url t own o) : (own.map Prod.fst).Sublist [url] := by
  cases h with
  | fresh => exact List.Sublist.refl _
  | _ => exact List.nil_sublist _

theorem Noted.unknown {s t : Session} {url : String} {own : List (String × ProbeOutcome)}
    {o : ProbeOutcome} (h : Noted s url t own o) : ∀ note ∈ own, ¬Knows s note.1 := by
  cases h with
  | fresh unknown =>
      intro note hnote
      obtain rfl := List.mem_singleton.1 hnote
      exact unknown
  | _ => nofun

theorem meets_probeOnce_noted (w : World) (t : Terms) (e : Endpoint) {s u : Session}
    (hsu : s.memo <:+ u.memo) :
    (probeOnce w t e).Meets memoConduct u (Noted s e.url) := by
  simp only [probeOnce, Errand.bind_eq, Errand.liftM_eq]
  refine Errand.meets_look fun v hv => ?_
  have hsv : s.memo <:+ v.memo := hsu.trans hv
  cases hknown : Keyed.get? v.memo e.url with
  | some o =>
      -- The memo it was found in is a part of every later one.
      exact fun x hx => .known hsv hx hknown
  | none =>
      have hunknown : ¬Knows s e.url := by
        intro hs
        rw [knows_iff] at hs
        exact Keyed.get?_eq_none_iff.1 hknown ((hsv.map Prod.fst).subset hs)
      have hquiet : ∀ x y : Session, y.memo = x.memo →
          memoConduct.allows x y ∧ memoConduct.log y = memoConduct.log x := by
        intro x y h
        have hsuffix : x.memo <:+ y.memo := h ▸ List.suffix_rfl
        exact ⟨hsuffix, congrArg List.reverse h⟩
      -- The probe itself leaves the memo alone.
      have hprobe := (Introspection.leaves_probe w t.probing t.forceRefresh e).meets hquiet v
      refine hprobe.bind fun x own o _ hown => ?_
      subst hown
      by_cases ho : isAborted o = true
      · simp only [ho]
        exact fun y _ => .calledOff ho
      · have hkeep : (!isAborted o) = true := by simp [ho]
        simp only [hkeep, if_true]
        refine Errand.meets_act fun y _ => ?_
        refine ⟨List.suffix_cons _ _, [(e.url, o)], ?_, fun z _ => .fresh hunknown⟩
        show ((e.url, o) :: y.memo).reverse = _
        rw [List.reverse_cons]
        rfl

/-- Notes on URLs that nothing was known of before, one for each. -/
structure Notes (s t : Session) (notes : List (String × ProbeOutcome)) : Prop where
  memo : t.memo = notes ++ s.memo
  once : (Keyed.keys notes).Nodup
  unknown : ∀ note ∈ notes, ¬Knows s note.1

section

variable {s t : Session} {notes : List (String × ProbeOutcome)}

/-- What was put in front of the memo, read from the front. -/
theorem notes_of_log (log : memoConduct.log t = memoConduct.log s ++ notes)
    (once : (notes.map Prod.fst).Nodup) (unknown : ∀ note ∈ notes, ¬Knows s note.1) :
    Notes s t notes.reverse where
  memo := by
    have hlog : t.memo.reverse = s.memo.reverse ++ notes := log
    rw [← List.reverse_reverse t.memo, hlog, List.reverse_append, List.reverse_reverse]
  once := by
    show (notes.reverse.map Prod.fst).Nodup
    rw [List.map_reverse, List.nodup_reverse]
    exact once
  unknown := fun note hnote => unknown note (List.mem_reverse.1 hnote)

theorem Notes.get? (h : Notes s t notes) (url : String) :
    Keyed.get? t.memo url = (Keyed.get? notes url).or (Keyed.get? s.memo url) := by
  rw [h.memo, Keyed.get?_append]

theorem Notes.found (h : Notes s t notes) {url : String} {o : ProbeOutcome}
    (hmem : (url, o) ∈ notes) : Keyed.get? t.memo url = some o := by
  rw [h.get?, Keyed.get?_of_mem h.once hmem]
  rfl

theorem Notes.keeps (h : Notes s t notes) : Keeps s t := by
  intro url o hfound
  have hknown : Knows s url := knows_of_get? hfound
  have hnote : Keyed.get? notes url = none := by
    rw [Keyed.get?_eq_none_iff]
    intro hmem
    obtain ⟨note, hnote, rfl⟩ := List.mem_map.1 hmem
    exact h.unknown note hnote hknown
  rw [h.get?, hnote, Option.none_or]
  exact hfound

/-- **Whatever was noted is recalled in the end.** -/
theorem Notes.recalls (h : Notes s t notes) {url : String} {o : ProbeOutcome}
    {own : List (String × ProbeOutcome)} (hnoted : Noted s url t own o)
    (hown : ∀ note ∈ own, note ∈ notes) : Recalls t url o := by
  cases hnoted with
  | calledOff aborted => exact .inl aborted
  | fresh => exact .inr (h.found (hown _ List.mem_cons_self))
  | known since before found =>
      obtain ⟨own, rfl⟩ := since
      obtain ⟨others, hmemo⟩ := before
      -- What was noted by then is a part of all notes.
      have hnotes : others ++ own = notes := by
        have hall : (others ++ own) ++ s.memo = notes ++ s.memo := by
          rw [List.append_assoc, hmemo, h.memo]
        exact List.append_cancel_right hall
      right
      rw [Keyed.get?_append] at found
      cases hearlier : Keyed.get? own url with
      | none =>
          rw [hearlier, Option.none_or] at found
          exact h.keeps url o found
      | some o' =>
          rw [hearlier, Option.some_or] at found
          obtain rfl := Option.some.inj found
          refine h.found ?_
          rw [← hnotes]
          exact List.mem_append_right others (Keyed.mem_of_get? hearlier)

end

/-! ## §4. Probing and negotiating. -/

section

variable (Planned : Request → Prop) (w : World) (t : Terms)

/-- **Probing once learns**, and what it yields is recalled. -/
theorem teaches_probeOnce (e : Endpoint) (s : Session) :
    Teaches Planned (probeOnce w t e).alone s fun u o => Recalls u e.url o := by
  obtain ⟨-, own, hlog, hgoal⟩ :=
    (meets_probeOnce_noted w t e (s := s) List.suffix_rfl).alone
  have noted := hgoal _ List.suffix_rfl
  have honce : (own.map Prod.fst).Nodup := noted.sublist.nodup (List.nodup_singleton _)
  have notes := notes_of_log hlog honce noted.unknown
  obtain ⟨-, asked, hsent, hprobed⟩ := (meets_probeOnce_fully w t e s).alone
  have probed := hprobed _ (Session.Becomes.refl _)
  exact ⟨learns_asked notes.keeps hsent probed.asked,
    notes.recalls noted fun note hnote => List.mem_reverse.2 hnote⟩

/-- The soundings of a negotiation are recalled at the URLs that count for
it. -/
def Recounted (s : Session) (desired : Nat) (e : Endpoint) (P : Soundings) : Prop :=
  Recalls s e.url (P e.url) ∧
    ∀ url, detour? e desired (P e.url) = some url → Recalls s url (P url)

theorem teaches_sound (desired : Nat) (e : Endpoint) (s : Session) :
    Teaches Planned (sound w t desired e).alone s fun u P => Recounted u desired e P := by
  unfold sound
  refine (teaches_probeOnce Planned w t e s).bind fun u own hown => ?_
  cases hdetour : detour? e desired own with
  | none =>
      refine Teaches.done ⟨hown, fun url hurl => ?_⟩
      cases hdetour.symm.trans hurl
  | some url =>
      have hthere : Teaches Planned (probeOnce w t (e.moved url desired)).alone u
          fun v o => Recalls v e.url own ∧ Recalls v url o :=
        (teaches_probeOnce Planned w t (e.moved url desired) u).imp fun v o hlearns ho =>
          ⟨hown.later hlearns, ho⟩
      refine hthere.bind fun v there hboth => Teaches.done ?_
      unfold Recounted
      rw [sounded_home]
      refine ⟨hboth.1, fun url' hurl' => ?_⟩
      obtain rfl := Option.some.inj (hdetour.symm.trans hurl')
      rw [sounded_of_ne _ _ (detour?_ne hdetour)]
      exact hboth.2

/-- **What is judged is judged by what is known**, unless it was called
off. -/
theorem judge_recounted {s : Session} {mode : Mode} {desired : Nat} {e : Endpoint}
    {P Q : Soundings} (recounted : Recounted s desired e Q) (covers : Covers P s) :
    judge mode desired e Q = .skip .aborted ∨
      judge mode desired e Q = judge mode desired e P := by
  obtain ⟨own, there⟩ := recounted
  -- Either look may have been called off, and then so is the judgement.
  rcases covers.recalled own with haborted | hown
  · left
    have hfault : Q e.url = .error .aborted := eq_aborted haborted
    simp [judge, hfault, withoutProbe]
  · by_cases hcalled : ∃ url, detour? e desired (Q e.url) = some url ∧ isAborted (Q url) = true
    · obtain ⟨url, hurl, haborted⟩ := hcalled
      left
      cases hp : Q e.url with
      | error fault =>
          rw [hp] at hurl
          cases hurl
      | ok p =>
          by_cases speaks : speaksAtOwnUrl e desired p = true
          · simp [hp, detour?, speaks] at hurl
          · rw [hp, detour?_of_silent speaks] at hurl
            rw [judge_of_some hp speaks mode hurl, eq_aborted haborted]
            rfl
    · right
      refine judge_congr hown fun url hurl => ?_
      refine (covers.recalled (there url hurl)).resolve_left fun haborted => ?_
      exact hcalled ⟨url, hurl, haborted⟩

/-- **Negotiation learns**, and what it settles on follows from what is
known. -/
theorem teaches_resolve (desired : Nat) (e : Endpoint) (s : Session) :
    Teaches Planned (resolve w t desired e).alone s fun u r =>
      ∀ P, Covers P u → r = .skip .aborted ∨ r = judge t.mode desired e P := by
  rw [resolve_eq_judge]
  refine (teaches_sound Planned w t desired e s).bind fun u Q recounted => Teaches.done ?_
  intro P covers
  exact judge_recounted recounted covers

end

end Federation.Version
