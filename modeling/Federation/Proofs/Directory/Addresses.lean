/-
  Federation.Proofs.Directory.Addresses
  ─────────────────────────────────────
  **THE ADDRESSES OF ENDPOINTS.**

  Whatever text an address was read from, line ends in it are ignored or
  encoded, so its canonical text is one line.  All endpoints that
  identifiers name have canonical addresses, wherever they were found.

  Main results:
    * `oneLine_canonical` — a canonical text is one line;
    * `canonical_of_resolved` — the addresses of the endpoints of a list.
-/
import Federation.Proofs.Directory.Resolution
import Federation.Proofs.Text.Lines
import Federation.Proofs.Url.Settled

namespace Federation

open Text (OneLine)

/-! ## §1. Canonical texts. -/

namespace Url

/-- An address that was read is written without line ends. -/
theorem text_no_newline {s : String} {u : Url} (h : read s = .ok u) : '\n' ∉ u.text := by
  intro hmem
  have hvisible : isVisible '\n' = false := by decide
  rw [(settled_of_read h).isVisible_text _ hmem] at hvisible
  cases hvisible

/-- **A canonical text is one line.** -/
theorem oneLine_canonical {s t : String} (h : canonical s = .ok t) : OneLine t := by
  obtain ⟨u, hread, rfl⟩ := exists_of_canonical h
  intro hmem
  rw [String.toList_ofList] at hmem
  exact text_no_newline hread ((dropSlashes_isPrefixOf u.text).subset hmem)

end Url

/-! ## §2. Endpoints. -/

namespace Directory

/-- **Whether an endpoint's address is canonical.** -/
def Addressed (e : Endpoint) : Prop := ∃ text, Url.canonical text = .ok e.url

theorem Addressed.oneLine {e : Endpoint} (h : Addressed e) : OneLine e.url :=
  let ⟨_, htext⟩ := h
  Url.oneLine_canonical htext

theorem Addressed.named {e : Endpoint} (h : Addressed e) (nickname : String) :
    Addressed (e.named nickname) := h

theorem addressed_endpointOf {urn url : String} {e : Endpoint} (h : endpointOf urn url = .ok e) :
    Addressed e := by
  unfold endpointOf at h
  cases hof : Endpoint.of urn url with
  | error fault =>
      rw [hof] at h
      cases h
  | ok made =>
      rw [hof] at h
      obtain rfl := Except.ok.inj h
      exact ⟨url, Endpoint.of_url hof⟩

theorem addressed_endpointNamed {name : String} {target : Target} {e : Endpoint}
    (h : endpointNamed name target = .ok e) : Addressed e := by
  unfold endpointNamed at h
  cases hof : endpointOf target.urn target.url with
  | error fault =>
      rw [hof] at h
      cases h
  | ok made =>
      rw [hof] at h
      obtain rfl := Except.ok.inj h
      exact (addressed_endpointOf hof).named name

theorem addressed_endpointAt {t : Nicknames} {urn url : String} {e : Endpoint}
    (h : endpointAt t urn url = .ok e) : Addressed e := by
  unfold endpointAt at h
  obtain ⟨found, hfound, h⟩ := exists_of_bind_ok h
  split at h
  · obtain rfl := Except.ok.inj h
    exact addressed_endpointOf hfound
  · obtain ⟨known, hknown, h⟩ := exists_of_bind_ok h
    obtain rfl := Except.ok.inj h
    exact (addressed_endpointOf hknown).named _

namespace Sources

/-- Whether all that a part of a resolution can find has a property. -/
def Finds {α : Type} (x : Lookup α) (P : α → Prop) : Prop :=
  ∀ c a, (x.run.run c).1 = .ok a → P a

section

variable {α β : Type} {P : β → Prop}

theorem finds_liftExcept {outcome : Except ResolutionFault β}
    (h : ∀ b, outcome = .ok b → P b) : Finds (resolveOne.liftExcept outcome) P := by
  intro c b hb
  cases outcome with
  | ok found => exact h b hb
  | error fault => cases hb

theorem finds_throw (fault : ResolutionFault) : Finds (throw fault : Lookup β) P := by
  intro c b hb
  cases hb

/-- Of two parts the second one finds it. -/
theorem finds_bind (x : Lookup α) {f : α → Lookup β} (h : ∀ a, Finds (f a) P) :
    Finds (x >>= f) P := by
  intro c b hb
  rw [run_bind] at hb
  generalize x.run.run c = y at hb
  obtain ⟨r, d⟩ := y
  cases r with
  | error fault => cases hb
  | ok a => exact h a d b hb

end

/-- **What one identifier names** has a canonical address. -/
theorem finds_resolveOne (s : Sources) (identifier : String) :
    Finds (s.resolveOne identifier) Addressed := by
  unfold resolveOne
  -- It is found by its URL, its nickname, its URN in the table, or its URN in the registry.
  split
  · exact finds_liftExcept fun e => addressed_endpointAt
  · split
    · exact finds_liftExcept fun e => addressed_endpointNamed
    · split
      · exact finds_throw _
      · split
        · exact finds_liftExcept fun e => addressed_endpointNamed
        · split
          · exact finds_throw _
          · refine finds_bind s.listing fun entries => ?_
            split
            · exact finds_liftExcept fun e => addressed_endpointAt
            · exact finds_throw _

/-- What an identifier or an entry names has a canonical address. -/
theorem addressed_of_answer {s : Sources} {identifiers : List String} {e : Endpoint}
    (h : .ok e ∈ s.answers identifiers) : Addressed e := by
  unfold answers at h
  split at h
  · split at h
    · obtain ⟨entry, -, hentry⟩ := List.mem_map.1 h
      exact addressed_endpointAt hentry
    · cases List.mem_singleton.1 h
  · obtain ⟨identifier, -, hnamed⟩ := List.mem_map.1 h
    exact finds_resolveOne s _ _ e hnamed

/-- **The endpoints of a list** have canonical addresses. -/
theorem canonical_of_resolved {s : Sources} {identifiers : List String} {es : List Endpoint}
    (h : (s.resolve identifiers).1 = .ok es) : ∀ e ∈ es, Addressed e := by
  obtain ⟨all, hanswers, -, rfl⟩ := resolve_ok h
  intro e he
  rw [← distinct_eq_firstOfEach] at he
  have hanswer : Except.ok e ∈ s.answers identifiers := by
    rw [hanswers]
    exact List.mem_map_of_mem ((distinct_sublist all).subset he)
  exact addressed_of_answer hanswer

end Sources

end Directory

end Federation
