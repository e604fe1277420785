/-
  Federation.Proofs.Json.Members
  ──────────────────────────────
  **THE MEMBERS OF A TEXT.**

  An object keeps of several members with one name the last one only.  The
  text lists all of them, in its own order; and a text is read as an object
  exactly where it lists members, of which the object is the table.  A text
  of blanks alone lists none, not even none at all.

  Main results:
    * `parse?_eq_object_iff` — which texts are read as objects;
    * `listed?_pretty` — the text of an object;
    * `listed?_of_blank` — blanks are no object;
    * `get?_listed_congr` — a member is told by those of its own name.
-/
import Federation.Json.Reader
import Federation.Proofs.Json.Roundtrip
import Federation.Proofs.Keyed
import Federation.Text.Blank

namespace Federation.Json

namespace Reader

/-! ## §1. Objects. -/

section

variable {fuel depth : Nat} {cs rest : List Char}

/-- Where an object is, there is a brace. -/
theorem brace_of_object {ms : List (String × Json)}
    (h : value? (fuel + 1) (depth + 1) cs = some (.object ms, rest)) :
    ∃ rest, skipSpace cs = '\x7b' :: rest := by
  rw [value?] at h
  -- By what the text begins with.
  split at h
  · cases h
  · obtain ⟨s, -, heq⟩ := Option.map_eq_some_iff.1 h
    cases heq
  · dsimp only at h
    split at h
    · cases h
    · obtain ⟨xs, -, heq⟩ := Option.map_eq_some_iff.1 h
      cases heq
  · rename_i rest hrest
    exact ⟨rest, hrest⟩
  · split at h
    · cases word?_value h
    · split at h
      · cases word?_value h
      · split at h
        · cases word?_value h
        · obtain ⟨n, -, heq⟩ := Option.map_eq_some_iff.1 h
          cases heq

/-- **An object is read where its members are.** -/
theorem value?_eq_object_iff {ms : List (String × Json)} :
    value? (fuel + 1) (depth + 1) cs = some (.object ms, rest) ↔
      ∃ ps, members? fuel depth cs = some (ps, rest) ∧ ms = Keyed.ofPairs ps := by
  constructor
  · intro h
    obtain ⟨opened, hopened⟩ := brace_of_object h
    rw [value?_of_brace hopened] at h
    obtain ⟨⟨ps, more⟩, hps, heq⟩ := Option.map_eq_some_iff.1 h
    cases heq
    exact ⟨ps, (members?_of_brace hopened).trans hps, rfl⟩
  · rintro ⟨ps, h, rfl⟩
    obtain ⟨opened, hopened⟩ := brace_of_members h
    rw [members?_of_brace hopened] at h
    rw [value?_of_brace hopened, h]
    rfl

end

end Reader

/-! ## §2. Texts. -/

/-- **The members of the one object that a text is**, each as often as it is there. -/
def listed? (s : String) : Option (List (String × Json)) := do
  let cs := s.toList
  let (ps, rest) ← Reader.members? cs.length (Reader.maxDepth - 1) cs
  if (Reader.skipSpace rest).isEmpty then some ps else none

/-- **Which texts are read as objects.** -/
theorem parse?_eq_object_iff {s : String} {ms : List (String × Json)} :
    parse? s = some (.object ms) ↔ ∃ ps, listed? s = some ps ∧ ms = Keyed.ofPairs ps := by
  have hdepth : Reader.maxDepth = Reader.maxDepth - 1 + 1 := rfl
  constructor
  · intro h
    obtain ⟨⟨v, rest⟩, hv, h⟩ := Option.bind_eq_some_iff.1 h
    dsimp only at h
    split at h
    · rename_i hend
      obtain rfl := Option.some.inj h
      rw [hdepth] at hv
      obtain ⟨ps, hps, hms⟩ := Reader.value?_eq_object_iff.1 hv
      refine ⟨ps, Option.bind_eq_some_iff.2 ⟨(ps, rest), hps, if_pos hend⟩, hms⟩
    · cases h
  · rintro ⟨ps, h, rfl⟩
    obtain ⟨⟨qs, rest⟩, hqs, h⟩ := Option.bind_eq_some_iff.1 h
    dsimp only at h
    split at h
    · rename_i hend
      obtain rfl := Option.some.inj h
      refine Option.bind_eq_some_iff.2 ⟨(.object (Keyed.ofPairs qs), rest), ?_, if_pos hend⟩
      rw [hdepth]
      exact Reader.value?_eq_object_iff.2 ⟨qs, hqs, rfl⟩
    · cases h

/-- **The text of an object lists its members**, each sorted, in their order and as often as they
are there. -/
theorem listed?_pretty {ps : List (String × Json)} (within : Within Reader.maxDepth (.object ps))
    (lasting : (Json.object ps).Lasting) :
    listed? (Json.object ps).pretty = some (sortedMembers ps) := by
  have hdepth : Reader.maxDepth = Reader.maxDepth - 1 + 1 := rfl
  rw [hdepth] at within
  cases within with | object inner =>
  cases lasting with | object lasting =>
  have hread := Reader.members?_pretty
    (fun m hm => Reader.readsBack (inner m hm) (lasting m hm) 1) _ [] (Nat.le_refl _)
  rw [List.append_nil] at hread
  exact Option.bind_eq_some_iff.2 ⟨(sortedMembers ps, []), hread, rfl⟩

/-- **Blanks are no object.** -/
theorem listed?_of_blank {s : String} (h : Text.isBlankText s = true) : listed? s = none := by
  cases hlisted : listed? s with
  | none => rfl
  | some ps =>
      obtain ⟨⟨qs, rest⟩, hqs, -⟩ := Option.bind_eq_some_iff.1 hlisted
      obtain ⟨opened, hopened⟩ := Reader.brace_of_members hqs
      have hbrace : '\x7b' ∈ s.toList := by
        refine (List.dropWhile_sublist Reader.isSpace).subset ?_
        show '\x7b' ∈ Reader.skipSpace s.toList
        rw [hopened]
        exact List.mem_cons_self
      have hblank := List.all_eq_true.1 h _ hbrace
      exact absurd hblank (by decide)

/-- **A member is told by those of its own name**: whatever is done to the others, the last one of
the name stays what it is. -/
theorem get?_listed_congr {ps qs : List (String × Json)} {changed name : String}
    (h : Keyed.erase ps changed = Keyed.erase qs changed) (hne : name ≠ changed) :
    Keyed.get? ps.reverse name = Keyed.get? qs.reverse name := by
  have hreverse (xs : List (String × Json)) :
      Keyed.get? xs.reverse name = Keyed.get? (Keyed.erase xs changed).reverse name := by
    rw [← Keyed.get?_erase_ne xs.reverse (Ne.symm hne)]
    unfold Keyed.erase
    rw [List.filter_reverse]
  rw [hreverse ps, hreverse qs, h]

end Federation.Json
