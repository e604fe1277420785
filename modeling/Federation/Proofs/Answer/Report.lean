/-
  Federation.Proofs.Answer.Report
  ───────────────────────────────
  **WHAT A REPORT TELLS.**

  A report on slots with different URLs loses nothing: the outcome of each
  slot is found at its URL, and there are no other URLs.

  Main result: `tells_of_slots` — a report on different slots is complete.
-/
import Federation.Answer.Report
import Federation.Proofs.Keyed
import Mathlib.Data.List.Basic

namespace Federation.Answer

namespace Report

/-! ## §1. Complete reports. -/

/-- **A report that tells of each slot**: one outcome for each, in order, and
found at its URL. -/
structure Tells (r : Report) (slots : List Endpoint) : Prop where
  slots_eq : r.outcomes.map (·.visit.slot) = slots
  inOrder : r.inOrder = r.outcomes
  keys : r.byUrl.keys.Perm (slots.map (·.url))
  found : ∀ o ∈ r.outcomes, r.byUrl.get? o.visit.slot.url = some o

/-- The outcomes with their keys. -/
theorem keys_of_slots {r : Report} {slots : List Endpoint}
    (h : r.outcomes.map (·.visit.slot) = slots) :
    (r.outcomes.map fun o => (o.visit.slot.url, o)).map Prod.fst = slots.map (·.url) := by
  rw [← h, List.map_map, List.map_map]
  rfl

/-- **A report on different slots is complete.** -/
theorem tells_of_slots {r : Report} {slots : List Endpoint}
    (h : r.outcomes.map (·.visit.slot) = slots)
    (different : slots.Pairwise fun a b => a.url ≠ b.url) : r.Tells slots := by
  have hkeys := keys_of_slots h
  have hnodup : ((r.outcomes.map fun o => (o.visit.slot.url, o)).map Prod.fst).Nodup := by
    rw [hkeys]
    unfold List.Nodup
    rw [List.pairwise_map]
    exact different
  have found : ∀ o ∈ r.outcomes, r.byUrl.get? o.visit.slot.url = some o := fun o ho =>
    Keyed.get?_ofPairs_of_mem hnodup (List.mem_map_of_mem ho)
  refine ⟨h, ?_, hkeys ▸ Keyed.keys_ofPairs_perm hnodup, found⟩
  unfold inOrder
  rw [List.filterMap_congr found, List.filterMap_some]

end Report

end Federation.Answer
