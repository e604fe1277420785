/-
  Federation.Json.Overlay
  ───────────────────────
  **ONE VALUE OVER ANOTHER.**

  Laid over another value, an object adds its members, each of them laid
  over the member of that name; any other value takes the place of what is
  below it.

  Main result: `get?_overlayMembers_of_absent` — members that the upper
  object does not name shine through.
-/
import Federation.Json.Basic

namespace Federation.Json

/-! ## §1. Laying over. -/

mutual

/-- The value `below` with the other one over it. -/
def overlay (below : Json) : Json → Json
  | .object members => .object (overlayMembers (below.members?.getD []) members)
  | above => above

/-- The members with other members over them. -/
def overlayMembers (below : Keyed String Json) : List (String × Json) → Keyed String Json
  | [] => below
  | (name, above) :: rest =>
      overlayMembers (below.insert name (overlay ((below.get? name).getD .null) above)) rest

end

/-! ## §2. Laws. -/

/-- **What is not named above shines through.** -/
theorem get?_overlayMembers_of_absent {name : String} (above : List (String × Json)) :
    ∀ below : Keyed String Json, name ∉ above.map Prod.fst →
      (overlayMembers below above).get? name = below.get? name := by
  induction above with
  | nil => intro below _; simp [overlayMembers]
  | cons p rest ih =>
    obtain ⟨other, value⟩ := p
    intro below h
    simp only [List.map_cons, List.mem_cons, not_or] at h
    rw [overlayMembers, ih _ h.2]
    exact Keyed.get?_insert_ne below _ (Ne.symm h.1)

/-- A value other than an object hides what is below it. -/
theorem overlay_of_not_object {above : Json} (below : Json) (h : above.members? = none) :
    below.overlay above = above := by
  cases above <;> simp_all [overlay, members?]

end Federation.Json
