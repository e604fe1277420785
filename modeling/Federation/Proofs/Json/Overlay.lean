/-
  Federation.Proofs.Json.Overlay
  ──────────────────────────────
  **VALUES ON TOP OF EACH OTHER.**

  Of several values that are laid one over the other, the top one is what
  remains, unless it is an object.  An object lets members shine through that
  it does not name, so each member of what remains that is no object itself
  is that of the topmost value that has it.

  Main results:
    * `get?_overlayMembers` — what is found in members over other members;
    * `laid_of_last` — a top value that is no object is what remains;
    * `lastSays_member_of_laid` — where the members of what remains are from.
-/
import Mathlib.Data.List.Induction
import Federation.Json.Overlay
import Federation.Proofs.Keyed

namespace Federation.Json

/-! ## §1. One value over another. -/

/-- **What is found in members over other members.** -/
theorem get?_overlayMembers {above : List (String × Json)} (h : (Keyed.keys above).Nodup)
    (below : Keyed String Json) (name : String) :
    (overlayMembers below above).get? name =
      match Keyed.get? above name with
      | none => below.get? name
      | some j => some (overlay ((below.get? name).getD .null) j) := by
  induction above generalizing below with
  | nil => rw [overlayMembers, Keyed.get?_nil]
  | cons m rest ih =>
      obtain ⟨other, j⟩ := m
      obtain ⟨hfirst, hrest⟩ := List.nodup_cons.1 h
      rw [overlayMembers, ih hrest, Keyed.get?_cons]
      by_cases hname : other = name
      · subst hname
        rw [Keyed.get?_eq_none_iff.2 hfirst, if_pos rfl]
        exact Keyed.get?_insert_self below other _
      · rw [if_neg hname, Keyed.get?_insert_ne _ _ hname]

theorem ascending_overlayMembers (above : List (String × Json)) {below : Keyed String Json}
    (h : below.Ascending) : (overlayMembers below above).Ascending := by
  induction above generalizing below with
  | nil => rwa [overlayMembers]
  | cons m rest ih =>
      rw [overlayMembers]
      exact ih (Keyed.ascending_insert h _ _)

theorem members?_overlay (below above : Json) :
    (overlay below above).members?
      = above.members?.map (overlayMembers (below.members?.getD [])) := by
  cases above <;> rfl

theorem member?_eq_get? (j : Json) (name : String) :
    j.member? name = Keyed.get? (j.members?.getD []) name := by
  unfold member?
  cases j.members? <;> rfl

/-- The members of a value under an object shine through where it has none of the name. -/
theorem member?_overlay {above : Json} {ms : Keyed String Json} (hms : above.members? = some ms)
    (h : ms.keys.Nodup) (below : Json) (name : String) :
    (overlay below above).member? name =
      match above.member? name with
      | none => below.member? name
      | some j => some (overlay ((below.member? name).getD .null) j) := by
  have hover : (overlay below above).members? =
      some (overlayMembers (below.members?.getD []) ms) := by
    rw [members?_overlay, hms, Option.map_some]
  rw [member?_eq_get?, hover, Option.getD_some, get?_overlayMembers h, member?_eq_get? above, hms,
    member?_eq_get? below]
  rfl

/-- What remains is no object only if the upper value is none, and then it is the upper value. -/
theorem overlay_of_leaf {below above : Json} (h : (overlay below above).members? = none) :
    above.members? = none ∧ overlay below above = above := by
  rw [members?_overlay, Option.map_eq_none_iff] at h
  exact ⟨h, overlay_of_not_object below h⟩

/-! ## §2. Several values. -/

/-- **What remains of values that are laid one over the other**, the last one on top. -/
def laid (values : List Json) : Option Json :=
  values.foldl (fun below above => some (overlay (below.getD .null) above)) none

theorem laid_concat (values : List Json) (top : Json) :
    laid (values ++ [top]) = some (overlay ((laid values).getD .null) top) := by
  unfold laid
  rw [List.foldl_append]
  rfl

/-- **A top value that is no object is what remains.** -/
theorem laid_of_last {values : List Json} {top : Json} (h : LastSays some values top)
    (hleaf : top.members? = none) : laid values = some top := by
  obtain ⟨before, x, after, rfl, hx, hafter⟩ := h
  obtain rfl := Option.some.inj hx
  cases after with
  | nil => rw [laid_concat, overlay_of_not_object _ hleaf]
  | cons y after => cases hafter y List.mem_cons_self

/-- An object on top is laid over what is below it. -/
theorem laid_object_of_last {values : List Json} {top : Json} (h : LastSays some values top)
    {ms : Keyed String Json} (hms : top.members? = some ms) :
    ∃ ns, laid values = some (.object ns) := by
  obtain ⟨before, x, after, rfl, hx, hafter⟩ := h
  obtain rfl := Option.some.inj hx
  cases after with
  | nil =>
      rw [laid_concat]
      cases x with
      | object members => exact ⟨_, rfl⟩
      | _ => cases hms
  | cons y after => cases hafter y List.mem_cons_self

/-- **Where the members of what remains are from**: the topmost value that has them. -/
theorem lastSays_member_of_laid {values : List Json} {j t : Json} {name : String}
    (distinct : ∀ v ∈ values, ∀ ms, v.members? = some ms → (Keyed.keys ms).Nodup)
    (h : laid values = some j) (hmember : j.member? name = some t) (hleaf : t.members? = none) :
    LastSays (·.member? name) values t := by
  induction values using List.reverseRecOn generalizing j with
  | nil => cases h
  | append_singleton values top ih =>
      rw [laid_concat] at h
      obtain rfl := Option.some.inj h
      cases hms : top.members? with
      | none =>
          -- What is no object has no members.
          rw [overlay_of_not_object _ hms, member?_eq_get?, hms] at hmember
          cases hmember
      | some ms =>
          have hnodup := distinct top (List.mem_append_right values List.mem_cons_self) ms hms
          rw [member?_overlay hms hnodup] at hmember
          cases hown : top.member? name with
          | some own =>
              rw [hown] at hmember
              obtain rfl := Option.some.inj hmember
              rw [(overlay_of_leaf hleaf).2]
              exact lastSays_concat hown
          | none =>
              rw [hown] at hmember
              cases hlaid : laid values with
              | none =>
                  rw [hlaid] at hmember
                  cases hmember
              | some below =>
                  rw [hlaid] at hmember
                  have hrest :=
                    ih (fun v hv => distinct v (List.mem_append_left _ hv)) hlaid hmember
                  exact hrest.silent hown

end Federation.Json
