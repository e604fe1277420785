/-
  Federation.Proofs.Collect
  ─────────────────────────
  **OUTCOMES OF MANY, ONE BY ONE.**

  What is made of a list one by one is made of all of it, or it ends with the
  fault of the first member that it cannot be made of.

  Main results:
    * `foldlM_keeps` — what every step keeps;
    * `forall₂_of_mapM` — what was made, member by member;
    * `mapM_error` — the first fault is the one that counts;
    * `eq_map_ok_of_mapM_id` — outcomes that were all gathered;
    * `findSome?_reverse_iff` — of all that members of a list say, the last
      word is found first from behind;
    * `lastSays_flatMap` — the last word in a list of lists.
-/
import Mathlib.Data.List.Forall2

namespace Federation

/-! ## §1. Outcomes that may be faults. -/

/-- What is made in two steps is made by both. -/
theorem exists_of_bind_ok {α β ε : Type} {x : Except ε α} {f : α → Except ε β} {b : β}
    (h : (x >>= f) = .ok b) : ∃ a, x = .ok a ∧ f a = .ok b := by
  cases x with
  | error e => cases h
  | ok a => exact ⟨a, rfl, h⟩

/-- What ends with a fault ends with it in one of its two steps. -/
theorem error_of_bind {α β ε : Type} {x : Except ε α} {f : α → Except ε β} {e : ε}
    (h : (x >>= f) = .error e) : x = .error e ∨ ∃ a, x = .ok a ∧ f a = .error e := by
  cases x with
  | error e' => exact .inl (congrArg Except.error (Except.error.inj h))
  | ok a => exact .inr ⟨a, rfl, h⟩

/-- **What every step keeps is kept** by all of them. -/
theorem foldlM_keeps {α σ ε : Type} {f : σ → α → Except ε σ} {P : σ → Prop}
    (hstep : ∀ a x b, P a → f a x = .ok b → P b) {xs : List α} {a b : σ} (ha : P a)
    (h : xs.foldlM f a = .ok b) : P b := by
  induction xs generalizing a with
  | nil => exact Except.ok.inj h ▸ ha
  | cons x xs ih =>
      rw [List.foldlM_cons] at h
      obtain ⟨c, hc, h⟩ := exists_of_bind_ok h
      exact ih (hstep a x c ha hc) h

section

variable {α β ε : Type} {f : α → Except ε β}

/-- What is made of all, one by one. -/
theorem forall₂_of_mapM {xs : List α} {ys : List β} (h : xs.mapM f = .ok ys) :
    List.Forall₂ (fun x y => f x = .ok y) xs ys := by
  induction xs generalizing ys with
  | nil =>
      rw [List.mapM_nil] at h
      cases h
      exact .nil
  | cons x xs ih =>
      rw [List.mapM_cons] at h
      cases hx : f x with
      | error e => rw [hx] at h; cases h
      | ok y =>
          rw [hx] at h
          cases hxs : xs.mapM f with
          | error e => rw [hxs] at h; cases h
          | ok rest =>
              rw [hxs] at h
              cases h
              exact .cons hx (ih hxs)

theorem mapM_isOk {xs : List α} (h : ∀ x ∈ xs, ∃ y, f x = .ok y) : ∃ ys, xs.mapM f = .ok ys := by
  induction xs with
  | nil => exact ⟨[], rfl⟩
  | cons x xs ih =>
      obtain ⟨y, hy⟩ := h x List.mem_cons_self
      obtain ⟨ys, hys⟩ := ih fun z hz => h z (List.mem_cons_of_mem x hz)
      refine ⟨y :: ys, ?_⟩
      rw [List.mapM_cons, hy, hys]
      rfl

/-- It cannot be made for the first one that it cannot be made of. -/
theorem mapM_error {before : List α} {x : α} {e : ε} (hbefore : ∀ z ∈ before, ∃ y, f z = .ok y)
    (hx : f x = .error e) (after : List α) : (before ++ x :: after).mapM f = .error e := by
  induction before with
  | nil =>
      rw [List.nil_append, List.mapM_cons, hx]
      rfl
  | cons z before ih =>
      obtain ⟨y, hy⟩ := hbefore z List.mem_cons_self
      have hrest := ih fun u hu => hbefore u (List.mem_cons_of_mem z hu)
      rw [List.cons_append, List.mapM_cons, hy, hrest]
      rfl

/-- Outcomes that are there are gathered. -/
theorem mapM_id_map_ok (xs : List α) : (xs.map .ok).mapM id = (.ok xs : Except ε (List α)) := by
  induction xs with
  | nil => rfl
  | cons x xs ih =>
      rw [List.map_cons, List.mapM_cons, ih]
      rfl

/-- **Outcomes that were all gathered were all there.** -/
theorem eq_map_ok_of_mapM_id {outcomes : List (Except ε α)} {xs : List α}
    (h : outcomes.mapM id = .ok xs) : outcomes = xs.map .ok := by
  have hall := forall₂_of_mapM h
  clear h
  induction hall with
  | nil => rfl
  | cons hx _ ih =>
      rw [List.map_cons, ← ih]
      exact congrArg (· :: _) hx

/-- Where outcomes are not all there, the fault is that of one of them. -/
theorem error_mem_of_mapM_id {outcomes : List (Except ε α)} {e : ε}
    (h : outcomes.mapM id = .error e) : .error e ∈ outcomes := by
  induction outcomes with
  | nil => cases h
  | cons outcome outcomes ih =>
      rw [List.mapM_cons] at h
      rcases error_of_bind h with houtcome | ⟨x, -, hrest⟩
      · have hfirst : outcome = .error e := houtcome
        exact hfirst ▸ List.mem_cons_self
      · rcases error_of_bind hrest with hrest | ⟨xs, -, hdone⟩
        · exact List.mem_cons_of_mem _ (ih hrest)
        · cases hdone

end

/-! ## §2. Outcomes that may be missing. -/

section

variable {α β : Type} {f : α → Option β}

/-- What is there was made of some member. -/
theorem exists_of_mem_mapM {xs : List α} {ys : List β} (h : xs.mapM f = some ys) :
    ∀ y ∈ ys, ∃ x ∈ xs, f x = some y := by
  induction xs generalizing ys with
  | nil =>
      rw [List.mapM_nil] at h
      cases h
      exact fun y hy => nomatch hy
  | cons x xs ih =>
      rw [List.mapM_cons] at h
      cases hx : f x with
      | none => rw [hx] at h; cases h
      | some z =>
          rw [hx] at h
          cases hxs : xs.mapM f with
          | none => rw [hxs] at h; cases h
          | some rest =>
              rw [hxs] at h
              cases h
              intro y hy
              rcases List.mem_cons.1 hy with rfl | hy
              · exact ⟨x, List.mem_cons_self, hx⟩
              · obtain ⟨x', hx', hy'⟩ := ih hxs y hy
                exact ⟨x', List.mem_cons_of_mem x hx', hy'⟩

/-- **What is made of all is what there is of each.** -/
theorem eq_filterMap_of_mapM {xs : List α} {ys : List β} (h : xs.mapM f = some ys) :
    ys = xs.filterMap f ∧ ∀ x ∈ xs, (f x).isSome = true := by
  induction xs generalizing ys with
  | nil =>
      rw [List.mapM_nil] at h
      cases h
      exact ⟨rfl, fun _ hx => (List.not_mem_nil hx).elim⟩
  | cons x xs ih =>
      rw [List.mapM_cons] at h
      obtain ⟨y, hy, h⟩ := Option.bind_eq_some_iff.1 h
      obtain ⟨rest, hrest, h⟩ := Option.bind_eq_some_iff.1 h
      obtain rfl := Option.some.inj h
      obtain ⟨hrest, hall⟩ := ih hrest
      refine ⟨by rw [List.filterMap_cons_some hy, hrest], fun z hz => ?_⟩
      rcases List.mem_cons.1 hz with rfl | hz
      · rw [hy]
        rfl
      · exact hall z hz

/-- What each member is made of is made of all. -/
theorem mapM_map_some {g : β → α} {bs : List β} (h : ∀ b ∈ bs, f (g b) = some b) :
    (bs.map g).mapM f = some bs := by
  induction bs with
  | nil => rfl
  | cons b bs ih =>
      rw [List.map_cons, List.mapM_cons, h b List.mem_cons_self,
        ih fun x hx => h x (List.mem_cons_of_mem b hx)]
      rfl

end

/-! ## §3. The last word. -/

section

variable {α β : Type} {say : α → Option β} {xs : List α}

/-- **Whether this is the last word**: a member says so, and no later one says anything. -/
def LastSays (say : α → Option β) (xs : List α) (b : β) : Prop :=
  ∃ before x after, xs = before ++ x :: after ∧ say x = some b ∧ ∀ y ∈ after, say y = none

/-- **From behind, the last word is the first one.** -/
theorem findSome?_reverse_iff {b : β} :
    xs.reverse.findSome? say = some b ↔ LastSays say xs b := by
  rw [List.findSome?_eq_some_iff]
  constructor
  · rintro ⟨after, x, before, hxs, hx, hafter⟩
    refine ⟨before.reverse, x, after.reverse, ?_, hx, fun y hy => ?_⟩
    · rw [← List.reverse_reverse xs, hxs, List.reverse_append, List.reverse_cons,
        List.append_assoc, List.singleton_append]
    · exact hafter y (List.mem_reverse.1 hy)
  · rintro ⟨before, x, after, rfl, hx, hafter⟩
    refine ⟨after.reverse, x, before.reverse, ?_, hx, fun y hy => ?_⟩
    · rw [List.reverse_append, List.reverse_cons, List.append_assoc, List.singleton_append]
    · exact hafter y (List.mem_reverse.1 hy)

/-- Who comes last and says something has the last word. -/
theorem lastSays_concat {x : α} {b : β} (h : say x = some b) : LastSays say (xs ++ [x]) b :=
  ⟨xs, x, [], rfl, h, fun _ hy => nomatch hy⟩

/-- Who comes last and says nothing leaves the last word to the others. -/
theorem LastSays.silent {x : α} {b : β} (h : LastSays say xs b) (hx : say x = none) :
    LastSays say (xs ++ [x]) b := by
  obtain ⟨before, y, after, rfl, hy, hafter⟩ := h
  refine ⟨before, y, after ++ [x], by simp, hy, fun z hz => ?_⟩
  rcases List.mem_append.1 hz with hz | hz
  · exact hafter z hz
  · rw [List.mem_singleton.1 hz]
    exact hx

/-- Somebody has the last word, or nobody says anything. -/
theorem lastSays_or_silent (say : α → Option β) (xs : List α) :
    (∃ b, LastSays say xs b) ∨ ∀ x ∈ xs, say x = none := by
  cases h : xs.reverse.findSome? say with
  | some b => exact .inl ⟨b, findSome?_reverse_iff.1 h⟩
  | none => exact .inr fun x hx => List.findSome?_eq_none_iff.1 h x (List.mem_reverse.2 hx)

theorem findSome?_filterMap {γ : Type} {f : γ → Option α} (ys : List γ) :
    (ys.filterMap f).findSome? say = ys.findSome? fun y => (f y).bind say := by
  induction ys with
  | nil => rfl
  | cons y ys ih =>
      rw [List.findSome?_cons]
      cases hy : f y with
      | none => rw [List.filterMap_cons_none hy, ih, Option.bind_none]
      | some x => rw [List.filterMap_cons_some hy, List.findSome?_cons, ih, Option.bind_some]

/-- The last word among what there is of the members of a list. -/
theorem lastSays_filterMap {γ : Type} {f : γ → Option α} {ys : List γ} {b : β} :
    LastSays say (ys.filterMap f) b ↔ LastSays (fun y => (f y).bind say) ys b := by
  rw [← findSome?_reverse_iff, ← List.filterMap_reverse, findSome?_filterMap,
    findSome?_reverse_iff]

/-- **The last word in a list of lists** is the last word in the last list with any. -/
theorem lastSays_flatMap {γ : Type} {f : γ → List α} {ls : List γ} {b : β} :
    LastSays say (ls.flatMap f) b ↔
      ∃ before l after, ls = before ++ l :: after ∧ LastSays say (f l) b ∧
        ∀ m ∈ after, ∀ x ∈ f m, say x = none := by
  have hfrom : (ls.flatMap f).reverse.findSome? say
      = ls.reverse.findSome? fun l => (f l).reverse.findSome? say := by
    induction ls with
    | nil => rfl
    | cons l ls ih =>
        rw [List.flatMap_cons, List.reverse_append, List.findSome?_append, List.reverse_cons,
          List.findSome?_append, ih, List.findSome?_singleton]
  rw [← findSome?_reverse_iff, hfrom, findSome?_reverse_iff]
  refine exists_congr fun before => exists_congr fun l => exists_congr fun after => ?_
  rw [findSome?_reverse_iff]
  refine and_congr_right fun _ => and_congr_right fun _ => forall₂_congr fun m _ => ?_
  rw [List.findSome?_eq_none_iff]
  exact forall_congr' fun x => by rw [List.mem_reverse]

end

end Federation
