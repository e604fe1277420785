/-
  Federation.Proofs.Keyed
  ───────────────────────
  **TABLES OF PAIRS.**

  A table that is made of pairs holds what the last pair with a key says, and
  a table is told by what is found in it.

  Main results:
    * `get?_ofPairs` — what is found in a table of pairs;
    * `ext_of_ascending` — tables in which the same is found;
    * `find?_eq_some_iff_of_ascending` — the first entry that fits;
    * `ofPairs_of_ascending` — a table is the table of its pairs;
    * `get?_ofPairs_filterMap`, `get?_ofPairs_flatMap` — in a table of what
      members of a list say, the last word counts.
-/
import Federation.Keyed
import Federation.Proofs.Collect

namespace Federation.Keyed

universe u v

variable {κ : Type u} {β : Type v} [DecidableEq κ] [KeyOrder κ]

theorem get?_insertAll (t : Keyed κ β) (more : List (κ × β)) (k : κ) :
    (insertAll t more).get? k = (get? more.reverse k).or (t.get? k) := by
  induction more generalizing t with
  | nil => rfl
  | cons p more ih =>
      have hstep : insertAll t (p :: more) = insertAll (t.insert p.1 p.2) more := rfl
      rw [hstep, ih, get?_insert, List.reverse_cons, get?_append, Option.or_assoc]
      congr 1
      rw [get?_cons]
      split <;> rfl

/-- A key was brought in or was there before. -/
theorem mem_keys_insertAll {t : Keyed κ β} {more : List (κ × β)} {k : κ}
    (h : k ∈ keys (insertAll t more)) : k ∈ keys more ∨ k ∈ keys t := by
  refine Decidable.byContradiction fun hnot => ?_
  obtain ⟨hmore, ht⟩ := not_or.1 hnot
  have hreverse : k ∉ keys more.reverse := by
    unfold keys at hmore ⊢
    rwa [List.map_reverse, List.mem_reverse]
  have hnone := get?_insertAll t more k
  rw [get?_eq_none_iff.2 hreverse, get?_eq_none_iff.2 ht, Option.none_or] at hnone
  exact get?_eq_none_iff.1 hnone h

/-- **What is found in a table of pairs**: of two pairs with one key the
later counts. -/
theorem get?_ofPairs (pairs : List (κ × β)) (k : κ) :
    (ofPairs pairs).get? k = get? pairs.reverse k := by
  have h := get?_insertAll ([] : Keyed κ β) pairs k
  rwa [get?_nil, Option.or_none] at h

/-- The keys of a table are those of the pairs. -/
theorem mem_keys_ofPairs {pairs : List (κ × β)} {k : κ} :
    k ∈ keys (ofPairs pairs) ↔ k ∈ pairs.map Prod.fst := by
  have h := get?_ofPairs pairs k
  rw [← Decidable.not_iff_not, ← get?_eq_none_iff, h, get?_eq_none_iff]
  unfold keys
  rw [List.map_reverse, List.mem_reverse]

/-- Where no key occurs twice, every pair is found. -/
theorem get?_ofPairs_of_mem {pairs : List (κ × β)} (h : (pairs.map Prod.fst).Nodup) {k : κ}
    {v : β} (hmem : (k, v) ∈ pairs) : (ofPairs pairs).get? k = some v := by
  rw [get?_ofPairs]
  refine get?_of_mem ?_ (List.mem_reverse.2 hmem)
  unfold keys
  rw [List.map_reverse]
  exact (List.reverse_perm _).nodup_iff.2 h

omit [DecidableEq κ] in
theorem nodup_keys {t : Keyed κ β} (h : t.Ascending) : t.keys.Nodup := by
  unfold keys List.Nodup
  rw [List.pairwise_map]
  refine h.imp fun {a b} hbefore heq => ?_
  rw [heq, KeyOrder.irrefl] at hbefore
  cases hbefore

/-- Where no key occurs twice, each has its place in the table. -/
theorem keys_ofPairs_perm {pairs : List (κ × β)} (h : (pairs.map Prod.fst).Nodup) :
    (keys (ofPairs pairs)).Perm (pairs.map Prod.fst) :=
  (List.perm_ext_iff_of_nodup (nodup_keys (ascending_ofPairs pairs)) h).2 fun _ =>
    mem_keys_ofPairs

/-- The key of the first entry comes before all others. -/
theorem Ascending.get?_tail {p : κ × β} {t : Keyed κ β} (h : Ascending (p :: t)) {k : κ}
    (hk : k = p.1 ∨ KeyOrder.before k p.1 = true) : get? t k = none := by
  rw [get?_eq_none_iff]
  intro hmem
  obtain ⟨q, hq, rfl⟩ := List.mem_map.1 hmem
  have hbefore := (List.pairwise_cons.1 h).1 q hq
  have hloop : KeyOrder.before q.1 q.1 = true := by
    rcases hk with hk | hk
    · rwa [← hk] at hbefore
    · exact KeyOrder.trans hk hbefore
  rw [KeyOrder.irrefl] at hloop
  cases hloop

omit [DecidableEq κ] in
/-- **The first entry that fits** has the first of the keys under which one fits. -/
theorem find?_eq_some_iff_of_ascending {t : Keyed κ β} (h : t.Ascending) {fits : κ × β → Bool}
    {p : κ × β} : List.find? fits t = some p ↔
      p ∈ t ∧ fits p = true ∧ ∀ q ∈ t, fits q = true → q = p ∨ KeyOrder.before p.1 q.1 = true := by
  have hfirst {p : κ × β} (hp : List.find? fits t = some p) :
      ∀ q ∈ t, fits q = true → q = p ∨ KeyOrder.before p.1 q.1 = true := by
    obtain ⟨-, before, after, rfl, hbefore⟩ := List.find?_eq_some_iff_append.1 hp
    intro q hq hfits
    rcases List.mem_append.1 hq with hq | hq
    · have hnot := hbefore q hq
      rw [hfits] at hnot
      cases hnot
    · have hafter := (List.pairwise_append.1 h).2.1
      rcases List.mem_cons.1 hq with rfl | hq
      · exact .inl rfl
      · exact .inr ((List.pairwise_cons.1 hafter).1 q hq)
  refine ⟨fun hp => ⟨List.mem_of_find?_eq_some hp, List.find?_some hp, hfirst hp⟩, ?_⟩
  rintro ⟨hmem, hfits, hleast⟩
  cases hfound : List.find? fits t with
  | none => exact absurd hfits (List.find?_eq_none.1 hfound p hmem)
  | some q =>
      rcases hleast q (List.mem_of_find?_eq_some hfound) (List.find?_some hfound) with rfl | hpq
      · rfl
      · rcases hfirst hfound p hmem hfits with rfl | hqp
        · rfl
        · -- Each of the two would come before the other.
          have hloop := KeyOrder.trans hpq hqp
          rw [KeyOrder.irrefl] at hloop
          cases hloop

/-- **Tables in which the same is found are the same.** -/
theorem ext_of_ascending {t u : Keyed κ β} (ht : t.Ascending) (hu : u.Ascending)
    (h : ∀ k, t.get? k = u.get? k) : t = u := by
  induction t generalizing u with
  | nil =>
      cases u with
      | nil => rfl
      | cons q u =>
          have := h q.1
          simp [get?] at this
  | cons p t ih =>
      cases u with
      | nil =>
          have := h p.1
          simp [get?] at this
      | cons q u =>
          obtain ⟨a, x⟩ := p
          obtain ⟨b, y⟩ := q
          -- The first keys agree: neither may come before the other.
          have hab : a = b := by
            refine Decidable.byContradiction fun hne => ?_
            rcases KeyOrder.total hne with hbefore | hbefore
            · have := h a
              rw [get?_cons, if_pos rfl, get?_cons, if_neg (Ne.symm hne),
                hu.get?_tail (.inr hbefore)] at this
              cases this
            · have := h b
              rw [get?_cons, if_neg hne, ht.get?_tail (.inr hbefore), get?_cons,
                if_pos rfl] at this
              cases this
          subst hab
          have hxy : x = y := by
            have := h a
            rwa [get?_cons, if_pos rfl, get?_cons, if_pos rfl, Option.some.injEq] at this
          subst hxy
          have hrest : t = u := by
            refine ih (List.pairwise_cons.1 ht).2 (List.pairwise_cons.1 hu).2 fun k => ?_
            have := h k
            rw [get?_cons, get?_cons] at this
            by_cases hk : a = k
            · rw [ht.get?_tail (.inl hk.symm), hu.get?_tail (.inl hk.symm)]
            · rwa [if_neg hk, if_neg hk] at this
          rw [hrest]

/-- A table that is in order is the table of its own pairs. -/
theorem ofPairs_of_ascending {t : Keyed κ β} (h : t.Ascending) : ofPairs t = t := by
  refine ext_of_ascending (ascending_ofPairs t) h fun k => ?_
  have hnodup : (keys t.reverse).Nodup := by
    unfold keys
    rw [List.map_reverse]
    exact (List.reverse_perm _).nodup_iff.2 (nodup_keys h)
  rw [get?_ofPairs]
  cases hk : get? t k with
  | none =>
      rw [get?_eq_none_iff] at hk ⊢
      unfold keys at hk ⊢
      rwa [List.map_reverse, List.mem_reverse]
  | some v => exact get?_of_mem hnodup (List.mem_reverse.2 (mem_of_get? hk))

/-- What is in a table of pairs is one of the pairs. -/
theorem mem_of_mem_ofPairs {pairs : List (κ × β)} {p : κ × β} (h : p ∈ ofPairs pairs) :
    p ∈ pairs := by
  have hget := get?_of_mem (nodup_keys (ascending_ofPairs pairs)) h
  rw [get?_ofPairs] at hget
  exact List.mem_reverse.1 (mem_of_get? hget)

section

variable {α : Type} {κ : Type} {β : Type} [DecidableEq κ]

/-- The value of a pair that has the key. -/
def valueAt? (k : κ) (p : κ × β) : Option β := if p.1 = k then some p.2 else none

theorem valueAt?_eq_some_iff {k : κ} {p : κ × β} {v : β} :
    valueAt? k p = some v ↔ p = (k, v) := by
  obtain ⟨j, w⟩ := p
  unfold valueAt?
  by_cases h : j = k
  · simp [h]
  · simp [h]

theorem get?_eq_findSome? (t : Keyed κ β) (k : κ) : t.get? k = t.findSome? (valueAt? k) := by
  induction t with
  | nil => rfl
  | cons p t ih =>
      obtain ⟨j, w⟩ := p
      rw [get?_cons, List.findSome?_cons, ih]
      unfold valueAt?
      by_cases h : j = k
      · rw [if_pos h, if_pos h]
      · rw [if_neg h, if_neg h]

/-- **In a table of what members of a list say, the last word counts.** -/
theorem get?_ofPairs_filterMap [KeyOrder κ] (f : α → Option (κ × β)) (xs : List α) (k : κ)
    (v : β) : (ofPairs (xs.filterMap f)).get? k = some v ↔
      LastSays (fun x => (f x).bind (valueAt? k)) xs v := by
  rw [get?_ofPairs, get?_eq_findSome?, findSome?_reverse_iff, lastSays_filterMap]

/-- **In a table of what members of a list say under keys of their own**, each one's word is
found at its key. -/
theorem get?_ofPairs_own [KeyOrder κ] {key : α → κ} {say : α → Option β} {xs : List α}
    (own : ∀ x ∈ xs, ∀ y ∈ xs, key x = key y → x = y) {x : α} (hx : x ∈ xs) :
    (ofPairs (xs.filterMap fun y => (say y).map (key y, ·))).get? (key x) = say x := by
  have hspoken : ∀ y v, ((say y).map (key y, ·)).bind (valueAt? (key x)) = some v ↔
      key y = key x ∧ say y = some v := by
    intro y v
    cases say y with
    | none => simp
    | some u =>
        rw [Option.map_some, Option.bind_some, valueAt?_eq_some_iff, Prod.mk.injEq,
          Option.some.injEq]
  have hfound : ∀ v, (ofPairs (xs.filterMap fun y => (say y).map (key y, ·))).get? (key x)
      = some v → say x = some v := by
    intro v h
    rw [get?_ofPairs_filterMap] at h
    obtain ⟨before, y, after, hxs, hy, -⟩ := h
    obtain ⟨hkey, hsay⟩ := (hspoken y v).1 hy
    have hmem : y ∈ xs := hxs ▸ List.mem_append_right before List.mem_cons_self
    rwa [own y hmem x hx hkey] at hsay
  cases hsay : say x with
  | none =>
      refine Option.eq_none_iff_forall_ne_some.2 fun v h => ?_
      cases hsay.symm.trans (hfound v h)
  | some v =>
      have hword := (hspoken x v).2 ⟨rfl, hsay⟩
      rcases lastSays_or_silent (fun y => ((say y).map (key y, ·)).bind (valueAt? (key x))) xs with
        ⟨u, hu⟩ | hsilent
      · have hget := (get?_ofPairs_filterMap _ xs (key x) u).2 hu
        obtain rfl := Option.some.inj (hsay.symm.trans (hfound u hget))
        exact hget
      · cases hword.symm.trans (hsilent x hx)

/-- A table has one value at a key, from whichever end it is looked for. -/
theorem get?_reverse_of_ascending [KeyOrder κ] {t : Keyed κ β} (h : t.Ascending) (k : κ) :
    get? t.reverse k = t.get? k := by
  rw [← get?_ofPairs, ofPairs_of_ascending h]

/-- **In a table of the tables of many, the last one with the key counts.** -/
theorem get?_ofPairs_flatMap [KeyOrder κ] {f : α → Keyed κ β} {xs : List α}
    (h : ∀ x ∈ xs, (f x).Ascending) (k : κ) (v : β) :
    (ofPairs (xs.flatMap f)).get? k = some v ↔ LastSays (fun x => (f x).get? k) xs v := by
  have hfrom : get? (xs.flatMap f).reverse k = xs.reverse.findSome? fun x => (f x).get? k := by
    induction xs with
    | nil => rfl
    | cons x xs ih =>
        rw [List.flatMap_cons, List.reverse_append, get?_append, List.reverse_cons,
          List.findSome?_append, ih fun y hy => h y (List.mem_cons_of_mem x hy),
          get?_reverse_of_ascending (h x List.mem_cons_self), List.findSome?_singleton]
  rw [get?_ofPairs, hfrom, findSome?_reverse_iff]

end

end Federation.Keyed
