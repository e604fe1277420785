/-
  Federation.Keyed
  ────────────────
  **TABLES IN KEY ORDER.**

  A table is a list of key–value pairs with strictly ascending keys: the
  nicknames, the cache of capability records, the options of a call and the
  members of a JSON object are all read back in key order, so the order is
  part of the value.  `insert` replaces, `erase` removes.

  Texts are ordered by their first different character, which is the order
  of their UTF-8 bytes; a text comes before those that continue it.

  Main results:
    * `get?_insert_self`, `get?_insert_ne` — a write is seen at its key and
      nowhere else;
    * `get?_erase_ne` — a removal touches its key only;
    * `ascending_insert`, `ascending_insertAll`, `ascending_ofPairs` — tables
      are in order.
-/

namespace Federation

universe u v

/-! ## §0. Orders of keys. -/

/-- A strict linear order of keys that can be computed. -/
class KeyOrder (κ : Type u) where
  /-- Whether one key comes before another. -/
  before : κ → κ → Bool
  irrefl : ∀ a, before a a = false
  trans : ∀ {a b c}, before a b = true → before b c = true → before a c = true
  total : ∀ {a b}, a ≠ b → before a b = true ∨ before b a = true

/-- Numbers by size. -/
instance : KeyOrder Nat where
  before := Nat.blt
  irrefl a := by simp [Nat.blt_eq, ← Bool.not_eq_true]
  trans h k := by simp only [Nat.blt_eq] at *; omega
  total h := by simp only [Nat.blt_eq]; omega

/-- Whether characters come before other characters. -/
def charsBefore : List Char → List Char → Bool
  | _, [] => false
  | [], _ :: _ => true
  | a :: as, b :: bs =>
      if a = b then charsBefore as bs else Nat.blt a.toNat b.toNat

theorem charsBefore_irrefl (as : List Char) : charsBefore as as = false := by
  induction as with
  | nil => rfl
  | cons a as ih => simp [charsBefore, ih]

theorem charsBefore_trans {as bs cs : List Char} (h : charsBefore as bs = true)
    (k : charsBefore bs cs = true) : charsBefore as cs = true := by
  induction as generalizing bs cs with
  | nil =>
    cases cs with
    | nil => cases bs <;> simp [charsBefore] at k
    | cons c cs => rfl
  | cons a as ih =>
    cases bs with
    | nil => simp [charsBefore] at h
    | cons b bs =>
      cases cs with
      | nil => simp [charsBefore] at k
      | cons c cs =>
        by_cases hab : a = b
        · subst hab
          by_cases hac : a = c
          · subst hac
            simp only [charsBefore, if_true] at h k ⊢
            exact ih h k
          · simp only [charsBefore, hac, if_false] at k ⊢
            exact k
        · by_cases hbc : b = c
          · subst hbc
            simp only [charsBefore, hab, if_false] at h ⊢
            exact h
          · simp only [charsBefore, hab, hbc, if_false, Nat.blt_eq] at h k
            have hac : a ≠ c := by
              intro hac
              subst hac
              omega
            simp only [charsBefore, hac, if_false, Nat.blt_eq]
            omega

theorem charsBefore_total {as bs : List Char} (h : as ≠ bs) :
    charsBefore as bs = true ∨ charsBefore bs as = true := by
  induction as generalizing bs with
  | nil =>
    cases bs with
    | nil => exact absurd rfl h
    | cons b bs => exact .inl rfl
  | cons a as ih =>
    cases bs with
    | nil => exact .inr rfl
    | cons b bs =>
      by_cases hab : a = b
      · subst hab
        have hne : as ≠ bs := fun he => h (he ▸ rfl)
        simpa [charsBefore] using ih hne
      · have hba : ¬b = a := fun e => hab e.symm
        have hn : a.toNat ≠ b.toNat := fun he => hab (Char.toNat_inj.1 he)
        simp only [charsBefore, hab, hba, if_false, Nat.blt_eq]
        omega

/-- Texts by their characters. -/
instance : KeyOrder String where
  before a b := charsBefore a.toList b.toList
  irrefl a := charsBefore_irrefl a.toList
  trans h k := charsBefore_trans h k
  total h := charsBefore_total fun he => h (String.toList_inj.1 he)

/-- Key–value pairs, ascending in the key when built by `insert`. -/
abbrev Keyed (κ : Type u) (β : Type v) := List (κ × β)

namespace Keyed

variable {κ : Type u} {β : Type v} [DecidableEq κ]

/-! ## §1. Operations. -/

/-- The value at a key. -/
def get? (t : Keyed κ β) (k : κ) : Option β :=
  match t with
  | [] => none
  | (k', v) :: rest => if k' = k then some v else get? rest k

/-- Whether the key is there. -/
def hasKey (t : Keyed κ β) (k : κ) : Bool := (t.get? k).isSome

/-- Put a value at a key, in place of any value there. -/
def insert [KeyOrder κ] (t : Keyed κ β) (k : κ) (v : β) : Keyed κ β :=
  match t with
  | [] => [(k, v)]
  | (k', v') :: rest =>
      if k' = k then (k, v) :: rest
      else if KeyOrder.before k k' then (k, v) :: (k', v') :: rest
      else (k', v') :: insert rest k v

/-- Remove a key. -/
def erase (t : Keyed κ β) (k : κ) : Keyed κ β := t.filter fun p => p.1 ≠ k

/-- The table of a list of pairs; of two pairs with one key the later wins. -/
def ofPairs [KeyOrder κ] (pairs : List (κ × β)) : Keyed κ β :=
  pairs.foldl (fun t p => insert t p.1 p.2) []

/-- Put every pair of `more` into the table. -/
def insertAll [KeyOrder κ] (t : Keyed κ β) (more : List (κ × β)) : Keyed κ β :=
  more.foldl (fun t p => insert t p.1 p.2) t

/-- The keys in order. -/
def keys (t : Keyed κ β) : List κ := t.map Prod.fst

/-- Strictly ascending keys. -/
def Ascending [KeyOrder κ] (t : Keyed κ β) : Prop := t.Pairwise fun a b => KeyOrder.before a.1 b.1 = true

/-! ## §2. A write is seen at its key and nowhere else. -/

@[simp] theorem get?_nil (k : κ) : get? ([] : Keyed κ β) k = none := rfl

theorem get?_cons (k' : κ) (v : β) (rest : Keyed κ β) (k : κ) :
    get? ((k', v) :: rest) k = if k' = k then some v else get? rest k := rfl

/-- What is found is there. -/
theorem mem_of_get? {t : Keyed κ β} {k : κ} {v : β} (h : t.get? k = some v) : (k, v) ∈ t := by
  induction t with
  | nil => cases h
  | cons p rest ih =>
    obtain ⟨k', v'⟩ := p
    rw [get?_cons] at h
    by_cases hk : k' = k
    · simp only [hk, if_true, Option.some.injEq] at h
      rw [hk, h]
      exact List.mem_cons_self
    · simp only [hk, if_false] at h
      exact List.mem_cons_of_mem _ (ih h)

/-- What is there is found, where no key is there twice. -/
theorem get?_of_mem {t : Keyed κ β} (h : t.keys.Nodup) {k : κ} {v : β} (hmem : (k, v) ∈ t) :
    t.get? k = some v := by
  induction t with
  | nil => cases hmem
  | cons p rest ih =>
    obtain ⟨k', v'⟩ := p
    obtain ⟨hfirst, hrest⟩ := List.nodup_cons.1 h
    rw [get?_cons]
    rcases List.mem_cons.1 hmem with heq | hmem
    · cases heq
      exact if_pos rfl
    · have hne : k' ≠ k := by
        intro heq
        exact hfirst (heq ▸ List.mem_map.2 ⟨(k, v), hmem, rfl⟩)
      rw [if_neg hne]
      exact ih hrest hmem

/-- Nothing is found where the key is not there. -/
theorem get?_eq_none_iff {t : Keyed κ β} {k : κ} : t.get? k = none ↔ k ∉ t.keys := by
  induction t with
  | nil => simp [keys]
  | cons p rest ih =>
    obtain ⟨k', v'⟩ := p
    rw [get?_cons]
    by_cases hk : k' = k
    · simp [keys, hk]
    · rw [if_neg hk, ih]
      simp [keys, Ne.symm hk]

/-- What is put in front is found first. -/
theorem get?_append (t rest : Keyed κ β) (k : κ) :
    get? (t ++ rest) k = (t.get? k).or (rest.get? k) := by
  induction t with
  | nil => rfl
  | cons p t ih =>
    obtain ⟨k', v'⟩ := p
    rw [List.cons_append, get?_cons, get?_cons]
    by_cases hk : k' = k
    · rw [if_pos hk, if_pos hk, Option.some_or]
    · rw [if_neg hk, if_neg hk, ih]

theorem get?_insert_self [KeyOrder κ] (t : Keyed κ β) (k : κ) (v : β) :
    (t.insert k v).get? k = some v := by
  induction t with
  | nil => simp [insert, get?]
  | cons p rest ih =>
    obtain ⟨k', v'⟩ := p
    by_cases h : k' = k
    · simp [insert, h, get?]
    · by_cases hlt : KeyOrder.before k k' = true
      · simp [insert, h, hlt, get?]
      · simp [insert, h, hlt, get?_cons, ih]

theorem get?_insert_ne [KeyOrder κ] (t : Keyed κ β) {k j : κ} (v : β)
    (h : k ≠ j) : (t.insert k v).get? j = t.get? j := by
  induction t with
  | nil => simp [insert, get?, h]
  | cons p rest ih =>
    obtain ⟨k', v'⟩ := p
    by_cases hk : k' = k
    · subst hk
      simp [insert, get?_cons, h]
    · by_cases hlt : KeyOrder.before k k' = true
      · simp [insert, hk, hlt, get?_cons, h]
      · simp [insert, hk, hlt, get?_cons, ih]

/-- What is found after a write. -/
theorem get?_insert [KeyOrder κ] (t : Keyed κ β) (k j : κ) (v : β) :
    (t.insert k v).get? j = if k = j then some v else t.get? j := by
  by_cases h : k = j
  · subst h
    simp [get?_insert_self]
  · simp [get?_insert_ne t v h, h]

theorem get?_erase_self (t : Keyed κ β) (k : κ) : (t.erase k).get? k = none := by
  induction t with
  | nil => rfl
  | cons p rest ih =>
    obtain ⟨k', v'⟩ := p
    by_cases h : k' = k
    · simpa [erase, h] using ih
    · simpa [erase, h, get?_cons] using ih

theorem get?_erase_ne (t : Keyed κ β) {k j : κ} (h : k ≠ j) :
    (t.erase k).get? j = t.get? j := by
  induction t with
  | nil => rfl
  | cons p rest ih =>
    obtain ⟨k', v'⟩ := p
    by_cases hk : k' = k
    · subst hk
      simpa [erase, get?_cons, h] using ih
    · by_cases hj : k' = j
      · subst hj
        simp [erase, hk, get?_cons]
      · simpa [erase, hk, hj, get?_cons] using ih

/-! ## §3. Order. -/

/-- A write brings in no key but its own. -/
theorem key_of_mem_insert [KeyOrder κ] {t : Keyed κ β} {k : κ} {v : β} {p : κ × β}
    (h : p ∈ t.insert k v) : p.1 = k ∨ p ∈ t := by
  induction t with
  | nil =>
    simp only [insert, List.mem_singleton] at h
    exact .inl (h ▸ rfl)
  | cons q rest ih =>
    obtain ⟨k', v'⟩ := q
    simp only [insert] at h
    split at h
    · rcases List.mem_cons.1 h with rfl | h
      · exact .inl rfl
      · exact .inr (List.mem_cons_of_mem _ h)
    · split at h
      · rcases List.mem_cons.1 h with rfl | h
        · exact .inl rfl
        · exact .inr h
      · rcases List.mem_cons.1 h with rfl | h
        · exact .inr (List.mem_cons_self ..)
        · exact (ih h).imp_right (List.mem_cons_of_mem _)

/-- **A write keeps the keys in order.** -/
theorem ascending_insert [KeyOrder κ] {t : Keyed κ β} (h : t.Ascending) (k : κ) (v : β) :
    (t.insert k v).Ascending := by
  induction t with
  | nil => exact List.pairwise_singleton ..
  | cons q rest ih =>
    obtain ⟨k', v'⟩ := q
    obtain ⟨first, others⟩ := List.pairwise_cons.1 h
    simp only [insert]
    split
    · rename_i he
      subst he
      exact List.pairwise_cons.2 ⟨first, others⟩
    · rename_i hne
      split
      · rename_i hlt
        refine List.pairwise_cons.2 ⟨?_, h⟩
        intro p hp
        rcases List.mem_cons.1 hp with rfl | hp
        · exact hlt
        · exact KeyOrder.trans hlt (first p hp)
      · rename_i hlt
        refine List.pairwise_cons.2 ⟨?_, ih others⟩
        intro p hp
        rcases key_of_mem_insert hp with he | hp
        · have : KeyOrder.before k' k = true := (KeyOrder.total hne).resolve_right hlt
          exact he ▸ this
        · exact first p hp

/-- **Many writes keep the keys in order.** -/
theorem ascending_insertAll [KeyOrder κ] {t : Keyed κ β} (h : t.Ascending)
    (more : List (κ × β)) : (insertAll t more).Ascending := by
  induction more generalizing t with
  | nil => exact h
  | cons p more ih => exact ih (ascending_insert h p.1 p.2)

/-- A table made of pairs is in order. -/
theorem ascending_ofPairs [KeyOrder κ] (pairs : List (κ × β)) : (ofPairs pairs).Ascending :=
  ascending_insertAll (t := []) List.Pairwise.nil pairs

end Keyed

end Federation
