/-
  Federation.Proofs.Json.Roundtrip
  ────────────────────────────────
  **VALUES READ BACK.**

  The text of a value over several lines is read as the value with its members
  sorted, wherever its numbers last and its containers nest no deeper than the
  reader allows.  What was read from a text is sorted and within the depth
  already.

  Main results:
    * `parse?_pretty` — what is written is read back, sorted;
    * `members?_pretty` — the members of an object as they were written;
    * `formed_of_parse` — what is read is in order and within the depth;
    * `sorted_of_formed` — what is in order is sorted.
-/
import Federation.Proofs.Json.Tokens
import Federation.Proofs.Keyed

namespace Federation.Json

open Reader

/-! ## §1. Values that can be read. -/

mutual

/-- The value with the members of every object in key order. -/
def sorted : Json → Json
  | .null => .null
  | .bool b => .bool b
  | .number n => .number n
  | .string s => .string s
  | .array items => .array (sortedItems items)
  | .object members => .object (Keyed.ofPairs (sortedMembers members))

/-- The items of an array, each sorted. -/
def sortedItems : List Json → List Json
  | [] => []
  | x :: xs => sorted x :: sortedItems xs

/-- The members of an object, each with its value sorted. -/
def sortedMembers : List (String × Json) → List (String × Json)
  | [] => []
  | (name, v) :: ms => (name, sorted v) :: sortedMembers ms

end

/-- Containers nested at most so deep. -/
inductive Within : Nat → Json → Prop
  | null {depth : Nat} : Within depth .null
  | bool {depth : Nat} (b : Bool) : Within depth (.bool b)
  | number {depth : Nat} (n : Numeral) : Within depth (.number n)
  | string {depth : Nat} (s : String) : Within depth (.string s)
  | array {depth : Nat} {items : List Json} (inner : ∀ x ∈ items, Within depth x) :
      Within (depth + 1) (.array items)
  | object {depth : Nat} {members : List (String × Json)}
      (inner : ∀ m ∈ members, Within depth m.2) :
      Within (depth + 1) (.object members)

/-- Containers nested at most so deep, with the members of each object in key order. -/
inductive Formed : Nat → Json → Prop
  | null {depth : Nat} : Formed depth .null
  | bool {depth : Nat} (b : Bool) : Formed depth (.bool b)
  | number {depth : Nat} (n : Numeral) : Formed depth (.number n)
  | string {depth : Nat} (s : String) : Formed depth (.string s)
  | array {depth : Nat} {items : List Json} (inner : ∀ x ∈ items, Formed depth x) :
      Formed (depth + 1) (.array items)
  | object {depth : Nat} {members : Keyed String Json} (ordered : members.Ascending)
      (inner : ∀ m ∈ members, Formed depth m.2) : Formed (depth + 1) (.object members)

/-- Every number in the value is read as it is written. -/
inductive Lasting : Json → Prop
  | null : Lasting .null
  | bool (b : Bool) : Lasting (.bool b)
  | number {n : Numeral} (lasts : n.Lasts) : Lasting (.number n)
  | string (s : String) : Lasting (.string s)
  | array {items : List Json} (inner : ∀ x ∈ items, Lasting x) : Lasting (.array items)
  | object {members : List (String × Json)} (inner : ∀ m ∈ members, Lasting m.2) :
      Lasting (.object members)

theorem Formed.within {depth : Nat} {j : Json} (h : Formed depth j) : Within depth j := by
  induction h with
  | null => exact .null
  | bool b => exact .bool b
  | number n => exact .number n
  | string s => exact .string s
  | array _ ih => exact .array ih
  | object _ _ ih => exact .object ih

theorem sortedItems_eq_map (items : List Json) : sortedItems items = items.map sorted := by
  induction items with
  | nil => rw [sortedItems, List.map_nil]
  | cons x xs ih => rw [sortedItems, ih, List.map_cons]

theorem sortedMembers_eq_map (members : List (String × Json)) :
    sortedMembers members = members.map fun m => (m.1, sorted m.2) := by
  induction members with
  | nil => rw [sortedMembers, List.map_nil]
  | cons m ms ih => rw [sortedMembers, ih, List.map_cons]

/-- **What is in order is sorted.** -/
theorem sorted_of_formed {depth : Nat} {j : Json} (h : Formed depth j) : sorted j = j := by
  induction h with
  | null => rw [sorted]
  | bool b => rw [sorted]
  | number n => rw [sorted]
  | string s => rw [sorted]
  | array _ ih =>
      rw [sorted, sortedItems_eq_map, List.map_congr_left ih, List.map_id']
  | @object depth members ordered _ ih =>
      have hvalues : members.map (fun m => (m.1, sorted m.2)) = members := by
        rw [List.map_congr_left fun m hm => by rw [ih m hm], List.map_id']
      rw [sorted, sortedMembers_eq_map, hvalues, Keyed.ofPairs_of_ascending ordered]

/-! ## §2. Blanks. -/

namespace Reader

theorem skipSpace_append {blanks : List Char} (h : ∀ c ∈ blanks, isSpace c = true)
    (cs : List Char) : skipSpace (blanks ++ cs) = skipSpace cs :=
  List.dropWhile_append_of_pos h

theorem skipSpace_cons {c : Char} (h : isSpace c = false) (cs : List Char) :
    skipSpace (c :: cs) = c :: cs :=
  List.dropWhile_cons_of_neg (by rw [h]; decide)

/-- Blanks before a value do not matter. -/
theorem value?_blanks {blanks : List Char} (h : ∀ c ∈ blanks, isSpace c = true)
    (fuel depth : Nat) (cs : List Char) :
    value? fuel depth (blanks ++ cs) = value? fuel depth cs := by
  cases fuel with
  | zero => rfl
  | succ fuel => rw [value?, value?, skipSpace_append h]

theorem items?_blanks {blanks : List Char} (h : ∀ c ∈ blanks, isSpace c = true)
    (fuel depth : Nat) (cs : List Char) :
    items? fuel depth (blanks ++ cs) = items? fuel depth cs := by
  cases fuel with
  | zero => rfl
  | succ fuel => rw [items?, items?, value?_blanks h]

theorem fields?_blanks {blanks : List Char} (h : ∀ c ∈ blanks, isSpace c = true)
    (fuel depth : Nat) (cs : List Char) :
    fields? fuel depth (blanks ++ cs) = fields? fuel depth cs := by
  cases fuel with
  | zero => rfl
  | succ fuel => rw [fields?, fields?, skipSpace_append h]

end Reader

theorem newline_blanks (level : Nat) : ∀ c ∈ (newline level).toList, isSpace c = true := by
  intro c hc
  unfold newline at hc
  rw [String.toList_ofList, List.mem_cons] at hc
  rcases hc with rfl | hc
  · rfl
  · rw [List.eq_of_mem_replicate hc]
    rfl

/-- A new line ends a number. -/
theorem apart_newline (level : Nat) (cs : List Char) : Apart ((newline level).toList ++ cs) := by
  unfold newline
  rw [String.toList_ofList]
  exact apart_cons (by decide)

/-! ## §3. Texts. -/

/-- Pieces with a comma and a new line between them. -/
def joined (level : Nat) (pieces : List String) : List Char :=
  (("," ++ newline level).intercalate pieces).toList

theorem joined_one (level : Nat) (piece : String) : joined level [piece] = piece.toList := by
  unfold joined
  rw [String.intercalate_singleton]

theorem joined_cons (level : Nat) (piece : String) {pieces : List String} (h : pieces ≠ []) :
    joined level (piece :: pieces)
      = piece.toList ++ ',' :: ((newline level).toList ++ joined level pieces) := by
  unfold joined
  rw [String.intercalate_cons_of_ne_nil h, String.toList_append, String.toList_append,
    String.toList_append, List.append_assoc]
  rfl

theorem toList_bracketed (opening closing : String) (level : Nat) (piece : String)
    (pieces : List String) :
    (bracketed opening closing level (piece :: pieces)).toList
      = opening.toList ++ ((newline (level + 1)).toList ++ (joined (level + 1) (piece :: pieces)
        ++ ((newline level).toList ++ closing.toList))) := by
  unfold bracketed joined
  simp only [String.toList_append, List.append_assoc]

theorem toList_quote (s : String) (rest : List Char) :
    (quote s).toList ++ rest = '"' :: (s.toList.flatMap escapeChar ++ '"' :: rest) := by
  unfold quote
  rw [String.toList_ofList, List.cons_append, List.append_assoc]
  rfl

/-- What a number may begin with. -/
theorem number_head {c : Char} (h : c = '-' ∨ c.isDigit = true) :
    isSpace c = false ∧ c ∉ ['"', '[', ']', '\x7b', 't', 'f', 'n'] := by
  rcases h with rfl | h
  · decide
  · constructor
    · refine Bool.of_not_eq_true fun hspace => ?_
      unfold isSpace at hspace
      simp only [Bool.or_eq_true, beq_iff_eq] at hspace
      rcases hspace with ((rfl | rfl) | rfl) | rfl <;> cases h
    · intro hmem
      simp only [List.mem_cons, List.not_mem_nil, or_false] at hmem
      rcases hmem with rfl | rfl | rfl | rfl | rfl | rfl | rfl <;> cases h

theorem prettyAt_null (level : Nat) : (prettyAt level .null).toList = ['n', 'u', 'l', 'l'] := by
  show "null".toList = _
  rfl

theorem prettyAt_true (level : Nat) :
    (prettyAt level (.bool true)).toList = ['t', 'r', 'u', 'e'] := by
  show "true".toList = _
  rfl

theorem prettyAt_false (level : Nat) :
    (prettyAt level (.bool false)).toList = ['f', 'a', 'l', 's', 'e'] := by
  show "false".toList = _
  rfl

theorem prettyAt_number (level : Nat) (n : Numeral) : prettyAt level (.number n) = n.text :=
  rfl

theorem prettyAt_string (level : Nat) (s : String) : prettyAt level (.string s) = quote s :=
  rfl

theorem prettyAt_emptyArray (level : Nat) : (prettyAt level (.array [])).toList = ['[', ']'] := by
  show (bracketed "[" "]" level []).toList = _
  rw [bracketed, String.toList_append]
  rfl

theorem prettyAt_emptyObject (level : Nat) :
    (prettyAt level (.object [])).toList = ['\x7b', '\x7d'] := by
  show (bracketed "\x7b" "\x7d" level []).toList = _
  rw [bracketed, String.toList_append]
  rfl

theorem prettyAt_array (level : Nat) (x : Json) (xs : List Json) :
    (prettyAt level (.array (x :: xs))).toList
      = '[' :: ((newline (level + 1)).toList
        ++ (joined (level + 1) (prettyItems (level + 1) (x :: xs))
          ++ ((newline level).toList ++ [']']))) := by
  show (bracketed "[" "]" level (_ :: _)).toList = _
  rw [toList_bracketed]
  rfl

theorem prettyAt_object (level : Nat) (m : String × Json) (ms : List (String × Json)) :
    (prettyAt level (.object (m :: ms))).toList
      = '\x7b' :: ((newline (level + 1)).toList
        ++ (joined (level + 1) (prettyMembers (level + 1) (m :: ms))
          ++ ((newline level).toList ++ ['\x7d']))) := by
  show (bracketed "\x7b" "\x7d" level (_ :: _)).toList = _
  rw [toList_bracketed]
  rfl

/-- No value begins with a blank or with the end of an array. -/
theorem head_prettyAt {j : Json} (h : j.Lasting) (level : Nat) :
    ∃ c cs, (prettyAt level j).toList = c :: cs ∧ isSpace c = false ∧ c ≠ ']' := by
  cases h with
  | null => exact ⟨'n', _, prettyAt_null level, rfl, by decide⟩
  | bool b =>
      cases b with
      | true => exact ⟨'t', _, prettyAt_true level, rfl, by decide⟩
      | false => exact ⟨'f', _, prettyAt_false level, rfl, by decide⟩
  | number lasts =>
      rw [prettyAt_number]
      obtain ⟨c, more, htext, hc⟩ := number?_head lasts
      obtain ⟨hspace, hother⟩ := number_head hc
      refine ⟨c, more, htext, hspace, fun heq => ?_⟩
      subst heq
      exact hother (by decide)
  | string s =>
      rw [prettyAt_string]
      exact ⟨'"', _, (List.append_nil _).symm.trans (toList_quote s []), rfl, by decide⟩
  | @array items _ =>
      cases items with
      | nil => exact ⟨'[', _, prettyAt_emptyArray level, rfl, by decide⟩
      | cons x xs => exact ⟨'[', _, prettyAt_array level x xs, rfl, by decide⟩
  | @object members _ =>
      cases members with
      | nil => exact ⟨'\x7b', _, prettyAt_emptyObject level, rfl, by decide⟩
      | cons m ms => exact ⟨'\x7b', _, prettyAt_object level m ms, rfl, by decide⟩

theorem prettyItems_ne_nil {level : Nat} {items : List Json} (h : items ≠ []) :
    prettyItems level items ≠ [] := by
  cases items with
  | nil => exact absurd rfl h
  | cons x xs =>
      rw [prettyItems]
      exact List.cons_ne_nil _ _

theorem prettyMembers_ne_nil {level : Nat} {members : List (String × Json)} (h : members ≠ []) :
    prettyMembers level members ≠ [] := by
  cases members with
  | nil => exact absurd rfl h
  | cons m ms =>
      rw [prettyMembers]
      exact List.cons_ne_nil _ _

theorem toList_member (name : String) (text : String) :
    (quote name ++ ": " ++ text).toList = (quote name).toList ++ ':' :: ' ' :: text.toList := by
  rw [String.toList_append, String.toList_append, List.append_assoc]
  rfl

/-- The first piece comes first. -/
theorem joined_front (level : Nat) (piece : String) (pieces : List String) :
    ∃ more, joined level (piece :: pieces) = piece.toList ++ more := by
  by_cases hlast : pieces = []
  · subst hlast
    exact ⟨[], by rw [joined_one, List.append_nil]⟩
  · exact ⟨_, joined_cons level piece hlast⟩

theorem head_joined {x : Json} (h : x.Lasting) (level : Nat) (xs : List Json) :
    ∃ c cs, joined level (prettyItems level (x :: xs)) = c :: cs ∧ isSpace c = false ∧
      c ≠ ']' := by
  obtain ⟨c, cs, hx, hc⟩ := head_prettyAt h level
  obtain ⟨more, hmore⟩ := joined_front level (prettyAt level x) (prettyItems level xs)
  refine ⟨c, cs ++ more, ?_, hc⟩
  rw [prettyItems, hmore, hx]
  rfl

theorem head_joined_members (level : Nat) (m : String × Json) (ms : List (String × Json)) :
    ∃ cs, joined level (prettyMembers level (m :: ms)) = '"' :: cs := by
  obtain ⟨name, v⟩ := m
  obtain ⟨more, hmore⟩ := joined_front level (quote name ++ ": " ++ prettyAt level v)
    (prettyMembers level ms)
  rw [prettyMembers, hmore, toList_member, toList_quote]
  exact ⟨_, rfl⟩

/-! ## §4. Reading what was written. -/

namespace Reader

theorem value?_string (fuel depth : Nat) (rest : List Char) :
    value? (fuel + 1) depth ('"' :: rest)
      = (string? rest).map fun (s, rest) => (.string s, rest) := by
  rw [value?, skipSpace_cons rfl]
  rfl

theorem value?_quote (fuel depth : Nat) (s : String) (rest : List Char) :
    value? (fuel + 1) depth ((quote s).toList ++ rest) = some (.string s, rest) := by
  rw [toList_quote, value?_string, string?_quote]
  rfl

theorem value?_number {fuel depth : Nat} {cs rest : List Char} {n : Numeral}
    (h : number? cs = some (n, rest)) :
    value? (fuel + 1) depth cs = some (.number n, rest) := by
  obtain ⟨c, more, rfl, hc⟩ := number?_head h
  obtain ⟨hspace, hother⟩ := number_head hc
  rw [value?, skipSpace_cons hspace]
  split
  · rename_i heq
    cases heq
  · rename_i heq
    obtain ⟨rfl, -⟩ := List.cons.inj heq
    exact (hother (by decide)).elim
  · rename_i heq
    obtain ⟨rfl, -⟩ := List.cons.inj heq
    exact (hother (by decide)).elim
  · rename_i heq
    obtain ⟨rfl, -⟩ := List.cons.inj heq
    exact (hother (by decide)).elim
  · rename_i heq
    obtain ⟨rfl, rfl⟩ := List.cons.inj heq
    have hword : ∀ x ∈ ['t', 'f', 'n'], c ≠ x := by
      intro x hx heq
      subst heq
      exact hother (List.mem_append_right ['"', '[', ']', '\x7b'] hx)
    rw [if_neg (hword 't' (by decide)), if_neg (hword 'f' (by decide)),
      if_neg (hword 'n' (by decide)), h]
    rfl

theorem value?_array (fuel depth : Nat) (rest : List Char) :
    value? (fuel + 1) (depth + 1) ('[' :: rest)
      = match skipSpace rest with
        | ']' :: rest => some (.array [], rest)
        | rest => (items? fuel depth rest).map fun (xs, rest) => (.array xs, rest) := by
  rw [value?, skipSpace_cons rfl]
  rfl

theorem value?_object (fuel depth : Nat) (rest : List Char) :
    value? (fuel + 1) (depth + 1) ('\x7b' :: rest)
      = match skipSpace rest with
        | '\x7d' :: rest => some (.object [], rest)
        | rest => (fields? fuel depth rest).map fun (ms, rest) =>
            (.object (Keyed.ofPairs ms), rest) := by
  rw [value?, skipSpace_cons rfl]
  rfl

/-- An array that is not empty, whose first item begins with `c`. -/
theorem value?_items {fuel depth : Nat} {blanks : List Char} {c : Char} {cs : List Char}
    (hblanks : ∀ c ∈ blanks, isSpace c = true) (hspace : isSpace c = false) (hc : c ≠ ']') :
    value? (fuel + 1) (depth + 1) ('[' :: (blanks ++ c :: cs))
      = (items? fuel depth (c :: cs)).map fun (xs, rest) => (.array xs, rest) := by
  rw [value?_array, skipSpace_append hblanks, skipSpace_cons hspace]
  split
  · rename_i heq
    exact (hc (List.cons.inj heq).1).elim
  · rfl

/-- What stands after the brace that opens an object: its members in the order of the text. -/
def inside? (fuel depth : Nat) (cs : List Char) : Option (List (String × Json) × List Char) :=
  match skipSpace cs with
  | '\x7d' :: rest => some ([], rest)
  | cs => fields? fuel depth cs

/-- The members of an object. -/
def members? (fuel depth : Nat) (cs : List Char) : Option (List (String × Json) × List Char) :=
  match skipSpace cs with
  | '\x7b' :: cs => inside? fuel depth cs
  | _ => none

/-- **An object is the table of its members.** -/
theorem value?_of_brace {fuel depth : Nat} {cs rest : List Char}
    (h : skipSpace cs = '\x7b' :: rest) :
    value? (fuel + 1) (depth + 1) cs
      = (inside? fuel depth rest).map fun p => (object (Keyed.ofPairs p.1), p.2) := by
  have hblanks : value? (fuel + 1) (depth + 1) cs
      = value? (fuel + 1) (depth + 1) ('\x7b' :: rest) := by
    rw [value?, value?, h, skipSpace_cons rfl]
  rw [hblanks, value?_object]
  unfold inside?
  generalize skipSpace rest = cs
  split <;> rfl

theorem members?_of_brace {fuel depth : Nat} {cs rest : List Char}
    (h : skipSpace cs = '\x7b' :: rest) :
    members? fuel depth cs = inside? fuel depth rest := by
  unfold members?
  rw [h]
  rfl

/-- Where members are, there is a brace. -/
theorem brace_of_members {fuel depth : Nat} {cs : List Char}
    {found : List (String × Json) × List Char}
    (h : members? fuel depth cs = some found) : ∃ rest, skipSpace cs = '\x7b' :: rest := by
  unfold members? at h
  split at h
  · rename_i rest hrest
    exact ⟨rest, hrest⟩
  · cases h

/-- An object that is not empty. -/
theorem members?_fields {fuel depth : Nat} {blanks : List Char} {cs : List Char}
    (hblanks : ∀ c ∈ blanks, isSpace c = true) :
    members? fuel depth ('\x7b' :: (blanks ++ '"' :: cs)) = fields? fuel depth ('"' :: cs) := by
  rw [members?_of_brace (skipSpace_cons rfl _)]
  unfold inside?
  rw [skipSpace_append hblanks, skipSpace_cons rfl]
  rfl

/-- What comes after the last item. -/
theorem items?_last {fuel depth : Nat} {cs blanks rest : List Char} {x : Json}
    (hblanks : ∀ c ∈ blanks, isSpace c = true)
    (h : value? fuel depth cs = some (x, blanks ++ ']' :: rest)) :
    items? (fuel + 1) depth cs = some ([x], rest) := by
  rw [items?, h, Option.bind_eq_bind, Option.bind_some]
  dsimp only
  rw [skipSpace_append hblanks, skipSpace_cons rfl]
  rfl

/-- What comes after an item that is not the last. -/
theorem items?_comma {fuel depth : Nat} {cs rest : List Char} {x : Json}
    (h : value? fuel depth cs = some (x, ',' :: rest)) :
    items? (fuel + 1) depth cs
      = (items? fuel depth rest).map fun (xs, rest) => (x :: xs, rest) := by
  rw [items?, h, Option.bind_eq_bind, Option.bind_some]
  dsimp only
  rw [skipSpace_cons rfl]
  show (items? fuel depth rest).bind _ = _
  cases items? fuel depth rest <;> rfl

/-- A member of which the name and the value are read. -/
theorem fields?_member {fuel depth : Nat} (name : String) {cs rest : List Char} {v : Json}
    (h : value? fuel depth cs = some (v, rest)) :
    fields? (fuel + 1) depth ((quote name).toList ++ ':' :: ' ' :: cs)
      = match skipSpace rest with
        | '\x7d' :: rest => some ([(name, v)], rest)
        | ',' :: rest => do
            let (ms, rest) ← fields? fuel depth rest
            some ((name, v) :: ms, rest)
        | _ => none := by
  have hvalue : value? fuel depth (' ' :: cs) = some (v, rest) :=
    (value?_blanks (List.forall_mem_singleton.2 rfl) fuel depth cs).trans h
  rw [toList_quote, fields?, skipSpace_cons rfl]
  show (string? _).bind _ = _
  rw [string?_quote, Option.bind_some]
  dsimp only
  rw [skipSpace_cons rfl]
  show (value? fuel depth (' ' :: cs)).bind _ = _
  rw [hvalue]
  rfl

theorem fields?_last {fuel depth : Nat} (name : String) {cs blanks rest : List Char} {v : Json}
    (hblanks : ∀ c ∈ blanks, isSpace c = true)
    (h : value? fuel depth cs = some (v, blanks ++ '\x7d' :: rest)) :
    fields? (fuel + 1) depth ((quote name).toList ++ ':' :: ' ' :: cs)
      = some ([(name, v)], rest) := by
  rw [fields?_member name h, skipSpace_append hblanks, skipSpace_cons rfl]
  rfl

theorem fields?_comma {fuel depth : Nat} (name : String) {cs rest : List Char} {v : Json}
    (h : value? fuel depth cs = some (v, ',' :: rest)) :
    fields? (fuel + 1) depth ((quote name).toList ++ ':' :: ' ' :: cs)
      = (fields? fuel depth rest).map fun (ms, rest) => ((name, v) :: ms, rest) := by
  rw [fields?_member name h, skipSpace_cons rfl]
  show (fields? fuel depth rest).bind _ = _
  cases fields? fuel depth rest <;> rfl

/-- Whether the text of a value is read as the sorted value, wherever it stands. -/
def ReadsBack (depth level : Nat) (j : Json) : Prop :=
  ∀ (fuel : Nat) (rest : List Char), Apart rest → (prettyAt level j).toList.length ≤ fuel →
    value? (fuel + 1) depth ((prettyAt level j).toList ++ rest) = some (sorted j, rest)

theorem items?_joined {depth level outer : Nat} {items : List Json} (hne : items ≠ []) :
    (∀ x ∈ items, ReadsBack depth level x) → ∀ (fuel : Nat) (rest : List Char),
      (joined level (prettyItems level items)).length ≤ fuel →
      items? (fuel + 2) depth (joined level (prettyItems level items)
        ++ ((newline outer).toList ++ ']' :: rest)) = some (sortedItems items, rest) := by
  induction items with
  | nil => exact absurd rfl hne
  | cons x xs ih =>
      intro h fuel rest hfuel
      have hx := h x List.mem_cons_self
      rw [prettyItems] at hfuel ⊢
      rw [sortedItems]
      by_cases hlast : xs = []
      · subst hlast
        rw [prettyItems, joined_one] at hfuel ⊢
        rw [sortedItems]
        exact items?_last (newline_blanks outer) (hx fuel _ (apart_newline outer _) hfuel)
      · rw [joined_cons level _ (prettyItems_ne_nil hlast)] at hfuel ⊢
        -- The comma is a character more, so there is fuel for the other items.
        rw [List.length_append, List.length_cons, List.length_append] at hfuel
        obtain ⟨fuel, rfl⟩ : ∃ f, fuel = f + 1 := ⟨fuel - 1, by omega⟩
        rw [List.append_assoc, List.cons_append, List.append_assoc,
          items?_comma (hx _ _ (apart_cons (by decide)) (by omega)),
          items?_blanks (newline_blanks level),
          ih hlast (fun y hy => h y (List.mem_cons_of_mem x hy)) fuel rest (by omega)]
        rfl

theorem fields?_joined {depth level outer : Nat} {members : List (String × Json)}
    (hne : members ≠ []) :
    (∀ m ∈ members, ReadsBack depth level m.2) → ∀ (fuel : Nat) (rest : List Char),
      (joined level (prettyMembers level members)).length ≤ fuel →
      fields? (fuel + 2) depth (joined level (prettyMembers level members)
        ++ ((newline outer).toList ++ '\x7d' :: rest)) = some (sortedMembers members, rest) := by
  induction members with
  | nil => exact absurd rfl hne
  | cons m ms ih =>
      obtain ⟨name, v⟩ := m
      intro h fuel rest hfuel
      have hv : ReadsBack depth level v := h (name, v) List.mem_cons_self
      rw [prettyMembers] at hfuel ⊢
      rw [sortedMembers]
      by_cases hlast : ms = []
      · subst hlast
        rw [prettyMembers, joined_one, toList_member] at hfuel ⊢
        rw [sortedMembers]
        rw [List.length_append, List.length_cons, List.length_cons] at hfuel
        rw [List.append_assoc, List.cons_append, List.cons_append]
        exact fields?_last name (newline_blanks outer)
          (hv fuel _ (apart_newline outer _) (by omega))
      · rw [joined_cons level _ (prettyMembers_ne_nil hlast), toList_member] at hfuel ⊢
        rw [List.length_append, List.length_append, List.length_cons, List.length_cons,
          List.length_cons, List.length_append] at hfuel
        obtain ⟨fuel, rfl⟩ : ∃ f, fuel = f + 1 := ⟨fuel - 1, by omega⟩
        rw [List.append_assoc, List.append_assoc, List.cons_append, List.cons_append,
          List.cons_append, List.append_assoc,
          fields?_comma name (hv _ _ (apart_cons (by decide)) (by omega)),
          fields?_blanks (newline_blanks level),
          ih hlast (fun y hy => h y (List.mem_cons_of_mem _ hy)) fuel rest (by omega)]
        rfl

theorem value?_null (fuel depth : Nat) (rest : List Char) :
    value? (fuel + 1) depth (['n', 'u', 'l', 'l'] ++ rest) = some (.null, rest) := by
  rw [List.cons_append, value?, skipSpace_cons rfl]
  rfl

theorem value?_true (fuel depth : Nat) (rest : List Char) :
    value? (fuel + 1) depth (['t', 'r', 'u', 'e'] ++ rest) = some (.bool true, rest) := by
  rw [List.cons_append, value?, skipSpace_cons rfl]
  rfl

theorem value?_false (fuel depth : Nat) (rest : List Char) :
    value? (fuel + 1) depth (['f', 'a', 'l', 's', 'e'] ++ rest) = some (.bool false, rest) := by
  rw [List.cons_append, value?, skipSpace_cons rfl]
  rfl

theorem readsBack_array {depth level : Nat} {items : List Json}
    (lasting : ∀ x ∈ items, x.Lasting) (h : ∀ x ∈ items, ReadsBack depth (level + 1) x) :
    ReadsBack (depth + 1) level (.array items) := by
  intro fuel rest _ hfuel
  cases items with
  | nil =>
      rw [prettyAt_emptyArray, sorted, sortedItems]
      show value? (fuel + 1) (depth + 1) ('[' :: ']' :: rest) = _
      rw [value?_array, skipSpace_cons rfl]
      rfl
  | cons x xs =>
      obtain ⟨c, cs, hjoined, hspace, hc⟩ := head_joined (lasting x List.mem_cons_self)
        (level + 1) xs
      -- The brackets are two characters more than what the items need.
      rw [prettyAt_array, List.length_cons, List.length_append, List.length_append,
        List.length_append, List.length_singleton] at hfuel
      obtain ⟨fuel, rfl⟩ : ∃ f, fuel = f + 2 := ⟨fuel - 2, by omega⟩
      rw [prettyAt_array, List.cons_append, List.append_assoc, List.append_assoc,
        List.append_assoc, List.singleton_append, hjoined, List.cons_append,
        value?_items (newline_blanks _) hspace hc, ← List.cons_append, ← hjoined,
        items?_joined (List.cons_ne_nil x xs) h fuel rest (by omega), sorted]
      rfl

/-- **The text of an object has its members**, repeats included. -/
theorem members?_pretty {depth level : Nat} {members : List (String × Json)}
    (h : ∀ m ∈ members, ReadsBack depth (level + 1) m.2) (fuel : Nat) (rest : List Char)
    (hfuel : (prettyAt level (.object members)).toList.length ≤ fuel) :
    members? fuel depth ((prettyAt level (.object members)).toList ++ rest)
      = some (sortedMembers members, rest) := by
  cases members with
  | nil =>
      rw [prettyAt_emptyObject, sortedMembers]
      show members? fuel depth ('\x7b' :: '\x7d' :: rest) = _
      rw [members?_of_brace (skipSpace_cons rfl _)]
      unfold inside?
      rw [skipSpace_cons rfl]
      rfl
  | cons m ms =>
      obtain ⟨cs, hjoined⟩ := head_joined_members (level + 1) m ms
      rw [prettyAt_object, List.length_cons, List.length_append, List.length_append,
        List.length_append, List.length_singleton] at hfuel
      obtain ⟨fuel, rfl⟩ : ∃ f, fuel = f + 2 := ⟨fuel - 2, by omega⟩
      rw [prettyAt_object, List.cons_append, List.append_assoc, List.append_assoc,
        List.append_assoc, List.singleton_append, hjoined, List.cons_append,
        members?_fields (newline_blanks _), ← List.cons_append, ← hjoined,
        fields?_joined (List.cons_ne_nil m ms) h fuel rest (by omega)]

theorem readsBack_object {depth level : Nat} {members : List (String × Json)}
    (h : ∀ m ∈ members, ReadsBack depth (level + 1) m.2) :
    ReadsBack (depth + 1) level (.object members) := by
  intro fuel rest _ hfuel
  have hmembers := members?_pretty h fuel rest hfuel
  obtain ⟨opened, hopened⟩ := brace_of_members hmembers
  rw [members?_of_brace hopened] at hmembers
  rw [value?_of_brace hopened, hmembers, sorted]
  rfl

/-- **What is written is read**, at every level, whatever follows it. -/
theorem readsBack {depth : Nat} {j : Json} (within : Within depth j) :
    j.Lasting → ∀ level, ReadsBack depth level j := by
  -- By the nesting: what is inside a container stands one level further in, with one less to go.
  induction within with
  | null =>
      intro _ level fuel rest _ _
      rw [prettyAt_null, sorted]
      exact value?_null fuel _ rest
  | bool b =>
      intro _ level fuel rest _ _
      rw [sorted]
      cases b with
      | true =>
          rw [prettyAt_true]
          exact value?_true fuel _ rest
      | false =>
          rw [prettyAt_false]
          exact value?_false fuel _ rest
  | number n =>
      intro lasting level fuel rest hrest _
      cases lasting with | number lasts =>
      rw [prettyAt_number, sorted]
      exact value?_number (number?_append hrest lasts)
  | string s =>
      intro _ level fuel rest _ _
      rw [prettyAt_string, sorted]
      exact value?_quote fuel _ s rest
  | array _ ih =>
      intro lasting level
      cases lasting with | array lasting =>
      exact readsBack_array lasting fun x hx => ih x hx (lasting x hx) (level + 1)
  | object _ ih =>
      intro lasting level
      cases lasting with | object lasting =>
      exact readsBack_object fun m hm => ih m hm (lasting m hm) (level + 1)

end Reader

/-- **A text of a value is read as the value**, sorted. -/
theorem parse?_pretty {j : Json} (within : Within maxDepth j) (lasting : j.Lasting) :
    parse? j.pretty = some (sorted j) := by
  have hread := readsBack within lasting 0 _ [] apart_nil (Nat.le_refl _)
  rw [List.append_nil] at hread
  unfold parse? pretty
  dsimp only
  rw [hread]
  rfl

/-! ## §5. What is read. -/

namespace Reader

theorem word?_value {word : String} {v j : Json} {cs rest : List Char}
    (h : word? word v cs = some (j, rest)) : j = v := by
  unfold word? at h
  split at h
  · exact (Prod.mk.inj (Option.some.inj h)).1.symm
  · cases h

/-- What the readers give out with so much fuel. -/
structure Forming (fuel : Nat) : Prop where
  value : ∀ {depth cs j rest}, value? fuel depth cs = some (j, rest) → Formed depth j
  items : ∀ {depth cs xs rest}, items? fuel depth cs = some (xs, rest) → ∀ x ∈ xs, Formed depth x
  fields : ∀ {depth cs ms rest}, fields? fuel depth cs = some (ms, rest) →
    ∀ m ∈ ms, Formed depth m.2

theorem formed_of_value {fuel depth : Nat} {cs rest : List Char} {j : Json} (ih : Forming fuel)
    (h : value? (fuel + 1) depth cs = some (j, rest)) : Formed depth j := by
  rw [value?] at h
  -- By what the text begins with.
  split at h
  · cases h
  · obtain ⟨s, _, heq⟩ := Option.map_eq_some_iff.1 h
    obtain ⟨rfl, -⟩ := Prod.mk.inj heq
    exact .string _
  · split at h
    · cases h
    · -- An array, which may be empty; at depth zero there is none.
      split at h
      · obtain ⟨rfl, -⟩ := Prod.mk.inj (Option.some.inj h)
        exact .array fun x hx => by cases hx
      · obtain ⟨xs, hxs, heq⟩ := Option.map_eq_some_iff.1 h
        obtain ⟨rfl, -⟩ := Prod.mk.inj heq
        exact .array (ih.items hxs)
  · split at h
    · cases h
    · split at h
      · obtain ⟨rfl, -⟩ := Prod.mk.inj (Option.some.inj h)
        exact .object List.Pairwise.nil fun m hm => by cases hm
      · -- Of members of one name the last one stays, so each that stays was read.
        obtain ⟨ms, hms, heq⟩ := Option.map_eq_some_iff.1 h
        obtain ⟨rfl, -⟩ := Prod.mk.inj heq
        exact .object (Keyed.ascending_ofPairs _) fun m hm =>
          ih.fields hms m (Keyed.mem_of_mem_ofPairs hm)
  · split at h
    · rw [word?_value h]
      exact .bool true
    · split at h
      · rw [word?_value h]
        exact .bool false
      · split at h
        · rw [word?_value h]
          exact .null
        · obtain ⟨n, _, heq⟩ := Option.map_eq_some_iff.1 h
          obtain ⟨rfl, -⟩ := Prod.mk.inj heq
          exact .number _

theorem formed_of_items {fuel depth : Nat} {cs rest : List Char} {xs : List Json}
    (ih : Forming fuel) (h : items? (fuel + 1) depth cs = some (xs, rest)) :
    ∀ x ∈ xs, Formed depth x := by
  rw [items?] at h
  obtain ⟨⟨x, more⟩, hx, h⟩ := Option.bind_eq_some_iff.1 h
  dsimp only at h
  split at h
  · obtain ⟨rfl, -⟩ := Prod.mk.inj (Option.some.inj h)
    intro y hy
    rw [List.mem_singleton.1 hy]
    exact ih.value hx
  · obtain ⟨⟨ys, more⟩, hys, h⟩ := Option.bind_eq_some_iff.1 h
    obtain ⟨rfl, -⟩ := Prod.mk.inj (Option.some.inj h)
    intro y hy
    rcases List.mem_cons.1 hy with rfl | hy
    · exact ih.value hx
    · exact ih.items hys y hy
  · cases h

theorem formed_of_fields {fuel depth : Nat} {cs rest : List Char} {ms : List (String × Json)}
    (ih : Forming fuel) (h : fields? (fuel + 1) depth cs = some (ms, rest)) :
    ∀ m ∈ ms, Formed depth m.2 := by
  rw [fields?] at h
  split at h
  · obtain ⟨⟨name, more⟩, _, h⟩ := Option.bind_eq_some_iff.1 h
    dsimp only at h
    split at h
    · obtain ⟨⟨v, more⟩, hv, h⟩ := Option.bind_eq_some_iff.1 h
      dsimp only at h
      split at h
      · obtain ⟨rfl, -⟩ := Prod.mk.inj (Option.some.inj h)
        intro m hm
        rw [List.mem_singleton.1 hm]
        exact ih.value hv
      · obtain ⟨⟨others, more⟩, hothers, h⟩ := Option.bind_eq_some_iff.1 h
        obtain ⟨rfl, -⟩ := Prod.mk.inj (Option.some.inj h)
        intro m hm
        rcases List.mem_cons.1 hm with rfl | hm
        · exact ih.value hv
        · exact ih.fields hothers m hm
      · cases h
    · cases h
  · cases h

/-- **What is read is in order and within the depth.** -/
theorem forming (fuel : Nat) : Forming fuel := by
  -- The three readers call one another, each time with less fuel.
  induction fuel with
  | zero =>
      constructor
      · intro depth cs j rest h
        rw [value?] at h
        cases h
      · intro depth cs xs rest h
        rw [items?] at h
        cases h
      · intro depth cs ms rest h
        rw [fields?] at h
        cases h
  | succ fuel ih => exact ⟨formed_of_value ih, formed_of_items ih, formed_of_fields ih⟩

end Reader

theorem formed_of_parse {s : String} {j : Json} (h : parse? s = some j) : Formed maxDepth j := by
  unfold parse? at h
  obtain ⟨⟨v, rest⟩, hv, h⟩ := Option.bind_eq_some_iff.1 h
  dsimp only at h
  split at h
  · obtain rfl := Option.some.inj h
    exact (forming _).value hv
  · cases h

end Federation.Json
