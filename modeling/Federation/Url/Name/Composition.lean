/-
  Federation.Url.Name.Composition
  ───────────────────────────────
  **COMPOSED FORM.**

  A letter and the marks after it are brought into one form: taken apart as
  far as possible, the marks put in the order of their combining classes,
  and then put together again as far as possible.  Hangul syllables follow a
  rule, all others a table of pairs.
-/
import Federation.Url.Name.Property

namespace Federation.Url.Name

/-! ## §1. Pairs. -/

/-- The pairs by their whole: whole, first half, second half. -/
def byWhole : Array Row :=
  ((composed.toList.filterMap fun r =>
    match r with
    | [a, b, c] => some [c, a, b]
    | _ => none).mergeSort fun r s => r.headD 0 ≤ s.headD 0).toArray

/-- The two halves of a character, if it is composed. -/
def halves? (c : Char) : Option (Char × Char) :=
  match rowFor byWhole c.toNat with
  | some [whole, a, b] =>
      if whole = c.toNat then some (Char.ofNat a, Char.ofNat b) else none
  | _ => none

/-- The rows of one first half start at this index. -/
def pairKey (a b : Nat) : Nat := a * 0x200000 + b

/-- The pairs by their halves, as one number. -/
def byHalves : Array Row :=
  ((composed.toList.filterMap fun r =>
    match r with
    | [a, b, c] => some [pairKey a b, c]
    | _ => none).mergeSort fun r s => r.headD 0 ≤ s.headD 0).toArray

/-- Two Hangul letters, or a syllable and its last letter, as a syllable. -/
def hangulWhole? (a b : Nat) : Option Char :=
  if 0x1100 ≤ a ∧ a < 0x1113 ∧ 0x1161 ≤ b ∧ b < 0x1176 then
    some (Char.ofNat (0xAC00 + ((a - 0x1100) * 21 + (b - 0x1161)) * 28))
  else if 0xAC00 ≤ a ∧ a < 0xD7A4 ∧ (a - 0xAC00) % 28 = 0 ∧ 0x11A7 < b ∧ b < 0x11C3 then
    some (Char.ofNat (a + (b - 0x11A7)))
  else none

/-- The whole of two halves, if they compose. -/
def whole? (a b : Char) : Option Char :=
  match hangulWhole? a.toNat b.toNat with
  | some c => some c
  | none =>
      let key := pairKey a.toNat b.toNat
      match rowFor byHalves key with
      | some [k, c] => if k = key then some (Char.ofNat c) else none
      | _ => none

/-! ## §2. Taking apart. -/

/-- A Hangul syllable as its letters. -/
def hangulLetters? (c : Char) : Option (List Char) :=
  let n := c.toNat
  if 0xAC00 ≤ n ∧ n < 0xD7A4 then
    let i := n - 0xAC00
    let first := Char.ofNat (0x1100 + i / 588)
    let second := Char.ofNat (0x1161 + i % 588 / 28)
    if i % 28 = 0 then some [first, second]
    else some [first, second, Char.ofNat (0x11A7 + i % 28)]
  else none

/-- The parts of a character; composed characters nest a few levels only. -/
def parts (c : Char) : Nat → List Char
  | 0 => [c]
  | fuel + 1 =>
      match hangulLetters? c with
      | some ls => ls
      | none =>
          match halves? c with
          | some (a, b) => parts a fuel ++ [b]
          | none => [c]

/-! ## §3. Order of marks. -/

/-- Put a mark before the marks of a higher class. -/
def insertMark (c : Char) : List Char → List Char
  | [] => [c]
  | d :: ds =>
      if combiningClass d ≠ 0 ∧ combiningClass d > combiningClass c then d :: insertMark c ds
      else c :: d :: ds

/-- The characters with every run of marks in the order of the classes; the
list is taken and given back in reverse. -/
def orderMarks (cs : List Char) : List Char :=
  (cs.foldl (fun acc c =>
    if combiningClass c = 0 then c :: acc else insertMark c acc) []).reverse

/-! ## §4. Putting together. -/

/-- The last starter with the marks already passed after it, in reverse, and
what is done before it, in reverse. -/
structure Composing where
  done : List Char
  starter : Option Char
  passed : List Char

/-- One character: it joins the starter unless a mark of its class or a
higher one stands between. -/
def Composing.step (s : Composing) (c : Char) : Composing :=
  match s.starter with
  | none =>
      if combiningClass c = 0 then { s with starter := some c }
      else { s with done := c :: s.done }
  | some st =>
      let blocked := match s.passed with
        | [] => false
        | d :: _ => combiningClass d = 0 ∨ combiningClass c ≤ combiningClass d
      match if blocked then none else whole? st c with
      | some w => { s with starter := some w }
      | none =>
          if combiningClass c = 0 then
            { done := s.passed ++ st :: s.done, starter := some c, passed := [] }
          else { s with passed := c :: s.passed }

/-- Everything in order. -/
def Composing.result (s : Composing) : List Char :=
  (s.passed ++ (s.starter.toList ++ s.done)).reverse

/-- **The composed form.** -/
def compose (cs : List Char) : List Char :=
  if cs.all fun c => c.toNat < 0x300 then cs
  else
    let apart := orderMarks (cs.flatMap fun c => parts c 4)
    (apart.foldl Composing.step ⟨[], none, []⟩).result

end Federation.Url.Name
