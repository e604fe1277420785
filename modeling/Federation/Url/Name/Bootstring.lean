/-
  Federation.Url.Name.Bootstring
  ──────────────────────────────
  **NAMES IN ASCII.**

  A label with characters beyond ASCII is written in ASCII as its ASCII
  characters, a hyphen, and a run of letters and digits that says which
  further characters go where.  The further characters are taken in
  ascending order; each is given by its distance from the one before,
  counted over all the places where it could stand, as a number in base
  thirty-six whose digit thresholds adapt to the numbers already seen.

  Every loop has a measure: the reader's input gets shorter, the writer's
  number gets smaller, the list of further characters gets shorter.
-/

namespace Federation.Url.Name.Bootstring

/-! ## §1. Digits and thresholds. -/

/-- A digit: the letters for 0 to 25, then the ten figures. -/
def digitChar (d : Nat) : Char :=
  if d < 26 then Char.ofNat ('a'.toNat + d) else Char.ofNat ('0'.toNat + d - 26)

/-- The value of a digit in either case. -/
def digitValue? (c : Char) : Option Nat :=
  if 'a' ≤ c ∧ c ≤ 'z' then some (c.toNat - 'a'.toNat)
  else if 'A' ≤ c ∧ c ≤ 'Z' then some (c.toNat - 'A'.toNat)
  else if '0' ≤ c ∧ c ≤ '9' then some (c.toNat - '0'.toNat + 26)
  else none

/-- The threshold of the digit at place `k`: below it a digit ends its
number. -/
def threshold (k bias : Nat) : Nat := min 26 (max 1 (k - bias))

theorem threshold_pos (k bias : Nat) : 1 ≤ threshold k bias := by
  unfold threshold
  omega

theorem threshold_le (k bias : Nat) : threshold k bias ≤ 26 := by
  unfold threshold
  omega

/-- Divide by 35 until at most 455 is left, counting 36 per division. -/
def damp (delta k : Nat) : Nat × Nat :=
  if 455 < delta then damp (delta / 35) (k + 36) else (delta, k)
termination_by delta
decreasing_by exact Nat.div_lt_self (by omega) (by omega)

/-- The bias after a distance, `count` characters being in place then. -/
def adapt (delta count : Nat) (first : Bool) : Nat :=
  let d := if first then delta / 700 else delta / 2
  let (d, k) := damp (d + d / count) 0
  k + 36 * d / (d + 38)

/-! ## §2. Writing. -/

/-- A distance as digits, the first at place `k`. -/
def writeNumber (bias k q : Nat) : List Char :=
  let t := threshold k bias
  if q < t then [digitChar q]
  else digitChar (t + (q - t) % (36 - t)) :: writeNumber bias (k + 36) ((q - t) / (36 - t))
termination_by q
decreasing_by
  have h1 := threshold_pos k bias
  exact Nat.lt_of_le_of_lt (Nat.div_le_self _ _) (by omega)

/-- The writer between two characters of the label. -/
structure Writer where
  written : List Char
  delta : Nat
  bias : Nat
  /-- Characters in place. -/
  count : Nat

/-- One pass over the label for the character `n`: places of smaller
characters are counted, and each place of `n` is written. -/
def writePass (basic n : Nat) (w : Writer) : List Char → Writer
  | [] => w
  | c :: cs =>
      if c.toNat < n then writePass basic n { w with delta := w.delta + 1 } cs
      else if c.toNat = n then
        writePass basic n
          { written := w.written ++ writeNumber w.bias 36 w.delta
            delta := 0
            bias := adapt w.delta (w.count + 1) (w.count == basic)
            count := w.count + 1 } cs
      else writePass basic n w cs

/-- The passes for further characters in ascending order, from `n` on. -/
def writePasses (label : List Char) (basic n : Nat) (w : Writer) : List Nat → Writer
  | [] => w
  | m :: ms =>
      let w := writePass basic m { w with delta := w.delta + (m - n) * (w.count + 1) } label
      writePasses label basic (m + 1) { w with delta := w.delta + 1 } ms

def isAscii (c : Char) : Bool := c.toNat < 128

/-- Ascending numbers without repetition. -/
def ascending (ns : List Nat) : List Nat :=
  (ns.mergeSort (· ≤ ·)).foldr (fun n acc => if acc.head? = some n then acc else n :: acc) []

/-- **A label in ASCII**, without the mark in front that says so. -/
def write (label : List Char) : List Char :=
  let basic := label.filter isAscii
  let further := ascending ((label.filter fun c => !isAscii c).map Char.toNat)
  let w := writePasses label basic.length 128 ⟨[], 0, 72, basic.length⟩ further
  basic ++ (if basic.isEmpty then [] else ['-']) ++ w.written

/-! ## §3. Reading. -/

/-- A number: its value on top of `i`, and the rest of the input. -/
def readNumber (bias : Nat) : List Char → Nat → Nat → Nat → Option (Nat × List Char)
  | [], _, _, _ => none
  | c :: rest, k, weight, i =>
      match digitValue? c with
      | none => none
      | some d =>
          let t := threshold k bias
          if d < t then some (i + d * weight, rest)
          else readNumber bias rest (k + 36) (weight * (36 - t)) (i + d * weight)

/-- Reading a number takes characters. -/
theorem readNumber_length (bias : Nat) (cs : List Char) (k weight i : Nat)
    (r : Nat × List Char) (h : readNumber bias cs k weight i = some r) :
    r.2.length < cs.length := by
  induction cs generalizing k weight i with
  | nil => simp [readNumber] at h
  | cons c rest ih =>
    unfold readNumber at h
    split at h
    · simp at h
    · simp only at h
      split at h
      · simp only [Option.some.injEq] at h
        subst h
        simp
      · have := ih _ _ _ h
        simp only [List.length_cons]
        omega

/-- Put further characters into the label one after another. -/
def readAll (bias n i : Nat) (label : List Char) (cs : List Char) : Option (List Char) :=
  match cs with
  | [] => some label
  | c :: rest =>
      match hr : readNumber bias (c :: rest) 36 1 i with
      | none => none
      | some (j, more) =>
          let count := label.length + 1
          let m := n + j / count
          let place := j % count
          if m < 0xD800 ∨ (0xDFFF < m ∧ m < 0x110000) then
            readAll (adapt (j - i) count (i == 0)) m (place + 1)
              (label.insertIdx place (Char.ofNat m)) more
          else none
termination_by cs.length
decreasing_by
  have := readNumber_length bias (c :: rest) 36 1 i (j, more) hr
  simpa using this

/-- The part before the last hyphen and the part after it; without a hyphen
the first is empty. -/
def splitLastHyphen (cs : List Char) : List Char × List Char :=
  match cs.reverse.span (· != '-') with
  | (back, []) => ([], back.reverse)
  | (back, _ :: front) => (front.reverse, back.reverse)

/-- **The label that ASCII stands for.** -/
def read? (cs : List Char) : Option (List Char) :=
  let (basic, rest) := splitLastHyphen cs
  if basic.any fun c => !isAscii c then none
  else readAll 72 128 0 basic rest

end Federation.Url.Name.Bootstring
