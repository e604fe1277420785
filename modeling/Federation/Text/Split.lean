/-
  Federation.Text.Split
  ─────────────────────
  **CUTTING TEXT.**

  The small texts of the library (directives, formats, version keys) are cut
  at the first separator, searched for a phrase, or read as a decimal
  number.  Each function works on the list of characters, so that laws go by
  induction on it; the `String` form beside it is a wrapper.

  Main result: `splitFirst_eq_some` — the two halves and the separator give
  the text back, and no separator stands in the first half.
-/
import Federation.Number.Width

namespace Federation.Text

/-! ## §1. The first separator. -/

/-- Cut at the first character satisfying `p`, which neither half keeps. -/
def splitFirst (p : Char → Bool) : List Char → Option (List Char × List Char)
  | [] => none
  | c :: cs =>
      if p c then some ([], cs)
      else (splitFirst p cs).map fun (before, after) => (c :: before, after)

/-- Cut a text at the first character satisfying `p`. -/
def splitOnce (p : Char → Bool) (s : String) : Option (String × String) :=
  (splitFirst p s.toList).map fun (before, after) =>
    (String.ofList before, String.ofList after)

/-- **The cut loses nothing but the separator**, and the separator is the
first one. -/
theorem splitFirst_eq_some {p : Char → Bool} {cs before after : List Char}
    (h : splitFirst p cs = some (before, after)) :
    ∃ c, p c = true ∧ cs = before ++ c :: after ∧ ∀ x ∈ before, p x = false := by
  induction cs generalizing before after with
  | nil => simp [splitFirst] at h
  | cons c cs ih =>
    by_cases hc : p c = true
    · simp only [splitFirst, hc, if_true, Option.some.injEq, Prod.mk.injEq] at h
      obtain ⟨rfl, rfl⟩ := h
      exact ⟨c, hc, rfl, by simp⟩
    · simp only [splitFirst, hc, Bool.false_eq_true, if_false, Option.map_eq_some_iff] at h
      obtain ⟨⟨b, a⟩, hs, he⟩ := h
      simp only [Prod.mk.injEq] at he
      obtain ⟨rfl, rfl⟩ := he
      obtain ⟨x, hx, rfl, hb⟩ := ih hs
      refine ⟨x, hx, rfl, ?_⟩
      intro y hy
      rcases List.mem_cons.1 hy with rfl | hy
      · simpa using hc
      · exact hb y hy

/-! ## §2. Every separator. -/

/-- The pieces between the characters satisfying `p`; one more piece than
separators. -/
def splitAll (p : Char → Bool) : List Char → List (List Char)
  | [] => [[]]
  | c :: cs =>
      if p c then [] :: splitAll p cs
      else match splitAll p cs with
        | [] => [[c]]
        | piece :: rest => (c :: piece) :: rest

/-! ## §3. Phrases. -/

/-- Whether `needle` stands somewhere in the text. -/
def containsChars (needle : List Char) : List Char → Bool
  | [] => needle.isEmpty
  | c :: cs => needle.isPrefixOf (c :: cs) || containsChars needle cs

/-- Whether `needle` stands somewhere in the text. -/
def contains (s needle : String) : Bool := containsChars needle.toList s.toList

/-- The text without `ending`, when it ends so. -/
def dropEnding? (ending s : String) : Option String :=
  if ending.toList.isSuffixOf s.toList then
    some (String.ofList (s.toList.take (s.toList.length - ending.toList.length)))
  else none

/-- The text without `start`, when it starts so. -/
def dropStart? (start s : String) : Option String :=
  if start.toList.isPrefixOf s.toList then
    some (String.ofList (s.toList.drop start.toList.length))
  else none

/-- The pieces with a comma and a space between them. -/
def commaList (pieces : List String) : String := ", ".intercalate pieces

/-! ## §4. Decimal numbers. -/

/-- The value of an ASCII digit. -/
def digit? (c : Char) : Option Nat :=
  if '0' ≤ c ∧ c ≤ '9' then some (c.toNat - '0'.toNat) else none

/-- The number a run of digits writes, continuing from `acc`. -/
def decimalFrom (acc : Nat) : List Char → Option Nat
  | [] => some acc
  | c :: cs => (digit? c).bind fun d => decimalFrom (acc * 10 + d) cs

/-- A non-empty run of digits as a number. -/
def decimal? : List Char → Option Nat
  | [] => none
  | cs => decimalFrom 0 cs

/-- A number below `bound`, in digits with an optional `+` before them. -/
def unsigned? (bound : Nat) (s : String) : Option Nat :=
  let digits := match s.toList with
    | '+' :: rest => rest
    | cs => cs
  (decimal? digits).filter (· < bound)

/-- An integer of at most sixty-four bits, in digits with an optional sign
before them. -/
def signed? (s : String) : Option Int :=
  match s.toList with
  | '-' :: cs => ((decimal? cs).filter (· ≤ Number.signedBound)).map fun n => -(n : Int)
  | _ => (unsigned? Number.signedBound s).map Int.ofNat

end Federation.Text
