/-
  Federation.Json.Reader
  ──────────────────────
  **READING JSON TEXT.**

  The grammar is the standard one: four kinds of blank, no comments, no
  trailing comma, no leading zero, no control character inside a string, a
  surrogate only as half of a pair.  Containers nest at most 127 deep.  Of
  two members with one name the later counts.

  An integer that fits sixty-four bits, signed or unsigned, is kept exactly;
  `-0`, a larger integer and anything with a point or an exponent is a real.
  The digits of a real are read into a sixty-four bit significand as far as
  they fit, and the significand's nearest binary64 value is then multiplied
  or divided once by the nearest value to a power of ten.  A number beyond
  the largest finite value is no number.

  Each reader takes the characters and gives back what it read and the
  rest.  The reader of values recurses on `fuel`, which `parse?` sets to the
  length of the text: every step takes a character.
-/
import Federation.Json.Basic
import Federation.Text.Split

namespace Federation.Json

namespace Reader

open Number (Binary64 longBound signedBound)
open Text (digit?)

/-! ## §1. Strings. -/

/-- The blanks of the grammar. -/
def isSpace (c : Char) : Bool := c == ' ' || c == '\n' || c == '\r' || c == '\t'

def skipSpace (cs : List Char) : List Char := cs.dropWhile isSpace

/-- The value of a hexadecimal digit. -/
def hexValue? (c : Char) : Option Nat :=
  if '0' ≤ c ∧ c ≤ '9' then some (c.toNat - '0'.toNat)
  else if 'a' ≤ c ∧ c ≤ 'f' then some (c.toNat - 'a'.toNat + 10)
  else if 'A' ≤ c ∧ c ≤ 'F' then some (c.toNat - 'A'.toNat + 10)
  else none

/-- Four hexadecimal digits. -/
def unit? : List Char → Option (Nat × List Char)
  | a :: b :: c :: d :: rest => do
      let a ← hexValue? a
      let b ← hexValue? b
      let c ← hexValue? c
      let d ← hexValue? d
      some (((a * 16 + b) * 16 + c) * 16 + d, rest)
  | _ => none

/-- What follows `\u`: one unit, or the two units of a surrogate pair. -/
def unicodeEscape? (cs : List Char) : Option (Char × List Char) := do
  let (high, rest) ← unit? cs
  if 0xD800 ≤ high ∧ high < 0xDC00 then
    match rest with
    | '\\' :: 'u' :: rest => do
        let (low, rest) ← unit? rest
        if 0xDC00 ≤ low ∧ low < 0xE000 then
          some (Char.ofNat (0x10000 + (high - 0xD800) * 0x400 + (low - 0xDC00)), rest)
        else none
    | _ => none
  else if 0xDC00 ≤ high ∧ high < 0xE000 then none
  else some (Char.ofNat high, rest)

/-- What follows a backslash. -/
def escape? : List Char → Option (Char × List Char)
  | 'u' :: rest => unicodeEscape? rest
  | c :: rest =>
      let plain : Option Char :=
        if c = '"' ∨ c = '\\' ∨ c = '/' then some c
        else if c = 'n' then some '\n'
        else if c = 't' then some '\t'
        else if c = 'r' then some '\r'
        else if c = 'b' then some (Char.ofNat 8)
        else if c = 'f' then some (Char.ofNat 12)
        else none
      plain.map (·, rest)
  | [] => none

/-- The characters up to the closing quote. -/
def stringBody? : Nat → List Char → Option (List Char × List Char)
  | 0, _ => none
  | _ + 1, [] => none
  | fuel + 1, c :: cs =>
      if c = '"' then some ([], cs)
      else if c = '\\' then do
        let (x, rest) ← escape? cs
        let (xs, rest) ← stringBody? fuel rest
        some (x :: xs, rest)
      else if c.toNat < 32 then none
      else do
        let (xs, rest) ← stringBody? fuel cs
        some (c :: xs, rest)

/-- A string whose opening quote is already taken. -/
def string? (cs : List Char) : Option (String × List Char) :=
  (stringBody? (cs.length + 1) cs).map fun (xs, rest) => (String.ofList xs, rest)

/-! ## §2. Numbers. -/

/-- The largest significand. -/
def maxSignificand : Nat := longBound - 1

/-- A significand and the power of ten that it multiplies. -/
structure Scaled where
  significand : Nat
  exponent : Int

/-- The digits before the point; a digit that no longer fits, and every one
after it, only raises the exponent. -/
def wholeDigits (s : Scaled) : List Nat → Scaled
  | [] => s
  | d :: ds =>
      if s.exponent = 0 ∧ s.significand * 10 + d ≤ maxSignificand then
        wholeDigits { s with significand := s.significand * 10 + d } ds
      else wholeDigits { s with exponent := s.exponent + 1 } ds

/-- The digits after the point, up to the first that no longer fits. -/
def fractionDigits (s : Scaled) : List Nat → Scaled
  | [] => s
  | d :: ds =>
      if s.significand * 10 + d ≤ maxSignificand then
        fractionDigits ⟨s.significand * 10 + d, s.exponent - 1⟩ ds
      else s

/-- The magnitude times `10^e`, in one rounding per step of at most 308. -/
def scale (x : Binary64) (e : Int) : Nat → Option Binary64
  | 0 => some Binary64.zero
  | fuel + 1 =>
      if 0 ≤ e then
        if e ≤ 308 then (Binary64.tenTo? e.toNat).bind x.mul?
        else if x.isZero then some x else none
      else if -308 ≤ e then (Binary64.tenTo? (-e).toNat).bind x.div?
      else if x.isZero then some x
      else do
        let big ← Binary64.tenTo? 308
        let y ← x.div? big
        scale y (e + 308) fuel

/-- The real of a scaled significand. -/
def Scaled.real? (negative : Bool) (s : Scaled) : Option Numeral := do
  let x ← Binary64.ofNat? s.significand
  let y ← scale x s.exponent 5
  some (.real { y with negative })

/-- An integer: exact when it fits, a real otherwise. -/
def integer? (negative : Bool) (s : Scaled) : Option Numeral :=
  if s.exponent ≠ 0 then s.real? negative
  else if !negative then some (.integer s.significand)
  else if s.significand = 0 then some (.real { Binary64.zero with negative := true })
  else if s.significand ≤ signedBound then some (.integer (-s.significand))
  else s.real? true

/-- The digits at the front. -/
def digits (cs : List Char) : List Nat × List Char :=
  ((cs.takeWhile fun c => (digit? c).isSome).filterMap digit?,
    cs.dropWhile fun c => (digit? c).isSome)

/-- A written exponent from here on makes any number zero or too large. -/
def exponentBound : Nat := 2147483648

/-- An exponent part, if one follows, applied to the significand. -/
def exponentPart? (negative : Bool) (s : Scaled) (cs : List Char) :
    Option (Numeral × List Char) :=
  let (down, cs) := match cs with
    | '+' :: rest => (false, rest)
    | '-' :: rest => (true, rest)
    | rest => (false, rest)
  let (ds, rest) := digits cs
  if ds.isEmpty then none
  else
    let e : Nat := ds.foldl (fun acc d => acc * 10 + d) 0
    if exponentBound ≤ e then
      if s.significand ≠ 0 ∧ !down then none
      else some (.real { Binary64.zero with negative }, rest)
    else
      let shifted := { s with exponent := if down then s.exponent - (e : Int) else s.exponent + (e : Int) }
      (shifted.real? negative).map (·, rest)

/-- Whether the character opens an exponent part. -/
def opensExponent (c : Char) : Bool := c == 'e' || c == 'E'

/-- What follows the whole digits of a number. -/
def afterWhole? (negative : Bool) (s : Scaled) (cs : List Char) :
    Option (Numeral × List Char) :=
  match cs with
  | '.' :: cs =>
      let (ds, rest) := digits cs
      if ds.isEmpty then none
      else
        let s := fractionDigits s ds
        match rest with
        | c :: more =>
            if opensExponent c then exponentPart? negative s more
            else (s.real? negative).map (·, rest)
        | [] => (s.real? negative).map (·, rest)
  | c :: more =>
      if opensExponent c then exponentPart? negative s more
      else (integer? negative s).map (·, cs)
  | [] => (integer? negative s).map (·, cs)

/-- A number. -/
def number? (cs : List Char) : Option (Numeral × List Char) :=
  let (negative, cs) := match cs with
    | '-' :: rest => (true, rest)
    | rest => (false, rest)
  let (ds, rest) := digits cs
  match ds with
  | [] => none
  | 0 :: _ :: _ => none
  | ds => afterWhole? negative (wholeDigits ⟨0, 0⟩ ds) rest

/-! ## §3. Values. -/

/-- How deep containers may nest. -/
def maxDepth : Nat := 127

/-- The rest after a word, when the text starts with it. -/
def word? (word : String) (value : Json) (cs : List Char) : Option (Json × List Char) :=
  if word.toList.isPrefixOf cs then some (value, cs.drop word.toList.length) else none

mutual

/-- One value, `depth` containers being still allowed inside each other. -/
def value? : Nat → Nat → List Char → Option (Json × List Char)
  | 0, _, _ => none
  | fuel + 1, depth, cs =>
      match skipSpace cs with
      | [] => none
      | '"' :: rest => (string? rest).map fun (s, rest) => (.string s, rest)
      | '[' :: rest =>
          match depth with
          | 0 => none
          | depth + 1 =>
              match skipSpace rest with
              | ']' :: rest => some (.array [], rest)
              | rest => (items? fuel depth rest).map fun (xs, rest) => (.array xs, rest)
      | '\x7b' :: rest =>
          match depth with
          | 0 => none
          | depth + 1 =>
              match skipSpace rest with
              | '\x7d' :: rest => some (.object [], rest)
              | rest => (fields? fuel depth rest).map fun (ms, rest) =>
                  (.object (Keyed.ofPairs ms), rest)
      | c :: rest =>
          if c = 't' then word? "true" (.bool true) (c :: rest)
          else if c = 'f' then word? "false" (.bool false) (c :: rest)
          else if c = 'n' then word? "null" .null (c :: rest)
          else (number? (c :: rest)).map fun (n, rest) => (.number n, rest)

/-- The items of an array up to its bracket. -/
def items? : Nat → Nat → List Char → Option (List Json × List Char)
  | 0, _, _ => none
  | fuel + 1, depth, cs => do
      let (x, rest) ← value? fuel depth cs
      match skipSpace rest with
      | ']' :: rest => some ([x], rest)
      | ',' :: rest => do
          let (xs, rest) ← items? fuel depth rest
          some (x :: xs, rest)
      | _ => none

/-- The members of an object up to its brace, in the order of the text. -/
def fields? : Nat → Nat → List Char → Option (List (String × Json) × List Char)
  | 0, _, _ => none
  | fuel + 1, depth, cs =>
      match skipSpace cs with
      | '"' :: rest => do
          let (name, rest) ← string? rest
          match skipSpace rest with
          | ':' :: rest => do
              let (v, rest) ← value? fuel depth rest
              match skipSpace rest with
              | '\x7d' :: rest => some ([(name, v)], rest)
              | ',' :: rest => do
                  let (ms, rest) ← fields? fuel depth rest
                  some ((name, v) :: ms, rest)
              | _ => none
          | _ => none
      | _ => none

end

end Reader

/-- **The value a text writes**, with nothing but blanks around it. -/
def parse? (s : String) : Option Json := do
  let cs := s.toList
  let (v, rest) ← Reader.value? (cs.length + 1) Reader.maxDepth cs
  if (Reader.skipSpace rest).isEmpty then some v else none

end Federation.Json
