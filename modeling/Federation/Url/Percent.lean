/-
  Federation.Url.Percent
  ──────────────────────
  **PERCENT ENCODING.**

  A character that may not stand in its part of a URL is written as the
  bytes of its UTF-8 form, each a percent sign and two hexadecimal digits in
  upper case.  Which ASCII characters are written so depends on the part;
  control characters and everything beyond ASCII always are.

  Main results:
    * `encodeChar_of_kept` — a character outside the set stands for itself;
    * `kept_of_mem_encode` — every character that comes out is kept when
      encoded again, so encoding a second time changes nothing
      (`encode_encode`).
-/

namespace Federation.Url

/-! ## §1. The parts of a URL. -/

/-- The parts that have a set of their own. -/
inductive Part where
  | userInfo
  | path
  | query
  | fragment
  deriving DecidableEq, Repr

/-- The ASCII characters, control characters apart, that a part may not
hold. -/
def Part.forbidden : Part → List Char
  | .fragment => [' ', '"', '<', '>', '`']
  | .query => [' ', '"', '#', '<', '>', '\'']
  | .path => [' ', '"', '<', '>', '`', '#', '?', '\x7b', '\x7d']
  | .userInfo =>
      [' ', '"', '<', '>', '`', '#', '?', '\x7b', '\x7d',
        '/', ':', ';', '=', '@', '[', '\\', ']', '^', '|']

/-- Whether the character stands for itself in the part. -/
def Part.keeps (p : Part) (c : Char) : Bool :=
  32 ≤ c.toNat && c.toNat < 127 && !p.forbidden.contains c

/-! ## §2. Encoding. -/

/-- A hexadecimal digit in upper case. -/
def upperHex (n : Nat) : Char := (Nat.digitChar n).toUpper

/-- One byte, encoded. -/
def encodeByte (b : UInt8) : List Char :=
  ['%', upperHex (b.toNat / 16), upperHex (b.toNat % 16)]

/-- One character as it stands in a part. -/
def encodeChar (p : Part) (c : Char) : List Char :=
  if p.keeps c then [c] else (String.utf8EncodeChar c).flatMap encodeByte

/-- A run of characters as it stands in a part. -/
def encode (p : Part) (cs : List Char) : List Char := cs.flatMap (encodeChar p)

theorem encodeChar_of_kept {p : Part} {c : Char} (h : p.keeps c = true) :
    encodeChar p c = [c] := by
  simp [encodeChar, h]

/-- The hexadecimal digits in upper case and the percent sign are kept in
every part. -/
theorem keeps_upperHex (p : Part) {n : Nat} (h : n < 16) : p.keeps (upperHex n) = true := by
  have all : ∀ m ∈ List.range 16, p.keeps (upperHex m) = true := by cases p <;> decide
  exact all n (List.mem_range.2 h)

theorem keeps_percent (p : Part) : p.keeps '%' = true := by cases p <;> decide

/-- **What encoding produces is kept by encoding.** -/
theorem kept_of_mem_encode {p : Part} {cs : List Char} {x : Char}
    (h : x ∈ encode p cs) : p.keeps x = true := by
  simp only [encode, List.mem_flatMap] at h
  obtain ⟨c, _, hx⟩ := h
  unfold encodeChar at hx
  split at hx
  · rename_i hk
    simp only [List.mem_singleton] at hx
    exact hx ▸ hk
  · simp only [List.mem_flatMap, encodeByte, List.mem_cons, List.not_mem_nil, or_false] at hx
    obtain ⟨b, _, hb⟩ := hx
    have hlt := UInt8.toNat_lt b
    rcases hb with rfl | rfl | rfl
    · exact keeps_percent p
    · exact keeps_upperHex p (by omega)
    · exact keeps_upperHex p (by omega)

theorem encode_of_kept {p : Part} {cs : List Char} (h : ∀ c ∈ cs, p.keeps c = true) :
    encode p cs = cs := by
  induction cs with
  | nil => rfl
  | cons c cs ih =>
    have hc := encodeChar_of_kept (h c (by simp))
    have hs := ih fun x hx => h x (by simp [hx])
    simp only [encode, List.flatMap_cons] at hs ⊢
    simp [hc, hs]

/-- **Encoding a second time changes nothing.** -/
theorem encode_encode (p : Part) (cs : List Char) : encode p (encode p cs) = encode p cs :=
  encode_of_kept fun _ h => kept_of_mem_encode h

/-! ## §3. Decoding. -/

/-- The value of a hexadecimal digit in either case. -/
def hexValue? (c : Char) : Option Nat :=
  if '0' ≤ c ∧ c ≤ '9' then some (c.toNat - '0'.toNat)
  else if 'a' ≤ c ∧ c ≤ 'f' then some (c.toNat - 'a'.toNat + 10)
  else if 'A' ≤ c ∧ c ≤ 'F' then some (c.toNat - 'A'.toNat + 10)
  else none

/-- The bytes that a text stands for; a percent sign that no two hexadecimal
digits follow is itself. -/
def decodeBytes : List Char → List UInt8
  | '%' :: a :: b :: rest =>
      match hexValue? a, hexValue? b with
      | some x, some y => UInt8.ofNat (x * 16 + y) :: decodeBytes rest
      | _, _ => String.utf8EncodeChar '%' ++ decodeBytes (a :: b :: rest)
  | c :: rest => String.utf8EncodeChar c ++ decodeBytes rest
  | [] => []

/-- The characters that a text stands for, if its bytes are UTF-8. -/
def decode? (cs : List Char) : Option (List Char) :=
  if cs.contains '%' then
    (String.fromUTF8? (ByteArray.mk (decodeBytes cs).toArray)).map String.toList
  else some cs

end Federation.Url
