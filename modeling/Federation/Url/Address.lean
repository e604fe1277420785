/-
  Federation.Url.Address
  ──────────────────────
  **NUMERIC HOSTS.**

  A host may be an address in place of a name.  An IPv4 address is one to
  four numbers parted by points, each decimal, octal (leading zero) or
  hexadecimal (leading `0x`), the last filling all the bytes that the others
  leave.  An IPv6 address, in brackets, is eight pieces of four hexadecimal
  digits, of which one run of zeros may be left out as `::` and the last two
  may be four decimal numbers.

  Either is written in one way only: IPv4 as four decimal numbers, IPv6 with
  the first longest run of at least two zero pieces left out.
-/
import Federation.Text.Split

namespace Federation.Url

open Text (splitAll digit?)

/-! ## §1. IPv4. -/

/-- The value of a digit in the given base. -/
def digitIn? (base : Nat) (c : Char) : Option Nat :=
  let v :=
    if '0' ≤ c ∧ c ≤ '9' then some (c.toNat - '0'.toNat)
    else if 'a' ≤ c ∧ c ≤ 'f' then some (c.toNat - 'a'.toNat + 10)
    else if 'A' ≤ c ∧ c ≤ 'F' then some (c.toNat - 'A'.toNat + 10)
    else none
  v.filter (· < base)

/-- The number that digits of a base write; zero for no digits. -/
def numberIn? (base : Nat) (cs : List Char) : Option Nat :=
  cs.foldlM (fun acc c => (digitIn? base c).map (acc * base + ·)) 0

/-- One part of an IPv4 address. -/
def ipv4Part? : List Char → Option Nat
  | [] => none
  | '0' :: 'x' :: rest => numberIn? 16 rest
  | '0' :: 'X' :: rest => numberIn? 16 rest
  | '0' :: c :: rest => numberIn? 8 (c :: rest)
  | cs => numberIn? 10 cs

/-- The parts of a host between points, without an empty last one. -/
def hostParts (cs : List Char) : List (List Char) :=
  let parts := splitAll (· == '.') cs
  if parts.getLast? = some [] then parts.dropLast else parts

/-- Whether the last part of a host is a number: such a host is an IPv4
address or nothing. -/
def endsInNumber (cs : List Char) : Bool :=
  match (hostParts cs).getLast? with
  | none => false
  | some [] => false
  | some last => last.all (fun c => (digit? c).isSome) || (ipv4Part? last).isSome

/-- The address of parts already read: all but the last are bytes. -/
def ipv4OfNumbers? (ns : List Nat) : Option Nat :=
  match ns.getLast? with
  | none => none
  | some last =>
      let front := ns.dropLast
      if 3 < front.length then none
      else if front.any (255 < ·) then none
      else if Nat.pow 256 (4 - front.length) ≤ last then none
      else some (front.zipIdx.foldl (fun acc (n, i) => acc + n * Nat.pow 256 (3 - i)) last)

/-- **An IPv4 address** as a number below `2^32`. -/
def ipv4? (cs : List Char) : Option Nat :=
  ((hostParts cs).mapM ipv4Part?).bind ipv4OfNumbers?

/-- The four numbers of an address. -/
def ipv4Text (a : Nat) : String :=
  ".".intercalate
    [toString (a / 16777216 % 256), toString (a / 65536 % 256),
      toString (a / 256 % 256), toString (a % 256)]

/-! ## §2. Reading IPv6. -/

/-- Four decimal numbers at the end of an IPv6 address, each below 256 and
without leading zeros, as two pieces. -/
def embeddedIpv4? (cs : List Char) : Option (List Nat) :=
  let part? := fun p : List Char =>
    match p with
    | [] => none
    | '0' :: _ :: _ => none
    | p => (numberIn? 10 p).filter (· ≤ 255)
  match (splitAll (· == '.') cs).mapM part? with
  | some [a, b, c, d] => some [a * 256 + b, c * 256 + d]
  | _ => none

/-- Pieces parted by single colons; only the very last may be in IPv4
form. -/
def ipv6Pieces? : List (List Char) → Option (List Nat)
  | [] => some []
  | [last] =>
      if last.contains '.' then embeddedIpv4? last else (piece? last).map ([·])
  | p :: rest => do
      let n ← piece? p
      let ns ← ipv6Pieces? rest
      some (n :: ns)
where
  /-- One to four hexadecimal digits. -/
  piece? (p : List Char) : Option Nat :=
    if p.isEmpty || 4 < p.length then none else numberIn? 16 p

/-- The pieces of a text that may be empty. -/
def sidePieces? (cs : List Char) : Option (List Nat) :=
  if cs.isEmpty then some [] else ipv6Pieces? (splitAll (· == ':') cs)

/-- Cut at the first double colon. -/
def splitDoubleColon : List Char → Option (List Char × List Char)
  | ':' :: ':' :: rest => some ([], rest)
  | c :: cs => (splitDoubleColon cs).map fun (a, b) => (c :: a, b)
  | [] => none

/-- **An IPv6 address** as its eight pieces. -/
def ipv6? (cs : List Char) : Option (List Nat) :=
  match splitDoubleColon cs with
  | none => (sidePieces? cs).filter (·.length = 8)
  | some (before, rest) =>
      if before.contains '.' then none
      else do
        let left ← sidePieces? before
        let right ← sidePieces? rest
        if left.length + right.length ≤ 7 then
          some (left ++ List.replicate (8 - left.length - right.length) 0 ++ right)
        else none

/-! ## §3. Writing IPv6. -/

/-- Length of the run of zeros at the front. -/
def zeroRun (ns : List Nat) : Nat := (ns.takeWhile (· == 0)).length

/-- Start and length of the first longest run of zeros from index `i` on. -/
def longestRun (i : Nat) : List Nat → Nat × Nat
  | [] => (0, 0)
  | n :: ns =>
      let here := zeroRun (n :: ns)
      let later := longestRun (i + 1) ns
      if later.2 ≤ here then (i, here) else later

/-- A piece in hexadecimal without leading zeros. -/
def pieceText (n : Nat) : String := String.ofList (Nat.toDigits 16 n)

/-- The pieces, the run of zeros that is left out being `::`. -/
def ipv6Text (ns : List Nat) : String :=
  let (start, len) := longestRun 0 ns
  let colons := fun ps : List Nat => ":".intercalate (ps.map pieceText)
  if len < 2 then colons ns
  else colons (ns.take start) ++ "::" ++ colons (ns.drop (start + len))

end Federation.Url
