/-
  Federation.Json.Writer
  ──────────────────────
  **JSON TEXT.**

  Two layouts: `compact` has no blanks at all, `pretty` gives each item and
  each member a line of its own, indented by two blanks per level.  An empty
  array is `[]` and an empty object `\x7b\x7d` in both.

  A character of a string stands for itself, except the quote, the
  backslash and the control characters, which are escaped — shortly where a
  short escape exists, otherwise by four hexadecimal digits.

  A real is written with the fewest digits that read back: positionally
  when its decimal exponent lies between -5 and 15, otherwise in scientific
  notation with the sign of the exponent always there.
-/
import Federation.Json.Basic
import Federation.Number.Shortest

namespace Federation.Json

open Number (Binary64)

/-! ## §1. Strings. -/

/-- A hexadecimal digit in lower case. -/
def hexDigit (n : Nat) : Char := (Nat.digitChar n).toLower

/-- How one character is written inside a string. -/
def escapeChar (c : Char) : List Char :=
  if c = '"' then ['\\', '"']
  else if c = '\\' then ['\\', '\\']
  else if c = '\n' then ['\\', 'n']
  else if c = '\r' then ['\\', 'r']
  else if c = '\t' then ['\\', 't']
  else if c = Char.ofNat 8 then ['\\', 'b']
  else if c = Char.ofNat 12 then ['\\', 'f']
  else if c.toNat < 32 then
    ['\\', 'u', '0', '0', hexDigit (c.toNat / 16), hexDigit (c.toNat % 16)]
  else [c]

/-- A string in quotes. -/
def quote (s : String) : String :=
  String.ofList ('"' :: (s.toList.flatMap escapeChar ++ ['"']))

/-! ## §2. Numbers. -/

/-- `digits · 10^k`, positionally or scientifically. -/
def decimalText (digits : List Char) (k : Int) : List Char :=
  let point : Int := digits.length + k
  if 0 ≤ k ∧ point ≤ 16 then
    digits ++ List.replicate k.toNat '0' ++ ['.', '0']
  else if 0 < point ∧ point ≤ 16 then
    digits.take point.toNat ++ '.' :: digits.drop point.toNat
  else if -5 < point ∧ point ≤ 0 then
    '0' :: '.' :: (List.replicate (-point).toNat '0' ++ digits)
  else
    let e := point - 1
    let sign := if e < 0 then '-' else '+'
    let head := match digits with
      | [] => []
      | [d] => [d]
      | d :: rest => d :: '.' :: rest
    head ++ 'e' :: sign :: (toString e.natAbs).toList

/-- A real with the fewest digits that read back. -/
def realText (x : Binary64) : String :=
  let magnitude :=
    if x.isZero then ['0', '.', '0']
    else
      let (digits, k) := Number.shortest x
      decimalText (toString digits).toList k
  String.ofList (if x.negative then '-' :: magnitude else magnitude)

/-- The text of a number. -/
def Numeral.text : Numeral → String
  | .integer i => toString i
  | .real x => realText x

/-! ## §3. Values without blanks. -/

mutual

/-- The value in one line, without blanks. -/
def compact : Json → String
  | .null => "null"
  | .bool b => if b then "true" else "false"
  | .number n => n.text
  | .string s => quote s
  | .array items => "[" ++ ",".intercalate (compactItems items) ++ "]"
  | .object members => "\x7b" ++ ",".intercalate (compactMembers members) ++ "\x7d"

/-- The items of an array. -/
def compactItems : List Json → List String
  | [] => []
  | x :: xs => compact x :: compactItems xs

/-- The members of an object. -/
def compactMembers : List (String × Json) → List String
  | [] => []
  | (k, v) :: ms => (quote k ++ ":" ++ compact v) :: compactMembers ms

end

/-! ## §4. Values over several lines. -/

/-- A new line and the blanks of a level. -/
def newline (level : Nat) : String :=
  String.ofList ('\n' :: List.replicate (2 * level) ' ')

/-- Pieces between brackets, each on a line of its own. -/
def bracketed (opening closing : String) (level : Nat) : List String → String
  | [] => opening ++ closing
  | pieces =>
      let separator := "," ++ newline (level + 1)
      opening ++ newline (level + 1) ++ separator.intercalate pieces
        ++ newline level ++ closing

mutual

/-- The value over several lines, its first line at the given level. -/
def prettyAt (level : Nat) : Json → String
  | .null => "null"
  | .bool b => if b then "true" else "false"
  | .number n => n.text
  | .string s => quote s
  | .array items => bracketed "[" "]" level (prettyItems (level + 1) items)
  | .object members => bracketed "\x7b" "\x7d" level (prettyMembers (level + 1) members)

/-- The items of an array, one level in. -/
def prettyItems (level : Nat) : List Json → List String
  | [] => []
  | x :: xs => prettyAt level x :: prettyItems level xs

/-- The members of an object, one level in. -/
def prettyMembers (level : Nat) : List (String × Json) → List String
  | [] => []
  | (k, v) :: ms => (quote k ++ ": " ++ prettyAt level v) :: prettyMembers level ms

end

/-- The value over several lines. -/
def pretty (j : Json) : String := prettyAt 0 j

end Federation.Json
