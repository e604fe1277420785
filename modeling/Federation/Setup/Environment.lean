/-
  Federation.Setup.Environment
  ────────────────────────────
  **SETTINGS FROM THE ENVIRONMENT.**

  A variable sets a field when its name is a certain start, such as
  `APP_`, followed by the field's name, both in any case.  Two underscores,
  or a point, lead into a member of the field.

  The text of a variable is a list of texts when it has a comma in it and
  does not start with a bracket, a brace or a quote.  Otherwise it is read
  as a value: `true`, `false`, a number, a text or a character in quotes, a
  list in brackets, members in braces, or else simply a text.  What cannot
  be read so to its end is a text as it stands.

  Main results: `value_of_list` — a text with commas is a list of texts;
  `layer_of_others` — variables with other names set nothing.
-/
import Federation.Json.Overlay
import Federation.Json.Reader
import Federation.Text.Blank
import Federation.Text.Fold

namespace Federation.Setup.Environment

open Json (Numeral)
open Number (Binary64)

/-! ## §1. Texts as values. -/

/-- The blanks between the parts of a value. -/
def isSpace (c : Char) : Bool :=
  c == ' ' || c == '\t' || c == '\n' || c == '\r' || c == Char.ofNat 12

def skipSpace (cs : List Char) : List Char := cs.dropWhile isSpace

/-- Whether a bare text ends before the character. -/
def separates (c : Char) : Bool :=
  c == ',' || c == '[' || c == ']' || c == '\x7b' || c == '\x7d'

/-- A number with a point in it; digits may be missing on one side. -/
def real? (cs : List Char) : Option Numeral := do
  let (negative, cs) := match cs with
    | '-' :: rest => (true, rest)
    | '+' :: rest => (false, rest)
    | rest => (false, rest)
  let (whole, rest) := Json.Reader.digits cs
  let s := Json.Reader.wholeDigits ⟨0, 0⟩ whole
  let (fraction, rest) ← match rest with
    | '.' :: rest => some (Json.Reader.digits rest)
    | _ => none
  if whole.isEmpty && fraction.isEmpty then none
  else
    let s := Json.Reader.fractionDigits s fraction
    match rest with
    | [] => s.real? negative
    | c :: rest =>
        if Json.Reader.opensExponent c then
          match Json.Reader.exponentPart? negative s rest with
          | some (x, []) => some x
          | _ => none
        else none

/-- A text without quotes: a number if it is one. -/
def bare (cs : List Char) : Json :=
  let s := String.ofList cs
  -- Without a point even an exponent makes no number.
  let real := if cs.contains '.' then real? cs else none
  match real, Text.unsigned? Number.longBound s, Text.signed? s with
  | some x, _, _ => .number x
  | none, some n, _ => .nat n
  | none, none, some i => .int i
  | none, none, none => .string s

/-- The number that hexadecimal digits write. -/
def hexNumber? (cs : List Char) : Option Nat :=
  cs.foldlM (fun acc c => (Json.Reader.hexValue? c).map (acc * 16 + ·)) 0

/-- The character that `count` hexadecimal digits name, and the rest. -/
def codePoint? (count : Nat) (cs : List Char) : Option (Char × List Char) :=
  if cs.length < count then none
  else do
    let n ← hexNumber? (cs.take count)
    if n.isValidChar then some (Char.ofNat n, cs.drop count) else none

/-- What follows a backslash. -/
def escape? : List Char → Option (Char × List Char)
  | [] => none
  | c :: rest =>
      if c = 'u' then codePoint? 4 rest
      else if c = 'U' then codePoint? 8 rest
      else
        let plain : Option Char :=
          if c = '"' ∨ c = '\\' then some c
          else if c = 'n' then some '\n'
          else if c = 't' then some '\t'
          else if c = 'r' then some '\r'
          else if c = 'b' then some (Char.ofNat 8)
          else if c = 'f' then some (Char.ofNat 12)
          else none
        plain.map (·, rest)

/-- Whether a character may stand in quotes as itself. -/
def standsInQuotes (c : Char) : Bool := c == '\t' || (32 ≤ c.toNat && c.toNat ≠ 127)

/-- The characters up to the closing quote, and the rest. -/
def quoted? : Nat → List Char → Option (List Char × List Char)
  | 0, _ => none
  | _ + 1, [] => none
  | fuel + 1, c :: cs =>
      if c = '"' then some ([], cs)
      else if c = '\\' then do
        let (x, rest) ← escape? cs
        let (xs, rest) ← quoted? fuel rest
        some (x :: xs, rest)
      else if standsInQuotes c then do
        let (xs, rest) ← quoted? fuel cs
        some (c :: xs, rest)
      else none

/-- The name of a member, and the rest. -/
def name? (cs : List Char) : Option (String × List Char) :=
  match cs with
  | '"' :: rest => (quoted? (rest.length + 1) rest).map fun (xs, rest) => (String.ofList xs, rest)
  | cs =>
      let inName := fun c : Char => !separates c && c != '='
      match cs.takeWhile inName with
      | [] => none
      | xs => some (Text.trim (String.ofList xs), cs.dropWhile inName)

mutual

/-- One value and the blanks after it, and the rest. -/
def value? : Nat → List Char → Option (Json × List Char)
  | 0, _ => none
  | fuel + 1, cs =>
      let cs := skipSpace cs
      let found : Option (Json × List Char) :=
        if "true".toList.isPrefixOf cs then some (.bool true, cs.drop 4)
        else if "false".toList.isPrefixOf cs then some (.bool false, cs.drop 5)
        else match cs with
          | '\x7b' :: rest =>
              (members? fuel rest).map fun (ms, rest) => (.object (Keyed.ofPairs ms), rest)
          | '[' :: rest => (items? fuel rest).map fun (xs, rest) => (.array xs, rest)
          | '"' :: rest =>
              (quoted? (rest.length + 1) rest).map fun (xs, rest) =>
                (.string (String.ofList xs), rest)
          | '\'' :: rest =>
              -- Single quotes hold one character, never a text.
              match rest with
              | c :: '\'' :: rest => some (.string (String.ofList [c]), rest)
              | _ => none
          | cs =>
              let text := cs.takeWhile fun c => !separates c
              some (bare (Text.trimChars text), cs.dropWhile fun c => !separates c)
      found.map fun (v, rest) => (v, skipSpace rest)

/-- The items up to the closing bracket. -/
def items? : Nat → List Char → Option (List Json × List Char)
  | 0, _ => none
  | fuel + 1, cs =>
      match cs with
      | ']' :: rest => some ([], rest)
      | cs => do
          let (x, rest) ← value? fuel cs
          match rest with
          | ']' :: rest => some ([x], rest)
          | ',' :: rest => do
              let (xs, rest) ← items? fuel rest
              some (x :: xs, rest)
          | _ => none

/-- The members up to the closing brace, in the order of the text. -/
def members? : Nat → List Char → Option (List (String × Json) × List Char)
  | 0, _ => none
  | fuel + 1, cs =>
      match cs with
      | '\x7d' :: rest => some ([], rest)
      | cs => do
          let (name, rest) ← name? (skipSpace cs)
          match skipSpace rest with
          | '=' :: rest => do
              let (v, rest) ← value? fuel rest
              match rest with
              | '\x7d' :: rest => some ([(name, v)], rest)
              | ',' :: rest => do
                  let (ms, rest) ← members? fuel rest
                  some ((name, v) :: ms, rest)
              | _ => none
          | _ => none

end

/-- Whether a text is a list of texts. -/
def isList (cs : List Char) : Bool :=
  cs.contains ',' && !(cs.head?.any fun c => c == '[' || c == '\x7b' || c == '"' || c == '\'')

/-- **The value of a variable.** -/
def value (s : String) : Json :=
  let cs := s.toList
  if isList cs then
    .array ((Text.splitAll (· == ',') cs).map fun xs => .string (String.ofList (Text.trimChars xs)))
  else match value? (2 * cs.length + 2) cs with
    | some (v, []) => v
    | _ => .string s

/-! ## §2. Names as fields. -/

/-- The name with a point for each pair of underscores. -/
def dotted : List Char → List Char
  | '_' :: '_' :: rest => '.' :: dotted rest
  | c :: rest => c :: dotted rest
  | [] => []

/-- The way to the place that a name stands for; it ends at an empty
part. -/
def path (name : String) : List String :=
  ((Text.splitAll (· == '.') (dotted (Text.lower name).toList)).takeWhile (!·.isEmpty)).map
    String.ofList

/-- A value at the end of a way. -/
def nested : List String → Json → Json
  | [], v => v
  | name :: rest, v => .object [(name, nested rest v)]

/-- What follows the start in the name of a variable. -/
def afterStart? (start name : String) : Option String :=
  if (Text.lower start).toList.isPrefixOf (Text.lower name).toList then
    some (String.ofList (name.toList.drop start.length))
  else none

/-- What one variable sets. -/
def setting? (start : String) (v : String × String) : Option (Keyed String Json) := do
  let name ← afterStart? start v.1
  match path name with
  | [] => none
  | field :: rest => some [(field, nested rest (value v.2))]

/-- **What the variables set**, each of them over those before it. -/
def layer (start : String) (vs : List (String × String)) : Keyed String Json :=
  (vs.filterMap (setting? start)).foldl Json.overlayMembers []

/-! ## §3. Laws. -/

/-- **A text with commas is a list of texts.** -/
theorem value_of_list {s : String} (h : isList s.toList = true) :
    ∃ ss : List String, value s = .texts ss := by
  refine ⟨(Text.splitAll (· == ',') s.toList).map fun xs => String.ofList (Text.trimChars xs), ?_⟩
  simp [value, h, Json.texts]

/-- Variables with other names set nothing. -/
theorem layer_of_others {start : String} {vs : List (String × String)}
    (h : ∀ v ∈ vs, afterStart? start v.1 = none) : layer start vs = [] := by
  have : vs.filterMap (setting? start) = [] := by
    rw [List.filterMap_eq_nil_iff]
    intro v hv
    simp [setting?, h v hv]
  rw [layer, this]
  rfl

end Federation.Setup.Environment
