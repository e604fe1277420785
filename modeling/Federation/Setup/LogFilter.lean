/-
  Federation.Setup.LogFilter
  ──────────────────────────
  **WHICH LOG LINES ARE WRITTEN.**

  A filter is a list of directives between commas, empty ones not counting.
  A directive is a level, or a target with an optional span and an optional
  level after an equals sign:

      info
      engine::fleet=debug
      engine[visit\x7burl=x\x7d]=trace

  A level is a word in any case, a digit from 0 to 5, or left out.  A target
  starts with a letter, a digit, a colon, a hyphen or an underscore; a span
  stands in brackets and may name a field in braces.

  Blanks around a directive do not matter unless it ends in a level: that
  level is whatever stands between the equals sign and the next comma, and
  nothing may stand before such a directive.

  Main results: `accepts_empty`; `accepts_level` — every level is a filter.
-/
import Federation.Text.Blank
import Federation.Text.Fold
import Federation.Text.Split

namespace Federation.Setup.LogFilter

/-! ## §1. Levels. -/

/-- The words for levels. -/
def levelWords : List String := ["off", "error", "warn", "info", "debug", "trace"]

/-- Whether a text names a level. -/
def isLevel (s : String) : Bool :=
  (Text.unsigned? 6 s).isSome || levelWords.any fun w => Text.sameFolded w s

/-! ## §2. The parts of a directive. -/

/-- How far a directive has been read. -/
inductive Stage where
  | start
  /-- In a level or a target. -/
  | word
  /-- In brackets. -/
  | span
  /-- In braces, something having been read there or not. -/
  | field (some : Bool)
  /-- After the braces. -/
  | afterFields
  /-- After the brackets. -/
  | afterSpan
  /-- After the equals sign, what was read there being given backwards. -/
  | level (reversed : List Char)
  deriving DecidableEq, Repr

/-- Whether a target may start with the character. -/
def opensWord (c : Char) : Bool :=
  c.isAlphanum || c == '-' || c == ':' || c == '_' || 128 ≤ c.toNat

/-- Read on by one character. -/
def Stage.next : Stage → Char → Option Stage
  | .start, c => if c = '[' then some .span else if opensWord c then some .word else none
  | .word, c =>
      if c = '=' then some (.level []) else if c = '[' then some .span else some .word
  | .span, c =>
      if c = ']' then some .afterSpan else if c = '\x7b' then some (.field false)
      else some .span
  | .field read, c =>
      if c = '\x7d' then if read then some .afterFields else none else some (.field true)
  | .afterFields, c => if c = ']' then some .afterSpan else none
  | .afterSpan, c => if c = '=' then some (.level []) else none
  | .level reversed, c => some (.level (c :: reversed))

/-- Read a number of characters. -/
def Stage.run (s : Stage) (cs : List Char) : Option Stage := cs.foldlM Stage.next s

/-! ## §3. Filters. -/

/-- The blanks at the end. -/
def blankEnd (cs : List Char) : List Char := (cs.reverse.takeWhile Text.isBlank).reverse

/-- Whether the characters start blank. -/
def startsBlank (cs : List Char) : Bool := cs.head?.any Text.isBlank

/-- Whether the characters between two commas are a directive. -/
def isDirective (cs : List Char) : Bool :=
  match Stage.start.run (Text.trimChars cs) with
  | some .word | some .afterSpan => true
  | some (.level reversed) =>
      let level := reversed.reverse ++ blankEnd cs
      !startsBlank cs && (level.isEmpty || isLevel (String.ofList level))
  | _ => false

/-- **Whether a text is a filter.** -/
def accepts (s : String) : Bool :=
  (Text.splitAll (· == ',') s.toList).all fun cs => cs.isEmpty || isDirective cs

/-! ## §4. Laws. -/

/-- A filter may be empty. -/
theorem accepts_empty : accepts "" = true := by decide

/-- **Every level is a filter**, written as a word. -/
theorem accepts_level {w : String} (h : w ∈ levelWords) : accepts w = true := by
  simp only [levelWords, List.mem_cons, List.not_mem_nil, or_false] at h
  rcases h with rfl | rfl | rfl | rfl | rfl | rfl <;> decide

end Federation.Setup.LogFilter
