/-
  Federation.Text.Blank
  ─────────────────────
  **BLANK CHARACTERS AND TRIMMING.**

  Every text that reaches the library from outside (an identifier, a version
  key, a time, a resource format) is read without the blanks around it.
  Blank means the Unicode property White_Space: twenty-five characters, the
  no-break space and the ideographic space among them, the zero-width space
  not.

  Main result: `trimChars_of_ends` — a text that neither starts nor ends blank
  is its own trimmed form.
-/

namespace Federation.Text

/-! ## §1. The property. -/

/-- The Unicode property White_Space. -/
def isBlank (c : Char) : Bool :=
  let n := c.toNat
  (9 ≤ n && n ≤ 13) || n == 0x20 || n == 0x85 || n == 0xA0 || n == 0x1680
    || (0x2000 ≤ n && n ≤ 0x200A) || n == 0x2028 || n == 0x2029
    || n == 0x202F || n == 0x205F || n == 0x3000

/-! ## §2. Trimming. -/

/-- The characters without the blanks before the first other character. -/
def trimLeft (cs : List Char) : List Char := cs.dropWhile isBlank

/-- The characters without the blanks at either end. -/
def trimChars (cs : List Char) : List Char :=
  (trimLeft (trimLeft cs).reverse).reverse

/-- The text without the blanks at either end. -/
def trim (s : String) : String := String.ofList (trimChars s.toList)

/-- Whether nothing but blanks is there. -/
def isBlankText (s : String) : Bool := s.toList.all isBlank

theorem trimLeft_of_head {c : Char} {cs : List Char} (h : isBlank c = false) :
    trimLeft (c :: cs) = c :: cs := by
  simp [trimLeft, h]

/-- **A text that neither starts nor ends blank is left alone.** -/
theorem trimChars_of_ends {cs : List Char}
    (hhead : ∀ c ∈ cs.head?, isBlank c = false)
    (hlast : ∀ c ∈ cs.getLast?, isBlank c = false) : trimChars cs = cs := by
  have one : ∀ l : List Char, (∀ c ∈ l.head?, isBlank c = false) → trimLeft l = l := by
    intro l hl
    cases l with
    | nil => rfl
    | cons c l => exact trimLeft_of_head (hl c (by simp))
  have hrev : ∀ c ∈ cs.reverse.head?, isBlank c = false := by
    intro c hc
    exact hlast c (by simpa using hc)
  rw [trimChars, one cs hhead, one cs.reverse hrev, List.reverse_reverse]

end Federation.Text
