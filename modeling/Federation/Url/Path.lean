/-
  Federation.Url.Path
  ───────────────────
  **PATHS.**

  A path is a non-empty list of segments; the slash stands before each of
  them, so a path that ends in a slash has an empty last segment.  A dot
  segment means the folder it stands in and a double-dot segment the folder
  above, at the end of the path as well as inside; a dot may be written as
  `%2e`.  A segment such as `C:`, a drive letter, is never left upwards.

  Main results:
    * `settle_ne_nil` — there is always a last segment;
    * `settle_of_plain` — a path without dot segments is left as it is.
-/
import Federation.Text.Fold

namespace Federation.Url

/-! ## §1. Segments with a meaning. -/

/-- The spellings of one dot. -/
def dotForms : List (List Char) := [['.'], ['%', '2', 'e'], ['%', '2', 'E']]

/-- The segment for the folder it stands in. -/
def isDot (s : List Char) : Bool := dotForms.contains s

/-- The segment for the folder above. -/
def isDoubleDot (s : List Char) : Bool :=
  dotForms.any fun a => dotForms.any fun b => s == a ++ b

/-- A letter and a colon or a bar. -/
def isDrive : List Char → Bool
  | [a, b] => a.isAlpha && (b == ':' || b == '|')
  | _ => false

/-- A segment that stands for itself. -/
def isPlain (s : List Char) : Bool := !isDot s && !isDoubleDot s

/-! ## §2. Following the dots. -/

/-- The folder above; the innermost segment comes first. -/
def ascend : List (List Char) → List (List Char)
  | [] => []
  | s :: above => if isDrive s then s :: above else above

/-- The folder reached by one segment that a slash follows. -/
def enter (folder : List (List Char)) (s : List Char) : List (List Char) :=
  if isDoubleDot s then ascend folder
  else if isDot s then folder
  else s :: folder

/-- The path from a folder, its innermost segment first, along segments of
which the last has no slash after it. -/
def settleFrom (folder : List (List Char)) : List (List Char) → List (List Char)
  | [] => ([] :: folder).reverse
  | [last] =>
      if isPlain last then (last :: folder).reverse
      else ([] :: enter folder last).reverse
  | s :: rest => settleFrom (enter folder s) rest

/-- The path that segments stand for. -/
def settle (segments : List (List Char)) : List (List Char) := settleFrom [] segments

theorem enter_of_plain {folder : List (List Char)} {s : List Char} (h : isPlain s = true) :
    enter folder s = s :: folder := by
  simp only [isPlain, Bool.and_eq_true, Bool.not_eq_true'] at h
  simp [enter, h.1, h.2]

theorem settleFrom_ne_nil (folder segments : List (List Char)) :
    settleFrom folder segments ≠ [] := by
  induction segments generalizing folder with
  | nil => simp [settleFrom]
  | cons s rest ih =>
    cases rest with
    | nil => by_cases h : isPlain s = true <;> simp [settleFrom, h]
    | cons t rest => exact ih (enter folder s)

/-- **There is always a last segment.** -/
theorem settle_ne_nil (segments : List (List Char)) : settle segments ≠ [] :=
  settleFrom_ne_nil [] segments

theorem settleFrom_of_plain (folder : List (List Char)) {segments : List (List Char)} (hne : segments ≠ [])
    (h : ∀ s ∈ segments, isPlain s = true) :
    settleFrom folder segments = folder.reverse ++ segments := by
  induction segments generalizing folder with
  | nil => exact absurd rfl hne
  | cons s rest ih =>
    have hs := h s (by simp)
    cases rest with
    | nil => simp [settleFrom, hs]
    | cons t rest =>
      have := ih (s :: folder) (by simp) fun x hx => h x (by simp [hx])
      simp only [settleFrom, enter_of_plain hs, this]
      simp

/-- **A path without dot segments is left as it is.** -/
theorem settle_of_plain {segments : List (List Char)} (hne : segments ≠ [])
    (h : ∀ s ∈ segments, isPlain s = true) : settle segments = segments := by
  simpa [settle] using settleFrom_of_plain [] hne h

/-! ## §3. Text. -/

/-- The path with its slashes. -/
def pathText (segments : List (List Char)) : List Char :=
  segments.flatMap fun s => '/' :: s

end Federation.Url
