/-
  Federation.Url.Name.Label
  ─────────────────────────
  **HOST NAMES IN ASCII.**

  A host name is brought into one ASCII form: every character is replaced as
  the table of internationalised names says, the result composed and cut
  into labels at the points; a label with characters beyond ASCII is written
  as `xn--` and its ASCII form.  A label that already starts `xn--` has to
  be the ASCII form of such a label.

  A label beyond ASCII has to be its own replacement, may not start with a
  mark, may hold the two joiners only where a script asks for them, and, in
  a name with characters written from right to left, may not mix directions.
  Hyphens may stand anywhere and a label may be of any length, empty
  included.
-/
import Federation.Text.Split
import Federation.Url.Name.Bootstring
import Federation.Url.Name.Composition

namespace Federation.Url.Name

open Text (splitAll)
open Bootstring (isAscii)

/-! ## §1. Characters. -/

/-- The ASCII characters that no host name may hold: blank, controls, and
those that mean something in a URL. -/
def isForbidden (c : Char) : Bool :=
  c.toNat ≤ 32 || c.toNat == 127
    || ['%', '#', '/', ':', '<', '>', '?', '@', '[', '\\', ']', '^', '|'].contains c

/-- The replacement of every character, composed; none if one has no
place in a name. -/
def replaceAll? (cs : List Char) : Option (List Char) :=
  (cs.mapM mapping?).map fun pieces => compose pieces.flatten

/-! ## §2. Joiners. -/

def nonJoiner : Char := Char.ofNat 0x200C
def joiner : Char := Char.ofNat 0x200D

/-- The first joining behaviour that is not transparent. -/
def firstJoining (cs : List Char) : Joining :=
  match cs.dropWhile fun c => joining c == .transparent with
  | [] => .none
  | c :: _ => joining c

/-- Whether each joiner stands after a mark that suppresses a vowel or, for
the non-joiner, between letters that would join.  `before` is in reverse. -/
def joinersPlaced (before : List Char) : List Char → Bool
  | [] => true
  | c :: rest =>
      let afterVirama := before.head?.any fun d => combiningClass d == virama
      let fine :=
        if c = joiner then afterVirama
        else if c = nonJoiner then
          afterVirama ||
            ((firstJoining before == .left || firstJoining before == .both)
              && (firstJoining rest == .right || firstJoining rest == .both))
        else true
      fine && joinersPlaced (c :: before) rest

/-! ## §3. Directions. -/

/-- Whether a label makes its name one with right-to-left characters. -/
def hasRightToLeft (label : List Char) : Bool :=
  label.any fun c =>
    direction c == .right || direction c == .arabicLetter || direction c == .arabicNumber

/-- The direction of the last character that is not a nonspacing mark. -/
def lastDirection? (label : List Char) : Option Direction :=
  ((label.reverse.map direction).dropWhile (· == .nonspacing)).head?

/-- Whether a label of a name with right-to-left characters keeps to one
direction. -/
def directionsAgree (label : List Char) : Bool :=
  let ds := label.map direction
  match ds with
  | [] => true
  | first :: _ =>
      if first == .right || first == .arabicLetter then
        ds.all (fun d => d != .left && d != .other)
          && [some .right, some .arabicLetter, some .europeanNumber, some .arabicNumber].contains
            (lastDirection? label)
          && !(ds.contains .europeanNumber && ds.contains .arabicNumber)
      else if first == .left then
        ds.all (fun d =>
            d != .right && d != .arabicLetter && d != .arabicNumber && d != .other)
          && [some .left, some .europeanNumber].contains (lastDirection? label)
      else false

/-! ## §4. Labels. -/

/-- The mark of a label in ASCII form. -/
def marker : List Char := ['x', 'n', '-', '-']

/-- Whether a label beyond ASCII may stand in a name. -/
def isProper (label : List Char) : Bool :=
  !label.all isAscii
    && !label.any isForbidden
    && replaceAll? label == some label
    && !(label.head?.any isMark)
    && joinersPlaced [] label
    && Bootstring.read? (Bootstring.write label) == some label

/-- One label: its ASCII form, and the label that the form stands for. -/
def asciiForm? (label : List Char) : Option (List Char × List Char) :=
  if marker.isPrefixOf label then
    if !label.all isAscii then none
    else
      match Bootstring.read? (label.drop marker.length) with
      | none => none
      | some u =>
          if isProper u && Bootstring.write u == label.drop marker.length then some (label, u)
          else none
  else if label.all isAscii then some (label, label)
  else if isProper label then some (marker ++ Bootstring.write label, label)
  else none

/-- The labels between points. -/
def labels (cs : List Char) : List (List Char) := splitAll (· == '.') cs

/-- Labels with points between them. -/
def joinLabels (ls : List (List Char)) : List Char := ['.'].intercalate ls

/-- **The ASCII form of a host name.** -/
def toAscii? (cs : List Char) : Option (List Char) := do
  let mapped ←
    if cs.all isAscii then some (cs.map Char.toLower) else replaceAll? cs
  if mapped.any isForbidden then none
  else
    let pairs ← (labels mapped).mapM asciiForm?
    let rightToLeft := pairs.any fun p => hasRightToLeft p.2
    if rightToLeft && !(pairs.all fun p => directionsAgree p.2) then none
    else some (joinLabels (pairs.map Prod.fst))

end Federation.Url.Name
