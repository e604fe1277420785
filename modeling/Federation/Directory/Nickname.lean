/-
  Federation.Directory.Nickname
  ─────────────────────────────
  **NICKNAMES.**

  Operators give aggregates short names.  A directive `name=urn,url` declares
  one; the URN may be left empty.  Names are compared without blanks at the
  ends and without regard to case, and of several directives for one name the
  last holds.

  The table also answers the way back, from a URL or a URN to the first name
  in alphabetical order, so that results carry the name the operator knows.

  Main results: `lookup_insert_self`, `lookup_insert_ne` — a directive is
  seen under its own name and changes no other; `ascending_ofDirectives` —
  names are in order.
-/
import Federation.Directory.Authority
import Federation.Keyed
import Federation.Url.Reader

namespace Federation.Directory

/-! ## §1. Directives. -/

/-- A name for an aggregate. -/
structure Directive where
  nickname : String
  /-- Empty when not known. -/
  urn : String
  /-- As it was written. -/
  url : String
  deriving DecidableEq, Repr

/-- Why a text is no directive.  Each fault carries the whole text. -/
inductive DirectiveFault where
  | missingAssignment (text : String)
  | missingUrl (text : String)
  | emptyNickname (text : String)
  | invalidUrl (text : String) (fault : Url.Fault)
  deriving DecidableEq, Repr

/-- The words for a fault. -/
def DirectiveFault.message : DirectiveFault → String
  | .missingAssignment text =>
      "nickname directive '" ++ text ++ "' is missing the assignment '='"
  | .missingUrl text =>
      "nickname directive '" ++ text ++ "' is missing the ',' between URN and URL"
  | .emptyNickname text => "nickname directive '" ++ text ++ "' has an empty nickname"
  | .invalidUrl text fault =>
      "nickname directive '" ++ text ++ "' has an invalid URL: " ++ fault.message

namespace Directive

/-- **Read a directive**: the name ends at the first equals sign, the URN at
the first comma after it, and the URL has to be usable. -/
def read (text : String) : Except DirectiveFault Directive :=
  match Text.splitOnce (· == '=') text with
  | none => .error (.missingAssignment text)
  | some (name, target) =>
      match Text.splitOnce (· == ',') target with
      | none => .error (.missingUrl text)
      | some (urn, url) =>
          if (Text.trim name).isEmpty then .error (.emptyNickname text)
          else match Url.canonical (Text.trim url) with
            | .error fault => .error (.invalidUrl text fault)
            | .ok _ => .ok ⟨Text.trim name, Text.trim urn, Text.trim url⟩

/-- The directive as it is written. -/
def text (d : Directive) : String := d.nickname ++ "=" ++ d.urn ++ "," ++ d.url

end Directive

/-! ## §2. The table. -/

/-- What a nickname stands for. -/
structure Target where
  urn : String
  url : String
  deriving DecidableEq, Repr

/-- Targets by folded name. -/
abbrev Nicknames := Keyed String Target

/-- The form in which names are compared. -/
def nameKey (name : String) : String := Text.lower (Text.trim name)

namespace Nicknames

/-- Declare a name. -/
def insert (t : Nicknames) (name : String) (target : Target) : Nicknames :=
  Keyed.insert t (nameKey name) target

/-- The table of a list of directives. -/
def ofDirectives (ds : List Directive) : Nicknames :=
  ds.foldl (fun t d => insert t d.nickname ⟨d.urn, d.url⟩) []

/-- What a name stands for. -/
def lookup (t : Nicknames) (name : String) : Option Target := Keyed.get? t (nameKey name)

/-- Whether both texts are usable addresses of one aggregate. -/
def sameAddress (a b : String) : Bool :=
  match Url.canonical a, Url.canonical b with
  | .ok x, .ok y => x == y
  | _, _ => false

/-- The first name for an address. -/
def byUrl (t : Nicknames) (url : String) : Option (String × Target) :=
  List.find? (fun p => sameAddress url p.2.url) t

/-- The first name whose URN is of the given one's authority. -/
def byUrn (t : Nicknames) (urn : String) : Option (String × Target) :=
  List.find? (fun p => !p.2.urn.isEmpty && sameAuthority p.2.urn urn) t

/-- The table is that of the folded names and their targets. -/
theorem ofDirectives_eq (ds : List Directive) :
    ofDirectives ds = Keyed.ofPairs (ds.map fun d => (nameKey d.nickname, ⟨d.urn, d.url⟩)) := by
  unfold ofDirectives Keyed.ofPairs
  rw [List.foldl_map]
  rfl

theorem ascending_ofDirectives (ds : List Directive) : Keyed.Ascending (ofDirectives ds) := by
  rw [ofDirectives_eq]
  exact Keyed.ascending_ofPairs _

theorem lookup_insert_self (t : Nicknames) (name : String) (target : Target) :
    (insert t name target).lookup name = some target :=
  Keyed.get?_insert_self t (nameKey name) target

theorem lookup_insert_ne (t : Nicknames) {name other : String} (target : Target)
    (h : nameKey name ≠ nameKey other) :
    (insert t name target).lookup other = t.lookup other :=
  Keyed.get?_insert_ne t target h

end Nicknames

end Federation.Directory
