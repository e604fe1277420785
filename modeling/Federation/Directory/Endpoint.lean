/-
  Federation.Directory.Endpoint
  ─────────────────────────────
  **ENDPOINTS.**

  An endpoint is an aggregate that can be called.  Its canonical URL is its
  identity; URN and nickname only describe it.  Once a protocol version has
  been negotiated the endpoint carries it.
-/
import Federation.Url.Reader

namespace Federation

/-- An aggregate that can be called. -/
structure Endpoint where
  /-- Never empty. -/
  urn : String
  /-- Canonical. -/
  url : String
  nickname : Option String
  /-- The version it is to be called at, once negotiated. -/
  version : Option Nat
  deriving DecidableEq, Repr, Inhabited

/-- A text that was to be an aggregate's address, and what is wrong with it. -/
structure UnusableUrl where
  text : String
  fault : Url.Fault
  deriving DecidableEq, Repr

/-- The words for an unusable address. -/
def UnusableUrl.message (u : UnusableUrl) : String :=
  "'" ++ u.text ++ "' is not a usable aggregate URL: " ++ u.fault.message

namespace Endpoint

/-- The URN of an endpoint that is known by its URL alone. -/
def unspecifiedUrn : String := "unspecified_AM_URN"

/-- The endpoint at an address. -/
def of (urn url : String) : Except UnusableUrl Endpoint :=
  match Url.canonical url with
  | .error fault => .error ⟨url, fault⟩
  | .ok canonical =>
      let urn := Text.trim urn
      .ok ⟨if urn.isEmpty then unspecifiedUrn else urn, canonical, none, none⟩

/-- The endpoint under the name that it was asked for by. -/
def named (e : Endpoint) (nickname : String) : Endpoint := { e with nickname := some nickname }

/-- The endpoint, to be called at a version. -/
def atVersion (e : Endpoint) (version : Nat) : Endpoint := { e with version := some version }

/-- The endpoint moved to another canonical URL, to be called at a version. -/
def moved (e : Endpoint) (url : String) (version : Nat) : Endpoint :=
  { e with url, version := some version }

/-- Whether both are one aggregate. -/
def sameTarget (a b : Endpoint) : Bool := a.url == b.url

/-- How reports name the endpoint. -/
def label (e : Endpoint) : String :=
  match e.nickname with
  | some nickname => nickname ++ " (" ++ e.url ++ ")"
  | none => e.url

@[simp] theorem url_named (e : Endpoint) (n : String) : (e.named n).url = e.url := rfl

@[simp] theorem url_atVersion (e : Endpoint) (v : Nat) : (e.atVersion v).url = e.url := rfl

@[simp] theorem url_moved (e : Endpoint) (url : String) (v : Nat) :
    (e.moved url v).url = url := rfl

@[simp] theorem label_atVersion (e : Endpoint) (v : Nat) :
    (e.atVersion v).label = e.label := rfl

/-- The URL of an endpoint is the canonical text of the one it was made
from. -/
theorem of_url {urn url : String} {e : Endpoint} (h : of urn url = .ok e) :
    Url.canonical url = .ok e.url := by
  unfold of at h
  split at h
  · exact absurd h (by simp)
  · rename_i canonical hc
    simp only [Except.ok.injEq] at h
    rw [← h, hc]

end Endpoint

end Federation
