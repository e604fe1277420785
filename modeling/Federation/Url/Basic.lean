/-
  Federation.Url.Basic
  ────────────────────
  **ADDRESSES OF AGGREGATES.**

  An aggregate is reached at a web address: scheme `http` or `https`,
  optional user information, host, optional port, path, optional query and
  optional fragment.  Every part is kept in the form it is written in: host
  names in ASCII, parts percent-encoded, no port where it is the usual one.
-/
import Federation.Text.Split
import Federation.Url.Address
import Federation.Url.Path

namespace Federation

/-! ## §1. Parts. -/

namespace Url

/-- Where the server is. -/
inductive Host where
  | name (ascii : List Char)
  | ipv4 (address : Nat)
  | ipv6 (pieces : List Nat)
  deriving DecidableEq, Repr

/-- Name and password, percent-encoded.  There is a colon only before a
password that is not empty. -/
structure UserInfo where
  name : List Char
  password : List Char
  deriving DecidableEq, Repr

end Url

/-- A web address. -/
structure Url where
  /-- In lower case. -/
  scheme : List Char
  user : Url.UserInfo
  host : Url.Host
  /-- Only a port that is not the scheme's usual one. -/
  port : Option Nat
  /-- The segments, a slash before each. -/
  path : List (List Char)
  query : Option (List Char)
  fragment : Option (List Char)
  deriving DecidableEq, Repr

namespace Url

/-! ## §2. Faults. -/

/-- Why a text is no web address. -/
inductive Fault where
  /-- There is no scheme. -/
  | noScheme
  | emptyHost
  | badPort
  | badIpv4
  | badIpv6
  /-- The host has no ASCII form. -/
  | badName
  /-- The host of another kind of URL holds a character that it may not. -/
  | badCharacter
  | unsupportedScheme (scheme : List Char)
  deriving DecidableEq, Repr

/-- The words for a fault. -/
def Fault.message : Fault → String
  | .noScheme => "relative URL without a base"
  | .emptyHost => "empty host"
  | .badPort => "invalid port number"
  | .badIpv4 => "invalid IPv4 address"
  | .badIpv6 => "invalid IPv6 address"
  | .badName => "invalid international domain name"
  | .badCharacter => "invalid domain character"
  | .unsupportedScheme scheme => "unsupported scheme '" ++ String.ofList scheme ++ "'"

/-! ## §3. Text. -/

/-- The host as it is written. -/
def Host.text : Host → List Char
  | .name ascii => ascii
  | .ipv4 address => (ipv4Text address).toList
  | .ipv6 pieces => '[' :: (ipv6Text pieces).toList ++ [']']

/-- User information with the sign that ends it; nothing for none. -/
def UserInfo.text (u : UserInfo) : List Char :=
  if u.name.isEmpty && u.password.isEmpty then []
  else if u.password.isEmpty then u.name ++ ['@']
  else u.name ++ ':' :: u.password ++ ['@']

/-- All before the path. -/
def origin (u : Url) : List Char :=
  u.scheme ++ "://".toList ++ u.user.text ++ u.host.text
    ++ match u.port with
      | none => []
      | some n => ':' :: (toString n).toList

/-- All after the path. -/
def ending (u : Url) : List Char :=
  (match u.query with
    | none => []
    | some q => '?' :: q)
  ++ match u.fragment with
    | none => []
    | some f => '#' :: f

/-- The address as it is written. -/
def text (u : Url) : List Char := u.origin ++ pathText u.path ++ u.ending

end Url

end Federation
