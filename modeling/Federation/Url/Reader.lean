/-
  Federation.Url.Reader
  ─────────────────────
  **READING ADDRESSES.**

  Reading is lenient about form: blanks around the text, tabs and line ends
  inside it, any number of slashes or backslashes before the authority,
  upper-case schemes and hosts, unencoded characters, dot segments and the
  usual port are all accepted, and the address read has none of them.

  A URL of another scheme is refused, but only after its own authority was
  found in order, so that the fault named is the first one.
-/
import Federation.Text.Blank
import Federation.Url.Basic
import Federation.Url.Name.Label
import Federation.Url.Percent

namespace Federation.Url

open Text (splitFirst splitAll decimal? digit?)

/-! ## §1. The scheme. -/

/-- Characters that are ignored at the ends. -/
def isOuter (c : Char) : Bool := c.toNat ≤ 32

/-- Characters that are ignored everywhere. -/
def isIgnored (c : Char) : Bool := c == '\t' || c == '\n' || c == '\r'

/-- The characters that count. -/
def relevant (cs : List Char) : List Char :=
  let inner := ((cs.dropWhile isOuter).reverse.dropWhile isOuter).reverse
  inner.filter fun c => !isIgnored c

/-- Characters of a scheme after its first letter. -/
def isSchemeChar (c : Char) : Bool := c.isAlphanum || c == '+' || c == '-' || c == '.'

/-- The scheme in lower case and what follows its colon. -/
def splitScheme? (cs : List Char) : Option (List Char × List Char) :=
  match cs with
  | [] => none
  | c :: _ =>
      if c.isAlpha then
        match cs.span isSchemeChar with
        | (scheme, ':' :: rest) => some (scheme.map Char.toLower, rest)
        | _ => none
      else none

/-- The usual port of the schemes whose URLs always have a host. -/
def usualPort? (scheme : List Char) : Option Nat :=
  if scheme = "http".toList ∨ scheme = "ws".toList then some 80
  else if scheme = "https".toList ∨ scheme = "wss".toList then some 443
  else if scheme = "ftp".toList then some 21
  else none

/-! ## §2. The authority. -/

/-- Whether the authority is over before this character; the backslash is a
slash where `web` says so. -/
def endsAuthority (web : Bool) (c : Char) : Bool :=
  c == '/' || c == '?' || c == '#' || (web && c == '\\')

/-- Cut at the last at sign. -/
def splitLastAt (cs : List Char) : Option (List Char × List Char) :=
  (splitFirst (· == '@') cs.reverse).map fun (after, before) => (before.reverse, after.reverse)

/-- User information as it is written; the password starts after the first
colon. -/
def readUserInfo (cs : List Char) : UserInfo :=
  match splitFirst (· == ':') cs with
  | none => ⟨encode .userInfo cs, []⟩
  | some (name, password) => ⟨encode .userInfo name, encode .userInfo password⟩

/-- The host and what follows it: it ends at a colon outside brackets. -/
def splitHost (bracketed : Bool) : List Char → List Char × List Char
  | [] => ([], [])
  | c :: cs =>
      if c == ':' && !bracketed then ([], c :: cs)
      else
        -- The colons of an IPv6 address are not the one before the port.
        let inside := if c == '[' then true else if c == ']' then false else bracketed
        let (host, rest) := splitHost inside cs
        (c :: host, rest)

/-- An address in brackets, without the opening one. -/
def readBracketed (cs : List Char) : Except Fault Host :=
  if cs.getLast? = some ']' then
    match ipv6? cs.dropLast with
    | some pieces => .ok (.ipv6 pieces)
    | none => .error .badIpv6
  else .error .badIpv6

/-- A host, already known not to be empty. -/
def readHost (cs : List Char) : Except Fault Host :=
  match cs with
  | '[' :: rest => readBracketed rest
  | _ =>
      match (decode? cs).bind Name.toAscii? with
      | none => .error .badName
      | some [] => .error .emptyHost
      | some ascii =>
          -- Such a host is an IPv4 address, possibly a shortened one, or nothing.
          if endsInNumber ascii then
            match ipv4? ascii with
            | some address => .ok (.ipv4 address)
            | none => .error .badIpv4
          else .ok (.name ascii)

/-- A port; digits up to 65535, or nothing at all. -/
def readPort (usual : Option Nat) (cs : List Char) : Except Fault (Option Nat) :=
  if cs.isEmpty then .ok none
  else
    match decimal? cs with
    | none => .error .badPort
    | some n =>
        if 65535 < n then .error .badPort
        -- The usual port is not written.
        else .ok (if usual = some n then none else some n)

/-- What follows the host: nothing, or a colon and a port. -/
def readPortPart (usual : Option Nat) : List Char → Except Fault (Option Nat)
  | ':' :: digits => readPort usual digits
  | _ => .ok none

/-- Authority and rest: what is before and after the first character that
ends an authority. -/
def splitAuthority (web : Bool) (cs : List Char) : List Char × List Char :=
  cs.span fun c => !endsAuthority web c

/-- User information and what follows it. -/
def splitUser (authority : List Char) : UserInfo × List Char :=
  match splitLastAt authority with
  | none => (⟨[], []⟩, authority)
  | some (before, after) => (readUserInfo before, after)

/-- The authority of a web address. -/
def readAuthority (usual : Option Nat) (authority : List Char) :
    Except Fault (UserInfo × Host × Option Nat) := do
  let (user, located) := splitUser authority
  let (host, portPart) := splitHost false located
  if host.isEmpty then .error .emptyHost
  let host ← readHost host
  let port ← readPortPart usual portPart
  return (user, host, port)

/-! ## §3. Path, query and fragment. -/

/-- The segments between slashes or backslashes. -/
def readPath (cs : List Char) : List (List Char) :=
  let body := match cs with
    | '/' :: rest => rest
    | '\\' :: rest => rest
    | cs => cs
  settle ((splitAll (fun c => c == '/' || c == '\\') body).map (encode .path))

/-- What follows the first such character, if there is one, and what stands
before it. -/
def cutAt (mark : Char) (cs : List Char) : List Char × Option (List Char) :=
  match splitFirst (· == mark) cs with
  | none => (cs, none)
  | some (before, after) => (before, some after)

/-- An address of a scheme whose URLs always have a host. -/
def readWeb (scheme : List Char) (usual : Option Nat) (cs : List Char) : Except Fault Url := do
  let body := cs.dropWhile fun c => c == '/' || c == '\\'
  let (authority, rest) := splitAuthority true body
  let (user, host, port) ← readAuthority usual authority
  let (rest, fragment) := cutAt '#' rest
  let (path, query) := cutAt '?' rest
  return {
    scheme, user, host, port
    path := readPath path
    query := query.map (encode .query)
    fragment := fragment.map (encode .fragment) }

/-! ## §4. Other schemes. -/

/-- Characters that a host outside the web may not hold. -/
def isForbiddenElsewhere (c : Char) : Bool :=
  ['\x00', ' ', '#', '/', ':', '<', '>', '?', '@', '[', '\\', ']', '^', '|'].contains c

/-- The authority of a scheme of any other kind, and what follows it.  It may
be empty, but not a lone at sign before a path. -/
def checkAuthority (authority rest : List Char) : Except Fault Unit := do
  if authority = ['@'] ∧ rest ≠ [] then .error .emptyHost
  let (user, located) := splitUser authority
  let (host, portPart) := splitHost false located
  match host with
  | [] =>
      -- Neither a port nor a user can stand without a host.
      if !portPart.isEmpty || !user.text.isEmpty then .error .emptyHost
  | '[' :: rest => let _ ← readBracketed rest
  | _ => if host.any isForbiddenElsewhere then .error .badCharacter
  let _ ← readPortPart none (portPart.takeWhile (· != '\\'))

/-- The host of a file: no host and a drive letter are in order. -/
def checkFileHost (cs : List Char) : Except Fault Unit := do
  match cs with
  | a :: b :: rest =>
      if (a == '/' || a == '\\') && (b == '/' || b == '\\') then
        let host := rest.takeWhile fun c => !endsAuthority true c
        if !host.isEmpty && !isDrive host then
          let _ ← readHost host
  | _ => return ()

/-- What a URL of a scheme that always has a host, a file, or anything else
may have wrong before its scheme counts. -/
def checkOther (scheme cs : List Char) : Except Fault Unit :=
  if scheme = "file".toList then checkFileHost cs
  else match cs with
    | '/' :: '/' :: rest =>
        let (authority, rest) := splitAuthority false rest
        checkAuthority authority rest
    | _ => .ok ()

/-! ## §5. Addresses. -/

/-- The schemes that aggregates are reached by. -/
def isSupported (scheme : List Char) : Bool :=
  scheme == "http".toList || scheme == "https".toList

/-- **Read a web address.** -/
def read (s : String) : Except Fault Url := do
  match splitScheme? (relevant (Text.trimChars s.toList)) with
  | none => .error .noScheme
  | some (scheme, rest) =>
      match usualPort? scheme with
      | some usual =>
          -- A fault in the authority is named before the scheme is refused.
          let url ← readWeb scheme (some usual) rest
          if isSupported scheme then .ok url else .error (.unsupportedScheme scheme)
      | none =>
          checkOther scheme rest
          .error (.unsupportedScheme scheme)

/-! ## §6. The canonical text. -/

/-- The text without the slashes at its end. -/
def dropSlashes (cs : List Char) : List Char :=
  (cs.reverse.dropWhile (· == '/')).reverse

/-- **The canonical text of an address**: two texts that name one aggregate
have the same. -/
def canonical (s : String) : Except Fault String :=
  (read s).map fun u => String.ofList (dropSlashes u.text)

end Federation.Url
