/-
  Federation.Introspection.Reply
  ──────────────────────────────
  **THE MAP OF CAPABILITIES IN A REPLY.**

  From version 2 on, the reply to `GetVersion` is an envelope with the map
  as its value; a version 1 reply is the map itself.  The version is not
  known yet when the reply is read, so both are accepted, the envelope's map
  first.  An envelope whose code is not zero has no map.
-/
import Federation.Introspection.Snapshot

namespace Federation.Introspection

/-- The error code of an envelope, where it reports an error. -/
def reportedCode? (reply : Json) : Option Int :=
  (((reply.member? "code").bind (Json.member? · "geni_code")).bind Json.int64?).filter (· ≠ 0)

/-- Whether the value is a map that names a version. -/
def namesVersion (j : Json) : Bool := (j.member? "geni_api").isSome

/-- **The map of capabilities** in a reply. -/
def locate (reply : Json) : Except SnapshotFault Json :=
  if reply.members?.isNone then .error .notAMap
  else match reportedCode? reply with
    | some code =>
        .error (.reported code (((reply.member? "output").bind Json.text?).getD ""))
    | none =>
        match (reply.member? "value").filter namesVersion with
        | some value => .ok value
        | none => if namesVersion reply then .ok reply else .error .noVersion

/-- The map and the snapshot of a reply. -/
def ofReply (reply : Json) (now : Time.Instant) : Except SnapshotFault (Json × Snapshot) := do
  let capabilities ← locate reply
  let snapshot ← Snapshot.ofCapabilities capabilities now
  return (capabilities, snapshot)

end Federation.Introspection
