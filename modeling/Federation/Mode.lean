/-
  Federation.Mode
  ───────────────
  **STRICT AND RELAXED.**

  In strict mode a call goes only to aggregates that speak the version asked
  for, with options that are legal there.  Relaxed mode, meant for
  developers, goes ahead with a warning where strict mode would refuse.
-/

namespace Federation

/-- How much is refused. -/
inductive Mode where
  | strict
  | relaxed
  deriving DecidableEq, Repr, Inhabited

end Federation
