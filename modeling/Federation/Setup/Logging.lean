/-
  Federation.Setup.Logging
  ────────────────────────
  **SWITCHING LOG LINES ON.**

  A process switches its log lines on once.  A filter that is none leaves
  them off; after they are on, whatever is asked for changes nothing.

  Main result: `switchOn_on` — once on, always on.
-/
import Federation.Setup.Config
import Federation.Setup.LogFilter

namespace Federation.Setup

/-- A filter that is none. -/
structure FilterFault where
  filter : String
  deriving DecidableEq, Repr

/-- Whether log lines are being written. -/
inductive Logging where
  | off
  | on
  deriving DecidableEq, Repr, Inhabited

/-- **Switch log lines on** as a configuration says. -/
def Logging.switchOn (l : Logging) (c : Config) : Except FilterFault Unit × Logging :=
  match l with
  | .on => (.ok (), .on)
  | .off =>
      if LogFilter.accepts c.logFilter then (.ok (), .on) else (.error ⟨c.logFilter⟩, .off)

/-- **Once on, always on.** -/
theorem Logging.switchOn_on (c : Config) : Logging.on.switchOn c = (.ok (), .on) := rfl

/-- They are on exactly when switching on succeeded. -/
theorem Logging.switchOn_eq_on (l : Logging) (c : Config) :
    (l.switchOn c).2 = .on ↔ (l.switchOn c).1 = .ok () := by
  cases l with
  | on => simp [switchOn]
  | off =>
    by_cases h : LogFilter.accepts c.logFilter = true <;> simp [switchOn, h]

end Federation.Setup
