/-
  Federation.Setup.Config
  ───────────────────────
  **THE CONFIGURATION.**

  What an operator may set, and what holds where nothing is set: version 2,
  strict negotiation, one aggregate at a time, a minute for a probe and six
  for a call, snapshots remembered for a week.

  The number of aggregates visited at a time is at least one, whatever is
  configured.

  Main results: `workers_pos`; `settings_terms_mode` — negotiation is relaxed
  for developers and strict for everybody else.
-/
import Federation.Directory.Resolution
import Federation.Setup.LogFormat
import Federation.Setup.Settings

namespace Federation.Setup

open Directory (Directive Listed Nicknames Sources)

/-! ## §1. What may be set. -/

/-- The configuration. -/
structure Config where
  /-- Which log lines are written. -/
  logFilter : String
  logFormat : LogFormat
  /-- The version asked for where a request names none. -/
  version : Nat
  /-- Whether it is asked for emphatically. -/
  explicit : Bool
  /-- Whether negotiation is relaxed. -/
  developer : Bool
  /-- The file in which snapshots are remembered. -/
  cacheFile : String
  /-- How old a remembered snapshot may be, in seconds. -/
  cacheMaxAge : Nat
  /-- Whether remembered snapshots are ignored. -/
  ignoreCache : Bool
  /-- Whether to ask every aggregate anew. -/
  forceRefresh : Bool
  /-- How long to wait for the reply to a probe, in seconds. -/
  probeTimeout : Nat
  /-- How long to wait for the reply to a call, in seconds. -/
  callTimeout : Nat
  /-- How many aggregates may be visited at a time, as it was set. -/
  workerLimit : Nat
  nicknames : List Directive
  /-- The identifiers where a request has none. -/
  aggregates : List String
  /-- The resource format where a request names none. -/
  preferredFormat : Option ResourceFormat
  deriving DecidableEq, Repr

namespace Config

/-- Which log lines are written where nothing is set. -/
def builtinLogFilter : String := "info"

/-- The layout of log lines where nothing is set. -/
def builtinLogFormat : LogFormat := .compact

/-- Where snapshots are remembered: in a directory of the application, in
the directory that the user has for such files. -/
def builtinCacheFile (directory application : String) : String :=
  directory ++ "/" ++ application ++ "/get_version_cache.json"

/-- **The configuration where nothing is set.** -/
def builtin (cacheFile : String) : Config where
  logFilter := builtinLogFilter
  logFormat := builtinLogFormat
  version := 2
  explicit := false
  developer := false
  cacheFile := cacheFile
  cacheMaxAge := 7 * 24 * 60 * 60
  ignoreCache := false
  forceRefresh := false
  probeTimeout := 60
  callTimeout := 360
  workerLimit := 1
  nicknames := []
  aggregates := []
  preferredFormat := none

/-! ## §2. What the engine is told. -/

/-- How many aggregates are visited at a time. -/
def workers (c : Config) : Nat := max c.workerLimit 1

/-- The engine's settings. -/
def settings (c : Config) : Settings where
  version := c.version
  explicit := c.explicit
  mode := if c.developer then .relaxed else .strict
  maxAge := c.cacheMaxAge
  useCache := !c.ignoreCache
  probeTimeout := c.probeTimeout
  forceRefresh := c.forceRefresh
  callTimeout := c.callTimeout
  workerLimit := c.workers
  preferredFormat := c.preferredFormat

/-- The nicknames, of several directives for one name the last. -/
def table (c : Config) : Nicknames := .ofDirectives c.nicknames

/-- What identifiers are resolved by, given what the registry answers. -/
def sources (c : Config) (registry : Option (Except String (List Listed))) : Sources :=
  ⟨c.table, c.aggregates, registry⟩

/-! ## §3. Laws. -/

/-- **Somebody always does the visiting.** -/
theorem workers_pos (c : Config) : 0 < c.workers := by
  simp only [workers]
  omega

/-- **Negotiation is relaxed exactly for developers.** -/
theorem settings_terms_mode (c : Config) :
    c.settings.terms.mode = .relaxed ↔ c.developer = true := by
  simp only [settings, Settings.terms]
  cases c.developer <;> simp

end Config

end Federation.Setup
