import NetSweep.Cleanup.Category

/-!
# Sweeps

A sweep has a backend, an authority, a configuration and a plan.  It cleans up one category, or
every category of its plan in order until one ends with an error.
-/

namespace NetSweep

open Decimal (natText)

/-- Finds the objects that the orchestrator created and deletes them. -/
structure Sweep (σ : Type) where
  backend : Backend σ
  authority : Option Knowledge
  config : Cleanup.Config
  plan : Plan

namespace Sweep

open Cleanup

variable {σ : Type} (c : Sweep σ)

def standard (backend : Backend σ) (authority : Option Knowledge) (config : Config) :
    Sweep σ := { backend, authority, config, plan := .standard }

/-- The sweep with another plan, if that plan deletes leaves first. -/
def following (plan : Plan) : Except CleanupError (Sweep σ) :=
  match plan.check with
  | .ok () => .ok { c with plan }
  | .error e => .error (.invalidPlan e)

def setting (category : Category) : Setting σ :=
  { backend := c.backend, authority := c.authority, config := c.config
    policy := c.config.policies.of category }

def noted (record : Log.Record) (t : Trace σ) : Trace σ := { t with log := t.log ++ [record] }

def opening (category : Category) : Log.Record :=
  Log.info "cleaning up category" [("policy", (c.config.policies.of category).name)]

def closing (r : Report.Section) : Log.Record :=
  Log.info "category done"
    [("category", r.category.name), ("candidates", natText r.candidates),
     ("deleted", natText r.deleted), ("already_gone", natText r.alreadyGone),
     ("failures", natText r.failures.length)]

def sweepCategory (category : Category) (t : Trace σ) :
    Except CleanupError Report.Section × Trace σ :=
  let start : Run σ := { noted (c.opening category) t with report := .fresh category }
  match (c.setting category).sweep category start with
  | (.ok (), r) => (.ok r.report, noted (closing r.report) r.toTrace)
  | (.error e, r) => (.error e, r.toTrace)

def runSteps : List Plan.Step → Trace σ → Except CleanupError (List Report.Section) × Trace σ
  | [], t => (.ok [], t)
  | step :: rest, t =>
    match c.sweepCategory step.category t with
    | (.error e, t) => (.error e, t)
    | (.ok report, t) =>
      match runSteps rest t with
      | (.error e, t) => (.error e, t)
      | (.ok reports, t) => (.ok (report :: reports), t)

def starting : Log.Record :=
  Log.info "starting cleanup"
    [("domain", c.config.domain), ("marker", c.config.marker.text),
     ("authority", if c.authority.isSome then "true" else "false")]

def finished (r : Report) : Log.Record :=
  Log.info "cleanup finished"
    [("deleted", natText r.totalDeleted), ("failures", natText r.totalFailures)]

def sweepAll (t : Trace σ) : Except CleanupError Report × Trace σ :=
  match c.runSteps c.plan.steps (noted c.starting t) with
  | (.error e, t) => (.error e, t)
  | (.ok categories, t) =>
    let report : Report := { dryRun := c.config.dryRun, categories }
    (.ok report, noted (finished report) t)

end Sweep

def Cleanup.Trace.start {σ : Type} (backend : σ) : Trace σ :=
  { backend, journal := [], log := [] }

end NetSweep
