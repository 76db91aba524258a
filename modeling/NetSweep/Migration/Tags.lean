import NetSweep.Json.Basic
import NetSweep.Log
import NetSweep.Migration.ObjectKind

/-!
# Replaying tags

The destination takes no tags when an object is created and has no call that sets several, so an
object's tags are added afterwards, one call each.  A tag that cannot be added is recorded and
the next one is tried.
-/

namespace NetSweep.Migration

/-- Somewhere tags can be added to objects: collection, id and tag, with the text of the error
if the tag cannot be added. -/
structure Tagger (σ : Type) where
  addTag : String → String → String → σ → Except String Unit × σ

structure MissedTag where
  tag : String
  message : String
deriving DecidableEq, Repr

structure TagReport where
  applied : List String
  failures : List MissedTag
deriving DecidableEq, Repr

inductive ReplayError where
  | unsupported (kind : ObjectKind)
deriving DecidableEq, Repr

def ReplayError.message : ReplayError → String
  | unsupported kind => kind.name ++ " objects cannot be tagged on the destination"

/-- The strings among an object's tags. -/
def stringTags (raw : Json) : List String :=
  match raw.get? "tags" with
  | some (.array tags) => tags.filterMap Json.string?
  | _ => []

/-- The state of a replay: the endpoint, the report so far and the log. -/
structure Replay (σ : Type) where
  endpoint : σ
  report : TagReport
  log : List Log.Record

def replayTag {σ : Type} (e : Tagger σ) (kind : ObjectKind) (collection id : String)
    (r : Replay σ) (tag : String) : Replay σ :=
  let about := [("kind", kind.name), ("id", id), ("tag", tag)]
  match e.addTag collection id tag r.endpoint with
  | (.ok (), endpoint) =>
    { endpoint, log := r.log ++ [Log.debug "replayed tag" about]
      report := { r.report with applied := r.report.applied ++ [tag] } }
  | (.error message, endpoint) =>
    { endpoint, log := r.log ++ [Log.warning "failed to replay tag" (about ++ [("error", message)])]
      report := { r.report with failures := r.report.failures ++ [{ tag, message }] } }

/-- Adds each tag to an object, in order; gives what became of them, the log and the endpoint. -/
def replayTags {σ : Type} (e : Tagger σ) (kind : ObjectKind) (id : String)
    (tags : List String) (endpoint : σ) : Except ReplayError TagReport × List Log.Record × σ :=
  match kind.tagCollection with
  | none => (.error (.unsupported kind), [], endpoint)
  | some collection =>
    let r := tags.foldl (replayTag e kind collection id)
      { endpoint, report := { applied := [], failures := [] }, log := [] }
    (.ok r.report, r.log, r.endpoint)

end NetSweep.Migration
