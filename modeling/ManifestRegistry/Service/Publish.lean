/-
**Publishing a version.**

A publish first asks whether the subject may publish at all, then checks the submission and its
remote URLs.  Then it reads all versions of the name, decides what the new record looks like and
commits it together with the demotion of the previous latest version.  A commit that lost against
another writer starts over with the reading, a few times.

Main definitions:

* `Service.Publish` — who publishes what, and under which settings;
* `Service.Publish.plan` — **what is committed**, given the versions there are;
* `Service.Publish.Phase` — how far a publish is;
* `Service.Publish.events` — what listeners are told;
* `Service.Publish.start`, `Service.Publish.machine` — the publish as a task.
-/

import ManifestRegistry.Service.Collect
import ManifestRegistry.Service.Ownership
import ManifestRegistry.Service.Quota
import ManifestRegistry.Service.Submission
import ManifestRegistry.Version.Precedence

set_option relaxedAutoImplicit false
set_option autoImplicit false

namespace ManifestRegistry

namespace Service

open Storage

/-- Who publishes what, and under which settings. -/
structure Publish where
  config : Config
  validator : Manifest.Validator
  submission : Submission
  publisher : Publisher

namespace Publish

/-- The manifest to be published. -/
def manifest (p : Publish) : Manifest := p.submission.manifest

/-! ### Deciding what to commit -/

/-- How often a commit is tried. -/
def maxAttempts : Nat := 3

/-- The size of a page of versions. -/
def lookupPage : Nat := 1000

/-- The reading of all versions of a name, up to the ceiling. -/
def lookup (config : Config) (name : String) : Collect :=
  let ceiling := max config.maxVersions 1
  .start { name := some name } (min lookupPage ceiling) ceiling

/-- The record that was published first; of several, the one stored first. -/
def earliest? : List Record → Option Record
  | [] => none
  | r :: rs =>
    match earliest? rs with
    | some s => if s.publishedAt.before r.publishedAt then some s else some r
    | none => some r

/-- A record to be stored and the demoted form of the latest version so far. -/
structure Plan where
  record : Record
  demoted : Option Record

/-- Whether the new version becomes the latest one. -/
def becomesLatest (p : Publish) (now : Instant) (latest : Option Record) : Bool :=
  match latest with
  | none => true
  | some l => Version.supersedes p.manifest.version now l.version l.publishedAt

/-- What is committed, given the versions there are: the identity is that of the version published
first, and the new version becomes the latest one if it supersedes the latest one so far. -/
def plan (p : Publish) (moment : Moment) (existing : List Record) : Except Failure Plan :=
  let m := p.manifest
  if existing.any fun r => r.version = m.version then
    .error (.invalidVersion ("version " ++ m.version ++ " of " ++ m.name ++ " already exists"))
  else if p.config.maxVersions ≤ existing.length then
    .error (.maxVersionsReached m.name p.config.maxVersions)
  else
    let id := ((earliest? existing).map Record.id).getD moment.freshId
    let latest := existing.find? Record.isLatest
    let isLatest := p.becomesLatest moment.now latest
    .ok {
      record := {
        manifest := m
        registration := .new id moment.now isLatest
        bag := p.submission.bag
        publishedBy := some p.publisher.subject }
      demoted := if isLatest then latest.map fun l => l.demoted moment.now else none }

/-- What listeners are told about a stored version. -/
def events (p : Publish) (created : Record) (demoted : Option Record) : List Event :=
  .published created.id created.name created.version created.isLatest p.publisher.subject
      created.publishedAt ::
    if created.isLatest then
      [.latestChanged created.id created.name (demoted.map Record.version) created.version]
    else []

/-! ### The task -/

/-- How far a publish is. -/
inductive Phase where
  | quota (q : Quota)
  | ownership (o : Ownership)
  /-- The versions are being read; `left` counts the attempts left, this one included. -/
  | lookup (left : Nat) (c : Collect)
  | commit (left : Nat) (plan : Plan)

/-- The next attempt; the last one having failed for some reason, there may be none left. -/
def retry (p : Publish) (left : Nat) (reason : String) : Progress Phase Change :=
  match left with
  | 0 =>
    .finished (failed (.storage (.conflict (p.manifest.name ++ " " ++ p.manifest.version ++
      ": gave up after " ++ toString maxAttempts ++ " attempts: " ++ reason))))
  | left => .running (.lookup left (lookup p.config p.manifest.name))

/-- On to the versions once the URLs are known to be free. -/
def afterOwnership (p : Publish) : Outcome Unit → Progress Phase Change
  | .error e => .finished (.error e)
  | .ok () => p.retry maxAttempts ""

/-- On to the submission once the quota is decided. -/
def afterQuota (p : Publish) : Outcome Quota.Decision → Progress Phase Change
  | .error e => .finished (.error e)
  | .ok decision =>
    match decision.verdict p.publisher.subject with
    | .error f => .finished (failed f)
    | .ok () =>
      match p.submission.flaw? p.config p.validator with
      | some f => .finished (failed f)
      | none => (Ownership.start p.manifest).andThen Phase.ownership p.afterOwnership

/-- On to the commit once the versions are read. -/
def afterLookup (p : Publish) (left : Nat) (moment : Moment) :
    Reply (List Record) → Progress Phase Change
  | .error e => .finished (.error (e.map Failure.ofStorage))
  | .ok existing =>
    match p.plan moment existing with
    | .error f => .finished (failed f)
    | .ok plan => .running (.commit left plan)

/-- After the commit: done, or once more if it lost against another writer. -/
def afterCommit (p : Publish) (left : Nat) (plan : Plan) : Reply Record → Progress Phase Change
  | .ok created => .finished (.ok (created, p.events created plan.demoted))
  | .error (.failed (.conflict reason)) | .error (.failed (.alreadyExists reason)) =>
    p.retry (left - 1) reason
  | .error e => .finished (.error (e.map Failure.ofStorage))

/-- The call that is due. -/
def ask (s : Phase) : Call :=
  match s with
  | .quota q => q.ask
  | .ownership o => o.ask
  | .lookup _ c => c.ask
  | .commit _ plan => .commit plan.record plan.demoted

/-- Where an answer leads. -/
def receive (p : Publish) : (s : Phase) → Moment → Reply (ask s).Answer → Progress Phase Change
  | .quota q, moment, reply => (q.receive moment reply).andThen Phase.quota p.afterQuota
  | .ownership o, moment, reply =>
    (o.receive moment reply).andThen Phase.ownership p.afterOwnership
  | .lookup left c, moment, reply =>
    (c.receive moment reply).andThen (Phase.lookup left) (p.afterLookup left moment)
  | .commit left plan, _, reply => p.afterCommit left plan reply

/-- The quota that applies. -/
def quota (p : Publish) : Quota := ⟨p.config.dailyQuota, p.publisher⟩

/-- The beginning of a publish. -/
def start (p : Publish) : Progress Phase Change :=
  p.quota.start.andThen Phase.quota p.afterQuota

/-- The publish as a task. -/
def machine (p : Publish) : Machine Phase Change := ⟨ask, p.receive⟩

/-- As many calls as a publish to a store of some size can take. -/
def rounds (p : Publish) (size : Nat) : Nat :=
  1 + Ownership.rounds p.manifest size + maxAttempts * (Collect.rounds size + 1)

end Publish

end Service

end ManifestRegistry
