/-
**What an edit knows and what it writes.**

An edit reads one version and writes it back with another manifest.  Between the two it holds a copy
of the record, flag and all, which may go out of date.

Main definitions:

* `Service.Edit.Opened` — an edit that has not read its version.

Main results:

* `Service.Edit.opened_start`, `Service.Edit.receive_fetch`, `Service.Edit.receive_save` — **where
  the answers to an edit lead**;
* `Service.Edit.imprint_edited` — an edit changes nothing of a version's imprint.
-/

import ManifestRegistry.Proofs.Instant.Reading
import ManifestRegistry.Proofs.Records.Imprint
import ManifestRegistry.Service.Edit

set_option relaxedAutoImplicit false
set_option autoImplicit false

namespace ManifestRegistry

namespace Service

open Storage

namespace Edit

variable {e : Edit}

/-! ### The edited record -/

/-- An edit changes nothing of a version's imprint. -/
theorem imprint_edited (now : Instant) {r : Record} (hn : r.name = e.manifest.name)
    (hv : r.version = e.manifest.version) : (e.edited now r).imprint = r.imprint := by
  simp only [Record.imprint, edited, Record.name, Record.version, Record.id,
    Record.publishedAt] at hn hv ⊢
  rw [hn, hv]

@[simp] theorem isLatest_edited (now : Instant) (r : Record) :
    (e.edited now r).isLatest = r.isLatest := rfl

theorem isDated_edited {now : Instant} {r : Record} (h : r.IsDated) (hn : now.IsReading) :
    (e.edited now r).IsDated where
  published := h.published
  updated := hn
  released := h.released

/-! ### Where answers lead -/

/-- An edit that has not read its version: it has failed, is still at its checks, or is about to
read. -/
inductive Opened : Progress Phase Change → Prop
  | failed (stop : Stop Failure) : Opened (.finished (.error stop))
  | ownership (o : Ownership) : Opened (.running (.ownership o))
  | fetch : Opened (.running .fetch)

theorem opened_andThen_ownership (progress : Progress Ownership (Outcome Unit)) :
    Opened (progress.andThen Phase.ownership afterOwnership) := by
  cases progress with
  | running o => exact .ownership o
  | finished r =>
      cases r with
      | error stop => exact .failed stop
      | ok _ => exact .fetch

/-- An edit begins without having read its version. -/
theorem opened_start : Opened e.start := by
  unfold start
  split
  · exact .failed _
  · exact opened_andThen_ownership _

theorem opened_receive_ownership (o : Ownership) (moment : Moment) (reply : Reply (Page Record)) :
    Opened (e.receive (.ownership o) moment reply) :=
  opened_andThen_ownership (o.receive moment reply)

/-- The version read is written back edited, if it is there and has the name. -/
theorem receive_fetch (moment : Moment) (reply : Reply (Option Record)) :
    (∃ stop, e.receive .fetch moment reply = .finished (.error stop)) ∨
    ∃ x, reply = .ok (some x) ∧ x.name = e.manifest.name ∧
      e.receive .fetch moment reply = .running (.save (e.edited moment.now x)) := by
  cases reply with
  | error stop => exact .inl ⟨_, rfl⟩
  | ok found =>
      cases found with
      | none => exact .inl ⟨_, rfl⟩
      | some x =>
          by_cases hn : x.name = e.manifest.name
          · refine .inr ⟨x, rfl, hn, ?_⟩
            simp only [Edit.receive, afterFetch, Edit.apply, hn, if_true]
          · refine .inl ⟨.failed (.invalidInput ("cannot rename '" ++ x.name ++ "' to '" ++
              e.manifest.name ++ "' by editing")), ?_⟩
            simp only [Edit.receive, afterFetch, Edit.apply, hn, if_false, Service.failed]

/-- An update that went through ends the edit well, and any other ends it badly. -/
theorem receive_save (u : Record) (moment : Moment) (reply : Reply Record) :
    (∃ saved, reply = .ok saved ∧
      e.receive (.save u) moment reply = .finished (.ok (saved, e.events saved))) ∨
    ((∃ stop, reply = .error stop) ∧
      ∃ stop, e.receive (.save u) moment reply = .finished (.error stop)) := by
  cases reply with
  | ok saved => exact .inl ⟨saved, rfl, rfl⟩
  | error stop => exact .inr ⟨⟨stop, rfl⟩, _, rfl⟩

end Edit

end Service

end ManifestRegistry
