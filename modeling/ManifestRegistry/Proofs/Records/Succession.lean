/-
**How the latest flag is handed on.**

The versions of a name that ever became its latest one make up a line: the first one came when the name
had no version, each later one is above the one before and took the flag over from it, and the last one
bears the flag now.  Listeners are told of the line, one takeover after the other.

Main definitions:

* `flagged` — the imprints of the flagged records of a name;
* `Imprint.Above` — one version is above another;
* `Succession` — **a line of versions of a name that ends with the flagged one**;
* `takeovers` — what listeners are told of a line.

Main results:

* `Succession.committed` — **a planned commit continues the line** with the version that it adds, if that
  is flagged;
* `Succession.previous_eq` — what such a commit demotes is the end of the line;
* `Succession.updated` — putting a state of a version in its place leaves the line as it is.
-/

import Mathlib.Data.List.Chain
import ManifestRegistry.Event
import ManifestRegistry.Proofs.Records.Orderly

set_option relaxedAutoImplicit false
set_option autoImplicit false

namespace ManifestRegistry

open Storage

/-! ### Flagged records -/

/-- The imprints of the flagged records of a name. -/
def flagged (rs : List Record) (name : String) : List Imprint :=
  (rs.filter fun r => r.name = name && r.isLatest).map Record.imprint

section

variable {rs rs₁ rs' : List Record} {record r p : Record} {previous : Option Record} {name : String}
  {i : Nat}

@[simp] theorem flagged_nil (name : String) : flagged [] name = [] := rfl

theorem flagged_append (rs rs' : List Record) (name : String) :
    flagged (rs ++ rs') name = flagged rs name ++ flagged rs' name := by
  simp only [flagged, List.filter_append, List.map_append]

theorem flagged_singleton (hn : record.name = name) (hf : record.isLatest = true) :
    flagged [record] name = [record.imprint] := by
  simp [flagged, hn, hf]

theorem flagged_singleton_of_ne (h : record.name = name → record.isLatest = false) :
    flagged [record] name = [] := by
  simpa [flagged] using h

theorem mem_flagged {m : Imprint} :
    m ∈ flagged rs name ↔ ∃ r ∈ rs, r.name = name ∧ r.isLatest = true ∧ r.imprint = m := by
  simp [flagged, and_assoc]

theorem flagged_eq_nil (h : ∀ r ∈ rs, r.name = name → r.isLatest = false) : flagged rs name = [] := by
  refine List.eq_nil_iff_forall_not_mem.2 ?_
  intro m hm
  obtain ⟨r, hr, hn, hf, -⟩ := mem_flagged.1 hm
  rw [h r hr hn] at hf
  cases hf

/-- Changing a record that is not among the flagged ones of a name, or changing nothing but what does not
count, leaves these as they are. -/
theorem flagged_set (hr : rs[i]? = some r)
    (htest : (p.name = name && p.isLatest) = (r.name = name && r.isLatest))
    (himp : p.imprint = r.imprint) : flagged (rs.set i p) name = flagged rs name := by
  -- the place is the head, or it is in the rest
  induction rs generalizing i with
  | nil => rfl
  | cons s rs ih =>
      cases i with
      | zero =>
          obtain rfl : s = r := by simpa using hr
          simp only [flagged, List.set_cons_zero, List.filter_cons, htest]
          split
          · rw [List.map_cons, List.map_cons, himp]
          · rfl
      | succ i =>
          have hrest := ih (by simpa using hr)
          simp only [flagged] at hrest
          simp only [flagged, List.set_cons_succ, List.filter_cons]
          split
          · rw [List.map_cons, List.map_cons, hrest]
          · exact hrest

/-- A demotion takes no flag from another name. -/
theorem flagged_demoted (hd : Distinct (rs.map Record.imprint))
    (hp : ∀ d, previous = some d → d.imprint ∈ rs.map Record.imprint ∧ d.name ≠ name)
    (h : Memory.demoted rs previous = .ok rs₁) : flagged rs₁ name = flagged rs name := by
  cases previous with
  | none =>
      obtain rfl : rs = rs₁ := Except.ok.inj h
      rfl
  | some d =>
      obtain ⟨i, s, hi, hs, -, rfl⟩ := Memory.demote_eq_ok.1 h
      obtain ⟨hmem, hne⟩ := hp d rfl
      have himp : s.imprint = d.imprint := hd.imprint_eq hi hs hmem
      have hne' : s.name ≠ name := fun hn => hne ((congrArg Imprint.name himp).symm.trans hn)
      refine flagged_set hs ?_ himp.symm
      rw [decide_eq_false hne, decide_eq_false hne', Bool.false_and, Bool.false_and]

end

/-! ### Lines of versions -/

/-- One version is above another in the order of published versions. -/
def Imprint.Above (a b : Imprint) : Prop :=
  Version.order a.version a.publishedAt b.version b.publishedAt = .gt

/-- A line of versions of a name that has begun if the name has a record: each is above the one before,
and the last one is the only flagged version of the name. -/
structure Succession (rs : List Record) (name : String) (line : List Imprint) : Prop where
  rising : line.IsChain fun a b => b.Above a
  last : flagged rs name = line.getLast?.toList
  begun : ∀ r ∈ rs, r.name = name → line ≠ []

namespace Succession

theorem nil (name : String) : Succession [] name [] where
  rising := .nil
  last := rfl
  begun _ h := absurd h List.not_mem_nil

variable {rs rs' : List Record} {name : String} {line : List Imprint} {record r p : Record}
  {previous : Option Record} {i : Nat}

/-- **Putting a state of a version in its place leaves the line as it is**, if the flag stays. -/
theorem updated (h : Succession rs name line) (hr : rs[i]? = some r) (himp : r.imprint = p.imprint)
    (hflag : r.isLatest = p.isLatest) : Succession (rs.set i p) name line where
  rising := h.rising
  last := by
    have hname : r.name = p.name := congrArg Imprint.name himp
    rw [flagged_set hr (by rw [hname, hflag]) himp.symm, h.last]
  begun s hs hn := by
    rcases List.mem_or_eq_of_mem_set hs with hold | rfl
    · exact h.begun s hold hn
    · exact h.begun r (List.mem_of_getElem? hr) ((congrArg Imprint.name himp).trans hn)

section

variable (h : Succession rs name line) (hd : Distinct (rs.map Record.imprint))
  (hp : Planned (rs.map Record.imprint) record previous)
  (hc : Memory.committed rs record previous = .ok rs')
include h hd hp hc

/-- **What a commit demotes is the end of the line**, and nothing if there is no line yet. -/
theorem previous_eq (hn : record.name = name) (hf : record.isLatest = true) :
    previous.map Record.imprint = line.getLast? := by
  obtain ⟨-, rs₁, hdem, hins⟩ := Memory.committed_eq_ok.1 hc
  cases previous with
  | none =>
      obtain rfl : rs = rs₁ := Except.ok.inj hdem
      obtain ⟨-, hnone, -⟩ := Memory.insert_eq_ok.1 hins
      have hlast := h.last
      rw [flagged_eq_nil (hn ▸ hnone hf)] at hlast
      exact (Option.toList_eq_nil_iff.1 hlast.symm).symm
  | some d =>
      obtain ⟨i, s, hi, hs, hsf, -⟩ := Memory.demote_eq_ok.1 hdem
      obtain ⟨hmem, -, hdn, -⟩ := hp.demotion d rfl
      have himp : s.imprint = d.imprint := hd.imprint_eq hi hs hmem
      have hsn : s.name = name := (congrArg Imprint.name himp).trans (hdn.trans hn)
      have hin : d.imprint ∈ flagged rs name :=
        mem_flagged.2 ⟨s, List.mem_of_getElem? hs, hsn, hsf, himp⟩
      rw [h.last, Option.mem_toList] at hin
      exact hin.symm

/-- **A planned commit continues the line** with the version that it adds, if that is flagged and above
what is demoted. -/
theorem committed (habove : ∀ d, previous = some d → record.imprint.Above d.imprint) :
    Succession rs' name (line ++ flagged [record] name) := by
  have hend := h.previous_eq hd hp hc
  obtain ⟨-, rs₁, hdem, hins⟩ := Memory.committed_eq_ok.1 hc
  obtain ⟨-, hnone, rfl⟩ := Memory.insert_eq_ok.1 hins
  by_cases hnew : record.name = name ∧ record.isLatest = true
  · obtain ⟨hn, hf⟩ := hnew
    rw [flagged_singleton hn hf]
    refine ⟨?_, ?_, fun _ _ _ => by simp⟩
    · refine List.isChain_append.2 ⟨h.rising, .singleton _, ?_⟩
      intro x hx y hy
      obtain rfl := Option.some_inj.1 hy
      rw [← hend hn hf] at hx
      obtain ⟨d, hdm, rfl⟩ := Option.map_eq_some_iff.1 hx
      exact habove d hdm
    · rw [flagged_append, flagged_eq_nil (hn ▸ hnone hf), flagged_singleton hn hf]
      simp
  · have hnot : record.name = name → record.isLatest = false := fun hn =>
      Bool.eq_false_iff.2 fun hf => hnew ⟨hn, hf⟩
    have hother : ∀ d, previous = some d → d.imprint ∈ rs.map Record.imprint ∧ d.name ≠ name := by
      intro d he
      obtain ⟨hmem, -, hdn, hf, -⟩ := hp.demotion d he
      exact ⟨hmem, fun hn => hnew ⟨hdn.symm.trans hn, hf⟩⟩
    rw [flagged_singleton_of_ne hnot, List.append_nil]
    refine ⟨h.rising, ?_, ?_⟩
    · rw [flagged_append, flagged_singleton_of_ne hnot, List.append_nil,
        flagged_demoted hd hother hdem, h.last]
    · intro r hr hn
      -- a version that is not flagged has met another one of its name
      have hstored : ∃ m ∈ rs.map Record.imprint, m.name = name := by
        rcases List.mem_append.1 hr with hr | hr
        · have hsame := hd.map_imprint_demoted (fun d he => (hp.demotion d he).1) hdem
          exact ⟨r.imprint, hsame ▸ List.mem_map_of_mem hr, hn⟩
        · obtain rfl := List.mem_singleton.1 hr
          obtain ⟨m, hm, hmn, -⟩ := hp.below (hnot hn)
          exact ⟨m, hm, hmn.trans hn⟩
      obtain ⟨m, hm, hmn⟩ := hstored
      obtain ⟨s, hs, rfl⟩ := List.mem_map.1 hm
      exact h.begun s hs hmn

end

end Succession

/-! ### What listeners are told -/

/-- The takeovers of a line of versions, the first one from some version, if there was one. -/
def takeovers (previous : Option String) : List Imprint → List Event
  | [] => []
  | m :: ms => .latestChanged m.id m.name previous m.version :: takeovers (some m.version) ms

/-- A line goes on where it has come to. -/
theorem takeovers_append (previous : Option String) (line line' : List Imprint) :
    takeovers previous (line ++ line') = takeovers previous line ++
      takeovers ((line.getLast?.map Imprint.version).or previous) line' := by
  induction line generalizing previous with
  | nil => rfl
  | cons m ms ih =>
      have hlast : ((m :: ms).getLast?.map Imprint.version).or previous =
          (ms.getLast?.map Imprint.version).or (some m.version) := by
        rw [List.getLast?_cons]
        cases ms.getLast? <;> rfl
      rw [hlast, List.cons_append, takeovers, takeovers, ih, List.cons_append]

end ManifestRegistry
