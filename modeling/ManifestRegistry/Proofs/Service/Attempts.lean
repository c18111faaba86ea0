/-
**One attempt of a publish.**

An attempt reads all versions of the name and plans a commit.  As long as nobody else commits a version of
the name, what it has read is the beginning of what there is, page by page, and what it plans in the end
is made of exactly the versions there are; a plan of this kind goes through.  If it does not go through,
somebody else has been quicker.  Failing for any other reason is not a matter for another attempt.

Main definitions:

* `Service.Change.GaveUp` — a publish has ended because its commits lost against other writers;
* `Service.Publish.Fatal` — a reason to fail at once;
* `Service.Publish.Current` — **an attempt that knows the versions there are**.

Main results:

* `Service.Publish.receive_lookup_cases`, `Service.Publish.receive_commit_cases` — a publish gives up only
  after its last attempt;
* `Service.Publish.shows_page`, `Service.Publish.Current.receive_page`,
  `Service.Publish.Current.receive_lookup` — a page shows the next versions, and keeps an attempt current;
* `Service.Publish.Current.committed` — **a current plan goes through**.
-/

import ManifestRegistry.Proofs.Service.Gates
import ManifestRegistry.Proofs.Storage.Candid

set_option relaxedAutoImplicit false
set_option autoImplicit false

namespace ManifestRegistry

open Storage

namespace Service

/-- Nothing came of a submission because its commits lost against other writers. -/
def Change.GaveUp (change : Change) : Prop :=
  ∃ reason, change = failed (.storage (.conflict reason))

namespace Publish

/-- A reason to fail at once, unlike a lost commit. -/
def Fatal (stop : Stop Failure) : Prop := ∀ reason, stop ≠ .failed (.storage (.conflict reason))

theorem fatal_of_isClient (f : Failure) (h : f.isClient = true) : Fatal (.failed f) := by
  rintro reason he
  obtain rfl := Stop.failed.inj he
  cases h

theorem fatal_map {stop : Stop StorageError} (h : ∀ reason, stop ≠ .failed (.conflict reason)) :
    Fatal (stop.map Failure.ofStorage) := by
  intro reason he
  cases stop with
  | crashed => cases he
  | failed e =>
      have hf : Failure.ofStorage e = .storage (.conflict reason) := Stop.failed.inj he
      cases e with
      | conflict reason' => exact h reason' rfl
      | backend cause => cases hf
      | _ => cases hf

theorem not_gaveUp_of_fatal {stop : Stop Failure} (h : Fatal stop) :
    ¬Change.GaveUp (.error stop) := by
  rintro ⟨reason, he⟩
  exact h reason (Except.error.inj he)

variable {p : Publish} {moment : Moment} {existing : List Record} {plan : Plan}

/-! ### Where pages and commits lead -/

theorem plan_eq_error {f : Failure} (h : p.plan moment existing = .error f) :
    (∃ reason, f = .invalidVersion reason) ∨
      f = .maxVersionsReached p.manifest.name p.config.maxVersions := by
  unfold Publish.plan at h
  simp only at h
  split at h
  · exact .inl ⟨_, (Except.error.inj h).symm⟩
  · split at h
    · exact .inr (Except.error.inj h).symm
    · cases h

theorem isClient_of_plan {f : Failure} (h : p.plan moment existing = .error f) :
    f.isClient = true := by
  rcases plan_eq_error h with ⟨reason, rfl⟩ | rfl <;> rfl

theorem afterLookup_cases (p : Publish) (left : Nat) (moment : Moment) (existing : List Record) :
    (∃ plan, p.plan moment existing = .ok plan ∧
      p.afterLookup left moment (.ok existing) = .running (.commit left plan)) ∨
    ∃ f, p.plan moment existing = .error f ∧
      p.afterLookup left moment (.ok existing) = .finished (failed f) := by
  cases hplan : p.plan moment existing with
  | ok plan => exact .inl ⟨plan, rfl, by simp only [afterLookup, hplan]⟩
  | error f => exact .inr ⟨f, rfl, by simp only [afterLookup, hplan]⟩

section

variable {Reason : Stop Failure → Prop}

/-- A lookup goes on with the next page or comes to a plan, or the publish fails because no plan can be
made or for the store's fault. -/
theorem receive_lookup_cases
    (hplan : ∀ existing f, p.plan moment existing = .error f → Reason (.failed f)) (left : Nat)
    (c : Collect) {reply : Reply (Page Record)}
    (hreply : ∀ stop, reply = .error stop → Reason (stop.map Failure.ofStorage)) :
    (∃ c', p.receive (.lookup left c) moment reply = .running (.lookup left c')) ∨
    (∃ existing plan, p.plan moment existing = .ok plan ∧
      p.receive (.lookup left c) moment reply = .running (.commit left plan)) ∨
    ∃ stop, Reason stop ∧ p.receive (.lookup left c) moment reply = .finished (.error stop) := by
  have hafter : ∀ existing : List Record,
      p.receive (.lookup left c) moment reply = p.afterLookup left moment (.ok existing) →
      (∃ existing plan, p.plan moment existing = .ok plan ∧
        p.receive (.lookup left c) moment reply = .running (.commit left plan)) ∨
      ∃ stop, Reason stop ∧ p.receive (.lookup left c) moment reply = .finished (.error stop) := by
    intro existing hto
    rcases p.afterLookup_cases left moment existing with ⟨plan, hok, hrun⟩ | ⟨f, hf, hfail⟩
    · exact .inl ⟨existing, plan, hok, hto.trans hrun⟩
    · exact .inr ⟨_, hplan existing f hf, hto.trans hfail⟩
  cases reply with
  | error stop => exact .inr (.inr ⟨_, hreply stop rfl, rfl⟩)
  | ok page =>
      by_cases hceil : c.ceiling ≤ (c.records ++ page.items).length
      · refine .inr (hafter ((c.records ++ page.items).take c.ceiling) ?_)
        simp only [Publish.receive, Collect.receive, hceil, if_true, Progress.andThen]
      · cases hnext : page.nextCursor with
        | some cursor =>
            refine .inl ⟨{ c with cursor := some cursor, records := c.records ++ page.items }, ?_⟩
            simp only [Publish.receive, Collect.receive, hceil, if_false, hnext, Progress.andThen]
        | none =>
            refine .inr (hafter (c.records ++ page.items) ?_)
            simp only [Publish.receive, Collect.receive, hceil, if_false, hnext, Progress.andThen]

/-- **A publish gives up only after its last attempt**: a commit goes through, or it has lost and there
may be another attempt, or the publish fails at once for the store's fault. -/
theorem receive_commit_cases (left : Nat) (plan : Plan) (moment : Moment) {reply : Reply Record}
    (hreply : ∀ stop, reply = .error stop → (∀ reason, stop ≠ .failed (.conflict reason)) →
      Reason (stop.map Failure.ofStorage)) :
    (∃ created, reply = .ok created ∧ p.receive (.commit left plan) moment reply =
      .finished (.ok (created, p.events created plan.demoted))) ∨
    (∃ e reason, reply = refuse e ∧
      p.receive (.commit left plan) moment reply = p.retry (left - 1) reason) ∨
    ∃ stop, Reason stop ∧ p.receive (.commit left plan) moment reply = .finished (.error stop) := by
  cases reply with
  | ok created => exact .inl ⟨created, rfl, rfl⟩
  | error stop =>
      cases stop with
      | crashed => exact .inr (.inr ⟨_, hreply _ rfl fun reason he => (nomatch he), rfl⟩)
      | failed e =>
          cases e with
          | conflict reason => exact .inr (.inl ⟨_, reason, rfl, rfl⟩)
          | alreadyExists reason => exact .inr (.inl ⟨_, reason, rfl, rfl⟩)
          | _ => exact .inr (.inr ⟨_, hreply _ rfl fun reason he => (nomatch he), rfl⟩)

end

/-! ### Plans that go through -/

variable {legible : Bag → Prop} {rs : List Record}

/-- What has been read of all versions of a name. -/
def Seen (legible : Bag → Prop) (rs : List Record) (name : String) (existing : List Record) : Prop :=
  List.Forall₂ (Shows legible) existing ((numbered rs name).map Prod.snd)

namespace Seen

variable {name : String} {r x : Record}

theorem exists_stored (h : Seen legible rs name existing) (hx : x ∈ existing) :
    ∃ r ∈ rs, r.name = name ∧ Shows legible x r := by
  obtain ⟨r, hr, hshows⟩ := exists_of_forall₂ h.flip hx
  rw [map_snd_numbered] at hr
  obtain ⟨hmem, hname⟩ := List.mem_filter.1 hr
  exact ⟨r, hmem, of_decide_eq_true hname, hshows⟩

theorem exists_read (h : Seen legible rs name existing) (hr : r ∈ rs) (hname : r.name = name) :
    ∃ x ∈ existing, Shows legible x r := by
  refine exists_of_forall₂ h ?_
  rw [map_snd_numbered]
  exact List.mem_filter.2 ⟨hr, decide_eq_true hname⟩

end Seen

theorem identity_of_seen (h : Orderly rs) (hseen : Seen legible rs p.manifest.name existing)
    {owner : Record} (hmem : owner ∈ rs) (hname : owner.name = p.manifest.name) :
    owner.id = identity moment existing := by
  obtain ⟨x, hx, -⟩ := hseen.exists_read hmem hname
  obtain ⟨first, hfirst⟩ := earliest?_isSome hx
  obtain ⟨r, hr, hrn, hshows⟩ := hseen.exists_stored (mem_of_earliest?_eq_some hfirst)
  rw [identity, hfirst, Option.map_some, Option.getD_some]
  have hid : r.id = first.id := (congrArg Imprint.id hshows.imprint).symm
  exact ((h.identity hmem hr).1 (hname.trans hrn.symm)).trans hid

/-- The demotion planned goes through, and leaves no flagged version of the name beside one that takes
over. -/
theorem demoted_of_seen (h : Orderly rs) (hseen : Seen legible rs p.manifest.name existing)
    (moment : Moment) : ∃ rs₁, Memory.demoted rs (p.demotion moment existing) = .ok rs₁ ∧
      rs₁.map Record.imprint = rs.map Record.imprint ∧
      (p.takesOver moment.now existing = true →
        ∀ r ∈ rs₁, r.name = p.manifest.name → r.isLatest = false) := by
  cases hdem : p.demotion moment existing with
  | none =>
      refine ⟨rs, rfl, rfl, ?_⟩
      intro htakes r hr hname
      -- a flagged version would have been read, and demoted
      obtain ⟨x, hx, hshows⟩ := hseen.exists_read hr hname
      cases hflag : r.isLatest with
      | false => rfl
      | true =>
          rw [demotion, htakes, if_pos rfl] at hdem
          have hnone := List.find?_eq_none.1 (Option.map_eq_none_iff.1 hdem) x hx
          exact absurd (hshows.isLatest.trans hflag) hnone
  | some d =>
      obtain ⟨l, hl, hlf, rfl, -, -⟩ := demotion_eq_some hdem
      obtain ⟨r, hr, hrn, hshows⟩ := hseen.exists_stored hl
      have hv : r.isVersion l.id l.version = true := Record.isVersion_iff.2
        ⟨(congrArg Imprint.id hshows.imprint).symm, (congrArg Imprint.version hshows.imprint).symm⟩
      obtain ⟨i, hi, hri⟩ := h.distinct.exists_place hr hv
      have hok : Memory.demoted rs (some (l.demoted moment.now)) = .ok (rs.set i (l.demoted moment.now)) :=
        Memory.demote_eq_ok.2 ⟨i, r, hi, hri, hshows.isLatest.symm.trans hlf, rfl⟩
      refine ⟨_, hok, ?_, ?_⟩
      · refine map_imprint_set ?_
        intro s hs
        obtain rfl : r = s := Option.some_inj.1 (hri.symm.trans hs)
        exact hshows.imprint.symm
      · intro _ s hs hname
        obtain ⟨k, hk⟩ := List.mem_iff_getElem?.1 hs
        cases hflag : s.isLatest with
        | false => rfl
        | true =>
            -- the only flagged version of the name stood where the demoted one is now
            have hold := Orderly.isLatest_of_demoted hok
              (fun d hd => Option.some_inj.1 hd ▸ rfl) hk hflag
            obtain rfl := h.single hold hri (hname.trans hrn.symm) hflag
              (hshows.isLatest.symm.trans hlf)
            rw [List.getElem?_set_self (List.getElem?_eq_some_iff.1 hri).1] at hk
            obtain rfl := Option.some_inj.1 hk
            exact hflag.symm

/-- **A plan made of the versions there are goes through.** -/
theorem committed_of_seen (h : Orderly rs) (hseen : Seen legible rs p.manifest.name existing)
    (hplan : p.plan moment existing = .ok plan) :
    ∃ rs', Memory.committed rs plan.record plan.demoted = .ok rs' := by
  obtain ⟨hnew, -, rfl⟩ := plan_eq_ok.1 hplan
  obtain ⟨rs₁, hdem, himp, hflag⟩ := demoted_of_seen h hseen moment
  refine ⟨rs₁ ++ [p.record moment existing], Memory.committed_eq_ok.2 ⟨?_, rs₁, hdem, ?_⟩⟩
  · intro owner howner
    have htest := List.find?_some howner
    have hname : owner.name = p.manifest.name := of_decide_eq_true htest
    exact identity_of_seen h hseen (List.mem_of_find?_eq_some howner) hname
  · refine Memory.insert_eq_ok.2 ⟨?_, hflag, rfl⟩
    intro r hr hname
    -- the version was not among those read, and a demotion changes no version
    have hmem : r.imprint ∈ rs.map Record.imprint := himp ▸ List.mem_map_of_mem hr
    obtain ⟨s, hs, himp'⟩ := List.mem_map.1 hmem
    obtain ⟨x, hx, hshows⟩ :=
      hseen.exists_read hs ((congrArg Imprint.name himp').trans hname)
    have hver := congrArg Imprint.version (hshows.imprint.trans himp')
    exact fun hv => hnew x hx (hver.trans hv)

/-! ### Attempts that know the versions there are -/

/-- **An attempt that knows the versions there are**: its lookup has read the first ones, or its plan is
made of all of them. -/
def Current (legible : Bag → Prop) (rs : List Record) (p : Publish) : Phase → Prop
  | .lookup _ c => ∃ done rest xs, numbered rs p.manifest.name = done ++ rest ∧
      List.Forall₂ (Shows legible) xs (done.map Prod.snd) ∧
      c = { lookup p.config p.manifest.name with cursor := Page.after done, records := xs }
  | .commit _ plan => ∃ moment existing, p.plan moment existing = .ok plan ∧
      Seen legible rs p.manifest.name existing
  | _ => False

/-- An attempt that has read nothing knows the first versions, whatever there is. -/
theorem current_lookup (legible : Bag → Prop) (rs : List Record) (p : Publish) (left : Nat) :
    Current legible rs p (.lookup left (lookup p.config p.manifest.name)) :=
  ⟨[], numbered rs p.manifest.name, [], rfl, .nil, rfl⟩

theorem Current.congr {rs' : List Record} {phase : Phase} (h : Current legible rs p phase)
    (hsame : numbered rs' p.manifest.name = numbered rs p.manifest.name) :
    Current legible rs' p phase := by
  cases phase with
  | lookup left c =>
      obtain ⟨done, rest, xs, hsplit, hread, hc⟩ := h
      exact ⟨done, rest, xs, hsame.trans hsplit, hread, hc⟩
  | commit left plan =>
      obtain ⟨moment, existing, hplan, hseen⟩ := h
      refine ⟨moment, existing, hplan, ?_⟩
      rw [Seen, hsame]
      exact hseen
  | quota | ownership => exact h.elim

/-- **A current plan goes through.** -/
theorem Current.committed {left : Nat} (h : Current legible rs p (.commit left plan))
    (ho : Orderly rs) : ∃ rs', Memory.committed rs plan.record plan.demoted = .ok rs' := by
  obtain ⟨moment, existing, hplan, hseen⟩ := h
  exact committed_of_seen ho hseen hplan

/-- The cursor behind some entries does not depend on what is read of them. -/
theorem after_map {α β : Type} (as : List (Nat × α)) (f : Nat × α → β) :
    Page.after (as.map fun a => (a.1, f a)) = Page.after as := by
  simp only [Page.after, List.getLast?_map, Option.map_map]
  rfl

/-- What is read of each of some records is so of what is read of all of them. -/
theorem forall₂_read {R : Record → Record → Prop} {read : Record → Except StorageError Record}
    {rows as : List (Nat × Record)} (hread : ∀ a ∈ rows, ∀ x, read a.2 = .ok x → R x a.2)
    (h : (rows.map fun a => ((a.1, read a.2) : Entry)) = as.map Entry.shown) :
    List.Forall₂ R (as.map Prod.snd) (rows.map Prod.snd) := by
  induction rows generalizing as with
  | nil =>
      obtain rfl := List.map_eq_nil_iff.1 h.symm
      exact .nil
  | cons row rows ih =>
      cases as with
      | nil => cases h
      | cons a as =>
          obtain ⟨hhead, htail⟩ := List.cons.inj h
          obtain ⟨-, hx⟩ := Prod.mk.inj hhead
          exact .cons (hread row List.mem_cons_self _ hx)
            (ih (fun b hb => hread b (List.mem_cons_of_mem _ hb)) htail)

/-- The ceiling of a lookup is above the ceiling of versions: who reads up to it makes no plan. -/
theorem plan_take_ceiling {records : List Record}
    (h : (lookup p.config p.manifest.name).ceiling ≤ records.length) :
    p.plan moment (records.take (lookup p.config p.manifest.name).ceiling) ≠ .ok plan := by
  intro hplan
  obtain ⟨-, hlen, -⟩ := plan_eq_ok.1 hplan
  have hceil : (lookup p.config p.manifest.name).ceiling = max p.config.maxVersions 1 := rfl
  rw [List.length_take] at hlen
  omega

/-- **A page behind the first versions of a name shows the next ones**, and names the place behind them
or is the last one. -/
theorem shows_page {read : Record → Except StorageError Record} {name : String} {size : Nat}
    {done rest : List (Nat × Record)} {page : Page Record} (hsize : 0 < size)
    (hsplit : numbered rs name = done ++ rest)
    (hread : ∀ r ∈ rs, ∀ x, read r = .ok x → Shows legible x r)
    (hpage : listing ((numbered rs name).map fun a => (a.1, read a.2)) (Page.after done) size =
      .ok page) :
    List.Forall₂ (Shows legible) page.items ((rest.take size).map Prod.snd) ∧
      (page.nextCursor = none ∧ rest.drop size = [] ∨
        ∃ cursor, page.nextCursor = some cursor ∧
          some cursor = Page.after (done ++ rest.take size)) := by
  have hsorted : (numbered rs name).Pairwise fun a b => a.1 < b.1 :=
    (Memory.pairwise_sequenced rs).filter _
  have hmem : ∀ a ∈ rest, a.2 ∈ rs := by
    intro a ha
    have hin : a ∈ numbered rs name := hsplit ▸ List.mem_append_right _ ha
    exact Memory.snd_mem_of_mem_sequenced (List.mem_filter.1 hin).1
  rw [hsplit] at hsorted hpage
  have hentries : ((done.map fun a => ((a.1, read a.2) : Entry)) ++
      rest.map fun a => (a.1, read a.2)).Pairwise fun a b => a.1 < b.1 := by
    rw [← List.map_append]
    exact List.pairwise_map.2 hsorted
  rw [List.map_append, ← after_map done fun a => read a.2] at hpage
  obtain ⟨as, has, rfl⟩ := listing_after hentries hpage
  have hturned := turned_shown (done.map fun a => ((a.1, read a.2) : Entry)) hsize has
  rw [← List.map_take] at has hturned
  rw [← List.map_append, after_map, ← List.map_drop, List.map_eq_nil_iff] at hturned
  refine ⟨forall₂_read ?_ has, hturned⟩
  intro a ha
  exact hread a.2 (hmem a (List.mem_of_mem_take ha))

/-- **Where a page leads**, if not to an end: to the page behind it, or to a plan made of what was read,
which was less than the ceiling. -/
theorem receive_page_cases {left : Nat} {c : Collect} {page : Page Record} {phase : Phase}
    (hc : c.ceiling = (lookup p.config p.manifest.name).ceiling)
    (hto : p.receive (.lookup left c) moment (.ok page) = .running phase) :
    (∃ cursor, page.nextCursor = some cursor ∧ phase = .lookup left
      { c with cursor := some cursor, records := c.records ++ page.items }) ∨
    ∃ plan, page.nextCursor = none ∧ p.plan moment (c.records ++ page.items) = .ok plan ∧
      phase = .commit left plan := by
  simp only [Publish.receive, Collect.receive] at hto
  by_cases hceil : c.ceiling ≤ (c.records ++ page.items).length
  · -- too many versions for a plan
    simp only [hceil, if_true, Progress.andThen] at hto
    rcases p.afterLookup_cases left moment ((c.records ++ page.items).take c.ceiling) with
      ⟨plan, hplan, -⟩ | ⟨f, -, hfail⟩
    · rw [hc] at hplan hceil
      exact absurd hplan (plan_take_ceiling hceil)
    · rw [hfail] at hto
      cases hto
  · simp only [hceil, if_false] at hto
    cases hnext : page.nextCursor with
    | some cursor =>
        simp only [hnext, Progress.andThen] at hto
        exact .inl ⟨cursor, rfl, (Progress.running.inj hto).symm⟩
    | none =>
        simp only [hnext, Progress.andThen] at hto
        rcases p.afterLookup_cases left moment (c.records ++ page.items) with
          ⟨plan, hplan, hrun⟩ | ⟨f, -, hfail⟩
        · exact .inr ⟨plan, rfl, hplan, Progress.running.inj (hto.symm.trans hrun)⟩
        · rw [hfail] at hto
          cases hto

/-- **A page keeps an attempt current.** -/
theorem Current.receive_page {read : Record → Except StorageError Record} {left : Nat} {c : Collect}
    {page : Page Record} {phase : Phase} (h : Current legible rs p (.lookup left c))
    (hread : ∀ r ∈ rs, ∀ x, read r = .ok x → Shows legible x r)
    (hpage : listing ((numbered rs p.manifest.name).map fun a => (a.1, read a.2)) c.cursor c.pageSize =
      .ok page)
    (hto : p.receive (.lookup left c) moment (.ok page) = .running phase) :
    Current legible rs p phase := by
  obtain ⟨done, rest, xs, hsplit, hxs, rfl⟩ := h
  have hsize : 0 < (lookup p.config p.manifest.name).pageSize :=
    Nat.lt_of_lt_of_le Nat.one_pos (Nat.le_max_right _ 1)
  obtain ⟨hnew, hturned⟩ := shows_page hsize hsplit hread hpage
  have hall : List.Forall₂ (Shows legible) (xs ++ page.items)
      ((done ++ rest.take (lookup p.config p.manifest.name).pageSize).map Prod.snd) := by
    rw [List.map_append]
    exact List.rel_append hxs hnew
  rcases receive_page_cases (by rfl) hto with ⟨cursor, hnext, rfl⟩ | ⟨plan, hnext, hplan, rfl⟩ <;>
    rcases hturned with ⟨hlast, hrest⟩ | ⟨cursor', hmore, hafter⟩
  · rw [hlast] at hnext
    cases hnext
  · obtain rfl := Option.some_inj.1 (hmore.symm.trans hnext)
    refine ⟨done ++ rest.take (lookup p.config p.manifest.name).pageSize,
      rest.drop (lookup p.config p.manifest.name).pageSize, _, ?_, hall, ?_⟩
    · rw [hsplit, List.append_assoc, List.take_append_drop]
    · rw [hafter]
  · -- the last page: the plan is made of all versions
    rw [List.take_of_length_le (List.drop_eq_nil_iff.1 hrest), ← hsplit] at hall
    exact ⟨moment, _, hplan, hall⟩
  · rw [hmore] at hnext
    cases hnext

/-- **What a candid store shows keeps an attempt current.** -/
theorem Current.receive_lookup {σ : Type} [Store σ] [Ledger σ] [Catalog σ] [Candid σ] {s : σ}
    {left : Nat} {c : Collect} {phase : Phase}
    (h : Current (Ledger.Legible σ) rs p (.lookup left c)) (hk : Ledger.Keeps s rs)
    (hr : ∀ r ∈ rs, r.IsDated) (hto : p.receive (.lookup left c) moment
      (Store.call (.list c.filter c.cursor c.pageSize) moment.now s).1 = .running phase) :
    Current (Ledger.Legible σ) rs p phase := by
  obtain ⟨done, rest, xs, -, -, hc⟩ := id h
  obtain ⟨read, hread, hselected⟩ := Candid.named hk hr p.manifest.name
  have hfilter : c.filter = { name := some p.manifest.name } := by
    rw [hc]
    rfl
  cases hpage : (Store.call (.list c.filter c.cursor c.pageSize) moment.now s).1 with
  | error stop =>
      rw [hpage] at hto
      cases hto
  | ok page =>
      rw [hpage] at hto
      rw [Catalog.call_list (Candid.isOpen hk), hfilter, hselected] at hpage
      exact h.receive_page hread hpage hto

end Publish

end Service

end ManifestRegistry
