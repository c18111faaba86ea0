/-
**Tasks before a store of which nothing is known.**

A store may answer a call by anything, as long as its answer comes of what it has been asked and has answered
before.  What a task and such a store say to each other is then settled by the store's conduct: a list of
calls with their answers.  Nothing makes a task end before such a store but the store itself, by coming to the
last page of what it lists; a store whose pages end brings every reading to an end, and each call of a reading
that has not ended shows where to go on.

Main definitions:

* `Service.Exchange`, `Service.Conduct` — a call with its answer, and **how a store answers**;
* `Service.Machine.Talks` — what a task and a store of some conduct say to each other until the task ends;
* `Service.Conduct.PagesEnd` — a store that comes to the last page of whatever it is asked to list;
* `Service.Paging` — pages read one after the other.

Main results:

* `Service.Machine.Talks.run`, `Service.Machine.Talks.andThen` — such a task is run to its end, and a part of
  a task goes on with what comes next;
* `Service.Collect.talks`, `Service.Ownership.talks` — **readings end if pages do**.
-/

import ManifestRegistry.Proofs.Service.Passing

set_option relaxedAutoImplicit false
set_option autoImplicit false

namespace ManifestRegistry

namespace Service

open Storage

/-! ### Exchanges -/

/-- A call made at some time, and its answer. -/
structure Exchange where
  now : Instant
  call : Call
  reply : Reply call.Answer

namespace Exchange

/-- Whether a version was to be stored. -/
def isCommit (x : Exchange) : Bool := x.call.method = .commit

/-- Something was asked that changes nothing: how often a subject has published, or a page of records. -/
def Asks (x : Exchange) : Prop := x.call.method = .countRecent ∨ x.call.method = .list

/-- Something was asked that changes nothing, and answered. -/
def Read (x : Exchange) : Prop := x.Asks ∧ ∃ a, x.reply = .ok a

/-- A commit has lost against another writer, for some reason. -/
inductive LostFor : Exchange → String → Prop
  | conflict (now : Instant) (record : Record) (previous : Option Record) (reason : String) :
      LostFor ⟨now, .commit record previous, refuse (.conflict reason)⟩ reason
  | alreadyExists (now : Instant) (record : Record) (previous : Option Record) (reason : String) :
      LostFor ⟨now, .commit record previous, refuse (.alreadyExists reason)⟩ reason

/-- A commit has lost against another writer. -/
def Lost (x : Exchange) : Prop := ∃ reason, x.LostFor reason

theorem LostFor.isCommit {x : Exchange} {reason : String} (h : x.LostFor reason) : x.isCommit = true := by
  cases h <;> rfl

theorem LostFor.unique {x : Exchange} {reason reason' : String} (h : x.LostFor reason)
    (h' : x.LostFor reason') : reason = reason' := by
  cases h <;> cases h' <;> rfl

theorem Asks.isCommit {x : Exchange} (h : x.Asks) : x.isCommit = false := by
  refine decide_eq_false fun hcommit => ?_
  rcases h with h | h <;> exact nomatch h.symm.trans hcommit

theorem Asks.not_lost {x : Exchange} (h : x.Asks) : ¬x.Lost := by
  rintro ⟨reason, hlost⟩
  exact absurd (h.isCommit.symm.trans hlost.isCommit) Bool.false_ne_true

end Exchange

/-- How a store answers, by what it has been asked and has answered before. -/
abbrev Conduct := List Exchange → Instant → (c : Call) → Reply c.Answer

/-- A call to a store of some conduct. -/
def Conduct.call (answer : Conduct) (now : Instant) (c : Call) (past : List Exchange) :
    Reply c.Answer × List Exchange :=
  (answer past now c, past ++ [⟨now, c, answer past now c⟩])

/-! ### Conversations -/

namespace Machine

variable {τ τ' ρ ρ' : Type} {answer : Conduct} {clock : Nat → Moment}

/-- What a task and a store of some conduct say to each other until the task ends with a result, if they
have exchanged something before; the clock tells the moment of each call. -/
inductive Talks (answer : Conduct) (clock : Nat → Moment) (m : Machine τ ρ) :
    (past : List Exchange) → Progress τ ρ → List Exchange → ρ → Prop
  | finished (past : List Exchange) (r : ρ) : Talks answer clock m past (.finished r) [] r
  | call {past es : List Exchange} {s : τ} {x : Exchange} {progress : Progress τ ρ} {r : ρ}
      (hstep : m.step (answer.call (clock past.length).now) (clock past.length) s past =
        (progress, past ++ [x]))
      (rest : Talks answer clock m (past ++ [x]) progress es r) :
      Talks answer clock m past (.running s) (x :: es) r

variable {m : Machine τ ρ} {past es es' : List Exchange} {progress : Progress τ ρ} {r : ρ}

theorem Talks.reply {s : τ} {reply : Reply (m.ask s).Answer}
    (hreply : answer past (clock past.length).now (m.ask s) = reply)
    (hreceive : m.receive s (clock past.length) reply = progress)
    (rest : m.Talks answer clock (past ++ [⟨(clock past.length).now, m.ask s, reply⟩]) progress es r) :
    m.Talks answer clock past (.running s) (⟨(clock past.length).now, m.ask s, reply⟩ :: es) r := by
  subst hreply hreceive
  exact .call rfl rest

/-- **A task that ends is run to its end**, if it may make as many calls. -/
theorem Talks.run (h : m.Talks answer clock past progress es r) {rounds : Nat}
    (hrounds : es.length ≤ rounds) :
    m.runAt answer.call clock rounds past.length progress past = (some r, past ++ es) := by
  induction h generalizing rounds with
  | finished past r => rw [runAt_finished, List.append_nil]
  | @call past es s x progress r hstep rest ih =>
      obtain ⟨rounds, rfl⟩ : ∃ n, rounds = n + 1 := ⟨rounds - 1, by rw [List.length_cons] at hrounds; omega⟩
      have hnext := ih (Nat.le_of_succ_le_succ hrounds)
      rw [List.length_append, List.append_assoc] at hnext
      rw [runAt, hstep]
      exact hnext

/-- **A part that ends goes on with what comes next**, which may depend on the moment of its last call. -/
theorem Talks.andThen (M : Machine τ' ρ') (f : τ → τ') (next : Moment → ρ → Progress τ' ρ')
    (hpart : ∀ moment s past, M.step (answer.call moment.now) moment (f s) past =
      ((m.step (answer.call moment.now) moment s past).1.andThen f (next moment),
        (m.step (answer.call moment.now) moment s past).2))
    (h : m.Talks answer clock past progress es r) (before : Nat) :
    ∃ i, ∀ es' r', M.Talks answer clock (past ++ es) (next (clock i) r) es' r' →
      M.Talks answer clock past (progress.andThen f (next (clock before))) (es ++ es') r' := by
  -- each call of the part is one of the whole
  induction h generalizing before with
  | finished past r =>
      refine ⟨before, fun es' r' h' => ?_⟩
      rwa [List.append_nil] at h'
  | @call past es s x progress r hstep rest ih =>
      have hwhole := hpart (clock past.length) s past
      rw [hstep] at hwhole
      obtain ⟨i, hnext⟩ := ih past.length
      refine ⟨i, fun es' r' h' => .call hwhole (hnext es' r' ?_)⟩
      rwa [List.append_assoc]

end Machine

/-! ### Pages that end -/

/-- A store comes to the last page behind a cursor: it fails before that, or each page that names another
cursor leads to the last page as well. -/
inductive Conduct.Ends (answer : Conduct) (clock : Nat → Moment) (filter : Filter) (limit : Nat) :
    (past : List Exchange) → (cursor : Option String) → Prop
  | intro {past : List Exchange} {cursor : Option String}
      (h : ∀ page cursor', answer past (clock past.length).now (.list filter cursor limit) = .ok page →
        page.nextCursor = some cursor' → Ends answer clock filter limit
          (past ++ [⟨(clock past.length).now, .list filter cursor limit, .ok page⟩]) (some cursor')) :
      Ends answer clock filter limit past cursor

/-- A store that comes to the last page of whatever it is asked to list. -/
def Conduct.PagesEnd (answer : Conduct) (clock : Nat → Moment) : Prop :=
  ∀ past filter limit, 0 < limit → ∃ rounds,
    (Walk.machine.runAt answer.call clock rounds past.length (.running { filter, limit }) past).1.isSome

/-- A walk that ends has come to the last page. -/
theorem Conduct.ends_of_walk {answer : Conduct} {clock : Nat → Moment} {past : List Exchange}
    {rounds : Nat} (w : Walk)
    (h : (Walk.machine.runAt answer.call clock rounds past.length (.running w) past).1.isSome) :
    answer.Ends clock w.filter w.limit past w.cursor := by
  induction rounds generalizing past w with
  | zero => cases h
  | succ rounds ih =>
      refine .intro fun page cursor' hpage hnext => ?_
      have hstep : Walk.machine.step (answer.call (clock past.length).now) (clock past.length) w past =
          (.running { w with cursor := some cursor', pages := w.pages ++ [page.items] },
            past ++ [⟨(clock past.length).now, .list w.filter w.cursor w.limit, .ok page⟩]) := by
        simp only [Machine.step, Conduct.call, Walk.machine, Walk.ask, hpage, Walk.receive, hnext]
      rw [Machine.runAt, hstep] at h
      exact ih { w with cursor := some cursor', pages := w.pages ++ [page.items] }
        (by rwa [List.length_append])

theorem Conduct.PagesEnd.ends {answer : Conduct} {clock : Nat → Moment} (h : answer.PagesEnd clock)
    (past : List Exchange) (filter : Filter) {limit : Nat} (hlimit : 0 < limit) :
    answer.Ends clock filter limit past none := by
  obtain ⟨rounds, hrun⟩ := h past filter limit hlimit
  exact Conduct.ends_of_walk { filter, limit } hrun

/-! ### Asking -/

/-- A task that only asks comes to something, refuses a fault of the caller, or ends with the first call that
fails, for the reason of that call. -/
inductive Consulted {α : Type} : List Exchange → Outcome α → Prop
  | answered {es : List Exchange} (h : ∀ x ∈ es, x.Read) (a : α) : Consulted es (.ok a)
  | refused {es : List Exchange} (h : ∀ x ∈ es, x.Read) (f : Failure) : Consulted es (failed f)
  | broken (front : List Exchange) (h : ∀ x ∈ front, x.Read) {x : Exchange} (hx : x.Asks)
      {stop : Stop StorageError} (hstop : x.reply = .error stop) :
      Consulted (front ++ [x]) (.error (stop.map Failure.ofStorage))

/-- A task that comes to something has been answered throughout. -/
theorem Consulted.reads {α : Type} {es : List Exchange} {a : α} (h : Consulted es (.ok a)) :
    ∀ x ∈ es, x.Read := by
  cases h with
  | answered h _ => exact h

theorem Consulted.cons {α : Type} {x : Exchange} {es : List Exchange} {outcome : Outcome α}
    (h : Consulted es outcome) (hx : x.Read) : Consulted (x :: es) outcome := by
  cases h with
  | answered h a => exact .answered (List.forall_mem_cons.2 ⟨hx, h⟩) a
  | refused h f => exact .refused (List.forall_mem_cons.2 ⟨hx, h⟩) f
  | broken front h hlast hstop => exact .broken (x :: front) (List.forall_mem_cons.2 ⟨hx, h⟩) hlast hstop

/-- **The decision on a quota ends.** -/
theorem Quota.talks (q : Quota) (answer : Conduct) (clock : Nat → Moment) (past : List Exchange) :
    ∃ es outcome, machine.Talks answer clock past q.start es outcome ∧ Consulted es outcome := by
  rw [start]
  split
  · exact ⟨[], _, .finished _ _, .answered (List.forall_mem_nil _) _⟩
  · split
    · exact ⟨[], _, .finished _ _, .answered (List.forall_mem_nil _) _⟩
    · cases hreply : answer past (clock past.length).now q.ask with
      | error stop =>
          exact ⟨_, _, .reply (m := machine) (s := q) hreply rfl (.finished _ _),
            .broken [] (List.forall_mem_nil _) (.inl rfl) rfl⟩
      | ok used =>
          exact ⟨_, _, .reply (m := machine) (s := q) hreply rfl (.finished _ _),
            .answered (List.forall_mem_singleton.2 ⟨.inl rfl, _, rfl⟩) _⟩

/-! ### Reading pages -/

/-- Pages read one after the other from a cursor on, until there are as many records as there is room for or
none are left, or a page cannot be read; and what was read. -/
inductive Paging (filter : Filter) (limit : Nat) :
    (room : Nat) → (cursor : Option String) → List Exchange → Reply (List Record) → Prop
  | broken (room : Nat) (cursor : Option String) (now : Instant) (stop : Stop StorageError) :
      Paging filter limit room cursor [⟨now, .list filter cursor limit, .error stop⟩] (.error stop)
  | last {room : Nat} (cursor : Option String) (now : Instant) {page : Page Record}
      (h : room ≤ page.items.length ∨ page.nextCursor = none) :
      Paging filter limit room cursor [⟨now, .list filter cursor limit, .ok page⟩]
        (.ok (page.items.take room))
  | next {room : Nat} {cursor : Option String} (now : Instant) {page : Page Record} {cursor' : String}
      {es : List Exchange} {result : Reply (List Record)} (hroom : page.items.length < room)
      (hnext : page.nextCursor = some cursor')
      (rest : Paging filter limit (room - page.items.length) (some cursor') es result) :
      Paging filter limit room cursor (⟨now, .list filter cursor limit, .ok page⟩ :: es)
        (result.map (page.items ++ ·))

namespace Paging

variable {filter : Filter} {limit room : Nat} {cursor : Option String} {es : List Exchange}
  {result : Reply (List Record)}

/-- **A reading of pages only asks.** -/
theorem consulted (h : Paging filter limit room cursor es result) : Consulted es (ofReply result) := by
  induction h with
  | broken room cursor now stop =>
      exact .broken [] (List.forall_mem_nil _) (.inr rfl) rfl
  | last cursor now => exact .answered (List.forall_mem_singleton.2 ⟨.inr rfl, _, rfl⟩) _
  | @next room cursor now page cursor' es result hroom hnext rest ih =>
      have hread : Exchange.Read ⟨now, .list filter cursor limit, .ok page⟩ := ⟨.inr rfl, _, rfl⟩
      cases result with
      | error stop => exact ih.cons hread
      | ok rs => exact .answered (List.forall_mem_cons.2 ⟨hread, ih.reads⟩) _

end Paging

namespace Collect

/-- A page ends a reading, which then has what there is room for, or names the cursor to go on with. -/
theorem receive_page (c : Collect) (moment : Moment) (page : Page Record)
    (hroom : c.records.length ≤ c.ceiling) :
    ((c.ceiling - c.records.length ≤ page.items.length ∨ page.nextCursor = none) ∧
      c.receive moment (.ok page) =
        .finished (.ok (c.records ++ page.items.take (c.ceiling - c.records.length)))) ∨
    ∃ cursor, page.nextCursor = some cursor ∧ page.items.length < c.ceiling - c.records.length ∧
      c.receive moment (.ok page) =
        .running { c with cursor := some cursor, records := c.records ++ page.items } := by
  by_cases hfull : c.ceiling ≤ (c.records ++ page.items).length
  · left
    have htaken : (c.records ++ page.items).take c.ceiling =
        c.records ++ page.items.take (c.ceiling - c.records.length) := by
      rw [List.take_append, List.take_of_length_le hroom]
    rw [← htaken]
    refine ⟨.inl ?_, if_pos hfull⟩
    rw [List.length_append] at hfull
    exact Nat.sub_le_iff_le_add'.2 hfull
  · have hless : page.items.length < c.ceiling - c.records.length := by
      rw [List.length_append] at hfull
      omega
    cases hnext : page.nextCursor with
    | none =>
        left
        rw [List.take_of_length_le (Nat.le_of_lt hless)]
        exact ⟨.inr rfl, by simp only [receive, hfull, if_false, hnext]⟩
    | some cursor =>
        right
        exact ⟨cursor, rfl, hless, by simp only [receive, hfull, if_false, hnext]⟩

/-- **A reading of all pages ends if pages do**, with what its pages show, up to the ceiling. -/
theorem talks {answer : Conduct} {clock : Nat → Moment} {past : List Exchange} {filter : Filter}
    {limit : Nat} {cursor : Option String} (h : answer.Ends clock filter limit past cursor)
    {ceiling : Nat} (records : List Record) (hroom : records.length ≤ ceiling) :
    ∃ es result, machine.Talks answer clock past (.running ⟨filter, limit, ceiling, cursor, records⟩) es
        (result.map (records ++ ·)) ∧
      Paging filter limit (ceiling - records.length) cursor es result := by
  induction h generalizing records with
  | @intro past cursor h ih =>
      let c : Collect := ⟨filter, limit, ceiling, cursor, records⟩
      cases hreply : answer past (clock past.length).now (.list filter cursor limit) with
      | error stop =>
          exact ⟨_, .error stop, .reply (m := machine) (s := c) hreply rfl (.finished _ _),
            .broken _ _ _ stop⟩
      | ok page =>
          rcases c.receive_page (clock past.length) page hroom with
            ⟨hlast, hreceive⟩ | ⟨cursor', hnext, hless, hreceive⟩
          · exact ⟨_, .ok (page.items.take (ceiling - records.length)),
              .reply (m := machine) (s := c) hreply hreceive (.finished _ _), .last _ _ hlast⟩
          · have hroom' : (records ++ page.items).length ≤ ceiling := by
              have hfits : page.items.length < ceiling - records.length := hless
              rw [List.length_append]
              omega
            obtain ⟨es, result, hrest, hpaging⟩ := ih page cursor' hreply hnext (records ++ page.items) hroom'
            rw [List.length_append, ← Nat.sub_sub] at hpaging
            have hmap : result.map (records ++ page.items ++ ·) =
                (result.map (page.items ++ ·)).map (records ++ ·) := by
              cases result with
              | error stop => rfl
              | ok rs => exact congrArg Except.ok (List.append_assoc _ _ _)
            rw [hmap] at hrest
            exact ⟨_ :: es, _, .reply (m := machine) (s := c) hreply hreceive hrest,
              .next _ hless hnext hpaging⟩

end Collect

/-! ### Checking URLs -/

namespace Ownership

/-- A page shows another name, names the cursor to go on with, or leads to the next URL. -/
theorem receive_page (o : Ownership) (moment : Moment) (page : Page Record) :
    (∃ other, o.receive moment (.ok page) = .finished (failed (.duplicateRemoteUrl o.url other))) ∨
    (∃ cursor, page.nextCursor = some cursor ∧
      o.receive moment (.ok page) = .running { o with cursor := some cursor }) ∨
    o.receive moment (.ok page) = checkAll o.name o.later := by
  cases hfind : page.items.find? fun r => r.name ≠ o.name with
  | some other => exact .inl ⟨other.name, by simp only [receive, ofReply, hfind]⟩
  | none =>
      cases hnext : page.nextCursor with
      | some cursor => exact .inr (.inl ⟨cursor, rfl, by simp only [receive, ofReply, hfind, hnext]⟩)
      | none => exact .inr (.inr (by simp only [receive, ofReply, hfind, hnext]))

variable {answer : Conduct} {clock : Nat → Moment}

/-- The check of one URL ends if its pages do and the check of those after it ends. -/
theorem talks_url {name url : String} {later : List String}
    (hlater : ∀ past, ∃ es outcome, machine.Talks answer clock past (checkAll name later) es outcome ∧
      Consulted es outcome) {past : List Exchange} {cursor : Option String}
    (h : answer.Ends clock { remoteUrl := some url } pageSize past cursor) :
    ∃ es outcome, machine.Talks answer clock past (.running ⟨name, url, later, cursor⟩) es outcome ∧
      Consulted es outcome := by
  induction h with
  | @intro past cursor _ ih =>
      let o : Ownership := ⟨name, url, later, cursor⟩
      cases hreply : answer past (clock past.length).now o.ask with
      | error stop =>
          exact ⟨_, _, .reply (m := machine) (s := o) hreply rfl (.finished _ _),
            .broken [] (List.forall_mem_nil _) (.inr rfl) rfl⟩
      | ok page =>
          have hread : Exchange.Read ⟨(clock past.length).now, o.ask, .ok page⟩ := ⟨.inr rfl, _, rfl⟩
          rcases o.receive_page (clock past.length) page with
            ⟨other, hreceive⟩ | ⟨cursor', hnext, hreceive⟩ | hreceive
          · exact ⟨_, _, .reply (m := machine) (s := o) hreply hreceive (.finished _ _),
              .refused (List.forall_mem_singleton.2 hread) _⟩
          · obtain ⟨es, outcome, hrest, hes⟩ := ih page cursor' hreply hnext
            exact ⟨_ :: es, outcome, .reply (m := machine) (s := o) hreply hreceive hrest, hes.cons hread⟩
          · obtain ⟨es, outcome, hrest, hes⟩ := hlater _
            exact ⟨_ :: es, outcome, .reply (m := machine) (s := o) hreply hreceive hrest, hes.cons hread⟩

/-- **A check of URLs ends if pages do.** -/
theorem talks (h : answer.PagesEnd clock) (name : String) (urls : List String) (past : List Exchange) :
    ∃ es outcome, machine.Talks answer clock past (checkAll name urls) es outcome ∧
      Consulted es outcome := by
  induction urls generalizing past with
  | nil => exact ⟨[], _, .finished _ _, .answered (List.forall_mem_nil _) ()⟩
  | cons url later ih => exact talks_url ih (h.ends past _ (by decide))

end Ownership

end Service

end ManifestRegistry
