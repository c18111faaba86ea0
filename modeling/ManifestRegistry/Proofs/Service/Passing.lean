/-
**A publish that passes its gates.**

Whatever a store keeps, the gates of a publish ask the store itself: how often the subject has published,
what it lists under a URL, what it lists under the name.  A publish that passes all of them plans a commit
of exactly the versions that are listed.  If the store accepts the commit, that is the end; if it finds a
conflict, the next attempt reads the same versions again, and after the last one the publish gives up.  So
all that matters is whether the store accepts what is planned.

Main definitions:

* `Storage.Catalog.Calm` — an open store whose entries cursors can name;
* `Service.Publish.Passes` — **the gates, put to a store, let a publish through**;
* `Service.Publish.Resolved` — a publish has ended with a commit, or has given up.

Main results:

* `Storage.Memory.calm`, `Storage.Rows.calm` — open stores that are not too large are calm;
* `Service.Machine.runAt_andThen` — a part that ends goes on with what comes next;
* `Service.Collect.runAt_selected` — reading all pages comes to what is listed;
* `Service.Ownership.runAt_checkAll` — the check of URLs ends with the first one that another name has;
* `Service.Ownership.runAt_passes` — no other name has a URL, as far as pages tell;
* `Service.Publish.resolved` — **a publish that passes its gates ends with the commit, or gives up, just as
  the store accepts what is planned**.
-/

import ManifestRegistry.Proofs.Service.Attempts

set_option relaxedAutoImplicit false
set_option autoImplicit false

namespace ManifestRegistry

open Storage

/-- A reason to refuse a commit after which another one is tried. -/
def StorageError.Retries (e : StorageError) : Prop :=
  (∃ reason, e = .conflict reason) ∨ ∃ reason, e = .alreadyExists reason

/-! ### Calm stores -/

/-- An open store whose entries cursors can name, and of which counting changes nothing. -/
structure Storage.Catalog.Calm {σ : Type} [Store σ] [Catalog σ] (s : σ) : Prop where
  isOpen : Catalog.IsOpen s
  bounded : ∀ filter, ∀ e ∈ Catalog.selected s filter, e.1 ≤ Cursor.limit
  few : ∀ filter, (Catalog.selected s filter).length ≤ Store.size s
  counted : ∀ subject hours now, (Store.call (.countRecent subject hours) now s).2 = s

/-- The entries of a calm store that can all be read ascend. -/
theorem Storage.Catalog.Calm.ascending {σ : Type} [Store σ] [Catalog σ] {s : σ} (h : Catalog.Calm s)
    {filter : Filter} {as : List (Nat × Record)}
    (has : Catalog.selected s filter = as.map Entry.shown) : Page.Ascending as where
  sorted := by
    have hsorted := Catalog.ascending s filter
    rw [has, List.pairwise_map] at hsorted
    exact hsorted
  bounded a ha := h.bounded filter (Entry.shown a) (has ▸ List.mem_map_of_mem ha)

/-- A list that is open and not too long is calm. -/
theorem Storage.Memory.calm {m : Memory} (hopen : m.closed = false)
    (h : m.records.length ≤ Cursor.limit) : Catalog.Calm m where
  isOpen := hopen
  bounded filter e he := by
    obtain ⟨a, ha, rfl⟩ := List.mem_map.1 he
    exact (Memory.ascending_sequenced h).bounded a (List.mem_filter.1 ha).1
  few filter := by
    show (((Memory.sequenced m.records).filter fun a => filter.selects a.2).map Entry.shown).length ≤
      m.records.length
    rw [List.length_map]
    exact Nat.le_trans (List.length_filter_le _ _) (by simp [Memory.sequenced])
  counted _ _ _ := rfl

/-- So is a table. -/
theorem Storage.Rows.calm {t : Rows} (hopen : t.closed = false) (h : t.rows.length ≤ Cursor.limit) :
    Catalog.Calm t where
  isOpen := hopen
  bounded filter e he := by
    obtain ⟨a, ha, rfl⟩ := List.mem_map.1 he
    obtain ⟨⟨row, n⟩, hmem, rfl⟩ := List.mem_map.1 (List.mem_filter.1 ha).1
    have hlt := (List.mem_zipIdx hmem).2.1
    show n ≤ Cursor.limit
    omega
  few filter := by
    show (((Rows.sequenced t.rows).filter fun a => a.2.selectedBy filter).map
      fun a => (a.1, a.2.shownBy filter)).length ≤ t.rows.length
    rw [List.length_map]
    exact Nat.le_trans (List.length_filter_le _ _) (by simp [Rows.sequenced])
  counted _ _ _ := rfl

namespace Service

/-! ### Parts of tasks -/

namespace Machine

variable {τ τ' ρ ρ' α : Type} {call : Instant → (c : Call) → α → Reply c.Answer × α}
  {clock : Nat → Moment}

@[simp] theorem runAt_finished (m : Machine τ ρ) (rounds made : Nat) (r : ρ) (t : α) :
    m.runAt call clock rounds made (.finished r) t = (some r, t) := by
  cases rounds <;> rfl

/-- **A part that ends goes on with what comes next**, with the calls left over; what comes next may depend
on the moment of its last call. -/
theorem runAt_andThen {m : Machine τ ρ} {M : Machine τ' ρ'} {f : τ → τ'}
    {next : Moment → ρ → Progress τ' ρ'}
    (hstep : ∀ now moment s t, M.step (call now) moment (f s) t =
      ((m.step (call now) moment s t).1.andThen f (next moment), (m.step (call now) moment s t).2))
    {rounds made : Nat} {s : τ} {t t' : α} {r : ρ}
    (h : m.runAt call clock rounds made (.running s) t = (some r, t')) (spare : Nat) :
    ∃ n, 0 < n ∧ n ≤ rounds ∧ M.runAt call clock (rounds + spare) made (.running (f s)) t =
      M.runAt call clock (rounds + spare - n) (made + n) (next (clock (made + n - 1)) r) t' := by
  -- each call of the part is one of the whole
  induction rounds generalizing made s t with
  | zero => cases h
  | succ rounds ih =>
      rw [runAt] at h
      rw [Nat.add_right_comm, runAt, hstep]
      cases hm : m.step (call (clock made).now) (clock made) s t with
      | mk status t₁ =>
          rw [hm] at h
          cases status with
          | finished r₁ =>
              simp only [runAt_finished, Prod.mk.injEq, Option.some.injEq] at h
              obtain ⟨rfl, rfl⟩ := h
              exact ⟨1, Nat.one_pos, by omega, rfl⟩
          | running s₁ =>
              obtain ⟨n, hpos, hle, hrun⟩ := ih h
              refine ⟨n + 1, Nat.succ_pos n, by omega, ?_⟩
              have hrounds : rounds + spare + 1 - (n + 1) = rounds + spare - n := by omega
              have hmade : made + (n + 1) = made + 1 + n := by omega
              rw [hrounds, hmade]
              exact hrun

end Machine

/-! ### Checking URLs -/

section

variable {σ : Type} [Store σ] [Catalog σ] {call : Instant → (c : Call) → σ → Reply c.Answer × σ}
  {clock : Nat → Moment} {s : σ}

/-- **Reading all pages of a calm store comes to what it lists**, up to the ceiling, with a call for each full
page and one more. -/
theorem Collect.runAt_selected (hcall : ∀ now c s, call now c s = Store.call c now s)
    (hs : Catalog.Calm s) {filter : Filter} {as : List (Nat × Record)}
    (hlisted : Catalog.selected s filter = as.map Entry.shown) (pageSize ceiling : Nat)
    {rounds made : Nat} (hrounds : as.length / max pageSize 1 < rounds) :
    machine.runAt call clock rounds made (.running (start filter pageSize ceiling)) s =
      (some (.ok ((as.map Prod.snd).take ceiling)), s) := by
  have hcalls : ∀ now cursor, call now (.list filter cursor (max pageSize 1)) s =
      (listing (([] ++ as).map Entry.shown) cursor (max pageSize 1), s) := by
    intro now cursor
    rw [hcall, Catalog.call_list hs.isOpen, hlisted, List.nil_append]
  have hasc : Page.Ascending ([] ++ as) := hs.ascending hlisted
  exact Collect.runAt_listing (start filter pageSize ceiling)
    (Nat.lt_of_lt_of_le Nat.one_pos (Nat.le_max_right _ _)) hcalls hasc rfl rfl hrounds

namespace Ownership

/-- **The check of a URL ends with the first record of another name that is listed under it**, or goes on
with the URLs after it. -/
theorem runAt_url (hcall : ∀ now c s, call now c s = Store.call c now s) (hs : Catalog.Calm s)
    (o : Ownership) {done rest : List (Nat × Record)}
    (hlisted : Catalog.selected s { remoteUrl := some o.url } = (done ++ rest).map Entry.shown)
    (hdone : ∀ a ∈ done, a.2.name = o.name) (hcursor : o.cursor = Page.after done) {k : Nat}
    {flaw : Option Failure} (hlater : ∀ rounds made, k ≤ rounds →
      machine.runAt call clock rounds made (checkAll o.name o.later) s = (some (outcome flaw), s))
    {rounds made : Nat} (hrounds : rest.length + 1 + k ≤ rounds) :
    machine.runAt call clock rounds made (.running o) s =
      (some (outcome ((((rest.map Prod.snd).find? fun r => r.name ≠ o.name).map fun other =>
        .duplicateRemoteUrl o.url other.name).or flaw)), s) := by
  -- each page that is not the last one makes the rest shorter
  induction hlen : rest.length using Nat.strongRecOn generalizing o done rest made rounds with
  | _ len ih =>
      obtain ⟨rounds, rfl⟩ : ∃ n, rounds = n + 1 := ⟨rounds - 1, by omega⟩
      have hpaged : call (clock made).now (.list { remoteUrl := some o.url } o.cursor pageSize) s =
          (.ok (Page.ofSequenced (rest.take pageSize) pageSize), s) := by
        rw [hcall, Catalog.call_list hs.isOpen, hlisted, hcursor,
          listing_shown_after (hs.ascending hlisted)]
      have hfind : (rest.map Prod.snd).find? (fun r => r.name ≠ o.name) =
          (((rest.take pageSize).map Prod.snd).find? fun r => r.name ≠ o.name).or
            (((rest.drop pageSize).map Prod.snd).find? fun r => r.name ≠ o.name) := by
        rw [← List.find?_append, ← List.map_append, List.take_append_drop]
      rw [Machine.runAt, hfind]
      cases hfound : ((rest.take pageSize).map Prod.snd).find? fun r => r.name ≠ o.name with
      | some other =>
          have hstep : machine.step (call (clock made).now) (clock made) o s =
              (.finished (failed (.duplicateRemoteUrl o.url other.name)), s) := by
            simp only [Machine.step, machine, ask, hpaged, receive, ofReply, Page.items_ofSequenced,
              hfound]
          rw [hstep]
          exact Machine.runAt_finished ..
      | none =>
          have hsize : 0 < pageSize := by decide
          rcases Page.turned done hsize with ⟨cursor, hafter, hnext, hless⟩ | ⟨hnext, hnil⟩
          · have hstep : machine.step (call (clock made).now) (clock made) o s =
                (.running { o with cursor := some cursor }, s) := by
              simp only [Machine.step, machine, ask, hpaged, receive, ofReply, Page.items_ofSequenced,
                hfound]
              rw [hnext]
            have hdone' : ∀ a ∈ done ++ rest.take pageSize, a.2.name = o.name := by
              refine List.forall_mem_append.2 ⟨hdone, fun a ha => ?_⟩
              simpa using List.find?_eq_none.1 hfound a.2 (List.mem_map_of_mem ha)
            rw [hstep, Option.none_or]
            rw [← List.take_append_drop pageSize rest, ← List.append_assoc] at hlisted
            exact ih (rest.drop pageSize).length (by omega) { o with cursor := some cursor } hlisted hdone'
              hafter.symm hlater (by omega) rfl
          · have hstep : machine.step (call (clock made).now) (clock made) o s =
                (checkAll o.name o.later, s) := by
              simp only [Machine.step, machine, ask, hpaged, receive, ofReply, Page.items_ofSequenced,
                hfound]
              rw [hnext]
            rw [hstep, hnil]
            exact hlater _ _ (by omega)

/-- **The check of URLs ends with the first one that another name has**, as far as pages tell: `holders`
are the records that are listed under each. -/
theorem runAt_checkAll (hcall : ∀ now c s, call now c s = Store.call c now s) (hs : Catalog.Calm s)
    (name : String) (holders : String → List Record) (urls : List String)
    (hurls : ∀ url ∈ urls, ∃ as : List (Nat × Record),
      Catalog.selected s { remoteUrl := some url } = as.map Entry.shown ∧ as.map Prod.snd = holders url)
    {rounds made : Nat} (hrounds : urls.length * (Store.size s + 1) ≤ rounds) :
    machine.runAt call clock rounds made (checkAll name urls) s =
      (some (outcome (urls.findSome? fun url => ((holders url).find? fun r => r.name ≠ name).map
        fun other => .duplicateRemoteUrl url other.name)), s) := by
  induction urls generalizing made rounds with
  | nil => rw [checkAll, Machine.runAt_finished, List.findSome?_nil, outcome]
  | cons url later ih =>
      obtain ⟨as, hlisted, hshown⟩ := hurls url List.mem_cons_self
      have hfew := hs.few { remoteUrl := some url }
      rw [hlisted, List.length_map] at hfew
      rw [List.length_cons, Nat.succ_mul] at hrounds
      have hrest : as.length + 1 + later.length * (Store.size s + 1) ≤ rounds := by omega
      have hfirst : Catalog.selected s { remoteUrl := some url } = ([] ++ as).map Entry.shown := hlisted
      have hrun : machine.runAt call clock rounds made (.running { name, url, later }) s =
          (some (outcome ((((as.map Prod.snd).find? fun r => r.name ≠ name).map fun other =>
            .duplicateRemoteUrl url other.name).or (later.findSome? fun url =>
              ((holders url).find? fun r => r.name ≠ name).map fun other =>
                .duplicateRemoteUrl url other.name))), s) :=
        runAt_url hcall hs { name, url, later } hfirst (fun _ ha => absurd ha List.not_mem_nil) rfl
          (fun rounds made => ih fun url' h => hurls url' (List.mem_cons_of_mem _ h)) hrest
      rw [hshown] at hrun
      rw [List.findSome?_cons, checkAll, hrun]
      cases (holders url).find? fun r => r.name ≠ name <;> rfl

/-- **The check of URLs that only one name has comes to nothing against them.** -/
theorem runAt_passes (hcall : ∀ now c s, call now c s = Store.call c now s) (hs : Catalog.Calm s)
    (name : String) (urls : List String)
    (hurls : ∀ url ∈ urls, ∃ as : List (Nat × Record),
      Catalog.selected s { remoteUrl := some url } = as.map Entry.shown ∧ ∀ a ∈ as, a.2.name = name)
    {rounds made : Nat} (hrounds : urls.length * (Store.size s + 1) ≤ rounds) :
    machine.runAt call clock rounds made (checkAll name urls) s = (some (.ok ()), s) := by
  let holders := fun url => (Catalog.selected s { remoteUrl := some url }).filterMap fun e => e.2.toOption
  have hholders : ∀ {url} {as : List (Nat × Record)},
      Catalog.selected s { remoteUrl := some url } = as.map Entry.shown →
        as.map Prod.snd = holders url := by
    intro url as has
    simp only [holders, has, List.filterMap_map]
    exact (congrFun List.filterMap_eq_map as).symm
  have hnone : (urls.findSome? fun url => ((holders url).find? fun r => r.name ≠ name).map
      fun other => Failure.duplicateRemoteUrl url other.name) = none := by
    refine List.findSome?_eq_none_iff.2 fun url hurl => ?_
    obtain ⟨as, has, hname⟩ := hurls url hurl
    rw [← hholders has, Option.map_eq_none_iff, List.find?_eq_none, List.forall_mem_map]
    intro a ha
    simp [hname a ha]
  rw [runAt_checkAll hcall hs name holders urls ?_ hrounds, hnone, outcome]
  intro url hurl
  obtain ⟨as, has, -⟩ := hurls url hurl
  exact ⟨as, has, hholders has⟩

end Ownership

namespace Publish

/-! ### Gates put to a store -/

/-- **The gates, put to a store, let a publish through**, the versions of its name being those listed. -/
structure Passes (p : Publish) (now : Instant) (s : σ) (versions : List (Nat × Record)) : Prop where
  quota : p.publisher.isAdmin = true ∨ p.config.dailyQuota < 0 ∨
    ∃ used : Nat, (Store.call (.countRecent p.publisher.subject Quota.windowHours) now s).1 = .ok used ∧
      (used : Int) < p.config.dailyQuota
  form : p.submission.flaw? p.config p.validator = none
  urls : ∀ url ∈ p.manifest.remoteUrls, ∃ as : List (Nat × Record),
    Catalog.selected s { remoteUrl := some url } = as.map Entry.shown ∧
      ∀ a ∈ as, a.2.name = p.manifest.name
  listed : Catalog.selected s { name := some p.manifest.name } = versions.map Entry.shown
  version : ∀ r ∈ versions.map Prod.snd, r.version ≠ p.manifest.version
  room : versions.length < p.config.maxVersions

/-- A commit that a store may refuse for a conflict only. -/
structure Judged (p : Publish) (s : σ) (existing : List Record) (accepted : Moment → Prop) : Prop where
  accepts : ∀ moment, accepted moment → ∀ now,
    (Store.call (.commit (p.record moment existing) (p.demotion moment existing)) now s).1 =
      .ok (p.record moment existing)
  refuses : ∀ moment, ¬accepted moment → ∀ now, ∃ e,
    Store.call (.commit (p.record moment existing) (p.demotion moment existing)) now s = (refuse e, s) ∧
      e.Retries

/-- **A publish has ended with a commit** that was planned when the store accepts it, **or has given up**
after some that were planned when it does not. -/
def Resolved (p : Publish) (clock : Nat → Moment) (s : σ) (existing : List Record)
    (accepted : Moment → Prop) (result : Option Change × σ) : Prop :=
  (∃ i, accepted (clock i) ∧ result.1 = some (.ok (p.record (clock i) existing,
    p.events (p.record (clock i) existing) (p.demotion (clock i) existing)))) ∨
  (∃ i, ¬accepted (clock i)) ∧ (∃ change, result.1 = some change ∧ change.GaveUp) ∧ result.2 = s

variable {p : Publish} {versions : List (Nat × Record)} {accepted : Moment → Prop}

theorem receive_refused (left : Nat) (plan : Plan) (moment : Moment) {e : StorageError}
    (h : e.Retries) :
    ∃ reason, p.receive (.commit left plan) moment (refuse e) = p.retry (left - 1) reason := by
  rcases h with ⟨reason, rfl⟩ | ⟨reason, rfl⟩ <;> exact ⟨reason, rfl⟩

/-- One attempt reads all versions of the name and plans a commit of them. -/
theorem runAt_lookup (hcall : ∀ now c s, call now c s = Store.call c now s) (hs : Catalog.Calm s)
    (hlisted : Catalog.selected s { name := some p.manifest.name } = versions.map Entry.shown)
    (hversion : ∀ r ∈ versions.map Prod.snd, r.version ≠ p.manifest.version)
    (hroom : versions.length < p.config.maxVersions) (clock : Nat → Moment) (left made : Nat)
    {rounds : Nat} (hrounds : Store.size s + 1 ≤ rounds) :
    ∃ n i, n ≤ Store.size s + 1 ∧ p.machine.runAt call clock rounds made
        (.running (.lookup left (lookup p.config p.manifest.name))) s =
      p.machine.runAt call clock (rounds - n) (made + n) (.running (.commit left
        ⟨p.record (clock i) (versions.map Prod.snd), p.demotion (clock i) (versions.map Prod.snd)⟩)) s := by
  have hfew := hs.few { name := some p.manifest.name }
  rw [hlisted, List.length_map] at hfew
  have hceil : (versions.map Prod.snd).take (max p.config.maxVersions 1) = versions.map Prod.snd := by
    refine List.take_of_length_le ?_
    rw [List.length_map]
    exact Nat.le_trans (Nat.le_of_lt hroom) (Nat.le_max_left _ 1)
  have hread : Collect.machine.runAt call clock (Store.size s + 1) made
      (.running (lookup p.config p.manifest.name)) s =
        (some (.ok (versions.map Prod.snd)), s) := by
    refine (Collect.runAt_selected hcall hs hlisted _ _ ?_).trans (by rw [hceil])
    exact Nat.lt_succ_of_le (Nat.le_trans (Nat.div_le_self _ _) hfew)
  obtain ⟨n, -, hn, hrun⟩ := Machine.runAt_andThen (M := p.machine) (f := Phase.lookup left)
    (fun _ _ _ _ => rfl) hread (rounds - (Store.size s + 1))
  rw [Nat.add_sub_cancel' hrounds] at hrun
  refine ⟨n, made + n - 1, hn, ?_⟩
  rw [hrun, afterLookup, plan_eq_ok.2 ⟨hversion, by rwa [List.length_map], rfl⟩]

omit [Catalog σ] in
theorem runAt_commit (hcall : ∀ now c s, call now c s = Store.call c now s)
    {existing : List Record} (hjudged : p.Judged s existing accepted) (clock : Nat → Moment)
    (left : Nat) {moment : Moment} (h : accepted moment) (rounds made : Nat) :
    (p.machine.runAt call clock (rounds + 1) made
      (.running (.commit left ⟨p.record moment existing, p.demotion moment existing⟩)) s).1 =
      some (.ok (p.record moment existing,
        p.events (p.record moment existing) (p.demotion moment existing))) := by
  have hstep : (p.machine.step (call (clock made).now) (clock made)
      (.commit left ⟨p.record moment existing, p.demotion moment existing⟩) s).1 =
        .finished (.ok (p.record moment existing,
          p.events (p.record moment existing) (p.demotion moment existing))) := by
    simp only [Machine.step, machine, ask, hcall, receive, afterCommit,
      hjudged.accepts moment h (clock made).now]
  rw [Machine.runAt]
  simp only [hstep, Machine.runAt_finished]

omit [Catalog σ] in
/-- A commit that is refused leads to the next attempt, if there is one left. -/
theorem runAt_refused (hcall : ∀ now c s, call now c s = Store.call c now s)
    {existing : List Record} (hjudged : p.Judged s existing accepted) (clock : Nat → Moment)
    (left : Nat) {moment : Moment} (h : ¬accepted moment) (rounds made : Nat) :
    ∃ reason, p.machine.runAt call clock (rounds + 1) made
      (.running (.commit left ⟨p.record moment existing, p.demotion moment existing⟩)) s =
      p.machine.runAt call clock rounds (made + 1) (p.retry (left - 1) reason) s := by
  obtain ⟨e, hrefused, hconflict⟩ := hjudged.refuses moment h (clock made).now
  obtain ⟨reason, hreceive⟩ := p.receive_refused left
    ⟨p.record moment existing, p.demotion moment existing⟩ (clock made) hconflict
  refine ⟨reason, ?_⟩
  have hstep : p.machine.step (call (clock made).now) (clock made)
      (.commit left ⟨p.record moment existing, p.demotion moment existing⟩) s =
        (p.retry (left - 1) reason, s) := by
    rw [← hreceive]
    simp only [Machine.step, machine, ask, hcall, hrefused]
  rw [Machine.runAt, hstep]

section

variable (hcall : ∀ now c s, call now c s = Store.call c now s) (hs : Catalog.Calm s)
  (hlisted : Catalog.selected s { name := some p.manifest.name } = versions.map Entry.shown)
  (hversion : ∀ r ∈ versions.map Prod.snd, r.version ≠ p.manifest.version)
  (hroom : versions.length < p.config.maxVersions)
  (hjudged : p.Judged s (versions.map Prod.snd) accepted)
include hcall hs hlisted hversion hroom hjudged

/-- **Each attempt reads the same versions and plans a commit of them**, until one is accepted. -/
theorem resolved_lookup (clock : Nat → Moment) (left made : Nat) {rounds : Nat}
    (hrounds : (left + 1) * (Store.size s + 2) ≤ rounds) :
    p.Resolved clock s (versions.map Prod.snd) accepted (p.machine.runAt call clock rounds made
      (.running (.lookup (left + 1) (lookup p.config p.manifest.name))) s) := by
  induction left using Nat.strongRecOn generalizing rounds made with
  | _ left ih =>
      rw [Nat.succ_mul] at hrounds
      obtain ⟨n, i, hn, hrun⟩ := runAt_lookup hcall hs hlisted hversion hroom clock (left + 1) made
        (show Store.size s + 1 ≤ rounds by omega)
      obtain ⟨spare, hspare⟩ : ∃ k, rounds - n = k + 1 := ⟨rounds - n - 1, by omega⟩
      rw [hrun, hspare]
      by_cases h : accepted (clock i)
      · exact .inl ⟨i, h, runAt_commit hcall hjudged clock _ h _ _⟩
      · obtain ⟨reason, hretry⟩ := runAt_refused hcall hjudged clock (left + 1) h spare (made + n)
        rw [hretry, Nat.add_sub_cancel]
        cases left with
        | zero =>
            obtain ⟨change, hlost, hgaveUp⟩ : ∃ change : Change,
                p.retry 0 reason = .finished change ∧ change.GaveUp := ⟨_, rfl, _, rfl⟩
            rw [hlost, Machine.runAt_finished]
            exact .inr ⟨⟨i, h⟩, ⟨change, rfl, hgaveUp⟩, rfl⟩
        | succ left => exact ih left (Nat.lt_succ_self left) _ (by omega)

/-- Once the URLs are known to be free, the versions are looked up. -/
theorem resolved_ownership (clock : Nat → Moment) (made : Nat)
    (hurls : ∀ url ∈ p.manifest.remoteUrls, ∃ as : List (Nat × Record),
      Catalog.selected s { remoteUrl := some url } = as.map Entry.shown ∧
        ∀ a ∈ as, a.2.name = p.manifest.name) {rounds : Nat}
    (hrounds : Ownership.rounds p.manifest (Store.size s) + maxAttempts * (Store.size s + 2) ≤ rounds) :
    p.Resolved clock s (versions.map Prod.snd) accepted (p.machine.runAt call clock rounds made
      ((Ownership.start p.manifest).andThen Phase.ownership p.afterOwnership) s) := by
  have hlookup : ∀ made {rounds}, maxAttempts * (Store.size s + 2) ≤ rounds →
      p.Resolved clock s (versions.map Prod.snd) accepted (p.machine.runAt call clock rounds made
        (p.afterOwnership (.ok ())) s) := fun made _ =>
    resolved_lookup hcall hs hlisted hversion hroom hjudged clock 2 made
  have hcheck : Ownership.machine.runAt call clock (Ownership.rounds p.manifest (Store.size s)) made
      (Ownership.start p.manifest) s = (some (.ok ()), s) :=
    Ownership.runAt_passes hcall hs _ _ hurls (Nat.le_refl _)
  cases hstart : Ownership.start p.manifest with
  | finished r =>
      rw [hstart, Machine.runAt_finished] at hcheck
      obtain rfl := Option.some_inj.1 (congrArg Prod.fst hcheck)
      exact hlookup made (by omega)
  | running o =>
      rw [hstart] at hcheck
      have hspare : Ownership.rounds p.manifest (Store.size s) ≤ rounds := by omega
      obtain ⟨n, -, hn, hrun⟩ := Machine.runAt_andThen (M := p.machine) (f := Phase.ownership)
        (fun _ _ _ _ => rfl) hcheck (rounds - Ownership.rounds p.manifest (Store.size s))
      rw [Nat.add_sub_cancel' hspare] at hrun
      rw [Progress.andThen, hrun]
      exact hlookup _ (by omega)

end

/-- **A publish that passes its gates ends with the commit, or gives up, just as the store accepts what
is planned.** -/
theorem resolved (hcall : ∀ now c s, call now c s = Store.call c now s) (hs : Catalog.Calm s)
    (clock : Nat → Moment) (h : p.Passes (clock 0).now s versions)
    (hjudged : p.Judged s (versions.map Prod.snd) accepted) :
    p.Resolved clock s (versions.map Prod.snd) accepted
      (p.machine.runAt call clock (p.rounds (Store.size s)) 0 p.start s) := by
  have hrounds : p.rounds (Store.size s) =
      Ownership.rounds p.manifest (Store.size s) + maxAttempts * (Store.size s + 2) + 1 := by
    show 1 + _ + maxAttempts * (Store.size s + 2) = _
    omega
  have hafter : ∀ made {rounds} {decision : Quota.Decision},
      decision.verdict p.publisher.subject = .ok () →
      Ownership.rounds p.manifest (Store.size s) + maxAttempts * (Store.size s + 2) ≤ rounds →
      p.Resolved clock s (versions.map Prod.snd) accepted (p.machine.runAt call clock rounds made
        (p.afterQuota (.ok decision)) s) := by
    intro made rounds decision hverdict hle
    rw [afterQuota, hverdict, h.form]
    exact resolved_ownership hcall hs h.listed h.version h.room hjudged clock made h.urls hle
  by_cases hfree : p.publisher.isAdmin = true ∨ p.config.dailyQuota < 0
  · have hstart : p.start = p.afterQuota (.ok .unlimited) := by
      have hyes : (p.publisher.isAdmin || decide (p.config.dailyQuota < 0)) = true := by
        simpa using hfree
      have hquota : p.quota.start = .finished (.ok .unlimited) := if_pos hyes
      rw [start, hquota]
      rfl
    rw [hstart]
    exact hafter 0 rfl (by omega)
  · obtain ⟨used, hused, hless⟩ := (h.quota.resolve_left (not_or.1 hfree).1).resolve_left
      (not_or.1 hfree).2
    have hstart : p.start = .running (.quota p.quota) := by
      have hbusy : ¬(p.publisher.isAdmin || decide (p.config.dailyQuota < 0)) = true := by
        simpa using hfree
      have hzero : ¬p.config.dailyQuota = 0 := by omega
      have hquota : p.quota.start = .running p.quota := (if_neg hbusy).trans (if_neg hzero)
      rw [start, hquota]
      rfl
    have hcount : Store.call (.countRecent p.publisher.subject Quota.windowHours) (clock 0).now s =
        (.ok used, s) := Prod.ext hused (hs.counted _ _ _)
    have hstep : p.machine.step (call (clock 0).now) (clock 0) (.quota p.quota) s =
        (p.afterQuota (.ok (Quota.ofCount p.config.dailyQuota used)), s) := by
      simp only [Machine.step, machine, ask, Quota.ask, quota, hcall, hcount]
      rfl
    rw [hstart, hrounds, Machine.runAt, hstep]
    refine hafter 1 ?_ (Nat.le_refl _)
    have hunder : used < p.config.dailyQuota.toNat := by omega
    rw [Quota.ofCount, if_pos hunder]
    rfl

end Publish

end

end Service

end ManifestRegistry
