/-
**Tasks that nobody disturbs.**

A task that is alone with a store is followed on a plain list of records: each of its calls has the
answer that the list gives, until the task ends.  Any store that gives the answers of a list then
brings the task to the same end.  Tasks that are parts of others are followed on their own.

Main definitions:

* `Service.Machine.Ends` — an undisturbed task ends with some result after so many calls;
* `Service.Listed` — the entries of a list that a filter selects, read and not yet read.

Main results:

* `Service.Machine.Ends.run` — **an exact store brings a task to the same end**;
* `Service.Machine.Ends.andThen` — a part that ends goes on with what comes next;
* `Service.Collect.ends` — **reading all pages ends with the selected records**;
* `Service.Walk.runAt_listing` — a walk through a store shows the entries that it lists;
* `Service.Ownership.ends` — **checking URLs ends with the first one that another name has**.
-/

import ManifestRegistry.Proofs.Paging.Pages
import ManifestRegistry.Proofs.Storage.Agreement
import ManifestRegistry.Service.Collect
import ManifestRegistry.Service.Ownership

set_option relaxedAutoImplicit false
set_option autoImplicit false

namespace ManifestRegistry

namespace Service

open Storage

namespace Machine

variable {τ τ' ρ ρ' : Type} {legible : Bag → Prop} {clock : Nat → Moment}

/-- An undisturbed task on a list of records ends with some result after so many calls, leaving some
records behind, if so many calls were made before it; the clock tells the moment of each call. -/
inductive Ends (legible : Bag → Prop) (clock : Nat → Moment) (m : Machine τ ρ) :
    (made : Nat) → Progress τ ρ → List Record → Nat → ρ → List Record → Prop
  | finished (made : Nat) (r : ρ) (rs : List Record) :
      Ends legible clock m made (.finished r) rs 0 r rs
  | call {made : Nat} {s : τ} {rs rs₁ rs' : List Record} {a : (m.ask s).Answer} {n : Nat} {r : ρ}
      (h : Answers legible (clock made).now rs (m.ask s) a rs₁)
      (rest : Ends legible clock m (made + 1) (m.receive s (clock made) (.ok a)) rs₁ n r rs') :
      Ends legible clock m made (.running s) rs (n + 1) r rs'

variable {m : Machine τ ρ} {progress : Progress τ ρ} {rs rs₁ rs' : List Record} {made n : Nat}
  {r : ρ}

theorem Ends.mono {legible' : Bag → Prop} (h : Ends legible clock m made progress rs n r rs')
    (himp : ∀ bag, legible bag → legible' bag) : Ends legible' clock m made progress rs n r rs' := by
  induction h with
  | finished made r rs => exact .finished made r rs
  | call hans _ ih => exact .call (hans.mono himp) ih

/-- **An exact store brings a task to the same end**, if it may make as many calls. -/
theorem Ends.run {σ : Type} [Store σ] [Ledger σ] [Exact σ]
    {call : Instant → (c : Call) → σ → Reply c.Answer × σ}
    (hcall : ∀ now c s, call now c s = Store.call c now s)
    (h : Ends (Ledger.Legible σ) clock m made progress rs n r rs') {s : σ} (hk : Ledger.Keeps s rs)
    {rounds : Nat} (hn : n ≤ rounds) :
    ∃ s', m.runAt call clock rounds made progress s = (some r, s') ∧ Ledger.Keeps s' rs' := by
  -- the calls left in the budget go down with the calls that the ending still needs
  induction h generalizing s rounds with
  | finished made r rs =>
      refine ⟨s, ?_, hk⟩
      cases rounds <;> rfl
  | @call made state rs rs₁ rs' a n r hans rest ih =>
      obtain ⟨rounds, rfl⟩ : ∃ k, rounds = k + 1 := ⟨rounds - 1, by omega⟩
      obtain ⟨hreply, hkept⟩ := Exact.call hk hans
      obtain ⟨s', hrun, hk'⟩ := ih hkept (Nat.le_of_succ_le_succ hn)
      refine ⟨s', ?_, hk'⟩
      rw [Machine.runAt, Machine.step, hcall]
      simp only [hreply]
      exact hrun

/-- **A part that ends goes on with what comes next**, which may depend on the moment of its last call. -/
theorem Ends.andThen {M : Machine τ' ρ'} {f : τ → τ'} {next : Moment → ρ → Progress τ' ρ'}
    (hpart : ∀ {moment s rs rs₁ a}, Answers legible moment.now rs (m.ask s) a rs₁ →
      ∃ a', Answers legible moment.now rs (M.ask (f s)) a' rs₁ ∧
        M.receive (f s) moment (.ok a') = (m.receive s moment (.ok a)).andThen f (next moment))
    (h : Ends legible clock m made progress rs n r rs₁) (before : Moment) {k : Nat} {r' : ρ'}
    (hnext : Ends legible clock M (made + n)
      (next (if n = 0 then before else clock (made + n - 1)) r) rs₁ k r' rs') :
    Ends legible clock M made (progress.andThen f (next before)) rs (n + k) r' rs' := by
  -- each call of the part is one of the whole, which goes on where the part has ended
  induction h generalizing before with
  | finished made r rs =>
      rw [Nat.zero_add]
      exact hnext
  | @call made s rs rs₁ _ a n r hans rest ih =>
      obtain ⟨a', hans', hreceive⟩ := hpart hans
      rw [Nat.add_right_comm]
      refine .call hans' ?_
      rw [hreceive]
      refine ih (clock made) ?_
      have hlast : (if n = 0 then clock made else clock (made + 1 + n - 1)) =
          clock (made + (n + 1) - 1) := by
        split
        · rename_i hzero
          rw [hzero]
          rfl
        · congr 1
          omega
      rw [hlast, Nat.add_right_comm made 1 n]
      exact hnext

end Machine

/-! ### Reading pages -/

/-- The entries of a list that a filter selects, those that were read and the rest. -/
structure Listed (rs : List Record) (filter : Filter) (done rest : List (Nat × Record)) : Prop where
  split : (Memory.sequenced rs).filter (fun a => filter.selects a.2) = done ++ rest
  fits : rs.length ≤ Cursor.limit
  timeless : filter.updatedSince = none

namespace Listed

variable {legible : Bag → Prop} {rs : List Record} {filter : Filter}
  {done rest : List (Nat × Record)}

theorem start (filter : Filter) (hfits : rs.length ≤ Cursor.limit) (htimeless : filter.updatedSince = none) :
    Listed rs filter [] ((Memory.sequenced rs).filter fun a => filter.selects a.2) :=
  ⟨rfl, hfits, htimeless⟩

/-- The records selected are those read and the rest. -/
theorem records (h : Listed rs filter done rest) :
    rs.filter (fun r => filter.selects r) = (done ++ rest).map Prod.snd := by
  rw [← h.split, Memory.map_snd_filter_sequenced]

theorem length_le (h : Listed rs filter done rest) : rest.length ≤ rs.length := by
  have hlen := congrArg List.length h.records
  have hfilter := List.length_filter_le (fun r => filter.selects r) rs
  rw [List.length_map, List.length_append] at hlen
  omega

/-- After a page, the entries on it are read. -/
theorem next (h : Listed rs filter done rest) (limit : Nat) :
    Listed rs filter (done ++ rest.take limit) (rest.drop limit) where
  split := by rw [h.split, List.append_assoc, List.take_append_drop]
  fits := h.fits
  timeless := h.timeless

/-- **The page that is due holds the first entries not read yet.** -/
theorem answers (h : Listed rs filter done rest) (hs : Settled legible rs) (now : Instant)
    (limit : Nat) :
    Answers legible now rs (.list filter (Page.after done) limit)
      (Page.ofSequenced (rest.take limit) limit) rs where
  settled := hs
  plain since hsince := by rw [h.timeless] at hsince; cases hsince
  call := by
    have hasc := (Memory.ascending_sequenced h.fits).filter fun a => filter.selects a.2
    rw [h.split] at hasc
    simp only [Store.call, Memory.list, Bool.false_eq_true, if_false, h.split,
      Page.paginate_after hasc limit]

end Listed

/-! ### Reading all pages -/

/-- If all entries can be read, the page behind some of them holds the first ones of the rest. -/
theorem listing_shown_after {done rest : List (Nat × Record)} (h : Page.Ascending (done ++ rest))
    (limit : Nat) : listing ((done ++ rest).map Entry.shown) (Page.after done) limit =
      .ok (Page.ofSequenced (rest.take limit) limit) := by
  refine listing_eq_ok.2 ⟨Page.last? done, rest.take limit, ?_, ?_, rfl⟩
  · rw [Page.start?_after_of_bounded fun a ha => h.bounded a (List.mem_append_left _ ha)]
  · rw [List.filter_map, List.map_take]
    exact congrArg (fun as => (as.map Entry.shown).take limit) (Page.filter_isBehind h.sorted)

namespace Collect

variable {legible : Bag → Prop} {rs : List Record} {filter : Filter}
  {done rest : List (Nat × Record)}

/-- **A page completes what is wanted, or brings the reading on**: the page that is due holds the first
entries not read yet. -/
theorem receive_turned (moment : Moment) (c : Collect) (rest : List (Nat × Record))
    (hpage : 0 < c.pageSize) (hrecords : c.records = done.map Prod.snd) :
    c.receive moment (.ok (Page.ofSequenced (rest.take c.pageSize) c.pageSize)) =
      .finished (.ok (((done ++ rest).map Prod.snd).take c.ceiling)) ∨
    ∃ cursor, Page.after (done ++ rest.take c.pageSize) = some cursor ∧
      c.pageSize ≤ rest.length ∧
      c.receive moment (.ok (Page.ofSequenced (rest.take c.pageSize) c.pageSize)) =
        .running { c with cursor := some cursor,
                          records := (done ++ rest.take c.pageSize).map Prod.snd } := by
  have hread : c.records ++ (rest.take c.pageSize).map Prod.snd =
      (done ++ rest.take c.pageSize).map Prod.snd := by
    rw [hrecords, List.map_append]
  have hall : (done ++ rest).map Prod.snd =
      (done ++ rest.take c.pageSize).map Prod.snd ++ (rest.drop c.pageSize).map Prod.snd := by
    rw [← List.map_append, List.append_assoc, List.take_append_drop]
  simp only [Collect.receive, Page.items_ofSequenced, hread]
  by_cases hceil : c.ceiling ≤ ((done ++ rest.take c.pageSize).map Prod.snd).length
  · left
    rw [if_pos hceil, hall, List.take_append_of_le_length hceil]
  · rw [if_neg hceil]
    rcases Page.turned done hpage with ⟨cursor, hafter, hnext, -⟩ | ⟨hnext, hnil⟩
    · -- a full page, and the reading goes on behind it
      exact .inr ⟨cursor, hafter, Page.le_length_of_nextCursor hnext, by rw [hnext]⟩
    · -- the last page
      have hlast : rest.take c.pageSize = rest :=
        List.take_of_length_le (List.drop_eq_nil_iff.1 hnil)
      rw [hlast] at hceil hnext ⊢
      rw [hnext, List.take_of_length_le (Nat.le_of_not_le hceil)]
      exact .inl rfl

/-- **Reading all pages ends with the selected records**, up to the ceiling. -/
theorem ends (clock : Nat → Moment) (made : Nat) (hs : Settled legible rs) (c : Collect)
    (h : Listed rs c.filter done rest) (hpage : 0 < c.pageSize)
    (hcursor : c.cursor = Page.after done) (hrecords : c.records = done.map Prod.snd) :
    ∃ n, 0 < n ∧ n ≤ rest.length + 1 ∧ machine.Ends legible clock made (.running c) rs n
      (.ok ((rs.filter fun r => c.filter.selects r).take c.ceiling)) rs := by
  -- each page that is not the last one makes the rest shorter
  induction hlen : rest.length using Nat.strongRecOn generalizing c done rest made with
  | _ k ih =>
      have hans := h.answers hs (clock made).now c.pageSize
      rw [← hcursor] at hans
      have hreceive : machine.receive c (clock made)
          (.ok (Page.ofSequenced (rest.take c.pageSize) c.pageSize)) =
            c.receive (clock made) (.ok (Page.ofSequenced (rest.take c.pageSize) c.pageSize)) := rfl
      rcases receive_turned (clock made) c rest hpage hrecords with
        hend | ⟨cursor, hafter, hfull, hmore⟩
      · refine ⟨1, Nat.one_pos, by omega, .call hans ?_⟩
        rw [hreceive, hend, h.records]
        exact .finished _ _ _
      · have hless := List.length_drop (i := c.pageSize) (l := rest)
        obtain ⟨n, -, hn, hends⟩ := ih (rest.drop c.pageSize).length (by omega) (made + 1)
          { c with cursor := some cursor, records := (done ++ rest.take c.pageSize).map Prod.snd }
          (h.next c.pageSize) hpage hafter.symm rfl rfl
        refine ⟨n + 1, Nat.succ_pos n, by omega, .call hans ?_⟩
        rw [hreceive, hmore]
        exact hends

/-- **Reading all pages of a store comes to the entries that it lists**, up to the ceiling, if each of them
can be read and cursors can count them.  It takes a call for each full page and one more. -/
theorem runAt_listing {σ : Type} {s : σ} {call : Instant → (c : Call) → σ → Reply c.Answer × σ}
    {clock : Nat → Moment} (c : Collect) (hpage : 0 < c.pageSize)
    (hcall : ∀ now cursor, call now (.list c.filter cursor c.pageSize) s =
      (listing ((done ++ rest).map Entry.shown) cursor c.pageSize, s))
    (hasc : Page.Ascending (done ++ rest)) (hcursor : c.cursor = Page.after done)
    (hrecords : c.records = done.map Prod.snd) {rounds made : Nat}
    (hrounds : rest.length / c.pageSize < rounds) :
    machine.runAt call clock rounds made (.running c) s =
      (some (.ok (((done ++ rest).map Prod.snd).take c.ceiling)), s) := by
  induction rounds generalizing c done rest made with
  | zero => exact absurd hrounds (Nat.not_lt_zero _)
  | succ rounds ih =>
      have hpaged : listing ((done ++ rest).map Entry.shown) c.cursor c.pageSize =
          .ok (Page.ofSequenced (rest.take c.pageSize) c.pageSize) := by
        rw [hcursor, listing_shown_after hasc]
      have hstep : machine.step (call (clock made).now) (clock made) c s =
          (c.receive (clock made) (.ok (Page.ofSequenced (rest.take c.pageSize) c.pageSize)), s) := by
        simp only [Machine.step, machine, ask, hcall, hpaged]
      rw [Machine.runAt, hstep]
      rcases receive_turned (clock made) c rest hpage hrecords with
        hend | ⟨cursor, hafter, hfull, hmore⟩
      · rw [hend]
        cases rounds <;> rfl
      · rw [hmore]
        have hsplit : done ++ rest = (done ++ rest.take c.pageSize) ++ rest.drop c.pageSize := by
          rw [List.append_assoc, List.take_append_drop]
        -- one page less is left
        have hleft : (rest.drop c.pageSize).length / c.pageSize < rounds := by
          rw [Nat.div_eq_sub_div hpage hfull] at hrounds
          rw [List.length_drop]
          omega
        rw [hsplit] at hasc hcall ⊢
        exact ih { c with cursor := some cursor, records := (done ++ rest.take c.pageSize).map Prod.snd }
          hpage hcall hasc hafter.symm rfl hleft

end Collect

namespace Walk

variable {done rest : List (Nat × Record)}

/-- **A page ends the walk, or brings it on.** -/
theorem receive_turned (moment : Moment) (w : Walk) (done rest : List (Nat × Record))
    (hpage : 0 < w.limit) :
    w.receive moment (.ok (Page.ofSequenced (rest.take w.limit) w.limit)) =
      .finished (.ok (w.pages ++ [rest.map Prod.snd])) ∨
    ∃ cursor, Page.after (done ++ rest.take w.limit) = some cursor ∧
      (rest.drop w.limit).length < rest.length ∧
      w.receive moment (.ok (Page.ofSequenced (rest.take w.limit) w.limit)) =
        .running { w with cursor := some cursor,
                          pages := w.pages ++ [(rest.take w.limit).map Prod.snd] } := by
  simp only [receive, Page.items_ofSequenced]
  rcases Page.turned done hpage with ⟨cursor, hafter, hnext, hless⟩ | ⟨hnext, hnil⟩
  · exact .inr ⟨cursor, hafter, hless, by rw [hnext]⟩
  · have hlast : rest.take w.limit = rest := List.take_of_length_le (List.drop_eq_nil_iff.1 hnil)
    exact .inl (by rw [hnext, hlast])

/-- **A walk through a store shows the entries that it lists**, page by page, if each of them can be read
and cursors can count them. -/
theorem runAt_listing {σ : Type} {s : σ} {call : Instant → (c : Call) → σ → Reply c.Answer × σ}
    {clock : Nat → Moment} (w : Walk) (hpage : 0 < w.limit)
    (hcall : ∀ now cursor, call now (.list w.filter cursor w.limit) s =
      (listing ((done ++ rest).map Entry.shown) cursor w.limit, s))
    (hasc : Page.Ascending (done ++ rest)) (hcursor : w.cursor = Page.after done) {rounds made : Nat}
    (hrounds : rest.length < rounds) :
    ∃ pages, machine.runAt call clock rounds made (.running w) s = (some (.ok (w.pages ++ pages)), s) ∧
      pages.flatten = rest.map Prod.snd := by
  -- each page that is not the last one makes the rest shorter
  induction hlen : rest.length using Nat.strongRecOn generalizing w done rest made rounds with
  | _ k ih =>
      obtain ⟨rounds, rfl⟩ : ∃ n, rounds = n + 1 := ⟨rounds - 1, by omega⟩
      have hpaged : listing ((done ++ rest).map Entry.shown) w.cursor w.limit =
          .ok (Page.ofSequenced (rest.take w.limit) w.limit) := by
        rw [hcursor, listing_shown_after hasc]
      have hstep : machine.step (call (clock made).now) (clock made) w s =
          (w.receive (clock made) (.ok (Page.ofSequenced (rest.take w.limit) w.limit)), s) := by
        simp only [Machine.step, machine, ask, hcall, hpaged]
      rw [Machine.runAt, hstep]
      rcases receive_turned (clock made) w done rest hpage with
        hend | ⟨cursor, hafter, hless, hmore⟩
      · rw [hend]
        refine ⟨[rest.map Prod.snd], ?_, List.flatten_singleton⟩
        cases rounds <;> rfl
      · rw [hmore]
        have hsplit : done ++ rest = (done ++ rest.take w.limit) ++ rest.drop w.limit := by
          rw [List.append_assoc, List.take_append_drop]
        rw [hsplit] at hasc hcall
        have hleft : (rest.drop w.limit).length < rounds := by omega
        obtain ⟨pages, hrun, hshown⟩ := ih (rest.drop w.limit).length (by omega)
          { w with cursor := some cursor, pages := w.pages ++ [(rest.take w.limit).map Prod.snd] }
          hpage hcall hasc hafter.symm hleft rfl
        refine ⟨(rest.take w.limit).map Prod.snd :: pages, ?_, ?_⟩
        · refine hrun.trans ?_
          rw [List.append_assoc, List.singleton_append]
        · rw [List.flatten_cons, hshown, ← List.map_append, List.take_append_drop]

end Walk

/-! ### Checking URLs -/

namespace Ownership

variable {legible : Bag → Prop} {clock : Nat → Moment} {rs : List Record}
  {done rest : List (Nat × Record)}

/-- The first record that has a URL under another name. -/
def conflict? (name : String) (rs : List Record) (url : String) : Option Record :=
  rs.find? fun r => r.manifest.remoteUrls.contains url && r.name ≠ name

/-- Why URLs are refused to a name, if they are: the first one that another name has. -/
def flaw? (name : String) (rs : List Record) (urls : List String) : Option Failure :=
  urls.findSome? fun url =>
    (conflict? name rs url).map fun other => .duplicateRemoteUrl url other.name

theorem flaw?_cons (name : String) (rs : List Record) (url : String) (urls : List String) :
    flaw? name rs (url :: urls) = ((conflict? name rs url).map fun other =>
      Failure.duplicateRemoteUrl url other.name).or (flaw? name rs urls) := by
  rw [flaw?, List.findSome?_cons]
  cases conflict? name rs url <;> rfl

/-- What comes of a check with a flaw or without. -/
def outcome : Option Failure → Outcome Unit
  | some f => failed f
  | none => .ok ()

/-- The first record that has a URL under another name is the first of another name among those that have
it. -/
theorem conflict?_eq_find?_filter (name : String) (rs : List Record) (url : String) :
    conflict? name rs url =
      (rs.filter fun r => r.manifest.remoteUrls.contains url).find? fun r => r.name ≠ name := by
  rw [conflict?, List.find?_filter]
  congr 1
  funext r
  simp

/-- The first record of another name among those that have the URL. -/
theorem conflict?_eq (o : Ownership) (h : Listed rs { remoteUrl := some o.url } done rest)
    (hdone : ∀ a ∈ done, a.2.name = o.name) :
    conflict? o.name rs o.url = (rest.map Prod.snd).find? fun r => r.name ≠ o.name := by
  have hselects : ∀ r : Record, ({ remoteUrl := some o.url } : Filter).selects r =
      r.manifest.remoteUrls.contains o.url := by
    intro r
    simp [Filter.selects, Filter.holds]
  have hrecords := h.records
  simp only [hselects] at hrecords
  have hnone : (done.map Prod.snd).find? (fun r => r.name ≠ o.name) = none := by
    rw [List.find?_eq_none, List.forall_mem_map]
    intro a ha
    simp [hdone a ha]
  rw [conflict?_eq_find?_filter, hrecords, List.map_append, List.find?_append, hnone, Option.none_or]

/-- The check of one URL goes on page by page, and then with the URLs after it. -/
theorem ends_url (hs : Settled legible rs) (o : Ownership)
    (h : Listed rs { remoteUrl := some o.url } done rest) (hcursor : o.cursor = Page.after done)
    (hdone : ∀ a ∈ done, a.2.name = o.name) (made : Nat) {k : Nat}
    (hlater : ∀ made, ∃ n, n ≤ k ∧ machine.Ends legible clock made (checkAll o.name o.later) rs n
      (outcome (flaw? o.name rs o.later)) rs) :
    ∃ n, n ≤ rest.length + 1 + k ∧ machine.Ends legible clock made (.running o) rs n
      (outcome (flaw? o.name rs (o.url :: o.later))) rs := by
  induction hlen : rest.length using Nat.strongRecOn generalizing o done rest made with
  | _ len ih =>
      have hans := h.answers hs (clock made).now pageSize
      rw [← hcursor] at hans
      have hreceive : machine.receive o (clock made)
          (.ok (Page.ofSequenced (rest.take pageSize) pageSize)) =
            o.receive (clock made) (.ok (Page.ofSequenced (rest.take pageSize) pageSize)) := rfl
      have hflaw := flaw?_cons o.name rs o.url o.later
      have hsplit : rest.map Prod.snd =
          (rest.take pageSize).map Prod.snd ++ (rest.drop pageSize).map Prod.snd := by
        rw [← List.map_append, List.take_append_drop]
      rw [conflict?_eq o h hdone, hsplit, List.find?_append] at hflaw
      cases hfound : ((rest.take pageSize).map Prod.snd).find? fun r => r.name ≠ o.name with
      | some other =>
          refine ⟨1, by omega, .call hans ?_⟩
          rw [hreceive, Ownership.receive, hflaw, hfound]
          simp only [ofReply, Page.items_ofSequenced, hfound, Option.some_or, Option.map_some]
          exact .finished _ _ _
      | none =>
          rw [hfound, Option.none_or] at hflaw
          have hsize : 0 < pageSize := by decide
          rcases Page.turned done hsize with ⟨cursor, hafter, hnext, hless⟩ | ⟨hnext, hnil⟩
          · -- a full page without another name, and the check goes on behind it
            have hdone' : ∀ a ∈ done ++ rest.take pageSize, a.2.name = o.name := by
              intro a ha
              rcases List.mem_append.1 ha with ha | ha
              · exact hdone a ha
              · have hname := List.find?_eq_none.1 hfound a.2 (List.mem_map_of_mem ha)
                simpa using hname
            obtain ⟨n, hn, hends⟩ := ih (rest.drop pageSize).length (by omega)
              { o with cursor := some cursor } (h.next pageSize) hafter.symm hdone' (made + 1) hlater rfl
            refine ⟨n + 1, by omega, .call hans ?_⟩
            rw [hreceive, Ownership.receive]
            simp only [ofReply, Page.items_ofSequenced, hfound, hnext]
            exact hends
          · -- the last page without another name
            rw [hnil, List.map_nil, List.find?_nil, Option.map_none, Option.none_or] at hflaw
            obtain ⟨n, hn, hends⟩ := hlater (made + 1)
            refine ⟨n + 1, by omega, .call hans ?_⟩
            rw [hreceive, Ownership.receive, hflaw]
            simp only [ofReply, Page.items_ofSequenced, hfound, hnext]
            exact hends

/-- **Checking URLs ends with the first one that another name has**, if there is one. -/
theorem ends (clock : Nat → Moment) (made : Nat) (hs : Settled legible rs)
    (hfits : rs.length ≤ Cursor.limit) (name : String) (urls : List String) :
    ∃ n, n ≤ urls.length * (rs.length + 1) ∧ machine.Ends legible clock made (checkAll name urls) rs
      n (outcome (flaw? name rs urls)) rs := by
  induction urls generalizing made with
  | nil => exact ⟨0, Nat.zero_le _, .finished _ _ _⟩
  | cons url later ih =>
      have hlisted := Listed.start { remoteUrl := some url } hfits rfl
      obtain ⟨n, hn, hends⟩ := ends_url hs { name, url, later } hlisted rfl
        (fun a ha => by cases ha) made ih
      have hlen := hlisted.length_le
      refine ⟨n, ?_, hends⟩
      rw [List.length_cons, Nat.succ_mul]
      omega

end Ownership

end Service

end ManifestRegistry
