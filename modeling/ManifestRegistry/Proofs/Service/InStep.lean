/-
**Tasks that go on in step.**

The same task may be run at two stores that hold different things.  As long as what it asks is answered
alike, it makes as many calls at both and comes to the same, and so the moments of its calls are the same,
too.  This need not mean that it is in the same state all the time: the cursors of two listings may differ.
A task made of parts is in step if its parts are.

Main definitions:

* `Service.Machine.Lasts` — a task makes so many calls to a store until it ends;
* `Service.Machine.InStep` — **a task that comes to the same at two stores**, after as many calls.

Main results:

* `Service.Machine.Lasts.runAt` — a task ends if it may make as many calls;
* `Service.Machine.InStep.andThen` — parts in step make up a task in step;
* `Service.Ownership.inStep`, `Service.Collect.inStep` — **readings of listings that differ in numbers only**.
-/

import ManifestRegistry.Proofs.Storage.Level

set_option relaxedAutoImplicit false
set_option autoImplicit false

namespace ManifestRegistry

namespace Service

open Storage

namespace Machine

variable {τ τ' ρ ρ' σ : Type} [Store σ] {clock : Nat → Moment}

/-- A task makes so many calls to a store until it ends, if so many were made before; the clock tells the
moment of each. -/
inductive Lasts (clock : Nat → Moment) (m : Machine τ ρ) :
    (made : Nat) → Progress τ ρ → σ → Nat → ρ → σ → Prop
  | finished (made : Nat) (r : ρ) (s : σ) : Lasts clock m made (.finished r) s 0 r s
  | call {made : Nat} {state : τ} {s s' : σ} {n : Nat} {r : ρ}
      (rest : Lasts clock m (made + 1)
        (m.step (fun c s => Store.call c (clock made).now s) (clock made) state s).1
        (m.step (fun c s => Store.call c (clock made).now s) (clock made) state s).2 n r s') :
      Lasts clock m made (.running state) s (n + 1) r s'

variable {m : Machine τ ρ} {progress progress' : Progress τ ρ} {s s' t t' : σ} {made n : Nat} {r : ρ}

/-- **A task ends if it may make as many calls.** -/
theorem Lasts.runAt (h : m.Lasts clock made progress s n r t) {rounds : Nat} (hn : n ≤ rounds) :
    m.runAt (fun now c s => Store.call c now s) clock rounds made progress s = (some r, t) := by
  induction h generalizing rounds with
  | finished made r s => exact runAt_finished m rounds made r s
  | call rest ih =>
      obtain ⟨rounds, rfl⟩ : ∃ k, rounds = k + 1 := ⟨rounds - 1, by omega⟩
      exact ih (Nat.le_of_succ_le_succ hn)

/-- A part goes on with what comes next, which may depend on the moment of its last call. -/
theorem Lasts.andThen {M : Machine τ' ρ'} {f : τ → τ'} {next : Moment → ρ → Progress τ' ρ'}
    (hstep : ∀ now moment state (s : σ), M.step (fun c s => Store.call c now s) moment (f state) s =
      ((m.step (fun c s => Store.call c now s) moment state s).1.andThen f (next moment),
        (m.step (fun c s => Store.call c now s) moment state s).2))
    (h : m.Lasts clock made progress s n r t) (before : Moment) {k : Nat} {r' : ρ'} {u : σ}
    (hnext : M.Lasts clock (made + n)
      (next (if n = 0 then before else clock (made + n - 1)) r) t k r' u) :
    M.Lasts clock made (progress.andThen f (next before)) s (n + k) r' u := by
  -- each call of the part is one of the whole
  induction h generalizing before with
  | finished made r s =>
      rw [Nat.zero_add]
      exact hnext
  | @call made state s s' n r rest ih =>
      have hlast : (if n = 0 then clock made else clock (made + 1 + n - 1)) =
          clock (made + (n + 1) - 1) := by
        split
        · rename_i hzero
          rw [hzero]
          rfl
        · congr 1
          omega
      rw [Nat.add_right_comm]
      refine .call ?_
      rw [hstep]
      refine ih (clock made) ?_
      rw [hlast, Nat.add_right_comm made 1 n]
      exact hnext

/-- **A task comes to the same at two stores**, where it makes as many calls, and no more than `bound`; what it
leaves is related to what it has come to. -/
def InStep (m : Machine τ ρ) (clock : Nat → Moment) (made bound : Nat) (Left : ρ → σ → σ → Prop)
    (progress progress' : Progress τ ρ) (s s' : σ) : Prop :=
  ∃ n r t t', n ≤ bound ∧ m.Lasts clock made progress s n r t ∧
    m.Lasts clock made progress' s' n r t' ∧ Left r t t'

variable {bound bound' : Nat} {Left : ρ → σ → σ → Prop}

theorem inStep_finished (m : Machine τ ρ) (clock : Nat → Moment) (made bound : Nat) (h : Left r s s') :
    m.InStep clock made bound Left (.finished r) (.finished r) s s' :=
  ⟨0, r, s, s', Nat.zero_le _, .finished _ _ _, .finished _ _ _, h⟩

/-- A task is in step if it goes on in step after a call. -/
theorem inStep_call {state state' : τ}
    (h : m.InStep clock (made + 1) bound Left
      (m.step (fun c s => Store.call c (clock made).now s) (clock made) state s).1
      (m.step (fun c s => Store.call c (clock made).now s) (clock made) state' s').1
      (m.step (fun c s => Store.call c (clock made).now s) (clock made) state s).2
      (m.step (fun c s => Store.call c (clock made).now s) (clock made) state' s').2) :
    m.InStep clock made (bound + 1) Left (.running state) (.running state') s s' := by
  obtain ⟨n, r, t, t', hn, hlasts, hlasts', hleft⟩ := h
  exact ⟨n + 1, r, t, t', Nat.succ_le_succ hn, .call hlasts, .call hlasts', hleft⟩

/-- A task that is in step may make more calls than it needs, and more may be known of what it leaves. -/
theorem InStep.mono (h : m.InStep clock made bound Left progress progress' s s') (hle : bound ≤ bound')
    {Left' : ρ → σ → σ → Prop} (himp : ∀ r t t', Left r t t' → Left' r t t') :
    m.InStep clock made bound' Left' progress progress' s s' := by
  obtain ⟨n, r, t, t', hn, hlasts, hlasts', hleft⟩ := h
  exact ⟨n, r, t, t', Nat.le_trans hn hle, hlasts, hlasts', himp r t t' hleft⟩

/-- **Parts in step make up a task in step.**  What comes next may depend on the moment of the last call, or
on some moment before it if the part makes no call. -/
theorem InStep.andThen {M : Machine τ' ρ'} (f : τ → τ') (next : Moment → ρ → Progress τ' ρ')
    (hstep : ∀ now moment state (s : σ), M.step (fun c s => Store.call c now s) moment (f state) s =
      ((m.step (fun c s => Store.call c now s) moment state s).1.andThen f (next moment),
        (m.step (fun c s => Store.call c now s) moment state s).2))
    (h : m.InStep clock made bound Left progress progress' s s') (before : Nat)
    {Left' : ρ' → σ → σ → Prop}
    (hnext : ∀ made i r t t', Left r t t' →
      M.InStep clock made bound' Left' (next (clock i) r) (next (clock i) r) t t') :
    M.InStep clock made (bound + bound') Left' (progress.andThen f (next (clock before)))
      (progress'.andThen f (next (clock before))) s s' := by
  obtain ⟨n, r, t, t', hn, hlasts, hlasts', hleft⟩ := h
  obtain ⟨i, hi⟩ : ∃ i, (if n = 0 then clock before else clock (made + n - 1)) = clock i := by
    split <;> exact ⟨_, rfl⟩
  obtain ⟨k, r', u, u', hk, hrest, hrest', hleft'⟩ := hnext (made + n) i r t t' hleft
  rw [← hi] at hrest hrest'
  exact ⟨n + k, r', u, u', Nat.add_le_add hn hk, hlasts.andThen hstep (clock before) hrest,
    hlasts'.andThen hstep (clock before) hrest', hleft'⟩

/-- A task in step comes to the same at both stores, if it may make as many calls at each. -/
theorem InStep.runAt (h : m.InStep clock made bound Left progress progress' s s') {rounds rounds' : Nat}
    (hrounds : bound ≤ rounds) (hrounds' : bound ≤ rounds') :
    ∃ r t t', m.runAt (fun now c s => Store.call c now s) clock rounds made progress s = (some r, t) ∧
      m.runAt (fun now c s => Store.call c now s) clock rounds' made progress' s' = (some r, t') ∧
      Left r t t' := by
  obtain ⟨n, r, t, t', hn, hlasts, hlasts', hleft⟩ := h
  exact ⟨r, t, t', hlasts.runAt (Nat.le_trans hn hrounds), hlasts'.runAt (Nat.le_trans hn hrounds'), hleft⟩

end Machine

/-! ### Reading listings -/

section

variable {σ : Type} [Store σ] [Catalog σ] {s s' : σ} {clock : Nat → Moment} {made left : Nat}
  {cursor cursor' : Option String}

/-- **All pages of listings that differ in numbers only are read in step**, and whatever is true of the records
that one of them shows is true of those that are read. -/
theorem Collect.inStep (hs : Catalog.Calm s) (hs' : Catalog.Calm s') {P : Record → Prop} (c : Collect)
    (hP : ∀ n x, (n, .ok x) ∈ Catalog.selected s c.filter → P x) (hpage : 0 < c.pageSize)
    (hlevel : Level s s' c.filter left cursor cursor') (hrecords : ∀ x ∈ c.records, P x) :
    machine.InStep clock made (left + 1)
      (fun r t t' => t = s ∧ t' = s' ∧ ∀ xs, r = .ok xs → ∀ x ∈ xs, P x)
      (.running { c with cursor := cursor }) (.running { c with cursor := cursor' }) s s' := by
  -- each page that is not the last one leaves less behind
  induction left using Nat.strongRecOn generalizing c cursor cursor' made with
  | _ left ih =>
      let now := (clock made).now
      have hleft : (Store.call (.list c.filter cursor c.pageSize) now s).2 = s := by
        rw [Catalog.call_list hs.isOpen]
      have hleft' : (Store.call (.list c.filter cursor' c.pageSize) now s').2 = s' := by
        rw [Catalog.call_list hs'.isOpen]
      have hitems : ∀ page : Page Record,
          (Store.call (.list c.filter cursor c.pageSize) now s).1 = .ok page →
          ∀ x ∈ c.records ++ page.items, P x := by
        intro page hok x hx
        rcases List.mem_append.1 hx with hx | hx
        · exact hrecords x hx
        · rw [Catalog.call_list hs.isOpen] at hok
          obtain ⟨n, hn⟩ := mem_of_mem_listing hok hx
          exact hP n x hn
      refine Machine.inStep_call ?_
      show machine.InStep clock (made + 1) left _
        (c.receive (clock made) (Store.call (.list c.filter cursor c.pageSize) now s).1)
        (c.receive (clock made) (Store.call (.list c.filter cursor' c.pageSize) now s').1)
        (Store.call (.list c.filter cursor c.pageSize) now s).2
        (Store.call (.list c.filter cursor' c.pageSize) now s').2
      rw [hleft, hleft']
      rcases hlevel.page hs hs' hpage now with
        ⟨stop, hstop, hstop'⟩ | ⟨page, page', hok, hok', hsame, hmore⟩
      · rw [hstop, hstop']
        exact Machine.inStep_finished _ _ _ _ ⟨rfl, rfl, fun _ h => nomatch h⟩
      · have hread := hitems page hok
        rw [hok, hok']
        simp only [receive, ← hsame]
        by_cases hceil : c.ceiling ≤ (c.records ++ page.items).length
        · rw [if_pos hceil, if_pos hceil]
          refine Machine.inStep_finished _ _ _ _ ⟨rfl, rfl, ?_⟩
          rintro xs ⟨⟩ x hx
          exact hread x (List.mem_of_mem_take hx)
        · rw [if_neg hceil, if_neg hceil]
          rcases hmore with ⟨hnone, hnone'⟩ | ⟨after, after', left', hsome, hsome', hless, hlevel'⟩
          · rw [hnone, hnone']
            refine Machine.inStep_finished _ _ _ _ ⟨rfl, rfl, ?_⟩
            rintro xs ⟨⟩ x hx
            exact hread x hx
          · rw [hsome, hsome']
            exact (ih left' hless { c with records := c.records ++ page.items } hP hpage hlevel'
              hread).mono hless fun _ _ _ h => h

namespace Ownership

/-- The check of one URL is in step, if the check of those after it is. -/
theorem inStep_url (hs : Catalog.Calm s) (hs' : Catalog.Calm s') (o : Ownership)
    (hlevel : Level s s' { remoteUrl := some o.url } left cursor cursor') {k : Nat}
    (hlater : ∀ made, machine.InStep clock made k (fun _ t t' => t = s ∧ t' = s')
      (checkAll o.name o.later) (checkAll o.name o.later) s s') :
    machine.InStep clock made (left + 1 + k) (fun _ t t' => t = s ∧ t' = s')
      (.running { o with cursor := cursor }) (.running { o with cursor := cursor' }) s s' := by
  -- each page that is not the last one leaves less behind
  induction left using Nat.strongRecOn generalizing o cursor cursor' made with
  | _ left ih =>
      let now := (clock made).now
      have hleft : (Store.call (.list { remoteUrl := some o.url } cursor pageSize) now s).2 = s := by
        rw [Catalog.call_list hs.isOpen]
      have hleft' : (Store.call (.list { remoteUrl := some o.url } cursor' pageSize) now s').2 = s' := by
        rw [Catalog.call_list hs'.isOpen]
      rw [Nat.add_right_comm]
      refine Machine.inStep_call ?_
      show machine.InStep clock (made + 1) (left + k) _
        (o.receive (clock made) (Store.call (.list { remoteUrl := some o.url } cursor pageSize) now s).1)
        (o.receive (clock made) (Store.call (.list { remoteUrl := some o.url } cursor' pageSize) now s').1)
        (Store.call (.list { remoteUrl := some o.url } cursor pageSize) now s).2
        (Store.call (.list { remoteUrl := some o.url } cursor' pageSize) now s').2
      rw [hleft, hleft']
      rcases hlevel.page hs hs' (show 0 < pageSize by decide) now with
        ⟨stop, hstop, hstop'⟩ | ⟨page, page', hok, hok', hsame, hmore⟩
      · rw [hstop, hstop']
        exact Machine.inStep_finished _ _ _ _ ⟨rfl, rfl⟩
      · rw [hok, hok']
        simp only [receive, ofReply, ← hsame]
        cases page.items.find? fun r => r.name ≠ o.name with
        | some other => exact Machine.inStep_finished _ _ _ _ ⟨rfl, rfl⟩
        | none =>
            simp only
            rcases hmore with ⟨hnone, hnone'⟩ | ⟨after, after', left', hsome, hsome', hless, hlevel'⟩
            · rw [hnone, hnone']
              exact (hlater (made + 1)).mono (Nat.le_add_left _ _) fun _ _ _ h => h
            · rw [hsome, hsome']
              exact (ih left' hless o hlevel' hlater).mono (by omega) fun _ _ _ h => h

/-- **URLs are checked in step**, if each of them has listings that differ in numbers only. -/
theorem inStep (hs : Catalog.Calm s) (hs' : Catalog.Calm s') (name : String) (urls : List String)
    (hsame : ∀ url ∈ urls, (Catalog.selected s { remoteUrl := some url }).map Prod.snd =
      (Catalog.selected s' { remoteUrl := some url }).map Prod.snd) (made : Nat) :
    machine.InStep clock made (urls.length * (Store.size s + 1)) (fun _ t t' => t = s ∧ t' = s')
      (checkAll name urls) (checkAll name urls) s s' := by
  induction urls generalizing made with
  | nil => exact Machine.inStep_finished _ _ _ _ ⟨rfl, rfl⟩
  | cons url later ih =>
      have hlater := ih fun url' h => hsame url' (List.mem_cons_of_mem _ h)
      have hfew := hs.few { remoteUrl := some url }
      have hlevel : Level s s' { remoteUrl := some url }
          (Catalog.selected s { remoteUrl := some url }).length none none :=
        Level.start (hsame url List.mem_cons_self)
      refine (inStep_url hs hs' { name, url, later } hlevel hlater).mono ?_ fun _ _ _ h => h
      rw [List.length_cons, Nat.succ_mul]
      omega

end Ownership

end

end Service

end ManifestRegistry
