/-
**What a commit made of two writes leaves behind.**

A commit that is not atomic adds the new version first and demotes the previous latest one afterwards.
It may fail at either write.  If the first one fails, nothing has been written.  If the second one fails,
the new version stays and the error tells that the commit is half done.  But a deadline that expires
between the two writes tells nothing of the first: the new version stays, and all that is told is that
time was up.

Main definitions:

* `Storage.Loss` — nothing is written, or the error tells of the first write, or a deadline has severed
  the two;
* `Storage.Halfway` — a store of records whose failed commits come to one of the three;
* `Storage.Slow.Severs` — a commit whose first write is made in time and whose second is not;
* `Storage.Switching` — a two-write store whose demotions may be made to fail within a commit.

Main results:

* `Storage.Slow.run_later` — a slow call is made if it may wait as long as it has to;
* `Storage.Switching.call_eq` — a two-write store is one whose switch is not moved;
* `Storage.Slow.within_commit`, `Storage.Switching.call_commit` — **what comes of a commit that is
  answered with an error**.
-/

import ManifestRegistry.Proofs.Paging.Cursors
import ManifestRegistry.Storage.Slow
import ManifestRegistry.Storage.TwoWrite

set_option relaxedAutoImplicit false
set_option autoImplicit false

namespace ManifestRegistry

namespace Storage

/-! ### Stores with commits made of two writes -/

/-- A call that only reads. -/
def Call.Reads : Call → Prop
  | .list .. | .getById _ | .getVersion .. | .countRecent .. => True
  | .create _ | .update .. | .commit .. | .close => False

/-- What comes of a commit to a store `s` that is answered with an error and leaves a store `s'`: nothing
is written, or the error tells of the first write, or a deadline has severed the two writes. -/
inductive Loss {σ : Type} (records : σ → List Record) (severed : Prop) (s s' : σ) :
    Stop StorageError → Prop
  | nothing (stop : Stop StorageError) (h : records s' = records s) (hwhole : ¬severed)
      (hstop : ∀ reason, stop ≠ .failed (.partialCommit reason)) : Loss records severed s s' stop
  | reported (reason : String) (h : (records s).length < (records s').length) (hwhole : ¬severed) :
      Loss records severed s s' (.failed (.partialCommit reason))
  | severed (ms : Nat) (h : (records s).length < (records s').length) (hcut : severed) :
      Loss records severed s s' (.failed (.timeout ms))

/-- A store that keeps a list of records and makes two writes of a commit. -/
class Halfway (σ : Type) extends PacedStore σ where
  records : σ → List Record
  /-- A commit is severed by a deadline. -/
  Severs : (ms : Nat) → (record : Record) → (previous : Option Record) → σ → Prop
  /-- What only reads writes nothing, and tells of no commit. -/
  within_reads {c : Call} (hc : c.Reads) (ms : Nat) (now : Instant) (s : σ) :
    records (within ms c now s).2 = records s ∧
      ∀ reason, (within ms c now s).1 ≠ refuse (.partialCommit reason)
  /-- What comes of a commit that is answered with an error. -/
  within_commit {ms : Nat} {record : Record} {previous : Option Record} {now : Instant} {s s' : σ}
    {stop : Stop StorageError} (h : within ms (.commit record previous) now s = (.error stop, s')) :
    Loss records (Severs ms record previous s) s s' stop

/-! ### Reading a list -/

namespace Memory

theorem call_reads {c : Call} (hc : c.Reads) (now : Instant) (m : Memory) :
    (Store.call c now m).2 = m ∧ ∀ reason, (Store.call c now m).1 ≠ refuse (.partialCommit reason) := by
  cases c with
  | list filter cursor limit =>
      refine ⟨rfl, fun reason h => ?_⟩
      have hlist : m.list filter cursor limit = refuse (.partialCommit reason) := h
      unfold list Page.paginate at hlist
      split at hlist
      · cases hlist
      · cases hstart : Page.start? cursor with
        | ok start =>
            simp only [hstart] at hlist
            cases hlist
        | error e =>
            obtain ⟨raw, rfl⟩ := Page.start?_eq_error hstart
            simp only [hstart] at hlist
            cases hlist
  | getById id =>
      refine ⟨rfl, fun reason h => ?_⟩
      have hget : m.getById id = refuse (.partialCommit reason) := h
      unfold getById at hget
      split at hget <;> cases hget
  | getVersion id version =>
      refine ⟨rfl, fun reason h => ?_⟩
      have hget : m.getVersion id version = refuse (.partialCommit reason) := h
      unfold getVersion at hget
      split at hget <;> cases hget
  | countRecent subject hours =>
      refine ⟨rfl, fun reason h => ?_⟩
      have hcount : m.countRecent now subject hours = refuse (.partialCommit reason) := h
      unfold countRecent at hcount
      split at hcount
      · cases hcount
      · split at hcount <;> cases hcount
  | create _ | update _ _ | commit _ _ | close => exact hc.elim

/-- An insertion adds one record, or it is refused and tells of no commit. -/
theorem create_cases (m : Memory) (record : Record) :
    (∃ m', m.create record = (.ok record, m') ∧ m'.records = m.records ++ [record]) ∨
    ∃ stop, m.create record = (.error stop, m) ∧ ∀ reason, stop ≠ .failed (.partialCommit reason) := by
  unfold create
  split
  · exact .inr ⟨_, rfl, nofun⟩
  · cases hins : insert m.records record with
    | ok rs =>
        refine .inl ⟨_, rfl, ?_⟩
        unfold insert at hins
        split at hins
        · cases hins
        · split at hins
          · cases hins
          · exact (Except.ok.inj hins).symm
    | error e =>
        refine .inr ⟨_, rfl, ?_⟩
        rintro reason h
        obtain rfl := Stop.failed.inj h
        unfold insert at hins
        split at hins
        · cases hins
        · split at hins <;> cases hins

theorem update_cases (m : Memory) (id : Uuid) (record : Record) :
    (m.update id record).2.records.length = m.records.length ∧
      ((m.update id record).1 = .ok record ∨ ∃ e, (m.update id record).1 = refuse e) := by
  unfold update
  split
  · exact ⟨rfl, .inr ⟨_, rfl⟩⟩
  · split
    · exact ⟨List.length_set, .inl rfl⟩
    · exact ⟨rfl, .inr ⟨_, rfl⟩⟩

end Memory

/-! ### A store that waits before every call -/

theorem Paced.run_bind {σ α β : Type} (p : Paced σ α) (f : α → Paced σ β) (left : Allowance) (s : σ) :
    (p >>= f).run left s = match p.run left s with
      | (some (a, left'), s') => (f a).run left' s'
      | (none, s') => (none, s') := by
  show (p left >>= fun (x : α × Allowance) => f x.1 x.2 : OptionT (StateM σ) (β × Allowance)) s = _
  simp only [bind, OptionT.bind, OptionT.mk, StateT.bind, Paced.run]
  rcases p left s with ⟨_ | ⟨a, left'⟩, s'⟩ <;> rfl

namespace Slow

/-- **A slow call is made if it may wait as long as it has to.** -/
theorem run_later {α : Type} (f : Memory → α × Memory) (left : Allowance) (s : Slow) :
    (later f).run left s = match left.spend s.delay with
      | some left' => (some ((f s.inner).1, left'), { s with inner := (f s.inner).2 })
      | none => (none, s) := by
  have hwait : (Paced.wait s.delay).run left s = ((left.spend s.delay).map fun left => ((), left), s) :=
    rfl
  unfold later
  rw [Paced.run_bind]
  show Paced.run (Paced.wait s.delay >>= fun _ => lift f) left s = _
  rw [Paced.run_bind, hwait]
  cases left.spend s.delay <;> rfl

/-- A commit whose first write is made in time and whose second is not. -/
def Severs (ms : Nat) (record : Record) (previous : Option Record) (s : Slow) : Prop :=
  previous.isSome ∧ (s.inner.create record).1 = .ok record ∧ s.delay ≤ ms ∧ ms < 2 * s.delay

/-- A commit of two writes, each of them after a wait. -/
theorem run_commit (record : Record) (previous : Option Record) (now : Instant) (left : Allowance)
    (s : Slow) : (PacedStore.perform (.commit record previous) now).run left s =
      match (create record).run left s, previous with
      | (some (.ok created, left'), s'), some p =>
        match (update p.id p).run left' s' with
        | (some (.ok _, left''), s'') => (some (.ok created, left''), s'')
        | (some (.error (.failed e), left''), s'') =>
          (some (refuse (halfCommitted record p e), left''), s'')
        | (some (.error .crashed, left''), s'') => (some (.error .crashed, left''), s'')
        | (none, s'') => (none, s'')
      | result, _ => result := by
  show (twoWrites create update record previous).run left s = _
  unfold twoWrites
  rw [Paced.run_bind]
  rcases (create record).run left s with ⟨_ | ⟨reply, left'⟩, s'⟩
  · rfl
  · cases reply with
    | error stop => rfl
    | ok created =>
        cases previous with
        | none => rfl
        | some p =>
            simp only
            rw [Paced.run_bind]
            rcases (update p.id p).run left' s' with ⟨_ | ⟨reply, left''⟩, s''⟩
            · rfl
            · rcases reply with (e | _) | _ <;> rfl

/-- What comes of a commit to a slow store that is answered with an error. -/
theorem within_commit {ms : Nat} {record : Record} {previous : Option Record} {now : Instant}
    {s s' : Slow} {stop : Stop StorageError}
    (h : within ms (.commit record previous) now s = (.error stop, s')) :
    Loss (fun s : Slow => s.inner.records) (Severs ms record previous s) s s' stop := by
  unfold within at h
  rw [run_commit] at h
  have hcreate := run_later (Memory.create · record) (some ms) s
  rw [← create] at hcreate
  by_cases hfirst : s.delay ≤ ms
  · simp only [Allowance.spend, if_pos hfirst] at hcreate
    rcases s.inner.create_cases record with ⟨m, hm, hadded⟩ | ⟨stop', hm, hstop⟩
    · rw [hm] at hcreate
      rw [hcreate] at h
      cases previous with
      | none =>
          simp only at h
          cases h
      | some p =>
          have hlonger : s.inner.records.length < m.records.length := by
            rw [hadded, List.length_append]
            exact Nat.lt_succ_self _
          have hupdate := run_later (Memory.update · p.id p) (some (ms - s.delay))
            { s with inner := m }
          rw [← update] at hupdate
          simp only at h
          by_cases hsecond : s.delay ≤ ms - s.delay
          · simp only [Allowance.spend, if_pos hsecond] at hupdate
            rw [hupdate] at h
            obtain ⟨hlength, hok | ⟨e, he⟩⟩ := m.update_cases p.id p
            · simp only [hok] at h
              cases h
            · simp only [he] at h
              obtain ⟨hstop, rfl⟩ := Prod.mk.inj h
              obtain rfl := Except.error.inj hstop
              refine .reported _ (Nat.lt_of_lt_of_eq hlonger hlength.symm) ?_
              rintro ⟨-, -, -, hlate⟩
              omega
          · simp only [Allowance.spend, if_neg hsecond] at hupdate
            rw [hupdate] at h
            obtain ⟨hstop, rfl⟩ := Prod.mk.inj h
            obtain rfl := Except.error.inj hstop
            refine .severed ms hlonger ⟨rfl, ?_, hfirst, by omega⟩
            rw [hm]
    · rw [hm] at hcreate
      rw [hcreate] at h
      obtain ⟨hsame, rfl⟩ := Prod.mk.inj h
      obtain rfl := Except.error.inj hsame
      refine .nothing _ rfl ?_ hstop
      rintro ⟨-, hmade, -⟩
      rw [hm] at hmade
      cases hmade
  · simp only [Allowance.spend, if_neg hfirst] at hcreate
    rw [hcreate] at h
    obtain ⟨hstop, rfl⟩ := Prod.mk.inj h
    obtain rfl := Except.error.inj hstop
    exact .nothing _ rfl (fun hcut => hfirst hcut.2.2.1) (fun reason he => nomatch he)

theorem within_reads {c : Call} (hc : c.Reads) (ms : Nat) (now : Instant) (s : Slow) :
    (within ms c now s).2.inner.records = s.inner.records ∧
      ∀ reason, (within ms c now s).1 ≠ refuse (.partialCommit reason) := by
  have hperform : PacedStore.perform c now = later (Store.call c now) := by
    cases c with
    | list _ _ _ | getById _ | getVersion _ _ | countRecent _ _ => rfl
    | create _ | update _ _ | commit _ _ | close => exact hc.elim
  obtain ⟨hkept, htold⟩ := Memory.call_reads hc now s.inner
  unfold within
  rw [hperform, run_later]
  cases Allowance.spend s.delay (some ms) with
  | none => exact ⟨rfl, fun reason he => nomatch he⟩
  | some left => exact ⟨congrArg Memory.records hkept, htold⟩

instance : Halfway Slow where
  records s := s.inner.records
  Severs := Severs
  within_reads := within_reads
  within_commit := within_commit

end Slow

/-! ### A store whose demotions may be made to fail -/

namespace TwoWrite

/-- The record without its flag. -/
def plain (record : Record) : Record :=
  { record with registration := { record.registration with isLatest := false } }

/-- An insertion step by step: the record without its flag is added, and then the flag is put back. -/
theorem create_steps (t : TwoWrite) (record : Record) :
    create record t = match t.inner.create (plain record) with
      | (.ok _, inner) => if record.isLatest then
          lift (Memory.update · record.id record) { t with inner, creates := t.creates + 1 }
        else (.ok record, { t with inner, creates := t.creates + 1 })
      | (.error stop, inner) => (.error stop, { t with inner, creates := t.creates + 1 }) := by
  have hmodify : ∀ f : TwoWrite → TwoWrite, (modify f : StateM TwoWrite PUnit) t = (⟨⟩, f t) :=
    fun _ => rfl
  unfold create
  simp only [bind, StateT.bind, hmodify, lift, pure]
  rw [← plain]
  rcases t.inner.create (plain record) with ⟨reply, m⟩
  cases reply with
  | error stop => rfl
  | ok _ => cases record.isLatest <;> rfl

theorem failDemotions_create (t : TwoWrite) (record : Record) :
    (create record t).2.failDemotions = t.failDemotions := by
  rw [create_steps]
  rcases t.inner.create (plain record) with ⟨reply, m⟩
  cases reply with
  | error stop => rfl
  | ok _ => cases record.isLatest <;> rfl

/-- An insertion adds one record in all, or it is refused and tells of no commit. -/
theorem create_cases (t : TwoWrite) (record : Record) :
    (∃ t', create record t = (.ok record, t') ∧
      t'.inner.records.length = t.inner.records.length + 1) ∨
    ∃ stop t', create record t = (.error stop, t') ∧ t'.inner.records = t.inner.records ∧
      ∀ reason, stop ≠ .failed (.partialCommit reason) := by
  rw [create_steps]
  rcases t.inner.create_cases (plain record) with ⟨m, hm, hadded⟩ | ⟨stop, hm, hstop⟩
  · have hlength : m.records.length = t.inner.records.length + 1 := by
      rw [hadded, List.length_append]
      rfl
    rw [hm]
    cases hflag : record.isLatest with
    | false => exact .inl ⟨_, rfl, hlength⟩
    | true =>
        -- the record without its flag is there, so there is one to put the flag back on
        have hopen : m.closed = false := by
          unfold Memory.create at hm
          split at hm
          · cases hm
          · rename_i hclosed
            split at hm
            · obtain rfl := (Prod.mk.inj hm).2
              exact Bool.eq_false_iff.2 hclosed
            · cases hm
        obtain ⟨i, hi⟩ : ∃ i, Memory.place? m.records record.id record.version = some i := by
          refine Option.isSome_iff_exists.1 ?_
          rw [Memory.place?, List.findIdx?_isSome, hadded, List.any_append]
          simp [Record.isVersion, plain, Record.id, Record.version]
        have hset : (m.records.set i record).length = t.inner.records.length + 1 := by
          rw [List.length_set, hlength]
        refine .inl ⟨{ t with
          inner := { m with records := m.records.set i record }, creates := t.creates + 1 }, ?_, hset⟩
        simp only [if_true, lift, Memory.update, hopen, Bool.false_eq_true, if_false, hi]
  · rw [hm]
    exact .inr ⟨stop, _, rfl, rfl, hstop⟩

/-- A replacement keeps the number of records and never crashes; one that is made to fail changes
nothing. -/
theorem update_cases (t : TwoWrite) (id : Uuid) (record : Record) :
    (update id record t).2.inner.records.length = t.inner.records.length ∧
      ((update id record t).1 = .ok record ∨ ∃ e, (update id record t).1 = refuse e) := by
  have hupdate : update id record t = if (!record.isLatest && t.failDemotions) = true then
      (refuse (.backend "injected demotion failure"), t) else lift (Memory.update · id record) t := by
    unfold update
    simp only [bind, StateT.bind, getThe, MonadStateOf.get, StateT.get, get, pure]
    split <;> rfl
  rw [hupdate]
  split
  · exact ⟨rfl, .inr ⟨_, rfl⟩⟩
  · exact t.inner.update_cases id record

end TwoWrite

/-- A two-write store whose switch may be moved between the two writes of its next commit. -/
structure Switching where
  inner : TwoWrite
  /-- Whether demotions are made to fail once a commit has made its first write. -/
  next : Bool

namespace Switching

/-- Something done to the two-write store. -/
def lift {α : Type} (f : StateM TwoWrite α) : StateM Switching α := fun t =>
  let (a, inner) := f t.inner
  (a, { t with inner })

/-- A record put in place of another after the switch has been moved. -/
def updateSwitched (id : Uuid) (record : Record) : StateM Switching (Reply Record) := fun t =>
  lift (TwoWrite.update id record) { t with inner := { t.inner with failDemotions := t.next } }

instance : Store Switching where
  call c now :=
    match c with
    | .commit record previous =>
      twoWrites (fun r => lift (TwoWrite.create r)) updateSwitched record previous
    | .list filter cursor limit => lift (Store.call (.list filter cursor limit) now)
    | .getById id => lift (Store.call (.getById id) now)
    | .getVersion id version => lift (Store.call (.getVersion id version) now)
    | .create record => lift (Store.call (.create record) now)
    | .update id record => lift (Store.call (.update id record) now)
    | .countRecent subject hours => lift (Store.call (.countRecent subject hours) now)
    | .close => lift (Store.call .close now)
  size t := Store.size t.inner

/-- **As long as the switch is not moved, this is the two-write store.** -/
theorem call_eq (c : Call) (now : Instant) (t : TwoWrite) :
    Store.call c now (⟨t, t.failDemotions⟩ : Switching) =
      ((Store.call c now t).1, ⟨(Store.call c now t).2, t.failDemotions⟩) := by
  cases c with
  | commit record previous =>
      show twoWrites (fun r => lift (TwoWrite.create r)) updateSwitched record previous _ =
        ((twoWrites TwoWrite.create TwoWrite.update record previous t).1,
          ⟨(twoWrites TwoWrite.create TwoWrite.update record previous t).2, t.failDemotions⟩)
      have hswitch := t.failDemotions_create record
      simp only [twoWrites, bind, StateT.bind, lift]
      rcases hu : TwoWrite.create record t with ⟨reply, u⟩
      rw [hu] at hswitch
      cases reply with
      | error stop => rfl
      | ok created =>
          cases previous with
          | none => rfl
          | some p =>
              have hsame : ({ u with failDemotions := t.failDemotions } : TwoWrite) = u := by
                rw [← hswitch]
              simp only [StateT.bind, updateSwitched, lift, hsame]
              rcases TwoWrite.update p.id p u with ⟨(e | _) | _, v⟩ <;> rfl
  | _ => rfl

theorem call_reads {c : Call} (hc : c.Reads) (now : Instant) (t : Switching) :
    (Store.call c now t).2.inner.inner.records = t.inner.inner.records ∧
      ∀ reason, (Store.call c now t).1 ≠ refuse (.partialCommit reason) := by
  obtain ⟨hkept, htold⟩ := Memory.call_reads hc now t.inner.inner
  have hrecords := congrArg Memory.records hkept
  cases c with
  | list _ _ _ | getById _ | getVersion _ _ | countRecent _ _ => exact ⟨hrecords, htold⟩
  | create _ | update _ _ | commit _ _ | close => exact hc.elim

/-- What comes of a commit that is answered with an error. -/
theorem call_commit {record : Record} {previous : Option Record} (now : Instant) {t t' : Switching}
    {stop : Stop StorageError} (h : Store.call (.commit record previous) now t = (.error stop, t')) :
    Loss (fun t : Switching => t.inner.inner.records) False t t' stop := by
  have hcommit : twoWrites (fun r => lift (TwoWrite.create r)) updateSwitched record previous t =
      (.error stop, t') := h
  simp only [twoWrites, bind, StateT.bind, lift] at hcommit
  rcases t.inner.create_cases record with ⟨u, hu, hadded⟩ | ⟨stop', u, hu, hkept, hstop⟩
  · rw [hu] at hcommit
    cases previous with
    | none => cases hcommit
    | some p =>
        obtain ⟨hlength, hreply⟩ :=
          TwoWrite.update_cases { u with failDemotions := t.next } p.id p
        rcases hv : TwoWrite.update p.id p { u with failDemotions := t.next } with ⟨reply, v⟩
        rw [hv] at hlength hreply
        have hswitched : updateSwitched p.id p ⟨u, t.next⟩ = (reply, ⟨v, t.next⟩) := by
          simp only [updateSwitched, lift, hv]
        simp only [StateT.bind, hswitched] at hcommit
        rcases hreply with hok | ⟨e, he⟩
        · simp only at hok
          rw [hok] at hcommit
          cases hcommit
        · simp only at he
          rw [he] at hcommit
          obtain ⟨hstop, rfl⟩ := Prod.mk.inj hcommit
          obtain rfl := Except.error.inj hstop
          exact .reported _ (Nat.lt_of_lt_of_eq (hadded ▸ Nat.lt_succ_self _) hlength.symm) id
  · rw [hu] at hcommit
    obtain ⟨hsame, rfl⟩ := Prod.mk.inj hcommit
    obtain rfl := Except.error.inj hsame
    exact .nothing _ hkept id hstop

/-- Deadlines do not matter to a store that never waits. -/
instance : Halfway Switching where
  records t := t.inner.inner.records
  Severs _ _ _ _ := False
  within_reads hc _ now t := call_reads hc now t
  within_commit {_ _ _ now _ _ _} h := call_commit now h

end Switching

end Storage

end ManifestRegistry
