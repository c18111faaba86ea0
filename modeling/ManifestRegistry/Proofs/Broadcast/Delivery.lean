/-
**What a listener obtains.**

To a listener a channel is a queue.  Whatever is sent while it listens is put behind the queue, and
whenever it asks it obtains the item in front, or nothing if there is none.  Only a queue that has
outgrown the channel loses items, the oldest ones, and not before the listener asks.  How many others
listen, and how far behind they are, makes no difference.

Main definitions:

* `Broadcast.Deed`, `Broadcast.performAll` — what is done with a channel, one thing after the other;
* `Broadcast.Happening`, `Broadcast.story` — what happens to one listener meanwhile;
* `Broadcast.Fair` — **what may happen to a listener**, told of its queue alone;
* `Broadcast.Owes` — a channel that has a queue for a listener.

Main results:

* `Broadcast.powerFrom_bounds` — the room of a channel is the power of two that is just enough;
* `Broadcast.poll_eq` — who looks twice obtains what one does who looks until there is no lag;
* `Broadcast.Owes.asks` — **what a listener obtains of its queue**, and what is left of it;
* `Broadcast.Owes.sendAll`, `Broadcast.Owes.drain_eq` — a listener obtains all that there is room for;
* `Broadcast.Stands.perform`, `Broadcast.Stands.performAll` — the queue after one deed, and after any;
* `Broadcast.deliveries_fair` — **whatever is done with a channel is fair to every listener**.
-/

import ManifestRegistry.Broadcast

set_option relaxedAutoImplicit false
set_option autoImplicit false

namespace ManifestRegistry

namespace Broadcast

variable {α : Type}

/-! ### Room -/

/-- **The room of a channel is the power of two that is just enough**: half of it would not be. -/
theorem powerFrom_bounds {n : Nat} (h : 0 < n) :
    ∃ k, powerFrom n = Nat.pow 2 k ∧ n ≤ powerFrom n ∧ powerFrom n < 2 * n := by
  unfold powerFrom
  split
  · exact ⟨0, rfl, by omega, by omega⟩
  · rename_i hn
    refine ⟨Nat.log2 (n - 1) + 1, Nat.one_shiftLeft _, ?_⟩
    have hlow := Nat.log2_self_le (n := n - 1) (by omega)
    have hhigh := Nat.lt_log2_self (n := n - 1)
    rw [Nat.one_shiftLeft, Nat.pow_succ]
    rw [Nat.pow_succ] at hhigh
    omega

theorem create?_eq_some {room : Nat} {b : Broadcast α} (h : create? room = some b) :
    0 < room ∧ b = { room := powerFrom room } := by
  unfold create? at h
  split at h
  · rename_i hroom
    exact ⟨hroom.1, (Option.some_inj.1 h).symm⟩
  · cases h

/-! ### Looking twice and looking on -/

/-- What there is in a receipt. -/
def Receipt.item? : Receipt α → Option α
  | item a => some a
  | pending | closed => none

variable {b b' : Broadcast α} {n m place : Nat} {queue : List α}

theorem look_snd (b : Broadcast α) (n : Nat) :
    (b.look n).2 = b ∨ ∃ place, (b.look n).2 = b.moved n place := by
  unfold look
  split
  · split
    · exact .inr ⟨_, rfl⟩
    · split
      · exact .inr ⟨_, rfl⟩
      · exact .inl rfl
  · exact .inl rfl

theorem moved_moved (b : Broadcast α) (n place place' : Nat) :
    (b.moved n place).moved n place' = b.moved n place' := by
  simp [moved]

theorem look_ne_lagged (h : b.missed n = 0) (k : Nat) : (b.look n).1 ≠ .lagged k := by
  intro hlook
  have hless := missed_look_lt (Prod.ext hlook rfl : b.look n = (.lagged k, (b.look n).2))
  omega

/-- Once told of a lag, a receiver has missed nothing more. -/
theorem missed_look {k : Nat} (h : b.look n = (.lagged k, b')) : b'.missed n = 0 := by
  unfold look at h
  split at h
  · rename_i due hdue
    split at h
    · obtain rfl := (Prod.mk.inj h).2
      have hn : n < b.receivers.length := (List.getElem?_eq_some_iff.1 hdue).1
      have hnew : (b.receivers.set n (some (b.sent - b.room)))[n]? =
          some (some (b.sent - b.room)) := List.getElem?_set_self hn
      simp only [missed, moved, hnew]
      omega
    · split at h
      · cases h
      · split at h <;> cases h
  · cases h

/-- What is received is told by the first look, or by those that follow a lag. -/
theorem receive_eq (b : Broadcast α) (n : Nat) : b.receive n =
    match b.look n with
    | (.item a, b') => (.item a, b')
    | (.lagged _, b') => b'.receive n
    | (.empty, b') => (.pending, b')
    | (.closed, b') => (.closed, b') := by
  rw [receive]
  cases b.look n with
  | mk sight b' => cases sight <;> rfl

/-- **Who looks twice obtains what one does who looks until there is no lag**, and both leave the same
channel. -/
theorem poll_eq (b : Broadcast α) (n : Nat) :
    b.poll n = ((b.receive n).1.item?, (b.receive n).2) := by
  rw [poll, receive_eq]
  cases hlook : b.look n with
  | mk sight b₁ =>
      cases sight with
      | item a | empty | closed => rfl
      | lagged k =>
          -- the second look finds no lag, so there is no third
          simp only
          rw [receive_eq]
          cases hagain : b₁.look n with
          | mk sight' b₂ =>
              cases sight' with
              | item a | empty | closed => rfl
              | lagged j =>
                  exact absurd (congrArg Prod.fst hagain) (look_ne_lagged (missed_look hlook) j)

theorem poll_snd (b : Broadcast α) (n : Nat) :
    (b.poll n).2 = b ∨ ∃ place, (b.poll n).2 = b.moved n place := by
  have hfirst := look_snd b n
  unfold poll
  cases hlook : b.look n with
  | mk sight b₁ =>
      rw [hlook] at hfirst
      cases sight with
      | item a | empty | closed => exact hfirst
      | lagged k =>
          have hsecond : ((b₁.look n).2 = b ∨ ∃ place, (b₁.look n).2 = b.moved n place) := by
            rcases hfirst with rfl | ⟨place, rfl⟩
            · exact look_snd _ n
            · rcases look_snd (b.moved n place) n with h | ⟨place', h⟩
              · exact .inr ⟨place, h⟩
              · exact .inr ⟨place', h.trans (moved_moved b n place place')⟩
          simp only
          cases hagain : b₁.look n with
          | mk sight' b₂ =>
              rw [hagain] at hsecond
              cases sight' <;> exact hsecond

@[simp] theorem room_send (b : Broadcast α) (item : α) : (b.send item).room = b.room := by
  unfold send
  split <;> rfl

theorem room_sendAll (b : Broadcast α) (items : List α) : (items.foldl send b).room = b.room := by
  induction items generalizing b with
  | nil => rfl
  | cons item items ih => exact (ih (b.send item)).trans (b.room_send item)

/-! ### Queues -/

/-- A channel has a queue for a listener: the items sent since the last one that it obtained or passed
over.  Of these the channel still keeps the last ones, as many as it has room for. -/
structure Owes (b : Broadcast α) (n : Nat) (queue : List α) : Prop where
  due : ∃ due, b.receivers[n]? = some (some due) ∧ due + queue.length = b.sent
  kept : b.held.take queue.length = queue.reverse.take b.room

theorem owes_subscribe (b : Broadcast α) : b.subscribe.Owes b.receivers.length [] where
  due := ⟨b.sent, by simp [subscribe], rfl⟩
  kept := by simp

namespace Owes

/-- What matters to a listener is its own place, and what is kept. -/
theorem congr (h : b.Owes n queue) (hreceiver : b'.receivers[n]? = b.receivers[n]?)
    (hsent : b'.sent = b.sent) (hheld : b'.held = b.held) (hroom : b'.room = b.room) :
    b'.Owes n queue where
  due := by
    rw [hreceiver, hsent]
    exact h.due
  kept := by
    rw [hheld, hroom]
    exact h.kept

/-- Where someone listens, an item sent is put behind the queue. -/
theorem send (h : b.Owes n queue) (item : α) : (b.send item).Owes n (queue ++ [item]) := by
  obtain ⟨due, hdue, hlen⟩ := h.due
  have hsome : b.listeners ≠ 0 := by
    have hmem : some due ∈ b.receivers := List.mem_of_getElem? hdue
    have hpos : 0 < b.listeners := List.countP_pos_iff.2 ⟨some due, hmem, rfl⟩
    omega
  have hsend : b.send item =
      { b with sent := b.sent + 1, held := (item :: b.held).take b.room } := if_neg hsome
  rw [hsend]
  refine ⟨⟨due, hdue, ?_⟩, ?_⟩
  · simp only [List.length_append, List.length_singleton]
    omega
  · -- the newest item is kept in front, and of the others as many as there is room for
    have htake : ∀ (room : Nat) (items : List α),
        (item :: items.take room).take room = (item :: items).take room := by
      intro room items
      cases room with
      | zero => rfl
      | succ room => rw [List.take_succ_cons, List.take_take, List.take_succ_cons,
          Nat.min_eq_left (Nat.le_succ room)]
    calc ((item :: b.held).take b.room).take (queue ++ [item]).length
        = ((item :: b.held).take (queue.length + 1)).take b.room := by
          rw [List.length_append, List.length_singleton, List.take_take, List.take_take,
            Nat.min_comm]
      _ = (item :: queue.reverse.take b.room).take b.room := by
          rw [List.take_succ_cons, h.kept]
      _ = (queue ++ [item]).reverse.take b.room := by
          rw [htake, List.reverse_append, List.reverse_singleton, List.singleton_append]

theorem look_nil (h : b.Owes n []) : b.look n = (if b.canSend then .empty else .closed, b) := by
  obtain ⟨due, hdue, hlen⟩ := h.due
  have hall : due = b.sent := hlen
  have hlag : ¬due < b.sent - b.room := by omega
  have hitem : b.item? due = none := if_neg (by omega)
  simp only [look, hdue, hlag, hitem, if_false]

/-- **A queue that has not outgrown the channel gives its first item.** -/
theorem look_cons {item : α} {later : List α} (h : b.Owes n (item :: later))
    (hroom : (item :: later).length ≤ b.room) :
    ∃ place, b.look n = (.item item, b.moved n place) ∧ (b.moved n place).Owes n later := by
  obtain ⟨due, hdue, hlen⟩ := h.due
  have hn : n < b.receivers.length := (List.getElem?_eq_some_iff.1 hdue).1
  have hkept := h.kept
  simp only [List.length_cons] at hlen hroom hkept
  have hlag : ¬due < b.sent - b.room := by omega
  have hback : b.sent - 1 - due = later.length := by omega
  have hall : (item :: later).reverse.take b.room = later.reverse ++ [item] := by
    rw [List.reverse_cons]
    exact List.take_of_length_le (by simpa using hroom)
  rw [hall] at hkept
  have hitem : b.item? due = some item := by
    have hlast := congrArg (·[later.length]?) hkept
    simp only [List.getElem?_take_of_lt (Nat.lt_succ_self _)] at hlast
    rw [item?, if_pos (by omega), hback, hlast]
    simp
  refine ⟨due + 1, ?_, ⟨due + 1, List.getElem?_set_self hn, by show _ = b.sent; omega⟩, ?_⟩
  · simp only [look, hdue, hlag, hitem, if_false]
  · show b.held.take later.length = later.reverse.take b.room
    have hless := congrArg (List.take later.length) hkept
    rw [List.take_take, Nat.min_eq_left (Nat.le_succ _), List.take_left' List.length_reverse] at hless
    have hfits : later.reverse.length ≤ b.room := by
      rw [List.length_reverse]
      omega
    rw [hless, List.take_of_length_le hfits]

/-- **A queue that has outgrown the channel loses as many items as it is longer**, the oldest ones. -/
theorem look_lagged (h : b.Owes n queue) (hroom : b.room < queue.length) :
    ∃ k b', b.look n = (.lagged k, b') ∧ b' = b.moved n (b.sent - b.room) ∧
      b'.Owes n (queue.drop (queue.length - b.room)) := by
  obtain ⟨due, hdue, hlen⟩ := h.due
  have hn : n < b.receivers.length := (List.getElem?_eq_some_iff.1 hdue).1
  have hlag : due < b.sent - b.room := by omega
  refine ⟨b.sent - b.room - due, b.moved n (b.sent - b.room), ?_, rfl,
    ⟨b.sent - b.room, List.getElem?_set_self hn, ?_⟩, ?_⟩
  · simp only [look, hdue, hlag, if_true]
  · show b.sent - b.room + _ = b.sent
    rw [List.length_drop]
    omega
  · show b.held.take _ = (queue.drop (queue.length - b.room)).reverse.take b.room
    have hless := congrArg (List.take b.room) h.kept
    rw [List.take_take, Nat.min_eq_left (Nat.le_of_lt hroom), List.take_take, Nat.min_self] at hless
    have hlast : queue.length - (queue.length - b.room) = b.room := by omega
    rw [List.length_drop, List.reverse_drop, hlast, hless, List.take_take, Nat.min_self]

/-- **What a listener obtains of its queue**: nothing if there is nothing in it, and else the first item
that has not been lost by then.  What stands behind that item is the queue that is left. -/
theorem asks (h : b.Owes n queue) (hroom : 0 < b.room) :
    (queue = [] ∧ b.receive n = (if b.canSend then .pending else .closed, b)) ∨
    ∃ skipped item later b', queue = skipped ++ item :: later ∧
      (skipped ≠ [] → b.room ≤ (item :: later).length) ∧ b.receive n = (.item item, b') ∧
      b'.Owes n later := by
  rw [receive_eq]
  by_cases hlag : b.room < queue.length
  · obtain ⟨k, b₁, hlook, rfl, hleft⟩ := h.look_lagged hlag
    have hlen : (queue.drop (queue.length - b.room)).length = b.room := by
      rw [List.length_drop]
      omega
    cases hqueue : queue.drop (queue.length - b.room) with
    | nil =>
        rw [hqueue] at hlen
        exact absurd hlen (Nat.ne_of_lt hroom)
    | cons item later =>
        rw [hqueue] at hleft hlen
        obtain ⟨place, hagain, howes⟩ := hleft.look_cons (Nat.le_of_eq hlen)
        refine .inr ⟨queue.take (queue.length - b.room), item, later, _, ?_,
          fun _ => Nat.le_of_eq hlen.symm, ?_, howes⟩
        · rw [← hqueue, List.take_append_drop]
        · rw [hlook]
          simp only
          rw [receive_eq, hagain]
  · cases queue with
    | nil =>
        rw [h.look_nil]
        exact .inl ⟨rfl, by cases b.canSend <;> rfl⟩
    | cons item later =>
        obtain ⟨place, hlook, howes⟩ := h.look_cons (Nat.le_of_not_lt hlag)
        exact .inr ⟨[], item, later, _, rfl, fun hne => absurd rfl hne, by rw [hlook], howes⟩

/-- Whatever is sent where someone listens is put behind the queue. -/
theorem sendAll (h : b.Owes n queue) (items : List α) :
    (items.foldl Broadcast.send b).Owes n (queue ++ items) := by
  induction items generalizing b queue with
  | nil => rwa [List.append_nil]
  | cons item items ih =>
      have hrest := ih (h.send item)
      rwa [List.append_assoc, List.singleton_append] at hrest

/-- Who asks often enough obtains all of a queue that has not outgrown the channel. -/
theorem take_eq {count : Nat} (h : b.Owes n queue) (hroom : queue.length ≤ b.room)
    (hcount : queue.length ≤ count) : (take n count b).1 = queue := by
  induction count generalizing b queue with
  | zero => exact (List.eq_nil_of_length_eq_zero (Nat.le_zero.1 hcount)).symm
  | succ count ih =>
      cases queue with
      | nil =>
          have hpoll : b.poll n = (none, b) := by
            rw [poll, h.look_nil]
            cases b.canSend <;> rfl
          rw [take, hpoll]
      | cons item later =>
          obtain ⟨place, hlook, howes⟩ := h.look_cons hroom
          have hpoll : b.poll n = (some item, b.moved n place) := by rw [poll, hlook]
          have hrest := ih howes (Nat.le_of_succ_le hroom) (Nat.le_of_succ_le_succ hcount)
          rw [take, hpoll]
          exact congrArg (item :: ·) hrest

/-- **All that was sent to someone who listens is there to be obtained**, if the channel has room for it. -/
theorem drain_eq (h : b.Owes n queue) (hroom : queue.length ≤ b.room) : (b.drain n).1 = queue := by
  obtain ⟨due, -, hlen⟩ := h.due
  exact h.take_eq hroom (by omega)

end Owes

/-! ### Deeds -/

/-- What someone does with a channel. -/
inductive Deed (α : Type) where
  | addSender
  | subscribe
  | emit (sender : Nat) (item : α)
  /-- A receiver asks for an item that is there. -/
  | poll (receiver : Nat)
  /-- A receiver asks for the next item and does not wait for it. -/
  | receive (receiver : Nat)
  | dropSender (sender : Nat)
  | dropReceiver (receiver : Nat)
  | close

/-- Whether a receiver exists. -/
def listens (b : Broadcast α) (n : Nat) : Bool := (b.receivers[n]?).join.isSome

/-- The channel after something was done with it.  Senders are made by what can send and receivers by the
handle; nothing is sent by a sender that does not exist. -/
def perform (b : Broadcast α) : Deed α → Broadcast α
  | .addSender => if b.canSend then b.addSender else b
  | .subscribe => if b.hasHandle then b.subscribe else b
  | .emit sender item => if (b.senders[sender]?).getD false then b.send item else b
  | .poll receiver => (b.poll receiver).2
  | .receive receiver => (b.receive receiver).2
  | .dropSender sender => b.dropSender sender
  | .dropReceiver receiver => b.dropReceiver receiver
  | .close => b.close

/-- The channel after deeds one after the other. -/
def performAll (b : Broadcast α) (deeds : List (Deed α)) : Broadcast α := deeds.foldl perform b

/-- What happens to a listener. -/
inductive Happening (α : Type) where
  /-- An item is sent while it listens. -/
  | sent (item : α)
  /-- It asks, one way or the other, and obtains an item or none. -/
  | asked (obtained : Option α)
deriving DecidableEq, Repr

/-- What happens to a listener by a deed. -/
def tale (b : Broadcast α) (n : Nat) : Deed α → List (Happening α)
  | .emit sender item =>
    if (b.senders[sender]?).getD false ∧ b.listens n then [.sent item] else []
  | .poll receiver => if receiver = n ∧ b.listens n then [.asked (b.poll n).1] else []
  | .receive receiver => if receiver = n ∧ b.listens n then [.asked (b.receive n).1.item?] else []
  | .addSender | .subscribe | .dropSender _ | .dropReceiver _ | .close => []

/-- What happens to a listener by deeds one after the other. -/
def story (n : Nat) : Broadcast α → List (Deed α) → List (Happening α)
  | _, [] => []
  | b, deed :: deeds => b.tale n deed ++ story n (b.perform deed) deeds

/-- The items sent to a listener. -/
def sentTo (story : List (Happening α)) : List α :=
  story.filterMap fun
    | .sent item => some item
    | .asked _ => none

/-- The items that a listener has obtained. -/
def obtained (story : List (Happening α)) : List α :=
  story.filterMap fun
    | .sent _ => none
    | .asked item => item

/-! ### Fairness -/

/-- What may happen to a listener with a queue, and the queue that is left.  An item that is sent is put
behind the queue.  Who asks obtains nothing only if nothing is queued, and else an item of the queue;
those before it are skipped, and only if as many newer ones as there is room for have been sent by
then. -/
inductive Fair (room : Nat) : List α → List (Happening α) → List α → Prop where
  | nil (queue : List α) : Fair room queue [] queue
  | sent {queue left : List α} {item : α} {story : List (Happening α)} :
      Fair room (queue ++ [item]) story left → Fair room queue (.sent item :: story) left
  | nothing {left : List α} {story : List (Happening α)} :
      Fair room [] story left → Fair room [] (.asked none :: story) left
  | obtained {skipped later left : List α} {item : α} {story : List (Happening α)} :
      (skipped ≠ [] → room ≤ (item :: later).length) → Fair room later story left →
      Fair room (skipped ++ item :: later) (.asked (some item) :: story) left

namespace Fair

variable {room : Nat} {left : List α} {story story' : List (Happening α)}

theorem append {middle : List α} (h : Fair room queue story middle) (h' : Fair room middle story' left) :
    Fair room queue (story ++ story') left := by
  induction h with
  | nil queue => exact h'
  | sent _ ih => exact .sent (ih h')
  | nothing _ ih => exact .nothing (ih h')
  | obtained hskip _ ih => exact .obtained hskip (ih h')

/-- **What a listener obtains, and what is queued for it then, has been sent to it, in this order.** -/
theorem sublist (h : Fair room queue story left) :
    (Broadcast.obtained story ++ left).Sublist (queue ++ sentTo story) := by
  induction h with
  | nil queue => simp [Broadcast.obtained, sentTo]
  | @sent queue left item story _ ih =>
      have hsent : queue ++ sentTo (.sent item :: story) = (queue ++ [item]) ++ sentTo story := by
        simp [sentTo]
      rw [hsent]
      exact ih
  | nothing _ ih => exact ih
  | @obtained skipped later left item story _ _ ih =>
      have hrest : (item :: (Broadcast.obtained story ++ left)).Sublist
          (item :: (later ++ sentTo story)) := ih.cons_cons item
      have hall : skipped ++ item :: later ++ sentTo (.asked (some item) :: story) =
          skipped ++ item :: (later ++ sentTo story) := by
        simp [sentTo]
      rw [hall]
      exact hrest.trans (List.sublist_append_right skipped _)

end Fair

/-! ### What is queued after deeds -/

/-- Where a listener stands: it is still to come, it has a queue, or it is gone. -/
def Stands (b : Broadcast α) (n : Nat) (queue : List α) : Prop :=
  (b.receivers.length ≤ n ∧ queue = []) ∨ b.Owes n queue ∨ b.receivers[n]? = some none

namespace Stands

/-- Who does not listen has no queue, and who has a queue listens. -/
theorem cases (h : b.Stands n queue) :
    (b.Owes n queue ∧ b.listens n = true) ∨
    (b.listens n = false ∧ (b.receivers.length ≤ n ∧ queue = [] ∨ b.receivers[n]? = some none)) := by
  rcases h with ⟨hlen, hnil⟩ | howes | hgone
  · exact .inr ⟨by simp [listens, List.getElem?_eq_none hlen], .inl ⟨hlen, hnil⟩⟩
  · obtain ⟨due, hdue, -⟩ := howes.due
    exact .inl ⟨howes, by simp [listens, hdue]⟩
  · exact .inr ⟨by simp [listens, hgone], .inr hgone⟩

/-- Nothing changes where receivers are what they were. -/
theorem congr (h : b.Stands n queue) (hreceivers : b'.receivers = b.receivers)
    (hsent : b'.sent = b.sent) (hheld : b'.held = b.held) (hroom : b'.room = b.room) :
    b'.Stands n queue := by
  rcases h with ⟨hlen, hnil⟩ | howes | hgone
  · exact .inl ⟨hreceivers ▸ hlen, hnil⟩
  · exact .inr (.inl (howes.congr (by rw [hreceivers]) hsent hheld hroom))
  · exact .inr (.inr (by rw [hreceivers, hgone]))

/-- Another receiver is put elsewhere, or dropped. -/
theorem set (h : b.Stands n queue) (hne : m ≠ n) (receiver : Option Nat) :
    ({ b with receivers := b.receivers.set m receiver } : Broadcast α).Stands n queue := by
  have hsame : (b.receivers.set m receiver)[n]? = b.receivers[n]? := List.getElem?_set_ne hne
  rcases h with ⟨hlen, hnil⟩ | howes | hgone
  · exact .inl ⟨by simpa using hlen, hnil⟩
  · exact .inr (.inl (howes.congr hsame rfl rfl rfl))
  · exact .inr (.inr (hsame.trans hgone))

theorem subscribe (h : b.Stands n queue) : b.subscribe.Stands n queue := by
  have hnew : b.subscribe.receivers = b.receivers ++ [some b.sent] := rfl
  have hold : n < b.receivers.length → b.subscribe.receivers[n]? = b.receivers[n]? :=
    fun hn => by rw [hnew, List.getElem?_append_left hn]
  rcases h with ⟨hlen, rfl⟩ | howes | hgone
  · rcases Nat.eq_or_lt_of_le hlen with heq | hlt
    · exact .inr (.inl (heq ▸ owes_subscribe b))
    · refine .inl ⟨?_, rfl⟩
      rw [hnew, List.length_append, List.length_singleton]
      exact hlt
  · obtain ⟨due, hdue, -⟩ := howes.due
    exact .inr (.inl (howes.congr (hold (List.getElem?_eq_some_iff.1 hdue).1) rfl rfl rfl))
  · exact .inr (.inr ((hold (List.getElem?_eq_some_iff.1 hgone).1).trans hgone))

theorem send (h : b.Stands n queue) (item : α) :
    ∃ queue', Fair b.room queue (if b.listens n then [.sent item] else []) queue' ∧
      (b.send item).Stands n queue' := by
  rcases h.cases with ⟨howes, hlistens⟩ | ⟨hdeaf, hstands⟩
  · refine ⟨queue ++ [item], ?_, .inr (.inl (howes.send item))⟩
    rw [if_pos hlistens]
    exact .sent (.nil _)
  · have hreceivers : (b.send item).receivers = b.receivers := by
      unfold Broadcast.send
      split <;> rfl
    refine ⟨queue, ?_, ?_⟩
    · rw [if_neg (by simp [hdeaf])]
      exact .nil queue
    · rcases hstands with hcomes | hgone
      · exact .inl (by rwa [hreceivers])
      · exact .inr (.inr (by rwa [hreceivers]))

theorem dropReceiver (h : b.Stands n queue) (m : Nat) : (b.dropReceiver m).Stands n queue := by
  by_cases hm : m = n
  · subst hm
    rcases Nat.lt_or_ge m b.receivers.length with hlt | hge
    · exact .inr (.inr (List.getElem?_set_self hlt))
    · have hsame : b.receivers.set m none = b.receivers := List.set_eq_of_length_le hge
      exact h.congr hsame rfl rfl rfl
  · exact h.set hm none

/-- **A receiver asks**: the one that is meant obtains what is due to it, and for the others nothing
changes. -/
theorem receive (h : b.Stands n queue) (hroom : 0 < b.room) (m : Nat) :
    ∃ queue', Fair b.room queue
        (if m = n ∧ b.listens n then [.asked (b.receive n).1.item?] else []) queue' ∧
      (b.receive m).2.Stands n queue' := by
  by_cases hm : m = n
  · subst hm
    rcases h.cases with ⟨howes, hlistens⟩ | ⟨hdeaf, -⟩
    · rw [if_pos ⟨rfl, hlistens⟩]
      rcases howes.asks hroom with ⟨rfl, hnone⟩ | ⟨skipped, item, later, b', rfl, hskip, hitem, hleft⟩
      · refine ⟨[], ?_, ?_⟩
        · rw [hnone]
          cases b.canSend <;> exact .nothing (.nil [])
        · rwa [hnone]
      · rw [hitem]
        exact ⟨later, .obtained hskip (.nil later), .inr (.inl hleft)⟩
    · have hlook : b.look m = (.closed, b) := by
        unfold look
        unfold listens at hdeaf
        split
        · rename_i due hdue
          simp [hdue] at hdeaf
        · rfl
      have hsame : (b.receive m).2 = b := by rw [receive_eq, hlook]
      refine ⟨queue, ?_, hsame.symm ▸ h⟩
      rw [if_neg (by simp [hdeaf])]
      exact .nil queue
  · refine ⟨queue, ?_, ?_⟩
    · rw [if_neg fun hboth => hm hboth.1]
      exact .nil queue
    · have hpoll := poll_snd b m
      rw [poll_eq] at hpoll
      rcases hpoll with hsame | ⟨place, hmoved⟩
      · exact hsame.symm ▸ h
      · exact hmoved.symm ▸ h.set hm (some place)

/-- **What happens to a listener by a deed is fair**, and leaves it with a queue. -/
theorem perform (h : b.Stands n queue) (hroom : 0 < b.room) (deed : Deed α) :
    ∃ queue', Fair b.room queue (b.tale n deed) queue' ∧ (b.perform deed).Stands n queue' := by
  cases deed with
  | addSender =>
      refine ⟨queue, .nil queue, ?_⟩
      rw [Broadcast.perform]
      split
      · exact h.congr rfl rfl rfl rfl
      · exact h
  | subscribe =>
      refine ⟨queue, .nil queue, ?_⟩
      rw [Broadcast.perform]
      split
      · exact h.subscribe
      · exact h
  | emit sender item =>
      by_cases hsender : (b.senders[sender]?).getD false = true
      · obtain ⟨queue', hfair, hleft⟩ := h.send item
        refine ⟨queue', ?_, ?_⟩
        · simpa only [tale, hsender, true_and] using hfair
        · simpa only [Broadcast.perform, hsender, if_true] using hleft
      · refine ⟨queue, ?_, ?_⟩
        · rw [tale, if_neg fun hboth => hsender hboth.1]
          exact .nil queue
        · rw [Broadcast.perform, if_neg hsender]
          exact h
  | poll receiver =>
      obtain ⟨queue', hfair, hleft⟩ := h.receive hroom receiver
      refine ⟨queue', ?_, ?_⟩
      · simpa only [tale, poll_eq] using hfair
      · simpa only [Broadcast.perform, poll_eq] using hleft
  | receive receiver => exact h.receive hroom receiver
  | dropSender sender => exact ⟨queue, .nil queue, h.congr rfl rfl rfl rfl⟩
  | dropReceiver receiver => exact ⟨queue, .nil queue, h.dropReceiver receiver⟩
  | close => exact ⟨queue, .nil queue, h.congr rfl rfl rfl rfl⟩

end Stands

theorem room_perform (b : Broadcast α) (deed : Deed α) : (b.perform deed).room = b.room := by
  have hpoll : ∀ m, (b.poll m).2.room = b.room := by
    intro m
    rcases poll_snd b m with hsame | ⟨place, hmoved⟩
    · rw [hsame]
    · rw [hmoved]
      rfl
  cases deed with
  | addSender | subscribe =>
      rw [perform]
      split <;> rfl
  | emit sender item =>
      rw [perform]
      split
      · exact b.room_send item
      · rfl
  | poll receiver => exact hpoll receiver
  | receive receiver =>
      have hreceive := hpoll receiver
      rwa [poll_eq] at hreceive
  | dropSender | dropReceiver | close => rfl

theorem room_performAll (b : Broadcast α) (deeds : List (Deed α)) :
    (b.performAll deeds).room = b.room := by
  induction deeds generalizing b with
  | nil => rfl
  | cons deed deeds ih => exact (ih (b.perform deed)).trans (b.room_perform deed)

/-- **What happens to a listener by any deeds is fair**, and leaves it with a queue. -/
theorem Stands.performAll (h : b.Stands n queue) (hroom : 0 < b.room) (deeds : List (Deed α)) :
    ∃ queue', Fair b.room queue (b.story n deeds) queue' ∧ (b.performAll deeds).Stands n queue' := by
  induction deeds generalizing b queue with
  | nil => exact ⟨queue, .nil queue, h⟩
  | cons deed deeds ih =>
      obtain ⟨middle, hfair, hstands⟩ := h.perform hroom deed
      have hsame := b.room_perform deed
      obtain ⟨queue', hlater, hleft⟩ := ih hstands (by rwa [hsame])
      rw [hsame] at hlater
      exact ⟨queue', hfair.append hlater, hleft⟩

/-! ### Deliveries -/

/-- **Whatever is done with a channel is fair to every listener.**  The channel has room for a power of
two, the first that is enough.  What a listener obtains has been sent while it listens and comes in that
order; it obtains nothing only if nothing is queued, and skips only what a full channel of newer items
has come after.  In the end both ways to ask find the first of what is queued, if anything is, and leave
the same channel. -/
theorem deliveries_fair {room : Nat} {b : Broadcast α} (h : create? room = some b)
    (deeds : List (Deed α)) (n : Nat) :
    (∃ k, b.room = Nat.pow 2 k ∧ room ≤ b.room ∧ b.room < 2 * room) ∧
    ∃ queue, Fair b.room [] (b.story n deeds) queue ∧
      (obtained (b.story n deeds) ++ queue).Sublist (sentTo (b.story n deeds)) ∧
      ((b.performAll deeds).listens n = true →
        (queue = [] → (b.performAll deeds).poll n = (none, b.performAll deeds) ∧
          (b.performAll deeds).receive n =
            (if (b.performAll deeds).canSend then .pending else .closed, b.performAll deeds)) ∧
        (queue ≠ [] → ∃ item c, item ∈ queue ∧ (b.performAll deeds).poll n = (some item, c) ∧
          (b.performAll deeds).receive n = (.item item, c))) := by
  obtain ⟨hpos, rfl⟩ := create?_eq_some h
  have hbounds := powerFrom_bounds hpos
  refine ⟨hbounds, ?_⟩
  have hroom : 0 < powerFrom room := by
    obtain ⟨-, -, hle, -⟩ := hbounds
    omega
  have hopening : Stands ({ room := powerFrom room } : Broadcast α) n [] :=
    .inl ⟨Nat.zero_le n, rfl⟩
  obtain ⟨queue, hfair, hstands⟩ := hopening.performAll hroom deeds
  refine ⟨queue, hfair, by simpa using hfair.sublist, fun hlistens => ?_⟩
  rcases hstands.cases with ⟨howes, -⟩ | ⟨hdeaf, -⟩
  · have hleft := room_performAll ({ room := powerFrom room } : Broadcast α) deeds
    rw [poll_eq]
    rcases howes.asks (hleft.symm ▸ hroom) with
      ⟨rfl, hnone⟩ | ⟨skipped, item, later, c, rfl, -, hitem, -⟩
    · rw [hnone]
      refine ⟨fun _ => ⟨?_, rfl⟩, fun hne => absurd rfl hne⟩
      split <;> rfl
    · rw [hitem]
      exact ⟨fun hnil => by simp at hnil, fun _ => ⟨item, c, by simp, rfl, rfl⟩⟩
  · rw [hlistens] at hdeaf
    cases hdeaf

/-- Six items for a listener who asks late, and one more for two listeners. -/
def overrun : List (Deed Nat) :=
  [.addSender, .subscribe, .emit 0 1, .emit 0 2, .emit 0 3, .emit 0 4, .emit 0 5, .emit 0 6, .poll 0,
    .subscribe, .receive 0, .emit 0 7]

/-- Where four items have room, the first two of six are skipped, and the fifth is next after two. -/
theorem deliveries_fair_overrun :
    create? 3 = some ({ room := 4 } : Broadcast Nat) ∧
    (({ room := 4 } : Broadcast Nat).performAll overrun).listens 0 = true ∧
    ∃ queue, queue ≠ [] ∧
      Fair 4 [] [.sent 1, .sent 2, .sent 3, .sent 4, .sent 5, .sent 6, .asked (some 3), .asked (some 4),
        .sent 7] queue ∧
      ([3, 4] ++ queue).Sublist [1, 2, 3, 4, 5, 6, 7] ∧
      ∃ c, (({ room := 4 } : Broadcast Nat).performAll overrun).poll 0 = (some 5, c) ∧
        (({ room := 4 } : Broadcast Nat).performAll overrun).receive 0 = (.item 5, c) := by
  have hcreate : create? 3 = some ({ room := 4 } : Broadcast Nat) := rfl
  have hlistens : (({ room := 4 } : Broadcast Nat).performAll overrun).listens 0 = true := by decide +kernel
  have hstory : ({ room := 4 } : Broadcast Nat).story 0 overrun =
      [.sent 1, .sent 2, .sent 3, .sent 4, .sent 5, .sent 6, .asked (some 3), .asked (some 4),
        .sent 7] := by decide +kernel
  have hnext : ((({ room := 4 } : Broadcast Nat).performAll overrun).poll 0).1 = some 5 := by decide +kernel
  obtain ⟨-, queue, hfair, hsub, hends⟩ := deliveries_fair hcreate overrun 0
  obtain ⟨hnone, hsome⟩ := hends hlistens
  rw [hstory] at hfair hsub
  have hne : queue ≠ [] := by
    intro hnil
    rw [(hnone hnil).1] at hnext
    cases hnext
  obtain ⟨item, c, -, hpoll, hreceive⟩ := hsome hne
  rw [hpoll] at hnext
  obtain rfl : item = 5 := Option.some_inj.1 hnext
  exact ⟨hcreate, hlistens, queue, hne, hfair, hsub, c, hpoll, hreceive⟩

end Broadcast

end ManifestRegistry
