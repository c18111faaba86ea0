/-
**Broadcasting to listeners that may fall behind.**

Every listener gets every item sent after it began to listen, in their order.  A channel keeps only
a fixed number of the last items; a listener that has fallen further behind goes on with the oldest
item kept.  Sending never waits, and an item sent while nobody listens is gone.

Main definitions:

* `Broadcast` — a channel with its senders and receivers;
* `Broadcast.create?` — a channel with room for at least so many items;
* `Broadcast.send`, `Broadcast.subscribe` — sending and beginning to listen;
* `Broadcast.look` — one look for the next item, which may only tell that items were missed;
* `Broadcast.receive` — **the next item of a receiver**, which looks until it is told something else;
* `Broadcast.poll`, `Broadcast.drain` — the items that are there; a poll looks twice at most.

Main results:

* `Broadcast.length_held_send_le` — a channel never keeps more than it has room for;
* `Broadcast.missed_look_lt` — whoever is told of missed items has missed fewer from then on.
-/

set_option relaxedAutoImplicit false
set_option autoImplicit false

namespace ManifestRegistry

/-- A channel. -/
structure Broadcast (α : Type) where
  /-- How many items are kept. -/
  room : Nat
  /-- How many items have been sent. -/
  sent : Nat := 0
  /-- The last items, the newest one first. -/
  held : List α := []
  /-- Whether the channel's own handle, which can send and subscribe, still exists. -/
  hasHandle : Bool := true
  /-- Whether each further sender still exists. -/
  senders : List Bool := []
  /-- For each receiver how many items were sent before the one it gets next; nothing if it no longer
  exists. -/
  receivers : List (Option Nat) := []

namespace Broadcast

variable {α : Type}

/-! ### Channels -/

/-- The room of a channel when none is asked for. -/
def defaultRoom : Nat := 256

/-- A channel has less room than this, which no memory could hold. -/
def roomLimit : Nat := 0x100000000000000

/-- The least power of two that is not below a number. -/
def powerFrom (n : Nat) : Nat := if n ≤ 1 then 1 else 1 <<< (Nat.log2 (n - 1) + 1)

/-- A channel with room for at least so many items, rounded up to a power of two; there must be some
room and it must not be excessive. -/
def create? (room : Nat) : Option (Broadcast α) :=
  if 0 < room ∧ powerFrom room < roomLimit then some { room := powerFrom room } else none

/-- How many receivers there are. -/
def listeners (b : Broadcast α) : Nat := b.receivers.countP Option.isSome

/-- Whether anything can still be sent. -/
def canSend (b : Broadcast α) : Bool := b.hasHandle || b.senders.any id

/-! ### Sending and listening -/

/-- An item for everyone who listens. -/
def send (b : Broadcast α) (item : α) : Broadcast α :=
  if b.listeners = 0 then b
  else { b with sent := b.sent + 1, held := (item :: b.held).take b.room }

/-- Another receiver, for items sent from now on. -/
def subscribe (b : Broadcast α) : Broadcast α :=
  { b with receivers := b.receivers ++ [some b.sent] }

/-- Another sender. -/
def addSender (b : Broadcast α) : Broadcast α := { b with senders := b.senders ++ [true] }

/-- Without a sender. -/
def dropSender (b : Broadcast α) (n : Nat) : Broadcast α :=
  { b with senders := b.senders.set n false }

/-- Without a receiver. -/
def dropReceiver (b : Broadcast α) (n : Nat) : Broadcast α :=
  { b with receivers := b.receivers.set n none }

/-- Without the channel's own handle. -/
def close (b : Broadcast α) : Broadcast α := { b with hasHandle := false }

/-! ### Looking for items -/

/-- What a receiver finds when it looks once. -/
inductive Sight (α : Type) where
  | item (a : α)
  /-- So many items were due to it and are gone; it goes on with the oldest one kept. -/
  | lagged (missed : Nat)
  /-- Nothing yet. -/
  | empty
  /-- Nothing any more. -/
  | closed
deriving Repr

/-- The item behind so many others, if it has been sent and is kept. -/
def item? (b : Broadcast α) (place : Nat) : Option α :=
  if place < b.sent then b.held[b.sent - 1 - place]? else none

/-- A receiver put behind so many items. -/
def moved (b : Broadcast α) (n place : Nat) : Broadcast α :=
  { b with receivers := b.receivers.set n (some place) }

/-- One look of a receiver, and the channel after it. -/
def look (b : Broadcast α) (n : Nat) : Sight α × Broadcast α :=
  match b.receivers[n]? with
  | some (some due) =>
    if due < b.sent - b.room then
      (.lagged (b.sent - b.room - due), b.moved n (b.sent - b.room))
    else
      match b.item? due with
      | some a => (.item a, b.moved n (due + 1))
      | none => (if b.canSend then .empty else .closed, b)
  | _ => (.closed, b)

/-- How many items were due to a receiver and are gone. -/
def missed (b : Broadcast α) (n : Nat) : Nat :=
  match b.receivers[n]? with
  | some (some due) => b.sent - b.room - due
  | _ => 0

theorem missed_look_lt {b b' : Broadcast α} {n k : Nat} (h : b.look n = (.lagged k, b')) :
    b'.missed n < b.missed n := by
  unfold look at h
  split at h
  · rename_i due hdue
    split at h
    · rename_i hlag
      obtain rfl := (Prod.mk.inj h).2
      have hn : n < b.receivers.length := (List.getElem?_eq_some_iff.1 hdue).1
      have hnew : (b.receivers.set n (some (b.sent - b.room)))[n]? =
          some (some (b.sent - b.room)) := List.getElem?_set_self hn
      simp only [missed, moved, hnew, hdue]
      omega
    · split at h
      · cases h
      · split at h <;> cases h
  · cases h

/-! ### Receiving -/

/-- What a receiver gets. -/
inductive Receipt (α : Type) where
  | item (a : α)
  /-- Nothing yet. -/
  | pending
  /-- Nothing any more. -/
  | closed
deriving Repr

/-- The next item of a receiver, and the channel after it was taken.  What it has missed it passes
over and looks again. -/
def receive (b : Broadcast α) (n : Nat) : Receipt α × Broadcast α :=
  match _h : b.look n with
  | (.item a, b') => (.item a, b')
  | (.lagged _, b') => receive b' n
  | (.empty, b') => (.pending, b')
  | (.closed, b') => (.closed, b')
termination_by b.missed n
decreasing_by exact missed_look_lt _h

/-- The next item of a receiver if there is one now.  Whoever is told of missed items looks once
more. -/
def poll (b : Broadcast α) (n : Nat) : Option α × Broadcast α :=
  match b.look n with
  | (.item a, b) => (some a, b)
  | (.lagged _, b) =>
    match b.look n with
    | (.item a, b) => (some a, b)
    | (_, b) => (none, b)
  | (_, b) => (none, b)

/-- Up to `count` items of a receiver. -/
def take (n : Nat) : (count : Nat) → Broadcast α → List α × Broadcast α
  | 0, b => ([], b)
  | count + 1, b =>
    match b.poll n with
    | (none, b) => ([], b)
    | (some a, b) =>
      let (rest, b) := take n count b
      (a :: rest, b)

/-- All items of a receiver that are there now. -/
def drain (b : Broadcast α) (n : Nat) : List α × Broadcast α := take n b.sent b

theorem length_held_send_le {b : Broadcast α} (h : b.held.length ≤ b.room) (item : α) :
    (b.send item).held.length ≤ (b.send item).room := by
  unfold send
  split
  · exact h
  · simp only [List.length_take]
    omega

end Broadcast

end ManifestRegistry
