/-
**What a closed store still answers.**

Once a store is closed it refuses whatever it is asked, for being closed, and closing it again changes
nothing.  A list asks whether it is closed before anything else.  A table looks at a cursor and at the time
first: a listing behind a text that is no cursor is refused for that text, and a count of hours that no
instant is as far back as does not come to an answer at all.

Main definitions:

* `Storage.Call.whenClosed` — what a closed store is to answer;
* `Storage.Call.Forestalled` — a call that a table does not even begin, closed or not.

Main results:

* `Storage.led_eq_of_rests` — a store that no call changes stays as it is;
* `Storage.Rows.call_closed` — **what a closed table answers**;
* `Storage.closing` — **what is answered after a store was closed**.
-/

import ManifestRegistry.Proofs.Instant.Windows
import ManifestRegistry.Proofs.Storage.Holdings

set_option relaxedAutoImplicit false
set_option autoImplicit false

namespace ManifestRegistry

namespace Storage

/-! ### Calls to closed stores -/

namespace Call

/-- What a closed store is to answer: it refuses every call but one to close it. -/
def whenClosed : (c : Call) → Reply c.Answer
  | list .. => refuseClosed
  | getById _ => refuseClosed
  | getVersion .. => refuseClosed
  | create _ => refuseClosed
  | update .. => refuseClosed
  | countRecent .. => refuseClosed
  | commit .. => refuseClosed
  | close => .ok ()

/-- A call that a table does not even begin, and the reason: a text that is no cursor, or hours that lead
back behind all instants. -/
inductive Forestalled (now : Instant) : Call → Stop StorageError → Prop
  | cursor {filter : Filter} {raw : String} {limit : Nat} (hne : raw ≠ "")
      (hno : Cursor.parse? raw = none) :
      Forestalled now (.list filter (some raw) limit) (.failed (.invalidCursor raw))
  | count {subject : String} {hours : Nat} (hfar : ¬now.Reaches hours) :
      Forestalled now (.countRecent subject hours) .crashed

theorem Forestalled.ne_whenClosed {now : Instant} {c : Call} {stop : Stop StorageError}
    (h : Forestalled now c stop) : .error stop ≠ c.whenClosed := by
  cases h <;> simp [whenClosed, refuseClosed, refuse]

end Call

open Call

/-- A store that no call changes stays as it is. -/
theorem led_eq_of_rests {σ : Type} [Store σ] {s : σ} (h : ∀ c now, (Store.call c now s).2 = s)
    (calls : List (Instant × Call)) : led s calls = s := by
  induction calls with
  | nil => rfl
  | cons c calls ih =>
      rw [led, List.foldl_cons, h c.2 c.1]
      exact ih

/-- **A closed list refuses whatever it is asked.** -/
theorem Memory.call_closed {m : Memory} (h : m.closed = true) (c : Call) (now : Instant) :
    Store.call c now m = (c.whenClosed, m) := by
  obtain ⟨records, closed⟩ := m
  obtain rfl : closed = true := h
  cases c <;> rfl

namespace Rows

variable {t : Rows}

theorem rests (h : t.closed = true) (c : Call) (now : Instant) : (Store.call c now t).2 = t := by
  obtain ⟨rows, closed⟩ := t
  obtain rfl : closed = true := h
  cases c <;> rfl

/-- A call that is forestalled is not answered, whether or not the table is closed. -/
theorem call_of_forestalled {c : Call} {now : Instant} {stop : Stop StorageError}
    (h : Forestalled now c stop) : (Store.call c now t).1 = .error stop := by
  cases h with
  | cursor hne hno =>
      rename_i filter raw limit
      show t.list filter (some raw) limit = _
      simp only [list, Page.start?_eq_error_iff.2 ⟨raw, rfl, hne, hno, rfl⟩]
      rfl
  | count hfar =>
      rename_i subject hours
      show t.countRecent now subject hours = _
      simp only [countRecent, Instant.minusHours?_eq_none_iff.2 hfar]

/-- **What a closed table answers**: it refuses whatever it is asked, unless the call is forestalled. -/
theorem call_closed (h : t.closed = true) {c : Call} {now : Instant}
    (hno : ∀ stop, ¬Forestalled now c stop) : (Store.call c now t).1 = c.whenClosed := by
  obtain ⟨rows, closed⟩ := t
  obtain rfl : closed = true := h
  cases c with
  | list filter cursor limit =>
      show list _ filter cursor limit = _
      cases hstart : Page.start? cursor with
      | ok start => simp only [list, hstart, if_true, whenClosed]
      | error e =>
          obtain ⟨raw, rfl, hne, hparse, -⟩ := Page.start?_eq_error_iff.1 hstart
          exact absurd (.cursor hne hparse) (hno _)
  | countRecent subject hours =>
      show countRecent _ now subject hours = _
      cases hsince : now.minusHours? hours with
      | some since => simp only [countRecent, hsince, if_true, whenClosed]
      | none => exact absurd (.count (Instant.minusHours?_eq_none_iff.1 hsince)) (hno .crashed)
  | getById | getVersion | create | update | commit | close => rfl

theorem call_list_closed (h : t.closed = true) (filter : Filter) (limit : Nat) (now : Instant) :
    Store.call (.list filter none limit) now t = (refuseClosed, t) :=
  Prod.ext (call_closed h (by rintro stop ⟨⟩)) (rests h _ now)

end Rows

/-- **What is answered after a store was closed**, whatever it kept and whatever else it was asked since.
It was closed, and stays as it was then.  A list answers as a closed store is to answer; so does a table
exactly if the call is not forestalled, and else it tells why it is. -/
theorem closing (now : Instant) (calls : List (Instant × Call)) (now' : Instant) (c : Call) :
    (∀ m : Memory,
      let s := led (Store.call .close now m).2 calls
      (Store.call .close now m).1 = .ok () ∧ s = { m with closed := true } ∧
      Store.call c now' s = (c.whenClosed, s)) ∧
    ∀ t : Rows,
      let s := led (Store.call .close now t).2 calls
      (Store.call .close now t).1 = .ok () ∧ s = { t with closed := true } ∧
      (Store.call c now' s).2 = s ∧
      (∀ stop, Forestalled now' c stop → (Store.call c now' s).1 = .error stop) ∧
      ((Store.call c now' s).1 = c.whenClosed ↔ ∀ stop, ¬Forestalled now' c stop) := by
  constructor
  · intro m
    have hled : led (Store.call .close now m).2 calls = { m with closed := true } :=
      led_eq_of_rests (s := { m with closed := true })
        (fun c now => congrArg Prod.snd (Memory.call_closed rfl c now)) calls
    rw [hled]
    exact ⟨rfl, rfl, Memory.call_closed rfl c now'⟩
  · intro t
    have hled : led (Store.call .close now t).2 calls = { t with closed := true } :=
      led_eq_of_rests (s := { t with closed := true }) (fun c now => Rows.rests rfl c now) calls
    rw [hled]
    refine ⟨rfl, rfl, Rows.rests rfl c now', fun stop h => Rows.call_of_forestalled h, ?_, ?_⟩
    · intro h stop hstop
      exact hstop.ne_whenClosed ((Rows.call_of_forestalled hstop).symm.trans h)
    · exact Rows.call_closed rfl

/-- A closed table refuses a listing from the beginning and a count of no hours, but a listing behind a
text that is no cursor is refused for the text. -/
theorem closing_none :
    let s := led (Store.call .close .epoch ({} : Rows)).2 [(.epoch, .getById ⟨1⟩)]
    (Store.call (.list {} none 1) .epoch s).1 = refuseClosed ∧
    (Store.call (.countRecent "alice" 0) .epoch s).1 = refuseClosed ∧
    (Store.call (.list {} (some "!!") 1) .epoch s).1 = refuse (.invalidCursor "!!") := by
  have hclosing := fun c => (closing .epoch [(.epoch, .getById ⟨1⟩)] .epoch c).2 {}
  obtain ⟨-, -, -, -, hlist⟩ := hclosing (.list {} none 1)
  obtain ⟨-, -, -, -, hcount⟩ := hclosing (.countRecent "alice" 0)
  obtain ⟨-, -, -, hcursor, -⟩ := hclosing (.list {} (some "!!") 1)
  refine ⟨hlist.2 ?_, hcount.2 ?_, hcursor _ (.cursor (by decide) (by decide))⟩
  · rintro stop ⟨⟩
  · rintro stop (_ | hfar)
    exact hfar (by decide)

/-- **A closed table may answer something else**: it refuses a text that is no cursor for that text, and
does not get as far as an answer when it is to count hours that lead back too far. -/
theorem exists_closed_unrefused :
    let s := (Store.call .close .epoch ({} : Rows)).2
    (Store.call .close .epoch ({} : Rows)).1 = .ok () ∧
    (Store.call (.list {} (some "!!") 1) .epoch s).1 ≠ refuseClosed ∧
    (Store.call (.countRecent "alice" 0xffffffff) .epoch s).1 ≠ refuseClosed := by
  have hcursor : Forestalled .epoch (.list {} (some "!!") 1) (.failed (.invalidCursor "!!")) :=
    .cursor (by decide) (by decide)
  have hcount : Forestalled .epoch (.countRecent "alice" 0xffffffff) .crashed := .count (by decide)
  refine ⟨rfl, ?_, ?_⟩
  · rw [Rows.call_of_forestalled hcursor]
    exact hcursor.ne_whenClosed
  · rw [Rows.call_of_forestalled hcount]
    exact hcount.ne_whenClosed

end Storage

end ManifestRegistry
