/-
**What an update leaves to be read.**

Whoever has put a record in place of a stored version asks for that version and expects the record.  A list
has the record itself.  A table keeps some columns of the row that it revises: what is read afterwards is
what the new document says, and the publisher who was there before.  So an update by somebody else is not
read back, although it is answered with the new publisher.

Main definitions:

* `Record.Legible` — a record that its own document tells, but for who published it;
* `Storage.readBack` — what is read of a version once a record has been put in its place.

Main results:

* `Record.legible_iff` — **a record is legible exactly if it is dated and its bag is read back as it is**;
* `Storage.Row.record?_eq_iff` — when a row is read as the record whose document it has;
* `Storage.Rows.find?_reviseAll` — where the row of a version stood, it stands revised;
* `Storage.readBack_update` — **when an update is read back**.
-/

import ManifestRegistry.Proofs.Records.Settled
import ManifestRegistry.Proofs.Storage.Closing

set_option relaxedAutoImplicit false
set_option autoImplicit false

namespace ManifestRegistry

/-! ### Documents that tell all -/

namespace Record

theorem decodeText_eq (r : Record) : Shape.decodeText Record.shape r.text =
    r.bag.reread.map fun bag =>
      { manifest := r.manifest, registration := r.registration.settled, bag } := by
  rw [← r.text_settled]
  exact decodeText_text r.isDated_settled

/-- A record that its own document tells, but for who published it. -/
def Legible (r : Record) : Prop :=
  Shape.decodeText Record.shape r.text = .ok { r with publishedBy := none }

/-- **A record is legible exactly if it is dated and its bag is read back as it is.** -/
theorem legible_iff {r : Record} : r.Legible ↔ r.IsDated ∧ r.bag.reread = .ok r.bag := by
  rw [Legible, decodeText_eq]
  cases hbag : r.bag.reread with
  | error fault => simp [Except.map]
  | ok bag =>
      simp only [Except.map, Except.ok.injEq, mk.injEq, true_and, and_true]
      refine and_congr_left fun _ => ⟨fun h => ?_, Registration.settled_of_isDated⟩
      have hdated := r.registration.isDated_settled
      rwa [h] at hdated

end Record

namespace Storage

/-! ### What is read of a revised row -/

namespace Row

variable {row : Row} {r : Record}

theorem record?_of_legible (hdoc : row.document = r.text) (h : r.Legible) :
    row.record? = .ok { r with publishedBy := row.publishedBy } := by
  rw [record?, hdoc, h]

/-- A row is read as the record whose document it has exactly if the record is legible and its publisher
is the row's. -/
theorem record?_eq_iff (hdoc : row.document = r.text) :
    row.record? = .ok r ↔ r.Legible ∧ row.publishedBy = r.publishedBy := by
  constructor
  · intro h
    rw [record?_of_document hdoc] at h
    cases hbag : r.bag.reread with
    | error fault =>
        rw [hbag] at h
        cases h
    | ok bag =>
        rw [hbag] at h
        have hr : { r.settled with bag, publishedBy := row.publishedBy } = r := Except.ok.inj h
        have hdated : r.IsDated := hr ▸ r.isDated_settled
        have hsame : bag = r.bag := congrArg Record.bag hr
        exact ⟨Record.legible_iff.2 ⟨hdated, hsame ▸ hbag⟩, congrArg Record.publishedBy hr⟩
  · rintro ⟨h, hby⟩
    rw [record?_of_legible hdoc h, hby]

end Row

namespace Rows

variable {rows rows' : List Row} {record : Record} {id : Uuid}

/-- Where the row of a version stood, it stands revised. -/
theorem find?_reviseAll (h : reviseAll id record [] rows = .ok rows') :
    rows'.find? (fun row => row.isVersion id record.version) =
      (rows.find? fun row => row.isVersion id record.version).map (revise record) := by
  have hkeeps : (fun row => row.isVersion id record.version) ∘
      (fun row => if row.isVersion id record.version then revise record row else row) =
        fun row : Row => row.isVersion id record.version := by
    funext row
    simp only [Function.comp_apply]
    split <;> rfl
  rw [reviseAll_eq_ok h, List.nil_append, List.find?_map, hkeeps]
  cases hfind : rows.find? fun row => row.isVersion id record.version with
  | none => rfl
  | some row =>
      have hv : row.isVersion id record.version = true := by simpa using List.find?_some hfind
      rw [Option.map_some, Option.map_some, if_pos hv]

end Rows

/-! ### Updates read back -/

/-- What is read of a version once a record has been put in its place. -/
def readBack {σ : Type} [Store σ] (now now' : Instant) (r : Record) (s : σ) : Reply (Option Record) :=
  (Store.call (.getVersion r.id r.version) now' (Store.call (.update r.id r) now s).2).1

variable {now now' : Instant} {r a : Record}

namespace Memory

theorem isOpen_of_update {m : Memory} (h : (Store.call (.update r.id r) now m).1 = .ok a) :
    m.closed = false := by
  refine Bool.eq_false_iff.2 fun hclosed => ?_
  rw [call_closed hclosed] at h
  cases h

/-- **What a list has put in place of a version is what it finds.** -/
theorem readBack_eq {m : Memory} (h : (Store.call (.update r.id r) now m).1 = .ok a) :
    readBack now now' r m = .ok (some r) := by
  obtain ⟨-, rs', ⟨i, hplace, rfl⟩, hleft⟩ := (whole_perform now m (.update r.id r)).all a h
  obtain ⟨hi, -, hbefore⟩ := List.findIdx?_eq_some_iff_getElem.1 hplace
  -- what stands before the place is not the version
  have hfind : (m.records.set i r).find? (fun x => x.isVersion r.id r.version) = some r := by
    refine List.find?_eq_some_iff_getElem.2 ⟨Record.isVersion_iff.2 ⟨rfl, rfl⟩, i, ?_, ?_, ?_⟩
    · rwa [List.length_set]
    · exact List.getElem_set_self _
    · intro j hj
      rw [List.getElem_set_ne (Nat.ne_of_gt hj)]
      simpa using hbefore j hj
  have hcall : (Store.call (.update r.id r) now m).2 = { m with records := m.records.set i r } := hleft
  rw [readBack, hcall]
  show getVersion _ r.id r.version = _
  simp only [getVersion, isOpen_of_update h, hfind, Bool.false_eq_true, if_false]

end Memory

namespace Rows

theorem isOpen_of_update {t : Rows} (h : (Store.call (.update r.id r) now t).1 = .ok a) :
    t.closed = false := by
  refine Bool.eq_false_iff.2 fun hclosed => ?_
  rw [call_closed hclosed (by rintro stop ⟨⟩)] at h
  cases h

/-- What an answered update has left of a table: its rows revised, one of which is the version. -/
theorem revised_of_update {t : Rows} (h : (Store.call (.update r.id r) now t).1 = .ok a) :
    ∃ row rows', t.rows.find? (fun row => row.isVersion r.id r.version) = some row ∧
      reviseAll r.id r [] t.rows = .ok rows' ∧
      (Store.call (.update r.id r) now t).2 = { t with rows := rows' } := by
  have hopen := isOpen_of_update h
  simp only [Store.call, update, hopen, Bool.false_eq_true, if_false] at h ⊢
  split at h
  · rename_i hany
    obtain ⟨row, hfind⟩ := Option.isSome_iff_exists.1 (List.find?_isSome.2 (List.any_eq_true.1 hany))
    cases hrev : reviseAll r.id r [] t.rows with
    | error e =>
        rw [hrev] at h
        cases h
    | ok rows' => exact ⟨row, rows', hfind, rfl, by simp only [hany, if_true, write, hopen]⟩
  · cases h

theorem answer_eq_ok {row : Row} : answer (some row) = .ok (some r) ↔ row.record? = .ok r := by
  rw [answer, Option.map_some]
  cases row.record? <;> simp [refuse]

/-- **What a table is asked for after an update is read of the row that was revised.** -/
theorem readBack_eq {t : Rows} (now' : Instant) (h : (Store.call (.update r.id r) now t).1 = .ok a) :
    ∃ row, t.rows.find? (fun row => row.isVersion r.id r.version) = some row ∧
      readBack now now' r t = answer (some (revise r row)) := by
  obtain ⟨row, rows', hfind, hrev, hleft⟩ := revised_of_update h
  refine ⟨row, hfind, ?_⟩
  have hfound := find?_reviseAll hrev
  rw [hfind] at hfound
  rw [readBack, hleft]
  show getVersion _ r.id r.version = _
  simp only [getVersion, isOpen_of_update h, hfound, Bool.false_eq_true, if_false, Option.map_some]

end Rows

/-- **When an update is read back.**  A list finds what has been put in place of a version, whatever it
is.  A table reads it with the publisher that the row has had before, provided that the record is legible;
so it is read back exactly if, besides, the publisher is the same. -/
theorem readBack_update (now now' : Instant) (r : Record) :
    (∀ (m : Memory) (a : Record), (Store.call (.update r.id r) now m).1 = .ok a →
      readBack now now' r m = .ok (some r)) ∧
    ∀ (t : Rows) (a : Record), (Store.call (.update r.id r) now t).1 = .ok a →
      ∃ row, t.rows.find? (fun row => row.isVersion r.id r.version) = some row ∧
        (r.Legible → readBack now now' r t = .ok (some { r with publishedBy := row.publishedBy })) ∧
        (readBack now now' r t = .ok (some r) ↔ r.Legible ∧ row.publishedBy = r.publishedBy) := by
  have hdoc : ∀ row, (Rows.revise r row).document = r.text := fun _ => rfl
  refine ⟨fun m a h => Memory.readBack_eq h, fun t a h => ?_⟩
  obtain ⟨row, hfind, hread⟩ := Rows.readBack_eq now' h
  refine ⟨row, hfind, fun hr => ?_, ?_⟩
  · rw [hread]
    exact Rows.answer_eq_ok.2 (Row.record?_of_legible (hdoc row) hr)
  · rw [hread, Rows.answer_eq_ok]
    exact Row.record?_eq_iff (hdoc row)

open Write

/-- The first version with a description. -/
def described : Record :=
  { first with manifest := { first.manifest with description := "described" } }

/-- A description is read back of both stores. -/
theorem readBack_update_described :
    (Store.call (.update described.id described) .epoch (⟨[first], false⟩ : Memory)).1 = .ok described ∧
    readBack .epoch .epoch described (⟨[first], false⟩ : Memory) = .ok (some described) ∧
    (Store.call (.update described.id described) .epoch (⟨[Row.ofRecord first], false⟩ : Rows)).1 =
      .ok described ∧
    readBack .epoch .epoch described (⟨[Row.ofRecord first], false⟩ : Rows) = .ok (some described) := by
  obtain ⟨hlist, htable⟩ := readBack_update .epoch .epoch described
  have hlegible : described.Legible :=
    Record.legible_iff.2 ⟨Registration.isDated_new (by decide), rfl⟩
  have hrows : (Store.call (.update described.id described) .epoch
      (⟨[Row.ofRecord first], false⟩ : Rows)).1 = .ok described := rfl
  obtain ⟨row, hrow, -, hiff⟩ := htable _ _ hrows
  obtain rfl : Row.ofRecord first = row := Option.some_inj.1 hrow
  exact ⟨rfl, hlist _ described rfl, hrows, hiff.2 ⟨hlegible, rfl⟩⟩

/-- The first version, published by somebody. -/
def firstBy (subject : String) : Record := { first with publishedBy := some subject }

/-- **A publisher who has been put in place is not read back**: the table, in which every identity has one
name, answers an update of a version that it has with the new publisher, and shows the old one. -/
theorem exists_publisher_kept :
    let t := led ({} : Rows) [(.epoch, .create (firstBy "alice"))]
    let r := firstBy "bob"
    (∀ a ∈ t.rows, ∀ b ∈ t.rows, a.id = b.id → a.name = b.name) ∧
    (∃ row ∈ t.rows, row.name = r.name ∧ row.id = r.id) ∧ r.Legible ∧
    (Store.call (.update r.id r) .epoch t).1 = .ok r ∧
    readBack .epoch .epoch r t = .ok (some (firstBy "alice")) ∧ firstBy "alice" ≠ r := by
  have hdated : (firstBy "alice").IsDated := Registration.isDated_new (by decide)
  have hread : (Rows.revise (firstBy "bob") (Row.ofRecord (firstBy "alice"))).record? =
      .ok (firstBy "alice") := Row.record?_of_text rfl hdated
  have hupdate : (Store.call (.update (firstBy "bob").id (firstBy "bob")) .epoch
      (⟨[Row.ofRecord (firstBy "alice")], false⟩ : Rows)).1 = .ok (firstBy "bob") := rfl
  obtain ⟨row, hrow, hanswer⟩ := Rows.readBack_eq .epoch hupdate
  obtain rfl : Row.ofRecord (firstBy "alice") = row := Option.some_inj.1 hrow
  refine ⟨?_, ⟨_, List.mem_cons_self, rfl, rfl⟩, ?_, hupdate, ?_, ?_⟩
  · intro a ha b hb _
    rw [List.mem_singleton.1 ha, List.mem_singleton.1 hb]
  · exact Record.legible_iff.2 ⟨hdated, rfl⟩
  · exact hanswer.trans (Rows.answer_eq_ok.2 hread)
  · intro hsame
    have hby := congrArg Record.publishedBy hsame
    simp [firstBy] at hby

end Storage

end ManifestRegistry
