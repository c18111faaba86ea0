/-
**What a store counts.**

Who asks how often a subject has published in the last hours is told a number, unless there is no instant
that many hours ago: then neither store comes to an answer, although all that is stored is later.  A list
counts its records.  A table compares stamps as texts, and these are in the order of time only if they have
no sign: one of the year 10000 is before all others, and among those before the year 0 the order is turned
round.  Nor does a table look at its documents, so it does not notice if one of them is replaced by one that
tells of another publication.

Main definitions:

* `Storage.publishedWithin` — **how often a subject has published in the last hours**;
* `Storage.Row.Keeps` — a row with the document of a record, and the record's publication in its columns;
* `Storage.Rows.Punctual` — a write that replaces documents only by those of the same publication.

Main results:

* `Storage.Memory.countRecent_eq` — what a list answers;
* `Storage.Rows.count_iff` — **a table counts right exactly if no year has a sign**;
* `Storage.Rows.exists_kept` — punctual writes leave rows that keep records;
* `Storage.count_written` — **what both stores answer after any writes**.
-/

import ManifestRegistry.Proofs.Instant.Windows
import ManifestRegistry.Proofs.Storage.Replacing

set_option relaxedAutoImplicit false
set_option autoImplicit false

namespace ManifestRegistry

namespace Storage

/-! ### What is to be counted -/

/-- How often a subject has published in the last hours. -/
def publishedWithin (now : Instant) (hours : Nat) (subject : String) (rs : List Record) : Nat :=
  rs.countP fun r => r.publishedBy = some subject ∧ now.Within hours r.publishedAt

variable {now since : Instant} {hours : Nat} {subject : String}

/-- It is as many as the records that the list counts, if there is an instant that many hours ago. -/
theorem publishedWithin_eq (h : now.minusHours? hours = some since) (rs : List Record) :
    publishedWithin now hours subject rs = rs.countP (Memory.countsFor subject since) := by
  refine List.countP_congr fun r _ => ?_
  simp [Memory.countsFor, Instant.Within, h]

/-- **What a list answers.** -/
theorem Memory.countRecent_eq {m : Memory} (hopen : m.closed = false) :
    (Store.call (.countRecent subject hours) now m).1 =
      if now.Reaches hours then .ok (publishedWithin now hours subject m.records)
      else .error .crashed := by
  show countRecent m now subject hours = _
  simp only [countRecent, hopen, Bool.false_eq_true, if_false]
  cases hsince : now.minusHours? hours with
  | none => rw [if_neg (Instant.minusHours?_eq_none_iff.1 hsince)]
  | some since =>
      rw [if_pos (Instant.exists_minusHours_iff.1 ⟨since, hsince⟩), publishedWithin_eq hsince]

/-! ### What stamps tell -/

/-- Two tests one of which implies the other pass as often as each other only if they pass together. -/
theorem of_countP_eq {α : Type} {as : List α} {p q : α → Bool}
    (hle : ∀ a ∈ as, p a = true → q a = true) (heq : as.countP p = as.countP q) {a : α} (ha : a ∈ as)
    (hq : q a = true) : p a = true := by
  have hall : (as.filter q).countP p = (as.filter q).length := by
    rw [List.countP_filter, ← List.countP_eq_length_filter, ← heq]
    exact List.countP_congr fun a ha => by simpa using hle a ha
  exact List.countP_eq_length.1 hall a (List.mem_filter.2 ⟨ha, hq⟩)

/-- Stamps tell how many of some records a subject has published since an instant. -/
def ToldByStamps (subject : String) (since : Instant) (rs : List Record) : Prop :=
  rs.countP (fun r => Rows.countsFor subject since.stamp (Row.ofRecord r)) =
    rs.countP (Memory.countsFor subject since)

variable {rs : List Record} {r : Record}

theorem countsFor_ofRecord_iff : Rows.countsFor subject since.stamp (Row.ofRecord r) = true ↔
    r.publishedBy = some subject ∧ Text.order r.publishedAt.stampChars since.stampChars ≠ .lt := by
  show (decide (r.publishedBy = some subject) &&
    !Text.before r.publishedAt.stamp since.stamp) = true ↔ _
  simp only [Text.before, Instant.stamp, String.toList_ofList, Bool.and_eq_true, decide_eq_true_eq,
    Bool.not_eq_true', decide_eq_false_iff_not, ne_eq]

theorem countsFor_iff : Memory.countsFor subject since r = true ↔
    r.publishedBy = some subject ∧ r.publishedAt.order since ≠ .lt := by
  simp [Memory.countsFor, Instant.before]

/-- Stamps without signs tell the truth about each other, and about those before the year 0. -/
theorem toldByStamps_of_inEra (hdated : ∀ r ∈ rs, r.IsDated)
    (hera : ∀ r ∈ rs, r.publishedBy = some subject → r.publishedAt.InEra) (hread : since.IsReading)
    (hyear : since.year ≤ 9999) : ToldByStamps subject since rs := by
  refine List.countP_congr fun r hr => ?_
  by_cases hby : r.publishedBy = some subject
  · rw [Rows.countsFor_ofRecord (hdated r hr) (hera r hr hby) hread hyear]
  · rw [countsFor_ofRecord_iff, countsFor_iff]
    exact iff_of_false (fun h => hby h.1) fun h => hby h.1

/-- Since an instant without a sign, stamps do not count what comes after the year 9999. -/
theorem ToldByStamps.year_le (h : ToldByStamps subject since rs) (hdated : ∀ r ∈ rs, r.IsDated)
    (hread : since.IsReading) (hera : since.InEra) (hr : r ∈ rs) (hby : r.publishedBy = some subject) :
    r.publishedAt.year ≤ 9999 := by
  refine Int.not_lt.1 fun hfar => ?_
  have hsigned : ¬r.publishedAt.InEra := fun h => absurd h.2 (by omega)
  have hlater := Instant.order_of_year_lt (Int.lt_of_le_of_lt hera.2 hfar)
  have hcounted := of_countP_eq ?_ h hr (countsFor_iff.2 ⟨hby, hlater.2⟩)
  · exact (countsFor_ofRecord_iff.1 hcounted).2 (Instant.order_stampChars_of_signed hsigned hera).1
  · -- what stamps count has no sign
    intro s hs hcounts
    obtain ⟨hsby, hstamp⟩ := countsFor_ofRecord_iff.1 hcounts
    have hsera : s.publishedAt.InEra := Classical.not_not.1 fun hno =>
      hstamp (Instant.order_stampChars_of_signed hno hera).1
    rwa [Rows.countsFor_ofRecord (hdated s hs) hsera hread hera.2] at hcounts

/-- Since the first year that there is, stamps do not count the last year before the year 0. -/
theorem ToldByStamps.year_ne (h : ToldByStamps subject since rs) (hyear : since.year = -262143)
    (hfirst : ∀ i : Instant, i.order since ≠ .lt) (hr : r ∈ rs) (hby : r.publishedBy = some subject) :
    r.publishedAt.year ≠ -1 := by
  intro hlast
  have hcounted := of_countP_eq ?_ h hr (countsFor_iff.2 ⟨hby, hfirst _⟩)
  · exact (countsFor_ofRecord_iff.1 hcounted).2 (Instant.order_stampChars_last_first hlast hyear)
  · exact fun s _ hcounts => countsFor_iff.2 ⟨(countsFor_ofRecord_iff.1 hcounts).1, hfirst _⟩

/-- Since the last year before the year 0, stamps count all years before it. -/
theorem ToldByStamps.year_nonneg (h : ToldByStamps subject since rs) (hyear : since.year = -1)
    (hmost : ∀ r ∈ rs, r.publishedBy = some subject → r.publishedAt.year ≤ 9999 ∧ r.publishedAt.year ≠ -1)
    (hr : r ∈ rs) (hby : r.publishedBy = some subject) : 0 ≤ r.publishedAt.year := by
  refine Int.not_lt.1 fun hneg => ?_
  have hearly : r.publishedAt.year < -1 := by
    have hne := (hmost r hr hby).2
    omega
  have hstamp : Rows.countsFor subject since.stamp (Row.ofRecord r) = true := by
    rw [countsFor_ofRecord_iff, Instant.order_stampChars_of_earlier hearly hyear]
    exact ⟨hby, by decide⟩
  have hcounted := of_countP_eq ?_ h.symm hr hstamp
  · exact (countsFor_iff.1 hcounted).2 (Instant.order_of_year_lt (by omega)).1
  · -- what is not before that year and not in it is in the era
    intro s hs hcounts
    obtain ⟨hsby, hsafter⟩ := countsFor_iff.1 hcounts
    obtain ⟨hhigh, hne⟩ := hmost s hs hsby
    have hlow : ¬s.publishedAt.year < since.year := fun hlt =>
      hsafter (Instant.order_of_year_lt hlt).1
    rw [hyear] at hlow
    have hsera : s.publishedAt.InEra := ⟨by omega, hhigh⟩
    refine countsFor_ofRecord_iff.2 ⟨hsby, ?_⟩
    exact (Instant.order_stampChars_of_signed (fun h => absurd h.1 (by omega)) hsera).2

/-! ### Rows and the records that they keep -/

/-- A row with the document of a dated record, and the record's publication in its columns. -/
structure Row.Keeps (row : Row) (r : Record) : Prop where
  document : row.document = r.text
  publishedBy : row.publishedBy = r.publishedBy
  publishedAt : row.publishedAt = r.publishedAt.stamp
  dated : r.IsDated

/-- The document of any record may be that of a dated one that the row's columns belong to. -/
theorem Row.keeps_of_document {row : Row} {p : Record} (hdoc : row.document = p.text)
    (hat : row.publishedAt = p.publishedAt.stamp) :
    row.Keeps { p.settled with publishedBy := row.publishedBy } where
  document := hdoc.trans p.text_settled.symm
  publishedBy := rfl
  publishedAt := hat.trans p.publishedAt.stamp_settled.symm
  dated := p.isDated_settled

/-- A row counts as that of the record does that it keeps. -/
theorem Row.Keeps.countsFor_eq {row : Row} (h : row.Keeps r) : Rows.countsFor subject since.stamp row =
    Rows.countsFor subject since.stamp (ofRecord r) := by
  rw [Rows.countsFor, h.publishedBy, h.publishedAt]
  rfl

namespace Rows

theorem countP_of_keeps {rows : List Row} {stored : List Record}
    (h : List.Forall₂ Row.Keeps rows stored) : rows.countP (countsFor subject since.stamp) =
      stored.countP fun r => countsFor subject since.stamp (Row.ofRecord r) := by
  induction h with
  | nil => rfl
  | cons hrow _ ih => rw [List.countP_cons, List.countP_cons, ih, hrow.countsFor_eq]

theorem isDated_of_keeps {rows : List Row} {stored : List Record}
    (h : List.Forall₂ Row.Keeps rows stored) : ∀ r ∈ stored, r.IsDated := by
  induction h with
  | nil => exact fun r hr => absurd hr List.not_mem_nil
  | cons hrow _ ih =>
      intro r hr
      rcases List.mem_cons.1 hr with rfl | hr
      · exact hrow.dated
      · exact ih r hr

theorem countRecent_of_far (t : Rows) (h : ¬now.Reaches hours) :
    (Store.call (.countRecent subject hours) now t).1 = .error .crashed := by
  show countRecent t now subject hours = _
  simp only [countRecent, Instant.minusHours?_eq_none_iff.2 h]

/-- A table counts right if stamps tell the truth. -/
theorem countRecent_eq_iff {t : Rows} (hopen : t.closed = false) {stored : List Record}
    (hkeeps : List.Forall₂ Row.Keeps t.rows stored) (hsince : now.minusHours? hours = some since) :
    (Store.call (.countRecent subject hours) now t).1 =
      .ok (publishedWithin now hours subject stored) ↔ ToldByStamps subject since stored := by
  show countRecent t now subject hours = _ ↔ _
  simp only [countRecent, hsince, hopen, Bool.false_eq_true, if_false, publishedWithin_eq hsince,
    countP_of_keeps hkeeps, Except.ok.injEq]
  rfl

/-- **A table counts right exactly if no year has a sign**: whatever instant of the era it is, and however
many hours are asked for of those that there are instants ago. -/
theorem count_iff {t : Rows} (hopen : t.closed = false) {stored : List Record}
    (hkeeps : List.Forall₂ Row.Keeps t.rows stored) (subject : String) :
    (∀ now : Instant, now.InEra → now.IsReading → ∀ hours ≤ 0xffffffff, now.Reaches hours →
      (Store.call (.countRecent subject hours) now t).1 =
        .ok (publishedWithin now hours subject stored)) ↔
    ∀ r ∈ stored, r.publishedBy = some subject → r.publishedAt.InEra := by
  have hdated := isDated_of_keeps hkeeps
  constructor
  · intro hcounts
    have htold : ∀ hours since, hours ≤ 0xffffffff → Instant.epoch.minusHours? hours = some since →
        ToldByStamps subject since stored := fun hours since hmax hsince =>
      (countRecent_eq_iff hopen hkeeps hsince).1 (hcounts .epoch (by decide) (by decide) hours hmax
        (Instant.exists_minusHours_iff.1 ⟨since, hsince⟩))
    -- the stamps of late years are told from one without a sign, those of early years from two with one
    have hnow := htold 0 .epoch (by decide) rfl
    have hfirst := htold 2315167008 .earliest (by decide) (by decide)
    have hlast := htold 17277432 .lastBeforeEra (by decide) (by decide)
    have hmost : ∀ r ∈ stored, r.publishedBy = some subject →
        r.publishedAt.year ≤ 9999 ∧ r.publishedAt.year ≠ -1 := fun r hr hby =>
      ⟨hnow.year_le hdated (by decide) (by decide) hr hby,
        hfirst.year_ne (by decide) Instant.order_earliest hr hby⟩
    exact fun r hr hby => ⟨hlast.year_nonneg (by decide) hmost hr hby, (hmost r hr hby).1⟩
  · intro hera now hnow hread hours _ hreach
    obtain ⟨since, hsince⟩ := Instant.exists_minusHours_iff.2 hreach
    exact (countRecent_eq_iff hopen hkeeps hsince).2 (toldByStamps_of_inEra hdated hera
      (Instant.isReading_minusHours hsince hread)
      (Int.le_trans (Instant.year_minusHours_le hsince) hnow.2))

end Rows

/-! ### Writes that keep publications -/

/-- The record whose document is put in place of that of a row if a write goes through. -/
def Write.replacing? (row : Row) : Write → Option Record
  | .create _ => none
  | .update id record => if row.isVersion id record.version then some record else none
  | .commit _ demote => demote.filter fun p => Rows.isLatestVersion p row

namespace Rows

variable {rows : List Row} {w : Write}

/-- A write that, if it goes through, replaces documents only by those of records that were published when
the rows say. -/
def Punctual (rows : List Row) (w : Write) : Prop :=
  ∀ rows', Changes rows w rows' → ∀ row ∈ rows, ∀ p, w.replacing? row = some p →
    row.publishedAt = p.publishedAt.stamp

/-- **Punctual writes leave rows that keep records.** -/
theorem keeps_perform (now : Instant) {t : Rows} (h : ∀ row ∈ t.rows, ∃ r, row.Keeps r)
    (hw : Punctual t.rows w) : ∀ row ∈ (w.perform now t).2.rows, ∃ r, row.Keeps r := by
  refine forall_perform now h fun rows' hchange row hcame => ?_
  cases hcame with
  | added record => exact ⟨_, Row.keeps_of_document rfl rfl⟩
  | kept hold => exact h row hold
  | revised hold hv =>
      exact ⟨_, Row.keeps_of_document rfl (hw rows' hchange _ hold _ (if_pos hv))⟩
  | demoted hold hl =>
      exact ⟨_, Row.keeps_of_document rfl (hw rows' hchange _ hold _ (if_pos hl))⟩

/-- Rows each of which keeps a record keep some records. -/
theorem exists_kept (h : ∀ row ∈ rows, ∃ r, row.Keeps r) :
    ∃ stored, List.Forall₂ Row.Keeps rows stored := by
  induction rows with
  | nil => exact ⟨[], .nil⟩
  | cons row rows ih =>
      obtain ⟨r, hr⟩ := h row List.mem_cons_self
      obtain ⟨stored, hstored⟩ := ih fun row hrow => h row (List.mem_cons_of_mem _ hrow)
      exact ⟨r :: stored, .cons hr hstored⟩

end Rows

/-- **What both stores answer after any writes** when they are asked how often a subject has published in
the last hours.  If there is no instant that many hours ago, neither comes to an answer; else a list counts
right.  A table whose rows keep some records, as they do after punctual writes, counts right exactly if none
of those that the subject has published has a year with a sign. -/
theorem count_written (now : Instant) (ws : List Write) :
    let m := Write.fill now ({} : Memory) ws
    let t := Write.fill now ({} : Rows) ws
    (∀ now subject hours, (Store.call (.countRecent subject hours) now m).1 =
      if now.Reaches hours then .ok (publishedWithin now hours subject m.records)
      else .error .crashed) ∧
    (∀ now subject hours, ¬now.Reaches hours →
      (Store.call (.countRecent subject hours) now t).1 = .error .crashed) ∧
    ((∀ ws' w, ws' ++ [w] <+: ws → Rows.Punctual (Write.fill now ({} : Rows) ws').rows w) →
      ∃ stored, List.Forall₂ Row.Keeps t.rows stored) ∧
    ∀ stored, List.Forall₂ Row.Keeps t.rows stored → ∀ subject,
      ((∀ now : Instant, now.InEra → now.IsReading → ∀ hours ≤ 0xffffffff, now.Reaches hours →
        (Store.call (.countRecent subject hours) now t).1 =
          .ok (publishedWithin now hours subject stored)) ↔
      ∀ r ∈ stored, r.publishedBy = some subject → r.publishedAt.InEra) := by
  refine ⟨fun _ _ _ => Memory.countRecent_eq (Write.closed_fill_list now ws),
    fun _ _ _ => Rows.countRecent_of_far _, ?_,
    fun stored hkeeps => Rows.count_iff (Write.closed_fill_table now ws) hkeeps⟩
  intro hpunctual
  refine Rows.exists_kept (Write.fill_of_prefixes (s := ({} : Rows))
    (P := fun t : Rows => ∀ row ∈ t.rows, ∃ r, row.Keeps r) (Q := fun t w => Rows.Punctual t.rows w)
    (fun row hrow => absurd hrow List.not_mem_nil) (fun t w ht hw => Rows.keeps_perform now ht hw)
    hpunctual)

open Write

/-- A version that somebody has published, and another one in whose commit it is demoted. -/
def followed (demoted : Record) : List Write :=
  [.create (firstBy "alice"), .commit second (some demoted)]

/-- The table has a row of the demoted version, which says who published it when, and one of the other. -/
theorem rows_followed {p : Record} (h : Rows.isLatestVersion p (Row.ofRecord (firstBy "alice")) = true) :
    (fill .epoch ({} : Rows) (followed p)).rows =
      [Rows.demoteRow p (Row.ofRecord (firstBy "alice")), Row.ofRecord second] := by
  have hdemoted : Rows.demoted [Row.ofRecord (firstBy "alice")] (some p) =
      .ok [Rows.demoteRow p (Row.ofRecord (firstBy "alice"))] := by
    simp [Rows.demoted, Rows.demote, h]
  have hcommitted : Rows.committed [Row.ofRecord (firstBy "alice")] second (some p) =
      .ok [Rows.demoteRow p (Row.ofRecord (firstBy "alice")), Row.ofRecord second] :=
    Rows.committed_eq_ok.2 ⟨fun owner howner => by cases howner; rfl, _, hdemoted, rfl⟩
  show (Rows.write _ second (Rows.committed [Row.ofRecord (firstBy "alice")] second
    (some p))).2.rows = _
  rw [hcommitted]
  rfl

/-- Both stores count a version that was demoted as is due, and none if the hours lead back too far. -/
theorem count_written_followed :
    let ws := followed ((firstBy "alice").demoted .epoch)
    (∃ stored, List.Forall₂ Row.Keeps (fill .epoch ({} : Rows) ws).rows stored) ∧
    (Store.call (.countRecent "alice" 24) .epoch (fill .epoch ({} : Memory) ws)).1 = .ok 1 ∧
    (Store.call (.countRecent "alice" 24) .epoch (fill .epoch ({} : Rows) ws)).1 = .ok 1 ∧
    (Store.call (.countRecent "alice" 0xffffffff) .epoch (fill .epoch ({} : Rows) ws)).1 =
      .error .crashed := by
  intro ws
  obtain ⟨hlist, hfar, hkept, htable⟩ := count_written .epoch ws
  have hdated : (firstBy "alice").IsDated := Registration.isDated_new (by decide)
  have hkeeps : List.Forall₂ Row.Keeps (fill .epoch ({} : Rows) ws).rows
      [(firstBy "alice").demoted .epoch, second] := by
    rw [rows_followed rfl]
    exact .cons ⟨rfl, rfl, rfl, hdated.demoted (by decide)⟩
      (.cons ⟨rfl, rfl, rfl, Rows.isDated_second⟩ .nil)
  refine ⟨hkept ?_, (hlist .epoch "alice" 24).trans (if_pos (by decide)), ?_,
    hfar .epoch "alice" 0xffffffff (by decide)⟩
  · intro ws' w hw
    rcases Rows.prefix_cons_iff.1 hw with ⟨rfl, rfl⟩ | ⟨ws₁, rfl, hw₁⟩
    · exact fun _ _ row hrow => absurd hrow List.not_mem_nil
    · rcases Rows.prefix_cons_iff.1 hw₁ with ⟨rfl, rfl⟩ | ⟨ws₂, rfl, hw₂⟩
      · intro rows' _ row hrow p hp
        obtain rfl := List.mem_singleton.1
          (show row ∈ [Row.ofRecord (firstBy "alice")] from hrow)
        obtain rfl : (firstBy "alice").demoted .epoch = p :=
          Option.some_inj.1 (show some ((firstBy "alice").demoted .epoch) = some p from hp)
        rfl
      · exact (Rows.not_prefix_nil hw₂).elim
  · refine (htable _ hkeeps "alice").2 ?_ .epoch (by decide) (by decide) 24 (by decide) (by decide)
    intro r hr _
    rcases List.mem_pair.1 hr with rfl | rfl <;> decide

/-- A version that somebody has published at some time. -/
def publishedOn (now : Instant) : Record :=
  { firstBy "alice" with registration := .new ⟨1⟩ now false }

/-- The beginning of the year 10000. -/
def farYear : Instant := (Instant.ofParts? (Calendar.yearStart 10000 * 86400) 0).getD .epoch

/-- An hour after the beginning of 1970. -/
def hourLater : Instant := (Instant.ofParts? 3600 0).getD .epoch

/-- **Counts may be missing or wrong**: neither store comes to an answer about hours that lead back behind
all instants; a table does not count what was published in the year 10000, nor a version that was demoted
to one that tells of a later publication. -/
theorem exists_miscounted :
    ((Store.call (.countRecent "alice" 0xffffffff) .epoch ({} : Memory)).1 = .error .crashed ∧
      (Store.call (.countRecent "alice" 0xffffffff) .epoch ({} : Rows)).1 = .error .crashed) ∧
    (let t := fill .epoch ({} : Rows) [.create (publishedOn farYear)];
      List.Forall₂ Row.Keeps t.rows [publishedOn farYear] ∧
      publishedWithin .epoch 24 "alice" [publishedOn farYear] = 1 ∧
      (Store.call (.countRecent "alice" 24) .epoch t).1 = .ok 0) ∧
    (let t := fill .epoch ({} : Rows) (followed (publishedOn hourLater));
      t.rows.map Row.record? = [.ok (publishedOn hourLater), .ok second] ∧
      publishedWithin hourLater 0 "alice" [publishedOn hourLater, second] = 1 ∧
      (Store.call (.countRecent "alice" 0) hourLater t).1 = .ok 0) := by
  have hfar : (publishedOn farYear).IsDated := Registration.isDated_new (by decide)
  have hlater : (publishedOn hourLater).IsDated := Registration.isDated_new (by decide)
  have hkeeps : List.Forall₂ Row.Keeps [Row.ofRecord (publishedOn farYear)] [publishedOn farYear] :=
    .cons ⟨rfl, rfl, rfl, hfar⟩ .nil
  refine ⟨⟨rfl, rfl⟩, ⟨hkeeps, rfl, rfl⟩, ?_, rfl, rfl⟩
  have hread : (Rows.demoteRow (publishedOn hourLater) (Row.ofRecord (firstBy "alice"))).record? =
      .ok (publishedOn hourLater) := Rows.read_of_text rfl hlater rfl rfl
  rw [rows_followed rfl, List.map_cons, List.map_singleton, hread, Rows.read_second]

end Storage

end ManifestRegistry
