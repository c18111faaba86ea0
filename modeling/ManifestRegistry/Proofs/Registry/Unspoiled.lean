/-
**When no version spoils a table.**

A table writes the document of a version however deep its bag nests, but it reads documents only as deep as
its reader goes.  A version that nests deeper is stored and answered as if nothing were wrong; from then on
no page that holds it can be read, and whoever publishes under its name is told that the store is broken.
A double may be read as a neighbour of what it was.  Nothing else spoils a table: if every bag that was
accepted is read back as it is, the table renders the records that visitors were answered, after every visit.

Main definitions:

* `Registry.Clear` — a table whose records are read as they are, with bags like those that visitors bring;
* `Registry.Unspoiled` — **visits after which everything can be read**, and that meet no broken store.

Main results:

* `Registry.Clear.sturdy` — no visitor of a clear table is told that the store is broken;
* `Registry.Clear.versions`, `Registry.Clear.renders` — what is read of a clear table;
* `Registry.unspoiled_iff` — **visits leave a table unspoiled exactly if all bags that were accepted are read
  back as they are**, which tame ones are if they do not nest too deep;
* `Registry.exists_spoiled` — a bag that does is accepted.
-/

import ManifestRegistry.Proofs.Registry.Alike
import ManifestRegistry.Proofs.Registry.Receipts
import ManifestRegistry.Proofs.Registry.Versions
import ManifestRegistry.Proofs.Service.Reasons

set_option relaxedAutoImplicit false
set_option autoImplicit false

namespace ManifestRegistry

open Service Storage

namespace Registry

section

variable {σ : Type} [PacedStore σ]

theorem chronicle_append (r : Registry σ) (us vs : List Visit) :
    r.chronicle (us ++ vs) = r.chronicle us ++ (r.serveAll us).chronicle vs := by
  induction us generalizing r with
  | nil => rfl
  | cons u us ih => exact congrArg (r.entry u :: ·) (ih (r.serve u))

theorem exists_of_mem_chronicle {r : Registry σ} {vs : List Visit} {e : Entry σ}
    (h : e ∈ r.chronicle vs) : ∃ us v, us ++ [v] <+: vs ∧ e = (r.serveAll us).entry v := by
  induction vs generalizing r with
  | nil => exact absurd h List.not_mem_nil
  | cons v vs ih =>
      rcases List.mem_cons.1 h with rfl | h
      · exact ⟨[], v, List.prefix_append _ _, rfl⟩
      · obtain ⟨us, u, hpre, rfl⟩ := ih h
        exact ⟨v :: us, u, List.cons_prefix_cons.2 ⟨rfl, hpre⟩, rfl⟩

end

variable {P : Bag → Prop} {r : Registry Rows} {rs : List Record} {past vs : List Visit} {v : Visit}
  {es : List (Entry Rows)} {record : Record}

/-! ### Clear tables -/

/-- What is known of a table after visits that bring bags with some property if each of its records is read
as it is. -/
structure Clear (P : Bag → Prop) (r : Registry Rows) (rs : List Record) (past : List Visit) : Prop where
  lasting : Lasting r.store rs past
  lossless : ∀ x ∈ rs, x.bag.Lossless
  brought : ∀ x ∈ rs, P x.bag

namespace Clear

theorem opening (config : Config) (validator : Manifest.Validator) (events : Broadcast Event) :
    Clear P ⟨config, validator, {}, events⟩ [] [] where
  lasting := lasting_opening Rows.keeps_empty
  lossless _ h := absurd h List.not_mem_nil
  brought _ h := absurd h List.not_mem_nil

section

variable (h : Clear P r rs past)
include h

theorem intact : Rows.Intact rs := Rows.intact_of_lossless h.lasting.dated h.lossless

/-- **All that is asked of a clear table is answered from its records.** -/
theorem renders : Rows.Renders r.store rs := Rows.eq_of_keeps h.lasting.keeps ▸ h.intact.renders

/-- **The versions of a name are read page by page**, up to the ceiling. -/
theorem versions (hfew : past.length ≤ Cursor.limit) (moment : Moment) (name : String) :
    (r.versions moment name).1 = named name (.ok ((rs.filter fun x => x.name = name).take
      (Publish.lookup r.config name).ceiling)) := by
  have hstore := Rows.eq_of_keeps h.lasting.keeps
  have hfits : rs.length ≤ Cursor.limit := Nat.le_trans h.lasting.few hfew
  have hlists : Catalog.Lists r.store { name := some name } (rs.filter fun x => x.name = name) := by
    rw [hstore, Rows.lists_name_iff]
    refine map_filter_of_map_eq h.intact.map_record? ?_
    intro row hrow x hx hread
    obtain ⟨y, hy, rfl⟩ := List.mem_map.1 hrow
    obtain rfl := Except.ok.inj ((h.intact y hy).symm.trans hread)
    rfl
  have hgathers : Collect.Gathers r.store false { name := some name } (rs.filter fun x => x.name = name) := by
    refine Collect.gathers_of_lists (Rows.calm ?_ ?_) hlists
    · rw [hstore]
    · rw [hstore, List.length_map]
      exact hfits
  have hsize : (rs.filter fun x => x.name = name).length ≤ Store.size r.store := by
    rw [hstore]
    exact Nat.le_trans (List.length_filter_le _ _) (Nat.le_of_eq (List.length_map _).symm)
  exact congrArg Prod.fst (versions_of_gathers hgathers hsize moment)

/-- **No visitor of a clear table is told that the store is broken.** -/
theorem sturdy (hread : ∀ i, (v.clock i).now.IsReading) {stop : Stop Failure}
    (hstop : (r.entry v).answer = .error stop) : Sturdy stop := by
  let Inv : Job → Rows → Prop := fun job s =>
    (∃ rs', Ledger.Keeps s rs' ∧ job.Course Rows v.clock rs rs') ∧ job.FailsFor Sturdy
  have hstep : ∀ (i : Nat) (job : Job) (s : Rows), Inv job s →
      Inv (job.turn (v.clock i) s).1 (job.turn (v.clock i) s).2 := by
    rintro i job s ⟨⟨rs', hk, hcourse⟩, hfails⟩
    refine ⟨hcourse.turn hk h.lasting.distinct h.lasting.dated hread i, ?_⟩
    rcases hcourse with ⟨rfl, -⟩ | ⟨hdone, -⟩
    · -- nothing has been changed, so all calls are answered from the records
      refine hfails.turn usual_sturdy ?_
      intro c stop hcall
      refine sturdy_map ?_
      rintro cause rfl
      obtain rfl := Rows.eq_of_keeps hk
      exact Rows.call_ne_backend h.intact c _ cause hcall
    · rw [Job.turn_of_isDone hdone]
      exact hfails
  obtain ⟨job, s, ⟨-, hfails⟩, haccount, -⟩ := visited_keeps hstep
    ⟨⟨rs, h.lasting.keeps, .inl ⟨rfl, Job.aware_job _⟩⟩, Job.failsFor_job usual_sturdy _⟩
  refine hfails stop ?_
  rw [← haccount]
  have hanswer : (r.account v).map Prod.fst = .error stop := by
    rw [← hstop]
    show _ = (r.visited v).1
    rw [visited_eq, concluded_fst]
  cases hchange : r.account v with
  | error stop' =>
      rw [hchange] at hanswer
      exact congrArg Except.error (Except.error.inj hanswer)
  | ok result =>
      rw [hchange] at hanswer
      cases hanswer

end

/-! ### From one visit to the next -/

section

variable (h : Clear P r rs past) (hread : ∀ i, (v.clock i).now.IsReading)
  (hnew : ∀ i, ¬Visits.Offered past (v.clock i).freshId)
include h hread hnew

theorem brought_answer (hbag : P v.demand.bag) (hanswer : (r.entry v).answer = .ok record) :
    P record.bag := by
  rcases (entry_writes h.lasting h.lossless hread hnew).2.bag record hanswer with hsame | ⟨y, hy, hsame⟩
  · exact hsame.symm.subst (motive := P) hbag
  · exact hsame.symm.subst (motive := P) (h.brought y hy)

/-- **A clear table stays clear** if the bag that it has accepted, if any, is read back as it is. -/
theorem serve (hbag : P v.demand.bag)
    (hlossless : ∀ record, (r.entry v).answer = .ok record → P record.bag → record.bag.Lossless) :
    Clear P (r.serve v) ((r.entry v).write rs) (past ++ [v]) where
  lasting := (entry_writes h.lasting h.lossless hread hnew).1
  lossless x hx := by
    rcases Entry.bag_of_mem_write hx with ⟨y, hy, hsame⟩ | hanswer
    · exact hsame.symm.subst (motive := Bag.Lossless) (h.lossless y hy)
    · exact hlossless x hanswer (h.brought_answer hread hnew hbag hanswer)
  brought x hx := by
    rcases Entry.bag_of_mem_write hx with ⟨y, hy, hsame⟩ | hanswer
    · exact hsame.symm.subst (motive := P) (h.brought y hy)
    · exact h.brought_answer hread hnew hbag hanswer

/-- **A table that renders what it has accepted has accepted a bag that is read back as it is.** -/
theorem lossless_answer (hrenders : Rows.Renders (r.serve v).store ((r.entry v).write rs))
    (hanswer : (r.entry v).answer = .ok record) : record.bag.Lossless := by
  obtain ⟨hlasting, hreceipt⟩ := entry_writes h.lasting h.lossless hread hnew
  have hmem := hreceipt.mem record hanswer
  rw [Rows.eq_of_keeps hlasting.keeps] at hrenders
  exact Row.lossless_of_record? (hlasting.dated record hmem) (hrenders.record?_eq hlasting.distinct hmem)

/-- **The text of a version that was accepted with a bag that nests too deep is not read**, and whoever asks
for the version is told that the store is broken. -/
theorem unread_of_deep (hanswer : (r.entry v).answer = .ok record) (hdeep : 126 < record.bag.depth)
    (now : Instant) :
    (∃ fault, Shape.decodeText Record.shape record.text = .error fault) ∧
      ∃ cause, ((r.serve v).getVersion now record.id record.version).1 =
        failed (.storage (.backend cause)) := by
  obtain ⟨hlasting, hreceipt⟩ := entry_writes h.lasting h.lossless hread hnew
  have hmem := hreceipt.mem record hanswer
  have hdated := hlasting.dated record hmem
  refine ⟨Record.decodeText_of_deep hdated hdeep, ?_⟩
  have hread' : Rows.getVersion (r.serve v).store record.id record.version =
      refuse (Row.unreadable record.text) := by
    rw [Rows.eq_of_keeps hlasting.keeps, Rows.getVersion_map, hlasting.distinct.find?_isVersion hmem]
    simp only [Option.map_some, Rows.answer, Row.record?_of_deep hdated hdeep]
  obtain ⟨cause, hcause⟩ : ∃ cause, Row.unreadable record.text = .backend cause := ⟨_, rfl⟩
  refine ⟨cause, ?_⟩
  show found _ (ofReply (Rows.getVersion (r.serve v).store record.id record.version)) = _
  rw [hread', hcause]
  rfl

end

/-- A clear table is clear after visits with bags that are read back as they are. -/
theorem serveAll (h : Clear P r (written es) past) (hp : Visits.Proper (past ++ vs))
    (hbags : ∀ v ∈ vs, P v.demand.bag)
    (hlossless : ∀ e ∈ r.chronicle vs, ∀ record, e.answer = .ok record → P record.bag →
      record.bag.Lossless) :
    Clear P (r.serveAll vs) (written (es ++ r.chronicle vs)) (past ++ vs) := by
  induction vs generalizing r es past with
  | nil =>
      rw [List.append_nil]
      exact (List.append_nil es).symm ▸ h
  | cons v vs ih =>
      have hv : v ∈ past ++ v :: vs := List.mem_append_right _ List.mem_cons_self
      have hnext : Clear P (r.serve v) (written (es ++ [r.entry v])) (past ++ [v]) := by
        rw [written_append_singleton]
        exact h.serve (hp.readings v hv) (hp.new List.mem_cons_self) (hbags v List.mem_cons_self)
          (hlossless _ List.mem_cons_self)
      have hsplit : past ++ v :: vs = past ++ [v] ++ vs := by simp
      rw [hsplit] at hp ⊢
      have hall := ih hnext hp (fun u hu => hbags u (List.mem_cons_of_mem _ hu))
        (fun e he => hlossless e (List.mem_cons_of_mem _ he))
      rwa [List.append_assoc, List.singleton_append] at hall

/-- A table that renders what it has accepted, after each of some visits, has accepted bags that are read
back as they are, and that came with visits. -/
theorem lossless_all (h : Clear P r (written es) past) (hp : Visits.Proper (past ++ vs))
    (hbags : ∀ v ∈ vs, P v.demand.bag)
    (hrenders : ∀ us, us <+: vs →
      Rows.Renders (r.serveAll us).store (written (es ++ r.chronicle us))) :
    ∀ e ∈ r.chronicle vs, ∀ record, e.answer = .ok record → record.bag.Lossless ∧ P record.bag := by
  induction vs generalizing r es past with
  | nil => exact fun e he => absurd he List.not_mem_nil
  | cons v vs ih =>
      have hv : v ∈ past ++ v :: vs := List.mem_append_right _ List.mem_cons_self
      have hread := hp.readings v hv
      have hnew := hp.new List.mem_cons_self
      have hbag := hbags v List.mem_cons_self
      have hfirst : Rows.Renders (r.serve v).store ((r.entry v).write (written es)) := by
        rw [← written_append_singleton]
        exact hrenders [v] (List.prefix_append _ _)
      have hlossless : ∀ record, (r.entry v).answer = .ok record → record.bag.Lossless ∧ P record.bag :=
        fun record hanswer => ⟨h.lossless_answer hread hnew hfirst hanswer,
          h.brought_answer hread hnew hbag hanswer⟩
      have hnext : Clear P (r.serve v) (written (es ++ [r.entry v])) (past ++ [v]) := by
        rw [written_append_singleton]
        exact h.serve hread hnew hbag fun record hanswer _ => (hlossless record hanswer).1
      have hsplit : past ++ v :: vs = past ++ [v] ++ vs := by simp
      rw [hsplit] at hp
      have hrest := ih hnext hp (fun u hu => hbags u (List.mem_cons_of_mem _ hu)) ?_
      · intro e he
        rcases List.mem_cons.1 he with rfl | he
        · exact hlossless
        · exact hrest e he
      · intro us hus
        have hall := hrenders (v :: us) (List.cons_prefix_cons.2 ⟨rfl, hus⟩)
        rw [List.append_assoc, List.singleton_append]
        exact hall

end Clear

/-! ### Unspoiled tables -/

/-- Visits that meet no broken store, and after each of which everything can be read as it was written. -/
structure Unspoiled (r : Registry Rows) (vs : List Visit) : Prop where
  /-- Whoever publishes or edits is not told that the store is broken. -/
  sturdy : ∀ e ∈ r.chronicle vs, ∀ stop, e.answer = .error stop → Sturdy stop
  /-- Listings and lookups are answered from the records that were answered to visitors. -/
  renders : ∀ us, us <+: vs → Rows.Renders (r.serveAll us).store (written (r.chronicle us))
  /-- All versions of a name are read, up to the ceiling. -/
  versions : ∀ us, us <+: vs → ∀ moment name, ((r.serveAll us).versions moment name).1 =
    named name (.ok (((written (r.chronicle us)).filter fun x => x.name = name).take
      (Publish.lookup r.config name).ceiling))

/-- Visits that bring bags with some property leave a table unspoiled exactly if those of the bags that were
accepted that have the property, which are all, are read back as they are. -/
theorem unspoiled_iff_of_brought (config : Config) (validator : Manifest.Validator)
    (events : Broadcast Event) (hp : Visits.Proper vs) (hbags : ∀ v ∈ vs, P v.demand.bag) :
    let r : Registry Rows := ⟨config, validator, {}, events⟩
    (Unspoiled r vs → ∀ e ∈ r.chronicle vs, ∀ record, e.answer = .ok record →
      record.bag.Lossless ∧ P record.bag) ∧
    ((∀ e ∈ r.chronicle vs, ∀ record, e.answer = .ok record → P record.bag → record.bag.Lossless) →
      Unspoiled r vs) := by
  intro r
  have hopening : Clear P r (written ([] : List (Entry Rows))) [] :=
    Clear.opening config validator events
  refine ⟨fun h => hopening.lossless_all hp hbags h.renders, fun hlossless => ?_⟩
  have hclear : ∀ us, us <+: vs → Clear P (r.serveAll us) (written (r.chronicle us)) us := by
    rintro us ⟨rest, rfl⟩
    refine hopening.serveAll (Visits.Proper.left hp) (fun v hv => hbags v (List.mem_append_left _ hv)) ?_
    intro e he
    rw [chronicle_append] at hlossless
    exact hlossless e (List.mem_append_left _ he)
  refine ⟨?_, fun us hus => (hclear us hus).renders, ?_⟩
  · intro e he stop hstop
    obtain ⟨us, v, hpre, rfl⟩ := exists_of_mem_chronicle he
    refine (hclear us ((List.prefix_append us [v]).trans hpre)).sturdy ?_ hstop
    exact hp.readings v (hpre.subset (List.mem_append_right _ List.mem_cons_self))
  · intro us hus moment name
    have hfew : us.length ≤ Cursor.limit := Nat.le_trans hus.length_le hp.few
    have hversions := (hclear us hus).versions hfew moment name
    rwa [config_serveAll] at hversions

/-- **Visits leave a table unspoiled exactly if every bag that was accepted is read back as it is**; if they
bring no doubles, exactly if no bag that was accepted nests too deep. -/
theorem unspoiled_iff (config : Config) (validator : Manifest.Validator) (events : Broadcast Event)
    {visits : List Visit} (hp : Visits.Proper visits) :
    let r : Registry Rows := ⟨config, validator, {}, events⟩
    (Unspoiled r visits ↔
      ∀ e ∈ r.chronicle visits, ∀ record, e.answer = .ok record → record.bag.Lossless) ∧
    ((∀ v ∈ visits, v.demand.bag.Tame) → (Unspoiled r visits ↔
      ∀ e ∈ r.chronicle visits, ∀ record, e.answer = .ok record → record.bag.depth ≤ 126)) := by
  intro r
  constructor
  · obtain ⟨hall, hback⟩ := unspoiled_iff_of_brought (P := fun _ => True) config validator events hp
      fun _ _ => trivial
    exact ⟨fun h e he record hanswer => (hall h e he record hanswer).1,
      fun h => hback fun e he record hanswer _ => h e he record hanswer⟩
  · intro htame
    obtain ⟨hall, hback⟩ := unspoiled_iff_of_brought (P := Bag.Tame) config validator events hp htame
    constructor
    · intro h e he record hanswer
      obtain ⟨hlossless, hbag⟩ := hall h e he record hanswer
      exact hbag.lossless_iff.1 hlossless
    · intro h
      exact hback fun e he record hanswer hbag => hbag.lossless_iff.2 (h e he record hanswer)

/-! A bag that nests too deep need not be large. -/

/-- A value of arrays, one in the other. -/
def nested : Nat → Json
  | 0 => .array []
  | n + 1 => .array [nested n]

theorem depth_nested (n : Nat) : (nested n).depth = n + 1 := by
  induction n with
  | zero => rfl
  | succ n ih => rw [nested, Json.depth, Json.depthItems, Json.depthItems, ih, Nat.max_zero]

theorem tame_nested (n : Nat) : (nested n).Tame := by
  induction n with
  | zero => trivial
  | succ n ih => exact ⟨ih, trivial⟩

/-- The first version of a server, with a bag of arrays. -/
def bagged (n : Nat) : Visit :=
  delivery 1 (.publish ⟨Race.manifest "1.0.0" "", [("x", nested n)]⟩ { subject := "s" })

theorem proper_bagged (n : Nat) : Visits.Proper [bagged n] where
  readings v hv i := by
    obtain rfl := List.mem_singleton.1 hv
    exact (by decide : Instant.epoch.IsReading)
  fresh := List.pairwise_singleton _ _
  few := by
    show 1 ≤ Cursor.limit
    decide

theorem tame_bagged (n : Nat) : (bagged n).demand.bag.Tame :=
  ⟨List.nodup_cons.2 ⟨List.not_mem_nil, .nil⟩, tame_nested n, trivial⟩

theorem depth_bagged (n : Nat) : (bagged n).demand.bag.depth = n + 2 := by
  show max (nested n).depth 0 + 1 = n + 2
  rw [depth_nested, Nat.max_zero]

/-- A registry with a table that nothing has been stored in. -/
def blank : Registry Rows := ⟨{}, fun _ => none, {}, { room := 1 }⟩

theorem bag_of_accepted {n : Nat} {record : Record}
    (hanswer : (blank.entry (bagged n)).answer = .ok record) : record.bag = (bagged n).demand.bag := by
  have hlasting : Lasting blank.store [] [] := lasting_opening Rows.keeps_empty
  obtain ⟨-, hreceipt⟩ := entry_writes hlasting (fun _ h => absurd h List.not_mem_nil)
    ((proper_bagged n).readings (bagged n) List.mem_cons_self) fun i => Visits.not_offered_nil _
  rcases hreceipt.bag record hanswer with hbag | ⟨x, hx, -⟩
  · exact hbag
  · exact absurd hx List.not_mem_nil

/-- A bag of 126 levels is accepted and spoils nothing. -/
theorem unspoiled_iff_bagged :
    (Visits.Proper [bagged 124] ∧ ∀ v ∈ [bagged 124], v.demand.bag.Tame) ∧
    (blank.entry (bagged 124)).answer.toOption.isSome = true ∧ Unspoiled blank [bagged 124] := by
  have hp := proper_bagged 124
  have htame : ∀ v ∈ [bagged 124], v.demand.bag.Tame := by
    intro v hv
    obtain rfl := List.mem_singleton.1 hv
    exact tame_bagged 124
  refine ⟨⟨hp, htame⟩, by decide +kernel,
    ((unspoiled_iff {} (fun _ => none) { room := 1 } hp).2 htame).2 ?_⟩
  intro e he record hanswer
  obtain rfl := List.mem_singleton.1 he
  rw [bag_of_accepted hanswer, depth_bagged]

/-- A bag of 127 levels is accepted, and neither the text that is stored nor the version can be read. -/
theorem exists_spoiled : (Visits.Proper [bagged 125] ∧ ∀ v ∈ [bagged 125], v.demand.bag.Tame) ∧
    (∃ record, (blank.entry (bagged 125)).answer = .ok record ∧
      (∃ fault, Shape.decodeText Record.shape record.text = .error fault) ∧
      ∃ cause, ((blank.serve (bagged 125)).getVersion .epoch record.id record.version).1 =
        failed (.storage (.backend cause))) ∧
    ¬Unspoiled blank [bagged 125] := by
  have hp := proper_bagged 125
  have htame : ∀ v ∈ [bagged 125], v.demand.bag.Tame := by
    intro v hv
    obtain rfl := List.mem_singleton.1 hv
    exact tame_bagged 125
  have hclear : Clear Bag.Tame blank (written ([] : List (Entry Rows))) [] :=
    Clear.opening {} (fun _ => none) { room := 1 }
  have hsome : (blank.entry (bagged 125)).answer.toOption.isSome = true := by decide +kernel
  obtain ⟨record, hanswer⟩ : ∃ record, (blank.entry (bagged 125)).answer = .ok record := by
    cases hanswer : (blank.entry (bagged 125)).answer with
    | ok record => exact ⟨record, rfl⟩
    | error stop =>
        rw [hanswer] at hsome
        cases hsome
  have hbag := bag_of_accepted hanswer
  have hdepth : record.bag.depth = 127 := by rw [hbag, depth_bagged]
  refine ⟨⟨hp, htame⟩, ⟨record, hanswer, ?_⟩, fun h => ?_⟩
  · exact hclear.unread_of_deep (hp.readings _ List.mem_cons_self) (fun i => Visits.not_offered_nil _)
      hanswer (by omega) .epoch
  · obtain ⟨hlossless, hbag'⟩ :=
      hclear.lossless_all hp htame h.renders _ List.mem_cons_self record hanswer
    have hle := Bag.depth_le_of_reread hlossless
    omega

end Registry

end ManifestRegistry
