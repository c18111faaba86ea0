/-
**What the check of URLs tells.**

A URL is free to a name if all stored records that have it have that name.  The check goes through the URLs
of a manifest in the order in which they are declared, and through the records that are listed under each
page by page, however many of them have the manifest's own name.  So it finds nothing exactly if all URLs
are free, and otherwise tells the first one that is not, with the owner of the first record that has it
under another name.

Main definitions:

* `Service.Ownership.Free`, `Service.Ownership.FirstOther` — whose URL it is;
* `Service.Ownership.Settles` — **what the check of some URLs has to come to**;
* `Service.Ownership.Guards` — the check of a manifest comes to it while nobody writes.

Main results:

* `Service.Ownership.settles_flaw?` — the first conflict is what the check has to tell;
* `Service.Ownership.guards_of_lists` — a store that lists under each URL the records that have it;
* `Service.Ownership.alone_ne_ok_of_tangled` — a document that nests too deep stops every check;
* `Service.Ownership.guards_stored` — **the check of a manifest, for lists and for tables**.
-/

import ManifestRegistry.Proofs.Service.Passing
import ManifestRegistry.Proofs.Storage.Closing

set_option relaxedAutoImplicit false
set_option autoImplicit false

namespace ManifestRegistry

namespace Service

open Storage

namespace Ownership

/-! ### Whose URL it is -/

/-- A URL is free to a name: no record of another name has it. -/
def Free (name : String) (stored : List Record) (url : String) : Prop :=
  ∀ r ∈ stored, url ∈ r.manifest.remoteUrls → r.name = name

/-- The first record that has a URL under another name. -/
def FirstOther (name : String) (stored : List Record) (url : String) (owner : Record) : Prop :=
  url ∈ owner.manifest.remoteUrls ∧ owner.name ≠ name ∧
    ∃ before after, stored = before ++ owner :: after ∧ Free name before url

/-- **What the check of some URLs has to come to**: nothing if all of them are free, and otherwise the first
one that is not, with the owner of the first record that has it under another name. -/
structure Settles (name : String) (stored : List Record) (urls : List String)
    (result : Outcome Unit) : Prop where
  ok_iff : result = .ok () ↔ ∀ url ∈ urls, Free name stored url
  taken : result ≠ .ok () → ∃ earlier url later owner, urls = earlier ++ url :: later ∧
    (∀ u ∈ earlier, Free name stored u) ∧ FirstOther name stored url owner ∧
    result = failed (.duplicateRemoteUrl url owner.name)

variable {name : String} {stored : List Record}

theorem conflict?_eq_none {url : String} : conflict? name stored url = none ↔ Free name stored url := by
  simp [conflict?, Free]

theorem conflict?_eq_some {url : String} {owner : Record} :
    conflict? name stored url = some owner ↔ FirstOther name stored url owner := by
  simp [conflict?, FirstOther, Free, List.find?_eq_some_iff_append, and_assoc, imp_iff_not_or]

theorem flaw?_eq_none {urls : List String} :
    flaw? name stored urls = none ↔ ∀ url ∈ urls, Free name stored url := by
  simp [flaw?, conflict?_eq_none]

/-- **The first conflict is what the check has to tell.** -/
theorem settles_flaw? (name : String) (stored : List Record) (urls : List String) :
    Settles name stored urls (outcome (flaw? name stored urls)) := by
  cases hflaw : flaw? name stored urls with
  | none => exact ⟨iff_of_true rfl (flaw?_eq_none.1 hflaw), fun h => absurd rfl h⟩
  | some f =>
      obtain ⟨earlier, url, later, hsplit, htaken, hearlier⟩ := List.findSome?_eq_some_iff.1 hflaw
      obtain ⟨owner, howner, rfl⟩ := Option.map_eq_some_iff.1 htaken
      refine ⟨iff_of_false (fun h => nomatch h) ?_, fun _ => ?_⟩
      · intro hfree
        rw [flaw?_eq_none.2 hfree] at hflaw
        cases hflaw
      · refine ⟨earlier, url, later, owner, hsplit, fun u hu => ?_, conflict?_eq_some.1 howner, rfl⟩
        exact conflict?_eq_none.1 (Option.map_eq_none_iff.1 (hearlier u hu))

theorem Settles.eq_outcome {urls : List String} {result : Outcome Unit}
    (h : Settles name stored urls result) : result = outcome (flaw? name stored urls) := by
  by_cases hok : result = .ok ()
  · rw [hok, flaw?_eq_none.2 (h.ok_iff.1 hok), outcome]
  · obtain ⟨earlier, url, later, owner, hsplit, hearlier, howner, rfl⟩ := h.taken hok
    have hflaw : flaw? name stored urls = some (.duplicateRemoteUrl url owner.name) := by
      refine List.findSome?_eq_some_iff.2 ⟨earlier, url, later, hsplit, ?_, fun u hu => ?_⟩
      · rw [conflict?_eq_some.2 howner, Option.map_some]
      · rw [conflict?_eq_none.2 (hearlier u hu), Option.map_none]
    rw [hflaw, outcome]

/-! ### The check of a manifest -/

section

variable {σ : Type} [Store σ] {s : σ}

/-- The URLs of a manifest checked by somebody who is alone with a store. -/
def alone (m : Manifest) (clock : Nat → Moment) (s : σ) : Option (Outcome Unit) × σ :=
  machine.runAt (fun now c s => Store.call c now s) clock (rounds m (Store.size s)) 0 (start m) s

/-- **The check of a manifest ends, and comes to what it has to**, leaving the store as it is.  A closed store
is found out by the first URL. -/
def Guards (s : σ) (closed : Bool) (stored : List Record) : Prop :=
  ∀ (m : Manifest) (clock : Nat → Moment), ∃ result, alone m clock s = (some result, s) ∧
    if closed = true ∧ m.remoteUrls ≠ [] then result = ofReply (refuseClosed : Reply Unit)
    else Settles m.name stored m.remoteUrls result

/-- Of an open store the check tells the first conflict. -/
theorem Guards.alone_eq {stored : List Record} (h : Guards s false stored) (m : Manifest)
    (clock : Nat → Moment) :
    alone m clock s = (some (outcome (flaw? m.name stored m.remoteUrls)), s) := by
  obtain ⟨result, halone, hresult⟩ := h m clock
  rw [if_neg fun hboth => Bool.false_ne_true hboth.1] at hresult
  rw [halone, hresult.eq_outcome]

theorem guards_of_refused (stored : List Record)
    (h : ∀ now filter limit, Store.call (.list filter none limit) now s = (refuseClosed, s)) :
    Guards s true stored := by
  intro m clock
  unfold alone start rounds
  cases m.remoteUrls with
  | nil =>
      refine ⟨.ok (), Machine.runAt_finished .., ?_⟩
      rw [if_neg fun hboth => hboth.2 rfl]
      exact settles_flaw? m.name stored []
  | cons url later =>
      refine ⟨ofReply refuseClosed, ?_, by rw [if_pos ⟨rfl, List.cons_ne_nil _ _⟩]⟩
      have hstep : machine.step (fun c s => Store.call c (clock 0).now s) (clock 0)
          { name := m.name, url, later } s = (.finished (ofReply refuseClosed), s) :=
        congrArg (fun result => (receive { name := m.name, url, later } (clock 0) result.1, result.2))
          (h (clock 0).now { remoteUrl := some url } pageSize)
      obtain ⟨spare, hspare⟩ : ∃ n, (url :: later).length * (Store.size s + 1) = n + 1 :=
        Nat.exists_eq_add_one.2 (Nat.mul_pos (Nat.succ_pos _) (Nat.succ_pos _))
      rw [hspare, checkAll, Machine.runAt, hstep]
      exact Machine.runAt_finished ..

/-- **A store that lists under each URL the records that have it is checked against these.** -/
theorem guards_of_lists [Catalog σ] (hs : Catalog.Calm s)
    (h : ∀ url, Catalog.Lists s { remoteUrl := some url }
      (stored.filter fun r => r.manifest.remoteUrls.contains url)) : Guards s false stored := by
  intro m clock
  refine ⟨_, runAt_checkAll (fun _ _ _ => rfl) hs m.name _ m.remoteUrls
    (fun url _ => (h url).exists_shown) (Nat.le_refl _), ?_⟩
  rw [if_neg fun hboth => Bool.false_ne_true hboth.1]
  have hflaw := settles_flaw? m.name stored m.remoteUrls
  simp only [flaw?, conflict?_eq_find?_filter] at hflaw
  exact hflaw

/-- The check of a URL does not get past an entry that cannot be read. -/
theorem runAt_ne_ok [Catalog σ] (hopen : Catalog.IsOpen s) (clock : Nat → Moment) {done rest : List Entry}
    {n : Nat} {e : StorageError} (hbad : (n, .error e) ∈ rest) (rounds made : Nat) (o : Ownership)
    (hselected : Catalog.selected s { remoteUrl := some o.url } = done ++ rest)
    (hcursor : o.cursor = Page.after done) :
    (machine.runAt (fun now c s => Store.call c now s) clock rounds made (.running o) s).1 ≠
      some (.ok ()) := by
  induction rounds generalizing made o done rest with
  | zero =>
      intro h
      cases h
  | succ rounds ih =>
      have hstep : machine.step (fun c s => Store.call c (clock made).now s) (clock made) o s =
          (o.receive (clock made) (listing (done ++ rest) (Page.after done) pageSize), s) := by
        simp only [Machine.step, machine, ask, Catalog.call_list hopen, hselected, hcursor]
      rw [Machine.runAt, hstep]
      cases hreply : listing (done ++ rest) (Page.after done) pageSize with
      | error stop =>
          simp only [receive, ofReply, Machine.runAt_finished]
          intro h
          cases h
      | ok page =>
          -- the entry is not on the page, so there is another one
          obtain ⟨as, htake, rfl⟩ := listing_after (hselected ▸ Catalog.ascending s _) hreply
          have hlater : (n, .error e) ∈ rest.drop pageSize := by
            rw [← List.take_append_drop pageSize rest, htake] at hbad
            refine (List.mem_append.1 hbad).resolve_left fun hshown => ?_
            obtain ⟨a, -, ha⟩ := List.mem_map.1 hshown
            cases congrArg Prod.snd ha
          have hsize : 0 < pageSize := by decide
          rcases turned_shown done hsize htake with ⟨-, hnil⟩ | ⟨cursor, hnext, hafter⟩
          · rw [hnil] at hlater
            cases hlater
          · cases hother : (as.map Prod.snd).find? fun r => r.name ≠ o.name with
            | some other =>
                simp only [receive, ofReply, Page.items_ofSequenced, hother, Machine.runAt_finished]
                intro h
                cases h
            | none =>
                simp only [receive, ofReply, Page.items_ofSequenced, hother, hnext]
                refine ih hlater (made + 1) { o with cursor := some cursor } ?_ hafter
                rw [hselected, List.append_assoc, List.take_append_drop]

end

/-- **One document whose URLs cannot be looked at stops the check of every manifest with a URL**, whoever has
stored it and whatever URLs it has. -/
theorem alone_ne_ok_of_tangled {t : Rows} (hopen : t.closed = false) {row : Row} (hrow : row ∈ t.rows)
    (htangled : row.isTangled = true) {m : Manifest} (hurls : m.remoteUrls ≠ []) (clock : Nat → Moment) :
    (alone m clock t).1 ≠ some (.ok ()) := by
  obtain ⟨a, ha, rfl⟩ : ∃ a ∈ Rows.sequenced t.rows, a.2 = row :=
    List.mem_map.1 ((Rows.map_snd_sequenced t.rows).symm ▸ hrow)
  unfold alone start
  cases hm : m.remoteUrls with
  | nil => exact absurd hm hurls
  | cons url later =>
      have hselects : a.2.selectedBy { remoteUrl := some url } = true := by
        rw [Row.selectedBy_remoteUrl, htangled, Bool.true_or]
      have hshown : a.2.shownBy { remoteUrl := some url } = .error Row.tangled := by
        rw [Row.shownBy, htangled]
        rfl
      have hbad : (a.1, .error Row.tangled) ∈ Catalog.selected t { remoteUrl := some url } := by
        rw [← hshown]
        exact List.mem_map_of_mem (List.mem_filter.2 ⟨ha, hselects⟩)
      exact runAt_ne_ok (show Catalog.IsOpen t from hopen) clock hbad _ 0 _ (List.nil_append _).symm rfl

/-- **The check of a manifest**, as long as cursors can count what is stored: a list is checked as it is, and
a table as what is read of it, if all of it can be read and was written from records, as it is after any
calls. -/
theorem guards_stored :
    (∀ s : Memory, s.records.length ≤ Cursor.limit → Guards s s.closed s.records) ∧
    (∀ (t : Rows) (stored : List Record), t.rows.length ≤ Cursor.limit → t.Documented →
      t.rows.map Row.record? = stored.map .ok → Guards t t.closed stored) ∧
    ∀ calls, (led ({} : Rows) calls).Documented := by
  refine ⟨fun s hfew => ?_, fun t stored hfew hdoc hread => ?_, Rows.documented_led⟩
  · cases hclosed : s.closed with
    | true => exact guards_of_refused _ fun now filter limit => Memory.call_closed hclosed _ now
    | false => exact guards_of_lists (Memory.calm hclosed hfew) s.lists_remoteUrl
  · cases hclosed : t.closed with
    | true => exact guards_of_refused _ fun now filter limit => Rows.call_list_closed hclosed filter limit now
    | false => exact guards_of_lists (Rows.calm hclosed hfew) (Rows.lists_remoteUrl hread hdoc)

/-- A version with some remote URLs. -/
def holder (name : String) (urls : List String) : Record where
  manifest := { name, version := "1.0.0", remotes := urls.map fun url => { kind := .sse, url } }
  registration := .new ⟨1⟩ .epoch true

/-- Two pages of versions with the same URL, the last of which is of another server. -/
def shared : List Record := List.replicate 50 (holder "a/b" ["u"]) ++ [holder "c/d" ["v", "u"]]

/-- The other server is found on the second page, and its other URL is not told. -/
theorem guards_stored_shared (clock : Nat → Moment) :
    alone (holder "a/b" ["w", "u", "v"]).manifest clock ({ records := shared } : Memory) =
      (some (failed (.duplicateRemoteUrl "u" "c/d")), { records := shared }) ∧
    alone (holder "a/b" ["w", "u", "v"]).manifest clock
        ({ rows := shared.map Row.ofRecord } : Rows) =
      (some (failed (.duplicateRemoteUrl "u" "c/d")), { rows := shared.map Row.ofRecord }) := by
  have htold : outcome (flaw? "a/b" shared ["w", "u", "v"]) = failed (.duplicateRemoteUrl "u" "c/d") := by
    decide
  have hread : ∀ name urls, (Row.ofRecord (holder name urls)).record? = .ok (holder name urls) :=
    fun name urls => Rows.read_of_text rfl (Registration.isDated_new (by decide)) rfl rfl
  have hintact : Rows.Intact shared := by
    intro r hr
    rcases List.mem_append.1 hr with hr | hr
    · exact List.eq_of_mem_replicate hr ▸ hread "a/b" ["u"]
    · exact List.mem_singleton.1 hr ▸ hread "c/d" ["v", "u"]
  have hdoc : Rows.Documented { rows := shared.map Row.ofRecord } := by
    intro row hrow
    obtain ⟨r, -, rfl⟩ := List.mem_map.1 hrow
    exact ⟨r, rfl⟩
  rw [← htold]
  exact ⟨(guards_stored.1 { records := shared } (by decide)).alone_eq _ clock,
    (guards_stored.2.1 { rows := shared.map Row.ofRecord } shared (by decide) hdoc
      hintact.map_record?).alone_eq _ clock⟩

end Ownership

end Service

end ManifestRegistry
