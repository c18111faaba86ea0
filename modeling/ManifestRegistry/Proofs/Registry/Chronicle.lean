/-
**What listeners hear is what has become of the records.**

Whoever listens from the beginning and misses nothing hears of each stored version once, in the order of
their storing, and of each takeover of a name's latest flag, in one line that ends with the version which
bears the flag now.  Of an edit they hear once if it went through, and of what is refused they hear
nothing.  No ceiling, no bag and no stretch of time makes a difference to this.

Main definitions:

* `Registry.Entry`, `Registry.chronicle` — what visitors asked for and were answered, what listeners were
  told meanwhile, and the stores that were left;
* `Registry.log` — all that listeners were told;
* `Registry.Faithful` — **a chronicle from which the records can be told**.

Main results:

* `Registry.events_serveAll`, `Registry.drain_serveAll` — the log is what is sent, and what listeners obtain;
* `Registry.entry_cases`, `Registry.entry_recounts` — what an entry may be, and that it recounts what its
  visit has done;
* `Registry.chronicle_faithful` — **the chronicle of any visits is faithful**, in a list and in a table.
-/

import ManifestRegistry.Proofs.Broadcast.Delivery
import ManifestRegistry.Proofs.Records.Succession
import ManifestRegistry.Proofs.Registry.Upshots

set_option relaxedAutoImplicit false
set_option autoImplicit false

namespace ManifestRegistry

open Service Storage

/-- What listeners are told of a change: nothing if nothing came of it. -/
def Service.Change.told : Change → List Event
  | .ok (_, events) => events
  | .error _ => []

namespace Registry

/-! ### Chronicles -/

/-- What a visitor asked for and was answered, what listeners were told, and the store that was left. -/
structure Entry (σ : Type) where
  demand : Demand
  answer : Outcome Record
  told : List Event
  store : σ

namespace Entry

variable {σ : Type}

/-- The record that a publish came to. -/
def created? (e : Entry σ) : Option Record :=
  match e.demand, e.answer with
  | .publish _ _, .ok record => some record
  | _, _ => none

/-- What there is to tell of an edit, if it went through. -/
def revisions (e : Entry σ) : List Event :=
  match e.demand, e.answer with
  | .edit id _ editor, .ok record => [.edited id record.name record.version editor.subject]
  | _, _ => []

end Entry

section

variable {σ : Type}

/-- The records that publishes came to, as they were then. -/
def created (es : List (Entry σ)) : List Record := es.filterMap Entry.created?

/-- All that listeners were told. -/
def log (es : List (Entry σ)) : List Event := es.flatMap Entry.told

theorem created_append (es es' : List (Entry σ)) : created (es ++ es') = created es ++ created es' :=
  List.filterMap_append

theorem log_append (es es' : List (Entry σ)) : log (es ++ es') = log es ++ log es' :=
  List.flatMap_append

theorem log_singleton (e : Entry σ) : log [e] = e.told := List.append_nil e.told

end

section

variable {σ : Type} [PacedStore σ]

/-- The entry of a visit. -/
def entry (r : Registry σ) (v : Visit) : Entry σ :=
  ⟨v.demand, (r.visited v).1, Change.told (r.account v), (r.serve v).store⟩

/-- The chronicle of visits one after the other. -/
def chronicle : Registry σ → List Visit → List (Entry σ)
  | _, [] => []
  | r, v :: vs => r.entry v :: (r.serve v).chronicle vs

/-- What a visit sends is what listeners are told of it. -/
theorem events_serve (r : Registry σ) (v : Visit) :
    (r.serve v).events = (r.entry v).told.foldl Broadcast.send r.events := by
  rw [← visited_snd, visited_eq]
  show _ = (Change.told (r.account v)).foldl Broadcast.send r.events
  cases r.account v <;> rfl

/-- **What visits send, one event after the other, is the log of their chronicle.** -/
theorem events_serveAll (r : Registry σ) (vs : List Visit) :
    (r.serveAll vs).events = (log (r.chronicle vs)).foldl Broadcast.send r.events := by
  induction vs generalizing r with
  | nil => rfl
  | cons v vs ih =>
      show ((r.serve v).serveAll vs).events =
        ((r.entry v).told ++ log ((r.serve v).chronicle vs)).foldl Broadcast.send r.events
      rw [ih, events_serve, List.foldl_append]

/-- **Who listens from the beginning obtains the log**, if the channel has room for it. -/
theorem drain_serveAll (r : Registry σ) (vs : List Visit) {n : Nat} (h : r.events.Owes n [])
    (hroom : (log (r.chronicle vs)).length ≤ r.events.room) :
    ((r.serveAll vs).events.drain n).1 = log (r.chronicle vs) := by
  rw [events_serveAll]
  refine (h.sendAll _).drain_eq ?_
  rwa [Broadcast.room_sendAll]

end

/-! ### Faithful chronicles -/

/-- What listeners are told of a stored version, with the flag that it was stored with. -/
def Announces (record : Record) (event : Event) : Prop :=
  ∃ subject, record.publishedBy = some subject ∧ event =
    .published record.id record.name record.version record.isLatest subject record.publishedAt

/-- An announcement. -/
def isAnnouncement (event : Event) : Bool := event.kind = .published

/-- An event that tells of an edit. -/
def isRevision (event : Event) : Bool := event.kind = .edited

/-- A takeover of the latest flag of a name. -/
def isTakeover (name : String) (event : Event) : Bool :=
  event.kind = .latestChanged && event.name = name

section

variable {σ : Type} [Store σ] [Ledger σ]

/-- A chronicle from which the records can be told. -/
structure Faithful (es : List (Entry σ)) (rs : List Record) : Prop where
  /-- Of what is refused listeners are told nothing. -/
  silent : ∀ e ∈ es, ∀ stop, e.answer = .error stop → e.told = []
  /-- Of an edit that went through they are told once, of any other never. -/
  revisions : ∀ e ∈ es, e.told.filter isRevision = e.revisions
  /-- The record that a publish came to was the last one in the store that it left. -/
  stored : ∀ e ∈ es, ∀ record, e.created? = some record →
    ∃ before, Ledger.Keeps e.store (before ++ [record])
  /-- Each of them was announced, in their order. -/
  announced : List.Forall₂ Announces (created es) ((log es).filter isAnnouncement)
  /-- They are the stored versions, in their order. -/
  imprints : (created es).map Record.imprint = rs.map Record.imprint
  /-- Those that were flagged when they were created make up the line of their name. -/
  succession : ∀ name, Succession rs name (flagged (created es) name)
  /-- The takeovers of a name are those of its line. -/
  takeovers : ∀ name, (log es).filter (isTakeover name) = takeovers none (flagged (created es) name)

theorem faithful_nil : Faithful ([] : List (Entry σ)) [] where
  silent _ h := absurd h List.not_mem_nil
  revisions _ h := absurd h List.not_mem_nil
  stored _ h := absurd h List.not_mem_nil
  announced := .nil
  imprints := rfl
  succession := .nil
  takeovers _ := rfl

/-- An entry recounts what a visit has made of the records. -/
structure Entry.Recounts (e : Entry σ) (rs rs' : List Record) : Prop where
  silent : ∀ stop, e.answer = .error stop → e.told = []
  revisions : e.told.filter isRevision = e.revisions
  stored : ∀ record, e.created? = some record → ∃ before, Ledger.Keeps e.store (before ++ [record])
  announced : List.Forall₂ Announces (created [e]) (e.told.filter isAnnouncement)
  imprints : rs'.map Record.imprint = rs.map Record.imprint ++ (created [e]).map Record.imprint
  succession : ∀ name line, Succession rs name line →
    Succession rs' name (line ++ flagged (created [e]) name)
  takeovers : ∀ name line, Succession rs name line → e.told.filter (isTakeover name) =
    takeovers (line.getLast?.map Imprint.version) (flagged (created [e]) name)

theorem Faithful.concat {es : List (Entry σ)} {e : Entry σ} {rs rs' : List Record}
    (h : Faithful es rs) (he : e.Recounts rs rs') : Faithful (es ++ [e]) rs' := by
  have hall : ∀ {P : Entry σ → Prop}, (∀ e ∈ es, P e) → P e → ∀ x ∈ es ++ [e], P x := by
    intro P hes hlast x hx
    rcases List.mem_append.1 hx with hx | hx
    · exact hes x hx
    · exact List.mem_singleton.1 hx ▸ hlast
  refine ⟨hall h.silent he.silent, hall h.revisions he.revisions, hall h.stored he.stored, ?_, ?_, ?_, ?_⟩
  · rw [created_append, log_append, log_singleton, List.filter_append]
    exact List.rel_append h.announced he.announced
  · rw [created_append, List.map_append, h.imprints, he.imprints]
  · intro name
    rw [created_append, flagged_append]
    exact he.succession name _ (h.succession name)
  · intro name
    rw [created_append, flagged_append, log_append, log_singleton, List.filter_append,
      h.takeovers, he.takeovers name _ (h.succession name), takeovers_append, Option.or_none]

end

/-! ### What an entry recounts -/

section

variable {config : Config} {validator : Manifest.Validator} {p : Publish}

theorem filter_isRevision_events (record : Record) (previous : Option Record) :
    (p.events record previous).filter isRevision = [] := by
  unfold Publish.events
  split <;> rfl

theorem filter_isAnnouncement_events (record : Record) (previous : Option Record) :
    (p.events record previous).filter isAnnouncement =
      [.published record.id record.name record.version record.isLatest p.publisher.subject
        record.publishedAt] := by
  unfold Publish.events
  split <;> rfl

theorem filter_isTakeover_events (record : Record) (previous : Option Record) (name : String) :
    (p.events record previous).filter (isTakeover name) =
      takeovers (previous.map Record.version) (flagged [record] name) := by
  have hannounced : ∀ id version flag subject published,
      isTakeover name (.published id record.name version flag subject published) = false :=
    fun _ _ _ _ _ => rfl
  unfold Publish.events
  rw [List.filter_cons_of_neg (by rw [hannounced]; exact Bool.false_ne_true)]
  by_cases hf : record.isLatest = true
  · rw [if_pos hf]
    by_cases hn : record.name = name
    · have htakeover : isTakeover name (.latestChanged record.id record.name
          (previous.map Record.version) record.version) = true := decide_eq_true hn
      rw [flagged_singleton hn hf, List.filter_cons_of_pos htakeover]
      rfl
    · have htakeover : isTakeover name (.latestChanged record.id record.name
          (previous.map Record.version) record.version) = false := decide_eq_false hn
      rw [flagged_singleton_of_ne fun h => absurd h hn, List.filter_cons_of_neg (by simp [htakeover])]
      rfl
  · rw [if_neg hf, flagged_singleton_of_ne fun _ => Bool.eq_false_iff.2 hf]
    rfl

end

variable {σ : Type} [Store σ] [Ledger σ] {rs rs' : List Record} {past : List Visit} {v : Visit}

theorem recounts_refused (demand : Demand) (stop : Stop Failure) (s : σ) :
    Entry.Recounts ⟨demand, .error stop, [], s⟩ rs rs := by
  have hcreated : created [(⟨demand, .error stop, [], s⟩ : Entry σ)] = [] := by
    cases demand <;> rfl
  refine ⟨fun _ _ => rfl, ?_, ?_, ?_, ?_, ?_, ?_⟩
  · cases demand <;> rfl
  · intro record h
    cases demand <;> cases h
  · rw [hcreated]
    exact .nil
  · rw [hcreated, List.map_nil, List.append_nil]
  · intro name line h
    rwa [hcreated, flagged_nil, List.append_nil]
  · intro name line h
    rw [hcreated]
    rfl

theorem recounts_published {p : Publish} {moment : Moment} {existing : List Record} {s : σ}
    (hd : Distinct (rs.map Record.imprint)) (hr : Ledger.Keeps s rs')
    (hcopies : Copies (Ledger.Legible σ) rs p.manifest.name existing)
    (hc : Memory.committed rs (p.record moment existing) (p.demotion moment existing) = .ok rs') :
    Entry.Recounts ⟨.publish p.submission p.publisher, .ok (p.record moment existing),
      p.events (p.record moment existing) (p.demotion moment existing), s⟩ rs rs' := by
  have hplanned : Planned (rs.map Record.imprint) (p.record moment existing)
      (p.demotion moment existing) := Publish.planned fun x hx => hcopies.stored hx
  have habove : ∀ d, p.demotion moment existing = some d →
      (p.record moment existing).imprint.Above d.imprint := by
    intro d hdem
    obtain ⟨l, -, -, rfl, -, hsup⟩ := Publish.demotion_eq_some hdem
    show Version.order _ _ _ _ = .gt
    exact of_decide_eq_true hsup
  refine ⟨fun stop h => (nomatch h), filter_isRevision_events _ _, ?_, ?_, ?_, ?_, ?_⟩
  · rintro record ⟨⟩
    obtain ⟨-, rs₁, -, hins⟩ := Memory.committed_eq_ok.1 hc
    obtain ⟨-, -, rfl⟩ := Memory.insert_eq_ok.1 hins
    exact ⟨rs₁, hr⟩
  · rw [filter_isAnnouncement_events]
    exact .cons ⟨_, rfl, rfl⟩ .nil
  · exact hd.map_imprint_committed (fun d he => (hplanned.demotion d he).1) hc
  · intro name line h
    exact h.committed hd hplanned hc habove
  · intro name line h
    rw [filter_isTakeover_events]
    by_cases hnew : p.manifest.name = name ∧ p.takesOver moment.now existing = true
    · rw [← h.previous_eq hd hplanned hc hnew.1 hnew.2, Option.map_map]
      rfl
    · have hnone : flagged [p.record moment existing] name = [] :=
        flagged_singleton_of_ne fun hn => Bool.eq_false_iff.2 fun hf => hnew ⟨hn, hf⟩
      show takeovers _ (flagged [p.record moment existing] name) =
        takeovers _ (flagged [p.record moment existing] name)
      rw [hnone]
      rfl

theorem recounts_edited {e : Edit} {now : Instant} {x r : Record} {k : Nat} {s : σ}
    (hr : rs[k]? = some r) (hx : Shows (Ledger.Legible σ) x r)
    (hv : r.isVersion e.id e.manifest.version = true) (hn : r.name = e.manifest.name) :
    Entry.Recounts ⟨.edit e.id e.submission e.editor, .ok (e.edited now x), e.events (e.edited now x),
      s⟩ rs (rs.set k (e.edited now x)) := by
  obtain ⟨-, hver⟩ := Job.isVersion_of_shows hx hv
  have himp : r.imprint = (e.edited now x).imprint := by
    rw [Edit.imprint_edited _ ((congrArg Imprint.name hx.imprint).trans hn) hver, hx.imprint]
  refine ⟨fun stop h => (nomatch h), rfl, fun record h => (nomatch h), .nil, ?_, ?_, fun _ _ _ => rfl⟩
  · refine (map_imprint_set fun s hs => ?_).trans (List.append_nil _).symm
    obtain rfl := Option.some_inj.1 (hr.symm.trans hs)
    exact himp
  · intro name line h
    exact (List.append_nil line).symm ▸ h.updated hr himp hx.isLatest.symm

/-- **What an entry may be**: a visit comes to nothing, or a version is committed, or one is put back
edited; the records last. -/
theorem entry_cases {r : Registry σ} (h : Lasting r.store rs past)
    (hread : ∀ i, (v.clock i).now.IsReading)
    (hnew : ∀ i, ¬Visits.Offered past (v.clock i).freshId) {P : Entry σ → List Record → Prop}
    (refused : ∀ (demand : Demand) (stop : Stop Failure) (s : σ), P ⟨demand, .error stop, [], s⟩ rs)
    (published : ∀ (p : Publish) (moment : Moment) (existing : List Record) (s : σ) (rs' : List Record),
      Ledger.Keeps s rs' → Copies (Ledger.Legible σ) rs p.manifest.name existing →
      Memory.committed rs (p.record moment existing) (p.demotion moment existing) = .ok rs' →
      P ⟨.publish p.submission p.publisher, .ok (p.record moment existing),
        p.events (p.record moment existing) (p.demotion moment existing), s⟩ rs')
    (edited : ∀ (e : Edit) (now : Instant) (x stored : Record) (k : Nat) (s : σ),
      rs[k]? = some stored → Shows (Ledger.Legible σ) x stored →
      stored.isVersion e.id e.manifest.version = true → stored.name = e.manifest.name →
      P ⟨.edit e.id e.submission e.editor, .ok (e.edited now x), e.events (e.edited now x), s⟩
        (rs.set k (e.edited now x))) :
    ∃ rs', Lasting (r.serve v).store rs' (past ++ [v]) ∧ P (r.entry v) rs' := by
  obtain ⟨s, rs', hk, hupshot, hvisit⟩ := visited_upshot h.keeps h.distinct h.dated hread
  have hstore : (r.serve v).store = s := by rw [← visited_snd, hvisit, concluded_store]
  refine ⟨rs', hstore ▸ h.upshot hupshot hread hnew hk, ?_⟩
  have hentry : r.entry v =
      ⟨v.demand, (r.account v).map Prod.fst, Change.told (r.account v), s⟩ := by
    rw [entry, hstore, hvisit, concluded_fst]
  rw [hentry]
  generalize r.account v = change at hupshot
  generalize hrequest : v.demand.request r.config r.validator = request at hupshot
  cases hupshot with
  | refused _ stop => exact refused _ stop s
  | published p i existing granted copies committed =>
      cases hdemand : v.demand with
      | edit id submission editor =>
          rw [hdemand] at hrequest
          cases hrequest
      | publish submission publisher =>
          rw [hdemand] at hrequest
          obtain rfl := Request.publish.inj hrequest
          exact published _ _ existing s rs' hk copies committed
  | edited e i stored shows version name =>
      cases hdemand : v.demand with
      | publish submission publisher =>
          rw [hdemand] at hrequest
          cases hrequest
      | edit id submission editor =>
          rw [hdemand] at hrequest
          obtain rfl := Request.edit.inj hrequest
          exact edited _ _ _ _ _ s stored shows version name

/-- **An entry recounts what its visit has made of the records.** -/
theorem entry_recounts {r : Registry σ} (h : Lasting r.store rs past)
    (hread : ∀ i, (v.clock i).now.IsReading)
    (hnew : ∀ i, ¬Visits.Offered past (v.clock i).freshId) :
    ∃ rs', Lasting (r.serve v).store rs' (past ++ [v]) ∧ (r.entry v).Recounts rs rs' := by
  refine entry_cases h hread hnew (P := fun e rs' => e.Recounts rs rs') recounts_refused ?_ ?_
  · intro p moment existing s rs' hk hcopies hc
    exact recounts_published h.distinct hk hcopies hc
  · intro e now x stored k s hr hx hv hn
    exact recounts_edited hr hx hv hn

theorem length_log_le {r : Registry σ} (h : Lasting r.store rs past) {vs : List Visit}
    (hread : ∀ v ∈ vs, ∀ i, (v.clock i).now.IsReading)
    (hfresh : (past ++ vs).Pairwise fun u v => ∀ i j, (u.clock i).freshId ≠ (v.clock j).freshId) :
    (log (r.chronicle vs)).length ≤ 2 * vs.length := by
  induction vs generalizing r rs past with
  | nil => exact Nat.le_refl _
  | cons v vs ih =>
      have hentry : ∃ rs', Lasting (r.serve v).store rs' (past ++ [v]) ∧ (r.entry v).told.length ≤ 2 := by
        refine entry_cases h (hread v List.mem_cons_self) (Visits.not_offered hfresh List.mem_cons_self)
          (P := fun e _ => e.told.length ≤ 2) ?_ ?_ ?_
        · exact fun _ _ _ => Nat.zero_le _
        · intro p moment existing s rs' _ _ _
          simp only [Publish.events]
          split <;> simp
        · intro e now x stored k s _ _ _ _
          exact Nat.le_succ _
      obtain ⟨rs', h', htold⟩ := hentry
      have hsplit : past ++ v :: vs = past ++ [v] ++ vs := by simp
      rw [hsplit] at hfresh
      have hrest := ih h' (fun u hu => hread u (List.mem_cons_of_mem _ hu)) hfresh
      show ((r.entry v).told ++ log ((r.serve v).chronicle vs)).length ≤ _
      rw [List.length_append, List.length_cons]
      omega

theorem Faithful.serveAll {r : Registry σ} {es : List (Entry σ)} (h : Faithful es rs)
    (hl : Lasting r.store rs past) {vs : List Visit}
    (hread : ∀ v ∈ vs, ∀ i, (v.clock i).now.IsReading)
    (hfresh : (past ++ vs).Pairwise fun u v => ∀ i j, (u.clock i).freshId ≠ (v.clock j).freshId) :
    ∃ rs', Lasting (r.serveAll vs).store rs' (past ++ vs) ∧ Faithful (es ++ r.chronicle vs) rs' := by
  induction vs generalizing r rs es past with
  | nil =>
      rw [List.append_nil]
      exact ⟨rs, hl, (List.append_nil es).symm ▸ h⟩
  | cons v vs ih =>
      have hnew : ∀ i, ¬Visits.Offered past (v.clock i).freshId :=
        Visits.not_offered hfresh List.mem_cons_self
      obtain ⟨rs₁, hl₁, hentry⟩ := entry_recounts hl (hread v List.mem_cons_self) hnew
      have hsplit : past ++ v :: vs = past ++ [v] ++ vs := by simp
      rw [hsplit] at hfresh ⊢
      obtain ⟨rs', hl', h'⟩ := ih (h.concat hentry) hl₁
        (fun u hu => hread u (List.mem_cons_of_mem _ hu)) hfresh
      refine ⟨rs', hl', ?_⟩
      rwa [List.append_assoc, List.singleton_append] at h'

/-- **The chronicle of any visits is faithful** to what is stored after them, in a list and in a table, and
what the visits send is its log. -/
theorem chronicle_faithful (config : Config) (validator : Manifest.Validator) (events : Broadcast Event)
    {visits : List Visit} (hread : ∀ v ∈ visits, ∀ i, (v.clock i).now.IsReading)
    (hfresh : visits.Pairwise fun u v => ∀ i j, (u.clock i).freshId ≠ (v.clock j).freshId) :
    (let r : Registry Memory := ⟨config, validator, {}, events⟩;
      (r.serveAll visits).events = (log (r.chronicle visits)).foldl Broadcast.send events ∧
        Faithful (r.chronicle visits) (r.serveAll visits).store.records) ∧
    (let r : Registry Rows := ⟨config, validator, {}, events⟩;
      (r.serveAll visits).events = (log (r.chronicle visits)).foldl Broadcast.send events ∧
        ∃ rs, (r.serveAll visits).store.rows = rs.map Row.ofRecord ∧
          Faithful (r.chronicle visits) rs) := by
  constructor
  · obtain ⟨rs, hl, h⟩ := Faithful.serveAll (r := (⟨config, validator, {}, events⟩ : Registry Memory))
      faithful_nil (lasting_opening Memory.keeps_empty) hread hfresh
    obtain ⟨-, rfl⟩ := hl.keeps
    exact ⟨events_serveAll _ _, h⟩
  · obtain ⟨rs, hl, h⟩ := Faithful.serveAll (r := (⟨config, validator, {}, events⟩ : Registry Rows))
      faithful_nil (lasting_opening Rows.keeps_empty) hread hfresh
    exact ⟨events_serveAll _ _, rs, hl.keeps.2, h⟩

/-- A publish or an edit of a version at the beginning of 1970. -/
def delivery (id : Nat) (demand : Demand) : Visit := ⟨fun _ => ⟨.epoch, ⟨id⟩⟩, demand⟩

/-- Three versions, the last one below the second; one of them once more, in vain; and an edit. -/
def deliveries : List Visit :=
  [delivery 1 (.publish ⟨Race.manifest "1.0.0" "", []⟩ { subject := "s" }),
    delivery 2 (.publish ⟨Race.manifest "2.0.0" "", []⟩ { subject := "s" }),
    delivery 3 (.publish ⟨Race.manifest "1.5.0" "", []⟩ { subject := "t" }),
    delivery 4 (.publish ⟨Race.manifest "2.0.0" "", []⟩ { subject := "s" }),
    delivery 5 (.edit ⟨1⟩ ⟨Race.manifest "2.0.0" "d", []⟩ { subject := "u" })]

/-- A channel with one listener and room for two events of each delivery. -/
def listened : Broadcast Event := ({ room := 16 } : Broadcast Event).subscribe

/-- The version in between is announced without the flag and takes nothing over, and the listener obtains
all that was sent. -/
theorem chronicle_faithful_deliveries :
    ((∀ v ∈ deliveries, ∀ i, (v.clock i).now.IsReading) ∧
      deliveries.Pairwise fun u v => ∀ i j, (u.clock i).freshId ≠ (v.clock j).freshId) ∧
    log (chronicle ⟨{}, fun _ => none, ({} : Memory), listened⟩ deliveries) =
      [.published ⟨1⟩ "a/b" "1.0.0" true "s" .epoch, .latestChanged ⟨1⟩ "a/b" none "1.0.0",
        .published ⟨1⟩ "a/b" "2.0.0" true "s" .epoch, .latestChanged ⟨1⟩ "a/b" "1.0.0" "2.0.0",
        .published ⟨1⟩ "a/b" "1.5.0" false "t" .epoch, .edited ⟨1⟩ "a/b" "2.0.0" "u"] ∧
    (let r : Registry Memory := ⟨{}, fun _ => none, {}, listened⟩;
      ((r.serveAll deliveries).events.drain 0).1 = log (r.chronicle deliveries) ∧
      (r.serveAll deliveries).events = (log (r.chronicle deliveries)).foldl Broadcast.send listened ∧
        Faithful (r.chronicle deliveries) (r.serveAll deliveries).store.records) ∧
    (let r : Registry Rows := ⟨{}, fun _ => none, {}, listened⟩;
      ((r.serveAll deliveries).events.drain 0).1 = log (r.chronicle deliveries) ∧
      (r.serveAll deliveries).events = (log (r.chronicle deliveries)).foldl Broadcast.send listened ∧
        ∃ rs, (r.serveAll deliveries).store.rows = rs.map Row.ofRecord ∧
          Faithful (r.chronicle deliveries) rs) := by
  have hepoch : Instant.epoch.IsReading := by decide
  have hread : ∀ v ∈ deliveries, ∀ i, (v.clock i).now.IsReading := by
    intro v hv i
    simp only [deliveries, List.mem_cons, List.not_mem_nil, or_false] at hv
    rcases hv with rfl | rfl | rfl | rfl | rfl <;> exact hepoch
  have hfresh : deliveries.Pairwise fun u v => ∀ i j, (u.clock i).freshId ≠ (v.clock j).freshId := by
    simp [deliveries, delivery]
  have hqueue : listened.Owes 0 [] := Broadcast.owes_subscribe _
  obtain ⟨hlist, htable⟩ := chronicle_faithful {} (fun _ => none) listened hread hfresh
  have hroom : 2 * deliveries.length ≤ listened.room := by decide
  have hheard := drain_serveAll (⟨{}, fun _ => none, {}, listened⟩ : Registry Memory) deliveries hqueue
    (Nat.le_trans (length_log_le (lasting_opening Memory.keeps_empty) hread hfresh) hroom)
  have hheard' := drain_serveAll (⟨{}, fun _ => none, {}, listened⟩ : Registry Rows) deliveries hqueue
    (Nat.le_trans (length_log_le (lasting_opening Rows.keeps_empty) hread hfresh) hroom)
  exact ⟨⟨hread, hfresh⟩, by decide +kernel, ⟨hheard, hlist⟩, hheard', htable⟩

end Registry

end ManifestRegistry
