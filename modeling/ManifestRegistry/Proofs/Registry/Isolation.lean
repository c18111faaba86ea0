/-
**Others do not matter.**

Someone publishes and edits some servers and asks about them, one call after the other.  Others insert visits
of their own, anywhere and as many as they like, for other servers, as other subjects and with other URLs; the
identities that they are offered are not among those that the first one deals with.  Every response is the
same as without them then, and so are the records of these servers, in the same order.  Nothing else need be
known: not what the clock shows, nor whether bags can be read back, nor how pages are cut.  Only, a table
looks for URLs in the documents of others as well, which must not nest too deep for that.

Main definitions:

* `Registry.attendAmong` — **errands with visits of others in between**; `Registry.mine`, `Registry.others` —
  the errands, and the visits;
* `Registry.realm` — what some errands deal with, and the bags that others may bring;
* `Registry.Elsewhere` — a visit that deals with nothing of it;
* `Registry.Secluded` — a registry that holds the part of another one that belongs to a realm.

Main results:

* `Registry.Secluded.attend` — an errand is attended to in the same way in both;
* `Registry.Secluded.serve` — a visit elsewhere leaves them so;
* `Registry.attendAmong_isolated` — **errands are attended to as if there were no others**.
-/

import ManifestRegistry.Proofs.Registry.Alike
import ManifestRegistry.Proofs.Service.Residents

set_option relaxedAutoImplicit false
set_option autoImplicit false

namespace ManifestRegistry

open Service Storage

namespace Registry

/-! ### What errands deal with -/

/-- The manifest of a demand. -/
def Demand.manifest : Demand → Manifest
  | .publish submission _ | .edit _ submission _ => submission.manifest

/-- Who asks for it. -/
def Demand.subject : Demand → String
  | .publish _ publisher => publisher.subject
  | .edit _ _ editor => editor.subject

namespace Errand

/-- An errand that asks for a page of a listing. -/
def IsPage : Errand → Prop
  | .ask _ (.list ..) => True
  | _ => False

/-- The names of servers that an errand uses. -/
def names : Errand → List String
  | .visit v => [v.demand.manifest.name]
  | .ask _ (.versions name) => [name]
  | .ask .. => []

/-- The subjects that it uses. -/
def subjects : Errand → List String
  | .visit v => [v.demand.subject]
  | .ask .. => []

/-- The remote URLs that it uses. -/
def urls : Errand → List String
  | .visit v => v.demand.manifest.remoteUrls
  | .ask .. => []

/-- Whether an errand mentions an identity: a publish is offered it, or another errand names it. -/
def Mentions (id : Uuid) : Errand → Prop
  | .visit ⟨clock, .publish ..⟩ => ∃ i, (clock i).freshId = id
  | .visit ⟨_, .edit named ..⟩ => named = id
  | .ask _ (.get named) | .ask _ (.getVersion named _) => named = id
  | .ask .. => False

end Errand

/-- What some errands deal with, and the bags that others may bring. -/
def realm (bags : Bag → Prop) (errands : List Errand) : Realm where
  names := errands.flatMap Errand.names
  ids id := ∃ errand ∈ errands, errand.Mentions id
  subjects subject := subject ∈ errands.flatMap Errand.subjects
  urls url := url ∈ errands.flatMap Errand.urls
  bags := bags

/-- Bags that nest no deeper than a table can look at, for whatever realm. -/
theorem shallow_realm (errands : List Errand) : (realm (fun bag => bag.depth ≤ 999) errands).Shallow where
  depth h := h
  reread _ hread := Nat.le_trans (Bag.depth_reread_le hread) (by decide)

/-- A visit that deals with nothing that some errands deal with; a publish is not offered any identity that
they mention either. -/
structure Elsewhere (errands : List Errand) (v : Visit) : Prop where
  name : v.demand.manifest.name ∉ errands.flatMap Errand.names
  subject : v.demand.subject ∉ errands.flatMap Errand.subjects
  urls : ∀ url ∈ v.demand.manifest.remoteUrls, url ∉ errands.flatMap Errand.urls
  ids {submission : Submission} {publisher : Publisher} (h : v.demand = .publish submission publisher) :
    ∀ i, ∀ errand ∈ errands, ¬errand.Mentions (v.clock i).freshId

theorem Elsewhere.stranger {bags : Bag → Prop} {errands : List Errand} {v : Visit}
    (h : Elsewhere errands v) (hbag : bags v.demand.bag) (config : Config) (validator : Manifest.Validator) :
    (v.demand.request config validator).job.Stranger (realm bags errands) v.clock := by
  obtain ⟨clock, demand⟩ := v
  cases demand with
  | publish submission publisher =>
      refine ⟨⟨h.name, h.urls⟩, hbag, h.subject, ?_⟩
      rintro i ⟨errand, hmem, hmentions⟩
      exact h.ids rfl i errand hmem hmentions
  | edit id submission editor => exact ⟨⟨h.name, h.urls⟩, hbag⟩

theorem has_of_mem {bags : Bag → Prop} {errands : List Errand} {v : Visit} (h : .visit v ∈ errands) :
    (realm bags errands).Has v.demand.manifest where
  name := List.mem_flatMap.2 ⟨_, h, List.mem_cons_self⟩
  urls _ hurl := List.mem_flatMap.2 ⟨_, h, hurl⟩

/-! ### Visits of others in between -/

/-- The errands of someone among visits of others. -/
def mine (calls : List (Errand ⊕ Visit)) : List Errand := calls.filterMap Sum.getLeft?

/-- The visits of others. -/
def others (calls : List (Errand ⊕ Visit)) : List Visit := calls.filterMap Sum.getRight?

/-- The responses to errands one after the other, with visits of others in between, and the registry
afterwards. -/
def attendAmong {σ : Type} [PacedStore σ] (r : Registry σ) :
    List (Errand ⊕ Visit) → List Response × Registry σ
  | [] => ([], r)
  | .inl errand :: calls =>
    let (response, r) := r.attend errand
    let (responses, r) := attendAmong r calls
    (response :: responses, r)
  | .inr v :: calls => attendAmong (r.serve v) calls

/-! ### How a registry grows -/

section

variable {σ : Type} [Store σ] [Modest σ]

/-- **A visit adds one record at most.** -/
theorem size_serve (r : Registry σ) (v : Visit) :
    Store.size (r.serve v).store ≤ Store.size r.store + 1 := by
  let size := Store.size r.store
  have hstep : ∀ (i : Nat) (job : Job) (s : σ),
      Store.size s ≤ size ∨ job.IsDone ∧ Store.size s ≤ size + 1 →
      Store.size (job.turn (v.clock i) s).2 ≤ size ∨
        (job.turn (v.clock i) s).1.IsDone ∧ Store.size (job.turn (v.clock i) s).2 ≤ size + 1 := by
    rintro i job s (hs | ⟨hdone, hs⟩)
    · rcases job.size_turn (v.clock i) s with hturn | ⟨hdone, hturn⟩
      · exact .inl (Nat.le_trans hturn hs)
      · exact .inr ⟨hdone, Nat.le_trans hturn (Nat.succ_le_succ hs)⟩
    · rw [Job.turn_of_isDone hdone]
      exact .inr ⟨hdone, hs⟩
  obtain ⟨job, hsize⟩ := serve_keeps hstep (.inl (Nat.le_refl _))
  rcases hsize with hsize | ⟨-, hsize⟩
  · exact Nat.le_succ_of_le hsize
  · exact hsize

theorem size_respond (r : Registry σ) (moment : Moment) (question : Question) :
    Store.size (r.respond moment question).2.store ≤ Store.size r.store := by
  have hcall : ∀ (c : Call) (s : σ), c.adds = false →
      Store.size (Store.call c moment.now s).2 ≤ Store.size s := fun c s hc =>
    Modest.size_call hc moment.now s
  cases question with
  | list filter cursor limit => exact hcall (.list filter cursor (r.config.pageSize limit)) r.store rfl
  | get id => exact hcall (.getById id) r.store rfl
  | getVersion id version => exact hcall (.getVersion id version) r.store rfl
  | versions name =>
      have hstep : ∀ (c : Collect) (s : σ), Store.size s ≤ Store.size r.store →
          Store.size (Store.call c.ask moment.now s).2 ≤ Store.size r.store := fun c s hs =>
        Nat.le_trans (hcall c.ask s rfl) hs
      let run := Collect.machine.runAt (fun _ => r.call moment.now) (fun _ => moment)
        (Collect.rounds (PacedStore.size r.store)) 0 (.running (Publish.lookup r.config name)) r.store
      have hkeeps : ∃ progress : Progress Collect (Reply (List Record)),
          Store.size run.2 ≤ Store.size r.store ∧ run.1 = progress.result? :=
        Collect.machine.runAt_keeps (fun _ => r.call moment.now) (fun _ => moment)
          (fun _ s => Store.size s ≤ Store.size r.store) (fun _ c s hs => hstep c s hs) _ 0
          (Nat.le_refl _)
      obtain ⟨-, hsize, -⟩ := hkeeps
      exact hsize

/-- **An errand adds one record at most.** -/
theorem size_attend (r : Registry σ) (errand : Errand) :
    Store.size (r.attend errand).2.store ≤ Store.size r.store + 1 := by
  cases errand with
  | visit v =>
      rw [attend_visit, visited_snd]
      exact r.size_serve v
  | ask moment question => exact Nat.le_succ_of_le (r.size_respond moment question)

end

/-! ### A registry and the part of it that belongs to a realm -/

/-- A registry that holds the part of another one that belongs to a realm. -/
structure Secluded {σ : Type} [Store σ] [Catalog σ] [Divisible σ] (R : Realm)
    (alone whole : Registry σ) : Prop where
  config : alone.config = whole.config
  validator : alone.validator = whole.validator
  extract : Extract R alone.store whole.store

section

variable {σ : Type} [Store σ] [Catalog σ] [Divisible σ] {R : Realm} {alone whole : Registry σ}

/-- A change that is in step is made in the same way. -/
theorem Secluded.change (h : Secluded R alone whole) {τ : Type} {m : Machine τ Change}
    {start : Progress τ Change} {clock : Nat → Moment} {bound rounds rounds' : Nat}
    (hstep : m.InStep clock 0 bound (fun _ t s => Extract R t s) start start alone.store whole.store)
    (hrounds : bound ≤ rounds) (hrounds' : bound ≤ rounds') :
    (alone.change m start clock rounds).1 = (whole.change m start clock rounds').1 ∧
      Secluded R (alone.change m start clock rounds).2 (whole.change m start clock rounds').2 := by
  obtain ⟨change, t, s, halone, hwhole, hextract⟩ := hstep.runAt hrounds hrounds'
  have hrun : m.runAt alone.call clock rounds 0 start alone.store = (some change, t) := halone
  have hrun' : m.runAt whole.call clock rounds' 0 start whole.store = (some change, s) := hwhole
  rw [change_eq, change_eq, hrun, hrun']
  refine ⟨by simp only [concluded_fst], ?_, ?_, ?_⟩
  · rw [concluded_config, concluded_config, h.config]
  · rw [concluded_validator, concluded_validator, h.validator]
  · rw [concluded_store, concluded_store]
    exact hextract

/-- A question of one call that concerns a realm only is answered in the same way. -/
theorem Secluded.ask (h : Secluded R alone whole) {c : Call} (hc : R.Confined c) (now : Instant) :
    (alone.ask now c).1 = (whole.ask now c).1 ∧ Secluded R (alone.ask now c).2 (whole.ask now c).2 := by
  obtain ⟨hsame, hextract⟩ := h.extract.confined hc now
  exact ⟨congrArg ofReply hsame, h.config, h.validator, hextract⟩

variable (hfew : Store.size whole.store ≤ Cursor.limit)
include hfew

theorem Secluded.versions (h : Secluded R alone whole) (moment : Moment) {name : String}
    (hname : name ∈ R.names) : (alone.versions moment name).1 = (whole.versions moment name).1 ∧
      Secluded R (alone.versions moment name).2 (whole.versions moment name).2 := by
  have hread := Collect.inStep_resident (fun _ => moment) h.extract hfew whole.config hname 0
  obtain ⟨reply, t, s, halone, hwhole, rfl, rfl, -⟩ := hread.runAt (Nat.le_refl _)
    (Nat.succ_le_succ h.extract.size_le)
  have hrun : Collect.machine.run (alone.call moment.now) moment
      (Collect.rounds (PacedStore.size alone.store)) (.running (Publish.lookup alone.config name))
        alone.store = (some reply, alone.store) := by
    rw [h.config]
    exact (Machine.run_eq_runAt _ alone.call _ _ _ _ _).trans halone
  have hrun' : Collect.machine.run (whole.call moment.now) moment
      (Collect.rounds (PacedStore.size whole.store)) (.running (Publish.lookup whole.config name))
        whole.store = (some reply, whole.store) :=
    (Machine.run_eq_runAt _ whole.call _ _ _ _ _).trans hwhole
  simp only [Registry.versions, hrun, hrun', true_and]
  exact h

variable [Cabinet σ] [Modest σ]

/-- A visit to servers of a realm comes to the same. -/
theorem Secluded.visit {bags : Bag → Prop} {errands : List Errand} (h : Secluded (realm bags errands) alone whole) {v : Visit}
    (hv : .visit v ∈ errands) : (alone.visited v).1 = (whole.visited v).1 ∧
      Secluded (realm bags errands) (alone.visited v).2 (whole.visited v).2 := by
  have hmanifest : (realm bags errands).Has v.demand.manifest := has_of_mem hv
  obtain ⟨clock, demand⟩ := v
  cases demand with
  | publish submission publisher =>
      let p : Publish := ⟨whole.config, whole.validator, submission, publisher⟩
      have hsame : (⟨alone.config, alone.validator, submission, publisher⟩ : Publish) = p := by
        rw [h.config, h.validator]
      have hresident : p.Resident (realm bags errands) :=
        ⟨hmanifest, List.mem_flatMap.2 ⟨_, hv, List.mem_cons_self⟩⟩
      have hstep := Publish.inStep clock h.extract hfew hresident
        (fun i => ⟨_, hv, i, rfl⟩) 0
      simp only [visited, publishAt, hsame]
      exact h.change hstep (Nat.le_refl _) (p.rounds_mono h.extract.size_le)
  | edit id submission editor =>
      let e : Edit := ⟨whole.config, whole.validator, id, submission, editor⟩
      have hsame : (⟨alone.config, alone.validator, id, submission, editor⟩ : Edit) = e := by
        rw [h.config, h.validator]
      have hresident : e.Resident (realm bags errands) := ⟨hmanifest, _, hv, rfl⟩
      have hstep := Edit.inStep clock h.extract hfew hresident 0
      simp only [visited, editAt, hsame]
      exact h.change hstep (Nat.le_refl _) (e.rounds_mono h.extract.size_le)

omit [Cabinet σ] [Modest σ] in
theorem Secluded.respond {bags : Bag → Prop} {errands : List Errand} (h : Secluded (realm bags errands) alone whole)
    {moment : Moment} {question : Question} (hq : .ask moment question ∈ errands)
    (hpage : ¬(Errand.ask moment question).IsPage) :
    (alone.respond moment question).1 = (whole.respond moment question).1 ∧
      Secluded (realm bags errands) (alone.respond moment question).2 (whole.respond moment question).2 := by
  cases question with
  | list filter cursor limit => exact absurd trivial hpage
  | get id =>
      have hid : (realm bags errands).ids id := ⟨_, hq, rfl⟩
      obtain ⟨hsame, hafter⟩ := h.ask (.getById hid) moment.now
      exact ⟨congrArg (fun reply => Response.record (found ("server " ++ id.text) reply)) hsame, hafter⟩
  | getVersion id version =>
      have hid : (realm bags errands).ids id := ⟨_, hq, rfl⟩
      obtain ⟨hsame, hafter⟩ := h.ask (.getVersion version hid) moment.now
      exact ⟨congrArg (fun reply =>
        Response.record (found ("server " ++ id.text ++ " version " ++ version) reply)) hsame, hafter⟩
  | versions name =>
      obtain ⟨hsame, hafter⟩ := h.versions hfew moment
        (List.mem_flatMap.2 ⟨_, hq, List.mem_cons_self⟩)
      exact ⟨congrArg Response.records hsame, hafter⟩

/-- **An errand is attended to in the same way**, with others about and without. -/
theorem Secluded.attend {bags : Bag → Prop} {errands : List Errand} (h : Secluded (realm bags errands) alone whole)
    {errand : Errand} (hmem : errand ∈ errands) (hpage : ¬errand.IsPage) :
    (alone.attend errand).1 = (whole.attend errand).1 ∧
      Secluded (realm bags errands) (alone.attend errand).2 (whole.attend errand).2 := by
  cases errand with
  | visit v =>
      obtain ⟨hsame, hafter⟩ := h.visit hfew hmem
      rw [attend_visit, attend_visit]
      exact ⟨congrArg Response.record hsame, hafter⟩
  | ask moment question => exact h.respond hfew hmem hpage

omit hfew [Modest σ] in
/-- **A visit elsewhere leaves a realm alone.** -/
theorem Secluded.serve {bags : Bag → Prop} {errands : List Errand} (h : Secluded (realm bags errands) alone whole) {v : Visit}
    (hv : Elsewhere errands v) (hbag : bags v.demand.bag) :
    Secluded (realm bags errands) alone (whole.serve v) := by
  have hstep : ∀ (i : Nat) (job : Job) (s : σ), (Extract (realm bags errands) alone.store s ∧
      job.Stranger (realm bags errands) v.clock ∧ job.Apart (realm bags errands)) →
      Extract (realm bags errands) alone.store (job.turn (v.clock i) s).2 ∧
        (job.turn (v.clock i) s).1.Stranger (realm bags errands) v.clock ∧
        (job.turn (v.clock i) s).1.Apart (realm bags errands) := by
    rintro i job s ⟨hextract, hstranger, hapart⟩
    obtain ⟨hextract', hapart'⟩ := hapart.turn hextract i hstranger
    exact ⟨hextract', hstranger.of_turn _ _, hapart'⟩
  obtain ⟨job, hextract, -⟩ := serve_keeps hstep
    ⟨h.extract, hv.stranger hbag whole.config whole.validator, Job.apart_job _ _⟩
  exact ⟨h.config.trans (whole.config_serve v).symm, h.validator.trans (whole.validator_serve v).symm,
    hextract⟩

end

section

variable {σ : Type} [Store σ] [Catalog σ] [Divisible σ] [Cabinet σ] [Modest σ] {alone whole : Registry σ}

/-- **Errands are attended to in the same way**, one after the other, with visits of others in between and
without. -/
theorem Secluded.attendAmong {bags : Bag → Prop} {errands : List Errand} {calls : List (Errand ⊕ Visit)}
    (h : Secluded (realm bags errands) alone whole)
    (hfew : Store.size whole.store + calls.length ≤ Cursor.limit)
    (hmine : ∀ errand ∈ mine calls, errand ∈ errands ∧ ¬errand.IsPage)
    (hothers : ∀ v ∈ others calls, Elsewhere errands v ∧ bags v.demand.bag) :
    (whole.attendAmong calls).1 = (alone.attendAll (mine calls)).1 ∧
      Secluded (realm bags errands) (alone.attendAll (mine calls)).2 (whole.attendAmong calls).2 := by
  induction calls generalizing alone whole with
  | nil => exact ⟨rfl, h⟩
  | cons call calls ih =>
      rw [List.length_cons] at hfew
      cases call with
      | inl errand =>
          obtain ⟨hmem, hpage⟩ := hmine errand List.mem_cons_self
          obtain ⟨hsame, hafter⟩ := h.attend (by omega) hmem hpage
          have hsize := whole.size_attend errand
          obtain ⟨hrest, hend⟩ := ih hafter (by omega)
            (fun e he => hmine e (List.mem_cons_of_mem _ he)) hothers
          exact ⟨congrArg₂ List.cons hsame.symm hrest, hend⟩
      | inr v =>
          obtain ⟨helsewhere, hbag⟩ := hothers v List.mem_cons_self
          have hafter := h.serve helsewhere hbag
          have hsize := whole.size_serve v
          exact ih hafter (by omega) hmine fun u hu => hothers u (List.mem_cons_of_mem _ hu)

end

/-- **Errands are attended to as if there were no others**, by a registry with a list and by one with a table:
if others insert visits that deal with nothing that the errands deal with, the responses are the same as
without them, and so is what is stored under the names that the errands use, in the same order.  The table
must be able to look at the URLs in the documents of others. -/
theorem attendAmong_isolated (config : Config) (validator : Manifest.Validator) (events : Broadcast Event)
    {calls : List (Errand ⊕ Visit)} (hpages : ∀ errand ∈ mine calls, ¬errand.IsPage)
    (hothers : ∀ v ∈ others calls, Elsewhere (mine calls) v) (hfew : calls.length ≤ Cursor.limit) :
    let names := (mine calls).flatMap Errand.names
    (let among := attendAmong ⟨config, validator, ({} : Memory), events⟩ calls;
      let alone := attendAll ⟨config, validator, ({} : Memory), events⟩ (mine calls);
      among.1 = alone.1 ∧
        (among.2.store.records.filter fun r => r.name ∈ names) = alone.2.store.records) ∧
    ((∀ v ∈ others calls, v.demand.bag.depth ≤ 999) →
      let among := attendAmong ⟨config, validator, ({} : Rows), events⟩ calls
      let alone := attendAll ⟨config, validator, ({} : Rows), events⟩ (mine calls)
      among.1 = alone.1 ∧
        (among.2.store.rows.filter fun row => row.name ∈ names) = alone.2.store.rows) := by
  intro names
  have hmine : ∀ errand ∈ mine calls, errand ∈ mine calls ∧ ¬errand.IsPage := fun errand hmem =>
    ⟨hmem, hpages errand hmem⟩
  have hsize : 0 + calls.length ≤ Cursor.limit := by rwa [Nat.zero_add]
  refine ⟨?_, ?_⟩
  · have hopening : Secluded (realm (fun _ => True) (mine calls))
        ⟨config, validator, ({} : Memory), events⟩ ⟨config, validator, ({} : Memory), events⟩ :=
      ⟨rfl, rfl, rfl, rfl, fun r hr => absurd hr List.not_mem_nil⟩
    obtain ⟨hsame, hend⟩ := hopening.attendAmong hsize hmine fun v hv => ⟨hothers v hv, trivial⟩
    exact ⟨hsame, (congrArg Memory.records hend.extract.part).symm⟩
  · intro hbags
    have hopening : Secluded (realm (fun bag => bag.depth ≤ 999) (mine calls))
        ⟨config, validator, ({} : Rows), events⟩ ⟨config, validator, ({} : Rows), events⟩ :=
      ⟨rfl, rfl, rfl, rfl, fun row hrow => absurd hrow List.not_mem_nil, shallow_realm _⟩
    obtain ⟨hsame, hend⟩ := hopening.attendAmong hsize hmine fun v hv => ⟨hothers v hv, hbags v hv⟩
    exact ⟨hsame, (congrArg Rows.rows hend.extract.part).symm⟩

/-- A publish of another server, which is offered the identity `7`. -/
def neighbour : Visit where
  clock _ := ⟨.epoch, ⟨7⟩⟩
  demand := .publish
    { manifest := { Race.manifest "1.0.0" "" with name := "c/d", remotes := [{ kind := .sse, url := "v" }] } }
    { subject := "t" }

/-- An attempt to put its manifest in place of a version of the first server. -/
def intruder : Visit where
  clock _ := ⟨.epoch, ⟨8⟩⟩
  demand := .edit ⟨0⟩ { manifest := { Race.manifest "1.0.0" "" with name := "c/d" } } { subject := "t" }

/-- A version that takes the place of the first one of a server and has a remote endpoint. -/
def successor : Visit where
  clock _ := ⟨.epoch, ⟨1⟩⟩
  demand := .publish
    { manifest := { Race.manifest "2.0.0" "" with remotes := [{ kind := .sse, url := "u" }] } }
    { subject := "s" }

/-- Two versions of a server and questions about it, and two visits of someone else in between. -/
def crossing : List (Errand ⊕ Visit) :=
  [.inl (.visit firstVisit), .inr neighbour, .inl (.visit successor), .inr intruder,
    .inl (.ask ⟨.epoch, ⟨0⟩⟩ (.versions "a/b")), .inl (.ask ⟨.epoch, ⟨0⟩⟩ (.get ⟨0⟩))]

/-- The other server is stored between the two versions, and nobody notices. -/
theorem attendAmong_isolated_crossing :
    (∀ errand ∈ mine crossing, ¬errand.IsPage) ∧
    (∀ v ∈ others crossing, Elsewhere (mine crossing) v) ∧ crossing.length ≤ Cursor.limit ∧
    (∀ v ∈ others crossing, v.demand.bag.depth ≤ 999) ∧
    (let among := attendAmong ⟨{}, fun _ => none, ({} : Memory), { room := 1 }⟩ crossing;
      among.2.store.records.map (fun r => (r.name, r.version, r.isLatest)) =
        [("a/b", "1.0.0", false), ("c/d", "1.0.0", true), ("a/b", "2.0.0", true)]) ∧
    let names := (mine crossing).flatMap Errand.names
    (let among := attendAmong ⟨{}, fun _ => none, ({} : Memory), { room := 1 }⟩ crossing;
      let alone := attendAll ⟨{}, fun _ => none, ({} : Memory), { room := 1 }⟩ (mine crossing);
      among.1 = alone.1 ∧
        (among.2.store.records.filter fun r => r.name ∈ names) = alone.2.store.records) ∧
    let among := attendAmong ⟨{}, fun _ => none, ({} : Rows), { room := 1 }⟩ crossing
    let alone := attendAll ⟨{}, fun _ => none, ({} : Rows), { room := 1 }⟩ (mine crossing)
    among.1 = alone.1 ∧
      (among.2.store.rows.filter fun row => row.name ∈ names) = alone.2.store.rows := by
  have hpages : ∀ errand ∈ mine crossing, ¬errand.IsPage := by
    simp [mine, crossing, Errand.IsPage]
  have hother : "c/d" ∉ (mine crossing).flatMap Errand.names ∧
      "t" ∉ (mine crossing).flatMap Errand.subjects ∧ "v" ∉ (mine crossing).flatMap Errand.urls := by
    simp [mine, crossing, Errand.names, Errand.subjects, Errand.urls, Demand.manifest, Demand.subject,
      firstVisit, successor, Race.manifest, Manifest.remoteUrls]
  have hcases : ∀ v ∈ others crossing, v = neighbour ∨ v = intruder := by
    simp [others, crossing]
  have hothers : ∀ v ∈ others crossing, Elsewhere (mine crossing) v := by
    intro v hv
    rcases hcases v hv with rfl | rfl
    · refine ⟨hother.1, hother.2.1, fun url hurl => ?_, ?_⟩
      · obtain rfl := List.mem_singleton.1 hurl
        exact hother.2.2
      · intro _ _ _ i
        simp [mine, crossing, Errand.Mentions, firstVisit, successor, neighbour]
    · refine ⟨hother.1, hother.2.1, fun url hurl => absurd hurl List.not_mem_nil, ?_⟩
      rintro _ _ ⟨⟩
  have hfew : crossing.length ≤ Cursor.limit := by decide
  have hbags : ∀ v ∈ others crossing, v.demand.bag.depth ≤ 999 := by
    intro v hv
    rcases hcases v hv with rfl | rfl <;> decide
  obtain ⟨hlist, htable⟩ :=
    attendAmong_isolated {} (fun _ => none) { room := 1 } hpages hothers hfew
  exact ⟨hpages, hothers, hfew, hbags, by decide +kernel, hlist, htable hbags⟩

end Registry

end ManifestRegistry
