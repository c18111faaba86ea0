/-
**Remote URLs belong to one name.**

Before anything is written for a visitor, all records that have one of the manifest's URLs are read, page
by page, until one of another name is met.  If none is, no record of another name has any of the URLs, and
as nobody else is at work on the store this is still so when the manifest is stored.  Whatever the visit
writes later is the manifest itself or was stored before, so no URL ever gets to a second name.  Nothing
else about the store matters: neither how many versions there are and which of them are latest, nor
whether identities are given out twice or bags can be read back.

Main definitions:

* `Registry.Exclusive` — manifests of different names share no remote URL;
* `Registry.Checking` — a check of URLs under way, and what it has found so far;
* `Registry.Cautious`, `Registry.Cleared` — what is known of a job before its checks are over and after;
* `Registry.Careful` — **one or the other**, from its first call to its last.

Main results:

* `Registry.Checking.receive` — **a page brings the check on**;
* `Registry.Careful.turn`, `Registry.exclusive_serve` — every call, and so every visit, keeps URLs apart;
* `Registry.urls_exclusive` — **after any visits URLs belong to one name**, in a list and in a table.
-/

import ManifestRegistry.Proofs.Registry.Alone
import ManifestRegistry.Proofs.Service.Carrying

set_option relaxedAutoImplicit false
set_option autoImplicit false

namespace ManifestRegistry

open Service Storage

namespace Registry

/-! ### Manifests -/

/-- Manifests of different names share no remote URL. -/
def Exclusive (M : Manifest → Prop) : Prop :=
  ∀ m m', M m → M m' → m.name ≠ m'.name → ∀ url ∈ m.remoteUrls, url ∉ m'.remoteUrls

/-- A manifest that has some URLs only if it has a name. -/
def Leaves (name : String) (urls : List String) (m : Manifest) : Prop :=
  ∀ url ∈ urls, url ∈ m.remoteUrls → m.name = name

/-- Manifests that leave the URLs of another one to its name, and this one. -/
def Joined (M : Manifest → Prop) (m : Manifest) (m' : Manifest) : Prop :=
  (M m' ∧ Leaves m.name m.remoteUrls m') ∨ m' = m

/-- **A manifest whose URLs are free may join.** -/
theorem Exclusive.joined {M : Manifest → Prop} (h : Exclusive M) (m : Manifest) :
    Exclusive (Joined M m) := by
  rintro a b (⟨ha, hleave⟩ | rfl) (⟨hb, hleave'⟩ | rfl) hne url hurl hurl'
  · exact h a b ha hb hne url hurl hurl'
  · exact hne (hleave url hurl' hurl)
  · exact hne (hleave' url hurl hurl').symm
  · exact hne rfl

/-- A dated record with one of some manifests. -/
def Of (M : Manifest → Prop) (r : Record) : Prop := r.IsDated ∧ M r.manifest

theorem durable_of (M : Manifest → Prop) : Durable (Of M) where
  dated h := h.1
  reread _ h _ := h

/-- What a job makes has one of the manifests, if its own is one of them. -/
theorem makes_of {M : Manifest → Prop} {job : Job} {moment : Moment} (hm : M job.manifest)
    (hn : moment.now.IsReading) : job.Makes (Of M) moment := by
  cases job with
  | publish p progress =>
      refine ⟨?_, ?_⟩
      · intro existing
        exact ⟨Registration.isDated_new hn, hm⟩
      · intro l hl
        exact ⟨hl.1.demoted hn, hl.2⟩
  | edit e progress =>
      intro x hx
      exact ⟨Edit.isDated_edited hx.1 hn, hm⟩

section

variable {σ : Type} [Store σ] [Catalog σ] [Cabinet σ] {M : Manifest → Prop} {m : Manifest} {s : σ}
  {o : Ownership} {moment : Moment}

/-! ### Checking URLs -/

omit [Cabinet σ] in
/-- A check writes nothing. -/
theorem call_ask (h : Catalog.IsOpen s) (now : Instant) : (Store.call o.ask now s).2 = s :=
  congrArg Prod.snd (Catalog.call_list h { remoteUrl := some o.url } o.cursor Ownership.pageSize now)

/-- All documents of a store are those of some manifests, which leave some URLs to a name. -/
def Searched (M : Manifest → Prop) (name : String) (urls : List String) (s : σ) : Prop :=
  Cabinet.Bears (fun r => Of M r ∧ Leaves name urls r.manifest) s

theorem durable_leaves (M : Manifest → Prop) (name : String) (urls : List String) :
    Durable fun r => Of M r ∧ Leaves name urls r.manifest where
  dated h := h.1.1
  reread _ h _ := h

theorem Searched.bears {name : String} {urls : List String} (h : Searched M name urls s) :
    Cabinet.Bears (Of M) s :=
  Cabinet.mono h fun _ hr => hr.1

theorem searched_nil (h : Cabinet.Bears (Of M) s) (name : String) : Searched M name [] s := by
  refine Cabinet.mono h ?_
  intro r hr
  exact ⟨hr, fun url hurl => absurd hurl List.not_mem_nil⟩

/-- A URL that is shown with one name only is left to that name. -/
theorem Searched.concat {name : String} {urls : List String} (h : Searched M name urls s)
    {url : String} (hall : ∀ e ∈ Catalog.selected s { remoteUrl := some url },
      ∃ x, e.2 = .ok x ∧ x.name = name) : Searched M name (urls ++ [url]) s := by
  refine Cabinet.mono (Cabinet.narrow (durable_leaves M name urls) h hall) ?_
  rintro r ⟨⟨hr, hleave⟩, hone⟩
  refine ⟨hr, ?_⟩
  intro url' hurl' hin
  rcases List.mem_append.1 hurl' with hurl' | hurl'
  · exact hleave url' hurl' hin
  · obtain rfl := List.mem_singleton.1 hurl'
    exact hone hin

/-- The pages of a URL that have been read: they begin what the store shows for it, and all that is on
them has the name. -/
structure Scanned (s : σ) (o : Ownership) : Prop where
  pages : ∃ done rest, Catalog.selected s { remoteUrl := some o.url } = done ++ rest ∧
    o.cursor = Page.after done ∧ ∀ e ∈ done, ∃ x, e.2 = .ok x ∧ x.name = o.name

/-- A check of the URLs of a manifest under way: those before have been searched for, and the pages of
this one are being read. -/
def Checking (M : Manifest → Prop) (m : Manifest) (s : σ) : Progress Ownership (Outcome Unit) → Prop
  | .running o => o.name = m.name ∧ Scanned s o ∧
      ∃ urls, m.remoteUrls = urls ++ o.url :: o.later ∧ Searched M m.name urls s
  | .finished (.ok ()) => Searched M m.name m.remoteUrls s
  | .finished (.error _) => Cabinet.Bears (Of M) s

theorem Checking.bears {progress : Progress Ownership (Outcome Unit)}
    (h : Checking M m s progress) : Cabinet.Bears (Of M) s := by
  cases progress with
  | running o =>
      obtain ⟨-, -, urls, -, hs⟩ := h
      exact hs.bears
  | finished r =>
      cases r with
      | error stop => exact h
      | ok _ => exact Searched.bears h

/-- The check goes on with the URLs that have not been searched for. -/
theorem checking_checkAll {urls later : List String} (hurls : m.remoteUrls = urls ++ later)
    (h : Searched M m.name urls s) : Checking M m s (Ownership.checkAll m.name later) := by
  cases later with
  | nil =>
      rw [List.append_nil] at hurls
      show Searched M m.name m.remoteUrls s
      rwa [hurls]
  | cons url later =>
      refine ⟨rfl, ⟨[], _, rfl, rfl, ?_⟩, urls, hurls, h⟩
      intro e he
      exact absurd he List.not_mem_nil

/-- **A page brings the check on**: it shows another name and ends the check, or the pages go on, or the
URL has been searched for. -/
theorem Checking.receive (h : Checking M m s (.running o)) :
    Checking M m s (o.receive moment (Store.call o.ask moment.now s).1) := by
  have hbears := h.bears
  obtain ⟨hname, ⟨done, rest, hsplit, hcursor, hdone⟩, urls, hurls, hsearched⟩ := h
  have hask : (Store.call o.ask moment.now s).1 =
      listing (done ++ rest) (Page.after done) Ownership.pageSize := by
    have hcall := Catalog.call_list (Cabinet.isOpen hbears) { remoteUrl := some o.url } o.cursor
      Ownership.pageSize moment.now
    refine (congrArg Prod.fst hcall).trans ?_
    rw [hsplit, hcursor]
  rw [hask]
  cases hreply : listing (done ++ rest) (Page.after done) Ownership.pageSize with
  | error stop => exact hbears
  | ok page =>
      obtain ⟨as, htake, rfl⟩ := listing_after (hsplit ▸ Catalog.ascending s _) hreply
      cases hother : (as.map Prod.snd).find? fun r => r.name ≠ o.name with
      | some other =>
          simp only [Ownership.receive, ofReply, Page.items_ofSequenced, hother]
          exact hbears
      | none =>
          have hread : ∀ e ∈ done ++ rest.take Ownership.pageSize,
              ∃ x, e.2 = .ok x ∧ x.name = o.name := by
            intro e he
            rcases List.mem_append.1 he with he | he
            · exact hdone e he
            · rw [htake] at he
              obtain ⟨a, ha, rfl⟩ := List.mem_map.1 he
              have hnone := List.find?_eq_none.1 hother a.2 (List.mem_map_of_mem ha)
              exact ⟨a.2, rfl, by simpa using hnone⟩
          have hsize : 0 < Ownership.pageSize := by decide
          rcases turned_shown done hsize htake with ⟨hnext, hnil⟩ | ⟨cursor, hnext, hafter⟩
          · -- the last page: nothing that lists the URL has been left out
            have hall : ∀ e ∈ Catalog.selected s { remoteUrl := some o.url },
                ∃ x, e.2 = .ok x ∧ x.name = m.name := by
              intro e he
              rw [hsplit, ← List.take_append_drop Ownership.pageSize rest, hnil,
                List.append_nil] at he
              rw [← hname]
              exact hread e he
            simp only [Ownership.receive, ofReply, Page.items_ofSequenced, hother, hnext]
            rw [hname]
            refine checking_checkAll ?_ (hsearched.concat hall)
            rw [hurls, List.append_assoc]
            rfl
          · simp only [Ownership.receive, ofReply, Page.items_ofSequenced, hother, hnext]
            refine ⟨hname, ⟨_, rest.drop Ownership.pageSize, ?_, hafter, hread⟩,
              urls, hurls, hsearched⟩
            rw [hsplit, List.append_assoc, List.take_append_drop]

/-! ### Jobs before their checks and after -/

/-- What is known of a job before its checks are over: nothing has been written, and the URLs searched
for so far are free. -/
def Cautious (M : Manifest → Prop) (s : σ) : Job → Prop
  | .publish _ (.running (.quota _)) => Cabinet.Bears (Of M) s
  | .publish p (.running (.ownership o)) => Checking M p.manifest s (.running o)
  | .edit e (.running (.ownership o)) => Checking M e.manifest s (.running o)
  | _ => False

/-- What is known of a job after its checks: all that is stored and carried keeps to manifests that
share no URL, its own being one of them, unless it is done. -/
structure Cleared (s : σ) (job : Job) (M : Manifest → Prop) : Prop where
  exclusive : Exclusive M
  bears : Cabinet.Bears (Of M) s
  carries : job.Carries (Of M)
  manifest : job.IsDone ∨ M job.manifest

/-- What is known of the job of a visit. -/
def Careful (M : Manifest → Prop) (job : Job) (s : σ) : Prop :=
  Cautious M s job ∨ ∃ M', Cleared s job M'

/-- A careful job leaves a store whose manifests share no URL. -/
theorem Careful.exclusive (hM : Exclusive M) {job : Job} (h : Careful M job s) :
    ∃ M', Exclusive M' ∧ Cabinet.Bears (Of M') s := by
  rcases h with h | ⟨M', h⟩
  · refine ⟨M, hM, ?_⟩
    unfold Cautious at h
    split at h
    · exact h
    · exact h.bears
    · exact h.bears
    · exact h.elim
  · exact ⟨M', h.exclusive, h.bears⟩

section

variable (hM : Exclusive M)
include hM

theorem careful_failed (h : Cabinet.Bears (Of M) s) (p : Publish) (stop : Stop Failure) :
    Careful M (.publish p (.finished (.error stop))) s :=
  .inr ⟨M, hM, h, trivial, .inl trivial⟩

theorem careful_failed_edit (h : Cabinet.Bears (Of M) s) (e : Edit) (stop : Stop Failure) :
    Careful M (.edit e (.finished (.error stop))) s :=
  .inr ⟨M, hM, h, trivial, .inl trivial⟩

/-- When all URLs have been searched for, the manifest joins those that are stored. -/
theorem cleared_of_searched (h : Searched M m.name m.remoteUrls s) {job : Job} (hm : job.manifest = m)
    (hc : job.Carries (Of (Joined M m))) : Cleared s job (Joined M m) where
  exclusive := hM.joined m
  bears := Cabinet.mono h fun _ hr => ⟨hr.1.1, .inl ⟨hr.1.2, hr.2⟩⟩
  carries := hc
  manifest := .inr (.inr hm)

theorem careful_ownership {p : Publish} {progress : Progress Ownership (Outcome Unit)}
    (h : Checking M p.manifest s progress) :
    Careful M (.publish p (progress.andThen Publish.Phase.ownership p.afterOwnership)) s := by
  cases progress with
  | running o => exact .inl h
  | finished r =>
      cases r with
      | error stop => exact careful_failed hM h p stop
      | ok _ =>
          have hc := Job.carries_of_opened (P := Of (Joined M p.manifest))
            (Publish.opened_retry (p := p) Publish.maxAttempts "")
          exact .inr ⟨_, cleared_of_searched hM h rfl hc⟩

theorem careful_ownership_edit {e : Edit} {progress : Progress Ownership (Outcome Unit)}
    (h : Checking M e.manifest s progress) :
    Careful M (.edit e (progress.andThen Edit.Phase.ownership Edit.afterOwnership)) s := by
  cases progress with
  | running o => exact .inl h
  | finished r =>
      cases r with
      | error stop => exact careful_failed_edit hM h e stop
      | ok _ => exact .inr ⟨_, cleared_of_searched hM h rfl trivial⟩

theorem careful_afterQuota (h : Cabinet.Bears (Of M) s) (p : Publish)
    (outcome : Outcome Quota.Decision) : Careful M (.publish p (p.afterQuota outcome)) s := by
  cases outcome with
  | error stop => exact careful_failed hM h p stop
  | ok decision =>
      simp only [Publish.afterQuota]
      split
      · exact careful_failed hM h p _
      · split
        · exact careful_failed hM h p _
        · exact careful_ownership hM (checking_checkAll rfl (searched_nil h _))

theorem careful_job (h : Cabinet.Bears (Of M) s) (request : Request) : Careful M request.job s := by
  cases request with
  | publish p =>
      show Careful M (.publish p (p.quota.start.andThen Publish.Phase.quota p.afterQuota)) s
      cases p.quota.start with
      | running q => exact .inl h
      | finished r => exact careful_afterQuota hM h p r
  | edit e =>
      show Careful M (.edit e e.start) s
      unfold Edit.start
      split
      · exact careful_failed_edit hM h e _
      · exact careful_ownership_edit hM (checking_checkAll rfl (searched_nil h _))

/-- A call of a job at its checks. -/
theorem Cautious.turn {job : Job} (h : Cautious M s job) :
    Careful M (job.turn moment s).1 (job.turn moment s).2 := by
  unfold Cautious at h
  split at h
  · rename_i p q
    simp only [Job.turn, Machine.step, Publish.machine, Publish.ask, Quota.ask, within_eq_call]
    rw [Cabinet.call_countRecent]
    exact careful_afterQuota hM h p _
  · rename_i p o
    show Careful M (.publish p ((o.receive moment (Store.call o.ask moment.now s).1).andThen
      Publish.Phase.ownership p.afterOwnership)) (Store.call o.ask moment.now s).2
    rw [call_ask (Cabinet.isOpen h.bears)]
    exact careful_ownership hM h.receive
  · rename_i e o
    show Careful M (.edit e ((o.receive moment (Store.call o.ask moment.now s).1).andThen
      Edit.Phase.ownership Edit.afterOwnership)) (Store.call o.ask moment.now s).2
    rw [call_ask (Cabinet.isOpen h.bears)]
    exact careful_ownership_edit hM h.receive
  · exact h.elim

omit hM in
/-- A call of a job after its checks. -/
theorem Cleared.turn {job : Job} {M' : Manifest → Prop} (h : Cleared s job M')
    (hn : moment.now.IsReading) : Cleared (job.turn moment s).2 (job.turn moment s).1 M' := by
  rcases h.manifest with hdone | hm
  · rw [Job.turn_of_isDone hdone]
    exact h
  · obtain ⟨hs, hc⟩ := Job.Carries.turn (durable_of M') h.bears h.carries (makes_of hm hn)
    exact ⟨h.exclusive, hs, hc, .inr (by rwa [Job.manifest_turn])⟩

/-- **Every call of a visit keeps URLs apart.** -/
theorem Careful.turn {job : Job} (h : Careful M job s) (hn : moment.now.IsReading) :
    Careful M (job.turn moment s).1 (job.turn moment s).2 := by
  rcases h with h | ⟨M', h⟩
  · exact h.turn hM
  · exact .inr ⟨M', h.turn hn⟩

end

/-! ### Visits -/

/-- **Every visit keeps URLs apart.** -/
theorem exclusive_serve (hM : Exclusive M) {r : Registry σ} (h : Cabinet.Bears (Of M) r.store)
    {v : Visit} (hv : ∀ i, (v.clock i).now.IsReading) :
    ∃ M', Exclusive M' ∧ Cabinet.Bears (Of M') (r.serve v).store := by
  obtain ⟨job, hjob⟩ := serve_keeps (v := v) (fun i job s hs => Careful.turn hM hs (hv i))
    (careful_job hM h (v.demand.request r.config r.validator))
  exact hjob.exclusive hM

/-- Any visits keep URLs apart. -/
theorem exclusive_serveAll (hM : Exclusive M) {r : Registry σ} (h : Cabinet.Bears (Of M) r.store)
    {visits : List Visit} (hv : ∀ v ∈ visits, ∀ i, (v.clock i).now.IsReading) :
    ∃ M', Exclusive M' ∧ Cabinet.Bears (Of M') (r.serveAll visits).store := by
  induction visits generalizing r M with
  | nil => exact ⟨M, hM, h⟩
  | cons v visits ih =>
      obtain ⟨M₁, hM₁, h₁⟩ := exclusive_serve hM h (hv v List.mem_cons_self)
      exact ih hM₁ h₁ fun u hu => hv u (List.mem_cons_of_mem _ hu)

end

/-- Records of different names share no remote URL. -/
def ExclusiveUrls (rs : List Record) : Prop :=
  ∀ r ∈ rs, ∀ s ∈ rs, r.name ≠ s.name → ∀ url ∈ r.manifest.remoteUrls, url ∉ s.manifest.remoteUrls

theorem Exclusive.records {M : Manifest → Prop} (hM : Exclusive M) {rs : List Record}
    (h : ∀ r ∈ rs, Of M r) : ExclusiveUrls rs :=
  fun r hr s hs hne => hM _ _ (h r hr).2 (h s hs).2 hne

/-- **After any visits remote URLs belong to one name**, counting all versions: no two records of
different names share one, in a list, nor do any two that the rows of a table hold. -/
theorem urls_exclusive (config : Config) (validator : Manifest.Validator) (events : Broadcast Event)
    {visits : List Visit} (hv : ∀ v ∈ visits, ∀ i, (v.clock i).now.IsReading) :
    ExclusiveUrls (serveAll ⟨config, validator, ({} : Memory), events⟩ visits).store.records ∧
    ∃ rs, List.Forall₂ Rows.Holds
      (serveAll ⟨config, validator, ({} : Rows), events⟩ visits).store.rows rs ∧
        ExclusiveUrls rs := by
  have hnone : Exclusive fun _ => False := fun _ _ h => h.elim
  constructor
  · have hopening : Cabinet.Bears (Of fun _ => False) ({} : Memory) :=
      ⟨rfl, fun r hr => absurd hr List.not_mem_nil⟩
    obtain ⟨M, hM, -, hall⟩ := exclusive_serveAll hnone
      (r := (⟨config, validator, {}, events⟩ : Registry Memory)) hopening hv
    exact hM.records hall
  · have hopening : Cabinet.Bears (Of fun _ => False) ({} : Rows) :=
      ⟨rfl, fun r hr => absurd hr List.not_mem_nil⟩
    obtain ⟨M, hM, -, hall⟩ := exclusive_serveAll hnone
      (r := (⟨config, validator, {}, events⟩ : Registry Rows)) hopening hv
    obtain ⟨rs, hheld, hof⟩ := Rows.exists_held (durable_of M) hall
    exact ⟨rs, hheld, hM.records hof⟩

/-- A version of a server with one remote endpoint. -/
def offer (name url : String) : Submission where
  manifest := { Race.manifest "1.0.0" "" with name, remotes := [{ kind := .sse, url }] }

/-- A URL is refused to a second name until an edit of the first one gives it up. -/
def handover : List Visit :=
  [⟨fun _ => ⟨.epoch, ⟨1⟩⟩, .publish (offer "a/b" "u") { subject := "s" }⟩,
    ⟨fun _ => ⟨.epoch, ⟨2⟩⟩, .publish (offer "c/d" "u") { subject := "s" }⟩,
    ⟨fun _ => ⟨.epoch, ⟨3⟩⟩, .edit ⟨1⟩ (offer "a/b" "v") { subject := "s" }⟩,
    ⟨fun _ => ⟨.epoch, ⟨4⟩⟩, .publish (offer "c/d" "u") { subject := "s" }⟩]

/-- The URL goes from one name to the other, and never belongs to both. -/
theorem urls_exclusive_handover :
    (∀ v ∈ handover, ∀ i, (v.clock i).now.IsReading) ∧
    (serveAll ⟨{}, fun _ => none, ({} : Memory), { room := 1 }⟩ handover).store.records.map
      (fun r => (r.name, r.id, r.manifest.remoteUrls)) =
        [("a/b", ⟨1⟩, ["v"]), ("c/d", ⟨4⟩, ["u"])] ∧
    ExclusiveUrls (serveAll ⟨{}, fun _ => none, ({} : Memory), { room := 1 }⟩ handover).store.records ∧
    ∃ rs, List.Forall₂ Rows.Holds
      (serveAll ⟨{}, fun _ => none, ({} : Rows), { room := 1 }⟩ handover).store.rows rs ∧
        ExclusiveUrls rs := by
  have hepoch : Instant.epoch.IsReading := by decide
  have hv : ∀ v ∈ handover, ∀ i, (v.clock i).now.IsReading := by
    intro v hmem i
    simp only [handover, List.mem_cons, List.not_mem_nil, or_false] at hmem
    rcases hmem with rfl | rfl | rfl | rfl <;> exact hepoch
  exact ⟨hv, by decide +kernel, urls_exclusive {} (fun _ => none) { room := 1 } hv⟩

end Registry

end ManifestRegistry
