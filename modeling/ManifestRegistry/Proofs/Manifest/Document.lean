/-
**Manifests read back.**

Each part of a manifest is read back from its document, and so is the manifest, wherever as many
containers may be nested as its document has.

Main results:

* `Manifest.Repository.reads_json`, `Manifest.Input.reads_json`, `Manifest.Package.reads_json`,
  `Manifest.Remote.reads_json` — the parts;
* `Manifest.takes_entries`, `Manifest.reads_json` — **a manifest is read back**.
-/

import ManifestRegistry.Proofs.Shape.Layout

set_option relaxedAutoImplicit false
set_option autoImplicit false

namespace ManifestRegistry

open Shape Shape.Layout

theorem Transport.reads_json (t : Transport) : Reads Transport.shape 0 t.json t :=
  reads_variant t.lookup_name

theorem Status.reads_json (s : Status) : Reads Status.shape 0 s.json s :=
  reads_variant s.lookup_name

theorem reads_optional_string (s : String) : Reads (optional string) 0 (.text s) (some s) :=
  (reads_string s).optional (fun h => by cases h)

namespace Manifest

/-- A repository is read back. -/
theorem Repository.reads_json (r : Repository) : Reads Repository.shape 1 r.json r := by
  obtain ⟨url, source, id, subfolder⟩ := r
  refine reads (d := ⟨some url, some source, id.map some, subfolder.map some⟩) (fun o ho => ?_) ?_
  · have hurl : layout.Takes o {} [("url", .text url)] { url := some url } :=
      .entry rfl rfl (read_of (reads_string url) ho)
    have hsource : layout.Takes o { url := some url } [("source", .text source)]
        { url := some url, source := some source } :=
      .entry rfl rfl (read_of (reads_string source) ho)
    have hid : layout.Takes o { url := some url, source := some source }
        (optionalEntry "id" .text id) { url := some url, source := some source, id := id.map some } :=
      .optional rfl rfl (fun h => by rw [h]; rfl)
        fun s h => h ▸ read_of (reads_optional_string s) ho
    have hsubfolder : layout.Takes o
        { url := some url, source := some source, id := id.map some }
        (optionalEntry "subfolder" .text subfolder)
        ⟨some url, some source, id.map some, subfolder.map some⟩ :=
      .optional rfl rfl (fun h => by rw [h]; rfl)
        fun s h => h ▸ read_of (reads_optional_string s) ho
    exact ((hurl.append hsource).append hid).append hsubfolder
  · cases id <;> cases subfolder <;> rfl

/-- An input is read back. -/
theorem Input.reads_json (i : Input) : Reads Input.shape 1 i.json i := by
  obtain ⟨name, description, value, isRequired, isSecret⟩ := i
  refine reads (d := ⟨some name, description.map some, value.map some, some isRequired,
    some isSecret⟩) (fun o ho => ?_) ?_
  · have hname : layout.Takes o {} [("name", .text name)] { name := some name } :=
      .entry rfl rfl (read_of (reads_string name) ho)
    have hdescription : layout.Takes o { name := some name }
        (optionalEntry "description" .text description)
        { name := some name, description := description.map some } :=
      .optional rfl rfl (fun h => by rw [h]; rfl)
        fun s h => h ▸ read_of (reads_optional_string s) ho
    have hvalue : layout.Takes o { name := some name, description := description.map some }
        (optionalEntry "value" .text value)
        ⟨some name, description.map some, value.map some, none, none⟩ :=
      .optional rfl rfl (fun h => by rw [h]; rfl)
        fun s h => h ▸ read_of (reads_optional_string s) ho
    have hrequired : layout.Takes o ⟨some name, description.map some, value.map some, none, none⟩
        [("is_required", .bool isRequired)]
        ⟨some name, description.map some, value.map some, some isRequired, none⟩ :=
      .entry rfl rfl (read_of (reads_bool isRequired) ho)
    have hsecret : layout.Takes o
        ⟨some name, description.map some, value.map some, some isRequired, none⟩
        [("is_secret", .bool isSecret)]
        ⟨some name, description.map some, value.map some, some isRequired, some isSecret⟩ :=
      .entry rfl rfl (read_of (reads_bool isSecret) ho)
    exact ((hname.append hdescription).append hvalue).append (hrequired.append hsecret)
  · cases description <;> cases value <;> rfl

/-- A package's transport is read back. -/
theorem PackageTransport.reads_json (t : PackageTransport) :
    Reads PackageTransport.shape 1 t.json t := by
  obtain ⟨kind, url⟩ := t
  refine reads (d := ⟨some kind, url.map some⟩) (fun o ho => ?_) ?_
  · have hkind : layout.Takes o {} [("type", kind.json)] { kind := some kind } :=
      .entry rfl rfl (read_of kind.reads_json ho)
    have hurl : layout.Takes o { kind := some kind } (optionalEntry "url" .text url)
        ⟨some kind, url.map some⟩ :=
      .optional rfl rfl (fun h => by rw [h]; rfl)
        fun s h => h ▸ read_of (reads_optional_string s) ho
    exact hkind.append hurl
  · cases url <;> rfl

/-- What a list that may be left out is in a draft. -/
def listed {α : Type} (items : List α) : Option (List α) := if items.isEmpty then none else some items

@[simp] theorem getD_listed {α : Type} (items : List α) : (listed items).getD [] = items := by
  cases items <;> rfl

theorem listed_nil {α : Type} {items : List α} (h : items = []) : listed items = none := by
  rw [h]
  rfl

theorem listed_cons {α : Type} {items : List α} (h : items ≠ []) : listed items = some items := by
  cases items with
  | nil => exact absurd rfl h
  | cons a as => rfl

/-- A remote endpoint is read back. -/
theorem Remote.reads_json (r : Remote) : Reads Remote.shape 3 r.json r := by
  obtain ⟨kind, url, headers⟩ := r
  refine reads (d := ⟨some kind, some url, listed headers⟩) (fun o ho => ?_) ?_
  · have hkind : layout.Takes o {} [("type", kind.json)] { kind := some kind } :=
      .entry rfl rfl (read_of kind.reads_json (ho.mono (by omega)))
    have hurl : layout.Takes o { kind := some kind } [("url", .text url)]
        { kind := some kind, url := some url } :=
      .entry rfl rfl (read_of (reads_string url) (ho.mono (by omega)))
    have hheaders : layout.Takes o { kind := some kind, url := some url }
        (listEntry "headers" Input.json headers) ⟨some kind, some url, listed headers⟩ :=
      .list rfl rfl (fun h => by rw [listed_nil h]) fun h => by
        rw [listed_cons h]
        exact read_of (reads_list fun i _ => i.reads_json) ho
    exact (hkind.append hurl).append hheaders
  · simp [layout, need, bind, Except.bind]

/-- A package is read back. -/
theorem Package.reads_json (p : Package) : Reads Package.shape 3 p.json p := by
  obtain ⟨registryType, baseUrl, identifier, version, sha, hint, transport, environment⟩ := p
  refine reads (d := ⟨some registryType, baseUrl.map some, some identifier, version.map some,
    sha.map some, hint.map some, some transport, listed environment⟩) (fun o ho => ?_) ?_
  · have ho₀ : o.Allows 0 := ho.mono (by omega)
    have htype : layout.Takes o {} [("registry_type", .text registryType)]
        { registryType := some registryType } :=
      .entry rfl rfl (read_of (reads_string registryType) ho₀)
    have hbase : layout.Takes o { registryType := some registryType }
        (optionalEntry "registry_base_url" .text baseUrl)
        ⟨some registryType, baseUrl.map some, none, none, none, none, none, none⟩ :=
      .optional rfl rfl (fun h => by rw [h]; rfl)
        fun s h => h ▸ read_of (reads_optional_string s) ho₀
    have hidentifier : layout.Takes o
        ⟨some registryType, baseUrl.map some, none, none, none, none, none, none⟩
        [("identifier", .text identifier)]
        ⟨some registryType, baseUrl.map some, some identifier, none, none, none, none, none⟩ :=
      .entry rfl rfl (read_of (reads_string identifier) ho₀)
    have hversion : layout.Takes o
        ⟨some registryType, baseUrl.map some, some identifier, none, none, none, none, none⟩
        (optionalEntry "version" .text version)
        ⟨some registryType, baseUrl.map some, some identifier, version.map some, none, none, none,
          none⟩ :=
      .optional rfl rfl (fun h => by rw [h]; rfl)
        fun s h => h ▸ read_of (reads_optional_string s) ho₀
    have hsha : layout.Takes o
        ⟨some registryType, baseUrl.map some, some identifier, version.map some, none, none, none,
          none⟩
        (optionalEntry "file_sha256" .text sha)
        ⟨some registryType, baseUrl.map some, some identifier, version.map some, sha.map some, none,
          none, none⟩ :=
      .optional rfl rfl (fun h => by rw [h]; rfl)
        fun s h => h ▸ read_of (reads_optional_string s) ho₀
    have hhint : layout.Takes o
        ⟨some registryType, baseUrl.map some, some identifier, version.map some, sha.map some, none,
          none, none⟩
        (optionalEntry "runtime_hint" .text hint)
        ⟨some registryType, baseUrl.map some, some identifier, version.map some, sha.map some,
          hint.map some, none, none⟩ :=
      .optional rfl rfl (fun h => by rw [h]; rfl)
        fun s h => h ▸ read_of (reads_optional_string s) ho₀
    have htransport : layout.Takes o
        ⟨some registryType, baseUrl.map some, some identifier, version.map some, sha.map some,
          hint.map some, none, none⟩
        [("transport", transport.json)]
        ⟨some registryType, baseUrl.map some, some identifier, version.map some, sha.map some,
          hint.map some, some transport, none⟩ :=
      .entry rfl rfl (read_of transport.reads_json (ho.mono (by omega)))
    have henvironment : layout.Takes o
        ⟨some registryType, baseUrl.map some, some identifier, version.map some, sha.map some,
          hint.map some, some transport, none⟩
        (listEntry "environment_variables" Input.json environment)
        ⟨some registryType, baseUrl.map some, some identifier, version.map some, sha.map some,
          hint.map some, some transport, listed environment⟩ :=
      .list rfl rfl (fun h => by rw [listed_nil h]) fun h => by
        rw [listed_cons h]
        exact read_of (reads_list fun i _ => i.reads_json) ho
    exact ((((((htype.append hbase).append hidentifier).append hversion).append hsha).append
      hhint).append htransport).append henvironment
  · cases baseUrl <;> cases version <;> cases sha <;> cases hint <;>
      simp [layout, need, bind, Except.bind]

/-- The draft that the entries of a manifest's document fill. -/
def filled (m : Manifest) : Draft :=
  ⟨some m.name, some m.description, some m.status, m.repository.map some, some m.version,
    m.websiteUrl.map some, some m.packages, some m.remotes⟩

/-- The entries of a manifest's document fill a draft with the manifest. -/
theorem takes_entries (m : Manifest) {o : Origin} (ho : o.Allows 4) :
    layout.Takes o {} m.entries m.filled := by
  obtain ⟨name, description, status, repository, version, url, packages, remotes⟩ := m
  have ho₀ : o.Allows 0 := ho.mono (by omega)
  have hname : layout.Takes o {} [("name", .text name)] { name := some name } :=
    .entry rfl rfl (read_of (reads_string name) ho₀)
  have hdescription : layout.Takes o { name := some name } [("description", .text description)]
      { name := some name, description := some description } :=
    .entry rfl rfl (read_of (reads_string description) ho₀)
  have hstatus : layout.Takes o { name := some name, description := some description }
      [("status", status.json)]
      ⟨some name, some description, some status, none, none, none, none, none⟩ :=
    .entry rfl rfl (read_of status.reads_json ho₀)
  have hrepository : layout.Takes o
      ⟨some name, some description, some status, none, none, none, none, none⟩
      (optionalEntry "repository" Repository.json repository)
      ⟨some name, some description, some status, repository.map some, none, none, none, none⟩ :=
    .optional rfl rfl (fun h => by rw [h]; rfl) fun r h =>
      h ▸ read_of (r.reads_json.optional (fun h => by cases h)) (ho.mono (by omega))
  have hversion : layout.Takes o
      ⟨some name, some description, some status, repository.map some, none, none, none, none⟩
      [("version", .text version)]
      ⟨some name, some description, some status, repository.map some, some version, none, none,
        none⟩ :=
    .entry rfl rfl (read_of (reads_string version) ho₀)
  have hurl : layout.Takes o
      ⟨some name, some description, some status, repository.map some, some version, none, none,
        none⟩
      (optionalEntry "website_url" .text url)
      ⟨some name, some description, some status, repository.map some, some version, url.map some,
        none, none⟩ :=
    .optional rfl rfl (fun h => by rw [h]; rfl)
      fun s h => h ▸ read_of (reads_optional_string s) ho₀
  have hpackages : layout.Takes o
      ⟨some name, some description, some status, repository.map some, some version, url.map some,
        none, none⟩
      [("packages", .array (packages.map Package.json))]
      ⟨some name, some description, some status, repository.map some, some version, url.map some,
        some packages, none⟩ :=
    .entry rfl rfl (read_of (reads_list fun p _ => p.reads_json) ho)
  have hremotes : layout.Takes o
      ⟨some name, some description, some status, repository.map some, some version, url.map some,
        some packages, none⟩
      [("remotes", .array (remotes.map Remote.json))]
      ⟨some name, some description, some status, repository.map some, some version, url.map some,
        some packages, some remotes⟩ :=
    .entry rfl rfl (read_of (reads_list fun r _ => r.reads_json) ho)
  exact ((((hname.append (hdescription.append hstatus)).append hrepository).append hversion).append
    hurl).append (hpackages.append hremotes)

theorem finish_filled (m : Manifest) : layout.finish m.filled = .ok m := by
  obtain ⟨name, description, status, repository, version, url, packages, remotes⟩ := m
  cases repository <;> cases url <;> rfl

/-- **A manifest is read back.** -/
theorem reads_json (m : Manifest) : Reads shape 5 m.json m :=
  reads (fun _ ho => m.takes_entries ho) m.finish_filled

theorem ofEntries_entries (m : Manifest) {o : Origin} (ho : o.Allows 4) :
    layout.ofEntries o (Json.printedEntries m.entries) = .ok m := by
  have htakes : layout.readEntries o layout.start (Json.printedEntries m.entries) =
    .ok m.filled := m.takes_entries ho
  rw [Layout.ofEntries, htakes]
  exact m.finish_filled

end Manifest

end ManifestRegistry
