import MigrationController.Store

/-!
# `applyStorageVersionMigration`

The controller's applier for one manifest file: render and decode the file,
fetch the migration of the same name, create it when it is missing, and
otherwise merge the fetched object's metadata with the required one, compare
specs, and update when anything differs.

The Go body assigns the required spec to `existing`, but sends `existingCopy`
to `Update`.  The copy carries the merged metadata and the spec it was fetched
with, so an update that a spec difference triggers writes the old spec back.
`applyFetched` keeps that assignment where the source has it.

`applyStorageVersionMigration` is split at its `Get`: `applyFetched` is
everything after the store has answered, which is where other clients' writes
can interleave (see `MigrationController.Concurrency`).

## Main statements

* `applyStorageVersionMigration_of_required_none` — a file that does not render,
  decode or type-check fails with no API call.
* `applyStorageVersionMigration_error_names_file` — apply's own errors quote the file.
* `applyStorageVersionMigration_cases` — everything one apply can do.
* `applyStorageVersionMigration_of_error` — a failed apply leaves the store alone.
* `applyStorageVersionMigration_stored` — what a successful apply leaves in the
  store: an object whose spec is the one it found, if it found one, and which
  covers consistent required metadata.
* `applyStorageVersionMigration_merges_metadata` — its labels and annotations are
  those `MergeMap` makes of the required ones and those of the object it found,
  `-`-suffixed removals included.
* `applyStorageVersionMigration_of_converged` — on an object that already covers
  the required metadata and spec, apply issues only its Get.
-/

namespace MigrationController

/-- What the controller's collaborators do outside the store. -/
structure Env where
  /-- The `resourceapply.AssetFunc` that reads a manifest file and renders it.  The
  controller's closure returns the `ReadFile` error as it is; a template that fails
  to render makes `assets.MustCreateAssetFromTemplate` panic, and that path is not
  modelled: every file renders or fails to read. -/
  manifests : String → Except Error String
  /-- `genericCodec.Decode` of the package's scheme.  A migration it returns has the
  metadata `ObjectMeta` keeps, so no owner references. -/
  decode : String → Except Error RuntimeObject
  /-- Transport failures of the API calls. -/
  faults : Faults

/-- The migration a manifest file renders and decodes to, when it does. -/
def Env.required (env : Env) (file : String) : Option StorageVersionMigration :=
  match env.manifests file with
  | .error _ => none
  | .ok bytes =>
    match env.decode bytes with
    | .ok (.storageVersionMigration m) => some m
    | _ => none

@[simp] theorem Env.required_faults (env : Env) (faults : Faults) :
    ({ env with faults } : Env).required = env.required := rfl

/-- The names of the migrations the files decode to. -/
def Env.names (env : Env) (files : List String) : List String :=
  files.filterMap fun file => (env.required file).map (·.name)

theorem Env.mem_names {env : Env} {files : List String} {n : String} :
    n ∈ env.names files ↔ ∃ file ∈ files, ∃ d, env.required file = some d ∧ d.name = n := by
  simp [Env.names]

theorem Env.names_mono {env : Env} {files files' : List String} (h : ∀ f ∈ files, f ∈ files') {n : String}
    (hn : n ∈ env.names files) : n ∈ env.names files' := by
  obtain ⟨f, hf, d, hd, rfl⟩ := Env.mem_names.mp hn
  exact Env.mem_names.mpr ⟨f, h f hf, d, hd, rfl⟩

/-- No manifest's migration sets a label or annotation that it also removes with a
`-`-suffixed key.  Convergence rests on it: `MergeMap` merges such a manifest
differently in each order Go ranges in, and changes the object on every sync. -/
def Env.Consistent (env : Env) : Prop :=
  ∀ file ∈ migrationRequestFiles, ∀ d, env.required file = some d → d.toObjectMeta.Consistent

/-! ## The embedded manifests -/

/-- The migration of `cluster-manager-managedclustersets-migration.yaml`, under the
name the package's tests assert; its spec names the resource that name spells out. -/
def managedClusterSetsMigration : StorageVersionMigration where
  name := "managedclustersets.cluster.open-cluster-management.io"
  spec := { resource := ⟨"cluster.open-cluster-management.io", "v1beta1", "managedclustersets"⟩ }

/-- The migration of `cluster-manager-managedclustersetbindings-migration.yaml`. -/
def managedClusterSetBindingsMigration : StorageVersionMigration where
  name := "managedclustersetbindings.cluster.open-cluster-management.io"
  spec := { resource := ⟨"cluster.open-cluster-management.io", "v1beta1", "managedclustersetbindings"⟩ }

/-- The controller's renderer and decoder on the embedded manifests, with API calls
failing as `faults` says: the files of `migrationRequestFiles` render (their
rendered bytes stand in as their paths) and decode to the two migrations. -/
def clusterManagerEnv (faults : Faults) : Env where
  manifests file :=
    if file ∈ migrationRequestFiles then .ok file
    else .error (.plain ("open " ++ file ++ ": file does not exist"))
  decode bytes :=
    if bytes = "cluster-manager/cluster-manager-managedclustersets-migration.yaml" then
      .ok (.storageVersionMigration managedClusterSetsMigration)
    else if bytes = "cluster-manager/cluster-manager-managedclustersetbindings-migration.yaml" then
      .ok (.storageVersionMigration managedClusterSetBindingsMigration)
    else .error (.plain "Object 'Kind' is missing")
  faults := faults

/-- The embedded manifests set no labels or annotations, so they are consistent. -/
theorem clusterManagerEnv_consistent (faults : Faults) : (clusterManagerEnv faults).Consistent := by
  intro file hfile d hd
  simp only [migrationRequestFiles, List.mem_cons, List.not_mem_nil, or_false] at hfile
  rcases hfile with rfl | rfl <;> cases hd <;> exact .of_empty rfl rfl

/-- The bindings migration as the package test "created and updated" seeds it:
a name and an empty spec. -/
def seededBindingsMigration : StorageVersionMigration where
  name := "managedclustersetbindings.cluster.open-cluster-management.io"
  spec := { resource := ⟨"", "", ""⟩ }

/-- A cluster whose store holds `seededBindingsMigration` and nothing else. -/
def seededCluster : Cluster where
  clusterManagers _ := none
  crds := []
  migrations := Store.empty.commit seededBindingsMigration

/-- The bindings manifest as an operator might extend it: it labels the migration
`tier=hub` and removes the label `stale` with the key `stale-`. -/
def labeledBindingsMigration : StorageVersionMigration :=
  { managedClusterSetBindingsMigration with
    labels := ((∅ : StringMap).insert "stale-" "").insert "tier" "hub" }

/-- The file of `labeledBindingsMigration`. -/
def labeledFile : String :=
  "cluster-manager/cluster-manager-managedclustersetbindings-migration.yaml"

/-- A renderer and decoder that turn `labeledFile` into `labeledBindingsMigration`. -/
def labeledEnv : Env :=
  { clusterManagerEnv Faults.none with
    decode := fun _ => .ok (.storageVersionMigration labeledBindingsMigration) }

/-- A cluster whose store holds the bindings migration labelled `stale=1` and
`team=hub-admins`. -/
def labeledCluster : Cluster where
  clusterManagers _ := none
  crds := []
  migrations := Store.empty.commit
    { managedClusterSetBindingsMigration with
      labels := ((∅ : StringMap).insert "team" "hub-admins").insert "stale" "1" }

/-- The Go results `(*StorageVersionMigration, bool, error)`.  The typed client
hands back an empty object with an error; no caller reads it, so it is `none`. -/
structure ApplyResult where
  actual : Option StorageVersionMigration
  changed : Bool
  err : Option Error

/-- The results of a Create or an Update: reported as a change, whatever the outcome. -/
def writeResult : Except Error StorageVersionMigration × Cluster → ApplyResult × Cluster
  | (.error err, c) => (⟨none, true, some err⟩, c)
  | (.ok actual, c) => (⟨some actual, true, none⟩, c)

/-- `applyStorageVersionMigration` once its `Get` has answered `got`. -/
def applyFetched (faults : Faults) (required : StorageVersionMigration)
    (got : Except Error StorageVersionMigration) (c : Cluster) : ApplyResult × Cluster :=
  match got with
  | .error err =>
    if err.isNotFound then writeResult (createStorageVersionMigration faults required c)
    else (⟨none, false, some err⟩, c)
  | .ok existing =>
    let merged := ensureObjectMeta false existing.toObjectMeta required.toObjectMeta
    let existingCopy : StorageVersionMigration := { existing with toObjectMeta := merged.2 }
    let specDiffers := existingCopy.spec != required.spec
    -- `existing.Spec = required.Spec`: the required spec goes to `existing`, not to the copy
    let existing := if specDiffers then { existing with spec := required.spec } else existing
    let modified := merged.1 || specDiffers
    if !modified then (⟨some existing, false, none⟩, c)
    else writeResult (updateStorageVersionMigration faults existingCopy c)

/-- `applyStorageVersionMigration(client, manifests, recorder, file)`. -/
def applyStorageVersionMigration (env : Env) (file : String) (c : Cluster) : ApplyResult × Cluster :=
  match env.manifests file with
  | .error err => (⟨none, false, some (.plain ("missing " ++ quoted file ++ ": " ++ err.text))⟩, c)
  | .ok objBytes =>
    match env.decode objBytes with
    | .error err =>
      (⟨none, false, some (.plain ("cannot decode " ++ quoted file ++ ": " ++ err.text))⟩, c)
    | .ok (.other printed) =>
      (⟨none, false,
        some (.plain ("invalid StorageVersionMigration in file " ++ quoted file ++ ": " ++ printed))⟩, c)
    | .ok (.storageVersionMigration required) =>
      let (got, c) := getStorageVersionMigration env.faults required.name c
      applyFetched env.faults required got c

/-! ## The manifest steps -/

/-- **A file that does not render, decode or type-check** fails, unchanged, with no API call. -/
theorem applyStorageVersionMigration_of_required_none {env : Env} {file : String}
    (h : env.required file = none) (c : Cluster) :
    (applyStorageVersionMigration env file c).2 = c ∧
      (applyStorageVersionMigration env file c).1.err.isSome ∧
      (applyStorageVersionMigration env file c).1.changed = false := by
  unfold Env.required at h
  unfold applyStorageVersionMigration
  split
  · simp
  · split
    · simp
    · simp
    · simp_all

theorem applyStorageVersionMigration_of_required_some {env : Env} {file : String}
    {required : StorageVersionMigration} (h : env.required file = some required) (c : Cluster) :
    applyStorageVersionMigration env file c =
      applyFetched env.faults required (getStorageVersionMigration env.faults required.name c).1
        (getStorageVersionMigration env.faults required.name c).2 := by
  unfold Env.required at h
  unfold applyStorageVersionMigration
  split
  · simp_all
  · split <;> simp_all

/-- **Apply's own errors name the file**: a file that does not render, decode or
type-check fails with a message that quotes the file's name. -/
theorem applyStorageVersionMigration_error_names_file {env : Env} {file : String}
    (h : env.required file = none) (c : Cluster) :
    ∃ pre post, (applyStorageVersionMigration env file c).1.err = some (.plain (pre ++ quoted file ++ post)) := by
  unfold Env.required at h
  unfold applyStorageVersionMigration
  split
  · exact ⟨_, _, by rw [String.append_assoc]⟩
  · split
    · exact ⟨_, _, by rw [String.append_assoc]⟩
    · exact ⟨_, _, by rw [String.append_assoc]⟩
    · simp_all

/-! ## After the Get -/

/-- The `existingCopy` that `applyFetched` sends to Update: the fetched object with
merged metadata and the spec it was fetched with. -/
def mergedCopy (existing required : StorageVersionMigration) : StorageVersionMigration :=
  { existing with toObjectMeta := (ensureObjectMeta false existing.toObjectMeta required.toObjectMeta).2 }

@[simp] theorem mergedCopy_spec (existing required : StorageVersionMigration) :
    (mergedCopy existing required).spec = existing.spec := rfl
@[simp] theorem mergedCopy_resourceVersion (existing required : StorageVersionMigration) :
    (mergedCopy existing required).resourceVersion = existing.resourceVersion := rfl

@[simp] theorem writeResult_snd (r : Except Error StorageVersionMigration × Cluster) :
    (writeResult r).2 = r.2 := by
  obtain ⟨_ | _, _⟩ := r <;> rfl
@[simp] theorem writeResult_changed (r : Except Error StorageVersionMigration × Cluster) :
    (writeResult r).1.changed = true := by
  obtain ⟨_ | _, _⟩ := r <;> rfl
theorem writeResult_err_eq_none {r : Except Error StorageVersionMigration × Cluster} :
    (writeResult r).1.err = none ↔ ∃ x, r.1 = .ok x := by
  obtain ⟨_ | _, _⟩ := r <;> simp [writeResult]

theorem writeResult_of_error {r : Except Error StorageVersionMigration × Cluster} {err : Error}
    (h : r.1 = .error err) : (writeResult r).1.err = some err := by
  obtain ⟨_ | _, _⟩ := r <;> simp_all [writeResult]

/-- The copy keeps the name it was fetched under. -/
theorem mergedCopy_name {existing required : StorageVersionMigration}
    (h : existing.name = required.name) : (mergedCopy existing required).name = required.name := by
  show (ensureObjectMeta false existing.toObjectMeta required.toObjectMeta).2.name = _
  rw [ensureObjectMeta_name]
  split_ifs <;> simp_all

section Fetched

variable {faults : Faults} {required existing : StorageVersionMigration} {err : Error} {c : Cluster}

theorem applyFetched_error (h : err.isNotFound = false) :
    applyFetched faults required (.error err) c = (⟨none, false, some err⟩, c) := by
  simp [applyFetched, h]

theorem applyFetched_notFound (h : err.isNotFound = true) :
    applyFetched faults required (.error err) c =
      writeResult (createStorageVersionMigration faults required c) := by
  simp [applyFetched, h]

/-- On an object that already carries the required metadata and spec, nothing is sent. -/
theorem applyFetched_of_covers (hc : Covers required.toObjectMeta existing.toObjectMeta)
    (hs : existing.spec = required.spec) :
    applyFetched faults required (.ok existing) c = (⟨some existing, false, none⟩, c) := by
  simp [applyFetched, ensureObjectMeta_of_covers hc, hs]

/-- Otherwise the merged copy, with its old spec, is sent to Update. -/
theorem applyFetched_of_not_covers
    (h : ¬(Covers required.toObjectMeta existing.toObjectMeta ∧ existing.spec = required.spec)) :
    applyFetched faults required (.ok existing) c =
      writeResult (updateStorageVersionMigration faults (mergedCopy existing required) c) := by
  by_cases hs : existing.spec = required.spec
  · have hf : (ensureObjectMeta false existing.toObjectMeta required.toObjectMeta).1 = true := by
      by_contra hf
      exact h ⟨covers_of_ensureObjectMeta_fst_eq_false (by simpa using hf), hs⟩
    simp [applyFetched, hs, hf, mergedCopy]
  · simp [applyFetched, hs, mergedCopy]

end Fetched

/-! ## What apply leaves behind -/

section Apply

variable {env : Env} {file : String} {d : StorageVersionMigration}

/-- **Everything apply can do**, for a file that decodes to `d`, after its Get: fail
with the Get's error; Create `d` where the name is empty; return the object it
found, which carries the required metadata and spec; or send to Update the merged
copy of the object it found, which does not. -/
theorem applyStorageVersionMigration_cases (h : env.required file = some d) (c : Cluster) :
    (∃ err, applyStorageVersionMigration env file c =
      (⟨none, false, some err⟩, c.record ⟨.get, .storageVersionMigrations, d.name⟩)) ∨
    (c.migrations.objects d.name = none ∧ applyStorageVersionMigration env file c =
      writeResult (createStorageVersionMigration env.faults d
        (c.record ⟨.get, .storageVersionMigrations, d.name⟩))) ∨
    (∃ e, c.migrations.objects d.name = some e ∧ Covers d.toObjectMeta e.toObjectMeta ∧ e.spec = d.spec ∧
      applyStorageVersionMigration env file c =
        (⟨some e, false, none⟩, c.record ⟨.get, .storageVersionMigrations, d.name⟩)) ∨
    (∃ e, c.migrations.objects d.name = some e ∧ ¬(Covers d.toObjectMeta e.toObjectMeta ∧ e.spec = d.spec) ∧
      applyStorageVersionMigration env file c = writeResult (updateStorageVersionMigration env.faults
        (mergedCopy e d) (c.record ⟨.get, .storageVersionMigrations, d.name⟩))) := by
  rw [applyStorageVersionMigration_of_required_some h]
  generalize hg : (getStorageVersionMigration env.faults d.name c).1 = got
  rw [getStorageVersionMigration_snd]
  cases got with
  | error err =>
    cases hn : err.isNotFound
    · exact .inl ⟨err, applyFetched_error hn⟩
    · exact .inr (.inl ⟨getStorageVersionMigration_eq_notFound hg hn, applyFetched_notFound hn⟩)
  | ok e =>
    have he := getStorageVersionMigration_eq_ok hg
    by_cases hconv : Covers d.toObjectMeta e.toObjectMeta ∧ e.spec = d.spec
    · exact .inr (.inr (.inl ⟨e, he, hconv.1, hconv.2, applyFetched_of_covers hconv.1 hconv.2⟩))
    · exact .inr (.inr (.inr ⟨e, he, hconv, applyFetched_of_not_covers hconv⟩))

/-- What a successful apply leaves under the required name: `d`, created into an
empty name; the object it found, when that covers `d`'s metadata and spec; or the
merged copy of the object it found. -/
theorem applyStorageVersionMigration_stored_cases (h : env.required file = some d) (c : Cluster)
    (hok : (applyStorageVersionMigration env file c).1.err = none) :
    ∃ o, (applyStorageVersionMigration env file c).2.migrations.objects d.name = some o ∧
      ((c.migrations.objects d.name = none ∧ o = Store.stamp d (c.migrations.revision + 1)) ∨
        ∃ e, c.migrations.objects d.name = some e ∧
          ((Covers d.toObjectMeta e.toObjectMeta ∧ e.spec = d.spec ∧ o = e) ∨
            o = Store.stamp (mergedCopy e d) (c.migrations.revision + 1))) := by
  rcases applyStorageVersionMigration_cases h c with
    ⟨err, hc⟩ | ⟨h0, hc⟩ | ⟨e, he, hcov, hs, hc⟩ | ⟨e, he, -, hc⟩ <;> rw [hc] at hok ⊢
  · cases hok
  · obtain ⟨x, hx⟩ := writeResult_err_eq_none.mp hok
    obtain ⟨-, -, hs⟩ := createStorageVersionMigration_eq_ok hx
    exact ⟨_, by simp [hs], .inl ⟨h0, rfl⟩⟩
  · exact ⟨e, he, .inr ⟨e, he, .inl ⟨hcov, hs, rfl⟩⟩⟩
  · obtain ⟨x, hx⟩ := writeResult_err_eq_none.mp hok
    obtain ⟨-, -, hs⟩ := updateStorageVersionMigration_eq_ok hx
    refine ⟨_, ?_, .inr ⟨e, he, .inr rfl⟩⟩
    rw [writeResult_snd, hs, ← mergedCopy_name (c.migrations.name_eq he)]
    simp

/-- **What a successful apply leaves in the store**: an object under the required
name whose spec is the spec of the object it found there, or the required spec when
it found none, and which covers the required metadata when that metadata is
consistent. -/
theorem applyStorageVersionMigration_stored (h : env.required file = some d) (c : Cluster)
    (hok : (applyStorageVersionMigration env file c).1.err = none) :
    ∃ o, (applyStorageVersionMigration env file c).2.migrations.objects d.name = some o ∧
      (d.toObjectMeta.Consistent → Covers d.toObjectMeta o.toObjectMeta) ∧
      o.spec = ((c.migrations.objects d.name).map (·.spec)).getD d.spec := by
  obtain ⟨o, ho, ⟨h0, rfl⟩ | ⟨e, he, ⟨hcov, hs, rfl⟩ | rfl⟩⟩ :=
    applyStorageVersionMigration_stored_cases h c hok
  · exact ⟨_, ho, fun hd => (Covers.refl hd).with_resourceVersion _, by simp [h0]⟩
  · exact ⟨_, ho, fun _ => hcov, by simp [he, hs]⟩
  · exact ⟨_, ho, fun hd => (covers_ensureObjectMeta hd false _).with_resourceVersion _, by simp [he]⟩

/-- **A successful apply merges the metadata as `MergeMap` does**: the object it
leaves under the required name carries the manifest's labels and annotations when
apply created it; when apply found an object there, each key reads as `MergeMap`
leaves it: absent where the manifest removes it with a `-`-suffixed key, the
manifest's value where the manifest sets it, and the found object's value
otherwise. -/
theorem applyStorageVersionMigration_merges_metadata (h : env.required file = some d)
    (hd : d.toObjectMeta.Consistent) (c : Cluster)
    (hok : (applyStorageVersionMigration env file c).1.err = none) :
    ∃ o, (applyStorageVersionMigration env file c).2.migrations.objects d.name = some o ∧
      (c.migrations.objects d.name = none → o.labels = d.labels ∧ o.annotations = d.annotations) ∧
      ∀ e, c.migrations.objects d.name = some e → ∀ k,
        o.labels.lookup k = mergedLookup e.labels d.labels k ∧
        o.annotations.lookup k = mergedLookup e.annotations d.annotations k := by
  obtain ⟨o, ho, ⟨h0, rfl⟩ | ⟨e, he, hfound⟩⟩ := applyStorageVersionMigration_stored_cases h c hok
  · exact ⟨_, ho, fun _ => ⟨rfl, rfl⟩, fun e he => by simp [h0] at he⟩
  refine ⟨o, ho, fun h0 => by simp [h0] at he, fun e' he' => ?_⟩
  obtain rfl : e = e' := Option.some.inj (he.symm.trans he')
  rcases hfound with ⟨hcov, -, rfl⟩ | rfl
  · exact hcov.lookup
  · exact lookup_ensureObjectMeta hd false e.toObjectMeta

/-- On a store whose bindings migration is labelled `stale=1` and
`team=hub-admins`, the labelled bindings manifest's apply succeeds and merges. -/
theorem applyStorageVersionMigration_merges_metadata_on_labeled :
    labeledEnv.required labeledFile = some labeledBindingsMigration ∧
    labeledBindingsMigration.toObjectMeta.Consistent ∧
    (applyStorageVersionMigration labeledEnv labeledFile labeledCluster).1.err = none ∧
    ∃ o, (applyStorageVersionMigration labeledEnv labeledFile labeledCluster).2.migrations.objects
        labeledBindingsMigration.name = some o ∧
      (labeledCluster.migrations.objects labeledBindingsMigration.name = none →
        o.labels = labeledBindingsMigration.labels ∧ o.annotations = labeledBindingsMigration.annotations) ∧
      ∀ e, labeledCluster.migrations.objects labeledBindingsMigration.name = some e → ∀ k,
        o.labels.lookup k = mergedLookup e.labels labeledBindingsMigration.labels k ∧
        o.annotations.lookup k = mergedLookup e.annotations labeledBindingsMigration.annotations k :=
  have hd : labeledBindingsMigration.toObjectMeta.Consistent := by decide
  ⟨rfl, hd, rfl, @applyStorageVersionMigration_merges_metadata labeledEnv labeledFile labeledBindingsMigration
    rfl hd labeledCluster rfl⟩

/-- **A failed apply leaves the store as it was.** -/
theorem applyStorageVersionMigration_of_error (c : Cluster)
    (herr : (applyStorageVersionMigration env file c).1.err.isSome) :
    (applyStorageVersionMigration env file c).2.migrations = c.migrations := by
  cases h : env.required file with
  | none => rw [(applyStorageVersionMigration_of_required_none h c).1]
  | some d =>
    rcases applyStorageVersionMigration_cases h c with
      ⟨_, hc⟩ | ⟨-, hc⟩ | ⟨_, -, -, -, hc⟩ | ⟨_, -, -, hc⟩ <;> rw [hc] at herr ⊢
    · rfl
    · rcases hr : (createStorageVersionMigration env.faults d _).1 with err | x
      · rw [writeResult_snd, createStorageVersionMigration_of_error hr]; rfl
      · rw [writeResult_err_eq_none.mpr ⟨x, hr⟩] at herr; cases herr
    · cases herr
    · rcases hr : (updateStorageVersionMigration env.faults _ _).1 with err | x
      · rw [writeResult_snd, updateStorageVersionMigration_of_error hr]; rfl
      · rw [writeResult_err_eq_none.mpr ⟨x, hr⟩] at herr; cases herr

/-- **Everything apply can do to the cluster**, for a file that decodes to `d`: its
Get alone, its Get and a Create of `d`, or its Get and an Update of the merged copy
of the object it found under `d`'s name, when that object lacks the required
metadata or spec. -/
theorem applyStorageVersionMigration_snd_cases (h : env.required file = some d) (c : Cluster) :
    (applyStorageVersionMigration env file c).2 = c.record ⟨.get, .storageVersionMigrations, d.name⟩ ∨
    (applyStorageVersionMigration env file c).2 =
      (createStorageVersionMigration env.faults d (c.record ⟨.get, .storageVersionMigrations, d.name⟩)).2 ∨
    ∃ e, c.migrations.objects d.name = some e ∧
      ¬(Covers d.toObjectMeta e.toObjectMeta ∧ e.spec = d.spec) ∧
      (applyStorageVersionMigration env file c).2 =
        (updateStorageVersionMigration env.faults (mergedCopy e d)
          (c.record ⟨.get, .storageVersionMigrations, d.name⟩)).2 := by
  rcases applyStorageVersionMigration_cases h c with
    ⟨_, hc⟩ | ⟨-, hc⟩ | ⟨_, -, -, -, hc⟩ | ⟨e, he, hn, hc⟩ <;> rw [hc]
  · exact .inl rfl
  · exact .inr (.inl (writeResult_snd _))
  · exact .inl rfl
  · exact .inr (.inr ⟨e, he, hn, writeResult_snd _⟩)

/-- Apply issues its Get, then at most one Create or Update, all under `d`'s name. -/
theorem applyStorageVersionMigration_actions (h : env.required file = some d) (c : Cluster) :
    ∃ v, (v = .create ∨ v = .update) ∧
      ((applyStorageVersionMigration env file c).2.actions =
          c.actions ++ [⟨.get, .storageVersionMigrations, d.name⟩] ∨
        (applyStorageVersionMigration env file c).2.actions =
          c.actions ++
            [⟨.get, .storageVersionMigrations, d.name⟩, ⟨v, .storageVersionMigrations, d.name⟩]) := by
  rcases applyStorageVersionMigration_snd_cases h c with hc | hc | ⟨e, he, -, hc⟩ <;> rw [hc]
  · exact ⟨.create, .inl rfl, .inl rfl⟩
  · exact ⟨.create, .inl rfl, .inr (by simp)⟩
  · exact ⟨.update, .inr rfl, .inr (by simp [mergedCopy_name (c.migrations.name_eq he)])⟩

/-- Apply touches no object but the one under `d`'s name. -/
theorem applyStorageVersionMigration_objects_ne (h : env.required file = some d) (c : Cluster)
    {n : String} (hn : n ≠ d.name) :
    (applyStorageVersionMigration env file c).2.migrations.objects n = c.migrations.objects n := by
  rcases applyStorageVersionMigration_snd_cases h c with hc | hc | ⟨e, he, -, hc⟩ <;> rw [hc]
  · rfl
  · exact createStorageVersionMigration_objects_ne hn
  · exact updateStorageVersionMigration_objects_ne (by rwa [mergedCopy_name (c.migrations.name_eq he)])

/-- Apply changes nothing but the log and the store. -/
theorem applyStorageVersionMigration_hub (file : String) (c : Cluster) :
    (applyStorageVersionMigration env file c).2.clusterManagers = c.clusterManagers ∧
      (applyStorageVersionMigration env file c).2.crds = c.crds := by
  cases h : env.required file with
  | none => rw [(applyStorageVersionMigration_of_required_none h c).1]; exact ⟨rfl, rfl⟩
  | some d =>
    rcases applyStorageVersionMigration_snd_cases h c with hc | hc | ⟨e, -, -, hc⟩ <;> rw [hc] <;>
      simp [createStorageVersionMigration, updateStorageVersionMigration]

/-- On an object that already covers the required metadata and spec, apply issues
its Get and nothing else, and reports no change. -/
theorem applyStorageVersionMigration_of_converged (h : env.required file = some d) {c : Cluster}
    {o : StorageVersionMigration} (ho : c.migrations.objects d.name = some o)
    (hc : Covers d.toObjectMeta o.toObjectMeta) (hs : o.spec = d.spec)
    (hf : env.faults c.actions.length = none) :
    applyStorageVersionMigration env file c =
      (⟨some o, false, none⟩, c.record ⟨.get, .storageVersionMigrations, d.name⟩) := by
  rw [applyStorageVersionMigration_of_required_some h, getStorageVersionMigration_fst_of_answered hf,
    getStorageVersionMigration_snd, Store.get_eq_ok.mpr ho, applyFetched_of_covers hc hs]

/-- Apply changes the object under the required name only by a Create into an
empty name or an Update of the merged copy: an object it finds keeps its spec. -/
theorem applyStorageVersionMigration_spec_of_existing (h : env.required file = some d) {c : Cluster}
    {e : StorageVersionMigration} (he : c.migrations.objects d.name = some e) :
    ∃ o, (applyStorageVersionMigration env file c).2.migrations.objects d.name = some o ∧
      o.spec = e.spec := by
  rcases applyStorageVersionMigration_cases h c with
    ⟨_, hc⟩ | ⟨h0, -⟩ | ⟨_, -, -, -, hc⟩ | ⟨e', he', -, hc⟩
  · exact ⟨e, by rw [hc]; exact he, rfl⟩
  · simp [h0] at he
  · exact ⟨e, by rw [hc]; exact he, rfl⟩
  · obtain rfl : e' = e := Option.some.inj (he'.symm.trans he)
    rw [hc, writeResult_snd]
    rcases hu : (updateStorageVersionMigration env.faults (mergedCopy e' d)
        (c.record ⟨.get, .storageVersionMigrations, d.name⟩)).1 with err | x
    · exact ⟨e', by rw [updateStorageVersionMigration_of_error hu]; exact he, rfl⟩
    · refine ⟨Store.stamp (mergedCopy e' d) (c.migrations.revision + 1), ?_, by simp⟩
      rw [(updateStorageVersionMigration_eq_ok hu).2.2, ← mergedCopy_name (c.migrations.name_eq he)]
      simp

/-- **An apply whose calls are answered succeeds**: with no transport failure and no
other writer, a file that decodes to a migration is applied without error. -/
theorem applyStorageVersionMigration_ok_of_answered (h : env.required file = some d) (c : Cluster)
    (hf : ∀ k, env.faults k = none) : (applyStorageVersionMigration env file c).1.err = none := by
  rw [applyStorageVersionMigration_of_required_some h, getStorageVersionMigration_fst_of_answered (hf _),
    getStorageVersionMigration_snd]
  cases he : c.migrations.objects d.name with
  | none =>
    rw [Store.get_eq_error.mpr ⟨he, rfl⟩, applyFetched_notFound (isNotFound_newNotFound _ _),
      writeResult_err_eq_none]
    exact ⟨_, createStorageVersionMigration_fst_of_answered (hf _) he⟩
  | some e =>
    rw [Store.get_eq_ok.mpr he]
    by_cases hconv : Covers d.toObjectMeta e.toObjectMeta ∧ e.spec = d.spec
    · rw [applyFetched_of_covers hconv.1 hconv.2]
    · rw [applyFetched_of_not_covers hconv, writeResult_err_eq_none]
      exact ⟨_, updateStorageVersionMigration_fst_of_answered (hf _)
        (by rw [mergedCopy_name (c.migrations.name_eq he)]; exact he) (mergedCopy_resourceVersion e d)⟩

/-- **Apply is idempotent when nothing drifted**: after a successful apply that
created the object, or found it with the required spec, the object it left under the
required name is one the next apply finds as it is: that apply issues its Get and
nothing else, and reports no change. -/
theorem applyStorageVersionMigration_idempotent (h : env.required file = some d)
    (hcons : d.toObjectMeta.Consistent) (c : Cluster)
    (hd : ∀ e, c.migrations.objects d.name = some e → e.spec = d.spec)
    (hok : (applyStorageVersionMigration env file c).1.err = none)
    (hf : env.faults (applyStorageVersionMigration env file c).2.actions.length = none) :
    ∃ o, (applyStorageVersionMigration env file c).2.migrations.objects d.name = some o ∧
      applyStorageVersionMigration env file (applyStorageVersionMigration env file c).2 =
      (⟨some o, false, none⟩,
        (applyStorageVersionMigration env file c).2.record ⟨.get, .storageVersionMigrations, d.name⟩) := by
  obtain ⟨o, ho, hc, hs⟩ := applyStorageVersionMigration_stored h c hok
  refine ⟨o, ho, applyStorageVersionMigration_of_converged h ho (hc hcons) ?_ hf⟩
  cases he : c.migrations.objects d.name <;> simp_all

/-- The seeded store lacks the managedclustersets migration: apply creates it, and
the next apply issues only its Get. -/
theorem applyStorageVersionMigration_idempotent_on_seeded :
    let env := clusterManagerEnv Faults.none
    let file := "cluster-manager/cluster-manager-managedclustersets-migration.yaml"
    let d := managedClusterSetsMigration
    env.required file = some d ∧ d.toObjectMeta.Consistent ∧
    (∀ e, seededCluster.migrations.objects d.name = some e → e.spec = d.spec) ∧
    (applyStorageVersionMigration env file seededCluster).1.err = none ∧
    env.faults (applyStorageVersionMigration env file seededCluster).2.actions.length = none ∧
    ∃ o, (applyStorageVersionMigration env file seededCluster).2.migrations.objects d.name = some o ∧
      applyStorageVersionMigration env file (applyStorageVersionMigration env file seededCluster).2 =
      (⟨some o, false, none⟩,
        (applyStorageVersionMigration env file seededCluster).2.record ⟨.get, .storageVersionMigrations, d.name⟩) :=
  have hd : ∀ e, seededCluster.migrations.objects managedClusterSetsMigration.name = some e →
      e.spec = managedClusterSetsMigration.spec := fun _ he => Option.noConfusion
    ((show seededCluster.migrations.objects managedClusterSetsMigration.name = none from rfl).symm.trans he)
  have hcons : managedClusterSetsMigration.toObjectMeta.Consistent := .of_empty rfl rfl
  ⟨rfl, hcons, hd, rfl, rfl, @applyStorageVersionMigration_idempotent (clusterManagerEnv Faults.none)
    "cluster-manager/cluster-manager-managedclustersets-migration.yaml" managedClusterSetsMigration
    rfl hcons seededCluster hd rfl rfl⟩

/-- On the test's seeded store, applying the bindings manifest succeeds with one
Get and one Update, and the store keeps the empty spec. -/
theorem applyStorageVersionMigration_update_keeps_seeded_spec :
    (applyStorageVersionMigration (clusterManagerEnv Faults.none)
        "cluster-manager/cluster-manager-managedclustersetbindings-migration.yaml" seededCluster).1.err =
      none ∧
    (applyStorageVersionMigration (clusterManagerEnv Faults.none)
        "cluster-manager/cluster-manager-managedclustersetbindings-migration.yaml" seededCluster).2.actions =
      [⟨.get, .storageVersionMigrations, managedClusterSetBindingsMigration.name⟩,
        ⟨.update, .storageVersionMigrations, managedClusterSetBindingsMigration.name⟩] ∧
    ((applyStorageVersionMigration (clusterManagerEnv Faults.none)
        "cluster-manager/cluster-manager-managedclustersetbindings-migration.yaml" seededCluster).2.migrations.objects
        managedClusterSetBindingsMigration.name).map (·.spec) = some seededBindingsMigration.spec ∧
    seededBindingsMigration.spec ≠ managedClusterSetBindingsMigration.spec :=
  ⟨rfl, by decide, by decide, by decide⟩

/-- **No number of applies repairs a drifted spec**: from a store holding an object
under the required name, every run of applies keeps an object there with that
object's spec. -/
theorem applyStorageVersionMigration_iterate_spec (h : env.required file = some d) (n : Nat)
    {c : Cluster} {e : StorageVersionMigration} (he : c.migrations.objects d.name = some e) :
    ∃ o, ((fun c => (applyStorageVersionMigration env file c).2)^[n] c).migrations.objects d.name =
      some o ∧ o.spec = e.spec := by
  induction n generalizing c e with
  | zero => exact ⟨e, he, rfl⟩
  | succ n ih =>
    obtain ⟨o, ho, hs⟩ := applyStorageVersionMigration_spec_of_existing h he
    obtain ⟨o', ho', hs'⟩ := ih ho
    exact ⟨o', by rwa [Function.iterate_succ_apply], hs'.trans hs⟩

/-- Three applies of the bindings manifest to the seeded store keep its empty spec. -/
theorem applyStorageVersionMigration_iterate_spec_on_seeded :
    let env := clusterManagerEnv Faults.none
    let file := "cluster-manager/cluster-manager-managedclustersetbindings-migration.yaml"
    let d := managedClusterSetBindingsMigration
    env.required file = some d ∧
    seededCluster.migrations.objects d.name = some (Store.stamp seededBindingsMigration 1) ∧
    ∃ o, ((fun c => (applyStorageVersionMigration env file c).2)^[3] seededCluster).migrations.objects d.name =
      some o ∧ o.spec = (Store.stamp seededBindingsMigration 1).spec :=
  ⟨rfl, rfl, @applyStorageVersionMigration_iterate_spec (clusterManagerEnv Faults.none)
    "cluster-manager/cluster-manager-managedclustersetbindings-migration.yaml"
    managedClusterSetBindingsMigration rfl 3 seededCluster _ rfl⟩

end Apply


end MigrationController
