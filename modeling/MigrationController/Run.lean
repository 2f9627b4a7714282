import MigrationController.Sync

/-!
# Runs of the controller

The controller factory's worker hands each key its queue yields to `sync`, one at
a time.  `syncRun` is that worker over a list of keys, whatever the informer queued
and the controller requeued; every call of the run may fail in transport as
`env.faults` says.

`Converged` says that every stored migration a manifest names carries that
manifest's metadata and spec, as a Create leaves it.  One sync keeps a hub
converged under any faults and sends no Update from it, so every run does.  The
update defect of `applyFetched` therefore shows only on an object that had drifted
before the controller ran, as in the package test that seeds one.  `Reconciled`
adds that every manifest's migration is stored: from a converged hub, one
successful sync of an `Applied` cluster manager reaches it, and from there a sync
whose calls are answered only reads.

The two manifests decode to migrations of different names, and neither sets a
label or annotation it also removes with a `-`-suffixed key; the theorems below
that need them take them as `(env.names migrationRequestFiles).Nodup` and
`env.Consistent`.  A Create leaves a matching object only under the second.

## Main statements

* `syncRun_touches_only_manifests` — every mutating call of a run is a call on a
  migration some manifest names, and no other object changes.
* `syncRun_converged` — from a converged hub, every run stays converged and sends
  no Update.
* `sync_idempotent_of_converged` — from a converged hub, a successful sync of an
  `Applied` cluster manager reconciles the hub, and the next sync only reads.
-/

namespace MigrationController

/-- The factory worker: `sync` of each key in turn, the cluster threaded through. -/
def syncRun (env : Env) (keys : List String) (c : Cluster) : Cluster :=
  keys.foldl (fun c key => (sync env key c).2) c

/-! ## What a run touches -/

/-- A call on a migration that some manifest names. -/
def OnManifests (env : Env) (a : Action) : Prop :=
  a.resource = .storageVersionMigrations ∧ a.name ∈ env.names migrationRequestFiles

theorem onManifests_of_syncMayMutate {env : Env} {key : String} {c : Cluster} {a : Action}
    (h : SyncMayMutate env key c a) : OnManifests env a := by
  obtain ⟨cm, -, -, h⟩ := h
  split at h
  · exact ⟨h.2.1, h.2.2.1⟩
  · exact ⟨h.1, h.2.1⟩

/-- **Every run touches only the manifests' migrations**: whatever keys it is handed
and whatever fails, every mutating call of a run is a call on a migration some
manifest names, and every other object is left as it was. -/
theorem syncRun_touches_only_manifests (env : Env) (keys : List String) (c : Cluster) :
    Cluster.Appends (fun a => a.isMutating → OnManifests env a) c (syncRun env keys c) ∧
    ∀ n ∉ env.names migrationRequestFiles,
      (syncRun env keys c).migrations.objects n = c.migrations.objects n := by
  induction keys generalizing c with
  | nil => exact ⟨.refl _ _, fun _ _ => rfl⟩
  | cons key keys ih =>
    obtain ⟨ha, ho⟩ := ih (sync env key c).2
    exact ⟨((sync_appends env key c).mono fun a h hm => onManifests_of_syncMayMutate (h hm)).trans ha,
      fun n hn => (ho n hn).trans (sync_objects_ne env key c hn)⟩

/-! ## Converged hubs -/

/-- The object under a manifest's name, if there is one, carries its metadata and spec. -/
def Matches (d : StorageVersionMigration) (o : Option StorageVersionMigration) : Prop :=
  ∀ e, o = some e → Covers d.toObjectMeta e.toObjectMeta ∧ e.spec = d.spec

/-- Every stored migration that a manifest names carries that manifest's metadata and spec. -/
def Converged (env : Env) (c : Cluster) : Prop :=
  ∀ file ∈ migrationRequestFiles, ∀ d, env.required file = some d →
    Matches d (c.migrations.objects d.name)

/-- Every manifest's migration is stored, with that manifest's metadata and spec. -/
structure Reconciled (env : Env) (c : Cluster) : Prop where
  converged : Converged env c
  present : ∀ file ∈ migrationRequestFiles, ∃ d, env.required file = some d ∧
    (c.migrations.objects d.name).isSome

section Converged

variable {env : Env} {c c' : Cluster} {file : String} {d : StorageVersionMigration}

theorem Converged.of_erases (h : Erases c c') (hc : Converged env c) : Converged env c' := by
  intro file hf d hd
  rcases h d.name with h | h <;> rw [h]
  · exact hc file hf d hd
  · exact nofun

/-- Two manifests that decode to migrations of one name decode to the same one. -/
theorem eq_of_name_eq (hm : (env.names migrationRequestFiles).Nodup) {f₁ f₂ : String}
    (h₁ : f₁ ∈ migrationRequestFiles) (h₂ : f₂ ∈ migrationRequestFiles)
    {d₁ d₂ : StorageVersionMigration}
    (hd₁ : env.required f₁ = some d₁) (hd₂ : env.required f₂ = some d₂) (hn : d₁.name = d₂.name) :
    d₁ = d₂ := by
  rw [Env.names, ← List.map_filterMap] at hm
  exact List.inj_on_of_nodup_map hm (List.mem_filterMap.mpr ⟨f₁, h₁, hd₁⟩)
    (List.mem_filterMap.mpr ⟨f₂, h₂, hd₂⟩) hn

/-- On a name whose object matches, apply issues its Get and at most a Create. -/
theorem applyStorageVersionMigration_of_matches (h : env.required file = some d)
    (hd : Matches d (c.migrations.objects d.name)) :
    (applyStorageVersionMigration env file c).2 = c.record ⟨.get, .storageVersionMigrations, d.name⟩ ∨
    (applyStorageVersionMigration env file c).2 =
      (createStorageVersionMigration env.faults d (c.record ⟨.get, .storageVersionMigrations, d.name⟩)).2 := by
  rcases applyStorageVersionMigration_snd_cases h c with hc | hc | ⟨e, he, hn, -⟩
  · exact .inl hc
  · exact .inr hc
  · exact absurd (hd e he) hn

/-- A Create of `d` leaves a matching object under `d`'s name, or nothing new. -/
theorem matches_createStorageVersionMigration {faults : Faults} (hcons : d.toObjectMeta.Consistent)
    (hd : Matches d (c.migrations.objects d.name)) :
    Matches d ((createStorageVersionMigration faults d c).2.migrations.objects d.name) := by
  rcases hr : (createStorageVersionMigration faults d c).1 with err | x
  · rwa [createStorageVersionMigration_of_error hr]
  · rw [(createStorageVersionMigration_eq_ok hr).2.2, Store.commit_objects_self]
    rintro e ⟨⟩
    exact ⟨(Covers.refl hcons).with_resourceVersion _, rfl⟩

/-- A Create of a manifest's migration keeps a hub converged, under any faults. -/
theorem converged_createStorageVersionMigration {faults : Faults}
    (hm : (env.names migrationRequestFiles).Nodup) (hcons : env.Consistent) (hf : file ∈ migrationRequestFiles)
    (h : env.required file = some d) (hc : Converged env c) :
    Converged env (createStorageVersionMigration faults d c).2 := by
  intro f' hf' d' hd'
  by_cases hn : d'.name = d.name
  · obtain rfl := eq_of_name_eq hm hf' hf hd' h hn
    exact matches_createStorageVersionMigration (hcons file hf d' h) (hc file hf d' h)
  · rw [createStorageVersionMigration_objects_ne hn]
    exact hc f' hf' d' hd'

/-- One apply of a manifest keeps a hub converged and sends no Update, under any faults. -/
theorem converged_applyStorageVersionMigration (hm : (env.names migrationRequestFiles).Nodup)
    (hcons : env.Consistent) (hf : file ∈ migrationRequestFiles) (hc : Converged env c) :
    Converged env (applyStorageVersionMigration env file c).2 ∧
      Cluster.Appends (fun a => a.verb ≠ .update) c (applyStorageVersionMigration env file c).2 := by
  cases h : env.required file with
  | none => rw [(applyStorageVersionMigration_of_required_none h c).1]; exact ⟨hc, .refl _ _⟩
  | some d =>
    rcases applyStorageVersionMigration_of_matches h (hc file hf d h) with hr | hr <;> rw [hr]
    · exact ⟨hc, _, rfl, by simp⟩
    · exact ⟨converged_createStorageVersionMigration hm hcons hf h hc,
        [⟨.get, .storageVersionMigrations, d.name⟩, ⟨.create, .storageVersionMigrations, d.name⟩], by simp,
        by simp⟩

/-- The apply loop keeps a hub converged and sends no Update, under any faults. -/
theorem converged_runEach (hm : (env.names migrationRequestFiles).Nodup) (hcons : env.Consistent)
    {files : List String}
    (hf : ∀ f ∈ files, f ∈ migrationRequestFiles) (hc : Converged env c) :
    Converged env (runEach (applyStorageVersionMigration env) files c).2 ∧
      Cluster.Appends (fun a => a.verb ≠ .update) c (runEach (applyStorageVersionMigration env) files c).2 := by
  induction files generalizing c with
  | nil => exact ⟨hc, .refl _ _⟩
  | cons file files ih =>
    obtain ⟨hc₁, ha₁⟩ := converged_applyStorageVersionMigration hm hcons (hf file (by simp)) hc
    obtain ⟨hc₂, ha₂⟩ := ih (fun f h => hf f (by simp [h])) hc₁
    exact ⟨hc₂, ha₁.trans ha₂⟩

/-- One sync keeps a hub converged and sends no Update, under any faults. -/
theorem converged_sync (hm : (env.names migrationRequestFiles).Nodup) (hcons : env.Consistent) (key : String)
    (hc : Converged env c) :
    Converged env (sync env key c).2 ∧ Cluster.Appends (fun a => a.verb ≠ .update) c (sync env key c).2 := by
  have hget : Cluster.Appends (fun a => a.verb ≠ .update) c
      (c.record ⟨.get, .customResourceDefinitions, migrationRequestCRDName⟩) := ⟨_, rfl, by simp⟩
  rcases sync_cases env key c with h | h | h | ⟨-, -, -, -, h⟩ | ⟨-, -, -, -, -, h⟩ <;> rw [h]
  · exact ⟨hc, .refl _ _⟩
  · exact ⟨hc, hget⟩
  · exact ⟨hc, hget⟩
  · exact ⟨Converged.of_erases (erases_removeStorageVersionMigrations _ _) hc,
      hget.trans ((removeStorageVersionMigrations_appends _ _).mono fun a ha => by simp [ha.2.2])⟩
  · rw [applyStorageVersionMigrations_eq_runEach]
    obtain ⟨hc₂, ha₂⟩ := converged_runEach hm hcons (fun _ h => h) (c := c.record _) hc
    exact ⟨hc₂, hget.trans ha₂⟩

/-- **A converged hub stays converged**: when the manifests name distinct
migrations and set no key they also remove, from a hub where every stored migration
a manifest names carries its manifest's metadata and spec (one that stores none of
them, say), every run of syncs, under any transport failures, keeps that so and
never sends an Update. -/
theorem syncRun_converged (hm : (env.names migrationRequestFiles).Nodup) (hcons : env.Consistent)
    (hc : Converged env c)
    (keys : List String) :
    Converged env (syncRun env keys c) ∧
      Cluster.Appends (fun a => a.verb ≠ .update) c (syncRun env keys c) := by
  induction keys generalizing c with
  | nil => exact ⟨hc, .refl _ _⟩
  | cons key keys ih =>
    obtain ⟨hc₁, ha₁⟩ := converged_sync hm hcons key hc
    obtain ⟨hc₂, ha₂⟩ := ih hc₁
    exact ⟨hc₂, ha₁.trans ha₂⟩

end Converged

/-- A hub with the migration CRD and an `Applied` cluster manager named
`cluster-manager`, which stores no migration yet. -/
def freshHub : Cluster where
  clusterManagers := seededHub.clusterManagers
  crds := [migrationRequestCRDName]
  migrations := Store.empty

/-- Two syncs of a fresh hub send no Update. -/
theorem syncRun_converged_on_fresh :
    ((clusterManagerEnv Faults.none).names migrationRequestFiles).Nodup ∧
    (clusterManagerEnv Faults.none).Consistent ∧
    Converged (clusterManagerEnv Faults.none) freshHub ∧
    (Converged (clusterManagerEnv Faults.none)
        (syncRun (clusterManagerEnv Faults.none) ["cluster-manager", "cluster-manager"] freshHub) ∧
      Cluster.Appends (fun a => a.verb ≠ .update) freshHub
        (syncRun (clusterManagerEnv Faults.none) ["cluster-manager", "cluster-manager"] freshHub)) :=
  ⟨by decide, clusterManagerEnv_consistent _, fun _ _ _ _ _ h => Option.noConfusion h,
    @syncRun_converged (clusterManagerEnv Faults.none) freshHub (by decide) (clusterManagerEnv_consistent _)
      (fun _ _ _ _ _ h => Option.noConfusion h) ["cluster-manager", "cluster-manager"]⟩

/-! ## Reconciled hubs -/

section Reconciled

variable {env : Env} {c : Cluster} {file : String}

/-- An apply keeps every object it finds. -/
theorem applyStorageVersionMigration_isSome {n : String} (h : (c.migrations.objects n).isSome) :
    ((applyStorageVersionMigration env file c).2.migrations.objects n).isSome := by
  cases hr : env.required file with
  | none => rwa [(applyStorageVersionMigration_of_required_none hr c).1]
  | some d =>
    by_cases hn : n = d.name
    · subst hn
      obtain ⟨e, he⟩ := Option.isSome_iff_exists.mp h
      obtain ⟨o, ho, -⟩ := applyStorageVersionMigration_spec_of_existing hr he
      simp [ho]
    · rwa [applyStorageVersionMigration_objects_ne hr c hn]

theorem runEach_isSome {files : List String} {n : String} (h : (c.migrations.objects n).isSome) :
    ((runEach (applyStorageVersionMigration env) files c).2.migrations.objects n).isSome := by
  induction files generalizing c with
  | nil => exact h
  | cons file files ih => exact ih (applyStorageVersionMigration_isSome h)

/-- A run of applies that all succeed stores every file's migration. -/
theorem runEach_present {files : List String}
    (hok : ∀ r ∈ (runEach (applyStorageVersionMigration env) files c).1, r.err = none) :
    ∀ file ∈ files, ∃ d, env.required file = some d ∧
      ((runEach (applyStorageVersionMigration env) files c).2.migrations.objects d.name).isSome := by
  induction files generalizing c with
  | nil => simp
  | cons file files ih =>
    have hok₁ : (applyStorageVersionMigration env file c).1.err = none := hok _ (.head _)
    rintro f (_ | ⟨_, hf⟩)
    · cases h : env.required file with
      | none =>
        exact absurd hok₁ (Option.isSome_iff_ne_none.mp (applyStorageVersionMigration_of_required_none h c).2.1)
      | some d =>
        obtain ⟨o, ho, -⟩ := applyStorageVersionMigration_stored h c hok₁
        exact ⟨d, rfl, runEach_isSome (c := (applyStorageVersionMigration env file c).2) (by rw [ho]; rfl)⟩
    · exact ih (fun r hr => hok r (.tail _ hr)) f hf

/-- On a reconciled hub whose calls are answered, apply of a manifest only reads. -/
theorem applyStorageVersionMigration_of_reconciled (hf : ∀ k, env.faults k = none)
    (hfile : file ∈ migrationRequestFiles) (hr : Reconciled env c) :
    ∃ n r, r.err = none ∧
      applyStorageVersionMigration env file c = (r, c.record ⟨.get, .storageVersionMigrations, n⟩) := by
  obtain ⟨d, hd, hs⟩ := hr.present file hfile
  obtain ⟨o, ho⟩ := Option.isSome_iff_exists.mp hs
  obtain ⟨hc, hspec⟩ := hr.converged file hfile d hd o ho
  exact ⟨d.name, _, rfl, applyStorageVersionMigration_of_converged hd ho hc hspec (hf _)⟩

/-- On a reconciled hub whose calls are answered, the apply loop succeeds with Gets alone. -/
theorem runEach_of_reconciled (hf : ∀ k, env.faults k = none) {files : List String}
    (hfs : ∀ f ∈ files, f ∈ migrationRequestFiles) (hr : Reconciled env c) :
    (∀ r ∈ (runEach (applyStorageVersionMigration env) files c).1, r.err = none) ∧
    (runEach (applyStorageVersionMigration env) files c).2.migrations = c.migrations ∧
    Cluster.Appends (fun a => a.verb = .get) c (runEach (applyStorageVersionMigration env) files c).2 := by
  induction files generalizing c with
  | nil => exact ⟨nofun, rfl, .refl _ _⟩
  | cons file files ih =>
    obtain ⟨n, r, hok, hstep⟩ := applyStorageVersionMigration_of_reconciled hf (hfs file (.head _)) hr
    obtain ⟨hok', hm, ha⟩ := ih (fun f h => hfs f (.tail _ h)) (c := c.record _) ⟨hr.1, hr.2⟩
    simp only [runEach, hstep]
    exact ⟨by simpa [hok] using hok', hm, Cluster.Appends.trans ⟨_, rfl, by simp⟩ ha⟩

/-- On a reconciled hub whose calls are answered, a sync of an `Applied`, not deleted
cluster manager with the CRD there returns `nil`, issues only Gets and leaves the
store as it is. -/
theorem sync_of_reconciled (hf : ∀ k, env.faults k = none) (hr : Reconciled env c) {key : String}
    {cm : ClusterManager} (hcm : c.clusterManagers key = some cm) (hcrd : migrationRequestCRDName ∈ c.crds)
    (hz : Time.isZero cm.deletionTimestamp = true)
    (ha : isStatusConditionTrue cm.conditions clusterManagerApplied = true) :
    (sync env key c).1 = none ∧ (sync env key c).2.migrations = c.migrations ∧
      Cluster.Appends (fun a => a.verb = .get) c (sync env key c).2 := by
  rw [sync_of_applied hcm (supportStorageVersionMigration_of_present hcrd (hf _)) hz ha,
    applyStorageVersionMigrations_eq_runEach]
  obtain ⟨hok, hmig, hget⟩ := runEach_of_reconciled hf (fun _ h => h) (c := c.record _) ⟨hr.1, hr.2⟩
  exact ⟨by simpa [newMultiLineAggregate_eq_none, List.filterMap_eq_nil_iff] using hok, hmig,
    Cluster.Appends.trans ⟨_, rfl, by simp⟩ hget⟩

/-- An apply loop over the manifests that returns `nil` leaves a converged hub reconciled,
under any faults. -/
theorem reconciled_applyStorageVersionMigrations (hm : (env.names migrationRequestFiles).Nodup)
    (hcons : env.Consistent) (hc : Converged env c) (hok : (applyStorageVersionMigrations env migrationRequestFiles c).1 = none) :
    Reconciled env (applyStorageVersionMigrations env migrationRequestFiles c).2 := by
  rw [applyStorageVersionMigrations_eq_runEach] at hok ⊢
  simp only [newMultiLineAggregate_eq_none, List.filterMap_eq_nil_iff] at hok
  exact ⟨(converged_runEach hm hcons (fun _ h => h) hc).1, runEach_present (by simpa using hok)⟩

/-- **A successful sync of a converged hub is a fixed point**: when the manifests
name distinct migrations and set no key they also remove, from a hub where every
stored migration a manifest names carries its manifest's metadata and spec, a sync
of an `Applied`, not deleted cluster manager with the CRD there that returns `nil`,
under any faults, leaves every manifest's migration stored with that manifest's
metadata and spec; and the next sync, its calls answered, returns `nil`, issues
only Gets and leaves the store as it is. -/
theorem sync_idempotent_of_converged (hm : (env.names migrationRequestFiles).Nodup)
    (hcons : env.Consistent) (hc : Converged env c) {key : String} {cm : ClusterManager} (hcm : c.clusterManagers key = some cm)
    (hcrd : migrationRequestCRDName ∈ c.crds) (hz : Time.isZero cm.deletionTimestamp = true)
    (ha : isStatusConditionTrue cm.conditions clusterManagerApplied = true)
    (hok : (sync env key c).1 = none) :
    Reconciled env (sync env key c).2 ∧
    (sync { env with faults := Faults.none } key (sync env key c).2).1 = none ∧
    (sync { env with faults := Faults.none } key (sync env key c).2).2.migrations =
      (sync env key c).2.migrations ∧
    Cluster.Appends (fun a => a.verb = .get) (sync env key c).2
      (sync { env with faults := Faults.none } key (sync env key c).2).2 := by
  have hsync := sync_of_applied_ok hcm hcrd hz ha hok
  have hrec : Reconciled env (sync env key c).2 := by
    rw [hsync] at hok ⊢
    exact reconciled_applyStorageVersionMigrations hm hcons hc hok
  obtain ⟨hcm', hcrd'⟩ : (sync env key c).2.clusterManagers = c.clusterManagers ∧
      (sync env key c).2.crds = c.crds := by
    rw [hsync, applyStorageVersionMigrations_eq_runEach]
    exact runEach_hub _ _
  exact ⟨hrec, @sync_of_reconciled { env with faults := Faults.none } _ (fun _ => rfl) ⟨hrec.1, hrec.2⟩
    key cm ((congrFun hcm' key).trans hcm) (by rw [hcrd']; exact hcrd) hz ha⟩

end Reconciled

/-- On the fresh hub, the first sync creates both migrations and the second only reads. -/
theorem sync_idempotent_of_converged_on_fresh :
    ((clusterManagerEnv Faults.none).names migrationRequestFiles).Nodup ∧
    (clusterManagerEnv Faults.none).Consistent ∧
    Converged (clusterManagerEnv Faults.none) freshHub ∧
    freshHub.clusterManagers "cluster-manager" =
      some { conditions := [⟨clusterManagerApplied, "True"⟩] } ∧
    migrationRequestCRDName ∈ freshHub.crds ∧
    (sync (clusterManagerEnv Faults.none) "cluster-manager" freshHub).1 = none ∧
    (Reconciled (clusterManagerEnv Faults.none) (sync (clusterManagerEnv Faults.none) "cluster-manager" freshHub).2 ∧
    (sync { clusterManagerEnv Faults.none with faults := Faults.none } "cluster-manager"
        (sync (clusterManagerEnv Faults.none) "cluster-manager" freshHub).2).1 = none ∧
    (sync { clusterManagerEnv Faults.none with faults := Faults.none } "cluster-manager"
        (sync (clusterManagerEnv Faults.none) "cluster-manager" freshHub).2).2.migrations =
      (sync (clusterManagerEnv Faults.none) "cluster-manager" freshHub).2.migrations ∧
    Cluster.Appends (fun a => a.verb = .get) (sync (clusterManagerEnv Faults.none) "cluster-manager" freshHub).2
      (sync { clusterManagerEnv Faults.none with faults := Faults.none } "cluster-manager"
        (sync (clusterManagerEnv Faults.none) "cluster-manager" freshHub).2).2) :=
  ⟨by decide, clusterManagerEnv_consistent _, fun _ _ _ _ _ h => Option.noConfusion h, rfl, by decide, rfl,
    @sync_idempotent_of_converged (clusterManagerEnv Faults.none) freshHub (by decide)
      (clusterManagerEnv_consistent _) (fun _ _ _ _ _ h => Option.noConfusion h) "cluster-manager" _ rfl (by decide) rfl rfl rfl⟩

end MigrationController
