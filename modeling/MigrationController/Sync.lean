import MigrationController.Remove
import MigrationController.Aggregate

/-!
# `crdMigrationController.sync`

One reconcile of the key a cluster manager's informer event queued: read the
cluster manager from the lister, stop if it is gone, ask the apiextensions
client whether the `storageversionmigrations` CRD exists, and then remove the
migrations while the cluster manager is being deleted, requeue the key after
five seconds while it is not yet `Applied`, or apply the migrations.

`sync_cases` lists everything one sync can do to the cluster; the gating
theorem is read off it.

## Main statements

* `sync_cases` — the five outcomes of a sync.
* `sync_gates_mutations` — which mutations a sync may issue, decided by the
  cluster manager, its deletion timestamp before its conditions, and the CRD, and
  that it touches no other object.
* `sync_eq_none_of_answered` — with every call answered and the manifests valid,
  a sync never returns an error.
* `sync_of_crd_absent` — without the CRD, a sync returns `nil` after its CRD Get.
-/

namespace MigrationController

/-- `time.Second`, in nanoseconds. -/
def second : Nat := 1000000000

/-- The group-qualified resource of the cluster-manager lister. -/
def clusterManagersResource : String := "clustermanager.operator.open-cluster-management.io"

/-- `clusterManagerLister.Get`: a read of the informer's cache, which fails only with `NotFound`. -/
def clusterManagerListerGet (c : Cluster) (name : String) : Except Error ClusterManager :=
  match c.clusterManagers name with
  | some clusterManager => .ok clusterManager
  | none => .error (newNotFound clusterManagersResource name)

/-- `supportStorageVersionMigration`: whether the migration CRD exists. -/
def supportStorageVersionMigration (env : Env) (c : Cluster) : Except Error Bool × Cluster :=
  match getCustomResourceDefinition env.faults migrationRequestCRDName c with
  | (.error err, c) => if err.isNotFound then (.ok false, c) else (.error err, c)
  | (.ok (), c) => (.ok true, c)

/-- `sync` for the queue key `clusterManagerName`. -/
def sync (env : Env) (clusterManagerName : String) (c : Cluster) : Option Error × Cluster :=
  match clusterManagerListerGet c clusterManagerName with
  | .error err => if err.isNotFound then (none, c) else (some err, c)
  | .ok clusterManager =>
    match supportStorageVersionMigration env c with
    | (.error err, c) => (some err, c)
    | (.ok false, c) => (none, c)
    | (.ok true, c) =>
      if !Time.isZero clusterManager.deletionTimestamp then
        removeStorageVersionMigrations env migrationRequestFiles c
      else if !isStatusConditionTrue clusterManager.conditions clusterManagerApplied then
        (none, { c with queue := c.queue ++ [(clusterManagerName, 5 * second)] })
      else applyStorageVersionMigrations env migrationRequestFiles c

/-! ## The CRD check -/

section Support

variable {env : Env} {c : Cluster}

/-- The CRD check is one Get, which changes nothing else. -/
@[simp] theorem supportStorageVersionMigration_snd :
    (supportStorageVersionMigration env c).2 =
      c.record ⟨.get, .customResourceDefinitions, migrationRequestCRDName⟩ := by
  have hread : (getCustomResourceDefinition env.faults migrationRequestCRDName c).2 =
      c.record ⟨.get, .customResourceDefinitions, migrationRequestCRDName⟩ :=
    Cluster.call_snd_of_read fun x s' h => by split at h <;> simp_all
  unfold supportStorageVersionMigration
  split
  · split <;> simp_all
  · simp_all

/-- The check says yes only when the CRD is there. -/
theorem supportStorageVersionMigration_eq_true (h : (supportStorageVersionMigration env c).1 = .ok true) :
    migrationRequestCRDName ∈ c.crds := by
  unfold supportStorageVersionMigration at h
  split at h
  · split at h <;> cases h
  · rename_i c' hget
    have hop := (Cluster.call_eq_ok (congrArg Prod.fst hget)).2
    split at hop <;> simp_all

/-- The check says no only when the CRD is missing. -/
theorem supportStorageVersionMigration_eq_false (h : (supportStorageVersionMigration env c).1 = .ok false) :
    migrationRequestCRDName ∉ c.crds := by
  unfold supportStorageVersionMigration at h
  split at h
  · rename_i err c' hget
    split at h
    · have hop := Cluster.call_eq_error_of_isNotFound (congrArg Prod.fst hget) ‹_›
      split at hop <;> simp_all
    · cases h
  · cases h

/-- With the CRD there and its Get answered, the check says yes. -/
theorem supportStorageVersionMigration_of_present (h : migrationRequestCRDName ∈ c.crds)
    (hf : env.faults c.actions.length = none) :
    (supportStorageVersionMigration env c).1 = .ok true := by
  simp [supportStorageVersionMigration, getCustomResourceDefinition, Cluster.call_of_answered hf, h]

/-- With the CRD missing and its Get answered, the check says no. -/
theorem supportStorageVersionMigration_of_absent (h : migrationRequestCRDName ∉ c.crds)
    (hf : env.faults c.actions.length = none) :
    (supportStorageVersionMigration env c).1 = .ok false := by
  simp [supportStorageVersionMigration, getCustomResourceDefinition, Cluster.call_of_answered hf, h]

end Support

/-! ## Sync -/

section Sync

variable {env : Env} {key : String} {c : Cluster}

/-- **Everything one sync can do to the cluster**: nothing; the CRD Get alone; the
CRD Get and a requeue of the key after five seconds; or, with the cluster manager
and the CRD there, the CRD Get followed by the removal loop while the cluster
manager is being deleted, or by the apply loop once it is `Applied`. -/
theorem sync_cases (env : Env) (key : String) (c : Cluster) :
    let c₁ := c.record ⟨.get, .customResourceDefinitions, migrationRequestCRDName⟩
    (sync env key c).2 = c ∨ (sync env key c).2 = c₁ ∨
    sync env key c = (none, { c₁ with queue := c.queue ++ [(key, 5 * second)] }) ∨
    (∃ cm, c.clusterManagers key = some cm ∧ migrationRequestCRDName ∈ c.crds ∧
      Time.isZero cm.deletionTimestamp = false ∧
      sync env key c = removeStorageVersionMigrations env migrationRequestFiles c₁) ∨
    (∃ cm, c.clusterManagers key = some cm ∧ migrationRequestCRDName ∈ c.crds ∧
      Time.isZero cm.deletionTimestamp = true ∧
      isStatusConditionTrue cm.conditions clusterManagerApplied = true ∧
      sync env key c = applyStorageVersionMigrations env migrationRequestFiles c₁) := by
  intro c₁
  unfold sync clusterManagerListerGet
  rcases hcm : c.clusterManagers key with _ | cm
  · simp
  · dsimp only
    rcases hs : supportStorageVersionMigration env c with ⟨err | _ | _, c'⟩ <;> dsimp only
    all_goals obtain rfl : c' = c₁ := (congrArg Prod.snd hs).symm.trans supportStorageVersionMigration_snd
    · exact .inr (.inl rfl)
    · exact .inr (.inl rfl)
    · have hcrd := supportStorageVersionMigration_eq_true (by rw [hs])
      cases hz : Time.isZero cm.deletionTimestamp
      · exact .inr (.inr (.inr (.inl ⟨cm, rfl, hcrd, hz, by simp [hz]⟩)))
      · cases ha : isStatusConditionTrue cm.conditions clusterManagerApplied
        · exact .inr (.inr (.inl (by simp [hz, ha]; rfl)))
        · exact .inr (.inr (.inr (.inr ⟨cm, rfl, hcrd, hz, ha, by simp [hz, ha]⟩)))

/-- What `sync` may mutate for `key`, decided by the cluster before it runs: with the
cluster manager and the CRD there, Deletes of the files' migrations while the
cluster manager is being deleted, and Creates or Updates of them once it is `Applied`. -/
def SyncMayMutate (env : Env) (key : String) (c : Cluster) (a : Action) : Prop :=
  ∃ cm, c.clusterManagers key = some cm ∧ migrationRequestCRDName ∈ c.crds ∧
    if Time.isZero cm.deletionTimestamp then
      isStatusConditionTrue cm.conditions clusterManagerApplied = true ∧
        AppliesTo (env.names migrationRequestFiles) a
    else RemovesFrom (env.names migrationRequestFiles) a

/-- A Get adds nothing a mutation gate has to allow. -/
theorem appends_record_get (Q : Action → Prop) (r : Resource) (n : String) (c : Cluster) :
    Cluster.Appends (fun a => a.isMutating → Q a) c (c.record ⟨.get, r, n⟩) :=
  ⟨[⟨.get, r, n⟩], rfl, by simp [Action.isMutating]⟩

/-- Every mutating call a sync issues is one that `SyncMayMutate` allows. -/
theorem sync_appends (env : Env) (key : String) (c : Cluster) :
    Cluster.Appends (fun a => a.isMutating → SyncMayMutate env key c a) c (sync env key c).2 := by
  have hget := appends_record_get (SyncMayMutate env key c) .customResourceDefinitions
    migrationRequestCRDName c
  rcases sync_cases env key c with h | h | h | ⟨cm, hcm, hcrd, hz, h⟩ | ⟨cm, hcm, hcrd, hz, ha, h⟩
  · rw [h]; exact .refl _ _
  · rw [h]; exact hget
  · rw [h]; exact hget
  · rw [h]
    exact hget.trans ((removeStorageVersionMigrations_appends _ _).mono fun a ha _ =>
      ⟨cm, hcm, hcrd, by simpa [hz] using ha⟩)
  · rw [h]
    exact hget.trans ((applyStorageVersionMigrations_appends _ _).mono fun a h' _ =>
      ⟨cm, hcm, hcrd, by simpa [hz] using ⟨ha, h'⟩⟩)

/-- A sync touches no object that no manifest names. -/
theorem sync_objects_ne (env : Env) (key : String) (c : Cluster) {n : String}
    (hn : n ∉ env.names migrationRequestFiles) :
    (sync env key c).2.migrations.objects n = c.migrations.objects n := by
  rcases sync_cases env key c with h | h | h | ⟨-, -, -, -, h⟩ | ⟨-, -, -, -, -, h⟩
  · rw [h]
  · rw [h]; rfl
  · rw [h]; rfl
  · rw [h, removeStorageVersionMigrations_objects_ne]
    · rfl
    · rintro file hfile d hd rfl
      exact hn (Env.mem_names.mpr ⟨file, hfile, d, hd, rfl⟩)
  · rw [h, applyStorageVersionMigrations_objects_ne _ _ hn]; rfl

/-- With the cluster manager being deleted, a sync whose CRD check says yes runs the
removal loop after the CRD Get, whatever the cluster manager's conditions. -/
theorem sync_of_deleting {cm : ClusterManager} (hcm : c.clusterManagers key = some cm)
    (hs : (supportStorageVersionMigration env c).1 = .ok true)
    (hz : Time.isZero cm.deletionTimestamp = false) :
    sync env key c = removeStorageVersionMigrations env migrationRequestFiles
      (c.record ⟨.get, .customResourceDefinitions, migrationRequestCRDName⟩) := by
  have hs' : supportStorageVersionMigration env c =
      (.ok true, c.record ⟨.get, .customResourceDefinitions, migrationRequestCRDName⟩) :=
    Prod.ext hs supportStorageVersionMigration_snd
  simp [sync, clusterManagerListerGet, hcm, hs', hz]

/-- With the cluster manager and the CRD there and the CRD Get answered, a sync
that finds the cluster manager neither deleted nor `Applied` requeues its key. -/
theorem sync_requeues {cm : ClusterManager} (hcm : c.clusterManagers key = some cm)
    (hcrd : migrationRequestCRDName ∈ c.crds) (hf : env.faults c.actions.length = none)
    (hz : Time.isZero cm.deletionTimestamp = true)
    (ha : isStatusConditionTrue cm.conditions clusterManagerApplied = false) :
    sync env key c = (none, { c.record ⟨.get, .customResourceDefinitions, migrationRequestCRDName⟩ with
      queue := c.queue ++ [(key, 5 * second)] }) := by
  have hs : supportStorageVersionMigration env c =
      (.ok true, c.record ⟨.get, .customResourceDefinitions, migrationRequestCRDName⟩) :=
    Prod.ext (supportStorageVersionMigration_of_present hcrd hf) supportStorageVersionMigration_snd
  simp [sync, clusterManagerListerGet, hcm, hs, hz, ha]

/-- With the cluster manager `Applied` and not deleted, a sync whose CRD check says
yes runs the apply loop after the CRD Get. -/
theorem sync_of_applied {cm : ClusterManager} (hcm : c.clusterManagers key = some cm)
    (hs : (supportStorageVersionMigration env c).1 = .ok true)
    (hz : Time.isZero cm.deletionTimestamp = true)
    (ha : isStatusConditionTrue cm.conditions clusterManagerApplied = true) :
    sync env key c = applyStorageVersionMigrations env migrationRequestFiles
      (c.record ⟨.get, .customResourceDefinitions, migrationRequestCRDName⟩) := by
  have hs' : supportStorageVersionMigration env c =
      (.ok true, c.record ⟨.get, .customResourceDefinitions, migrationRequestCRDName⟩) :=
    Prod.ext hs supportStorageVersionMigration_snd
  simp [sync, clusterManagerListerGet, hcm, hs', hz, ha]

/-- A sync that returns `nil` with the cluster manager there had its CRD check answered. -/
theorem supportStorageVersionMigration_of_sync_ok {cm : ClusterManager}
    (hcm : c.clusterManagers key = some cm) (hok : (sync env key c).1 = none) :
    (supportStorageVersionMigration env c).1 = .ok (decide (migrationRequestCRDName ∈ c.crds)) := by
  rcases hr : (supportStorageVersionMigration env c).1 with err | _ | _
  · have hs : supportStorageVersionMigration env c =
        (.error err, c.record ⟨.get, .customResourceDefinitions, migrationRequestCRDName⟩) :=
      Prod.ext hr supportStorageVersionMigration_snd
    simp [sync, clusterManagerListerGet, hcm, hs] at hok
  · simp [supportStorageVersionMigration_eq_false hr]
  · simp [supportStorageVersionMigration_eq_true hr]

/-- A sync that returns `nil` for an `Applied`, not deleted cluster manager, with the
CRD there, ran the apply loop after the CRD Get. -/
theorem sync_of_applied_ok {cm : ClusterManager} (hcm : c.clusterManagers key = some cm)
    (hcrd : migrationRequestCRDName ∈ c.crds) (hz : Time.isZero cm.deletionTimestamp = true)
    (ha : isStatusConditionTrue cm.conditions clusterManagerApplied = true)
    (hok : (sync env key c).1 = none) :
    sync env key c = applyStorageVersionMigrations env migrationRequestFiles
      (c.record ⟨.get, .customResourceDefinitions, migrationRequestCRDName⟩) :=
  sync_of_applied hcm (by simpa [hcrd] using supportStorageVersionMigration_of_sync_ok hcm hok) hz ha

/-- **Sync gates every mutation**: every mutating call a sync issues is one that
`SyncMayMutate` allows, so there is none when the cluster manager or the CRD is
missing or the cluster manager is neither deleted nor `Applied`; no object that no
manifest names is touched; and with the cluster manager and the CRD there and the
CRD Get answered, the deletion timestamp is looked at first: a cluster manager
being deleted, whatever its conditions, gets the removal loop; one not deleted and
not yet `Applied` gets its key requeued after five seconds and `nil`; and one not
deleted and `Applied` gets the apply loop. -/
theorem sync_gates_mutations (env : Env) (key : String) (c : Cluster) :
    Cluster.Appends (fun a => a.isMutating → SyncMayMutate env key c a) c (sync env key c).2 ∧
    (∀ n ∉ env.names migrationRequestFiles,
      (sync env key c).2.migrations.objects n = c.migrations.objects n) ∧
    ∀ cm, c.clusterManagers key = some cm → migrationRequestCRDName ∈ c.crds →
      env.faults c.actions.length = none →
      (Time.isZero cm.deletionTimestamp = false →
        sync env key c = removeStorageVersionMigrations env migrationRequestFiles
          (c.record ⟨.get, .customResourceDefinitions, migrationRequestCRDName⟩)) ∧
      (Time.isZero cm.deletionTimestamp = true →
        isStatusConditionTrue cm.conditions clusterManagerApplied = false →
        sync env key c = (none, { c.record ⟨.get, .customResourceDefinitions, migrationRequestCRDName⟩ with
          queue := c.queue ++ [(key, 5 * second)] })) ∧
      (Time.isZero cm.deletionTimestamp = true →
        isStatusConditionTrue cm.conditions clusterManagerApplied = true →
        sync env key c = applyStorageVersionMigrations env migrationRequestFiles
          (c.record ⟨.get, .customResourceDefinitions, migrationRequestCRDName⟩)) :=
  ⟨sync_appends env key c, fun _ hn => sync_objects_ne env key c hn, fun _ hcm hcrd hf =>
    have hs := supportStorageVersionMigration_of_present hcrd hf
    ⟨sync_of_deleting hcm hs, sync_requeues hcm hcrd hf, sync_of_applied hcm hs⟩⟩

/-- A hub with the migration CRD and the seeded store, holding `cm` under
`cluster-manager`. -/
def hubOf (cm : ClusterManager) : Cluster where
  clusterManagers name := if name = "cluster-manager" then some cm else none
  crds := [migrationRequestCRDName]
  migrations := seededCluster.migrations

/-- A cluster manager being deleted that was never `Applied` gets the removal loop,
and one not deleted and not `Applied` gets its key requeued. -/
theorem sync_gates_mutations_on_hubs :
    let env := clusterManagerEnv Faults.none
    let deleting : ClusterManager := { deletionTimestamp := some ⟨1⟩ }
    let pending : ClusterManager := {}
    Time.isZero deleting.deletionTimestamp = false ∧
    isStatusConditionTrue deleting.conditions clusterManagerApplied = false ∧
    sync env "cluster-manager" (hubOf deleting) = removeStorageVersionMigrations env migrationRequestFiles
      ((hubOf deleting).record ⟨.get, .customResourceDefinitions, migrationRequestCRDName⟩) ∧
    Time.isZero pending.deletionTimestamp = true ∧
    isStatusConditionTrue pending.conditions clusterManagerApplied = false ∧
    sync env "cluster-manager" (hubOf pending) =
      (none, { (hubOf pending).record ⟨.get, .customResourceDefinitions, migrationRequestCRDName⟩ with
        queue := (hubOf pending).queue ++ [("cluster-manager", 5 * second)] }) :=
  ⟨rfl, rfl, ((sync_gates_mutations (clusterManagerEnv Faults.none) "cluster-manager"
      (hubOf { deletionTimestamp := some ⟨1⟩ })).2.2 _ rfl (by decide) rfl).1 rfl, rfl, rfl,
    ((sync_gates_mutations (clusterManagerEnv Faults.none) "cluster-manager" (hubOf {})).2.2 _ rfl
      (by decide) rfl).2.1 rfl rfl⟩

/-- `seededCluster` on a hub with the migration CRD and an `Applied` cluster manager
named `cluster-manager`. -/
def seededHub : Cluster where
  clusterManagers name :=
    if name = "cluster-manager" then
      some { conditions := [⟨clusterManagerApplied, "True"⟩] }
    else none
  crds := [migrationRequestCRDName]
  migrations := seededCluster.migrations

/-- On the seeded store, a successful apply of the bindings manifest is followed by
an apply that updates again and reports a change; on the seeded hub, a sync that
returns `nil` is followed by a sync that sends the bindings Update again. -/
theorem sync_updates_again_after_drift :
    (applyStorageVersionMigration (clusterManagerEnv Faults.none)
        "cluster-manager/cluster-manager-managedclustersetbindings-migration.yaml" seededCluster).1.err = none ∧
    (applyStorageVersionMigration (clusterManagerEnv Faults.none)
        "cluster-manager/cluster-manager-managedclustersetbindings-migration.yaml"
        (applyStorageVersionMigration (clusterManagerEnv Faults.none)
          "cluster-manager/cluster-manager-managedclustersetbindings-migration.yaml" seededCluster).2).1.changed ∧
    (applyStorageVersionMigration (clusterManagerEnv Faults.none)
        "cluster-manager/cluster-manager-managedclustersetbindings-migration.yaml"
        (applyStorageVersionMigration (clusterManagerEnv Faults.none)
          "cluster-manager/cluster-manager-managedclustersetbindings-migration.yaml" seededCluster).2).2.actions =
      (applyStorageVersionMigration (clusterManagerEnv Faults.none)
        "cluster-manager/cluster-manager-managedclustersetbindings-migration.yaml" seededCluster).2.actions ++
        [⟨.get, .storageVersionMigrations, managedClusterSetBindingsMigration.name⟩,
          ⟨.update, .storageVersionMigrations, managedClusterSetBindingsMigration.name⟩] ∧
    (sync (clusterManagerEnv Faults.none) "cluster-manager" seededHub).1 = none ∧
    (sync (clusterManagerEnv Faults.none) "cluster-manager"
        (sync (clusterManagerEnv Faults.none) "cluster-manager" seededHub).2).2.actions =
      (sync (clusterManagerEnv Faults.none) "cluster-manager" seededHub).2.actions ++
        [⟨.get, .customResourceDefinitions, migrationRequestCRDName⟩,
          ⟨.get, .storageVersionMigrations, managedClusterSetsMigration.name⟩,
          ⟨.get, .storageVersionMigrations, managedClusterSetBindingsMigration.name⟩,
          ⟨.update, .storageVersionMigrations, managedClusterSetBindingsMigration.name⟩] :=
  ⟨rfl, by decide, by decide, rfl, by decide⟩

/-- **Sync reports errors only from transport and manifests**: with every call
answered and every manifest decoding to a migration, a sync returns `nil`, whatever
the cluster manager, its conditions, the CRD and the store. -/
theorem sync_eq_none_of_answered (hr : ∀ file ∈ migrationRequestFiles, (env.required file).isSome)
    (hf : ∀ k, env.faults k = none) (key : String) (c : Cluster) : (sync env key c).1 = none := by
  unfold sync clusterManagerListerGet
  cases hcm : c.clusterManagers key with
  | none => simp
  | some cm =>
    by_cases hcrd : migrationRequestCRDName ∈ c.crds
    · have hs : supportStorageVersionMigration env c =
          (.ok true, c.record ⟨.get, .customResourceDefinitions, migrationRequestCRDName⟩) :=
        Prod.ext (supportStorageVersionMigration_of_present hcrd (hf _)) supportStorageVersionMigration_snd
      simp only [hs]
      split
      · exact removeStorageVersionMigrations_fst_of_answered hr hf _
      · split
        · rfl
        · exact applyStorageVersionMigrations_fst_of_answered hr hf _
    · have hs : supportStorageVersionMigration env c =
          (.ok false, c.record ⟨.get, .customResourceDefinitions, migrationRequestCRDName⟩) :=
        Prod.ext (supportStorageVersionMigration_of_absent hcrd (hf _)) supportStorageVersionMigration_snd
      simp only [hs]

/-- On the seeded hub, with every call answered, a sync returns `nil`. -/
theorem sync_eq_none_of_answered_on_seeded :
    (∀ file ∈ migrationRequestFiles, ((clusterManagerEnv Faults.none).required file).isSome) ∧
    (∀ k, (clusterManagerEnv Faults.none).faults k = none) ∧
    (sync (clusterManagerEnv Faults.none) "cluster-manager" seededHub).1 = none :=
  ⟨by decide, fun _ => rfl,
    @sync_eq_none_of_answered (clusterManagerEnv Faults.none) (by decide) (fun _ => rfl)
      "cluster-manager" seededHub⟩

/-- **Sync fails closed without the CRD**: with the migration CRD missing and its Get
answered, a sync returns `nil` and issues no call but that Get, which it skips when
the cluster manager is gone. -/
theorem sync_of_crd_absent (hcrd : migrationRequestCRDName ∉ c.crds)
    (hf : env.faults c.actions.length = none) :
    sync env key c = (none, if (c.clusterManagers key).isSome then
      c.record ⟨.get, .customResourceDefinitions, migrationRequestCRDName⟩ else c) := by
  have hs : supportStorageVersionMigration env c =
      (.ok false, c.record ⟨.get, .customResourceDefinitions, migrationRequestCRDName⟩) :=
    Prod.ext (supportStorageVersionMigration_of_absent hcrd hf) supportStorageVersionMigration_snd
  cases hcm : c.clusterManagers key <;> simp [sync, clusterManagerListerGet, hcm, hs]

end Sync

end MigrationController
