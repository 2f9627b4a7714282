import MigrationController.Run

/-!
# What a reconcile is for

The controller is a reconciler: for the cluster manager a key names, it brings
the hub's storage version migrations to the state that cluster manager asks for.
`Intent` is that state, read off the cluster before the sync: nothing to do while
the cluster manager is gone or the hub has no migration CRD; wait and look again
while its other resources are not `Applied`; remove every manifest's migration
while it is being deleted; and otherwise have every manifest's migration in
place, with the manifest's metadata and spec (`Reconciled`).  `Intent.Achieved`
says when a cluster after the sync is in that state.

This is the abstract level; `sync` is the code.  A sync that returns `nil` may
still fall short of the intent: on a migration whose spec had drifted, the update
defect of `applyFetched` writes the old spec back.  From a converged hub it never
does, and no run leaves the converged hubs, so every successful sync of every run
from one achieves its intent (`syncRun_achieves`).

## Main statements

* `sync_achieves` — from a converged hub, a sync that returns `nil` achieves the
  intent of its key.
* `syncRun_achieves` — the same for the sync after any run of syncs.
-/

namespace MigrationController

/-- What a reconcile of a cluster manager is for. -/
inductive Intent
  /-- Nothing to do: the cluster manager is gone, or the hub serves no migrations. -/
  | idle
  /-- The cluster manager's other resources are not applied yet: look again later. -/
  | wait
  /-- The cluster manager is being deleted: its migrations go. -/
  | remove
  /-- Every manifest's migration is in place. -/
  | ensure
  deriving DecidableEq, Repr

/-- The intent for the cluster manager under `key`, as the cluster shows it. -/
def intent (key : String) (c : Cluster) : Intent :=
  match c.clusterManagers key with
  | none => .idle
  | some cm =>
    if migrationRequestCRDName ∉ c.crds then .idle
    else if Time.isZero cm.deletionTimestamp = false then .remove
    else if isStatusConditionTrue cm.conditions clusterManagerApplied then .ensure
    else .wait

/-- `c'`, reached from `c` by a reconcile of `key`, is in the state the intent asks for. -/
def Intent.Achieved (env : Env) (key : String) (c c' : Cluster) : Intent → Prop
  | .idle => c'.migrations = c.migrations
  | .wait => c'.migrations = c.migrations ∧ (key, 5 * second) ∈ c'.queue
  | .remove => ∀ n ∈ env.names migrationRequestFiles, c'.migrations.objects n = none
  | .ensure => Reconciled env c'

section Achieves

variable {env : Env} {key : String} {c : Cluster}

/-- A removal loop over the manifests that returns `nil` leaves none of their migrations. -/
theorem removeStorageVersionMigrations_names_gone
    (hok : (removeStorageVersionMigrations env migrationRequestFiles c).1 = none) :
    ∀ n ∈ env.names migrationRequestFiles,
      (removeStorageVersionMigrations env migrationRequestFiles c).2.migrations.objects n = none := by
  intro n hn
  obtain ⟨file, hfile, d, hd, rfl⟩ := Env.mem_names.mp hn
  obtain ⟨d', hd', hgone⟩ := removeStorageVersionMigrations_gone _ _ hok file hfile
  obtain rfl : d = d' := Option.some.inj (hd.symm.trans hd')
  exact hgone

/-- **A successful sync does its job on a converged hub**: when the manifests name
distinct migrations and set no key they also remove, from a hub where every stored
migration a manifest names carries its manifest's metadata and spec, a sync that
returns `nil`, under any faults, achieves the intent of its key. -/
theorem sync_achieves (hm : (env.names migrationRequestFiles).Nodup) (hcons : env.Consistent)
    (hc : Converged env c)
    (hok : (sync env key c).1 = none) : (intent key c).Achieved env key c (sync env key c).2 := by
  cases hcm : c.clusterManagers key with
  | none => simp [intent, hcm, Intent.Achieved, sync, clusterManagerListerGet]
  | some cm =>
    have hs : supportStorageVersionMigration env c =
        (.ok (decide (migrationRequestCRDName ∈ c.crds)),
          c.record ⟨.get, .customResourceDefinitions, migrationRequestCRDName⟩) :=
      Prod.ext (supportStorageVersionMigration_of_sync_ok hcm hok) supportStorageVersionMigration_snd
    by_cases hcrd : migrationRequestCRDName ∈ c.crds
    · cases hz : Time.isZero cm.deletionTimestamp
      · have h := sync_of_deleting hcm (by simpa [hcrd] using congrArg Prod.fst hs) hz
        rw [h] at hok ⊢
        simpa [intent, hcm, hcrd, hz, Intent.Achieved] using removeStorageVersionMigrations_names_gone hok
      · cases ha : isStatusConditionTrue cm.conditions clusterManagerApplied
        · simp [intent, Intent.Achieved, sync, clusterManagerListerGet, hcm, hs, hcrd, hz, ha]
        · have h := sync_of_applied_ok hcm hcrd hz ha hok
          rw [h] at hok ⊢
          simpa [intent, hcm, hcrd, hz, ha, Intent.Achieved] using
            reconciled_applyStorageVersionMigrations (c := c.record _) hm hcons hc hok
    · simp [intent, Intent.Achieved, sync, clusterManagerListerGet, hcm, hs, hcrd]

/-- **Every successful reconcile of a run does its job**: for manifests as in
`sync_achieves`, from a converged hub, after
any run of syncs over any keys and under any transport failures, a sync of any key
that returns `nil` achieves the intent that key's cluster manager shows. -/
theorem syncRun_achieves (hm : (env.names migrationRequestFiles).Nodup) (hcons : env.Consistent)
    (hc : Converged env c)
    (run : List String) (key : String) (hok : (sync env key (syncRun env run c)).1 = none) :
    (intent key (syncRun env run c)).Achieved env key (syncRun env run c)
      (sync env key (syncRun env run c)).2 := by
  induction run generalizing c with
  | nil => exact sync_achieves hm hcons hc hok
  | cons k run ih => exact ih (converged_sync hm hcons k hc).1 hok

end Achieves

/-- A fresh hub: a sync of its cluster manager after one sync creates nothing more
and finds both migrations in place. -/
theorem syncRun_achieves_on_fresh :
    ((clusterManagerEnv Faults.none).names migrationRequestFiles).Nodup ∧
    (clusterManagerEnv Faults.none).Consistent ∧
    Converged (clusterManagerEnv Faults.none) freshHub ∧
    (sync (clusterManagerEnv Faults.none) "cluster-manager"
      (syncRun (clusterManagerEnv Faults.none) ["cluster-manager"] freshHub)).1 = none ∧
    (intent "cluster-manager" (syncRun (clusterManagerEnv Faults.none) ["cluster-manager"] freshHub)).Achieved
      (clusterManagerEnv Faults.none) "cluster-manager"
      (syncRun (clusterManagerEnv Faults.none) ["cluster-manager"] freshHub)
      (sync (clusterManagerEnv Faults.none) "cluster-manager"
        (syncRun (clusterManagerEnv Faults.none) ["cluster-manager"] freshHub)).2 :=
  have hok : (sync (clusterManagerEnv Faults.none) "cluster-manager"
      (syncRun (clusterManagerEnv Faults.none) ["cluster-manager"] freshHub)).1 = none := rfl
  ⟨by decide, clusterManagerEnv_consistent _, fun _ _ _ _ _ h => Option.noConfusion h, hok,
    syncRun_achieves (by decide) (clusterManagerEnv_consistent _) (fun _ _ _ _ _ h => Option.noConfusion h)
      ["cluster-manager"]
      "cluster-manager" hok⟩

end MigrationController
