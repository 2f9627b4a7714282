import MigrationController.Apply

/-!
# Other clients' writes between apply's Get and its write

`applyStorageVersionMigration` reads the migration and then decides on a Create
or an Update with no lock held, so any number of writes by other clients can
land between its Get and its write.  `applyInterleaved` runs apply with a list of
such writes committed (or refused) in between; with no writes it is apply itself
(`applyInterleaved_nil`).

The API server refuses a Create whose name is taken and an Update whose resource
version is not the stored one, and every committed write stamps the next
revision.  So after another client has committed a write under a name, the object
there, if any, is newer than anything apply can have read (`newerAt_of_mem_writes`),
and the Update apply builds from what it read is refused.

## Main statements

* `applyInterleaved_nil` — with no concurrent writes the interleaved run is apply.
* `applyFetched_of_newerAt` — an apply that read a stale object writes nothing.
* `applyInterleaved_keeps_concurrent_writes` — apply overwrites no write that
  another client committed after its Get.
-/

namespace MigrationController

/-- A write another client sends to the API server. -/
inductive Write
  | create (m : StorageVersionMigration)
  | update (m : StorageVersionMigration)
  | delete (name : String)

/-- The name a write addresses. -/
def Write.name : Write → String
  | .create m => m.name
  | .update m => m.name
  | .delete name => name

namespace Store

/-- The store after a write, or `none` when the registry refuses it. -/
def write (s : Store) : Write → Option Store
  | .create m => match s.create m with
    | .ok (_, s') => some s'
    | .error _ => none
  | .update m => match s.update m with
    | .ok (_, s') => some s'
    | .error _ => none
  | .delete name => match s.delete name with
    | .ok s' => some s'
    | .error _ => none

/-- Other clients' writes in order, a refused one changing nothing, and the names
whose writes committed. -/
def writes (s : Store) : List Write → Store × List String
  | [] => (s, [])
  | w :: ws =>
    match s.write w with
    | some s' => ((s'.writes ws).1, w.name :: (s'.writes ws).2)
    | none => s.writes ws

/-- Every object under `n` is newer than revision `r`. -/
def NewerAt (n : String) (r : Nat) (s : Store) : Prop :=
  ∀ m, s.objects n = some m → r < m.resourceVersion

variable {s s' : Store} {w : Write} {n : String} {r : Nat}

theorem NewerAt.mono {r r' : Nat} (h : NewerAt n r' s) (hr : r ≤ r') : NewerAt n r s :=
  fun m hm => Nat.lt_of_le_of_lt hr (h m hm)

/-- What a committed Create or Update does. -/
theorem commit_spec (s : Store) (m : StorageVersionMigration) :
    s.revision ≤ (s.commit m).revision ∧ (∀ n, n ≠ m.name → (s.commit m).objects n = s.objects n) ∧
      NewerAt m.name s.revision (s.commit m) :=
  ⟨Nat.le_succ _, fun _ hn => commit_objects_ne _ _ hn, by simp [NewerAt]⟩

/-- A committed write commits a migration under its name, or erases its name. -/
theorem write_cases (h : s.write w = some s') :
    (∃ m : StorageVersionMigration, m.name = w.name ∧ s' = s.commit m) ∨ s' = s.erase w.name := by
  cases w <;> simp only [write] at h <;> split at h <;> cases h
  · exact .inl ⟨_, rfl, (create_eq_ok.mp ‹_›).2.2⟩
  · exact .inl ⟨_, rfl, (update_eq_ok.mp ‹_›).2.2⟩
  · exact .inr (delete_eq_ok.mp ‹_›).2

/-- What one committed write does: it moves the revision forward, leaves other
names alone, and leaves its own name empty or newer than the store it found. -/
theorem write_spec (h : s.write w = some s') :
    s.revision ≤ s'.revision ∧ (∀ n, n ≠ w.name → s'.objects n = s.objects n) ∧
      NewerAt w.name s.revision s' := by
  rcases write_cases h with ⟨m, hm, rfl⟩ | rfl
  · exact hm ▸ commit_spec s m
  · exact ⟨le_rfl, fun n hn => erase_objects_ne _ hn, by simp [NewerAt]⟩

/-- Later writes keep a name newer than a revision the store has reached. -/
theorem newerAt_writes (ws : List Write) (s : Store) (h : NewerAt n r s) (hr : r ≤ s.revision) :
    NewerAt n r (s.writes ws).1 := by
  induction ws generalizing s with
  | nil => exact h
  | cons w ws ih =>
    cases hw : s.write w with
    | none => simpa only [writes, hw] using ih s h hr
    | some s' =>
      simp only [writes, hw]
      obtain ⟨hrev, hne, hnew⟩ := write_spec hw
      refine ih s' ?_ (hr.trans hrev)
      by_cases hn : n = w.name
      · exact hn ▸ hnew.mono hr
      · exact fun m hm => h m (hne n hn ▸ hm)

/-- **Once another client commits a write under `n`**, whatever sits there after
all the writes is newer than the revision before them. -/
theorem newerAt_of_mem_writes (ws : List Write) (s : Store) (hn : n ∈ (s.writes ws).2) :
    NewerAt n s.revision (s.writes ws).1 := by
  induction ws generalizing s with
  | nil => cases hn
  | cons w ws ih =>
    cases hw : s.write w with
    | none =>
      simp only [writes, hw] at hn ⊢
      exact ih s hn
    | some s' =>
      simp only [writes, hw, List.mem_cons] at hn ⊢
      obtain ⟨hrev, -, hnew⟩ := write_spec hw
      rcases hn with rfl | hn
      · exact newerAt_writes ws s' hnew hrev
      · exact (ih s' hn).mono hrev

end Store

/-- `applyStorageVersionMigration` for the migration `required`, with the writes
`ws` of other clients landing between its Get and its write. -/
def applyInterleaved (env : Env) (required : StorageVersionMigration) (ws : List Write) (c : Cluster) :
    ApplyResult × Cluster :=
  let fetched := getStorageVersionMigration env.faults required.name c
  applyFetched env.faults required fetched.1
    { fetched.2 with migrations := (fetched.2.migrations.writes ws).1 }

/-- With no writes in between, the interleaved run is apply itself. -/
theorem applyInterleaved_nil {env : Env} {file : String} {d : StorageVersionMigration}
    (h : env.required file = some d) (c : Cluster) :
    applyInterleaved env d [] c = applyStorageVersionMigration env file c := by
  rw [applyStorageVersionMigration_of_required_some h]
  rfl

/-- An Update built from an object read at or before revision `r` is refused where
the name is empty or newer than `r`. -/
theorem updateStorageVersionMigration_rejected {faults : Faults} {e d : StorageVersionMigration}
    {c : Cluster} {r : Nat} (hname : (mergedCopy e d).name = d.name)
    (hnew : Store.NewerAt d.name r c.migrations) (hr : e.resourceVersion ≤ r) :
    ∃ err, (updateStorageVersionMigration faults (mergedCopy e d) c).1 = .error err := by
  rcases hu : (updateStorageVersionMigration faults (mergedCopy e d) c).1 with err | x
  · exact ⟨err, rfl⟩
  · obtain ⟨⟨current, hcur, hrv⟩, -⟩ := updateStorageVersionMigration_eq_ok hu
    have := hnew current (hname ▸ hcur)
    rw [mergedCopy_resourceVersion] at hrv
    omega

/-- **An apply that read a stale object writes nothing**: where every object under
`d`'s name is newer than the revision `e` was read at, apply's continuation from
`e` leaves the store alone, and whenever it would have written, its Update is
refused and apply returns that Update's error. -/
theorem applyFetched_of_newerAt {faults : Faults} {e d : StorageVersionMigration} {c : Cluster} {r : Nat}
    (hname : e.name = d.name) (hnew : Store.NewerAt d.name r c.migrations) (hr : e.resourceVersion ≤ r) :
    (applyFetched faults d (.ok e) c).2.migrations = c.migrations ∧
      (¬(Covers d.toObjectMeta e.toObjectMeta ∧ e.spec = d.spec) →
        ∃ err, (updateStorageVersionMigration faults (mergedCopy e d) c).1 = .error err ∧
          (applyFetched faults d (.ok e) c).1.err = some err) := by
  by_cases hconv : Covers d.toObjectMeta e.toObjectMeta ∧ e.spec = d.spec
  · rw [applyFetched_of_covers hconv.1 hconv.2]
    exact ⟨rfl, fun h => (h hconv).elim⟩
  · obtain ⟨err, herr⟩ := @updateStorageVersionMigration_rejected faults _ _ c _ (mergedCopy_name hname) hnew hr
    rw [applyFetched_of_not_covers hconv, writeResult_snd, updateStorageVersionMigration_of_error herr]
    exact ⟨rfl, fun _ => ⟨err, herr, writeResult_of_error herr⟩⟩

/-- Where `d`'s name is taken, apply's continuation from a failed Get leaves the store alone. -/
theorem applyFetched_error_of_taken {faults : Faults} {d m : StorageVersionMigration} {err : Error}
    {c : Cluster} (hm : c.migrations.objects d.name = some m) :
    (applyFetched faults d (.error err) c).2.migrations = c.migrations := by
  cases hn : err.isNotFound
  · rw [applyFetched_error hn]
  · rw [applyFetched_notFound hn, writeResult_snd]
    rcases hc : (createStorageVersionMigration faults d c).1 with err' | x
    · rw [createStorageVersionMigration_of_error hc]
    · simp [(createStorageVersionMigration_eq_ok hc).1] at hm

/-- **Apply never loses a concurrent write**: once another client has committed a
write under the migration's name between apply's Get and its write, an object it
left there stays, since apply then leaves the store exactly as the other clients
did; and when apply's Get had found an object, apply leaves the store as the
other clients did, and the Update it sends, carrying the resource version it read,
is refused and apply returns that Update's error. -/
theorem applyInterleaved_keeps_concurrent_writes (env : Env) (d : StorageVersionMigration)
    (ws : List Write) (c : Cluster) (hw : d.name ∈ (c.migrations.writes ws).2) :
    (∀ m, (c.migrations.writes ws).1.objects d.name = some m →
      (applyInterleaved env d ws c).2.migrations = (c.migrations.writes ws).1) ∧
    ∀ e, (getStorageVersionMigration env.faults d.name c).1 = .ok e →
      (applyInterleaved env d ws c).2.migrations = (c.migrations.writes ws).1 ∧
      (¬(Covers d.toObjectMeta e.toObjectMeta ∧ e.spec = d.spec) →
        ∃ err, (updateStorageVersionMigration env.faults (mergedCopy e d)
            { c.record ⟨.get, .storageVersionMigrations, d.name⟩ with
              migrations := (c.migrations.writes ws).1 }).1 = .error err ∧
          (applyInterleaved env d ws c).1.err = some err) := by
  simp only [applyInterleaved, getStorageVersionMigration_snd]
  have hnew := Store.newerAt_of_mem_writes ws c.migrations hw
  have hfound {e} (he : (getStorageVersionMigration env.faults d.name c).1 = .ok e) :=
    have ho := getStorageVersionMigration_eq_ok he
    @applyFetched_of_newerAt env.faults e d { c.record ⟨.get, .storageVersionMigrations, d.name⟩ with
      migrations := (c.migrations.writes ws).1 } _ (c.migrations.name_eq ho) hnew (c.migrations.resourceVersion_le ho)
  refine ⟨fun m hm => ?_, fun e he => he ▸ hfound he⟩
  rcases hg : (getStorageVersionMigration env.faults d.name c).1 with err | e
  · exact applyFetched_error_of_taken hm
  · exact (hfound hg).1

/-- Another client updates the seeded bindings migration between apply's Get of it
and apply's write. -/
theorem applyInterleaved_keeps_concurrent_update :
    let env := clusterManagerEnv Faults.none
    let d := managedClusterSetBindingsMigration
    let ws := [Write.update { Store.stamp seededBindingsMigration 1 with
      spec := { seededBindingsMigration.spec with continueToken := "other" } }]
    d.name ∈ (seededCluster.migrations.writes ws).2 ∧
    ((∀ m, (seededCluster.migrations.writes ws).1.objects d.name = some m →
      (applyInterleaved env d ws seededCluster).2.migrations = (seededCluster.migrations.writes ws).1) ∧
    ∀ e, (getStorageVersionMigration env.faults d.name seededCluster).1 = .ok e →
      (applyInterleaved env d ws seededCluster).2.migrations = (seededCluster.migrations.writes ws).1 ∧
      (¬(Covers d.toObjectMeta e.toObjectMeta ∧ e.spec = d.spec) →
        ∃ err, (updateStorageVersionMigration env.faults (mergedCopy e d)
            { seededCluster.record ⟨.get, .storageVersionMigrations, d.name⟩ with
              migrations := (seededCluster.migrations.writes ws).1 }).1 = .error err ∧
          (applyInterleaved env d ws seededCluster).1.err = some err)) :=
  ⟨by decide, applyInterleaved_keeps_concurrent_writes _ _ _ _ (by decide)⟩

end MigrationController
