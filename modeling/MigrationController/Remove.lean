import MigrationController.Apply

/-!
# `removeStorageVersionMigration` and `removeStorageVersionMigrations`

Removal renders and decodes each manifest file as apply does, but reports the
renderer's and the decoder's errors unwrapped, and issues one Delete by name.
A `NotFound` from Delete counts as success, so removing an absent migration
succeeds.

The loop over the files returns at the first error: the files after a failing
one are not rendered and no Delete is sent for them.  Apply's loop, in
`MigrationController.Aggregate`, continues past failures and aggregates them.

## Main statements

* `removeStorageVersionMigration_eq_none` — a successful removal was a Delete of
  the file's migration, which is gone afterwards.
* `removeStorageVersionMigration_of_error` — a failed removal leaves the store alone.
* `removeStorageVersionMigrations_rel` — what every removal keeps, the loop keeps.
* `removeStorageVersionMigrations_complete` — a removal that returns `nil` left
  none of the files' migrations, touched nothing else, and running it again
  returns `nil` and leaves the store as it is.
-/

namespace MigrationController

/-- `removeStorageVersionMigration(ctx, migrationClient, manifests, file)`. -/
def removeStorageVersionMigration (env : Env) (file : String) (c : Cluster) : Option Error × Cluster :=
  match env.manifests file with
  | .error err => (some err, c)
  | .ok objectRaw =>
    match env.decode objectRaw with
    | .error err => (some err, c)
    | .ok (.other printed) =>
      (some (.plain ("invalid StorageVersionMigration in file " ++ quoted file ++ ": " ++ printed)), c)
    | .ok (.storageVersionMigration required) =>
      match deleteStorageVersionMigration env.faults required.name c with
      | (.error err, c) => (if err.isNotFound then none else some err, c)
      | (.ok (), c) => (none, c)

/-- `removeStorageVersionMigrations`, over the package's `migrationRequestFiles`
passed in as `files`: the first error ends the loop. -/
def removeStorageVersionMigrations (env : Env) : List String → Cluster → Option Error × Cluster
  | [], c => (none, c)
  | file :: files, c =>
    match removeStorageVersionMigration env file c with
    | (some err, c) => (some err, c)
    | (none, c) => removeStorageVersionMigrations env files c

section Remove

variable {env : Env} {file : String} {d : StorageVersionMigration}

/-- A file that does not render, decode or type-check fails with no API call. -/
theorem removeStorageVersionMigration_of_required_none (h : env.required file = none) (c : Cluster) :
    (removeStorageVersionMigration env file c).2 = c ∧ (removeStorageVersionMigration env file c).1.isSome := by
  unfold Env.required at h
  unfold removeStorageVersionMigration
  split
  · simp
  · split
    · simp
    · simp
    · simp_all

theorem removeStorageVersionMigration_of_required_some (h : env.required file = some d) (c : Cluster) :
    removeStorageVersionMigration env file c =
      match deleteStorageVersionMigration env.faults d.name c with
      | (.error err, c) => (if err.isNotFound then none else some err, c)
      | (.ok (), c) => (none, c) := by
  unfold Env.required at h
  unfold removeStorageVersionMigration
  split
  · simp_all
  · split <;> simp_all

/-- Removal is one Delete of the file's migration, or no call at all. -/
theorem removeStorageVersionMigration_snd (c : Cluster) :
    (removeStorageVersionMigration env file c).2 =
      match env.required file with
      | some d => (deleteStorageVersionMigration env.faults d.name c).2
      | none => c := by
  cases h : env.required file with
  | none => exact (removeStorageVersionMigration_of_required_none h c).1
  | some d =>
    rw [removeStorageVersionMigration_of_required_some h]
    split <;> simp_all

/-- **A successful removal** was a Delete of the file's migration, which is gone afterwards. -/
theorem removeStorageVersionMigration_eq_none (c : Cluster)
    (hok : (removeStorageVersionMigration env file c).1 = none) :
    ∃ d, env.required file = some d ∧
      (removeStorageVersionMigration env file c).2 = (deleteStorageVersionMigration env.faults d.name c).2 ∧
      (removeStorageVersionMigration env file c).2.migrations.objects d.name = none := by
  cases h : env.required file with
  | none =>
    have := (removeStorageVersionMigration_of_required_none h c).2
    rw [hok] at this
    cases this
  | some d =>
    refine ⟨d, rfl, by rw [removeStorageVersionMigration_snd, h], ?_⟩
    rw [removeStorageVersionMigration_of_required_some h] at hok ⊢
    generalize hp : deleteStorageVersionMigration env.faults d.name c = p at hok ⊢
    obtain ⟨_ | ⟨⟩, c'⟩ := p <;> obtain ⟨h₁, rfl⟩ := Prod.ext_iff.mp hp <;> dsimp only at hok h₁ ⊢
    · split at hok
      · rw [deleteStorageVersionMigration_of_error h₁]
        exact deleteStorageVersionMigration_eq_notFound h₁ ‹_›
      · cases hok
    · rw [deleteStorageVersionMigration_eq_ok h₁, Store.erase_objects_self]

/-- **A failed removal leaves the store as it was.** -/
theorem removeStorageVersionMigration_of_error (c : Cluster)
    (herr : (removeStorageVersionMigration env file c).1.isSome) :
    (removeStorageVersionMigration env file c).2.migrations = c.migrations := by
  cases h : env.required file with
  | none => rw [(removeStorageVersionMigration_of_required_none h c).1]
  | some d =>
    rw [removeStorageVersionMigration_of_required_some h] at herr ⊢
    generalize hp : deleteStorageVersionMigration env.faults d.name c = p at herr ⊢
    obtain ⟨_ | ⟨⟩, c'⟩ := p <;> obtain ⟨h₁, rfl⟩ := Prod.ext_iff.mp hp <;> dsimp only at herr h₁ ⊢
    · exact deleteStorageVersionMigration_of_error h₁
    · cases herr

/-- Removing a migration that is already gone, with the Delete answered, succeeds and
changes nothing but the log. -/
theorem removeStorageVersionMigration_of_absent (h : env.required file = some d) {c : Cluster}
    (ha : c.migrations.objects d.name = none) (hf : env.faults c.actions.length = none) :
    removeStorageVersionMigration env file c = (none, c.record ⟨.delete, .storageVersionMigrations, d.name⟩) := by
  have hd : c.migrations.delete d.name = .error (newNotFound storageVersionMigrationsResource d.name) :=
    Store.delete_eq_error.mpr ⟨ha, rfl⟩
  rw [removeStorageVersionMigration_of_required_some h]
  simp [deleteStorageVersionMigration, Cluster.call_of_answered hf, hd, Except.map]

/-- An answered removal of a file that decodes succeeds, whether or not its migration is there. -/
theorem removeStorageVersionMigration_fst_of_answered (h : env.required file = some d) (c : Cluster)
    (hf : ∀ k, env.faults k = none) : (removeStorageVersionMigration env file c).1 = none := by
  rw [removeStorageVersionMigration_of_required_some h]
  cases ho : c.migrations.objects d.name <;>
    simp [deleteStorageVersionMigration, Cluster.call_of_answered (hf _), Store.delete, ho, Except.map]

/-! ## The loop -/

/-- Removal only ever erases: every object is kept or gone. -/
def Erases (c c' : Cluster) : Prop :=
  ∀ n, c'.migrations.objects n = c.migrations.objects n ∨ c'.migrations.objects n = none

theorem Erases.trans {c₁ c₂ c₃ : Cluster} (h₁ : Erases c₁ c₂) (h₂ : Erases c₂ c₃) :
    Erases c₁ c₃ :=
  fun n => (h₂ n).elim (fun h => h ▸ h₁ n) .inr

theorem erases_removeStorageVersionMigration (c : Cluster) :
    Erases c (removeStorageVersionMigration env file c).2 := by
  intro n
  rw [removeStorageVersionMigration_snd]
  split
  · exact deleteStorageVersionMigration_objects n
  · exact .inl rfl

/-- **The removal loop respects what each removal respects**: a reflexive,
transitive relation on clusters that holds across every removal holds across the
loop, wherever it stops. -/
theorem removeStorageVersionMigrations_rel {R : Cluster → Cluster → Prop} (hrefl : ∀ c, R c c)
    (htrans : ∀ {c₁ c₂ c₃}, R c₁ c₂ → R c₂ c₃ → R c₁ c₃) {files : List String}
    (hstep : ∀ file ∈ files, ∀ c, R c (removeStorageVersionMigration env file c).2) (c : Cluster) :
    R c (removeStorageVersionMigrations env files c).2 := by
  induction files generalizing c with
  | nil => exact hrefl c
  | cons file files ih =>
    have h₁ := hstep file (.head _) c
    unfold removeStorageVersionMigrations
    rcases hr : removeStorageVersionMigration env file c with ⟨_ | err, c'⟩ <;> rw [hr] at h₁
    · exact htrans h₁ (ih (fun f hf => hstep f (.tail _ hf)) c')
    · exact h₁

theorem erases_removeStorageVersionMigrations (files : List String) (c : Cluster) :
    Erases c (removeStorageVersionMigrations env files c).2 :=
  removeStorageVersionMigrations_rel (R := Erases) (fun _ _ => .inl rfl) Erases.trans
    (fun _ _ c => erases_removeStorageVersionMigration c) c

theorem removeStorageVersionMigration_objects_ne (c : Cluster) {n : String}
    (hn : ∀ d, env.required file = some d → d.name ≠ n) :
    (removeStorageVersionMigration env file c).2.migrations.objects n = c.migrations.objects n := by
  rw [removeStorageVersionMigration_snd]
  split
  · exact deleteStorageVersionMigration_objects_ne (hn _ ‹_›).symm
  · rfl

/-- Removal changes no object but those the files name. -/
theorem removeStorageVersionMigrations_objects_ne (files : List String) (c : Cluster) {n : String}
    (hn : ∀ file ∈ files, ∀ d, env.required file = some d → d.name ≠ n) :
    (removeStorageVersionMigrations env files c).2.migrations.objects n = c.migrations.objects n :=
  removeStorageVersionMigrations_rel (R := fun c c' => c'.migrations.objects n = c.migrations.objects n)
    (fun _ => rfl) (fun h₁ h₂ => h₂.trans h₁)
    (fun file hf c => removeStorageVersionMigration_objects_ne c (hn file hf)) c

/-- The calls the removal loop may issue: Deletes under the given names. -/
def RemovesFrom (names : List String) (a : Action) : Prop :=
  a.resource = .storageVersionMigrations ∧ a.name ∈ names ∧ a.verb = .delete

theorem RemovesFrom.mono {names names' : List String} (h : ∀ n ∈ names, n ∈ names') {a : Action}
    (ha : RemovesFrom names a) : RemovesFrom names' a :=
  ⟨ha.1, h _ ha.2.1, ha.2.2⟩

theorem appends_removeStorageVersionMigration (c : Cluster) :
    Cluster.Appends (RemovesFrom (env.names [file])) c (removeStorageVersionMigration env file c).2 := by
  rw [removeStorageVersionMigration_snd]
  split
  · rename_i d hd
    have hn : d.name ∈ env.names [file] := Env.mem_names.mpr ⟨file, by simp, d, hd, rfl⟩
    exact ⟨_, deleteStorageVersionMigration_actions, by simp [RemovesFrom, hn]⟩
  · exact .refl _ _

/-- Every call the removal loop issues is a Delete of a migration some file decodes to. -/
theorem removeStorageVersionMigrations_appends (files : List String) (c : Cluster) :
    Cluster.Appends (RemovesFrom (env.names files)) c (removeStorageVersionMigrations env files c).2 :=
  removeStorageVersionMigrations_rel (.refl _) .trans (fun file hf c => (appends_removeStorageVersionMigration c).mono
    fun a => RemovesFrom.mono fun n => Env.names_mono (by simpa using hf)) c

/-- After a removal that returns `nil`, every file decodes and its migration is gone. -/
theorem removeStorageVersionMigrations_gone (files : List String) (c : Cluster)
    (hok : (removeStorageVersionMigrations env files c).1 = none) :
    ∀ file ∈ files, ∃ d, env.required file = some d ∧
      (removeStorageVersionMigrations env files c).2.migrations.objects d.name = none := by
  induction files generalizing c with
  | nil => simp
  | cons file files ih =>
    unfold removeStorageVersionMigrations at hok ⊢
    rcases hr : removeStorageVersionMigration env file c with ⟨_ | err, c'⟩ <;> rw [hr] at hok <;>
      dsimp only at hok ⊢
    · obtain ⟨d, hd, -, hgone⟩ := removeStorageVersionMigration_eq_none c (by rw [hr])
      rw [hr] at hgone
      intro f hf
      rcases List.mem_cons.mp hf with rfl | hf
      · refine ⟨d, hd, ?_⟩
        rcases @erases_removeStorageVersionMigrations env files c' d.name with h | h
        · rw [h, hgone]
        · exact h
      · exact ih c' hok f hf
    · cases hok

/-- An answered removal loop over files that all decode succeeds. -/
theorem removeStorageVersionMigrations_fst_of_answered {files : List String}
    (hr : ∀ file ∈ files, (env.required file).isSome) (hf : ∀ k, env.faults k = none) (c : Cluster) :
    (removeStorageVersionMigrations env files c).1 = none := by
  induction files generalizing c with
  | nil => rfl
  | cons file files ih =>
    obtain ⟨d, hd⟩ := Option.isSome_iff_exists.mp (hr file (.head _))
    have h₁ := removeStorageVersionMigration_fst_of_answered hd c hf
    unfold removeStorageVersionMigrations
    rcases hs : removeStorageVersionMigration env file c with ⟨_ | err, c'⟩ <;> rw [hs] at h₁
    · exact ih (fun f h => hr f (.tail _ h)) c'
    · cases h₁

/-- With every file's migration already gone and every Delete answered, removal
returns `nil` and leaves the store as it is. -/
theorem removeStorageVersionMigrations_of_absent (files : List String) (c : Cluster)
    (ha : ∀ file ∈ files, ∃ d, env.required file = some d ∧ c.migrations.objects d.name = none)
    (hf : ∀ k, env.faults k = none) :
    (removeStorageVersionMigrations env files c).1 = none ∧
      (removeStorageVersionMigrations env files c).2.migrations = c.migrations := by
  induction files generalizing c with
  | nil => exact ⟨rfl, rfl⟩
  | cons file files ih =>
    obtain ⟨d, hd, hgone⟩ := ha file (List.mem_cons_self _ _)
    unfold removeStorageVersionMigrations
    rw [removeStorageVersionMigration_of_absent hd hgone (hf _)]
    exact ih _ fun f hf' => ha f (List.mem_cons_of_mem _ hf')

/-- **Removal is complete and idempotent**: a removal that returns `nil` leaves
none of the files' migrations and every other object as it was, and a second
removal over an answering transport returns `nil` and leaves the store alone. -/
theorem removeStorageVersionMigrations_complete (files : List String) (c : Cluster)
    (hok : (removeStorageVersionMigrations env files c).1 = none) :
    (∀ file ∈ files, ∃ d, env.required file = some d ∧
      (removeStorageVersionMigrations env files c).2.migrations.objects d.name = none) ∧
    (∀ n, (∀ file ∈ files, ∀ d, env.required file = some d → d.name ≠ n) →
      (removeStorageVersionMigrations env files c).2.migrations.objects n = c.migrations.objects n) ∧
    (removeStorageVersionMigrations { env with faults := Faults.none } files
        (removeStorageVersionMigrations env files c).2).1 = none ∧
    (removeStorageVersionMigrations { env with faults := Faults.none } files
        (removeStorageVersionMigrations env files c).2).2.migrations =
      (removeStorageVersionMigrations env files c).2.migrations := by
  have hgone := removeStorageVersionMigrations_gone files c hok
  exact ⟨hgone, fun n hn => removeStorageVersionMigrations_objects_ne files c hn,
    @removeStorageVersionMigrations_of_absent { env with faults := Faults.none } files _
      hgone fun _ => rfl⟩

/-- A store holding both migrations the manifests render to. -/
def migratedCluster : Cluster where
  clusterManagers _ := none
  crds := []
  migrations := (Store.empty.commit managedClusterSetsMigration).commit managedClusterSetBindingsMigration

/-- Removal from a store holding both migrations returns `nil`, and then leaves
neither behind, and a second removal returns `nil` and keeps the store. -/
theorem removeStorageVersionMigrations_complete_on_migrated :
    let env := clusterManagerEnv Faults.none
    let r := removeStorageVersionMigrations env migrationRequestFiles migratedCluster
    r.1 = none ∧
    ((∀ file ∈ migrationRequestFiles, ∃ d, env.required file = some d ∧ r.2.migrations.objects d.name = none) ∧
    (∀ n, (∀ file ∈ migrationRequestFiles, ∀ d, env.required file = some d → d.name ≠ n) →
      r.2.migrations.objects n = migratedCluster.migrations.objects n) ∧
    (removeStorageVersionMigrations { env with faults := Faults.none } migrationRequestFiles r.2).1 = none ∧
    (removeStorageVersionMigrations { env with faults := Faults.none } migrationRequestFiles r.2).2.migrations =
      r.2.migrations) :=
  ⟨rfl, removeStorageVersionMigrations_complete migrationRequestFiles migratedCluster rfl⟩

/-- Transport fails the first API call and answers every other. -/
def firstCallFails : Faults := fun k => if k = 0 then some "connection refused" else none

/-- When the first Delete fails, removal returns that error without sending a
Delete for the second file, whose migration stays. -/
theorem removeStorageVersionMigrations_stops_at_first_failure :
    (removeStorageVersionMigrations (clusterManagerEnv firstCallFails) migrationRequestFiles
        migratedCluster).1 = some (.plain "connection refused") ∧
    (removeStorageVersionMigrations (clusterManagerEnv firstCallFails) migrationRequestFiles
        migratedCluster).2.actions = [⟨.delete, .storageVersionMigrations, managedClusterSetsMigration.name⟩] ∧
    ((removeStorageVersionMigrations (clusterManagerEnv firstCallFails) migrationRequestFiles
        migratedCluster).2.migrations.objects managedClusterSetBindingsMigration.name).isSome :=
  ⟨rfl, by decide, by decide⟩

end Remove

end MigrationController
