import MigrationController.Concurrency
import MigrationController.Run

/-!
# Applies interleaved with each other and with other clients

`applyStorageVersionMigration` makes its API calls one at a time: a Get, then at
most one Create or Update.  The API server runs each call atomically, but nothing
keeps the calls of other applies (another worker, another replica, the other file
of the loop) or the writes of other clients from landing between them.  `Proc` is
one apply between its calls, `Proc.step` its next call, and `System.run` a run of
any number of applies and other clients' writes, in any order, given as a list of
events.

Run alone, a process is apply itself (`Proc.step_step`), and the apply loop of
`applyStorageVersionMigrations` is the schedule that runs the processes one after
another (`run_sequential`).  Over every run:

* **no lost update** (`run_commitsOnRead`): every write an apply commits creates
  into an empty name or updates the very object its Get returned.  Every commit
  stamps a revision past every resource version read before it
  (`Store.Advances`), so the object is still the one read exactly when no write
  under its name has committed since the Get: the Update, which carries the
  resource version it read, cannot overwrite one;
* from a converged hub, applies of the manifests, however interleaved with each
  other and with Deletes, keep it converged and send no Update (`run_converged`).
-/

namespace MigrationController

/-! ## The store only advances -/

namespace Store

/-- `s'` is `s` after commits and deletes: the revision never falls, and every
object of `s'` is one `s` held under the same name, or newer than every revision
`s` had reached. -/
def Advances (s s' : Store) : Prop :=
  s.revision ≤ s'.revision ∧
    ∀ n m, s'.objects n = some m → s.objects n = some m ∨ s.revision < m.resourceVersion

theorem Advances.refl (s : Store) : Advances s s := ⟨le_rfl, fun _ _ h => .inl h⟩

theorem Advances.trans {s₁ s₂ s₃ : Store} (h₁ : Advances s₁ s₂) (h₂ : Advances s₂ s₃) :
    Advances s₁ s₃ :=
  ⟨h₁.1.trans h₂.1, fun n m h => (h₂.2 n m h).elim (h₁.2 n m) fun hlt => .inr (h₁.1.trans_lt hlt)⟩

theorem advances_commit (s : Store) (m : StorageVersionMigration) : Advances s (s.commit m) := by
  refine ⟨Nat.le_succ _, fun n o h => ?_⟩
  by_cases hn : n = m.name
  · subst hn
    simp only [commit_objects_self, Option.some.injEq] at h
    subst h
    exact .inr (by simp)
  · exact .inl (by rwa [commit_objects_ne _ _ hn] at h)

theorem advances_erase (s : Store) (name : String) : Advances s (s.erase name) := by
  refine ⟨le_rfl, fun n o h => .inl ?_⟩
  by_cases hn : n = name
  · simp [hn] at h
  · rwa [erase_objects_ne _ hn] at h

theorem advances_write {s s' : Store} {w : Write} (h : s.write w = some s') : Advances s s' := by
  rcases write_cases h with ⟨m, -, rfl⟩ | rfl
  · exact advances_commit s m
  · exact advances_erase s _

end Store

section Advances

variable {faults : Faults} {d : StorageVersionMigration} {c : Cluster}

/-- **Everything apply's write can do to the store** once its Get has answered:
nothing; a Create of the required migration into its empty name; or an Update,
with the merged copy, of the object it read, stored at the resource version read. -/
theorem applyFetched_migrations_cases (faults : Faults) (d : StorageVersionMigration)
    (got : Except Error StorageVersionMigration) (c : Cluster) :
    (applyFetched faults d got c).2.migrations = c.migrations ∨
    (c.migrations.objects d.name = none ∧
      (applyFetched faults d got c).2.migrations = c.migrations.commit d) ∨
    ∃ e, got = .ok e ∧ (∃ current, c.migrations.objects (mergedCopy e d).name = some current ∧
        e.resourceVersion = current.resourceVersion) ∧
      (applyFetched faults d got c).2.migrations = c.migrations.commit (mergedCopy e d) := by
  rcases got with err | e
  · cases hn : err.isNotFound
    · exact .inl (by rw [applyFetched_error hn])
    · rw [applyFetched_notFound hn, writeResult_snd]
      rcases hr : (createStorageVersionMigration faults d c).1 with err' | x
      · exact .inl (createStorageVersionMigration_of_error hr)
      · obtain ⟨h0, -, hs⟩ := createStorageVersionMigration_eq_ok hr
        exact .inr (.inl ⟨h0, hs⟩)
  · by_cases hconv : Covers d.toObjectMeta e.toObjectMeta ∧ e.spec = d.spec
    · exact .inl (by rw [applyFetched_of_covers hconv.1 hconv.2])
    · rw [applyFetched_of_not_covers hconv, writeResult_snd]
      rcases hr : (updateStorageVersionMigration faults (mergedCopy e d) c).1 with err' | x
      · exact .inl (updateStorageVersionMigration_of_error hr)
      · obtain ⟨hcur, -, hs⟩ := updateStorageVersionMigration_eq_ok hr
        exact .inr (.inr ⟨e, rfl, hcur, hs⟩)

/-- Whatever apply does after its Get only advances the store. -/
theorem advances_applyFetched (got : Except Error StorageVersionMigration) :
    c.migrations.Advances (applyFetched faults d got c).2.migrations := by
  rcases applyFetched_migrations_cases faults d got c with h | ⟨-, h⟩ | ⟨e, -, -, h⟩ <;> rw [h]
  · exact .refl _
  · exact Store.advances_commit _ _
  · exact Store.advances_commit _ _

end Advances

/-! ## Applies in flight -/

/-- Where one apply stands between its API calls. -/
inductive Phase
  | fetch
  | fetched (got : Except Error StorageVersionMigration)
  | finished (result : ApplyResult)

/-- One apply in flight: the migration it applies and where it stands. -/
structure Proc where
  required : StorageVersionMigration
  phase : Phase

namespace Proc

/-- The process's next API call: its Get, or, once the Get has answered, the rest of apply. -/
def step (faults : Faults) (p : Proc) (c : Cluster) : Proc × Cluster :=
  match p.phase with
  | .fetch =>
    (⟨p.required, .fetched (getStorageVersionMigration faults p.required.name c).1⟩,
      (getStorageVersionMigration faults p.required.name c).2)
  | .fetched got =>
    (⟨p.required, .finished (applyFetched faults p.required got c).1⟩,
      (applyFetched faults p.required got c).2)
  | .finished _ => (p, c)

@[simp] theorem step_required (faults : Faults) (p : Proc) (c : Cluster) :
    (p.step faults c).1.required = p.required := by
  unfold step; split <;> rfl

/-- **A process run alone is apply**: the two calls of a process from its start are
`applyStorageVersionMigration` of a file that decodes to its migration. -/
theorem step_step {env : Env} {file : String} {d : StorageVersionMigration}
    (h : env.required file = some d) (c : Cluster) :
    (((⟨d, .fetch⟩ : Proc).step env.faults c).1.step env.faults ((⟨d, .fetch⟩ : Proc).step env.faults c).2) =
      (⟨d, .finished (applyStorageVersionMigration env file c).1⟩, (applyStorageVersionMigration env file c).2) := by
  rw [applyStorageVersionMigration_of_required_some h]; rfl

/-- A process's call only advances the store. -/
theorem advances_step (faults : Faults) (p : Proc) (c : Cluster) :
    c.migrations.Advances (p.step faults c).2.migrations := by
  unfold step
  split
  · rw [getStorageVersionMigration_snd]; exact .refl _
  · exact advances_applyFetched _
  · exact .refl _

/-- The process holds an object its Get returned, if any: stored under its name at a
revision the store has reached, and what is stored there now is that object, a
newer one, or nothing. -/
def Fresh (p : Proc) (s : Store) : Prop :=
  ∀ e, p.phase = .fetched (.ok e) → e.name = p.required.name ∧ e.resourceVersion ≤ s.revision ∧
    ∀ m, s.objects e.name = some m → m = e ∨ e.resourceVersion < m.resourceVersion

theorem Fresh.advance {p : Proc} {s s' : Store} (h : p.Fresh s) (ha : s.Advances s') : p.Fresh s' := by
  intro e he
  obtain ⟨hname, hrv, hnew⟩ := h e he
  refine ⟨hname, hrv.trans ha.1, fun m hm => ?_⟩
  rcases ha.2 _ m hm with hm | hlt
  · exact hnew m hm
  · exact .inr (hrv.trans_lt hlt)

/-- A process is fresh after its own call: what its Get returns is what was stored. -/
theorem fresh_step (faults : Faults) (p : Proc) (c : Cluster) :
    (p.step faults c).1.Fresh (p.step faults c).2.migrations := by
  unfold step
  split
  · intro e hget
    have he : c.migrations.objects p.required.name = some e :=
      getStorageVersionMigration_eq_ok (Phase.fetched.inj hget)
    have hname := c.migrations.name_eq he
    rw [getStorageVersionMigration_snd]
    refine ⟨hname, c.migrations.resourceVersion_le he, fun m hm => .inl ?_⟩
    rw [hname] at hm
    exact Option.some.inj (hm.symm.trans he)
  · nofun
  · next h => exact fun e he => nomatch h.symm.trans he

variable {faults : Faults} {p : Proc} {c : Cluster}

theorem step_of_fetch (h : p.phase = .fetch) :
    p.step faults c = (⟨p.required, .fetched (getStorageVersionMigration faults p.required.name c).1⟩,
      (getStorageVersionMigration faults p.required.name c).2) := by
  simp [step, h]

theorem step_of_fetched {got : Except Error StorageVersionMigration} (h : p.phase = .fetched got) :
    p.step faults c = (⟨p.required, .finished (applyFetched faults p.required got c).1⟩,
      (applyFetched faults p.required got c).2) := by
  simp [step, h]

theorem step_of_finished {r : ApplyResult} (h : p.phase = .finished r) : p.step faults c = (p, c) := by
  simp [step, h]

/-- What a process's next call may do to the store: nothing; Create its migration
under a name that is empty; or Update, with the merged copy, the very object its
Get returned, still stored under its name. -/
def CommitsOnRead (faults : Faults) (p : Proc) (c : Cluster) : Prop :=
  (p.step faults c).2.migrations = c.migrations ∨
  (c.migrations.objects p.required.name = none ∧
    (p.step faults c).2.migrations = c.migrations.commit p.required) ∨
  ∃ e, p.phase = .fetched (.ok e) ∧ c.migrations.objects p.required.name = some e ∧
    (p.step faults c).2.migrations = c.migrations.commit (mergedCopy e p.required)

/-- **A fresh process commits only on what it read**: an Update it sends commits
only while the object its Get returned is still the one stored. -/
theorem commitsOnRead_of_fresh (hfresh : p.Fresh c.migrations) : CommitsOnRead faults p c := by
  rcases hp : p.phase with _ | got | r
  · exact .inl (by rw [step_of_fetch hp, getStorageVersionMigration_snd]; rfl)
  · rw [CommitsOnRead, step_of_fetched hp]
    rcases applyFetched_migrations_cases faults p.required got c with h | h | ⟨e, rfl, ⟨current, hcur, hrv⟩, hs⟩
    · exact .inl h
    · exact .inr (.inl h)
    · obtain ⟨hname, -, hnew⟩ := hfresh e hp
      rw [mergedCopy_name hname] at hcur
      obtain rfl : current = e :=
        (hnew current (by rw [hname]; exact hcur)).resolve_right (by omega)
      exact .inr (.inr ⟨current, hp, hcur, hs⟩)
  · exact .inl (by rw [step_of_finished hp])

/-- The process applies a manifest's migration, and the object it holds, if any,
carries that migration's metadata and spec. -/
def Matching (env : Env) (p : Proc) : Prop :=
  (∃ file ∈ migrationRequestFiles, env.required file = some p.required) ∧
    ∀ e, p.phase = .fetched (.ok e) → Covers p.required.toObjectMeta e.toObjectMeta ∧ e.spec = p.required.spec

/-- One call of a process of a manifest keeps a hub converged and sends no Update,
under any faults. -/
theorem converged_step {env : Env} (hm : (env.names migrationRequestFiles).Nodup) (hcons : env.Consistent)
    (hp : p.Matching env)
    (hc : Converged env c) :
    (p.step env.faults c).1.Matching env ∧ Converged env (p.step env.faults c).2 ∧
      Cluster.Appends (fun a => a.verb ≠ .update) c (p.step env.faults c).2 := by
  obtain ⟨⟨file, hf, hd⟩, he⟩ := hp
  rcases hph : p.phase with _ | got | r
  · rw [step_of_fetch hph, getStorageVersionMigration_snd]
    refine ⟨⟨⟨file, hf, hd⟩, fun e hg => ?_⟩, hc, _, rfl, by simp⟩
    exact hc file hf _ hd e (getStorageVersionMigration_eq_ok (Phase.fetched.inj hg))
  · rw [step_of_fetched hph]
    refine ⟨⟨⟨file, hf, hd⟩, nofun⟩, ?_⟩
    rcases got with err | e
    · cases hn : err.isNotFound
      · rw [applyFetched_error hn]; exact ⟨hc, .refl _ _⟩
      · rw [applyFetched_notFound hn, writeResult_snd]
        exact ⟨converged_createStorageVersionMigration hm hcons hf hd hc,
          [⟨.create, .storageVersionMigrations, p.required.name⟩], by simp, by simp⟩
    · rw [applyFetched_of_covers (he e hph).1 (he e hph).2]; exact ⟨hc, .refl _ _⟩
  · rw [step_of_finished hph]; exact ⟨⟨⟨file, hf, hd⟩, he⟩, hc, .refl _ _⟩

end Proc

/-! ## Runs -/

/-- What happens next: process `i` makes its next call, or another client's write
reaches the API server. -/
inductive Event
  | call (i : Nat)
  | other (w : Write)

/-- Applies in flight and the cluster they share. -/
structure System where
  procs : List Proc
  cluster : Cluster

namespace System

/-- The system after one event; a call of a process that does not exist does nothing,
and another client's write that the API server refuses changes nothing. -/
def step (faults : Faults) (s : System) : Event → System
  | .call i =>
    match s.procs[i]? with
    | some p => ⟨s.procs.set i (p.step faults s.cluster).1, (p.step faults s.cluster).2⟩
    | none => s
  | .other w =>
    ⟨s.procs, { s.cluster with migrations := (s.cluster.migrations.write w).getD s.cluster.migrations }⟩

/-- A run of events, in order. -/
def run (faults : Faults) (s : System) (events : List Event) : System :=
  events.foldl (step faults) s

/-- The call of the process at `pre.length`, the others standing by. -/
theorem step_call_length (faults : Faults) (pre rest : List Proc) (p : Proc) (c : Cluster) :
    step faults ⟨pre ++ p :: rest, c⟩ (.call pre.length) =
      ⟨pre ++ (p.step faults c).1 :: rest, (p.step faults c).2⟩ := by
  have hp : (pre ++ p :: rest)[pre.length]? = some p := by
    rw [List.getElem?_append_right le_rfl, Nat.sub_self, List.getElem?_cons_zero]
  simp [step, hp, List.set_append_right]

/-- The schedule that runs processes `i`, `i + 1`, … one after another, each making
both its calls before the next makes any. -/
def sequential : Nat → Nat → List Event
  | _, 0 => []
  | i, n + 1 => .call i :: .call i :: sequential (i + 1) n

/-- **The apply loop is one schedule of the system**: applies of files that decode,
each making both its calls before the next starts, end in the cluster that the loop
of applyStorageVersionMigrations over those files ends in, each finished with its
file's result. -/
theorem run_sequential (env : Env) (files : List String) (ds : List StorageVersionMigration)
    (hds : files.map env.required = ds.map some) (pre : List Proc) (c : Cluster) :
    run env.faults ⟨pre ++ ds.map (⟨·, .fetch⟩), c⟩ (sequential pre.length ds.length) =
      ⟨pre ++ List.zipWith (fun d r => ⟨d, .finished r⟩) ds (runEach (applyStorageVersionMigration env) files c).1,
        (runEach (applyStorageVersionMigration env) files c).2⟩ := by
  induction files generalizing ds pre c with
  | nil =>
    obtain rfl : ds = [] := List.map_eq_nil_iff.mp hds.symm
    simp [run, sequential, runEach]
  | cons file files ih =>
    cases ds with
    | nil => exact absurd hds (List.cons_ne_nil _ _)
    | cons d ds =>
    simp only [List.map_cons, List.cons.injEq] at hds
    have hnext := ih ds hds.2 (pre ++ [⟨d, .finished (applyStorageVersionMigration env file c).1⟩])
      (applyStorageVersionMigration env file c).2
    simp only [List.append_assoc, List.singleton_append, List.length_append, List.length_singleton] at hnext
    simp only [run, List.map_cons, List.length_cons, sequential, List.foldl_cons, step_call_length,
      Proc.step_step hds.1] at hnext ⊢
    simpa [runEach] using hnext

/-- The apply loop over the package's manifests on the seeded store, as a schedule. -/
theorem run_sequential_on_seeded :
    migrationRequestFiles.map (clusterManagerEnv Faults.none).required =
      [managedClusterSetsMigration, managedClusterSetBindingsMigration].map some ∧
    run (clusterManagerEnv Faults.none).faults
        ⟨[] ++ [managedClusterSetsMigration, managedClusterSetBindingsMigration].map (⟨·, .fetch⟩), seededCluster⟩
        (sequential 0 2) =
      ⟨[] ++ List.zipWith (fun d r => ⟨d, .finished r⟩) [managedClusterSetsMigration, managedClusterSetBindingsMigration]
          (runEach (applyStorageVersionMigration (clusterManagerEnv Faults.none)) migrationRequestFiles seededCluster).1,
        (runEach (applyStorageVersionMigration (clusterManagerEnv Faults.none)) migrationRequestFiles seededCluster).2⟩ :=
  have hds : migrationRequestFiles.map (clusterManagerEnv Faults.none).required =
      [managedClusterSetsMigration, managedClusterSetBindingsMigration].map some := rfl
  ⟨hds, run_sequential (clusterManagerEnv Faults.none) migrationRequestFiles _ hds [] seededCluster⟩

/-- Every process holds, if anything, an object it read that is still fresh. -/
def Fresh (s : System) : Prop :=
  ∀ p ∈ s.procs, p.Fresh s.cluster.migrations

variable {faults : Faults} {s : System}

/-- A call of process `i` is that process's next call, or nothing when there is none. -/
theorem step_call_cases (faults : Faults) (s : System) (i : Nat) :
    s.step faults (.call i) = s ∨ ∃ p ∈ s.procs,
      s.step faults (.call i) = ⟨s.procs.set i (p.step faults s.cluster).1, (p.step faults s.cluster).2⟩ := by
  rcases hi : s.procs[i]? with _ | p
  · exact .inl (by simp [step, hi])
  · exact .inr ⟨p, List.getElem?_mem hi, by simp [step, hi]⟩

theorem fresh_step (h : s.Fresh) (ev : Event) : (s.step faults ev).Fresh := by
  cases ev with
  | call i =>
    rcases step_call_cases faults s i with hs | ⟨p, -, hs⟩ <;> rw [hs]
    · exact h
    · intro q hq
      rcases List.mem_or_eq_of_mem_set hq with hq | rfl
      · exact (h q hq).advance (p.advances_step faults s.cluster)
      · exact p.fresh_step faults s.cluster
  | other w =>
    intro q hq
    cases hw : s.cluster.migrations.write w with
    | none => simpa [step, hw] using h q hq
    | some s' =>
      simp only [step, hw, Option.getD_some] at hq ⊢
      exact (h q hq).advance (Store.advances_write hw)

/-- What every event of a run keeps holds after the run. -/
theorem run_invariant {I : System → Prop} {events : List Event}
    (hstep : ∀ s, ∀ ev ∈ events, I s → I (s.step faults ev)) (h : I s) : I (s.run faults events) := by
  induction events generalizing s with
  | nil => exact h
  | cons ev events ih =>
    exact ih (fun s' ev' hev' => hstep s' ev' (.tail _ hev')) (hstep s ev (.head _) h)

theorem fresh_run (h : s.Fresh) (events : List Event) : (s.run faults events).Fresh :=
  run_invariant (fun _ ev _ h => fresh_step h ev) h

/-- **No lost update**: in every run of any number of applies, each started before
its Get, interleaved in any order with any writes of other clients and under any
transport failures, every write an apply commits next creates its migration under
an empty name or updates the very object its Get returned, still stored there. -/
theorem run_commitsOnRead (faults : Faults) (ps : List Proc) (hps : ∀ p ∈ ps, p.phase = .fetch)
    (c : Cluster) (events : List Event) :
    ∀ p ∈ (run faults ⟨ps, c⟩ events).procs, Proc.CommitsOnRead faults p (run faults ⟨ps, c⟩ events).cluster :=
  fun p hp => Proc.commitsOnRead_of_fresh
    (fresh_run (fun q hq _ he => nomatch (hps q hq).symm.trans he) events p hp)

/-- Three applies racing, two of the sets migration and one of the bindings migration,
none of them past its Get yet. -/
def racingApplies : List Proc :=
  [⟨managedClusterSetsMigration, .fetch⟩, ⟨managedClusterSetBindingsMigration, .fetch⟩,
    ⟨managedClusterSetsMigration, .fetch⟩]

/-- The racing applies on the seeded store, another client deleting the bindings
migration between the bindings apply's Get and its Update. -/
theorem run_commitsOnRead_on_seeded :
    (∀ p ∈ racingApplies, p.phase = .fetch) ∧
    ∀ p ∈ (run Faults.none ⟨racingApplies, seededCluster⟩
        [.call 0, .call 1, .call 2, .other (.delete seededBindingsMigration.name), .call 1, .call 0]).procs,
      Proc.CommitsOnRead Faults.none p (run Faults.none ⟨racingApplies, seededCluster⟩
        [.call 0, .call 1, .call 2, .other (.delete seededBindingsMigration.name), .call 1, .call 0]).cluster :=
  have hps : ∀ p ∈ racingApplies, p.phase = .fetch := by simp [racingApplies]
  ⟨hps, run_commitsOnRead Faults.none racingApplies hps seededCluster
    [.call 0, .call 1, .call 2, .other (.delete seededBindingsMigration.name), .call 1, .call 0]⟩

/-- Every process matches, the hub is converged, and no Update has been sent since `c₀`. -/
def ConvergedSince (env : Env) (c₀ : Cluster) (s : System) : Prop :=
  (∀ p ∈ s.procs, p.Matching env) ∧ Converged env s.cluster ∧
    Cluster.Appends (fun a => a.verb ≠ .update) c₀ s.cluster

/-- One call of any process keeps the hub converged, the processes matching and the
log free of Updates. -/
theorem converged_step {env : Env} (hm : (env.names migrationRequestFiles).Nodup) (hcons : env.Consistent)
    {c₀ : Cluster}
    (hs : s.ConvergedSince env c₀) (i : Nat) : (s.step env.faults (.call i)).ConvergedSince env c₀ := by
  obtain ⟨hps, hc, ha⟩ := hs
  rcases step_call_cases env.faults s i with h | ⟨p, hp, h⟩ <;> rw [h]
  · exact ⟨hps, hc, ha⟩
  · obtain ⟨hp', hc', ha'⟩ := p.converged_step hm hcons (hps p hp) hc
    refine ⟨fun q hq => ?_, hc', ha.trans ha'⟩
    rcases List.mem_or_eq_of_mem_set hq with hq | rfl
    · exact hps q hq
    · exact hp'

/-- A Delete, the removal loop's or another client's, keeps the hub converged and
the processes matching. -/
theorem converged_step_delete {env : Env} {c₀ : Cluster} (hs : s.ConvergedSince env c₀) (n : String) :
    (s.step faults (.other (.delete n))).ConvergedSince env c₀ := by
  obtain ⟨hps, hc, ha⟩ := hs
  refine ⟨hps, Converged.of_erases (fun n' => ?_) hc, ha⟩
  cases hw : s.cluster.migrations.write (.delete n) with
  | none => exact .inl (by simp [step, hw])
  | some s' =>
    obtain rfl : s' = s.cluster.migrations.erase n := by
      simp only [Store.write] at hw
      split at hw <;> cases hw
      exact (Store.delete_eq_ok.mp ‹_›).2
    simp only [step, hw, Option.getD_some]
    by_cases h : n' = n
    · exact .inr (h ▸ Store.erase_objects_self _ _)
    · exact .inl (Store.erase_objects_ne _ h)

/-- **Concurrent applies keep a converged hub converged**: any number of applies of
the manifests' migrations, each started before its Get, interleaved in any order
with each other and with Deletes (the removal loop of a sync on another worker, or
another client), under any transport failures, keep a converged hub converged and
never send an Update. The manifests are assumed to decode to migrations of
distinct names that set no label or annotation they also remove. -/
theorem run_converged {env : Env} (hm : (env.names migrationRequestFiles).Nodup) (hcons : env.Consistent)
    (ps : List Proc)
    (hps : ∀ p ∈ ps, p.phase = .fetch ∧ ∃ file ∈ migrationRequestFiles, env.required file = some p.required)
    (c : Cluster) (hc : Converged env c) (events : List Event)
    (hev : ∀ ev ∈ events, (∃ i, ev = .call i) ∨ ∃ n, ev = .other (.delete n)) :
    Converged env (run env.faults ⟨ps, c⟩ events).cluster ∧
      Cluster.Appends (fun a => a.verb ≠ .update) c (run env.faults ⟨ps, c⟩ events).cluster := by
  have h : (run env.faults ⟨ps, c⟩ events).ConvergedSince env c :=
    run_invariant (fun s ev hmem hs => by
        rcases hev ev hmem with ⟨i, rfl⟩ | ⟨n, rfl⟩
        · exact converged_step hm hcons hs i
        · exact converged_step_delete hs n)
      ⟨fun p hp => ⟨(hps p hp).2, fun e he => nomatch (hps p hp).1.symm.trans he⟩, hc, .refl _ _⟩
  exact h.2

/-- The racing applies on a fresh hub, both sets applies getting NotFound before
either creates, and another client deleting the sets migration in between. -/
theorem run_converged_on_fresh :
    ((clusterManagerEnv Faults.none).names migrationRequestFiles).Nodup ∧
    (clusterManagerEnv Faults.none).Consistent ∧
    (∀ p ∈ racingApplies, p.phase = .fetch ∧
      ∃ file ∈ migrationRequestFiles, (clusterManagerEnv Faults.none).required file = some p.required) ∧
    Converged (clusterManagerEnv Faults.none) freshHub ∧
    (∀ ev ∈ [.call 0, .call 2, .call 0, .other (.delete managedClusterSetsMigration.name), .call 2, .call 1,
        .call 1], (∃ i, ev = Event.call i) ∨ ∃ n, ev = .other (.delete n)) ∧
    (Converged (clusterManagerEnv Faults.none) (run (clusterManagerEnv Faults.none).faults
        ⟨racingApplies, freshHub⟩ [.call 0, .call 2, .call 0, .other (.delete managedClusterSetsMigration.name),
          .call 2, .call 1, .call 1]).cluster ∧
      Cluster.Appends (fun a => a.verb ≠ .update) freshHub (run (clusterManagerEnv Faults.none).faults
        ⟨racingApplies, freshHub⟩ [.call 0, .call 2, .call 0, .other (.delete managedClusterSetsMigration.name),
          .call 2, .call 1, .call 1]).cluster) :=
  have hps : ∀ p ∈ racingApplies, p.phase = .fetch ∧
      ∃ file ∈ migrationRequestFiles, (clusterManagerEnv Faults.none).required file = some p.required := by
    simp only [racingApplies, List.mem_cons, List.mem_singleton, List.not_mem_nil, or_false]
    rintro p (rfl | rfl | rfl)
    · exact ⟨rfl, _, .head _, rfl⟩
    · exact ⟨rfl, _, .tail _ (.head _), rfl⟩
    · exact ⟨rfl, _, .head _, rfl⟩
  have hev : ∀ ev ∈ [.call 0, .call 2, .call 0, .other (.delete managedClusterSetsMigration.name), .call 2,
      .call 1, .call 1], (∃ i, ev = Event.call i) ∨ ∃ n, ev = .other (.delete n) := by
    simp
  ⟨by decide, clusterManagerEnv_consistent _, hps, fun _ _ _ _ _ h => Option.noConfusion h, hev,
    run_converged (by decide) (clusterManagerEnv_consistent _) racingApplies hps freshHub (fun _ _ _ _ _ h => Option.noConfusion h) _ hev⟩

end System

end MigrationController
