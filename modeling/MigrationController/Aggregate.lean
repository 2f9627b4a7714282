import MigrationController.Apply

/-!
# `applyStorageVersionMigrations`

The apply loop runs `applyStorageVersionMigration` on every manifest file in
order, appends each non-`nil` error, and returns
`operatorhelpers.NewMultiLineAggregate` of what it collected.  No failure ends
the loop early.

`runEach` says what "every file, in order" means without the accumulator: the
outcomes of running a step on each file with the cluster threaded through.
`applyStorageVersionMigrations_eq_runEach` is the loop's invariant, and the
statements below are read off it.

## Main statements

* `applyStorageVersionMigrations_aggregates` — the loop is the aggregate of the
  per-file errors of `runEach`, `nil` exactly when every file succeeded.
* `applyStorageVersionMigrations_appends` — every call it issues is a Get, Create
  or Update of a migration some file decodes to.
* `applyStorageVersionMigrations_fst_of_answered` — with every call answered and
  every file decoding, the loop returns `nil`.
-/

namespace MigrationController

/-- One pass of the `for` loop of `applyStorageVersionMigrations`. -/
def applyStorageVersionMigrationsStep (env : Env) (acc : List Error × Cluster) (file : String) :
    List Error × Cluster :=
  let r := applyStorageVersionMigration env file acc.2
  match r.1.err with
  | some err => (acc.1 ++ [err], r.2)
  | none => (acc.1, r.2)

/-- `applyStorageVersionMigrations(ctx, recorder)`, over the package's
`migrationRequestFiles` passed in as `files`. -/
def applyStorageVersionMigrations (env : Env) (files : List String) (c : Cluster) :
    Option Error × Cluster :=
  let loop := files.foldl (applyStorageVersionMigrationsStep env) ([], c)
  (newMultiLineAggregate loop.1, loop.2)

/-- Run `step` on every file in order, threading the cluster, and keep every outcome. -/
def runEach {α : Type} (step : String → Cluster → α × Cluster) : List String → Cluster → List α × Cluster
  | [], c => ([], c)
  | file :: files, c =>
    let first := step file c
    let rest := runEach step files first.2
    (first.1 :: rest.1, rest.2)

/-- The cluster after `runEach` is the fold of the steps over the files. -/
theorem runEach_snd {α : Type} (step : String → Cluster → α × Cluster) (files : List String) (c : Cluster) :
    (runEach step files c).2 = files.foldl (fun c file => (step file c).2) c := by
  induction files generalizing c with
  | nil => rfl
  | cons file files ih => exact ih _

variable {env : Env}

theorem foldl_applyStorageVersionMigrationsStep (files : List String) (errs : List Error) (c : Cluster) :
    files.foldl (applyStorageVersionMigrationsStep env) (errs, c) =
      (errs ++ (runEach (applyStorageVersionMigration env) files c).1.filterMap (·.err),
        (runEach (applyStorageVersionMigration env) files c).2) := by
  induction files generalizing errs c with
  | nil => simp [runEach]
  | cons file files ih =>
    rw [List.foldl_cons, applyStorageVersionMigrationsStep]
    split <;> rw [ih] <;> simp_all [runEach]

/-- The loop's invariant: the errors collected so far are those of the files run so far. -/
theorem applyStorageVersionMigrations_eq_runEach (files : List String) (c : Cluster) :
    applyStorageVersionMigrations env files c =
      (newMultiLineAggregate ((runEach (applyStorageVersionMigration env) files c).1.filterMap (·.err)),
        (runEach (applyStorageVersionMigration env) files c).2) := by
  rw [applyStorageVersionMigrations, foldl_applyStorageVersionMigrationsStep, List.nil_append]

/-- **Apply aggregates and continues**: the loop runs apply on every file in order
whatever failed before; a file that does not render, decode or type-check makes no
call and fails; and the result is `nil` exactly when every file succeeded, and
otherwise the aggregate of the per-file errors in file order. -/
theorem applyStorageVersionMigrations_aggregates (files : List String) (c : Cluster) :
    applyStorageVersionMigrations env files c =
      (newMultiLineAggregate ((runEach (applyStorageVersionMigration env) files c).1.filterMap (·.err)),
        (runEach (applyStorageVersionMigration env) files c).2) ∧
    (∀ file, env.required file = none → ∀ c', (applyStorageVersionMigration env file c').2 = c' ∧
      (applyStorageVersionMigration env file c').1.err.isSome) ∧
    ((applyStorageVersionMigrations env files c).1 = none ↔
      ∀ r ∈ (runEach (applyStorageVersionMigration env) files c).1, r.err = none) := by
  refine ⟨applyStorageVersionMigrations_eq_runEach files c,
    fun file h c' => (applyStorageVersionMigration_of_required_none h c').imp_right And.left, ?_⟩
  rw [applyStorageVersionMigrations_eq_runEach, newMultiLineAggregate_eq_none, List.filterMap_eq_nil_iff]

/-- What every step's outcome satisfies, every outcome `runEach` keeps satisfies. -/
theorem mem_runEach {α : Type} {P : α → Prop} {step : String → Cluster → α × Cluster} {files : List String}
    (hstep : ∀ file ∈ files, ∀ c, P (step file c).1) (c : Cluster) :
    ∀ r ∈ (runEach step files c).1, P r := by
  induction files generalizing c with
  | nil => nofun
  | cons file files ih =>
    rintro r (_ | ⟨_, hr⟩)
    · exact hstep file (.head _) c
    · exact ih (fun f hf => hstep f (.tail _ hf)) _ r hr

/-- An answered apply loop over files that all decode succeeds. -/
theorem applyStorageVersionMigrations_fst_of_answered {files : List String}
    (hr : ∀ file ∈ files, (env.required file).isSome) (hf : ∀ k, env.faults k = none) (c : Cluster) :
    (applyStorageVersionMigrations env files c).1 = none := by
  rw [applyStorageVersionMigrations_eq_runEach, newMultiLineAggregate_eq_none, List.filterMap_eq_nil_iff]
  refine mem_runEach (fun file hfile c => ?_) c
  obtain ⟨d, hd⟩ := Option.isSome_iff_exists.mp (hr file hfile)
  exact applyStorageVersionMigration_ok_of_answered hd c hf

/-! ## What the loop touches -/

/-- The calls the apply loop may issue: Gets, Creates and Updates under the given names. -/
def AppliesTo (names : List String) (a : Action) : Prop :=
  a.resource = .storageVersionMigrations ∧ a.name ∈ names ∧ a.verb ≠ .delete

theorem appends_applyStorageVersionMigration (file : String) (c : Cluster) :
    Cluster.Appends (AppliesTo (env.names [file])) c (applyStorageVersionMigration env file c).2 := by
  cases h : env.required file with
  | none => rw [(applyStorageVersionMigration_of_required_none h c).1]; exact .refl _ _
  | some d =>
    have hn : d.name ∈ env.names [file] := Env.mem_names.mpr ⟨file, by simp, d, h, rfl⟩
    obtain ⟨v, hv, ha | ha⟩ := applyStorageVersionMigration_actions h c
    · exact ⟨_, ha, by simp [AppliesTo, hn]⟩
    · exact ⟨_, ha, by rcases hv with rfl | rfl <;> simp [AppliesTo, hn]⟩

theorem AppliesTo.mono {names names' : List String} (h : ∀ n ∈ names, n ∈ names') {a : Action}
    (ha : AppliesTo names a) : AppliesTo names' a :=
  ⟨ha.1, h _ ha.2.1, ha.2.2⟩

theorem appends_runEach (files : List String) (c : Cluster) :
    Cluster.Appends (AppliesTo (env.names files)) c (runEach (applyStorageVersionMigration env) files c).2 := by
  rw [runEach_snd]
  exact Cluster.foldl_rel (.refl _) .trans (fun file hf c => (appends_applyStorageVersionMigration file c).mono
    fun a => AppliesTo.mono fun n => Env.names_mono (by simpa using hf)) c

/-- Every call the apply loop issues is a Get, Create or Update of a migration some
file decodes to. -/
theorem applyStorageVersionMigrations_appends (files : List String) (c : Cluster) :
    Cluster.Appends (AppliesTo (env.names files)) c (applyStorageVersionMigrations env files c).2 := by
  rw [applyStorageVersionMigrations_eq_runEach]
  exact appends_runEach files c

/-- The apply loop touches no object that no file names. -/
theorem applyStorageVersionMigrations_objects_ne (files : List String) (c : Cluster) {n : String}
    (hn : n ∉ env.names files) :
    (applyStorageVersionMigrations env files c).2.migrations.objects n = c.migrations.objects n := by
  rw [applyStorageVersionMigrations_eq_runEach, runEach_snd]
  refine Cluster.foldl_rel (R := fun c c' => c'.migrations.objects n = c.migrations.objects n)
    (fun _ => rfl) (fun h₁ h₂ => h₂.trans h₁) (fun file hf c => ?_) c
  cases h : env.required file with
  | none => rw [(applyStorageVersionMigration_of_required_none h c).1]
  | some d =>
    exact applyStorageVersionMigration_objects_ne h c fun hd => hn (Env.mem_names.mpr ⟨file, hf, d, h, hd.symm⟩)

/-- The apply loop changes nothing but the log and the store. -/
theorem runEach_hub (files : List String) (c : Cluster) :
    (runEach (applyStorageVersionMigration env) files c).2.clusterManagers = c.clusterManagers ∧
      (runEach (applyStorageVersionMigration env) files c).2.crds = c.crds := by
  rw [runEach_snd]
  exact Cluster.foldl_rel (R := fun c c' => c'.clusterManagers = c.clusterManagers ∧ c'.crds = c.crds)
    (fun _ => ⟨rfl, rfl⟩) (fun h₁ h₂ => ⟨h₂.1.trans h₁.1, h₂.2.trans h₁.2⟩)
    (fun file _ c => applyStorageVersionMigration_hub file c) c

end MigrationController
