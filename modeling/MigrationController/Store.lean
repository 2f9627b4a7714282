import MigrationController.Resourcemerge
import Mathlib.Logic.Function.Basic

/-!
# The API server's store, and the calls the controller makes on it

The `storageversionmigrations` collection as the API server keeps it: objects by
name, and the revision counter every committed write advances.  A write stamps
the object with the new revision as its resource version, an Update must carry
the resource version it is replacing, and a Create is refused when the name is
taken.  `Store` carries the two facts every store satisfies as fields: an
object is filed under its own name, and no resource version is ahead of the
revision.

Three simplifications of the real registry: a Delete erases the object at once
(no finalizers, no graceful deletion) and does not advance the revision, where
etcd does; and an Update commits and stamps a new resource version even when it
changes nothing, where the API server skips the write.  No theorem here rests on
the revision staying put, and the controller's Update only follows a detected
difference.

`Cluster` is everything the controller reaches: the informer's cluster
managers, the CRDs the apiextensions client can see, the migration store, the
log of calls it has issued (as a fake clientset records them), and the keys it
has handed back to its queue with a delay.  Every client call goes through
`Cluster.call`, which logs the call and then either fails it with an injected
transport error or answers it from the store; the injected errors are indexed
by the call's position in the log, so any pattern of failures is expressible.
-/

namespace MigrationController

/-! ## The store -/

/-- The API server's `storageversionmigrations` collection. -/
structure Store where
  objects : String → Option StorageVersionMigration
  /-- The revision of the last committed write. -/
  revision : Nat
  name_eq : ∀ {n m}, objects n = some m → m.name = n
  resourceVersion_le : ∀ {n m}, objects n = some m → m.resourceVersion ≤ revision

namespace Store

@[ext] theorem ext {s t : Store} (h₁ : s.objects = t.objects) (h₂ : s.revision = t.revision) :
    s = t := by
  cases s; cases t; cases h₁; cases h₂; rfl

/-- The empty collection. -/
def empty : Store where
  objects _ := none
  revision := 0
  name_eq := nofun
  resourceVersion_le := nofun

/-- `m` as the store keeps it after a write at revision `rv`. -/
def stamp (m : StorageVersionMigration) (rv : Nat) : StorageVersionMigration :=
  { m with resourceVersion := rv }

@[simp] theorem stamp_name (m : StorageVersionMigration) (rv : Nat) : (stamp m rv).name = m.name :=
  rfl
@[simp] theorem stamp_resourceVersion (m : StorageVersionMigration) (rv : Nat) :
    (stamp m rv).resourceVersion = rv := rfl
@[simp] theorem stamp_spec (m : StorageVersionMigration) (rv : Nat) : (stamp m rv).spec = m.spec :=
  rfl

/-- Commit a write of `m` under its name at the next revision. -/
def commit (s : Store) (m : StorageVersionMigration) : Store where
  objects := Function.update s.objects m.name (some (stamp m (s.revision + 1)))
  revision := s.revision + 1
  name_eq {n o} h := by
    by_cases hn : n = m.name
    · subst hn; simp only [Function.update_same, Option.some.injEq] at h; subst h; rfl
    · rw [Function.update_noteq hn] at h; exact s.name_eq h
  resourceVersion_le {n o} h := by
    by_cases hn : n = m.name
    · subst hn; simp only [Function.update_same, Option.some.injEq] at h; subst h; simp
    · rw [Function.update_noteq hn] at h; exact Nat.le_succ_of_le (s.resourceVersion_le h)

/-- Remove the object of that name. -/
def erase (s : Store) (name : String) : Store where
  objects := Function.update s.objects name none
  revision := s.revision
  name_eq {n o} h := by
    by_cases hn : n = name
    · subst hn; simp at h
    · rw [Function.update_noteq hn] at h; exact s.name_eq h
  resourceVersion_le {n o} h := by
    by_cases hn : n = name
    · subst hn; simp at h
    · rw [Function.update_noteq hn] at h; exact s.resourceVersion_le h

@[simp] theorem commit_objects_self (s : Store) (m : StorageVersionMigration) :
    (s.commit m).objects m.name = some (stamp m (s.revision + 1)) := by
  simp [commit]
theorem commit_objects_ne (s : Store) (m : StorageVersionMigration) {n : String} (h : n ≠ m.name) :
    (s.commit m).objects n = s.objects n := by
  simp [commit, h]
@[simp] theorem commit_revision (s : Store) (m : StorageVersionMigration) :
    (s.commit m).revision = s.revision + 1 := rfl
@[simp] theorem erase_objects_self (s : Store) (name : String) : (s.erase name).objects name = none := by
  simp [erase]
theorem erase_objects_ne (s : Store) {name n : String} (h : n ≠ name) :
    (s.erase name).objects n = s.objects n := by
  simp [erase, h]
@[simp] theorem erase_revision (s : Store) (name : String) : (s.erase name).revision = s.revision :=
  rfl

/-- The registry's Get. -/
def get (s : Store) (name : String) : Except Error StorageVersionMigration :=
  match s.objects name with
  | some m => .ok m
  | none => .error (newNotFound storageVersionMigrationsResource name)

/-- The registry's Create: refused when the name is taken. -/
def create (s : Store) (m : StorageVersionMigration) : Except Error (StorageVersionMigration × Store) :=
  match s.objects m.name with
  | some _ => .error (newAlreadyExists storageVersionMigrationsResource m.name)
  | none => .ok (stamp m (s.revision + 1), s.commit m)

/-- The registry's Update: refused unless `m` carries the stored resource version. -/
def update (s : Store) (m : StorageVersionMigration) : Except Error (StorageVersionMigration × Store) :=
  match s.objects m.name with
  | none => .error (newNotFound storageVersionMigrationsResource m.name)
  | some current =>
    if m.resourceVersion = current.resourceVersion then .ok (stamp m (s.revision + 1), s.commit m)
    else .error (newConflict storageVersionMigrationsResource m.name)

/-- The registry's Delete. -/
def delete (s : Store) (name : String) : Except Error Store :=
  match s.objects name with
  | none => .error (newNotFound storageVersionMigrationsResource name)
  | some _ => .ok (s.erase name)

variable {s : Store} {m x : StorageVersionMigration} {s' : Store} {name : String} {err : Error}

theorem get_eq_ok : s.get name = .ok m ↔ s.objects name = some m := by
  unfold get; cases s.objects name <;> simp

theorem get_eq_error : s.get name = .error err ↔
    s.objects name = none ∧ err = newNotFound storageVersionMigrationsResource name := by
  unfold get; cases s.objects name <;> simp [eq_comm]

theorem create_eq_ok : s.create m = .ok (x, s') ↔
    s.objects m.name = none ∧ x = stamp m (s.revision + 1) ∧ s' = s.commit m := by
  unfold create; cases s.objects m.name <;> simp [eq_comm]

theorem update_eq_ok : s.update m = .ok (x, s') ↔
    (∃ current, s.objects m.name = some current ∧ m.resourceVersion = current.resourceVersion) ∧
      x = stamp m (s.revision + 1) ∧ s' = s.commit m := by
  unfold update
  cases s.objects m.name with
  | none => simp
  | some current => by_cases h : m.resourceVersion = current.resourceVersion <;> simp [h, eq_comm]

theorem delete_eq_ok : s.delete name = .ok s' ↔ (s.objects name).isSome ∧ s' = s.erase name := by
  unfold delete; cases s.objects name <;> simp [eq_comm]

theorem delete_eq_error : s.delete name = .error err ↔
    s.objects name = none ∧ err = newNotFound storageVersionMigrationsResource name := by
  unfold delete; cases s.objects name <;> simp [eq_comm]

end Store

/-! ## Clients -/

/-- The verb of an API call. -/
inductive Verb
  | get
  | create
  | update
  | delete
  deriving DecidableEq, Repr

/-- The collection an API call addresses. -/
inductive Resource
  | customResourceDefinitions
  | storageVersionMigrations
  deriving DecidableEq, Repr

/-- One API call, as a fake clientset's `Actions()` records it. -/
structure Action where
  verb : Verb
  resource : Resource
  name : String
  deriving DecidableEq, Repr

/-- Create, Update and Delete change the store; Get does not. -/
def Action.isMutating (a : Action) : Bool := a.verb != .get

/-- Injected transport failures: call number `k` fails with text `faults k`. -/
abbrev Faults := Nat → Option String

/-- The calls that never fail in transport. -/
def Faults.none : Faults := fun _ => Option.none

/-- What the controller reaches, and what it has done to it. -/
structure Cluster where
  /-- The cluster-manager informer's cache. -/
  clusterManagers : String → Option ClusterManager
  /-- The names of the CRDs the apiextensions client finds. -/
  crds : List String
  migrations : Store
  /-- Every API call issued so far, in order. -/
  actions : List Action := []
  /-- `Queue().AddAfter` requests: the key and the delay in nanoseconds. -/
  queue : List (String × Nat) := []

namespace Cluster

/-- `c` with one more call in its log. -/
def record (a : Action) (c : Cluster) : Cluster := { c with actions := c.actions ++ [a] }

/-- `c'` is `c` with calls that satisfy `P` appended to its log. -/
def Appends (P : Action → Prop) (c c' : Cluster) : Prop :=
  ∃ l, c'.actions = c.actions ++ l ∧ ∀ a ∈ l, P a

theorem Appends.refl (P : Action → Prop) (c : Cluster) : Appends P c c := ⟨[], by simp, by simp⟩

theorem Appends.trans {P : Action → Prop} {c₁ c₂ c₃ : Cluster} (h₁ : Appends P c₁ c₂)
    (h₂ : Appends P c₂ c₃) : Appends P c₁ c₃ := by
  obtain ⟨l₁, e₁, p₁⟩ := h₁
  obtain ⟨l₂, e₂, p₂⟩ := h₂
  exact ⟨l₁ ++ l₂, by rw [e₂, e₁, List.append_assoc], fun a ha =>
    (List.mem_append.mp ha).elim (p₁ a) (p₂ a)⟩

theorem Appends.mono {P Q : Action → Prop} {c c' : Cluster} (h : Appends P c c')
    (hPQ : ∀ a, P a → Q a) : Appends Q c c' := by
  obtain ⟨l, e, p⟩ := h
  exact ⟨l, e, fun a ha => hPQ a (p a ha)⟩

/-- **A loop respects what each of its steps respects**: a reflexive, transitive
relation on clusters that holds across every step of a loop over `l` holds from
the loop's start to its end. -/
theorem foldl_rel {β : Type} {R : Cluster → Cluster → Prop} (hrefl : ∀ c, R c c)
    (htrans : ∀ {c₁ c₂ c₃}, R c₁ c₂ → R c₂ c₃ → R c₁ c₃)
    {step : Cluster → β → Cluster} {l : List β}
    (hstep : ∀ x ∈ l, ∀ c, R c (step c x)) (c : Cluster) : R c (l.foldl step c) := by
  induction l generalizing c with
  | nil => exact hrefl c
  | cons x l ih => exact htrans (hstep x (.head _) c) (ih (fun y hy => hstep y (.tail _ hy)) _)

/-- Log the call `a`, then fail it if `faults` says so, or else answer it from the store. -/
def call (faults : Faults) (a : Action) (op : Store → Except Error (α × Store)) (c : Cluster) :
    Except Error α × Cluster :=
  match faults c.actions.length with
  | some message => (.error (.plain message), c.record a)
  | none =>
    match op c.migrations with
    | .ok (x, s) => (.ok x, { c.record a with migrations := s })
    | .error err => (.error err, c.record a)

variable {α : Type} {faults : Faults} {a : Action} {op : Store → Except Error (α × Store)} {c : Cluster}

@[simp] theorem record_actions : (c.record a).actions = c.actions ++ [a] := rfl
@[simp] theorem record_migrations : (c.record a).migrations = c.migrations := rfl
@[simp] theorem record_clusterManagers : (c.record a).clusterManagers = c.clusterManagers := rfl
@[simp] theorem record_crds : (c.record a).crds = c.crds := rfl
@[simp] theorem record_queue : (c.record a).queue = c.queue := rfl

/-- A call changes the cluster only by its log entry and its store answer. -/
theorem call_snd : (c.call faults a op).2 = { c.record a with migrations := (c.call faults a op).2.migrations } := by
  unfold call; split <;> [rfl; split <;> rfl]

@[simp] theorem call_actions : (c.call faults a op).2.actions = c.actions ++ [a] := by
  rw [call_snd]; rfl
@[simp] theorem call_clusterManagers : (c.call faults a op).2.clusterManagers = c.clusterManagers := by
  rw [call_snd]; rfl
@[simp] theorem call_crds : (c.call faults a op).2.crds = c.crds := by
  rw [call_snd]; rfl
@[simp] theorem call_queue : (c.call faults a op).2.queue = c.queue := by
  rw [call_snd]; rfl

/-- A failed call leaves the store as it was. -/
theorem call_migrations_of_error {err : Error} (h : (c.call faults a op).1 = .error err) :
    (c.call faults a op).2.migrations = c.migrations := by
  unfold call at h ⊢; split <;> [rfl; (split <;> simp_all)]

/-- A successful call was not failed in transport, and the store took the answer's state. -/
theorem call_eq_ok {x : α} (h : (c.call faults a op).1 = .ok x) :
    faults c.actions.length = none ∧ op c.migrations = .ok (x, (c.call faults a op).2.migrations) := by
  unfold call at h ⊢; split <;> [simp_all; (split <;> simp_all)]

/-- A transport failure is never `NotFound`: a `NotFound` answer came from the store. -/
theorem call_eq_error_of_isNotFound {err : Error} (h : (c.call faults a op).1 = .error err)
    (hn : err.isNotFound = true) : op c.migrations = .error err := by
  unfold call at h; split at h
  · cases h; simp at hn
  · split at h <;> simp_all

/-- A call whose answer never moves the store changes the cluster by its log entry alone. -/
theorem call_snd_of_read (hop : ∀ x s', op c.migrations = .ok (x, s') → s' = c.migrations) :
    (c.call faults a op).2 = c.record a := by
  rw [call_snd]
  rcases hr : (c.call faults a op).1 with err | x
  · rw [call_migrations_of_error hr]; rfl
  · rw [hop x _ (call_eq_ok hr).2]; rfl

/-- A call that is not failed in transport answers from the store. -/
theorem call_of_answered (h : faults c.actions.length = none) :
    c.call faults a op = match op c.migrations with
      | .ok (x, s) => (.ok x, { c.record a with migrations := s })
      | .error err => (.error err, c.record a) := by
  unfold call; rw [h]; rfl

end Cluster

/-- `StorageVersionMigrations().Get`. -/
def getStorageVersionMigration (faults : Faults) (name : String) (c : Cluster) :
    Except Error StorageVersionMigration × Cluster :=
  c.call faults ⟨.get, .storageVersionMigrations, name⟩ fun s => (s.get name).map (·, s)

/-- `StorageVersionMigrations().Create`. -/
def createStorageVersionMigration (faults : Faults) (m : StorageVersionMigration) (c : Cluster) :
    Except Error StorageVersionMigration × Cluster :=
  c.call faults ⟨.create, .storageVersionMigrations, m.name⟩ (·.create m)

/-- `StorageVersionMigrations().Update`. -/
def updateStorageVersionMigration (faults : Faults) (m : StorageVersionMigration) (c : Cluster) :
    Except Error StorageVersionMigration × Cluster :=
  c.call faults ⟨.update, .storageVersionMigrations, m.name⟩ (·.update m)

/-- `StorageVersionMigrations().Delete`. -/
def deleteStorageVersionMigration (faults : Faults) (name : String) (c : Cluster) :
    Except Error Unit × Cluster :=
  c.call faults ⟨.delete, .storageVersionMigrations, name⟩ fun s => (s.delete name).map ((), ·)

/-- `ApiextensionsV1().CustomResourceDefinitions().Get`; the store is not involved. -/
def getCustomResourceDefinition (faults : Faults) (name : String) (c : Cluster) :
    Except Error Unit × Cluster :=
  c.call faults ⟨.get, .customResourceDefinitions, name⟩ fun s =>
    if name ∈ c.crds then .ok ((), s) else .error (newNotFound customResourceDefinitionsResource name)

/-! ## What each call does -/

section Calls

variable {faults : Faults} {c : Cluster} {name : String} {m x : StorageVersionMigration} {err : Error}

@[simp] theorem getStorageVersionMigration_snd :
    (getStorageVersionMigration faults name c).2 = c.record ⟨.get, .storageVersionMigrations, name⟩ :=
  Cluster.call_snd_of_read fun x s' h => by
    cases hg : c.migrations.get name <;> simp_all [Except.map]

theorem getStorageVersionMigration_fst_of_answered (h : faults c.actions.length = none) :
    (getStorageVersionMigration faults name c).1 = c.migrations.get name := by
  simp only [getStorageVersionMigration, Cluster.call_of_answered h]
  cases c.migrations.get name <;> rfl

theorem getStorageVersionMigration_eq_ok (h : (getStorageVersionMigration faults name c).1 = .ok m) :
    c.migrations.objects name = some m := by
  have hop := (Cluster.call_eq_ok h).2
  cases hg : c.migrations.get name <;> simp_all [Except.map, Store.get_eq_ok]

theorem getStorageVersionMigration_eq_notFound
    (h : (getStorageVersionMigration faults name c).1 = .error err) (hn : err.isNotFound = true) :
    c.migrations.objects name = none := by
  have hop := Cluster.call_eq_error_of_isNotFound h hn
  cases hg : c.migrations.get name <;> simp_all [Except.map, Store.get_eq_error]

/-- An answered Create into an empty name succeeds. -/
theorem createStorageVersionMigration_fst_of_answered (hf : faults c.actions.length = none)
    (h : c.migrations.objects m.name = none) :
    (createStorageVersionMigration faults m c).1 = .ok (Store.stamp m (c.migrations.revision + 1)) := by
  simp [createStorageVersionMigration, Cluster.call_of_answered hf, Store.create, h]

/-- An answered Update carrying the stored resource version succeeds. -/
theorem updateStorageVersionMigration_fst_of_answered (hf : faults c.actions.length = none)
    {current : StorageVersionMigration} (h : c.migrations.objects m.name = some current)
    (hrv : m.resourceVersion = current.resourceVersion) :
    (updateStorageVersionMigration faults m c).1 = .ok (Store.stamp m (c.migrations.revision + 1)) := by
  simp [updateStorageVersionMigration, Cluster.call_of_answered hf, Store.update, h, hrv]

theorem createStorageVersionMigration_eq_ok (h : (createStorageVersionMigration faults m c).1 = .ok x) :
    c.migrations.objects m.name = none ∧ x = Store.stamp m (c.migrations.revision + 1) ∧
      (createStorageVersionMigration faults m c).2.migrations = c.migrations.commit m :=
  Store.create_eq_ok.mp (Cluster.call_eq_ok h).2

theorem updateStorageVersionMigration_eq_ok (h : (updateStorageVersionMigration faults m c).1 = .ok x) :
    (∃ current, c.migrations.objects m.name = some current ∧
        m.resourceVersion = current.resourceVersion) ∧
      x = Store.stamp m (c.migrations.revision + 1) ∧
      (updateStorageVersionMigration faults m c).2.migrations = c.migrations.commit m :=
  Store.update_eq_ok.mp (Cluster.call_eq_ok h).2

@[simp] theorem createStorageVersionMigration_actions :
    (createStorageVersionMigration faults m c).2.actions =
      c.actions ++ [⟨.create, .storageVersionMigrations, m.name⟩] := Cluster.call_actions
@[simp] theorem updateStorageVersionMigration_actions :
    (updateStorageVersionMigration faults m c).2.actions =
      c.actions ++ [⟨.update, .storageVersionMigrations, m.name⟩] := Cluster.call_actions
@[simp] theorem deleteStorageVersionMigration_actions :
    (deleteStorageVersionMigration faults name c).2.actions =
      c.actions ++ [⟨.delete, .storageVersionMigrations, name⟩] := Cluster.call_actions

theorem createStorageVersionMigration_of_error
    (h : (createStorageVersionMigration faults m c).1 = .error err) :
    (createStorageVersionMigration faults m c).2.migrations = c.migrations :=
  Cluster.call_migrations_of_error h

theorem updateStorageVersionMigration_of_error
    (h : (updateStorageVersionMigration faults m c).1 = .error err) :
    (updateStorageVersionMigration faults m c).2.migrations = c.migrations :=
  Cluster.call_migrations_of_error h

theorem deleteStorageVersionMigration_of_error
    (h : (deleteStorageVersionMigration faults name c).1 = .error err) :
    (deleteStorageVersionMigration faults name c).2.migrations = c.migrations :=
  Cluster.call_migrations_of_error h

theorem deleteStorageVersionMigration_eq_ok (h : (deleteStorageVersionMigration faults name c).1 = .ok ()) :
    (deleteStorageVersionMigration faults name c).2.migrations = c.migrations.erase name := by
  have hop := (Cluster.call_eq_ok h).2
  cases hd : c.migrations.delete name with
  | error e => simp [hd, Except.map] at hop
  | ok s =>
    simp only [hd, Except.map, Except.ok.injEq, Prod.mk.injEq, true_and] at hop
    exact hop.symm.trans (Store.delete_eq_ok.mp hd).2

theorem deleteStorageVersionMigration_eq_notFound
    (h : (deleteStorageVersionMigration faults name c).1 = .error err) (hn : err.isNotFound = true) :
    c.migrations.objects name = none := by
  have := Cluster.call_eq_error_of_isNotFound h hn
  cases hd : c.migrations.delete name <;> simp_all [Except.map, Store.delete_eq_error]

theorem createStorageVersionMigration_objects_ne {n : String} (hn : n ≠ m.name) :
    (createStorageVersionMigration faults m c).2.migrations.objects n = c.migrations.objects n := by
  rcases hr : (createStorageVersionMigration faults m c).1 with err | x
  · rw [createStorageVersionMigration_of_error hr]
  · rw [(createStorageVersionMigration_eq_ok hr).2.2, Store.commit_objects_ne _ _ hn]

theorem updateStorageVersionMigration_objects_ne {n : String} (hn : n ≠ m.name) :
    (updateStorageVersionMigration faults m c).2.migrations.objects n = c.migrations.objects n := by
  rcases hr : (updateStorageVersionMigration faults m c).1 with err | x
  · rw [updateStorageVersionMigration_of_error hr]
  · rw [(updateStorageVersionMigration_eq_ok hr).2.2, Store.commit_objects_ne _ _ hn]

theorem deleteStorageVersionMigration_objects_ne {n : String} (hn : n ≠ name) :
    (deleteStorageVersionMigration faults name c).2.migrations.objects n = c.migrations.objects n := by
  rcases hr : (deleteStorageVersionMigration faults name c).1 with err | ⟨⟩
  · rw [deleteStorageVersionMigration_of_error hr]
  · rw [deleteStorageVersionMigration_eq_ok hr, Store.erase_objects_ne _ hn]

/-- A Delete erases its object or leaves the store alone. -/
theorem deleteStorageVersionMigration_objects (n : String) :
    (deleteStorageVersionMigration faults name c).2.migrations.objects n = c.migrations.objects n ∨
      (deleteStorageVersionMigration faults name c).2.migrations.objects n = none := by
  rcases hr : (deleteStorageVersionMigration faults name c).1 with err | ⟨⟩
  · exact .inl (by rw [deleteStorageVersionMigration_of_error hr])
  · rw [deleteStorageVersionMigration_eq_ok hr]
    by_cases hn : n = name
    · subst hn; exact .inr (Store.erase_objects_self _ _)
    · exact .inl (Store.erase_objects_ne _ hn)

end Calls

end MigrationController
