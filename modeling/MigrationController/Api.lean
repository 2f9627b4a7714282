import Mathlib.Data.List.AList

/-!
# The API values the CRD migration controller reads and writes

`migration_controller.go` talks to the API server through three clients and
sees what they return as Go values: errors that `errors.IsNotFound` inspects,
the `StorageVersionMigration` a manifest decodes to, and the `ClusterManager`
its lister returns.  This file gives each of them the fields the controller
reads, and no others.

A Go `error` is the inductive `Error`: an API status error carries the
`metav1.StatusReason` that `errors.IsNotFound` tests, a `fmt.Errorf` value only
its text, and `operatorhelpers.NewMultiLineAggregate` the list of errors it was
given.  Resource versions are natural numbers, the etcd revision they encode;
the controller only ever copies them and the API server only compares them.

## Main definitions

* `Error`, `Error.isNotFound`, `Error.text` — Go errors as the controller sees them.
* `newMultiLineAggregate` — the aggregate `applyStorageVersionMigrations` returns.
* `StorageVersionMigration`, `RuntimeObject` — what a manifest decodes to.
* `ClusterManager`, `isStatusConditionTrue` — the owning object and its conditions.
-/

namespace MigrationController

/-! ## Errors -/

/-- The `metav1.StatusReason` of an API status error. -/
inductive StatusReason
  /-- No object of that name. -/
  | notFound
  /-- A Create named an object that is already stored. -/
  | alreadyExists
  /-- An Update carried a stale resource version. -/
  | conflict
  deriving DecidableEq, Repr

/-- A Go `error` value. -/
inductive Error where
  /-- A `*errors.StatusError` returned by the API server. -/
  | status (reason : StatusReason) (message : String)
  /-- An error that is only its text: `fmt.Errorf`, a transport or file error. -/
  | plain (message : String)
  /-- The `aggregate` of `operatorhelpers.NewMultiLineAggregate`, in order. -/
  | aggregate (errs : List Error)
  deriving Repr

namespace Error

/-- `errors.IsNotFound`: only a status error with reason `NotFound`.  Errors built
by `fmt.Errorf("...%v", err)` do not wrap their cause, so they never qualify. -/
def isNotFound : Error → Bool
  | .status .notFound _ => true
  | _ => false

mutual
/-- `err.Error()`; an aggregate joins its members' texts with newlines. -/
def text : Error → String
  | .status _ m => m
  | .plain m => m
  | .aggregate errs => joinLines errs
/-- `strings.Join` of the members' texts with `"\n"`. -/
def joinLines : List Error → String
  | [] => ""
  | [e] => text e
  | e :: es => text e ++ "\n" ++ joinLines es
end

end Error

/-- Go's `%q` verb on the file paths and names this controller prints; none of
them holds a character that `%q` escapes. -/
def quoted (s : String) : String := "\"" ++ s ++ "\""

/-- `apierrors.NewNotFound` for a group-qualified resource. -/
def newNotFound (resource name : String) : Error :=
  .status .notFound (resource ++ " " ++ quoted name ++ " not found")

/-- `apierrors.NewAlreadyExists`. -/
def newAlreadyExists (resource name : String) : Error :=
  .status .alreadyExists (resource ++ " " ++ quoted name ++ " already exists")

/-- `apierrors.NewConflict`, with the message the registry gives a stale update. -/
def newConflict (resource name : String) : Error :=
  .status .conflict ("Operation cannot be fulfilled on " ++ resource ++ " " ++ quoted name ++
    ": the object has been modified; please apply your changes to the latest version and try again")

@[simp] theorem isNotFound_newNotFound (resource name : String) :
    (newNotFound resource name).isNotFound = true := rfl
@[simp] theorem isNotFound_newAlreadyExists (resource name : String) :
    (newAlreadyExists resource name).isNotFound = false := rfl
@[simp] theorem isNotFound_newConflict (resource name : String) :
    (newConflict resource name).isNotFound = false := rfl
@[simp] theorem isNotFound_plain (message : String) : (Error.plain message).isNotFound = false :=
  rfl

/-- `operatorhelpers.NewMultiLineAggregate`: `nil` for an empty list, otherwise an
aggregate of the errors in the order given.  Its callers here append only
non-`nil` errors, so the filtering of `nil` entries has nothing to drop. -/
def newMultiLineAggregate : List Error → Option Error
  | [] => none
  | errs => some (.aggregate errs)

@[simp] theorem newMultiLineAggregate_eq_none (errs : List Error) :
    newMultiLineAggregate errs = none ↔ errs = [] := by
  cases errs <;> simp [newMultiLineAggregate]

/-! ## Storage version migrations -/

/-- A Go `map[string]string`: keys are distinct and order carries no meaning. -/
abbrev StringMap := AList (fun _ : String => String)

/-- The `metav1.ObjectMeta` fields the controller and `resourcemerge` touch.  An
unset resource version is `0`; the API server never hands one out. -/
structure ObjectMeta where
  name : String
  «namespace» : String := ""
  resourceVersion : Nat := 0
  labels : StringMap := ∅
  annotations : StringMap := ∅

/-- `schema.GroupVersionResource`. -/
structure GroupVersionResource where
  group : String
  version : String
  resource : String
  deriving DecidableEq, Repr

/-- `migrationv1alpha1.StorageVersionMigrationSpec`.  `equality.Semantic.DeepEqual`
on it is plain equality: it holds only strings. -/
structure StorageVersionMigrationSpec where
  resource : GroupVersionResource
  continueToken : String := ""
  deriving DecidableEq, Repr

/-- `migrationv1alpha1.StorageVersionMigration`, which embeds its `ObjectMeta`. -/
structure StorageVersionMigration extends ObjectMeta where
  spec : StorageVersionMigrationSpec

/-- A decoded `runtime.Object`: the scheme registers the migration API group only,
so a manifest decodes to a migration or to another kind of that group. -/
inductive RuntimeObject
  /-- A `*migrationv1alpha1.StorageVersionMigration`. -/
  | storageVersionMigration (m : StorageVersionMigration)
  /-- Any other registered kind, by its `%v` rendering, which is all the error text reads. -/
  | other (printed : String)

/-- The group-qualified resource of the migration client. -/
def storageVersionMigrationsResource : String := "storageversionmigrations.migration.k8s.io"

/-- The group-qualified resource of the apiextensions client. -/
def customResourceDefinitionsResource : String := "customresourcedefinitions.apiextensions.k8s.io"

/-! ## The package's constants -/

/-- `migrationRequestFiles`. -/
def migrationRequestFiles : List String :=
  ["cluster-manager/cluster-manager-managedclustersets-migration.yaml",
    "cluster-manager/cluster-manager-managedclustersetbindings-migration.yaml"]

/-- `clusterManagerApplied`. -/
def clusterManagerApplied : String := "Applied"

/-- `migrationRequestCRDName`. -/
def migrationRequestCRDName : String := "storageversionmigrations.migration.k8s.io"

/-! ## The cluster manager -/

/-- `metav1.Time`, as nanoseconds from Go's zero instant. -/
structure Time where
  sinceZero : Int
  deriving DecidableEq, Repr

/-- `(*metav1.Time).IsZero`: a `nil` pointer or the zero instant. -/
def Time.isZero : Option Time → Bool
  | none => true
  | some t => t.sinceZero = 0

/-- A `metav1.Condition`; its status is a string, `"True"` among others. -/
structure Condition where
  type : String
  status : String
  deriving DecidableEq, Repr

/-- `operatorv1.ClusterManager`, reduced to what `sync` reads (the lister finds it by
name, so the name is the key it is stored under); `conditions` are its
`Status.Conditions`. -/
structure ClusterManager where
  deletionTimestamp : Option Time := none
  conditions : List Condition := []
  deriving DecidableEq, Repr

/-- `meta.IsStatusConditionPresentAndEqual`: the first condition of the type decides. -/
def isStatusConditionPresentAndEqual (conditions : List Condition) (conditionType status : String) :
    Bool :=
  match conditions with
  | [] => false
  | c :: cs =>
    if c.type = conditionType then c.status = status
    else isStatusConditionPresentAndEqual cs conditionType status

/-- `meta.IsStatusConditionTrue`. -/
def isStatusConditionTrue (conditions : List Condition) (conditionType : String) : Bool :=
  isStatusConditionPresentAndEqual conditions conditionType "True"

end MigrationController
