import MigrationController.Api

/-!
# `resourcemerge.EnsureObjectMeta`

Before it compares specs, `applyStorageVersionMigration` runs library-go's
`resourcemerge.EnsureObjectMeta` on a copy of the fetched object: the required
namespace and name are copied when set, and `MergeMap` lays the required labels and
annotations over the existing ones, keeping every key the store added.  A required
key that ends in `-` is never written: it removes the key it names, the same key
without its trailing dashes, as `kubectl label k-` does.  The boolean threaded
through records whether anything changed.

Go ranges over a map in no fixed order; `mergeMap` visits the required entries in
list order, which is one of those orders, and every theorem here is stated for
every `StringMap`, so for every order.  A required map that sets a key and also
removes it (`k` beside `k-`) gives a result that depends on the order, in Go as
here, and is changed again by every later merge; `ObjectMeta.Consistent` rules that
out, and the theorems about the merged object assume it.  The embedded manifests
set no labels or annotations at all.

`EnsureObjectMeta` also merges owner references.  `ObjectMeta` keeps none, so the
manifests this model decodes are manifests without owner references, as the
embedded ones are.

The controller's convergence rests on three facts: `ensureObjectMeta_of_covers` (on
an object that already has what the manifest asks, `Covers`, the merge changes
nothing and leaves the flag as it was), `covers_of_ensureObjectMeta_fst_eq_false`
(a merge that leaves the flag down found such an object) and
`covers_ensureObjectMeta` (after the merge of a consistent manifest the object has
what it asks).  `lookup_mergeMap` gives the merged maps key by key.
-/

namespace MigrationController

/-- `resourcemerge.SetStringIfSet`: overwrite `existing` with a non-empty `required`. -/
def setStringIfSet (modified : Bool) (existing required : String) : Bool × String :=
  if required = "" then (modified, existing)
  else if required ≠ existing then (true, required) else (modified, existing)

/-- `strings.HasSuffix(k, "-")`: the required key asks for a removal.  `-` is one
byte in UTF-8, so the last byte is `-` exactly when the last character is. -/
def isRemoval (k : String) : Bool :=
  k.toList.getLast? == some '-'

/-- `strings.TrimRight(k, "-")`: the key a removal names. -/
def trimDashes (k : String) : String :=
  String.mk (k.toList.reverse.dropWhile (· = '-')).reverse

/-- One iteration of `MergeMap`'s loop: a removal deletes the key it names when that
key is there; any other entry writes its key unless it already holds the value. -/
def mergeEntry (acc : Bool × StringMap) (kv : Σ _ : String, String) : Bool × StringMap :=
  if isRemoval kv.1 then
    if (acc.2.lookup (trimDashes kv.1)).isSome then (true, acc.2.erase (trimDashes kv.1)) else acc
  else if acc.2.lookup kv.1 = some kv.2 then acc else (true, acc.2.insert kv.1 kv.2)

/-- `resourcemerge.MergeMap`.  A `nil` existing map reads as the empty map. -/
def mergeMap (modified : Bool) (existing required : StringMap) : Bool × StringMap :=
  required.entries.foldl mergeEntry (modified, existing)

/-- `resourcemerge.EnsureObjectMeta` on the fields `ObjectMeta` keeps.  Each step
takes the flag the previous one left, as the Go steps share `*modified`. -/
def ensureObjectMeta (modified : Bool) (existing required : ObjectMeta) : Bool × ObjectMeta :=
  let ns := setStringIfSet modified existing.namespace required.namespace
  let name := setStringIfSet ns.1 existing.name required.name
  let labels := mergeMap name.1 existing.labels required.labels
  let annotations := mergeMap labels.1 existing.annotations required.annotations
  (annotations.1,
    { existing with «namespace» := ns.2, name := name.2, labels := labels.2, annotations := annotations.2 })

/-! ## One step of the loop -/

/-- The required entry asks nothing more of `m`: the key a removal names is absent,
and any other key already holds the entry's value. -/
def EntryHolds (m : StringMap) (kv : Σ _ : String, String) : Prop :=
  if isRemoval kv.1 then m.lookup (trimDashes kv.1) = none else m.lookup kv.1 = some kv.2

instance (m : StringMap) (kv : Σ _ : String, String) : Decidable (EntryHolds m kv) :=
  inferInstanceAs (Decidable (if isRemoval kv.1 then _ else _))

/-- The required entry is a removal of `k`. -/
def removesKey (k : String) (kv : Σ _ : String, String) : Bool :=
  isRemoval kv.1 && trimDashes kv.1 == k

theorem mergeEntry_of_holds {acc : Bool × StringMap} {kv : Σ _ : String, String}
    (h : EntryHolds acc.2 kv) : mergeEntry acc kv = acc := by
  unfold EntryHolds at h
  unfold mergeEntry
  split_ifs at h ⊢ <;> simp_all

/-- A step that leaves the flag down was a step on an entry that already held. -/
theorem mergeEntry_of_fst_eq_false {acc : Bool × StringMap} {kv : Σ _ : String, String}
    (h : (mergeEntry acc kv).1 = false) : mergeEntry acc kv = acc ∧ EntryHolds acc.2 kv := by
  unfold mergeEntry at h ⊢
  unfold EntryHolds
  by_cases hr : isRemoval kv.1
  · by_cases hs : (acc.2.lookup (trimDashes kv.1)).isSome
    · simp [hr, hs] at h
    · simp_all
  · by_cases hs : acc.2.lookup kv.1 = some kv.2
    · simp [hr, hs]
    · simp [hr, hs] at h

theorem lookup_mergeEntry (acc : Bool × StringMap) (kv : Σ _ : String, String) (k : String) :
    (mergeEntry acc kv).2.lookup k =
      if isRemoval kv.1 then (if k = trimDashes kv.1 then none else acc.2.lookup k)
      else if k = kv.1 then some kv.2 else acc.2.lookup k := by
  unfold mergeEntry
  by_cases hr : isRemoval kv.1
  · simp only [if_pos hr]
    by_cases hk : k = trimDashes kv.1
    · subst hk
      split_ifs <;> simp_all
    · simp only [if_neg hk]
      split_ifs <;> simp [AList.lookup_erase_ne hk]
  · simp only [if_neg hr]
    by_cases hk : k = kv.1
    · subst hk
      split_ifs <;> simp_all
    · simp only [if_neg hk]
      split_ifs <;> simp [AList.lookup_insert_ne hk]

/-! ## The whole loop -/

theorem foldl_mergeEntry_fst_true :
    ∀ (l : List (Σ _ : String, String)) (acc : Bool × StringMap), acc.1 = true →
      (l.foldl mergeEntry acc).1 = true
  | [], _, h => h
  | kv :: l, acc, h => foldl_mergeEntry_fst_true l _ (by unfold mergeEntry; split_ifs <;> simp [h])

theorem foldl_mergeEntry_of_fst_eq_false :
    ∀ (l : List (Σ _ : String, String)) (acc : Bool × StringMap),
      (l.foldl mergeEntry acc).1 = false → l.foldl mergeEntry acc = acc ∧ ∀ kv ∈ l, EntryHolds acc.2 kv
  | [], _, _ => ⟨rfl, nofun⟩
  | kv :: l, acc, h => by
    rw [List.foldl_cons] at h ⊢
    cases hf : (mergeEntry acc kv).1
    · obtain ⟨hstep, hkv⟩ := mergeEntry_of_fst_eq_false hf
      rw [hstep] at h ⊢
      obtain ⟨hl, hall⟩ := foldl_mergeEntry_of_fst_eq_false l acc h
      exact ⟨hl, List.forall_mem_cons.mpr ⟨hkv, hall⟩⟩
    · rw [foldl_mergeEntry_fst_true l _ hf] at h
      cases h

/-- A merge that leaves the flag down changed nothing: the existing map already had
what every required entry asks. -/
theorem mergeMap_eq_of_fst_eq_false {modified : Bool} {existing required : StringMap}
    (h : (mergeMap modified existing required).1 = false) :
    modified = false ∧ (mergeMap modified existing required).2 = existing ∧
      ∀ kv ∈ required.entries, EntryHolds existing kv := by
  obtain ⟨hl, hall⟩ := foldl_mergeEntry_of_fst_eq_false required.entries (modified, existing) h
  unfold mergeMap at h ⊢
  rw [hl] at h ⊢
  exact ⟨h, rfl, hall⟩

theorem foldl_mergeEntry_of_holds (existing : StringMap) (modified : Bool) :
    ∀ l : List (Σ _ : String, String), (∀ kv ∈ l, EntryHolds existing kv) →
      l.foldl mergeEntry (modified, existing) = (modified, existing)
  | [], _ => rfl
  | kv :: l, h => by
    rw [List.foldl_cons, mergeEntry_of_holds (h kv (List.mem_cons_self _ _))]
    exact foldl_mergeEntry_of_holds existing modified l
      fun kv' hkv' => h kv' (List.mem_cons_of_mem _ hkv')

/-- A map that already has what every required entry asks is left alone, flag included. -/
theorem mergeMap_of_holds {modified : Bool} {existing required : StringMap}
    (h : ∀ kv ∈ required.entries, EntryHolds existing kv) :
    mergeMap modified existing required = (modified, existing) :=
  foldl_mergeEntry_of_holds existing modified _ h

/-! ## The merged map -/

/-- What `MergeMap` leaves under `k` when the required map never sets a key it also
removes: nothing where a required key removes `k`; the existing value under a key
that is itself a removal, which is never written; otherwise the required value, or
else the existing one. -/
def mergedLookup (existing required : StringMap) (k : String) : Option String :=
  if required.entries.any (removesKey k) then none
  else if isRemoval k then existing.lookup k
  else (required.lookup k).or (existing.lookup k)

theorem lookup_foldl_mergeEntry (k : String) :
    ∀ l : List (Σ _ : String, String), l.NodupKeys →
      (∀ kv ∈ l, isRemoval kv.1 = true → l.dlookup (trimDashes kv.1) = none) →
      ∀ acc : Bool × StringMap, (l.foldl mergeEntry acc).2.lookup k =
        if l.any (removesKey k) then none
        else if isRemoval k then acc.2.lookup k else (l.dlookup k).or (acc.2.lookup k)
  | [], _, _, acc => by simp
  | ⟨key, val⟩ :: l, hl, hc, acc => by
    obtain ⟨hkey, hl⟩ := List.nodupKeys_cons.mp hl
    -- the key a removal names is set neither by the head nor by the tail
    have hc' (kv) (hkv : kv ∈ ⟨key, val⟩ :: l) (hr : isRemoval kv.1 = true) :
        trimDashes kv.1 ≠ key ∧ l.dlookup (trimDashes kv.1) = none := by
      simpa [List.dlookup_eq_none, not_or] using hc kv hkv hr
    rw [List.foldl_cons, lookup_foldl_mergeEntry k l hl (fun kv hkv hr => (hc' kv (.tail _ hkv) hr).2),
      lookup_mergeEntry, List.any_cons]
    by_cases hr : isRemoval key
    · by_cases hk : k = trimDashes key
      · -- the head removes `k`, so no entry sets it
        subst hk
        rw [show removesKey (trimDashes key) ⟨key, val⟩ = true by simp [removesKey, hr], Bool.true_or]
        simp [hr, (hc' _ (List.mem_cons_self _ _) hr).2]
      · rw [show removesKey k ⟨key, val⟩ = false by simp [removesKey, hr, Ne.symm hk], Bool.false_or]
        by_cases hkr : isRemoval k
        · simp [hr, hk, hkr]
        · have hkk : k ≠ key := fun h => by subst h; exact hkr hr
          simp [hr, hk, hkr, List.dlookup_cons_ne l ⟨key, val⟩ hkk]
    · rw [show removesKey k ⟨key, val⟩ = false by simp [removesKey, hr], Bool.false_or]
      by_cases hk : k = key
      · subst hk
        simp [hr, List.dlookup_eq_none.mpr hkey]
      · simp [hr, hk, List.dlookup_cons_ne l ⟨key, val⟩ hk]

/-- **The merged map**, key by key, for a required map that sets no key it removes. -/
theorem lookup_mergeMap {required : StringMap} (hc : ∀ kv ∈ required.entries, EntryHolds required kv)
    (modified : Bool) (existing : StringMap) (k : String) :
    (mergeMap modified existing required).2.lookup k = mergedLookup existing required k := by
  refine lookup_foldl_mergeEntry k _ required.nodupKeys (fun kv hkv hr => ?_) _
  have h := hc kv hkv
  rwa [EntryHolds, if_pos hr] at h

/-- A map that already has what every required entry asks reads as its own merge. -/
theorem lookup_of_holds {existing required : StringMap}
    (h : ∀ kv ∈ required.entries, EntryHolds existing kv) (k : String) :
    existing.lookup k = mergedLookup existing required k := by
  unfold mergedLookup
  split_ifs with hrem hk
  · obtain ⟨kv, hkv, hr⟩ := List.any_eq_true.mp hrem
    simp only [removesKey, Bool.and_eq_true, beq_iff_eq] at hr
    have hh := h kv hkv
    rwa [EntryHolds, if_pos hr.1, hr.2] at hh
  · rfl
  · cases hv : required.lookup k with
    | none => rfl
    | some v =>
      have hh := h ⟨k, v⟩ (AList.mem_lookup_iff.mp hv)
      rw [EntryHolds, if_neg hk] at hh
      simp [hh]

/-- After the merge of a required map that sets no key it removes, every required
entry holds. -/
theorem holds_mergeMap {required : StringMap} (hc : ∀ kv ∈ required.entries, EntryHolds required kv)
    (modified : Bool) (existing : StringMap) {kv : Σ _ : String, String} (hkv : kv ∈ required.entries) :
    EntryHolds (mergeMap modified existing required).2 kv := by
  unfold EntryHolds
  by_cases hr : isRemoval kv.1
  · rw [if_pos hr, lookup_mergeMap hc, mergedLookup,
      if_pos (List.any_eq_true.mpr ⟨kv, hkv, by simp [removesKey, hr]⟩)]
  · have hnot : required.entries.any (removesKey kv.1) = false := by
      refine List.any_eq_false.mpr fun kv' hkv' hrem => ?_
      simp only [removesKey, Bool.and_eq_true, beq_iff_eq] at hrem
      have hh := hc kv' hkv'
      rw [EntryHolds, if_pos hrem.1, hrem.2, AList.mem_lookup_iff.mpr hkv] at hh
      cases hh
    rw [if_neg hr, lookup_mergeMap hc, mergedLookup, hnot, if_neg Bool.false_ne_true, if_neg hr,
      AList.mem_lookup_iff.mpr hkv]
    rfl

/-! ## Objects that have what the manifest asks -/

/-- `existing` already has what `EnsureObjectMeta` asks for `required`. -/
structure Covers (required existing : ObjectMeta) : Prop where
  namespace_eq : required.namespace = "" ∨ required.namespace = existing.namespace
  name_eq : required.name = "" ∨ required.name = existing.name
  labels : ∀ kv ∈ required.labels.entries, EntryHolds existing.labels kv
  annotations : ∀ kv ∈ required.annotations.entries, EntryHolds existing.annotations kv

/-- The labels and annotations set no key they also remove (`k` beside `k-`): the
merge's outcome does not depend on the order Go ranges in, and merging the object
into itself changes nothing. -/
structure ObjectMeta.Consistent (m : ObjectMeta) : Prop where
  labels : ∀ kv ∈ m.labels.entries, EntryHolds m.labels kv
  annotations : ∀ kv ∈ m.annotations.entries, EntryHolds m.annotations kv

instance (m : ObjectMeta) : Decidable m.Consistent :=
  decidable_of_iff ((∀ kv ∈ m.labels.entries, EntryHolds m.labels kv) ∧
      ∀ kv ∈ m.annotations.entries, EntryHolds m.annotations kv)
    ⟨fun h => ⟨h.1, h.2⟩, fun h => ⟨h.labels, h.annotations⟩⟩

/-- Metadata without labels and annotations is consistent. -/
theorem ObjectMeta.Consistent.of_empty {m : ObjectMeta} (hl : m.labels = ∅) (ha : m.annotations = ∅) :
    m.Consistent :=
  ⟨by simp [hl], by simp [ha]⟩

theorem Covers.refl {m : ObjectMeta} (h : m.Consistent) : Covers m m :=
  ⟨.inr rfl, .inr rfl, h.labels, h.annotations⟩

/-- Covering only reads the fields the merge writes, so a fresh resource version keeps it. -/
theorem Covers.with_resourceVersion {required existing : ObjectMeta} (h : Covers required existing)
    (rv : Nat) : Covers required { existing with resourceVersion := rv } :=
  ⟨h.namespace_eq, h.name_eq, h.labels, h.annotations⟩

/-- A covering object's labels and annotations read as their own merge. -/
theorem Covers.lookup {required existing : ObjectMeta} (h : Covers required existing) (k : String) :
    existing.labels.lookup k = mergedLookup existing.labels required.labels k ∧
      existing.annotations.lookup k = mergedLookup existing.annotations required.annotations k :=
  ⟨lookup_of_holds h.labels k, lookup_of_holds h.annotations k⟩

@[simp] theorem setStringIfSet_snd (modified : Bool) (existing required : String) :
    (setStringIfSet modified existing required).2 = if required = "" then existing else required := by
  unfold setStringIfSet
  split_ifs <;> simp_all

theorem setStringIfSet_of_covered {modified : Bool} {existing required : String}
    (h : required = "" ∨ required = existing) :
    setStringIfSet modified existing required = (modified, existing) := by
  unfold setStringIfSet
  split_ifs <;> simp_all

theorem setStringIfSet_eq_of_fst_eq_false {modified : Bool} {existing required : String}
    (h : (setStringIfSet modified existing required).1 = false) :
    modified = false ∧ (required = "" ∨ required = existing) := by
  unfold setStringIfSet at h
  split_ifs at h with h₁ h₂ <;> simp_all

/-- **The merge leaves a consistent manifest's metadata in place.** -/
theorem covers_ensureObjectMeta {required : ObjectMeta} (h : required.Consistent)
    (modified : Bool) (existing : ObjectMeta) :
    Covers required (ensureObjectMeta modified existing required).2 where
  namespace_eq := by by_cases h : required.namespace = "" <;> simp [ensureObjectMeta, h]
  name_eq := by by_cases h : required.name = "" <;> simp [ensureObjectMeta, h]
  labels _ hkv := holds_mergeMap h.labels _ _ hkv
  annotations _ hkv := holds_mergeMap h.annotations _ _ hkv

/-- The flag stays down only on an object that already covers the required metadata. -/
theorem covers_of_ensureObjectMeta_fst_eq_false {modified : Bool} {existing required : ObjectMeta}
    (h : (ensureObjectMeta modified existing required).1 = false) : Covers required existing := by
  obtain ⟨h₃, -, ha⟩ := mergeMap_eq_of_fst_eq_false h
  obtain ⟨h₂, -, hl⟩ := mergeMap_eq_of_fst_eq_false h₃
  obtain ⟨h₁, hn⟩ := setStringIfSet_eq_of_fst_eq_false h₂
  exact ⟨(setStringIfSet_eq_of_fst_eq_false h₁).2, hn, hl, ha⟩

/-- **An `EnsureObjectMeta` that leaves the flag down** changed nothing. -/
theorem ensureObjectMeta_of_covers {modified : Bool} {existing required : ObjectMeta}
    (h : Covers required existing) :
    ensureObjectMeta modified existing required = (modified, existing) := by
  simp only [ensureObjectMeta, setStringIfSet_of_covered h.namespace_eq,
    setStringIfSet_of_covered h.name_eq, mergeMap_of_holds h.labels, mergeMap_of_holds h.annotations]

theorem ensureObjectMeta_snd_of_fst_eq_false {modified : Bool} {existing required : ObjectMeta}
    (h : (ensureObjectMeta modified existing required).1 = false) :
    (ensureObjectMeta modified existing required).2 = existing := by
  rw [ensureObjectMeta_of_covers (covers_of_ensureObjectMeta_fst_eq_false h)]

/-- The merge never touches the resource version: an update built from a fetched
object carries the version that was read. -/
@[simp] theorem ensureObjectMeta_resourceVersion (modified : Bool) (existing required : ObjectMeta) :
    (ensureObjectMeta modified existing required).2.resourceVersion = existing.resourceVersion :=
  rfl

@[simp] theorem ensureObjectMeta_name (modified : Bool) (existing required : ObjectMeta) :
    (ensureObjectMeta modified existing required).2.name =
      if required.name = "" then existing.name else required.name := by
  simp [ensureObjectMeta]

/-- **The merged labels and annotations**, key by key, for a consistent manifest. -/
theorem lookup_ensureObjectMeta {required : ObjectMeta} (h : required.Consistent) (modified : Bool)
    (existing : ObjectMeta) (k : String) :
    (ensureObjectMeta modified existing required).2.labels.lookup k =
        mergedLookup existing.labels required.labels k ∧
      (ensureObjectMeta modified existing required).2.annotations.lookup k =
        mergedLookup existing.annotations required.annotations k :=
  ⟨lookup_mergeMap h.labels _ _ k, lookup_mergeMap h.annotations _ _ k⟩

end MigrationController
