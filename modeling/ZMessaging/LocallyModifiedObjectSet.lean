import ZMessaging.StepSystem
import Mathlib.Data.Finset.Basic
import Mathlib.Data.List.Nodup

/-!
# Locally modified objects: the bookkeeping behind upstream updates

A managed object records which of its tracked keys have local
modifications (`keysThatHaveLocalModifications`, kept by ZMCDataModel).
`ZMLocallyModifiedObjectSyncStatus` follows one object: the keys it tracks
and the keys whose upload is in flight; its `keysToSynchronize` are the
tracked, modified keys not in flight.  Starting a sync captures the current
values of the keys in a token; finishing compares them with the values then
and either returns the keys that changed meanwhile or resets the keys'
modification flags on the object.

`ZMLocallyModifiedObjectSet` keeps one status per object in a dictionary,
modelled with its enumeration order explicit (a list), since
`anyObjectToSynchronize` returns the first match in that order; the model
enumerates in insertion order.  Statuses are objects shared between the
dictionary and the tokens of requests in flight, so they live in a heap and
are named by reference.

Of ZMCDataModel the model uses what the syncs rely on: resetting keys
removes exactly those keys from `keysThatHaveLocalModifications`, setting
them adds them, and a local edit of a tracked key adds it.

The invariant of the set (`Good`) is that every dictionary entry names a
status of its own object, that no object has two entries and that the heap
is unused from `nextStatus` on.  Every operation keeps it and only ever
replaces a status by one for the same object (`Extends`), so a token keeps
pointing at a status of its object for as long as its request is in flight.
-/

namespace ZMessaging

variable {ω κ ν : Type*} [DecidableEq ω] [DecidableEq κ]

/-- The part of a managed object the sync reads and writes.  `values` reads
`nil` as `NSNull`, as `valueForKey:` is used in the source. -/
structure ManagedObject (κ ν : Type*) where
  values : κ → ν
  keysThatHaveLocalModifications : Finset κ
  keysTrackedForLocalModifications : Finset κ
  needsToBeUpdatedFromBackend : Bool

namespace ManagedObject

/-- `resetLocallyModifiedKeys:`. -/
def resetLocallyModifiedKeys (o : ManagedObject κ ν) (keys : Finset κ) : ManagedObject κ ν :=
  { o with keysThatHaveLocalModifications := o.keysThatHaveLocalModifications \ keys }

/-- `setLocallyModifiedKeys:`. -/
def setLocallyModifiedKeys (o : ManagedObject κ ν) (keys : Finset κ) : ManagedObject κ ν :=
  { o with keysThatHaveLocalModifications := o.keysThatHaveLocalModifications ∪ keys }

/-- Setting `needsToBeUpdatedFromBackend` to `YES`. -/
def markNeedsToBeUpdatedFromBackend (o : ManagedObject κ ν) : ManagedObject κ ν :=
  { o with needsToBeUpdatedFromBackend := true }

/-- A local edit: the key gets a new value and, when tracked, is marked as
locally modified. -/
def edit (o : ManagedObject κ ν) (key : κ) (value : ν) : ManagedObject κ ν :=
  { o with values := Function.update o.values key value,
           keysThatHaveLocalModifications :=
             if key ∈ o.keysTrackedForLocalModifications
             then insert key o.keysThatHaveLocalModifications
             else o.keysThatHaveLocalModifications }

variable (o : ManagedObject κ ν) (keys : Finset κ)

@[simp] theorem resetLocallyModifiedKeys_keysThatHaveLocalModifications :
    (o.resetLocallyModifiedKeys keys).keysThatHaveLocalModifications =
      o.keysThatHaveLocalModifications \ keys := rfl

@[simp] theorem setLocallyModifiedKeys_keysThatHaveLocalModifications :
    (o.setLocallyModifiedKeys keys).keysThatHaveLocalModifications =
      o.keysThatHaveLocalModifications ∪ keys := rfl

omit [DecidableEq κ] in
@[simp] theorem markNeedsToBeUpdatedFromBackend_keysThatHaveLocalModifications :
    o.markNeedsToBeUpdatedFromBackend.keysThatHaveLocalModifications =
      o.keysThatHaveLocalModifications := rfl

@[simp] theorem edit_keysTrackedForLocalModifications (key : κ) (value : ν) :
    (o.edit key value).keysTrackedForLocalModifications = o.keysTrackedForLocalModifications := rfl

@[simp] theorem edit_values (key : κ) (value : ν) :
    (o.edit key value).values = Function.update o.values key value := rfl

/-- An edit keeps every modification flag and raises the one of a tracked
edited key. -/
theorem mem_edit_keysThatHaveLocalModifications {k key : κ} {value : ν} :
    k ∈ (o.edit key value).keysThatHaveLocalModifications ↔
      k ∈ o.keysThatHaveLocalModifications ∨
        (k = key ∧ key ∈ o.keysTrackedForLocalModifications) := by
  unfold edit
  by_cases htracked : key ∈ o.keysTrackedForLocalModifications
  · simp only [htracked, if_true, Finset.mem_insert, and_true]
    tauto
  · simp [htracked]

end ManagedObject

/-- Every managed object, by identity. -/
abbrev ObjectStore (ω κ ν : Type*) := ω → ManagedObject κ ν

/-- `ZMLocallyModifiedObjectSyncStatus`. -/
structure ZMLocallyModifiedObjectSyncStatus (ω κ : Type*) where
  object : ω
  trackedKeys : Finset κ
  keysWithSyncInProgress : Finset κ

/-- `ZMLocallyModifiedObjectSyncStatusToken`: the values of `keys` when the
sync started. -/
structure ZMLocallyModifiedObjectSyncStatusToken (ω κ ν : Type*) where
  object : ω
  keys : Finset κ
  previousValues : κ → ν

namespace ZMLocallyModifiedObjectSyncStatusToken

/-- `keysThatHaveNewValues`: the token's keys whose value changed since. -/
def keysThatHaveNewValues [DecidableEq ν] (t : ZMLocallyModifiedObjectSyncStatusToken ω κ ν)
    (store : ObjectStore ω κ ν) : Finset κ :=
  t.keys.filter fun key => (store t.object).values key ≠ t.previousValues key

end ZMLocallyModifiedObjectSyncStatusToken

namespace ZMLocallyModifiedObjectSyncStatus

variable (st : ZMLocallyModifiedObjectSyncStatus ω κ) (store : ObjectStore ω κ ν)

/-- `keysToSynchronize`. -/
def keysToSynchronize : Finset κ :=
  (st.trackedKeys ∩ (store st.object).keysThatHaveLocalModifications) \
    st.keysWithSyncInProgress

/-- `isDone`. -/
def isDone : Bool :=
  st.keysToSynchronize store = ∅ ∧ st.keysWithSyncInProgress = ∅

/-- `initWithObject:trackedKeys:`, which returns `nil` when there is nothing
to synchronize. -/
def create (object : ω) (trackedKeys : Finset κ) :
    Option (ZMLocallyModifiedObjectSyncStatus ω κ) :=
  let st : ZMLocallyModifiedObjectSyncStatus ω κ := ⟨object, trackedKeys, ∅⟩
  if st.keysToSynchronize store = ∅ then none else some st

omit [DecidableEq ω] in
theorem create_object {object : ω} {trackedKeys : Finset κ}
    {st' : ZMLocallyModifiedObjectSyncStatus ω κ} (h : create store object trackedKeys = some st') :
    st'.object = object := by
  unfold create at h
  dsimp only at h
  split at h
  · cases h
  · cases h
    rfl

/-- `startSynchronizingKeys:`: capture the values and mark the keys in flight. -/
def startSynchronizingKeys (keys : Finset κ) :
    ZMLocallyModifiedObjectSyncStatus ω κ × ZMLocallyModifiedObjectSyncStatusToken ω κ ν :=
  ({ st with keysWithSyncInProgress := st.keysWithSyncInProgress ∪ keys },
   ⟨st.object, keys, (store st.object).values⟩)

/-- `returnChangedKeysAndFinishTokenSync:`. -/
def returnChangedKeysAndFinishTokenSync [DecidableEq ν] (token : ZMLocallyModifiedObjectSyncStatusToken ω κ ν) :
    ZMLocallyModifiedObjectSyncStatus ω κ × Finset κ :=
  ({ st with keysWithSyncInProgress := st.keysWithSyncInProgress \ token.keys },
   token.keysThatHaveNewValues store)

/-- `resetLocallyModifiedKeysForToken:`: the status forgets the keys and the
object's modification flags for them are reset. -/
def resetLocallyModifiedKeysForToken (token : ZMLocallyModifiedObjectSyncStatusToken ω κ ν) :
    ZMLocallyModifiedObjectSyncStatus ω κ × ObjectStore ω κ ν :=
  ({ st with keysWithSyncInProgress := st.keysWithSyncInProgress \ token.keys },
   Function.update store st.object ((store st.object).resetLocallyModifiedKeys token.keys))

end ZMLocallyModifiedObjectSyncStatus

/-- `ZMObjectWithKeys`. -/
structure ZMObjectWithKeys (ω κ : Type*) where
  object : ω
  keysToSync : Finset κ

/-- `ZMModifiedObjectSyncToken`: the status (by reference, `none` for `nil`)
and its token. -/
structure ZMModifiedObjectSyncToken (ω κ ν : Type*) where
  objectSyncStatus : Option Nat
  syncToken : Option (ZMLocallyModifiedObjectSyncStatusToken ω κ ν)
  keysToSynchronize : Finset κ

/-- `ZMLocallyModifiedObjectSet`: the dictionary from objects to statuses in
its enumeration order, and the heap of status objects. -/
structure ZMLocallyModifiedObjectSet (ω κ : Type*) where
  /-- `nil` tracks all keys of each object's class. -/
  trackedKeys : Option (Finset κ)
  objectIDsToStatus : List (ω × Nat)
  statuses : Nat → Option (ZMLocallyModifiedObjectSyncStatus ω κ)
  nextStatus : Nat

namespace ZMLocallyModifiedObjectSet

variable (set : ZMLocallyModifiedObjectSet ω κ) (store : ObjectStore ω κ ν)

/-- An empty set. -/
def init (trackedKeys : Option (Finset κ)) : ZMLocallyModifiedObjectSet ω κ :=
  ⟨trackedKeys, [], fun _ => none, 0⟩

/-- The status object a reference points to. -/
def status (ref : Option Nat) : Option (ZMLocallyModifiedObjectSyncStatus ω κ) :=
  ref.bind set.statuses

/-- Overwrite the status object at a reference (a message to `nil` does
nothing). -/
def writeStatus (ref : Option Nat) (st : ZMLocallyModifiedObjectSyncStatus ω κ) :
    ZMLocallyModifiedObjectSet ω κ :=
  match ref with
  | none => set
  | some i => { set with statuses := Function.update set.statuses i (some st) }

/-- `removeObjectForKey:` on the dictionary. -/
def removeObject (object : ω) : ZMLocallyModifiedObjectSet ω κ :=
  { set with objectIDsToStatus := set.objectIDsToStatus.filter (·.1 ≠ object) }

/-- The dictionary entry for an object. -/
def lookup (object : ω) : Option Nat :=
  (set.objectIDsToStatus.find? (·.1 = object)).map (·.2)

/-- `addPossibleObjectToSynchronize:`. -/
def addPossibleObjectToSynchronize (object : ω) : ZMLocallyModifiedObjectSet ω κ :=
  match set.status (set.lookup object) with
  | some preExistingStatus =>
      if preExistingStatus.isDone store then set.removeObject object else set
  | none =>
      let trackedKeys := set.trackedKeys.getD (store object).keysTrackedForLocalModifications
      match ZMLocallyModifiedObjectSyncStatus.create store object trackedKeys with
      | none => set
      | some st =>
          { set with objectIDsToStatus := set.objectIDsToStatus ++ [(object, set.nextStatus)],
                     statuses := Function.update set.statuses set.nextStatus (some st),
                     nextStatus := set.nextStatus + 1 }

/-- The loop of `anyObjectToSynchronize` over a snapshot of the dictionary's
values: the first status with keys to synchronize is returned; done statuses
met before it are removed from the dictionary. -/
def anyObjectToSynchronizeLoop :
    List (ω × Nat) → ZMLocallyModifiedObjectSet ω κ →
      ZMLocallyModifiedObjectSet ω κ × Option (ZMObjectWithKeys ω κ)
  | [], set => (set, none)
  | (_, ref) :: rest, set =>
      match set.statuses ref with
      | none => anyObjectToSynchronizeLoop rest set
      | some st =>
          if st.keysToSynchronize store ≠ ∅ then
            (set, some ⟨st.object, st.keysToSynchronize store⟩)
          else if st.isDone store then anyObjectToSynchronizeLoop rest (set.removeObject st.object)
          else anyObjectToSynchronizeLoop rest set

/-- `anyObjectToSynchronize`. -/
def anyObjectToSynchronize : ZMLocallyModifiedObjectSet ω κ × Option (ZMObjectWithKeys ω κ) :=
  anyObjectToSynchronizeLoop store set.objectIDsToStatus set

/-- `didStartSynchronizingKeys:forObject:`. -/
def didStartSynchronizingKeys (keys : Finset κ) (object : ZMObjectWithKeys ω κ) :
    ZMLocallyModifiedObjectSet ω κ × ZMModifiedObjectSyncToken ω κ ν :=
  let ref := set.lookup object.object
  match set.status ref with
  | none => (set, ⟨ref, none, keys⟩)
  | some st =>
      let started := st.startSynchronizingKeys store keys
      (set.writeStatus ref started.1, ⟨ref, some started.2, keys⟩)

/-- `removeObjectSyncStatusIfDone:`. -/
def removeObjectSyncStatusIfDone (st : Option (ZMLocallyModifiedObjectSyncStatus ω κ)) :
    ZMLocallyModifiedObjectSet ω κ :=
  match st with
  | some st => if st.isDone store then set.removeObject st.object else set
  | none => set

/-- `didFailToSynchronizeToken:`: reset the token's keys, then drop the
status if it is done. -/
def didFailToSynchronizeToken (token : ZMModifiedObjectSyncToken ω κ ν) :
    ZMLocallyModifiedObjectSet ω κ × ObjectStore ω κ ν :=
  match set.status token.objectSyncStatus, token.syncToken with
  | some st, some syncToken =>
      let reset := st.resetLocallyModifiedKeysForToken store syncToken
      let set := set.writeStatus token.objectSyncStatus reset.1
      (set.removeObjectSyncStatusIfDone reset.2 (some reset.1), reset.2)
  | _, _ => (set, store)

/-- `didSynchronizeToken:`, which does what `didFailToSynchronizeToken:`
does. -/
def didSynchronizeToken (token : ZMModifiedObjectSyncToken ω κ ν) :
    ZMLocallyModifiedObjectSet ω κ × ObjectStore ω κ ν :=
  set.didFailToSynchronizeToken store token

/-- `didNotFinishToSynchronizeToken:`. -/
def didNotFinishToSynchronizeToken [DecidableEq ν] (token : ZMModifiedObjectSyncToken ω κ ν) :
    ZMLocallyModifiedObjectSet ω κ :=
  match set.status token.objectSyncStatus, token.syncToken with
  | some st, some syncToken =>
      set.writeStatus token.objectSyncStatus
        (st.returnChangedKeysAndFinishTokenSync store syncToken).1
  | _, _ => set

/-- `keysToParseAfterSyncingToken:`: the token's keys that did not change. -/
def keysToParseAfterSyncingToken [DecidableEq ν] (token : ZMModifiedObjectSyncToken ω κ ν) :
    ZMLocallyModifiedObjectSet ω κ × Finset κ :=
  match set.status token.objectSyncStatus, token.syncToken with
  | some st, some syncToken =>
      let finished := st.returnChangedKeysAndFinishTokenSync store syncToken
      (set.writeStatus token.objectSyncStatus finished.1,
       token.keysToSynchronize \ finished.2)
  | _, _ => (set, token.keysToSynchronize)

/-- `hasOutstandingItems`. -/
def hasOutstandingItems : Bool := set.objectIDsToStatus ≠ []

/-! ### The set's invariant -/

/-- Every dictionary entry names a status of its own object, each object has
one entry, and the heap is unused from `nextStatus` on. -/
structure Good : Prop where
  entries : ∀ p ∈ set.objectIDsToStatus, ∃ st, set.statuses p.2 = some st ∧ st.object = p.1
  keys_nodup : (set.objectIDsToStatus.map Prod.fst).Nodup
  fresh : ∀ i, set.nextStatus ≤ i → set.statuses i = none

/-- The heap only grows, and a status is only replaced by one for the same
object. -/
def Extends (set' : ZMLocallyModifiedObjectSet ω κ) : Prop :=
  ∀ i st, set.statuses i = some st → ∃ st', set'.statuses i = some st' ∧ st'.object = st.object

omit [DecidableEq ω] [DecidableEq κ] in
theorem Extends.refl : set.Extends set :=
  fun _ st h => ⟨st, h, rfl⟩

omit [DecidableEq ω] [DecidableEq κ] in
theorem Extends.trans {set' set'' : ZMLocallyModifiedObjectSet ω κ}
    (h : set.Extends set') (h' : set'.Extends set'') : set.Extends set'' := by
  intro i st hi
  obtain ⟨st', hi', hobj'⟩ := h i st hi
  obtain ⟨st'', hi'', hobj''⟩ := h' i st' hi'
  exact ⟨st'', hi'', hobj''.trans hobj'⟩

omit [DecidableEq ω] [DecidableEq κ] in
theorem Extends.of_statuses {set' : ZMLocallyModifiedObjectSet ω κ}
    (h : set'.statuses = set.statuses) : set.Extends set' := by
  intro i st hi
  exact ⟨st, h ▸ hi, rfl⟩

omit [DecidableEq ω] [DecidableEq κ] in
theorem init_good (trackedKeys : Option (Finset κ)) :
    (init trackedKeys : ZMLocallyModifiedObjectSet ω κ).Good where
  entries := by simp [init]
  keys_nodup := by simp [init]
  fresh := fun _ _ => rfl

omit [DecidableEq ω] [DecidableEq κ] in
variable {set} in
/-- Every status in use lies below `nextStatus`. -/
theorem Good.lt_nextStatus (h : set.Good) {i : Nat} {st : ZMLocallyModifiedObjectSyncStatus ω κ}
    (hi : set.statuses i = some st) : i < set.nextStatus := by
  by_contra hge
  rw [h.fresh i (Nat.le_of_not_lt hge)] at hi
  cases hi

omit [DecidableEq ω] [DecidableEq κ] in
@[simp] theorem writeStatus_objectIDsToStatus (ref : Option Nat)
    (st : ZMLocallyModifiedObjectSyncStatus ω κ) :
    (set.writeStatus ref st).objectIDsToStatus = set.objectIDsToStatus := by
  cases ref <;> rfl

omit [DecidableEq ω] [DecidableEq κ] in
@[simp] theorem writeStatus_nextStatus (ref : Option Nat)
    (st : ZMLocallyModifiedObjectSyncStatus ω κ) :
    (set.writeStatus ref st).nextStatus = set.nextStatus := by
  cases ref <;> rfl

omit [DecidableEq ω] [DecidableEq κ] in
/-- Rewriting a live status: the reference is a heap cell holding it. -/
theorem writeStatus_spec {ref : Option Nat} {st : ZMLocallyModifiedObjectSyncStatus ω κ}
    (st' : ZMLocallyModifiedObjectSyncStatus ω κ) (hst : set.status ref = some st) :
    ∃ i, ref = some i ∧ set.statuses i = some st ∧
      (set.writeStatus ref st').statuses = Function.update set.statuses i (some st') := by
  cases ref with
  | none => simp [status] at hst
  | some i => exact ⟨i, rfl, hst, rfl⟩

omit [DecidableEq ω] [DecidableEq κ] in
theorem writeStatus_extends {ref : Option Nat} {st st' : ZMLocallyModifiedObjectSyncStatus ω κ}
    (hst : set.status ref = some st) (hobj : st'.object = st.object) :
    set.Extends (set.writeStatus ref st') := by
  obtain ⟨i, -, hi, heq⟩ := set.writeStatus_spec st' hst
  intro j st'' hj
  rw [heq]
  by_cases hji : j = i
  · subst hji
    rw [hi] at hj
    cases hj
    exact ⟨st', by simp, hobj⟩
  · exact ⟨st'', by simp [hji, hj], rfl⟩

omit [DecidableEq ω] [DecidableEq κ] in
theorem writeStatus_good {ref : Option Nat} {st st' : ZMLocallyModifiedObjectSyncStatus ω κ}
    (h : set.Good) (hst : set.status ref = some st) (hobj : st'.object = st.object) :
    (set.writeStatus ref st').Good := by
  have hext := set.writeStatus_extends hst hobj
  obtain ⟨i, -, hi, heq⟩ := set.writeStatus_spec st' hst
  refine ⟨?_, by simpa using h.keys_nodup, ?_⟩
  · intro p hp
    obtain ⟨st₀, h₀, hobj₀⟩ := h.entries p (by simpa using hp)
    obtain ⟨st₁, h₁, hobj₁⟩ := hext _ _ h₀
    exact ⟨st₁, h₁, hobj₁.trans hobj₀⟩
  · intro j hj
    have hfresh := h.fresh j (by simpa using hj)
    have hij : j ≠ i := by
      have hlt := h.lt_nextStatus hi
      simp only [writeStatus_nextStatus] at hj
      omega
    rw [heq, Function.update_of_ne hij]
    exact hfresh

omit [DecidableEq κ] in
@[simp] theorem removeObject_statuses (object : ω) :
    (set.removeObject object).statuses = set.statuses := rfl

omit [DecidableEq κ] in
@[simp] theorem removeObject_nextStatus (object : ω) :
    (set.removeObject object).nextStatus = set.nextStatus := rfl

omit [DecidableEq κ] in
theorem removeObject_good (h : set.Good) (object : ω) : (set.removeObject object).Good where
  entries p hp := h.entries p (List.mem_of_mem_filter hp)
  keys_nodup := (List.filter_sublist.map _).nodup h.keys_nodup
  fresh := h.fresh

omit [DecidableEq κ] in
/-- The dictionary entry of a key present in a good set points at a status of
that key's object. -/
theorem lookup_spec (h : set.Good) {p : ω × Nat} (hp : p ∈ set.objectIDsToStatus) :
    ∃ st, set.status (set.lookup p.1) = some st ∧ st.object = p.1 := by
  have hsome : (set.objectIDsToStatus.find? (·.1 = p.1)).isSome := by
    rw [List.find?_isSome]
    exact ⟨p, hp, by simp⟩
  obtain ⟨q, hq⟩ := Option.isSome_iff_exists.mp hsome
  have hqkey : q.1 = p.1 := by simpa using List.find?_some hq
  obtain ⟨st, hst, hobj⟩ := h.entries q (List.mem_of_find?_eq_some hq)
  exact ⟨st, by simp [status, lookup, hq, hst], hobj.trans hqkey⟩

omit [DecidableEq κ] in
/-- Without a status, an object of a good set has no dictionary entry. -/
theorem not_mem_of_status_lookup (h : set.Good) {object : ω}
    (hnone : set.status (set.lookup object) = none) :
    ∀ p ∈ set.objectIDsToStatus, p.1 ≠ object := by
  intro p hp hkey
  obtain ⟨st, hst, -⟩ := set.lookup_spec h hp
  rw [hkey, hnone] at hst
  cases hst

theorem addPossibleObjectToSynchronize_good (h : set.Good) (object : ω) :
    (set.addPossibleObjectToSynchronize store object).Good ∧
      set.Extends (set.addPossibleObjectToSynchronize store object) := by
  unfold addPossibleObjectToSynchronize
  split
  · split
    · exact ⟨set.removeObject_good h object, Extends.of_statuses _ rfl⟩
    · exact ⟨h, Extends.refl _⟩
  · rename_i hnone
    have hfree := set.not_mem_of_status_lookup h hnone
    dsimp only
    split
    · exact ⟨h, Extends.refl _⟩
    · rename_i st hcreate
      have hobj := ZMLocallyModifiedObjectSyncStatus.create_object store hcreate
      refine ⟨⟨?_, ?_, ?_⟩, ?_⟩
      · intro p hp
        rcases List.mem_append.mp hp with hp | hp
        · obtain ⟨st₀, h₀, hobj₀⟩ := h.entries p hp
          have hne : p.2 ≠ set.nextStatus := (h.lt_nextStatus h₀).ne
          exact ⟨st₀, by simp [hne, h₀], hobj₀⟩
        · simp only [List.mem_singleton] at hp
          subst hp
          exact ⟨st, by simp, hobj⟩
      · simp only [List.map_append, List.map_cons, List.map_nil]
        refine List.Nodup.append h.keys_nodup (by simp) ?_
        simp only [List.disjoint_singleton, List.mem_map, not_exists, not_and]
        exact hfree
      · intro i hi
        have hne : i ≠ set.nextStatus := by simp at hi; omega
        simp only [Function.update_of_ne hne]
        exact h.fresh i (by simp at hi; omega)
      · intro i st₀ hi
        have hne : i ≠ set.nextStatus := (h.lt_nextStatus hi).ne
        exact ⟨st₀, by simp [hne, hi], rfl⟩

/-- `anyObjectToSynchronize` leaves the heap alone. -/
theorem anyObjectToSynchronizeLoop_statuses (l : List (ω × Nat)) :
    ∀ set : ZMLocallyModifiedObjectSet ω κ,
      (anyObjectToSynchronizeLoop store l set).1.statuses = set.statuses ∧
        (anyObjectToSynchronizeLoop store l set).1.nextStatus = set.nextStatus := by
  induction l with
  | nil => intro set; simp [anyObjectToSynchronizeLoop]
  | cons p rest ih =>
      intro set
      obtain ⟨o, ref⟩ := p
      simp only [anyObjectToSynchronizeLoop]
      split
      · exact ih set
      · split
        · simp
        · split
          · simpa using ih (set.removeObject _)
          · exact ih set

theorem anyObjectToSynchronizeLoop_good (l : List (ω × Nat)) :
    ∀ set : ZMLocallyModifiedObjectSet ω κ, set.Good →
      (anyObjectToSynchronizeLoop store l set).1.Good := by
  induction l with
  | nil => intro set h; exact h
  | cons p rest ih =>
      intro set h
      obtain ⟨o, ref⟩ := p
      simp only [anyObjectToSynchronizeLoop]
      split
      · exact ih set h
      · split
        · exact h
        · split
          · exact ih _ (set.removeObject_good h _)
          · exact ih set h

/-- The object `anyObjectToSynchronize` returns still has its entry, as long
as the loop runs over entries of the dictionary with distinct keys: only
done statuses met before it lose theirs. -/
theorem anyObjectToSynchronizeLoop_mem (l : List (ω × Nat)) :
    ∀ set : ZMLocallyModifiedObjectSet ω κ, set.Good →
      (∀ p ∈ l, p ∈ set.objectIDsToStatus) → (l.map Prod.fst).Nodup →
      ∀ x, (anyObjectToSynchronizeLoop store l set).2 = some x →
        ∃ p ∈ (anyObjectToSynchronizeLoop store l set).1.objectIDsToStatus, p.1 = x.object := by
  induction l with
  | nil => intro set _ _ _ x hx; simp [anyObjectToSynchronizeLoop] at hx
  | cons p rest ih =>
      intro set h hsub hnodup x hx
      obtain ⟨o, ref⟩ := p
      have hrest : ∀ q ∈ rest, q ∈ set.objectIDsToStatus :=
        fun q hq => hsub q (List.mem_cons_of_mem _ hq)
      have hnodup' : (rest.map Prod.fst).Nodup := (List.nodup_cons.mp hnodup).2
      simp only [anyObjectToSynchronizeLoop] at hx ⊢
      cases hst : set.statuses ref with
      | none =>
          simp only [hst] at hx ⊢
          exact ih set h hrest hnodup' x hx
      | some st =>
          have hobj : st.object = o := by
            obtain ⟨st, h₀, hobj⟩ := h.entries (o, ref) (hsub _ List.mem_cons_self)
            rw [hst] at h₀
            cases h₀
            exact hobj
          simp only [hst] at hx ⊢
          by_cases hkeys : st.keysToSynchronize store ≠ ∅
          · rw [if_pos hkeys] at hx ⊢
            cases hx
            exact ⟨(o, ref), hsub _ List.mem_cons_self, hobj.symm⟩
          · rw [if_neg hkeys] at hx ⊢
            by_cases hdone : st.isDone store
            · rw [if_pos hdone] at hx ⊢
              -- The removed key is the head's, which no later entry shares.
              have hkeep : ∀ q ∈ rest, q ∈ (set.removeObject st.object).objectIDsToStatus := by
                intro q hq
                refine List.mem_filter.mpr ⟨hrest q hq, ?_⟩
                have hne : q.1 ≠ o := by
                  intro hqo
                  have : o ∈ rest.map Prod.fst := List.mem_map.mpr ⟨q, hq, hqo⟩
                  exact (List.nodup_cons.mp hnodup).1 this
                simpa [hobj] using hne
              exact ih _ (set.removeObject_good h _) hkeep hnodup' x hx
            · rw [if_neg hdone] at hx ⊢
              exact ih set h hrest hnodup' x hx

/-- When the first status of the enumeration has keys to synchronize,
`anyObjectToSynchronize` returns it and changes nothing. -/
theorem anyObjectToSynchronize_of_head {o : ω} {ref : Nat} {rest : List (ω × Nat)}
    {st : ZMLocallyModifiedObjectSyncStatus ω κ} (hlist : set.objectIDsToStatus = (o, ref) :: rest)
    (hst : set.statuses ref = some st) (hkeys : st.keysToSynchronize store ≠ ∅) :
    set.anyObjectToSynchronize store = (set, some ⟨st.object, st.keysToSynchronize store⟩) := by
  rw [anyObjectToSynchronize, hlist, anyObjectToSynchronizeLoop, hst]
  exact if_pos hkeys

theorem anyObjectToSynchronize_spec (h : set.Good) :
    (set.anyObjectToSynchronize store).1.Good ∧
      set.Extends (set.anyObjectToSynchronize store).1 ∧
      (set.anyObjectToSynchronize store).1.nextStatus = set.nextStatus ∧
      ∀ x, (set.anyObjectToSynchronize store).2 = some x →
        ∃ p ∈ (set.anyObjectToSynchronize store).1.objectIDsToStatus, p.1 = x.object := by
  obtain ⟨hstatuses, hnext⟩ := anyObjectToSynchronizeLoop_statuses store set.objectIDsToStatus set
  exact ⟨anyObjectToSynchronizeLoop_good store _ set h, Extends.of_statuses _ hstatuses, hnext,
    anyObjectToSynchronizeLoop_mem store _ set h (fun _ hp => hp) h.keys_nodup⟩

/-! ### Tokens -/

/-- A token of a request in flight for `object` with `keys`: it points at a
status of the object and carries the values of exactly those keys. -/
def TokenRefers (token : ZMModifiedObjectSyncToken ω κ ν) (object : ω) (keys : Finset κ) :
    Prop :=
  ∃ st t, set.status token.objectSyncStatus = some st ∧ st.object = object ∧
    token.syncToken = some t ∧ t.object = object ∧ t.keys = keys ∧
    token.keysToSynchronize = keys

omit [DecidableEq ω] [DecidableEq κ] in
theorem TokenRefers.mono {set' : ZMLocallyModifiedObjectSet ω κ}
    {token : ZMModifiedObjectSyncToken ω κ ν} {object : ω} {keys : Finset κ}
    (h : set.TokenRefers token object keys) (hext : set.Extends set') :
    set'.TokenRefers token object keys := by
  obtain ⟨st, t, hst, hobj, ht, htobj, hkeys, hkts⟩ := h
  obtain ⟨i, hi, hsti⟩ : ∃ i, token.objectSyncStatus = some i ∧ set.statuses i = some st := by
    cases href : token.objectSyncStatus with
    | none => simp [status, href] at hst
    | some i => exact ⟨i, rfl, by simpa [status, href] using hst⟩
  obtain ⟨st', hst', hobj'⟩ := hext i st hsti
  exact ⟨st', t, by simp [status, hi, hst'], hobj'.trans hobj, ht, htobj, hkeys, hkts⟩

theorem didStartSynchronizingKeys_spec (h : set.Good) (keys : Finset κ)
    (object : ZMObjectWithKeys ω κ) (hmem : ∃ p ∈ set.objectIDsToStatus, p.1 = object.object) :
    (set.didStartSynchronizingKeys store keys object).1.Good ∧
      set.Extends (set.didStartSynchronizingKeys store keys object).1 ∧
      (set.didStartSynchronizingKeys store keys object).1.nextStatus = set.nextStatus ∧
      (set.didStartSynchronizingKeys store keys object).1.TokenRefers
        (set.didStartSynchronizingKeys store keys object).2 object.object keys := by
  obtain ⟨p, hp, hkey⟩ := hmem
  obtain ⟨st, hst, hobj⟩ := set.lookup_spec h hp
  rw [hkey] at hst hobj
  have hobj' : (st.startSynchronizingKeys store keys).1.object = st.object := rfl
  have hext := set.writeStatus_extends hst hobj'
  obtain ⟨i, hi, -, heq⟩ := set.writeStatus_spec (st.startSynchronizingKeys store keys).1 hst
  simp only [didStartSynchronizingKeys, hst]
  refine ⟨set.writeStatus_good h hst hobj', hext, by simp, ?_⟩
  exact ⟨(st.startSynchronizingKeys store keys).1, _, by simp [status, hi, writeStatus], hobj,
    rfl, hobj, rfl, rfl⟩

omit [DecidableEq ω] [DecidableEq κ] in
/-- The token-consuming operations rewrite the token's status with one for
the same object; this is the shape they share. -/
theorem writeStatus_token_good {token : ZMModifiedObjectSyncToken ω κ ν} {object : ω}
    {keys : Finset κ} (h : set.Good) (href : set.TokenRefers token object keys)
    {st : ZMLocallyModifiedObjectSyncStatus ω κ} (st' : ZMLocallyModifiedObjectSyncStatus ω κ)
    (hst : set.status token.objectSyncStatus = some st) (hobj : st'.object = st.object) :
    (set.writeStatus token.objectSyncStatus st').Good ∧
      set.Extends (set.writeStatus token.objectSyncStatus st') ∧
      (set.writeStatus token.objectSyncStatus st').TokenRefers token object keys := by
  have hext := set.writeStatus_extends hst hobj
  exact ⟨set.writeStatus_good h hst hobj, hext, href.mono _ hext⟩

omit [DecidableEq ω] in
theorem keysToParseAfterSyncingToken_spec [DecidableEq ν] {token : ZMModifiedObjectSyncToken ω κ ν}
    {object : ω} {keys : Finset κ} (h : set.Good) (href : set.TokenRefers token object keys) :
    (set.keysToParseAfterSyncingToken store token).1.Good ∧
      set.Extends (set.keysToParseAfterSyncingToken store token).1 ∧
      (set.keysToParseAfterSyncingToken store token).1.nextStatus = set.nextStatus ∧
      (set.keysToParseAfterSyncingToken store token).1.TokenRefers token object keys := by
  obtain ⟨st, t, hst, -, ht, -⟩ := id href
  obtain ⟨hgood, hext, href'⟩ := set.writeStatus_token_good h href
    (st.returnChangedKeysAndFinishTokenSync store t).1 hst rfl
  simp only [keysToParseAfterSyncingToken, hst, ht]
  exact ⟨hgood, hext, by simp, href'⟩

omit [DecidableEq ω] in
theorem didNotFinishToSynchronizeToken_spec [DecidableEq ν]
    {token : ZMModifiedObjectSyncToken ω κ ν} {object : ω} {keys : Finset κ} (h : set.Good)
    (href : set.TokenRefers token object keys) :
    (set.didNotFinishToSynchronizeToken store token).Good ∧
      set.Extends (set.didNotFinishToSynchronizeToken store token) ∧
      (set.didNotFinishToSynchronizeToken store token).nextStatus = set.nextStatus := by
  obtain ⟨st, t, hst, -, ht, -⟩ := id href
  obtain ⟨hgood, hext, -⟩ := set.writeStatus_token_good h href
    (st.returnChangedKeysAndFinishTokenSync store t).1 hst rfl
  simp only [didNotFinishToSynchronizeToken, hst, ht]
  exact ⟨hgood, hext, by simp⟩

/-- A failed (or finished) token resets exactly its keys on its object. -/
theorem didFailToSynchronizeToken_spec {token : ZMModifiedObjectSyncToken ω κ ν}
    {object : ω} {keys : Finset κ} (h : set.Good) (href : set.TokenRefers token object keys) :
    (set.didFailToSynchronizeToken store token).1.Good ∧
      set.Extends (set.didFailToSynchronizeToken store token).1 ∧
      (set.didFailToSynchronizeToken store token).1.nextStatus = set.nextStatus ∧
      (set.didFailToSynchronizeToken store token).2 =
        Function.update store object ((store object).resetLocallyModifiedKeys keys) := by
  obtain ⟨st, t, hst, hobj, ht, htobj, hkeys, -⟩ := id href
  obtain ⟨hgood, hext, -⟩ := set.writeStatus_token_good h href
    (st.resetLocallyModifiedKeysForToken store t).1 hst rfl
  simp only [didFailToSynchronizeToken, hst, ht, removeObjectSyncStatusIfDone]
  split
  · exact ⟨removeObject_good _ hgood _, hext.trans _ (Extends.of_statuses _ rfl), by simp,
      by simp [ZMLocallyModifiedObjectSyncStatus.resetLocallyModifiedKeysForToken, hobj, hkeys]⟩
  · exact ⟨hgood, hext, by simp,
      by simp [ZMLocallyModifiedObjectSyncStatus.resetLocallyModifiedKeysForToken, hobj, hkeys]⟩

end ZMLocallyModifiedObjectSet

end ZMessaging
