import ZMessaging.LocallyModifiedObjectSet
import ZMessaging.DependentObjects
import ZMessaging.TransportResponse
import Mathlib.Data.Finset.Card
import Mathlib.Data.Finset.Sort

/-!
# `ZMUpstreamInsertedObjectSync`: uploading inserted objects

`ZMLocallyInsertedObjectSet` keeps the objects waiting to be inserted
upstream and, among them, those whose insert request is in flight
(`currentlySynchronizedObjects`).  The sync adds objects that match its
insert predicate and filter, parks objects with a dependency like the
modified-object sync, and remembers in `ignoredObjects` the objects that
stopped matching while their request was in flight, so that their response
is dropped.  `nextObjectToSync` loops over `anyObjectToSynchronize`,
finishing every object that no longer matches the predicate or is a zombie,
until it meets one that still matches.

`anyObject` of an `NSSet` may return any element, so the model takes it as a
parameter that only promises to return an element of a non-empty set.  The
`RequireString` checks of `didStartSynchronizingObject:` and
`didFailSynchronizingObject:` stop the process; the model returns their
message as an error and the run records it.

The main result (`upstreamInsertedObjectSync_safe`): in every reachable
state, `currentlySynchronizedObjects` is the set of objects with an insert
request in flight and no object has two, `ignoredObjects` is a part of it,
no `RequireString` has failed, and `nextObjectToSync` (total, since every
round removes an object) removes only objects that no longer match the
predicate or are zombies.
-/

namespace ZMessaging

open StepSystem

/-- `anyObject` of an `NSSet`: some element of a non-empty set and `nil` for
the empty one; which element is left open. -/
structure AnyObject (ω : Type*) where
  pick : Finset ω → Option ω
  pick_mem : ∀ s x, pick s = some x → x ∈ s
  pick_eq_none : ∀ s, pick s = none → s = ∅

variable {ω κ ν : Type*} [DecidableEq ω] [DecidableEq κ]

/-- `ZMLocallyInsertedObjectSet`. -/
structure ZMLocallyInsertedObjectSet (ω : Type*) where
  insertedObjects : Finset ω
  currentlySynchronizedObjects : Finset ω

namespace ZMLocallyInsertedObjectSet

variable (set : ZMLocallyInsertedObjectSet ω)

/-- `init`. -/
def init : ZMLocallyInsertedObjectSet ω := ⟨∅, ∅⟩

/-- `addObjectToSynchronize:`. -/
def addObjectToSynchronize (object : ω) : ZMLocallyInsertedObjectSet ω :=
  { set with insertedObjects := insert object set.insertedObjects }

/-- `removeObjectToSynchronize:`. -/
def removeObjectToSynchronize (object : ω) : ZMLocallyInsertedObjectSet ω :=
  { set with insertedObjects := set.insertedObjects.erase object }

/-- `anyObjectToSynchronize`: any inserted object not being synchronized. -/
def anyObjectToSynchronize (anyObject : AnyObject ω) : Option ω :=
  anyObject.pick (set.insertedObjects \ set.currentlySynchronizedObjects)

/-- `didFinishSynchronizingObject:`. -/
def didFinishSynchronizingObject (object : ω) : ZMLocallyInsertedObjectSet ω :=
  { currentlySynchronizedObjects := set.currentlySynchronizedObjects.erase object,
    insertedObjects := set.insertedObjects.erase object }

/-- `didStartSynchronizingObject:`, with its `RequireString`. -/
def didStartSynchronizingObject (object : ω) : Except String (ZMLocallyInsertedObjectSet ω) :=
  if object ∈ set.insertedObjects then
    .ok { set with currentlySynchronizedObjects := insert object set.currentlySynchronizedObjects }
  else .error "Synced object was never added"

/-- `didFailSynchronizingObject:`, with its `RequireString`. -/
def didFailSynchronizingObject (object : ω) : Except String (ZMLocallyInsertedObjectSet ω) :=
  if object ∈ set.currentlySynchronizedObjects then
    .ok { set with currentlySynchronizedObjects := set.currentlySynchronizedObjects.erase object }
  else .error "Finished to sync object that was never started"

/-- `isSynchronizingObject:`. -/
def isSynchronizingObject (object : ω) : Bool := object ∈ set.currentlySynchronizedObjects

/-- `count`. -/
def count : Nat := set.insertedObjects.card

omit [DecidableEq ω] in
@[simp] theorem addObjectToSynchronize_currentlySynchronizedObjects [DecidableEq ω] (object : ω) :
    (set.addObjectToSynchronize object).currentlySynchronizedObjects =
      set.currentlySynchronizedObjects := rfl

@[simp] theorem removeObjectToSynchronize_currentlySynchronizedObjects (object : ω) :
    (set.removeObjectToSynchronize object).currentlySynchronizedObjects =
      set.currentlySynchronizedObjects := rfl

@[simp] theorem didFinishSynchronizingObject_currentlySynchronizedObjects (object : ω) :
    (set.didFinishSynchronizingObject object).currentlySynchronizedObjects =
      set.currentlySynchronizedObjects.erase object := rfl

@[simp] theorem didFinishSynchronizingObject_insertedObjects (object : ω) :
    (set.didFinishSynchronizingObject object).insertedObjects = set.insertedObjects.erase object :=
  rfl

theorem didStartSynchronizingObject_of_mem {object : ω} (h : object ∈ set.insertedObjects) :
    set.didStartSynchronizingObject object =
      .ok { set with
        currentlySynchronizedObjects := insert object set.currentlySynchronizedObjects } :=
  if_pos h

theorem didFailSynchronizingObject_of_mem {object : ω}
    (h : object ∈ set.currentlySynchronizedObjects) :
    set.didFailSynchronizingObject object =
      .ok { set with
        currentlySynchronizedObjects := set.currentlySynchronizedObjects.erase object } :=
  if_pos h

end ZMLocallyInsertedObjectSet

/-- What an inserted-object sync is configured with. -/
structure ZMUpstreamInsertedObjectSyncConfig (ω κ ν : Type*) where
  isTrackedEntity : ω → Bool
  /-- `predicateForObjectsThatNeedToBeInsertedUpstream`. -/
  insertPredicate : ManagedObject κ ν → Bool
  filter : Option (ManagedObject κ ν → Bool)
  anyObject : AnyObject ω

/-- The state of a `ZMUpstreamInsertedObjectSync` together with the objects of
its context and the ones deleted from it. -/
structure ZMUpstreamInsertedObjectSync (ω κ ν : Type*) where
  context : ObjectStore ω κ ν
  deletedObjects : Finset ω
  insertedObjects : ZMLocallyInsertedObjectSet ω
  insertedObjectsWithDependencies : Option (ZMDependentObjects ω)
  ignoredObjects : Finset ω

namespace ZMUpstreamInsertedObjectSync

variable (cfg : ZMUpstreamInsertedObjectSyncConfig ω κ ν)

/-- `initWithTranscoder:entityName:filter:managedObjectContext:`. -/
def init (context : ObjectStore ω κ ν) (transcoderHasDependencies : Bool) :
    ZMUpstreamInsertedObjectSync ω κ ν :=
  { context, deletedObjects := ∅, insertedObjects := .init,
    insertedObjectsWithDependencies := if transcoderHasDependencies then some .init else none,
    ignoredObjects := ∅ }

variable (s : ZMUpstreamInsertedObjectSync ω κ ν) (dependencyOf : ω → Option ω)

/-- `isZombieObject`: the object was deleted from its context. -/
def isZombieObject (object : ω) : Bool := object ∈ s.deletedObjects

/-- `shouldAddInsertedObject:`. -/
def shouldAddInsertedObject (object : ω) : Bool :=
  match cfg.filter with
  | none => true
  | some filter => filter (s.context object)

/-- `addInsertedObject:`: `false` when the object was parked under a
dependency instead. -/
def addInsertedObject (mo : ω) : ZMUpstreamInsertedObjectSync ω κ ν × Bool :=
  match s.insertedObjectsWithDependencies, dependencyOf mo with
  | some deps, some dependency =>
      ({ s with insertedObjectsWithDependencies := some (deps.addManagedObject mo dependency) },
       false)
  | _, _ => ({ s with insertedObjects := s.insertedObjects.addObjectToSynchronize mo }, true)

/-- `addTrackedObjects:`. -/
def addTrackedObjects (objects : List ω) : ZMUpstreamInsertedObjectSync ω κ ν :=
  objects.foldl (fun s mo =>
    if s.shouldAddInsertedObject cfg mo then (s.addInsertedObject dependencyOf mo).1 else s) s

/-- `[self.insertedObjects addObjectToSynchronize:mo]`, the block's action for
a dependant without dependency. -/
def addObjectToSynchronize (mo : ω) : ZMUpstreamInsertedObjectSync ω κ ν :=
  { s with insertedObjects := s.insertedObjects.addObjectToSynchronize mo }

/-- `checkForUpdatedDependency:`. -/
def checkForUpdatedDependency (existingDependency : ω) : ZMUpstreamInsertedObjectSync ω κ ν :=
  match s.insertedObjectsWithDependencies with
  | none => s
  | some deps =>
      let checked := deps.checkForUpdatedDependency
        (fun s mo => s.addObjectToSynchronize mo) dependencyOf existingDependency s
      { checked.2 with insertedObjectsWithDependencies := some checked.1 }

/-- One object of `objectsDidChange:` before its dependants are re-examined:
an object of the tracked entity is added when it matches, and otherwise
removed and, if its request is in flight, ignored. -/
def objectDidChange (obj : ω) : ZMUpstreamInsertedObjectSync ω κ ν :=
  if cfg.isTrackedEntity obj then
    if cfg.insertPredicate (s.context obj) && s.shouldAddInsertedObject cfg obj then
      let added := (s.addInsertedObject dependencyOf obj).1
      { added with ignoredObjects := added.ignoredObjects.erase obj }
    else
      let removed := { s with insertedObjects := s.insertedObjects.removeObjectToSynchronize obj }
      if removed.insertedObjects.isSynchronizingObject obj then
        { removed with ignoredObjects := insert obj removed.ignoredObjects }
      else removed
  else s

/-- `objectsDidChange:`. -/
def objectsDidChange (objects : List ω) : ZMUpstreamInsertedObjectSync ω κ ν :=
  objects.foldl (fun s obj =>
    (s.objectDidChange cfg dependencyOf obj).checkForUpdatedDependency dependencyOf obj) s

/-- An object that may be inserted now: it matches the predicate and is no
zombie. -/
def stillMatches (object : ω) : Bool :=
  cfg.insertPredicate (s.context object) && !s.isZombieObject object

/-- `nextObjectToSync`: objects that no longer match are finished until one
matches.  Every round removes its object from `insertedObjects`. -/
def nextObjectToSync (s : ZMUpstreamInsertedObjectSync ω κ ν) :
    ZMUpstreamInsertedObjectSync ω κ ν × Option ω :=
  match _found : s.insertedObjects.anyObjectToSynchronize cfg.anyObject with
  | none => (s, none)
  | some nextObject =>
      if s.stillMatches cfg nextObject then (s, some nextObject)
      else nextObjectToSync
        { s with insertedObjects := s.insertedObjects.didFinishSynchronizingObject nextObject }
termination_by s.insertedObjects.insertedObjects.card
decreasing_by
  have member : nextObject ∈ s.insertedObjects.insertedObjects := by
    have := cfg.anyObject.pick_mem _ _ _found
    exact (Finset.mem_sdiff.mp this).1
  exact Finset.card_erase_lt_of_mem member

/-- `processNextInsert`: `shouldCreateRequest` is the transcoder's
`shouldCreateRequestToSyncObject:` (`YES` when not implemented) and
`requestCreated` whether `requestForInsertingObject:forKeys:` returns a
request. -/
def processNextInsert (shouldCreateRequest requestCreated : Bool) :
    Except String (ZMUpstreamInsertedObjectSync ω κ ν × Option ω) :=
  let next := s.nextObjectToSync cfg
  match next.2 with
  | none => .ok (next.1, none)
  | some nextObject =>
      let s := next.1
      if !shouldCreateRequest then .ok (s, none)
      else if !requestCreated then
        let o := s.context nextObject
        .ok ({ s with insertedObjects := s.insertedObjects.didFinishSynchronizingObject nextObject,
                      context := Function.update s.context nextObject
                        (o.resetLocallyModifiedKeys o.keysThatHaveLocalModifications) }, none)
      else
        match s.insertedObjects.didStartSynchronizingObject nextObject with
        | .error message => .error message
        | .ok insertedObjects => .ok ({ s with insertedObjects }, some nextObject)

/-- The branches of the completion handler: the state after them and
`didFinish`.  A temporary error takes none of the branches. -/
def completionBranch (nextObject : ω) (result : ZMTransportResponseStatus)
    (shouldResyncObject : Bool) : ZMUpstreamInsertedObjectSync ω κ ν × Bool :=
  if nextObject ∈ s.ignoredObjects then
    ({ s with ignoredObjects := s.ignoredObjects.erase nextObject }, true)
  else
    match result with
    | .success => (s, true)
    | .permanentError =>
        if shouldResyncObject then
          let added := s.addInsertedObject dependencyOf nextObject
          (added.1, !added.2)
        else ({ s with deletedObjects := insert nextObject s.deletedObjects }, true)
    | .tryAgainLater => (s, false)
    | .expired => (s, true)
    | .temporaryError => (s, true)

/-- The completion handler `processNextInsert` attaches to its request;
`shouldResyncObject` is `shouldRetryToSyncAfterFailedToUpdateObject:...`
(`NO` when not implemented). -/
def completionHandler (nextObject : ω) (result : ZMTransportResponseStatus)
    (shouldResyncObject : Bool) : Except String (ZMUpstreamInsertedObjectSync ω κ ν) :=
  let branch := s.completionBranch dependencyOf nextObject result shouldResyncObject
  let s := branch.1
  if branch.2 then
    .ok { s with insertedObjects := s.insertedObjects.didFinishSynchronizingObject nextObject }
  else
    match s.insertedObjects.didFailSynchronizingObject nextObject with
    | .error message => .error message
    | .ok insertedObjects => .ok { s with insertedObjects }

/-! ### What each operation leaves alone -/

/-- The requests in flight and the ignored objects, which no operation but
starting and completing a request changes. -/
def Flight (s' : ZMUpstreamInsertedObjectSync ω κ ν) : Prop :=
  s'.insertedObjects.currentlySynchronizedObjects = s.insertedObjects.currentlySynchronizedObjects ∧
    s'.ignoredObjects = s.ignoredObjects

omit [DecidableEq ω] [DecidableEq κ] in
theorem Flight.refl : s.Flight s := ⟨rfl, rfl⟩

omit [DecidableEq ω] [DecidableEq κ] in
theorem Flight.trans {s' s'' : ZMUpstreamInsertedObjectSync ω κ ν} (h : s.Flight s')
    (h' : s'.Flight s'') : s.Flight s'' :=
  ⟨h'.1.trans h.1, h'.2.trans h.2⟩

omit [DecidableEq κ] in
theorem addInsertedObject_flight (mo : ω) : s.Flight (s.addInsertedObject dependencyOf mo).1 := by
  unfold addInsertedObject
  split <;> exact ⟨rfl, rfl⟩

omit [DecidableEq κ] in
theorem addTrackedObjects_flight (objects : List ω) :
    s.Flight (s.addTrackedObjects cfg dependencyOf objects) := by
  unfold addTrackedObjects
  rw [foldl_eq_run]
  refine run_invariant (fun s' => s.Flight s') ?_ objects (Flight.refl s)
  intro s' mo hs'
  split
  · exact hs'.trans _ (s'.addInsertedObject_flight dependencyOf mo)
  · exact hs'

omit [DecidableEq κ] in
theorem checkForUpdatedDependency_flight (existingDependency : ω) :
    s.Flight (s.checkForUpdatedDependency dependencyOf existingDependency) := by
  unfold checkForUpdatedDependency
  split
  · exact Flight.refl s
  · rename_i deps _
    exact deps.checkForUpdatedDependency_invariant (fun s mo => s.addObjectToSynchronize mo)
      dependencyOf (fun s' => s.Flight s') (fun s' _ hs' => hs'.trans _ ⟨rfl, rfl⟩)
      existingDependency (Flight.refl s)

omit [DecidableEq κ] in
/-- A changed object touches the ignored objects only through itself: it is
dropped from them, or added while its request is in flight. -/
theorem objectDidChange_ignoredObjects (obj : ω) :
    (s.objectDidChange cfg dependencyOf obj).insertedObjects.currentlySynchronizedObjects =
        s.insertedObjects.currentlySynchronizedObjects ∧
      ((s.objectDidChange cfg dependencyOf obj).ignoredObjects = s.ignoredObjects.erase obj ∨
        (s.objectDidChange cfg dependencyOf obj).ignoredObjects = s.ignoredObjects ∨
        (obj ∈ s.insertedObjects.currentlySynchronizedObjects ∧
          (s.objectDidChange cfg dependencyOf obj).ignoredObjects =
            insert obj s.ignoredObjects)) := by
  have hadd := s.addInsertedObject_flight dependencyOf obj
  unfold objectDidChange
  dsimp only
  split
  · split
    · exact ⟨hadd.1, Or.inl (by rw [hadd.2])⟩
    · split
      · rename_i hsync
        exact ⟨rfl, Or.inr (Or.inr ⟨of_decide_eq_true hsync, rfl⟩)⟩
      · exact ⟨rfl, Or.inr (Or.inl rfl)⟩
  · exact ⟨rfl, Or.inr (Or.inl rfl)⟩

omit [DecidableEq κ] in
/-- `objectsDidChange:` leaves the requests in flight alone and keeps the
ignored objects among them. -/
theorem objectsDidChange_ignored_subset (objects : List ω)
    (h : s.ignoredObjects ⊆ s.insertedObjects.currentlySynchronizedObjects) :
    (s.objectsDidChange cfg dependencyOf objects).insertedObjects.currentlySynchronizedObjects =
        s.insertedObjects.currentlySynchronizedObjects ∧
      (s.objectsDidChange cfg dependencyOf objects).ignoredObjects ⊆
        s.insertedObjects.currentlySynchronizedObjects := by
  unfold objectsDidChange
  rw [foldl_eq_run]
  refine run_invariant (fun s' : ZMUpstreamInsertedObjectSync ω κ ν =>
      s'.insertedObjects.currentlySynchronizedObjects =
        s.insertedObjects.currentlySynchronizedObjects ∧
      s'.ignoredObjects ⊆ s.insertedObjects.currentlySynchronizedObjects) ?_ objects ⟨rfl, h⟩
  intro s' obj ⟨hcur, hign⟩
  obtain ⟨hcur', hign'⟩ := s'.objectDidChange_ignoredObjects cfg dependencyOf obj
  have hcheck := (s'.objectDidChange cfg dependencyOf obj).checkForUpdatedDependency_flight
    dependencyOf obj
  refine ⟨hcheck.1.trans (hcur'.trans hcur), ?_⟩
  rw [hcheck.2]
  rcases hign' with heq | heq | ⟨hmem, heq⟩
  · rw [heq]
    exact (Finset.erase_subset _ _).trans hign
  · rw [heq]
    exact hign
  · rw [heq, ← hcur]
    exact Finset.insert_subset hmem (hcur ▸ hign)

/-! ### `nextObjectToSync` -/

omit [DecidableEq κ] in
/-- **`nextObjectToSync`.**  It leaves the requests in flight, the ignored
objects and the context alone; it removes from `insertedObjects` only
objects that no longer match or are zombies; and what it returns is an
inserted object not being synchronized that still matches. -/
theorem nextObjectToSync_spec :
    s.Flight (s.nextObjectToSync cfg).1 ∧
      (s.nextObjectToSync cfg).1.context = s.context ∧
      (s.nextObjectToSync cfg).1.deletedObjects = s.deletedObjects ∧
      (∀ o ∈ s.insertedObjects.insertedObjects,
        o ∉ (s.nextObjectToSync cfg).1.insertedObjects.insertedObjects →
          s.stillMatches cfg o = false) ∧
      ∀ x, (s.nextObjectToSync cfg).2 = some x →
        x ∈ (s.nextObjectToSync cfg).1.insertedObjects.insertedObjects ∧
        x ∉ (s.nextObjectToSync cfg).1.insertedObjects.currentlySynchronizedObjects ∧
        s.stillMatches cfg x = true := by
  fun_induction nextObjectToSync cfg s with
  | case1 s found =>
      refine ⟨Flight.refl s, rfl, rfl, fun o ho hgone => absurd ho hgone, ?_⟩
      intro x hx
      cases hx
  | case2 s nextObject found hmatch =>
      have hcand := cfg.anyObject.pick_mem _ _ found
      refine ⟨Flight.refl s, rfl, rfl, fun o ho hgone => absurd ho hgone, ?_⟩
      rintro x ⟨⟩
      exact ⟨(Finset.mem_sdiff.mp hcand).1, (Finset.mem_sdiff.mp hcand).2, hmatch⟩
  | case3 s nextObject found hmatch ih =>
      -- The finished object was not being synchronized, so finishing it
      -- leaves the requests in flight alone.
      have hcand := cfg.anyObject.pick_mem _ _ found
      have hnotcur := (Finset.mem_sdiff.mp hcand).2
      obtain ⟨hflight, hctx, hdel, hremoved, hres⟩ := ih
      have hfinish : s.Flight
          { s with insertedObjects := s.insertedObjects.didFinishSynchronizingObject nextObject } :=
        ⟨by simp [Finset.erase_eq_of_notMem hnotcur], rfl⟩
      refine ⟨hfinish.trans _ hflight, hctx, hdel, ?_, hres⟩
      intro o ho hgone
      by_cases hon : o = nextObject
      · subst hon
        simpa using hmatch
      · exact hremoved o (by simp [hon, ho]) hgone

/-- `processNextInsert` never trips the `RequireString` of
`didStartSynchronizingObject:`; a request it creates is for an object not
being synchronized, which now is. -/
theorem processNextInsert_spec (shouldCreateRequest requestCreated : Bool) :
    ∃ s' next, s.processNextInsert cfg shouldCreateRequest requestCreated = .ok (s', next) ∧
      s'.ignoredObjects = s.ignoredObjects ∧
      match next with
      | none => s'.insertedObjects.currentlySynchronizedObjects =
          s.insertedObjects.currentlySynchronizedObjects
      | some object => object ∉ s.insertedObjects.currentlySynchronizedObjects ∧
          s'.insertedObjects.currentlySynchronizedObjects =
            insert object s.insertedObjects.currentlySynchronizedObjects := by
  obtain ⟨⟨hcur, hign⟩, -, -, -, hres⟩ := s.nextObjectToSync_spec cfg
  unfold processNextInsert
  dsimp only
  split
  · exact ⟨_, none, rfl, hign, hcur⟩
  · rename_i nextObject hnext
    obtain ⟨hmem, hnotcur, -⟩ := hres nextObject hnext
    split
    · exact ⟨_, none, rfl, hign, hcur⟩
    · split
      · refine ⟨_, none, rfl, hign, ?_⟩
        simp only
          [ZMLocallyInsertedObjectSet.didFinishSynchronizingObject_currentlySynchronizedObjects]
        rw [Finset.erase_eq_of_notMem hnotcur, hcur]
      · rw [ZMLocallyInsertedObjectSet.didStartSynchronizingObject_of_mem _ hmem]
        exact ⟨_, some nextObject, rfl, hign, hcur ▸ hnotcur, by simp [hcur]⟩

omit [DecidableEq κ] in
/-- The branches of the completion handler leave the requests in flight
alone, drop the object from the ignored ones and touch no other. -/
theorem completionBranch_spec (nextObject : ω) (result : ZMTransportResponseStatus)
    (shouldResyncObject : Bool) :
    (s.completionBranch dependencyOf nextObject result
          shouldResyncObject).1.insertedObjects.currentlySynchronizedObjects =
        s.insertedObjects.currentlySynchronizedObjects ∧
      (s.completionBranch dependencyOf nextObject result shouldResyncObject).1.ignoredObjects ⊆
        s.ignoredObjects.erase nextObject := by
  unfold completionBranch
  split
  · exact ⟨rfl, subset_rfl⟩
  · rename_i hign
    have hkeep : s.ignoredObjects ⊆ s.ignoredObjects.erase nextObject := by
      rw [Finset.erase_eq_of_notMem hign]
    cases result with
    | success => exact ⟨rfl, hkeep⟩
    | permanentError =>
        dsimp only
        split
        · have hadd := s.addInsertedObject_flight dependencyOf nextObject
          exact ⟨hadd.1, hadd.2 ▸ hkeep⟩
        · exact ⟨rfl, hkeep⟩
    | tryAgainLater => exact ⟨rfl, hkeep⟩
    | expired => exact ⟨rfl, hkeep⟩
    | temporaryError => exact ⟨rfl, hkeep⟩

omit [DecidableEq κ] in
/-- The completion of a request whose object is being synchronized never
trips the `RequireString` of `didFailSynchronizingObject:`, and afterwards
the object is no longer being synchronized. -/
theorem completionHandler_spec {nextObject : ω}
    (hcur : nextObject ∈ s.insertedObjects.currentlySynchronizedObjects)
    (result : ZMTransportResponseStatus) (shouldResyncObject : Bool) :
    ∃ s', s.completionHandler dependencyOf nextObject result shouldResyncObject = .ok s' ∧
      s'.insertedObjects.currentlySynchronizedObjects =
        s.insertedObjects.currentlySynchronizedObjects.erase nextObject ∧
      s'.ignoredObjects ⊆ s.ignoredObjects.erase nextObject := by
  obtain ⟨hbcur, hbign⟩ := s.completionBranch_spec dependencyOf nextObject result shouldResyncObject
  unfold completionHandler
  dsimp only
  split
  · exact ⟨_, rfl, by simp [hbcur], hbign⟩
  · rw [ZMLocallyInsertedObjectSet.didFailSynchronizingObject_of_mem _ (hbcur ▸ hcur)]
    exact ⟨_, rfl, by simp [hbcur], hbign⟩

end ZMUpstreamInsertedObjectSync

namespace UpstreamInsertedObjectSync

/-- An insert request in flight: its issue number and its object. -/
structure InFlight (ω : Type*) where
  request : Nat
  object : ω

/-- The sync, the insert requests it has handed out and not yet seen
completed, and the message of a failed `RequireString`, if any. -/
structure World (ω κ ν : Type*) where
  sync : ZMUpstreamInsertedObjectSync ω κ ν
  inFlight : List (InFlight ω)
  issued : Nat
  failure : Option String

/-- What can happen next, with the transcoder's answers. -/
inductive Event (ω κ ν : Type*)
  | localEdit (object : ω) (key : κ) (value : ν)
  | addTrackedObjects (objects : List ω) (dependencyOf : ω → Option ω)
  | objectsDidChange (objects : List ω) (dependencyOf : ω → Option ω)
  | nextRequest (shouldCreateRequest requestCreated : Bool)
  | complete (request : Nat) (result : ZMTransportResponseStatus) (shouldResyncObject : Bool)
      (dependencyOf : ω → Option ω)

variable (cfg : ZMUpstreamInsertedObjectSyncConfig ω κ ν)

/-- A fresh sync with nothing in flight. -/
def World.init (context : ObjectStore ω κ ν) (transcoderHasDependencies : Bool) : World ω κ ν :=
  ⟨ZMUpstreamInsertedObjectSync.init context transcoderHasDependencies, [], 0, none⟩

/-- One event. -/
def World.step (w : World ω κ ν) : Event ω κ ν → World ω κ ν
  | .localEdit object key value =>
      let edited := (w.sync.context object).edit key value
      { w with sync := { w.sync with context := Function.update w.sync.context object edited } }
  | .addTrackedObjects objects dependencyOf =>
      { w with sync := w.sync.addTrackedObjects cfg dependencyOf objects }
  | .objectsDidChange objects dependencyOf =>
      { w with sync := w.sync.objectsDidChange cfg dependencyOf objects }
  | .nextRequest shouldCreateRequest requestCreated =>
      match w.sync.processNextInsert cfg shouldCreateRequest requestCreated with
      | .error message => { w with failure := some message }
      | .ok (sync, none) => { w with sync }
      | .ok (sync, some object) =>
          { w with sync, inFlight := w.inFlight ++ [⟨w.issued, object⟩], issued := w.issued + 1 }
  | .complete request result shouldResyncObject dependencyOf =>
      match w.inFlight.find? (·.request = request) with
      | none => w
      | some r =>
          let inFlight := w.inFlight.filter (·.request ≠ request)
          match w.sync.completionHandler dependencyOf r.object result shouldResyncObject with
          | .error message => { w with failure := some message, inFlight }
          | .ok sync => { w with sync, inFlight }

variable {cfg} {w : World ω κ ν}

/-! ### The invariant -/

/-- The objects being synchronized are exactly those of the requests in
flight, one request each; the ignored objects are among them; issue numbers
are distinct and below the counter; and no `RequireString` has failed. -/
structure Good (w : World ω κ ν) : Prop where
  currentlySynchronized : w.sync.insertedObjects.currentlySynchronizedObjects =
    (w.inFlight.map (·.object)).toFinset
  objects_nodup : (w.inFlight.map (·.object)).Nodup
  ignored_subset : w.sync.ignoredObjects ⊆ w.sync.insertedObjects.currentlySynchronizedObjects
  request_lt : ∀ r ∈ w.inFlight, r.request < w.issued
  requests_nodup : (w.inFlight.map (·.request)).Nodup
  no_failure : w.failure = none

omit [DecidableEq κ] in
theorem Good.init (context : ObjectStore ω κ ν) (transcoderHasDependencies : Bool) :
    Good (World.init context transcoderHasDependencies) where
  currentlySynchronized := rfl
  objects_nodup := List.nodup_nil
  ignored_subset := subset_rfl
  request_lt := by simp [World.init]
  requests_nodup := List.nodup_nil
  no_failure := rfl

omit [DecidableEq κ] in
/-- A step that leaves the requests in flight alone and keeps the ignored
objects among them keeps the invariant. -/
theorem Good.of_flight (h : Good w) {s' : ZMUpstreamInsertedObjectSync ω κ ν}
    (hcur : s'.insertedObjects.currentlySynchronizedObjects =
      w.sync.insertedObjects.currentlySynchronizedObjects)
    (hign : s'.ignoredObjects ⊆ w.sync.insertedObjects.currentlySynchronizedObjects) :
    Good { w with sync := s' } where
  currentlySynchronized := hcur.trans h.currentlySynchronized
  objects_nodup := h.objects_nodup
  ignored_subset := hcur ▸ hign
  request_lt := h.request_lt
  requests_nodup := h.requests_nodup
  no_failure := h.no_failure

theorem Good.nextRequest (h : Good w) (shouldCreateRequest requestCreated : Bool) :
    Good (w.step cfg (.nextRequest shouldCreateRequest requestCreated)) := by
  obtain ⟨s', next, hok, hign, hnext⟩ :=
    w.sync.processNextInsert_spec cfg shouldCreateRequest requestCreated
  simp only [World.step, hok]
  cases next with
  | none => exact h.of_flight hnext (hign ▸ h.ignored_subset)
  | some object =>
      obtain ⟨hnotcur, hcur⟩ := hnext
      have hfresh : object ∉ w.inFlight.map (·.object) := by
        rw [h.currentlySynchronized] at hnotcur
        simpa using hnotcur
      refine ⟨?_, ?_, ?_, ?_, ?_, h.no_failure⟩
      · rw [hcur, h.currentlySynchronized]
        ext x
        simp
      · simpa [List.nodup_append] using And.intro h.objects_nodup hfresh
      · rw [hign, hcur]
        exact h.ignored_subset.trans (Finset.subset_insert _ _)
      · exact keys_lt_issue InFlight.request h.request_lt rfl
      · exact keys_nodup_issue InFlight.request h.request_lt h.requests_nodup rfl

omit [DecidableEq κ] in
/-- Dropping a request drops exactly its object from the objects in flight. -/
theorem Good.objects_filter (h : Good w) {r : InFlight ω} (hr : r ∈ w.inFlight) :
    ((w.inFlight.filter (·.request ≠ r.request)).map (·.object)).toFinset =
      (w.inFlight.map (·.object)).toFinset.erase r.object := by
  ext x
  simp only [List.mem_toFinset, List.mem_map, List.mem_filter, Finset.mem_erase,
    decide_eq_true_eq]
  constructor
  · rintro ⟨r', ⟨hr', hne⟩, rfl⟩
    refine ⟨fun hobj => hne ?_, r', hr', rfl⟩
    rw [List.inj_on_of_nodup_map h.objects_nodup hr' hr hobj]
  · rintro ⟨hne, r', hr', rfl⟩
    refine ⟨r', ⟨hr', fun hreq => hne ?_⟩, rfl⟩
    rw [List.inj_on_of_nodup_map h.requests_nodup hr' hr hreq]

theorem Good.complete (h : Good w) (request : Nat) (result : ZMTransportResponseStatus)
    (shouldResyncObject : Bool) (dependencyOf : ω → Option ω) :
    Good (w.step cfg (.complete request result shouldResyncObject dependencyOf)) := by
  simp only [World.step]
  split
  · exact h
  · rename_i r hfind
    have hr : r ∈ w.inFlight := List.mem_of_find?_eq_some hfind
    have hreq : r.request = request := by simpa using List.find?_some hfind
    subst hreq
    have hcur : r.object ∈ w.sync.insertedObjects.currentlySynchronizedObjects := by
      rw [h.currentlySynchronized]
      simpa using ⟨r, hr, rfl⟩
    obtain ⟨s', hok, hcur', hign'⟩ :=
      w.sync.completionHandler_spec dependencyOf hcur result shouldResyncObject
    simp only [hok]
    refine ⟨?_, (List.filter_sublist.map _).nodup h.objects_nodup, ?_,
      fun r' hr' => h.request_lt r' (List.mem_of_mem_filter hr'),
      (List.filter_sublist.map _).nodup h.requests_nodup, h.no_failure⟩
    · rw [hcur', h.objects_filter hr, h.currentlySynchronized]
    · rw [hcur']
      exact hign'.trans (Finset.erase_subset_erase _ h.ignored_subset)

theorem Good.step [DecidableEq ν] (h : Good w) (e : Event ω κ ν) : Good (w.step cfg e) := by
  cases e with
  | localEdit object key value => exact h.of_flight rfl h.ignored_subset
  | addTrackedObjects objects dependencyOf =>
      obtain ⟨hcur, hign⟩ := w.sync.addTrackedObjects_flight cfg dependencyOf objects
      exact h.of_flight hcur (hign ▸ h.ignored_subset)
  | objectsDidChange objects dependencyOf =>
      obtain ⟨hcur, hign⟩ :=
        w.sync.objectsDidChange_ignored_subset cfg dependencyOf objects h.ignored_subset
      exact h.of_flight hcur hign
  | nextRequest shouldCreateRequest requestCreated =>
      exact h.nextRequest shouldCreateRequest requestCreated
  | complete request result shouldResyncObject dependencyOf =>
      exact h.complete request result shouldResyncObject dependencyOf

/-- The safety of the inserted-object sync, in every reachable state. -/
structure InsertSafe (cfg : ZMUpstreamInsertedObjectSyncConfig ω κ ν) (w : World ω κ ν) :
    Prop where
  /-- (a) the objects being synchronized are those with a request in flight -/
  currentlySynchronized : w.sync.insertedObjects.currentlySynchronizedObjects =
    (w.inFlight.map (·.object)).toFinset
  /-- (a) and each has one request -/
  one_request_each : (w.inFlight.map (·.object)).Nodup
  /-- (b) -/
  ignored_subset : w.sync.ignoredObjects ⊆ w.sync.insertedObjects.currentlySynchronizedObjects
  /-- (c) no `RequireString` has failed -/
  preconditions : w.failure = none
  /-- (d) what `nextObjectToSync` removes no longer matches or is a zombie -/
  nextObjectToSync_removes : ∀ o ∈ w.sync.insertedObjects.insertedObjects,
    o ∉ (w.sync.nextObjectToSync cfg).1.insertedObjects.insertedObjects →
      cfg.insertPredicate (w.sync.context o) = false ∨ w.sync.isZombieObject o = true

/-- **Insert requests stay consistent.**  In every reachable state of the
inserted-object sync (any interleaving of local edits, `addTrackedObjects:`,
`objectsDidChange:` with any dependencies, `nextRequest` with any transcoder
answers, and completions with any response and retry answer), the objects
being synchronized are exactly the objects of the insert requests in flight,
one request each; the ignored objects are among them; no `RequireString`
has failed; and `nextObjectToSync` removes only objects that no longer match
the insert predicate or are zombies. -/
theorem upstreamInsertedObjectSync_safe [DecidableEq ν] {context : ObjectStore ω κ ν}
    {transcoderHasDependencies : Bool}
    (hw : Reachable (World.step cfg) (World.init context transcoderHasDependencies) w) :
    InsertSafe cfg w := by
  have h : Good w :=
    Reachable.induction Good (Good.init context transcoderHasDependencies)
      (fun _ e hs => hs.step e) hw
  obtain ⟨-, -, -, hremoved, -⟩ := w.sync.nextObjectToSync_spec cfg
  refine ⟨h.currentlySynchronized, h.objects_nodup, h.ignored_subset, h.no_failure, ?_⟩
  intro o ho hgone
  have hfails := hremoved o ho hgone
  simp only [ZMUpstreamInsertedObjectSync.stillMatches, Bool.and_eq_false_iff,
    Bool.not_eq_false'] at hfails
  exact hfails

/-! ### A run on concrete objects -/

/-- `anyObject` returning the least element of a set of numbers. -/
def leastObject : AnyObject Nat where
  pick s := (s.sort (· ≤ ·)).head?
  pick_mem s x h := (Finset.mem_sort (· ≤ ·)).mp (List.mem_of_mem_head? h)
  pick_eq_none s h := by
    have hsorted : s.sort (· ≤ ·) = [] := List.head?_eq_none_iff.mp h
    have hlen := Finset.length_sort (· ≤ ·) (s := s)
    rw [hsorted] at hlen
    exact Finset.card_eq_zero.mp hlen.symm

/-- New objects: every value `0`, nothing modified or tracked. -/
def newObjects : ObjectStore Nat Nat Nat := fun _ => ⟨fun _ => 0, ∅, ∅, false⟩

/-- A sync of every object whose key `0` (a remote identifier, say) is
still unset. -/
def exampleInsertConfig : ZMUpstreamInsertedObjectSyncConfig Nat Nat Nat :=
  ⟨fun _ => true, fun o => o.values 0 == 0, none, leastObject⟩

/-- Object `0` changes and its insert request goes out. -/
theorem upstreamInsertedObjectSync_safe_after_insert :
    InsertSafe exampleInsertConfig
      (run (World.step exampleInsertConfig) (World.init newObjects false)
        [.objectsDidChange [0] (fun _ => none), .nextRequest true true]) :=
  upstreamInsertedObjectSync_safe ⟨_, rfl⟩

end UpstreamInsertedObjectSync

end ZMessaging
