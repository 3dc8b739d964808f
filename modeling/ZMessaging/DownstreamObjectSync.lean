import ZMessaging.LocallyModifiedObjectSet
import ZMessaging.DependentObjects
import ZMessaging.TransportResponse

/-!
# `ZMDownstreamObjectSync`: fetching objects the backend has news about

A downstream sync keeps the objects of its entity that match its predicate
(by default `needsToBeUpdatedFromBackend == YES`) in a `ZMSyncOperationSet`:
an ordered set of pending objects (`pendingOperationSet`) and the set of
those whose fetch is in flight (`managedObjectsBeingSynchronized`).
`nextRequest` loops over `nextObjectToSynchronize`, dropping every object
that no longer matches the predicate or for which the transcoder builds no
request, until one gets a request; the object then counts as being
synchronized until its response arrives.  The response takes the object off
the set of objects being synchronized; it leaves the object pending after
`tryAgainLater`, and otherwise removes it, telling the transcoder to update
it (success) or to delete it (any error, temporary ones included).

`ZMDownstreamObjectSyncWithWhitelist` wraps an inner downstream sync that
only ever sees the objects of its whitelist.

The downstream sync starts its syncs with no keys, so every token is empty
and a success always removes the object.  The results:

* `Good.step`: in every reachable state the objects being synchronized are
  those of the fetches in flight, one fetch each, and every object being
  fetched is still pending (`downstreamObjectSync_fetches_consistent`);
* `nextRequestLoop_spec`: the loop never runs out of rounds, removes only
  objects that are not in flight and no longer match or get no request, and
  hands out nothing only when every pending object is in flight;
* `step_dequeues`: an object leaves the pending set only for those reasons
  or because a response other than `tryAgainLater` arrived for it.
-/

namespace ZMessaging

open StepSystem

variable {ω κ ν : Type*} [DecidableEq ω]

/-- `ZMSyncToken`: the values the synchronized keys had when their sync
started, `NSNull` standing for `nil`. -/
structure ZMSyncToken (κ ν : Type*) where
  originalKeyValues : List (κ × ν)

/-- `ZMSyncOperationSet`.  `sortDescriptors` are the entity's
`sortDescriptorsForUpdating`, given as the comparison they sort by.  The
partial updates are left out: only `setRemainingKeys:forObject:` fills
them, and nothing calls it. -/
structure ZMSyncOperationSet (ω : Type*) where
  managedObjectsBeingSynchronized : Finset ω
  pendingOperationSet : List ω
  sortDescriptors : Option (ω → ω → Bool)

namespace ZMSyncOperationSet

variable (set : ZMSyncOperationSet ω)

/-- `init`, with the sort descriptors the sync assigns right after it. -/
def init (sortDescriptors : Option (ω → ω → Bool)) : ZMSyncOperationSet ω :=
  ⟨∅, [], sortDescriptors⟩

/-- `count`. -/
def count : Nat := set.pendingOperationSet.length

/-- `addObjectToBeSynchronized:`. -/
def addObjectToBeSynchronized (mo : ω) : ZMSyncOperationSet ω :=
  { set with pendingOperationSet := orderedSetAdd set.pendingOperationSet mo }

/-- `firstObjectNotInSet:` of an ordered set. -/
def firstObjectNotInSet (objects : List ω) (forbiddenSet : Finset ω) : Option ω :=
  objects.find? (· ∉ forbiddenSet)

/-- `nextObjectToSynchronize`, that is `nextObjectToSynchronizeNotInOperationSet:`
with `nil`: the first pending object, in the order of the sort descriptors
if there are any, that is not being synchronized. -/
def nextObjectToSynchronize : Option ω :=
  match set.sortDescriptors with
  | some sds => firstObjectNotInSet (set.pendingOperationSet.mergeSort sds)
      set.managedObjectsBeingSynchronized
  | none => firstObjectNotInSet set.pendingOperationSet set.managedObjectsBeingSynchronized

/-- `didStartSynchronizingKeys:forObject:`; `keys` enumerates the key set. -/
def didStartSynchronizingKeys (keys : List κ) (mo : ω) (valueForKey : κ → ν) :
    ZMSyncOperationSet ω × ZMSyncToken κ ν :=
  ({ set with managedObjectsBeingSynchronized := insert mo set.managedObjectsBeingSynchronized },
   ⟨keys.map fun key => (key, valueForKey key)⟩)

/-- `keysForWhichToApplyResultsAfterFinishedSynchronizingSyncWithToken:forObject:result:`. -/
def keysForWhichToApplyResultsAfterFinishedSynchronizingSyncWithToken [DecidableEq ν]
    (token : ZMSyncToken κ ν) (mo : ω) (valueForKey : κ → ν) (status : ZMTransportResponseStatus) :
    ZMSyncOperationSet ω × List κ :=
  let set := { set with
    managedObjectsBeingSynchronized := set.managedObjectsBeingSynchronized.erase mo }
  if status = .temporaryError ∨ status = .tryAgainLater then (set, [])
  else if status = .permanentError then (set, token.originalKeyValues.map (·.1))
  else (set, (token.originalKeyValues.filter fun kv => valueForKey kv.1 = kv.2).map (·.1))

/-- `removeUpdatedObject:syncToken:synchronizedKeys:`. -/
def removeUpdatedObject (mo : ω) (token : ZMSyncToken κ ν) (synchronizedKeys : List κ) :
    ZMSyncOperationSet ω :=
  if synchronizedKeys.length = token.originalKeyValues.length then
    { set with pendingOperationSet := set.pendingOperationSet.erase mo }
  else set

/-- `removeObject:`. -/
def removeObject (mo : ω) : ZMSyncOperationSet ω :=
  { set with pendingOperationSet := set.pendingOperationSet.erase mo }

@[simp] theorem addObjectToBeSynchronized_managedObjectsBeingSynchronized (mo : ω) :
    (set.addObjectToBeSynchronized mo).managedObjectsBeingSynchronized =
      set.managedObjectsBeingSynchronized := rfl

@[simp] theorem addObjectToBeSynchronized_pendingOperationSet (mo : ω) :
    (set.addObjectToBeSynchronized mo).pendingOperationSet =
      orderedSetAdd set.pendingOperationSet mo := rfl

@[simp] theorem removeObject_managedObjectsBeingSynchronized (mo : ω) :
    (set.removeObject mo).managedObjectsBeingSynchronized = set.managedObjectsBeingSynchronized :=
  rfl

@[simp] theorem removeObject_pendingOperationSet (mo : ω) :
    (set.removeObject mo).pendingOperationSet = set.pendingOperationSet.erase mo := rfl

@[simp] theorem didStartSynchronizingKeys_managedObjectsBeingSynchronized (keys : List κ) (mo : ω)
    (valueForKey : κ → ν) :
    (set.didStartSynchronizingKeys keys mo valueForKey).1.managedObjectsBeingSynchronized =
      insert mo set.managedObjectsBeingSynchronized := rfl

@[simp] theorem didStartSynchronizingKeys_pendingOperationSet (keys : List κ) (mo : ω)
    (valueForKey : κ → ν) :
    (set.didStartSynchronizingKeys keys mo valueForKey).1.pendingOperationSet =
      set.pendingOperationSet := rfl

/-- What `nextObjectToSynchronize` returns is pending and not being synchronized. -/
theorem nextObjectToSynchronize_mem {x : ω} (h : set.nextObjectToSynchronize = some x) :
    x ∈ set.pendingOperationSet ∧ x ∉ set.managedObjectsBeingSynchronized := by
  unfold nextObjectToSynchronize firstObjectNotInSet at h
  have hfree : x ∉ set.managedObjectsBeingSynchronized := by
    split at h <;> simpa using List.find?_some h
  split at h
  · exact ⟨List.mem_mergeSort.mp (List.mem_of_find?_eq_some h), hfree⟩
  · exact ⟨List.mem_of_find?_eq_some h, hfree⟩

/-- `nextObjectToSynchronize` returns `nil` only when every pending object is
being synchronized. -/
theorem nextObjectToSynchronize_eq_none (h : set.nextObjectToSynchronize = none) :
    ∀ x ∈ set.pendingOperationSet, x ∈ set.managedObjectsBeingSynchronized := by
  intro x hx
  unfold nextObjectToSynchronize firstObjectNotInSet at h
  split at h
  · simpa using List.find?_eq_none.mp h x (List.mem_mergeSort.mpr hx)
  · simpa using List.find?_eq_none.mp h x hx

/-- A sync started with no keys has an empty token. -/
theorem didStartSynchronizingKeys_nil (mo : ω) (valueForKey : κ → ν) :
    (set.didStartSynchronizingKeys [] mo valueForKey).2 = ⟨[]⟩ := rfl

/-- Finishing a sync takes the object off the objects being synchronized, and
an empty token applies no keys, whatever the result. -/
theorem keysForWhichToApplyResultsAfterFinishedSynchronizingSyncWithToken_nil [DecidableEq ν]
    (mo : ω) (valueForKey : κ → ν) (status : ZMTransportResponseStatus) :
    set.keysForWhichToApplyResultsAfterFinishedSynchronizingSyncWithToken ⟨[]⟩ mo valueForKey
        status =
      ({ set with
        managedObjectsBeingSynchronized := set.managedObjectsBeingSynchronized.erase mo }, []) := by
  unfold keysForWhichToApplyResultsAfterFinishedSynchronizingSyncWithToken
  split
  · rfl
  · split <;> rfl

/-- With an empty token, every success removes the object. -/
theorem removeUpdatedObject_nil (mo : ω) :
    set.removeUpdatedObject mo (⟨[]⟩ : ZMSyncToken κ ν) [] = set.removeObject mo := rfl

end ZMSyncOperationSet

/-- The transcoder's side of `processResponse:forObject:token:transcoder:`. -/
inductive ZMDownstreamTranscoderCall (ω : Type*)
  | updateObject (object : ω)
  | deleteObject (object : ω)
  deriving DecidableEq, Repr

/-- What a downstream sync is created with. -/
structure ZMDownstreamObjectSyncConfig (ω κ ν : Type*) where
  /-- `mo.entity == self.entity` -/
  isTrackedEntity : ω → Bool
  predicateForObjectsToDownload : ManagedObject κ ν → Bool
  filter : Option (ManagedObject κ ν → Bool)

namespace ZMDownstreamObjectSyncConfig

variable (cfg : ZMDownstreamObjectSyncConfig ω κ ν)

/-- The predicate of `initWithTranscoder:entityName:managedObjectContext:`,
`needsToBeUpdatedFromBackend == YES`. -/
def needsToBeUpdatedFromBackend (o : ManagedObject κ ν) : Bool := o.needsToBeUpdatedFromBackend

/-- `self.filter == nil || [self.filter evaluateWithObject:mo]`. -/
def passesFilter (o : ManagedObject κ ν) : Bool :=
  match cfg.filter with
  | none => true
  | some filter => filter o

/-- `needsToSyncObject:`. -/
def needsToSyncObject (o : ManagedObject κ ν) : Bool :=
  cfg.predicateForObjectsToDownload o && cfg.passesFilter o

end ZMDownstreamObjectSyncConfig

/-- The state of a `ZMDownstreamObjectSync` together with the objects of its
context. -/
structure ZMDownstreamObjectSync (ω κ ν : Type*) where
  context : ObjectStore ω κ ν
  objectsToDownload : ZMSyncOperationSet ω

namespace ZMDownstreamObjectSync

variable (cfg : ZMDownstreamObjectSyncConfig ω κ ν)

/-- `initWithTranscoder:operationSet:entityName:predicateForObjectsToDownload:filter:managedObjectContext:`
with a fresh operation set. -/
def init (context : ObjectStore ω κ ν) (sortDescriptors : Option (ω → ω → Bool)) :
    ZMDownstreamObjectSync ω κ ν :=
  ⟨context, .init sortDescriptors⟩

variable (s : ZMDownstreamObjectSync ω κ ν)

/-- `addTrackedObjects:`. -/
def addTrackedObjects (objects : List ω) : ZMDownstreamObjectSync ω κ ν :=
  objects.foldl (fun s mo =>
    if cfg.passesFilter (s.context mo) then
      { s with objectsToDownload := s.objectsToDownload.addObjectToBeSynchronized mo }
    else s) s

/-- `objectsDidChange:`. -/
def objectsDidChange (objects : List ω) : ZMDownstreamObjectSync ω κ ν :=
  objects.foldl (fun s mo =>
    if !cfg.isTrackedEntity mo then s
    else if cfg.needsToSyncObject (s.context mo) then
      { s with objectsToDownload := s.objectsToDownload.addObjectToBeSynchronized mo }
    else s) s

/-- The `while` loop of `nextRequest`, for at most `fuel` rounds:
`requestForFetchingObject` says whether the transcoder's
`requestForFetchingObject:downstreamSync:` returns a request.  The request
handed out is named by its object and the token its completion handler
captures. -/
def nextRequestLoop (requestForFetchingObject : ω → Bool) :
    Nat → ZMDownstreamObjectSync ω κ ν → ZMDownstreamObjectSync ω κ ν × Option (ω × ZMSyncToken κ ν)
  | 0, s => (s, none)
  | fuel + 1, s =>
    match s.objectsToDownload.nextObjectToSynchronize with
    | none => (s, none)
    | some nextObject =>
        if !cfg.predicateForObjectsToDownload (s.context nextObject) then
          nextRequestLoop requestForFetchingObject fuel
            { s with objectsToDownload := s.objectsToDownload.removeObject nextObject }
        else if !requestForFetchingObject nextObject then
          nextRequestLoop requestForFetchingObject fuel
            { s with objectsToDownload := s.objectsToDownload.removeObject nextObject }
        else
          let started := s.objectsToDownload.didStartSynchronizingKeys [] nextObject
            (s.context nextObject).values
          ({ s with objectsToDownload := started.1 }, some (nextObject, started.2))

/-- `nextRequest`.  Every round that hands out nothing removes a pending
object, so one round more than there are pending objects is never cut short
(`nextRequest_spec`). -/
def nextRequest (requestForFetchingObject : ω → Bool) :
    ZMDownstreamObjectSync ω κ ν × Option (ω × ZMSyncToken κ ν) :=
  s.nextRequestLoop cfg requestForFetchingObject (s.objectsToDownload.pendingOperationSet.length + 1)

/-- `hasOutstandingItems`. -/
def hasOutstandingItems : Bool := 0 < s.objectsToDownload.count

/-- `processResponse:forObject:token:transcoder:`, with what it asks of the
transcoder.  `isZombieObject` is the object's `isZombieObject`. -/
def processResponse [DecidableEq ν] (response : ZMTransportResponseStatus) (object : ω)
    (token : ZMSyncToken κ ν) (isZombieObject : Bool) :
    ZMDownstreamObjectSync ω κ ν × Option (ZMDownstreamTranscoderCall ω) :=
  let keys := s.objectsToDownload.keysForWhichToApplyResultsAfterFinishedSynchronizingSyncWithToken
    token object (s.context object).values response
  let s := { s with objectsToDownload := keys.1 }
  match response with
  | .tryAgainLater => (s, none)
  | .success =>
      ({ s with objectsToDownload := s.objectsToDownload.removeUpdatedObject object token keys.2 },
       if isZombieObject then none else some (.updateObject object))
  | .temporaryError | .permanentError | .expired =>
      ({ s with objectsToDownload := s.objectsToDownload.removeObject object },
       some (.deleteObject object))

/-! ### Adding objects -/

/-- `s'` has what `s` had pending and more, all of it `admitted`, with the
same context and the same objects being synchronized. -/
structure Adds (s' : ZMDownstreamObjectSync ω κ ν) (admitted : ω → Prop) : Prop where
  context : s'.context = s.context
  beingSynchronized : s'.objectsToDownload.managedObjectsBeingSynchronized =
    s.objectsToDownload.managedObjectsBeingSynchronized
  keeps : ∀ x ∈ s.objectsToDownload.pendingOperationSet, x ∈ s'.objectsToDownload.pendingOperationSet
  admits : ∀ x ∈ s'.objectsToDownload.pendingOperationSet,
    x ∈ s.objectsToDownload.pendingOperationSet ∨ admitted x
  nodup : s.objectsToDownload.pendingOperationSet.Nodup →
    s'.objectsToDownload.pendingOperationSet.Nodup

omit [DecidableEq ω] in
theorem Adds.refl (admitted : ω → Prop) : s.Adds s admitted :=
  ⟨rfl, rfl, fun _ hx => hx, fun _ hx => Or.inl hx, id⟩

theorem Adds.addObjectToBeSynchronized (mo : ω) :
    s.Adds { s with objectsToDownload := s.objectsToDownload.addObjectToBeSynchronized mo }
      (· = mo) where
  context := rfl
  beingSynchronized := rfl
  keeps x hx := by simp [hx]
  admits x hx := by simpa using hx
  nodup h := nodup_orderedSetAdd h mo

/-- A loop over objects whose every pass adds its object or nothing, as
`test` says on the (unchanged) context, adds the objects of the list that
pass. -/
theorem Adds.foldl (body : ZMDownstreamObjectSync ω κ ν → ω → ZMDownstreamObjectSync ω κ ν)
    (test : ObjectStore ω κ ν → ω → Bool)
    (hbody : ∀ s mo, body s mo = if test s.context mo then
      { s with objectsToDownload := s.objectsToDownload.addObjectToBeSynchronized mo } else s) :
    ∀ (objects : List ω) (s : ZMDownstreamObjectSync ω κ ν),
      s.Adds (objects.foldl body s) fun x => x ∈ objects ∧ test s.context x = true
  | [], s => Adds.refl s _
  | mo :: objects, s => by
    rw [List.foldl_cons]
    -- one pass, then the rest of the loop from where it left the sync
    have hfirst : s.Adds (body s mo) fun x => x = mo ∧ test s.context mo = true := by
      rw [hbody]
      split
      · rename_i htest
        have hadd := Adds.addObjectToBeSynchronized s mo
        exact ⟨hadd.context, hadd.beingSynchronized, hadd.keeps,
          fun x hx => (hadd.admits x hx).imp_right fun heq => ⟨heq, htest⟩, hadd.nodup⟩
      · exact Adds.refl s _
    have hrest := Adds.foldl body test hbody objects (body s mo)
    rw [hfirst.context] at hrest
    refine ⟨hrest.context.trans hfirst.context,
      hrest.beingSynchronized.trans hfirst.beingSynchronized,
      fun x hx => hrest.keeps x (hfirst.keeps x hx), fun x hx => ?_,
      fun h => hrest.nodup (hfirst.nodup h)⟩
    rcases hrest.admits x hx with hx | ⟨hmem, htest⟩
    · rcases hfirst.admits x hx with hx | ⟨rfl, htest⟩
      · exact Or.inl hx
      · exact Or.inr ⟨List.mem_cons_self, htest⟩
    · exact Or.inr ⟨List.mem_cons_of_mem mo hmem, htest⟩

/-- `addTrackedObjects:` adds the objects that pass the filter. -/
theorem addTrackedObjects_adds (objects : List ω) :
    s.Adds (s.addTrackedObjects cfg objects) fun x =>
      x ∈ objects ∧ cfg.passesFilter (s.context x) = true :=
  Adds.foldl _ (fun context mo => cfg.passesFilter (context mo)) (fun _ _ => rfl) objects s

/-- `objectsDidChange:` adds the objects of the entity that need to be
synchronized. -/
theorem objectsDidChange_adds (objects : List ω) :
    s.Adds (s.objectsDidChange cfg objects) fun x =>
      x ∈ objects ∧ (cfg.isTrackedEntity x && cfg.needsToSyncObject (s.context x)) = true := by
  refine Adds.foldl _ (fun context mo => cfg.isTrackedEntity mo && cfg.needsToSyncObject (context mo))
    (fun s' mo => ?_) objects s
  by_cases htracked : cfg.isTrackedEntity mo <;> simp [htracked]

/-! ### The `nextRequest` loop -/

/-- What `nextRequest` does to a sync `s`, leaving `s'` and handing out
`next`. -/
structure NextRequestSpec (requestForFetchingObject : ω → Bool) (s' : ZMDownstreamObjectSync ω κ ν)
    (next : Option (ω × ZMSyncToken κ ν)) : Prop where
  context : s'.context = s.context
  sublist : s'.objectsToDownload.pendingOperationSet.Sublist s.objectsToDownload.pendingOperationSet
  /-- an object removed was not being synchronized, and no longer matched the
  predicate or got no request -/
  removes : ∀ o ∈ s.objectsToDownload.pendingOperationSet,
    o ∉ s'.objectsToDownload.pendingOperationSet →
      o ∉ s.objectsToDownload.managedObjectsBeingSynchronized ∧
        (cfg.predicateForObjectsToDownload (s.context o) = false ∨
          requestForFetchingObject o = false)
  /-- no request: every object left pending is being synchronized -/
  exhausted : next = none →
    s'.objectsToDownload.managedObjectsBeingSynchronized =
        s.objectsToDownload.managedObjectsBeingSynchronized ∧
      ∀ o ∈ s'.objectsToDownload.pendingOperationSet,
        o ∈ s.objectsToDownload.managedObjectsBeingSynchronized
  /-- a request: for a pending object not being synchronized that matches,
  which now is being synchronized, with an empty token -/
  handed : ∀ object token, next = some (object, token) →
    object ∈ s'.objectsToDownload.pendingOperationSet ∧
      object ∉ s.objectsToDownload.managedObjectsBeingSynchronized ∧
      cfg.predicateForObjectsToDownload (s.context object) = true ∧
      requestForFetchingObject object = true ∧ token = ⟨[]⟩ ∧
      s'.objectsToDownload.managedObjectsBeingSynchronized =
        insert object s.objectsToDownload.managedObjectsBeingSynchronized

variable {cfg s}

/-- A round that removes its object, followed by the rest of the loop. -/
theorem NextRequestSpec.removeObject {requestForFetchingObject : ω → Bool} {nextObject : ω}
    (hnext : s.objectsToDownload.nextObjectToSynchronize = some nextObject)
    (hdrop : cfg.predicateForObjectsToDownload (s.context nextObject) = false ∨
      requestForFetchingObject nextObject = false)
    {s' : ZMDownstreamObjectSync ω κ ν} {next : Option (ω × ZMSyncToken κ ν)}
    (h : NextRequestSpec cfg { s with
      objectsToDownload := s.objectsToDownload.removeObject nextObject }
      requestForFetchingObject s' next) :
    NextRequestSpec cfg s requestForFetchingObject s' next where
  context := h.context
  sublist := h.sublist.trans List.erase_sublist
  removes o ho hgone := by
    obtain ⟨hpending, hfree⟩ := s.objectsToDownload.nextObjectToSynchronize_mem hnext
    by_cases hon : o = nextObject
    · subst hon
      exact ⟨hfree, hdrop⟩
    · exact h.removes o ((List.mem_erase_of_ne hon).mpr ho) hgone
  exhausted hnone := h.exhausted hnone
  handed object token hsome := h.handed object token hsome

/-- A round that removes its object leaves one pending object fewer, within
one round fewer. -/
theorem length_removeObject_lt {nextObject : ω} {fuel : Nat}
    (hnext : s.objectsToDownload.nextObjectToSynchronize = some nextObject)
    (hfuel : s.objectsToDownload.pendingOperationSet.length < fuel + 1) :
    (s.objectsToDownload.removeObject nextObject).pendingOperationSet.length < fuel := by
  have hmem := (s.objectsToDownload.nextObjectToSynchronize_mem hnext).1
  have hpos := List.length_pos_of_mem hmem
  rw [ZMSyncOperationSet.removeObject_pendingOperationSet, List.length_erase_of_mem hmem]
  omega

variable (cfg s)

/-- **The `nextRequest` loop.**  With more rounds than pending objects it
removes only objects that are not being synchronized and no longer match the
predicate or get no request, and either hands out a request for a pending
object that matches and was not being synchronized, or hands out nothing
with every object left pending being synchronized. -/
theorem nextRequestLoop_spec (requestForFetchingObject : ω → Bool) (fuel : Nat)
    (hfuel : s.objectsToDownload.pendingOperationSet.length < fuel) :
    NextRequestSpec cfg s requestForFetchingObject
      (s.nextRequestLoop cfg requestForFetchingObject fuel).1
      (s.nextRequestLoop cfg requestForFetchingObject fuel).2 := by
  fun_induction nextRequestLoop cfg requestForFetchingObject fuel s with
  | case1 s => exact absurd hfuel (Nat.not_lt_zero _)
  | case2 fuel s hnone =>
      refine ⟨rfl, List.Sublist.refl _, fun o ho hgone => absurd ho hgone, fun _ => ⟨rfl, ?_⟩,
        fun _ _ h => nomatch h⟩
      exact s.objectsToDownload.nextObjectToSynchronize_eq_none hnone
  | case3 fuel s nextObject hnext hpredicate ih =>
      refine NextRequestSpec.removeObject hnext (Or.inl (by simpa using hpredicate)) (ih ?_)
      exact length_removeObject_lt hnext hfuel
  | case4 fuel s nextObject hnext hpredicate hrequest ih =>
      refine NextRequestSpec.removeObject hnext (Or.inr (by simpa using hrequest)) (ih ?_)
      exact length_removeObject_lt hnext hfuel
  | case5 fuel s nextObject hnext hpredicate hrequest =>
      obtain ⟨hpending, hfree⟩ := s.objectsToDownload.nextObjectToSynchronize_mem hnext
      refine ⟨rfl, List.Sublist.refl _, fun o ho hgone => absurd ho hgone,
        fun h => absurd h (Option.some_ne_none _), ?_⟩
      intro object token hsome
      obtain ⟨rfl, rfl⟩ := Prod.mk.inj (Option.some.inj hsome)
      exact ⟨hpending, hfree, by simpa using hpredicate, by simpa using hrequest, rfl, rfl⟩

theorem nextRequest_spec (requestForFetchingObject : ω → Bool) :
    NextRequestSpec cfg s requestForFetchingObject (s.nextRequest cfg requestForFetchingObject).1
      (s.nextRequest cfg requestForFetchingObject).2 :=
  s.nextRequestLoop_spec cfg requestForFetchingObject _ (Nat.lt_succ_self _)

/-! ### Responses -/

/-- What a response for a fetch with an empty token does: the object is no
longer being synchronized; it stays pending after `tryAgainLater` and is
removed otherwise; the transcoder updates it after a success (unless it is a
zombie) and deletes it after any error. -/
theorem processResponse_nil [DecidableEq ν] (response : ZMTransportResponseStatus) (object : ω)
    (isZombieObject : Bool) :
    (s.processResponse response object ⟨[]⟩ isZombieObject).1.context = s.context ∧
      (s.processResponse response object ⟨[]⟩ isZombieObject).1.objectsToDownload.managedObjectsBeingSynchronized =
        s.objectsToDownload.managedObjectsBeingSynchronized.erase object ∧
      (s.processResponse response object ⟨[]⟩ isZombieObject).1.objectsToDownload.pendingOperationSet =
        (if response = .tryAgainLater then s.objectsToDownload.pendingOperationSet
         else s.objectsToDownload.pendingOperationSet.erase object) ∧
      (s.processResponse response object ⟨[]⟩ isZombieObject).2 =
        match response with
        | .tryAgainLater => none
        | .success => if isZombieObject then none else some (.updateObject object)
        | _ => some (.deleteObject object) := by
  unfold processResponse
  simp only [ZMSyncOperationSet.keysForWhichToApplyResultsAfterFinishedSynchronizingSyncWithToken_nil]
  cases response <;> exact ⟨rfl, rfl, rfl, rfl⟩

end ZMDownstreamObjectSync

namespace DownstreamObjectSync

/-- A fetch request in flight: its issue number, its object and the token its
completion handler captured. -/
structure InFlight (ω κ ν : Type*) where
  request : Nat
  object : ω
  token : ZMSyncToken κ ν

/-- The sync, the fetch requests it has handed out and not yet seen
completed, and the calls it made to its transcoder. -/
structure World (ω κ ν : Type*) where
  sync : ZMDownstreamObjectSync ω κ ν
  inFlight : List (InFlight ω κ ν)
  issued : Nat
  transcoderCalls : List (ZMDownstreamTranscoderCall ω)

/-- What can happen next, with the transcoder's answers and the objects'
changes: an object of the context changes (a local edit, or the
transcoder's update), the change tracker reports objects, the operation loop
asks for a request, or a fetch in flight completes. -/
inductive Event (ω κ ν : Type*)
  | change (object : ω) (value : ManagedObject κ ν)
  | addTrackedObjects (objects : List ω)
  | objectsDidChange (objects : List ω)
  | nextRequest (requestForFetchingObject : ω → Bool)
  | complete (request : Nat) (result : ZMTransportResponseStatus) (isZombieObject : Bool)

variable (cfg : ZMDownstreamObjectSyncConfig ω κ ν) [DecidableEq ν]

/-- A fresh sync with nothing in flight. -/
def World.init (context : ObjectStore ω κ ν) (sortDescriptors : Option (ω → ω → Bool)) :
    World ω κ ν :=
  ⟨.init context sortDescriptors, [], 0, []⟩

/-- The request `nextRequest` returned, if any, goes in flight. -/
def World.issue (w : World ω κ ν) (next : ZMDownstreamObjectSync ω κ ν × Option (ω × ZMSyncToken κ ν)) :
    World ω κ ν :=
  match next.2 with
  | none => { w with sync := next.1 }
  | some (object, token) =>
      { w with sync := next.1, inFlight := w.inFlight ++ [⟨w.issued, object, token⟩],
               issued := w.issued + 1 }

/-- The completion handler of `request`, if it is in flight: the response is
processed for the object and token the handler captured. -/
def World.complete (w : World ω κ ν) (request : Nat) (result : ZMTransportResponseStatus)
    (isZombieObject : Bool) : World ω κ ν :=
  match w.inFlight.find? (·.request = request) with
  | none => w
  | some r =>
      let processed := w.sync.processResponse result r.object r.token isZombieObject
      { w with sync := processed.1, inFlight := w.inFlight.filter (·.request ≠ request),
               transcoderCalls := w.transcoderCalls ++ processed.2.toList }

/-- One event. -/
def World.step (w : World ω κ ν) : Event ω κ ν → World ω κ ν
  | .change object value =>
      { w with sync := { w.sync with context := Function.update w.sync.context object value } }
  | .addTrackedObjects objects => { w with sync := w.sync.addTrackedObjects cfg objects }
  | .objectsDidChange objects => { w with sync := w.sync.objectsDidChange cfg objects }
  | .nextRequest requestForFetchingObject =>
      w.issue (w.sync.nextRequest cfg requestForFetchingObject)
  | .complete request result isZombieObject => w.complete request result isZombieObject

@[simp] theorem World.complete_issued (w : World ω κ ν) (request : Nat)
    (result : ZMTransportResponseStatus) (isZombieObject : Bool) :
    (w.complete request result isZombieObject).issued = w.issued := by
  unfold World.complete
  split <;> rfl

omit [DecidableEq ω] [DecidableEq ν] in
@[simp] theorem World.issue_sync (w : World ω κ ν)
    (next : ZMDownstreamObjectSync ω κ ν × Option (ω × ZMSyncToken κ ν)) :
    (w.issue next).sync = next.1 := by
  unfold World.issue
  split <;> rfl

variable {cfg} {w : World ω κ ν}

/-! ### The invariant -/

/-- The objects being synchronized are exactly those of the fetches in
flight, one fetch each, and each of them is still pending; the pending
objects form an ordered set; every token is empty; issue numbers are
distinct and below the counter. -/
structure Good (w : World ω κ ν) : Prop where
  beingSynchronized : w.sync.objectsToDownload.managedObjectsBeingSynchronized =
    (w.inFlight.map (·.object)).toFinset
  objects_nodup : (w.inFlight.map (·.object)).Nodup
  pending_of_inFlight : ∀ r ∈ w.inFlight, r.object ∈ w.sync.objectsToDownload.pendingOperationSet
  pending_nodup : w.sync.objectsToDownload.pendingOperationSet.Nodup
  token_nil : ∀ r ∈ w.inFlight, r.token = ⟨[]⟩
  request_lt : ∀ r ∈ w.inFlight, r.request < w.issued
  requests_nodup : (w.inFlight.map (·.request)).Nodup

omit [DecidableEq ν] in
theorem Good.init (context : ObjectStore ω κ ν) (sortDescriptors : Option (ω → ω → Bool)) :
    Good (World.init context sortDescriptors) where
  beingSynchronized := rfl
  objects_nodup := List.nodup_nil
  pending_of_inFlight := by simp [World.init]
  pending_nodup := List.nodup_nil
  token_nil := by simp [World.init]
  request_lt := by simp [World.init]
  requests_nodup := List.nodup_nil

omit [DecidableEq ν] in
/-- Adding objects keeps the invariant. -/
theorem Good.of_adds (h : Good w) {s' : ZMDownstreamObjectSync ω κ ν} {admitted : ω → Prop}
    (hadds : w.sync.Adds s' admitted) : Good { w with sync := s' } where
  beingSynchronized := hadds.beingSynchronized.trans h.beingSynchronized
  objects_nodup := h.objects_nodup
  pending_of_inFlight r hr := hadds.keeps _ (h.pending_of_inFlight r hr)
  pending_nodup := hadds.nodup h.pending_nodup
  token_nil := h.token_nil
  request_lt := h.request_lt
  requests_nodup := h.requests_nodup

theorem Good.change (h : Good w) (object : ω) (value : ManagedObject κ ν) :
    Good (w.step cfg (.change object value)) :=
  ⟨h.beingSynchronized, h.objects_nodup, h.pending_of_inFlight, h.pending_nodup, h.token_nil,
    h.request_lt, h.requests_nodup⟩

omit [DecidableEq ν] in
/-- The bookkeeping of the fetches in flight. -/
theorem Good.tracks (h : Good w) :
    Tracks InFlight.request InFlight.object w.sync.objectsToDownload.managedObjectsBeingSynchronized
      w.inFlight w.issued :=
  ⟨h.beingSynchronized, h.objects_nodup, h.request_lt, h.requests_nodup⟩

omit [DecidableEq ν] in
/-- An object being synchronized is not removed by `nextRequest`. -/
theorem Good.mem_nextRequest (h : Good w) (requestForFetchingObject : ω → Bool) {r : InFlight ω κ ν}
    (hr : r ∈ w.inFlight) :
    r.object ∈ (w.sync.nextRequest cfg requestForFetchingObject).1.objectsToDownload.pendingOperationSet := by
  by_contra hgone
  have hbeing : r.object ∈ w.sync.objectsToDownload.managedObjectsBeingSynchronized := by
    rw [h.beingSynchronized]
    exact List.mem_toFinset.mpr (List.mem_map_of_mem hr)
  exact ((w.sync.nextRequest_spec cfg requestForFetchingObject).removes r.object
    (h.pending_of_inFlight r hr) hgone).1 hbeing

theorem Good.nextRequest (h : Good w) (requestForFetchingObject : ω → Bool) :
    Good (w.step cfg (.nextRequest requestForFetchingObject)) := by
  have hspec := w.sync.nextRequest_spec cfg requestForFetchingObject
  have hnodup := h.pending_nodup.sublist hspec.sublist
  simp only [World.step, World.issue]
  split
  · rename_i hnone
    obtain ⟨hbeing, -⟩ := hspec.exhausted hnone
    exact ⟨hbeing.trans h.beingSynchronized, h.objects_nodup,
      fun r hr => h.mem_nextRequest requestForFetchingObject hr, hnodup, h.token_nil,
      h.request_lt, h.requests_nodup⟩
  · rename_i object token hsome
    obtain ⟨hpending, hfree, -, -, htoken, hbeing⟩ := hspec.handed object token hsome
    have htracks := h.tracks.issue (r := ⟨w.issued, object, token⟩) hfree rfl
    refine ⟨hbeing.trans htracks.busy_eq, htracks.objects_nodup, ?_, hnodup, ?_, htracks.key_lt,
      htracks.keys_nodup⟩
    · simp only [List.mem_append, List.mem_singleton]
      rintro r (hr | rfl)
      · exact h.mem_nextRequest requestForFetchingObject hr
      · exact hpending
    · simp only [List.mem_append, List.mem_singleton]
      rintro r (hr | rfl)
      · exact h.token_nil r hr
      · exact htoken

/-- The completion of a request in flight, with what it does to the pending
objects and to the transcoder. -/
theorem World.complete_of_mem (h : Good w) {r : InFlight ω κ ν} (hr : r ∈ w.inFlight)
    (result : ZMTransportResponseStatus) (isZombieObject : Bool) :
    (w.complete r.request result isZombieObject).sync.objectsToDownload.managedObjectsBeingSynchronized =
        w.sync.objectsToDownload.managedObjectsBeingSynchronized.erase r.object ∧
      (w.complete r.request result isZombieObject).sync.objectsToDownload.pendingOperationSet =
        (if result = .tryAgainLater then w.sync.objectsToDownload.pendingOperationSet
         else w.sync.objectsToDownload.pendingOperationSet.erase r.object) ∧
      (w.complete r.request result isZombieObject).inFlight =
        w.inFlight.filter (·.request ≠ r.request) ∧
      (w.complete r.request result isZombieObject).transcoderCalls =
        w.transcoderCalls ++ (match result with
          | .tryAgainLater => none
          | .success => if isZombieObject then none else some (.updateObject r.object)
          | _ => some (.deleteObject r.object) : Option (ZMDownstreamTranscoderCall ω)).toList := by
  have hfind : w.inFlight.find? (·.request = r.request) = some r := h.tracks.find?_eq hr
  obtain ⟨-, hbeing, hpending, hcalls⟩ :=
    w.sync.processResponse_nil result r.object isZombieObject
  rw [← h.token_nil r hr] at hbeing hpending hcalls
  unfold World.complete
  rw [hfind]
  exact ⟨hbeing, hpending, rfl, congrArg (fun call => w.transcoderCalls ++ call.toList) hcalls⟩

theorem Good.complete (h : Good w) (request : Nat) (result : ZMTransportResponseStatus)
    (isZombieObject : Bool) : Good (w.step cfg (.complete request result isZombieObject)) := by
  simp only [World.step]
  cases hfind : w.inFlight.find? (·.request = request) with
  | none =>
      simp only [World.complete, hfind]
      exact h
  | some r =>
      have hr : r ∈ w.inFlight := List.mem_of_find?_eq_some hfind
      have hreq : r.request = request := by simpa using List.find?_some hfind
      subst hreq
      obtain ⟨hbeing, hpending, hinFlight, -⟩ := World.complete_of_mem h hr result isZombieObject
      -- every other fetch in flight is for another object, which stays pending
      have hother : ∀ r' ∈ w.inFlight.filter (·.request ≠ r.request), r'.object ≠ r.object := by
        intro r' hr' hobj
        obtain ⟨hr'mem, hne⟩ := List.mem_filter.mp hr'
        exact (of_decide_eq_true hne) (List.inj_on_of_nodup_map h.objects_nodup hr'mem hr hobj ▸ rfl)
      have htracks := h.tracks.complete hr
      refine ⟨?_, ?_, ?_, ?_, ?_, ?_, ?_⟩
      · rw [hbeing, hinFlight]
        exact htracks.busy_eq
      · rw [hinFlight]
        exact htracks.objects_nodup
      · rw [hinFlight, hpending]
        intro r' hr'
        have hpend := h.pending_of_inFlight r' (List.mem_of_mem_filter hr')
        split
        · exact hpend
        · exact (List.mem_erase_of_ne (hother r' hr')).mpr hpend
      · rw [hpending]
        split
        · exact h.pending_nodup
        · exact h.pending_nodup.erase _
      · rw [hinFlight]
        exact fun r' hr' => h.token_nil r' (List.mem_of_mem_filter hr')
      · rw [hinFlight, World.complete_issued]
        exact htracks.key_lt
      · rw [hinFlight]
        exact htracks.keys_nodup

theorem Good.step (h : Good w) (e : Event ω κ ν) : Good (w.step cfg e) := by
  cases e with
  | change object value => exact h.change object value
  | addTrackedObjects objects => exact h.of_adds (w.sync.addTrackedObjects_adds cfg objects)
  | objectsDidChange objects => exact h.of_adds (w.sync.objectsDidChange_adds cfg objects)
  | nextRequest requestForFetchingObject => exact h.nextRequest requestForFetchingObject
  | complete request result isZombieObject => exact h.complete request result isZombieObject

theorem Good.run (context : ObjectStore ω κ ν) (sortDescriptors : Option (ω → ω → Bool))
    (events : List (Event ω κ ν)) :
    Good (run (World.step cfg) (World.init context sortDescriptors) events) :=
  run_invariant Good (fun _ e h => h.step e) events (Good.init context sortDescriptors)

/-! ### Leaving the pending objects -/

variable (cfg) in
/-- Why the step `e` from `w` may take `o` off the pending objects:
`nextRequest` came to it while it was not being fetched and it no longer
matched the predicate or the transcoder built no request for it; or a
response other than `tryAgainLater` arrived for a fetch of it, and the
transcoder was told to update it (a success, unless it is a zombie) or to
delete it (any error). -/
def Dequeues (w : World ω κ ν) (o : ω) : Event ω κ ν → Prop
  | .nextRequest requestForFetchingObject =>
      o ∉ w.sync.objectsToDownload.managedObjectsBeingSynchronized ∧
        (cfg.predicateForObjectsToDownload (w.sync.context o) = false ∨
          requestForFetchingObject o = false)
  | .complete request result isZombieObject =>
      ∃ r ∈ w.inFlight, r.request = request ∧ r.object = o ∧ result ≠ .tryAgainLater ∧
        (w.step cfg (.complete request result isZombieObject)).transcoderCalls =
          w.transcoderCalls ++
            if result = .success then (if isZombieObject then [] else [.updateObject o])
            else [.deleteObject o]
  | _ => False

/-- A completion takes its object off the pending objects only when the
result is not `tryAgainLater`, and then tells the transcoder what to do. -/
theorem Good.dequeues_complete (h : Good w) {o : ω}
    (hqueued : o ∈ w.sync.objectsToDownload.pendingOperationSet) (request : Nat)
    (result : ZMTransportResponseStatus) (isZombieObject : Bool)
    (hgone : o ∉ (w.step cfg (.complete request result isZombieObject)).sync.objectsToDownload.pendingOperationSet) :
    Dequeues cfg w o (.complete request result isZombieObject) := by
  simp only [World.step] at hgone
  cases hfind : w.inFlight.find? (·.request = request) with
  | none =>
      simp only [World.complete, hfind] at hgone
      exact absurd hqueued hgone
  | some r =>
      have hr : r ∈ w.inFlight := List.mem_of_find?_eq_some hfind
      have hreq : r.request = request := by simpa using List.find?_some hfind
      subst hreq
      obtain ⟨-, hpending, -, hcalls⟩ := World.complete_of_mem h hr result isZombieObject
      rw [hpending] at hgone
      split at hgone
      · exact absurd hqueued hgone
      · rename_i hretry
        -- only the completed fetch's own object is removed
        have hobject : r.object = o := by
          by_contra hne
          exact hgone ((List.mem_erase_of_ne (Ne.symm hne)).mpr hqueued)
        refine ⟨r, hr, rfl, hobject, hretry, ?_⟩
        simp only [World.step]
        rw [hcalls, ← hobject]
        cases result with
        | success => cases isZombieObject <;> rfl
        | tryAgainLater => exact absurd rfl hretry
        | temporaryError | permanentError | expired => rfl

/-- **One step.**  An object leaves the pending objects only for one of the
reasons of `Dequeues`. -/
theorem Good.dequeues (h : Good w) {o : ω} (hqueued : o ∈ w.sync.objectsToDownload.pendingOperationSet)
    (e : Event ω κ ν) (hgone : o ∉ (w.step cfg e).sync.objectsToDownload.pendingOperationSet) :
    Dequeues cfg w o e := by
  cases e with
  | change object value => exact absurd hqueued hgone
  | addTrackedObjects objects =>
      exact absurd ((w.sync.addTrackedObjects_adds cfg objects).keeps o hqueued) hgone
  | objectsDidChange objects =>
      exact absurd ((w.sync.objectsDidChange_adds cfg objects).keeps o hqueued) hgone
  | nextRequest requestForFetchingObject =>
      simp only [World.step, World.issue_sync] at hgone
      exact (w.sync.nextRequest_spec cfg requestForFetchingObject).removes o hqueued hgone
  | complete request result isZombieObject =>
      exact h.dequeues_complete hqueued request result isZombieObject hgone

variable (cfg) in
/-- Why the step `e` from `w` may make `o` pending: the change tracker
reported it, and it passed the filter (`addTrackedObjects:`) or was of the
entity and needed to be synchronized (`objectsDidChange:`). -/
def Enqueues (w : World ω κ ν) (o : ω) : Event ω κ ν → Prop
  | .addTrackedObjects objects => o ∈ objects ∧ cfg.passesFilter (w.sync.context o) = true
  | .objectsDidChange objects =>
      o ∈ objects ∧ (cfg.isTrackedEntity o && cfg.needsToSyncObject (w.sync.context o)) = true
  | _ => False

/-- **One step, the other way.**  An object becomes pending only when the
change tracker reports it and the sync admits it. -/
theorem Good.enqueues (h : Good w) {o : ω} (e : Event ω κ ν)
    (hnew : o ∈ (w.step cfg e).sync.objectsToDownload.pendingOperationSet) :
    o ∈ w.sync.objectsToDownload.pendingOperationSet ∨ Enqueues cfg w o e := by
  cases e with
  | change object value => exact Or.inl hnew
  | addTrackedObjects objects => exact (w.sync.addTrackedObjects_adds cfg objects).admits o hnew
  | objectsDidChange objects => exact (w.sync.objectsDidChange_adds cfg objects).admits o hnew
  | nextRequest requestForFetchingObject =>
      simp only [World.step, World.issue_sync] at hnew
      exact Or.inl ((w.sync.nextRequest_spec cfg requestForFetchingObject).sublist.subset hnew)
  | complete request result isZombieObject =>
      simp only [World.step] at hnew
      left
      cases hfind : w.inFlight.find? (·.request = request) with
      | none =>
          simp only [World.complete, hfind] at hnew
          exact hnew
      | some r =>
          have hr : r ∈ w.inFlight := List.mem_of_find?_eq_some hfind
          have hreq : r.request = request := by simpa using List.find?_some hfind
          subst hreq
          obtain ⟨-, hpending, -, -⟩ := World.complete_of_mem h hr result isZombieObject
          rw [hpending] at hnew
          split at hnew
          · exact hnew
          · exact List.erase_sublist.subset hnew

/-! ### What every run keeps -/

/-- The fetches of a downstream sync are consistent. -/
structure FetchSafe (w : World ω κ ν) : Prop where
  /-- the objects being synchronized are those of the fetches in flight -/
  beingSynchronized : w.sync.objectsToDownload.managedObjectsBeingSynchronized =
    (w.inFlight.map (·.object)).toFinset
  /-- no object has two fetches in flight -/
  one_fetch_each : (w.inFlight.map (·.object)).Nodup
  /-- an object being fetched stays pending until its response -/
  pending_while_fetched : ∀ r ∈ w.inFlight,
    r.object ∈ w.sync.objectsToDownload.pendingOperationSet

/-- **Fetches stay consistent.**  In every reachable state of a downstream
sync (any interleaving of changes to the objects, `addTrackedObjects:`,
`objectsDidChange:`, `nextRequest` with any transcoder answers, and
completions with any result), the objects being synchronized are exactly the
objects of the fetch requests in flight, no object has two fetches in flight,
and every object being fetched is still pending. -/
theorem downstreamObjectSync_fetches_consistent (cfg : ZMDownstreamObjectSyncConfig ω κ ν)
    (context : ObjectStore ω κ ν) (sortDescriptors : Option (ω → ω → Bool))
    (events : List (Event ω κ ν)) :
    FetchSafe (run (World.step cfg) (World.init context sortDescriptors) events) := by
  have h : Good (run (World.step cfg) (World.init context sortDescriptors) events) :=
    Good.run context sortDescriptors events
  exact ⟨h.beingSynchronized, h.objects_nodup, h.pending_of_inFlight⟩

/-- Objects the backend has news about: every value `0`, nothing modified or
tracked, and `needsToBeUpdatedFromBackend` set. -/
def staleObjects : ObjectStore Nat Nat Nat := fun _ => ⟨fun _ => 0, ∅, ∅, true⟩

/-- A sync of objects of any entity with the default predicate and no filter. -/
def exampleDownloadConfig : ZMDownstreamObjectSyncConfig Nat Nat Nat :=
  ⟨fun _ => true, ZMDownstreamObjectSyncConfig.needsToBeUpdatedFromBackend, none⟩

/-- **Objects leave only for a reason.**  In any run of a downstream sync, an
object pending after the events `before` and no longer pending after the
events that follow left at one of them, for one of the reasons of
`Dequeues`: the loop of `nextRequest` dropped it while it was not being
fetched because it no longer matched the predicate or the transcoder built
no request for it, or a response other than `tryAgainLater` arrived for its
fetch, after which the transcoder was told to update it or, after any error,
to delete it. -/
theorem downstreamObjectSync_dequeues_for_a_reason (cfg : ZMDownstreamObjectSyncConfig ω κ ν)
    (context : ObjectStore ω κ ν) (sortDescriptors : Option (ω → ω → Bool))
    (before events : List (Event ω κ ν)) (o : ω)
    (hqueued : o ∈ (run (World.step cfg) (World.init context sortDescriptors)
      before).sync.objectsToDownload.pendingOperationSet)
    (hgone : o ∉ (run (World.step cfg) (World.init context sortDescriptors)
      (before ++ events)).sync.objectsToDownload.pendingOperationSet) :
    ∃ middle e after, events = middle ++ e :: after ∧
      Dequeues cfg (run (World.step cfg) (World.init context sortDescriptors) (before ++ middle))
        o e := by
  rw [run_append] at hgone
  obtain ⟨middle, e, after, hsplit, hpending, hleaves⟩ :=
    exists_step_of_run (World.step cfg) (fun w => o ∈ w.sync.objectsToDownload.pendingOperationSet)
      events hqueued hgone
  refine ⟨middle, e, after, hsplit, ?_⟩
  have h : Good (run (World.step cfg) (World.init context sortDescriptors) (before ++ middle)) :=
    Good.run context sortDescriptors (before ++ middle)
  rw [run_append] at h ⊢
  exact h.dequeues hpending e hleaves

/-- Object `0` is pending once it changes; its fetch goes out and fails with
a temporary error, which takes it off the pending objects and has the
transcoder delete it. -/
theorem downstreamObjectSync_temporaryError_deletes :
    0 ∈ (run (World.step exampleDownloadConfig) (World.init staleObjects none)
        [.objectsDidChange [0]]).sync.objectsToDownload.pendingOperationSet ∧
      0 ∉ (run (World.step exampleDownloadConfig) (World.init staleObjects none)
        ([.objectsDidChange [0]] ++ [.nextRequest fun _ => true,
          .complete 0 .temporaryError false])).sync.objectsToDownload.pendingOperationSet ∧
      ∃ middle e after, [.nextRequest (fun _ => true), .complete 0 .temporaryError false] =
          middle ++ e :: after ∧
        Dequeues exampleDownloadConfig (run (World.step exampleDownloadConfig)
          (World.init staleObjects none) ([.objectsDidChange [0]] ++ middle)) 0 e :=
  ⟨by decide, by decide, downstreamObjectSync_dequeues_for_a_reason exampleDownloadConfig
    staleObjects none [.objectsDidChange [0]] _ 0 (by decide) (by decide)⟩

end DownstreamObjectSync

end ZMessaging
