import ZMessaging.LocallyModifiedObjectSet
import ZMessaging.DependentObjects
import ZMessaging.TransportResponse
import Mathlib.Data.Finset.Card

/-!
# `ZMUpstreamModifiedObjectSync`: uploading locally modified keys

The sync collects changed objects of its entity in a
`ZMLocallyModifiedObjectSet`, parks those whose transcoder names a
dependency in a `ZMDependentObjects` table, and on `nextRequest` asks the set
for an object with keys to synchronize.  The completion handler of each
request first computes the keys that did not change while it was in flight
(`keysToParseAfterSyncingToken:`) and then, by response class and the
transcoder's answers, either keeps the keys for another round
(`didNotFinishToSynchronizeToken:`) or resets their modification flags
(`didSynchronizeToken:`, `didFailToSynchronizeToken:`).

The transcoder is the environment: its answers (whether to create a
request, the keys the request carries, whether it needs more requests,
whether to retry, the dependency of an object, the object to refetch) come
with the events.  What the transcoder itself writes into objects while
parsing a response is not modelled.

The main results:

* every reachable state keeps the set's invariant and every request in
  flight keeps a token pointing at a status of its object (`Good.run`);
* a key edited while its request is in flight keeps its modification flag
  exactly for a temporary error, a try-again-later, a success for which the
  transcoder asks for more and some key is still unchanged, and a permanent
  error the transcoder retries (`upstreamModifiedObjectSync_edit_in_flight`);
  otherwise the newer value is never uploaded
  (`upstreamModifiedObjectSync_edit_dropped_on_success`);
* when the first object of the set's enumeration has keys but is blocked by a
  dependency or fails the update predicate, `nextRequest` returns `nil` and
  changes nothing, whatever the other objects are
  (`step_nextRequest_of_firstEntryBlocked`), so one blocked object starves a
  ready one (`upstreamModifiedObjectSync_blocked_object_starves`).
-/

namespace ZMessaging

open StepSystem

variable {ω κ ν : Type*} [DecidableEq ω] [DecidableEq κ] [DecidableEq ν]

/-- What a sync is configured with: whether an object is of the tracked
entity, the update predicate, and the optional filter. -/
structure ZMUpstreamModifiedObjectSyncConfig (ω κ ν : Type*) where
  isTrackedEntity : ω → Bool
  updatePredicate : ManagedObject κ ν → Bool
  filter : Option (ManagedObject κ ν → Bool)

/-- The state of a `ZMUpstreamModifiedObjectSync` together with the objects
of its managed object context. -/
structure ZMUpstreamModifiedObjectSync (ω κ ν : Type*) where
  context : ObjectStore ω κ ν
  updatedObjects : ZMLocallyModifiedObjectSet ω κ
  /-- `nil` unless the transcoder implements
  `dependentObjectNeedingUpdateBeforeProcessingObject:`. -/
  updatedObjectsWithDependencies : Option (ZMDependentObjects ω)

/-- The transcoder's answers while a completion handler runs. -/
structure TranscoderAnswers (ω : Type*) where
  /-- `updateUpdatedObject:requestUserInfo:response:keysToParse:`. -/
  transcoderNeedsMoreRequests : Bool
  /-- `shouldRetryToSyncAfterFailedToUpdateObject:...`; `NO` when not
  implemented. -/
  shouldResyncObject : Bool
  /-- `dependentObjectNeedingUpdateBeforeProcessingObject:`. -/
  dependencyOf : ω → Option ω
  /-- `objectToRefetchForFailedUpdateOfObject:`. -/
  objectToRefetch : Option ω

namespace ZMUpstreamModifiedObjectSync

variable (cfg : ZMUpstreamModifiedObjectSyncConfig ω κ ν)

/-- `initWithTranscoder:entityName:updatePredicate:filter:keysToSync:managedObjectContext:`. -/
def init (context : ObjectStore ω κ ν) (keysToSync : Option (Finset κ))
    (transcoderHasDependencies : Bool) : ZMUpstreamModifiedObjectSync ω κ ν :=
  { context, updatedObjects := .init keysToSync,
    updatedObjectsWithDependencies := if transcoderHasDependencies then some .init else none }

variable (s : ZMUpstreamModifiedObjectSync ω κ ν)
  (dependencyOf : ω → Option ω)

/-- `objectPassesTrackingFilter:`. -/
def objectPassesTrackingFilter (object : ω) : Bool :=
  match cfg.filter with
  | none => true
  | some filter => filter (s.context object)

/-- `objectShouldBeSynced:`. -/
def objectShouldBeSynced (object : ω) : Bool :=
  cfg.updatePredicate (s.context object) && s.objectPassesTrackingFilter cfg object

/-- `addUpdatedObjectWithoutDependency:`. -/
def addUpdatedObjectWithoutDependency (mo : ω) : ZMUpstreamModifiedObjectSync ω κ ν :=
  { s with updatedObjects := s.updatedObjects.addPossibleObjectToSynchronize s.context mo }

/-- `[self.updatedObjectsWithDependencies addManagedObject:mo withDependency:dependency]`. -/
def addDependant (mo dependency : ω) : ZMUpstreamModifiedObjectSync ω κ ν :=
  { s with updatedObjectsWithDependencies :=
      s.updatedObjectsWithDependencies.map (·.addManagedObject mo dependency) }

/-- `addUpdatedObject:`: the transcoder is asked for a dependency only when
the sync tracks dependencies. -/
def addUpdatedObject (mo : ω) : ZMUpstreamModifiedObjectSync ω κ ν :=
  match s.updatedObjectsWithDependencies, dependencyOf mo with
  | some _, some dependency => s.addDependant mo dependency
  | _, _ => s.addUpdatedObjectWithoutDependency mo

/-- `addTrackedObjects:`. -/
def addTrackedObjects (objects : List ω) : ZMUpstreamModifiedObjectSync ω κ ν :=
  objects.foldl (fun s mo =>
    if s.objectPassesTrackingFilter cfg mo then s.addUpdatedObject dependencyOf mo else s) s

/-- `checkForUpdatedDependency:`: the dependants of an object that changed
are re-examined, and those without dependency now are added. -/
def checkForUpdatedDependency (existingDependency : ω) : ZMUpstreamModifiedObjectSync ω κ ν :=
  match s.updatedObjectsWithDependencies with
  | none => s
  | some deps =>
      let checked := deps.checkForUpdatedDependency
        (fun s mo => s.addUpdatedObjectWithoutDependency mo) dependencyOf existingDependency s
      { checked.2 with updatedObjectsWithDependencies := some checked.1 }

/-- `objectsDidChange:`. -/
def objectsDidChange (objects : List ω) : ZMUpstreamModifiedObjectSync ω κ ν :=
  objects.foldl (fun s obj =>
    let s := if cfg.isTrackedEntity obj && s.objectShouldBeSynced cfg obj
      then s.addUpdatedObject dependencyOf obj else s
    s.checkForUpdatedDependency dependencyOf obj) s

/-- `nextObjectToSync`: the set's pick, dropped (without trying another)
when it still has a dependency or no longer passes predicate and filter. -/
def nextObjectToSync : ZMUpstreamModifiedObjectSync ω κ ν × Option (ZMObjectWithKeys ω κ) :=
  let any := s.updatedObjects.anyObjectToSynchronize s.context
  ({ s with updatedObjects := any.1 },
   any.2.filter fun objectWithKeys =>
     (s.updatedObjectsWithDependencies.bind (·.anyDependencyForObject objectWithKeys.object)).isNone
       && s.objectShouldBeSynced cfg objectWithKeys.object)

/-- `processNextUpdate`: the request's object and token, if one is created.
The transcoder's request must not be `nil` (the source stops there). -/
def processNextUpdate (shouldCreateRequest : Bool) (requestKeys : Finset κ) :
    ZMUpstreamModifiedObjectSync ω κ ν ×
      Option (ZMObjectWithKeys ω κ × ZMModifiedObjectSyncToken ω κ ν) :=
  let next := s.nextObjectToSync cfg
  match next.2, shouldCreateRequest with
  | some objectWithKeys, true =>
      let started :=
        next.1.updatedObjects.didStartSynchronizingKeys next.1.context requestKeys objectWithKeys
      ({ next.1 with updatedObjects := started.1 }, some (objectWithKeys, started.2))
  | _, _ => (next.1, none)

/-- The set's `didNotFinishToSynchronizeToken:` on this sync's context. -/
def didNotFinishToSynchronizeToken (token : ZMModifiedObjectSyncToken ω κ ν) :
    ZMUpstreamModifiedObjectSync ω κ ν :=
  { s with updatedObjects := s.updatedObjects.didNotFinishToSynchronizeToken s.context token }

/-- The set's `didFailToSynchronizeToken:` on this sync's context. -/
def didFailToSynchronizeToken (token : ZMModifiedObjectSyncToken ω κ ν) :
    ZMUpstreamModifiedObjectSync ω κ ν :=
  let failed := s.updatedObjects.didFailToSynchronizeToken s.context token
  { s with updatedObjects := failed.1, context := failed.2 }

/-- The set's `didSynchronizeToken:` on this sync's context. -/
def didSynchronizeToken (token : ZMModifiedObjectSyncToken ω κ ν) :
    ZMUpstreamModifiedObjectSync ω κ ν :=
  let synced := s.updatedObjects.didSynchronizeToken s.context token
  { s with updatedObjects := synced.1, context := synced.2 }

/-- `[object setLocallyModifiedKeys:keys]`. -/
def setLocallyModifiedKeys (object : ω) (keys : Finset κ) : ZMUpstreamModifiedObjectSync ω κ ν :=
  { s with context :=
      Function.update s.context object ((s.context object).setLocallyModifiedKeys keys) }

/-- `objectToRefetch.needsToBeUpdatedFromBackend = YES`. -/
def markNeedsToBeUpdatedFromBackend (object : ω) : ZMUpstreamModifiedObjectSync ω κ ν :=
  { s with context :=
      Function.update s.context object (s.context object).markNeedsToBeUpdatedFromBackend }

/-- The completion handler `processNextUpdate` attaches to its request. -/
def completionHandler (objectWithKeys : ZMObjectWithKeys ω κ) (requestKeys : Finset κ)
    (token : ZMModifiedObjectSyncToken ω κ ν) (result : ZMTransportResponseStatus)
    (answers : TranscoderAnswers ω) : ZMUpstreamModifiedObjectSync ω κ ν :=
  let parsed := s.updatedObjects.keysToParseAfterSyncingToken s.context token
  let keysToParse := parsed.2
  let s : ZMUpstreamModifiedObjectSync ω κ ν := { s with updatedObjects := parsed.1 }
  match result with
  | .success =>
      if 0 < keysToParse.card ∧ answers.transcoderNeedsMoreRequests = true
      then s.didNotFinishToSynchronizeToken token
      else s.didSynchronizeToken token
  | .temporaryError | .tryAgainLater => s.didNotFinishToSynchronizeToken token
  | .expired => s.didFailToSynchronizeToken token
  | .permanentError =>
      let s := s.didFailToSynchronizeToken token
      if answers.shouldResyncObject then
        (s.setLocallyModifiedKeys objectWithKeys.object requestKeys).addUpdatedObject
          answers.dependencyOf objectWithKeys.object
      else
        match answers.objectToRefetch with
        | none => s
        | some objectToRefetch => s.markNeedsToBeUpdatedFromBackend objectToRefetch

/-! ### What each operation does to the context -/

omit [DecidableEq ν] in
@[simp] theorem addUpdatedObjectWithoutDependency_context (mo : ω) :
    (s.addUpdatedObjectWithoutDependency mo).context = s.context := rfl

omit [DecidableEq κ] [DecidableEq ν] in
@[simp] theorem addDependant_context (mo dependency : ω) :
    (s.addDependant mo dependency).context = s.context := rfl

omit [DecidableEq κ] [DecidableEq ν] in
@[simp] theorem addDependant_updatedObjects (mo dependency : ω) :
    (s.addDependant mo dependency).updatedObjects = s.updatedObjects := rfl

omit [DecidableEq ν] in
@[simp] theorem addUpdatedObject_context (mo : ω) :
    (s.addUpdatedObject dependencyOf mo).context = s.context := by
  unfold addUpdatedObject
  split <;> rfl

omit [DecidableEq ω] in
@[simp] theorem didNotFinishToSynchronizeToken_context (token : ZMModifiedObjectSyncToken ω κ ν) :
    (s.didNotFinishToSynchronizeToken token).context = s.context := rfl

omit [DecidableEq ν] in
@[simp] theorem setLocallyModifiedKeys_updatedObjects (object : ω) (keys : Finset κ) :
    (s.setLocallyModifiedKeys object keys).updatedObjects = s.updatedObjects := rfl

omit [DecidableEq κ] [DecidableEq ν] in
@[simp] theorem markNeedsToBeUpdatedFromBackend_updatedObjects (object : ω) :
    (s.markNeedsToBeUpdatedFromBackend object).updatedObjects = s.updatedObjects := rfl

omit [DecidableEq κ] [DecidableEq ν] in
/-- Marking an object for refetching leaves every modification flag alone. -/
@[simp] theorem markNeedsToBeUpdatedFromBackend_keysThatHaveLocalModifications
    (object o : ω) :
    ((s.markNeedsToBeUpdatedFromBackend object).context o).keysThatHaveLocalModifications =
      (s.context o).keysThatHaveLocalModifications := by
  unfold markNeedsToBeUpdatedFromBackend
  by_cases ho : o = object
  · subst ho
    simp
  · simp [ho]

/-! ### The set's invariant across the sync's operations -/

/-- `s'` keeps the set good and every status of `s` for its object. -/
def SetKept (s' : ZMUpstreamModifiedObjectSync ω κ ν) : Prop :=
  s'.updatedObjects.Good ∧ s.updatedObjects.Extends s'.updatedObjects

omit [DecidableEq ω] [DecidableEq κ] [DecidableEq ν] in
theorem SetKept.refl (h : s.updatedObjects.Good) : s.SetKept s :=
  ⟨h, ZMLocallyModifiedObjectSet.Extends.refl _⟩

omit [DecidableEq ω] [DecidableEq κ] [DecidableEq ν] in
theorem SetKept.trans {s' s'' : ZMUpstreamModifiedObjectSync ω κ ν}
    (h : s.SetKept s') (h' : s'.SetKept s'') : s.SetKept s'' :=
  ⟨h'.1, h.2.trans _ h'.2⟩

omit [DecidableEq ν] in
theorem addUpdatedObjectWithoutDependency_kept (h : s.updatedObjects.Good) (mo : ω) :
    s.SetKept (s.addUpdatedObjectWithoutDependency mo) :=
  s.updatedObjects.addPossibleObjectToSynchronize_good s.context h mo

omit [DecidableEq ν] in
theorem addUpdatedObject_kept (h : s.updatedObjects.Good) (mo : ω) :
    s.SetKept (s.addUpdatedObject dependencyOf mo) := by
  unfold addUpdatedObject
  split
  · exact SetKept.refl _ h
  · exact s.addUpdatedObjectWithoutDependency_kept h mo

omit [DecidableEq ν] in
theorem addTrackedObjects_kept (h : s.updatedObjects.Good) (objects : List ω) :
    s.SetKept (s.addTrackedObjects cfg dependencyOf objects) := by
  unfold addTrackedObjects
  rw [foldl_eq_run]
  refine run_invariant (fun s' => s.SetKept s') ?_ objects (SetKept.refl s h)
  intro s' mo hs'
  split
  · exact hs'.trans _ (s'.addUpdatedObject_kept dependencyOf hs'.1 mo)
  · exact hs'

omit [DecidableEq ν] in
theorem checkForUpdatedDependency_kept (h : s.updatedObjects.Good) (existingDependency : ω) :
    s.SetKept (s.checkForUpdatedDependency dependencyOf existingDependency) := by
  unfold checkForUpdatedDependency
  split
  · exact SetKept.refl s h
  · rename_i deps _
    exact deps.checkForUpdatedDependency_invariant _ dependencyOf (fun s' => s.SetKept s')
      (fun s' mo hs' => hs'.trans _ (s'.addUpdatedObjectWithoutDependency_kept hs'.1 mo))
      existingDependency (SetKept.refl s h)

omit [DecidableEq ν] in
theorem objectsDidChange_kept (h : s.updatedObjects.Good) (objects : List ω) :
    s.SetKept (s.objectsDidChange cfg dependencyOf objects) := by
  unfold objectsDidChange
  rw [foldl_eq_run]
  refine run_invariant (fun s' => s.SetKept s') ?_ objects (SetKept.refl s h)
  intro s' obj hs'
  dsimp only
  have hadd : s.SetKept (if cfg.isTrackedEntity obj && s'.objectShouldBeSynced cfg obj
      then s'.addUpdatedObject dependencyOf obj else s') := by
    split
    · exact hs'.trans _ (s'.addUpdatedObject_kept dependencyOf hs'.1 obj)
    · exact hs'
  exact hadd.trans _ (checkForUpdatedDependency_kept _ dependencyOf hadd.1 obj)

omit [DecidableEq ν] in
@[simp] theorem nextObjectToSync_context : (s.nextObjectToSync cfg).1.context = s.context := rfl

omit [DecidableEq ν] in
/-- The object `nextObjectToSync` returns has an entry in the set. -/
theorem nextObjectToSync_kept (h : s.updatedObjects.Good) :
    s.SetKept (s.nextObjectToSync cfg).1 ∧
      ∀ x, (s.nextObjectToSync cfg).2 = some x →
        ∃ p ∈ (s.nextObjectToSync cfg).1.updatedObjects.objectIDsToStatus, p.1 = x.object := by
  obtain ⟨hgood, hext, -, hmem⟩ := s.updatedObjects.anyObjectToSynchronize_spec s.context h
  refine ⟨⟨hgood, hext⟩, ?_⟩
  intro x hx
  exact hmem x (Option.filter_eq_some_iff.mp hx).1

omit [DecidableEq ν] in
theorem processNextUpdate_kept (h : s.updatedObjects.Good) (shouldCreateRequest : Bool)
    (requestKeys : Finset κ) :
    s.SetKept (s.processNextUpdate cfg shouldCreateRequest requestKeys).1 ∧
      ∀ objectWithKeys token,
        (s.processNextUpdate cfg shouldCreateRequest requestKeys).2 = some (objectWithKeys, token) →
        (s.processNextUpdate cfg shouldCreateRequest requestKeys).1.updatedObjects.TokenRefers
          token objectWithKeys.object requestKeys := by
  obtain ⟨hnext, hmem⟩ := s.nextObjectToSync_kept cfg h
  unfold processNextUpdate
  dsimp only
  split
  · rename_i objectWithKeys hsome
    obtain ⟨hgood, hext, -, href⟩ :=
      (s.nextObjectToSync cfg).1.updatedObjects.didStartSynchronizingKeys_spec
        (s.nextObjectToSync cfg).1.context hnext.1 requestKeys objectWithKeys
        (hmem objectWithKeys hsome)
    refine ⟨hnext.trans _ ⟨hgood, hext⟩, ?_⟩
    rintro _ _ ⟨⟩
    exact href
  · exact ⟨hnext, by simp⟩

/-- Whatever the response, the completion handler keeps the set good. -/
theorem completionHandler_kept {token : ZMModifiedObjectSyncToken ω κ ν} {object : ω}
    {keys : Finset κ} (h : s.updatedObjects.Good)
    (href : s.updatedObjects.TokenRefers token object keys) (objectWithKeys : ZMObjectWithKeys ω κ)
    (requestKeys : Finset κ) (result : ZMTransportResponseStatus) (answers : TranscoderAnswers ω) :
    s.SetKept (s.completionHandler objectWithKeys requestKeys token result answers) := by
  obtain ⟨hgood₁, hext₁, -, href₁⟩ :=
    s.updatedObjects.keysToParseAfterSyncingToken_spec s.context h href
  set s₁ : ZMUpstreamModifiedObjectSync ω κ ν :=
    { s with updatedObjects := (s.updatedObjects.keysToParseAfterSyncingToken s.context token).1 }
  have hkept₁ : s.SetKept s₁ := ⟨hgood₁, hext₁⟩
  have hnotFinish : s.SetKept (s₁.didNotFinishToSynchronizeToken token) := by
    obtain ⟨hgood, hext, -⟩ :=
      s₁.updatedObjects.didNotFinishToSynchronizeToken_spec s₁.context hgood₁ href₁
    exact hkept₁.trans _ ⟨hgood, hext⟩
  have hfail : s.SetKept (s₁.didFailToSynchronizeToken token) := by
    obtain ⟨hgood, hext, -⟩ :=
      s₁.updatedObjects.didFailToSynchronizeToken_spec s₁.context hgood₁ href₁
    exact hkept₁.trans _ ⟨hgood, hext⟩
  unfold completionHandler
  cases result with
  | success =>
      dsimp only
      split
      · exact hnotFinish
      · exact hfail
  | temporaryError => exact hnotFinish
  | tryAgainLater => exact hnotFinish
  | expired => exact hfail
  | permanentError =>
      dsimp only
      split
      · -- Re-flagging the keys leaves the set alone; re-adding the object keeps it good.
        have hset : s.SetKept ((s₁.didFailToSynchronizeToken token).setLocallyModifiedKeys
            objectWithKeys.object requestKeys) := hfail
        exact hset.trans _
          (addUpdatedObject_kept _ answers.dependencyOf hset.1 objectWithKeys.object)
      · split
        · exact hfail
        · exact hfail

/-- **The fate of a modified key in the completion handler.**  A key of the
request that is flagged as modified when the response arrives stays flagged
exactly for a temporary error, a try-again-later, a success on which the
transcoder asks for more while some key is unchanged, and a retried
permanent error. -/
theorem completionHandler_keysThatHaveLocalModifications
    {token : ZMModifiedObjectSyncToken ω κ ν} {objectWithKeys : ZMObjectWithKeys ω κ}
    {keys : Finset κ} (h : s.updatedObjects.Good)
    (href : s.updatedObjects.TokenRefers token objectWithKeys.object keys) {k : κ} (hk : k ∈ keys)
    (hmod : k ∈ (s.context objectWithKeys.object).keysThatHaveLocalModifications)
    (result : ZMTransportResponseStatus) (answers : TranscoderAnswers ω) :
    k ∈ ((s.completionHandler objectWithKeys keys token result answers).context
        objectWithKeys.object).keysThatHaveLocalModifications ↔
      result = .temporaryError ∨ result = .tryAgainLater ∨
        (result = .success ∧
          0 < (s.updatedObjects.keysToParseAfterSyncingToken s.context token).2.card ∧
          answers.transcoderNeedsMoreRequests = true) ∨
        (result = .permanentError ∧ answers.shouldResyncObject = true) := by
  obtain ⟨hgood₁, -, -, href₁⟩ :=
    s.updatedObjects.keysToParseAfterSyncingToken_spec s.context h href
  set s₁ : ZMUpstreamModifiedObjectSync ω κ ν :=
    { s with updatedObjects := (s.updatedObjects.keysToParseAfterSyncingToken s.context token).1 }
  -- Failing (or finishing) the token resets exactly the request's keys.
  have hfail :
      ((s₁.didFailToSynchronizeToken token).context
          objectWithKeys.object).keysThatHaveLocalModifications =
        (s.context objectWithKeys.object).keysThatHaveLocalModifications \ keys := by
    obtain ⟨-, -, -, hctx⟩ :=
      s₁.updatedObjects.didFailToSynchronizeToken_spec s₁.context hgood₁ href₁
    simp [didFailToSynchronizeToken, hctx, s₁]
  have hreset : k ∉ ((s₁.didFailToSynchronizeToken token).context
      objectWithKeys.object).keysThatHaveLocalModifications := by
    rw [hfail]
    simp [hk]
  have hsync :
      (s₁.didSynchronizeToken token).context = (s₁.didFailToSynchronizeToken token).context :=
    rfl
  unfold completionHandler
  cases result with
  | success =>
      dsimp only
      split
      · rename_i hmore
        exact iff_of_true hmod (Or.inr (Or.inr (Or.inl ⟨rfl, hmore⟩)))
      · rename_i hmore
        refine iff_of_false (by rw [hsync]; exact hreset) ?_
        rintro (h | h | ⟨-, hmore'⟩ | ⟨h, -⟩)
        · cases h
        · cases h
        · exact hmore hmore'
        · cases h
  | temporaryError => exact iff_of_true hmod (Or.inl rfl)
  | tryAgainLater => exact iff_of_true hmod (Or.inr (Or.inl rfl))
  | expired =>
      refine iff_of_false hreset ?_
      rintro (h | h | ⟨h, -⟩ | ⟨h, -⟩) <;> cases h
  | permanentError =>
      dsimp only
      split
      · rename_i hresync
        refine iff_of_true ?_ (Or.inr (Or.inr (Or.inr ⟨rfl, hresync⟩)))
        simp [setLocallyModifiedKeys, hk]
      · rename_i hresync
        -- Whether or not an object is marked for refetching, the flags stay reset.
        refine iff_of_false ?_ ?_
        · split
          · exact hreset
          · rwa [markNeedsToBeUpdatedFromBackend_keysThatHaveLocalModifications]
        · rintro (h | h | ⟨h, -⟩ | ⟨-, h⟩)
          · cases h
          · cases h
          · cases h
          · exact hresync h

/-! ### One blocked object stops the queue -/

/-- The first status of the set's enumeration has keys to synchronize, but
its object still has a dependency or no longer passes predicate and filter. -/
def firstEntryBlocked : Bool :=
  match s.updatedObjects.objectIDsToStatus with
  | [] => false
  | (_, ref) :: _ =>
      match s.updatedObjects.statuses ref with
      | none => false
      | some st =>
          decide (st.keysToSynchronize s.context ≠ ∅) &&
            !((s.updatedObjectsWithDependencies.bind (·.anyDependencyForObject st.object)).isNone &&
              s.objectShouldBeSynced cfg st.object)

/-- An object the sync could send now: its status has keys to synchronize,
it waits for no dependency, and it passes predicate and filter. -/
def readyToSync (object : ω) : Bool :=
  match s.updatedObjects.status (s.updatedObjects.lookup object) with
  | none => false
  | some st =>
      decide (st.keysToSynchronize s.context ≠ ∅) &&
        (s.updatedObjectsWithDependencies.bind (·.anyDependencyForObject object)).isNone &&
        s.objectShouldBeSynced cfg object

omit [DecidableEq ν] in
/-- **A blocked first object hides all others.**  `nextObjectToSync` does not
look past the set's first pick: if that object is blocked it returns `nil`
and leaves the sync as it was, whatever the other objects are. -/
theorem nextObjectToSync_of_firstEntryBlocked (h : s.firstEntryBlocked cfg = true) :
    s.nextObjectToSync cfg = (s, none) := by
  unfold firstEntryBlocked at h
  split at h
  · cases h
  · rename_i o ref rest hlist
    split at h
    · cases h
    · rename_i st hst
      simp only [Bool.and_eq_true, decide_eq_true_eq, Bool.not_eq_true'] at h
      obtain ⟨hkeys, hblocked⟩ := h
      have hany := s.updatedObjects.anyObjectToSynchronize_of_head s.context hlist hst hkeys
      simp only [nextObjectToSync, hany, Option.filter_some, hblocked]
      rfl

omit [DecidableEq ν] in
theorem processNextUpdate_of_firstEntryBlocked (h : s.firstEntryBlocked cfg = true)
    (shouldCreateRequest : Bool) (requestKeys : Finset κ) :
    s.processNextUpdate cfg shouldCreateRequest requestKeys = (s, none) := by
  simp only [processNextUpdate, s.nextObjectToSync_of_firstEntryBlocked cfg h]

end ZMUpstreamModifiedObjectSync

namespace UpstreamModifiedObjectSync

/-- A request in flight: its issue number, the object and keys
`nextObjectToSync` picked, the keys the transcoder's request carries, and
the token its completion handler captured. -/
structure InFlight (ω κ ν : Type*) where
  request : Nat
  objectWithKeys : ZMObjectWithKeys ω κ
  keys : Finset κ
  token : ZMModifiedObjectSyncToken ω κ ν

/-- The sync together with the requests it has handed out and not yet seen
completed. -/
structure World (ω κ ν : Type*) where
  sync : ZMUpstreamModifiedObjectSync ω κ ν
  inFlight : List (InFlight ω κ ν)
  issued : Nat

/-- What can happen next: a local edit of one key, the sync's entry points
with the transcoder's dependency answers, and the completion of a request
in flight with the transcoder's answers. -/
inductive Event (ω κ ν : Type*)
  | localEdit (object : ω) (key : κ) (value : ν)
  | addTrackedObjects (objects : List ω) (dependencyOf : ω → Option ω)
  | objectsDidChange (objects : List ω) (dependencyOf : ω → Option ω)
  | nextRequest (shouldCreateRequest : Bool) (requestKeys : Finset κ)
  | complete (request : Nat) (result : ZMTransportResponseStatus) (answers : TranscoderAnswers ω)

variable (cfg : ZMUpstreamModifiedObjectSyncConfig ω κ ν)

/-- A fresh sync over some objects, with nothing in flight. -/
def World.init (context : ObjectStore ω κ ν) (keysToSync : Option (Finset κ))
    (transcoderHasDependencies : Bool) : World ω κ ν :=
  ⟨ZMUpstreamModifiedObjectSync.init context keysToSync transcoderHasDependencies, [], 0⟩

/-- One event. -/
def World.step (w : World ω κ ν) : Event ω κ ν → World ω κ ν
  | .localEdit object key value =>
      let edited := (w.sync.context object).edit key value
      { w with sync := { w.sync with context := Function.update w.sync.context object edited } }
  | .addTrackedObjects objects dependencyOf =>
      { w with sync := w.sync.addTrackedObjects cfg dependencyOf objects }
  | .objectsDidChange objects dependencyOf =>
      { w with sync := w.sync.objectsDidChange cfg dependencyOf objects }
  | .nextRequest shouldCreateRequest requestKeys =>
      let processed := w.sync.processNextUpdate cfg shouldCreateRequest requestKeys
      match processed.2 with
      | none => { w with sync := processed.1 }
      | some (objectWithKeys, token) =>
          { sync := processed.1,
            inFlight := w.inFlight ++ [⟨w.issued, objectWithKeys, requestKeys, token⟩],
            issued := w.issued + 1 }
  | .complete request result answers =>
      match w.inFlight.find? (·.request = request) with
      | none => w
      | some r =>
          { w with sync := w.sync.completionHandler r.objectWithKeys r.keys r.token result answers,
                   inFlight := w.inFlight.filter (·.request ≠ request) }

/-- The keys the completion handler of `r` would hand to the transcoder now. -/
def World.keysToParse (w : World ω κ ν) (r : InFlight ω κ ν) : Finset κ :=
  (w.sync.updatedObjects.keysToParseAfterSyncingToken w.sync.context r.token).2

/-- Local edits, as events. -/
def localEdits (edits : List (ω × κ × ν)) : List (Event ω κ ν) :=
  edits.map fun e => .localEdit e.1 e.2.1 e.2.2

variable {cfg} {w : World ω κ ν}

/-! ### The invariant -/

/-- The set is good, every request in flight holds a token of its object
and keys, and issue numbers are distinct and below the counter. -/
structure Good (w : World ω κ ν) : Prop where
  set : w.sync.updatedObjects.Good
  tokens : ∀ r ∈ w.inFlight, w.sync.updatedObjects.TokenRefers r.token r.objectWithKeys.object r.keys
  request_lt : ∀ r ∈ w.inFlight, r.request < w.issued
  nodup : (w.inFlight.map (·.request)).Nodup

omit [DecidableEq ω] [DecidableEq κ] [DecidableEq ν] in
theorem Good.init (context : ObjectStore ω κ ν) (keysToSync : Option (Finset κ))
    (transcoderHasDependencies : Bool) :
    Good (World.init context keysToSync transcoderHasDependencies) where
  set := ZMLocallyModifiedObjectSet.init_good keysToSync
  tokens := by simp [World.init]
  request_lt := by simp [World.init]
  nodup := by simp [World.init]

omit [DecidableEq ω] [DecidableEq κ] [DecidableEq ν] in
/-- A step that only touches the set through operations that keep it good
keeps the invariant. -/
theorem Good.of_kept (h : Good w) {s' : ZMUpstreamModifiedObjectSync ω κ ν}
    (hkept : w.sync.SetKept s') : Good { w with sync := s' } where
  set := hkept.1
  tokens r hr := (h.tokens r hr).mono _ hkept.2
  request_lt := h.request_lt
  nodup := h.nodup

theorem Good.nextRequest (h : Good w) (shouldCreateRequest : Bool) (requestKeys : Finset κ) :
    Good (w.step cfg (.nextRequest shouldCreateRequest requestKeys)) := by
  obtain ⟨hkept, hrefers⟩ := w.sync.processNextUpdate_kept cfg h.set shouldCreateRequest requestKeys
  simp only [World.step]
  split
  · exact h.of_kept hkept
  · rename_i objectWithKeys token hsome
    refine ⟨hkept.1, ?_, ?_, ?_⟩
    · rw [List.forall_mem_append, List.forall_mem_singleton]
      exact ⟨fun r hr => (h.tokens r hr).mono _ hkept.2, hrefers objectWithKeys token hsome⟩
    · exact keys_lt_issue InFlight.request h.request_lt rfl
    · exact keys_nodup_issue InFlight.request h.request_lt h.nodup rfl

theorem Good.complete (h : Good w) (request : Nat) (result : ZMTransportResponseStatus)
    (answers : TranscoderAnswers ω) : Good (w.step cfg (.complete request result answers)) := by
  simp only [World.step]
  split
  · exact h
  · rename_i r hfind
    have hr : r ∈ w.inFlight := List.mem_of_find?_eq_some hfind
    have hkept := w.sync.completionHandler_kept h.set (h.tokens r hr) r.objectWithKeys r.keys
      result answers
    refine ⟨hkept.1, ?_, ?_, ?_⟩
    · intro r' hr'
      exact (h.tokens r' (List.mem_of_mem_filter hr')).mono _ hkept.2
    · intro r' hr'
      exact h.request_lt r' (List.mem_of_mem_filter hr')
    · exact (List.filter_sublist.map _).nodup h.nodup

theorem Good.step (h : Good w) (e : Event ω κ ν) : Good (w.step cfg e) := by
  cases e with
  | localEdit object key value => exact ⟨h.set, h.tokens, h.request_lt, h.nodup⟩
  | addTrackedObjects objects dependencyOf =>
      exact h.of_kept (w.sync.addTrackedObjects_kept cfg dependencyOf h.set objects)
  | objectsDidChange objects dependencyOf =>
      exact h.of_kept (w.sync.objectsDidChange_kept cfg dependencyOf h.set objects)
  | nextRequest shouldCreateRequest requestKeys =>
      exact h.nextRequest shouldCreateRequest requestKeys
  | complete request result answers => exact h.complete request result answers

/-- **Every reachable state is good.** -/
theorem Good.reachable {context : ObjectStore ω κ ν} {keysToSync : Option (Finset κ)}
    {transcoderHasDependencies : Bool}
    (hw : Reachable (World.step cfg) (World.init context keysToSync transcoderHasDependencies) w) :
    Good w :=
  Reachable.induction Good (Good.init context keysToSync transcoderHasDependencies)
    (fun _ e hs => hs.step e) hw

omit [DecidableEq ω] in
/-- The keys a completion hands to the transcoder are among the keys its
request carries. -/
theorem Good.keysToParse_subset (h : Good w) {r : InFlight ω κ ν} (hr : r ∈ w.inFlight) :
    w.keysToParse r ⊆ r.keys := by
  obtain ⟨st, t, hst, -, ht, -, -, hkeys⟩ := h.tokens r hr
  simp only [World.keysToParse, ZMLocallyModifiedObjectSet.keysToParseAfterSyncingToken, hst, ht]
  rw [← hkeys]
  exact Finset.sdiff_subset

/-! ### Edits while a request is in flight -/

/-- Local edits change only the objects' values and flags. -/
theorem run_localEdits (edits : List (ω × κ × ν)) :
    ∀ w : World ω κ ν,
      (run (World.step cfg) w (localEdits edits)).inFlight = w.inFlight ∧
      (run (World.step cfg) w (localEdits edits)).sync.updatedObjects = w.sync.updatedObjects ∧
      ∀ o,
        ((run (World.step cfg) w (localEdits edits)).sync.context
            o).keysTrackedForLocalModifications =
          (w.sync.context o).keysTrackedForLocalModifications := by
  induction edits with
  | nil => intro w; simp [localEdits]
  | cons e rest ih =>
      intro w
      obtain ⟨h₁, h₂, h₃⟩ := ih (w.step cfg (.localEdit e.1 e.2.1 e.2.2))
      refine ⟨h₁, h₂, fun o => ?_⟩
      rw [localEdits, List.map_cons, run_cons]
      rw [localEdits] at h₃
      rw [h₃ o]
      by_cases ho : o = e.1
      · subst ho
        simp [World.step]
      · simp [World.step, ho]

/-- A modification flag, once raised, survives further local edits. -/
theorem run_localEdits_mono (edits : List (ω × κ × ν)) {o : ω} {k : κ} :
    ∀ w : World ω κ ν, k ∈ (w.sync.context o).keysThatHaveLocalModifications →
      k ∈ ((run (World.step cfg) w (localEdits edits)).sync.context
        o).keysThatHaveLocalModifications := by
  induction edits with
  | nil => intro w hk; simpa [localEdits] using hk
  | cons e rest ih =>
      intro w hk
      rw [localEdits, List.map_cons, run_cons]
      apply ih
      by_cases ho : o = e.1
      · subst ho
        simp only [World.step, Function.update_self]
        exact (ManagedObject.mem_edit_keysThatHaveLocalModifications _).mpr (Or.inl hk)
      · simpa [World.step, ho] using hk

/-- An edit of a tracked key among the edits leaves it flagged. -/
theorem mem_run_localEdits {edits : List (ω × κ × ν)} {o : ω} {k : κ} {v : ν}
    (hedit : (o, k, v) ∈ edits) :
    ∀ w : World ω κ ν, k ∈ (w.sync.context o).keysTrackedForLocalModifications →
      k ∈ ((run (World.step cfg) w (localEdits edits)).sync.context
        o).keysThatHaveLocalModifications := by
  induction edits with
  | nil => simp at hedit
  | cons e rest ih =>
      intro w htracked
      rw [localEdits, List.map_cons, run_cons]
      rcases List.mem_cons.mp hedit with rfl | hrest
      · apply run_localEdits_mono
        simp only [World.step, Function.update_self]
        exact (ManagedObject.mem_edit_keysThatHaveLocalModifications _).mpr (Or.inr ⟨rfl, htracked⟩)
      · apply ih hrest
        by_cases ho : o = e.1
        · subst ho
          simpa [World.step] using htracked
        · simpa [World.step, ho] using htracked

/-- The completion of a request in flight runs its own completion handler. -/
theorem Good.step_complete (h : Good w) {r : InFlight ω κ ν} (hr : r ∈ w.inFlight)
    (result : ZMTransportResponseStatus) (answers : TranscoderAnswers ω) :
    (w.step cfg (.complete r.request result answers)).sync =
      w.sync.completionHandler r.objectWithKeys r.keys r.token result answers := by
  have hfind : w.inFlight.find? (·.request = r.request) = some r :=
    find?_key_eq_some h.nodup hr
  simp only [World.step, hfind]

/-- **No silently dropped edit, corrected.**  In every reachable state, for
every request in flight, every key `k` it carries that the object tracks,
and every sequence of local edits that edits `k` before the response
arrives, `k` is still flagged as locally modified after the completion
handler exactly when the response is a temporary error or a
try-again-later, a success for which the transcoder asks for more requests
while some key of the request is still unchanged, or a permanent error the
transcoder retries.  In every other case (a plain success, an expiry, a
permanent error without retry) the flag is reset and the newer value is
never uploaded. -/
theorem upstreamModifiedObjectSync_edit_in_flight
    {context : ObjectStore ω κ ν} {keysToSync : Option (Finset κ)} {transcoderHasDependencies : Bool}
    (hw : Reachable (World.step cfg) (World.init context keysToSync transcoderHasDependencies) w)
    {r : InFlight ω κ ν} (hr : r ∈ w.inFlight) {k : κ} (hk : k ∈ r.keys)
    (htracked : k ∈ (w.sync.context r.objectWithKeys.object).keysTrackedForLocalModifications)
    {edits : List (ω × κ × ν)} {v : ν} (hedit : (r.objectWithKeys.object, k, v) ∈ edits)
    (result : ZMTransportResponseStatus) (answers : TranscoderAnswers ω) :
    k ∈ (((run (World.step cfg) w (localEdits edits)).step cfg
        (.complete r.request result answers)).sync.context
          r.objectWithKeys.object).keysThatHaveLocalModifications ↔
      result = .temporaryError ∨ result = .tryAgainLater ∨
        (result = .success ∧ 0 < ((run (World.step cfg) w (localEdits edits)).keysToParse r).card ∧
          answers.transcoderNeedsMoreRequests = true) ∨
        (result = .permanentError ∧ answers.shouldResyncObject = true) := by
  have hgood : Good w := Good.reachable hw
  set w' := run (World.step cfg) w (localEdits edits)
  -- The edits leave the set and the requests alone, so the invariant still
  -- holds after them and `r`'s token still points at its object.
  have hgood' : Good w' :=
    run_invariant Good (fun s e hs => hs.step e) (localEdits edits) hgood
  have hinFlight : w'.inFlight = w.inFlight := (run_localEdits edits w).1
  have hr' : r ∈ w'.inFlight := hinFlight ▸ hr
  have hmod : k ∈ (w'.sync.context r.objectWithKeys.object).keysThatHaveLocalModifications :=
    mem_run_localEdits hedit w htracked
  rw [hgood'.step_complete hr']
  exact w'.sync.completionHandler_keysThatHaveLocalModifications hgood'.set
    (hgood'.tokens r hr') hk hmod result answers

/-- A blocked first object makes `nextRequest` a no-op. -/
theorem World.step_nextRequest_of_firstEntryBlocked (h : w.sync.firstEntryBlocked cfg = true)
    (shouldCreateRequest : Bool) (requestKeys : Finset κ) :
    w.step cfg (.nextRequest shouldCreateRequest requestKeys) = w := by
  simp only [World.step, w.sync.processNextUpdate_of_firstEntryBlocked cfg h]

/-- Whatever the transcoder would answer, no number of `nextRequest` calls
gets past a blocked first object. -/
theorem run_nextRequests_of_firstEntryBlocked (h : w.sync.firstEntryBlocked cfg = true)
    (requests : List (Bool × Finset κ)) :
    run (World.step cfg) w (requests.map fun q => .nextRequest q.1 q.2) = w := by
  induction requests with
  | nil => rfl
  | cons q rest ih =>
      rw [List.map_cons, run_cons, World.step_nextRequest_of_firstEntryBlocked h]
      exact ih

/-! ### Runs on concrete objects -/

/-- Objects with values `0`, no modified keys and key `0` tracked. -/
def exampleContext : ObjectStore Nat Nat Nat := fun _ => ⟨fun _ => 0, ∅, {0}, false⟩

/-- A sync of every object whose predicate always holds. -/
def exampleConfig : ZMUpstreamModifiedObjectSyncConfig Nat Nat Nat :=
  ⟨fun _ => true, fun _ => true, none⟩

/-- A transcoder without dependencies. -/
def noDependency : Nat → Option Nat := fun _ => none

/-- Object `0` gets a new value for key `0`, which is then sent: request `0`
is in flight with the captured value `1`. -/
def sentWorld : World Nat Nat Nat :=
  run (World.step exampleConfig) (World.init exampleContext none false)
    [.localEdit 0 0 1, .objectsDidChange [0] noDependency, .nextRequest true {0}]

theorem upstreamModifiedObjectSync_edit_in_flight_retried :
    ∃ r ∈ sentWorld.inFlight,
      (0 ∈ (((run (World.step exampleConfig) sentWorld (localEdits [(0, 0, 2)])).step exampleConfig
          (.complete r.request .temporaryError ⟨false, false, noDependency, none⟩)).sync.context
            r.objectWithKeys.object).keysThatHaveLocalModifications ↔
        ZMTransportResponseStatus.temporaryError = .temporaryError ∨
          ZMTransportResponseStatus.temporaryError = .tryAgainLater ∨
          (ZMTransportResponseStatus.temporaryError = .success ∧
            0 < ((run (World.step exampleConfig) sentWorld (localEdits [(0, 0, 2)])).keysToParse r).card ∧
            false = true) ∨
          (ZMTransportResponseStatus.temporaryError = .permanentError ∧ false = true)) := by
  have hsent : ∀ r ∈ sentWorld.inFlight, r.keys = {0} ∧ r.objectWithKeys.object = 0 := by
    decide +kernel
  obtain ⟨r, hr⟩ : ∃ r, r ∈ sentWorld.inFlight :=
    List.exists_mem_of_length_pos (by decide +kernel)
  obtain ⟨hkeys, hobject⟩ := hsent r hr
  have hk : (0 : Nat) ∈ r.keys := by simp [hkeys]
  have htracked : (0 : Nat) ∈
      (sentWorld.sync.context r.objectWithKeys.object).keysTrackedForLocalModifications := by
    rw [hobject]
    decide +kernel
  have hedit : (r.objectWithKeys.object, 0, 2) ∈ [((0 : Nat), (0 : Nat), (2 : Nat))] := by
    simp [hobject]
  exact ⟨r, hr, upstreamModifiedObjectSync_edit_in_flight ⟨_, rfl⟩ hr hk htracked hedit _ _⟩

/-- Editing the key again while its request is in flight, then a success on
which the transcoder asks for nothing more: the flag is reset, the object
holds `2` while the server got `1`, and nothing will send it again. -/
theorem upstreamModifiedObjectSync_edit_dropped_on_success :
    let w := run (World.step exampleConfig) sentWorld
      [.localEdit 0 0 2, .complete 0 .success ⟨false, false, noDependency, none⟩]
    (sentWorld.inFlight.head?.bind (·.token.syncToken)).map (·.previousValues 0) = some 1 ∧
      (w.sync.context 0).values 0 = 2 ∧
      0 ∉ (w.sync.context 0).keysThatHaveLocalModifications ∧
      (w.sync.updatedObjects.anyObjectToSynchronize w.sync.context).2.isNone ∧
      w.inFlight.isEmpty := by
  decide +kernel

/-- A sync whose update predicate requires key `1`, which no object tracks,
to be `0`: an object leaves the predicate when that key changes, as a
message does when it expires. -/
def expiringConfig : ZMUpstreamModifiedObjectSyncConfig Nat Nat Nat :=
  ⟨fun _ => true, fun o => o.values 1 == 0, none⟩

/-- Objects `0` and `1` are edited and enter the set in that order; then
object `0` stops matching the update predicate while its key is still
modified. -/
def expiredFirstWorld : World Nat Nat Nat :=
  run (World.step expiringConfig) (World.init exampleContext none false)
    [.localEdit 0 0 1, .objectsDidChange [0] noDependency,
     .localEdit 1 0 1, .objectsDidChange [1] noDependency,
     .localEdit 0 1 1, .objectsDidChange [0] noDependency]

/-- Object `1` is ready, yet no `nextRequest` ever sends anything: the
expired object `0` comes first and `nextObjectToSync` does not look further. -/
theorem upstreamModifiedObjectSync_blocked_object_starves :
    expiredFirstWorld.sync.readyToSync expiringConfig 1 = true ∧
      expiredFirstWorld.inFlight.isEmpty ∧
      ∀ requests : List (Bool × Finset Nat),
        run (World.step expiringConfig) expiredFirstWorld
          (requests.map fun q => .nextRequest q.1 q.2) = expiredFirstWorld := by
  refine ⟨by decide +kernel, by decide +kernel, fun requests => ?_⟩
  exact run_nextRequests_of_firstEntryBlocked (by decide +kernel) requests

end UpstreamModifiedObjectSync

end ZMessaging
