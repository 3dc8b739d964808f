import ZMessaging.DownstreamObjectSync

/-!
# `ZMDownstreamObjectSyncWithWhitelist`: fetching only whitelisted objects

The whitelist sync owns an inner downstream sync, created with its entity
and predicate and no filter, and acts as that sync's transcoder by passing
every call on to its own.  It has no fetch request for tracked objects and
ignores `addTrackedObjects:`; `whiteListObject:` adds an object to the
whitelist and reports it as changed to the inner sync, and
`objectsDidChange:` reports only the whitelisted objects among those that
changed.

A whitelist world is a world of the inner sync under a whitelist
(`World.inner`), and each of its events is an event of the inner sync
(`step_inner`), so the inner sync's invariant holds of it.  The result
(`downstreamObjectSyncWithWhitelist_fetches_only_whitelisted`): every object
pending or being fetched is whitelisted and of the entity, and a fetch
request handed out is for such an object that matches the predicate.
-/

namespace ZMessaging

open StepSystem

variable {ω κ ν : Type*} [DecidableEq ω]

/-- What a whitelist sync is created with. -/
structure ZMDownstreamObjectSyncWithWhitelistConfig (ω κ ν : Type*) where
  isTrackedEntity : ω → Bool
  predicateForObjectsToDownload : ManagedObject κ ν → Bool

/-- The inner sync's configuration: the same entity and predicate, no filter. -/
def ZMDownstreamObjectSyncWithWhitelistConfig.inner
    (cfg : ZMDownstreamObjectSyncWithWhitelistConfig ω κ ν) : ZMDownstreamObjectSyncConfig ω κ ν :=
  ⟨cfg.isTrackedEntity, cfg.predicateForObjectsToDownload, none⟩

/-- The state of a `ZMDownstreamObjectSyncWithWhitelist`. -/
structure ZMDownstreamObjectSyncWithWhitelist (ω κ ν : Type*) where
  whitelist : Finset ω
  innerDownstreamSync : ZMDownstreamObjectSync ω κ ν

namespace ZMDownstreamObjectSyncWithWhitelist

variable (cfg : ZMDownstreamObjectSyncWithWhitelistConfig ω κ ν)

/-- `initWithTranscoder:entityName:predicateForObjectsToDownload:managedObjectContext:`. -/
def init (context : ObjectStore ω κ ν) (sortDescriptors : Option (ω → ω → Bool)) :
    ZMDownstreamObjectSyncWithWhitelist ω κ ν :=
  ⟨∅, .init context sortDescriptors⟩

variable (s : ZMDownstreamObjectSyncWithWhitelist ω κ ν)

/-- `whiteListObject:`. -/
def whiteListObject (object : ω) : ZMDownstreamObjectSyncWithWhitelist ω κ ν :=
  { whitelist := insert object s.whitelist,
    innerDownstreamSync := s.innerDownstreamSync.objectsDidChange cfg.inner [object] }

/-- `objectsDidChange:`: the whitelisted objects among those that changed. -/
def objectsDidChange (objects : List ω) : ZMDownstreamObjectSyncWithWhitelist ω κ ν :=
  { s with innerDownstreamSync :=
      s.innerDownstreamSync.objectsDidChange cfg.inner (objects.filter (· ∈ s.whitelist)) }

/-- `addTrackedObjects:`, a no-op. -/
def addTrackedObjects (_objects : List ω) : ZMDownstreamObjectSyncWithWhitelist ω κ ν := s

/-- `hasOutstandingItems`. -/
def hasOutstandingItems : Bool := s.innerDownstreamSync.hasOutstandingItems

/-- `nextRequest`: the inner sync's, which asks this sync, and so its
transcoder, for the request. -/
def nextRequest (requestForFetchingObject : ω → Bool) :
    ZMDownstreamObjectSyncWithWhitelist ω κ ν × Option (ω × ZMSyncToken κ ν) :=
  let next := s.innerDownstreamSync.nextRequest cfg.inner requestForFetchingObject
  ({ s with innerDownstreamSync := next.1 }, next.2)

end ZMDownstreamObjectSyncWithWhitelist

namespace DownstreamObjectSyncWithWhitelist

/-- The whitelist sync, the fetch requests its inner sync handed out and not
yet seen completed, and the calls passed on to the transcoder. -/
structure World (ω κ ν : Type*) where
  sync : ZMDownstreamObjectSyncWithWhitelist ω κ ν
  inFlight : List (DownstreamObjectSync.InFlight ω κ ν)
  issued : Nat
  transcoderCalls : List (ZMDownstreamTranscoderCall ω)

/-- What can happen next. -/
inductive Event (ω κ ν : Type*)
  | change (object : ω) (value : ManagedObject κ ν)
  | whiteListObject (object : ω)
  | addTrackedObjects (objects : List ω)
  | objectsDidChange (objects : List ω)
  | nextRequest (requestForFetchingObject : ω → Bool)
  | complete (request : Nat) (result : ZMTransportResponseStatus) (isZombieObject : Bool)

/-- The world of the inner sync. -/
def World.inner (w : World ω κ ν) : DownstreamObjectSync.World ω κ ν :=
  ⟨w.sync.innerDownstreamSync, w.inFlight, w.issued, w.transcoderCalls⟩

/-- A world of the inner sync under a whitelist. -/
def World.ofInner (whitelist : Finset ω) (w : DownstreamObjectSync.World ω κ ν) : World ω κ ν :=
  ⟨⟨whitelist, w.sync⟩, w.inFlight, w.issued, w.transcoderCalls⟩

variable (cfg : ZMDownstreamObjectSyncWithWhitelistConfig ω κ ν) [DecidableEq ν]

/-- A fresh whitelist sync with nothing in flight. -/
def World.init (context : ObjectStore ω κ ν) (sortDescriptors : Option (ω → ω → Bool)) :
    World ω κ ν :=
  ⟨.init context sortDescriptors, [], 0, []⟩

/-- One event.  Requests and completions are the inner sync's, since the
completion handlers belong to it. -/
def World.step (w : World ω κ ν) : Event ω κ ν → World ω κ ν
  | .change object value =>
      World.ofInner w.sync.whitelist (w.inner.step cfg.inner (.change object value))
  | .whiteListObject object => { w with sync := w.sync.whiteListObject cfg object }
  | .addTrackedObjects objects => { w with sync := w.sync.addTrackedObjects objects }
  | .objectsDidChange objects => { w with sync := w.sync.objectsDidChange cfg objects }
  | .nextRequest requestForFetchingObject =>
      let next := w.sync.nextRequest cfg requestForFetchingObject
      World.ofInner next.1.whitelist (w.inner.issue (next.1.innerDownstreamSync, next.2))
  | .complete request result isZombieObject =>
      World.ofInner w.sync.whitelist (w.inner.complete request result isZombieObject)

/-- The event of the inner sync that an event is, under the whitelist. -/
def Event.inner (whitelist : Finset ω) : Event ω κ ν → DownstreamObjectSync.Event ω κ ν
  | .change object value => .change object value
  | .whiteListObject object => .objectsDidChange [object]
  | .addTrackedObjects _ => .objectsDidChange []
  | .objectsDidChange objects => .objectsDidChange (objects.filter (· ∈ whitelist))
  | .nextRequest requestForFetchingObject => .nextRequest requestForFetchingObject
  | .complete request result isZombieObject => .complete request result isZombieObject

/-- **The inner sync sees an event of its own.**  Each step of the whitelist
sync is the step of its inner sync on the event it stands for. -/
theorem step_inner (w : World ω κ ν) (e : Event ω κ ν) :
    (w.step cfg e).inner = w.inner.step cfg.inner (e.inner w.sync.whitelist) := by
  cases e <;> rfl

/-- Only `whiteListObject:` grows the whitelist. -/
theorem whitelist_step (w : World ω κ ν) (e : Event ω κ ν) :
    (w.step cfg e).sync.whitelist =
      match e with
      | .whiteListObject object => insert object w.sync.whitelist
      | _ => w.sync.whitelist := by
  cases e <;> rfl

variable {cfg}

/-- Every object pending in the inner sync is whitelisted and of the entity. -/
def Whitelisted (cfg : ZMDownstreamObjectSyncWithWhitelistConfig ω κ ν) (w : World ω κ ν) : Prop :=
  ∀ o ∈ w.sync.innerDownstreamSync.objectsToDownload.pendingOperationSet,
    o ∈ w.sync.whitelist ∧ cfg.isTrackedEntity o = true

/-- The inner sync's invariant and the whitelist's, kept by every step. -/
theorem good_step {w : World ω κ ν} (h : DownstreamObjectSync.Good w.inner ∧ Whitelisted cfg w)
    (e : Event ω κ ν) : DownstreamObjectSync.Good (w.step cfg e).inner ∧ Whitelisted cfg (w.step cfg e) := by
  obtain ⟨hgood, hwhite⟩ := h
  rw [step_inner]
  refine ⟨hgood.step (e.inner w.sync.whitelist), fun o ho => ?_⟩
  have ho' : o ∈ (w.inner.step cfg.inner (e.inner w.sync.whitelist)).sync.objectsToDownload.pendingOperationSet := by
    rw [← step_inner]
    exact ho
  rw [whitelist_step]
  rcases hgood.enqueues (e.inner w.sync.whitelist) ho' with hold | hnew
  · -- pending before: whitelisted before, and the whitelist only grows
    obtain ⟨hlisted, htracked⟩ := hwhite o hold
    refine ⟨?_, htracked⟩
    cases e <;> first | exact hlisted | exact Finset.mem_insert_of_mem hlisted
  · -- newly pending: reported by the whitelist sync, which reports only whitelisted objects
    cases e with
    | whiteListObject object =>
        obtain ⟨hmem, hadmits⟩ := hnew
        obtain rfl := List.mem_singleton.mp hmem
        exact ⟨Finset.mem_insert_self o _, (Bool.and_eq_true_iff.mp hadmits).1⟩
    | addTrackedObjects objects => exact absurd hnew.1 List.not_mem_nil
    | objectsDidChange objects =>
        obtain ⟨hmem, hadmits⟩ := hnew
        exact ⟨of_decide_eq_true (List.mem_filter.mp hmem).2, (Bool.and_eq_true_iff.mp hadmits).1⟩
    | change object value => exact hnew.elim
    | nextRequest requestForFetchingObject => exact hnew.elim
    | complete request result isZombieObject => exact hnew.elim

/-- **Only whitelisted objects are fetched.**  In every reachable state of a
whitelist sync (any interleaving of changes to the objects, whitelisting,
`addTrackedObjects:`, `objectsDidChange:` with any objects, `nextRequest`
with any transcoder answers, and completions with any result), every object
being fetched is whitelisted and of the entity, and the request
`nextRequest` hands out, if any, is for a whitelisted object of the entity
that matches the predicate. -/
theorem downstreamObjectSyncWithWhitelist_fetches_only_whitelisted
    {context : ObjectStore ω κ ν} {sortDescriptors : Option (ω → ω → Bool)} {w : World ω κ ν}
    (hw : Reachable (World.step cfg) (World.init context sortDescriptors) w)
    (requestForFetchingObject : ω → Bool) :
    (∀ r ∈ w.inFlight, r.object ∈ w.sync.whitelist ∧ cfg.isTrackedEntity r.object = true) ∧
      ∀ object token,
        (w.sync.nextRequest cfg requestForFetchingObject).2 = some (object, token) →
          object ∈ w.sync.whitelist ∧ cfg.isTrackedEntity object = true ∧
            cfg.predicateForObjectsToDownload (w.sync.innerDownstreamSync.context object) = true := by
  have hinit : DownstreamObjectSync.Good (World.init context sortDescriptors : World ω κ ν).inner ∧
      Whitelisted cfg (World.init context sortDescriptors) :=
    ⟨DownstreamObjectSync.Good.init context sortDescriptors, fun o ho => nomatch ho⟩
  obtain ⟨hgood, hwhite⟩ :=
    Reachable.induction (fun w => DownstreamObjectSync.Good w.inner ∧ Whitelisted cfg w) hinit
      (fun _ e h => good_step h e) hw
  refine ⟨fun r hr => hwhite r.object (hgood.pending_of_inFlight r hr), ?_⟩
  intro object token hsome
  obtain ⟨hpending, -, hpredicate, -⟩ :=
    (w.sync.innerDownstreamSync.nextRequest_spec cfg.inner requestForFetchingObject).handed
      object token hsome
  have hold := (w.sync.innerDownstreamSync.nextRequest_spec cfg.inner
    requestForFetchingObject).sublist.subset hpending
  exact ⟨(hwhite object hold).1, (hwhite object hold).2, hpredicate⟩

/-- A sync of whitelisted objects of any entity with the default predicate. -/
def exampleWhitelistConfig : ZMDownstreamObjectSyncWithWhitelistConfig Nat Nat Nat :=
  ⟨fun _ => true, ZMDownstreamObjectSyncConfig.needsToBeUpdatedFromBackend⟩

/-- Objects `0` and `1` change and then `1` is whitelisted. -/
def whitelistOneRun : World Nat Nat Nat :=
  run (World.step exampleWhitelistConfig) (World.init DownstreamObjectSync.staleObjects none)
    [.objectsDidChange [0, 1], .whiteListObject 1]

/-- Only object `1` may be fetched after that run. -/
theorem downstreamObjectSyncWithWhitelist_fetches_only_whitelisted_one :
    (∀ r ∈ whitelistOneRun.inFlight, r.object ∈ whitelistOneRun.sync.whitelist ∧
        exampleWhitelistConfig.isTrackedEntity r.object = true) ∧
      ∀ object token,
        (whitelistOneRun.sync.nextRequest exampleWhitelistConfig fun _ => true).2 =
            some (object, token) →
          object ∈ whitelistOneRun.sync.whitelist ∧
            exampleWhitelistConfig.isTrackedEntity object = true ∧
            exampleWhitelistConfig.predicateForObjectsToDownload
              (whitelistOneRun.sync.innerDownstreamSync.context object) = true :=
  downstreamObjectSyncWithWhitelist_fetches_only_whitelisted ⟨_, rfl⟩ fun _ => true

end DownstreamObjectSyncWithWhitelist

end ZMessaging
