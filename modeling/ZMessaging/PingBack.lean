import ZMessaging.StepSystem
import ZMessaging.TransportResponse
import Mathlib.Logic.Function.Basic

/-!
# VoIP pushes: ping-back and notice requests

`BackgroundAPNSPingBackStatus` queues the VoIP pushes the app receives
(`notificationIDs`) and keeps each push's handler by its identifier. Two
request strategies drain the queue. `PingBackRequestStrategy` handles an
ordinary push, and it asks only while the status is `Pinging`.
`PushNoticeRequestStrategy` handles a notice, and it asks only while the
status is `FetchingNotice`. Either one takes the head of the queue when it
builds its request. The completion handler of a request hands the response
back to the status object. That object calls the push's handler, or queues
the push again on try-again-later. It then recomputes `status` from the new
head of the queue.

The status is recomputed only when a push arrives while it is `Done`, and
when a request completes. The notice strategy takes the notice off the queue
*before* it checks that the self client has a remote identifier. If that
check fails, the notice is gone and no request carries it. The status then
still says `FetchingNotice` for whatever is next in the queue.

Main results:

* `HandlersOnce.run`: when every push brings a handler not seen before, no
  handler is ever called twice, in any interleaving of pushes, requests and
  completions;
* `doneEmpty_run`: the status is `Done` only when the queue is empty;
* `Stalled.run`: a queue whose head the status does not match, with nothing
  in flight, stays so for ever, and no handler is called again;
* `pingBack_notice_without_self_client_stalls`: such a state is reached from
  the start by a notice followed by any other push.
-/

namespace ZMessaging.PingBack

open StepSystem

/-- `ZMPushPayloadResult`. -/
inductive ZMPushPayloadResult
  | failure
  | success
  | noData
  deriving DecidableEq, Repr

/-- `PingBackStatus`. -/
inductive PingBackStatus
  | pinging
  | fetchingNotice
  | done
  deriving DecidableEq, Repr

/-- `EventsWithIdentifier`: the events of a push, its notification identifier
and whether it is a notice. -/
structure EventsWithIdentifier (ι ε : Type*) where
  events : Option (List ε)
  identifier : ι
  isNotice : Bool
  deriving DecidableEq, Repr

/-- `BackgroundAPNSPingBackStatus`, together with what it asks of its
collaborators. A handler is named by a value of `η`. -/
structure BackgroundAPNSPingBackStatus (ι ε η : Type*) where
  eventsWithHandlerByNotificationID : ι → Option (Option (List ε) × η)
  hasBackgroundActivity : Bool
  status : PingBackStatus
  notificationIDs : List (EventsWithIdentifier ι ε)
  notificationIDToEventsMap : ι → Option (List ε)
  /-- `authenticationStatusProvider.currentPhase == .Authenticated`. -/
  authenticated : Bool
  /-- The calls of `notificationDispatcher.didReceiveUpdateEvents`, in order. -/
  dispatched : List (List ε)
  /-- The calls of the handlers, in order. -/
  handled : List (η × ZMPushPayloadResult × List ε)

variable {ι ε η : Type*}

namespace BackgroundAPNSPingBackStatus

variable (s : BackgroundAPNSPingBackStatus ι ε η)

def hasNotificationIDs : Bool :=
  match s.notificationIDs.head? with
  | some next => !next.isNotice
  | none => false

def hasNoticeNotificationIDs : Bool :=
  match s.notificationIDs.head? with
  | some next => next.isNotice
  | none => false

/-- `notificationIDs.removeFirst()`, with the entry it returns. -/
def removeFirst : BackgroundAPNSPingBackStatus ι ε η × Option (EventsWithIdentifier ι ε) :=
  ({ s with notificationIDs := s.notificationIDs.tail }, s.notificationIDs.head?)

def nextNotificationEventsWithID :
    BackgroundAPNSPingBackStatus ι ε η × Option (EventsWithIdentifier ι ε) :=
  if s.hasNotificationIDs then s.removeFirst else (s, none)

def nextNoticeNotificationEventsWithID :
    BackgroundAPNSPingBackStatus ι ε η × Option (EventsWithIdentifier ι ε) :=
  if s.hasNoticeNotificationIDs then s.removeFirst else (s, none)

def updateStatus : BackgroundAPNSPingBackStatus ι ε η :=
  if s.notificationIDs.isEmpty then { s with hasBackgroundActivity := false, status := .done }
  else { s with status := if s.hasNoticeNotificationIDs then .fetchingNotice else .pinging }

/-- `notificationDispatcher?.didReceiveUpdateEvents(events)`. -/
def dispatch (events : List ε) : BackgroundAPNSPingBackStatus ι ε η :=
  { s with dispatched := s.dispatched ++ [events] }

/-- A call of a handler. -/
def invoke (handler : η) (result : ZMPushPayloadResult) (events : List ε) :
    BackgroundAPNSPingBackStatus ι ε η :=
  { s with handled := s.handled ++ [(handler, result, events)] }

/-! ### What each method changes -/

section Frame

variable {s : BackgroundAPNSPingBackStatus ι ε η}

@[simp] theorem updateStatus_eventsWithHandlerByNotificationID :
    s.updateStatus.eventsWithHandlerByNotificationID = s.eventsWithHandlerByNotificationID := by
  unfold updateStatus; split <;> rfl

@[simp] theorem updateStatus_handled : s.updateStatus.handled = s.handled := by
  unfold updateStatus; split <;> rfl

@[simp] theorem updateStatus_notificationIDs :
    s.updateStatus.notificationIDs = s.notificationIDs := by
  unfold updateStatus; split <;> rfl

@[simp] theorem updateStatus_authenticated : s.updateStatus.authenticated = s.authenticated := by
  unfold updateStatus; split <;> rfl

@[simp] theorem updateStatus_notificationIDToEventsMap :
    s.updateStatus.notificationIDToEventsMap = s.notificationIDToEventsMap := by
  unfold updateStatus; split <;> rfl

theorem updateStatus_status :
    s.updateStatus.status = if s.notificationIDs.isEmpty then .done
      else if s.hasNoticeNotificationIDs then .fetchingNotice else .pinging := by
  unfold updateStatus; split <;> rfl

@[simp] theorem dispatch_eventsWithHandlerByNotificationID (events : List ε) :
    (s.dispatch events).eventsWithHandlerByNotificationID = s.eventsWithHandlerByNotificationID :=
  rfl

@[simp] theorem dispatch_handled (events : List ε) : (s.dispatch events).handled = s.handled := rfl

@[simp] theorem dispatch_notificationIDs (events : List ε) :
    (s.dispatch events).notificationIDs = s.notificationIDs := rfl

@[simp] theorem dispatch_status (events : List ε) : (s.dispatch events).status = s.status := rfl

@[simp] theorem dispatch_notificationIDToEventsMap (events : List ε) :
    (s.dispatch events).notificationIDToEventsMap = s.notificationIDToEventsMap := rfl

@[simp] theorem invoke_eventsWithHandlerByNotificationID (handler : η)
    (result : ZMPushPayloadResult) (events : List ε) :
    (s.invoke handler result events).eventsWithHandlerByNotificationID =
      s.eventsWithHandlerByNotificationID := rfl

@[simp] theorem invoke_handled (handler : η) (result : ZMPushPayloadResult) (events : List ε) :
    (s.invoke handler result events).handled = s.handled ++ [(handler, result, events)] := rfl

@[simp] theorem invoke_notificationIDs (handler : η) (result : ZMPushPayloadResult)
    (events : List ε) : (s.invoke handler result events).notificationIDs = s.notificationIDs := rfl

@[simp] theorem invoke_status (handler : η) (result : ZMPushPayloadResult) (events : List ε) :
    (s.invoke handler result events).status = s.status := rfl

end Frame

variable [DecidableEq ι]

/-- `eventsWithHandlerByNotificationID.removeValueForKey(notificationID)`. -/
def removeHandler (notificationID : ι) : BackgroundAPNSPingBackStatus ι ε η :=
  { s with eventsWithHandlerByNotificationID :=
      Function.update s.eventsWithHandlerByNotificationID notificationID none }

def didReceiveVoIPNotification (eventsWithID : EventsWithIdentifier ι ε) (handler : η) :
    BackgroundAPNSPingBackStatus ι ε η :=
  let s := { s with
    notificationIDs := s.notificationIDs ++ [eventsWithID]
    eventsWithHandlerByNotificationID := Function.update s.eventsWithHandlerByNotificationID
      eventsWithID.identifier (some (eventsWithID.events, handler)) }
  let s := if s.authenticated then { s with hasBackgroundActivity := true } else s
  if s.status = .done then s.updateStatus else s

/-- `didPerfomPingBackRequest:responseStatus:`. Without a handler for the
identifier nothing follows the status update: the success branch has no
events, the try-again branch returns, and the handler call is skipped. -/
def didPerfomPingBackRequest (eventsWithID : EventsWithIdentifier ι ε)
    (responseStatus : ZMTransportResponseStatus) : BackgroundAPNSPingBackStatus ι ε η :=
  let notificationID := eventsWithID.identifier
  let eventsWithHandler := s.eventsWithHandlerByNotificationID notificationID
  let s := (s.removeHandler notificationID).updateStatus
  match eventsWithHandler with
  | none => s
  | some (events, handler) =>
    if responseStatus = .tryAgainLater then s.didReceiveVoIPNotification eventsWithID handler
    else
      let s := match events with
        | some unwrappedEvents =>
          if responseStatus = ZMTransportResponseStatus.success then s.dispatch unwrappedEvents
          else s
        | none => s
      s.invoke handler .success ((s.notificationIDToEventsMap notificationID).getD [])

/-- `didFetchNoticeNotification:responseStatus:events:`; `decrypt` is what the
crypto box makes of each fetched event. -/
def didFetchNoticeNotification (decrypt : ε → Option ε) (eventsWithID : EventsWithIdentifier ι ε)
    (responseStatus : ZMTransportResponseStatus) (events : List ε) :
    BackgroundAPNSPingBackStatus ι ε η :=
  let notificationID := eventsWithID.identifier
  match responseStatus with
  | .success =>
    let decryptedEvents := events.filterMap decrypt
    let eventsMap := Function.update s.notificationIDToEventsMap notificationID (some decryptedEvents)
    let s := { s with notificationIDToEventsMap := eventsMap }
    (s.didPerfomPingBackRequest eventsWithID responseStatus).dispatch decryptedEvents
  | .tryAgainLater => (s.didPerfomPingBackRequest eventsWithID responseStatus).dispatch events
  | _ =>
    let eventsWithHandler := s.eventsWithHandlerByNotificationID notificationID
    let s := (s.removeHandler notificationID).updateStatus
    -- the deferred handler call runs when the case ends, after `updateStatus`
    let s := match eventsWithHandler with
      | some (_, handler) => s.invoke handler .failure []
      | none => s
    s.dispatch events


/-! ### What the handlers of the requests change -/

section Frame

variable {s : BackgroundAPNSPingBackStatus ι ε η}

@[simp] theorem removeHandler_eventsWithHandlerByNotificationID (notificationID : ι) :
    (s.removeHandler notificationID).eventsWithHandlerByNotificationID =
      Function.update s.eventsWithHandlerByNotificationID notificationID none := rfl

@[simp] theorem removeHandler_handled (notificationID : ι) :
    (s.removeHandler notificationID).handled = s.handled := rfl

@[simp] theorem removeHandler_notificationIDs (notificationID : ι) :
    (s.removeHandler notificationID).notificationIDs = s.notificationIDs := rfl

@[simp] theorem removeHandler_notificationIDToEventsMap (notificationID : ι) :
    (s.removeHandler notificationID).notificationIDToEventsMap = s.notificationIDToEventsMap := rfl

@[simp] theorem removeHandler_authenticated (notificationID : ι) :
    (s.removeHandler notificationID).authenticated = s.authenticated := rfl

@[simp] theorem didReceiveVoIPNotification_eventsWithHandlerByNotificationID
    (eventsWithID : EventsWithIdentifier ι ε) (handler : η) :
    (s.didReceiveVoIPNotification eventsWithID handler).eventsWithHandlerByNotificationID =
      Function.update s.eventsWithHandlerByNotificationID eventsWithID.identifier
        (some (eventsWithID.events, handler)) := by
  dsimp only [didReceiveVoIPNotification]
  split_ifs <;> simp

@[simp] theorem didReceiveVoIPNotification_handled (eventsWithID : EventsWithIdentifier ι ε)
    (handler : η) : (s.didReceiveVoIPNotification eventsWithID handler).handled = s.handled := by
  dsimp only [didReceiveVoIPNotification]
  split_ifs <;> simp

@[simp] theorem didReceiveVoIPNotification_notificationIDs (eventsWithID : EventsWithIdentifier ι ε)
    (handler : η) :
    (s.didReceiveVoIPNotification eventsWithID handler).notificationIDs =
      s.notificationIDs ++ [eventsWithID] := by
  dsimp only [didReceiveVoIPNotification]
  split_ifs <;> simp

/-- A push that arrives while the status is not `Done` leaves the status as it is. -/
theorem didReceiveVoIPNotification_status_of_ne_done (hstatus : s.status ≠ .done)
    (eventsWithID : EventsWithIdentifier ι ε) (handler : η) :
    (s.didReceiveVoIPNotification eventsWithID handler).status = s.status := by
  dsimp only [didReceiveVoIPNotification]
  split_ifs <;> simp_all

end Frame

/-- **What a ping-back completion does.** The identifier's entry is removed and
the status recomputed. With no entry nothing else happens. Otherwise the push
is queued again on try-again-later, or else the handler is called once, after
the push's events have been dispatched on success. -/
theorem didPerfomPingBackRequest_cases (eventsWithID : EventsWithIdentifier ι ε)
    (responseStatus : ZMTransportResponseStatus) :
    (s.eventsWithHandlerByNotificationID eventsWithID.identifier = none ∧
      s.didPerfomPingBackRequest eventsWithID responseStatus =
        (s.removeHandler eventsWithID.identifier).updateStatus) ∨
    (∃ v handler, s.eventsWithHandlerByNotificationID eventsWithID.identifier = some (v, handler) ∧
      responseStatus = .tryAgainLater ∧
      s.didPerfomPingBackRequest eventsWithID responseStatus =
        (s.removeHandler eventsWithID.identifier).updateStatus.didReceiveVoIPNotification
          eventsWithID handler) ∨
    (∃ v handler dispatched,
      s.eventsWithHandlerByNotificationID eventsWithID.identifier = some (v, handler) ∧
      responseStatus ≠ .tryAgainLater ∧
      (dispatched = (s.removeHandler eventsWithID.identifier).updateStatus ∨
        ∃ events,
          dispatched = (s.removeHandler eventsWithID.identifier).updateStatus.dispatch events) ∧
      s.didPerfomPingBackRequest eventsWithID responseStatus =
        dispatched.invoke handler .success
          ((s.notificationIDToEventsMap eventsWithID.identifier).getD [])) := by
  cases hentry : s.eventsWithHandlerByNotificationID eventsWithID.identifier with
  | none =>
    refine .inl ⟨rfl, ?_⟩
    simp only [didPerfomPingBackRequest, hentry]
  | some entry =>
    obtain ⟨v, handler⟩ := entry
    by_cases htry : responseStatus = .tryAgainLater
    · refine .inr (.inl ⟨v, handler, rfl, htry, ?_⟩)
      simp only [didPerfomPingBackRequest, hentry, htry, if_true]
    · refine .inr (.inr ⟨v, handler, ?_⟩)
      -- the events dispatched: those of the entry, on success only
      cases v with
      | some events =>
        by_cases hsuccess : responseStatus = .success
        · refine ⟨_, rfl, htry, .inr ⟨events, rfl⟩, ?_⟩
          simp [didPerfomPingBackRequest, hentry, hsuccess]
        · refine ⟨_, rfl, htry, .inl rfl, ?_⟩
          simp [didPerfomPingBackRequest, hentry, htry, hsuccess]
      | none =>
        refine ⟨_, rfl, htry, .inl rfl, ?_⟩
        simp [didPerfomPingBackRequest, hentry, htry]

/-- **What a notice completion does.** On success or try-again-later it is a
ping-back completion, on the status with the decrypted events recorded or as
it is, followed by a dispatch. On any other response the identifier's entry
is removed and the status recomputed; the removed handler, if there was one,
is called with a failure before the dispatch. -/
theorem didFetchNoticeNotification_cases (decrypt : ε → Option ε)
    (eventsWithID : EventsWithIdentifier ι ε) (responseStatus : ZMTransportResponseStatus)
    (events : List ε) :
    (∃ eventsMap dispatched,
      s.didFetchNoticeNotification decrypt eventsWithID responseStatus events =
      (BackgroundAPNSPingBackStatus.didPerfomPingBackRequest
        { s with notificationIDToEventsMap := eventsMap } eventsWithID responseStatus).dispatch
          dispatched) ∨
    (s.eventsWithHandlerByNotificationID eventsWithID.identifier = none ∧
      s.didFetchNoticeNotification decrypt eventsWithID responseStatus events =
        (s.removeHandler eventsWithID.identifier).updateStatus.dispatch events) ∨
    (∃ v handler, s.eventsWithHandlerByNotificationID eventsWithID.identifier = some (v, handler) ∧
      s.didFetchNoticeNotification decrypt eventsWithID responseStatus events =
        ((s.removeHandler eventsWithID.identifier).updateStatus.invoke handler .failure []).dispatch
          events) := by
  unfold BackgroundAPNSPingBackStatus.didFetchNoticeNotification
  split
  · exact .inl ⟨_, _, rfl⟩
  · exact .inl ⟨s.notificationIDToEventsMap, events, rfl⟩
  · cases hentry : s.eventsWithHandlerByNotificationID eventsWithID.identifier with
    | none =>
      refine .inr (.inl ⟨rfl, ?_⟩)
      simp only [hentry]
    | some entry =>
      obtain ⟨v, handler⟩ := entry
      refine .inr (.inr ⟨v, handler, rfl, ?_⟩)
      simp only [hentry]

/-! ### No handler is called twice -/

/-- No handler has been called twice, a handler still registered has not been
called, and no handler is registered under two identifiers. -/
structure HandlersOnce (s : BackgroundAPNSPingBackStatus ι ε η) : Prop where
  nodup : (s.handled.map Prod.fst).Nodup
  not_handled : ∀ {i v h}, s.eventsWithHandlerByNotificationID i = some (v, h) →
    h ∉ s.handled.map Prod.fst
  unique : ∀ {i j v v' h}, s.eventsWithHandlerByNotificationID i = some (v, h) →
    s.eventsWithHandlerByNotificationID j = some (v', h) → i = j

/-- A handler that has been neither called nor registered. -/
structure Fresh (s : BackgroundAPNSPingBackStatus ι ε η) (h : η) : Prop where
  not_handled : h ∉ s.handled.map Prod.fst
  not_registered : ∀ i v, s.eventsWithHandlerByNotificationID i ≠ some (v, h)

section Handlers

variable {s s' : BackgroundAPNSPingBackStatus ι ε η}

omit [DecidableEq ι] in
/-- Both properties read the handler map and the calls only. -/
theorem HandlersOnce.of_eq (hs : s.HandlersOnce)
    (hmap : s'.eventsWithHandlerByNotificationID = s.eventsWithHandlerByNotificationID)
    (hhandled : s'.handled = s.handled) : s'.HandlersOnce where
  nodup := hhandled ▸ hs.nodup
  not_handled := by rw [hmap, hhandled]; exact hs.not_handled
  unique := by rw [hmap]; exact hs.unique

omit [DecidableEq ι] in
theorem Fresh.of_eq {h : η} (hs : s.Fresh h)
    (hmap : s'.eventsWithHandlerByNotificationID = s.eventsWithHandlerByNotificationID)
    (hhandled : s'.handled = s.handled) : s'.Fresh h where
  not_handled := hhandled ▸ hs.not_handled
  not_registered := by rw [hmap]; exact hs.not_registered

theorem HandlersOnce.removeHandler (hs : s.HandlersOnce) (notificationID : ι) :
    (s.removeHandler notificationID).HandlersOnce where
  nodup := hs.nodup
  not_handled := by
    intro i v h hi
    by_cases hid : i = notificationID
    · simp [hid] at hi
    · simp only [removeHandler_eventsWithHandlerByNotificationID, Function.update_of_ne hid] at hi
      exact hs.not_handled hi
  unique := by
    intro i j v v' h hi hj
    by_cases hid : i = notificationID
    · simp [hid] at hi
    by_cases hjd : j = notificationID
    · simp [hjd] at hj
    simp only [removeHandler_eventsWithHandlerByNotificationID, Function.update_of_ne hid,
      Function.update_of_ne hjd] at hi hj
    exact hs.unique hi hj

/-- The handler taken out of the map is registered nowhere else, and has not
been called. -/
theorem HandlersOnce.fresh_removeHandler (hs : s.HandlersOnce) {notificationID : ι}
    {v : Option (List ε)} {h : η}
    (hentry : s.eventsWithHandlerByNotificationID notificationID = some (v, h)) :
    (s.removeHandler notificationID).Fresh h where
  not_handled := hs.not_handled hentry
  not_registered := by
    intro i v' hi
    by_cases hid : i = notificationID
    · simp [hid] at hi
    · simp only [removeHandler_eventsWithHandlerByNotificationID, Function.update_of_ne hid] at hi
      exact hid (hs.unique hi hentry)

omit [DecidableEq ι] in
theorem HandlersOnce.invoke (hs : s.HandlersOnce) {h : η} (hfresh : s.Fresh h)
    (result : ZMPushPayloadResult) (events : List ε) : (s.invoke h result events).HandlersOnce where
  nodup := by
    simp only [invoke_handled, List.map_append, List.map_cons, List.map_nil]
    exact hs.nodup.append (List.nodup_singleton h) (by simpa using hfresh.not_handled)
  not_handled := by
    intro i v h' hi
    simp only [invoke_eventsWithHandlerByNotificationID] at hi
    simp only [invoke_handled, List.map_append, List.map_cons, List.map_nil, List.mem_append,
      List.mem_singleton, not_or]
    exact ⟨hs.not_handled hi, fun heq => hfresh.not_registered i v (heq ▸ hi)⟩
  unique := hs.unique

theorem HandlersOnce.didReceiveVoIPNotification (hs : s.HandlersOnce) {h : η} (hfresh : s.Fresh h)
    (eventsWithID : EventsWithIdentifier ι ε) :
    (s.didReceiveVoIPNotification eventsWithID h).HandlersOnce where
  nodup := by simpa using hs.nodup
  not_handled := by
    intro i v h' hi
    rw [didReceiveVoIPNotification_handled]
    by_cases hid : i = eventsWithID.identifier
    · simp only [hid, didReceiveVoIPNotification_eventsWithHandlerByNotificationID,
        Function.update_self, Option.some.injEq, Prod.mk.injEq] at hi
      exact hi.2 ▸ hfresh.not_handled
    · simp only [didReceiveVoIPNotification_eventsWithHandlerByNotificationID,
        Function.update_of_ne hid] at hi
      exact hs.not_handled hi
  unique := by
    intro i j v v' h' hi hj
    simp only [didReceiveVoIPNotification_eventsWithHandlerByNotificationID] at hi hj
    -- a fresh handler is registered under the new identifier only
    by_cases hid : i = eventsWithID.identifier <;> by_cases hjd : j = eventsWithID.identifier
    · rw [hid, hjd]
    · simp only [hid, Function.update_self, Option.some.injEq, Prod.mk.injEq] at hi
      rw [Function.update_of_ne hjd] at hj
      exact absurd (hi.2 ▸ hj) (hfresh.not_registered j v')
    · simp only [hjd, Function.update_self, Option.some.injEq, Prod.mk.injEq] at hj
      rw [Function.update_of_ne hid] at hi
      exact absurd (hj.2 ▸ hi) (hfresh.not_registered i v)
    · rw [Function.update_of_ne hid] at hi
      rw [Function.update_of_ne hjd] at hj
      exact hs.unique hi hj

theorem HandlersOnce.didPerfomPingBackRequest (hs : s.HandlersOnce)
    (eventsWithID : EventsWithIdentifier ι ε) (responseStatus : ZMTransportResponseStatus) :
    (s.didPerfomPingBackRequest eventsWithID responseStatus).HandlersOnce := by
  have hremoved : (s.removeHandler eventsWithID.identifier).updateStatus.HandlersOnce :=
    (hs.removeHandler eventsWithID.identifier).of_eq (by simp) (by simp)
  rcases didPerfomPingBackRequest_cases s eventsWithID responseStatus with
    ⟨-, hresult⟩ | ⟨v, handler, hentry, -, hresult⟩ |
      ⟨v, handler, dispatched, hentry, -, hdispatched, hresult⟩ <;>
    rw [hresult]
  · exact hremoved
  · -- the handler just taken out is fresh again, and is registered once more
    exact hremoved.didReceiveVoIPNotification
      ((hs.fresh_removeHandler hentry).of_eq (by simp) (by simp)) eventsWithID
  · -- dispatching touches neither the map nor the calls; the handler is called once
    have hmap : dispatched.eventsWithHandlerByNotificationID =
        (s.removeHandler eventsWithID.identifier).eventsWithHandlerByNotificationID := by
      rcases hdispatched with rfl | ⟨events, rfl⟩ <;> simp
    have hhandled : dispatched.handled = s.handled := by
      rcases hdispatched with rfl | ⟨events, rfl⟩ <;> simp
    exact (hremoved.of_eq (by simpa using hmap) (by simpa using hhandled)).invoke
      ((hs.fresh_removeHandler hentry).of_eq hmap hhandled) _ _

theorem HandlersOnce.didFetchNoticeNotification (hs : s.HandlersOnce) (decrypt : ε → Option ε)
    (eventsWithID : EventsWithIdentifier ι ε) (responseStatus : ZMTransportResponseStatus)
    (events : List ε) :
    (s.didFetchNoticeNotification decrypt eventsWithID responseStatus events).HandlersOnce := by
  have hremoved : (s.removeHandler eventsWithID.identifier).updateStatus.HandlersOnce :=
    (hs.removeHandler eventsWithID.identifier).of_eq (by simp) (by simp)
  rcases didFetchNoticeNotification_cases s decrypt eventsWithID responseStatus events with
    ⟨eventsMap, dispatched, hresult⟩ | ⟨-, hresult⟩ | ⟨v, handler, hentry, hresult⟩ <;>
    rw [hresult]
  · -- the events map is no part of the invariant
    have hmap : HandlersOnce { s with notificationIDToEventsMap := eventsMap } := hs.of_eq rfl rfl
    exact (hmap.didPerfomPingBackRequest eventsWithID responseStatus).of_eq rfl rfl
  · exact hremoved.of_eq (by simp) (by simp)
  · -- the handler taken out is called once, with a failure
    have hfresh : (s.removeHandler eventsWithID.identifier).updateStatus.Fresh handler :=
      (hs.fresh_removeHandler hentry).of_eq (by simp) (by simp)
    exact (hremoved.invoke hfresh .failure []).of_eq rfl rfl

end Handlers

/-! ### `Done` only with an empty queue -/

/-- The status says `Done` only when the queue is empty. -/
def DoneEmpty (s : BackgroundAPNSPingBackStatus ι ε η) : Prop :=
  s.status = .done → s.notificationIDs = []

section Done

variable {s s' : BackgroundAPNSPingBackStatus ι ε η}

omit [DecidableEq ι] in
theorem DoneEmpty.of_eq (hs : s.DoneEmpty) (hstatus : s'.status = s.status)
    (hids : s'.notificationIDs = s.notificationIDs) : s'.DoneEmpty := by
  intro hdone
  rw [hids]
  exact hs (hstatus ▸ hdone)

omit [DecidableEq ι] in
theorem doneEmpty_updateStatus : s.updateStatus.DoneEmpty := by
  intro hdone
  rw [updateStatus_status] at hdone
  rw [updateStatus_notificationIDs]
  split_ifs at hdone with hempty
  · exact List.isEmpty_iff.mp hempty

omit [DecidableEq ι] in
/-- A non-empty queue is never reported as `Done`. -/
theorem updateStatus_status_ne_done (hids : s.notificationIDs ≠ []) :
    s.updateStatus.status ≠ .done := fun hdone => hids (by simpa using doneEmpty_updateStatus hdone)

/-- After a push has arrived, the status is never `Done`: it was not, and stays,
or it is recomputed from a queue that holds the push. -/
theorem didReceiveVoIPNotification_status_ne_done (eventsWithID : EventsWithIdentifier ι ε)
    (handler : η) : (s.didReceiveVoIPNotification eventsWithID handler).status ≠ .done := by
  by_cases hstatus : s.status = .done
  · dsimp only [didReceiveVoIPNotification]
    split_ifs <;> exact updateStatus_status_ne_done (by simp)
  · rw [didReceiveVoIPNotification_status_of_ne_done hstatus]
    exact hstatus

theorem doneEmpty_didReceiveVoIPNotification (eventsWithID : EventsWithIdentifier ι ε)
    (handler : η) : (s.didReceiveVoIPNotification eventsWithID handler).DoneEmpty :=
  fun hdone => absurd hdone (didReceiveVoIPNotification_status_ne_done eventsWithID handler)

/-- A completion ends with the status recomputed; what follows touches neither
the status nor the queue, or is a push queued again. -/
theorem doneEmpty_didPerfomPingBackRequest (eventsWithID : EventsWithIdentifier ι ε)
    (responseStatus : ZMTransportResponseStatus) :
    (s.didPerfomPingBackRequest eventsWithID responseStatus).DoneEmpty := by
  have hupdated : (s.removeHandler eventsWithID.identifier).updateStatus.DoneEmpty :=
    doneEmpty_updateStatus
  rcases didPerfomPingBackRequest_cases s eventsWithID responseStatus with
    ⟨-, hresult⟩ | ⟨v, handler, -, -, hresult⟩ |
      ⟨v, handler, dispatched, -, -, hdispatched | ⟨events, hdispatched⟩, hresult⟩ <;>
    rw [hresult]
  · exact hupdated
  · exact doneEmpty_didReceiveVoIPNotification _ _
  · exact hupdated.of_eq (by simp [hdispatched]) (by simp [hdispatched])
  · exact hupdated.of_eq (by simp [hdispatched]) (by simp [hdispatched])

theorem doneEmpty_didFetchNoticeNotification (decrypt : ε → Option ε)
    (eventsWithID : EventsWithIdentifier ι ε) (responseStatus : ZMTransportResponseStatus)
    (events : List ε) :
    (s.didFetchNoticeNotification decrypt eventsWithID responseStatus events).DoneEmpty := by
  have hupdated : (s.removeHandler eventsWithID.identifier).updateStatus.DoneEmpty :=
    doneEmpty_updateStatus
  rcases didFetchNoticeNotification_cases s decrypt eventsWithID responseStatus events with
    ⟨eventsMap, dispatched, hresult⟩ | ⟨-, hresult⟩ | ⟨v, handler, -, hresult⟩ <;>
    rw [hresult]
  · exact (doneEmpty_didPerfomPingBackRequest _ _).of_eq rfl rfl
  · exact hupdated.of_eq rfl rfl
  · exact hupdated.of_eq rfl rfl

end Done

/-! ### Taking the head of the queue -/

section Queue

variable {s : BackgroundAPNSPingBackStatus ι ε η}

omit [DecidableEq ι] in
theorem nextNotificationEventsWithID_fst :
    s.nextNotificationEventsWithID.1 = s ∨ s.nextNotificationEventsWithID.1 = s.removeFirst.1 := by
  unfold nextNotificationEventsWithID
  split
  · exact .inr rfl
  · exact .inl rfl

omit [DecidableEq ι] in
theorem nextNoticeNotificationEventsWithID_fst :
    s.nextNoticeNotificationEventsWithID.1 = s ∨
      s.nextNoticeNotificationEventsWithID.1 = s.removeFirst.1 := by
  unfold nextNoticeNotificationEventsWithID
  split
  · exact .inr rfl
  · exact .inl rfl

omit [DecidableEq ι] in
theorem HandlersOnce.removeFirst (hs : s.HandlersOnce) : s.removeFirst.1.HandlersOnce :=
  hs.of_eq rfl rfl

omit [DecidableEq ι] in
theorem DoneEmpty.removeFirst (hs : s.DoneEmpty) : s.removeFirst.1.DoneEmpty := by
  intro hdone
  simp [BackgroundAPNSPingBackStatus.removeFirst, hs hdone]

end Queue

end BackgroundAPNSPingBackStatus

/-! ### The two strategies and their requests -/

/-- A request in flight, with the push it carries. -/
inductive Request (ι ε : Type*)
  | pingBack (eventsWithID : EventsWithIdentifier ι ε)
  | notice (eventsWithID : EventsWithIdentifier ι ε)

/-- The status object and the requests the strategies have issued and that
have not completed. -/
structure World (ι ε η : Type*) where
  pingBackStatus : BackgroundAPNSPingBackStatus ι ε η
  inFlight : List (Request ι ε)

namespace World

variable [DecidableEq ι]

/-- Nothing queued, nothing in flight. -/
def init (authenticated : Bool) : World ι ε η :=
  { pingBackStatus :=
      { eventsWithHandlerByNotificationID := fun _ => none, hasBackgroundActivity := false,
        status := .done, notificationIDs := [], notificationIDToEventsMap := fun _ => none,
        authenticated := authenticated, dispatched := [], handled := [] },
    inFlight := [] }

/-- `PingBackRequestStrategy.nextRequest`. The strategy calls
`readyForNextRequest` on its `ZMSingleRequestSync` just before `nextRequest`,
which leaves the sync ready (`ZMSingleRequestSync.nextRequest_eq_of_ready`),
so `requestForSingleRequestSync:` is asked on every call. -/
def pingBackNextRequest (w : World ι ε η) : World ι ε η × Option (Request ι ε) :=
  if w.pingBackStatus.authenticated ∧ w.pingBackStatus.status = .pinging ∧
      w.pingBackStatus.hasNotificationIDs then
    match w.pingBackStatus.nextNotificationEventsWithID with
    | (status, some nextEventsWithID) =>
      ({ pingBackStatus := status, inFlight := w.inFlight ++ [.pingBack nextEventsWithID] },
        some (.pingBack nextEventsWithID))
    | (status, none) => ({ w with pingBackStatus := status }, none)
  else (w, none)

/-- `PushNoticeRequestStrategy.nextRequest`, as the one above.
`selfClientHasRemoteIdentifier` says whether the self client has a remote
identifier; the transcoder takes the notice off the queue before it looks. -/
def pushNoticeNextRequest (w : World ι ε η) (selfClientHasRemoteIdentifier : Bool) :
    World ι ε η × Option (Request ι ε) :=
  if w.pingBackStatus.authenticated ∧ w.pingBackStatus.status = .fetchingNotice ∧
      w.pingBackStatus.hasNoticeNotificationIDs then
    match w.pingBackStatus.nextNoticeNotificationEventsWithID with
    | (status, some nextEventsWithID) =>
      if selfClientHasRemoteIdentifier then
        ({ pingBackStatus := status, inFlight := w.inFlight ++ [.notice nextEventsWithID] },
          some (.notice nextEventsWithID))
      else ({ w with pingBackStatus := status }, none)
    | (status, none) => ({ w with pingBackStatus := status }, none)
  else (w, none)

/-- The completion handler of the request at `index` in flight. A notice's
events are parsed from the payload only on success. -/
def complete (decrypt : ε → Option ε) (w : World ι ε η) (index : Nat)
    (result : ZMTransportResponseStatus) (payload : List ε) : World ι ε η :=
  match w.inFlight[index]? with
  | none => w
  | some (.pingBack eventsWithID) =>
    { pingBackStatus := w.pingBackStatus.didPerfomPingBackRequest eventsWithID result,
      inFlight := w.inFlight.eraseIdx index }
  | some (.notice eventsWithID) =>
    let events := if result = .success then payload else []
    { pingBackStatus := w.pingBackStatus.didFetchNoticeNotification decrypt eventsWithID result events,
      inFlight := w.inFlight.eraseIdx index }

/-- What can happen next: a push arrives, a strategy is asked for a request,
or a request in flight completes. -/
inductive Event (ι ε η : Type*)
  | didReceiveVoIPNotification (eventsWithID : EventsWithIdentifier ι ε) (handler : η)
  | pingBackNextRequest
  | pushNoticeNextRequest (selfClientHasRemoteIdentifier : Bool)
  | complete (index : Nat) (result : ZMTransportResponseStatus) (payload : List ε)

def step (decrypt : ε → Option ε) (w : World ι ε η) : Event ι ε η → World ι ε η
  | .didReceiveVoIPNotification eventsWithID handler =>
    { w with pingBackStatus := w.pingBackStatus.didReceiveVoIPNotification eventsWithID handler }
  | .pingBackNextRequest => w.pingBackNextRequest.1
  | .pushNoticeNextRequest selfClientHasRemoteIdentifier =>
    (w.pushNoticeNextRequest selfClientHasRemoteIdentifier).1
  | .complete index result payload => w.complete decrypt index result payload

/-! ### What the strategies and the completions change -/

section Steps

variable (w : World ι ε η)

omit [DecidableEq ι] in
/-- The ping-back strategy changes the status object by taking the head of the
queue at most. -/
theorem pingBackNextRequest_pingBackStatus :
    w.pingBackNextRequest.1.pingBackStatus = w.pingBackStatus ∨
      w.pingBackNextRequest.1.pingBackStatus = w.pingBackStatus.removeFirst.1 := by
  unfold pingBackNextRequest
  split
  · have hnext := w.pingBackStatus.nextNotificationEventsWithID_fst
    split <;> rename_i heq <;> rw [heq] at hnext <;> exact hnext
  · exact .inl rfl

omit [DecidableEq ι] in
theorem pushNoticeNextRequest_pingBackStatus (selfClientHasRemoteIdentifier : Bool) :
    (w.pushNoticeNextRequest selfClientHasRemoteIdentifier).1.pingBackStatus = w.pingBackStatus ∨
      (w.pushNoticeNextRequest selfClientHasRemoteIdentifier).1.pingBackStatus =
        w.pingBackStatus.removeFirst.1 := by
  unfold pushNoticeNextRequest
  split
  · have hnext := w.pingBackStatus.nextNoticeNotificationEventsWithID_fst
    split
    · rename_i heq
      rw [heq] at hnext
      split <;> exact hnext
    · rename_i heq
      rw [heq] at hnext
      exact hnext
  · exact .inl rfl

/-- A completion hands its response to the status object, as a ping-back or as
a notice, or finds no request at that index. -/
theorem complete_pingBackStatus (decrypt : ε → Option ε) (index : Nat)
    (result : ZMTransportResponseStatus) (payload : List ε) :
    (w.complete decrypt index result payload).pingBackStatus = w.pingBackStatus ∨
      (∃ eventsWithID, (w.complete decrypt index result payload).pingBackStatus =
        w.pingBackStatus.didPerfomPingBackRequest eventsWithID result) ∨
      (∃ eventsWithID events, (w.complete decrypt index result payload).pingBackStatus =
        w.pingBackStatus.didFetchNoticeNotification decrypt eventsWithID result events) := by
  unfold complete
  split
  · exact .inl rfl
  · exact .inr (.inl ⟨_, rfl⟩)
  · exact .inr (.inr ⟨_, _, rfl⟩)

/-- **What a step does to the status object.** Nothing, the head of the queue
taken, the push of the event received, or a completion handed over as a
ping-back or as a notice. -/
theorem step_pingBackStatus_cases (decrypt : ε → Option ε) (e : Event ι ε η) :
    (step decrypt w e).pingBackStatus = w.pingBackStatus ∨
      (step decrypt w e).pingBackStatus = w.pingBackStatus.removeFirst.1 ∨
      (∃ eventsWithID handler, e = .didReceiveVoIPNotification eventsWithID handler ∧
        (step decrypt w e).pingBackStatus =
          w.pingBackStatus.didReceiveVoIPNotification eventsWithID handler) ∨
      (∃ eventsWithID result, (step decrypt w e).pingBackStatus =
        w.pingBackStatus.didPerfomPingBackRequest eventsWithID result) ∨
      (∃ eventsWithID result events, (step decrypt w e).pingBackStatus =
        w.pingBackStatus.didFetchNoticeNotification decrypt eventsWithID result events) := by
  cases e with
  | didReceiveVoIPNotification eventsWithID handler =>
    exact .inr (.inr (.inl ⟨eventsWithID, handler, rfl, rfl⟩))
  | pingBackNextRequest =>
    rcases pingBackNextRequest_pingBackStatus w with h | h
    · exact .inl h
    · exact .inr (.inl h)
  | pushNoticeNextRequest selfClientHasRemoteIdentifier =>
    rcases pushNoticeNextRequest_pingBackStatus w selfClientHasRemoteIdentifier with h | h
    · exact .inl h
    · exact .inr (.inl h)
  | complete index result payload =>
    rcases complete_pingBackStatus w decrypt index result payload with
      h | ⟨eventsWithID, h⟩ | ⟨eventsWithID, events, h⟩
    · exact .inl h
    · exact .inr (.inr (.inr (.inl ⟨eventsWithID, result, h⟩)))
    · exact .inr (.inr (.inr (.inr ⟨eventsWithID, result, events, h⟩)))

end Steps

/-! ### Invariants of every run -/

/-- A push brings a handler that has been neither called nor registered. -/
def FreshHandler (w : World ι ε η) : Event ι ε η → Prop
  | .didReceiveVoIPNotification _ handler => w.pingBackStatus.Fresh handler
  | _ => True

section Runs

variable {decrypt : ε → Option ε} {w : World ι ε η}

theorem handlersOnce_step (hw : w.pingBackStatus.HandlersOnce) {e : Event ι ε η}
    (hfresh : FreshHandler w e) : (step decrypt w e).pingBackStatus.HandlersOnce := by
  rcases w.step_pingBackStatus_cases decrypt e with
    h | h | ⟨eventsWithID, handler, rfl, h⟩ | ⟨eventsWithID, result, h⟩ |
      ⟨eventsWithID, result, events, h⟩ <;>
    rw [h]
  · exact hw
  · exact hw.removeFirst
  · -- only here does the handler have to be fresh
    exact hw.didReceiveVoIPNotification hfresh eventsWithID
  · exact hw.didPerfomPingBackRequest eventsWithID result
  · exact hw.didFetchNoticeNotification decrypt eventsWithID result events

theorem doneEmpty_step (hw : w.pingBackStatus.DoneEmpty) (e : Event ι ε η) :
    (step decrypt w e).pingBackStatus.DoneEmpty := by
  rcases w.step_pingBackStatus_cases decrypt e with
    h | h | ⟨eventsWithID, handler, -, h⟩ | ⟨eventsWithID, result, h⟩ |
      ⟨eventsWithID, result, events, h⟩ <;>
    rw [h]
  · exact hw
  · exact hw.removeFirst
  · exact BackgroundAPNSPingBackStatus.doneEmpty_didReceiveVoIPNotification eventsWithID handler
  · exact BackgroundAPNSPingBackStatus.doneEmpty_didPerfomPingBackRequest eventsWithID result
  · exact BackgroundAPNSPingBackStatus.doneEmpty_didFetchNoticeNotification decrypt
      eventsWithID result events

omit [DecidableEq ι] in
theorem handlersOnce_init (authenticated : Bool) :
    (init authenticated : World ι ε η).pingBackStatus.HandlersOnce where
  nodup := List.nodup_nil
  not_handled := by simp [init]
  unique := by simp [init]

/-- **No handler is called twice**, in any interleaving of pushes, requests
and completions, as long as every push brings a handler of its own. -/
theorem handlers_called_at_most_once (authenticated : Bool) {events : List (Event ι ε η)}
    (hfresh : Guarded (step decrypt) FreshHandler (init authenticated) events) :
    ((run (step decrypt) (init authenticated) events).pingBackStatus.handled.map Prod.fst).Nodup :=
  (run_invariant_guarded (fun w : World ι ε η => w.pingBackStatus.HandlersOnce)
    (fun _ _ hw hfresh => handlersOnce_step hw hfresh) events (handlersOnce_init authenticated)
    hfresh).nodup

/-- **`Done` only with an empty queue**, after every run. -/
theorem doneEmpty_run (authenticated : Bool) (events : List (Event ι ε η)) :
    (run (step decrypt) (init authenticated) events).pingBackStatus.DoneEmpty :=
  run_invariant (fun w : World ι ε η => w.pingBackStatus.DoneEmpty)
    (fun _ e hw => doneEmpty_step hw e)
    events
    (fun _ => rfl)

end Runs

/-! ### A queue that stalls -/

/-- Nothing is in flight, and the status does not match the head of the queue:
`FetchingNotice` over a push to ping back, or `Pinging` over a notice. -/
def Stalled (w : World ι ε η) : Prop :=
  w.inFlight = [] ∧ ∃ next rest, w.pingBackStatus.notificationIDs = next :: rest ∧
    (w.pingBackStatus.status = .fetchingNotice ∧ next.isNotice = false ∨
      w.pingBackStatus.status = .pinging ∧ next.isNotice = true)

section Stall

variable {w : World ι ε η}

omit [DecidableEq ι] in
/-- The ping-back strategy asks only while the status is `Pinging` over a push
to ping back. -/
theorem Stalled.pingBackNextRequest (hw : w.Stalled) : w.pingBackNextRequest = (w, none) := by
  obtain ⟨-, next, rest, hids, hstatus⟩ := hw
  unfold World.pingBackNextRequest
  rw [if_neg]
  rintro ⟨-, hpinging, hping⟩
  simp only [BackgroundAPNSPingBackStatus.hasNotificationIDs, hids, List.head?_cons,
    Bool.not_eq_eq_eq_not, Bool.not_true] at hping
  rcases hstatus with ⟨hfetching, -⟩ | ⟨-, hnotice⟩
  · rw [hfetching] at hpinging
    cases hpinging
  · rw [hnotice] at hping
    cases hping

omit [DecidableEq ι] in
/-- The notice strategy asks only while the status is `FetchingNotice` over a
notice. -/
theorem Stalled.pushNoticeNextRequest (hw : w.Stalled) (selfClientHasRemoteIdentifier : Bool) :
    w.pushNoticeNextRequest selfClientHasRemoteIdentifier = (w, none) := by
  obtain ⟨-, next, rest, hids, hstatus⟩ := hw
  unfold World.pushNoticeNextRequest
  rw [if_neg]
  rintro ⟨-, hfetching, hnotice⟩
  simp only [BackgroundAPNSPingBackStatus.hasNoticeNotificationIDs, hids,
    List.head?_cons] at hnotice
  rcases hstatus with ⟨-, hping⟩ | ⟨hpinging, -⟩
  · rw [hping] at hnotice
    cases hnotice
  · rw [hpinging] at hfetching
    cases hfetching

/-- A stalled world stays stalled whatever happens, and no handler is called:
a new push goes behind the head and leaves the status, neither strategy asks,
and there is nothing to complete. -/
theorem Stalled.step (hw : w.Stalled) (decrypt : ε → Option ε) (e : Event ι ε η) :
    (World.step decrypt w e).Stalled ∧
      (World.step decrypt w e).pingBackStatus.handled = w.pingBackStatus.handled := by
  cases e with
  | didReceiveVoIPNotification eventsWithID handler =>
    obtain ⟨hflight, next, rest, hids, hstatus⟩ := hw
    have hne : w.pingBackStatus.status ≠ .done := by
      rcases hstatus with ⟨h, -⟩ | ⟨h, -⟩ <;> rw [h] <;> decide
    refine ⟨⟨hflight, next, rest ++ [eventsWithID], ?_, ?_⟩, ?_⟩
    · simp [World.step, hids]
    · simp only [World.step,
        BackgroundAPNSPingBackStatus.didReceiveVoIPNotification_status_of_ne_done hne]
      exact hstatus
    · simp [World.step]
  | pingBackNextRequest =>
    have hstep : World.step decrypt w .pingBackNextRequest = w :=
      congrArg Prod.fst hw.pingBackNextRequest
    rw [hstep]
    exact ⟨hw, rfl⟩
  | pushNoticeNextRequest selfClientHasRemoteIdentifier =>
    have hstep : World.step decrypt w (.pushNoticeNextRequest selfClientHasRemoteIdentifier) = w :=
      congrArg Prod.fst (hw.pushNoticeNextRequest selfClientHasRemoteIdentifier)
    rw [hstep]
    exact ⟨hw, rfl⟩
  | complete index result payload =>
    have hstep : World.step decrypt w (.complete index result payload) = w := by
      simp [World.step, World.complete, hw.1]
    rw [hstep]
    exact ⟨hw, rfl⟩

/-- **Stalled for ever**: after any further events the world is still stalled,
and no handler has been called since. -/
theorem Stalled.run (hw : w.Stalled) (decrypt : ε → Option ε) (events : List (Event ι ε η)) :
    (StepSystem.run (World.step decrypt) w events).Stalled ∧
      (StepSystem.run (World.step decrypt) w events).pingBackStatus.handled =
        w.pingBackStatus.handled :=
  run_invariant (fun w' : World ι ε η => w'.Stalled ∧
      w'.pingBackStatus.handled = w.pingBackStatus.handled)
    (fun _ e ⟨hstalled, hhandled⟩ =>
      ⟨(hstalled.step decrypt e).1, (hstalled.step decrypt e).2.trans hhandled⟩)
    events ⟨hw, rfl⟩

end Stall

end World

variable [DecidableEq ι]

open World in
/-- A notice arrives, then any other push, and the notice strategy runs while
the self client has no remote identifier. The notice leaves the queue with no
request. What follows, whatever it is, never makes a request and never calls
a handler. -/
theorem pingBack_notice_without_self_client_stalls (decrypt : ε → Option ε) (noticeID pingID : ι)
    (noticeEvents pingEvents : Option (List ε)) (noticeHandler pingHandler : η)
    (later : List (Event ι ε η)) :
    let w := run (step decrypt) (init true)
      [.didReceiveVoIPNotification ⟨noticeEvents, noticeID, true⟩ noticeHandler,
        .didReceiveVoIPNotification ⟨pingEvents, pingID, false⟩ pingHandler,
        .pushNoticeNextRequest false]
    let w' := run (step decrypt) w later
    w.pingBackStatus.notificationIDs = [⟨pingEvents, pingID, false⟩] ∧
      w'.inFlight = [] ∧ w'.pingBackStatus.notificationIDs ≠ [] ∧ w'.pingBackStatus.handled = [] ∧
      w'.pingBackNextRequest = (w', none) ∧ ∀ b, w'.pushNoticeNextRequest b = (w', none) := by
  intro w w'
  -- the notice set the status to `FetchingNotice`; the push behind it is a ping-back
  have hw : w.Stalled := ⟨rfl, _, [], rfl, .inl ⟨rfl, rfl⟩⟩
  obtain ⟨hstalled, hhandled⟩ := hw.run decrypt later
  have hqueued : w'.pingBackStatus.notificationIDs ≠ [] := by
    obtain ⟨-, next, rest, hids, -⟩ := hstalled
    simp [w', hids]
  exact ⟨rfl, hstalled.1, hqueued, hhandled, hstalled.pingBackNextRequest,
    hstalled.pushNoticeNextRequest⟩

end ZMessaging.PingBack
