import ZMessaging.StepSystem
import Mathlib.Data.List.Perm.Basic

/-!
# `ZMSyncStateMachine` and the events buffer

`ZMSyncStrategy processUpdateEvents:ignoreBuffer:NO` hands the flow events of a
delivery to `consumeUpdateEvents` at once, and treats the other events by the
`updateEventsPolicy` of the state its `ZMSyncStateMachine` is in: it consumes
them (Process), appends them to the `ZMUpdateEventsBuffer` (Buffer), or consumes
only the call-state events among them (Ignore).  The buffer is handed to
`consumeUpdateEvents`, and emptied, only when `ZMEventProcessingState` is
entered.

The machine has twelve states.  Each state method is modelled by the state it
sends the machine to, if any (`startQuickSync` goes to the first catch-up state,
`startSlowSync` to the download of the last update event ID); `goToState`
enters a state and follows its `didEnterState` on to the state that one moves to.
What the transcoders, the application and the states' own completion handlers
report is one `ZMSyncFlags` record per call, every field of it arbitrary.

The world adds to the strategy the list of live events delivered so far.  The
non-flow events consumed so far, followed by those waiting in the buffer, are
`handledEvents`.  The main results:

* a transition that delivers nothing leaves the consumed events and the buffer as
  they are, or hands the whole buffer to `consumeUpdateEvents`
  (`World.step_settles`);
* in every run each delivered event is consumed or buffered at most once, and the
  buffer is empty whenever the machine is in `ZMEventProcessingState`
  (`Good.run`);
* in every run in which the application enters the background, and
  authentication fails, only while the buffer is empty, the buffer holds events
  only in the states that buffer, and the live events are consumed in the order
  they arrived (`Ordered.run`);
* a buffering state that enters the background goes to `ZMPreBackgroundState`,
  whose policy is Process: an event delivered there is consumed while an older
  one waits in the buffer, and the older one is consumed after it
  (`liveEvent_overtakes_buffer`).
-/

namespace ZMessaging

open StepSystem

/-- `ZMUpdateEventType`: the types of the events of the notification stream. -/
inductive ZMUpdateEventType
  | unknown | callCandidatesAdd | callCandidatesUpdate | callFlowActive | callFlowAdd
  | callFlowDelete | callRemoteSDP | callParticipants | callInfo | callDeviceInfo | callState
  | conversationAssetAdd | conversationConnectRequest | conversationCreate
  | conversationKnock | conversationMemberJoin | conversationMemberLeave
  | conversationMemberUpdate | conversationMessageAdd | conversationClientMessageAdd
  | conversationOtrMessageAdd | conversationOtrAssetAdd | conversationRename
  | conversationTyping | conversationVoiceChannel | conversationVoiceChannelActivate
  | conversationVoiceChannelDeactivate | userConnection | userNew | userUpdate
  | userPushRemove | userContactJoin | userClientAdd | userClientRemove
deriving DecidableEq, Repr

/-- `ZMUpdateEvent`, with what the sync strategy reads of it: its identifier and
its type. -/
structure ZMUpdateEvent where
  uuid : Nat
  type : ZMUpdateEventType
deriving DecidableEq, Repr

namespace ZMUpdateEvent

/-- `isFlowEvent`: the call candidates, call flow and remote SDP events, as
`testThatItDetectsFlowEvents` pins them. -/
def isFlowEvent (event : ZMUpdateEvent) : Bool :=
  match event.type with
  | .callCandidatesAdd | .callCandidatesUpdate | .callFlowActive | .callFlowAdd
  | .callFlowDelete | .callRemoteSDP => true
  | _ => false

theorem isFlowEvent_of_callState {event : ZMUpdateEvent} (h : event.type = .callState) :
    event.isFlowEvent = false := by
  simp [isFlowEvent, h]

end ZMUpdateEvent

/-- The three filters of `processUpdateEvents:ignoreBuffer:`. -/
def flowEvents (events : List ZMUpdateEvent) : List ZMUpdateEvent :=
  events.filter fun event => event.isFlowEvent

def callstateEvents (events : List ZMUpdateEvent) : List ZMUpdateEvent :=
  events.filter fun event => event.type == .callState

def notFlowEvents (events : List ZMUpdateEvent) : List ZMUpdateEvent :=
  events.filter fun event => !event.isFlowEvent

@[simp] theorem notFlowEvents_append (l₁ l₂ : List ZMUpdateEvent) :
    notFlowEvents (l₁ ++ l₂) = notFlowEvents l₁ ++ notFlowEvents l₂ :=
  List.filter_append ..

@[simp] theorem notFlowEvents_flowEvents (events : List ZMUpdateEvent) :
    notFlowEvents (flowEvents events) = [] := by
  simp [notFlowEvents, flowEvents, List.filter_filter]

@[simp] theorem notFlowEvents_callstateEvents (events : List ZMUpdateEvent) :
    notFlowEvents (callstateEvents events) = callstateEvents events := by
  rw [notFlowEvents, List.filter_eq_self]
  intro event hmem
  have htype : event.type = .callState := by
    simpa [callstateEvents] using (List.mem_filter.mp hmem).2
  simp [ZMUpdateEvent.isFlowEvent_of_callState htype]

theorem notFlowEvents_eq_self {events : List ZMUpdateEvent}
    (h : ∀ event ∈ events, event.isFlowEvent = false) : notFlowEvents events = events := by
  rw [notFlowEvents, List.filter_eq_self]
  simpa using h

theorem isFlowEvent_of_mem_notFlowEvents {events : List ZMUpdateEvent} {event : ZMUpdateEvent}
    (h : event ∈ notFlowEvents events) : event.isFlowEvent = false := by
  simpa [notFlowEvents] using (List.mem_filter.mp h).2

/-- The call-state events of a delivery are among its non-flow events, in order. -/
theorem callstateEvents_sublist (events : List ZMUpdateEvent) :
    List.Sublist (callstateEvents events) (notFlowEvents events) :=
  List.monotone_filter_right events fun event h => by
    have htype : event.type = .callState := by simpa using h
    simp [ZMUpdateEvent.isFlowEvent_of_callState htype]

/-- `ZMUpdateEventsPolicy`. -/
inductive ZMUpdateEventsPolicy
  | ignore
  | buffer
  | process
deriving DecidableEq, Repr

namespace ZMUpdateEventsPolicy

/-- The non-flow events of a delivery that a policy hands to `consumeUpdateEvents`
at once. -/
def consumedAtOnce : ZMUpdateEventsPolicy → List ZMUpdateEvent → List ZMUpdateEvent
  | .ignore, events => callstateEvents events
  | .buffer, _ => []
  | .process, events => notFlowEvents events

/-- The events of a delivery that a policy appends to the buffer. -/
def buffered : ZMUpdateEventsPolicy → List ZMUpdateEvent → List ZMUpdateEvent
  | .buffer, events => notFlowEvents events
  | _, _ => []

@[simp] theorem notFlowEvents_consumedAtOnce (policy : ZMUpdateEventsPolicy) (events) :
    notFlowEvents (policy.consumedAtOnce events) = policy.consumedAtOnce events := by
  cases policy
  case ignore => exact notFlowEvents_callstateEvents events
  all_goals simp [consumedAtOnce, notFlowEvents]

/-- A delivery's events are consumed at once or buffered, never both, and in order. -/
theorem consumedAtOnce_append_buffered (policy : ZMUpdateEventsPolicy) (events) :
    List.Sublist (policy.consumedAtOnce events ++ policy.buffered events)
      (notFlowEvents events) := by
  cases policy
  case ignore => simpa [consumedAtOnce, buffered] using callstateEvents_sublist events
  case buffer => simp [consumedAtOnce, buffered]
  case process => simp [consumedAtOnce, buffered]

theorem isFlowEvent_of_mem_buffered {policy : ZMUpdateEventsPolicy} {events} {event}
    (h : event ∈ policy.buffered events) : event.isFlowEvent = false := by
  cases policy
  case buffer => exact isFlowEvent_of_mem_notFlowEvents h
  all_goals simp [buffered] at h

end ZMUpdateEventsPolicy

/-- The states of `ZMSyncStateMachine`, named as its properties. -/
inductive ZMSyncState
  | unauthenticatedState | unauthenticatedBackgroundState | eventProcessingState
  | slowSyncPhaseOneState | slowSyncPhaseTwoState | updateEventsCatchUpPhaseOneState
  | updateEventsCatchUpPhaseTwoState | downloadLastUpdateEventIDState | backgroundState
  | preBackgroundState | backgroundFetchState | backgroundTaskState
deriving DecidableEq, Repr

/-- What the state methods read when they run: the transcoders' flags, the
application state, the flags the states' request completion handlers set, and
whether the transcoders a state asks in `nextRequest` have a request. -/
structure ZMSyncFlags where
  hasLastUpdateEventID : Bool
  isDownloadingMissingNotifications : Bool
  errorInDowloading : Bool
  isDownloadingLastUpdateEventID : Bool
  connectionSlowSyncDone : Bool
  conversationSlowSyncDone : Bool
  userSlowSyncDone : Bool
  hasPendingMessages : Bool
  isDoneWithLogin : Bool
  shouldStartQuickSync : Bool
  isBackgrounded : Bool
  hasOutstandingItems : Bool
  errorPerformingTask : Bool
  didFinishTask : Bool
  hasRequest : ZMSyncState → Bool

/-- `ZMPreBackgroundState canGoToBackgroundState`. -/
def ZMPreBackgroundState.canGoToBackgroundState (flags : ZMSyncFlags) : Bool :=
  !flags.hasPendingMessages

/-- `ZMBackgroundFetchState transitionOutIfComplete`. -/
def ZMBackgroundFetchState.transitionOutIfComplete (flags : ZMSyncFlags) :
    Option ZMSyncState :=
  if flags.errorInDowloading then some .preBackgroundState
  else if !flags.isDownloadingMissingNotifications && !flags.hasOutstandingItems then
    some .preBackgroundState
  else none

/-- `ZMBackgroundTaskState transitionOutIfComplete`. -/
def ZMBackgroundTaskState.transitionOutIfComplete (flags : ZMSyncFlags) :
    Option ZMSyncState :=
  if flags.errorPerformingTask || flags.didFinishTask then some .preBackgroundState else none

namespace ZMSyncState

/-- `updateEventsPolicy`; `ZMEventProcessingState` and `ZMPreBackgroundState`
keep the Process policy of `ZMSyncState`. -/
def updateEventsPolicy : ZMSyncState → ZMUpdateEventsPolicy
  | .unauthenticatedState | .unauthenticatedBackgroundState | .backgroundState
  | .backgroundFetchState | .backgroundTaskState => .ignore
  | .slowSyncPhaseOneState | .slowSyncPhaseTwoState | .updateEventsCatchUpPhaseOneState
  | .updateEventsCatchUpPhaseTwoState | .downloadLastUpdateEventIDState => .buffer
  | .eventProcessingState | .preBackgroundState => .process

/-- `supportsBackgroundFetch`: only `ZMBackgroundState` overrides the `NO` of
`ZMSyncState`. -/
def supportsBackgroundFetch : ZMSyncState → Bool
  | .backgroundState => true
  | .unauthenticatedState | .unauthenticatedBackgroundState | .eventProcessingState
  | .slowSyncPhaseOneState | .slowSyncPhaseTwoState | .updateEventsCatchUpPhaseOneState
  | .updateEventsCatchUpPhaseTwoState | .downloadLastUpdateEventIDState | .preBackgroundState
  | .backgroundFetchState | .backgroundTaskState => false

/-- `didEnterState`, for the state it moves the machine on to. -/
def didEnterState (flags : ZMSyncFlags) : ZMSyncState → Option ZMSyncState
  | .unauthenticatedState =>
    if flags.isDoneWithLogin then
      if flags.isBackgrounded then some .backgroundState
      else some .updateEventsCatchUpPhaseOneState
    else none
  | .updateEventsCatchUpPhaseOneState =>
    if flags.hasLastUpdateEventID then none else some .downloadLastUpdateEventIDState
  | .preBackgroundState =>
    if ZMPreBackgroundState.canGoToBackgroundState flags then some .backgroundState else none
  | .backgroundFetchState =>
    if flags.hasLastUpdateEventID then none else some .preBackgroundState
  | .unauthenticatedBackgroundState | .eventProcessingState | .slowSyncPhaseOneState
  | .slowSyncPhaseTwoState | .updateEventsCatchUpPhaseTwoState
  | .downloadLastUpdateEventIDState | .backgroundState | .backgroundTaskState => none

/-- `didEnterBackground`; the states that do not override it go to
`ZMPreBackgroundState`, as `ZMSyncState` does. -/
def didEnterBackground : ZMSyncState → Option ZMSyncState
  | .unauthenticatedState => some .unauthenticatedBackgroundState
  | .unauthenticatedBackgroundState | .preBackgroundState | .backgroundState
  | .backgroundFetchState | .backgroundTaskState => none
  | .eventProcessingState | .slowSyncPhaseOneState | .slowSyncPhaseTwoState
  | .updateEventsCatchUpPhaseOneState | .updateEventsCatchUpPhaseTwoState
  | .downloadLastUpdateEventIDState => some .preBackgroundState

/-- `didEnterForeground`; a no-op in `ZMSyncState`. -/
def didEnterForeground (flags : ZMSyncFlags) : ZMSyncState → Option ZMSyncState
  | .unauthenticatedState =>
    if flags.isDoneWithLogin then some .updateEventsCatchUpPhaseOneState else none
  | .unauthenticatedBackgroundState => some .unauthenticatedState
  | .preBackgroundState | .backgroundState | .backgroundFetchState | .backgroundTaskState =>
    some .updateEventsCatchUpPhaseOneState
  | .eventProcessingState | .slowSyncPhaseOneState | .slowSyncPhaseTwoState
  | .updateEventsCatchUpPhaseOneState | .updateEventsCatchUpPhaseTwoState
  | .downloadLastUpdateEventIDState => none

/-- `didRequestSynchronization`; `ZMSyncState` starts a quick sync. -/
def didRequestSynchronization : ZMSyncState → Option ZMSyncState
  | .unauthenticatedState | .unauthenticatedBackgroundState | .preBackgroundState
  | .backgroundState | .backgroundFetchState | .backgroundTaskState => none
  | .eventProcessingState | .slowSyncPhaseOneState | .slowSyncPhaseTwoState
  | .updateEventsCatchUpPhaseOneState | .updateEventsCatchUpPhaseTwoState
  | .downloadLastUpdateEventIDState => some .updateEventsCatchUpPhaseOneState

/-- `didFailAuthentication`; `ZMSyncState` goes to `ZMUnauthenticatedState`. -/
def didFailAuthentication : ZMSyncState → Option ZMSyncState
  | .unauthenticatedState | .unauthenticatedBackgroundState => none
  | .eventProcessingState | .slowSyncPhaseOneState | .slowSyncPhaseTwoState
  | .updateEventsCatchUpPhaseOneState | .updateEventsCatchUpPhaseTwoState
  | .downloadLastUpdateEventIDState | .backgroundState | .preBackgroundState
  | .backgroundFetchState | .backgroundTaskState => some .unauthenticatedState

/-- `dataDidChange`; the catch-up phase one also reads the machine's
`isUpdateEventStreamActive`. -/
def dataDidChange (flags : ZMSyncFlags) (isUpdateEventStreamActive : Bool) :
    ZMSyncState → Option ZMSyncState
  | .unauthenticatedState =>
    if flags.shouldStartQuickSync then some .updateEventsCatchUpPhaseOneState else none
  | .updateEventsCatchUpPhaseOneState =>
    if flags.errorInDowloading then some .downloadLastUpdateEventIDState
    else if !flags.isDownloadingMissingNotifications && isUpdateEventStreamActive then
      some .updateEventsCatchUpPhaseTwoState
    else none
  | .updateEventsCatchUpPhaseTwoState =>
    if flags.errorInDowloading then some .downloadLastUpdateEventIDState
    else if !flags.isDownloadingMissingNotifications then some .eventProcessingState
    else none
  | .downloadLastUpdateEventIDState =>
    if flags.hasLastUpdateEventID || !flags.isDownloadingLastUpdateEventID then
      some .slowSyncPhaseOneState
    else none
  | .slowSyncPhaseOneState =>
    if flags.connectionSlowSyncDone && flags.conversationSlowSyncDone then
      some .slowSyncPhaseTwoState
    else none
  | .slowSyncPhaseTwoState =>
    if flags.userSlowSyncDone then some .eventProcessingState else none
  | .preBackgroundState =>
    if ZMPreBackgroundState.canGoToBackgroundState flags then some .backgroundState else none
  | .backgroundFetchState => ZMBackgroundFetchState.transitionOutIfComplete flags
  | .backgroundTaskState => ZMBackgroundTaskState.transitionOutIfComplete flags
  | .unauthenticatedBackgroundState | .eventProcessingState | .backgroundState => none

/-- `timerDidFire:` of the state's own timer, while the machine is in that state. -/
def timerDidFire : ZMSyncState → Option ZMSyncState
  | .backgroundFetchState | .backgroundTaskState => some .preBackgroundState
  | .unauthenticatedState | .unauthenticatedBackgroundState | .eventProcessingState
  | .slowSyncPhaseOneState | .slowSyncPhaseTwoState | .updateEventsCatchUpPhaseOneState
  | .updateEventsCatchUpPhaseTwoState | .downloadLastUpdateEventIDState | .backgroundState
  | .preBackgroundState => none

/-- `nextRequest`: whether the state returns a request, and the state it sends
the machine to. -/
def nextRequest (flags : ZMSyncFlags) (state : ZMSyncState) : Bool × Option ZMSyncState :=
  match state with
  | .unauthenticatedState =>
    if flags.isDoneWithLogin then
      (false, if flags.shouldStartQuickSync then some .updateEventsCatchUpPhaseOneState
        else none)
    else (flags.hasRequest .unauthenticatedState, none)
  | .backgroundFetchState =>
    if flags.hasRequest .backgroundFetchState then (true, none)
    else (false, ZMBackgroundFetchState.transitionOutIfComplete flags)
  | .backgroundTaskState =>
    if flags.hasRequest .backgroundTaskState then (true, none)
    else (false, ZMBackgroundTaskState.transitionOutIfComplete flags)
  | .unauthenticatedBackgroundState | .eventProcessingState | .slowSyncPhaseOneState
  | .slowSyncPhaseTwoState | .updateEventsCatchUpPhaseOneState
  | .updateEventsCatchUpPhaseTwoState | .downloadLastUpdateEventIDState | .backgroundState
  | .preBackgroundState => (flags.hasRequest state, none)

/-- A bound on how many more states `didEnterState` passes the machine on to. -/
def enterRank : ZMSyncState → Nat
  | .unauthenticatedState | .backgroundFetchState => 2
  | .updateEventsCatchUpPhaseOneState | .preBackgroundState => 1
  | .unauthenticatedBackgroundState | .eventProcessingState | .slowSyncPhaseOneState
  | .slowSyncPhaseTwoState | .updateEventsCatchUpPhaseTwoState
  | .downloadLastUpdateEventIDState | .backgroundState | .backgroundTaskState => 0

/-- The states whose `nextRequest` may move the machine. -/
def requestRank : ZMSyncState → Nat
  | .unauthenticatedState | .backgroundFetchState | .backgroundTaskState => 1
  | .unauthenticatedBackgroundState | .eventProcessingState | .slowSyncPhaseOneState
  | .slowSyncPhaseTwoState | .updateEventsCatchUpPhaseOneState
  | .updateEventsCatchUpPhaseTwoState | .downloadLastUpdateEventIDState | .backgroundState
  | .preBackgroundState => 0

theorem enterRank_didEnterState {flags : ZMSyncFlags} {state next : ZMSyncState}
    (h : state.didEnterState flags = some next) : next.enterRank < state.enterRank := by
  cases state <;> simp only [didEnterState] at h <;> (repeat' split at h) <;> cases h <;> decide

/-- `didEnterState` only moves the machine into states whose `nextRequest`
keeps it where it is. -/
theorem requestRank_didEnterState {flags : ZMSyncFlags} {state next : ZMSyncState}
    (h : state.didEnterState flags = some next) : next.requestRank = 0 := by
  cases state <;> simp only [didEnterState] at h <;> (repeat' split at h) <;> cases h <;> rfl

/-- `nextRequest` moves the machine only out of the states of rank one, and only
into states of rank zero. -/
theorem requestRank_nextRequest {flags : ZMSyncFlags} {state next : ZMSyncState}
    (h : (state.nextRequest flags).2 = some next) :
    state.requestRank = 1 ∧ next.requestRank = 0 := by
  cases state <;> simp only [nextRequest, ZMBackgroundFetchState.transitionOutIfComplete,
    ZMBackgroundTaskState.transitionOutIfComplete] at h <;> (repeat' split at h) <;>
    simp_all <;> (cases h; decide)

end ZMSyncState

/-- `ZMSyncStrategy` with its `ZMSyncStateMachine`: the machine's current state
and stream flag, the events buffer, and the events handed to
`consumeUpdateEvents` so far, in order. -/
structure ZMSyncStrategy where
  currentState : ZMSyncState
  isUpdateEventStreamActive : Bool
  eventsBuffer : List ZMUpdateEvent
  consumed : List ZMUpdateEvent

namespace ZMSyncStrategy

variable (flags : ZMSyncFlags)

/-- `consumeUpdateEvents:`, for the events it is handed. -/
def consumeUpdateEvents (w : ZMSyncStrategy) (events : List ZMUpdateEvent) : ZMSyncStrategy :=
  { w with consumed := w.consumed ++ events }

/-- `ZMUpdateEventsBuffer addUpdateEvent:`. -/
def addUpdateEvent (w : ZMSyncStrategy) (event : ZMUpdateEvent) : ZMSyncStrategy :=
  { w with eventsBuffer := w.eventsBuffer ++ [event] }

/-- `processAllEventsInBuffer`: consume the buffered events, then empty the buffer. -/
def processAllEventsInBuffer (w : ZMSyncStrategy) : ZMSyncStrategy :=
  { w.consumeUpdateEvents w.eventsBuffer with eventsBuffer := [] }

@[simp] theorem consumeUpdateEvents_currentState (w : ZMSyncStrategy) (events) :
    (w.consumeUpdateEvents events).currentState = w.currentState := rfl

@[simp] theorem consumeUpdateEvents_isUpdateEventStreamActive (w : ZMSyncStrategy) (events) :
    (w.consumeUpdateEvents events).isUpdateEventStreamActive = w.isUpdateEventStreamActive := rfl

@[simp] theorem consumeUpdateEvents_eventsBuffer (w : ZMSyncStrategy) (events) :
    (w.consumeUpdateEvents events).eventsBuffer = w.eventsBuffer := rfl

@[simp] theorem consumeUpdateEvents_consumed (w : ZMSyncStrategy) (events) :
    (w.consumeUpdateEvents events).consumed = w.consumed ++ events := rfl

@[simp] theorem consumeUpdateEvents_nil (w : ZMSyncStrategy) : w.consumeUpdateEvents [] = w := by
  simp [consumeUpdateEvents]

/-- The buffering loop of `processUpdateEvents:ignoreBuffer:` appends the events
to the buffer, in order. -/
theorem foldl_addUpdateEvent (events : List ZMUpdateEvent) (w : ZMSyncStrategy) :
    events.foldl addUpdateEvent w = { w with eventsBuffer := w.eventsBuffer ++ events } := by
  induction events generalizing w with
  | nil => simp
  | cons event events ih => simp [ih, addUpdateEvent]

/-- The part of `goToState:` before the entered state moves on: the state
becomes current, and the `didEnterState` of `ZMEventProcessingState` empties the
buffer. -/
def enterState (w : ZMSyncStrategy) (state : ZMSyncState) : ZMSyncStrategy :=
  let entered : ZMSyncStrategy := { w with currentState := state }
  if state = .eventProcessingState then entered.processAllEventsInBuffer else entered

@[simp] theorem enterState_currentState (w : ZMSyncStrategy) (state : ZMSyncState) :
    (w.enterState state).currentState = state := by
  unfold enterState
  split <;> rfl

@[simp] theorem enterState_isUpdateEventStreamActive (w : ZMSyncStrategy) (state) :
    (w.enterState state).isUpdateEventStreamActive = w.isUpdateEventStreamActive := by
  unfold enterState
  split <;> rfl

/-- `goToState:`: enter the state, then go on to the state its `didEnterState`
moves to. -/
def goToState (w : ZMSyncStrategy) (state : ZMSyncState) : ZMSyncStrategy :=
  match _h : state.didEnterState flags with
  | none => w.enterState state
  | some next => goToState (w.enterState state) next
termination_by state.enterRank
decreasing_by exact ZMSyncState.enterRank_didEnterState _h

theorem goToState_of_none {w : ZMSyncStrategy} {state : ZMSyncState}
    (h : state.didEnterState flags = none) : w.goToState flags state = w.enterState state := by
  rw [goToState]
  split <;> simp_all

theorem goToState_of_some {w : ZMSyncStrategy} {state next : ZMSyncState}
    (h : state.didEnterState flags = some next) :
    w.goToState flags state = (w.enterState state).goToState flags next := by
  rw [goToState]
  split <;> simp_all

/-- Go to the state a state method chose, if it chose one. -/
def goTo (w : ZMSyncStrategy) : Option ZMSyncState → ZMSyncStrategy
  | none => w
  | some state => w.goToState flags state

/-- `enterBackground`. -/
def enterBackground (w : ZMSyncStrategy) : ZMSyncStrategy :=
  w.goTo flags w.currentState.didEnterBackground

/-- `enterForeground`. -/
def enterForeground (w : ZMSyncStrategy) : ZMSyncStrategy :=
  w.goTo flags (w.currentState.didEnterForeground flags)

/-- `startQuickSync`. -/
def startQuickSync (w : ZMSyncStrategy) : ZMSyncStrategy :=
  w.goToState flags .updateEventsCatchUpPhaseOneState

/-- `startSlowSync`. -/
def startSlowSync (w : ZMSyncStrategy) : ZMSyncStrategy :=
  w.goToState flags .downloadLastUpdateEventIDState

/-- `startBackgroundFetchWithCompletionHandler:`; the handler is called when the
state does not support background fetch. -/
def startBackgroundFetchWithCompletionHandler (w : ZMSyncStrategy) : ZMSyncStrategy :=
  if w.currentState.supportsBackgroundFetch then w.goToState flags .backgroundFetchState else w

/-- `startBackgroundTaskWithCompletionHandler:`. -/
def startBackgroundTaskWithCompletionHandler (w : ZMSyncStrategy) : ZMSyncStrategy :=
  if w.currentState.supportsBackgroundFetch then w.goToState flags .backgroundTaskState else w

/-- `didFailAuthentication`. -/
def didFailAuthentication (w : ZMSyncStrategy) : ZMSyncStrategy :=
  w.goTo flags w.currentState.didFailAuthentication

/-- `didInterruptUpdateEventsStream`. -/
def didInterruptUpdateEventsStream (w : ZMSyncStrategy) : ZMSyncStrategy :=
  let w : ZMSyncStrategy := { w with isUpdateEventStreamActive := false }
  w.goTo flags w.currentState.didRequestSynchronization

/-- `didEstablishUpdateEventsStream`. -/
def didEstablishUpdateEventsStream (w : ZMSyncStrategy) : ZMSyncStrategy :=
  { w with isUpdateEventStreamActive := true }

/-- `dataDidChange`. -/
def dataDidChange (w : ZMSyncStrategy) : ZMSyncStrategy :=
  w.goTo flags (w.currentState.dataDidChange flags w.isUpdateEventStreamActive)

/-- `timerDidFire:` of the timer of `state`, which acts only while `state` is
current. -/
def timerDidFire (w : ZMSyncStrategy) (state : ZMSyncState) : ZMSyncStrategy :=
  if w.currentState = state then w.goTo flags state.timerDidFire else w

theorem goTo_currentState_eq {w : ZMSyncStrategy} {next : Option ZMSyncState}
    (h : (w.goTo flags next).currentState ≠ w.currentState) :
    ∃ state, next = some state := by
  cases next with
  | none => exact absurd rfl h
  | some state => exact ⟨state, rfl⟩

/-- Entering a state of request rank zero ends in one. -/
theorem requestRank_goToState {w : ZMSyncStrategy} {state : ZMSyncState}
    (h : state.requestRank = 0) : (w.goToState flags state).currentState.requestRank = 0 := by
  fun_induction goToState flags w state with
  | case1 w state hnone => simpa using h
  | case2 w state next hnext ih => exact ih (ZMSyncState.requestRank_didEnterState hnext)

/-- `nextRequest` of `ZMSyncStateMachine`: ask the current state; while it
returns no request and has moved the machine, ask the new state. -/
def nextRequest (w : ZMSyncStrategy) : ZMSyncStrategy :=
  let answer := w.currentState.nextRequest flags
  let moved := w.goTo flags answer.2
  if _h : answer.1 = false ∧ moved.currentState ≠ w.currentState then nextRequest moved
  else moved
termination_by w.currentState.requestRank
decreasing_by
  obtain ⟨state, hstate⟩ := goTo_currentState_eq flags _h.2
  obtain ⟨hw, hnext⟩ := ZMSyncState.requestRank_nextRequest hstate
  have hmoved : moved.currentState.requestRank = 0 := by
    simp only [moved, answer, hstate, goTo]
    exact requestRank_goToState flags hnext
  show moved.currentState.requestRank < w.currentState.requestRank
  omega

/-- `processUpdateEvents:ignoreBuffer:`. -/
def processUpdateEvents (w : ZMSyncStrategy) (events : List ZMUpdateEvent)
    (ignoreBuffer : Bool) : ZMSyncStrategy :=
  if ignoreBuffer then w.consumeUpdateEvents events
  else
    let w := if (flowEvents events).length > 0 then w.consumeUpdateEvents (flowEvents events)
      else w
    match w.currentState.updateEventsPolicy with
    | .ignore =>
      if (callstateEvents events).length > 0 then
        w.consumeUpdateEvents (callstateEvents events)
      else w
    | .buffer => (notFlowEvents events).foldl addUpdateEvent w
    | .process =>
      if (notFlowEvents events).length > 0 then w.consumeUpdateEvents (notFlowEvents events)
      else w

/-- The strategy once `ZMSyncStateMachine` has entered `ZMUnauthenticatedState`
after its creation. -/
def init : ZMSyncStrategy :=
  goToState flags ⟨.unauthenticatedState, false, [], []⟩ .unauthenticatedState

/-! ### What one call does to the buffer -/

/-- The non-flow events handed to `consumeUpdateEvents` so far, followed by those
waiting in the buffer. -/
def handledEvents (w : ZMSyncStrategy) : List ZMUpdateEvent :=
  notFlowEvents w.consumed ++ w.eventsBuffer

theorem consume_if_length_pos (w : ZMSyncStrategy) (events : List ZMUpdateEvent) :
    (if events.length > 0 then w.consumeUpdateEvents events else w) =
      w.consumeUpdateEvents events := by
  cases events <;> simp

/-- A delivery with `ignoreBuffer:NO` consumes the flow events and the events
its policy consumes at once, and buffers the events its policy buffers. -/
theorem processUpdateEvents_eq (w : ZMSyncStrategy) (events : List ZMUpdateEvent) :
    w.processUpdateEvents events false =
      { w with
        consumed := w.consumed ++ flowEvents events ++
          w.currentState.updateEventsPolicy.consumedAtOnce events
        eventsBuffer := w.eventsBuffer ++ w.currentState.updateEventsPolicy.buffered events } := by
  simp only [processUpdateEvents, Bool.false_eq_true, if_false, consume_if_length_pos,
    consumeUpdateEvents_currentState]
  cases w.currentState.updateEventsPolicy <;>
    simp [ZMUpdateEventsPolicy.consumedAtOnce, ZMUpdateEventsPolicy.buffered,
      foldl_addUpdateEvent, consumeUpdateEvents]

theorem handledEvents_processUpdateEvents (w : ZMSyncStrategy) (events : List ZMUpdateEvent) :
    (w.processUpdateEvents events false).handledEvents =
      notFlowEvents w.consumed ++ w.currentState.updateEventsPolicy.consumedAtOnce events ++
        w.eventsBuffer ++ w.currentState.updateEventsPolicy.buffered events := by
  simp [processUpdateEvents_eq, handledEvents]

/-- What a transition that delivers nothing may do to the buffer: leave it and the
consumed events as they are, or hand the whole buffer to `consumeUpdateEvents`;
and it does not make `ZMEventProcessingState` current with events waiting. -/
structure Settles (w w' : ZMSyncStrategy) : Prop where
  log : (w'.consumed = w.consumed ∧ w'.eventsBuffer = w.eventsBuffer) ∨
    (w'.consumed = w.consumed ++ w.eventsBuffer ∧ w'.eventsBuffer = [])
  processing : (w.currentState = .eventProcessingState → w.eventsBuffer = []) →
    w'.currentState = .eventProcessingState → w'.eventsBuffer = []

theorem Settles.refl (w : ZMSyncStrategy) : Settles w w :=
  ⟨.inl ⟨rfl, rfl⟩, id⟩

theorem Settles.trans {w₁ w₂ w₃ : ZMSyncStrategy} (h₁ : Settles w₁ w₂) (h₂ : Settles w₂ w₃) :
    Settles w₁ w₃ := by
  refine ⟨?_, fun h => h₂.processing (h₁.processing h)⟩
  rcases h₁.log with ⟨hc₁, hb₁⟩ | ⟨hc₁, hb₁⟩ <;> rcases h₂.log with ⟨hc₂, hb₂⟩ | ⟨hc₂, hb₂⟩
  · exact .inl ⟨hc₂.trans hc₁, hb₂.trans hb₁⟩
  · exact .inr ⟨by rw [hc₂, hc₁, hb₁], hb₂⟩
  · exact .inr ⟨hc₂.trans hc₁, hb₂.trans hb₁⟩
  · exact .inr ⟨by rw [hc₂, hc₁, hb₁, List.append_nil], hb₂⟩

/-- A transition that only moves the machine, to another state than
`ZMEventProcessingState`, settles. -/
theorem Settles.of_frame {w w' : ZMSyncStrategy} (hc : w'.consumed = w.consumed)
    (hb : w'.eventsBuffer = w.eventsBuffer)
    (hs : w'.currentState = w.currentState ∨ w'.currentState ≠ .eventProcessingState) :
    Settles w w' := by
  refine ⟨.inl ⟨hc, hb⟩, fun h hep => ?_⟩
  rcases hs with hs | hs
  · rw [hb]
    exact h (hs ▸ hep)
  · exact absurd hep hs

/-- A settling transition changes neither the handled events nor the kind of
events in the buffer. -/
theorem Settles.handledEvents_eq {w w' : ZMSyncStrategy} (h : Settles w w')
    (hflow : ∀ event ∈ w.eventsBuffer, event.isFlowEvent = false) :
    w'.handledEvents = w.handledEvents := by
  rcases h.log with ⟨hc, hb⟩ | ⟨hc, hb⟩
  · simp [handledEvents, hc, hb]
  · simp [handledEvents, hc, hb, notFlowEvents_eq_self hflow]

theorem Settles.eventsBuffer_subset {w w' : ZMSyncStrategy} (h : Settles w w') :
    ∀ event ∈ w'.eventsBuffer, event ∈ w.eventsBuffer := by
  rcases h.log with ⟨-, hb⟩ | ⟨-, hb⟩ <;> simp [hb]

theorem Settles.eventsBuffer_eq_nil {w w' : ZMSyncStrategy} (h : Settles w w')
    (hempty : w.eventsBuffer = []) : w'.eventsBuffer = [] := by
  rcases h.log with ⟨-, hb⟩ | ⟨-, hb⟩ <;> simp [hb, hempty]

theorem enterState_settles (w : ZMSyncStrategy) (state : ZMSyncState) :
    Settles w (w.enterState state) := by
  by_cases hstate : state = .eventProcessingState
  · refine ⟨.inr ?_, fun _ _ => ?_⟩ <;>
      simp [enterState, hstate, processAllEventsInBuffer, consumeUpdateEvents]
  · exact Settles.of_frame (by simp [enterState, hstate]) (by simp [enterState, hstate])
      (.inr (by simpa using hstate))

theorem goToState_settles (w : ZMSyncStrategy) (state : ZMSyncState) :
    Settles w (w.goToState flags state) := by
  fun_induction goToState flags w state with
  | case1 w state => exact enterState_settles w state
  | case2 w state next _ ih => exact (enterState_settles w state).trans ih

theorem goTo_settles (w : ZMSyncStrategy) (target : Option ZMSyncState) :
    Settles w (w.goTo flags target) := by
  cases target with
  | none => exact Settles.refl w
  | some state => exact goToState_settles flags w state

theorem nextRequest_settles (w : ZMSyncStrategy) : Settles w (w.nextRequest flags) := by
  fun_induction nextRequest flags w with
  | case1 w answer moved _ ih => exact (goTo_settles flags w _).trans ih
  | case2 w answer moved _ => exact goTo_settles flags w _

theorem init_eventsBuffer : (ZMSyncStrategy.init flags).eventsBuffer = [] :=
  (goToState_settles flags _ _).eventsBuffer_eq_nil rfl

/-- The strategy starts with nothing consumed and nothing buffered. -/
theorem init_handledEvents : (ZMSyncStrategy.init flags).handledEvents = [] := by
  rw [ZMSyncStrategy.init, (goToState_settles flags _ _).handledEvents_eq (by simp)]
  simp [handledEvents, notFlowEvents]

theorem setUpdateEventStreamActive_settles (w : ZMSyncStrategy) (active : Bool) :
    Settles w { w with isUpdateEventStreamActive := active } :=
  Settles.of_frame rfl rfl (.inl rfl)

/-! ### Leaving the buffering states -/

/-- Events wait in the buffer only while the current state buffers. -/
def WaitsOnlyWhileBuffering (w : ZMSyncStrategy) : Prop :=
  w.eventsBuffer = [] ∨ w.currentState.updateEventsPolicy = .buffer

/-- A target that keeps what is buffered in order: a state that buffers too, or
`ZMEventProcessingState`, which consumes the buffer on entry. -/
def SyncTarget : Option ZMSyncState → Prop
  | none => True
  | some state => state.updateEventsPolicy = .buffer ∨ state = .eventProcessingState

theorem didEnterState_syncTarget {state next : ZMSyncState}
    (hstate : SyncTarget (some state)) (h : state.didEnterState flags = some next) :
    next.updateEventsPolicy = .buffer := by
  cases state <;> simp only [ZMSyncState.didEnterState] at h <;> (repeat' split at h) <;>
    cases h <;> simp_all [SyncTarget, ZMSyncState.updateEventsPolicy]

/-- Entering a state that buffers, or `ZMEventProcessingState`, ends in a state
that buffers or with the buffer consumed. -/
theorem goToState_waits {w : ZMSyncStrategy} {state : ZMSyncState}
    (hstate : SyncTarget (some state)) : (w.goToState flags state).WaitsOnlyWhileBuffering := by
  fun_induction goToState flags w state with
  | case1 w state =>
    by_cases hep : state = .eventProcessingState
    · left
      simp [enterState, hep, processAllEventsInBuffer]
    · right
      simpa [SyncTarget, hep] using hstate
  | case2 w state next hnext ih => exact ih (.inl (didEnterState_syncTarget flags hstate hnext))

/-- From a state that buffers, a transition to a sync target, or from a state
with nothing buffered, any transition, keeps the events waiting only while
buffering. -/
theorem goTo_waits {w : ZMSyncStrategy} {target : Option ZMSyncState}
    (hw : w.WaitsOnlyWhileBuffering)
    (htarget : w.currentState.updateEventsPolicy = .buffer → SyncTarget target) :
    (w.goTo flags target).WaitsOnlyWhileBuffering := by
  rcases hw with hempty | hbuffer
  · exact .inl ((goTo_settles flags w target).eventsBuffer_eq_nil hempty)
  · cases target with
    | none => exact .inr hbuffer
    | some state => exact goToState_waits flags (htarget hbuffer)

section Buffering

variable {state : ZMSyncState} (hbuffer : state.updateEventsPolicy = .buffer)
include hbuffer

/-- From a state that buffers, `dataDidChange` goes on to another state that
buffers or to `ZMEventProcessingState`. -/
theorem syncTarget_dataDidChange (active : Bool) :
    SyncTarget (state.dataDidChange flags active) := by
  cases state <;> simp only [ZMSyncState.updateEventsPolicy, reduceCtorEq] at hbuffer <;>
    simp only [ZMSyncState.dataDidChange] <;> split_ifs <;>
    simp [SyncTarget, ZMSyncState.updateEventsPolicy]

theorem syncTarget_didRequestSynchronization : SyncTarget state.didRequestSynchronization := by
  cases state <;> simp_all [ZMSyncState.updateEventsPolicy, ZMSyncState.didRequestSynchronization,
    SyncTarget]

omit hbuffer in
theorem syncTarget_none : SyncTarget none := trivial

theorem didEnterForeground_of_buffer : state.didEnterForeground flags = none := by
  cases state <;> simp_all [ZMSyncState.updateEventsPolicy, ZMSyncState.didEnterForeground]

theorem nextRequest_of_buffer : (state.nextRequest flags).2 = none := by
  cases state <;> simp_all [ZMSyncState.updateEventsPolicy, ZMSyncState.nextRequest]

theorem supportsBackgroundFetch_of_buffer : state.supportsBackgroundFetch = false := by
  cases state <;> simp_all [ZMSyncState.updateEventsPolicy, ZMSyncState.supportsBackgroundFetch]

theorem timerDidFire_of_buffer : state.timerDidFire = none := by
  cases state <;> simp_all [ZMSyncState.updateEventsPolicy, ZMSyncState.timerDidFire]

end Buffering

/-- In a state that buffers, `nextRequest` leaves the machine where it is. -/
theorem nextRequest_eq_of_buffer {w : ZMSyncStrategy}
    (hbuffer : w.currentState.updateEventsPolicy = .buffer) : w.nextRequest flags = w := by
  rw [nextRequest]
  simp [nextRequest_of_buffer flags hbuffer, goTo]

end ZMSyncStrategy

namespace SyncStateMachine

open ZMSyncStrategy

/-- The calls into the strategy a run is made of: a delivery of live events
through `processUpdateEvents:ignoreBuffer:NO`, and the calls that move the
machine, each with the flags its state methods read. -/
inductive Event
  | processUpdateEvents (events : List ZMUpdateEvent)
  | dataDidChange (flags : ZMSyncFlags)
  | enterBackground (flags : ZMSyncFlags)
  | enterForeground (flags : ZMSyncFlags)
  | didFailAuthentication (flags : ZMSyncFlags)
  | didInterruptUpdateEventsStream (flags : ZMSyncFlags)
  | didEstablishUpdateEventsStream
  | startQuickSync (flags : ZMSyncFlags)
  | startSlowSync (flags : ZMSyncFlags)
  | startBackgroundFetch (flags : ZMSyncFlags)
  | startBackgroundTask (flags : ZMSyncFlags)
  | nextRequest (flags : ZMSyncFlags)
  | timerDidFire (state : ZMSyncState) (flags : ZMSyncFlags)

/-- The strategy, with the live events delivered to it so far, in order. -/
structure World where
  strategy : ZMSyncStrategy
  arrived : List ZMUpdateEvent

namespace World

def init (flags : ZMSyncFlags) : World := ⟨ZMSyncStrategy.init flags, []⟩

def step (w : World) : Event → World
  | .processUpdateEvents events =>
    ⟨w.strategy.processUpdateEvents events false, w.arrived ++ events⟩
  | .dataDidChange flags => ⟨w.strategy.dataDidChange flags, w.arrived⟩
  | .enterBackground flags => ⟨w.strategy.enterBackground flags, w.arrived⟩
  | .enterForeground flags => ⟨w.strategy.enterForeground flags, w.arrived⟩
  | .didFailAuthentication flags => ⟨w.strategy.didFailAuthentication flags, w.arrived⟩
  | .didInterruptUpdateEventsStream flags =>
    ⟨w.strategy.didInterruptUpdateEventsStream flags, w.arrived⟩
  | .didEstablishUpdateEventsStream => ⟨w.strategy.didEstablishUpdateEventsStream, w.arrived⟩
  | .startQuickSync flags => ⟨w.strategy.startQuickSync flags, w.arrived⟩
  | .startSlowSync flags => ⟨w.strategy.startSlowSync flags, w.arrived⟩
  | .startBackgroundFetch flags =>
    ⟨w.strategy.startBackgroundFetchWithCompletionHandler flags, w.arrived⟩
  | .startBackgroundTask flags =>
    ⟨w.strategy.startBackgroundTaskWithCompletionHandler flags, w.arrived⟩
  | .nextRequest flags => ⟨w.strategy.nextRequest flags, w.arrived⟩
  | .timerDidFire state flags => ⟨w.strategy.timerDidFire flags state, w.arrived⟩

/-- Every call but a delivery settles. -/
theorem step_settles (w : World) {e : Event} (he : ∀ events, e ≠ .processUpdateEvents events) :
    Settles w.strategy (w.step e).strategy := by
  cases e with
  | processUpdateEvents events => exact absurd rfl (he events)
  | didInterruptUpdateEventsStream flags =>
    exact (setUpdateEventStreamActive_settles _ false).trans (goTo_settles flags _ _)
  | didEstablishUpdateEventsStream => exact setUpdateEventStreamActive_settles _ true
  | startQuickSync flags | startSlowSync flags => exact goToState_settles flags _ _
  | startBackgroundFetch flags | startBackgroundTask flags =>
    simp only [step, startBackgroundFetchWithCompletionHandler,
      startBackgroundTaskWithCompletionHandler]
    split
    · exact goToState_settles flags _ _
    · exact Settles.refl _
  | timerDidFire state flags =>
    simp only [step, ZMSyncStrategy.timerDidFire]
    split
    · exact goTo_settles flags _ _
    · exact Settles.refl _
  | nextRequest flags => exact nextRequest_settles flags _
  | dataDidChange flags | enterBackground flags | enterForeground flags
  | didFailAuthentication flags => exact goTo_settles flags _ _

/-- Only a delivery adds to the live events delivered. -/
theorem step_arrived (w : World) {e : Event} (he : ∀ events, e ≠ .processUpdateEvents events) :
    (w.step e).arrived = w.arrived := by
  cases e <;> first | rfl | exact absurd rfl (he _)

end World

/-! ### Every run -/

/-- Only non-flow events wait in the buffer; each delivered event is consumed or
buffered at most once; nothing waits while `ZMEventProcessingState` is current. -/
structure Good (w : World) : Prop where
  buffer_notFlow : ∀ event ∈ w.strategy.eventsBuffer, event.isFlowEvent = false
  at_most_once : List.Subperm w.strategy.handledEvents (notFlowEvents w.arrived)
  processing_empty :
    w.strategy.currentState = .eventProcessingState → w.strategy.eventsBuffer = []

theorem Good.of_settles {w w' : World} (h : Good w) (hs : Settles w.strategy w'.strategy)
    (harrived : w'.arrived = w.arrived) : Good w' where
  buffer_notFlow event hmem := h.buffer_notFlow event (hs.eventsBuffer_subset event hmem)
  at_most_once := by
    rw [hs.handledEvents_eq h.buffer_notFlow, harrived]
    exact h.at_most_once
  processing_empty := hs.processing h.processing_empty

theorem Good.init (flags : ZMSyncFlags) : Good (World.init flags) where
  buffer_notFlow := by simp [World.init, init_eventsBuffer]
  at_most_once := by simp [World.init, init_handledEvents, notFlowEvents]
  processing_empty _ := init_eventsBuffer flags

/-- A delivery is consumed or buffered, each event once. -/
theorem Good.deliver {w : World} (h : Good w) (events : List ZMUpdateEvent) :
    Good (w.step (.processUpdateEvents events)) := by
  set policy := w.strategy.currentState.updateEventsPolicy
  refine ⟨?_, ?_, ?_⟩
  · intro event hmem
    simp only [World.step, processUpdateEvents_eq, List.mem_append] at hmem
    rcases hmem with hmem | hmem
    · exact h.buffer_notFlow event hmem
    · exact ZMUpdateEventsPolicy.isFlowEvent_of_mem_buffered hmem
  · simp only [World.step, handledEvents_processUpdateEvents, notFlowEvents_append]
    have hperm : List.Perm (notFlowEvents w.strategy.consumed ++ policy.consumedAtOnce events ++
        w.strategy.eventsBuffer ++ policy.buffered events)
        (w.strategy.handledEvents ++ (policy.consumedAtOnce events ++ policy.buffered events)) :=
      List.perm_iff_count.2 fun event => by simp [handledEvents, List.count_append]; omega
    refine hperm.subperm.trans (((List.subperm_append_right _).2 h.at_most_once).trans ?_)
    exact ((ZMUpdateEventsPolicy.consumedAtOnce_append_buffered policy events).append_left
      _).subperm
  · intro hprocessing
    simp only [World.step, processUpdateEvents_eq] at hprocessing ⊢
    simp [h.processing_empty hprocessing, hprocessing, ZMSyncState.updateEventsPolicy,
      ZMUpdateEventsPolicy.buffered]

theorem Good.step {w : World} (h : Good w) (e : Event) : Good (w.step e) := by
  by_cases he : ∀ events, e ≠ .processUpdateEvents events
  · exact h.of_settles (w.step_settles he) (w.step_arrived he)
  · obtain ⟨events, rfl⟩ : ∃ events, e = .processUpdateEvents events := by simpa using he
    exact h.deliver events

theorem Good.run (flags : ZMSyncFlags) (events : List Event) :
    Good (run World.step (World.init flags) events) :=
  run_invariant Good (fun _ e h => h.step e) events (Good.init flags)

/-! ### Runs that leave the sync states with an empty buffer -/

/-- The application enters the background, and authentication fails, only while
nothing is buffered. -/
def LeavesSyncEmpty (w : World) : Event → Prop
  | .enterBackground _ | .didFailAuthentication _ => w.strategy.eventsBuffer = []
  | _ => True

/-- From a state that buffers, every call but a delivery, entering the background
and a failed authentication leads to a state that buffers or consumes the
buffer; from a state with nothing buffered, nothing gets buffered. -/
theorem World.step_waits (w : World) {e : Event} (he : ∀ events, e ≠ .processUpdateEvents events)
    (hleave : LeavesSyncEmpty w e) (hw : w.strategy.WaitsOnlyWhileBuffering) :
    (w.step e).strategy.WaitsOnlyWhileBuffering := by
  cases e with
  | processUpdateEvents events => exact absurd rfl (he events)
  | enterBackground flags | didFailAuthentication flags =>
    exact .inl ((w.step_settles he).eventsBuffer_eq_nil hleave)
  | dataDidChange flags => exact goTo_waits flags hw fun hb => syncTarget_dataDidChange flags hb _
  | enterForeground flags =>
    exact goTo_waits flags hw fun hb => didEnterForeground_of_buffer flags hb ▸ syncTarget_none
  | didInterruptUpdateEventsStream flags =>
    exact goTo_waits flags hw fun hb => syncTarget_didRequestSynchronization hb
  | didEstablishUpdateEventsStream => exact hw
  | startQuickSync flags | startSlowSync flags => exact goToState_waits flags (.inl rfl)
  | startBackgroundFetch flags | startBackgroundTask flags =>
    simp only [step, startBackgroundFetchWithCompletionHandler,
      startBackgroundTaskWithCompletionHandler]
    split
    · rename_i hsupports
      rcases hw with hb | hb
      · exact .inl ((goToState_settles flags _ _).eventsBuffer_eq_nil hb)
      · exact absurd hsupports (by simp [supportsBackgroundFetch_of_buffer hb])
    · exact hw
  | nextRequest flags =>
    rcases hw with hb | hb
    · exact .inl ((nextRequest_settles flags _).eventsBuffer_eq_nil hb)
    · simp only [step, nextRequest_eq_of_buffer flags hb]
      exact .inr hb
  | timerDidFire state flags =>
    simp only [step, ZMSyncStrategy.timerDidFire]
    split
    · rename_i hcurrent
      exact goTo_waits flags hw fun hb => timerDidFire_of_buffer (hcurrent ▸ hb) ▸ syncTarget_none
    · exact hw

/-- Events wait only while the machine buffers, and the non-flow events handled
so far are among those delivered, in the order of delivery. -/
structure Ordered (w : World) : Prop where
  good : Good w
  waits : w.strategy.WaitsOnlyWhileBuffering
  in_order : List.Sublist w.strategy.handledEvents (notFlowEvents w.arrived)

theorem Ordered.init (flags : ZMSyncFlags) : Ordered (World.init flags) where
  good := Good.init flags
  waits := .inl (init_eventsBuffer flags)
  in_order := by simp [World.init, init_handledEvents, notFlowEvents]

/-- With nothing waiting, or in a state that buffers, a delivery appends to the
handled events the delivery's events it consumes or buffers. -/
theorem Ordered.deliver {w : World} (h : Ordered w) (events : List ZMUpdateEvent) :
    Ordered (w.step (.processUpdateEvents events)) := by
  let policy := w.strategy.currentState.updateEventsPolicy
  have hhandled : (w.strategy.processUpdateEvents events false).handledEvents =
      w.strategy.handledEvents ++ (policy.consumedAtOnce events ++ policy.buffered events) := by
    rw [handledEvents_processUpdateEvents, handledEvents]
    rcases h.waits with hb | hb
    · simp [policy, hb]
    · simp [policy, hb, ZMUpdateEventsPolicy.consumedAtOnce]
  refine ⟨h.good.deliver events, ?_, ?_⟩
  · simp only [World.step, WaitsOnlyWhileBuffering, processUpdateEvents_eq]
    rcases h.waits with hb | hb
    · cases w.strategy.currentState.updateEventsPolicy <;>
        simp [hb, ZMUpdateEventsPolicy.buffered]
    · exact .inr hb
  · simp only [World.step, hhandled, notFlowEvents_append]
    exact h.in_order.append (ZMUpdateEventsPolicy.consumedAtOnce_append_buffered policy events)

theorem Ordered.step {w : World} (h : Ordered w) {e : Event} (hleave : LeavesSyncEmpty w e) :
    Ordered (w.step e) := by
  by_cases he : ∀ events, e ≠ .processUpdateEvents events
  · refine ⟨h.good.step e, w.step_waits he hleave h.waits, ?_⟩
    rw [(w.step_settles he).handledEvents_eq h.good.buffer_notFlow, w.step_arrived he]
    exact h.in_order
  · obtain ⟨events, rfl⟩ : ∃ events, e = .processUpdateEvents events := by simpa using he
    exact h.deliver events

theorem Ordered.run (flags : ZMSyncFlags) (events : List Event)
    (hleave : Guarded World.step LeavesSyncEmpty (World.init flags) events) :
    Ordered (run World.step (World.init flags) events) :=
  run_invariant_guarded Ordered (fun _ _ h hg => h.step hg) events (Ordered.init flags) hleave

/-- A logged-in launch in the foreground: the last update event ID is known,
nothing is downloading, and a message is waiting to be sent. -/
@[simps] def loggedInFlags : ZMSyncFlags where
  hasLastUpdateEventID := true
  isDownloadingMissingNotifications := false
  errorInDowloading := false
  isDownloadingLastUpdateEventID := false
  connectionSlowSyncDone := false
  conversationSlowSyncDone := false
  userSlowSyncDone := false
  hasPendingMessages := true
  isDoneWithLogin := true
  shouldStartQuickSync := false
  isBackgrounded := false
  hasOutstandingItems := false
  errorPerformingTask := false
  didFinishTask := false
  hasRequest _ := false

/-- Logged in and in the foreground, the machine starts a quick sync at once. -/
theorem init_loggedInFlags :
    ZMSyncStrategy.init loggedInFlags = ⟨.updateEventsCatchUpPhaseOneState, false, [], []⟩ := by
  have hquick : ZMSyncState.unauthenticatedState.didEnterState loggedInFlags =
      some .updateEventsCatchUpPhaseOneState := by decide
  rw [ZMSyncStrategy.init, goToState_of_some loggedInFlags hquick,
    goToState_of_none loggedInFlags (by decide)]
  rfl

/-- Live events and the events buffer over every run of the machine: each
delivered event is consumed or buffered at most once, and nothing waits while
`ZMEventProcessingState` is current; and when the application enters the
background, and authentication fails, only while the buffer is empty, events wait
only in the states that buffer and the live events are consumed in the order they
arrived. -/
theorem syncStateMachine_liveEvents_in_order (flags : ZMSyncFlags) (events : List Event) :
    let w := run World.step (World.init flags) events
    (List.Subperm w.strategy.handledEvents (notFlowEvents w.arrived) ∧
      (w.strategy.currentState = .eventProcessingState → w.strategy.eventsBuffer = [])) ∧
    (Guarded World.step LeavesSyncEmpty (World.init flags) events →
      w.strategy.WaitsOnlyWhileBuffering ∧
        List.Sublist w.strategy.handledEvents (notFlowEvents w.arrived)) := by
  intro w
  have hgood : Good w := Good.run flags events
  refine ⟨⟨hgood.at_most_once, hgood.processing_empty⟩, fun hleave => ?_⟩
  have hordered : Ordered w := Ordered.run flags events hleave
  exact ⟨hordered.waits, hordered.in_order⟩

theorem syncStateMachine_liveEvents_in_order_catch_up :
    let events : List Event :=
      [.processUpdateEvents [⟨1, .conversationOtrMessageAdd⟩], .didEstablishUpdateEventsStream,
        .dataDidChange loggedInFlags, .dataDidChange loggedInFlags,
        .processUpdateEvents [⟨2, .conversationOtrMessageAdd⟩]]
    let w := run World.step (World.init loggedInFlags) events
    Guarded World.step LeavesSyncEmpty (World.init loggedInFlags) events ∧
      w.strategy.WaitsOnlyWhileBuffering ∧
      List.Sublist w.strategy.handledEvents (notFlowEvents w.arrived) := by
  intro events w
  have hleave : Guarded World.step LeavesSyncEmpty (World.init loggedInFlags) events :=
    ⟨trivial, trivial, trivial, trivial, trivial, trivial⟩
  exact ⟨hleave, (syncStateMachine_liveEvents_in_order loggedInFlags events).2 hleave⟩

/-! ### Entering the background during a sync -/

/-- A buffered event is overtaken: a live event arrives during the catch-up and
is buffered; the application enters the background with a message pending, so the
machine stays in `ZMPreBackgroundState`, whose policy is Process; the next live
event is consumed there while the first one waits, and the first one is consumed
only when the machine is back in the foreground and has caught up. -/
theorem liveEvent_overtakes_buffer :
    let e₁ : ZMUpdateEvent := ⟨1, .conversationOtrMessageAdd⟩
    let e₂ : ZMUpdateEvent := ⟨2, .conversationOtrMessageAdd⟩
    let w₁ := run World.step (World.init loggedInFlags)
      [.processUpdateEvents [e₁], .enterBackground loggedInFlags, .processUpdateEvents [e₂]]
    let w₂ := run World.step w₁
      [.enterForeground loggedInFlags, .didEstablishUpdateEventsStream,
        .dataDidChange loggedInFlags, .dataDidChange loggedInFlags]
    w₁.strategy.currentState = .preBackgroundState ∧ w₁.strategy.consumed = [e₂] ∧
      w₁.strategy.eventsBuffer = [e₁] ∧
      w₂.strategy.currentState = .eventProcessingState ∧ w₂.strategy.consumed = [e₂, e₁] ∧
      w₂.arrived = [e₁, e₂] ∧
      ¬ List.Sublist (notFlowEvents w₂.strategy.consumed) (notFlowEvents w₂.arrived) := by
  intro e₁ e₂ w₁ w₂
  have h₁ : w₁ = ⟨⟨.preBackgroundState, false, [e₁], [e₂]⟩, [e₁, e₂]⟩ := by
    simp (disch := decide) [w₁, World.step, World.init, init_loggedInFlags, processUpdateEvents_eq,
      ZMSyncStrategy.enterBackground, goTo, goToState_of_none, enterState,
      ZMSyncState.didEnterBackground, ZMSyncState.updateEventsPolicy,
      ZMUpdateEventsPolicy.consumedAtOnce, ZMUpdateEventsPolicy.buffered, flowEvents,
      notFlowEvents, ZMUpdateEvent.isFlowEvent, e₁, e₂]
  have h₂ : w₂ = ⟨⟨.eventProcessingState, true, [], [e₂, e₁]⟩, [e₁, e₂]⟩ := by
    simp (disch := decide) [w₂, h₁, World.step, ZMSyncStrategy.enterForeground,
      ZMSyncStrategy.dataDidChange, didEstablishUpdateEventsStream, goTo, goToState_of_none,
      enterState, ZMSyncState.didEnterForeground, ZMSyncState.dataDidChange,
      processAllEventsInBuffer]
  rw [h₁, h₂]
  refine ⟨rfl, rfl, rfl, rfl, rfl, rfl, ?_⟩
  decide

end SyncStateMachine

end ZMessaging
