import ZMessaging.ListRequestPaginator
import ZMessaging.SyncStateMachine
import ZMessaging.Traces

/-!
# `ZMMissingUpdateEventsTranscoder`: the stored position in the notification stream

The transcoder keeps `lastUpdateEventID`, the id of the last notification the
client has taken from the backend's stream, in the persistent store's
metadata.  It fetches what it missed page by page through a
`ZMSimpleListRequestPaginator` whose start is that id, and every page goes
through `processUpdateEvents:ignoreBuffer:` of the sync strategy: the events
other than call-state ones are consumed at once, the last call-state event of
each conversation is treated by the policy of the state the sync is in.

The id is written from four places: `processEvents:liveEvents:` for every
event consumed live (through `consumeUpdateEvents:`),
`nextUUIDFromResponse:forListPaginator:` with the last event of a page, and
`ZMLastUpdateEventIDTranscoder persistLastUpdateEventID` at the end of a slow
sync.  Each write goes through `setLastUpdateEventID:`, which keeps a
time-based (type 1) UUID when the new one is also time based and not later.

What `NSUUID+Type1` says of UUIDs is a parameter `T`.  A `World` is the
paginator world of `ListRequestPaginator` with this transcoder, and the
backend's stream of notifications; its events are the transcoder's methods,
the push channel's deliveries, the sync strategy's buffer operations and state
changes, a slow sync's persisted ID, and a new notification on the backend.

The main result: in every run in which every UUID offered is time based, the
stored position never moves to an earlier time
(`lastUpdateEventID_never_moves_back`).
-/

namespace ZMessaging.MissingUpdateEvents

open StepSystem ListRequestPaginator

variable {υ κ : Type*}

/-- What `NSUUID+Type1` says of UUIDs: whether one is time based
(`isType1UUID`), and how two time-based ones compare in time
(`compareWithType1:`). -/
structure NSUUIDType1 (υ : Type*) where
  isType1UUID : υ → Bool
  compareWithType1 : υ → υ → Ordering

/-- `ZMUpdateEventSource`. -/
inductive ZMUpdateEventSource
  | webSocket
  | pushNotification
  | download
  deriving DecidableEq, Repr

/-- `ZMUpdateEvent`, with what the transcoder and the sync strategy read of it. -/
structure ZMUpdateEvent (υ κ : Type*) where
  uuid : Option υ
  type : ZMUpdateEventType
  conversationUUID : κ
  isTransient : Bool
  source : ZMUpdateEventSource
  deriving DecidableEq, Repr

/-- `isFlowEvent` reads the event's type alone. -/
def ZMUpdateEvent.isFlowEvent (event : ZMUpdateEvent υ κ) : Bool :=
  ZMessaging.ZMUpdateEvent.isFlowEvent { uuid := 0, type := event.type }

/-- A notification of the stream: its id, and the events
`eventsArrayFromPushChannelData:` makes of it, each with the notification's id
as its UUID. -/
structure Notification (υ κ : Type*) where
  id : υ
  events : List (ZMUpdateEvent υ κ)
  uuid_eq : ∀ event ∈ events, event.uuid = some id

/-- `dictionary[key] = value` on an `NSMutableDictionary`, with the entries
kept in the order their keys were first set. -/
def setObject {α : Type*} [DecidableEq κ] (dictionary : List (κ × α)) (key : κ) (value : α) :
    List (κ × α) :=
  if dictionary.any (fun entry => entry.1 = key) then
    dictionary.map fun entry => if entry.1 = key then (key, value) else entry
  else dictionary ++ [(key, value)]

/-- The parts of `ZMSyncStrategy` that the transcoder's work reaches: the
policy of the state its machine is in, the events handed to
`consumeUpdateEvents:` so far, and the `ZMUpdateEventsBuffer`. -/
structure ZMSyncStrategy (υ κ : Type*) where
  updateEventsPolicy : ZMUpdateEventsPolicy
  consumed : List (ZMUpdateEvent υ κ)
  eventsBuffer : List (ZMUpdateEvent υ κ)

/-- The transcoder: `lastUpdateEventID`, which it keeps in the persistent
store's metadata, its sync strategy, and how many times it has appended a
potential-gap system message to the conversations. -/
structure ZMMissingUpdateEventsTranscoder (υ κ : Type*) where
  lastUpdateEventID : Option υ
  syncStrategy : ZMSyncStrategy υ κ
  potentialGapSystemMessages : Nat

/-- `ZMMissingUpdateEventsTranscoderListPageSize`. -/
def ZMMissingUpdateEventsTranscoderListPageSize : Nat := 500

section Transcoder

variable (T : NSUUIDType1 υ)

/-- `setLastUpdateEventID:`, as the value it leaves in the store: a time-based
UUID is not replaced by a time-based one that is not later.  A `nil` UUID is
not time based. -/
def setLastUpdateEventID (previousUUID : Option υ) (lastUpdateEventID : υ) : Option υ :=
  match previousUUID with
  | some previous =>
    if T.isType1UUID previous && T.isType1UUID lastUpdateEventID &&
        T.compareWithType1 previous lastUpdateEventID != .lt then previousUUID
    else some lastUpdateEventID
  | none => some lastUpdateEventID

namespace ZMMissingUpdateEventsTranscoder

/-- The body of the loop of `processEvents:liveEvents:prefetchResult:`: an
event with a UUID that is neither transient nor from a push notification sets
the stored position. -/
def processEvent (lastUpdateEventID : Option υ) (event : ZMUpdateEvent υ κ) : Option υ :=
  match event.uuid with
  | some uuid =>
    if !event.isTransient && event.source != .pushNotification then
      setLastUpdateEventID T lastUpdateEventID uuid
    else lastUpdateEventID
  | none => lastUpdateEventID

/-- `processEvents:liveEvents:prefetchResult:`. -/
def processEvents (t : ZMMissingUpdateEventsTranscoder υ κ) (events : List (ZMUpdateEvent υ κ))
    (liveEvents : Bool) : ZMMissingUpdateEventsTranscoder υ κ :=
  if !liveEvents then t
  else { t with lastUpdateEventID := events.foldl (processEvent T) t.lastUpdateEventID }

/-- `ZMSyncStrategy consumeUpdateEvents:` as far as this transcoder goes: the
events are handed on, and its `processEvents:liveEvents:YES` runs over them. -/
def consumeUpdateEvents (t : ZMMissingUpdateEventsTranscoder υ κ)
    (events : List (ZMUpdateEvent υ κ)) : ZMMissingUpdateEventsTranscoder υ κ :=
  { t.processEvents T events true with
    syncStrategy := { t.syncStrategy with consumed := t.syncStrategy.consumed ++ events } }

/-- `if (events.count > 0) [self consumeUpdateEvents:events]`, as
`processUpdateEvents:ignoreBuffer:` guards each of its calls. -/
def consumeUpdateEventsIfAny (t : ZMMissingUpdateEventsTranscoder υ κ)
    (events : List (ZMUpdateEvent υ κ)) : ZMMissingUpdateEventsTranscoder υ κ :=
  if events.length > 0 then t.consumeUpdateEvents T events else t

/-- `ZMSyncStrategy processUpdateEvents:ignoreBuffer:`. -/
def processUpdateEvents (t : ZMMissingUpdateEventsTranscoder υ κ)
    (events : List (ZMUpdateEvent υ κ)) (ignoreBuffer : Bool) :
    ZMMissingUpdateEventsTranscoder υ κ :=
  if ignoreBuffer then t.consumeUpdateEvents T events
  else
    let t := t.consumeUpdateEventsIfAny T (events.filter (·.isFlowEvent))
    let callstateEvents := events.filter (·.type == .callState)
    let notFlowEvents := events.filter (!·.isFlowEvent)
    match t.syncStrategy.updateEventsPolicy with
    | .ignore => t.consumeUpdateEventsIfAny T callstateEvents
    | .buffer =>
      { t with syncStrategy :=
          { t.syncStrategy with eventsBuffer := t.syncStrategy.eventsBuffer ++ notFlowEvents } }
    | .process => t.consumeUpdateEventsIfAny T notFlowEvents

/-- `ZMUpdateEventsBuffer processAllEventsInBuffer`. -/
def processAllEventsInBuffer (t : ZMMissingUpdateEventsTranscoder υ κ) :
    ZMMissingUpdateEventsTranscoder υ κ :=
  let consumed := t.consumeUpdateEvents T t.syncStrategy.eventsBuffer
  { consumed with syncStrategy := { consumed.syncStrategy with eventsBuffer := [] } }

/-- What the loop of `processUpdateEventsAndReturnLastNotificationIDFromPayload:`
collects: the events other than call-state ones, the last call-state event of
each conversation, and the UUID of the last event. -/
structure Collected (υ κ : Type*) where
  parsedEvents : List (ZMUpdateEvent υ κ)
  lastCallStateEvents : List (κ × ZMUpdateEvent υ κ)
  latestEventId : Option υ

variable [DecidableEq κ]

/-- The body of that loop. -/
def collectEvent (c : Collected υ κ) (event : ZMUpdateEvent υ κ) : Collected υ κ :=
  if event.type = .callState then
    { c with lastCallStateEvents := setObject c.lastCallStateEvents event.conversationUUID event,
             latestEventId := event.uuid }
  else { c with parsedEvents := c.parsedEvents ++ [event], latestEventId := event.uuid }

/-- `processUpdateEventsAndReturnLastNotificationIDFromPayload:syncStrategy:`.
The events of the page's notifications are gone through in order. -/
def processUpdateEventsAndReturnLastNotificationIDFromPayload
    (t : ZMMissingUpdateEventsTranscoder υ κ) (payload : List (Notification υ κ)) :
    ZMMissingUpdateEventsTranscoder υ κ × Option υ :=
  let collected := (payload.flatMap (·.events)).foldl collectEvent ⟨[], [], none⟩
  let t := t.processUpdateEvents T collected.parsedEvents true
  let t := t.processUpdateEvents T (collected.lastCallStateEvents.map (·.2)) false
  (t, collected.latestEventId)

/-- `appendPotentialGapSystemMessageIfNeededWithResponse:`: a 404 appends a
potential-gap system message to every conversation. -/
def appendPotentialGapSystemMessageIfNeededWithResponse (t : ZMMissingUpdateEventsTranscoder υ κ)
    (response : ZMTransportResponse (List (Notification υ κ))) :
    ZMMissingUpdateEventsTranscoder υ κ :=
  if response.HTTPStatus = 404 then
    { t with potentialGapSystemMessages := t.potentialGapSystemMessages + 1 }
  else t

/-- `nextUUIDFromResponse:forListPaginator:`. -/
def nextUUIDFromResponse (t : ZMMissingUpdateEventsTranscoder υ κ)
    (response : ZMTransportResponse (List (Notification υ κ))) :
    ZMMissingUpdateEventsTranscoder υ κ × Option υ :=
  let processed := t.processUpdateEventsAndReturnLastNotificationIDFromPayload T response.payload
  let t := match processed.2 with
    | some latestEventId =>
      { processed.1 with
        lastUpdateEventID := setLastUpdateEventID T processed.1.lastUpdateEventID latestEventId }
    | none => processed.1
  let t := t.appendPotentialGapSystemMessageIfNeededWithResponse response
  (t, t.lastUpdateEventID)

/-- `startUUID`. -/
def startUUID (t : ZMMissingUpdateEventsTranscoder υ κ) : Option υ := t.lastUpdateEventID

/-- `shouldParseErrorResponseForStatusCode:`. -/
def shouldParseErrorResponseForStatusCode (_t : ZMMissingUpdateEventsTranscoder υ κ)
    (statusCode : Nat) : Bool :=
  statusCode == 404

end ZMMissingUpdateEventsTranscoder

variable [DecidableEq κ]

/-- The transcoder as the `ZMSimpleListRequestPaginatorSync` of its paginator. -/
def paginatorSync :
    ZMSimpleListRequestPaginatorSync (ZMMissingUpdateEventsTranscoder υ κ)
      (List (Notification υ κ)) υ where
  nextUUIDFromResponse := ZMMissingUpdateEventsTranscoder.nextUUIDFromResponse T
  startUUID := some ZMMissingUpdateEventsTranscoder.startUUID
  shouldParseErrorResponseForStatusCode :=
    some ZMMissingUpdateEventsTranscoder.shouldParseErrorResponseForStatusCode

end Transcoder

/-- The transcoder with its paginator and the paginator's single request sync,
and the notifications the backend holds, oldest first. -/
structure World (υ κ : Type*) where
  listPaginator : ListRequestPaginator.World (ZMMissingUpdateEventsTranscoder υ κ) υ
  notifications : List (Notification υ κ)

/-- What can happen next. -/
inductive Event (υ κ : Type*)
  /-- `startDownloadingMissingNotifications`, from a catch-up or background fetch state -/
  | startDownloadingMissingNotifications
  /-- the operation loop asks the transcoder's request generators for a request -/
  | nextRequest
  /-- the transport completes the paginator's request with this number -/
  | complete (request : Nat) (response : ZMTransportResponse (List (Notification υ κ)))
  /-- `pushChannel:didReceiveTransportData:` delivers these events -/
  | pushChannel (events : List (ZMUpdateEvent υ κ))
  /-- the sync state machine enters a state with this policy -/
  | enterState (policy : ZMUpdateEventsPolicy)
  /-- `ZMSyncStrategy processAllEventsInBuffer` -/
  | processAllEventsInBuffer
  /-- `ZMLastUpdateEventIDTranscoder persistLastUpdateEventID`, with the ID it downloaded -/
  | persistLastUpdateEventID (lastUpdateEventID : Option υ)
  /-- the backend appends a notification to the stream -/
  | notify (notification : Notification υ κ)

namespace World

/-- The transcoder as `initWithSyncStrategy:` leaves it, with this stored
position, in a state with this policy, and the backend's stream. -/
def init (lastUpdateEventID : Option υ) (policy : ZMUpdateEventsPolicy)
    (notifications : List (Notification υ κ)) : World υ κ :=
  { listPaginator := .init
      { lastUpdateEventID := lastUpdateEventID,
        syncStrategy := { updateEventsPolicy := policy, consumed := [], eventsBuffer := [] },
        potentialGapSystemMessages := 0 }
      ZMMissingUpdateEventsTranscoderListPageSize,
    notifications := notifications }

/-- The transcoder. -/
def transcoder (w : World υ κ) : ZMMissingUpdateEventsTranscoder υ κ :=
  w.listPaginator.transcoder

/-- `lastUpdateEventID`. -/
def lastUpdateEventID (w : World υ κ) : Option υ := w.transcoder.lastUpdateEventID

/-- `isDownloadingMissingNotifications`. -/
def isDownloadingMissingNotifications (w : World υ κ) : Bool :=
  w.listPaginator.paginator.hasMoreToFetch

/-- Apply `f` to the transcoder. -/
def mapTranscoder (w : World υ κ)
    (f : ZMMissingUpdateEventsTranscoder υ κ → ZMMissingUpdateEventsTranscoder υ κ) :
    World υ κ :=
  { w with listPaginator := { w.listPaginator with transcoder := f w.listPaginator.transcoder } }

variable (T : NSUUIDType1 υ) [DecidableEq κ]

/-- One step of the paginator. -/
def paginate (w : World υ κ) (e : ListRequestPaginator.Event (List (Notification υ κ))) :
    World υ κ :=
  { w with listPaginator := w.listPaginator.step (paginatorSync T) e }

/-- One event. -/
def step (w : World υ κ) : Event υ κ → World υ κ
  | .startDownloadingMissingNotifications => w.paginate T .resetFetching
  | .nextRequest => w.paginate T .nextRequest
  | .complete request response => w.paginate T (.complete request response)
  | .pushChannel events =>
    if events.length > 0 then w.mapTranscoder (·.processUpdateEvents T events false) else w
  | .enterState policy =>
    w.mapTranscoder fun t => { t with syncStrategy := { t.syncStrategy with updateEventsPolicy := policy } }
  | .processAllEventsInBuffer => w.mapTranscoder (·.processAllEventsInBuffer T)
  | .persistLastUpdateEventID lastUpdateEventID =>
    match lastUpdateEventID with
    | some lastUpdateEventID =>
      w.mapTranscoder fun t =>
        { t with lastUpdateEventID := setLastUpdateEventID T t.lastUpdateEventID lastUpdateEventID }
    | none => w
  | .notify notification => { w with notifications := w.notifications ++ [notification] }

end World

/-! ### What one write does to the stored position -/

section Forward

variable (T : NSUUIDType1 υ)

/-- Every UUID in `x` is time based. -/
def Stored (x : Option υ) : Prop := ∀ p, x = some p → T.isType1UUID p = true

/-- `b` is not earlier than `a`. -/
def Forward (a b : Option υ) : Prop :=
  ∀ p, a = some p → ∃ q, b = some q ∧ T.compareWithType1 p q ≠ .gt

/-- Writes took the stored position from `a` to `b`: `b` is time based and not
earlier than `a`. -/
structure Advances (a b : Option υ) : Prop where
  stored : Stored T b
  forward : Forward T a b

/-- The UUID of the event, if any, is time based. -/
def Type1Event (event : ZMUpdateEvent υ κ) : Prop := Stored T event.uuid

variable {T}

theorem Forward.refl [Std.ReflCmp T.compareWithType1] (a : Option υ) : Forward T a a := by
  intro p hp
  have hself : T.compareWithType1 p p = .eq := Std.ReflCmp.compare_self
  exact ⟨p, hp, by simp [hself]⟩

theorem Forward.trans [Std.TransCmp T.compareWithType1] {a b c : Option υ}
    (hab : Forward T a b) (hbc : Forward T b c) : Forward T a c := by
  intro p hp
  obtain ⟨q, hq, hpq⟩ := hab p hp
  obtain ⟨r, hr, hqr⟩ := hbc q hq
  exact ⟨r, hr, Std.TransCmp.le_trans hpq hqr⟩

/-- Along the closure of `Forward`, the position still moves forward. -/
theorem Forward.of_reflTransGen [Std.TransCmp T.compareWithType1] {a b : Option υ}
    (h : Relation.ReflTransGen (Forward T) a b) : Forward T a b := by
  induction h with
  | refl => exact Forward.refl a
  | tail _ hlast ih => exact ih.trans hlast

theorem Advances.refl [Std.ReflCmp T.compareWithType1] {a : Option υ} (ha : Stored T a) :
    Advances T a a :=
  ⟨ha, Forward.refl a⟩

theorem Advances.trans [Std.TransCmp T.compareWithType1] {a b c : Option υ}
    (hab : Advances T a b) (hbc : Advances T b c) : Advances T a c :=
  ⟨hbc.stored, hab.forward.trans hbc.forward⟩

/-- **`setLastUpdateEventID:` never goes back.**  Offered a time-based UUID, it
stores it when it is later, and keeps a time-based previous one otherwise. -/
theorem setLastUpdateEventID_advances [Std.ReflCmp T.compareWithType1]
    {previousUUID : Option υ} {lastUpdateEventID : υ} (hprevious : Stored T previousUUID)
    (hid : T.isType1UUID lastUpdateEventID = true) :
    Advances T previousUUID (setLastUpdateEventID T previousUUID lastUpdateEventID) := by
  have hnew : Stored T (some lastUpdateEventID) := fun q hq => by cases hq; exact hid
  cases previousUUID with
  | none => exact ⟨hnew, fun p hp => by cases hp⟩
  | some previous =>
    have hprev := hprevious previous rfl
    simp only [setLastUpdateEventID]
    by_cases hlt : T.compareWithType1 previous lastUpdateEventID = .lt
    · rw [if_neg (by simp [hlt])]
      exact ⟨hnew, fun p hp => by cases hp; exact ⟨_, rfl, by simp [hlt]⟩⟩
    · rw [if_pos (by simp [hprev, hid, hlt])]
      exact Advances.refl hprevious

/-- Every event of a notification whose id is time based has a time-based UUID. -/
theorem type1Event_of_mem_flatMap {payload : List (Notification υ κ)}
    (hpayload : ∀ n ∈ payload, T.isType1UUID n.id = true) :
    ∀ e ∈ payload.flatMap (·.events), Type1Event T e := by
  intro e he u hu
  obtain ⟨n, hn, hmem⟩ := List.mem_flatMap.mp he
  rw [n.uuid_eq e hmem] at hu
  cases hu
  exact hpayload n hn

theorem processEvent_advances [Std.ReflCmp T.compareWithType1] {x : Option υ}
    {event : ZMUpdateEvent υ κ} (hx : Stored T x) (hevent : Type1Event T event) :
    Advances T x (ZMMissingUpdateEventsTranscoder.processEvent T x event) := by
  unfold ZMMissingUpdateEventsTranscoder.processEvent
  split
  · rename_i uuid huuid
    split
    · exact setLastUpdateEventID_advances hx (hevent uuid huuid)
    · exact Advances.refl hx
  · exact Advances.refl hx

/-- The loop of `processEvents:liveEvents:` moves the position forward. -/
theorem foldl_processEvent_advances [Std.TransCmp T.compareWithType1]
    {events : List (ZMUpdateEvent υ κ)} (hevents : ∀ e ∈ events, Type1Event T e) :
    ∀ {x : Option υ}, Stored T x →
      Advances T x (events.foldl (ZMMissingUpdateEventsTranscoder.processEvent T) x) := by
  induction events with
  | nil => exact fun hx => Advances.refl hx
  | cons event events ih =>
    intro x hx
    have hfirst := processEvent_advances hx (hevents event List.mem_cons_self)
    exact hfirst.trans (ih (fun e he => hevents e (List.mem_cons_of_mem _ he)) hfirst.stored)

end Forward

/-! ### What the transcoder's operations do to it -/

namespace ZMMissingUpdateEventsTranscoder

section Operations

variable (T : NSUUIDType1 υ)

/-- The transcoder holds only time-based UUIDs: the stored one, and those of
the buffered events. -/
structure Type1State (t : ZMMissingUpdateEventsTranscoder υ κ) : Prop where
  stored : Stored T t.lastUpdateEventID
  buffered : ∀ e ∈ t.syncStrategy.eventsBuffer, Type1Event T e

/-- An operation took the transcoder from `t` to `t'`: `t'` holds only
time-based UUIDs, and its stored position is not earlier. -/
structure Moves (t t' : ZMMissingUpdateEventsTranscoder υ κ) : Prop where
  state : Type1State T t'
  forward : Forward T t.lastUpdateEventID t'.lastUpdateEventID

variable {T} {t t' t'' : ZMMissingUpdateEventsTranscoder υ κ}

theorem Moves.refl [Std.ReflCmp T.compareWithType1] (ht : Type1State T t) : Moves T t t :=
  ⟨ht, Forward.refl _⟩

theorem Moves.trans [Std.TransCmp T.compareWithType1] (h : Moves T t t') (h' : Moves T t' t'') :
    Moves T t t'' :=
  ⟨h'.state, h.forward.trans h'.forward⟩

/-- An operation that leaves the stored position and the buffer alone. -/
theorem Moves.of_eq [Std.ReflCmp T.compareWithType1] (ht : Type1State T t)
    (hid : t'.lastUpdateEventID = t.lastUpdateEventID)
    (hbuffer : t'.syncStrategy.eventsBuffer = t.syncStrategy.eventsBuffer) : Moves T t t' :=
  ⟨⟨hid ▸ ht.stored, hbuffer ▸ ht.buffered⟩, hid ▸ Forward.refl _⟩

@[simp] theorem lastUpdateEventID_consumeUpdateEvents (events : List (ZMUpdateEvent υ κ)) :
    (t.consumeUpdateEvents T events).lastUpdateEventID =
      events.foldl (processEvent T) t.lastUpdateEventID := rfl

@[simp] theorem syncStrategy_consumeUpdateEvents (events : List (ZMUpdateEvent υ κ)) :
    (t.consumeUpdateEvents T events).syncStrategy =
      { t.syncStrategy with consumed := t.syncStrategy.consumed ++ events } := rfl

theorem consumeUpdateEvents_moves [Std.TransCmp T.compareWithType1] (ht : Type1State T t)
    {events : List (ZMUpdateEvent υ κ)} (hevents : ∀ e ∈ events, Type1Event T e) :
    Moves T t (t.consumeUpdateEvents T events) := by
  have hadvances := foldl_processEvent_advances hevents ht.stored
  exact ⟨⟨by simpa using hadvances.stored, by simpa using ht.buffered⟩,
    by simpa using hadvances.forward⟩

theorem consumeUpdateEventsIfAny_moves [Std.TransCmp T.compareWithType1] (ht : Type1State T t)
    {events : List (ZMUpdateEvent υ κ)} (hevents : ∀ e ∈ events, Type1Event T e) :
    Moves T t (t.consumeUpdateEventsIfAny T events) := by
  unfold consumeUpdateEventsIfAny
  split
  · exact consumeUpdateEvents_moves ht hevents
  · exact Moves.refl ht

/-- `processUpdateEvents:ignoreBuffer:` consumes or buffers some of the events
it is given, and nothing else. -/
theorem processUpdateEvents_moves [Std.TransCmp T.compareWithType1] (ht : Type1State T t)
    {events : List (ZMUpdateEvent υ κ)} (hevents : ∀ e ∈ events, Type1Event T e)
    (ignoreBuffer : Bool) : Moves T t (t.processUpdateEvents T events ignoreBuffer) := by
  have hfilter : ∀ p, ∀ e ∈ events.filter p, Type1Event T e :=
    fun p e he => hevents e (List.mem_of_mem_filter he)
  unfold processUpdateEvents
  cases ignoreBuffer
  · -- the flow events first, then the others by the policy
    have hflow := consumeUpdateEventsIfAny_moves ht (hfilter fun e => e.isFlowEvent)
    simp only [Bool.false_eq_true, if_false]
    split
    · exact hflow.trans (consumeUpdateEventsIfAny_moves hflow.state (hfilter _))
    · refine hflow.trans ⟨⟨hflow.state.stored, fun e he => ?_⟩, Forward.refl _⟩
      rcases List.mem_append.mp he with he | he
      · exact hflow.state.buffered e he
      · exact hfilter _ e he
    · exact hflow.trans (consumeUpdateEventsIfAny_moves hflow.state (hfilter _))
  · exact consumeUpdateEvents_moves ht hevents

theorem processAllEventsInBuffer_moves [Std.TransCmp T.compareWithType1] (ht : Type1State T t) :
    Moves T t (t.processAllEventsInBuffer T) := by
  have hconsumed := consumeUpdateEvents_moves ht ht.buffered
  exact ⟨⟨hconsumed.state.stored, fun e he => by cases he⟩, hconsumed.forward⟩

variable [DecidableEq κ]

/-- A value of the dictionary after `dictionary[key] = value` is `value` or was
already there. -/
theorem mem_setObject {α : Type*} {dictionary : List (κ × α)} {key : κ} {value v : α}
    (hv : v ∈ (setObject dictionary key value).map (·.2)) :
    v = value ∨ v ∈ dictionary.map (·.2) := by
  unfold setObject at hv
  split at hv
  · rw [List.map_map] at hv
    obtain ⟨entry, hentry, rfl⟩ := List.mem_map.mp hv
    by_cases hkey : entry.1 = key
    · simp [hkey]
    · simpa [hkey] using Or.inr (List.mem_map_of_mem (f := (·.2)) hentry)
  · simpa [or_comm] using hv

/-- The events the loop keeps apart from the call-state ones are those of the
page, in order. -/
theorem parsedEvents_foldl_collectEvent (events : List (ZMUpdateEvent υ κ)) :
    ∀ c : Collected υ κ, (events.foldl collectEvent c).parsedEvents =
      c.parsedEvents ++ events.filter (·.type != .callState) := by
  induction events with
  | nil => simp
  | cons event events ih =>
    intro c
    rw [List.foldl_cons, ih]
    by_cases hcall : event.type = .callState
    · simp [collectEvent, hcall]
    · simp [collectEvent, hcall]

/-- The last call-state events the loop keeps are call-state events of the
page, or were kept before. -/
theorem mem_lastCallStateEvents_foldl_collectEvent (events : List (ZMUpdateEvent υ κ)) :
    ∀ c : Collected υ κ, ∀ e ∈ (events.foldl collectEvent c).lastCallStateEvents.map (·.2),
      e ∈ c.lastCallStateEvents.map (·.2) ∨ (e ∈ events ∧ e.type = .callState) := by
  induction events with
  | nil => simp
  | cons event events ih =>
    intro c e he
    rw [List.foldl_cons] at he
    rcases ih _ e he with hkept | ⟨hmem, hcall⟩
    · by_cases hevent : event.type = .callState
      · simp only [collectEvent, hevent, if_true] at hkept
        rcases mem_setObject hkept with rfl | hbefore
        · exact Or.inr ⟨List.mem_cons_self, hevent⟩
        · exact Or.inl hbefore
      · simp only [collectEvent, hevent, if_false] at hkept
        exact Or.inl hkept
    · exact Or.inr ⟨List.mem_cons_of_mem _ hmem, hcall⟩

/-- `latestEventId` is the UUID of the page's last event. -/
theorem latestEventId_foldl_collectEvent (events : List (ZMUpdateEvent υ κ)) :
    ∀ c : Collected υ κ, (events.foldl collectEvent c).latestEventId =
      match events.getLast? with
      | some event => event.uuid
      | none => c.latestEventId := by
  induction events with
  | nil => simp
  | cons event events ih =>
    intro c
    have hlatest : (collectEvent c event).latestEventId = event.uuid := by
      unfold collectEvent
      split <;> rfl
    rw [List.foldl_cons, ih, List.getLast?_cons, hlatest]
    cases events.getLast? <;> rfl

/-- The page's events, and the UUID of the last one. -/
theorem processUpdateEventsAndReturnLastNotificationIDFromPayload_moves
    [Std.TransCmp T.compareWithType1] (ht : Type1State T t) {payload : List (Notification υ κ)}
    (hpayload : ∀ n ∈ payload, T.isType1UUID n.id = true) :
    Moves T t (t.processUpdateEventsAndReturnLastNotificationIDFromPayload T payload).1 ∧
      Stored T (t.processUpdateEventsAndReturnLastNotificationIDFromPayload T payload).2 := by
  have hevents := type1Event_of_mem_flatMap hpayload
  have hparsed : Moves T t (t.consumeUpdateEvents T ((payload.flatMap (·.events)).foldl
      collectEvent ⟨[], [], none⟩).parsedEvents) := by
    refine consumeUpdateEvents_moves ht fun e he => ?_
    rw [parsedEvents_foldl_collectEvent] at he
    exact hevents e (List.mem_of_mem_filter (List.mem_append.mp he |>.resolve_left
      List.not_mem_nil))
  refine ⟨?_, ?_⟩
  · refine hparsed.trans (processUpdateEvents_moves hparsed.state (fun e he => ?_) false)
    rcases mem_lastCallStateEvents_foldl_collectEvent _ _ e he with hnone | ⟨hmem, -⟩
    · simp at hnone
    · exact hevents e hmem
  · intro u hu
    simp only [processUpdateEventsAndReturnLastNotificationIDFromPayload,
      latestEventId_foldl_collectEvent] at hu
    split at hu
    · rename_i event hlast
      exact hevents event (List.mem_of_getLast? hlast) u hu
    · cases hu

omit [DecidableEq κ] in
theorem appendPotentialGapSystemMessageIfNeededWithResponse_moves [Std.ReflCmp T.compareWithType1]
    (ht : Type1State T t) (response : ZMTransportResponse (List (Notification υ κ))) :
    Moves T t (t.appendPotentialGapSystemMessageIfNeededWithResponse response) := by
  unfold appendPotentialGapSystemMessageIfNeededWithResponse
  split
  · exact Moves.of_eq ht rfl rfl
  · exact Moves.refl ht

/-- **A page moves the position forward.** -/
theorem nextUUIDFromResponse_moves [Std.TransCmp T.compareWithType1] (ht : Type1State T t)
    {response : ZMTransportResponse (List (Notification υ κ))}
    (hpayload : ∀ n ∈ response.payload, T.isType1UUID n.id = true) :
    Moves T t (t.nextUUIDFromResponse T response).1 := by
  obtain ⟨hprocessed, hlatest⟩ :=
    processUpdateEventsAndReturnLastNotificationIDFromPayload_moves ht hpayload
  unfold nextUUIDFromResponse
  refine Moves.trans ?_ (appendPotentialGapSystemMessageIfNeededWithResponse_moves ?_ response)
  all_goals split
  · rename_i latestEventId hsome
    have hset := setLastUpdateEventID_advances hprocessed.state.stored
      (hlatest latestEventId hsome)
    exact hprocessed.trans ⟨⟨hset.stored, hprocessed.state.buffered⟩, hset.forward⟩
  · exact hprocessed
  · rename_i latestEventId hsome
    exact ⟨(setLastUpdateEventID_advances hprocessed.state.stored
      (hlatest latestEventId hsome)).stored, hprocessed.state.buffered⟩
  · exact hprocessed.state

end Operations

/-! ### Under the Buffer policy of the catch-up states -/

section Buffer

variable (T : NSUUIDType1 υ) {t : ZMMissingUpdateEventsTranscoder υ κ}

theorem isFlowEvent_of_callState {event : ZMUpdateEvent υ κ} (h : event.type = .callState) :
    event.isFlowEvent = false :=
  ZMessaging.ZMUpdateEvent.isFlowEvent_of_callState
    (show ({ uuid := 0, type := event.type } : ZMessaging.ZMUpdateEvent).type = .callState from h)

/-- The guard on the count is only a shortcut: the fields are those that
`consumeUpdateEvents:` leaves. -/
theorem consumeUpdateEventsIfAny_fields (events : List (ZMUpdateEvent υ κ)) :
    (t.consumeUpdateEventsIfAny T events).lastUpdateEventID =
        events.foldl (processEvent T) t.lastUpdateEventID ∧
      (t.consumeUpdateEventsIfAny T events).syncStrategy =
        { t.syncStrategy with consumed := t.syncStrategy.consumed ++ events } := by
  unfold consumeUpdateEventsIfAny
  split
  · exact ⟨rfl, rfl⟩
  · rename_i hempty
    have hnil : events = [] := List.eq_nil_of_length_eq_zero (by omega)
    subst hnil
    exact ⟨rfl, by simp⟩

/-- `processUpdateEvents:ignoreBuffer:NO` in a state that buffers: the flow
events are consumed, the others buffered. -/
theorem processUpdateEvents_of_buffer (hpolicy : t.syncStrategy.updateEventsPolicy = .buffer)
    (events : List (ZMUpdateEvent υ κ)) :
    (t.processUpdateEvents T events false).lastUpdateEventID =
        (events.filter (·.isFlowEvent)).foldl (processEvent T) t.lastUpdateEventID ∧
      (t.processUpdateEvents T events false).syncStrategy =
        { updateEventsPolicy := .buffer,
          consumed := t.syncStrategy.consumed ++ events.filter (·.isFlowEvent),
          eventsBuffer := t.syncStrategy.eventsBuffer ++ events.filter (!·.isFlowEvent) } := by
  obtain ⟨hid, hstrategy⟩ := consumeUpdateEventsIfAny_fields T (t := t) (events.filter (·.isFlowEvent))
  simp only [processUpdateEvents, Bool.false_eq_true, if_false, hstrategy, hpolicy]
  exact ⟨hid, trivial⟩

variable [DecidableEq κ]

/-- What a page does in a state that buffers: its events other than
call-state ones are consumed, in order; the last call-state event of each
conversation is buffered. -/
theorem processUpdateEventsAndReturnLastNotificationIDFromPayload_of_buffer
    (hpolicy : t.syncStrategy.updateEventsPolicy = .buffer) (payload : List (Notification υ κ)) :
    (t.processUpdateEventsAndReturnLastNotificationIDFromPayload T payload).1.lastUpdateEventID =
        ((payload.flatMap (·.events)).filter (·.type != .callState)).foldl (processEvent T)
          t.lastUpdateEventID ∧
      (t.processUpdateEventsAndReturnLastNotificationIDFromPayload T payload).1.syncStrategy.consumed =
        t.syncStrategy.consumed ++ (payload.flatMap (·.events)).filter (·.type != .callState) ∧
      (t.processUpdateEventsAndReturnLastNotificationIDFromPayload T payload).1.syncStrategy.updateEventsPolicy =
        .buffer ∧
      (t.processUpdateEventsAndReturnLastNotificationIDFromPayload T payload).2 =
        (payload.flatMap (·.events)).getLast?.bind (·.uuid) := by
  set collected := (payload.flatMap (·.events)).foldl collectEvent ⟨[], [], none⟩ with hcollected
  have hparsed : collected.parsedEvents =
      (payload.flatMap (·.events)).filter (·.type != .callState) := by
    rw [hcollected, parsedEvents_foldl_collectEvent, List.nil_append]
  -- the call-state events kept are no flow events: none of them is consumed
  have hnoflow : (collected.lastCallStateEvents.map (·.2)).filter (·.isFlowEvent) = [] := by
    rw [List.filter_eq_nil_iff]
    intro e he
    rcases mem_lastCallStateEvents_foldl_collectEvent _ _ e he with hnone | ⟨-, hcall⟩
    · simp at hnone
    · simp [isFlowEvent_of_callState hcall]
  obtain ⟨hid, hstrategy⟩ := processUpdateEvents_of_buffer T
    (t := t.processUpdateEvents T collected.parsedEvents true) hpolicy
    (collected.lastCallStateEvents.map (·.2))
  rw [hnoflow] at hid hstrategy
  refine ⟨?_, ?_, ?_, ?_⟩
  · simp only [processUpdateEventsAndReturnLastNotificationIDFromPayload, ← hcollected, hid,
      List.foldl_nil]
    simp [processUpdateEvents, hparsed]
  · simp only [processUpdateEventsAndReturnLastNotificationIDFromPayload, ← hcollected, hstrategy]
    simp [processUpdateEvents, hparsed]
  · simp only [processUpdateEventsAndReturnLastNotificationIDFromPayload, ← hcollected, hstrategy]
  · simp only [processUpdateEventsAndReturnLastNotificationIDFromPayload]
    rw [latestEventId_foldl_collectEvent]
    cases (payload.flatMap (·.events)).getLast? <;> rfl

omit [DecidableEq κ] in
@[simp] theorem lastUpdateEventID_appendPotentialGapSystemMessageIfNeededWithResponse
    (response : ZMTransportResponse (List (Notification υ κ))) :
    (t.appendPotentialGapSystemMessageIfNeededWithResponse response).lastUpdateEventID =
      t.lastUpdateEventID := by
  unfold appendPotentialGapSystemMessageIfNeededWithResponse
  split <;> rfl

omit [DecidableEq κ] in
@[simp] theorem syncStrategy_appendPotentialGapSystemMessageIfNeededWithResponse
    (response : ZMTransportResponse (List (Notification υ κ))) :
    (t.appendPotentialGapSystemMessageIfNeededWithResponse response).syncStrategy =
      t.syncStrategy := by
  unfold appendPotentialGapSystemMessageIfNeededWithResponse
  split <;> rfl

/-- **A page in a state that buffers.**  Its events other than call-state ones
are consumed, the stored position is set from them and then from the page's
last event, and the paginator goes on from the stored position. -/
theorem nextUUIDFromResponse_of_buffer (hpolicy : t.syncStrategy.updateEventsPolicy = .buffer)
    (response : ZMTransportResponse (List (Notification υ κ))) :
    (t.nextUUIDFromResponse T response).1.lastUpdateEventID =
        (match (response.payload.flatMap (·.events)).getLast?.bind (·.uuid) with
         | some latestEventId =>
           setLastUpdateEventID T (((response.payload.flatMap (·.events)).filter
             (·.type != .callState)).foldl (processEvent T) t.lastUpdateEventID) latestEventId
         | none => ((response.payload.flatMap (·.events)).filter
             (·.type != .callState)).foldl (processEvent T) t.lastUpdateEventID) ∧
      (t.nextUUIDFromResponse T response).1.syncStrategy.consumed =
        t.syncStrategy.consumed ++
          (response.payload.flatMap (·.events)).filter (·.type != .callState) ∧
      (t.nextUUIDFromResponse T response).1.syncStrategy.updateEventsPolicy = .buffer ∧
      (t.nextUUIDFromResponse T response).2 =
        (t.nextUUIDFromResponse T response).1.lastUpdateEventID := by
  obtain ⟨hid, hconsumed, hpolicy', hlatest⟩ :=
    processUpdateEventsAndReturnLastNotificationIDFromPayload_of_buffer T hpolicy response.payload
  unfold nextUUIDFromResponse
  rcases hprocessed : t.processUpdateEventsAndReturnLastNotificationIDFromPayload T response.payload
    with ⟨processed, latestEventId⟩
  rw [hprocessed] at hid hconsumed hpolicy' hlatest
  dsimp only at hid hconsumed hpolicy' hlatest ⊢
  rw [← hlatest, ← hid]
  cases latestEventId <;> simp [hconsumed, hpolicy']

omit [DecidableEq κ] in
@[simp] theorem potentialGapSystemMessages_consumeUpdateEventsIfAny
    (events : List (ZMUpdateEvent υ κ)) :
    (t.consumeUpdateEventsIfAny T events).potentialGapSystemMessages =
      t.potentialGapSystemMessages := by
  unfold consumeUpdateEventsIfAny
  split <;> rfl

omit [DecidableEq κ] in
@[simp] theorem potentialGapSystemMessages_processUpdateEvents
    (events : List (ZMUpdateEvent υ κ)) (ignoreBuffer : Bool) :
    (t.processUpdateEvents T events ignoreBuffer).potentialGapSystemMessages =
      t.potentialGapSystemMessages := by
  unfold processUpdateEvents
  split
  · rfl
  · simp only
    split <;> simp

/-- Only a 404 appends potential-gap system messages, one round per response. -/
theorem potentialGapSystemMessages_nextUUIDFromResponse
    (response : ZMTransportResponse (List (Notification υ κ))) :
    (t.nextUUIDFromResponse T response).1.potentialGapSystemMessages =
      t.potentialGapSystemMessages + if response.HTTPStatus = 404 then 1 else 0 := by
  have hprocessed : (t.processUpdateEventsAndReturnLastNotificationIDFromPayload T
      response.payload).1.potentialGapSystemMessages = t.potentialGapSystemMessages := by
    simp [processUpdateEventsAndReturnLastNotificationIDFromPayload]
  unfold nextUUIDFromResponse
  rcases hp : t.processUpdateEventsAndReturnLastNotificationIDFromPayload T response.payload
    with ⟨processed, latestEventId⟩
  rw [hp] at hprocessed
  unfold appendPotentialGapSystemMessageIfNeededWithResponse
  cases latestEventId <;> split <;> simp_all

end Buffer

end ZMMissingUpdateEventsTranscoder

/-! ### Every run -/

section Run

open ZMMissingUpdateEventsTranscoder

variable (T : NSUUIDType1 υ)

/-- The UUIDs an event offers the stored position are time based: those of a
page's notifications, of a delivery's events and of a persisted ID. -/
def Offers : Event υ κ → Prop
  | .complete _ response => ∀ n ∈ response.payload, T.isType1UUID n.id = true
  | .pushChannel events => ∀ e ∈ events, Type1Event T e
  | .persistLastUpdateEventID lastUpdateEventID => Stored T lastUpdateEventID
  | .startDownloadingMissingNotifications | .nextRequest | .enterState _
  | .processAllEventsInBuffer | .notify _ => True

variable {T} [DecidableEq κ]

@[simp] theorem World.transcoder_paginate (w : World υ κ)
    (e : ListRequestPaginator.Event (List (Notification υ κ))) :
    (w.paginate T e).transcoder = (w.listPaginator.step (paginatorSync T) e).transcoder := rfl

/-- A step of the paginator moves the transcoder by a page it hears, if any. -/
theorem paginate_moves [Std.TransCmp T.compareWithType1] {w : World υ κ}
    (hw : Type1State T w.transcoder) {e : ListRequestPaginator.Event (List (Notification υ κ))}
    (hpayload : ∀ request response, e = .complete request response →
      ∀ n ∈ response.payload, T.isType1UUID n.id = true) :
    Moves T w.transcoder (w.paginate T e).transcoder := by
  rcases ListRequestPaginator.World.transcoder_step (paginatorSync T) w.listPaginator e with
    hsame | ⟨request, response, he, hnext⟩
  · exact Moves.of_eq hw (by rw [World.transcoder_paginate, hsame]; rfl)
      (by rw [World.transcoder_paginate, hsame]; rfl)
  · rw [World.transcoder_paginate, hnext]
    exact nextUUIDFromResponse_moves hw (hpayload request response he)

/-- **Step lemma.** -/
theorem step_moves [Std.TransCmp T.compareWithType1] {w : World υ κ} {e : Event υ κ}
    (hw : Type1State T w.transcoder) (he : Offers T e) :
    Moves T w.transcoder (w.step T e).transcoder := by
  cases e with
  | startDownloadingMissingNotifications =>
    exact paginate_moves hw (fun _ _ h => by cases h)
  | nextRequest => exact paginate_moves hw (fun _ _ h => by cases h)
  | complete request response =>
    exact paginate_moves hw (fun _ _ h => by cases h; exact he)
  | pushChannel events =>
    simp only [World.step]
    split
    · exact processUpdateEvents_moves hw he false
    · exact Moves.refl hw
  | enterState policy => exact Moves.of_eq hw rfl rfl
  | processAllEventsInBuffer => exact processAllEventsInBuffer_moves hw
  | persistLastUpdateEventID lastUpdateEventID =>
    cases lastUpdateEventID with
    | none => exact Moves.refl hw
    | some lastUpdateEventID =>
      have hset := setLastUpdateEventID_advances hw.stored (he lastUpdateEventID rfl)
      exact ⟨⟨hset.stored, hw.buffered⟩, hset.forward⟩
  | notify notification => exact Moves.refl hw

/-- **The stored position never moves back.**  In every run in which the
stored position and the buffered events hold only time-based UUIDs, and every
UUID offered is time based, the stored position at the end is not earlier than
at the start: whatever the backend answers, whatever the push channel
delivers, whatever a slow sync persists, in whatever order. -/
theorem lastUpdateEventID_never_moves_back [Std.TransCmp T.compareWithType1]
    (w : World υ κ) (events : List (Event υ κ))
    (hstored : ∀ p, w.lastUpdateEventID = some p → T.isType1UUID p = true)
    (hbuffered : ∀ e ∈ w.transcoder.syncStrategy.eventsBuffer,
      ∀ u, e.uuid = some u → T.isType1UUID u = true)
    (hoffers : ∀ e ∈ events, Offers T e) :
    ∀ p, w.lastUpdateEventID = some p →
      ∃ q, (run (World.step T) w events).lastUpdateEventID = some q ∧
        T.compareWithType1 p q ≠ .gt := by
  have htrace := run_reflTransGen_of_forall (fun w : World υ κ => Type1State T w.transcoder)
    World.lastUpdateEventID (r := Forward T) (G := Offers T)
    (fun _ _ he hw => ⟨(step_moves hw he).state, .single (step_moves hw he).forward⟩)
    events hoffers ⟨hstored, hbuffered⟩
  exact Forward.of_reflTransGen htrace

/-- A slow sync that persists an older ID leaves a later stored position. -/
theorem lastUpdateEventID_never_moves_back_persist_older :
    ∃ q, (run (World.step ⟨fun _ => true, compare⟩) (World.init (some 7) .buffer [] : World Nat Nat)
      [.persistLastUpdateEventID (some 3)]).lastUpdateEventID = some q ∧ compare 7 q ≠ .gt :=
  lastUpdateEventID_never_moves_back (T := ⟨fun _ => true, compare⟩) _ _
    (fun _ _ => rfl) (fun e he => by simp [World.init, ListRequestPaginator.World.init, World.transcoder] at he)
    (by simp [Offers, Stored]) 7 rfl

end Run

end ZMessaging.MissingUpdateEvents
