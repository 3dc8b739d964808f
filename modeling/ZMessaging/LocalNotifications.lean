import ZMessaging.SyncStateMachine
import ZMessaging.StepSystem

/-!
# Local notifications for update events

`ZMLocalNotificationDispatcher` turns update events into local notifications.
It offers each event to the notes it keeps (`eventsNotifications`), in order.
A note either already holds an identical event, or makes a copy of itself
with the event added (`copyByAddingEvent`). If neither happens, a new note is
made for the event. A note class is an inductive kind here; its overridable
members (`copiedEventTypes`, `canCreateNotification`, ...) are functions on the
kind.

`copyByAddingEvent` appends the event to the receiver's own `events` before
the copy's initializer decides whether the class accepts it. A note is a
reference held by the dispatcher's array, so the append stays when the
initializer refuses.

Supplied from outside: the store (`Environment`: which conversations and users
exist, which conversations are silenced, the self user) and what the payloads
decode to (`ZMGenericMessage`). A `UILocalNotification` is reduced to the
number of events its alert body is computed from.

Main results:

* `copyByAddingEvent_receiver`: whatever a copy answers, the receiver has the
  event appended whenever the class's `canAddEvent` holds;
* `offer_notFound`: an event that no note takes is appended to every note
  that can add it;
* `localNotifications_knock_count`: a knock, a text message and a knock in one
  conversation leave a knock note of three events. Its notification counts
  three pings, and the text message is also in a message note of its own.
-/

namespace ZMessaging.LocalNotifications

/-- The generic message an OTR payload decodes to: what the notification
classes ask of it. -/
structure ZMGenericMessage where
  hasKnock : Bool
  /-- `text.content` when `hasText`. -/
  text : Option String
  hasImage : Bool
  hasAsset : Bool
  /-- `asset.original.mimeType` conforms to `kUTTypeMovie`. -/
  isVideo : Bool
  /-- `asset.original.mimeType` conforms to `kUTTypeAudio`. -/
  isAudio : Bool
  deriving DecidableEq, Repr

/-- `ZMUpdateEvent`, with what the notifications read of it. -/
structure ZMUpdateEvent (κ υ ν : Type*) where
  type : ZMUpdateEventType
  conversationUUID : Option κ
  senderUUID : Option υ
  messageNonce : Option ν
  hasEncryptedAndUnencryptedVersion : Bool
  /-- The generic message of an OTR payload; none when there is no payload
  string or it does not decode. -/
  genericMessage : Option ZMGenericMessage
  /-- `data.content` of a plain message. -/
  content : Option String
  /-- `data.info.tag` of a plain asset. -/
  assetTag : Option String
  /-- `data.user_ids` of a member event. -/
  userIDs : List υ
  deriving DecidableEq, Repr

/-- What the notifications look up in the store. -/
structure Environment (κ υ : Type*) where
  /-- `fetchObjectWithRemoteIdentifier:` finds the conversation. -/
  conversationExists : κ → Bool
  isSilenced : κ → Bool
  /-- `userWithRemoteID:createIfNeeded:NO` finds the user. -/
  userExists : υ → Bool
  /-- The self user's `remoteIdentifier`. -/
  selfUserID : υ

/-- The note classes: `ZMLocalNotificationForMessage`,
`ZMLocalNotificationForKnockMessage`, `ZMLocalNotificationForMemberJoinEvent`
and `ZMLocalNotificationForMemberLeaveEvent`. -/
inductive NoteKind
  | message
  | knock
  | memberJoin
  | memberLeave
  deriving DecidableEq, Repr

/-- A scheduled notification, reduced to the number of events of its note
when it was configured: the knock count, or whether messages are bundled. -/
structure UILocalNotification where
  kind : NoteKind
  eventsCount : Nat
  deriving DecidableEq, Repr

/-- `MaximumNumberOfEventsBeforeBundling`. -/
def MaximumNumberOfEventsBeforeBundling : Nat := 5

variable {κ υ ν : Type*} [DecidableEq κ] [DecidableEq υ] [DecidableEq ν]

namespace NoteKind

def copiedEventTypes : NoteKind → List ZMUpdateEventType
  | .message => [.conversationMessageAdd, .conversationAssetAdd, .conversationOtrAssetAdd,
      .conversationOtrMessageAdd]
  | .knock => [.conversationKnock, .conversationOtrMessageAdd]
  | .memberJoin => [.conversationMemberJoin]
  | .memberLeave => [.conversationMemberLeave]

/-- Every class here posts in a conversation. -/
def requiresConversation : NoteKind → Bool
  | _ => true

def ignoresSilencedState : NoteKind → Bool
  | _ => false

/-- `shouldCopyNotifications`, on the number of events of the copy. -/
def shouldCopyNotifications : NoteKind → Nat → Bool
  | .message, count => count < MaximumNumberOfEventsBeforeBundling + 1
  | _, _ => false

/-- The class's own part of `canCreateNotification`, on the last event. -/
def acceptsLastEvent : NoteKind → ZMUpdateEvent κ υ ν → Bool
  | .message, event =>
    match event.type with
    | .conversationOtrAssetAdd | .conversationOtrMessageAdd =>
      match event.genericMessage with
      | none => false
      | some genericMessage =>
        let isTextMessage := match genericMessage.text with
          | some text => !text.isEmpty
          | none => false
        isTextMessage || genericMessage.hasImage || genericMessage.hasAsset ||
          genericMessage.isVideo || genericMessage.isAudio
    | .conversationMessageAdd =>
      match event.content with
      | some text => !text.isEmpty
      | none => false
    | .conversationAssetAdd => event.assetTag == some "medium"
    | _ => false
  | .knock, event =>
    match event.type with
    | .conversationOtrMessageAdd =>
      match event.genericMessage with
      | some genericMessage => genericMessage.hasKnock
      | none => false
    | .conversationKnock => true
    | _ => false
  | .memberJoin, event => !event.userIDs.isEmpty
  | .memberLeave, event => !event.userIDs.isEmpty

end NoteKind

/-- A `ZMLocalNotificationForEvent`. -/
structure Note (κ υ ν : Type*) where
  kind : NoteKind
  events : List (ZMUpdateEvent κ υ ν)
  conversation : Option κ
  notifications : List UILocalNotification

namespace Note

/-- `sender`: the user of the last event's sender, if the store has it. -/
def sender (env : Environment κ υ) (events : List (ZMUpdateEvent κ υ ν)) : Option υ :=
  match events.getLast? with
  | some lastEvent => (lastEvent.senderUUID).filter env.userExists
  | none => none

/-- `canCreateNotification`: the base class's checks, then the class's own. -/
def canCreateNotification (env : Environment κ υ) (kind : NoteKind)
    (events : List (ZMUpdateEvent κ υ ν)) (conversation : Option κ) : Bool :=
  match events.getLast? with
  | none => false
  | some lastEvent =>
    let senderIsSelfUser := sender env events == some env.selfUserID
    if (conversation.isNone && kind.requiresConversation) ||
        (senderIsSelfUser && lastEvent.type != .callState) then false
    else if conversation.any (fun c => env.isSilenced c && !kind.ignoresSilencedState) then false
    else kind.acceptsLastEvent lastEvent

/-- `configureNotification`. -/
def configureNotification (kind : NoteKind) (events : List (ZMUpdateEvent κ υ ν)) :
    UILocalNotification :=
  ⟨kind, events.length⟩

/-- `init?(events:conversation:...)`: nil unless the class can create a
notification; every class here configures one for its last event. -/
def init (env : Environment κ υ) (kind : NoteKind) (events : List (ZMUpdateEvent κ υ ν))
    (conversation : Option κ) : Option (Note κ υ ν) :=
  if canCreateNotification env kind events conversation then
    some ⟨kind, events, conversation, [configureNotification kind events]⟩
  else none

/-- `canAddEvent`. -/
def canAddEvent (env : Environment κ υ) (note : Note κ υ ν) (event : ZMUpdateEvent κ υ ν) :
    Bool :=
  event.type ∈ note.kind.copiedEventTypes &&
    match note.conversation with
    | some c => event.conversationUUID == some c &&
        (!env.isSilenced c || note.kind.ignoresSilencedState)
    | none => false

/-- `containsIdenticalEvent`: the same message, by nonce, in the same conversation. -/
def containsIdenticalEvent (note : Note κ υ ν) (event : ZMUpdateEvent κ υ ν) : Bool :=
  event.hasEncryptedAndUnencryptedVersion && event.type ∈ note.kind.copiedEventTypes &&
    match note.conversation with
    | some c => event.conversationUUID == some c &&
        note.events.any (fun e => e.messageNonce == event.messageNonce)
    | none => false

/-- What `copyByAddingEvent` leaves: the receiver as it is afterwards, the
copy it returns, and the notifications it cancels. -/
structure CopyResult (κ υ ν : Type*) where
  receiver : Note κ υ ν
  copy : Option (Note κ υ ν)
  cancelled : List UILocalNotification

/-- `copyByAddingEvent`. The event is appended to the receiver's `events`
before the initializer decides. -/
def copyByAddingEvent (env : Environment κ υ) (note : Note κ υ ν) (event : ZMUpdateEvent κ υ ν) :
    CopyResult κ υ ν :=
  if !canAddEvent env note event then ⟨note, none, []⟩
  else
    let receiver := { note with events := note.events ++ [event] }
    match init env note.kind receiver.events note.conversation with
    | none => ⟨receiver, none, []⟩
    | some copy =>
      if copy.kind.shouldCopyNotifications copy.events.length then
        ⟨receiver, some { copy with notifications := receiver.notifications ++ copy.notifications },
          []⟩
      else ⟨receiver, some copy, receiver.notifications⟩

end Note

/-- `fetchConversation`. -/
def fetchConversation (env : Environment κ υ) (event : ZMUpdateEvent κ υ ν) : Option κ :=
  event.conversationUUID.filter env.conversationExists

/-- `ZMLocalNotificationForEvent.notification(forEvent:...)`: a new note for
the event. An OTR message is tried as a knock first. The connection, rename,
user connection, conversation create, contact join and call notes are not
modelled; for their events this answers nil. -/
def notification (env : Environment κ υ) (event : ZMUpdateEvent κ υ ν) : Option (Note κ υ ν) :=
  let conversation := fetchConversation env event
  match event.type with
  | .conversationOtrMessageAdd =>
    match Note.init env .knock [event] conversation with
    | some note => some note
    | none => Note.init env .message [event] conversation
  | .conversationAssetAdd | .conversationMessageAdd | .conversationOtrAssetAdd =>
    Note.init env .message [event] conversation
  | .conversationKnock => Note.init env .knock [event] conversation
  | .conversationMemberJoin => Note.init env .memberJoin [event] conversation
  | .conversationMemberLeave => Note.init env .memberLeave [event] conversation
  | _ => none

/-- How offering an event to the stored notes ends. -/
inductive Outcome (κ υ ν : Type*)
  | identical
  | copied (note : Note κ υ ν)
  | notFound

/-- The enumeration of `localNotificationForEvent:`: the notes afterwards, the
notifications cancelled, and how it ended. A copy replaces its receiver;
every receiver that answered nil stays, as it is afterwards. -/
def offer (env : Environment κ υ) (event : ZMUpdateEvent κ υ ν) :
    List (Note κ υ ν) → List (Note κ υ ν) × List UILocalNotification × Outcome κ υ ν
  | [] => ([], [], .notFound)
  | note :: rest =>
    if note.containsIdenticalEvent event then (note :: rest, [], .identical)
    else
      let result := note.copyByAddingEvent env event
      match result.copy with
      | some copy => (copy :: rest, result.cancelled, .copied copy)
      | none =>
        let later := offer env event rest
        (result.receiver :: later.1, result.cancelled ++ later.2.1, later.2.2)

/-- The dispatcher's notes and what it asked the application to do. -/
structure ZMLocalNotificationDispatcher (κ υ ν : Type*) where
  eventsNotifications : List (Note κ υ ν)
  scheduled : List UILocalNotification
  cancelled : List UILocalNotification

namespace ZMLocalNotificationDispatcher

/-- `localNotificationForEvent:`. -/
def localNotificationForEvent (env : Environment κ υ) (d : ZMLocalNotificationDispatcher κ υ ν)
    (event : ZMUpdateEvent κ υ ν) : ZMLocalNotificationDispatcher κ υ ν × Option (Note κ υ ν) :=
  let (notes, cancelled, outcome) := offer env event d.eventsNotifications
  let d := { d with eventsNotifications := notes, cancelled := d.cancelled ++ cancelled }
  match outcome with
  | .identical => (d, none)
  | .copied note => (d, some note)
  | .notFound =>
    match notification env event with
    | none => (d, none)
    | some note => ({ d with eventsNotifications := notes ++ [note] }, some note)

/-- `notificationForEvent:`: the event types that can make a notification. -/
def notificationForEvent (env : Environment κ υ) (d : ZMLocalNotificationDispatcher κ υ ν)
    (event : ZMUpdateEvent κ υ ν) : ZMLocalNotificationDispatcher κ υ ν × Option (Note κ υ ν) :=
  match event.type with
  | .conversationAssetAdd | .conversationConnectRequest | .conversationKnock
  | .conversationMessageAdd | .conversationMemberJoin | .conversationMemberLeave
  | .conversationRename | .userConnection | .conversationCreate | .conversationOtrMessageAdd
  | .conversationOtrAssetAdd | .userContactJoin | .callState =>
    d.localNotificationForEvent env event
  | _ => (d, none)

/-- One event of `didReceiveUpdateEvents:`: the last notification of its note
is scheduled. -/
def didReceiveUpdateEvent (env : Environment κ υ) (d : ZMLocalNotificationDispatcher κ υ ν)
    (event : ZMUpdateEvent κ υ ν) : ZMLocalNotificationDispatcher κ υ ν :=
  match d.notificationForEvent env event with
  | (d, some note) =>
    match note.notifications.getLast? with
    | some localNote => { d with scheduled := d.scheduled ++ [localNote] }
    | none => d
  | (d, none) => d

def didReceiveUpdateEvents (env : Environment κ υ) (d : ZMLocalNotificationDispatcher κ υ ν)
    (events : List (ZMUpdateEvent κ υ ν)) : ZMLocalNotificationDispatcher κ υ ν :=
  events.foldl (didReceiveUpdateEvent env) d

end ZMLocalNotificationDispatcher

/-! ### Creating and copying a note -/

@[simp] theorem NoteKind.requiresConversation_eq_true (kind : NoteKind) :
    kind.requiresConversation = true := rfl

@[simp] theorem NoteKind.ignoresSilencedState_eq_false (kind : NoteKind) :
    kind.ignoresSilencedState = false := rfl

namespace Note

omit [DecidableEq κ] [DecidableEq ν] in
/-- Every class here requires a conversation, so a note is only created in one. -/
theorem isSome_of_canCreateNotification {env : Environment κ υ} {kind : NoteKind}
    {events : List (ZMUpdateEvent κ υ ν)} {conversation : Option κ}
    (h : canCreateNotification env kind events conversation = true) : conversation.isSome := by
  unfold canCreateNotification at h
  split at h
  · contradiction
  · cases conversation <;> simp_all

omit [DecidableEq κ] [DecidableEq ν] in
theorem init_eq_some {env : Environment κ υ} {kind : NoteKind}
    {events : List (ZMUpdateEvent κ υ ν)} {conversation : Option κ} {note : Note κ υ ν} :
    init env kind events conversation = some note ↔
      canCreateNotification env kind events conversation = true ∧
        note = ⟨kind, events, conversation, [configureNotification kind events]⟩ := by
  unfold init
  by_cases hcreate : canCreateNotification env kind events conversation
  · simp only [hcreate, if_true, Option.some.injEq, true_and]
    exact eq_comm
  · simp [hcreate]

omit [DecidableEq ν] in
/-- The receiver after `copyByAddingEvent`: the event is appended whenever
`canAddEvent` holds, whether a copy is made or not. -/
theorem copyByAddingEvent_receiver (env : Environment κ υ) (note : Note κ υ ν)
    (event : ZMUpdateEvent κ υ ν) :
    (copyByAddingEvent env note event).receiver =
      if canAddEvent env note event then { note with events := note.events ++ [event] }
      else note := by
  unfold copyByAddingEvent
  by_cases hadd : canAddEvent env note event
  · simp only [hadd, Bool.not_true, Bool.false_eq_true, if_false, if_true]
    split
    · rfl
    · split <;> rfl
  · simp [hadd]

omit [DecidableEq ν] in
/-- A copy is the class's note for the receiver's events with the event added. -/
theorem copyByAddingEvent_copy {env : Environment κ υ} {note copy : Note κ υ ν}
    {event : ZMUpdateEvent κ υ ν} (h : (copyByAddingEvent env note event).copy = some copy) :
    canAddEvent env note event = true ∧ copy.kind = note.kind ∧
      copy.events = note.events ++ [event] ∧ copy.conversation = note.conversation := by
  unfold copyByAddingEvent at h
  by_cases hadd : canAddEvent env note event
  · simp only [hadd, Bool.not_true, Bool.false_eq_true, if_false] at h
    split at h
    · contradiction
    · rename_i created hcreated
      obtain ⟨-, rfl⟩ := init_eq_some.mp hcreated
      split at h <;> (cases h; exact ⟨hadd, rfl, rfl, rfl⟩)
  · simp [hadd] at h

/-! ### Which events a note holds -/

/-- The note was created in a conversation that exists, and all its events
are of the types the class copies, in that conversation. -/
def InConversation (note : Note κ υ ν) : Prop :=
  ∃ c, note.conversation = some c ∧
    ∀ e ∈ note.events, e.type ∈ note.kind.copiedEventTypes ∧ e.conversationUUID = some c

omit [DecidableEq υ] [DecidableEq ν] in
theorem InConversation.append {env : Environment κ υ} {note : Note κ υ ν}
    {event : ZMUpdateEvent κ υ ν} (hnote : note.InConversation)
    (hadd : canAddEvent env note event = true) :
    InConversation { note with events := note.events ++ [event] } := by
  obtain ⟨c, hc, hevents⟩ := hnote
  -- `canAddEvent` compares the event with the note's own conversation
  have hevent : event.type ∈ note.kind.copiedEventTypes ∧ event.conversationUUID = some c := by
    simp only [canAddEvent, hc, Bool.and_eq_true, decide_eq_true_eq, beq_iff_eq] at hadd
    exact ⟨hadd.1, hadd.2.1⟩
  refine ⟨c, hc, fun e he => ?_⟩
  rcases List.mem_append.mp he with he | he
  · exact hevents e he
  · rw [List.mem_singleton.mp he]
    exact hevent

omit [DecidableEq ν] in
theorem InConversation.receiver {env : Environment κ υ} {note : Note κ υ ν}
    (hnote : note.InConversation) (event : ZMUpdateEvent κ υ ν) :
    (copyByAddingEvent env note event).receiver.InConversation := by
  rw [copyByAddingEvent_receiver]
  split
  · exact hnote.append ‹_›
  · exact hnote

omit [DecidableEq ν] in
theorem InConversation.copy {env : Environment κ υ} {note copy : Note κ υ ν}
    {event : ZMUpdateEvent κ υ ν} (hnote : note.InConversation)
    (h : (copyByAddingEvent env note event).copy = some copy) : copy.InConversation := by
  obtain ⟨hadd, hkind, hevents, hconversation⟩ := copyByAddingEvent_copy h
  obtain ⟨c, hc, he⟩ := hnote.append hadd
  exact ⟨c, hconversation.trans hc, by rw [hkind, hevents]; exact he⟩

omit [DecidableEq κ] [DecidableEq ν] in
/-- A note made for a single event of a type the class copies. -/
theorem InConversation.init {env : Environment κ υ} {kind : NoteKind}
    {event : ZMUpdateEvent κ υ ν} {note : Note κ υ ν}
    (h : init env kind [event] (fetchConversation env event) = some note)
    (htype : event.type ∈ kind.copiedEventTypes) : note.InConversation := by
  obtain ⟨hcreate, rfl⟩ := init_eq_some.mp h
  obtain ⟨c, hc⟩ := Option.isSome_iff_exists.mp (isSome_of_canCreateNotification hcreate)
  -- the conversation was fetched by the event's own identifier
  have hevent : event.conversationUUID = some c := by
    rw [fetchConversation, Option.filter_eq_some_iff] at hc
    exact hc.1
  refine ⟨c, hc, fun e he => ?_⟩
  rw [List.mem_singleton.mp he]
  exact ⟨htype, hevent⟩

end Note

omit [DecidableEq κ] [DecidableEq ν] in
theorem notification_inConversation {env : Environment κ υ} {event : ZMUpdateEvent κ υ ν}
    {note : Note κ υ ν} (h : notification env event = some note) : note.InConversation := by
  unfold notification at h
  -- each event type goes to a class that copies it
  split at h
  · dsimp only at h
    split at h
    · rename_i created hcreated
      cases h
      exact Note.InConversation.init hcreated (by simp [*, NoteKind.copiedEventTypes])
    · exact Note.InConversation.init h (by simp [*, NoteKind.copiedEventTypes])
  all_goals first
    | exact Note.InConversation.init h (by simp [*, NoteKind.copiedEventTypes])
    | contradiction

/-- An event that no stored note takes leaves every note as `copyByAddingEvent`
left it. -/
theorem offer_notFound {env : Environment κ υ} {event : ZMUpdateEvent κ υ ν}
    {notes : List (Note κ υ ν)} (h : (offer env event notes).2.2 = .notFound) :
    (offer env event notes).1 =
      notes.map (fun note => (note.copyByAddingEvent env event).receiver) := by
  induction notes with
  | nil => rfl
  | cons note rest ih =>
    by_cases hidentical : note.containsIdenticalEvent event
    · simp [offer, hidentical] at h
    · cases hcopy : (note.copyByAddingEvent env event).copy with
      | some copy => simp [offer, hidentical, hcopy] at h
      | none =>
        simp only [offer, hidentical, hcopy, Bool.false_eq_true, if_false] at h ⊢
        rw [List.map_cons, ih h]

theorem offer_inConversation {env : Environment κ υ} {event : ZMUpdateEvent κ υ ν}
    {notes : List (Note κ υ ν)} (h : ∀ note ∈ notes, note.InConversation) :
    ∀ note ∈ (offer env event notes).1, note.InConversation := by
  induction notes with
  | nil => simp [offer]
  | cons note rest ih =>
    have hnote := h note List.mem_cons_self
    have hrest := fun n hn => h n (List.mem_cons_of_mem note hn)
    simp only [offer]
    split
    · exact h
    · split
      · rename_i copy hcopy
        intro n hn
        rcases List.mem_cons.mp hn with rfl | hn
        · exact hnote.copy hcopy
        · exact hrest n hn
      · intro n hn
        rcases List.mem_cons.mp hn with rfl | hn
        · exact hnote.receiver event
        · exact ih hrest n hn

namespace ZMLocalNotificationDispatcher

/-- The dispatcher's invariant: every stored note holds only events of the
types its class copies, in its own conversation. -/
def Good (d : ZMLocalNotificationDispatcher κ υ ν) : Prop :=
  ∀ note ∈ d.eventsNotifications, note.InConversation

theorem Good.localNotificationForEvent {env : Environment κ υ}
    {d : ZMLocalNotificationDispatcher κ υ ν} (hd : d.Good) (event : ZMUpdateEvent κ υ ν) :
    (d.localNotificationForEvent env event).1.Good := by
  have hnotes : ∀ note ∈ (offer env event d.eventsNotifications).1, note.InConversation :=
    offer_inConversation hd
  unfold ZMLocalNotificationDispatcher.localNotificationForEvent
  split
  · rename_i notes cancelled outcome hoffer
    rw [hoffer] at hnotes
    split
    · exact hnotes
    · exact hnotes
    · split
      · exact hnotes
      · rename_i note hnote
        intro n hn
        rcases List.mem_append.mp hn with hn | hn
        · exact hnotes n hn
        · rw [List.mem_singleton.mp hn]
          exact notification_inConversation hnote

theorem Good.didReceiveUpdateEvent {env : Environment κ υ}
    {d : ZMLocalNotificationDispatcher κ υ ν} (hd : d.Good) (event : ZMUpdateEvent κ υ ν) :
    (d.didReceiveUpdateEvent env event).Good := by
  -- the dispatcher after `notificationForEvent:`, before anything is scheduled
  have hnext : (d.notificationForEvent env event).1.Good := by
    unfold notificationForEvent
    split
    all_goals first
      | exact hd.localNotificationForEvent event
      | exact hd
  unfold ZMLocalNotificationDispatcher.didReceiveUpdateEvent
  split
  · rename_i d' note hnote
    rw [hnote] at hnext
    split
    · exact hnext
    · exact hnext
  · rename_i d' hnote
    rw [hnote] at hnext
    exact hnext

/-- **Run invariant**: after any sequence of update events, every stored
note holds only events of the types its class copies, in its conversation. -/
theorem Good.didReceiveUpdateEvents {env : Environment κ υ}
    {d : ZMLocalNotificationDispatcher κ υ ν} (hd : d.Good) (events : List (ZMUpdateEvent κ υ ν)) :
    (d.didReceiveUpdateEvents env events).Good := by
  rw [ZMLocalNotificationDispatcher.didReceiveUpdateEvents, StepSystem.foldl_eq_run]
  exact StepSystem.run_invariant Good (fun d event hd => hd.didReceiveUpdateEvent event) events hd

end ZMLocalNotificationDispatcher

/-! ### A knock note that counts a text message -/

/-- Conversation `7` and the users `0` (the self user) and `1` exist; nothing
is silenced. -/
def sampleEnvironment : Environment Nat Nat := ⟨fun _ => true, fun _ => false, fun _ => true, 0⟩

def knockMessage : ZMGenericMessage := ⟨true, none, false, false, false, false⟩

def textMessage : ZMGenericMessage := ⟨false, some "hi", false, false, false, false⟩

/-- An OTR message from user `1` in conversation `7`. -/
def otrMessageInConversation (nonce : Nat) (genericMessage : ZMGenericMessage) :
    ZMUpdateEvent Nat Nat Nat :=
  { type := .conversationOtrMessageAdd, conversationUUID := some 7, senderUUID := some 1,
    messageNonce := some nonce, hasEncryptedAndUnencryptedVersion := false,
    genericMessage := some genericMessage, content := none, assetTag := none, userIDs := [] }

def firstKnock : ZMUpdateEvent Nat Nat Nat := otrMessageInConversation 1 knockMessage

def textAfterKnock : ZMUpdateEvent Nat Nat Nat := otrMessageInConversation 2 textMessage

def secondKnock : ZMUpdateEvent Nat Nat Nat := otrMessageInConversation 3 knockMessage

/-- A knock, a text message and a knock in one conversation. The text is
offered to the knock note, whose class copies OTR messages; the copy is
refused, but the note keeps the text. The second knock's note then has three
events, and its notification counts three pings; the text also has a message
note of its own. -/
theorem localNotifications_knock_count :
    (∃ note, notification sampleEnvironment firstKnock = some note ∧ note.kind = .knock ∧
        (note.copyByAddingEvent sampleEnvironment textAfterKnock).copy = none ∧
        (note.copyByAddingEvent sampleEnvironment textAfterKnock).receiver.events =
          [firstKnock, textAfterKnock]) ∧
      (ZMLocalNotificationDispatcher.didReceiveUpdateEvents sampleEnvironment ⟨[], [], []⟩
          [firstKnock, textAfterKnock, secondKnock]).eventsNotifications.map
            (fun note => (note.kind, note.events)) =
        [(.knock, [firstKnock, textAfterKnock, secondKnock]), (.message, [textAfterKnock])] ∧
      (ZMLocalNotificationDispatcher.didReceiveUpdateEvents sampleEnvironment ⟨[], [], []⟩
          [firstKnock, textAfterKnock, secondKnock]).scheduled.getLast? = some ⟨.knock, 3⟩ :=
  ⟨⟨_, rfl, rfl, rfl, rfl⟩, rfl, rfl⟩

end ZMessaging.LocalNotifications
