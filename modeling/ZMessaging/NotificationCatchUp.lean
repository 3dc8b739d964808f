import ZMessaging.MissingUpdateEvents
import ZMessaging.CursorLog

/-!
# Catching up on the notification stream: nothing lost, nothing twice

While the sync is in a catch-up state (policy Buffer), the missing update
events transcoder pages through the backend's stream from its stored position,
and the push channel keeps delivering live events.  The backend is the
environment: it answers a request for the notifications after an id with the
next ones of its stream (`notificationsSince`), appends new notifications with
later ids, and answers 404 only for an id it no longer has.

Each page moves the stored position to its last notification that carries
events, through `setLastUpdateEventID:` and the events consumed on the way.
Because the stream's ids increase, every UUID set on the way is at most that
last one (`Upto`), so the position lands exactly on it
(`nextUUIDFromResponse_page`), and the stream splits there by `CursorLog`.

The main result (`catchUp_consumes_each_notification_once`): in every
catch-up run that starts with `startDownloadingMissingNotifications`, however
pages, stale and expired responses, live deliveries and new notifications
interleave, the notifications between the start position and the stored
position are exactly those whose events were handed to `consumeUpdateEvents:`,
in stream order and each once (call-state events apart, which go to the
buffer), and the next page asks for the notifications right after the stored
position.
-/

namespace ZMessaging.MissingUpdateEvents

open StepSystem ListRequestPaginator ZMMissingUpdateEventsTranscoder

variable {υ κ : Type*} [DecidableEq υ]

/-! ### The backend -/

/-- What `GET /notifications?since=` lists: the notifications after the one
with id `since`, all of them without one. -/
def notificationsSince (notifications : List (Notification υ κ)) (since : Option υ) :
    List (Notification υ κ) :=
  CursorLog.since (·.id) notifications since

/-- How the backend answers a request for `size` notifications after `start`:
a success carries the next `size` of them, and a 404 comes only when it no
longer has `start`. -/
structure Answers (notifications : List (Notification υ κ)) (query : ListRequest υ)
    (response : ZMTransportResponse (List (Notification υ κ))) : Prop where
  success : response.result = .success →
    response.payload = (notificationsSince notifications query.start).take query.size
  notFound : response.result = .permanentError → response.HTTPStatus = 404 →
    ∃ since, query.start = some since ∧ since ∉ notifications.map (·.id)

/-- An event `processEvents:liveEvents:` takes no position from: it has no
UUID, is transient, or came with a push notification. -/
def ZMUpdateEvent.Positionless (event : ZMUpdateEvent υ κ) : Prop :=
  event.uuid = none ∨ event.isTransient = true ∨ event.source = .pushNotification

omit [DecidableEq υ] in
theorem processEvent_of_positionless (T : NSUUIDType1 υ) {event : ZMUpdateEvent υ κ}
    (h : event.Positionless) (x : Option υ) : processEvent T x event = x := by
  unfold processEvent
  split
  · rename_i uuid huuid
    have hskip : (!event.isTransient && event.source != .pushNotification) = false := by
      rcases h with hnone | htransient | hpush
      · rw [hnone] at huuid; cases huuid
      · simp [htransient]
      · simp [hpush]
    simp [hskip]
  · rfl

/-! ### Where a page leaves the stored position -/

section Upto

variable (T : NSUUIDType1 υ)

/-- `x` is `m`, earlier than `m`, or nothing. -/
def Upto (m : υ) (x : Option υ) : Prop :=
  x = some m ∨ ∀ p, x = some p → T.compareWithType1 p m = .lt

variable {T}

omit [DecidableEq υ] in
/-- Setting a UUID that is at most `m` keeps the position at most `m`. -/
theorem setLastUpdateEventID_upto {m n : υ} {x : Option υ} (hup : Upto T m x)
    (hnm : n = m ∨ T.compareWithType1 n m = .lt) :
    Upto T m (setLastUpdateEventID T x n) := by
  have hset : Upto T m (some n) := by
    rcases hnm with rfl | hlt
    · exact Or.inl rfl
    · exact Or.inr fun p hp => by cases hp; exact hlt
  cases x with
  | none => exact hset
  | some previous =>
    simp only [setLastUpdateEventID]
    split
    · exact hup
    · exact hset

omit [DecidableEq υ] in
/-- Setting `m` itself, from a position at most `m`, stores `m`. -/
theorem setLastUpdateEventID_of_upto {m : υ} {x : Option υ} (hup : Upto T m x) :
    setLastUpdateEventID T x m = some m := by
  cases x with
  | none => rfl
  | some previous =>
    simp only [setLastUpdateEventID]
    rcases hup with hsame | hlt
    · have hm : previous = m := Option.some_inj.mp hsame
      split <;> simp [hm]
    · simp [hlt previous rfl]

omit [DecidableEq υ] in
theorem processEvent_upto {m : υ} {x : Option υ} {event : ZMUpdateEvent υ κ} (hup : Upto T m x)
    (hevent : ∀ n, event.uuid = some n → n = m ∨ T.compareWithType1 n m = .lt) :
    Upto T m (processEvent T x event) := by
  unfold processEvent
  split
  · rename_i n hn
    split
    · exact setLastUpdateEventID_upto hup (hevent n hn)
    · exact hup
  · exact hup

omit [DecidableEq υ] in
/-- The loop of `processEvents:liveEvents:` over events whose UUIDs are at
most `m` leaves the position at most `m`. -/
theorem foldl_processEvent_upto {m : υ} {events : List (ZMUpdateEvent υ κ)}
    (hevents : ∀ e ∈ events, ∀ n, e.uuid = some n → n = m ∨ T.compareWithType1 n m = .lt) :
    ∀ {x : Option υ}, Upto T m x → Upto T m (events.foldl (processEvent T) x) := by
  induction events with
  | nil => exact id
  | cons event events ih =>
    intro x hup
    exact ih (fun e he => hevents e (List.mem_cons_of_mem _ he))
      (processEvent_upto hup (hevents event List.mem_cons_self))

end Upto

/-! ### A page of the stream -/

section Page

variable {T : NSUUIDType1 υ} {notifications : List (Notification υ κ)}

/-- The stream's ids increase: what follows an id is in the stream, after it. -/
theorem mem_of_mem_notificationsSince {since : Option υ} {n : Notification υ κ}
    (hn : n ∈ notificationsSince notifications since) : n ∈ notifications :=
  (CursorLog.since_suffix _ notifications since).subset hn

/-- **A page splits the stream at its last notification with events.**  The
notifications up to it are followed by those after it, carry all the page's
events, and every event's UUID is at most its id, which is later than where
the page started. -/
theorem page_split [Std.ReflCmp T.compareWithType1]
    (hordered : notifications.Pairwise fun a b => T.compareWithType1 a.id b.id = .lt)
    (since : Option υ) (size : Nat)
    (hevents : ((notificationsSince notifications since).take size).flatMap (·.events) ≠ []) :
    ∃ taken last,
      notificationsSince notifications since =
        taken ++ notificationsSince notifications (some last.id) ∧
      taken.flatMap (·.events) = ((notificationsSince notifications since).take size).flatMap (·.events) ∧
      last ∈ notifications ∧
      (((notificationsSince notifications since).take size).flatMap (·.events)).getLast?.bind
        (·.uuid) = some last.id ∧
      (∀ e ∈ taken.flatMap (·.events), ∀ n, e.uuid = some n →
        n = last.id ∨ T.compareWithType1 n last.id = .lt) ∧
      Upto T last.id since := by
  set after := notificationsSince notifications since with hafter
  obtain ⟨pre, last, post, hpage, hlast, hpost⟩ :=
    CursorLog.exists_last_of_flatMap_ne_nil Notification.events hevents
  have hsplit : after = pre ++ last :: (post ++ after.drop size) := by
    conv_lhs => rw [← List.take_append_drop size after, hpage]
    simp
  have hordered_after : after.Pairwise fun a b => T.compareWithType1 a.id b.id = .lt :=
    hordered.sublist (CursorLog.since_suffix _ notifications since).sublist
  have hsince : CursorLog.since Notification.id notifications since =
      pre ++ last :: (post ++ after.drop size) := hsplit
  have hrest : notificationsSince notifications (some last.id) = post ++ after.drop size :=
    CursorLog.since_of_eq_append_cons hordered hsince
  have hmem_last : last ∈ after := by rw [hsplit]; simp
  refine ⟨pre ++ [last], last, ?_, ?_, mem_of_mem_notificationsSince hmem_last, ?_, ?_, ?_⟩
  · rw [hrest]
    conv_lhs => rw [hsplit]
    simp
  · rw [hpage]
    simp [hpost]
  · rw [hpage, List.flatMap_append, List.flatMap_cons, hpost, List.append_nil,
      List.getLast?_append_of_ne_nil _ hlast]
    obtain ⟨e, he⟩ := Option.isSome_iff_exists.mp (List.getLast?_isSome.mpr hlast)
    rw [he, Option.bind_some]
    exact last.uuid_eq e (List.mem_of_getLast? he)
  · intro e he n hn
    obtain ⟨m, hm, hmem⟩ := List.mem_flatMap.mp he
    rw [m.uuid_eq e hmem] at hn
    cases hn
    rcases List.mem_append.mp hm with hpre | hlast'
    · have hpair := (List.pairwise_append.mp (hsplit ▸ hordered_after)).2.2 m hpre last
        List.mem_cons_self
      exact Or.inr hpair
    · rw [List.mem_singleton] at hlast'
      exact Or.inl (by rw [hlast'])
  · cases since with
    | none => exact Or.inr fun p hp => by cases hp
    | some p =>
      exact Or.inr fun p' hp' => by
        cases hp'
        exact CursorLog.lt_of_mem_since hordered hmem_last

variable [DecidableEq κ] {t : ZMMissingUpdateEventsTranscoder υ κ}

/-- **A page, handed on.**  From a stored position the stream knows, a page of
what follows it moves the position to the page's last notification with events
(or leaves it when the page has none), and exactly the notifications passed
over had their events other than call-state ones consumed, in order. -/
theorem nextUUIDFromResponse_page [Std.ReflCmp T.compareWithType1]
    (hordered : notifications.Pairwise fun a b => T.compareWithType1 a.id b.id = .lt)
    (hpolicy : t.syncStrategy.updateEventsPolicy = .buffer)
    {response : ZMTransportResponse (List (Notification υ κ))} {size : Nat}
    (hpayload : response.payload =
      (notificationsSince notifications t.lastUpdateEventID).take size) :
    ∃ taken, notificationsSince notifications t.lastUpdateEventID =
        taken ++ notificationsSince notifications (t.nextUUIDFromResponse T response).1.lastUpdateEventID ∧
      (t.nextUUIDFromResponse T response).1.syncStrategy.consumed =
        t.syncStrategy.consumed ++ (taken.flatMap (·.events)).filter (·.type != .callState) ∧
      ((t.nextUUIDFromResponse T response).1.lastUpdateEventID = t.lastUpdateEventID ∨
        ∃ last ∈ notifications, (t.nextUUIDFromResponse T response).1.lastUpdateEventID =
          some last.id) := by
  obtain ⟨hid, hconsumed, -, -⟩ := nextUUIDFromResponse_of_buffer T hpolicy response
  by_cases hevents : response.payload.flatMap (·.events) = []
  · -- a page without events moves nothing
    have hstays : (t.nextUUIDFromResponse T response).1.lastUpdateEventID = t.lastUpdateEventID := by
      rw [hid, hevents]
      rfl
    exact ⟨[], by simp [hstays], by simp [hconsumed, hevents], Or.inl hstays⟩
  · rw [hpayload] at hevents
    obtain ⟨taken, last, hsplit, htaken, hlast_mem, hlatest, hbelow, hup⟩ :=
      page_split hordered t.lastUpdateEventID size hevents
    rw [← hpayload] at htaken hlatest
    -- the events consumed on the way leave the position at most `last`, so
    -- setting `last` stores it
    have hparsed : Upto T last.id (((response.payload.flatMap (·.events)).filter
        (·.type != .callState)).foldl (processEvent T) t.lastUpdateEventID) :=
      foldl_processEvent_upto (fun e he n hn => hbelow e (htaken ▸ List.mem_of_mem_filter he) n hn)
        hup
    have hlands : (t.nextUUIDFromResponse T response).1.lastUpdateEventID = some last.id := by
      rw [hid, hlatest]
      exact setLastUpdateEventID_of_upto hparsed
    exact ⟨taken, by rw [hlands]; exact hsplit, by rw [hconsumed, htaken],
      Or.inr ⟨last, hlast_mem, hlands⟩⟩

end Page

/-! ### Catch-up runs -/

section Run

variable (T : NSUUIDType1 υ) [DecidableEq κ]

/-- The events of a catch-up run.  The backend answers as `Answers` says, a
request completes fewer than `2 ^ 32` resets after it was issued, live flow
events carry no position, the sync stays in states that buffer, the buffer is
not processed and no slow sync persists an ID, and a new notification is
later than those before it. -/
def CatchUp (w : World υ κ) : Event υ κ → Prop
  | .startDownloadingMissingNotifications | .nextRequest => True
  | .complete request response =>
    ListRequestPaginator.Bounded w.listPaginator (.complete request response) ∧
      ∀ query, w.listPaginator.requests[request]? = some query →
        Answers w.notifications query response
  | .pushChannel events => ∀ e ∈ events, e.isFlowEvent = true → e.Positionless
  | .enterState policy => policy = .buffer
  | .processAllEventsInBuffer | .persistLastUpdateEventID _ => False
  | .notify notification =>
    ∀ n ∈ w.notifications, T.compareWithType1 n.id notification.id = .lt

/-- **The invariant of a catch-up** from position `start`, after the non-flow
events `before` were consumed: the stream's ids increase and it knows both
positions, the paginator goes on from the stored position, and the non-flow
events consumed since are exactly the non-call-state ones of the notifications
between the two positions, in order. -/
structure CatchingUp (start : Option υ) (before : List (ZMUpdateEvent υ κ)) (w : World υ κ) :
    Prop where
  good : ListRequestPaginator.Good w.listPaginator
  buffer : w.transcoder.syncStrategy.updateEventsPolicy = .buffer
  ordered : w.notifications.Pairwise fun a b => T.compareWithType1 a.id b.id = .lt
  start_known : ∀ p, start = some p → p ∈ w.notifications.map (·.id)
  known : ∀ p, w.lastUpdateEventID = some p → p ∈ w.notifications.map (·.id)
  since : w.listPaginator.paginator.lastUUIDOfPreviousPage = w.lastUpdateEventID
  handed : ∃ done, notificationsSince w.notifications start =
      done ++ notificationsSince w.notifications w.lastUpdateEventID ∧
    w.transcoder.syncStrategy.consumed.filter (!·.isFlowEvent) =
      before ++ (done.flatMap (·.events)).filter fun e => !e.isFlowEvent && e.type != .callState

variable {T} {start : Option υ} {before : List (ZMUpdateEvent υ κ)} {w w' : World υ κ}

omit [DecidableEq κ] in
/-- A step that keeps the stream, the stored position, the policy and the
non-flow events consumed, and moves the paginator to the stored position,
keeps the invariant. -/
theorem CatchingUp.of_frame (h : CatchingUp T start before w)
    (hgood : ListRequestPaginator.Good w'.listPaginator)
    (hnotifications : w'.notifications = w.notifications)
    (hid : w'.lastUpdateEventID = w.lastUpdateEventID)
    (hbuffer : w'.transcoder.syncStrategy.updateEventsPolicy = .buffer)
    (hconsumed : w'.transcoder.syncStrategy.consumed.filter (!·.isFlowEvent) =
      w.transcoder.syncStrategy.consumed.filter (!·.isFlowEvent))
    (hsince : w'.listPaginator.paginator.lastUUIDOfPreviousPage = w.lastUpdateEventID) :
    CatchingUp T start before w' where
  good := hgood
  buffer := hbuffer
  ordered := hnotifications ▸ h.ordered
  start_known := hnotifications ▸ h.start_known
  known := hnotifications ▸ hid ▸ h.known
  since := hid ▸ hsince
  handed := by
    rw [hnotifications, hid, hconsumed]
    exact h.handed

omit [DecidableEq υ] in
@[simp] theorem World.notifications_paginate (w : World υ κ)
    (e : ListRequestPaginator.Event (List (Notification υ κ))) :
    (w.paginate T e).notifications = w.notifications := rfl

omit [DecidableEq υ] [DecidableEq κ] in
/-- The paginator's invariant does not read the transcoder. -/
theorem good_mapTranscoder {w : World υ κ} (hgood : ListRequestPaginator.Good w.listPaginator)
    (f : ZMMissingUpdateEventsTranscoder υ κ → ZMMissingUpdateEventsTranscoder υ κ) :
    ListRequestPaginator.Good (w.mapTranscoder f).listPaginator :=
  ⟨hgood.sync, hgood.requests_length, hgood.fresh_query⟩

omit [DecidableEq υ] [DecidableEq κ] in
theorem foldl_processEvent_of_positionless {events : List (ZMUpdateEvent υ κ)}
    (hevents : ∀ e ∈ events, e.Positionless) (x : Option υ) :
    events.foldl (processEvent T) x = x := by
  induction events with
  | nil => rfl
  | cons event events ih =>
    rw [List.foldl_cons, processEvent_of_positionless T (hevents event List.mem_cons_self),
      ih fun e he => hevents e (List.mem_cons_of_mem _ he)]

/-- A response the transcoder hears for the page after the stored position:
the page is handed on, or a permanent error other than 404 stops the paging. -/
theorem CatchingUp.heard [Std.ReflCmp T.compareWithType1] (h : CatchingUp T start before w) {request : Nat}
    {response : ZMTransportResponse (List (Notification υ κ))}
    (hgood : ListRequestPaginator.Good (w.paginate T (.complete request response)).listPaginator)
    (hanswer : Answers w.notifications
      { size := w.listPaginator.paginator.pageSize,
        start := w.listPaginator.paginator.lastUUIDOfPreviousPage } response)
    (hclass : response.result = .success ∨ (response.result = .permanentError ∧
      ZMSimpleListRequestPaginator.parsesErrorResponse (paginatorSync T) w.transcoder
        response.HTTPStatus = true))
    (htranscoder : (w.paginate T (.complete request response)).transcoder =
      (w.transcoder.nextUUIDFromResponse T response).1)
    (hlast : (w.paginate T (.complete request response)).listPaginator.paginator.lastUUIDOfPreviousPage =
      (w.transcoder.nextUUIDFromResponse T response).2) :
    CatchingUp T start before (w.paginate T (.complete request response)) := by
  rw [h.since] at hanswer
  rcases hclass with hsuccess | ⟨hpermanent, hparsed⟩
  · obtain ⟨hid, -, hbuffer, hnext⟩ := nextUUIDFromResponse_of_buffer T h.buffer response
    obtain ⟨taken, hsplit, hconsumed, hknown⟩ :=
      nextUUIDFromResponse_page h.ordered h.buffer (hanswer.success hsuccess)
    obtain ⟨done, hdone, hhanded⟩ := h.handed
    have hid' : (w.paginate T (.complete request response)).lastUpdateEventID =
        (w.transcoder.nextUUIDFromResponse T response).1.lastUpdateEventID := by
      rw [World.lastUpdateEventID, htranscoder]
    refine ⟨hgood, by rw [htranscoder]; exact hbuffer, h.ordered, h.start_known, ?_, ?_, ?_⟩
    · rw [hid']
      rcases hknown with hstays | ⟨last, hlast_mem, hlands⟩
      · exact hstays ▸ h.known
      · intro p hp
        rw [hlands] at hp
        cases hp
        exact List.mem_map_of_mem hlast_mem
    · rw [hlast, hid', hnext]
    · refine ⟨done ++ taken, ?_, ?_⟩
      · rw [World.notifications_paginate, hid', hdone, List.append_assoc]
        exact congrArg (done ++ ·) hsplit
      · rw [htranscoder, hconsumed, List.filter_append, hhanded, List.filter_filter,
          List.flatMap_append, List.filter_append, List.append_assoc]
  · -- the backend answers 404 only for a position it no longer has
    have h404 : response.HTTPStatus = 404 := by
      simpa [ZMSimpleListRequestPaginator.parsesErrorResponse, paginatorSync,
        shouldParseErrorResponseForStatusCode] using hparsed
    obtain ⟨since, hsince, hunknown⟩ := hanswer.notFound hpermanent h404
    exact absurd (h.known since hsince) hunknown

/-- A step of the paginator. -/
theorem CatchingUp.paginate [Std.ReflCmp T.compareWithType1] (h : CatchingUp T start before w)
    {e : ListRequestPaginator.Event (List (Notification υ κ))}
    (hb : ListRequestPaginator.Bounded w.listPaginator e)
    (hanswers : ∀ request response, e = .complete request response →
      ∀ query, w.listPaginator.requests[request]? = some query →
        Answers w.notifications query response) :
    CatchingUp T start before (w.paginate T e) := by
  have hgood := h.good.step (paginatorSync T) hb
  rcases ListRequestPaginator.World.step_cases (paginatorSync T) w.listPaginator e with
    ⟨-, htranscoder, hlast⟩ | ⟨request, response, he, hheard, hclass, htranscoder, hlast⟩ |
    ⟨htranscoder, hlast⟩
  · -- `resetFetching` restarts from the stored position
    have hid : (w.paginate T e).lastUpdateEventID = w.lastUpdateEventID := by
      rw [World.lastUpdateEventID, World.transcoder_paginate, htranscoder]; rfl
    exact h.of_frame hgood rfl hid (by rw [World.transcoder_paginate, htranscoder]; exact h.buffer)
      (by rw [World.transcoder_paginate, htranscoder]; rfl) (by rw [World.paginate, hlast]; rfl)
  · subst he
    have hquery := h.good.query_of_transcoderHears hb hheard
    exact h.heard hgood (hanswers request response rfl _ hquery) hclass
      (by rw [World.transcoder_paginate, htranscoder]; rfl) hlast
  · have hid : (w.paginate T e).lastUpdateEventID = w.lastUpdateEventID := by
      rw [World.lastUpdateEventID, World.transcoder_paginate, htranscoder]; rfl
    exact h.of_frame hgood rfl hid (by rw [World.transcoder_paginate, htranscoder]; exact h.buffer)
      (by rw [World.transcoder_paginate, htranscoder]; rfl)
      (by rw [World.paginate, hlast]; exact h.since)

/-- A new notification of the backend. -/
theorem CatchingUp.notify (h : CatchingUp T start before w) {notification : Notification υ κ}
    (hlater : ∀ n ∈ w.notifications, T.compareWithType1 n.id notification.id = .lt) :
    CatchingUp T start before (w.step T (.notify notification)) := by
  have hsince_append : ∀ {x : Option υ}, (∀ p, x = some p → p ∈ w.notifications.map (·.id)) →
      notificationsSince (w.notifications ++ [notification]) x =
        notificationsSince w.notifications x ++ [notification] :=
    fun hx => CursorLog.since_append_singleton _ notification hx
  obtain ⟨done, hdone, hhanded⟩ := h.handed
  refine ⟨h.good, h.buffer, ?_, ?_, ?_, h.since, done, ?_, hhanded⟩
  · exact List.pairwise_append.mpr ⟨h.ordered, List.pairwise_singleton _ _,
      fun n hn m hm => (List.mem_singleton.mp hm) ▸ hlater n hn⟩
  · exact fun p hp => List.mem_map.mpr (by
      obtain ⟨n, hn, hid⟩ := List.mem_map.mp (h.start_known p hp)
      exact ⟨n, List.mem_append_left _ hn, hid⟩)
  · exact fun p hp => List.mem_map.mpr (by
      obtain ⟨n, hn, hid⟩ := List.mem_map.mp (h.known p hp)
      exact ⟨n, List.mem_append_left _ hn, hid⟩)
  · change notificationsSince (w.notifications ++ [notification]) start =
      done ++ notificationsSince (w.notifications ++ [notification]) w.lastUpdateEventID
    rw [hsince_append h.start_known, hsince_append h.known, hdone, List.append_assoc]

/-- **Step lemma.** -/
theorem CatchingUp.step [Std.ReflCmp T.compareWithType1] (h : CatchingUp T start before w) {e : Event υ κ} (he : CatchUp T w e) :
    CatchingUp T start before (w.step T e) := by
  cases e with
  | startDownloadingMissingNotifications => exact h.paginate trivial (fun _ _ h => by cases h)
  | nextRequest => exact h.paginate trivial (fun _ _ h => by cases h)
  | complete request response =>
    exact h.paginate he.1 (fun _ _ heq => by cases heq; exact he.2)
  | pushChannel events =>
    simp only [World.step]
    split
    · -- the flow events are consumed without moving the position, the others buffered
      obtain ⟨hid, hstrategy⟩ :=
        processUpdateEvents_of_buffer T (t := w.listPaginator.transcoder) h.buffer events
      have hpositionless : ∀ e ∈ events.filter (·.isFlowEvent), e.Positionless :=
        fun e hmem => he e (List.mem_of_mem_filter hmem) (List.mem_filter.mp hmem).2
      refine h.of_frame (good_mapTranscoder h.good _) rfl ?_ ?_ ?_ h.since
      · simp only [World.lastUpdateEventID, World.transcoder, World.mapTranscoder]
        rw [hid, foldl_processEvent_of_positionless hpositionless]
      · simp only [World.transcoder, World.mapTranscoder]
        rw [hstrategy]
      · simp only [World.transcoder, World.mapTranscoder]
        rw [hstrategy, List.filter_append, List.filter_filter]
        simp
    · exact h
  | enterState policy =>
    exact h.of_frame (good_mapTranscoder h.good _) rfl rfl he rfl h.since
  | processAllEventsInBuffer => exact he.elim
  | persistLastUpdateEventID _ => exact he.elim
  | notify notification => exact h.notify he

/-- `startDownloadingMissingNotifications` starts a catch-up from the stored
position. -/
theorem CatchingUp.startDownloadingMissingNotifications (hgood : ListRequestPaginator.Good w.listPaginator)
    (hbuffer : w.transcoder.syncStrategy.updateEventsPolicy = .buffer)
    (hordered : w.notifications.Pairwise fun a b => T.compareWithType1 a.id b.id = .lt)
    (hknown : ∀ p, w.lastUpdateEventID = some p → p ∈ w.notifications.map (·.id)) :
    CatchingUp T w.lastUpdateEventID (w.transcoder.syncStrategy.consumed.filter (!·.isFlowEvent))
      (w.step T .startDownloadingMissingNotifications) where
  good := hgood.resetFetching (paginatorSync T)
  buffer := hbuffer
  ordered := hordered
  start_known := hknown
  known := hknown
  since := rfl
  handed := ⟨[], by simp [World.step, World.paginate, World.lastUpdateEventID, World.transcoder,
    ListRequestPaginator.World.step], by simp [World.step, World.paginate, World.transcoder,
    ListRequestPaginator.World.step]⟩

end Run

/-! ### A 404: the gap, and no page until a restart -/

section NotFound

variable (T : NSUUIDType1 υ) [DecidableEq κ]

/-- The side condition of the bounded runs: a request of the paginator
completes fewer than `2 ^ 32` resets after it was issued. -/
def BoundedCompletion (w : World υ κ) : Event υ κ → Prop
  | .complete request response =>
    ListRequestPaginator.Bounded w.listPaginator (.complete request response)
  | .startDownloadingMissingNotifications | .nextRequest | .pushChannel _ | .enterState _
  | .processAllEventsInBuffer | .persistLastUpdateEventID _ | .notify _ => True

variable {T}

omit [DecidableEq υ] in
/-- A stalled paginator stays stalled along every event but
`startDownloadingMissingNotifications`: it hands out no request and keeps its
state, whatever else happens to the transcoder. -/
theorem stalled_step {w : World υ κ} (hgood : ListRequestPaginator.Good w.listPaginator)
    (hs : ListRequestPaginator.Stalled w.listPaginator) {e : Event υ κ}
    (hb : BoundedCompletion w e) (hreset : e ≠ .startDownloadingMissingNotifications) :
    ListRequestPaginator.Good (w.step T e).listPaginator ∧
      ListRequestPaginator.Stalled (w.step T e).listPaginator ∧
      (w.step T e).listPaginator.paginator = w.listPaginator.paginator ∧
      (w.step T e).listPaginator.sync.issued = w.listPaginator.sync.issued := by
  -- the events that are not the paginator's change its transcoder alone
  have hframe : ∀ f, ListRequestPaginator.Good (w.mapTranscoder f).listPaginator ∧
      ListRequestPaginator.Stalled (w.mapTranscoder f).listPaginator ∧
      (w.mapTranscoder f).listPaginator.paginator = w.listPaginator.paginator ∧
      (w.mapTranscoder f).listPaginator.sync.issued = w.listPaginator.sync.issued :=
    fun f => ⟨good_mapTranscoder hgood f, ⟨hs.completed, hs.not_fresh⟩, rfl, rfl⟩
  cases e with
  | startDownloadingMissingNotifications => exact absurd rfl hreset
  | nextRequest =>
    obtain ⟨hs', hpaginator, -, hissued⟩ :=
      hs.step (paginatorSync T) hgood (e := .nextRequest) trivial (by simp)
    exact ⟨hgood.step (paginatorSync T) (e := .nextRequest) trivial, hs', hpaginator, hissued⟩
  | complete request response =>
    obtain ⟨hs', hpaginator, -, hissued⟩ :=
      hs.step (paginatorSync T) hgood (e := .complete request response) hb (by simp)
    exact ⟨hgood.step (paginatorSync T) (e := .complete request response) hb, hs', hpaginator,
      hissued⟩
  | pushChannel events =>
    simp only [World.step]
    split
    · exact hframe _
    · exact ⟨hgood, hs, rfl, rfl⟩
  | enterState policy => exact hframe _
  | processAllEventsInBuffer => exact hframe _
  | persistLastUpdateEventID lastUpdateEventID =>
    cases lastUpdateEventID with
    | none => exact ⟨hgood, hs, rfl, rfl⟩
    | some lastUpdateEventID => exact hframe _
  | notify notification => exact ⟨hgood, hs, rfl, rfl⟩

omit [DecidableEq υ] in
/-- **Run lemma** of the stall. -/
theorem stalled_run {w : World υ κ} (hgood : ListRequestPaginator.Good w.listPaginator)
    (hs : ListRequestPaginator.Stalled w.listPaginator) {events : List (Event υ κ)}
    (hb : Guarded (World.step T) (BoundedCompletion) w events)
    (hreset : ∀ e ∈ events, e ≠ .startDownloadingMissingNotifications) :
    ListRequestPaginator.Stalled (run (World.step T) w events).listPaginator ∧
      (run (World.step T) w events).listPaginator.paginator = w.listPaginator.paginator ∧
      (run (World.step T) w events).listPaginator.sync.issued = w.listPaginator.sync.issued := by
  induction events generalizing w with
  | nil => exact ⟨hs, rfl, rfl⟩
  | cons e events ih =>
    obtain ⟨hbe, hrest⟩ := hb
    obtain ⟨hgood', hs', hpaginator, hissued⟩ :=
      stalled_step hgood hs hbe (hreset e List.mem_cons_self)
    obtain ⟨hs'', hpaginator', hissued'⟩ :=
      ih hgood' hs' hrest fun e' he' => hreset e' (List.mem_cons_of_mem e he')
    exact ⟨hs'', hpaginator'.trans hpaginator, hissued'.trans hissued⟩

omit [DecidableEq υ] in
/-- **A 404 stops the catch-up until it is restarted.**  When the backend
answers the request for the page after the stored position with a 404 (it no
longer has that position), the transcoder appends one round of potential-gap
system messages, and from then on no request for a page is handed out until
`startDownloadingMissingNotifications`, whatever else happens, while
`isDownloadingMissingNotifications` stays what the 404's `has_more` said. -/
theorem missingUpdateEvents_notFound_stalls (w : World υ κ) (request : Nat)
    (response : ZMTransportResponse (List (Notification υ κ))) (events : List (Event υ κ))
    (hgood : ListRequestPaginator.Good w.listPaginator)
    (hheard : transcoderHears w.listPaginator.sync request response.result = true)
    (hresult : response.result = .permanentError) (h404 : response.HTTPStatus = 404)
    (hb : Guarded (World.step T) (BoundedCompletion) w (.complete request response :: events))
    (hreset : ∀ e ∈ events, e ≠ .startDownloadingMissingNotifications) :
    (w.step T (.complete request response)).transcoder.potentialGapSystemMessages =
        w.transcoder.potentialGapSystemMessages + 1 ∧
      (run (World.step T) w (.complete request response :: events)).isDownloadingMissingNotifications =
        response.hasMore ∧
      (run (World.step T) w (.complete request response :: events)).listPaginator.sync.issued =
        w.listPaginator.sync.issued := by
  have hparsed : ZMSimpleListRequestPaginator.parsesErrorResponse (paginatorSync T) w.transcoder
      response.HTTPStatus = true := by
    simp [ZMSimpleListRequestPaginator.parsesErrorResponse, paginatorSync,
      shouldParseErrorResponseForStatusCode, h404]
  have hstep := ListRequestPaginator.World.step_of_parsed (paginatorSync T) w.listPaginator
    hheard hresult hparsed
  obtain ⟨hs, -⟩ := ListRequestPaginator.Stalled.of_parsed (paginatorSync T) hgood hb.1 hheard
    hresult hparsed
  obtain ⟨-, hpaginator, hissued⟩ :=
    stalled_run (hgood.step (paginatorSync T) (e := .complete request response) hb.1) hs hb.2
      hreset
  refine ⟨?_, ?_, ?_⟩
  · -- the 404 appends the gap messages once
    change (w.paginate T (.complete request response)).transcoder.potentialGapSystemMessages = _
    rw [World.transcoder_paginate, hstep]
    change (nextUUIDFromResponse T w.transcoder response).1.potentialGapSystemMessages = _
    rw [potentialGapSystemMessages_nextUUIDFromResponse, if_pos h404]
  · rw [World.isDownloadingMissingNotifications, run_cons, hpaginator]
    simp [World.step, World.paginate, hstep]
  · rw [run_cons, hissued]
    simp only [World.step, World.paginate, hstep]
    exact issued_step_complete request response.result

/-- A 404 for the first page of a catch-up. -/
theorem missingUpdateEvents_notFound_stalls_first_page :
    (World.step ⟨fun _ => true, compare⟩
        (run (World.step ⟨fun _ => true, compare⟩) (World.init (some 7) .buffer [] : World Nat Nat)
          [.startDownloadingMissingNotifications, .nextRequest])
        (.complete 0 ⟨.permanentError, 404, true, []⟩)).transcoder.potentialGapSystemMessages =
      (run (World.step ⟨fun _ => true, compare⟩) (World.init (some 7) .buffer [] : World Nat Nat)
        [.startDownloadingMissingNotifications, .nextRequest]).transcoder.potentialGapSystemMessages
        + 1 ∧
    (run (World.step ⟨fun _ => true, compare⟩)
        (run (World.step ⟨fun _ => true, compare⟩) (World.init (some 7) .buffer [] : World Nat Nat)
          [.startDownloadingMissingNotifications, .nextRequest])
        [.complete 0 ⟨.permanentError, 404, true, []⟩]).isDownloadingMissingNotifications = true ∧
    (run (World.step ⟨fun _ => true, compare⟩)
        (run (World.step ⟨fun _ => true, compare⟩) (World.init (some 7) .buffer [] : World Nat Nat)
          [.startDownloadingMissingNotifications, .nextRequest])
        [.complete 0 ⟨.permanentError, 404, true, []⟩]).listPaginator.sync.issued =
      (run (World.step ⟨fun _ => true, compare⟩) (World.init (some 7) .buffer [] : World Nat Nat)
        [.startDownloadingMissingNotifications, .nextRequest]).listPaginator.sync.issued :=
  missingUpdateEvents_notFound_stalls (T := ⟨fun _ => true, compare⟩) _ 0 _ []
    (((ListRequestPaginator.Good.init _ _).resetFetching
      (paginatorSync ⟨fun _ => true, compare⟩)).nextRequest (paginatorSync ⟨fun _ => true, compare⟩))
    (by decide) rfl rfl
    ⟨by unfold BoundedCompletion ListRequestPaginator.Bounded SingleRequestSync.Bounded; decide,
      trivial⟩ (by simp)

end NotFound

end ZMessaging.MissingUpdateEvents
