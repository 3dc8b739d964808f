import ZMessaging.SingleRequestSync

/-!
# `ZMSimpleListRequestPaginator`: a list fetched page by page

`ZMSimpleListRequestPaginator` fetches a list resource in pages through a
`ZMSingleRequestSync` of its own.  Each request asks for `size` items after the
last UUID of the previous page, and the paginator's transcoder (its
`ZMSimpleListRequestPaginatorSync`) turns each response into the UUID the next
page starts after.  `resetFetching` starts over from the transcoder's
`startUUID`.

The model is generic in the transcoder: its state `σ`, the payload `π` of a
response and the UUIDs `υ`.  A `World` pairs the paginator with the world of
its single request sync from `SingleRequestSync` (the requests in flight and
the ghost count of resets), and keeps the query of each request handed out.
Every step of the paginator moves the single request sync by steps of that
world, so its invariant carries over unchanged.

The main results:
* in every run in which a request completes fewer than `2 ^ 32` resets after
  it was issued, the only request in flight that can still reach the
  transcoder asks for the page after `lastUUIDOfPreviousPage` (`Good.run`);
* after a permanent error whose status the transcoder parses, the sync is
  left `Completed` without `readyForNextRequest`: from then on no request is
  handed out until `resetFetching`, whatever `hasMoreToFetch` says
  (`Stalled.run`).
-/

namespace ZMessaging.ListRequestPaginator

open StepSystem

variable {σ π υ : Type*}

/-- The parts of a `ZMTransportResponse` the paginator and its transcoder read:
the result class, the HTTP status, the payload's `has_more` flag (`NO` when it
is absent) and the rest of the payload. -/
structure ZMTransportResponse (π : Type*) where
  result : ZMTransportResponseStatus
  HTTPStatus : Nat
  hasMore : Bool
  payload : π

/-- `ZMSimpleListRequestPaginatorSync`: the transcoder's methods, each acting on
the transcoder's state.  An optional method is `none` when the transcoder does
not implement it. -/
structure ZMSimpleListRequestPaginatorSync (σ π υ : Type*) where
  nextUUIDFromResponse : σ → ZMTransportResponse π → σ × Option υ
  startUUID : Option (σ → Option υ)
  shouldParseErrorResponseForStatusCode : Option (σ → Nat → Bool)

/-- The query of a request: the `size` item, and the start key with the last
UUID of the previous page when there is one. -/
structure ListRequest (υ : Type*) where
  size : Nat
  start : Option υ
  deriving DecidableEq, Repr

/-- The paginator's own state. -/
structure ZMSimpleListRequestPaginator (υ : Type*) where
  pageSize : Nat
  hasMoreToFetch : Bool
  lastUUIDOfPreviousPage : Option υ
  deriving DecidableEq, Repr

namespace ZMSimpleListRequestPaginator

/-- `initWithBasePath:startKey:pageSize:...`: nothing to fetch yet. -/
def init (pageSize : Nat) : ZMSimpleListRequestPaginator υ :=
  { pageSize := pageSize, hasMoreToFetch := false, lastUUIDOfPreviousPage := none }

/-- `requestForSingleRequestSync:`. -/
def requestForSingleRequestSync (p : ZMSimpleListRequestPaginator υ) : Option (ListRequest υ) :=
  if !p.hasMoreToFetch then none
  else some { size := p.pageSize, start := p.lastUUIDOfPreviousPage }

variable (sync : ZMSimpleListRequestPaginatorSync σ π υ)

/-- Whether the transcoder answers `shouldParseErrorResponseForStatusCode:`
with `YES`; a transcoder that does not implement it parses nothing. -/
def parsesErrorResponse (transcoder : σ) (statusCode : Nat) : Bool :=
  match sync.shouldParseErrorResponseForStatusCode with
  | some shouldParse => shouldParse transcoder statusCode
  | none => false

/-- `updateStateWithResponse:`.  A response is never `nil` here, and every
transcoder implements `nextUUIDFromResponse:forListPaginator:`. -/
def updateStateWithResponse (transcoder : σ) (p : ZMSimpleListRequestPaginator υ)
    (response : ZMTransportResponse π) : σ × ZMSimpleListRequestPaginator υ :=
  let next := sync.nextUUIDFromResponse transcoder response
  (next.1, { p with hasMoreToFetch := response.hasMore, lastUUIDOfPreviousPage := next.2 })

/-- `didReceiveResponse:forSingleRequest:`.  The flag is `true` when it ends
with `readyForNextRequest` on the single request sync. -/
def didReceiveResponse (transcoder : σ) (p : ZMSimpleListRequestPaginator υ)
    (response : ZMTransportResponse π) : σ × ZMSimpleListRequestPaginator υ × Bool :=
  match response.result with
  | .success =>
    let updated := p.updateStateWithResponse sync transcoder response
    (updated.1, updated.2, true)
  | .permanentError =>
    if parsesErrorResponse sync transcoder response.HTTPStatus then
      -- the source returns here, before `readyForNextRequest`
      let updated := p.updateStateWithResponse sync transcoder response
      (updated.1, updated.2, false)
    else (transcoder, { p with hasMoreToFetch := false }, true)
  | .temporaryError | .tryAgainLater | .expired => (transcoder, p, true)

/-- `resetFetching`, without its `readyForNextRequest`. -/
def resetFetching (transcoder : σ) (p : ZMSimpleListRequestPaginator υ) :
    ZMSimpleListRequestPaginator υ :=
  { p with hasMoreToFetch := true,
           lastUUIDOfPreviousPage :=
             match sync.startUUID with
             | some startUUID => startUUID transcoder
             | none => none }

end ZMSimpleListRequestPaginator

/-- Whether `processResponse:forRequest:counterValueAtStart:` calls the
transcoder's `didReceiveResponse:forSingleRequest:` for a completion of
`request` with class `result`. -/
def transcoderHears (w : SingleRequestSync.World) (request : Nat)
    (result : ZMTransportResponseStatus) : Bool :=
  match w.inFlight.find? (·.request = request) with
  | some r => (w.sync.processResponse result r.counterValueAtStart).2
  | none => false

/-- The paginator, its transcoder and its single request sync, with the query
of every request handed out, by number. -/
structure World (σ υ : Type*) where
  transcoder : σ
  paginator : ZMSimpleListRequestPaginator υ
  sync : SingleRequestSync.World
  requests : List (ListRequest υ)

/-- What the paginator's callers and the transport can do next. -/
inductive Event (π : Type*)
  | resetFetching
  | nextRequest
  | complete (request : Nat) (response : ZMTransportResponse π)

namespace World

variable (sync : ZMSimpleListRequestPaginatorSync σ π υ)

/-- The paginator as `initWithBasePath:...` leaves it, for a transcoder in
state `transcoder`. -/
def init (transcoder : σ) (pageSize : Nat) : World σ υ :=
  { transcoder := transcoder, paginator := .init pageSize, sync := .init, requests := [] }

/-- The transcoder heard a response: the paginator's `didReceiveResponse:`,
then `readyForNextRequest` on the sync if it asks for it. -/
def didReceiveResponse (w : World σ υ) (response : ZMTransportResponse π) : World σ υ :=
  let received := w.paginator.didReceiveResponse sync w.transcoder response
  { w with transcoder := received.1, paginator := received.2.1,
           sync := if received.2.2 then w.sync.step .readyForNextRequest else w.sync }

/-- One event. -/
def step (w : World σ υ) : Event π → World σ υ
  | .resetFetching =>
    { w with paginator := w.paginator.resetFetching sync w.transcoder,
             sync := w.sync.step .readyForNextRequest }
  | .nextRequest =>
    -- `nextRequest` returns `nil` at once when there is nothing more to fetch
    if w.paginator.hasMoreToFetch then
      let request := w.paginator.requestForSingleRequestSync
      let handed := w.sync.step (.nextRequest request.isSome)
      { w with sync := handed,
               requests := if handed.issued = w.sync.issued then w.requests
                 else w.requests ++ request.toList }
    else w
  | .complete request response =>
    let answered := { w with sync := w.sync.step (.complete request response.result) }
    if transcoderHears w.sync request response.result then
      answered.didReceiveResponse sync response
    else answered

end World

/-! ### The single request sync underneath -/

section Underneath

variable {w : SingleRequestSync.World}

/-- A completion the transcoder hears is one of a request in flight whose
counter check passes, with a class that completes the sync. -/
theorem of_transcoderHears {request : Nat} {result : ZMTransportResponseStatus}
    (hheard : transcoderHears w request result = true) :
    ∃ r ∈ w.inFlight, r.request = request ∧
      r.counterValueAtStart = w.sync.requestUniqueCounter ∧
      (result = .success ∨ result = .permanentError ∨ result = .expired) := by
  unfold transcoderHears at hheard
  cases hfind : w.inFlight.find? (·.request = request) with
  | none => simp [hfind] at hheard
  | some r =>
    simp only [hfind] at hheard
    have hvalid : r.counterValueAtStart = w.sync.requestUniqueCounter := by
      by_contra hne
      rw [ZMSingleRequestSync.processResponse_of_ne hne] at hheard
      cases hheard
    refine ⟨r, List.mem_of_find?_eq_some hfind, by simpa using List.find?_some hfind,
      hvalid, ?_⟩
    exact ((ZMSingleRequestSync.processResponse_of_eq hvalid result).2.1).mp hheard

/-- Under the bound, what the transcoder hears answers the fresh request. -/
theorem fresh_of_transcoderHears (h : SingleRequestSync.Good w) {request : Nat}
    {result : ZMTransportResponseStatus}
    (hb : SingleRequestSync.Bounded w (.complete request result))
    (hheard : transcoderHears w request result = true) :
    ∃ r ∈ w.inFlight, r.request = request ∧ r.epoch = w.resets ∧
      (result = .success ∨ result = .permanentError ∨ result = .expired) := by
  obtain ⟨r, hr, hreq, hvalid, hclass⟩ := of_transcoderHears hheard
  exact ⟨r, hr, hreq, (h.valid_iff_fresh hr (hb r hr hreq)).mp hvalid, hclass⟩

/-- After `readyForNextRequest` nothing in flight is fresh. -/
theorem not_fresh_readyForNextRequest (h : SingleRequestSync.Good w) :
    ∀ r ∈ (w.step .readyForNextRequest).inFlight,
      r.epoch ≠ (w.step .readyForNextRequest).resets := by
  intro r hr hfresh
  have hle := h.epoch_le r hr
  simp only [SingleRequestSync.World.step] at hfresh
  omega

/-- A request that is fresh after a completion was in flight and fresh
before it, and is not the request that completed. -/
theorem fresh_of_step_complete (h : SingleRequestSync.Good w) (request : Nat)
    (result : ZMTransportResponseStatus) :
    ∀ r ∈ (w.step (.complete request result)).inFlight,
      r.epoch = (w.step (.complete request result)).resets →
        r ∈ w.inFlight ∧ r.epoch = w.resets ∧ r.request ≠ request := by
  intro r hr hfresh
  simp only [SingleRequestSync.World.step] at hr hfresh
  cases hfind : w.inFlight.find? (·.request = request) with
  | none =>
    simp only [hfind] at hr hfresh
    have hne : r.request ≠ request := by
      simpa using List.find?_eq_none.mp hfind r hr
    exact ⟨hr, hfresh, hne⟩
  | some completed =>
    simp only [hfind, SingleRequestSync.World.completeRequest, List.mem_filter] at hr hfresh
    have hreq : completed.request = request := by simpa using List.find?_some hfind
    have hle := h.epoch_le r hr.1
    refine ⟨hr.1, ?_, by simpa [hreq] using hr.2⟩
    split_ifs at hfresh <;> omega

/-- A completion changes neither the count of requests issued nor the ghost
count of resets, except that a valid try-again-later resets. -/
theorem issued_step_complete (request : Nat) (result : ZMTransportResponseStatus) :
    (w.step (.complete request result)).issued = w.issued := by
  simp only [SingleRequestSync.World.step]
  split <;> rfl

end Underneath

/-! ### What one response does to the paginator -/

namespace ZMSimpleListRequestPaginator

variable (sync : ZMSimpleListRequestPaginatorSync σ π υ)

/-- The paginator skips `readyForNextRequest` only after a permanent error
whose status its transcoder parses. -/
theorem didReceiveResponse_not_ready {transcoder : σ} {p : ZMSimpleListRequestPaginator υ}
    {response : ZMTransportResponse π}
    (hnot : (p.didReceiveResponse sync transcoder response).2.2 = false) :
    response.result = .permanentError ∧
      parsesErrorResponse sync transcoder response.HTTPStatus = true := by
  unfold didReceiveResponse at hnot
  cases hresult : response.result <;> simp only [hresult] at hnot
  · cases hnot
  · cases hnot
  · cases hnot
  · cases hnot
  · split at hnot
    · exact ⟨rfl, ‹_›⟩
    · cases hnot

/-- A parsed permanent error updates the paginator from the response, as a
success does. -/
theorem didReceiveResponse_of_parsed {transcoder : σ} {p : ZMSimpleListRequestPaginator υ}
    {response : ZMTransportResponse π} (hresult : response.result = .permanentError)
    (hparsed : parsesErrorResponse sync transcoder response.HTTPStatus = true) :
    p.didReceiveResponse sync transcoder response =
      ((p.updateStateWithResponse sync transcoder response).1,
        (p.updateStateWithResponse sync transcoder response).2, false) := by
  simp [didReceiveResponse, hresult, hparsed]

@[simp] theorem pageSize_updateStateWithResponse (transcoder : σ)
    (p : ZMSimpleListRequestPaginator υ) (response : ZMTransportResponse π) :
    (p.updateStateWithResponse sync transcoder response).2.pageSize = p.pageSize := rfl

@[simp] theorem hasMoreToFetch_updateStateWithResponse (transcoder : σ)
    (p : ZMSimpleListRequestPaginator υ) (response : ZMTransportResponse π) :
    (p.updateStateWithResponse sync transcoder response).2.hasMoreToFetch =
      response.hasMore := rfl

end ZMSimpleListRequestPaginator

namespace World

variable (sync : ZMSimpleListRequestPaginatorSync σ π υ)

/-- **What a step does to the transcoder and the last UUID.**
`resetFetching` restarts from the transcoder's `startUUID`; a success, or a
permanent error whose status the transcoder parses, that the transcoder hears
moves both on by `nextUUIDFromResponse:`; every other step leaves them as they
are. -/
theorem step_cases (w : World σ υ) (e : Event π) :
    (e = .resetFetching ∧ (w.step sync e).transcoder = w.transcoder ∧
      (w.step sync e).paginator.lastUUIDOfPreviousPage =
        (match sync.startUUID with
         | some startUUID => startUUID w.transcoder
         | none => none)) ∨
    (∃ request response, e = .complete request response ∧
      transcoderHears w.sync request response.result = true ∧
      (response.result = .success ∨ (response.result = .permanentError ∧
        ZMSimpleListRequestPaginator.parsesErrorResponse sync w.transcoder
          response.HTTPStatus = true)) ∧
      (w.step sync e).transcoder = (sync.nextUUIDFromResponse w.transcoder response).1 ∧
      (w.step sync e).paginator.lastUUIDOfPreviousPage =
        (sync.nextUUIDFromResponse w.transcoder response).2) ∨
    ((w.step sync e).transcoder = w.transcoder ∧
      (w.step sync e).paginator.lastUUIDOfPreviousPage = w.paginator.lastUUIDOfPreviousPage) := by
  cases e with
  | resetFetching => exact Or.inl ⟨rfl, rfl, rfl⟩
  | nextRequest =>
    right; right
    simp only [step]
    split <;> exact ⟨rfl, rfl⟩
  | complete request response =>
    simp only [step]
    split
    · rename_i hheard
      simp only [didReceiveResponse, ZMSimpleListRequestPaginator.didReceiveResponse]
      split
      · rename_i hsuccess
        exact Or.inr (Or.inl ⟨request, response, rfl, hheard, Or.inl hsuccess, rfl, rfl⟩)
      · rename_i hpermanent
        split
        · rename_i hparsed
          exact Or.inr (Or.inl
            ⟨request, response, rfl, hheard, Or.inr ⟨hpermanent, hparsed⟩, rfl, rfl⟩)
        · exact Or.inr (Or.inr ⟨rfl, rfl⟩)
      all_goals exact Or.inr (Or.inr ⟨rfl, rfl⟩)
    · exact Or.inr (Or.inr ⟨rfl, rfl⟩)

/-- **Frame lemma.**  The transcoder's state changes only through its
`nextUUIDFromResponse:forListPaginator:`, on a response it hears. -/
theorem transcoder_step (w : World σ υ) (e : Event π) :
    (w.step sync e).transcoder = w.transcoder ∨
      ∃ request response, e = .complete request response ∧
        (w.step sync e).transcoder = (sync.nextUUIDFromResponse w.transcoder response).1 := by
  rcases step_cases sync w e with ⟨-, htranscoder, -⟩ |
    ⟨request, response, he, -, -, htranscoder, -⟩ | ⟨htranscoder, -⟩
  · exact Or.inl htranscoder
  · exact Or.inr ⟨request, response, he, htranscoder⟩
  · exact Or.inl htranscoder

/-- A parsed permanent error the transcoder hears: the paginator is updated
from the response, and the sync is left as the completion left it, without
`readyForNextRequest`. -/
theorem step_of_parsed (w : World σ υ) {request : Nat} {response : ZMTransportResponse π}
    (hheard : transcoderHears w.sync request response.result = true)
    (hresult : response.result = .permanentError)
    (hparsed : ZMSimpleListRequestPaginator.parsesErrorResponse sync w.transcoder
      response.HTTPStatus = true) :
    w.step sync (.complete request response) =
      { w with transcoder := (sync.nextUUIDFromResponse w.transcoder response).1,
               paginator := { w.paginator with
                 hasMoreToFetch := response.hasMore,
                 lastUUIDOfPreviousPage := (sync.nextUUIDFromResponse w.transcoder response).2 },
               sync := w.sync.step (.complete request response.result) } := by
  simp only [step, hheard, if_true, didReceiveResponse,
    ZMSimpleListRequestPaginator.didReceiveResponse_of_parsed sync hresult hparsed,
    Bool.false_eq_true, if_false]
  rfl

end World

/-! ### The invariant -/

/-- The side condition of the bounded runs: a request completes fewer than
`2 ^ 32` resets after it was issued. -/
def Bounded (w : World σ υ) : Event π → Prop
  | .complete request response =>
    SingleRequestSync.Bounded w.sync (.complete request response.result)
  | .resetFetching | .nextRequest => True

/-- The invariant of the bounded runs: the single request sync keeps its own,
every request handed out has its query recorded, and the fresh request in
flight, the only one whose response can still reach the transcoder, asks for
the page after `lastUUIDOfPreviousPage`. -/
structure Good (w : World σ υ) : Prop where
  sync : SingleRequestSync.Good w.sync
  requests_length : w.requests.length = w.sync.issued
  fresh_query : ∀ r ∈ w.sync.inFlight, r.epoch = w.sync.resets →
    w.requests[r.request]? =
      some { size := w.paginator.pageSize, start := w.paginator.lastUUIDOfPreviousPage }

namespace Good

variable (sync : ZMSimpleListRequestPaginatorSync σ π υ) {w : World σ υ}

theorem init (transcoder : σ) (pageSize : Nat) : Good (World.init transcoder pageSize : World σ υ) where
  sync := SingleRequestSync.Good.init
  requests_length := rfl
  fresh_query := by simp [World.init, SingleRequestSync.World.init]

/-- `resetFetching` leaves nothing fresh in flight. -/
theorem resetFetching (h : Good w) : Good (w.step sync .resetFetching) where
  sync := h.sync.step (e := .readyForNextRequest) trivial
  requests_length := h.requests_length
  fresh_query := fun r hr hfresh =>
    absurd hfresh (not_fresh_readyForNextRequest h.sync r hr)

/-- A request handed out asks for the page after `lastUUIDOfPreviousPage`. -/
theorem nextRequest (h : Good w) : Good (w.step sync .nextRequest) := by
  simp only [World.step]
  split
  · rename_i hmore
    have hrequest : w.paginator.requestForSingleRequestSync =
        some { size := w.paginator.pageSize, start := w.paginator.lastUUIDOfPreviousPage } := by
      simp [ZMSimpleListRequestPaginator.requestForSingleRequestSync, hmore]
    rw [hrequest]
    by_cases hready : w.sync.sync.currentRequest = none ∧ w.sync.sync.status = .inProgress
    · -- the sync hands out a new request; nothing else in flight is fresh
      rw [Option.isSome_some, SingleRequestSync.World.step_nextRequest_issue hready]
      have hsync := h.sync.nextRequest true
      rw [SingleRequestSync.World.step_nextRequest_issue hready] at hsync
      refine ⟨hsync, ?_, ?_⟩
      · simp [h.requests_length]
      · intro r hr hfresh
        rcases List.mem_append.mp hr with hr | hr
        · exact absurd hfresh (h.sync.not_fresh_of_current_none hready.1 hr)
        · rw [List.mem_singleton] at hr
          subst hr
          simp [h.requests_length]
    · rw [Option.isSome_some, SingleRequestSync.World.step_nextRequest_not_ready hready]
      simpa using h
  · exact h

/-- A completion: when the transcoder hears it, it answered the fresh
request, which leaves the flight; the paginator then either readies the sync
or, after a parsed permanent error, leaves nothing fresh behind. -/
theorem complete (h : Good w) {request : Nat} {response : ZMTransportResponse π}
    (hb : Bounded w (.complete request response)) :
    Good (w.step sync (.complete request response)) := by
  have hsync := h.sync.step (e := .complete request response.result) hb
  have hissued := issued_step_complete (w := w.sync) request response.result
  have hfresh_before := fresh_of_step_complete h.sync request response.result
  simp only [World.step]
  split
  · rename_i hheard
    obtain ⟨answeredRequest, hanswered, hreq, hfresh, -⟩ :=
      fresh_of_transcoderHears h.sync hb hheard
    simp only [World.didReceiveResponse]
    split
    · exact ⟨hsync.step (e := .readyForNextRequest) trivial,
        by rw [h.requests_length, ← hissued]; rfl,
        fun r hr hf => absurd hf (not_fresh_readyForNextRequest hsync r hr)⟩
    · -- the fresh request just left, and every other one in flight is stale
      refine ⟨hsync, by simp [h.requests_length, hissued], fun r hr hf => ?_⟩
      obtain ⟨hr', hf', hne⟩ := hfresh_before r hr hf
      exact absurd (hreq ▸ h.sync.fresh_unique hanswered hr' hfresh hf').symm hne
  · refine ⟨hsync, by simp [h.requests_length, hissued], fun r hr hf => ?_⟩
    obtain ⟨hr', hf', -⟩ := hfresh_before r hr hf
    exact h.fresh_query r hr' hf'

/-- **Step lemma.** -/
theorem step (h : Good w) {e : Event π} (hb : Bounded w e) : Good (w.step sync e) := by
  cases e with
  | resetFetching => exact h.resetFetching sync
  | nextRequest => exact h.nextRequest sync
  | complete request response => exact h.complete sync hb

/-- **Run lemma.**  Every bounded run from a good world stays good. -/
theorem run (h : Good w) {events : List (Event π)} (hb : Guarded (World.step sync) Bounded w events) :
    Good (StepSystem.run (World.step sync) w events) :=
  run_invariant_guarded Good (fun _ _ hs ha => hs.step sync ha) events h hb

/-- What the transcoder hears answers a request for the page after
`lastUUIDOfPreviousPage`. -/
theorem query_of_transcoderHears (h : Good w) {request : Nat} {response : ZMTransportResponse π}
    (hb : Bounded w (.complete request response))
    (hheard : transcoderHears w.sync request response.result = true) :
    w.requests[request]? =
      some { size := w.paginator.pageSize, start := w.paginator.lastUUIDOfPreviousPage } := by
  obtain ⟨r, hr, hreq, hfresh, -⟩ := fresh_of_transcoderHears h.sync hb hheard
  exact hreq ▸ h.fresh_query r hr hfresh

end Good

/-- **The transcoder hears only answers to the current page.**  In every run
of a new paginator in which each request completes fewer than `2 ^ 32` resets
after it was issued, a response that reaches the transcoder answers a request
for `pageSize` items after the paginator's current `lastUUIDOfPreviousPage`:
responses to requests from before a `resetFetching` or an earlier page are
dropped. -/
theorem listPaginator_hears_only_current_page (sync : ZMSimpleListRequestPaginatorSync σ π υ)
    (transcoder : σ) (pageSize : Nat) (events : List (Event π)) (w : World σ υ)
    (request : Nat) (response : ZMTransportResponse π)
    (hb : Guarded (World.step sync) Bounded (World.init transcoder pageSize) events)
    (hw : StepSystem.run (World.step sync) (World.init transcoder pageSize) events = w)
    (hbounded : Bounded w (.complete request response))
    (hheard : transcoderHears w.sync request response.result = true) :
    w.requests[request]? =
      some { size := w.paginator.pageSize, start := w.paginator.lastUUIDOfPreviousPage } := by
  subst hw
  exact ((Good.init transcoder pageSize).run sync hb).query_of_transcoderHears hbounded hheard

/-- The answer to the first page. -/
theorem listPaginator_hears_only_current_page_first :
    (StepSystem.run (World.step ⟨fun t (_ : ZMTransportResponse Unit) => (t, (none : Option Nat)),
        none, none⟩) (World.init () 500) [.resetFetching, .nextRequest]).requests[0]? =
      some { size := 500, start := none } :=
  listPaginator_hears_only_current_page ⟨fun t _ => (t, none), none, none⟩ () 500
    [.resetFetching, .nextRequest] _ 0 ⟨.success, 200, false, ()⟩ ⟨trivial, trivial, trivial⟩ rfl
    (by unfold Bounded SingleRequestSync.Bounded; decide) (by decide)

/-! ### Stalled after a parsed permanent error -/

/-- The sync is `Completed` and nothing in flight is fresh. -/
structure Stalled (w : World σ υ) : Prop where
  completed : w.sync.sync.status = .completed
  not_fresh : ∀ r ∈ w.sync.inFlight, r.epoch ≠ w.sync.resets

namespace Stalled

variable (sync : ZMSimpleListRequestPaginatorSync σ π υ) {w : World σ υ}

/-- A fresh permanent error whose status the transcoder parses stalls the
paginator, with `hasMoreToFetch` as the response's `has_more` says. -/
theorem of_parsed (h : Good w) {request : Nat} {response : ZMTransportResponse π}
    (hb : Bounded w (.complete request response))
    (hheard : transcoderHears w.sync request response.result = true)
    (hresult : response.result = .permanentError)
    (hparsed : ZMSimpleListRequestPaginator.parsesErrorResponse sync w.transcoder
      response.HTTPStatus = true) :
    Stalled (w.step sync (.complete request response)) ∧
      (w.step sync (.complete request response)).paginator.hasMoreToFetch = response.hasMore := by
  obtain ⟨r, hr, hreq, hfresh, -⟩ := fresh_of_transcoderHears h.sync hb hheard
  have hvalid : r.counterValueAtStart = w.sync.sync.requestUniqueCounter := by
    rw [h.sync.captured r hr, h.sync.counter, hfresh]
  have hstep : w.sync.step (.complete request response.result) =
      w.sync.completeRequest r response.result := hreq ▸ h.sync.step_complete hr _
  obtain ⟨-, -, hstatus, -⟩ := ZMSingleRequestSync.processResponse_of_eq hvalid response.result
  rw [hresult] at hstatus
  rw [World.step_of_parsed sync w hheard hresult hparsed]
  refine ⟨⟨?_, fun r' hr' hf' => ?_⟩, rfl⟩
  · rw [hstep]
    simp only [SingleRequestSync.World.completeRequest, hstatus, hresult]
  · obtain ⟨hr'', hf'', hne⟩ :=
      fresh_of_step_complete h.sync request response.result r' hr' hf'
    exact hne (hreq ▸ h.sync.fresh_unique hr hr'' hfresh hf'').symm

/-- A stalled paginator ignores every event but `resetFetching`: no request is
handed out, stale completions are dropped, and the paginator and its
transcoder stay as they are. -/
theorem step (h : Good w) (hs : Stalled w) {e : Event π} (hb : Bounded w e)
    (hreset : e ≠ .resetFetching) :
    Stalled (w.step sync e) ∧ (w.step sync e).paginator = w.paginator ∧
      (w.step sync e).transcoder = w.transcoder ∧
      (w.step sync e).sync.issued = w.sync.issued := by
  have hnotReady : ¬ (w.sync.sync.currentRequest = none ∧ w.sync.sync.status = .inProgress) :=
    fun hready => by simp [hs.completed] at hready
  cases e with
  | resetFetching => exact absurd rfl hreset
  | nextRequest =>
    have hstep : w.step sync .nextRequest = w := by
      simp only [World.step]
      split
      · simp [SingleRequestSync.World.step_nextRequest_not_ready hnotReady]
      · rfl
    rw [hstep]
    exact ⟨hs, rfl, rfl, rfl⟩
  | complete request response =>
    -- nothing fresh is in flight, so the transcoder hears nothing
    have hsilent : transcoderHears w.sync request response.result = false := by
      by_contra hheard
      obtain ⟨r, hr, -, hfresh, -⟩ :=
        fresh_of_transcoderHears h.sync hb (Bool.not_eq_false _ ▸ hheard)
      exact hs.not_fresh r hr hfresh
    have hstep : w.step sync (.complete request response) =
        { w with sync := w.sync.step (.complete request response.result) } := by
      simp [World.step, hsilent]
    rw [hstep]
    refine ⟨⟨?_, fun r hr hf => ?_⟩, rfl, rfl, issued_step_complete request _⟩
    · simp only [SingleRequestSync.World.step]
      cases hfind : w.sync.inFlight.find? (·.request = request) with
      | none => exact hs.completed
      | some r =>
        have hr : r ∈ w.sync.inFlight := List.mem_of_find?_eq_some hfind
        have hreq : r.request = request := by simpa using List.find?_some hfind
        simp only
        rw [h.sync.completeRequest_stale hr (hb r hr hreq) (hs.not_fresh r hr)]
        exact hs.completed
    · obtain ⟨hr', hf', -⟩ := fresh_of_step_complete h.sync request response.result r hr hf
      exact hs.not_fresh r hr' hf'

/-- **Run lemma.**  Along every bounded run without `resetFetching`, a stalled
paginator stays stalled, hands out no request and keeps its state and its
transcoder's. -/
theorem run (h : Good w) (hs : Stalled w) {events : List (Event π)}
    (hb : Guarded (World.step sync) Bounded w events)
    (hreset : ∀ e ∈ events, e ≠ .resetFetching) :
    Stalled (StepSystem.run (World.step sync) w events) ∧
      (StepSystem.run (World.step sync) w events).paginator = w.paginator ∧
      (StepSystem.run (World.step sync) w events).transcoder = w.transcoder ∧
      (StepSystem.run (World.step sync) w events).sync.issued = w.sync.issued := by
  induction events generalizing w with
  | nil => exact ⟨hs, rfl, rfl, rfl⟩
  | cons e events ih =>
    obtain ⟨hbe, hrest⟩ := hb
    have hreset_e := hreset e List.mem_cons_self
    obtain ⟨hs', hp, ht, hi⟩ := hs.step sync h hbe hreset_e
    obtain ⟨hs'', hp', ht', hi'⟩ := ih (h.step sync hbe) hs' hrest
      (fun e' he' => hreset e' (List.mem_cons_of_mem e he'))
    exact ⟨hs'', hp'.trans hp, ht'.trans ht, hi'.trans hi⟩

end Stalled

end ZMessaging.ListRequestPaginator
