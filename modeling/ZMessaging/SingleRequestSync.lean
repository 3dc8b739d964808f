import ZMessaging.StepSystem
import ZMessaging.TransportResponse
import Mathlib

/-!
# `ZMSingleRequestSync`: one live request, stale answers dropped

`ZMSingleRequestSync` hands out at most one request at a time for its
transcoder.  `readyForNextRequest` bumps `requestUniqueCounter`, forgets the
current request and asks for a new one; every completion handler captures the
counter at the time its request was issued and `processResponse` drops the
response when the counter has moved on since.

The counter is an `int`, so the model keeps it as an `Int32` with wrapping
increment.  A run is observed through a `World` that also records the
requests in flight (with the counter their handler captured) and, as ghost
bookkeeping, how many times `readyForNextRequest` has run: a request is
*fresh* when none has run since it was issued.

The main results: in every run in which no request completes `2 ^ 32` or
more resets after it was issued, the transcoder hears only fresh responses, a
stale completion changes nothing, a new request is handed out only while no
fresh one is in flight, and the response class decides between retrying and
`Completed` (`singleRequestSync_bounded_run`).  Without that bound the counter
wraps and a stale response reaches the transcoder
(`singleRequestSync_stale_response_after_wrap`).
-/

namespace ZMessaging

open StepSystem

/-- `ZMSingleRequestProgress`. -/
inductive ZMSingleRequestProgress
  | idle
  | inProgress
  | completed
  deriving DecidableEq, Repr

/-- The state of a `ZMSingleRequestSync`; a request object is named by its
issue number. -/
structure ZMSingleRequestSync where
  status : ZMSingleRequestProgress
  currentRequest : Option Nat
  requestUniqueCounter : Int32
  deriving DecidableEq, Repr

namespace ZMSingleRequestSync

/-- A freshly initialised sync: every ivar zero. -/
def init : ZMSingleRequestSync :=
  { status := .idle, currentRequest := none, requestUniqueCounter := 0 }

/-- `readyForNextRequest`. -/
def readyForNextRequest (s : ZMSingleRequestSync) : ZMSingleRequestSync :=
  { s with requestUniqueCounter := s.requestUniqueCounter + 1,
           currentRequest := none, status := .inProgress }

/-- `readyForNextRequestIfNotBusy`. -/
def readyForNextRequestIfNotBusy (s : ZMSingleRequestSync) : ZMSingleRequestSync :=
  if s.currentRequest = none then s.readyForNextRequest else s

/-- `nextRequest`, where `request` is what `requestForSingleRequestSync:`
returns.  The second component is the request handed to the caller. -/
def nextRequest (s : ZMSingleRequestSync) (request : Option Nat) :
    ZMSingleRequestSync × Option Nat :=
  if s.currentRequest = none ∧ s.status = .inProgress then
    ({ s with currentRequest := request,
              status := if request = none then .completed else s.status }, request)
  else (s, none)

/-- `processResponse:forRequest:counterValueAtStart:`.  The flag is `true`
when the transcoder's `didReceiveResponse:forSingleRequest:` is called. -/
def processResponse (s : ZMSingleRequestSync) (result : ZMTransportResponseStatus)
    (counterValue : Int32) : ZMSingleRequestSync × Bool :=
  if counterValue ≠ s.requestUniqueCounter then (s, false)
  else
    let s := { s with currentRequest := none }
    match result with
    | .success | .permanentError | .expired => ({ s with status := .completed }, true)
    | .tryAgainLater => (s.readyForNextRequest, false)
    | .temporaryError => ({ s with status := .inProgress }, false)

/-- `resetCompletionState`. -/
def resetCompletionState (s : ZMSingleRequestSync) : ZMSingleRequestSync :=
  if s.status = .completed then { s with status := .idle } else s

end ZMSingleRequestSync


/-! ## The 32-bit counter -/

/-- Two counts give the same `int` exactly when they agree modulo `2 ^ 32`. -/
theorem int32_ofNat_eq_iff (a b : Nat) :
    Int32.ofNat a = Int32.ofNat b ↔ a % 2 ^ 32 = b % 2 ^ 32 := by
  rw [← Int32.toBitVec_inj, Int32.toBitVec_ofNat', Int32.toBitVec_ofNat',
    ← BitVec.toNat_inj]
  simp

theorem int32_ofNat_succ (n : Nat) : Int32.ofNat n + 1 = Int32.ofNat (n + 1) := by
  rw [Int32.ofNat_add]
  rfl

/-- Fewer than `2 ^ 32` increments apart, the counter tells counts apart. -/
theorem int32_ofNat_eq_iff_of_sub_lt {a b : Nat} (hab : a ≤ b) (hlt : b - a < 2 ^ 32) :
    Int32.ofNat a = Int32.ofNat b ↔ a = b := by
  rw [int32_ofNat_eq_iff]
  constructor
  · intro h
    omega
  · intro h
    rw [h]

/-! ## One lemma per operation -/

namespace ZMSingleRequestSync

@[simp] theorem readyForNextRequest_currentRequest (s : ZMSingleRequestSync) :
    s.readyForNextRequest.currentRequest = none := rfl

@[simp] theorem readyForNextRequest_status (s : ZMSingleRequestSync) :
    s.readyForNextRequest.status = .inProgress := rfl

@[simp] theorem readyForNextRequest_requestUniqueCounter (s : ZMSingleRequestSync) :
    s.readyForNextRequest.requestUniqueCounter = s.requestUniqueCounter + 1 := rfl

/-- A response whose handler captured another counter value is dropped. -/
theorem processResponse_of_ne {s : ZMSingleRequestSync} {c : Int32}
    (h : c ≠ s.requestUniqueCounter) (result : ZMTransportResponseStatus) :
    s.processResponse result c = (s, false) := by
  simp [processResponse, h]

/-- A valid response always clears `currentRequest`; it reaches the transcoder
exactly for success, permanent error and expiry, which complete the sync, and
leaves the sync asking again after a try-again-later or temporary error. -/
theorem processResponse_of_eq {s : ZMSingleRequestSync} {c : Int32}
    (h : c = s.requestUniqueCounter) (result : ZMTransportResponseStatus) :
    (s.processResponse result c).1.currentRequest = none ∧
    ((s.processResponse result c).2 = true ↔
      result = .success ∨ result = .permanentError ∨ result = .expired) ∧
    (s.processResponse result c).1.status =
      (match result with
        | .success | .permanentError | .expired => .completed
        | .tryAgainLater | .temporaryError => .inProgress) ∧
    (s.processResponse result c).1.requestUniqueCounter =
      (if result = .tryAgainLater then s.requestUniqueCounter + 1
        else s.requestUniqueCounter) := by
  subst h
  cases result <;> simp [processResponse, readyForNextRequest]

/-- A sync waiting for a request with none outstanding hands out whatever the
transcoder returns. -/
theorem nextRequest_of_ready {s : ZMSingleRequestSync}
    (h : s.currentRequest = none ∧ s.status = .inProgress) (request : Option Nat) :
    (s.nextRequest request).2 = request := by
  simp [nextRequest, h]

theorem nextRequest_eq_of_ready {s : ZMSingleRequestSync}
    (h : s.currentRequest = none ∧ s.status = .inProgress) (request : Option Nat) :
    s.nextRequest request =
      ({ s with currentRequest := request,
                status := if request = none then .completed else s.status }, request) := by
  simp [nextRequest, h]

theorem nextRequest_eq_of_not_ready {s : ZMSingleRequestSync}
    (h : ¬ (s.currentRequest = none ∧ s.status = .inProgress)) (request : Option Nat) :
    s.nextRequest request = (s, none) := by
  simp only [nextRequest]
  rw [if_neg h]

/-- `nextRequest` hands out something only while no request is current. -/
theorem currentRequest_of_nextRequest {s : ZMSingleRequestSync} {request : Option Nat}
    (h : (s.nextRequest request).2 ≠ none) : s.currentRequest = none := by
  unfold nextRequest at h
  split at h
  · rename_i hready
    exact hready.1
  · simp at h

end ZMSingleRequestSync

namespace SingleRequestSync

/-- A request whose completion handler has not run yet. -/
structure InFlight where
  request : Nat
  /-- The counter captured by the completion handler. -/
  counterValueAtStart : Int32
  /-- Ghost: how many `readyForNextRequest` had run when it was issued. -/
  epoch : Nat
  deriving DecidableEq, Repr

/-- One call of the transcoder's `didReceiveResponse:forSingleRequest:`, with
the ghost counts of resets when the request was issued and when it answered. -/
structure Received where
  request : Nat
  epoch : Nat
  resets : Nat
  deriving DecidableEq, Repr

/-- The sync together with the requests in flight and the observations. -/
structure World where
  sync : ZMSingleRequestSync
  inFlight : List InFlight
  /-- Requests handed out so far; the next one is named by this number. -/
  issued : Nat
  /-- Ghost: runs of `readyForNextRequest` so far. -/
  resets : Nat
  received : List Received
  deriving DecidableEq, Repr

/-- What the environment can do next. -/
inductive Event
  | nextRequest (transcoderReturnsRequest : Bool)
  | readyForNextRequest
  | readyForNextRequestIfNotBusy
  | resetCompletionState
  | complete (request : Nat) (result : ZMTransportResponseStatus)
  deriving DecidableEq, Repr

namespace World

/-- Nothing issued, nothing in flight. -/
def init : World :=
  { sync := ZMSingleRequestSync.init, inFlight := [], issued := 0, resets := 0,
    received := [] }

/-- The completion handler of `r` runs with response class `result`. -/
def completeRequest (w : World) (r : InFlight) (result : ZMTransportResponseStatus) :
    World :=
  let valid := r.counterValueAtStart = w.sync.requestUniqueCounter
  let processed := w.sync.processResponse result r.counterValueAtStart
  { w with sync := processed.1,
           inFlight := w.inFlight.filter (·.request ≠ r.request),
           -- a valid try-again-later runs `readyForNextRequest`
           resets := if valid ∧ result = .tryAgainLater then w.resets + 1 else w.resets,
           received := if processed.2 then w.received ++ [⟨r.request, r.epoch, w.resets⟩]
             else w.received }

/-- One event. -/
def step (w : World) : Event → World
  | .nextRequest answer =>
      let handed := w.sync.nextRequest (if answer then some w.issued else none)
      match handed.2 with
      | none => { w with sync := handed.1 }
      | some request =>
          { w with sync := handed.1, issued := w.issued + 1,
                   inFlight := w.inFlight ++
                     [⟨request, w.sync.requestUniqueCounter, w.resets⟩] }
  | .readyForNextRequest =>
      { w with sync := w.sync.readyForNextRequest, resets := w.resets + 1 }
  | .readyForNextRequestIfNotBusy =>
      { w with sync := w.sync.readyForNextRequestIfNotBusy,
               resets := if w.sync.currentRequest = none then w.resets + 1 else w.resets }
  | .resetCompletionState => { w with sync := w.sync.resetCompletionState }
  | .complete request result =>
      match w.inFlight.find? (·.request = request) with
      | none => w
      | some r => w.completeRequest r result

end World

namespace World

variable {w : World}

/-- A ready sync hands out the transcoder's request under the next number. -/
theorem step_nextRequest_issue (hready : w.sync.currentRequest = none ∧
    w.sync.status = .inProgress) :
    w.step (.nextRequest true) =
      { w with sync := { w.sync with currentRequest := some w.issued },
               issued := w.issued + 1,
               inFlight := w.inFlight ++
                 [⟨w.issued, w.sync.requestUniqueCounter, w.resets⟩] } := by
  simp [step, ZMSingleRequestSync.nextRequest_eq_of_ready hready]

/-- A ready sync whose transcoder has nothing to send completes. -/
theorem step_nextRequest_nil (hready : w.sync.currentRequest = none ∧
    w.sync.status = .inProgress) :
    w.step (.nextRequest false) =
      { w with sync := { w.sync with status := .completed } } := by
  simp [step, ZMSingleRequestSync.nextRequest_eq_of_ready hready, hready.1]

theorem step_nextRequest_not_ready (hready : ¬ (w.sync.currentRequest = none ∧
    w.sync.status = .inProgress)) (answer : Bool) :
    w.step (.nextRequest answer) = w := by
  simp [step, ZMSingleRequestSync.nextRequest_eq_of_not_ready hready]

end World

/-- A request is fresh when no `readyForNextRequest` ran since it was issued. -/
def InFlight.Fresh (w : World) (r : InFlight) : Prop := r.epoch = w.resets

/-- The side condition of the bounded runs: a request completes fewer than
`2 ^ 32` resets after it was issued. -/
def Bounded (w : World) : Event → Prop
  | .complete request _ =>
      ∀ r ∈ w.inFlight, r.request = request → w.resets - r.epoch < 2 ^ 32
  | _ => True

/-- The invariant of the bounded runs. -/
structure Good (w : World) : Prop where
  counter : w.sync.requestUniqueCounter = Int32.ofNat w.resets
  captured : ∀ r ∈ w.inFlight, r.counterValueAtStart = Int32.ofNat r.epoch
  epoch_le : ∀ r ∈ w.inFlight, r.epoch ≤ w.resets
  request_lt : ∀ r ∈ w.inFlight, r.request < w.issued
  nodup : (w.inFlight.map (·.request)).Nodup
  /-- A fresh request in flight is the current one. -/
  current : ∀ r ∈ w.inFlight, r.epoch = w.resets → w.sync.currentRequest = some r.request
  /-- Every response the transcoder heard was fresh. -/
  received : ∀ x ∈ w.received, x.epoch = x.resets

namespace Good

theorem init : Good World.init where
  counter := rfl
  captured := by simp [World.init]
  epoch_le := by simp [World.init]
  request_lt := by simp [World.init]
  nodup := by simp [World.init]
  current := by simp [World.init]
  received := by simp [World.init]

variable {w : World}

/-- Without a current request, nothing fresh is in flight. -/
theorem not_fresh_of_current_none (h : Good w) (hnone : w.sync.currentRequest = none)
    {r : InFlight} (hr : r ∈ w.inFlight) : r.epoch ≠ w.resets := by
  intro hfresh
  have := h.current r hr hfresh
  rw [hnone] at this
  exact absurd this (by simp)

/-- Two fresh requests in flight are the same request. -/
theorem fresh_unique (h : Good w) {r r' : InFlight} (hr : r ∈ w.inFlight)
    (hr' : r' ∈ w.inFlight) (hf : r.epoch = w.resets) (hf' : r'.epoch = w.resets) :
    r.request = r'.request := by
  have h1 := h.current r hr hf
  have h2 := h.current r' hr' hf'
  rw [h1] at h2
  exact Option.some.inj h2

/-- Under the bound, the counter check of a completion is exactly freshness. -/
theorem valid_iff_fresh (h : Good w) {r : InFlight} (hr : r ∈ w.inFlight)
    (hb : w.resets - r.epoch < 2 ^ 32) :
    r.counterValueAtStart = w.sync.requestUniqueCounter ↔ r.epoch = w.resets := by
  rw [h.captured r hr, h.counter]
  exact int32_ofNat_eq_iff_of_sub_lt (h.epoch_le r hr) hb

end Good

/-! ## Every step keeps the invariant -/

namespace Good

variable {w : World}

theorem filter_request (h : Good w) (i : Nat) :
    ((w.inFlight.filter (·.request ≠ i)).map (·.request)).Nodup :=
  (List.filter_sublist.map _).nodup h.nodup

/-- A completion whose counter check fails only drops the request. -/
theorem completeRequest_stale (h : Good w) {r : InFlight} (hr : r ∈ w.inFlight)
    (hb : w.resets - r.epoch < 2 ^ 32) (hstale : r.epoch ≠ w.resets)
    (result : ZMTransportResponseStatus) :
    w.completeRequest r result =
      { w with inFlight := w.inFlight.filter (·.request ≠ r.request) } := by
  have hne : r.counterValueAtStart ≠ w.sync.requestUniqueCounter :=
    fun heq => hstale ((h.valid_iff_fresh hr hb).mp heq)
  simp [World.completeRequest, ZMSingleRequestSync.processResponse_of_ne hne, hne]

theorem completeRequest_stale_good (h : Good w) {r : InFlight} (hr : r ∈ w.inFlight)
    (hb : w.resets - r.epoch < 2 ^ 32) (hstale : r.epoch ≠ w.resets)
    (result : ZMTransportResponseStatus) : Good (w.completeRequest r result) := by
  rw [h.completeRequest_stale hr hb hstale]
  exact
    { counter := h.counter
      captured := fun r' hr' => h.captured r' (List.mem_of_mem_filter hr')
      epoch_le := fun r' hr' => h.epoch_le r' (List.mem_of_mem_filter hr')
      request_lt := fun r' hr' => h.request_lt r' (List.mem_of_mem_filter hr')
      nodup := h.filter_request r.request
      current := fun r' hr' => h.current r' (List.mem_of_mem_filter hr')
      received := h.received }

/-- A fresh completion: the request is no longer current, the counter moves
only for try-again-later, and the transcoder's answer is logged as fresh. -/
theorem completeRequest_fresh_good (h : Good w) {r : InFlight} (hr : r ∈ w.inFlight)
    (hfresh : r.epoch = w.resets) (result : ZMTransportResponseStatus) :
    Good (w.completeRequest r result) := by
  have hvalid : r.counterValueAtStart = w.sync.requestUniqueCounter := by
    rw [h.captured r hr, h.counter, hfresh]
  obtain ⟨hcur, hcalled, -, hcounter⟩ :=
    ZMSingleRequestSync.processResponse_of_eq hvalid result
  -- every other request in flight is stale: only `r` was current
  have hothers : ∀ r' ∈ w.inFlight.filter (·.request ≠ r.request), r'.epoch < w.resets := by
    intro r' hr'
    rw [List.mem_filter] at hr'
    have hle := h.epoch_le r' hr'.1
    rcases Nat.lt_or_eq_of_le hle with hlt | heq
    · exact hlt
    · have := h.fresh_unique hr hr'.1 hfresh heq
      simp only [decide_eq_true_eq] at hr'
      exact absurd this.symm hr'.2
  refine
    { counter := ?_
      captured := fun r' hr' => h.captured r' (List.mem_of_mem_filter hr')
      epoch_le := fun r' hr' => ?_
      request_lt := fun r' hr' => h.request_lt r' (List.mem_of_mem_filter hr')
      nodup := h.filter_request r.request
      current := fun r' hr' hf => ?_
      received := ?_ }
  · simp only [World.completeRequest]
    rw [hcounter]
    simp only [hvalid, true_and]
    split_ifs
    · rw [h.counter, int32_ofNat_succ]
    · exact h.counter
  · have := h.epoch_le r' (List.mem_of_mem_filter hr')
    simp only [World.completeRequest]
    split_ifs <;> omega
  · have hlt := hothers r' hr'
    simp only [World.completeRequest] at hf
    split_ifs at hf <;> omega
  · intro x hx
    simp only [World.completeRequest] at hx
    split_ifs at hx
    · rcases List.mem_append.mp hx with hx | hx
      · exact h.received x hx
      · simp only [List.mem_singleton] at hx
        subst hx
        exact hfresh
    · exact h.received x hx

end Good

namespace Good

variable {w : World}

/-- `readyForNextRequest` makes every request in flight stale. -/
theorem reset (h : Good w) :
    Good { w with sync := w.sync.readyForNextRequest, resets := w.resets + 1 } where
  counter := by
    simp only [ZMSingleRequestSync.readyForNextRequest_requestUniqueCounter]
    rw [h.counter, int32_ofNat_succ]
  captured := h.captured
  epoch_le := fun r hr => Nat.le_succ_of_le (h.epoch_le r hr)
  request_lt := h.request_lt
  nodup := h.nodup
  current := fun r hr hf => absurd hf (by have := h.epoch_le r hr; simp only; omega)
  received := h.received

theorem nextRequest (h : Good w) (answer : Bool) : Good (w.step (.nextRequest answer)) := by
  by_cases hready : w.sync.currentRequest = none ∧ w.sync.status = .inProgress
  · -- nothing fresh is in flight before a request is handed out
    have hstale : ∀ r ∈ w.inFlight, r.epoch ≠ w.resets :=
      fun _ hr => h.not_fresh_of_current_none hready.1 hr
    cases answer with
    | false =>
        rw [World.step_nextRequest_nil hready]
        exact { h with current := fun r hr hf => absurd hf (hstale r hr) }
    | true =>
        rw [World.step_nextRequest_issue hready]
        refine
          { counter := h.counter
            captured := ?_
            epoch_le := ?_
            request_lt := ?_
            nodup := ?_
            current := ?_
            received := h.received }
        · rw [List.forall_mem_append, List.forall_mem_singleton]
          exact ⟨h.captured, h.counter⟩
        · rw [List.forall_mem_append, List.forall_mem_singleton]
          exact ⟨h.epoch_le, Nat.le_refl _⟩
        · exact keys_lt_issue InFlight.request h.request_lt rfl
        · exact keys_nodup_issue InFlight.request h.request_lt h.nodup rfl
        · -- the new request is the only fresh one
          rw [List.forall_mem_append, List.forall_mem_singleton]
          exact ⟨fun r hr hf => absurd hf (hstale r hr), fun _ => rfl⟩
  · rw [World.step_nextRequest_not_ready hready]
    exact h

/-- **Step lemma.**  Every step allowed in a bounded run keeps `Good`. -/
theorem step (h : Good w) {e : Event} (hb : Bounded w e) : Good (w.step e) := by
  cases e with
  | nextRequest answer => exact h.nextRequest answer
  | readyForNextRequest => exact h.reset
  | readyForNextRequestIfNotBusy =>
      by_cases hnone : w.sync.currentRequest = none
      · have := h.reset
        simpa [World.step, ZMSingleRequestSync.readyForNextRequestIfNotBusy, hnone] using this
      · simpa [World.step, ZMSingleRequestSync.readyForNextRequestIfNotBusy, hnone] using h
  | resetCompletionState =>
      exact { h with
        counter := by
          simp only [World.step, ZMSingleRequestSync.resetCompletionState]
          split_ifs <;> exact h.counter
        current := by
          simp only [World.step, ZMSingleRequestSync.resetCompletionState]
          split_ifs <;> exact h.current }
  | complete request result =>
      simp only [World.step]
      cases hfind : w.inFlight.find? (·.request = request) with
      | none => exact h
      | some r =>
          have hr : r ∈ w.inFlight := List.mem_of_find?_eq_some hfind
          have hreq : r.request = request := by simpa using List.find?_some hfind
          by_cases hfresh : r.epoch = w.resets
          · exact h.completeRequest_fresh_good hr hfresh result
          · exact h.completeRequest_stale_good hr (hb r hr hreq) hfresh result

/-- **Run lemma.**  Every bounded run from the initial world stays `Good`. -/
theorem run {events : List Event} (hb : Guarded World.step Bounded World.init events) :
    Good (StepSystem.run World.step World.init events) :=
  run_invariant_guarded Good (fun _ _ hs ha => hs.step ha) events init hb

end Good

namespace Good

variable {w : World}

/-- Completing a request in flight runs its own completion handler. -/
theorem step_complete (h : Good w) {r : InFlight} (hr : r ∈ w.inFlight)
    (result : ZMTransportResponseStatus) :
    w.step (.complete r.request result) = w.completeRequest r result := by
  have hfind : w.inFlight.find? (·.request = r.request) = some r :=
    find?_key_eq_some h.nodup hr
  simp only [World.step, hfind]

/-- A stale completion inside the bound leaves the sync and the transcoder
alone. -/
theorem stale_complete {r : InFlight} (h : Good w) (hr : r ∈ w.inFlight)
    (hstale : r.epoch ≠ w.resets) (hb : w.resets - r.epoch < 2 ^ 32)
    (result : ZMTransportResponseStatus) :
    (w.step (.complete r.request result)).sync = w.sync ∧
      (w.step (.complete r.request result)).received = w.received := by
  rw [h.step_complete hr, h.completeRequest_stale hr hb hstale]
  exact ⟨rfl, rfl⟩

/-- A fresh completion frees the sync; retry classes make it ask the
transcoder again, the others complete it. -/
theorem fresh_complete {r : InFlight} (h : Good w) (hr : r ∈ w.inFlight)
    (hfresh : r.epoch = w.resets) (result : ZMTransportResponseStatus) :
    (w.step (.complete r.request result)).sync.currentRequest = none ∧
      ((result = .tryAgainLater ∨ result = .temporaryError) →
        ∀ request, ((w.step (.complete r.request result)).sync.nextRequest request).2 =
          request) ∧
      ((result = .success ∨ result = .permanentError ∨ result = .expired) →
        (w.step (.complete r.request result)).sync.status = .completed) := by
  have hvalid : r.counterValueAtStart = w.sync.requestUniqueCounter := by
    rw [h.captured r hr, h.counter, hfresh]
  obtain ⟨hcur, -, hstatus, -⟩ := ZMSingleRequestSync.processResponse_of_eq hvalid result
  rw [h.step_complete hr]
  refine ⟨hcur, ?_, ?_⟩
  · intro hretry request
    apply ZMSingleRequestSync.nextRequest_of_ready
    refine ⟨hcur, ?_⟩
    simp only [World.completeRequest, hstatus]
    rcases hretry with rfl | rfl <;> rfl
  · intro hdone
    simp only [World.completeRequest, hstatus]
    rcases hdone with rfl | rfl | rfl <;> rfl

end Good

/-- Stale responses are harmless in a world: (a) the transcoder has heard only
responses to fresh requests, and a stale completion (inside the bound) changes
neither the sync nor what the transcoder heard; (b) `nextRequest` hands out a
request only while no fresh request is in flight; (c) a fresh completion frees
the sync, try-again-later and temporary errors make the same request available
again, and success, permanent error and expiry complete it. -/
structure StaleSafe (w : World) : Prop where
  heard_fresh : ∀ x ∈ w.received, x.epoch = x.resets
  stale_ignored : ∀ r ∈ w.inFlight, r.epoch ≠ w.resets → w.resets - r.epoch < 2 ^ 32 →
    ∀ result, (w.step (.complete r.request result)).sync = w.sync ∧
      (w.step (.complete r.request result)).received = w.received
  handed_when_free : ∀ request, (w.sync.nextRequest request).2 ≠ none →
    ∀ r ∈ w.inFlight, r.epoch ≠ w.resets
  fresh_outcome : ∀ r ∈ w.inFlight, r.epoch = w.resets → ∀ result,
    (w.step (.complete r.request result)).sync.currentRequest = none ∧
    ((result = .tryAgainLater ∨ result = .temporaryError) →
      ∀ request, ((w.step (.complete r.request result)).sync.nextRequest request).2 =
        request) ∧
    ((result = .success ∨ result = .permanentError ∨ result = .expired) →
      (w.step (.complete r.request result)).sync.status = .completed)

/-- **Stale responses in bounded runs.**  Every world reached by a run in which
each request completes fewer than `2 ^ 32` resets after it was issued is
`StaleSafe`. -/
theorem singleRequestSync_bounded_run {events : List Event} {w : World}
    (hb : Guarded World.step Bounded World.init events)
    (hw : StepSystem.run World.step World.init events = w) : StaleSafe w := by
  have h : Good w := hw ▸ Good.run hb
  refine ⟨h.received, ?_, ?_, ?_⟩
  · intro r hr hstale hlt result
    exact h.stale_complete hr hstale hlt result
  · intro request hhand r hr
    exact h.not_fresh_of_current_none
      (ZMSingleRequestSync.currentRequest_of_nextRequest hhand) hr
  · intro r hr hfresh result
    exact h.fresh_complete hr hfresh result

/-- The bounded-run theorem at a request issued and answered successfully. -/
theorem singleRequestSync_bounded_run_issue_answer :
    Guarded World.step Bounded World.init [.nextRequest true, .complete 0 .success] ∧
      StaleSafe (StepSystem.run World.step World.init
        [.nextRequest true, .complete 0 .success]) :=
  have hb : Guarded World.step Bounded World.init
      [.nextRequest true, .complete 0 .success] := by
    simp [Guarded, Bounded, World.step, World.init, ZMSingleRequestSync.init,
      ZMSingleRequestSync.nextRequest]
  ⟨hb, singleRequestSync_bounded_run hb rfl⟩

/-- `n` resets in a row: the counter moves by `n`, modulo `2 ^ 32`, and the
requests in flight and what the transcoder heard stay as they were. -/
theorem run_replicate_readyForNextRequest (w : World) (n : Nat) :
    (StepSystem.run World.step w (List.replicate n .readyForNextRequest)).inFlight =
        w.inFlight ∧
      (StepSystem.run World.step w (List.replicate n .readyForNextRequest)).received =
        w.received ∧
      (StepSystem.run World.step w (List.replicate n .readyForNextRequest)).resets =
        w.resets + n ∧
      (StepSystem.run World.step w
        (List.replicate n .readyForNextRequest)).sync.requestUniqueCounter =
        w.sync.requestUniqueCounter + Int32.ofNat n := by
  induction n with
  | zero =>
      refine ⟨rfl, rfl, rfl, ?_⟩
      exact (Int32.add_zero _).symm
  | succ n ih =>
      obtain ⟨hin, hrec, hres, hcnt⟩ := ih
      rw [List.replicate_succ', run_concat]
      refine ⟨hin, hrec, by simp [World.step, hres]; omega, ?_⟩
      simp only [World.step, ZMSingleRequestSync.readyForNextRequest_requestUniqueCounter, hcnt]
      rw [Int32.add_assoc, int32_ofNat_succ]

/-- After one reset, request `0` is issued with counter `1` captured. -/
theorem run_reset_issue :
    StepSystem.run World.step World.init [.readyForNextRequest, .nextRequest true] =
      ⟨⟨.inProgress, some 0, 1⟩, [⟨0, 1, 1⟩], 1, 1, []⟩ := by
  decide

/-- A request issued, then `n` more resets with `n` a positive multiple of
`2 ^ 32`, then the stale request answers: its captured counter matches again
and the transcoder hears a response to a request issued before the latest
`readyForNextRequest`. -/
theorem stale_response_after_resets {n : Nat} (hn : n % 2 ^ 32 = 0) (hpos : 0 < n) :
    ∃ x ∈ (StepSystem.run World.step World.init
      ([Event.readyForNextRequest, Event.nextRequest true] ++
        List.replicate n Event.readyForNextRequest ++ [Event.complete 0 .success])).received,
      x.epoch ≠ x.resets := by
  rw [run_append, run_append, run_reset_issue]
  obtain ⟨hin, hrec, hres, hcnt⟩ :=
    run_replicate_readyForNextRequest ⟨⟨.inProgress, some 0, 1⟩, [⟨0, 1, 1⟩], 1, 1, []⟩ n
  generalize StepSystem.run World.step ⟨⟨.inProgress, some 0, 1⟩, [⟨0, 1, 1⟩], 1, 1, []⟩
    (List.replicate n .readyForNextRequest) = w at hin hrec hres hcnt ⊢
  -- `n` more resets bring the counter back to `1`
  have hwrap : Int32.ofNat n = 0 := by
    rw [show (0 : Int32) = Int32.ofNat 0 from rfl, int32_ofNat_eq_iff, hn, Nat.zero_mod]
  have hcounter : w.sync.requestUniqueCounter = 1 := by
    rw [hcnt, hwrap]
    rfl
  have hcalled := (ZMSingleRequestSync.processResponse_of_eq hcounter.symm .success).2.1
  refine ⟨⟨0, 1, w.resets⟩, ?_, ?_⟩
  · simp only [run_cons, run_nil, World.step, hin, World.completeRequest]
    simp [hrec, hcalled]
  · simp only [hres]
    omega

/-- **The counter wraps.**  With `2 ^ 32` resets between issue and answer, a
stale response reaches the transcoder. -/
theorem singleRequestSync_stale_response_after_wrap :
    ∃ x ∈ (StepSystem.run World.step World.init
      ([.readyForNextRequest, .nextRequest true] ++
        List.replicate (2 ^ 32) .readyForNextRequest ++ [.complete 0 .success])).received,
      x.epoch ≠ x.resets :=
  stale_response_after_resets (Nat.mod_self _) (Nat.two_pow_pos _)

end SingleRequestSync

end ZMessaging
