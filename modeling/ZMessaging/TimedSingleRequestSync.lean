import ZMessaging.SingleRequestSync

/-!
# `ZMTimedSingleRequestSync`: a single request sync on a timer

`ZMTimedSingleRequestSync` is a `ZMSingleRequestSync` meant to hand out a
request at most once per `timeInterval`.  `nextRequest` returns one only while
`shouldReturnRequest` is set.  With a positive interval it clears the flag and
arms a timer through a new `ZMTimedRequestTriggerHolder`: `dispatch_after`
runs the holder's `fireTrigger` on the sync's own queue once the interval has
passed, the holder forwards to `timerDidExpire` unless it was invalidated, and
`timerDidExpire` puts a block on the context that sets the flag again and calls
`readyForNextRequest`.  `setTimeInterval:` invalidates the current holder and
opens the flag at once; `invalidate` closes it for good.

The model keeps the single request sync as the world of `SingleRequestSync`
and moves it only by that world's steps.  A holder is named by its creation
number.  The world records which holders were invalidated, the blocks waiting
on the sync's queue with the time each is due, how many `timerDidExpire`
blocks wait on the context, and a clock.

The main results:
* in every run in which `setTimeInterval:` is never called while a
  `timerDidExpire` block waits on the context, two requests handed out with
  no `setTimeInterval:` between them are at least the time interval apart
  (`timedSingleRequestSync_rate_limited`).  Its invariant, `OneTimer`, says
  that at most one timer is live or expired, and none while the flag is open;
* the proviso is needed.  `setTimeInterval:` invalidates the holder but not the
  block its trigger already queued, so from every state with such a block a
  second request follows the first at the same instant, and two timers stay
  armed (`timedSingleRequestSync_setTimeInterval_races_expiry`);
* the single request sync underneath keeps its own invariant, so the
  transcoder hears only responses to requests handed out since the latest
  expiry, `setTimeInterval:` or `readyForNextRequest`
  (`timedSingleRequestSync_hears_only_fresh`).
-/

namespace ZMessaging

open StepSystem

/-- The ivars `ZMTimedSingleRequestSync` adds to its single request sync.  A
trigger holder is named by its creation number; times are in ticks. -/
structure ZMTimedSingleRequestSync where
  internalTimeInterval : Nat
  shouldReturnRequest : Bool
  currentHolder : Option Nat
  isInvalidated : Bool
  deriving DecidableEq, Repr

namespace TimedSingleRequestSync

/-- A block `dispatch_after` put on the sync's queue: the holder whose trigger
it fires, and the time it is due. -/
structure Timer where
  holder : Nat
  due : Nat
  deriving DecidableEq, Repr

/-- The timed sync, the world of its single request sync, and its timers. -/
structure World where
  timed : ZMTimedSingleRequestSync
  single : SingleRequestSync.World
  /-- Holders created so far; the next one is named by this number. -/
  holders : Nat
  /-- Holders whose `triggerReference` `invalidate` set to nil. -/
  invalidatedHolders : List Nat
  /-- Blocks waiting on the sync's queue. -/
  timers : List Timer
  /-- Blocks `timerDidExpire` put on the context that have not run yet. -/
  expiries : Nat
  now : Nat
  deriving DecidableEq, Repr

/-- What can happen next. -/
inductive Event
  /-- Time passes. -/
  | tick (elapsed : Nat)
  | nextRequest (transcoderReturnsRequest : Bool)
  /-- The sync's queue runs the block of a holder's timer, once it is due. -/
  | fireTrigger (holder : Nat)
  /-- The context runs a block `timerDidExpire` queued. -/
  | timerDidExpire
  | setTimeInterval (timeInterval : Nat)
  | invalidate
  /-- The owning transcoder's `readyForNextRequestIfNotBusy`. -/
  | readyForNextRequestIfNotBusy
  /-- A request's completion handler runs. -/
  | complete (request : Nat) (result : ZMTransportResponseStatus)
  deriving DecidableEq, Repr

namespace World

/-- `[self.currentHolder invalidate]`; a message to nil does nothing. -/
def invalidateHolder (w : World) : Option Nat → World
  | none => w
  | some holder => { w with invalidatedHolders := holder :: w.invalidatedHolders }

/-- `setTimeInterval:`. -/
def setTimeInterval (w : World) (timeInterval : Nat) : World :=
  let w := w.invalidateHolder w.timed.currentHolder
  { w with timed := { w.timed with internalTimeInterval := timeInterval,
                                   shouldReturnRequest := true },
           single := w.single.step .readyForNextRequest }

/-- The sync as `[super initWithSingleRequestTranscoder:managedObjectContext:]`
leaves it: every ivar zero. -/
def allocated : World :=
  { timed := { internalTimeInterval := 0, shouldReturnRequest := false, currentHolder := none,
               isInvalidated := false },
    single := .init, holders := 0, invalidatedHolders := [], timers := [], expiries := 0,
    now := 0 }

/-- `initWithSingleRequestTranscoder:everyTimeInterval:managedObjectContext:`:
the interval is set through `setTimeInterval:`, then the flag is set and
`readyForNextRequest` runs once more. -/
def init (timeInterval : Nat) : World :=
  let w := allocated.setTimeInterval timeInterval
  { w with timed := { w.timed with shouldReturnRequest := true },
           single := w.single.step .readyForNextRequest }

/-- The timer `nextRequest` arms: a new holder becomes current, and
`dispatch_after` schedules its trigger one interval from now. -/
def armTimer (w : World) : World :=
  { w with timed := { w.timed with shouldReturnRequest := false, currentHolder := some w.holders },
           holders := w.holders + 1,
           timers := w.timers ++ [⟨w.holders, w.now + w.timed.internalTimeInterval⟩] }

/-- `nextRequest`; the second component is the request handed out, which is
what `[super nextRequest]` returns. -/
def nextRequest (w : World) (transcoderReturnsRequest : Bool) : World × Option Nat :=
  if w.timed.shouldReturnRequest = true ∧ w.timed.isInvalidated = false then
    let w := w.invalidateHolder w.timed.currentHolder
    let w := if 0 < w.timed.internalTimeInterval then w.armTimer else w
    ({ w with single := w.single.step (.nextRequest transcoderReturnsRequest) },
      (w.single.sync.nextRequest
        (if transcoderReturnsRequest then some w.single.issued else none)).2)
  else (w, none)

/-- `fireTrigger` of a holder: it calls `timerDidExpire` only while its
`triggerReference` is set, and `timerDidExpire` puts its block on the context. -/
def fireTrigger (w : World) (holder : Nat) : World :=
  if holder ∈ w.invalidatedHolders then w else { w with expiries := w.expiries + 1 }

/-- The block `timerDidExpire` puts on the context. -/
def timerDidExpire (w : World) : World :=
  { w with timed := { w.timed with currentHolder := none, shouldReturnRequest := true },
           single := w.single.step .readyForNextRequest }

/-- `invalidate`: the holder is invalidated by `dispatch_sync` on the sync's
queue, so no trigger runs in between. -/
def invalidate (w : World) : World :=
  let w := w.invalidateHolder w.timed.currentHolder
  { w with timed := { w.timed with shouldReturnRequest := false, isInvalidated := true } }

/-- One event. -/
def step (w : World) : Event → World
  | .tick elapsed => { w with now := w.now + elapsed }
  | .nextRequest transcoderReturnsRequest => (w.nextRequest transcoderReturnsRequest).1
  | .fireTrigger holder =>
      match w.timers.find? (·.holder = holder) with
      | some timer =>
          -- `dispatch_after` runs the block once, and not before it is due
          if timer.due ≤ w.now then
            { w.fireTrigger holder with timers := w.timers.filter (·.holder ≠ holder) }
          else w
      | none => w
  | .timerDidExpire =>
      if 0 < w.expiries then { w.timerDidExpire with expiries := w.expiries - 1 } else w
  | .setTimeInterval timeInterval => w.setTimeInterval timeInterval
  | .invalidate => w.invalidate
  | .readyForNextRequestIfNotBusy =>
      { w with single := w.single.step .readyForNextRequestIfNotBusy }
  | .complete request result => { w with single := w.single.step (.complete request result) }

/-- The timers whose holder still points at the sync. -/
def liveTimers (w : World) : List Timer := w.timers.filter (·.holder ∉ w.invalidatedHolders)

end World

/-- The side condition of the rate limit: `setTimeInterval:` is called while no
`timerDidExpire` block waits on the context. -/
def SetWhileNoExpiryQueued (w : World) : Event → Prop
  | .setTimeInterval _ => w.expiries = 0
  | _ => True

/-- The side condition of the bounded runs of `SingleRequestSync`, for the
completions of the timed sync's requests. -/
def Bounded (w : World) : Event → Prop
  | .complete request result => SingleRequestSync.Bounded w.single (.complete request result)
  | _ => True

/-! ## What each operation does -/

namespace World

variable (w : World)

@[simp] theorem invalidateHolder_timed (holder : Option Nat) :
    (w.invalidateHolder holder).timed = w.timed := by cases holder <;> rfl

@[simp] theorem invalidateHolder_single (holder : Option Nat) :
    (w.invalidateHolder holder).single = w.single := by cases holder <;> rfl

@[simp] theorem invalidateHolder_holders (holder : Option Nat) :
    (w.invalidateHolder holder).holders = w.holders := by cases holder <;> rfl

@[simp] theorem invalidateHolder_timers (holder : Option Nat) :
    (w.invalidateHolder holder).timers = w.timers := by cases holder <;> rfl

@[simp] theorem invalidateHolder_expiries (holder : Option Nat) :
    (w.invalidateHolder holder).expiries = w.expiries := by cases holder <;> rfl

@[simp] theorem invalidateHolder_now (holder : Option Nat) :
    (w.invalidateHolder holder).now = w.now := by cases holder <;> rfl

theorem invalidateHolder_invalidatedHolders (holder : Option Nat) :
    (w.invalidateHolder holder).invalidatedHolders = holder.toList ++ w.invalidatedHolders := by
  cases holder <;> rfl

/-- Invalidating a holder keeps the live timers of the other holders. -/
@[simp] theorem mem_liveTimers {w : World} {t : Timer} :
    t ∈ w.liveTimers ↔ t ∈ w.timers ∧ t.holder ∉ w.invalidatedHolders := by
  simp [liveTimers]

theorem liveTimers_invalidateHolder (holder : Option Nat) :
    (w.invalidateHolder holder).liveTimers = w.liveTimers.filter (some ·.holder ≠ holder) := by
  cases holder with
  | none =>
    simp only [invalidateHolder]
    exact (List.filter_eq_self.mpr (by simp)).symm
  | some holder =>
    simp only [liveTimers, invalidateHolder, List.filter_filter]
    congr 1
    funext t
    simp

theorem liveTimers_invalidateHolder_sublist (holder : Option Nat) :
    ((w.invalidateHolder holder).liveTimers).Sublist w.liveTimers := by
  rw [liveTimers_invalidateHolder]
  exact List.filter_sublist

/-- Invalidating the current holder leaves no live timer when every live timer
is the current holder's. -/
theorem liveTimers_invalidateHolder_current
    (hcur : ∀ t ∈ w.liveTimers, w.timed.currentHolder = some t.holder) :
    (w.invalidateHolder w.timed.currentHolder).liveTimers = [] := by
  rw [liveTimers_invalidateHolder, List.filter_eq_nil_iff]
  intro t ht
  simp [hcur t ht]

@[simp] theorem armTimer_single : w.armTimer.single = w.single := rfl

@[simp] theorem armTimer_now : w.armTimer.now = w.now := rfl

@[simp] theorem armTimer_expiries : w.armTimer.expiries = w.expiries := rfl

@[simp] theorem armTimer_holders : w.armTimer.holders = w.holders + 1 := rfl

@[simp] theorem armTimer_invalidatedHolders :
    w.armTimer.invalidatedHolders = w.invalidatedHolders := rfl

@[simp] theorem armTimer_timed : w.armTimer.timed =
    { w.timed with shouldReturnRequest := false, currentHolder := some w.holders } := rfl

/-- The timer `nextRequest` arms is live when its holder was never invalidated. -/
theorem liveTimers_armTimer : w.armTimer.liveTimers =
    w.liveTimers ++ [(⟨w.holders, w.now + w.timed.internalTimeInterval⟩ : Timer)].filter
      (·.holder ∉ w.invalidatedHolders) := by
  simp only [armTimer, liveTimers, List.filter_append]
  rfl

@[simp] theorem setTimeInterval_now (timeInterval : Nat) :
    (w.setTimeInterval timeInterval).now = w.now := by simp [setTimeInterval]

@[simp] theorem setTimeInterval_expiries (timeInterval : Nat) :
    (w.setTimeInterval timeInterval).expiries = w.expiries := by simp [setTimeInterval]

@[simp] theorem setTimeInterval_holders (timeInterval : Nat) :
    (w.setTimeInterval timeInterval).holders = w.holders := by simp [setTimeInterval]

@[simp] theorem setTimeInterval_timed (timeInterval : Nat) :
    (w.setTimeInterval timeInterval).timed =
      { w.timed with internalTimeInterval := timeInterval, shouldReturnRequest := true } := by
  simp [setTimeInterval]

@[simp] theorem setTimeInterval_single (timeInterval : Nat) :
    (w.setTimeInterval timeInterval).single = w.single.step .readyForNextRequest := by
  simp [setTimeInterval]

theorem setTimeInterval_liveTimers (timeInterval : Nat) :
    (w.setTimeInterval timeInterval).liveTimers =
      (w.invalidateHolder w.timed.currentHolder).liveTimers := rfl

theorem setTimeInterval_invalidatedHolders (timeInterval : Nat) :
    (w.setTimeInterval timeInterval).invalidatedHolders =
      (w.invalidateHolder w.timed.currentHolder).invalidatedHolders := rfl

/-- A closed flag, or an invalidated sync, hands out nothing and changes nothing. -/
theorem nextRequest_of_closed {w : World}
    (hclosed : ¬ (w.timed.shouldReturnRequest = true ∧ w.timed.isInvalidated = false))
    (transcoderReturnsRequest : Bool) :
    w.nextRequest transcoderReturnsRequest = (w, none) := by
  simp only [nextRequest]
  rw [if_neg hclosed]

/-- Only an open flag on a sync that was not invalidated hands out a request. -/
theorem open_of_nextRequest {w : World} {transcoderReturnsRequest : Bool}
    (h : (w.nextRequest transcoderReturnsRequest).2 ≠ none) :
    w.timed.shouldReturnRequest = true ∧ w.timed.isInvalidated = false := by
  by_contra hclosed
  rw [nextRequest_of_closed hclosed] at h
  exact h rfl

/-- With the flag open and a positive interval, `nextRequest` invalidates the
current holder, arms a timer and steps the single request sync. -/
theorem nextRequest_of_open_pos {w : World}
    (hopen : w.timed.shouldReturnRequest = true ∧ w.timed.isInvalidated = false)
    (hpos : 0 < w.timed.internalTimeInterval) (transcoderReturnsRequest : Bool) :
    w.nextRequest transcoderReturnsRequest =
      ({ (w.invalidateHolder w.timed.currentHolder).armTimer with
          single := w.single.step (.nextRequest transcoderReturnsRequest) },
        (w.single.sync.nextRequest
          (if transcoderReturnsRequest then some w.single.issued else none)).2) := by
  simp only [nextRequest, if_pos hopen, invalidateHolder_timed, if_pos hpos, armTimer_single,
    invalidateHolder_single]

/-- With the flag open and a zero interval, `nextRequest` arms nothing. -/
theorem nextRequest_of_open_zero {w : World}
    (hopen : w.timed.shouldReturnRequest = true ∧ w.timed.isInvalidated = false)
    (hzero : ¬ 0 < w.timed.internalTimeInterval) (transcoderReturnsRequest : Bool) :
    w.nextRequest transcoderReturnsRequest =
      ({ w.invalidateHolder w.timed.currentHolder with
          single := w.single.step (.nextRequest transcoderReturnsRequest) },
        (w.single.sync.nextRequest
          (if transcoderReturnsRequest then some w.single.issued else none)).2) := by
  simp only [nextRequest, if_pos hopen, invalidateHolder_timed, if_neg hzero,
    invalidateHolder_single]

/-- With the flag open, what is handed out is what the single request sync hands out. -/
theorem nextRequest_snd_of_open {w : World}
    (hopen : w.timed.shouldReturnRequest = true ∧ w.timed.isInvalidated = false)
    (transcoderReturnsRequest : Bool) :
    (w.nextRequest transcoderReturnsRequest).2 =
      (w.single.sync.nextRequest
        (if transcoderReturnsRequest then some w.single.issued else none)).2 := by
  by_cases hpos : 0 < w.timed.internalTimeInterval
  · rw [nextRequest_of_open_pos hopen hpos]
  · rw [nextRequest_of_open_zero hopen hpos]

/-- An open sync whose single request sync is ready hands out the transcoder's
request under the next number. -/
theorem nextRequest_handed {w : World}
    (hopen : w.timed.shouldReturnRequest = true ∧ w.timed.isInvalidated = false)
    (hready : w.single.sync.currentRequest = none ∧ w.single.sync.status = .inProgress) :
    (w.nextRequest true).2 = some w.single.issued := by
  rw [nextRequest_snd_of_open hopen]
  exact ZMSingleRequestSync.nextRequest_of_ready hready _

@[simp] theorem nextRequest_now (transcoderReturnsRequest : Bool) :
    (w.nextRequest transcoderReturnsRequest).1.now = w.now := by
  by_cases hopen : w.timed.shouldReturnRequest = true ∧ w.timed.isInvalidated = false
  · by_cases hpos : 0 < w.timed.internalTimeInterval
    · rw [nextRequest_of_open_pos hopen hpos]
      simp
    · rw [nextRequest_of_open_zero hopen hpos]
      simp
  · rw [nextRequest_of_closed hopen]

@[simp] theorem nextRequest_expiries (transcoderReturnsRequest : Bool) :
    (w.nextRequest transcoderReturnsRequest).1.expiries = w.expiries := by
  by_cases hopen : w.timed.shouldReturnRequest = true ∧ w.timed.isInvalidated = false
  · by_cases hpos : 0 < w.timed.internalTimeInterval
    · rw [nextRequest_of_open_pos hopen hpos]
      simp
    · rw [nextRequest_of_open_zero hopen hpos]
      simp
  · rw [nextRequest_of_closed hopen]

@[simp] theorem step_now_timerDidExpire : (w.step .timerDidExpire).now = w.now := by
  simp only [step]
  split <;> rfl

/-- `readyForNextRequest` leaves the single request sync ready to hand out. -/
theorem ready_of_readyForNextRequest (s : SingleRequestSync.World) :
    (s.step .readyForNextRequest).sync.currentRequest = none ∧
      (s.step .readyForNextRequest).sync.status = .inProgress := by
  simp [SingleRequestSync.World.step]

end World

/-! ## What a step can do

Every event but four only shrinks the timer state: the clock does not go back,
the current holder stays, the flag and the sync's validity do not open, live
timers are only dropped and no expiry is queued.  The four are `nextRequest`
with the flag open, the trigger of a live timer that is due, an expiry that
runs, and `setTimeInterval:`. -/

/-- `w'` is `w` with at most timers dropped, the flag closed or the sync
invalidated, and time passed. -/
structure Shrinks (w w' : World) : Prop where
  now_le : w.now ≤ w'.now
  currentHolder : w'.timed.currentHolder = w.timed.currentHolder
  shouldReturnRequest : w'.timed.shouldReturnRequest = true → w.timed.shouldReturnRequest = true
  isInvalidated : w'.timed.isInvalidated = false → w.timed.isInvalidated = false
  liveTimers : w'.liveTimers.Sublist w.liveTimers
  expiries : w'.expiries = w.expiries

namespace Shrinks

/-- A step that leaves the timer state alone. -/
theorem of_eq {w w' : World} (hnow : w.now ≤ w'.now) (htimed : w'.timed = w.timed)
    (htimers : w'.timers = w.timers) (hinv : w'.invalidatedHolders = w.invalidatedHolders)
    (hexp : w'.expiries = w.expiries) : Shrinks w w' where
  now_le := hnow
  currentHolder := by rw [htimed]
  shouldReturnRequest := by rw [htimed]; exact id
  isInvalidated := by rw [htimed]; exact id
  liveTimers := by
    simp only [World.liveTimers, htimers, hinv]
    exact List.Sublist.refl _
  expiries := hexp

theorem refl (w : World) : Shrinks w w := of_eq le_rfl rfl rfl rfl rfl

/-- Dropping the timers of a holder. -/
theorem filter_timers (w : World) (holder : Nat) :
    Shrinks w { w with timers := w.timers.filter (·.holder ≠ holder) } where
  now_le := le_rfl
  currentHolder := rfl
  shouldReturnRequest := id
  isInvalidated := id
  liveTimers := by
    simp only [World.liveTimers, List.filter_filter]
    exact List.monotone_filter_right _ fun t ht => by
      simp only [Bool.and_eq_true, decide_eq_true_eq] at ht ⊢
      exact ht.1
  expiries := rfl

end Shrinks

/-- The live timer a trigger event fires, when it fires one. -/
theorem World.step_fireTrigger_live {w : World} {holder : Nat} {timer : Timer}
    (hfind : w.timers.find? (·.holder = holder) = some timer) (hdue : timer.due ≤ w.now)
    (hlive : holder ∉ w.invalidatedHolders) :
    timer ∈ w.liveTimers ∧ timer.holder = holder ∧
      w.step (.fireTrigger holder) =
        { w with expiries := w.expiries + 1,
                 timers := w.timers.filter (·.holder ≠ holder) } := by
  have hmem : timer ∈ w.timers := List.mem_of_find?_eq_some hfind
  have hholder : timer.holder = holder := by simpa using List.find?_some hfind
  refine ⟨World.mem_liveTimers.mpr ⟨hmem, hholder ▸ hlive⟩, hholder, ?_⟩
  simp [World.step, hfind, hdue, World.fireTrigger, hlive]

/-- **Inversion.**  What one event may do to the timer state. -/
theorem World.step_cases (w : World) (e : Event) :
    Shrinks w (w.step e) ∨
    (∃ transcoderReturnsRequest, e = .nextRequest transcoderReturnsRequest ∧
      w.timed.shouldReturnRequest = true ∧ w.timed.isInvalidated = false) ∨
    (∃ timer ∈ w.liveTimers, e = .fireTrigger timer.holder ∧ timer.due ≤ w.now ∧
      w.step e = { w with expiries := w.expiries + 1,
                          timers := w.timers.filter (·.holder ≠ timer.holder) }) ∨
    (e = .timerDidExpire ∧ 0 < w.expiries) ∨
    (∃ timeInterval, e = .setTimeInterval timeInterval) := by
  cases e with
  | tick elapsed => exact .inl (Shrinks.of_eq (by simp [step]) rfl rfl rfl rfl)
  | nextRequest transcoderReturnsRequest =>
    by_cases hopen : w.timed.shouldReturnRequest = true ∧ w.timed.isInvalidated = false
    · exact .inr (.inl ⟨_, rfl, hopen⟩)
    · left
      simp only [step]
      rw [World.nextRequest_of_closed hopen]
      exact Shrinks.refl w
  | fireTrigger holder =>
    cases hfind : w.timers.find? (·.holder = holder) with
    | none =>
      left
      simp only [step, hfind]
      exact Shrinks.refl w
    | some timer =>
      by_cases hdue : timer.due ≤ w.now
      · by_cases hdead : holder ∈ w.invalidatedHolders
        · -- the holder was invalidated: its trigger finds no sync
          left
          simp only [step, hfind, hdue, if_true, World.fireTrigger, hdead]
          exact Shrinks.filter_timers w holder
        · obtain ⟨hmem, hholder, hstep⟩ := World.step_fireTrigger_live hfind hdue hdead
          subst hholder
          exact .inr (.inr (.inl ⟨timer, hmem, rfl, hdue, hstep⟩))
      · left
        simp only [step, hfind, hdue, if_false]
        exact Shrinks.refl w
  | timerDidExpire =>
    by_cases hqueued : 0 < w.expiries
    · exact .inr (.inr (.inr (.inl ⟨rfl, hqueued⟩)))
    · left
      simp only [step, hqueued, if_false]
      exact Shrinks.refl w
  | setTimeInterval timeInterval => exact .inr (.inr (.inr (.inr ⟨_, rfl⟩)))
  | invalidate =>
    left
    exact
      { now_le := by simp [step, World.invalidate]
        currentHolder := by simp [step, World.invalidate]
        shouldReturnRequest := by simp [step, World.invalidate]
        isInvalidated := by simp [step, World.invalidate]
        liveTimers := World.liveTimers_invalidateHolder_sublist w _
        expiries := by simp [step, World.invalidate] }
  | readyForNextRequestIfNotBusy => exact .inl (Shrinks.of_eq le_rfl rfl rfl rfl rfl)
  | complete request result => exact .inl (Shrinks.of_eq le_rfl rfl rfl rfl rfl)

/-! ## At most one timer -/

/-- At most one timer is live or has expired into a queued block; a live timer
is the current holder's; and while the flag is open there is none. -/
structure OneTimer (w : World) : Prop where
  live_current : ∀ t ∈ w.liveTimers, w.timed.currentHolder = some t.holder
  pending_le_one : w.liveTimers.length + w.expiries ≤ 1
  idle_of_open : w.timed.shouldReturnRequest = true → w.timed.isInvalidated = false →
    w.liveTimers = [] ∧ w.expiries = 0

namespace OneTimer

variable {w : World}

/-- A world with no live timer, at most one queued expiry, and none while the
flag is open. -/
theorem of_nil (hnil : w.liveTimers = []) (hexp : w.expiries ≤ 1)
    (hidle : w.timed.shouldReturnRequest = true → w.timed.isInvalidated = false →
      w.expiries = 0) :
    OneTimer w where
  live_current t ht := by simp [hnil] at ht
  pending_le_one := by simp [hnil, hexp]
  idle_of_open hopen hvalid := ⟨hnil, hidle hopen hvalid⟩

theorem init (timeInterval : Nat) : OneTimer (World.init timeInterval) :=
  of_nil (by simp [World.init, World.setTimeInterval, World.allocated, World.liveTimers])
    (by simp [World.init, World.setTimeInterval, World.allocated])
    (fun _ _ => by simp [World.init, World.setTimeInterval, World.allocated])

theorem of_shrinks (h : OneTimer w) {w' : World} (hs : Shrinks w w') : OneTimer w' where
  live_current t ht := hs.currentHolder ▸ h.live_current t (hs.liveTimers.subset ht)
  pending_le_one := by
    have := hs.liveTimers.length_le
    have := h.pending_le_one
    rw [hs.expiries]
    omega
  idle_of_open hopen hvalid := by
    obtain ⟨hnil, hzero⟩ := h.idle_of_open (hs.shouldReturnRequest hopen) (hs.isInvalidated hvalid)
    exact ⟨List.eq_nil_of_sublist_nil (hnil ▸ hs.liveTimers), hs.expiries.trans hzero⟩

/-- With the flag open no timer is live, not even the current holder's. -/
theorem liveTimers_invalidateHolder_of_open (h : OneTimer w)
    (hopen : w.timed.shouldReturnRequest = true ∧ w.timed.isInvalidated = false) :
    (w.invalidateHolder w.timed.currentHolder).liveTimers = [] :=
  List.eq_nil_of_sublist_nil
    ((h.idle_of_open hopen.1 hopen.2).1 ▸ World.liveTimers_invalidateHolder_sublist w _)

/-- The open flag's `nextRequest` leaves at most the timer it arms. -/
theorem nextRequest (h : OneTimer w)
    (hopen : w.timed.shouldReturnRequest = true ∧ w.timed.isInvalidated = false)
    (transcoderReturnsRequest : Bool) :
    OneTimer (w.step (.nextRequest transcoderReturnsRequest)) := by
  have hzero := (h.idle_of_open hopen.1 hopen.2).2
  have hdead := h.liveTimers_invalidateHolder_of_open hopen
  by_cases hpos : 0 < w.timed.internalTimeInterval
  · -- the flag closes, and the only live timer is the one just armed
    have harmed : (w.step (.nextRequest transcoderReturnsRequest)).liveTimers.Sublist
        [⟨w.holders, w.now + w.timed.internalTimeInterval⟩] := by
      simp only [World.step, World.nextRequest_of_open_pos hopen hpos]
      show ((w.invalidateHolder w.timed.currentHolder).armTimer.liveTimers).Sublist _
      rw [World.liveTimers_armTimer, hdead, List.nil_append, World.invalidateHolder_holders,
        World.invalidateHolder_now, World.invalidateHolder_timed]
      exact List.filter_sublist
    have hcur : (w.step (.nextRequest transcoderReturnsRequest)).timed.currentHolder =
        some w.holders := by
      simp [World.step, World.nextRequest_of_open_pos hopen hpos]
    have hclosed : (w.step (.nextRequest transcoderReturnsRequest)).timed.shouldReturnRequest =
        false := by
      simp [World.step, World.nextRequest_of_open_pos hopen hpos]
    have hexp : (w.step (.nextRequest transcoderReturnsRequest)).expiries = 0 := by
      simp [World.step, World.nextRequest_of_open_pos hopen hpos, hzero]
    refine ⟨fun t ht => ?_, ?_, fun hopen' _ => absurd hopen' (by simp [hclosed])⟩
    · have := harmed.subset ht
      rw [List.mem_singleton] at this
      rw [hcur, this]
    · have := harmed.length_le
      rw [List.length_singleton] at this
      omega
  · apply of_nil
    · simp only [World.step, World.nextRequest_of_open_zero hopen hpos]
      exact hdead
    · simp [World.step, World.nextRequest_of_open_zero hopen hpos, hzero]
    · intro _ _
      simp [World.step, World.nextRequest_of_open_zero hopen hpos, hzero]

/-- The trigger of the live timer turns it into the one queued expiry. -/
theorem fireTrigger (h : OneTimer w) {timer : Timer} (hlive : timer ∈ w.liveTimers) :
    OneTimer { w with expiries := w.expiries + 1,
                      timers := w.timers.filter (·.holder ≠ timer.holder) } := by
  have hcur := h.live_current timer hlive
  -- every live timer is the current holder's, so none is left
  have hnone :
      World.liveTimers { w with timers := w.timers.filter (·.holder ≠ timer.holder) } = [] := by
    apply List.eq_nil_iff_forall_not_mem.mpr
    intro t ht
    obtain ⟨hmem, hdead⟩ := World.mem_liveTimers.mp ht
    obtain ⟨hmem, hne⟩ := List.mem_filter.mp hmem
    have := h.live_current t (World.mem_liveTimers.mpr ⟨hmem, hdead⟩)
    rw [hcur] at this
    exact of_decide_eq_true hne (Option.some.inj this).symm
  have hzero : w.expiries = 0 := by
    have := List.length_pos_of_mem hlive
    have := h.pending_le_one
    omega
  -- the flag was closed: with it open no timer would be live
  have hclosed : ¬ (w.timed.shouldReturnRequest = true ∧ w.timed.isInvalidated = false) := by
    intro hopen
    rw [(h.idle_of_open hopen.1 hopen.2).1] at hlive
    exact List.not_mem_nil hlive
  exact of_nil hnone (by simp [hzero]) fun hopen hvalid => absurd ⟨hopen, hvalid⟩ hclosed

/-- The queued expiry runs: no timer is left, and the flag opens. -/
theorem timerDidExpire (h : OneTimer w) (hqueued : 0 < w.expiries) :
    OneTimer (w.step .timerDidExpire) := by
  have hnil : w.liveTimers = [] :=
    List.eq_nil_of_length_eq_zero (by have := h.pending_le_one; omega)
  have hone : w.expiries = 1 := by have := h.pending_le_one; omega
  have hexp : (w.step .timerDidExpire).expiries = 0 := by
    simp [World.step, World.timerDidExpire, hone]
  refine of_nil ?_ (by simp [hexp]) fun _ _ => hexp
  simp only [World.step, hqueued, if_true]
  exact hnil

/-- `setTimeInterval:` with no expiry queued leaves no timer at all. -/
theorem setTimeInterval (h : OneTimer w) (hnone : w.expiries = 0) (timeInterval : Nat) :
    OneTimer (w.step (.setTimeInterval timeInterval)) := by
  have hdead : (w.setTimeInterval timeInterval).liveTimers = [] := by
    rw [World.setTimeInterval_liveTimers]
    exact World.liveTimers_invalidateHolder_current w h.live_current
  show OneTimer (w.setTimeInterval timeInterval)
  exact of_nil hdead (by simp [hnone]) fun _ _ => by simp [hnone]

/-- Every event the side condition allows keeps the invariant. -/
theorem step (h : OneTimer w) {e : Event} (hg : SetWhileNoExpiryQueued w e) :
    OneTimer (w.step e) := by
  rcases World.step_cases w e with
    hs | ⟨a, rfl, hopen⟩ | ⟨timer, hlive, rfl, -, hstep⟩ | ⟨rfl, hqueued⟩ | ⟨t, rfl⟩
  · exact h.of_shrinks hs
  · exact h.nextRequest hopen a
  · rw [hstep]
    exact h.fireTrigger hlive
  · exact h.timerDidExpire hqueued
  · exact h.setTimeInterval hg t

theorem run {timeInterval : Nat} {events : List Event}
    (hg : Guarded World.step SetWhileNoExpiryQueued (World.init timeInterval) events) :
    OneTimer (run World.step (World.init timeInterval) events) :=
  run_invariant_guarded OneTimer (fun _ _ h hg => h.step hg) events (init timeInterval) hg

end OneTimer

/-! ## The rate limit -/

/-- Until `since`, nothing can be handed out: the flag is closed, no expiry is
queued, and every live timer is due at `since` or later. -/
def Waits (since : Nat) (w : World) : Prop :=
  w.now < since →
    w.timed.shouldReturnRequest = false ∧ w.expiries = 0 ∧ ∀ t ∈ w.liveTimers, since ≤ t.due

namespace Waits

variable {since : Nat} {w : World}

/-- A request handed out from a world with one timer leaves the sync waiting
one interval. -/
theorem nextRequest (h : OneTimer w)
    (hopen : w.timed.shouldReturnRequest = true ∧ w.timed.isInvalidated = false)
    (transcoderReturnsRequest : Bool) :
    Waits (w.now + w.timed.internalTimeInterval)
      (w.step (.nextRequest transcoderReturnsRequest)) := by
  have hzero := (h.idle_of_open hopen.1 hopen.2).2
  have hdead := h.liveTimers_invalidateHolder_of_open hopen
  intro hlt
  have hnow : (w.step (.nextRequest transcoderReturnsRequest)).now = w.now :=
    World.nextRequest_now w transcoderReturnsRequest
  -- a zero interval waits for no time at all
  have hpos : 0 < w.timed.internalTimeInterval := by omega
  simp only [World.step, World.nextRequest_of_open_pos hopen hpos]
  refine ⟨by simp, by simp [hzero], fun t ht => ?_⟩
  have ht' : t ∈ (w.invalidateHolder w.timed.currentHolder).armTimer.liveTimers := ht
  rw [World.liveTimers_armTimer, hdead, List.nil_append] at ht'
  have := (List.mem_filter.mp ht').1
  rw [List.mem_singleton] at this
  subst this
  simp

/-- Every event but `setTimeInterval:` keeps the sync waiting. -/
theorem step (h : Waits since w) {e : Event} (he : ∀ t, e ≠ .setTimeInterval t) :
    Waits since (w.step e) := by
  intro hlt
  rcases World.step_cases w e with
    hs | ⟨a, rfl, hopen⟩ | ⟨timer, hlive, rfl, hdue, hstep⟩ | ⟨rfl, hqueued⟩ | ⟨t, rfl⟩
  · obtain ⟨hclosed, hzero, hdue⟩ := h (lt_of_le_of_lt hs.now_le hlt)
    refine ⟨?_, hs.expiries.trans hzero, fun t ht => hdue t (hs.liveTimers.subset ht)⟩
    cases hflag : (w.step e).timed.shouldReturnRequest with
    | false => rfl
    | true => simp [hs.shouldReturnRequest hflag] at hclosed
  · have hlt' : w.now < since := by simpa [World.step] using hlt
    rw [(h hlt').1] at hopen
    exact absurd hopen.1 (by simp)
  · -- a live timer is not due before `since`
    rw [hstep] at hlt
    have hlt' : w.now < since := hlt
    have := (h hlt').2.2 timer hlive
    omega
  · have hlt' : w.now < since := by simpa using hlt
    rw [(h hlt').2.1] at hqueued
    exact absurd hqueued (lt_irrefl 0)
  · exact absurd rfl (he t)

theorem run (h : Waits since w) :
    ∀ {events : List Event}, (∀ e ∈ events, ∀ t, e ≠ .setTimeInterval t) →
      Waits since (StepSystem.run World.step w events) := by
  intro events hevents
  induction events generalizing w with
  | nil => exact h
  | cons e events ih =>
    exact ih (h.step (hevents e List.mem_cons_self))
      (fun e' he' => hevents e' (List.mem_cons_of_mem e he'))

end Waits

/-- **The rate limit.**  In a run in which `setTimeInterval:` is never called
while a `timerDidExpire` block waits on the context, a request handed out with
no `setTimeInterval:` since the previous one comes at least the time interval
after it. -/
theorem timedSingleRequestSync_rate_limited (timeInterval : Nat) (pre mid : List Event)
    (first second : Bool)
    (hguard : Guarded World.step SetWhileNoExpiryQueued (World.init timeInterval) pre)
    (hmid : ∀ e ∈ mid, ∀ t, e ≠ .setTimeInterval t)
    (hfirst : ((run World.step (World.init timeInterval) pre).nextRequest first).2 ≠ none)
    (hsecond : ((run World.step (World.init timeInterval)
      (pre ++ .nextRequest first :: mid)).nextRequest second).2 ≠ none) :
    (run World.step (World.init timeInterval) pre).now +
        (run World.step (World.init timeInterval) pre).timed.internalTimeInterval ≤
      (run World.step (World.init timeInterval) (pre ++ .nextRequest first :: mid)).now := by
  have hone := OneTimer.run hguard
  have hwaits := (Waits.nextRequest hone (World.open_of_nextRequest hfirst) first).run hmid
  rw [run_append, run_cons] at hsecond ⊢
  -- the second request found the flag open, so the wait was over
  by_contra hlt
  have hclosed := (hwaits (Nat.lt_of_not_le hlt)).1
  have := (World.open_of_nextRequest hsecond).1
  rw [hclosed] at this
  exact absurd this (by simp)

/-- A timer of two ticks: the second request comes when it has expired. -/
theorem timedSingleRequestSync_rate_limited_two_ticks :
    (run World.step (World.init 2) []).now +
        (run World.step (World.init 2) []).timed.internalTimeInterval ≤
      (run World.step (World.init 2)
        ([] ++ .nextRequest true :: [.tick 2, .fireTrigger 0, .timerDidExpire])).now :=
  timedSingleRequestSync_rate_limited 2 [] [.tick 2, .fireTrigger 0, .timerDidExpire] true true
    trivial (by simp) (by decide) (by decide)

/-! ## The race of `setTimeInterval:` with a queued expiry -/

/-- Every holder named anywhere was created already. -/
structure HoldersCreated (w : World) : Prop where
  invalidated : ∀ holder ∈ w.invalidatedHolders, holder < w.holders
  current : ∀ holder, w.timed.currentHolder = some holder → holder < w.holders

namespace HoldersCreated

variable {w : World}

theorem invalidateHolder (h : HoldersCreated w) :
    HoldersCreated (w.invalidateHolder w.timed.currentHolder) where
  invalidated holder hmem := by
    rw [World.invalidateHolder_invalidatedHolders] at hmem
    rw [World.invalidateHolder_holders]
    rcases List.mem_append.mp hmem with hcur | hold
    · exact h.current holder (Option.mem_toList.mp hcur)
    · exact h.invalidated holder hold
  current holder hcur := by
    rw [World.invalidateHolder_holders]
    rw [World.invalidateHolder_timed] at hcur
    exact h.current holder hcur

theorem armTimer (h : HoldersCreated w) : HoldersCreated w.armTimer where
  invalidated holder hmem := Nat.lt_succ_of_lt (h.invalidated holder hmem)
  current holder hcur := by
    simp only [World.armTimer_timed, Option.some.injEq] at hcur
    simp [hcur]

/-- A new holder is never among the invalidated ones. -/
theorem not_mem_invalidated (h : HoldersCreated w) {holder : Nat} (hle : w.holders ≤ holder) :
    holder ∉ w.invalidatedHolders :=
  fun hmem => absurd (h.invalidated holder hmem) (Nat.not_lt.mpr hle)

/-- The holder `nextRequest` creates is not invalidated when it is armed. -/
theorem new_live (h : HoldersCreated w) :
    w.holders ∉ (w.invalidateHolder w.timed.currentHolder).invalidatedHolders :=
  h.invalidateHolder.not_mem_invalidated (by simp)

theorem step (h : HoldersCreated w) (e : Event) : HoldersCreated (w.step e) := by
  cases e with
  | tick elapsed => exact ⟨h.invalidated, h.current⟩
  | nextRequest transcoderReturnsRequest =>
    by_cases hopen : w.timed.shouldReturnRequest = true ∧ w.timed.isInvalidated = false
    · by_cases hpos : 0 < w.timed.internalTimeInterval
      · simp only [World.step, World.nextRequest_of_open_pos hopen hpos]
        exact ⟨h.invalidateHolder.armTimer.invalidated, h.invalidateHolder.armTimer.current⟩
      · simp only [World.step, World.nextRequest_of_open_zero hopen hpos]
        exact ⟨h.invalidateHolder.invalidated, h.invalidateHolder.current⟩
    · simp only [World.step, World.nextRequest_of_closed hopen]
      exact h
  | fireTrigger holder =>
    simp only [World.step, World.fireTrigger]
    split
    · split
      · split <;> exact ⟨h.invalidated, h.current⟩
      · exact h
    · exact h
  | timerDidExpire =>
    simp only [World.step]
    split
    · exact ⟨h.invalidated, by simp [World.timerDidExpire]⟩
    · exact h
  | setTimeInterval timeInterval =>
    exact ⟨h.invalidateHolder.invalidated, h.invalidateHolder.current⟩
  | invalidate => exact ⟨h.invalidateHolder.invalidated, h.invalidateHolder.current⟩
  | readyForNextRequestIfNotBusy => exact ⟨h.invalidated, h.current⟩
  | complete request result => exact ⟨h.invalidated, h.current⟩

theorem reachable {timeInterval : Nat} {w : World}
    (hw : Reachable World.step (World.init timeInterval) w) : HoldersCreated w :=
  Reachable.induction HoldersCreated
    ⟨by simp [World.init, World.setTimeInterval, World.allocated, World.invalidateHolder],
     by simp [World.init, World.setTimeInterval, World.allocated, World.invalidateHolder]⟩
    (fun _ e h => h.step e) hw

end HoldersCreated

namespace World

variable {w : World}

theorem step_nextRequest_of_open_pos
    (hopen : w.timed.shouldReturnRequest = true ∧ w.timed.isInvalidated = false)
    (hpos : 0 < w.timed.internalTimeInterval) (transcoderReturnsRequest : Bool) :
    w.step (.nextRequest transcoderReturnsRequest) =
      { (w.invalidateHolder w.timed.currentHolder).armTimer with
          single := w.single.step (.nextRequest transcoderReturnsRequest) } := by
  simp only [step, nextRequest_of_open_pos hopen hpos]

/-- The timer `nextRequest` arms is live beside the others when its holder is new. -/
theorem length_liveTimers_step_nextRequest
    (hopen : w.timed.shouldReturnRequest = true ∧ w.timed.isInvalidated = false)
    (hpos : 0 < w.timed.internalTimeInterval)
    (hnew : w.holders ∉ (w.invalidateHolder w.timed.currentHolder).invalidatedHolders)
    (transcoderReturnsRequest : Bool) :
    (w.step (.nextRequest transcoderReturnsRequest)).liveTimers.length =
      (w.invalidateHolder w.timed.currentHolder).liveTimers.length + 1 := by
  rw [step_nextRequest_of_open_pos hopen hpos]
  show ((w.invalidateHolder w.timed.currentHolder).armTimer.liveTimers).length = _
  rw [liveTimers_armTimer, List.length_append]
  simp [hnew]

theorem step_timerDidExpire_of_queued (hqueued : 0 < w.expiries) :
    w.step .timerDidExpire = { w.timerDidExpire with expiries := w.expiries - 1 } := by
  simp only [step, if_pos hqueued]

theorem liveTimers_step_timerDidExpire : (w.step .timerDidExpire).liveTimers = w.liveTimers := by
  simp only [step]
  split <;> rfl

end World

/-- **`setTimeInterval:` races a queued expiry.**  From every reachable state
in which a `timerDidExpire` block waits on the context, `setTimeInterval:`
with a positive interval, `nextRequest`, the expiry and `nextRequest` again
hand out two requests at the same instant with no `setTimeInterval:` between
them, and leave two timers armed. -/
theorem timedSingleRequestSync_setTimeInterval_races_expiry {timeInterval : Nat} {w : World}
    (hw : Reachable World.step (World.init timeInterval) w) (hqueued : 0 < w.expiries)
    (hvalid : w.timed.isInvalidated = false) {timeInterval' : Nat} (hpos : 0 < timeInterval') :
    ((run World.step w [.setTimeInterval timeInterval']).nextRequest true).2 ≠ none ∧
    ((run World.step w [.setTimeInterval timeInterval', .nextRequest true,
      .timerDidExpire]).nextRequest true).2 ≠ none ∧
    (run World.step w [.setTimeInterval timeInterval', .nextRequest true,
      .timerDidExpire]).now = w.now ∧
    2 ≤ (run World.step w [.setTimeInterval timeInterval', .nextRequest true, .timerDidExpire,
      .nextRequest true]).liveTimers.length := by
  -- `setTimeInterval:` opens the flag and readies the single request sync
  set S := w.step (.setTimeInterval timeInterval') with hS
  have hSopen : S.timed.shouldReturnRequest = true ∧ S.timed.isInvalidated = false := by
    simp [hS, World.step, hvalid]
  have hSpos : 0 < S.timed.internalTimeInterval := by simpa [hS, World.step] using hpos
  have hSready : S.single.sync.currentRequest = none ∧ S.single.sync.status = .inProgress := by
    simp only [hS, World.step, World.setTimeInterval_single]
    exact World.ready_of_readyForNextRequest w.single
  -- the first request arms a timer, and the expiry it did not cancel is still queued
  set B := S.step (.nextRequest true) with hB
  have hBqueued : 0 < B.expiries := by
    simpa [hB, hS, World.step] using hqueued
  -- the stale expiry opens the flag again and readies the single request sync
  set C := B.step .timerDidExpire with hC
  have hCeq : C = { B.timerDidExpire with expiries := B.expiries - 1 } :=
    World.step_timerDidExpire_of_queued hBqueued
  have hBtimed :
      B.timed = { S.timed with shouldReturnRequest := false, currentHolder := some S.holders } := by
    simp [hB, World.step_nextRequest_of_open_pos hSopen hSpos]
  have hCopen : C.timed.shouldReturnRequest = true ∧ C.timed.isInvalidated = false := by
    simp [hCeq, World.timerDidExpire, hBtimed, hSopen.2]
  have hCpos : 0 < C.timed.internalTimeInterval := by
    simpa [hCeq, World.timerDidExpire, hBtimed] using hSpos
  have hCready : C.single.sync.currentRequest = none ∧ C.single.sync.status = .inProgress := by
    rw [hCeq]
    exact World.ready_of_readyForNextRequest B.single
  have hwS : Reachable World.step (World.init timeInterval) S := hw.next _
  have hwC : Reachable World.step (World.init timeInterval) C := (hwS.next _).next _
  refine ⟨?_, ?_, ?_, ?_⟩
  · show (S.nextRequest true).2 ≠ none
    rw [World.nextRequest_handed hSopen hSready]
    exact Option.some_ne_none _
  · show (C.nextRequest true).2 ≠ none
    rw [World.nextRequest_handed hCopen hCready]
    exact Option.some_ne_none _
  · show C.now = w.now
    rw [hC, World.step_now_timerDidExpire, hB]
    show (S.nextRequest true).1.now = w.now
    rw [World.nextRequest_now, hS]
    exact World.setTimeInterval_now w timeInterval'
  · -- the timer of the first request is live beside the timer of the second
    show 2 ≤ (C.step (.nextRequest true)).liveTimers.length
    rw [World.length_liveTimers_step_nextRequest hCopen hCpos
      (HoldersCreated.reachable hwC).new_live]
    have hCcur : C.timed.currentHolder = none := by simp [hCeq, World.timerDidExpire]
    rw [hCcur]
    show 2 ≤ C.liveTimers.length + 1
    rw [hC, World.liveTimers_step_timerDidExpire, hB,
      World.length_liveTimers_step_nextRequest hSopen hSpos
        (HoldersCreated.reachable hwS).new_live]
    omega

/-- A one-tick timer that has fired: its expiry waits on the context. -/
def expiredOnce : World :=
  run World.step (World.init 1) [.nextRequest true, .tick 1, .fireTrigger 0]

/-- The race at the first expiry of a one-tick timer. -/
theorem timedSingleRequestSync_setTimeInterval_races_first_expiry :
    ((run World.step expiredOnce [.setTimeInterval 1]).nextRequest true).2 ≠ none ∧
    ((run World.step expiredOnce [.setTimeInterval 1, .nextRequest true,
      .timerDidExpire]).nextRequest true).2 ≠ none ∧
    (run World.step expiredOnce [.setTimeInterval 1, .nextRequest true, .timerDidExpire]).now =
      expiredOnce.now ∧
    2 ≤ (run World.step expiredOnce [.setTimeInterval 1, .nextRequest true, .timerDidExpire,
      .nextRequest true]).liveTimers.length :=
  timedSingleRequestSync_setTimeInterval_races_expiry ⟨_, rfl⟩ (by decide) rfl (by decide)

/-! ## The single request sync underneath -/

/-- Each event moves the single request sync by steps of its own world, so its
invariant holds along the timed sync's bounded runs. -/
theorem single_good_step {w : World} (h : SingleRequestSync.Good w.single) {e : Event}
    (hb : Bounded w e) : SingleRequestSync.Good (w.step e).single := by
  cases e with
  | tick elapsed => exact h
  | nextRequest transcoderReturnsRequest =>
    by_cases hopen : w.timed.shouldReturnRequest = true ∧ w.timed.isInvalidated = false
    · by_cases hpos : 0 < w.timed.internalTimeInterval
      · simp only [World.step, World.nextRequest_of_open_pos hopen hpos]
        exact h.nextRequest transcoderReturnsRequest
      · simp only [World.step, World.nextRequest_of_open_zero hopen hpos]
        exact h.nextRequest transcoderReturnsRequest
    · simp only [World.step, World.nextRequest_of_closed hopen]
      exact h
  | fireTrigger holder =>
    simp only [World.step, World.fireTrigger]
    split
    · split
      · split <;> exact h
      · exact h
    · exact h
  | timerDidExpire =>
    simp only [World.step]
    split
    · exact h.reset
    · exact h
  | setTimeInterval timeInterval =>
    simp only [World.step, World.setTimeInterval_single]
    exact h.reset
  | invalidate => simpa [World.step, World.invalidate] using h
  | readyForNextRequestIfNotBusy =>
    show SingleRequestSync.Good (w.single.step .readyForNextRequestIfNotBusy)
    exact h.step trivial
  | complete request result =>
    show SingleRequestSync.Good (w.single.step (.complete request result))
    exact h.step hb

/-- **What the transcoder hears.**  In every run in which each request
completes fewer than `2 ^ 32` resets after it was issued, the transcoder hears
only responses to requests handed out since the latest expiry,
`setTimeInterval:` or `readyForNextRequest`: a response slower than the timer
is dropped. -/
theorem timedSingleRequestSync_hears_only_fresh {timeInterval : Nat} {events : List Event}
    (hb : Guarded World.step Bounded (World.init timeInterval) events) :
    ∀ x ∈ (run World.step (World.init timeInterval) events).single.received,
      x.epoch = x.resets := by
  have hinit : SingleRequestSync.Good (World.init timeInterval).single :=
    SingleRequestSync.Good.init.reset.reset
  exact (run_invariant_guarded (fun w => SingleRequestSync.Good w.single)
    (fun _ _ h hb => single_good_step h hb) events hinit hb).received

/-- A request answered before its timer expires is heard, and it was fresh. -/
theorem timedSingleRequestSync_hears_only_fresh_answer :
    (run World.step (World.init 1)
        [.nextRequest true, .complete 0 .success]).single.received.map (·.epoch) =
      (run World.step (World.init 1)
        [.nextRequest true, .complete 0 .success]).single.received.map (·.resets) :=
  List.map_congr_left (timedSingleRequestSync_hears_only_fresh
    (by simp [Guarded, Bounded, SingleRequestSync.Bounded, World.step, World.init,
      World.nextRequest, World.setTimeInterval, World.allocated, World.armTimer,
      World.invalidateHolder, SingleRequestSync.World.step, SingleRequestSync.World.init,
      ZMSingleRequestSync.init, ZMSingleRequestSync.nextRequest,
      ZMSingleRequestSync.readyForNextRequest]))

end TimedSingleRequestSync

end ZMessaging
