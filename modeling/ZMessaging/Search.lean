import ZMessaging.StepSystem

/-!
# Searching users and conversations (`ZMSearch`)

A started search runs three things at once: a fetch on the search context, a
request to the backend and a timeout timer. Each of them ends in a block on the
user-interface context, and each block switches on the search's state

    NotStarted → InProgress → FirstSearchDone or FirstSearchDidNotFinish → Done

The blocks run one at a time, in any order. A `World` holds the search and what
is still outstanding: the local block, the remote completion handler, the
timer, and the blocks of `remoteRequestDidNotFinish:` already queued. An event
is one of them running, so a run is an interleaving.

Main results:

* `Good.run`: the invariant that ties the state to what is outstanding holds
  in every interleaving;
* `search_delivers_once`: the result handler is called at most once, and
  exactly once, with the search `Done`, when nothing is outstanding;
  `settles`: every interleaving can be finished so that nothing is;
* `search_remote_after_timeout`: a timeout followed by the remote response,
  both before the local search is done, reaches a branch flagged as invalid;
  without remote results a second timeout does too.
-/

namespace ZMessaging.Search

open StepSystem

inductive ZMSearchState
  | notStarted
  | inProgress
  | firstSearchDone
  | firstSearchDidNotFinish
  | done
  deriving DecidableEq, Repr

/-- A search result: users among the contacts and in the directory, and group
conversations. -/
structure ZMSearchResult (υ γ : Type*) where
  usersInContacts : List υ
  usersInDirectory : List υ
  groupConversations : List γ

variable {υ γ : Type*}

/-- `combineLocalResult:withRemoteResult:`: the remote users where there is a
remote result, the local ones otherwise, and the local conversations. A
message to nil answers nil, and adding nil adds nothing. -/
def combineLocalResult (localResult remoteResult : Option (ZMSearchResult υ γ)) :
    ZMSearchResult υ γ where
  usersInContacts := (remoteResult.map (·.usersInContacts)).getD
    ((localResult.map (·.usersInContacts)).getD [])
  usersInDirectory := (remoteResult.map (·.usersInDirectory)).getD
    ((localResult.map (·.usersInDirectory)).getD [])
  groupConversations := (localResult.map (·.groupConversations)).getD []

structure ZMSearch (υ γ : Type*) where
  /-- `request.includeRemoteResults`. -/
  includeRemoteResults : Bool
  /-- Whether `resultHandler` is set. -/
  hasResultHandler : Bool
  state : ZMSearchState
  remoteSearchResult : Option (ZMSearchResult υ γ)
  localSearchResult : Option (ZMSearchResult υ γ)
  /-- The entry of `resultCache` for this search. -/
  resultCache : Option (ZMSearchResult υ γ)
  /-- What `resultHandler` has been called with, in order. -/
  resultsSent : List (ZMSearchResult υ γ)
  /-- The states reported by `VerifyString(NO, "Invalid state in ZMSearch: %u")`. -/
  invalidStates : List ZMSearchState

namespace ZMSearch

/-- `initWithRequest:context:userSession:resultCache:`. -/
def init (includeRemoteResults hasResultHandler : Bool)
    (resultCache : Option (ZMSearchResult υ γ)) : ZMSearch υ γ :=
  ⟨includeRemoteResults, hasResultHandler, .notStarted, none, none, resultCache, [], []⟩

def sendSearchResult (s : ZMSearch υ γ) (searchResult : ZMSearchResult υ γ) : ZMSearch υ γ :=
  if s.hasResultHandler then { s with resultsSent := s.resultsSent ++ [searchResult] } else s

/-- `finishSearchWithSearchResult:`; every caller passes a result, which is
cached (the timer that clears the cache again is left out). -/
def finishSearchWithSearchResult (s : ZMSearch υ γ) (searchResult : ZMSearchResult υ γ) :
    ZMSearch υ γ :=
  let s' : ZMSearch υ γ :=
    { s with
      state := .done
      remoteSearchResult := none
      localSearchResult := none
      resultCache := some searchResult }
  s'.sendSearchResult searchResult

/-- `VerifyString(NO, "Invalid state in ZMSearch: %u", self.state)`. -/
def verifyInvalidState (s : ZMSearch υ γ) : ZMSearch υ γ :=
  { s with invalidStates := s.invalidStates ++ [s.state] }

/-- The block of `handleLocalUserResults:conversationResults:`, given the result
it builds from the local users and conversations. -/
def handleLocalUserResults (s : ZMSearch υ γ) (searchResult : ZMSearchResult υ γ) :
    ZMSearch υ γ :=
  match s.state with
  | .done => s
  | .firstSearchDone =>
    s.finishSearchWithSearchResult (combineLocalResult (some searchResult) s.remoteSearchResult)
  | .firstSearchDidNotFinish => s.finishSearchWithSearchResult searchResult
  | .inProgress => { s with localSearchResult := some searchResult, state := .firstSearchDone }
  | .notStarted => s.verifyInvalidState

/-- The block that `remoteRequestDidNotFinish:` queues. -/
def remoteRequestDidNotFinishBlock (s : ZMSearch υ γ) : ZMSearch υ γ :=
  match s.state with
  | .done => s
  | .firstSearchDone =>
    -- remote first, with the timer not invalidated in time: wait for the local search
    match s.localSearchResult with
    | some localSearchResult => s.finishSearchWithSearchResult localSearchResult
    | none => s
  | .inProgress => { s with state := .firstSearchDidNotFinish }
  | .notStarted | .firstSearchDidNotFinish => s.verifyInvalidState

@[simp] theorem finishSearchWithSearchResult_state (s : ZMSearch υ γ) (r : ZMSearchResult υ γ) :
    (s.finishSearchWithSearchResult r).state = .done := by
  unfold finishSearchWithSearchResult sendSearchResult
  dsimp only
  split <;> rfl

@[simp] theorem finishSearchWithSearchResult_hasResultHandler (s : ZMSearch υ γ)
    (r : ZMSearchResult υ γ) :
    (s.finishSearchWithSearchResult r).hasResultHandler = s.hasResultHandler := by
  unfold finishSearchWithSearchResult sendSearchResult
  dsimp only
  split <;> rfl

theorem finishSearchWithSearchResult_resultsSent {s : ZMSearch υ γ}
    (h : s.hasResultHandler = true) (r : ZMSearchResult υ γ) :
    (s.finishSearchWithSearchResult r).resultsSent = s.resultsSent ++ [r] := by
  simp [finishSearchWithSearchResult, sendSearchResult, h]

@[simp] theorem verifyInvalidState_state (s : ZMSearch υ γ) :
    s.verifyInvalidState.state = s.state := rfl

@[simp] theorem verifyInvalidState_hasResultHandler (s : ZMSearch υ γ) :
    s.verifyInvalidState.hasResultHandler = s.hasResultHandler := rfl

@[simp] theorem verifyInvalidState_resultsSent (s : ZMSearch υ γ) :
    s.verifyInvalidState.resultsSent = s.resultsSent := rfl

@[simp] theorem verifyInvalidState_localSearchResult (s : ZMSearch υ γ) :
    s.verifyInvalidState.localSearchResult = s.localSearchResult := rfl

end ZMSearch

/-- A started search and what is still outstanding for it. -/
structure World (υ γ : Type*) where
  search : ZMSearch υ γ
  /-- The local search's block on the user-interface context has not run. -/
  localSearchPending : Bool
  /-- The remote request's completion handler has not run. -/
  remoteSearchPending : Bool
  /-- `timeoutTimer` is scheduled and valid. -/
  timeoutTimerValid : Bool
  /-- Blocks of `remoteRequestDidNotFinish:` queued on the user-interface context. -/
  queuedTimeouts : Nat

namespace World

/-- `remoteRequestDidNotFinish:`: it queues its block. -/
def remoteRequestDidNotFinish (w : World υ γ) : World υ γ :=
  { w with queuedTimeouts := w.queuedTimeouts + 1 }

/-- The timeout timer firing, on schedule or by `fire`: a valid timer calls
`remoteRequestDidNotFinish:` and, not repeating, is invalidated; an invalid
timer does nothing. -/
def fireTimeoutTimer (w : World υ γ) : World υ γ :=
  if w.timeoutTimerValid then { w.remoteRequestDidNotFinish with timeoutTimerValid := false }
  else w

/-- `start`: a cached result is sent at once; otherwise the local search,
the timer and the remote search are started. Without remote results the remote
call is taken to have timed out. -/
def start (s : ZMSearch υ γ) : World υ γ :=
  match s.resultCache with
  | some cached => ⟨s.sendSearchResult cached, false, false, false, 0⟩
  | none =>
    let w : World υ γ := ⟨{ s with state := .inProgress }, true, s.includeRemoteResults, true, 0⟩
    if s.includeRemoteResults then w else w.remoteRequestDidNotFinish

/-- The completion handler of the remote request; a failure fires the timer
before the switch. -/
def remoteSearchCompletion (w : World υ γ) (searchResult : ZMSearchResult υ γ)
    (success : Bool) : World υ γ :=
  let w := if success then w else w.fireTimeoutTimer
  match w.search.state with
  | .done => w
  | .firstSearchDone =>
    let combined := combineLocalResult w.search.localSearchResult (some searchResult)
    { w with search := w.search.finishSearchWithSearchResult combined }
  | .inProgress =>
    { w with
      search := { w.search with remoteSearchResult := some searchResult, state := .firstSearchDone }
      timeoutTimerValid := false }
  | .notStarted | .firstSearchDidNotFinish => { w with search := w.search.verifyInvalidState }

inductive Event (υ γ : Type*)
  /-- The local search's block runs, with the result it builds. -/
  | localSearch (searchResult : ZMSearchResult υ γ)
  /-- The remote completion handler runs, with the result parsed from the
  response and whether the response is a success. -/
  | remoteResponse (searchResult : ZMSearchResult υ γ) (success : Bool)
  /-- The timeout timer reaches its fire date. -/
  | timeoutTimerFires
  /-- A queued block of `remoteRequestDidNotFinish:` runs. -/
  | timeoutBlock

/-- Each event takes effect only while its source is outstanding. -/
def step (w : World υ γ) : Event υ γ → World υ γ
  | .localSearch searchResult =>
    if w.localSearchPending then
      { w with search := w.search.handleLocalUserResults searchResult, localSearchPending := false }
    else w
  | .remoteResponse searchResult success =>
    if w.remoteSearchPending then
      { w.remoteSearchCompletion searchResult success with remoteSearchPending := false }
    else w
  | .timeoutTimerFires => w.fireTimeoutTimer
  | .timeoutBlock =>
    if 0 < w.queuedTimeouts then
      { w with
        search := w.search.remoteRequestDidNotFinishBlock
        queuedTimeouts := w.queuedTimeouts - 1 }
    else w

/-- Nothing is outstanding any more. -/
def Settled (w : World υ γ) : Prop :=
  w.localSearchPending = false ∧ w.remoteSearchPending = false ∧ w.timeoutTimerValid = false ∧
    w.queuedTimeouts = 0

/-! ### The invariant -/

/-- What ties the state of a started search with a result handler to what is
still outstanding: a result has been sent exactly when the search is done, and
a search that is not done still has something outstanding that moves it on. -/
structure Good (w : World υ γ) : Prop where
  hasResultHandler : w.search.hasResultHandler = true
  started : w.search.state ≠ .notStarted
  resultsSent : (w.search.state = .done ∧ w.search.resultsSent.length = 1) ∨
    (w.search.state ≠ .done ∧ w.search.resultsSent = [])
  inProgress : w.search.state = .inProgress →
    w.localSearchPending = true ∧ (w.remoteSearchPending = true ∨ 0 < w.queuedTimeouts)
  firstSearchDone : w.search.state = .firstSearchDone →
    (w.search.localSearchResult.isSome ∧
      (w.remoteSearchPending = true ∨ 0 < w.queuedTimeouts ∨ w.timeoutTimerValid = true)) ∨
    w.localSearchPending = true
  firstSearchDidNotFinish : w.search.state = .firstSearchDidNotFinish →
    w.localSearchPending = true

theorem Good.resultsSent_eq_nil {w : World υ γ} (h : Good w) (hdone : w.search.state ≠ .done) :
    w.search.resultsSent = [] := by
  rcases h.resultsSent with ⟨hstate, -⟩ | ⟨-, hsent⟩
  · exact absurd hstate hdone
  · exact hsent

/-- Finishing a search that was not done leaves a good world, whatever is
still outstanding. -/
theorem Good.of_finish {w w' : World υ γ} (h : Good w) (hdone : w.search.state ≠ .done)
    (r : ZMSearchResult υ γ) (hsearch : w'.search = w.search.finishSearchWithSearchResult r) :
    Good w' := by
  have hsent := h.resultsSent_eq_nil hdone
  refine ⟨?_, ?_, .inl ⟨?_, ?_⟩, ?_, ?_, ?_⟩ <;>
    simp [hsearch, h.hasResultHandler,
      ZMSearch.finishSearchWithSearchResult_resultsSent h.hasResultHandler, hsent]

theorem Good.start (includeRemoteResults : Bool) :
    Good (World.start (ZMSearch.init includeRemoteResults true none : ZMSearch υ γ)) := by
  cases includeRemoteResults <;>
    constructor <;> simp [World.start, ZMSearch.init, remoteRequestDidNotFinish]

theorem Good.of_done {w : World υ γ} (hhandler : w.search.hasResultHandler = true)
    (hdone : w.search.state = .done) (hlength : w.search.resultsSent.length = 1) : Good w :=
  ⟨hhandler, by simp [hdone], .inl ⟨hdone, hlength⟩, by simp [hdone], by simp [hdone],
    by simp [hdone]⟩

theorem Good.length_of_done {w : World υ γ} (h : Good w) (hdone : w.search.state = .done) :
    w.search.resultsSent.length = 1 := by
  rcases h.resultsSent with ⟨-, hlength⟩ | ⟨hnot, -⟩
  · exact hlength
  · exact absurd hdone hnot

/-- **The local block.** -/
theorem Good.localSearch {w : World υ γ} (h : Good w) (r : ZMSearchResult υ γ) :
    Good (w.step (.localSearch r)) := by
  by_cases hpending : w.localSearchPending = true
  · have hstep : w.step (.localSearch r) =
        { w with search := w.search.handleLocalUserResults r, localSearchPending := false } := by
      simp [step, hpending]
    rw [hstep]
    cases hstate : w.search.state with
    | notStarted => exact absurd hstate h.started
    | inProgress =>
      -- the local result is kept; the remote response or a queued timeout finishes
      have hsent := h.resultsSent_eq_nil (by simp [hstate])
      obtain ⟨-, hnext⟩ := h.inProgress hstate
      refine ⟨?_, ?_, .inr ⟨?_, ?_⟩, ?_, ?_, ?_⟩ <;>
        simp [ZMSearch.handleLocalUserResults, hstate, h.hasResultHandler, hsent]
      rcases hnext with hremote | hqueued
      · exact .inl hremote
      · exact .inr (.inl hqueued)
    | firstSearchDone =>
      exact h.of_finish (by simp [hstate]) (combineLocalResult (some r) w.search.remoteSearchResult)
        (by simp [ZMSearch.handleLocalUserResults, hstate])
    | firstSearchDidNotFinish =>
      exact h.of_finish (by simp [hstate]) r (by simp [ZMSearch.handleLocalUserResults, hstate])
    | done =>
      exact .of_done (by simp [ZMSearch.handleLocalUserResults, hstate, h.hasResultHandler])
        (by simp [ZMSearch.handleLocalUserResults, hstate])
        (by simpa [ZMSearch.handleLocalUserResults, hstate] using h.length_of_done hstate)
  · simpa [step, hpending] using h

/-- A search waiting for its local block after a timeout. -/
theorem Good.of_firstSearchDidNotFinish {w : World υ γ}
    (hhandler : w.search.hasResultHandler = true)
    (hstate : w.search.state = .firstSearchDidNotFinish) (hsent : w.search.resultsSent = [])
    (hlocal : w.localSearchPending = true) : Good w :=
  ⟨hhandler, by simp [hstate], .inr ⟨by simp [hstate], hsent⟩, by simp [hstate], by simp [hstate],
    fun _ => hlocal⟩

/-- **The timer firing**, on schedule or by `fire`: one more block is queued. -/
theorem Good.fireTimeoutTimer {w : World υ γ} (h : Good w) : Good w.fireTimeoutTimer := by
  unfold World.fireTimeoutTimer
  split
  · refine ⟨h.hasResultHandler, h.started, h.resultsSent,
      fun hs => ⟨(h.inProgress hs).1, .inr (Nat.succ_pos _)⟩, fun hs => ?_,
      h.firstSearchDidNotFinish⟩
    rcases h.firstSearchDone hs with ⟨hsome, -⟩ | hlocal
    · exact .inl ⟨hsome, .inr (.inl (Nat.succ_pos _))⟩
    · exact .inr hlocal
  · exact h

/-- **A queued timeout block.** -/
theorem Good.timeoutBlock {w : World υ γ} (h : Good w) : Good (w.step .timeoutBlock) := by
  by_cases hqueued : 0 < w.queuedTimeouts
  · have hstep : w.step .timeoutBlock = { w with
        search := w.search.remoteRequestDidNotFinishBlock
        queuedTimeouts := w.queuedTimeouts - 1 } := by
      simp [step, hqueued]
    rw [hstep]
    cases hstate : w.search.state with
    | notStarted => exact absurd hstate h.started
    | inProgress =>
      -- the timeout comes first: wait for the local block
      exact .of_firstSearchDidNotFinish
        (by simp [ZMSearch.remoteRequestDidNotFinishBlock, hstate, h.hasResultHandler])
        (by simp [ZMSearch.remoteRequestDidNotFinishBlock, hstate])
        (by simp [ZMSearch.remoteRequestDidNotFinishBlock, hstate,
          h.resultsSent_eq_nil (by simp [hstate])])
        (h.inProgress hstate).1
    | firstSearchDone =>
      cases hlocal : w.search.localSearchResult with
      | some localSearchResult =>
        exact h.of_finish (by simp [hstate]) localSearchResult
          (by simp [ZMSearch.remoteRequestDidNotFinishBlock, hstate, hlocal])
      | none =>
        -- the remote result came first: nothing happens, the local block is still to run
        have hpending : w.localSearchPending = true := by
          simpa [hlocal] using h.firstSearchDone hstate
        refine ⟨?_, ?_, ?_, ?_, ?_, ?_⟩ <;>
          simp [ZMSearch.remoteRequestDidNotFinishBlock, hstate, hlocal, hpending,
            h.hasResultHandler, h.resultsSent_eq_nil (by simp [hstate])]
    | firstSearchDidNotFinish =>
      exact .of_firstSearchDidNotFinish
        (by simp [ZMSearch.remoteRequestDidNotFinishBlock, hstate, h.hasResultHandler])
        (by simp [ZMSearch.remoteRequestDidNotFinishBlock, hstate])
        (by simp [ZMSearch.remoteRequestDidNotFinishBlock, hstate,
          h.resultsSent_eq_nil (by simp [hstate])])
        (h.firstSearchDidNotFinish hstate)
    | done =>
      exact .of_done (by simp [ZMSearch.remoteRequestDidNotFinishBlock, hstate, h.hasResultHandler])
        (by simp [ZMSearch.remoteRequestDidNotFinishBlock, hstate])
        (by simpa [ZMSearch.remoteRequestDidNotFinishBlock, hstate] using h.length_of_done hstate)
  · simpa [step, hqueued] using h

/-- **The remote completion handler.** -/
theorem Good.remoteSearchCompletion {w : World υ γ} (h : Good w) (r : ZMSearchResult υ γ)
    (success : Bool) :
    Good { w.remoteSearchCompletion r success with remoteSearchPending := false } := by
  -- a failure fires the timer first, which keeps the invariant
  have hfired : Good (if success then w else w.fireTimeoutTimer) := by
    split
    · exact h
    · exact h.fireTimeoutTimer
  unfold World.remoteSearchCompletion
  generalize (if success then w else w.fireTimeoutTimer) = w₁ at hfired ⊢
  cases hstate : w₁.search.state with
  | notStarted => exact absurd hstate hfired.started
  | inProgress =>
    -- the remote result is kept; the local block is still to run
    refine ⟨?_, ?_, ?_, ?_, ?_, ?_⟩ <;>
      simp [hstate, hfired.hasResultHandler, hfired.resultsSent_eq_nil (by simp [hstate]),
        (hfired.inProgress hstate).1]
  | firstSearchDone =>
    exact hfired.of_finish (by simp [hstate])
      (combineLocalResult w₁.search.localSearchResult (some r)) (by simp [hstate])
  | firstSearchDidNotFinish =>
    -- the branch flagged as invalid: the state stays, waiting for the local block
    exact .of_firstSearchDidNotFinish (by simp [hstate, hfired.hasResultHandler]) (by simp [hstate])
      (by simp [hstate, hfired.resultsSent_eq_nil (by simp [hstate])])
      (by simpa [hstate] using hfired.firstSearchDidNotFinish hstate)
  | done =>
    exact .of_done (by simp [hstate, hfired.hasResultHandler]) (by simp [hstate])
      (by simpa [hstate] using hfired.length_of_done hstate)

theorem Good.step {w : World υ γ} (h : Good w) : ∀ e, Good (w.step e)
  | .localSearch r => h.localSearch r
  | .remoteResponse r success => by
    by_cases hpending : w.remoteSearchPending = true
    · simpa [World.step, hpending] using h.remoteSearchCompletion r success
    · simpa [World.step, hpending] using h
  | .timeoutTimerFires => h.fireTimeoutTimer
  | .timeoutBlock => h.timeoutBlock

/-- **The invariant holds in every interleaving.** -/
theorem Good.run (includeRemoteResults : Bool) (events : List (Event υ γ)) :
    Good (StepSystem.run World.step
      (World.start (ZMSearch.init includeRemoteResults true none)) events) :=
  run_invariant Good (fun _ e h => h.step e) events (Good.start includeRemoteResults)

/-- With nothing outstanding, a good search is done and has sent one result. -/
theorem Good.done_of_settled {w : World υ γ} (h : Good w) (hsettled : w.Settled) :
    w.search.state = .done ∧ w.search.resultsSent.length = 1 := by
  obtain ⟨hlocal, hremote, htimer, hqueued⟩ := hsettled
  cases hstate : w.search.state with
  | notStarted => exact absurd hstate h.started
  | inProgress => simpa [hlocal] using (h.inProgress hstate).1
  | firstSearchDone => simpa [hlocal, hremote, htimer, hqueued] using h.firstSearchDone hstate
  | firstSearchDidNotFinish => simpa [hlocal] using h.firstSearchDidNotFinish hstate
  | done => exact ⟨rfl, h.length_of_done hstate⟩

/-! ### Every interleaving can be finished -/

theorem step_localSearch (w : World υ γ) (r : ZMSearchResult υ γ) :
    (w.step (.localSearch r)).localSearchPending = false ∧
      (w.step (.localSearch r)).queuedTimeouts = w.queuedTimeouts := by
  simp only [World.step]
  split <;> simp_all

@[simp] theorem step_timeoutTimerFires (w : World υ γ) :
    w.step .timeoutTimerFires = w.fireTimeoutTimer := rfl

@[simp] theorem fireTimeoutTimer_localSearchPending (w : World υ γ) :
    w.fireTimeoutTimer.localSearchPending = w.localSearchPending := by
  unfold World.fireTimeoutTimer
  split <;> rfl

@[simp] theorem fireTimeoutTimer_remoteSearchPending (w : World υ γ) :
    w.fireTimeoutTimer.remoteSearchPending = w.remoteSearchPending := by
  unfold World.fireTimeoutTimer
  split <;> rfl

@[simp] theorem fireTimeoutTimer_timeoutTimerValid (w : World υ γ) :
    w.fireTimeoutTimer.timeoutTimerValid = false := by
  unfold World.fireTimeoutTimer
  split
  · rfl
  · simp_all

theorem fireTimeoutTimer_queuedTimeouts_le (w : World υ γ) :
    w.fireTimeoutTimer.queuedTimeouts ≤ w.queuedTimeouts + 1 := by
  unfold World.fireTimeoutTimer
  split
  · exact Nat.le_refl _
  · exact Nat.le_succ _

@[simp] theorem remoteSearchCompletion_localSearchPending (w : World υ γ)
    (r : ZMSearchResult υ γ) (success : Bool) :
    (w.remoteSearchCompletion r success).localSearchPending = w.localSearchPending := by
  unfold World.remoteSearchCompletion
  cases success <;> dsimp only <;> split <;> simp

/-- A successful response does not fire the timer. -/
@[simp] theorem remoteSearchCompletion_queuedTimeouts (w : World υ γ) (r : ZMSearchResult υ γ) :
    (w.remoteSearchCompletion r true).queuedTimeouts = w.queuedTimeouts := by
  unfold World.remoteSearchCompletion
  dsimp only
  split <;> rfl

theorem step_remoteResponse (w : World υ γ) (r : ZMSearchResult υ γ) :
    (w.step (.remoteResponse r true)).localSearchPending = w.localSearchPending ∧
      (w.step (.remoteResponse r true)).remoteSearchPending = false ∧
      (w.step (.remoteResponse r true)).queuedTimeouts = w.queuedTimeouts := by
  simp only [World.step]
  split <;> simp_all

/-- A timeout block takes one off the queue, if there is one, and touches
nothing else that is outstanding. -/
theorem step_timeoutBlock (w : World υ γ) :
    (w.step .timeoutBlock).localSearchPending = w.localSearchPending ∧
      (w.step .timeoutBlock).remoteSearchPending = w.remoteSearchPending ∧
      (w.step .timeoutBlock).timeoutTimerValid = w.timeoutTimerValid ∧
      (w.step .timeoutBlock).queuedTimeouts = w.queuedTimeouts - 1 := by
  simp only [World.step]
  split
  · simp
  · simp only [true_and]
    omega

theorem run_timeoutBlocks (w : World υ γ) (k : Nat) :
    let w' := StepSystem.run World.step w (List.replicate k .timeoutBlock)
    w'.localSearchPending = w.localSearchPending ∧ w'.remoteSearchPending = w.remoteSearchPending ∧
      w'.timeoutTimerValid = w.timeoutTimerValid ∧ w'.queuedTimeouts = w.queuedTimeouts - k := by
  induction k generalizing w with
  | zero => simp
  | succ k ih =>
    obtain ⟨hlocal, hremote, htimer, hqueued⟩ := ih (w.step .timeoutBlock)
    obtain ⟨hlocal₁, hremote₁, htimer₁, hqueued₁⟩ := step_timeoutBlock w
    rw [List.replicate_succ, run_cons]
    exact ⟨hlocal.trans hlocal₁, hremote.trans hremote₁, htimer.trans htimer₁, by omega⟩

/-- From any world, the local block, a successful response, the timer and
then enough timeout blocks leave nothing outstanding. -/
theorem settles (w : World υ γ) (r : ZMSearchResult υ γ) :
    (StepSystem.run World.step w ([.localSearch r, .remoteResponse r true, .timeoutTimerFires] ++
      List.replicate (w.queuedTimeouts + 1) .timeoutBlock)).Settled := by
  rw [run_append]
  set w₃ := StepSystem.run World.step w [.localSearch r, .remoteResponse r true, .timeoutTimerFires]
  have hlocal : w₃.localSearchPending = false := by
    simp only [w₃, run_cons, run_nil, step_timeoutTimerFires, fireTimeoutTimer_localSearchPending,
      (step_remoteResponse _ r).1, (step_localSearch w r).1]
  have hremote : w₃.remoteSearchPending = false := by
    simp only [w₃, run_cons, run_nil, step_timeoutTimerFires, fireTimeoutTimer_remoteSearchPending,
      (step_remoteResponse _ r).2.1]
  have htimer : w₃.timeoutTimerValid = false := by
    simp only [w₃, run_cons, run_nil, step_timeoutTimerFires, fireTimeoutTimer_timeoutTimerValid]
  -- the response succeeds, so only the timer can have queued a block
  have hqueued : w₃.queuedTimeouts ≤ w.queuedTimeouts + 1 := by
    have hfire := fireTimeoutTimer_queuedTimeouts_le
      ((w.step (.localSearch r)).step (.remoteResponse r true))
    rwa [(step_remoteResponse _ r).2.2, (step_localSearch w r).2] at hfire
  obtain ⟨hlocal', hremote', htimer', hqueued'⟩ := run_timeoutBlocks w₃ (w.queuedTimeouts + 1)
  exact ⟨hlocal'.trans hlocal, hremote'.trans hremote, htimer'.trans htimer, by omega⟩

/-- A remote response that finds the search timed out reaches the branch
flagged as invalid and is dropped. -/
theorem remoteSearchCompletion_of_firstSearchDidNotFinish {w : World υ γ}
    (hstate : w.search.state = .firstSearchDidNotFinish) (r : ZMSearchResult υ γ) :
    (w.remoteSearchCompletion r true).search =
      { w.search with invalidStates := w.search.invalidStates ++ [.firstSearchDidNotFinish] } := by
  simp [World.remoteSearchCompletion, hstate, ZMSearch.verifyInvalidState]

end World

open World in
/-- In every interleaving of a started search with a result handler, the
handler is called at most once; once nothing is outstanding it has been called
exactly once and the search is done. -/
theorem search_delivers_once (includeRemoteResults : Bool) (events : List (Event υ γ)) :
    let w := StepSystem.run World.step
      (World.start (ZMSearch.init includeRemoteResults true none)) events
    w.search.resultsSent.length ≤ 1 ∧
      (w.Settled → w.search.state = .done ∧ w.search.resultsSent.length = 1) := by
  intro w
  have h : Good w := Good.run includeRemoteResults events
  refine ⟨?_, h.done_of_settled⟩
  rcases h.resultsSent with ⟨-, hlength⟩ | ⟨-, hsent⟩
  · exact Nat.le_of_eq hlength
  · simp [hsent]

open World in
/-- The timer fires before the local search and the remote search are done;
then the remote response arrives before the local block runs. Without remote
results, the scheduled timer fires once more before the local block runs.
Either way the search passes through a branch flagged as invalid; with remote
results the remote users are dropped and only the local result is sent. -/
theorem search_remote_after_timeout (localResult remoteResult : ZMSearchResult υ γ) :
    let w := StepSystem.run World.step (World.start (ZMSearch.init true true none))
      [.timeoutTimerFires, .timeoutBlock, .remoteResponse remoteResult true,
        .localSearch localResult]
    let w' := StepSystem.run World.step (World.start (ZMSearch.init false true none))
      [.timeoutBlock, .timeoutTimerFires, .timeoutBlock, .localSearch localResult]
    w.search.invalidStates = [.firstSearchDidNotFinish] ∧ w.search.state = .done ∧
      w.search.resultsSent = [localResult] ∧
      w'.search.invalidStates = [.firstSearchDidNotFinish] ∧ w'.search.state = .done := by
  exact ⟨rfl, rfl, rfl, rfl, rfl⟩

end ZMessaging.Search
