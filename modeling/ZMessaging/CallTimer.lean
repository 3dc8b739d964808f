import ZMessaging.StepSystem
import Mathlib.Data.List.Perm.Basic

/-!
# `ZMCallTimer`: the timeout of unanswered calls

A `ZMCallTimer` keeps, per conversation, the `ZMTimer` that ends a call nobody
answers.  `addAndStartTimer:` arms one for a conversation that has none and
whose call has not timed out, `resetTimer:` cancels it, and `tearDown` cancels
them all.  When a timer fires, `timerDidFire:` should remove the conversation's
entry and tell the conversation's voice channel.

The loop of `timerDidFire:` walks `conversationIDToTimerMap` in the
dictionary's enumeration order and returns as soon as it meets an entry
whose timer is not the one that fired; an entry whose timer is the fired one
is handled and the loop breaks.  Either way only the first entry of the
enumeration is ever looked at.  The model keeps the dictionary as the list
of its entries in enumeration order; where an insertion lands in that order
is the environment's choice.  Timers are numbered in the order they are
created, and a timer fires at most once, and never after it was cancelled.

The main results:

* firing the timer of the first entry removes exactly that entry and notifies
  its voice channel once (`timerDidFire_of_first`), firing any other timer
  changes nothing (`timerDidFire_of_not_first`);
* every run keeps the conversations of the map distinct and every armed timer
  in the map (`Good.run`);
* an entry whose timer has fired stays in the map, and its conversation is
  never notified again, until it is reset (`stale_entry_never_notified`);
  firing the timer of the second of two entries leaves exactly such an entry
  (`callTimer_second_entry_never_times_out`).
-/

namespace ZMessaging

open StepSystem

variable {γ : Type*} [DecidableEq γ]

/-- `ZMCallTimer`: the entries of `conversationIDToTimerMap` in the order the
dictionary enumerates them; a timer is the number of its `ZMTimer`. -/
structure ZMCallTimer (γ : Type*) where
  conversationIDToTimerMap : List (γ × Nat)

namespace ZMCallTimer

variable (s : ZMCallTimer γ)

/-- `conversationIDToTimerMap[conversationID]`. -/
def timerFor (conversationID : γ) : Option Nat :=
  (s.conversationIDToTimerMap.find? (·.1 = conversationID)).map (·.2)

/-- `conversationIDToTimerMap.removeValueForKey(conversationID)`. -/
def removeValueForKey (conversationID : γ) : ZMCallTimer γ :=
  ⟨s.conversationIDToTimerMap.filter (·.1 ≠ conversationID)⟩

/-- The conversations of the map. -/
def conversationIDs : List γ := s.conversationIDToTimerMap.map Prod.fst

/-- The timers of the map. -/
def timers : List Nat := s.conversationIDToTimerMap.map Prod.snd

theorem timerFor_eq_none_iff (conversationID : γ) :
    s.timerFor conversationID = none ↔ conversationID ∉ s.conversationIDs := by
  simp only [timerFor, conversationIDs, Option.map_eq_none_iff, List.find?_eq_none,
    decide_eq_true_eq, List.mem_map, not_exists, not_and]

/-- With one entry per conversation, the dictionary finds a conversation's
own entry. -/
theorem timerFor_eq_some_iff (hnodup : s.conversationIDs.Nodup) (conversationID : γ)
    (timer : Nat) :
    s.timerFor conversationID = some timer ↔
      (conversationID, timer) ∈ s.conversationIDToTimerMap := by
  constructor
  · intro h
    obtain ⟨entry, hfind, rfl⟩ := Option.map_eq_some_iff.mp h
    have hkey : entry.1 = conversationID := by simpa using List.find?_some hfind
    rw [← hkey]
    exact List.mem_of_find?_eq_some hfind
  · intro h
    have hnodup' : (s.conversationIDToTimerMap.map Prod.fst).Nodup := hnodup
    have hfind := find?_key_eq_some hnodup' h
    simp [timerFor, hfind]

theorem removeValueForKey_sublist (conversationID : γ) :
    List.Sublist (s.removeValueForKey conversationID).conversationIDToTimerMap
      s.conversationIDToTimerMap :=
  List.filter_sublist

theorem mem_removeValueForKey {conversationID : γ} {entry : γ × Nat} :
    entry ∈ (s.removeValueForKey conversationID).conversationIDToTimerMap ↔
      entry ∈ s.conversationIDToTimerMap ∧ entry.1 ≠ conversationID := by
  simp [removeValueForKey]

end ZMCallTimer

/-- The call timer together with the `ZMTimer`s it created and the voice
channels it told. -/
structure CallTimerWorld (γ : Type*) where
  callTimer : ZMCallTimer γ
  /-- The timers that are scheduled: neither fired nor cancelled. -/
  armed : List Nat
  /-- The number of the next `ZMTimer` created. -/
  nextTimer : Nat
  /-- The conversations whose voice channel got `callTimerDidFire:`, in order. -/
  notified : List γ

namespace CallTimerWorld

variable (w : CallTimerWorld γ)

/-- `addAndStartTimer:` for a conversation, whether its call timed out
already, and where the new entry lands in the enumeration. -/
def addAndStartTimer (conversationID : γ) (callTimedOut : Bool) (position : Nat) :
    CallTimerWorld γ :=
  if w.callTimer.timerFor conversationID = none ∧ callTimedOut = false then
    let map := w.callTimer.conversationIDToTimerMap
    { w with
      callTimer := ⟨map.insertIdx (min position map.length) (conversationID, w.nextTimer)⟩
      armed := w.nextTimer :: w.armed
      nextTimer := w.nextTimer + 1 }
  else w

/-- `cancelAndRemoveTimer:`. -/
def cancelAndRemoveTimer (conversationID : γ) : CallTimerWorld γ :=
  { w with
    callTimer := w.callTimer.removeValueForKey conversationID
    armed :=
      match w.callTimer.timerFor conversationID with
      | some timer => w.armed.erase timer
      | none => w.armed }

/-- `resetTimer:`. -/
def resetTimer (conversationID : γ) : CallTimerWorld γ :=
  w.cancelAndRemoveTimer conversationID

/-- `tearDown`. -/
def tearDown : CallTimerWorld γ :=
  { w with
    callTimer := ⟨[]⟩
    armed := w.armed.filter (· ∉ w.callTimer.timers) }

/-- `timerDidFire:`.  The body of the loop leaves it in its first round in
both branches (`return`, or `break` after handling the entry), so only the
first entry of the enumeration matters.  `isLive` says which conversations
`objectWithID` finds and are not zombies. -/
def timerDidFire (aTimer : Nat) (isLive : γ → Bool) : CallTimerWorld γ :=
  match w.callTimer.conversationIDToTimerMap with
  | [] => w
  | (conversationID, timer) :: _ =>
    if timer ≠ aTimer then w
    else
      let w := w.cancelAndRemoveTimer conversationID
      if isLive conversationID then { w with notified := w.notified ++ [conversationID] } else w

/-- What happens to a call timer. -/
inductive Event (γ : Type*)
  | addAndStartTimer (conversationID : γ) (callTimedOut : Bool) (position : Nat)
  | resetTimer (conversationID : γ)
  | tearDown
  /-- A `ZMTimer` reaches its date; `isLive` is what the context holds then. -/
  | fire (timer : Nat) (isLive : γ → Bool)

/-- One step.  A timer fires only while it is armed, and then is not any more. -/
def step (w : CallTimerWorld γ) : Event γ → CallTimerWorld γ
  | .addAndStartTimer conversationID callTimedOut position =>
    w.addAndStartTimer conversationID callTimedOut position
  | .resetTimer conversationID => w.resetTimer conversationID
  | .tearDown => w.tearDown
  | .fire timer isLive =>
    if timer ∈ w.armed then { w with armed := w.armed.erase timer }.timerDidFire timer isLive
    else w

/-- A fresh `ZMCallTimer`. -/
def init : CallTimerWorld γ := ⟨⟨[]⟩, [], 0, []⟩

/-! ### One firing -/

/-- Firing the timer of the first entry removes exactly that entry and
notifies its voice channel, if the conversation is still there. -/
theorem timerDidFire_of_first {conversationID : γ} {timer : Nat} {rest : List (γ × Nat)}
    (hmap : w.callTimer.conversationIDToTimerMap = (conversationID, timer) :: rest)
    (hnodup : w.callTimer.conversationIDs.Nodup) (isLive : γ → Bool) :
    (w.timerDidFire timer isLive).callTimer.conversationIDToTimerMap = rest ∧
      (w.timerDidFire timer isLive).notified =
        w.notified ++ (if isLive conversationID then [conversationID] else []) := by
  have hrest : ∀ entry ∈ rest, entry.1 ≠ conversationID := by
    intro entry hentry heq
    have hnodup' : (conversationID :: rest.map (·.1)).Nodup := by
      simpa [ZMCallTimer.conversationIDs, hmap] using hnodup
    exact (List.nodup_cons.mp hnodup').1 (heq ▸ List.mem_map_of_mem hentry)
  have hremove :
      (w.callTimer.removeValueForKey conversationID).conversationIDToTimerMap = rest := by
    simp only [ZMCallTimer.removeValueForKey, hmap]
    rw [List.filter_cons_of_neg (by simp), List.filter_eq_self]
    simpa using hrest
  unfold timerDidFire
  rw [hmap]
  by_cases hlive : isLive conversationID <;> simp [hlive, cancelAndRemoveTimer, hremove]

/-- Firing a timer that is not the first entry's changes nothing. -/
theorem timerDidFire_of_not_first {aTimer : Nat}
    (hfirst : ∀ entry ∈ w.callTimer.conversationIDToTimerMap.head?, entry.2 ≠ aTimer)
    (isLive : γ → Bool) : w.timerDidFire aTimer isLive = w := by
  unfold timerDidFire
  split
  · rfl
  · rename_i conversationID timer rest hmap
    have hne : timer ≠ aTimer := hfirst (conversationID, timer) (by simp [hmap])
    simp [hne]

/-! ### The invariant -/

/-- The map has one entry per conversation and one per timer, every armed
timer is in it, and every timer in it was created. -/
structure Good (w : CallTimerWorld γ) : Prop where
  conversationIDs_nodup : w.callTimer.conversationIDs.Nodup
  timers_nodup : w.callTimer.timers.Nodup
  armed_nodup : w.armed.Nodup
  armed_mem : ∀ t ∈ w.armed, t ∈ w.callTimer.timers
  lt_nextTimer : ∀ t ∈ w.callTimer.timers, t < w.nextTimer

omit [DecidableEq γ] in
theorem Good.init : Good (init : CallTimerWorld γ) :=
  ⟨List.nodup_nil, List.nodup_nil, List.nodup_nil, by simp [CallTimerWorld.init],
    by simp [CallTimerWorld.init, ZMCallTimer.timers]⟩

omit [DecidableEq γ] in
/-- A step that keeps the map and the counter and drops armed timers keeps
the invariant. -/
theorem Good.of_armed_sublist {w w' : CallTimerWorld γ} (h : Good w)
    (hmap : w'.callTimer = w.callTimer) (hnext : w'.nextTimer = w.nextTimer)
    (harmed : List.Sublist w'.armed w.armed) : Good w' where
  conversationIDs_nodup := hmap ▸ h.conversationIDs_nodup
  timers_nodup := hmap ▸ h.timers_nodup
  armed_nodup := h.armed_nodup.sublist harmed
  armed_mem t ht := hmap ▸ h.armed_mem t (harmed.subset ht)
  lt_nextTimer t ht := hnext ▸ h.lt_nextTimer t (hmap ▸ ht)

theorem Good.addAndStartTimer {w : CallTimerWorld γ} (h : Good w) (conversationID : γ)
    (callTimedOut : Bool) (position : Nat) :
    Good (w.addAndStartTimer conversationID callTimedOut position) := by
  unfold CallTimerWorld.addAndStartTimer
  split
  · rename_i hnew
    have hfresh : conversationID ∉ w.callTimer.conversationIDs :=
      (w.callTimer.timerFor_eq_none_iff conversationID).mp hnew.1
    have hnext : w.nextTimer ∉ w.callTimer.timers := fun hmem => by
      have := h.lt_nextTimer _ hmem
      omega
    -- The new entry lands somewhere in the enumeration: up to order, it is in front.
    have hperm := List.perm_insertIdx (conversationID, w.nextTimer)
      w.callTimer.conversationIDToTimerMap (Nat.min_le_right position _)
    have hkeys := hperm.map Prod.fst
    have htimers := hperm.map Prod.snd
    refine ⟨?_, ?_, ?_, ?_, ?_⟩
    · exact hkeys.nodup_iff.mpr (List.nodup_cons.mpr ⟨hfresh, h.conversationIDs_nodup⟩)
    · exact htimers.nodup_iff.mpr (List.nodup_cons.mpr ⟨hnext, h.timers_nodup⟩)
    · exact List.nodup_cons.mpr ⟨fun hmem => hnext (h.armed_mem _ hmem), h.armed_nodup⟩
    · intro t ht
      rw [ZMCallTimer.timers, htimers.mem_iff]
      rcases List.mem_cons.mp ht with rfl | ht
      · exact List.mem_cons_self ..
      · exact List.mem_cons_of_mem _ (h.armed_mem t ht)
    · intro t ht
      rw [ZMCallTimer.timers, htimers.mem_iff] at ht
      rcases List.mem_cons.mp ht with rfl | ht
      · exact Nat.lt_succ_self _
      · exact Nat.lt_succ_of_lt (h.lt_nextTimer t ht)
  · exact h

theorem Good.cancelAndRemoveTimer {w : CallTimerWorld γ} (h : Good w) (conversationID : γ) :
    Good (w.cancelAndRemoveTimer conversationID) := by
  have hsub := w.callTimer.removeValueForKey_sublist conversationID
  -- A timer kept armed is not the conversation's, so its entry is kept.
  have hkept : ∀ t ∈ w.armed, w.callTimer.timerFor conversationID ≠ some t →
      t ∈ (w.callTimer.removeValueForKey conversationID).timers := by
    intro t ht hne
    obtain ⟨entry, hentry, rfl⟩ := List.mem_map.mp (h.armed_mem t ht)
    have hkey : entry.1 ≠ conversationID := by
      intro hkey
      apply hne
      rw [w.callTimer.timerFor_eq_some_iff h.conversationIDs_nodup, ← hkey]
      exact hentry
    exact List.mem_map_of_mem ((w.callTimer.mem_removeValueForKey).mpr ⟨hentry, hkey⟩)
  refine ⟨h.conversationIDs_nodup.sublist (hsub.map _), h.timers_nodup.sublist (hsub.map _),
    ?_, ?_, ?_⟩
  · unfold CallTimerWorld.cancelAndRemoveTimer
    split
    · exact h.armed_nodup.erase _
    · exact h.armed_nodup
  · unfold CallTimerWorld.cancelAndRemoveTimer
    split
    · rename_i timer hfor
      intro t ht
      have hne : t ≠ timer := fun heq => by
        subst heq
        exact (List.Nodup.not_mem_erase h.armed_nodup) ht
      exact hkept t ((List.mem_erase_of_ne hne).mp ht) (by simpa [hfor] using hne.symm)
    · rename_i hfor
      intro t ht
      exact hkept t ht (by simp [hfor])
  · intro t ht
    exact h.lt_nextTimer t ((hsub.map _).subset ht)

omit [DecidableEq γ] in
theorem Good.tearDown {w : CallTimerWorld γ} (h : Good w) : Good w.tearDown := by
  -- Every armed timer is in the map, so `tearDown` cancels them all.
  have harmed : w.tearDown.armed = [] := by
    rw [CallTimerWorld.tearDown, List.filter_eq_nil_iff]
    intro t ht
    simpa using h.armed_mem t ht
  refine ⟨List.nodup_nil, List.nodup_nil, ?_, ?_, ?_⟩
  · rw [harmed]
    exact List.nodup_nil
  · simp [harmed]
  · simp [CallTimerWorld.tearDown, ZMCallTimer.timers]

theorem Good.timerDidFire {w : CallTimerWorld γ} (h : Good w) (aTimer : Nat)
    (isLive : γ → Bool) : Good (w.timerDidFire aTimer isLive) := by
  unfold CallTimerWorld.timerDidFire
  split
  · exact h
  · rename_i conversationID timer rest hmap
    split
    · exact h
    · have hcancel := h.cancelAndRemoveTimer conversationID
      dsimp only
      split
      · exact hcancel.of_armed_sublist rfl rfl (List.Sublist.refl _)
      · exact hcancel

theorem Good.step {w : CallTimerWorld γ} (h : Good w) (e : Event γ) : Good (w.step e) := by
  cases e with
  | addAndStartTimer conversationID callTimedOut position =>
    exact h.addAndStartTimer conversationID callTimedOut position
  | resetTimer conversationID => exact h.cancelAndRemoveTimer conversationID
  | tearDown => exact h.tearDown
  | fire timer isLive =>
    simp only [CallTimerWorld.step]
    split
    · have herase : Good { w with armed := w.armed.erase timer } :=
        h.of_armed_sublist rfl rfl (List.erase_sublist ..)
      exact herase.timerDidFire timer isLive
    · exact h

/-- **The invariant of every run.** -/
theorem Good.run (events : List (Event γ)) :
    Good (StepSystem.run CallTimerWorld.step (CallTimerWorld.init : CallTimerWorld γ) events) :=
  run_invariant Good (fun _ e h => h.step e) events Good.init

/-! ### An entry whose timer will never fire -/

/-- Firing the armed timer of an entry that is not first in the enumeration
disarms the timer and changes nothing else: the entry stays in the map. -/
theorem step_fire_of_not_first {timer : Nat} (harmed : timer ∈ w.armed)
    (hfirst : ∀ entry ∈ w.callTimer.conversationIDToTimerMap.head?, entry.2 ≠ timer)
    (isLive : γ → Bool) :
    w.step (.fire timer isLive) = { w with armed := w.armed.erase timer } := by
  simp only [step, if_pos harmed]
  exact timerDidFire_of_not_first { w with armed := w.armed.erase timer } hfirst isLive

/-- An entry of the map whose timer is not armed: nothing will fire for it. -/
def Stale (w : CallTimerWorld γ) (conversationID : γ) (timer : Nat) : Prop :=
  (conversationID, timer) ∈ w.callTimer.conversationIDToTimerMap ∧ timer ∉ w.armed

/-- The events that remove a conversation's entry. -/
def Event.clears (conversationID : γ) : Event γ → Bool
  | .resetTimer other => other = conversationID
  | .tearDown => true
  | .addAndStartTimer .. | .fire .. => false

variable {w} {conversationID : γ} {timer : Nat}

theorem Stale.cancelAndRemoveTimer (hstale : Stale w conversationID timer) {other : γ}
    (hother : other ≠ conversationID) :
    Stale (w.cancelAndRemoveTimer other) conversationID timer := by
  refine ⟨(w.callTimer.mem_removeValueForKey).mpr ⟨hstale.1, hother.symm⟩, ?_⟩
  unfold CallTimerWorld.cancelAndRemoveTimer
  split
  · exact fun hmem => hstale.2 (List.mem_of_mem_erase hmem)
  · exact hstale.2

omit [DecidableEq γ] in
/-- An entry whose timer is armed belongs to another conversation than a
stale entry. -/
theorem Stale.ne_of_armed (h : Good w) (hstale : Stale w conversationID timer) {other : γ}
    {otherTimer : Nat} (hmem : (other, otherTimer) ∈ w.callTimer.conversationIDToTimerMap)
    (harmed : otherTimer ∈ w.armed) : other ≠ conversationID := by
  rintro rfl
  -- one entry per conversation, so the two entries are one
  have hsame : (other, otherTimer) = (other, timer) :=
    List.inj_on_of_nodup_map h.conversationIDs_nodup hmem hstale.1 rfl
  have htimer : otherTimer = timer := (Prod.ext_iff.mp hsame).2
  exact hstale.2 (htimer ▸ harmed)

/-- One step that does not clear the entry keeps it stale and notifies
another conversation, if any. -/
theorem Stale.step (h : Good w) (hstale : Stale w conversationID timer) {e : Event γ}
    (he : e.clears conversationID = false) :
    Stale (w.step e) conversationID timer ∧
      (w.step e).notified.count conversationID = w.notified.count conversationID := by
  cases e with
  | addAndStartTimer other callTimedOut position =>
    simp only [CallTimerWorld.step, CallTimerWorld.addAndStartTimer]
    split
    · have hlt : timer < w.nextTimer :=
        h.lt_nextTimer timer (List.mem_map_of_mem (f := Prod.snd) hstale.1)
      refine ⟨⟨?_, ?_⟩, rfl⟩
      · exact (List.mem_insertIdx (Nat.min_le_right _ _)).mpr (.inr hstale.1)
      · rintro (_ | ⟨_, hmem⟩)
        · omega
        · exact hstale.2 hmem
    · exact ⟨hstale, rfl⟩
  | resetTimer other =>
    have hother : other ≠ conversationID := by simpa [Event.clears] using he
    exact ⟨hstale.cancelAndRemoveTimer hother, rfl⟩
  | tearDown => simp [Event.clears] at he
  | fire aTimer isLive =>
    simp only [CallTimerWorld.step]
    split
    · rename_i harmed
      set w₁ : CallTimerWorld γ := { w with armed := w.armed.erase aTimer }
      have hstale₁ : Stale w₁ conversationID timer :=
        ⟨hstale.1, fun hmem => hstale.2 (List.mem_of_mem_erase hmem)⟩
      unfold CallTimerWorld.timerDidFire
      split
      · exact ⟨hstale₁, rfl⟩
      · rename_i first firstTimer rest hmap
        split
        · exact ⟨hstale₁, rfl⟩
        · rename_i hfired
          -- The first entry is the fired timer's, so it is not the stale one.
          have hmap' : w.callTimer.conversationIDToTimerMap = (first, firstTimer) :: rest := hmap
          have hfiredTimer : firstTimer = aTimer := not_not.mp hfired
          have hfirst : first ≠ conversationID :=
            hstale.ne_of_armed h (by rw [hmap']; exact List.mem_cons_self ..)
              (hfiredTimer ▸ harmed)
          have hcancel := hstale₁.cancelAndRemoveTimer hfirst
          dsimp only
          split
          · refine ⟨hcancel, ?_⟩
            simp [w₁, CallTimerWorld.cancelAndRemoveTimer, List.count_append, hfirst]
          · exact ⟨hcancel, rfl⟩
    · exact ⟨hstale, rfl⟩

/-- **A stale entry is never notified.**  From any reachable state, every run
that does not reset the conversation or tear the timer down keeps the entry
in the map with its dead timer and never tells the conversation's voice
channel; `addAndStartTimer:` does nothing for it meanwhile. -/
theorem stale_entry_never_notified (h : Good w) (hstale : Stale w conversationID timer)
    (events : List (Event γ)) (hevents : ∀ e ∈ events, e.clears conversationID = false) :
    Stale (StepSystem.run CallTimerWorld.step w events) conversationID timer ∧
      (StepSystem.run CallTimerWorld.step w events).notified.count conversationID =
        w.notified.count conversationID := by
  induction events generalizing w with
  | nil => exact ⟨hstale, rfl⟩
  | cons e events ih =>
    have he : e.clears conversationID = false := hevents e (List.mem_cons_self ..)
    obtain ⟨hstale', hcount'⟩ := hstale.step h he
    obtain ⟨hstale'', hcount''⟩ :=
      ih (h.step e) hstale' (fun e' he' => hevents e' (List.mem_cons_of_mem _ he'))
    exact ⟨hstale'', hcount''.trans hcount'⟩

end CallTimerWorld

open CallTimerWorld in
/-- Conversations `1` and `2` get a timer each, in this enumeration order, and
then the timer of conversation `2` fires while the conversation is there.
The entry stays and its voice channel is not told; whatever happens next
short of resetting the conversation or tearing the timer down, the call in
conversation `2` never times out. -/
theorem callTimer_second_entry_never_times_out (events : List (Event Nat))
    (hevents : ∀ e ∈ events, e.clears 2 = false) :
    let w := StepSystem.run CallTimerWorld.step CallTimerWorld.init
      ([.addAndStartTimer 1 false 0, .addAndStartTimer 2 false 1, .fire 1 fun _ => true] ++ events)
    (2, 1) ∈ w.callTimer.conversationIDToTimerMap ∧ 2 ∉ w.notified := by
  intro w
  have hprefix : StepSystem.run CallTimerWorld.step CallTimerWorld.init
      [.addAndStartTimer 1 false 0, .addAndStartTimer 2 false 1, .fire 1 fun _ => true] =
      (⟨⟨[(1, 0), (2, 1)]⟩, [0], 2, []⟩ : CallTimerWorld Nat) := by
    rfl
  have hgood : Good (⟨⟨[(1, 0), (2, 1)]⟩, [0], 2, []⟩ : CallTimerWorld Nat) :=
    hprefix ▸ Good.run _
  obtain ⟨hstale, hcount⟩ := stale_entry_never_notified hgood
    (⟨by simp, by simp⟩ : Stale ⟨⟨[(1, 0), (2, 1)]⟩, [0], 2, []⟩ 2 1) events hevents
  have hw : w = StepSystem.run CallTimerWorld.step
      (⟨⟨[(1, 0), (2, 1)]⟩, [0], 2, []⟩ : CallTimerWorld Nat) events := by
    rw [← hprefix, ← run_append]
  rw [hw]
  exact ⟨hstale.1, List.count_eq_zero.mp hcount⟩

open CallTimerWorld in
/-- Starting the timer of conversation `2` again afterwards changes nothing. -/
theorem callTimer_second_entry_never_times_out_restart :
    (∀ e ∈ [Event.addAndStartTimer 2 false 0], e.clears 2 = false) ∧
      let w := StepSystem.run CallTimerWorld.step CallTimerWorld.init
        ([.addAndStartTimer 1 false 0, .addAndStartTimer 2 false 1, .fire 1 fun _ => true] ++
          [.addAndStartTimer 2 false 0])
      (2, 1) ∈ w.callTimer.conversationIDToTimerMap ∧ 2 ∉ w.notified :=
  ⟨by decide, callTimer_second_entry_never_times_out _ (by decide)⟩

end ZMessaging
