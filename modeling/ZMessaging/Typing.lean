import ZMessaging.StepSystem
import Mathlib.Data.Finset.Basic
import Mathlib.Data.List.MinMax

/-!
# `ZMTyping`: typing indicators that expire

`ZMTyping` keeps, in a `ZMTypingUsersTimeout` dictionary, the date until
which each user counts as typing in a conversation.  `setIsTyping:forUser:
inConversation:` adds or removes an entry and posts a change notification
when the user's state flips; one `ZMTimer`, armed for `nextPruneDate`, prunes
the entries that have timed out when it fires and posts a notification for
each conversation they were in.  After both, `updateExpirationWithDate:` sets
`nextPruneDate` to the first timeout and re-arms the timer, unless the date is
the one it already has.

Dates are seconds on one clock.  The timers are the environment: the world
holds the armed timers with their dates, and an event fires one of them at a
time `now` chosen by the environment.  Notifications are posted on another
context; the model records, in order, the conversation and the user IDs each
one carries.

The main results:

* in every run `nextPruneDate` is the least timeout stored, and only the
  expiration timer is armed, for that date (`Good.run`);
* every step posts one notification for each conversation whose set of
  typing users it changed, and none for the others (`step_notifiesChanges`);
* in every run in which timers fire strictly after their date, the expiration
  timer is armed whenever there is a prune date (`typing_late_run`);
* a timer that fires exactly at its date prunes nothing, and since the first
  timeout is then still `nextPruneDate`, no timer is armed again: the user
  stays typing for every later firing (`typing_expiry_lost_at_prune_date`).
-/

namespace ZMessaging

open StepSystem

variable {υ γ : Type*} [DecidableEq υ] [DecidableEq γ]

/-- `ZMUserAndConversationKey`: the object IDs of a user and of a
conversation; two keys are equal when both IDs are (`isEqual:`). -/
structure ZMUserAndConversationKey (υ γ : Type*) where
  userObjectID : υ
  conversationObjectID : γ
deriving DecidableEq

/-- `ZMTypingUsersTimeout`: the dictionary from keys to timeout dates, as its
entries in enumeration order. -/
structure ZMTypingUsersTimeout (υ γ : Type*) where
  timeouts : List (ZMUserAndConversationKey υ γ × Nat)

namespace ZMTypingUsersTimeout

variable (t : ZMTypingUsersTimeout υ γ)

/-- `init`: an empty dictionary. -/
def init : ZMTypingUsersTimeout υ γ := ⟨[]⟩

/-- The keys of the dictionary (`allKeys`). -/
def keys : List (ZMUserAndConversationKey υ γ) := t.timeouts.map (·.1)

/-- `addUser:conversation:withTimeout:`: `self.timeouts[key] = timeout`
replaces the entry of the key. -/
def addUser (user : υ) (conversation : γ) (timeout : Nat) : ZMTypingUsersTimeout υ γ :=
  ⟨t.timeouts.filter (·.1 ≠ ⟨user, conversation⟩) ++ [(⟨user, conversation⟩, timeout)]⟩

/-- `removeUser:conversation:`. -/
def removeUser (user : υ) (conversation : γ) : ZMTypingUsersTimeout υ γ :=
  ⟨t.timeouts.filter (·.1 ≠ ⟨user, conversation⟩)⟩

/-- `containsUser:conversation:`: `self.timeouts[key] != nil`. -/
def containsUser (user : υ) (conversation : γ) : Bool :=
  (t.timeouts.find? (·.1 = ⟨user, conversation⟩)).isSome

/-- The loop body of `firstTimeout`: a date replaces the minimum so far when
that compares `NSOrderedDescending` to it. -/
def earlierDate (minDate : Option Nat) (date : Nat) : Option Nat :=
  match minDate with
  | none => some date
  | some m => if m > date then some date else some m

/-- `firstTimeout`: the earliest date of `allValues`, `nil` when empty. -/
def firstTimeout : Option Nat := (t.timeouts.map (·.2)).foldl earlierDate none

/-- `userIDsInConversation:`: the users of the keys of a conversation. -/
def userIDsInConversation (conversation : γ) : Finset υ :=
  ((t.timeouts.filter (·.1.conversationObjectID = conversation)).map (·.1.userObjectID)).toFinset

/-- `pruneConversationsThatHaveTimedOutAfter:`: the conversations of the
entries whose timeout compares `NSOrderedAscending` to `pruneDate` (each once,
as the `NSMutableSet` holds them), and the dictionary without those entries. -/
def pruneConversationsThatHaveTimedOutAfter (pruneDate : Nat) :
    List γ × ZMTypingUsersTimeout υ γ :=
  (((t.timeouts.filter (·.2 < pruneDate)).map (·.1.conversationObjectID)).dedup,
    ⟨t.timeouts.filter fun e => ¬ e.2 < pruneDate⟩)

/-! ### The keys after each operation -/

@[simp] theorem mem_keys_addUser {k : ZMUserAndConversationKey υ γ} {user : υ} {conversation : γ}
    {timeout : Nat} :
    k ∈ (t.addUser user conversation timeout).keys ↔ k ∈ t.keys ∨ k = ⟨user, conversation⟩ := by
  simp only [keys, addUser, List.map_append, List.mem_append, List.mem_map, List.mem_filter,
    List.map_cons, List.map_nil, List.mem_singleton, decide_eq_true_eq]
  constructor
  · rintro (⟨e, ⟨he, -⟩, rfl⟩ | rfl)
    · exact .inl ⟨e, he, rfl⟩
    · exact .inr rfl
  · rintro (⟨e, he, rfl⟩ | rfl)
    · by_cases hk : e.1 = ⟨user, conversation⟩
      · exact .inr hk
      · exact .inl ⟨e, ⟨he, hk⟩, rfl⟩
    · exact .inr rfl

@[simp] theorem mem_keys_removeUser {k : ZMUserAndConversationKey υ γ} {user : υ}
    {conversation : γ} :
    k ∈ (t.removeUser user conversation).keys ↔ k ∈ t.keys ∧ k ≠ ⟨user, conversation⟩ := by
  simp only [keys, removeUser, List.mem_map, List.mem_filter, decide_eq_true_eq]
  constructor
  · rintro ⟨e, ⟨he, hk⟩, rfl⟩
    exact ⟨⟨e, he, rfl⟩, hk⟩
  · rintro ⟨⟨e, he, rfl⟩, hk⟩
    exact ⟨e, ⟨he, hk⟩, rfl⟩

omit [DecidableEq υ] in
theorem mem_keys_prune {k : ZMUserAndConversationKey υ γ} {now : Nat} :
    k ∈ (t.pruneConversationsThatHaveTimedOutAfter now).2.keys ↔
      ∃ e ∈ t.timeouts, e.1 = k ∧ ¬ e.2 < now := by
  simp only [keys, pruneConversationsThatHaveTimedOutAfter, List.mem_map, List.mem_filter,
    decide_eq_true_eq]
  constructor
  · rintro ⟨e, ⟨he, hlate⟩, rfl⟩
    exact ⟨e, he, rfl, hlate⟩
  · rintro ⟨e, he, rfl, hlate⟩
    exact ⟨e, ⟨he, hlate⟩, rfl⟩

theorem keys_nodup_removeUser {user : υ} {conversation : γ} (h : t.keys.Nodup) :
    (t.removeUser user conversation).keys.Nodup := by
  unfold keys removeUser
  exact h.sublist ((List.filter_sublist).map _)

theorem keys_nodup_addUser {user : υ} {conversation : γ} {timeout : Nat} (h : t.keys.Nodup) :
    (t.addUser user conversation timeout).keys.Nodup := by
  have hrest : (t.removeUser user conversation).keys.Nodup := t.keys_nodup_removeUser h
  unfold keys addUser
  rw [List.map_append, List.nodup_append]
  refine ⟨hrest, List.nodup_singleton _, ?_⟩
  intro a ha b hb
  have hne : a ≠ ⟨user, conversation⟩ := ((t.mem_keys_removeUser).mp ha).2
  simp only [List.map_cons, List.map_nil, List.mem_singleton] at hb
  rw [hb]
  exact hne

omit [DecidableEq υ] in
theorem keys_nodup_prune {now : Nat} (h : t.keys.Nodup) :
    (t.pruneConversationsThatHaveTimedOutAfter now).2.keys.Nodup := by
  unfold keys pruneConversationsThatHaveTimedOutAfter
  exact h.sublist ((List.filter_sublist).map _)

/-! ### What the queries read -/

theorem containsUser_iff {user : υ} {conversation : γ} :
    t.containsUser user conversation = true ↔ ⟨user, conversation⟩ ∈ t.keys := by
  simp [containsUser, keys, List.find?_isSome]

theorem mem_userIDsInConversation {user : υ} {conversation : γ} :
    user ∈ t.userIDsInConversation conversation ↔ ⟨user, conversation⟩ ∈ t.keys := by
  simp only [userIDsInConversation, keys, List.mem_toFinset, List.mem_map, List.mem_filter,
    decide_eq_true_eq]
  constructor
  · rintro ⟨⟨⟨u, c⟩, d⟩, ⟨he, rfl⟩, rfl⟩
    exact ⟨_, he, rfl⟩
  · rintro ⟨⟨⟨u, c⟩, d⟩, he, hk⟩
    cases hk
    exact ⟨_, ⟨he, rfl⟩, rfl⟩

/-- Two dictionaries post the same users for a conversation exactly when they
have the same keys in it. -/
theorem userIDsInConversation_eq_iff {t' : ZMTypingUsersTimeout υ γ} {conversation : γ} :
    t.userIDsInConversation conversation = t'.userIDsInConversation conversation ↔
      ∀ user, ⟨user, conversation⟩ ∈ t.keys ↔ ⟨user, conversation⟩ ∈ t'.keys := by
  simp only [Finset.ext_iff, mem_userIDsInConversation]

/-- When the keys change at most at `⟨user, conversation⟩`, which is a key
afterwards exactly when `b`, the users of a conversation change exactly for
`conversation` and only if `b` differs from `containsUser`. -/
theorem userIDsInConversation_ne_iff {t' : ZMTypingUsersTimeout υ γ} {user : υ} {conversation : γ}
    {b : Bool} (hkeys : ∀ k, k ∈ t'.keys ↔
      (k ∈ t.keys ∧ k ≠ ⟨user, conversation⟩) ∨ (b = true ∧ k = ⟨user, conversation⟩))
    (c : γ) :
    t.userIDsInConversation c ≠ t'.userIDsInConversation c ↔
      c = conversation ∧ t.containsUser user conversation ≠ b := by
  have hself : (⟨user, conversation⟩ : ZMUserAndConversationKey υ γ) ∈ t'.keys ↔ b = true := by
    simp [hkeys]
  have hother : ∀ k, k ≠ ⟨user, conversation⟩ → (k ∈ t'.keys ↔ k ∈ t.keys) := by
    intro k hk
    simp [hkeys, hk]
  rw [Ne, userIDsInConversation_eq_iff]
  constructor
  · intro hne
    by_contra hsame
    apply hne
    intro u
    by_cases hk : (⟨u, c⟩ : ZMUserAndConversationKey υ γ) = ⟨user, conversation⟩
    · -- only the user's own key can change, and it does not
      have hc : c = conversation := (ZMUserAndConversationKey.mk.inj hk).2
      have hb : t.containsUser user conversation = b := by
        by_contra hb
        exact hsame ⟨hc, hb⟩
      rw [hk, hself, ← containsUser_iff, hb]
    · exact (hother _ hk).symm
  · rintro ⟨rfl, hb⟩ hall
    apply hb
    have huser := hall user
    rw [hself, ← containsUser_iff] at huser
    exact Bool.eq_iff_iff.mpr huser

theorem earlierDate_some (m date : Nat) : earlierDate (some m) date = some (min m date) := by
  by_cases h : m > date
  · simp [earlierDate, h, Nat.min_eq_right (Nat.le_of_lt h)]
  · simp [earlierDate, h, Nat.min_eq_left (Nat.le_of_not_gt h)]

theorem foldl_earlierDate (l : List Nat) (m : Nat) :
    l.foldl earlierDate (some m) = some (l.foldl min m) := by
  induction l generalizing m with
  | nil => rfl
  | cons date l ih => rw [List.foldl_cons, List.foldl_cons, earlierDate_some, ih]

omit [DecidableEq υ] [DecidableEq γ] in
/-- **`firstTimeout` is the least timeout stored**, `nil` when there is none. -/
theorem firstTimeout_eq_min? : t.firstTimeout = (t.timeouts.map (·.2)).min? := by
  unfold firstTimeout
  cases t.timeouts.map (·.2) with
  | nil => rfl
  | cons date l =>
    rw [List.foldl_cons, show earlierDate none date = some date from rfl, foldl_earlierDate,
      List.min?_cons, List.foldl_min]
    cases l.min? <;> simp

omit [DecidableEq υ] in
/-- After a prune at `now`, every timeout left is at `now` or later. -/
theorem le_firstTimeout_prune {now m : Nat}
    (h : (t.pruneConversationsThatHaveTimedOutAfter now).2.firstTimeout = some m) : now ≤ m := by
  rw [firstTimeout_eq_min?] at h
  obtain ⟨e, he, rfl⟩ := List.mem_map.mp (List.min?_mem h)
  have hlate : ¬ e.2 < now := by
    simpa [pruneConversationsThatHaveTimedOutAfter] using (List.mem_filter.mp he).2
  omega

omit [DecidableEq υ] in
theorem nodup_pruneConversations (now : Nat) :
    (t.pruneConversationsThatHaveTimedOutAfter now).1.Nodup :=
  List.nodup_dedup _

omit [DecidableEq υ] in
theorem mem_pruneConversations {now : Nat} {c : γ} :
    c ∈ (t.pruneConversationsThatHaveTimedOutAfter now).1 ↔
      ∃ e ∈ t.timeouts, e.1.conversationObjectID = c ∧ e.2 < now := by
  simp only [pruneConversationsThatHaveTimedOutAfter, List.mem_dedup, List.mem_map,
    List.mem_filter, decide_eq_true_eq]
  constructor
  · rintro ⟨e, ⟨he, hlt⟩, rfl⟩
    exact ⟨e, he, rfl, hlt⟩
  · rintro ⟨e, he, rfl, hlt⟩
    exact ⟨e, ⟨he, hlt⟩, rfl⟩

/-- With distinct keys, a prune changes the users of exactly the
conversations it returns. -/
theorem userIDsInConversation_prune_ne_iff {now : Nat} (h : t.keys.Nodup) (c : γ) :
    t.userIDsInConversation c ≠
        (t.pruneConversationsThatHaveTimedOutAfter now).2.userIDsInConversation c ↔
      c ∈ (t.pruneConversationsThatHaveTimedOutAfter now).1 := by
  rw [Ne, userIDsInConversation_eq_iff, mem_pruneConversations]
  constructor
  · intro hne
    -- the user whose key the prune removed
    obtain ⟨u, hu⟩ : ∃ u, ¬ ((⟨u, c⟩ ∈ t.keys) ↔
        ⟨u, c⟩ ∈ (t.pruneConversationsThatHaveTimedOutAfter now).2.keys) := by
      simpa using hne
    have hkept :
        ⟨u, c⟩ ∈ (t.pruneConversationsThatHaveTimedOutAfter now).2.keys → ⟨u, c⟩ ∈ t.keys := by
      rw [mem_keys_prune]
      rintro ⟨e, he, hk, -⟩
      exact List.mem_map.mpr ⟨e, he, hk⟩
    obtain ⟨e, he, hk⟩ := List.mem_map.mp (Classical.not_imp.mp (fun h' => hu ⟨h', hkept⟩) |>.1)
    refine ⟨e, he, by rw [hk], ?_⟩
    by_contra hlate
    exact hu ⟨fun _ => (t.mem_keys_prune).mpr ⟨e, he, hk, hlate⟩, hkept⟩
  · rintro ⟨⟨⟨u, c'⟩, d⟩, he, rfl, hlt⟩ hall
    have hin : (⟨u, c'⟩ : ZMUserAndConversationKey υ γ) ∈ t.keys := List.mem_map.mpr ⟨_, he, rfl⟩
    obtain ⟨e', he', hk', hlate⟩ := (t.mem_keys_prune).mp ((hall u).mp hin)
    -- distinct keys: the entry kept is the entry that timed out
    have heq : e' = (⟨u, c'⟩, d) := List.inj_on_of_nodup_map h he' he hk'
    rw [heq] at hlate
    exact hlate hlt

end ZMTypingUsersTimeout

/-- `ZMTypingDefaultTimeout`: seconds a user counts as typing. -/
def ZMTypingDefaultTimeout : Nat := 60

/-- The state of a `ZMTyping`; the timer is named by its identifier. -/
structure ZMTyping (υ γ : Type*) where
  timeout : Nat
  typingUserTimeout : ZMTypingUsersTimeout υ γ
  expirationTimer : Option Nat
  nextPruneDate : Option Nat

/-- `initWithUserInterfaceManagedObjectContext:syncManagedObjectContext:`. -/
def ZMTyping.init : ZMTyping υ γ :=
  ⟨ZMTypingDefaultTimeout, ZMTypingUsersTimeout.init, none, none⟩

namespace Typing

/-- A `ZMTyping` with the timers and the notifications it has posted. -/
structure World (υ γ : Type*) where
  typing : ZMTyping υ γ
  /-- The armed `ZMTimer`s: identifier and fire date. -/
  armed : List (Nat × Nat)
  /-- The identifier of the next timer created. -/
  nextTimer : Nat
  /-- The `ZMTypingChangeNotification`s posted, oldest first: conversation
  and typing users. -/
  notifications : List (γ × Finset υ)

/-- A fresh `ZMTyping` whose `timeout` property is set to `timeout`. -/
def World.init (timeout : Nat) : World υ γ :=
  ⟨{ ZMTyping.init with timeout := timeout }, [], 0, []⟩

namespace World

variable (w : World υ γ)

/-- The users typing in a conversation. -/
def users (conversation : γ) : Finset υ :=
  w.typing.typingUserTimeout.userIDsInConversation conversation

/-- Replacing the dictionary. -/
def setTypingUserTimeout (t : ZMTypingUsersTimeout υ γ) : World υ γ :=
  { w with typing.typingUserTimeout := t }

/-- `sendNotificationForConversation:`: posts the users typing now. -/
def sendNotificationForConversation (conversation : γ) : World υ γ :=
  { w with notifications := w.notifications ++ [(conversation, w.users conversation)] }

/-- `[self.expirationTimer cancel]`. -/
def cancelExpirationTimer : World υ γ :=
  match w.typing.expirationTimer with
  | none => w
  | some timer => { w with armed := w.armed.filter (·.1 ≠ timer) }

/-- `updateExpirationWithDate:`: nothing if the date is `nextPruneDate`;
otherwise cancel the timer, store the date, and arm a new timer for it. -/
def updateExpirationWithDate (date : Option Nat) : World υ γ :=
  if date = w.typing.nextPruneDate then w
  else
    let cancelled := w.cancelExpirationTimer
    match date with
    | none => { cancelled with typing.expirationTimer := none, typing.nextPruneDate := none }
    | some d =>
        { cancelled with
          typing.expirationTimer := some w.nextTimer
          typing.nextPruneDate := some d
          armed := cancelled.armed ++ [(w.nextTimer, d)]
          nextTimer := w.nextTimer + 1 }

/-- `setIsTyping:forUser:inConversation:` at time `now`. -/
def setIsTyping (isTyping : Bool) (user : υ) (conversation : γ) (now : Nat) : World υ γ :=
  let wasTyping := w.typing.typingUserTimeout.containsUser user conversation
  let w₁ := if isTyping then
      w.setTypingUserTimeout
        (w.typing.typingUserTimeout.addUser user conversation (now + w.typing.timeout))
    else w
  let w₂ := if wasTyping ≠ isTyping then
      let w₁' := if !isTyping then
          w₁.setTypingUserTimeout (w₁.typing.typingUserTimeout.removeUser user conversation)
        else w₁
      w₁'.sendNotificationForConversation conversation
    else w₁
  w₂.updateExpirationWithDate w₂.typing.typingUserTimeout.firstTimeout

/-- `timerDidFire:` at time `now` (the block it schedules runs at once). -/
def timerDidFire (timer : Nat) (now : Nat) : World υ γ :=
  if w.typing.expirationTimer = some timer then
    let pruned := w.typing.typingUserTimeout.pruneConversationsThatHaveTimedOutAfter now
    let w₁ := w.setTypingUserTimeout pruned.2
    let w₂ := pruned.1.foldl (fun w c => w.sendNotificationForConversation c) w₁
    w₂.updateExpirationWithDate w₂.typing.typingUserTimeout.firstTimeout
  else w

/-- An armed timer reaching its date at `now`: it is disarmed and its target
told; an unarmed timer does nothing. -/
def fire (timer now : Nat) : World υ γ :=
  if timer ∈ w.armed.map (·.1) then
    ({ w with armed := w.armed.filter (·.1 ≠ timer) }).timerDidFire timer now
  else w

end World

/-- A call of `setIsTyping:forUser:inConversation:`, or a timer firing. -/
inductive Event (υ γ : Type*)
  | setIsTyping (isTyping : Bool) (user : υ) (conversation : γ) (now : Nat)
  | fire (timer now : Nat)

/-- One step of the world. -/
def World.step (w : World υ γ) : Event υ γ → World υ γ
  | .setIsTyping isTyping user conversation now => w.setIsTyping isTyping user conversation now
  | .fire timer now => w.fire timer now

/-- Timers fire at or after the date they were armed for. -/
def FiresOnTime (w : World υ γ) : Event υ γ → Prop
  | .setIsTyping .. => True
  | .fire timer now => ∀ d, (timer, d) ∈ w.armed → d ≤ now

/-- Timers fire strictly after the date they were armed for. -/
def FiresLate (w : World υ γ) : Event υ γ → Prop
  | .setIsTyping .. => True
  | .fire timer now => ∀ d, (timer, d) ∈ w.armed → d < now

namespace World

variable (w : World υ γ)

/-! ### Frame lemmas -/

omit [DecidableEq υ] [DecidableEq γ] in
@[simp] theorem setTypingUserTimeout_typingUserTimeout (t : ZMTypingUsersTimeout υ γ) :
    (w.setTypingUserTimeout t).typing.typingUserTimeout = t := rfl

omit [DecidableEq υ] [DecidableEq γ] in
@[simp] theorem setTypingUserTimeout_notifications (t : ZMTypingUsersTimeout υ γ) :
    (w.setTypingUserTimeout t).notifications = w.notifications := rfl

@[simp] theorem sendNotificationForConversation_typing (conversation : γ) :
    (w.sendNotificationForConversation conversation).typing = w.typing := rfl

omit [DecidableEq υ] [DecidableEq γ] in
@[simp] theorem cancelExpirationTimer_typing : w.cancelExpirationTimer.typing = w.typing := by
  unfold cancelExpirationTimer
  split <;> rfl

omit [DecidableEq υ] [DecidableEq γ] in
@[simp] theorem cancelExpirationTimer_notifications :
    w.cancelExpirationTimer.notifications = w.notifications := by
  unfold cancelExpirationTimer
  split <;> rfl

omit [DecidableEq υ] [DecidableEq γ] in
@[simp] theorem updateExpirationWithDate_nextPruneDate (date : Option Nat) :
    (w.updateExpirationWithDate date).typing.nextPruneDate = date := by
  unfold updateExpirationWithDate
  split
  · next heq => exact heq.symm
  · split <;> rfl

omit [DecidableEq υ] [DecidableEq γ] in
@[simp] theorem updateExpirationWithDate_typingUserTimeout (date : Option Nat) :
    (w.updateExpirationWithDate date).typing.typingUserTimeout = w.typing.typingUserTimeout := by
  unfold updateExpirationWithDate
  split
  · rfl
  · split <;> simp

omit [DecidableEq υ] [DecidableEq γ] in
@[simp] theorem updateExpirationWithDate_notifications (date : Option Nat) :
    (w.updateExpirationWithDate date).notifications = w.notifications := by
  unfold updateExpirationWithDate
  split
  · rfl
  · split <;> simp

theorem foldl_sendNotificationForConversation (cs : List γ) :
    cs.foldl (fun w c => w.sendNotificationForConversation c) w =
      { w with notifications := w.notifications ++ cs.map fun c => (c, w.users c) } := by
  induction cs generalizing w with
  | nil => simp
  | cons c cs ih =>
    rw [List.foldl_cons, ih]
    simp [sendNotificationForConversation, users]

/-! ### The expiration timer -/

/-- Only the expiration timer is armed, and for `nextPruneDate`. -/
def OnlyExpirationArmed : Prop :=
  ∀ p ∈ w.armed, w.typing.expirationTimer = some p.1 ∧ w.typing.nextPruneDate = some p.2

/-- **Property (b)**: when there is a prune date, the expiration timer is
armed for it. -/
def Scheduled : Prop :=
  ∀ d, w.typing.nextPruneDate = some d →
    ∃ timer, w.typing.expirationTimer = some timer ∧ (timer, d) ∈ w.armed

omit [DecidableEq υ] [DecidableEq γ] in
theorem cancelExpirationTimer_armed (h : ∀ p ∈ w.armed, w.typing.expirationTimer = some p.1) :
    w.cancelExpirationTimer.armed = [] := by
  unfold cancelExpirationTimer
  split
  · next hnone =>
    rw [List.eq_nil_iff_forall_not_mem]
    intro p hp
    simpa [hnone] using h p hp
  · next timer htimer =>
    rw [List.filter_eq_nil_iff]
    intro p hp
    have hp1 : some p.1 = some timer := (h p hp).symm.trans htimer
    simpa using hp1

omit [DecidableEq υ] [DecidableEq γ] in
theorem updateExpirationWithDate_onlyExpirationArmed (date : Option Nat)
    (h : w.OnlyExpirationArmed) : (w.updateExpirationWithDate date).OnlyExpirationArmed := by
  have hcancel : w.cancelExpirationTimer.armed = [] :=
    w.cancelExpirationTimer_armed fun p hp => (h p hp).1
  unfold updateExpirationWithDate
  split
  · exact h
  · split <;> simp [OnlyExpirationArmed, hcancel]

omit [DecidableEq υ] [DecidableEq γ] in
/-- A new date arms the timer; an unchanged one keeps what was armed. -/
theorem updateExpirationWithDate_scheduled (date : Option Nat)
    (h : date = w.typing.nextPruneDate → w.Scheduled) :
    (w.updateExpirationWithDate date).Scheduled := by
  unfold updateExpirationWithDate
  split
  · next heq => exact h heq
  · split
    · intro d hd
      simp at hd
    · intro d hd
      simp only [Option.some.injEq] at hd
      subst hd
      exact ⟨w.nextTimer, rfl, by simp⟩

/-! ### What a call does to the dictionary and the notifications -/

/-- **Inversion of `setIsTyping:forUser:inConversation:`.**  It replaces the
dictionary by one whose keys differ at most at the user's key, which is a key
afterwards exactly when `isTyping`; it posts the users of the conversation
exactly when the user's state flips; and then it updates the expiration with
the new first timeout. -/
theorem setIsTyping_cases (isTyping : Bool) (user : υ) (conversation : γ) (now : Nat) :
    ∃ t' : ZMTypingUsersTimeout υ γ,
      (∀ k, k ∈ t'.keys ↔ (k ∈ w.typing.typingUserTimeout.keys ∧ k ≠ ⟨user, conversation⟩) ∨
        (isTyping = true ∧ k = ⟨user, conversation⟩)) ∧
      (w.typing.typingUserTimeout.keys.Nodup → t'.keys.Nodup) ∧
      w.setIsTyping isTyping user conversation now =
        ({ w with
          typing.typingUserTimeout := t'
          notifications := w.notifications ++
            if w.typing.typingUserTimeout.containsUser user conversation ≠ isTyping then
              [(conversation, t'.userIDsInConversation conversation)]
            else [] }).updateExpirationWithDate t'.firstTimeout := by
  set t := w.typing.typingUserTimeout with ht
  cases isTyping with
  | true =>
    -- the entry is set, whatever was there
    refine ⟨t.addUser user conversation (now + w.typing.timeout), fun k => ?_,
      ZMTypingUsersTimeout.keys_nodup_addUser t, ?_⟩
    · rw [ZMTypingUsersTimeout.mem_keys_addUser]
      by_cases hk : k = ⟨user, conversation⟩ <;> simp [hk]
    · cases hc : t.containsUser user conversation <;>
        simp [setIsTyping, ← ht, hc, setTypingUserTimeout, sendNotificationForConversation, users]
  | false =>
    cases hc : t.containsUser user conversation with
    | true =>
      -- an explicit stop removes the entry
      refine ⟨t.removeUser user conversation, fun k => ?_,
        ZMTypingUsersTimeout.keys_nodup_removeUser t, ?_⟩
      · simp
      · simp [setIsTyping, ← ht, hc, setTypingUserTimeout, sendNotificationForConversation, users]
    | false =>
      -- a stop for a user not typing changes nothing
      have hnot : (⟨user, conversation⟩ : ZMUserAndConversationKey υ γ) ∉ t.keys := by
        rw [← ZMTypingUsersTimeout.containsUser_iff, hc]
        simp
      refine ⟨t, fun k => ?_, id, ?_⟩
      · constructor
        · intro hk
          exact .inl ⟨hk, fun e => hnot (e ▸ hk)⟩
        · rintro (⟨hk, -⟩ | ⟨h, -⟩)
          · exact hk
          · cases h
      · simp [setIsTyping, ← ht, hc]
        rfl

/-- **Inversion of `timerDidFire:` for the expiration timer.**  It prunes at
`now`, posts the users left in each conversation the prune returned, and then
updates the expiration with the new first timeout. -/
theorem timerDidFire_of_expirationTimer {timer now : Nat}
    (h : w.typing.expirationTimer = some timer) :
    w.timerDidFire timer now =
      let pruned := w.typing.typingUserTimeout.pruneConversationsThatHaveTimedOutAfter now
      ({ w with
        typing.typingUserTimeout := pruned.2
        notifications := w.notifications ++
          pruned.1.map fun c => (c, pruned.2.userIDsInConversation c) }).updateExpirationWithDate
        pruned.2.firstTimeout := by
  simp only [timerDidFire, if_pos h, foldl_sendNotificationForConversation]
  rfl

theorem timerDidFire_of_ne {timer now : Nat} (h : w.typing.expirationTimer ≠ some timer) :
    w.timerDidFire timer now = w := by
  simp [timerDidFire, h]

theorem fire_of_not_armed {timer now : Nat} (h : timer ∉ w.armed.map (·.1)) :
    w.fire timer now = w := by
  simp only [fire, h, if_false]

/-! ### The invariant of every run -/

/-- **Property (a)** with what keeps it: the dictionary has distinct keys,
`nextPruneDate` is its first timeout, and only the expiration timer is armed,
for that date. -/
structure Good : Prop where
  keys_nodup : w.typing.typingUserTimeout.keys.Nodup
  nextPruneDate_eq : w.typing.nextPruneDate = w.typing.typingUserTimeout.firstTimeout
  onlyExpirationArmed : w.OnlyExpirationArmed

omit [DecidableEq υ] [DecidableEq γ] in
theorem Good.init (timeout : Nat) : Good (World.init timeout : World υ γ) where
  keys_nodup := List.nodup_nil
  nextPruneDate_eq := rfl
  onlyExpirationArmed := by simp [OnlyExpirationArmed, World.init]

omit [DecidableEq υ] [DecidableEq γ] in
/-- Both entry points end the same way: a dictionary with distinct keys,
then the expiration updated with its first timeout. -/
theorem Good.of_updateExpiration {w' : World υ γ} (hkeys : w'.typing.typingUserTimeout.keys.Nodup)
    (harmed : w'.OnlyExpirationArmed) :
    Good (w'.updateExpirationWithDate w'.typing.typingUserTimeout.firstTimeout) where
  keys_nodup := by simpa using hkeys
  nextPruneDate_eq := by simp
  onlyExpirationArmed := w'.updateExpirationWithDate_onlyExpirationArmed _ harmed

variable {w}

theorem Good.setIsTyping (h : Good w) (isTyping : Bool) (user : υ) (conversation : γ) (now : Nat) :
    Good (w.setIsTyping isTyping user conversation now) := by
  obtain ⟨t', -, hnodup, heq⟩ := w.setIsTyping_cases isTyping user conversation now
  rw [heq]
  exact Good.of_updateExpiration (hnodup h.keys_nodup) h.onlyExpirationArmed

omit [DecidableEq υ] [DecidableEq γ] in
/-- An armed timer is the expiration timer, and its date is `nextPruneDate`. -/
theorem Good.armed_timer (h : Good w) {timer : Nat} (harmed : timer ∈ w.armed.map (·.1)) :
    ∃ d, (timer, d) ∈ w.armed ∧ w.typing.expirationTimer = some timer ∧
      w.typing.nextPruneDate = some d := by
  obtain ⟨⟨timer', d⟩, hp, rfl⟩ := List.mem_map.mp harmed
  exact ⟨d, hp, h.onlyExpirationArmed _ hp⟩

/-- Firing the armed expiration timer: it is disarmed, so nothing is armed
before the expiration is updated. -/
theorem fire_of_armed (h : Good w) {timer now : Nat} (harmed : timer ∈ w.armed.map (·.1)) :
    let w' : World υ γ := { w with armed := [] }
    w.fire timer now = w'.timerDidFire timer now := by
  obtain ⟨d, -, hexp, -⟩ := h.armed_timer harmed
  have hnil : w.armed.filter (·.1 ≠ timer) = [] :=
    w.cancelExpirationTimer_armed (fun p hp => (h.onlyExpirationArmed p hp).1) ▸ by
      simp [cancelExpirationTimer, hexp]
  simp only [fire, harmed, if_true, hnil]

theorem Good.fire (h : Good w) (timer now : Nat) : Good (w.fire timer now) := by
  by_cases harmed : timer ∈ w.armed.map (·.1)
  · obtain ⟨d, -, hexp, -⟩ := h.armed_timer harmed
    rw [fire_of_armed h harmed]
    let w' : World υ γ := { w with armed := [] }
    have hexp' : w'.typing.expirationTimer = some timer := hexp
    rw [w'.timerDidFire_of_expirationTimer hexp']
    apply Good.of_updateExpiration
    · exact ZMTypingUsersTimeout.keys_nodup_prune _ h.keys_nodup
    · simp [OnlyExpirationArmed, w']
  · rw [w.fire_of_not_armed harmed]
    exact h

theorem Good.step (h : Good w) : ∀ e : Event υ γ, Good (w.step e)
  | .setIsTyping isTyping user conversation now => h.setIsTyping isTyping user conversation now
  | .fire timer now => h.fire timer now

/-- **Every run keeps the invariant.** -/
theorem Good.run (timeout : Nat) (events : List (Event υ γ)) :
    Good (StepSystem.run World.step (World.init timeout) events) :=
  run_invariant Good (fun _ e h => h.step e) events (Good.init timeout)

/-! ### Notifications -/

/-- **Property (c)** for one step from `w` to `w'`: the step appends one
notification for each conversation whose users changed, carrying the users
afterwards, and none for any other conversation. -/
def NotifiesChanges (w w' : World υ γ) : Prop :=
  ∃ new : List (γ × Finset υ), w'.notifications = w.notifications ++ new ∧
    (new.map (·.1)).Nodup ∧ (∀ n ∈ new, n.2 = w'.users n.1) ∧
    ∀ c, c ∈ new.map (·.1) ↔ w.users c ≠ w'.users c

theorem notifiesChanges_setIsTyping (isTyping : Bool) (user : υ) (conversation : γ) (now : Nat) :
    NotifiesChanges w (w.setIsTyping isTyping user conversation now) := by
  obtain ⟨t', hkeys, -, heq⟩ := w.setIsTyping_cases isTyping user conversation now
  have hchanged := ZMTypingUsersTimeout.userIDsInConversation_ne_iff
    w.typing.typingUserTimeout hkeys
  rw [heq]
  refine ⟨if w.typing.typingUserTimeout.containsUser user conversation ≠ isTyping then
      [(conversation, t'.userIDsInConversation conversation)] else [], by simp, ?_, ?_, ?_⟩
  · split <;> simp
  · split <;> simp [users]
  · intro c
    simp only [users, updateExpirationWithDate_typingUserTimeout, hchanged c]
    split <;> simp_all

theorem notifiesChanges_fire (h : Good w) (timer now : Nat) :
    NotifiesChanges w (w.fire timer now) := by
  by_cases harmed : timer ∈ w.armed.map (·.1)
  · obtain ⟨d, -, hexp, -⟩ := h.armed_timer harmed
    rw [fire_of_armed h harmed]
    let w' : World υ γ := { w with armed := [] }
    have hexp' : w'.typing.expirationTimer = some timer := hexp
    rw [w'.timerDidFire_of_expirationTimer hexp']
    have hpruned := @ZMTypingUsersTimeout.userIDsInConversation_prune_ne_iff _ _ _ _
      w.typing.typingUserTimeout now h.keys_nodup
    refine ⟨(w.typing.typingUserTimeout.pruneConversationsThatHaveTimedOutAfter now).1.map
      fun c => (c, (w.typing.typingUserTimeout.pruneConversationsThatHaveTimedOutAfter
        now).2.userIDsInConversation c), by simp [w'], ?_, ?_, ?_⟩
    · simpa [Function.comp_def] using
        ZMTypingUsersTimeout.nodup_pruneConversations w.typing.typingUserTimeout now
    · simp [users, w']
    · intro c
      simp [users, w', hpruned c]
  · rw [w.fire_of_not_armed harmed]
    exact ⟨[], by simp, List.nodup_nil, by simp, by simp⟩

theorem step_notifiesChanges (h : Good w) : ∀ e : Event υ γ, NotifiesChanges w (w.step e)
  | .setIsTyping isTyping user conversation now =>
    notifiesChanges_setIsTyping isTyping user conversation now
  | .fire timer now => notifiesChanges_fire h timer now

/-! ### The timer when firings are late -/

theorem Scheduled.setIsTyping (hs : w.Scheduled) (isTyping : Bool) (user : υ)
    (conversation : γ) (now : Nat) : (w.setIsTyping isTyping user conversation now).Scheduled := by
  obtain ⟨t', -, -, heq⟩ := w.setIsTyping_cases isTyping user conversation now
  rw [heq]
  exact updateExpirationWithDate_scheduled _ _ fun _ => hs

/-- A late firing of the expiration timer prunes the first timeout, so the
first timeout afterwards is a new date and a new timer is armed. -/
theorem Scheduled.fire (h : Good w) (hs : w.Scheduled) (timer now : Nat)
    (hlate : ∀ d, (timer, d) ∈ w.armed → d < now) : (w.fire timer now).Scheduled := by
  by_cases harmed : timer ∈ w.armed.map (·.1)
  · obtain ⟨d, hd, hexp, hprune⟩ := h.armed_timer harmed
    rw [fire_of_armed h harmed]
    let w' : World υ γ := { w with armed := [] }
    have hexp' : w'.typing.expirationTimer = some timer := hexp
    rw [w'.timerDidFire_of_expirationTimer hexp']
    apply updateExpirationWithDate_scheduled
    intro hsame
    -- the old date was pruned: every date left is at `now`, after it
    have hle := ZMTypingUsersTimeout.le_firstTimeout_prune w.typing.typingUserTimeout
      (hsame.trans (by simpa [w'] using hprune))
    have := hlate d hd
    omega
  · rw [w.fire_of_not_armed harmed]
    exact hs

/-- **Late runs keep the timer armed.**  In every run in which each timer
fires strictly after its date, `nextPruneDate` is the least timeout stored
and, whenever it is set, the expiration timer is armed for it. -/
theorem typing_late_run (timeout : Nat) (events : List (Event υ γ))
    (hlate : Guarded World.step FiresLate (World.init timeout) events) :
    let w := StepSystem.run World.step (World.init timeout) events
    w.typing.nextPruneDate = (w.typing.typingUserTimeout.timeouts.map (·.2)).min? ∧
      w.Scheduled := by
  have hrun : Good (StepSystem.run World.step (World.init timeout) events) ∧
      (StepSystem.run World.step (World.init timeout) events).Scheduled := by
    refine run_invariant_guarded (fun w => Good w ∧ w.Scheduled) ?_ events
      ⟨Good.init timeout, fun d hd => by simp [World.init, ZMTyping.init] at hd⟩ hlate
    rintro w (_ | _) ⟨h, hs⟩ hg
    · exact ⟨h.step _, hs.setIsTyping _ _ _ _⟩
    · exact ⟨h.step _, hs.fire h _ _ hg⟩
  refine ⟨?_, hrun.2⟩
  rw [hrun.1.nextPruneDate_eq, ZMTypingUsersTimeout.firstTimeout_eq_min?]

/-! ### A timer that fires on its date -/

omit [DecidableEq υ] [DecidableEq γ] in
/-- `updateExpirationWithDate:` returns at once when the date is
`nextPruneDate`. -/
theorem updateExpirationWithDate_of_eq {date : Option Nat} (h : date = w.typing.nextPruneDate) :
    w.updateExpirationWithDate date = w := if_pos h

/-- The first call on a fresh object: the user is stored until
`start + timeout` and timer `0` is armed for that date. -/
theorem setIsTyping_init (timeout start : Nat) (user : υ) (conversation : γ) :
    let w : World υ γ := (World.init timeout).setIsTyping true user conversation start
    w.typing.typingUserTimeout = ⟨[(⟨user, conversation⟩, start + timeout)]⟩ ∧
      w.typing.expirationTimer = some 0 ∧ w.typing.nextPruneDate = some (start + timeout) ∧
      w.armed = [(0, start + timeout)] :=
  ⟨rfl, rfl, rfl, rfl⟩

/-- With nothing armed, firings do nothing, and each trivially fires on time. -/
theorem fires_of_armed_nil (hw : w.armed = []) (later : List (Event υ γ))
    (hfires : ∀ e ∈ later, ∃ timer now, e = .fire timer now) :
    Guarded World.step FiresOnTime w later ∧ StepSystem.run World.step w later = w := by
  induction later with
  | nil => exact ⟨trivial, rfl⟩
  | cons e later ih =>
    obtain ⟨timer, now, rfl⟩ := hfires e (List.mem_cons_self ..)
    have hstep : w.step (.fire timer now) = w := w.fire_of_not_armed (by simp [hw])
    obtain ⟨hguarded, hrun⟩ := ih fun e he => hfires e (List.mem_cons_of_mem _ he)
    refine ⟨⟨fun d hd => by simp [hw] at hd, ?_⟩, ?_⟩
    · rw [hstep]
      exact hguarded
    · rw [StepSystem.run_cons, hstep]
      exact hrun

/-- **A typing user whose timer fires on its date never times out.**  A user
starts typing at `start`; the timer armed for `start + timeout` fires at that
date, as the firing guard allows.  The prune removes only timeouts strictly
before it, so the user is still typing; the first timeout is still
`nextPruneDate`, so `updateExpirationWithDate:` arms nothing.  No later firing
does anything, and the user stays typing with no timer armed. -/
theorem typing_expiry_lost_at_prune_date (timeout start : Nat) (user : υ) (conversation : γ)
    (later : List (Event υ γ)) (hfires : ∀ e ∈ later, ∃ timer now, e = .fire timer now) :
    let events := [.setIsTyping true user conversation start, .fire 0 (start + timeout)] ++ later
    let w := StepSystem.run World.step (World.init timeout) events
    Guarded World.step FiresOnTime (World.init timeout) events ∧
      w.typing.typingUserTimeout.containsUser user conversation = true ∧
      w.typing.nextPruneDate = some (start + timeout) ∧ w.armed = [] := by
  intro events
  obtain ⟨ht₁, hexp₁, hprune₁, harmed₁⟩ := setIsTyping_init timeout start user conversation
  set w₁ : World υ γ := (World.init timeout).setIsTyping true user conversation start with hw₁
  have hgood₁ : Good w₁ := (Good.init timeout).setIsTyping true user conversation start
  -- the firing at the stored date prunes nothing, so the date is unchanged and nothing is armed
  have hpruned : w₁.typing.typingUserTimeout.pruneConversationsThatHaveTimedOutAfter
      (start + timeout) = ([], w₁.typing.typingUserTimeout) := by
    rw [ht₁]
    simp [ZMTypingUsersTimeout.pruneConversationsThatHaveTimedOutAfter]
  have hw₂ : w₁.fire 0 (start + timeout) = { w₁ with armed := [] } := by
    rw [fire_of_armed hgood₁ (by simp [harmed₁]),
      timerDidFire_of_expirationTimer ({ w₁ with armed := [] } : World υ γ) hexp₁]
    simp only [hpruned, List.map_nil, List.append_nil]
    exact updateExpirationWithDate_of_eq hgood₁.nextPruneDate_eq.symm
  have hrun₂ : StepSystem.run World.step (World.init timeout)
      [.setIsTyping true user conversation start, .fire 0 (start + timeout)] =
        { w₁ with armed := [] } := by
    simp only [StepSystem.run_cons, StepSystem.run_nil, World.step]
    exact hw₂
  have hnil : ({ w₁ with armed := [] } : World υ γ).armed = [] := rfl
  obtain ⟨hguarded, hrun⟩ := fires_of_armed_nil hnil later hfires
  refine ⟨?_, ?_⟩
  · rw [guarded_append, hrun₂]
    refine ⟨⟨trivial, fun d hd => ?_, trivial⟩, hguarded⟩
    -- the only timer armed is timer `0`, for `start + timeout`
    have hd₁ : (0, d) ∈ w₁.armed := hd
    rw [harmed₁, List.mem_singleton, Prod.mk.injEq] at hd₁
    omega
  · rw [StepSystem.run_append, hrun₂, hrun]
    refine ⟨?_, hprune₁, rfl⟩
    rw [ZMTypingUsersTimeout.containsUser_iff]
    simp [ht₁, ZMTypingUsersTimeout.keys]

theorem typing_expiry_lost_at_default_timeout :
    (∀ e ∈ ([] : List (Event Nat Nat)), ∃ timer now, e = .fire timer now) ∧
      let events : List (Event Nat Nat) :=
        [.setIsTyping true 0 0 0, .fire 0 (0 + ZMTypingDefaultTimeout)] ++ []
      let w := StepSystem.run World.step (World.init ZMTypingDefaultTimeout) events
      Guarded World.step FiresOnTime (World.init ZMTypingDefaultTimeout) events ∧
        w.typing.typingUserTimeout.containsUser 0 0 = true ∧
        w.typing.nextPruneDate = some (0 + ZMTypingDefaultTimeout) ∧ w.armed = [] :=
  ⟨by simp, typing_expiry_lost_at_prune_date ZMTypingDefaultTimeout 0 (0 : Nat) (0 : Nat) []
    (by simp)⟩

end World

end Typing

end ZMessaging
