import Mathlib.Data.Finset.Card
import ZMessaging.DownstreamObjectSync

/-!
# Downloading the missing events of conversations

`ZMIncompleteConversationsCache` keeps the conversations with a gap in their
events as an ordered set, `conversationsToFetch`, and a set of whitelisted
ones among them.  `whitelistTopConversationsIfIncomplete` sorts the ordered
set and whitelists its first five conversations that are neither archived nor
with a blocked user; a conversation whose visible window has a gap is
whitelisted and moved to the top (replacing the one whitelisted conversation,
if there is exactly one other).  The cache hears of changed conversations
through the context's change tracking, and of visible windows and requests to
load events through notifications whose handlers queue a block on the sync
context.

`IncompleteConversationsDownstreamSync` turns the cache into requests.  It
takes the first whitelisted conversation not being fetched (high priority);
when there is none, and the full history is wanted and more than the
cool-down has passed since the last such request, the first other
conversation not being fetched (low priority).  A conversation is being
fetched from its request until that request's completion handler runs, which
hands the response to the transcoder's `updateRange:conversation:response:`
unless it is `tryAgainLater`.

The data model the two read (a conversation's gaps, whether a range is empty,
the sort order) belongs to ZMCDataModel and is a parameter of the model,
which other code may replace at any time.  The results, over every
interleaving of data changes, change notifications, visible-window and load
notifications and their blocks, requests, responses, whitelisting and
teardown:
* the conversations being fetched are those of the requests in flight, one
  request each (`Good.step`, through `StepSystem.Tracks`);
* the whitelisted conversations are all in the ordered set of conversations
  to fetch (`ZMIncompleteConversationsCache.Changes`);
* low priority requests are more than the cool-down apart;
* a request to load a conversation's events puts it first: the next request
  is for it;
* a request to load the events of a whitelisted conversation whose window is
  complete drops it from the conversations to fetch even when its history
  still has a gap, where a change notification would have kept it; after
  that, no request for it goes out until an event names it again.
-/

namespace ZMessaging

open StepSystem

variable {γ ρ : Type*}

/-- What the cache and the sync read of the data model, `ZMConversation` and
`ZMEventIDRange` of ZMCDataModel.  A gap is the range of events missing from
a conversation, in its whole history or within a visible window. -/
structure ConversationDataModel (γ ρ : Type*) where
  lastEventIDGap : γ → Option ρ
  lastEventIDGapForVisibleWindow : γ → Option ρ → Option ρ
  /-- `ZMEventIDRange.empty` -/
  empty : ρ → Bool
  isArchived : γ → Bool
  /-- `conversation.connectedUser.isBlocked`, `NO` without a connected user -/
  connectedUserIsBlocked : γ → Bool
  /-- `conversation.entity == conversationEntity`, for any changed object -/
  isConversationEntity : γ → Bool
  /-- the order of `[ZMConversation defaultSortDescriptors]` -/
  defaultSortDescriptors : γ → γ → Bool

/-- `gap != nil && !gap.empty`. -/
def ConversationDataModel.hasGap (model : ConversationDataModel γ ρ) : Option ρ → Bool
  | some gap => !model.empty gap
  | none => false

/-- The notifications the cache posts, with the conversation in their
`userInfo`. -/
inductive ZMConversationFetchingNotification (γ : Type*)
  /-- `ZMConversationWillStartFetchingMessages` -/
  | willStartFetchingMessages (conversation : γ)
  /-- `ZMConversationDidFinishFetchingMessages` -/
  | didFinishFetchingMessages (conversation : γ)
  deriving DecidableEq, Repr

/-- `ZMIncompleteConversationsCache`.  `conversationsToFetch` is an
`NSMutableOrderedSet`; the windows are keyed by the conversation's object. -/
structure ZMIncompleteConversationsCache (γ ρ : Type*) where
  conversationsToFetch : List γ
  whitelistedConversations : Finset γ
  conversationWindows : γ → Option ρ
  tornDown : Bool

/-- `ConversationPriorityCount`. -/
def ConversationPriorityCount : Nat := 5

namespace ZMIncompleteConversationsCache

/-! ### What an operation may do -/

/-- The shape the cache keeps: the whitelisted conversations are among the
conversations to fetch, which form an ordered set. -/
structure WellFormed (cache : ZMIncompleteConversationsCache γ ρ) : Prop where
  whitelisted : ∀ x ∈ cache.whitelistedConversations, x ∈ cache.conversationsToFetch
  nodup : cache.conversationsToFetch.Nodup

/-- What an operation may do to the cache: keep its shape, and add to the
conversations to fetch only conversations that `touched` names. -/
structure Changes (cache cache' : ZMIncompleteConversationsCache γ ρ) (touched : γ → Prop) :
    Prop where
  wellFormed : WellFormed cache → WellFormed cache'
  adds : ∀ x ∈ cache'.conversationsToFetch, x ∈ cache.conversationsToFetch ∨ touched x

section

variable {cache : ZMIncompleteConversationsCache γ ρ}

theorem Changes.refl (touched : γ → Prop) : Changes cache cache touched :=
  ⟨id, fun _ hx => Or.inl hx⟩

/-- An operation that leaves the conversations to fetch alone and may only
take conversations off the whitelist, such as setting a window or
`tearDown`. -/
theorem Changes.of_subset {cache' : ZMIncompleteConversationsCache γ ρ} (touched : γ → Prop)
    (hfetch : cache'.conversationsToFetch = cache.conversationsToFetch)
    (hwhitelist : cache'.whitelistedConversations ⊆ cache.whitelistedConversations) :
    Changes cache cache' touched where
  wellFormed h := ⟨fun x hx => hfetch ▸ h.whitelisted x (hwhitelist hx), hfetch ▸ h.nodup⟩
  adds _ hx := Or.inl (hfetch ▸ hx)

theorem Changes.trans {cache₁ cache₂ : ZMIncompleteConversationsCache γ ρ}
    {touched : γ → Prop}
    (h₁ : Changes cache cache₁ touched) (h₂ : Changes cache₁ cache₂ touched) :
    Changes cache cache₂ touched where
  wellFormed h := h₂.wellFormed (h₁.wellFormed h)
  adds x hx := (h₂.adds x hx).elim (h₁.adds x) Or.inr

theorem Changes.mono {cache' : ZMIncompleteConversationsCache γ ρ}
    {touched touched' : γ → Prop}
    (h : Changes cache cache' touched) (htouched : ∀ x, touched x → touched' x) :
    Changes cache cache' touched' :=
  ⟨h.wellFormed, fun x hx => (h.adds x hx).imp_right (htouched x)⟩

/-- A loop over objects whose every pass may add only its own object. -/
theorem Changes.foldl {β : Type*} (cacheOf : β → ZMIncompleteConversationsCache γ ρ)
    (body : β → γ → β) (hbody : ∀ b x, Changes (cacheOf b) (cacheOf (body b x)) (· = x)) :
    ∀ (objects : List γ) (b : β),
      Changes (cacheOf b) (cacheOf (objects.foldl body b)) (· ∈ objects)
  | [], _ => Changes.refl _
  | x :: objects, b => by
    rw [List.foldl_cons]
    have hfirst : Changes (cacheOf b) (cacheOf (body b x)) (· ∈ x :: objects) :=
      (hbody b x).mono fun y hy => by
        subst hy
        exact List.mem_cons_self
    have hrest := (Changes.foldl cacheOf body hbody objects (body b x)).mono
      fun y hy => List.mem_cons_of_mem x hy
    exact hfirst.trans hrest

end

variable [DecidableEq γ] (model : ConversationDataModel γ ρ)
  (cache : ZMIncompleteConversationsCache γ ρ)

/-- `initWithContext:`. -/
def initWithContext : ZMIncompleteConversationsCache γ ρ := ⟨[], ∅, fun _ => none, false⟩

/-- `tearDown`; that it also removes the notification observers is the
world's. -/
def tearDown : ZMIncompleteConversationsCache γ ρ := { cache with tornDown := true }

/-- `addTrackedObjects:`. -/
def addTrackedObjects (objects : List γ) : ZMIncompleteConversationsCache γ ρ :=
  objects.foldl (fun cache conversation =>
    if model.hasGap (model.lastEventIDGapForVisibleWindow conversation none) then
      { cache with conversationsToFetch := orderedSetAdd cache.conversationsToFetch conversation }
    else cache) cache

/-- `whitelistTopConversationsIfIncomplete`: the ordered set is sorted in
place, and the first conversations of it that are neither archived nor with
a blocked user are added to the whitelist. -/
def whitelistTopConversationsIfIncomplete : ZMIncompleteConversationsCache γ ρ :=
  if cache.conversationsToFetch.length = 0 then cache
  else
    let sorted := cache.conversationsToFetch.mergeSort model.defaultSortDescriptors
    let conversationsToFetch := sorted.filter fun conversation =>
      !model.isArchived conversation && !model.connectedUserIsBlocked conversation
    let length := min conversationsToFetch.length ConversationPriorityCount
    { cache with
      conversationsToFetch := sorted
      whitelistedConversations :=
        cache.whitelistedConversations ∪ (conversationsToFetch.take length).toFinset }

/-- `removeConversationToFetch:`. -/
def removeConversationToFetch (conversation : γ) : ZMIncompleteConversationsCache γ ρ :=
  { cache with
    conversationsToFetch := cache.conversationsToFetch.erase conversation
    whitelistedConversations := cache.whitelistedConversations.erase conversation }

/-- `moveConversationToTopFetchPriority:`; the operation loop's wake-up it
posts changes no state. -/
def moveConversationToTopFetchPriority (conversation : γ) : ZMIncompleteConversationsCache γ ρ :=
  let conversationsToFetch :=
    if conversation ∈ cache.conversationsToFetch then
      cache.conversationsToFetch.erase conversation
    else cache.conversationsToFetch
  { cache with conversationsToFetch := conversation :: conversationsToFetch }

/-- `replaceOrAddCurrentlyWhitelistedConversationIfNeeded:`. -/
def replaceOrAddCurrentlyWhitelistedConversationIfNeeded (conversation : γ) :
    ZMIncompleteConversationsCache γ ρ :=
  let whitelistedConversations :=
    if cache.whitelistedConversations.card = 1 ∧
        conversation ∉ cache.whitelistedConversations then ∅
    else cache.whitelistedConversations
  { cache with whitelistedConversations := insert conversation whitelistedConversations }

/-- `processConversationWhitelistingAndFetching:`, with the notification it
posts. -/
def processConversationWhitelistingAndFetching (conversation : γ) :
    ZMIncompleteConversationsCache γ ρ × ZMConversationFetchingNotification γ :=
  if !model.hasGap (model.lastEventIDGap conversation) then
    (cache.removeConversationToFetch conversation, .didFinishFetchingMessages conversation)
  else
    let cache :=
      { cache with conversationsToFetch := orderedSetAdd cache.conversationsToFetch conversation }
    let windowHasGap :=
      match cache.conversationWindows conversation with
      | some window =>
        model.hasGap (model.lastEventIDGapForVisibleWindow conversation (some window))
      | none => false
    if windowHasGap then
      ((cache.replaceOrAddCurrentlyWhitelistedConversationIfNeeded conversation
          ).moveConversationToTopFetchPriority conversation,
        .willStartFetchingMessages conversation)
    else
      ({ cache with
          whitelistedConversations := cache.whitelistedConversations.erase conversation },
        .didFinishFetchingMessages conversation)

/-- `objectsDidChange:`, with the notifications it posts. -/
def objectsDidChange (objects : List γ) :
    ZMIncompleteConversationsCache γ ρ × List (ZMConversationFetchingNotification γ) :=
  objects.foldl (fun (done : ZMIncompleteConversationsCache γ ρ × List _) conversation =>
    if !model.isConversationEntity conversation then done
    else
      let processed := done.1.processConversationWhitelistingAndFetching model conversation
      (processed.1, done.2 ++ [processed.2])) (cache, [])

/-- The block `windowSizeChanged:` queues on the context, for the window
`windowFromVisibleWindowNotification:` read off the notification. -/
def windowSizeChanged (conversationID : γ) (window : Option ρ) :
    ZMIncompleteConversationsCache γ ρ × Option (ZMConversationFetchingNotification γ) :=
  if cache.tornDown then (cache, none)
  else
    match window with
    | none =>
      ({ cache with
          conversationWindows := Function.update cache.conversationWindows conversationID none
          whitelistedConversations := cache.whitelistedConversations.erase conversationID },
        none)
    | some window =>
      let cache := { cache with
        conversationWindows :=
          Function.update cache.conversationWindows conversationID (some window) }
      let processed := cache.processConversationWhitelistingAndFetching model conversationID
      (processed.1, some processed.2)

/-- `gapForConversation:`. -/
def gapForConversation (conversation : γ) : Option ρ :=
  if conversation ∉ cache.whitelistedConversations then model.lastEventIDGap conversation
  else model.lastEventIDGapForVisibleWindow conversation (cache.conversationWindows conversation)

/-- The block `fetchConversation:` queues on the context.  Unlike the block
of `windowSizeChanged:`, it does not look at `tornDown`. -/
def fetchConversation (conversationID : γ) : ZMIncompleteConversationsCache γ ρ :=
  if model.hasGap (cache.gapForConversation model conversationID) then
    (cache.replaceOrAddCurrentlyWhitelistedConversationIfNeeded conversationID
      ).moveConversationToTopFetchPriority conversationID
  else if conversationID ∈ cache.conversationsToFetch then
    cache.removeConversationToFetch conversationID
  else cache

/-- `incompleteNonWhitelistedConversations`. -/
def incompleteNonWhitelistedConversations : List γ :=
  cache.conversationsToFetch.filter (· ∉ cache.whitelistedConversations)

/-- `incompleteWhitelistedConversations`. -/
def incompleteWhitelistedConversations : List γ :=
  cache.conversationsToFetch.filter (· ∈ cache.whitelistedConversations)

/-! ### Field lemmas -/

@[simp] theorem removeConversationToFetch_conversationsToFetch (conversation : γ) :
    (cache.removeConversationToFetch conversation).conversationsToFetch =
      cache.conversationsToFetch.erase conversation := rfl

@[simp] theorem removeConversationToFetch_whitelistedConversations (conversation : γ) :
    (cache.removeConversationToFetch conversation).whitelistedConversations =
      cache.whitelistedConversations.erase conversation := rfl

@[simp] theorem moveConversationToTopFetchPriority_whitelistedConversations (conversation : γ) :
    (cache.moveConversationToTopFetchPriority conversation).whitelistedConversations =
      cache.whitelistedConversations := rfl

@[simp] theorem moveConversationToTopFetchPriority_conversationWindows (conversation : γ) :
    (cache.moveConversationToTopFetchPriority conversation).conversationWindows =
      cache.conversationWindows := rfl

@[simp] theorem replaceOrAdd_conversationsToFetch (conversation : γ) :
    (cache.replaceOrAddCurrentlyWhitelistedConversationIfNeeded conversation).conversationsToFetch =
      cache.conversationsToFetch := rfl

@[simp] theorem replaceOrAdd_conversationWindows (conversation : γ) :
    (cache.replaceOrAddCurrentlyWhitelistedConversationIfNeeded conversation).conversationWindows =
      cache.conversationWindows := rfl

@[simp] theorem mem_moveConversationToTopFetchPriority {conversation x : γ} :
    x ∈ (cache.moveConversationToTopFetchPriority conversation).conversationsToFetch ↔
      x = conversation ∨ x ∈ cache.conversationsToFetch := by
  unfold moveConversationToTopFetchPriority
  by_cases hx : x = conversation
  · simp [hx]
  · split <;> simp [hx, List.mem_erase_of_ne hx]

theorem nodup_moveConversationToTopFetchPriority (conversation : γ)
    (hnodup : cache.conversationsToFetch.Nodup) :
    (cache.moveConversationToTopFetchPriority conversation).conversationsToFetch.Nodup := by
  unfold moveConversationToTopFetchPriority
  split
  · exact List.nodup_cons.mpr ⟨hnodup.not_mem_erase, hnodup.erase conversation⟩
  · exact List.nodup_cons.mpr ⟨‹_›, hnodup⟩

@[simp] theorem mem_replaceOrAdd_whitelistedConversations {conversation x : γ} :
    x ∈ (cache.replaceOrAddCurrentlyWhitelistedConversationIfNeeded
      conversation).whitelistedConversations ↔
      x = conversation ∨
        x ∈ cache.whitelistedConversations ∧
          ¬(cache.whitelistedConversations.card = 1 ∧
            conversation ∉ cache.whitelistedConversations) := by
  unfold replaceOrAddCurrentlyWhitelistedConversationIfNeeded
  split <;> simp_all

omit [DecidableEq γ] in
theorem WellFormed.initWithContext :
    WellFormed (initWithContext : ZMIncompleteConversationsCache γ ρ) :=
  ⟨fun _ hx => absurd hx (Finset.notMem_empty _), List.nodup_nil⟩

variable {cache}

theorem changes_orderedSetAdd (conversation : γ) :
    Changes cache
      { cache with conversationsToFetch := orderedSetAdd cache.conversationsToFetch conversation }
      (· = conversation) where
  wellFormed h := ⟨fun x hx => mem_orderedSetAdd.mpr (Or.inl (h.whitelisted x hx)),
    nodup_orderedSetAdd h.nodup conversation⟩
  adds _ hx := mem_orderedSetAdd.mp hx

theorem changes_eraseWhitelisted (conversation : γ) (touched : γ → Prop) :
    Changes cache
      { cache with
        whitelistedConversations := cache.whitelistedConversations.erase conversation }
      touched :=
  Changes.of_subset touched rfl (Finset.erase_subset _ _)

theorem changes_removeConversationToFetch (conversation : γ) (touched : γ → Prop) :
    Changes cache (cache.removeConversationToFetch conversation) touched where
  wellFormed h := by
    refine ⟨fun x hx => ?_, h.nodup.erase conversation⟩
    obtain ⟨hne, hx⟩ := Finset.mem_erase.mp hx
    exact (List.mem_erase_of_ne hne).mpr (h.whitelisted x hx)
  adds _ hx := Or.inl (List.mem_of_mem_erase hx)

/-- Whitelisting a conversation and moving it to the top, as both the window
and the load paths do. -/
theorem changes_moveToTop_replaceOrAdd (conversation : γ) :
    Changes cache
      ((cache.replaceOrAddCurrentlyWhitelistedConversationIfNeeded conversation
        ).moveConversationToTopFetchPriority conversation)
      (· = conversation) where
  wellFormed h := by
    refine ⟨fun x hx => ?_, nodup_moveConversationToTopFetchPriority _ conversation h.nodup⟩
    rw [moveConversationToTopFetchPriority_whitelistedConversations,
      mem_replaceOrAdd_whitelistedConversations] at hx
    rw [mem_moveConversationToTopFetchPriority, replaceOrAdd_conversationsToFetch]
    exact hx.imp_right fun hx => h.whitelisted x hx.1
  adds x hx := by
    rw [mem_moveConversationToTopFetchPriority, replaceOrAdd_conversationsToFetch] at hx
    exact hx.symm

variable (cache)

theorem changes_addTrackedObjects (objects : List γ) :
    Changes cache (cache.addTrackedObjects model objects) (· ∈ objects) := by
  refine Changes.foldl id _ (fun cache conversation => ?_) objects cache
  dsimp only [id]
  split
  · exact changes_orderedSetAdd conversation
  · exact Changes.refl _

theorem changes_processConversationWhitelistingAndFetching (conversation : γ) :
    Changes cache (cache.processConversationWhitelistingAndFetching model conversation).1
      (· = conversation) := by
  unfold processConversationWhitelistingAndFetching
  split
  · exact changes_removeConversationToFetch conversation _
  · -- the conversation is added, then whitelisted and moved up or taken off the whitelist
    refine (changes_orderedSetAdd conversation).trans ?_
    dsimp only
    split
    · exact changes_moveToTop_replaceOrAdd conversation
    · exact changes_eraseWhitelisted conversation _

theorem changes_objectsDidChange (objects : List γ) :
    Changes cache (cache.objectsDidChange model objects).1 (· ∈ objects) := by
  refine Changes.foldl Prod.fst _ (fun done conversation => ?_) objects (cache, [])
  split
  · exact Changes.refl _
  · exact changes_processConversationWhitelistingAndFetching model done.1 conversation

theorem changes_windowSizeChanged (conversationID : γ) (window : Option ρ) :
    Changes cache (cache.windowSizeChanged model conversationID window).1
      (· = conversationID) := by
  unfold windowSizeChanged
  split
  · exact Changes.refl _
  · split
    · exact Changes.of_subset _ rfl (Finset.erase_subset _ _)
    · -- the window is recorded, then the conversation is processed
      rename_i window
      dsimp only
      refine (Changes.of_subset _ ?_ ?_).trans
        (changes_processConversationWhitelistingAndFetching model
          { cache with
            conversationWindows :=
              Function.update cache.conversationWindows conversationID (some window) }
          conversationID)
      · rfl
      · exact subset_rfl

theorem changes_fetchConversation (conversationID : γ) :
    Changes cache (cache.fetchConversation model conversationID) (· = conversationID) := by
  unfold fetchConversation
  split
  · exact changes_moveToTop_replaceOrAdd conversationID
  · split
    · exact changes_removeConversationToFetch conversationID _
    · exact Changes.refl _

theorem changes_whitelistTopConversationsIfIncomplete :
    Changes cache (cache.whitelistTopConversationsIfIncomplete model) fun _ => False := by
  unfold whitelistTopConversationsIfIncomplete
  split
  · exact Changes.refl _
  · -- the sorted set is a permutation of the old one, and what is whitelisted is taken from it
    have hperm := List.mergeSort_perm cache.conversationsToFetch model.defaultSortDescriptors
    refine ⟨fun h => ⟨fun x hx => ?_, hperm.nodup_iff.mpr h.nodup⟩,
      fun x hx => Or.inl (hperm.mem_iff.mp hx)⟩
    rcases Finset.mem_union.mp hx with hx | hx
    · exact hperm.mem_iff.mpr (h.whitelisted x hx)
    · exact List.mem_of_mem_filter (List.mem_of_mem_take (List.mem_toFinset.mp hx))

omit [DecidableEq γ] in
theorem changes_tearDown : Changes cache cache.tearDown fun _ => False :=
  Changes.of_subset _ rfl subset_rfl

/-- A promoted conversation heads the whitelisted conversations to fetch. -/
theorem incompleteWhitelistedConversations_moveToTop_replaceOrAdd (conversation : γ) :
    ∃ rest, ((cache.replaceOrAddCurrentlyWhitelistedConversationIfNeeded conversation
      ).moveConversationToTopFetchPriority conversation).incompleteWhitelistedConversations =
        conversation :: rest := by
  unfold incompleteWhitelistedConversations moveConversationToTopFetchPriority
  exact ⟨_, List.filter_cons_of_pos (by simp)⟩

/-- The gap of a promoted conversation is the one of its window. -/
theorem gapForConversation_moveToTop_replaceOrAdd (conversation : γ) :
    ((cache.replaceOrAddCurrentlyWhitelistedConversationIfNeeded conversation
      ).moveConversationToTopFetchPriority conversation).gapForConversation model conversation =
        model.lastEventIDGapForVisibleWindow conversation
          (cache.conversationWindows conversation) := by
  unfold gapForConversation
  rw [if_neg (by simp)]
  rfl

/-- With the whitelist inside the conversations to fetch, the whitelisted
conversations to fetch are exactly the whitelist. -/
theorem WellFormed.incompleteWhitelistedConversations_toFinset (h : cache.WellFormed) :
    cache.incompleteWhitelistedConversations.toFinset = cache.whitelistedConversations := by
  ext x
  rw [List.mem_toFinset, incompleteWhitelistedConversations, List.mem_filter, decide_eq_true_eq]
  exact ⟨fun hx => hx.2, fun hx => ⟨h.whitelisted x hx, hx⟩⟩

end ZMIncompleteConversationsCache

/-- What the transcoder's `updateRange:conversation:response:` does to the
data model: it processes the downloaded events of a success (filling the gap
with them, or the whole gap when none of them was new), and fills the gap
after a permanent error so that it is not downloaded again. -/
inductive DownloadedEventsUpdate (γ ρ : Type*)
  | processEventData (conversation : γ) (gap : ρ)
  | addEventRangeToDownloadedEvents (conversation : γ) (gap : ρ)
  deriving DecidableEq, Repr

namespace ZMConversationEventsTranscoder

/-- `ZMLowPriorityEventsDownloadCooldown`, in seconds: the cool-down the
transcoder gives its sync. -/
def ZMLowPriorityEventsDownloadCooldown : Nat := 15

/-- `updateRange:conversation:response:`. -/
def updateRange (gap : ρ) (conversation : γ) (result : ZMTransportResponseStatus) :
    Option (DownloadedEventsUpdate γ ρ) :=
  if result = .success then some (.processEventData conversation gap)
  else if result = .permanentError then some (.addEventRangeToDownloadedEvents conversation gap)
  else none

end ZMConversationEventsTranscoder

/-- `IncompleteConversationsDownstreamSync`.  Its request encoder and
response parser are the transcoder that owns it; dates are in seconds. -/
structure IncompleteConversationsDownstreamSync (γ : Type*) where
  conversationsBeingFetched : Finset γ
  lowPriorityRequestsCooldownInterval : Nat
  lastLowPriorityDownloadDate : Nat

namespace IncompleteConversationsDownstreamSync

/-- `DownloadEntireHistory`. -/
def DownloadEntireHistory : Bool := true

/-- `init(requestEncoder:responseParser:conversationsCache:`
`historySynchronizationStatus:lowPriorityRequestsCooldownInterval:managedObjectContext:)`;
the last low priority download is dated 1970. -/
def init (lowPriorityRequestsCooldownInterval : Nat) : IncompleteConversationsDownstreamSync γ :=
  ⟨∅, lowPriorityRequestsCooldownInterval, 0⟩

variable [DecidableEq γ] (sync : IncompleteConversationsDownstreamSync γ)
  (cache : ZMIncompleteConversationsCache γ ρ) (model : ConversationDataModel γ ρ)

/-- The body both priorities share: the first of `conversations` that is not
being fetched, with its gap; `nil` if that conversation has none. -/
def conversationAndGap (conversations : List γ) : Option (γ × ρ) :=
  match ZMSyncOperationSet.firstObjectNotInSet conversations sync.conversationsBeingFetched with
  | some conversation => (cache.gapForConversation model conversation).map (conversation, ·)
  | none => none

/-- `highPriorityConversationAndGap()`. -/
def highPriorityConversationAndGap : Option (γ × ρ) :=
  sync.conversationAndGap cache model cache.incompleteWhitelistedConversations

/-- `lowPriorityConversationAndGap()`. -/
def lowPriorityConversationAndGap : Option (γ × ρ) :=
  sync.conversationAndGap cache model cache.incompleteNonWhitelistedConversations

/-- `resetCooldown()`; the timer it starts only wakes the operation loop up
once the cool-down has passed. -/
def resetCooldown (now : Nat) : IncompleteConversationsDownstreamSync γ :=
  { sync with lastLowPriorityDownloadDate := now }

/-- `nextConversationWithGap()`, at time `now`; `shouldDownloadFullHistory`
is the history synchronization status's. -/
def nextConversationWithGap (now : Nat) (shouldDownloadFullHistory : Bool) :
    IncompleteConversationsDownstreamSync γ × Option (γ × ρ) :=
  match sync.highPriorityConversationAndGap cache model with
  | some highPriorityGap => (sync, some highPriorityGap)
  | none =>
    if DownloadEntireHistory then
      let readyToDownloadHistory := shouldDownloadFullHistory
      let enoughTimeHasPassedForLowPriority :=
        decide (sync.lowPriorityRequestsCooldownInterval < now - sync.lastLowPriorityDownloadDate)
      if readyToDownloadHistory && enoughTimeHasPassedForLowPriority then
        match sync.lowPriorityConversationAndGap cache model with
        | some lowPriorityGap => (sync.resetCooldown now, some lowPriorityGap)
        | none => (sync, none)
      else (sync, none)
    else (sync, none)

/-- `nextRequest()`: the request is named by the conversation and gap its
completion handler captures. -/
def nextRequest (now : Nat) (shouldDownloadFullHistory : Bool) :
    IncompleteConversationsDownstreamSync γ × Option (γ × ρ) :=
  let next := sync.nextConversationWithGap cache model now shouldDownloadFullHistory
  match next.2 with
  | none => (next.1, none)
  | some conversationAndGap =>
    ({ next.1 with
        conversationsBeingFetched := insert conversationAndGap.1 next.1.conversationsBeingFetched },
      some conversationAndGap)

/-- The completion handler `nextRequest()` adds to its request, with what
the parser does to the data model. -/
def completionHandler (conversation : γ) (gapRange : ρ) (result : ZMTransportResponseStatus) :
    IncompleteConversationsDownstreamSync γ × Option (DownloadedEventsUpdate γ ρ) :=
  ({ sync with conversationsBeingFetched := sync.conversationsBeingFetched.erase conversation },
    if result ≠ .tryAgainLater then
      ZMConversationEventsTranscoder.updateRange gapRange conversation result
    else none)

variable {sync cache model}

/-- What the shared body hands out is one of the conversations it was given,
not being fetched, with the gap the cache gives it. -/
theorem conversationAndGap_mem {conversations : List γ} {conversation : γ} {gap : ρ}
    (h : sync.conversationAndGap cache model conversations = some (conversation, gap)) :
    conversation ∈ conversations ∧ conversation ∉ sync.conversationsBeingFetched ∧
      cache.gapForConversation model conversation = some gap := by
  unfold conversationAndGap ZMSyncOperationSet.firstObjectNotInSet at h
  split at h
  · rename_i first hfirst
    obtain ⟨gap', hgap, hpair⟩ := Option.map_eq_some_iff.mp h
    obtain ⟨rfl, rfl⟩ := Prod.mk.inj hpair
    exact ⟨List.mem_of_find?_eq_some hfirst, by simpa using List.find?_some hfirst, hgap⟩
  · exact absurd h (Option.some_ne_none _).symm

/-- A conversation at the head of the list that is not being fetched is the
one handed out. -/
theorem conversationAndGap_cons {conversation : γ} (conversations : List γ)
    (hfree : conversation ∉ sync.conversationsBeingFetched) :
    sync.conversationAndGap cache model (conversation :: conversations) =
      (cache.gapForConversation model conversation).map (conversation, ·) := by
  simp [conversationAndGap, ZMSyncOperationSet.firstObjectNotInSet, hfree]

end IncompleteConversationsDownstreamSync

namespace IncompleteConversations

open ZMIncompleteConversationsCache (Changes WellFormed)
open IncompleteConversationsDownstreamSync (conversationAndGap_mem conversationAndGap_cons)

/-- A block the cache's notification handlers queue on the sync context. -/
inductive CacheBlock (γ ρ : Type*)
  | windowSizeChanged (conversationID : γ) (window : Option ρ)
  | fetchConversation (conversationID : γ)

/-- The conversation a block is about. -/
def CacheBlock.conversationID : CacheBlock γ ρ → γ
  | .windowSizeChanged conversationID _ => conversationID
  | .fetchConversation conversationID => conversationID

/-- A request the sync handed out: its issue number, and the conversation and
gap its completion handler captured. -/
structure ConversationEventsRequest (γ ρ : Type*) where
  request : Nat
  conversation : γ
  gapRange : ρ

/-- The transcoder's cache and sync, the data model they read, the blocks
waiting on the sync context, the requests in flight, and what was posted and
parsed.  `requested` and `lowPriorityRequests` are the log of every request
handed out and the times of those taken from the low priority
conversations. -/
structure World (γ ρ : Type*) where
  model : ConversationDataModel γ ρ
  cache : ZMIncompleteConversationsCache γ ρ
  sync : IncompleteConversationsDownstreamSync γ
  /-- oldest first -/
  blocks : List (CacheBlock γ ρ)
  inFlight : List (ConversationEventsRequest γ ρ)
  requested : List (ConversationEventsRequest γ ρ)
  lowPriorityRequests : List Nat
  notifications : List (ZMConversationFetchingNotification γ)
  downloadedEventsUpdates : List (DownloadedEventsUpdate γ ρ)
  now : Nat

/-- What can happen next. -/
inductive Event (γ ρ : Type*)
  /-- Time passes. -/
  | tick (elapsed : Nat)
  /-- Other code writes the data model: events arrive, gaps are filled,
  conversations are archived or reordered. -/
  | dataChanged (model : ConversationDataModel γ ρ)
  | addTrackedObjects (objects : List γ)
  | objectsDidChange (objects : List γ)
  /-- The transcoder's `downloadTopIncompleteConversations`. -/
  | downloadTopIncompleteConversations
  /-- `ZMConversationDidChangeVisibleWindowNotification` is posted, with the
  window `windowFromVisibleWindowNotification:` reads off it. -/
  | visibleWindowChanged (conversation : γ) (window : Option ρ)
  /-- `ZMConversationRequestToLoadConversationEventsNotification` is posted. -/
  | requestToLoadConversationEvents (conversation : γ)
  /-- The sync context runs the oldest block a handler queued. -/
  | performGroupedBlock
  | nextRequest (shouldDownloadFullHistory : Bool)
  /-- A request's completion handler runs. -/
  | complete (request : Nat) (result : ZMTransportResponseStatus)
  | tearDown

/-- The events that name a conversation: they report it tracked or changed,
or post a notification about it. -/
def Event.Names : Event γ ρ → γ → Prop
  | .addTrackedObjects objects, conversation => conversation ∈ objects
  | .objectsDidChange objects, conversation => conversation ∈ objects
  | .visibleWindowChanged named _, conversation => named = conversation
  | .requestToLoadConversationEvents named, conversation => named = conversation
  | _, _ => False

variable [DecidableEq γ]

namespace World

/-- The transcoder's `initWithConversationsCache:historySynchronizationStatus:syncStrategy:`
with a fresh cache, at time `now`. -/
def init (model : ConversationDataModel γ ρ) (now lowPriorityRequestsCooldownInterval : Nat) :
    World γ ρ :=
  { model, cache := .initWithContext, sync := .init lowPriorityRequestsCooldownInterval,
    blocks := [], inFlight := [], requested := [], lowPriorityRequests := [], notifications := [],
    downloadedEventsUpdates := [], now }

variable (w : World γ ρ)

/-- A notification reaches its handler, which queues its block, unless
`tearDown` removed the cache's observers. -/
def post (block : CacheBlock γ ρ) : World γ ρ :=
  if w.cache.tornDown then w else { w with blocks := w.blocks ++ [block] }

/-- A queued block runs. -/
def runBlock : CacheBlock γ ρ → World γ ρ
  | .windowSizeChanged conversationID window =>
    let changed := w.cache.windowSizeChanged w.model conversationID window
    { w with cache := changed.1, notifications := w.notifications ++ changed.2.toList }
  | .fetchConversation conversationID =>
    { w with cache := w.cache.fetchConversation w.model conversationID }

/-- The sync context runs the oldest queued block. -/
def performGroupedBlock : World γ ρ :=
  match w.blocks with
  | [] => w
  | block :: blocks => ({ w with blocks := blocks }).runBlock block

/-- The sync's `nextRequest()`; the request handed out goes in flight. -/
def nextRequest (shouldDownloadFullHistory : Bool) : World γ ρ :=
  let next := w.sync.nextRequest w.cache w.model w.now shouldDownloadFullHistory
  match next.2 with
  | none => { w with sync := next.1 }
  | some (conversation, gapRange) =>
    let request : ConversationEventsRequest γ ρ :=
      ⟨w.requested.length, conversation, gapRange⟩
    { w with
      sync := next.1
      inFlight := w.inFlight ++ [request]
      requested := w.requested ++ [request]
      lowPriorityRequests :=
        if (w.sync.highPriorityConversationAndGap w.cache w.model).isNone then
          w.lowPriorityRequests ++ [w.now]
        else w.lowPriorityRequests }

/-- The completion handler of `request`, if it is in flight. -/
def complete (request : Nat) (result : ZMTransportResponseStatus) : World γ ρ :=
  match w.inFlight.find? (·.request = request) with
  | none => w
  | some r =>
    let handled := w.sync.completionHandler r.conversation r.gapRange result
    { w with
      sync := handled.1
      inFlight := w.inFlight.filter (·.request ≠ request)
      downloadedEventsUpdates := w.downloadedEventsUpdates ++ handled.2.toList }

/-- One event. -/
def step : Event γ ρ → World γ ρ
  | .tick elapsed => { w with now := w.now + elapsed }
  | .dataChanged model => { w with model := model }
  | .addTrackedObjects objects => { w with cache := w.cache.addTrackedObjects w.model objects }
  | .objectsDidChange objects =>
    let changed := w.cache.objectsDidChange w.model objects
    { w with cache := changed.1, notifications := w.notifications ++ changed.2 }
  | .downloadTopIncompleteConversations =>
    { w with cache := w.cache.whitelistTopConversationsIfIncomplete w.model }
  | .visibleWindowChanged conversation window => w.post (.windowSizeChanged conversation window)
  | .requestToLoadConversationEvents conversation => w.post (.fetchConversation conversation)
  | .performGroupedBlock => w.performGroupedBlock
  | .nextRequest shouldDownloadFullHistory => w.nextRequest shouldDownloadFullHistory
  | .complete request result => w.complete request result
  | .tearDown => { w with cache := w.cache.tearDown }

/-! ### What each event does -/

/-- `w'` differs from `w` at most on the cache's side: the cache, the queued
blocks and the notifications posted. -/
def CacheSide (w w' : World γ ρ) : Prop :=
  ∃ cache blocks notifications,
    w' = { w with cache := cache, blocks := blocks, notifications := notifications }

omit [DecidableEq γ] in
theorem cacheSide_post (block : CacheBlock γ ρ) : CacheSide w (w.post block) := by
  unfold post
  split
  · exact ⟨w.cache, w.blocks, w.notifications, rfl⟩
  · exact ⟨w.cache, _, w.notifications, rfl⟩

theorem cacheSide_performGroupedBlock : CacheSide w w.performGroupedBlock := by
  unfold performGroupedBlock
  split
  · exact ⟨w.cache, w.blocks, w.notifications, rfl⟩
  · rename_i block blocks _
    cases block <;> exact ⟨_, blocks, _, rfl⟩

@[simp] theorem nextRequest_cache (shouldDownloadFullHistory : Bool) :
    (w.nextRequest shouldDownloadFullHistory).cache = w.cache := by
  unfold nextRequest
  dsimp only
  rcases (w.sync.nextRequest w.cache w.model w.now shouldDownloadFullHistory).2 with
    _ | ⟨conversation, gapRange⟩ <;> rfl

@[simp] theorem complete_cache (request : Nat) (result : ZMTransportResponseStatus) :
    (w.complete request result).cache = w.cache := by
  unfold complete
  split <;> rfl

omit [DecidableEq γ] in
@[simp] theorem post_cache (block : CacheBlock γ ρ) : (w.post block).cache = w.cache := by
  unfold post
  split <;> rfl

omit [DecidableEq γ] in
@[simp] theorem post_blocks (block : CacheBlock γ ρ) :
    (w.post block).blocks = if w.cache.tornDown then w.blocks else w.blocks ++ [block] := by
  unfold post
  split <;> rfl

omit [DecidableEq γ] in
theorem mem_post_blocks {block posted : CacheBlock γ ρ} (h : block ∈ (w.post posted).blocks) :
    block ∈ w.blocks ∨ block = posted := by
  rw [post_blocks] at h
  split at h
  · exact Or.inl h
  · exact (List.mem_append.mp h).imp_right List.mem_singleton.mp

@[simp] theorem performGroupedBlock_blocks : w.performGroupedBlock.blocks = w.blocks.tail := by
  unfold performGroupedBlock
  split
  · rename_i hblocks
    rw [hblocks]
    rfl
  · rename_i block blocks hblocks
    rw [hblocks]
    cases block <;> rfl

@[simp] theorem nextRequest_blocks (shouldDownloadFullHistory : Bool) :
    (w.nextRequest shouldDownloadFullHistory).blocks = w.blocks := by
  unfold nextRequest
  dsimp only
  rcases (w.sync.nextRequest w.cache w.model w.now shouldDownloadFullHistory).2 with
    _ | ⟨conversation, gapRange⟩ <;> rfl

@[simp] theorem complete_blocks (request : Nat) (result : ZMTransportResponseStatus) :
    (w.complete request result).blocks = w.blocks := by
  unfold complete
  split <;> rfl

@[simp] theorem complete_requested (request : Nat) (result : ZMTransportResponseStatus) :
    (w.complete request result).requested = w.requested := by
  unfold complete
  split <;> rfl

/-- The conversations an event may add to the conversations to fetch: those
it names, or the one of the block it runs. -/
def Touches : Event γ ρ → γ → Prop
  | .addTrackedObjects objects => (· ∈ objects)
  | .objectsDidChange objects => (· ∈ objects)
  | .performGroupedBlock => fun x => ∃ block ∈ w.blocks.head?, block.conversationID = x
  | _ => fun _ => False

/-- What every event does to the cache. -/
theorem step_changes (e : Event γ ρ) : Changes w.cache (w.step e).cache (w.Touches e) := by
  cases e with
  | addTrackedObjects objects => exact w.cache.changes_addTrackedObjects w.model objects
  | objectsDidChange objects => exact w.cache.changes_objectsDidChange w.model objects
  | downloadTopIncompleteConversations =>
    exact (w.cache.changes_whitelistTopConversationsIfIncomplete w.model).mono fun _ h => h.elim
  | visibleWindowChanged conversation window =>
    show Changes w.cache (w.post _).cache _
    rw [post_cache]
    exact Changes.refl _
  | requestToLoadConversationEvents conversation =>
    show Changes w.cache (w.post _).cache _
    rw [post_cache]
    exact Changes.refl _
  | performGroupedBlock =>
    show Changes w.cache w.performGroupedBlock.cache _
    unfold performGroupedBlock
    split
    · exact Changes.refl _
    · -- the block at the head of the queue runs, and it may add its conversation
      rename_i block blocks hblocks
      have hhead : ∀ x, x = block.conversationID → w.Touches .performGroupedBlock x :=
        fun x hx => ⟨block, by rw [hblocks]; rfl, hx.symm⟩
      cases block with
      | windowSizeChanged conversationID window =>
        exact (w.cache.changes_windowSizeChanged w.model conversationID window).mono hhead
      | fetchConversation conversationID =>
        exact (w.cache.changes_fetchConversation w.model conversationID).mono hhead
  | nextRequest shouldDownloadFullHistory =>
    show Changes w.cache (w.nextRequest _).cache _
    rw [nextRequest_cache]
    exact Changes.refl _
  | complete request result =>
    show Changes w.cache (w.complete _ _).cache _
    rw [complete_cache]
    exact Changes.refl _
  | tearDown => exact w.cache.changes_tearDown
  | tick elapsed => exact Changes.refl _
  | dataChanged model => exact Changes.refl _

/-! ### Handing out a request -/

/-- A high priority conversation is there: it gets the request. -/
theorem nextRequest_of_highPriority {conversation : γ} {gapRange : ρ}
    (hhigh : w.sync.highPriorityConversationAndGap w.cache w.model = some (conversation, gapRange))
    (shouldDownloadFullHistory : Bool) :
    w.nextRequest shouldDownloadFullHistory =
      { w with
        sync := { w.sync with
          conversationsBeingFetched := insert conversation w.sync.conversationsBeingFetched }
        inFlight := w.inFlight ++ [⟨w.requested.length, conversation, gapRange⟩]
        requested := w.requested ++ [⟨w.requested.length, conversation, gapRange⟩] } := by
  simp [nextRequest, IncompleteConversationsDownstreamSync.nextRequest,
    IncompleteConversationsDownstreamSync.nextConversationWithGap, hhigh]

/-- No high priority conversation, the full history is wanted, the cool-down
has passed and a low priority conversation is there: it gets the request,
and the cool-down starts again. -/
theorem nextRequest_of_lowPriority {conversation : γ} {gapRange : ρ}
    (hhigh : w.sync.highPriorityConversationAndGap w.cache w.model = none)
    (henough : w.sync.lowPriorityRequestsCooldownInterval <
      w.now - w.sync.lastLowPriorityDownloadDate)
    (hlow : w.sync.lowPriorityConversationAndGap w.cache w.model = some (conversation, gapRange)) :
    w.nextRequest true =
      { w with
        sync := { w.sync with
          conversationsBeingFetched := insert conversation w.sync.conversationsBeingFetched
          lastLowPriorityDownloadDate := w.now }
        inFlight := w.inFlight ++ [⟨w.requested.length, conversation, gapRange⟩]
        requested := w.requested ++ [⟨w.requested.length, conversation, gapRange⟩]
        lowPriorityRequests := w.lowPriorityRequests ++ [w.now] } := by
  simp [nextRequest, IncompleteConversationsDownstreamSync.nextRequest,
    IncompleteConversationsDownstreamSync.nextConversationWithGap,
    IncompleteConversationsDownstreamSync.DownloadEntireHistory,
    IncompleteConversationsDownstreamSync.resetCooldown, hhigh, henough, hlow]

/-- Otherwise nothing is handed out and nothing changes. -/
theorem nextRequest_of_none {shouldDownloadFullHistory : Bool}
    (hhigh : w.sync.highPriorityConversationAndGap w.cache w.model = none)
    (hlow : shouldDownloadFullHistory = true →
      w.sync.lowPriorityRequestsCooldownInterval < w.now - w.sync.lastLowPriorityDownloadDate →
        w.sync.lowPriorityConversationAndGap w.cache w.model = none) :
    w.nextRequest shouldDownloadFullHistory = w := by
  by_cases hready : shouldDownloadFullHistory = true ∧
      w.sync.lowPriorityRequestsCooldownInterval < w.now - w.sync.lastLowPriorityDownloadDate
  · simp [nextRequest, IncompleteConversationsDownstreamSync.nextRequest,
      IncompleteConversationsDownstreamSync.nextConversationWithGap,
      IncompleteConversationsDownstreamSync.DownloadEntireHistory, hhigh, hready,
      hlow hready.1 hready.2]
  · simp only [not_and] at hready
    cases shouldDownloadFullHistory
    · simp [nextRequest, IncompleteConversationsDownstreamSync.nextRequest,
        IncompleteConversationsDownstreamSync.nextConversationWithGap, hhigh]
    · simp [nextRequest, IncompleteConversationsDownstreamSync.nextRequest,
        IncompleteConversationsDownstreamSync.nextConversationWithGap,
        IncompleteConversationsDownstreamSync.DownloadEntireHistory, hhigh, hready rfl]

/-- Every way `nextRequest` can go: nothing changes; or a high priority
conversation gets the request; or there is none, the cool-down has passed,
the full history is wanted, and a low priority conversation gets it. -/
theorem nextRequest_cases (shouldDownloadFullHistory : Bool) :
    w.nextRequest shouldDownloadFullHistory = w ∨
    (∃ conversation gapRange,
      w.sync.highPriorityConversationAndGap w.cache w.model = some (conversation, gapRange) ∧
      w.nextRequest shouldDownloadFullHistory =
        { w with
          sync := { w.sync with
            conversationsBeingFetched := insert conversation w.sync.conversationsBeingFetched }
          inFlight := w.inFlight ++ [⟨w.requested.length, conversation, gapRange⟩]
          requested := w.requested ++ [⟨w.requested.length, conversation, gapRange⟩] }) ∨
    (∃ conversation gapRange,
      w.sync.highPriorityConversationAndGap w.cache w.model = none ∧
      w.sync.lowPriorityRequestsCooldownInterval < w.now - w.sync.lastLowPriorityDownloadDate ∧
      w.sync.lowPriorityConversationAndGap w.cache w.model = some (conversation, gapRange) ∧
      w.nextRequest shouldDownloadFullHistory =
        { w with
          sync := { w.sync with
            conversationsBeingFetched := insert conversation w.sync.conversationsBeingFetched
            lastLowPriorityDownloadDate := w.now }
          inFlight := w.inFlight ++ [⟨w.requested.length, conversation, gapRange⟩]
          requested := w.requested ++ [⟨w.requested.length, conversation, gapRange⟩]
          lowPriorityRequests := w.lowPriorityRequests ++ [w.now] }) := by
  rcases hhigh : w.sync.highPriorityConversationAndGap w.cache w.model with
    _ | ⟨conversation, gapRange⟩
  · by_cases hready : shouldDownloadFullHistory = true ∧
        w.sync.lowPriorityRequestsCooldownInterval < w.now - w.sync.lastLowPriorityDownloadDate
    · obtain ⟨rfl, henough⟩ := hready
      rcases hlow : w.sync.lowPriorityConversationAndGap w.cache w.model with
        _ | ⟨conversation, gapRange⟩
      · exact Or.inl (w.nextRequest_of_none hhigh fun _ _ => hlow)
      · exact Or.inr (Or.inr ⟨conversation, gapRange, rfl, henough, rfl,
          w.nextRequest_of_lowPriority hhigh henough hlow⟩)
    · exact Or.inl (w.nextRequest_of_none hhigh fun hb henough => absurd ⟨hb, henough⟩ hready)
  · exact Or.inr (Or.inl ⟨conversation, gapRange, rfl, w.nextRequest_of_highPriority hhigh _⟩)

/-- The requests an event hands out are for conversations to fetch. -/
theorem step_requested (e : Event γ ρ) :
    ∃ handedOut, (w.step e).requested = w.requested ++ handedOut ∧
      ∀ r ∈ handedOut, r.conversation ∈ w.cache.conversationsToFetch := by
  have hnone : ∀ w' : World γ ρ, w'.requested = w.requested → ∃ handedOut,
      w'.requested = w.requested ++ handedOut ∧
        ∀ r ∈ handedOut, r.conversation ∈ w.cache.conversationsToFetch :=
    fun w' h => ⟨[], by rw [h, List.append_nil], fun _ h => absurd h List.not_mem_nil⟩
  have hside : ∀ w', CacheSide w w' → w'.requested = w.requested := by
    rintro w' ⟨cache, blocks, notifications, rfl⟩
    rfl
  cases e with
  | nextRequest shouldDownloadFullHistory =>
    -- a request goes to the first conversation of one of the two lists drawn from the cache
    rcases w.nextRequest_cases shouldDownloadFullHistory with
      hsame | ⟨conversation, gapRange, hhigh, heq⟩ |
        ⟨conversation, gapRange, -, -, hlow, heq⟩
    · exact hnone _ (congrArg World.requested hsame)
    · refine ⟨_, congrArg World.requested heq, ?_⟩
      rw [List.forall_mem_singleton]
      exact List.mem_of_mem_filter (conversationAndGap_mem hhigh).1
    · refine ⟨_, congrArg World.requested heq, ?_⟩
      rw [List.forall_mem_singleton]
      exact List.mem_of_mem_filter (conversationAndGap_mem hlow).1
  | complete request result => exact hnone _ (w.complete_requested request result)
  | visibleWindowChanged conversation window => exact hnone _ (hside _ (w.cacheSide_post _))
  | requestToLoadConversationEvents conversation => exact hnone _ (hside _ (w.cacheSide_post _))
  | performGroupedBlock => exact hnone _ (hside _ w.cacheSide_performGroupedBlock)
  | _ => exact hnone _ rfl

/-- The blocks an event leaves queued were queued before, or are posted by it
for a conversation it names. -/
theorem step_blocks (e : Event γ ρ) :
    ∀ block ∈ (w.step e).blocks, block ∈ w.blocks ∨ e.Names block.conversationID := by
  intro block hblock
  cases e with
  | visibleWindowChanged conversation window =>
    exact (w.mem_post_blocks hblock).imp_right fun h => by rw [h]; rfl
  | requestToLoadConversationEvents conversation =>
    exact (w.mem_post_blocks hblock).imp_right fun h => by rw [h]; rfl
  | performGroupedBlock =>
    rw [step, performGroupedBlock_blocks] at hblock
    exact Or.inl (List.mem_of_mem_tail hblock)
  | nextRequest shouldDownloadFullHistory =>
    rw [step, nextRequest_blocks] at hblock
    exact Or.inl hblock
  | complete request result =>
    rw [step, complete_blocks] at hblock
    exact Or.inl hblock
  | _ => exact Or.inl hblock

end World

/-! ### The invariant -/

/-- The conversations being fetched are those of the requests in flight, one
request each; the cache keeps its shape; and the sync keeps its cool-down,
the low priority requests were handed out more than the cool-down apart, and
none after the date the sync remembers, which is not in the future. -/
structure Good (cooldown : Nat) (w : World γ ρ) : Prop where
  tracks : Tracks ConversationEventsRequest.request ConversationEventsRequest.conversation
    w.sync.conversationsBeingFetched w.inFlight w.requested.length
  cache : w.cache.WellFormed
  cooldown_eq : w.sync.lowPriorityRequestsCooldownInterval = cooldown
  lastLowPriorityDownloadDate_le : w.sync.lastLowPriorityDownloadDate ≤ w.now
  lowPriorityRequests_le : ∀ t ∈ w.lowPriorityRequests, t ≤ w.sync.lastLowPriorityDownloadDate
  lowPriorityRequests_apart : w.lowPriorityRequests.Pairwise fun a b => a + cooldown < b

theorem Good.init (model : ConversationDataModel γ ρ) (now cooldown : Nat) :
    Good cooldown (World.init model now cooldown) where
  tracks := Tracks.nil _ _ _
  cache := WellFormed.initWithContext
  cooldown_eq := rfl
  lastLowPriorityDownloadDate_le := Nat.zero_le _
  lowPriorityRequests_le _ h := absurd h List.not_mem_nil
  lowPriorityRequests_apart := List.Pairwise.nil

variable {cooldown : Nat} {w : World γ ρ}

theorem Good.of_cacheSide (h : Good cooldown w) {w' : World γ ρ} (hside : World.CacheSide w w')
    (hcache : w'.cache.WellFormed) : Good cooldown w' := by
  obtain ⟨cache, blocks, notifications, rfl⟩ := hside
  exact ⟨h.tracks, hcache, h.cooldown_eq, h.lastLowPriorityDownloadDate_le,
    h.lowPriorityRequests_le, h.lowPriorityRequests_apart⟩

theorem Good.nextRequest (h : Good cooldown w) (shouldDownloadFullHistory : Bool) :
    Good cooldown (w.nextRequest shouldDownloadFullHistory) := by
  rcases w.nextRequest_cases shouldDownloadFullHistory with
    hsame | ⟨conversation, gapRange, hhigh, heq⟩ |
      ⟨conversation, gapRange, -, henough, hlow, heq⟩
  · rw [hsame]
    exact h
  · -- a high priority request: the conversation was not being fetched
    rw [heq]
    have hfree := (conversationAndGap_mem hhigh).2.1
    refine ⟨?_, h.cache, h.cooldown_eq, h.lastLowPriorityDownloadDate_le,
      h.lowPriorityRequests_le, h.lowPriorityRequests_apart⟩
    rw [List.length_append, List.length_singleton]
    exact h.tracks.issue (r := ⟨w.requested.length, conversation, gapRange⟩) hfree rfl
  · -- a low priority request: the cool-down had passed, and starts again now
    rw [heq]
    have hfree := (conversationAndGap_mem hlow).2.1
    have hlast := h.lastLowPriorityDownloadDate_le
    have hcool := h.cooldown_eq
    refine ⟨?_, h.cache, h.cooldown_eq, le_rfl, ?_, ?_⟩
    · rw [List.length_append, List.length_singleton]
      exact h.tracks.issue (r := ⟨w.requested.length, conversation, gapRange⟩) hfree rfl
    · intro t ht
      rcases List.mem_append.mp ht with ht | ht
      · exact (h.lowPriorityRequests_le t ht).trans hlast
      · exact (List.mem_singleton.mp ht).le
    · refine List.pairwise_append.mpr
        ⟨h.lowPriorityRequests_apart, List.pairwise_singleton _ _, ?_⟩
      intro a ha b hb
      have hle := h.lowPriorityRequests_le a ha
      rw [List.mem_singleton.mp hb]
      omega

theorem Good.complete (h : Good cooldown w) (request : Nat) (result : ZMTransportResponseStatus) :
    Good cooldown (w.complete request result) := by
  unfold World.complete
  split
  · exact h
  · rename_i r hfind
    have hr : r ∈ w.inFlight := List.mem_of_find?_eq_some hfind
    have hrequest : r.request = request := by simpa using List.find?_some hfind
    subst hrequest
    exact ⟨h.tracks.complete hr, h.cache, h.cooldown_eq, h.lastLowPriorityDownloadDate_le,
      h.lowPriorityRequests_le, h.lowPriorityRequests_apart⟩

theorem Good.step (h : Good cooldown w) (e : Event γ ρ) : Good cooldown (w.step e) := by
  have hcache := (w.step_changes e).wellFormed h.cache
  cases e with
  | tick elapsed =>
    exact ⟨h.tracks, h.cache, h.cooldown_eq,
      Nat.le_add_right_of_le h.lastLowPriorityDownloadDate_le, h.lowPriorityRequests_le,
      h.lowPriorityRequests_apart⟩
  | dataChanged model =>
    exact ⟨h.tracks, h.cache, h.cooldown_eq, h.lastLowPriorityDownloadDate_le,
      h.lowPriorityRequests_le, h.lowPriorityRequests_apart⟩
  | visibleWindowChanged conversation window => exact h.of_cacheSide (w.cacheSide_post _) hcache
  | requestToLoadConversationEvents conversation =>
    exact h.of_cacheSide (w.cacheSide_post _) hcache
  | performGroupedBlock => exact h.of_cacheSide w.cacheSide_performGroupedBlock hcache
  | nextRequest shouldDownloadFullHistory => exact h.nextRequest shouldDownloadFullHistory
  | complete request result => exact h.complete request result
  | _ => exact h.of_cacheSide ⟨_, _, _, rfl⟩ hcache

theorem Good.run (model : ConversationDataModel γ ρ) (now cooldown : Nat)
    (events : List (Event γ ρ)) :
    Good cooldown (run World.step (World.init model now cooldown) events) :=
  run_invariant (Good cooldown) (fun _ e h => h.step e) events (Good.init model now cooldown)

/-! ### Over every run -/

/-- In every run, the conversations the sync counts as being fetched are
exactly those of the requests in flight, and no two requests in flight are
for the same conversation. -/
theorem incompleteConversations_one_fetch_per_conversation (model : ConversationDataModel γ ρ)
    (now cooldown : Nat) (events : List (Event γ ρ)) :
    (run World.step (World.init model now cooldown) events).sync.conversationsBeingFetched =
        ((run World.step (World.init model now cooldown) events).inFlight.map
          (·.conversation)).toFinset ∧
      ((run World.step (World.init model now cooldown) events).inFlight.map
        (·.conversation)).Nodup :=
  ⟨(Good.run model now cooldown events).tracks.busy_eq,
    (Good.run model now cooldown events).tracks.objects_nodup⟩

/-- In every run, the high priority list of the cache, its whitelisted
conversations to fetch, holds exactly the whitelisted conversations, and the
conversations to fetch have no duplicates. -/
theorem incompleteConversationsCache_whitelist_within_conversationsToFetch
    (model : ConversationDataModel γ ρ) (now cooldown : Nat) (events : List (Event γ ρ)) :
    (run World.step (World.init model now cooldown)
        events).cache.incompleteWhitelistedConversations.toFinset =
      (run World.step (World.init model now cooldown) events).cache.whitelistedConversations ∧
      (run World.step (World.init model now cooldown) events).cache.conversationsToFetch.Nodup :=
  ⟨(Good.run model now cooldown events).cache.incompleteWhitelistedConversations_toFinset,
    (Good.run model now cooldown events).cache.nodup⟩

/-- In every run, any two requests taken from the low priority conversations
were handed out more than the cool-down apart. -/
theorem incompleteConversations_low_priority_cooldown (model : ConversationDataModel γ ρ)
    (now cooldown : Nat) (events : List (Event γ ρ)) :
    (run World.step (World.init model now cooldown) events).lowPriorityRequests.Pairwise
      fun a b => a + cooldown < b :=
  (Good.run model now cooldown events).lowPriorityRequests_apart

/-! ### A request to load a conversation's events -/

/-- A data model over numbered conversations and ranges, range `0` being the
empty one: every conversation misses range `1` of its history, and range
`window` of any visible window. -/
def gappedModel (window : Nat) : ConversationDataModel Nat Nat where
  lastEventIDGap _ := some 1
  lastEventIDGapForVisibleWindow _ _ := some window
  empty gap := gap == 0
  isArchived _ := false
  connectedUserIsBlocked _ := false
  isConversationEntity _ := true
  defaultSortDescriptors a b := decide (a ≤ b)

/-- The notification, and the block it queues on an idle context. -/
theorem World.run_requestToLoadConversationEvents (w : World γ ρ)
    (htornDown : w.cache.tornDown = false) (hblocks : w.blocks = []) (conversation : γ) :
    run World.step w [.requestToLoadConversationEvents conversation, .performGroupedBlock] =
      { w with cache := w.cache.fetchConversation w.model conversation } := by
  simp [World.step, World.post, World.performGroupedBlock, World.runBlock, htornDown, hblocks]

/-- A request to load the events of a conversation that is not being
fetched and has a gap puts it first: the request handed out next is for it,
with the gap of its visible window, and is a high priority one. -/
theorem incompleteConversations_load_request_served_next (w : World γ ρ) (conversation : γ)
    (gapRange : ρ) (shouldDownloadFullHistory : Bool)
    (htornDown : w.cache.tornDown = false) (hblocks : w.blocks = [])
    (hfree : conversation ∉ w.sync.conversationsBeingFetched)
    (hgap : w.model.hasGap (w.cache.gapForConversation w.model conversation) = true)
    (hwindow : w.model.lastEventIDGapForVisibleWindow conversation
      (w.cache.conversationWindows conversation) = some gapRange) :
    (run World.step w [.requestToLoadConversationEvents conversation, .performGroupedBlock,
        .nextRequest shouldDownloadFullHistory]).requested =
        w.requested ++ [⟨w.requested.length, conversation, gapRange⟩] ∧
      (run World.step w [.requestToLoadConversationEvents conversation, .performGroupedBlock,
        .nextRequest shouldDownloadFullHistory]).lowPriorityRequests = w.lowPriorityRequests := by
  -- the block whitelists the conversation and moves it to the top
  have hpromoted : w.cache.fetchConversation w.model conversation =
      (w.cache.replaceOrAddCurrentlyWhitelistedConversationIfNeeded conversation
        ).moveConversationToTopFetchPriority conversation := by
    unfold ZMIncompleteConversationsCache.fetchConversation
    rw [if_pos hgap]
  obtain ⟨rest, hhead⟩ :=
    w.cache.incompleteWhitelistedConversations_moveToTop_replaceOrAdd conversation
  have hhigh : w.sync.highPriorityConversationAndGap
      (w.cache.fetchConversation w.model conversation) w.model = some (conversation, gapRange) := by
    rw [IncompleteConversationsDownstreamSync.highPriorityConversationAndGap, hpromoted, hhead,
      conversationAndGap_cons rest hfree,
      ZMIncompleteConversationsCache.gapForConversation_moveToTop_replaceOrAdd, hwindow]
    rfl
  rw [show [Event.requestToLoadConversationEvents conversation, .performGroupedBlock,
      .nextRequest shouldDownloadFullHistory] =
      [.requestToLoadConversationEvents conversation, .performGroupedBlock] ++
        [.nextRequest shouldDownloadFullHistory] from rfl,
    run_append, w.run_requestToLoadConversationEvents htornDown hblocks, run_cons, run_nil]
  rw [World.step,
    World.nextRequest_of_highPriority
      { w with cache := w.cache.fetchConversation w.model conversation } hhigh]
  exact ⟨rfl, rfl⟩

theorem incompleteConversations_load_request_served_first :
    (run World.step (World.init (gappedModel 1) 100
        ZMConversationEventsTranscoder.ZMLowPriorityEventsDownloadCooldown)
      [.requestToLoadConversationEvents 0, .performGroupedBlock, .nextRequest false]).requested =
        [⟨0, 0, 1⟩] ∧
      (run World.step (World.init (gappedModel 1) 100
        ZMConversationEventsTranscoder.ZMLowPriorityEventsDownloadCooldown)
      [.requestToLoadConversationEvents 0, .performGroupedBlock,
        .nextRequest false]).lowPriorityRequests = [] :=
  incompleteConversations_load_request_served_next _ 0 1 false rfl rfl (Finset.notMem_empty 0)
    (by decide) rfl

/-! ### A conversation the cache has let go of -/

/-- The conversation is not among the conversations to fetch, and no queued
block is about it. -/
structure Forgotten (conversation : γ) (w : World γ ρ) : Prop where
  not_mem : conversation ∉ w.cache.conversationsToFetch
  blocks : ∀ block ∈ w.blocks, block.conversationID ≠ conversation

omit [DecidableEq γ] in
/-- A conversation an event may add was named by it, or is the one of the
block it runs. -/
theorem World.touches_cases (w : World γ ρ) {e : Event γ ρ} {conversation : γ}
    (h : w.Touches e conversation) :
    e.Names conversation ∨ ∃ block ∈ w.blocks, block.conversationID = conversation := by
  cases e with
  | addTrackedObjects objects => exact Or.inl h
  | objectsDidChange objects => exact Or.inl h
  | performGroupedBlock =>
    obtain ⟨block, hblock, hid⟩ := h
    exact Or.inr ⟨block, List.mem_of_mem_head? hblock, hid⟩
  | _ => exact h.elim

/-- An event that does not name a forgotten conversation leaves it forgotten. -/
theorem Forgotten.step {conversation : γ} {w : World γ ρ} (h : Forgotten conversation w)
    {e : Event γ ρ} (hnames : ¬ e.Names conversation) : Forgotten conversation (w.step e) where
  not_mem hmem := by
    rcases (w.step_changes e).adds conversation hmem with hmem | htouched
    · exact h.not_mem hmem
    · rcases w.touches_cases htouched with hnamed | ⟨block, hblock, hid⟩
      · exact hnames hnamed
      · exact h.blocks block hblock hid
  blocks block hblock hid := by
    rcases w.step_blocks e block hblock with hblock | hnamed
    · exact h.blocks block hblock hid
    · exact hnames (hid ▸ hnamed)

/-- While no event names a forgotten conversation, it stays forgotten and no
request for it is handed out. -/
theorem Forgotten.run {conversation : γ} :
    ∀ (events : List (Event γ ρ)) {w : World γ ρ}, Forgotten conversation w →
      (∀ e ∈ events, ¬ e.Names conversation) →
        Forgotten conversation (run World.step w events) ∧
          (run World.step w events).requested.filter (·.conversation = conversation) =
            w.requested.filter (·.conversation = conversation)
  | [], _, h, _ => ⟨h, rfl⟩
  | e :: events, w, h, hnames => by
    have hstep := h.step (hnames e List.mem_cons_self)
    obtain ⟨hrun, hfilter⟩ :=
      Forgotten.run events hstep fun e' he' => hnames e' (List.mem_cons_of_mem e he')
    refine ⟨hrun, ?_⟩
    -- the step hands out requests only for conversations to fetch, so none for this one
    obtain ⟨handedOut, hrequested, hfetch⟩ := w.step_requested e
    have hnone : handedOut.filter (·.conversation = conversation) = [] := by
      refine List.filter_eq_nil_iff.mpr fun r hr hconversation => ?_
      exact h.not_mem (of_decide_eq_true hconversation ▸ hfetch r hr)
    rw [run_cons, hfilter, hrequested, List.filter_append, hnone, List.append_nil]

/-- A request to load the events of a whitelisted conversation whose visible
window is complete drops it from the conversations to fetch, even when its
history still has a gap, where a change notification for it would keep it
there; and until an event names it again, no request for it is handed
out. -/
theorem incompleteConversations_load_request_drops_history
    {initialModel : ConversationDataModel γ ρ} {start cooldown : Nat} {w : World γ ρ}
    (hw : Reachable World.step (World.init initialModel start cooldown) w)
    {conversation : γ} {window : ρ}
    (htornDown : w.cache.tornDown = false) (hblocks : w.blocks = [])
    (hwhitelisted : conversation ∈ w.cache.whitelistedConversations)
    (hwindow : w.cache.conversationWindows conversation = some window)
    (hcomplete :
      w.model.hasGap (w.model.lastEventIDGapForVisibleWindow conversation (some window)) = false)
    (hhistory : w.model.hasGap (w.model.lastEventIDGap conversation) = true)
    (hentity : w.model.isConversationEntity conversation = true)
    (mid : List (Event γ ρ)) (hmid : ∀ e ∈ mid, ¬ e.Names conversation) :
    conversation ∈ (w.step (.objectsDidChange [conversation])).cache.conversationsToFetch ∧
      conversation ∉ (run World.step w [.requestToLoadConversationEvents conversation,
        .performGroupedBlock]).cache.conversationsToFetch ∧
      (run World.step w (.requestToLoadConversationEvents conversation :: .performGroupedBlock ::
        mid)).requested.filter (·.conversation = conversation) =
        w.requested.filter (·.conversation = conversation) := by
  have hgood : Good cooldown w :=
    hw.induction (Good cooldown) (Good.init initialModel start cooldown) fun _ e h => h.step e
  have hfetch := hgood.cache.whitelisted conversation hwhitelisted
  -- the load path reads the window's gap, finds it empty, and drops the conversation
  have hloaded :
      run World.step w [.requestToLoadConversationEvents conversation, .performGroupedBlock] =
        { w with cache := w.cache.removeConversationToFetch conversation } := by
    rw [w.run_requestToLoadConversationEvents htornDown hblocks]
    simp [ZMIncompleteConversationsCache.fetchConversation,
      ZMIncompleteConversationsCache.gapForConversation, hwhitelisted, hwindow, hcomplete, hfetch]
  have hdropped :
      conversation ∉ (w.cache.removeConversationToFetch conversation).conversationsToFetch :=
    hgood.cache.nodup.not_mem_erase
  refine ⟨?_, by rw [hloaded]; exact hdropped, ?_⟩
  · -- the change path only takes it off the whitelist
    simp [World.step, ZMIncompleteConversationsCache.objectsDidChange,
      ZMIncompleteConversationsCache.processConversationWhitelistingAndFetching, hentity, hhistory,
      hwindow, hcomplete]
  · have hforgotten : Forgotten conversation (run World.step w
        [.requestToLoadConversationEvents conversation, .performGroupedBlock]) := by
      rw [hloaded]
      exact ⟨hdropped, by simp [hblocks]⟩
    rw [show Event.requestToLoadConversationEvents conversation :: .performGroupedBlock :: mid =
        [.requestToLoadConversationEvents conversation, .performGroupedBlock] ++ mid from rfl,
      run_append, (Forgotten.run mid hforgotten hmid).2, hloaded]

/-- Conversation `0` whitelisted through its visible window, whose window was
then completed while its history was not. -/
def windowCompleted : World Nat Nat :=
  run World.step (World.init (gappedModel 1) 100
      ZMConversationEventsTranscoder.ZMLowPriorityEventsDownloadCooldown)
    [.visibleWindowChanged 0 (some 7), .performGroupedBlock, .dataChanged (gappedModel 0)]

theorem incompleteConversations_load_request_drops_window_completed :
    0 ∈ (windowCompleted.step (.objectsDidChange [0])).cache.conversationsToFetch ∧
      0 ∉ (run World.step windowCompleted
        [.requestToLoadConversationEvents 0, .performGroupedBlock]).cache.conversationsToFetch ∧
      (run World.step windowCompleted
        [.requestToLoadConversationEvents 0, .performGroupedBlock]).requested.filter
          (·.conversation = 0) = windowCompleted.requested.filter (·.conversation = 0) :=
  incompleteConversations_load_request_drops_history ⟨_, rfl⟩ (by decide) (by decide)
    (by decide) (show windowCompleted.cache.conversationWindows 0 = some 7 by decide) rfl rfl rfl
    [] fun _ h => absurd h List.not_mem_nil

end IncompleteConversations

end ZMessaging
