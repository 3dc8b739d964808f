import ZMessaging.StepSystem
import ZMessaging.TransportResponse
import Mathlib.Data.Finset.Sort

/-!
# `ZMRemoteIdentifierObjectSync`: downloading objects by remote identifier

The sync keeps an ordered set of identifiers that still need downloading
and a set of identifiers in progress.  `nextRequest` moves the first
`maximumRemoteIdentifiersPerRequestForObjectSync` pending identifiers into
progress and asks the transcoder for one request carrying them; the
completion handler hands success and permanent-error responses to the
transcoder, puts the identifiers of temporary errors and try-again-later
back into the pending set, and does nothing at all for an expired request.

`sortIdentifiers` runs after every insertion into the ordered set and
removals keep it sorted, so the ordered set is always its elements in
increasing order: the model keeps it as a `Finset` and reads it through
`Finset.sort`.  Identifiers are of any linearly ordered type (the source
compares `NSUUID` bytes with `memcmp`).

Besides the per-request facts (`nextRequest_card`), the file follows whole
runs.  An expired request leaves its identifiers in
`remoteIdentifiersInProgress` with no request in flight, so neither the
accounting of every identifier nor `isDone` holds as the contract asks
(`remoteIdentifierObjectSync_expired_strands`).  What holds instead, in every
run whose callers never pass an identifier that is partly in progress, is
`remoteIdentifierObjectSync_accounting`: in-flight requests are disjoint and
of the right size, `remoteIdentifiersInProgress` is the identifiers in flight
together with those stranded by expiry, and every identifier ever added is
pending, in exactly one request, handed to the transcoder, stranded, or was
dropped by a later `setRemoteIdentifiersAsNeedingDownload`.
-/

namespace ZMessaging

open StepSystem

variable {ι : Type*} [LinearOrder ι]

/-- The state of a `ZMRemoteIdentifierObjectSync`. -/
structure ZMRemoteIdentifierObjectSync (ι : Type*) where
  remoteIdentifiersThatNeedToBeDownloaded : Finset ι
  remoteIdentifiersInProgress : Finset ι
  deriving DecidableEq

namespace ZMRemoteIdentifierObjectSync

/-- Both sets empty. -/
def init : ZMRemoteIdentifierObjectSync ι := ⟨∅, ∅⟩

/-- The ordered set `remoteIdentifiersThatNeedToBeDownloaded`, in order. -/
def orderedIdentifiers (s : ZMRemoteIdentifierObjectSync ι) : List ι :=
  s.remoteIdentifiersThatNeedToBeDownloaded.sort (· ≤ ·)

/-- The identifiers `nextRequest` puts in a request: the first
`min count pending` of the ordered set. -/
def requestIdentifiers (s : ZMRemoteIdentifierObjectSync ι) (maximum : Nat) : Finset ι :=
  (s.orderedIdentifiers.take
    (min maximum s.remoteIdentifiersThatNeedToBeDownloaded.card)).toFinset

/-- `nextRequest`, for a transcoder whose
`maximumRemoteIdentifiersPerRequestForObjectSync:` is `maximum`.  The second
component is the identifier set of the request handed out. -/
def nextRequest (s : ZMRemoteIdentifierObjectSync ι) (maximum : Nat) :
    ZMRemoteIdentifierObjectSync ι × Option (Finset ι) :=
  if s.remoteIdentifiersThatNeedToBeDownloaded = ∅ then (s, none)
  else
    let ids := s.requestIdentifiers maximum
    ({ remoteIdentifiersInProgress := s.remoteIdentifiersInProgress ∪ ids
       remoteIdentifiersThatNeedToBeDownloaded :=
         s.remoteIdentifiersThatNeedToBeDownloaded \ ids }, some ids)

/-- The completion handler `nextRequest` installs for a request carrying
`ids`.  The flag is `true` when the transcoder's
`didReceiveResponse:remoteIdentifierObjectSync:forRemoteIdentifiers:` runs. -/
def handleResponse (s : ZMRemoteIdentifierObjectSync ι) (ids : Finset ι)
    (result : ZMTransportResponseStatus) : ZMRemoteIdentifierObjectSync ι × Bool :=
  match result with
  | .permanentError | .success =>
      ({ s with remoteIdentifiersInProgress := s.remoteIdentifiersInProgress \ ids }, true)
  | .expired => (s, false)
  | .temporaryError | .tryAgainLater =>
      ({ remoteIdentifiersThatNeedToBeDownloaded :=
           s.remoteIdentifiersThatNeedToBeDownloaded ∪ ids
         remoteIdentifiersInProgress := s.remoteIdentifiersInProgress \ ids }, false)

/-- `setRemoteIdentifiersAsNeedingDownload:`. -/
def setRemoteIdentifiersAsNeedingDownload (s : ZMRemoteIdentifierObjectSync ι)
    (remoteIdentifiers : Finset ι) : ZMRemoteIdentifierObjectSync ι :=
  { s with remoteIdentifiersThatNeedToBeDownloaded := remoteIdentifiers }

/-- `addRemoteIdentifiersThatNeedDownload:`: ignored only when every
identifier of the argument is already in progress. -/
def addRemoteIdentifiersThatNeedDownload (s : ZMRemoteIdentifierObjectSync ι)
    (remoteIdentifiers : Finset ι) : ZMRemoteIdentifierObjectSync ι :=
  if ¬ remoteIdentifiers ⊆ s.remoteIdentifiersInProgress then
    { s with remoteIdentifiersThatNeedToBeDownloaded :=
        s.remoteIdentifiersThatNeedToBeDownloaded ∪ remoteIdentifiers }
  else s

/-- `isDone`. -/
def isDone (s : ZMRemoteIdentifierObjectSync ι) : Bool :=
  s.remoteIdentifiersThatNeedToBeDownloaded = ∅ ∧ s.remoteIdentifiersInProgress = ∅

end ZMRemoteIdentifierObjectSync

/-! ## The operations -/

namespace ZMRemoteIdentifierObjectSync

variable (s : ZMRemoteIdentifierObjectSync ι)

theorem requestIdentifiers_subset (maximum : Nat) :
    s.requestIdentifiers maximum ⊆ s.remoteIdentifiersThatNeedToBeDownloaded := by
  intro x hx
  unfold requestIdentifiers at hx
  rw [List.mem_toFinset] at hx
  have hmem := List.mem_of_mem_take hx
  unfold orderedIdentifiers at hmem
  exact (Finset.mem_sort _).mp hmem

/-- A request takes `min maximum pending` identifiers: the ordered set has no
repetitions. -/
theorem requestIdentifiers_card (maximum : Nat) :
    (s.requestIdentifiers maximum).card =
      min maximum s.remoteIdentifiersThatNeedToBeDownloaded.card := by
  have hnodup : (s.orderedIdentifiers.take
      (min maximum s.remoteIdentifiersThatNeedToBeDownloaded.card)).Nodup :=
    (Finset.sort_nodup _ _).sublist (List.take_sublist _ _)
  unfold requestIdentifiers
  rw [List.toFinset_card_of_nodup hnodup, List.length_take]
  unfold orderedIdentifiers
  rw [Finset.length_sort]
  omega

/-- **Request size.**  With identifiers pending and a maximum of at least
one, a request carries between one and `maximum` identifiers. -/
theorem nextRequest_card {maximum : Nat} (hmax : 1 ≤ maximum)
    (hpending : s.remoteIdentifiersThatNeedToBeDownloaded ≠ ∅) :
    1 ≤ (s.requestIdentifiers maximum).card ∧
      (s.requestIdentifiers maximum).card ≤ maximum := by
  have hpos : 0 < s.remoteIdentifiersThatNeedToBeDownloaded.card :=
    Finset.card_pos.mpr (Finset.nonempty_iff_ne_empty.mpr hpending)
  rw [requestIdentifiers_card]
  omega

theorem nextRequest_of_empty
    (hpending : s.remoteIdentifiersThatNeedToBeDownloaded = ∅) (maximum : Nat) :
    s.nextRequest maximum = (s, none) := by
  simp [nextRequest, hpending]

theorem nextRequest_of_ne_empty
    (hpending : s.remoteIdentifiersThatNeedToBeDownloaded ≠ ∅) (maximum : Nat) :
    s.nextRequest maximum =
      ({ remoteIdentifiersInProgress :=
           s.remoteIdentifiersInProgress ∪ s.requestIdentifiers maximum
         remoteIdentifiersThatNeedToBeDownloaded :=
           s.remoteIdentifiersThatNeedToBeDownloaded \ s.requestIdentifiers maximum },
        some (s.requestIdentifiers maximum)) := by
  simp [nextRequest, hpending]

end ZMRemoteIdentifierObjectSync

namespace RemoteIdentifierObjectSync

/-- A request handed out and not completed yet. -/
structure InFlight (ι : Type*) where
  request : Nat
  ids : Finset ι
  deriving DecidableEq

/-- The sync, its requests in flight, and what the environment observed:
every identifier passed in by a caller, those handed to the transcoder, those
of expired requests and those a `setRemoteIdentifiersAsNeedingDownload:`
removed from the pending set. -/
structure World (ι : Type*) where
  sync : ZMRemoteIdentifierObjectSync ι
  inFlight : List (InFlight ι)
  issued : Nat
  added : Finset ι
  handed : Finset ι
  stranded : Finset ι
  dropped : Finset ι
  deriving DecidableEq

/-- What the environment can do next. -/
inductive Event (ι : Type*)
  | setRemoteIdentifiersAsNeedingDownload (remoteIdentifiers : Finset ι)
  | addRemoteIdentifiersThatNeedDownload (remoteIdentifiers : Finset ι)
  | nextRequest
  | complete (request : Nat) (result : ZMTransportResponseStatus)

namespace World

/-- Nothing added, nothing in flight. -/
def init : World ι := ⟨ZMRemoteIdentifierObjectSync.init, [], 0, ∅, ∅, ∅, ∅⟩

/-- The completion handler of `r` runs with response class `result`. -/
def completeRequest (w : World ι) (r : InFlight ι) (result : ZMTransportResponseStatus) :
    World ι :=
  let handled := w.sync.handleResponse r.ids result
  { w with sync := handled.1,
           inFlight := w.inFlight.filter (·.request ≠ r.request),
           handed := if handled.2 then w.handed ∪ r.ids else w.handed,
           stranded := if result = .expired then w.stranded ∪ r.ids else w.stranded }

/-- One event, for a transcoder whose maximum per request is `maximum`. -/
def step (maximum : Nat) (w : World ι) : Event ι → World ι
  | .setRemoteIdentifiersAsNeedingDownload xs =>
      { w with sync := w.sync.setRemoteIdentifiersAsNeedingDownload xs,
               added := w.added ∪ xs,
               dropped := w.dropped ∪ (w.sync.remoteIdentifiersThatNeedToBeDownloaded \ xs) }
  | .addRemoteIdentifiersThatNeedDownload xs =>
      { w with sync := w.sync.addRemoteIdentifiersThatNeedDownload xs, added := w.added ∪ xs }
  | .nextRequest =>
      let handed := w.sync.nextRequest maximum
      match handed.2 with
      | none => w
      | some ids =>
          { w with sync := handed.1, issued := w.issued + 1,
                   inFlight := w.inFlight ++ [⟨w.issued, ids⟩] }
  | .complete request result =>
      match w.inFlight.find? (·.request = request) with
      | none => w
      | some r => w.completeRequest r result

end World

namespace World

variable {w : World ι} {maximum : Nat}

theorem step_add_of_subset {xs : Finset ι} (hsub : xs ⊆ w.sync.remoteIdentifiersInProgress) :
    w.step maximum (.addRemoteIdentifiersThatNeedDownload xs) =
      { w with added := w.added ∪ xs } := by
  simp [step, ZMRemoteIdentifierObjectSync.addRemoteIdentifiersThatNeedDownload, hsub]

theorem step_add_of_not_subset {xs : Finset ι}
    (hsub : ¬ xs ⊆ w.sync.remoteIdentifiersInProgress) :
    w.step maximum (.addRemoteIdentifiersThatNeedDownload xs) =
      { w with sync := { w.sync with remoteIdentifiersThatNeedToBeDownloaded :=
                           w.sync.remoteIdentifiersThatNeedToBeDownloaded ∪ xs },
               added := w.added ∪ xs } := by
  simp [step, ZMRemoteIdentifierObjectSync.addRemoteIdentifiersThatNeedDownload, hsub]

theorem step_nextRequest_of_empty
    (hpending : w.sync.remoteIdentifiersThatNeedToBeDownloaded = ∅) :
    w.step maximum .nextRequest = w := by
  simp [step, ZMRemoteIdentifierObjectSync.nextRequest_of_empty _ hpending]

theorem step_nextRequest_of_ne_empty
    (hpending : w.sync.remoteIdentifiersThatNeedToBeDownloaded ≠ ∅) :
    w.step maximum .nextRequest =
      { w with sync :=
                 { remoteIdentifiersInProgress :=
                     w.sync.remoteIdentifiersInProgress ∪ w.sync.requestIdentifiers maximum
                   remoteIdentifiersThatNeedToBeDownloaded :=
                     w.sync.remoteIdentifiersThatNeedToBeDownloaded \
                       w.sync.requestIdentifiers maximum },
               issued := w.issued + 1,
               inFlight := w.inFlight ++ [⟨w.issued, w.sync.requestIdentifiers maximum⟩] } := by
  simp [step, ZMRemoteIdentifierObjectSync.nextRequest_of_ne_empty _ hpending]

end World

/-! ## Runs whose callers keep identifiers apart -/

/-- The side condition of `remoteIdentifierObjectSync_accounting`: a caller
never passes a set that is partly in progress (a set entirely in progress is
what `addRemoteIdentifiersThatNeedDownload:` filters out by itself). -/
def CallerSeparates (w : World ι) : Event ι → Prop
  | .setRemoteIdentifiersAsNeedingDownload xs =>
      ∀ x ∈ xs, x ∉ w.sync.remoteIdentifiersInProgress
  | .addRemoteIdentifiersThatNeedDownload xs =>
      xs ⊆ w.sync.remoteIdentifiersInProgress ∨
        ∀ x ∈ xs, x ∉ w.sync.remoteIdentifiersInProgress
  | _ => True

/-- Two requests share no identifier. -/
def Apart (r r' : InFlight ι) : Prop := ∀ x ∈ r.ids, x ∉ r'.ids

omit [LinearOrder ι] in
theorem apart_symm {r r' : InFlight ι} (h : Apart r r') : Apart r' r :=
  fun x hx hx' => h x hx' hx

instance : Std.Symm (@Apart ι) := ⟨fun _ _ => apart_symm⟩

/-- The invariant of the separated runs. -/
structure Good (maximum : Nat) (w : World ι) : Prop where
  progress_iff : ∀ x, x ∈ w.sync.remoteIdentifiersInProgress ↔
    (∃ r ∈ w.inFlight, x ∈ r.ids) ∨ x ∈ w.stranded
  pending_not_progress : ∀ x ∈ w.sync.remoteIdentifiersThatNeedToBeDownloaded,
    x ∉ w.sync.remoteIdentifiersInProgress
  apart : w.inFlight.Pairwise Apart
  not_stranded : ∀ r ∈ w.inFlight, ∀ x ∈ r.ids, x ∉ w.stranded
  card : ∀ r ∈ w.inFlight, 1 ≤ r.ids.card ∧ r.ids.card ≤ maximum
  request_lt : ∀ r ∈ w.inFlight, r.request < w.issued
  nodup : (w.inFlight.map (·.request)).Nodup
  accounted : ∀ x ∈ w.added, x ∈ w.sync.remoteIdentifiersThatNeedToBeDownloaded ∨
    (∃ r ∈ w.inFlight, x ∈ r.ids) ∨ x ∈ w.handed ∨ x ∈ w.stranded ∨ x ∈ w.dropped

namespace Good

variable {maximum : Nat} {w : World ι}

omit [LinearOrder ι] in
theorem init : Good maximum (World.init : World ι) where
  progress_iff := by simp [World.init, ZMRemoteIdentifierObjectSync.init]
  pending_not_progress := by simp [World.init, ZMRemoteIdentifierObjectSync.init]
  apart := List.Pairwise.nil
  not_stranded := by simp [World.init]
  card := by simp [World.init]
  request_lt := by simp [World.init]
  nodup := List.nodup_nil
  accounted := by simp [World.init]

omit [LinearOrder ι] in
/-- Requests in flight with different numbers are apart. -/
theorem apart_of_ne (h : Good maximum w) {r r' : InFlight ι} (hr : r ∈ w.inFlight)
    (hr' : r' ∈ w.inFlight) (hne : r.request ≠ r'.request) : Apart r r' := by
  have hne' : r ≠ r' := fun heq => hne (heq ▸ rfl)
  exact h.apart.forall hr hr' hne'

omit [LinearOrder ι] in
/-- **Exactly one request.**  An identifier in flight is in one request only. -/
theorem unique_request (h : Good maximum w) {x : ι} {r r' : InFlight ι}
    (hr : r ∈ w.inFlight) (hr' : r' ∈ w.inFlight) (hx : x ∈ r.ids) (hx' : x ∈ r'.ids) :
    r = r' := by
  by_cases hreq : r.request = r'.request
  · exact List.inj_on_of_nodup_map h.nodup hr hr' hreq
  · exact absurd hx' (h.apart_of_ne hr hr' hreq x hx)

theorem setRemoteIdentifiersAsNeedingDownload (h : Good maximum w) {xs : Finset ι}
    (hsep : ∀ x ∈ xs, x ∉ w.sync.remoteIdentifiersInProgress) :
    Good maximum (w.step maximum (.setRemoteIdentifiersAsNeedingDownload xs)) :=
  { h with
    pending_not_progress := hsep
    accounted := by
      intro x hx
      simp only [World.step, Finset.mem_union] at hx ⊢
      rcases hx with hx | hx
      · rcases h.accounted x hx with hp | hrest
        · by_cases hxs : x ∈ xs
          · exact Or.inl hxs
          · -- the old pending identifiers that `xs` does not list are dropped
            exact Or.inr (Or.inr (Or.inr (Or.inr (Or.inr (Finset.mem_sdiff.mpr ⟨hp, hxs⟩)))))
        · rcases hrest with hf | hh | hs | hd
          · exact Or.inr (Or.inl hf)
          · exact Or.inr (Or.inr (Or.inl hh))
          · exact Or.inr (Or.inr (Or.inr (Or.inl hs)))
          · exact Or.inr (Or.inr (Or.inr (Or.inr (Or.inl hd))))
      · exact Or.inl hx }

end Good

namespace Good

variable {maximum : Nat} {w : World ι}

theorem addRemoteIdentifiersThatNeedDownload (h : Good maximum w) {xs : Finset ι}
    (hsep : xs ⊆ w.sync.remoteIdentifiersInProgress ∨
      ∀ x ∈ xs, x ∉ w.sync.remoteIdentifiersInProgress) :
    Good maximum (w.step maximum (.addRemoteIdentifiersThatNeedDownload xs)) := by
  by_cases hsub : xs ⊆ w.sync.remoteIdentifiersInProgress
  · -- the sync ignores the call; the identifiers are in flight or stranded
    rw [World.step_add_of_subset hsub]
    refine { h with accounted := ?_ }
    intro x hx
    rcases Finset.mem_union.mp hx with hx | hx
    · exact h.accounted x hx
    · rcases (h.progress_iff x).mp (hsub hx) with hf | hs
      · exact Or.inr (Or.inl hf)
      · exact Or.inr (Or.inr (Or.inr (Or.inl hs)))
  · rw [World.step_add_of_not_subset hsub]
    have hnot : ∀ x ∈ xs, x ∉ w.sync.remoteIdentifiersInProgress := hsep.resolve_left hsub
    refine { h with pending_not_progress := ?_, accounted := ?_ }
    · intro x hx
      rcases Finset.mem_union.mp hx with hx | hx
      · exact h.pending_not_progress x hx
      · exact hnot x hx
    · intro x hx
      simp only [Finset.mem_union] at hx ⊢
      rcases hx with hx | hx
      · rcases h.accounted x hx with hp | hrest
        · exact Or.inl (Or.inl hp)
        · exact Or.inr hrest
      · exact Or.inl (Or.inr hx)

theorem nextRequest (h : Good maximum w) (hmax : 1 ≤ maximum) :
    Good maximum (w.step maximum .nextRequest) := by
  by_cases hpending : w.sync.remoteIdentifiersThatNeedToBeDownloaded = ∅
  · rw [World.step_nextRequest_of_empty hpending]
    exact h
  rw [World.step_nextRequest_of_ne_empty hpending]
  -- the new request takes pending identifiers, which nothing in flight carries
  have hsub := w.sync.requestIdentifiers_subset maximum
  have hfresh : ∀ x ∈ w.sync.requestIdentifiers maximum,
      x ∉ w.sync.remoteIdentifiersInProgress :=
    fun x hx => h.pending_not_progress x (hsub hx)
  refine
    { progress_iff := ?_
      pending_not_progress := ?_
      apart := ?_
      not_stranded := ?_
      card := ?_
      request_lt := ?_
      nodup := ?_
      accounted := ?_ }
  · intro x
    simp only [Finset.mem_union, List.mem_append, List.mem_singleton, h.progress_iff x]
    constructor
    · rintro ((⟨r, hr, hx⟩ | hs) | hx)
      · exact Or.inl ⟨r, Or.inl hr, hx⟩
      · exact Or.inr hs
      · exact Or.inl ⟨_, Or.inr rfl, hx⟩
    · rintro (⟨r, hr | rfl, hx⟩ | hs)
      · exact Or.inl (Or.inl ⟨r, hr, hx⟩)
      · exact Or.inr hx
      · exact Or.inl (Or.inr hs)
  · intro x hx
    rw [Finset.mem_sdiff] at hx
    rw [Finset.mem_union]
    rintro (hp | hr)
    · exact h.pending_not_progress x hx.1 hp
    · exact hx.2 hr
  · rw [List.pairwise_append]
    refine ⟨h.apart, List.pairwise_singleton _ _, ?_⟩
    intro r hr r' hr' x hx hx'
    rw [List.mem_singleton] at hr'
    subst hr'
    exact hfresh x hx' ((h.progress_iff x).mpr (Or.inl ⟨r, hr, hx⟩))
  · rw [List.forall_mem_append, List.forall_mem_singleton]
    exact ⟨h.not_stranded, fun x hx hs => hfresh x hx ((h.progress_iff x).mpr (Or.inr hs))⟩
  · rw [List.forall_mem_append, List.forall_mem_singleton]
    exact ⟨h.card, w.sync.nextRequest_card hmax hpending⟩
  · exact keys_lt_issue InFlight.request h.request_lt rfl
  · exact keys_nodup_issue InFlight.request h.request_lt h.nodup rfl
  · intro x hx
    have := h.accounted x hx
    by_cases hin : x ∈ w.sync.requestIdentifiers maximum
    · exact Or.inr (Or.inl ⟨_, List.mem_append_right _ (List.mem_singleton_self _), hin⟩)
    · simp only [Finset.mem_sdiff, List.mem_append, List.mem_singleton]
      rcases this with hp | ⟨r, hr, hx⟩ | hrest
      · exact Or.inl ⟨hp, hin⟩
      · exact Or.inr (Or.inl ⟨r, Or.inl hr, hx⟩)
      · exact Or.inr (Or.inr hrest)

end Good

namespace Good

variable {maximum : Nat} {w : World ι}

omit [LinearOrder ι] in
theorem mem_others {r r' : InFlight ι} :
    r' ∈ w.inFlight.filter (·.request ≠ r.request) ↔
      r' ∈ w.inFlight ∧ r'.request ≠ r.request := by
  simp [List.mem_filter]

omit [LinearOrder ι] in
/-- An identifier in flight is in `r` or in one of the other requests. -/
theorem mem_inFlight_iff (h : Good maximum w) {r : InFlight ι} (hr : r ∈ w.inFlight)
    (x : ι) :
    (∃ r' ∈ w.inFlight, x ∈ r'.ids) ↔
      x ∈ r.ids ∨ ∃ r' ∈ w.inFlight.filter (·.request ≠ r.request), x ∈ r'.ids := by
  constructor
  · rintro ⟨r', hr', hx⟩
    by_cases hreq : r'.request = r.request
    · have : r' = r := List.inj_on_of_nodup_map h.nodup hr' hr hreq
      subst this
      exact Or.inl hx
    · exact Or.inr ⟨r', mem_others.mpr ⟨hr', hreq⟩, hx⟩
  · rintro (hx | ⟨r', hr', hx⟩)
    · exact ⟨r, hr, hx⟩
    · exact ⟨r', (mem_others.mp hr').1, hx⟩

omit [LinearOrder ι] in
/-- The identifiers of `r` are in no other request. -/
theorem not_mem_others (h : Good maximum w) {r : InFlight ι} (hr : r ∈ w.inFlight)
    {x : ι} (hx : x ∈ r.ids) :
    ¬ ∃ r' ∈ w.inFlight.filter (·.request ≠ r.request), x ∈ r'.ids := by
  rintro ⟨r', hr', hx'⟩
  rw [mem_others] at hr'
  exact h.apart_of_ne hr hr'.1 (Ne.symm hr'.2) x hx hx'

/-- Removing `r`'s identifiers from progress leaves the other requests' and
the stranded ones. -/
theorem progress_sdiff_iff (h : Good maximum w) {r : InFlight ι} (hr : r ∈ w.inFlight)
    (x : ι) :
    x ∈ w.sync.remoteIdentifiersInProgress \ r.ids ↔
      (∃ r' ∈ w.inFlight.filter (·.request ≠ r.request), x ∈ r'.ids) ∨ x ∈ w.stranded := by
  rw [Finset.mem_sdiff, h.progress_iff x, h.mem_inFlight_iff hr x]
  constructor
  · rintro ⟨(hx | hothers) | hs, hnot⟩
    · exact absurd hx hnot
    · exact Or.inl hothers
    · exact Or.inr hs
  · rintro (hothers | hs)
    · refine ⟨Or.inl (Or.inr hothers), fun hx => h.not_mem_others hr hx hothers⟩
    · exact ⟨Or.inr hs, fun hx => h.not_stranded r hr x hx hs⟩

omit [LinearOrder ι] in
/-- What the other requests keep from the invariant. -/
theorem others (h : Good maximum w) (r : InFlight ι) :
    (w.inFlight.filter (·.request ≠ r.request)).Pairwise Apart ∧
    (∀ r' ∈ w.inFlight.filter (·.request ≠ r.request), 1 ≤ r'.ids.card ∧
      r'.ids.card ≤ maximum) ∧
    (∀ r' ∈ w.inFlight.filter (·.request ≠ r.request), r'.request < w.issued) ∧
    ((w.inFlight.filter (·.request ≠ r.request)).map (·.request)).Nodup :=
  ⟨h.apart.sublist List.filter_sublist,
   fun r' hr' => h.card r' (List.mem_of_mem_filter hr'),
   fun r' hr' => h.request_lt r' (List.mem_of_mem_filter hr'),
   (List.filter_sublist.map _).nodup h.nodup⟩

/-- A success or a permanent error hands `r`'s identifiers to the
transcoder. -/
theorem complete_handed (h : Good maximum w) {r : InFlight ι} (hr : r ∈ w.inFlight)
    {result : ZMTransportResponseStatus}
    (hresult : result = .success ∨ result = .permanentError) :
    Good maximum (w.completeRequest r result) := by
  obtain ⟨hapart, hcard, hlt, hnodup⟩ := h.others r
  have hw : w.completeRequest r result =
      { w with sync := { w.sync with remoteIdentifiersInProgress :=
                           w.sync.remoteIdentifiersInProgress \ r.ids },
               inFlight := w.inFlight.filter (·.request ≠ r.request),
               handed := w.handed ∪ r.ids } := by
    rcases hresult with rfl | rfl <;> rfl
  rw [hw]
  refine
    { progress_iff := h.progress_sdiff_iff hr
      pending_not_progress := fun x hx hin =>
        h.pending_not_progress x hx (Finset.mem_sdiff.mp hin).1
      apart := hapart
      not_stranded := fun r' hr' => h.not_stranded r' (List.mem_of_mem_filter hr')
      card := hcard
      request_lt := hlt
      nodup := hnodup
      accounted := ?_ }
  intro x hx
  rcases h.accounted x hx with hp | hf | hh | hs | hd
  · exact Or.inl hp
  · rcases (h.mem_inFlight_iff hr x).mp hf with hx | hothers
    · exact Or.inr (Or.inr (Or.inl (Finset.mem_union_right _ hx)))
    · exact Or.inr (Or.inl hothers)
  · exact Or.inr (Or.inr (Or.inl (Finset.mem_union_left _ hh)))
  · exact Or.inr (Or.inr (Or.inr (Or.inl hs)))
  · exact Or.inr (Or.inr (Or.inr (Or.inr hd)))

/-- An expired request strands its identifiers in progress. -/
theorem complete_expired (h : Good maximum w) {r : InFlight ι} (hr : r ∈ w.inFlight) :
    Good maximum (w.completeRequest r .expired) := by
  obtain ⟨hapart, hcard, hlt, hnodup⟩ := h.others r
  have hw : w.completeRequest r .expired =
      { w with inFlight := w.inFlight.filter (·.request ≠ r.request),
               stranded := w.stranded ∪ r.ids } := rfl
  rw [hw]
  refine
    { progress_iff := ?_
      pending_not_progress := h.pending_not_progress
      apart := hapart
      not_stranded := ?_
      card := hcard
      request_lt := hlt
      nodup := hnodup
      accounted := ?_ }
  · intro x
    rw [h.progress_iff x, h.mem_inFlight_iff hr x, Finset.mem_union]
    constructor
    · rintro ((hx | hothers) | hs)
      · exact Or.inr (Or.inr hx)
      · exact Or.inl hothers
      · exact Or.inr (Or.inl hs)
    · rintro (hothers | hs | hx)
      · exact Or.inl (Or.inr hothers)
      · exact Or.inr hs
      · exact Or.inl (Or.inl hx)
  · intro r' hr' x hx hs
    rcases Finset.mem_union.mp hs with hs | hs
    · exact h.not_stranded r' (List.mem_of_mem_filter hr') x hx hs
    · exact h.not_mem_others hr hs ⟨r', hr', hx⟩
  · intro x hx
    rcases h.accounted x hx with hp | hf | hh | hs | hd
    · exact Or.inl hp
    · rcases (h.mem_inFlight_iff hr x).mp hf with hx | hothers
      · exact Or.inr (Or.inr (Or.inr (Or.inl (Finset.mem_union_right _ hx))))
      · exact Or.inr (Or.inl hothers)
    · exact Or.inr (Or.inr (Or.inl hh))
    · exact Or.inr (Or.inr (Or.inr (Or.inl (Finset.mem_union_left _ hs))))
    · exact Or.inr (Or.inr (Or.inr (Or.inr hd)))

/-- A temporary error or a try-again-later puts `r`'s identifiers back into
the pending set. -/
theorem complete_retry (h : Good maximum w) {r : InFlight ι} (hr : r ∈ w.inFlight)
    {result : ZMTransportResponseStatus}
    (hresult : result = .temporaryError ∨ result = .tryAgainLater) :
    Good maximum (w.completeRequest r result) := by
  obtain ⟨hapart, hcard, hlt, hnodup⟩ := h.others r
  have hw : w.completeRequest r result =
      { w with sync := { remoteIdentifiersThatNeedToBeDownloaded :=
                           w.sync.remoteIdentifiersThatNeedToBeDownloaded ∪ r.ids
                         remoteIdentifiersInProgress :=
                           w.sync.remoteIdentifiersInProgress \ r.ids },
               inFlight := w.inFlight.filter (·.request ≠ r.request) } := by
    rcases hresult with rfl | rfl <;> rfl
  rw [hw]
  refine
    { progress_iff := h.progress_sdiff_iff hr
      pending_not_progress := ?_
      apart := hapart
      not_stranded := fun r' hr' => h.not_stranded r' (List.mem_of_mem_filter hr')
      card := hcard
      request_lt := hlt
      nodup := hnodup
      accounted := ?_ }
  · intro x hx hin
    rw [Finset.mem_sdiff] at hin
    rcases Finset.mem_union.mp hx with hp | hx
    · exact h.pending_not_progress x hp hin.1
    · exact hin.2 hx
  · intro x hx
    rcases h.accounted x hx with hp | hf | hrest
    · exact Or.inl (Finset.mem_union_left _ hp)
    · rcases (h.mem_inFlight_iff hr x).mp hf with hx | hothers
      · exact Or.inl (Finset.mem_union_right _ hx)
      · exact Or.inr (Or.inl hothers)
    · exact Or.inr (Or.inr hrest)

end Good

namespace Good

variable {maximum : Nat} {w : World ι}

theorem step_complete (h : Good maximum w) {r : InFlight ι} (hr : r ∈ w.inFlight)
    (result : ZMTransportResponseStatus) :
    w.step maximum (.complete r.request result) = w.completeRequest r result := by
  have hfind : w.inFlight.find? (·.request = r.request) = some r :=
    find?_key_eq_some h.nodup hr
  simp only [World.step, hfind]

/-- **Step lemma.**  Every step of a separated run keeps `Good`. -/
theorem step (h : Good maximum w) (hmax : 1 ≤ maximum) {e : Event ι}
    (hsep : CallerSeparates w e) : Good maximum (w.step maximum e) := by
  cases e with
  | setRemoteIdentifiersAsNeedingDownload xs => exact h.setRemoteIdentifiersAsNeedingDownload hsep
  | addRemoteIdentifiersThatNeedDownload xs => exact h.addRemoteIdentifiersThatNeedDownload hsep
  | nextRequest => exact h.nextRequest hmax
  | complete request result =>
      cases hfind : w.inFlight.find? (·.request = request) with
      | none =>
          have : w.step maximum (.complete request result) = w := by
            simp only [World.step, hfind]
          rw [this]
          exact h
      | some r =>
          have hr : r ∈ w.inFlight := List.mem_of_find?_eq_some hfind
          have hreq : r.request = request := by simpa using List.find?_some hfind
          subst hreq
          rw [h.step_complete hr]
          -- the completion handler's three branches
          cases result with
          | success => exact h.complete_handed hr (Or.inl rfl)
          | permanentError => exact h.complete_handed hr (Or.inr rfl)
          | expired => exact h.complete_expired hr
          | temporaryError => exact h.complete_retry hr (Or.inl rfl)
          | tryAgainLater => exact h.complete_retry hr (Or.inr rfl)

/-- **Run lemma.** -/
theorem run (hmax : 1 ≤ maximum) {events : List (Event ι)}
    (hsep : Guarded (World.step maximum) CallerSeparates World.init events) :
    Good maximum (StepSystem.run (World.step maximum) World.init events) :=
  run_invariant_guarded (Good maximum) (fun _ _ hs he => hs.step hmax he) events init hsep

end Good

/-- The contract, as far as it holds: (a) requests in flight share no
identifier; (b) each carries between one and `maximum`; (c) every identifier
ever added is pending, carried by exactly one request in flight, handed to the
transcoder, stranded by an expired request, or was dropped by a later
`setRemoteIdentifiersAsNeedingDownload:`; (d) the identifiers in progress are
those in flight and the stranded ones, so `isDone` holds exactly when nothing
is pending, nothing is in flight and nothing is stranded. -/
structure Accounting (maximum : Nat) (w : World ι) : Prop where
  disjoint : ∀ r ∈ w.inFlight, ∀ r' ∈ w.inFlight, r ≠ r' → ∀ x ∈ r.ids, x ∉ r'.ids
  card : ∀ r ∈ w.inFlight, 1 ≤ r.ids.card ∧ r.ids.card ≤ maximum
  accounted : ∀ x ∈ w.added, x ∈ w.sync.remoteIdentifiersThatNeedToBeDownloaded ∨
    (∃! r, r ∈ w.inFlight ∧ x ∈ r.ids) ∨ x ∈ w.handed ∨ x ∈ w.stranded ∨ x ∈ w.dropped
  progress_iff : ∀ x, x ∈ w.sync.remoteIdentifiersInProgress ↔
    (∃ r ∈ w.inFlight, x ∈ r.ids) ∨ x ∈ w.stranded
  isDone_iff : w.sync.isDone = true ↔
    w.sync.remoteIdentifiersThatNeedToBeDownloaded = ∅ ∧ w.inFlight = [] ∧ w.stranded = ∅

namespace Good

variable {maximum : Nat} {w : World ι}

omit [LinearOrder ι] in
/-- Nothing is in progress exactly when nothing is in flight or stranded:
every request in flight carries an identifier. -/
theorem progress_empty_iff (h : Good maximum w) :
    w.sync.remoteIdentifiersInProgress = ∅ ↔ w.inFlight = [] ∧ w.stranded = ∅ := by
  constructor
  · intro hempty
    constructor
    · cases hlist : w.inFlight with
      | nil => rfl
      | cons r rs =>
          have hr : r ∈ w.inFlight := by rw [hlist]; exact List.mem_cons_self
          obtain ⟨x, hx⟩ := Finset.card_pos.mp (h.card r hr).1
          have := (h.progress_iff x).mpr (Or.inl ⟨r, hr, hx⟩)
          rw [hempty] at this
          exact absurd this (Finset.notMem_empty x)
    · apply Finset.eq_empty_of_forall_notMem
      intro x hx
      have := (h.progress_iff x).mpr (Or.inr hx)
      rw [hempty] at this
      exact Finset.notMem_empty x this
  · rintro ⟨hnil, hstr⟩
    apply Finset.eq_empty_of_forall_notMem
    intro x hx
    rcases (h.progress_iff x).mp hx with ⟨r, hr, -⟩ | hs
    · rw [hnil] at hr
      exact List.not_mem_nil hr
    · rw [hstr] at hs
      exact Finset.notMem_empty x hs

theorem accounting (h : Good maximum w) : Accounting maximum w where
  disjoint := fun r hr r' hr' hne => by
    by_cases hreq : r.request = r'.request
    · exact absurd (List.inj_on_of_nodup_map h.nodup hr hr' hreq) hne
    · exact h.apart_of_ne hr hr' hreq
  card := h.card
  accounted := fun x hx => by
    rcases h.accounted x hx with hp | ⟨r, hr, hxr⟩ | hrest
    · exact Or.inl hp
    · exact Or.inr (Or.inl ⟨r, ⟨hr, hxr⟩, fun r' hr' => h.unique_request hr'.1 hr hr'.2 hxr⟩)
    · exact Or.inr (Or.inr hrest)
  progress_iff := h.progress_iff
  isDone_iff := by
    rw [← h.progress_empty_iff]
    simp [ZMRemoteIdentifierObjectSync.isDone]

end Good

/-- **Accounting.**  For a transcoder asking for at least one identifier per
request, every world reached by a run whose callers never pass an identifier
set that is partly in progress satisfies `Accounting`. -/
theorem remoteIdentifierObjectSync_accounting {maximum : Nat} (hmax : 1 ≤ maximum)
    {events : List (Event ι)} {w : World ι}
    (hsep : Guarded (World.step maximum) CallerSeparates World.init events)
    (hw : StepSystem.run (World.step maximum) World.init events = w) :
    Accounting maximum w :=
  (hw ▸ Good.run hmax hsep).accounting

/-- The accounting theorem at an identifier added, requested and answered. -/
theorem remoteIdentifierObjectSync_accounting_add_request_answer :
    1 ≤ 1 ∧
      Guarded (World.step 1) CallerSeparates (World.init : World Nat)
        [.addRemoteIdentifiersThatNeedDownload {0}, .nextRequest, .complete 0 .success] ∧
      Accounting 1 (StepSystem.run (World.step 1) (World.init : World Nat)
        [.addRemoteIdentifiersThatNeedDownload {0}, .nextRequest, .complete 0 .success]) :=
  have hsep : Guarded (World.step 1) CallerSeparates (World.init : World Nat)
      [.addRemoteIdentifiersThatNeedDownload {0}, .nextRequest, .complete 0 .success] := by
    simp only [Guarded, CallerSeparates]
    decide +kernel
  ⟨le_rfl, hsep, remoteIdentifierObjectSync_accounting le_rfl hsep rfl⟩

/-- **An expired request strands its identifiers.**  Add identifier `0`,
request it and let the request expire: `0` is neither pending, nor in flight,
nor handed to the transcoder, yet still in progress, so `isDone` is false
although nothing is pending and nothing is in flight. -/
theorem remoteIdentifierObjectSync_expired_strands :
    (0 : Nat) ∈ (StepSystem.run (World.step 10) (World.init : World Nat)
        [.addRemoteIdentifiersThatNeedDownload {0}, .nextRequest, .complete 0 .expired]).added ∧
      (StepSystem.run (World.step 10) (World.init : World Nat)
        [.addRemoteIdentifiersThatNeedDownload {0}, .nextRequest,
          .complete 0 .expired]).sync.remoteIdentifiersThatNeedToBeDownloaded = ∅ ∧
      (StepSystem.run (World.step 10) (World.init : World Nat)
        [.addRemoteIdentifiersThatNeedDownload {0}, .nextRequest,
          .complete 0 .expired]).inFlight = [] ∧
      (0 : Nat) ∉ (StepSystem.run (World.step 10) (World.init : World Nat)
        [.addRemoteIdentifiersThatNeedDownload {0}, .nextRequest, .complete 0 .expired]).handed ∧
      (0 : Nat) ∈ (StepSystem.run (World.step 10) (World.init : World Nat)
        [.addRemoteIdentifiersThatNeedDownload {0}, .nextRequest,
          .complete 0 .expired]).sync.remoteIdentifiersInProgress ∧
      (StepSystem.run (World.step 10) (World.init : World Nat)
        [.addRemoteIdentifiersThatNeedDownload {0}, .nextRequest,
          .complete 0 .expired]).sync.isDone = false := by
  decide +kernel

end RemoteIdentifierObjectSync

end ZMessaging
