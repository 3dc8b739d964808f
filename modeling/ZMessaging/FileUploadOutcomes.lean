import ZMessaging.FileUploadRequestStrategy

/-!
# What runs of the file upload produce

`FileUploadRequestStrategy` shows that the upload state follows its
lifecycle.  Two things a run produces besides the state are its
notifications and, when the server cooperates, a finished upload.

* Each of the two notifications is posted once, when the message enters
  `Done` or `UploadingFailed`, and never otherwise
  (`notifications_posted_once`).  The finish is posted only in the
  `UploadingFullAsset` branch of `updateUpdatedObject`; the failure is posted
  by `failMessageUpload` except when the upload had already failed, or when
  the parsed keys miss `uploadState`.  The second case never happens for a
  permanent error, because of an invariant of its own: while a request is in
  flight, `uploadState` is the value its token captured unless the
  request-specific handler failed the upload (`Captured.step`).
* The safety results are not vacuous: a message ready to upload its
  placeholder whose responses all succeed is done, delivered and announced
  after two rounds, or three with preview data
  (`upload_completes_of_success`).
-/

namespace ZMessaging.FileUpload

open StepSystem

namespace FileUploadRequestStrategy

variable {ι : Type*} (s : FileUploadRequestStrategy ι)

/-! ### Notifications -/

section Notifications

variable (state : ZMAssetUploadState) (effect : FileUploadEffect)

/-- The way from `s` to `s'` posts `effect` once if it enters `state`, and
never otherwise. -/
def PostsOnEntering (s' : FileUploadRequestStrategy ι) : Prop :=
  s'.effects.count effect = s.effects.count effect +
    if s.message.uploadState ≠ state ∧ s'.message.uploadState = state then 1 else 0

/-- `effect` has been posted once if the message is in `state`, and never
otherwise. -/
def PostedOnceIn : Prop :=
  s.effects.count effect = if s.message.uploadState = state then 1 else 0

@[simp] theorem post_effects : (s.post effect).effects = s.effects ++ [effect] := rfl

@[simp] theorem withMessage_effects (f : ZMAssetClientMessage ι → ZMAssetClientMessage ι) :
    (s.withMessage f).effects = s.effects := rfl

@[simp] theorem resetLocallyModifiedKeys_effects : s.resetLocallyModifiedKeys.effects = s.effects :=
  rfl

@[simp] theorem setLocallyModifiedKeys_effects : s.setLocallyModifiedKeys.effects = s.effects :=
  rfl

/-- Deleting cached data posts no notification. -/
theorem deleteRequestData_count (includingEncryptedAssetData : Bool)
    (hrequest : effect ≠ .deleteRequestData) (hasset : effect ≠ .deleteAssetData) :
    (s.deleteRequestData includingEncryptedAssetData).effects.count effect =
      s.effects.count effect := by
  cases includingEncryptedAssetData <;>
    simp [deleteRequestData, List.count_append, Ne.symm hrequest, Ne.symm hasset]

@[simp] theorem deleteRequestData_count_uploadFinished (includingEncryptedAssetData : Bool) :
    (s.deleteRequestData includingEncryptedAssetData).effects.count .uploadFinished =
      s.effects.count .uploadFinished :=
  s.deleteRequestData_count _ _ (by decide) (by decide)

@[simp] theorem deleteRequestData_count_uploadFailed (includingEncryptedAssetData : Bool) :
    (s.deleteRequestData includingEncryptedAssetData).effects.count .uploadFailed =
      s.effects.count .uploadFailed :=
  s.deleteRequestData_count _ _ (by decide) (by decide)

variable {s state effect} {s' s'' : FileUploadRequestStrategy ι}

/-- A way that posts nothing and does not enter `state`. -/
theorem PostsOnEntering.of_not_entering
    (hcount : s'.effects.count effect = s.effects.count effect)
    (hnot : s'.message.uploadState = state → s.message.uploadState = state) :
    s.PostsOnEntering state effect s' := by
  unfold PostsOnEntering
  rw [hcount]
  by_cases hafter : s'.message.uploadState = state
  · simp [hnot hafter]
  · simp [hafter]

/-- A way that posts nothing and keeps `uploadState`. -/
theorem PostsOnEntering.of_eq (hcount : s'.effects.count effect = s.effects.count effect)
    (hstate : s'.message.uploadState = s.message.uploadState) :
    s.PostsOnEntering state effect s' :=
  .of_not_entering hcount fun hafter => hstate ▸ hafter

/-- Only the effects and `uploadState` of the later state matter. -/
theorem PostsOnEntering.congr_right (h : s.PostsOnEntering state effect s')
    (heffects : s''.effects = s'.effects)
    (hstate : s''.message.uploadState = s'.message.uploadState) :
    s.PostsOnEntering state effect s'' := by
  unfold PostsOnEntering at h ⊢
  rw [heffects, hstate]
  exact h

/-- A way that posts `effect` on entering `state`, and never leaves it, keeps
the notification posted once in `state`. -/
theorem PostedOnceIn.of_postsOnEntering (hposted : s.PostedOnceIn state effect)
    (h : s.PostsOnEntering state effect s')
    (hstays : s.message.uploadState = state → s'.message.uploadState = state) :
    s'.PostedOnceIn state effect := by
  unfold PostedOnceIn PostsOnEntering at *
  rw [h, hposted]
  by_cases hbefore : s.message.uploadState = state
  · simp [hbefore, hstays hbefore]
  · by_cases hafter : s'.message.uploadState = state
    · simp [hbefore, hafter]
    · simp [hbefore, hafter]

variable (s) (response : ZMTransportResponse ι) (keys : Bool)

/-- `failMessageUpload` posts the failure notification, except when the
upload had already failed and its keys contain `uploadState`. -/
theorem failMessageUpload_count_uploadFailed :
    (s.failMessageUpload keys).effects.count .uploadFailed =
      s.effects.count .uploadFailed +
        if keys = true ∧ s.message.uploadState = .uploadingFailed then 0 else 1 := by
  unfold failMessageUpload
  cases hstate : s.message.uploadState <;> cases keys <;> split_ifs <;>
    simp_all [List.count_append]

@[simp] theorem failMessageUpload_count_uploadFinished :
    (s.failMessageUpload keys).effects.count .uploadFinished =
      s.effects.count .uploadFinished := by
  unfold failMessageUpload
  cases hstate : s.message.uploadState <;> cases keys <;> split_ifs <;>
    simp_all [List.count_append]

/-- Failing on keys that contain `uploadState` posts the failure notification
exactly when it enters `UploadingFailed`. -/
theorem failMessageUpload_postsOnEntering_failed :
    s.PostsOnEntering .uploadingFailed .uploadFailed (s.failMessageUpload true) := by
  unfold PostsOnEntering
  rw [failMessageUpload_count_uploadFailed, failMessageUpload_uploadState]
  by_cases hfailed : s.message.uploadState = .uploadingFailed
  · simp [hfailed]
  · simp [hfailed]

/-- `failMessageUpload` never enters `Done`, nor posts its notification. -/
theorem failMessageUpload_postsOnEntering_done :
    s.PostsOnEntering .done .uploadFinished (s.failMessageUpload keys) := by
  unfold PostsOnEntering
  rw [failMessageUpload_count_uploadFinished, failMessageUpload_uploadState]
  cases keys
  · simp
  · simp

/-- Without a failing response the request-specific handler does nothing. -/
theorem requestCompletionHandler_of_not_failsUpload (request : UploadRequest)
    (h : response.failsUpload = false) : s.requestCompletionHandler request response = s := by
  cases request with
  | placeholder => simp [requestCompletionHandler, h]
  | thumbnail | fullAsset => simp [requestCompletionHandler, failUploadOnError, h]
  | notUploaded => rfl

theorem requestCompletionHandler_postsOnEntering (request : UploadRequest) :
    s.PostsOnEntering .done .uploadFinished (s.requestCompletionHandler request response) ∧
      s.PostsOnEntering .uploadingFailed .uploadFailed
        (s.requestCompletionHandler request response) := by
  by_cases hfails : response.failsUpload = true
  · -- every handler that fails the upload does it on the key `uploadState`
    have hdone := s.failMessageUpload_postsOnEntering_done true
    have hfailed := s.failMessageUpload_postsOnEntering_failed
    cases request with
    | placeholder =>
      simp only [requestCompletionHandler, hfails, if_true]
      exact ⟨hdone.congr_right rfl rfl, hfailed.congr_right rfl rfl⟩
    | thumbnail | fullAsset =>
      simp only [requestCompletionHandler, failUploadOnError, hfails, if_true]
      exact ⟨hdone, hfailed⟩
    | notUploaded => exact ⟨.of_eq rfl rfl, .of_eq rfl rfl⟩
  · rw [s.requestCompletionHandler_of_not_failsUpload response request
      (Bool.eq_false_iff.mpr hfails)]
    exact ⟨.of_eq rfl rfl, .of_eq rfl rfl⟩

/-- A successful response posts the finish notification exactly when it
completes the upload, and never the failure one. -/
theorem updateUpdatedObject_postsOnEntering :
    s.PostsOnEntering .done .uploadFinished (s.updateUpdatedObject response keys).1 ∧
      s.PostsOnEntering .uploadingFailed .uploadFailed (s.updateUpdatedObject response keys).1 := by
  cases keys with
  | false => exact ⟨.of_eq rfl rfl, .of_eq rfl rfl⟩
  | true =>
    unfold updateUpdatedObject
    cases hstate : s.message.uploadState with
    | uploadingPlaceholder =>
      -- the thumbnail or the full asset comes next: neither is entered here
      by_cases hpreview : s.message.hasPreviewData = true
      · exact ⟨.of_not_entering rfl (by simp [hstate, hpreview]),
          .of_not_entering rfl (by simp [hstate, hpreview])⟩
      · exact ⟨.of_not_entering rfl (by simp [hstate, hpreview]),
          .of_not_entering rfl (by simp [hstate, hpreview])⟩
    | uploadingThumbnail =>
      exact ⟨.of_not_entering rfl (by simp [hstate]), .of_not_entering rfl (by simp [hstate])⟩
    | uploadingFullAsset =>
      -- the one branch that completes the upload, and posts it
      constructor
      · simp [PostsOnEntering, hstate, List.count_append]
      · simp [PostsOnEntering, hstate, List.count_append]
    | uploadingFailed | done => exact ⟨.of_eq rfl rfl, .of_eq rfl rfl⟩

theorem shouldRetryToSyncAfterFailedToUpdateObject_postsOnEntering :
    s.PostsOnEntering .done .uploadFinished
        (s.shouldRetryToSyncAfterFailedToUpdateObject response keys).1 ∧
      s.PostsOnEntering .uploadingFailed .uploadFailed
        (s.shouldRetryToSyncAfterFailedToUpdateObject response true).1 := by
  unfold shouldRetryToSyncAfterFailedToUpdateObject
  constructor
  · split
    · exact s.failMessageUpload_postsOnEntering_done keys
    · exact .of_eq rfl rfl
  · split
    · exact s.failMessageUpload_postsOnEntering_failed
    · exact .of_eq rfl rfl

/-- The sync's handler posts each notification exactly when it enters its
state, provided `uploadState` is still what the token captured unless the
request-specific handler failed the upload. -/
theorem syncCompletionHandler_postsOnEntering (previousUploadState : ZMAssetUploadState)
    (hcaptured : response.failsUpload = false → s.message.uploadState = previousUploadState) :
    s.PostsOnEntering .done .uploadFinished (s.syncCompletionHandler previousUploadState response) ∧
      s.PostsOnEntering .uploadingFailed .uploadFailed
        (s.syncCompletionHandler previousUploadState response) := by
  unfold syncCompletionHandler
  dsimp only
  split
  next =>
    obtain ⟨hdone, hfailed⟩ := ({ s with inFlight := none } : FileUploadRequestStrategy ι)
      |>.updateUpdatedObject_postsOnEntering response
        (decide (s.message.uploadState = previousUploadState))
    split
    · exact ⟨hdone, hfailed⟩
    · exact ⟨hdone.congr_right rfl rfl, hfailed.congr_right rfl rfl⟩
  next => exact ⟨.of_eq rfl rfl, .of_eq rfl rfl⟩
  next => exact ⟨.of_eq rfl rfl, .of_eq rfl rfl⟩
  next => exact ⟨.of_eq rfl rfl, .of_eq rfl rfl⟩
  next hpermanent =>
    -- a permanent error never fails the upload in the first handler, so the
    -- key is parsed and `failMessageUpload` sees it
    have hkeys : decide (s.message.uploadState = previousUploadState) = true :=
      decide_eq_true (hcaptured (by simp [ZMTransportResponse.failsUpload, hpermanent]))
    obtain ⟨hdone, hfailed⟩ := ({ s with inFlight := none } : FileUploadRequestStrategy ι)
      |>.shouldRetryToSyncAfterFailedToUpdateObject_postsOnEntering response
        (decide (s.message.uploadState = previousUploadState))
    rw [hkeys] at hdone ⊢
    split
    · exact ⟨hdone.congr_right rfl rfl, hfailed.congr_right rfl rfl⟩
    · exact ⟨hdone.congr_right rfl rfl, hfailed.congr_right rfl rfl⟩

/-- While a request is in flight, `uploadState` is the value its token
captured, unless the request-specific handler has failed the upload. -/
def Captured : Prop :=
  ∀ inFlight, s.inFlight = some inFlight →
    (∀ response, inFlight.response = some response → response.failsUpload = false) →
      s.message.uploadState = inFlight.previousUploadState

theorem init_captured (message : ZMAssetClientMessage ι) : (init message).Captured := by
  intro _ hinFlight
  cases hinFlight

variable {s}

/-- **Nothing but a failure moves the captured state**: every step keeps
`Captured`. -/
theorem Captured.step (h : s.Captured) : ∀ event, (s.step event).Captured
  | .strategy .nextRequest => by
    intro inFlight hinFlight hresponse
    rw [FileUploadRequestStrategy.step, nextRequest_message]
    rcases s.nextRequest_inFlight hinFlight with hold | ⟨-, hcaptured, -⟩
    · exact h inFlight hold hresponse
    · exact hcaptured.symm
  | .strategy (.completeWithResponse response) => by
    rcases s.completeWithResponse_cases response with hsame | ⟨request, _, hinFlight, heq⟩
    · rw [FileUploadRequestStrategy.step, hsame]
      exact h
    · intro _ hinFlight' hresponse
      rw [FileUploadRequestStrategy.step, heq] at hinFlight' ⊢
      cases hinFlight'
      -- the response did not fail the upload, so its handler did nothing
      have hkept := hresponse response rfl
      show (s.requestCompletionHandler request response).message.uploadState = _
      rw [s.requestCompletionHandler_of_not_failsUpload response request hkept]
      exact h ⟨some request, _, none⟩ hinFlight (fun _ hnone => by cases hnone)
  | .strategy .syncCompletion => by
    rcases s.syncCompletion_cases with hsame | ⟨_, _, _, _, heq⟩
    · rw [FileUploadRequestStrategy.step, hsame]
      exact h
    · intro _ hinFlight
      rw [FileUploadRequestStrategy.step, heq, syncCompletionHandler_inFlight] at hinFlight
      cases hinFlight
  | .change message => fun inFlight hinFlight => h inFlight hinFlight

/-- Every step posts each notification exactly when it enters its state. -/
theorem step_postsOnEntering (h : s.Captured) :
    ∀ event, s.PostsOnEntering .done .uploadFinished (s.step event) ∧
      s.PostsOnEntering .uploadingFailed .uploadFailed (s.step event)
  | .strategy .nextRequest =>
    ⟨.of_eq (by rw [step, nextRequest_effects]) (by rw [step, nextRequest_message]),
      .of_eq (by rw [step, nextRequest_effects]) (by rw [step, nextRequest_message])⟩
  | .strategy (.completeWithResponse response) => by
    rcases s.completeWithResponse_cases response with hsame | ⟨request, _, _, heq⟩
    · rw [step, hsame]
      exact ⟨.of_eq rfl rfl, .of_eq rfl rfl⟩
    · obtain ⟨hdone, hfailed⟩ := s.requestCompletionHandler_postsOnEntering response request
      rw [step, heq]
      exact ⟨hdone.congr_right rfl rfl, hfailed.congr_right rfl rfl⟩
  | .strategy .syncCompletion => by
    rcases s.syncCompletion_cases with hsame | ⟨_, previousUploadState, response, hinFlight, heq⟩
    · rw [step, hsame]
      exact ⟨.of_eq rfl rfl, .of_eq rfl rfl⟩
    · rw [step, heq]
      refine s.syncCompletionHandler_postsOnEntering response previousUploadState fun hkept => ?_
      exact h _ hinFlight fun _ hresponse => by
        cases hresponse
        exact hkept
  | .change message => ⟨.of_eq rfl (s.change_uploadState message),
      .of_eq rfl (s.change_uploadState message)⟩

/-- What the notification result rests on: no request for a finished upload,
the captured state, and each notification posted once in its state. -/
structure Notified (s : FileUploadRequestStrategy ι) : Prop where
  good : s.Good
  captured : s.Captured
  finished : s.PostedOnceIn .done .uploadFinished
  failed : s.PostedOnceIn .uploadingFailed .uploadFailed

theorem Notified.step (h : s.Notified) (event : Event ι) : (s.step event).Notified := by
  have hadvances := step_advances h.good event
  obtain ⟨hdone, hfailed⟩ := step_postsOnEntering h.captured event
  exact ⟨h.good.step event, h.captured.step event,
    h.finished.of_postsOnEntering hdone hadvances.done,
    h.failed.of_postsOnEntering hfailed hadvances.failed⟩

/-- **Each notification once**: from a message neither done nor failed, with
nothing posted yet, every run has posted the upload-finished notification
once if the message is `Done` and never otherwise, and the upload-failed
notification once if it is `UploadingFailed` and never otherwise. -/
theorem notifications_posted_once (message : ZMAssetClientMessage ι)
    (hdone : message.uploadState ≠ .done) (hfailed : message.uploadState ≠ .uploadingFailed)
    (events : List (Event ι)) :
    (StepSystem.run step (init message) events).effects.count .uploadFinished =
        (if (StepSystem.run step (init message) events).message.uploadState = .done
          then 1 else 0) ∧
      (StepSystem.run step (init message) events).effects.count .uploadFailed =
        (if (StepSystem.run step (init message) events).message.uploadState = .uploadingFailed
          then 1 else 0) := by
  have hinit : (init message).Notified :=
    ⟨init_good message, init_captured message, by simp [PostedOnceIn, init, hdone],
      by simp [PostedOnceIn, init, hfailed]⟩
  have hrun := run_invariant Notified (fun _ event hs => hs.step event) events hinit
  exact ⟨hrun.finished, hrun.failed⟩

end Notifications

/-! ### Progress -/

section Progress

variable (response : ZMTransportResponse ι)

/-- The sync would make a request for the message now: nothing is in flight,
the key is modified, the message passes the update predicate and the filter,
and its conversation has a remote identifier. -/
structure ReadyToSync : Prop where
  idle : s.inFlight = none
  modified : s.message.uploadStateModified = true
  predicate : s.message.predicateForFileToUpload = true
  ready : s.message.isReadyToUploadFile = true
  conversation : s.message.hasConversationRemoteIdentifier = true

/-- One round of the upload: the request of the current state is made, its
response comes, and the sync's handler runs. -/
def round : List (Event ι) :=
  [.strategy .nextRequest, .strategy (.completeWithResponse response), .strategy .syncCompletion]

variable {s response}

/-- A ready message gets the request of its state, with the state captured. -/
theorem nextRequest_of_readyToSync (h : s.ReadyToSync) :
    ∃ request, s.nextRequest =
      { s with inFlight := some ⟨some request, s.message.uploadState, none⟩ } := by
  have hdone := s.message.uploadState_ne_done_of_isReadyToUploadFile h.ready
  -- every state but `Done` has its request, built for the conversation
  have hrequest : ∃ request, requestForUpdatingObject s.message = some (some request) := by
    unfold requestForUpdatingObject requestToUpload
    cases hstate : s.message.uploadState with
    | done => exact absurd hstate hdone
    | _ => simp [h.conversation]
  obtain ⟨request, hrequest⟩ := hrequest
  refine ⟨request, ?_⟩
  unfold nextRequest
  rw [if_pos (by simp [h.idle, h.modified, h.predicate, h.ready]), hrequest]

/-- **A successful round** ends in `updateUpdatedObject` on the parsed key;
the key stays modified only when the transcoder asks for more. -/
theorem run_round_of_success (h : s.ReadyToSync) (hsuccess : response.result = .success) :
    StepSystem.run step s (round response) =
      let updated := ({ s with inFlight := none } : FileUploadRequestStrategy ι)
        |>.updateUpdatedObject response true
      if updated.2 then updated.1 else updated.1.resetLocallyModifiedKeys := by
  obtain ⟨request, hnext⟩ := nextRequest_of_readyToSync h
  have hkept : response.failsUpload = false := by
    simp [ZMTransportResponse.failsUpload, hsuccess]
  -- the response does not fail the upload, so its own handler changes nothing
  have hhandler := ({ s with inFlight := some ⟨some request, s.message.uploadState, none⟩ } :
    FileUploadRequestStrategy ι).requestCompletionHandler_of_not_failsUpload response request hkept
  simp only [round, run_cons, run_nil, step, hnext, completeWithResponse, hhandler,
    syncCompletion, syncCompletionHandler, hsuccess, decide_true, Bool.true_and]

variable (s)

/-- A successful round on the placeholder moves to the thumbnail when there
is preview data and to the full asset otherwise, and keeps the key
modified. -/
theorem run_round_of_success_placeholder (h : s.ReadyToSync)
    (hsuccess : response.result = .success) (hstate : s.message.uploadState = .uploadingPlaceholder) :
    StepSystem.run step s (round response) =
      ⟨s.message.setUploadState
        (if s.message.hasPreviewData then .uploadingThumbnail else .uploadingFullAsset),
        s.effects, none⟩ := by
  rw [run_round_of_success h hsuccess]
  simp [updateUpdatedObject, withMessage, hstate]

/-- A successful round on the thumbnail moves to the full asset and keeps the
key modified. -/
theorem run_round_of_success_thumbnail (h : s.ReadyToSync)
    (hsuccess : response.result = .success) (hstate : s.message.uploadState = .uploadingThumbnail) :
    StepSystem.run step s (round response) =
      ⟨s.message.setUploadState .uploadingFullAsset, s.effects, none⟩ := by
  rw [run_round_of_success h hsuccess]
  simp [updateUpdatedObject, withMessage, hstate]

/-- A successful round on the full asset completes the upload: the message is
done, downloaded and delivered, the cached data is deleted and the finish
posted. -/
theorem run_round_of_success_fullAsset (h : s.ReadyToSync) (hsuccess : response.result = .success)
    (hstate : s.message.uploadState = .uploadingFullAsset) :
    (StepSystem.run step s (round response)).message.uploadState = .done ∧
      (StepSystem.run step s (round response)).message.delivered = true ∧
      (StepSystem.run step s (round response)).message.transferState = .downloaded ∧
      (StepSystem.run step s (round response)).effects =
        s.effects ++ [.deleteRequestData, .deleteAssetData, .uploadFinished] := by
  rw [run_round_of_success h hsuccess]
  simp [updateUpdatedObject, withMessage, deleteRequestData, hstate]

/-- A ready message moved to another state short of `Done` is ready again. -/
theorem readyToSync_setUploadState (h : s.ReadyToSync) (state : ZMAssetUploadState)
    (hstate : state ≠ .done) :
    (⟨s.message.setUploadState state, s.effects, none⟩ : FileUploadRequestStrategy ι).ReadyToSync := by
  have hdone := s.message.uploadState_ne_done_of_isReadyToUploadFile h.ready
  refine ⟨rfl, rfl, ?_, ?_, h.conversation⟩
  · rw [ZMAssetClientMessage.predicateForFileToUpload_setUploadState _ hstate hdone]
    exact h.predicate
  · rw [ZMAssetClientMessage.isReadyToUploadFile_setUploadState _ hstate hdone]
    exact h.ready

/-- The last round: from the full asset, a successful response completes the
upload and posts the finish once more. -/
theorem run_round_of_success_finishes (h : s.ReadyToSync) (hsuccess : response.result = .success)
    (hstate : s.message.uploadState = .uploadingFullAsset) :
    (StepSystem.run step s (round response)).message.uploadState = .done ∧
      (StepSystem.run step s (round response)).message.delivered = true ∧
      (StepSystem.run step s (round response)).message.transferState = .downloaded ∧
      (StepSystem.run step s (round response)).effects.count .uploadFinished =
        s.effects.count .uploadFinished + 1 := by
  obtain ⟨hdone, hdelivered, hdownloaded, heffects⟩ :=
    s.run_round_of_success_fullAsset h hsuccess hstate
  refine ⟨hdone, hdelivered, hdownloaded, ?_⟩
  rw [heffects]
  simp [List.count_append]

/-- **Progress**: a message ready to upload its placeholder, whose responses
all succeed, is done after two rounds, or three when it has preview data:
delivered, downloaded, and announced once more. -/
theorem upload_completes_of_success (h : s.ReadyToSync)
    (hplaceholder : s.message.uploadState = .uploadingPlaceholder)
    (responses : List (ZMTransportResponse ι))
    (hsuccess : ∀ response ∈ responses, response.result = .success)
    (hlength : responses.length = if s.message.hasPreviewData then 3 else 2) :
    (StepSystem.run step s (responses.flatMap round)).message.uploadState = .done ∧
      (StepSystem.run step s (responses.flatMap round)).message.delivered = true ∧
      (StepSystem.run step s (responses.flatMap round)).message.transferState = .downloaded ∧
      (StepSystem.run step s (responses.flatMap round)).effects.count .uploadFinished =
        s.effects.count .uploadFinished + 1 := by
  by_cases hpreview : s.message.hasPreviewData = true
  · -- placeholder, thumbnail, full asset
    rw [if_pos hpreview] at hlength
    obtain ⟨r₁, r₂, r₃, rfl⟩ := List.length_eq_three.mp hlength
    simp only [List.flatMap_cons, List.flatMap_nil, List.append_nil, run_append]
    rw [s.run_round_of_success_placeholder h (hsuccess r₁ (by simp)) hplaceholder, if_pos hpreview]
    have hthumbnail := s.readyToSync_setUploadState h .uploadingThumbnail (by decide)
    rw [run_round_of_success_thumbnail _ hthumbnail (hsuccess r₂ (by simp)) rfl]
    have hfullAsset := readyToSync_setUploadState _ hthumbnail .uploadingFullAsset (by decide)
    exact run_round_of_success_finishes _ hfullAsset (hsuccess r₃ (by simp)) rfl
  · -- placeholder, full asset
    rw [if_neg hpreview] at hlength
    obtain ⟨r₁, r₂, rfl⟩ := List.length_eq_two.mp hlength
    simp only [List.flatMap_cons, List.flatMap_nil, List.append_nil, run_append]
    rw [s.run_round_of_success_placeholder h (hsuccess r₁ (by simp)) hplaceholder, if_neg hpreview]
    have hfullAsset := s.readyToSync_setUploadState h .uploadingFullAsset (by decide)
    exact run_round_of_success_finishes _ hfullAsset (hsuccess r₂ (by simp)) rfl

end Progress

end FileUploadRequestStrategy

end ZMessaging.FileUpload
