import ZMessaging.Traces
import ZMessaging.TransportResponse

/-!
# `FileUploadRequestStrategy`: the upload lifecycle of a file message

A file message is uploaded in up to three requests, chosen by its
`uploadState`: the placeholder, then the thumbnail when the file has preview
data, then the full asset.  A failure turns the state to `UploadingFailed`,
which the conversation learns of through a not-uploaded message.  The
strategy has no loop of its own: a `ZMUpstreamModifiedObjectSync` on the one
key `uploadState` picks the message up while that key is locally modified,
asks `requestForUpdatingObject` for the request of the current state, and on
completion calls `updateUpdatedObject` or
`shouldRetryToSyncAfterFailedToUpdateObject`.

Every response therefore meets two completion handlers.  The
request-specific one, added by `requestToUpload*` while the request is built,
fails the upload on an expired, temporary-error or try-again-later response;
the sync's, added afterwards by `processNextUpdate`, runs after it on the
same group queue, with any other work in between.  The sync is specialised
here to the one message and the one key: the state holds the message, the
request in flight with the value of `uploadState` its token captured, and
the response whose first handler has run.  Everything the user, the
preprocessors and the data model do to the message is one event, `change`,
which leaves `uploadState` and its modification flag alone.

The lifecycle the strategy is meant to follow is `UploadStep`.  The main
results:

* no request is ever in flight for a message that is `Done` (`Good.step`),
  which is what keeps `failMessageUpload` away from its `Done` branch;
* every step moves `uploadState` by at most one `UploadStep`, and enters
  `UploadingThumbnail` only with preview data (`step_advances`); the
  strategy sets `delivered` only together with `Done` and `Downloaded`
  (`step_deliveredOnlyWhenDone`);
* over every run `uploadState` follows the lifecycle, and `Done` and
  `UploadingFailed` are never left
  (`fileUpload_uploadState_only_moves_forward`).

What runs of the strategy post and when they finish is in
`FileUploadOutcomes`.
-/

namespace ZMessaging.FileUpload

open StepSystem Relation

/-- `ZMAssetUploadState`. -/
inductive ZMAssetUploadState
  | uploadingPlaceholder
  | uploadingThumbnail
  | uploadingFullAsset
  | uploadingFailed
  | done
  deriving DecidableEq, Repr

/-- `ZMFileTransferState`. -/
inductive ZMFileTransferState
  | uploading
  | uploaded
  | downloading
  | downloaded
  | failedUpload
  | cancelledUpload
  | failedDownload
  deriving DecidableEq, Repr

/-! ## The lifecycle -/

/-- One step of the upload lifecycle: placeholder, then thumbnail or
straight to the full asset, then done; every state but `Done` may fail. -/
inductive UploadStep : ZMAssetUploadState → ZMAssetUploadState → Prop
  | thumbnail : UploadStep .uploadingPlaceholder .uploadingThumbnail
  | fullAssetAfterPlaceholder : UploadStep .uploadingPlaceholder .uploadingFullAsset
  | fullAssetAfterThumbnail : UploadStep .uploadingThumbnail .uploadingFullAsset
  | done : UploadStep .uploadingFullAsset .done
  | fail {state : ZMAssetUploadState} : state ≠ .done → UploadStep state .uploadingFailed

namespace UploadStep

/-- `Done` has no successor other than itself. -/
theorem eq_of_done (state : ZMAssetUploadState) (h : UploadStep .done state) :
    state = .done := by
  cases h with
  | fail hne => exact absurd rfl hne

/-- `UploadingFailed` has no successor other than itself. -/
theorem eq_of_failed (state : ZMAssetUploadState) (h : UploadStep .uploadingFailed state) :
    state = .uploadingFailed := by
  cases h
  rfl

/-- Once `Done`, always `Done`. -/
theorem reflTransGen_done {state : ZMAssetUploadState}
    (h : ReflTransGen UploadStep .done state) : state = .done :=
  reflTransGen_eq_of_absorbing eq_of_done h

/-- Once `UploadingFailed`, always `UploadingFailed`. -/
theorem reflTransGen_failed {state : ZMAssetUploadState}
    (h : ReflTransGen UploadStep .uploadingFailed state) : state = .uploadingFailed :=
  reflTransGen_eq_of_absorbing eq_of_failed h

end UploadStep

/-! ## The message -/

/-- The part of a `ZMAssetClientMessage` the strategy reads or writes; a
`Bool` stands for each test the source makes on optional data. -/
structure ZMAssetClientMessage (ι : Type*) where
  uploadState : ZMAssetUploadState
  /-- `uploadState` is among `keysThatHaveLocalModifications`. -/
  uploadStateModified : Bool
  transferState : ZMFileTransferState
  delivered : Bool
  isExpired : Bool
  /-- `didFailToUploadFileData()` has been called. -/
  fileDataUploadFailed : Bool
  assetId : Option ι
  /-- `fileMessageData != nil`. -/
  hasFileMessageData : Bool
  /-- `fileMessageData?.previewData != nil`. -/
  hasPreviewData : Bool
  /-- `genericAssetMessage?.asset.uploaded.otrKey.length > 0`. -/
  hasOtrKey : Bool
  hasDownloadedImage : Bool
  /-- `genericAssetMessage?.asset.preview.image.width > 0`. -/
  hasPreviewImage : Bool
  /-- `conversation?.remoteIdentifier != nil`. -/
  hasConversationRemoteIdentifier : Bool

namespace ZMAssetClientMessage

variable {ι : Type*} (message : ZMAssetClientMessage ι)

/-- `predicateForFileToUpload`, the sync's update predicate. -/
def predicateForFileToUpload : Bool :=
  (message.uploadState != .done && message.transferState == .uploading) ||
    (message.transferState == .failedUpload || message.transferState == .cancelledUpload)

/-- `isReadyToUploadFile`, the sync's filter. -/
def isReadyToUploadFile : Bool :=
  message.hasFileMessageData &&
    [ZMFileTransferState.uploading, .failedUpload, .cancelledUpload].contains
      message.transferState &&
    message.uploadState != .done && message.hasOtrKey &&
    (!message.hasDownloadedImage || message.hasPreviewImage)

/-- `message.uploadState = state`; the data model records the key as locally
modified. -/
def setUploadState (state : ZMAssetUploadState) : ZMAssetClientMessage ι :=
  { message with uploadState := state, uploadStateModified := true }

/-- `message.transferState = .FailedUpload` followed by `message.expire()`. -/
def expireFailedUpload : ZMAssetClientMessage ι :=
  { message with transferState := .failedUpload, isExpired := true }

/-- `didFailToUploadFileData()`. -/
def didFailToUploadFileData : ZMAssetClientMessage ι :=
  { message with fileDataUploadFailed := true }

@[simp] theorem setUploadState_uploadState (state : ZMAssetUploadState) :
    (message.setUploadState state).uploadState = state := rfl

@[simp] theorem setUploadState_delivered (state : ZMAssetUploadState) :
    (message.setUploadState state).delivered = message.delivered := rfl

@[simp] theorem expireFailedUpload_uploadState :
    message.expireFailedUpload.uploadState = message.uploadState := rfl

@[simp] theorem expireFailedUpload_delivered :
    message.expireFailedUpload.delivered = message.delivered := rfl

@[simp] theorem didFailToUploadFileData_uploadState :
    message.didFailToUploadFileData.uploadState = message.uploadState := rfl

@[simp] theorem didFailToUploadFileData_delivered :
    message.didFailToUploadFileData.delivered = message.delivered := rfl

/-- Moving between states other than `Done` keeps the filter's answer. -/
theorem isReadyToUploadFile_setUploadState {state : ZMAssetUploadState} (hstate : state ≠ .done)
    (hdone : message.uploadState ≠ .done) :
    (message.setUploadState state).isReadyToUploadFile = message.isReadyToUploadFile := by
  have hstate' : (state != .done) = true := bne_iff_ne.mpr hstate
  have hdone' : (message.uploadState != .done) = true := bne_iff_ne.mpr hdone
  simp only [isReadyToUploadFile, setUploadState, hstate', hdone']

/-- Moving between states other than `Done` keeps the update predicate's
answer. -/
theorem predicateForFileToUpload_setUploadState {state : ZMAssetUploadState}
    (hstate : state ≠ .done) (hdone : message.uploadState ≠ .done) :
    (message.setUploadState state).predicateForFileToUpload =
      message.predicateForFileToUpload := by
  have hstate' : (state != .done) = true := bne_iff_ne.mpr hstate
  have hdone' : (message.uploadState != .done) = true := bne_iff_ne.mpr hdone
  simp only [predicateForFileToUpload, setUploadState, hstate', hdone']

theorem uploadState_ne_done_of_isReadyToUploadFile (h : message.isReadyToUploadFile = true) :
    message.uploadState ≠ .done := by
  simp only [isReadyToUploadFile, Bool.and_eq_true, bne_iff_ne] at h
  exact h.1.1.2

end ZMAssetClientMessage

/-! ## What one step may do to the message -/

section Advances

variable {ι : Type*}

/-- What one step of the strategy may do to the message: move `uploadState`
by at most one step of the lifecycle, and enter `UploadingThumbnail` only
when the message has preview data. -/
structure Advances (message message' : ZMAssetClientMessage ι) : Prop where
  uploadState : ReflGen UploadStep message.uploadState message'.uploadState
  thumbnail : message.uploadState = .uploadingPlaceholder →
    message'.uploadState = .uploadingThumbnail → message.hasPreviewData = true

/-- `delivered` is switched on only together with `Done` and `Downloaded`. -/
def DeliveredOnlyWhenDone (message message' : ZMAssetClientMessage ι) : Prop :=
  message.delivered = false → message'.delivered = true →
    message'.uploadState = .done ∧ message'.transferState = .downloaded

variable {message message' message'' : ZMAssetClientMessage ι}

theorem Advances.of_uploadState_eq (h : message'.uploadState = message.uploadState) :
    Advances message message' where
  uploadState := h ▸ ReflGen.refl
  thumbnail := fun hplaceholder hthumbnail => by
    rw [h, hplaceholder] at hthumbnail
    cases hthumbnail

/-- Failing an upload that is not `Done` is a step of the lifecycle. -/
theorem Advances.of_failed (hne : message.uploadState ≠ .done)
    (h : message'.uploadState = .uploadingFailed) : Advances message message' where
  uploadState := h ▸ ReflGen.single (UploadStep.fail hne)
  thumbnail := fun _ hthumbnail => by
    rw [h] at hthumbnail
    cases hthumbnail

/-- Only `uploadState` of the later message matters. -/
theorem Advances.congr_right (h : Advances message message')
    (heq : message''.uploadState = message'.uploadState) : Advances message message'' where
  uploadState := heq ▸ h.uploadState
  thumbnail := heq ▸ h.thumbnail

/-- A step that keeps `uploadState` or fails an upload that is not `Done`. -/
theorem Advances.of_eq_or_failed (hne : message.uploadState ≠ .done)
    (h : message'.uploadState = message.uploadState ∨ message'.uploadState = .uploadingFailed) :
    Advances message message' := by
  rcases h with hsame | hfailed
  · exact .of_uploadState_eq hsame
  · exact .of_failed hne hfailed

/-- A step never leaves `Done`. -/
theorem Advances.done (h : Advances message message') (hdone : message.uploadState = .done) :
    message'.uploadState = .done := by
  have hstep := h.uploadState
  rw [hdone] at hstep
  exact UploadStep.reflTransGen_done hstep.to_reflTransGen

/-- A step never leaves `UploadingFailed`. -/
theorem Advances.failed (h : Advances message message')
    (hfailed : message.uploadState = .uploadingFailed) :
    message'.uploadState = .uploadingFailed := by
  have hstep := h.uploadState
  rw [hfailed] at hstep
  exact UploadStep.reflTransGen_failed hstep.to_reflTransGen

theorem DeliveredOnlyWhenDone.of_delivered_eq (h : message'.delivered = message.delivered) :
    DeliveredOnlyWhenDone message message' := by
  intro hfalse htrue
  rw [h, hfalse] at htrue
  cases htrue

/-- Only `delivered`, `uploadState` and `transferState` of the later message
matter. -/
theorem DeliveredOnlyWhenDone.congr_right (h : DeliveredOnlyWhenDone message message')
    (hdelivered : message''.delivered = message'.delivered)
    (huploadState : message''.uploadState = message'.uploadState)
    (htransferState : message''.transferState = message'.transferState) :
    DeliveredOnlyWhenDone message message'' := by
  intro hfalse htrue
  rw [huploadState, htransferState]
  exact h hfalse (hdelivered ▸ htrue)

end Advances

/-! ## Requests, responses and the strategy's state -/

/-- The four transport requests `requestForUpdatingObject` builds. -/
inductive UploadRequest
  /-- `requestToUploadPlaceholder`. -/
  | placeholder
  /-- `requestToUploadThumbnail`. -/
  | thumbnail
  /-- `requestToUploadFull`. -/
  | fullAsset
  /-- `requestToUploadNotUploaded`. -/
  | notUploaded
  deriving DecidableEq, Repr

/-- What the strategy reads of a `ZMTransportResponse`. -/
structure ZMTransportResponse (ι : Type*) where
  result : ZMTransportResponseStatus
  /-- What `parseUploadResponse(_:clientDeletionDelegate:)` returns: the
  request failed because of missing clients. -/
  failedBecauseOfMissingClients : Bool
  /-- The `Location` header, as `NSUUID.uuidWithTransportString` parses it. -/
  locationAssetId : Option ι

/-- A response on which a request-specific handler fails the upload. -/
def ZMTransportResponse.failsUpload {ι : Type*} (response : ZMTransportResponse ι) : Bool :=
  response.result == .expired || response.result == .temporaryError ||
    response.result == .tryAgainLater

/-- What the strategy does outside the message. -/
inductive FileUploadEffect
  /-- `zm_fileAssetCache.deleteRequestData`. -/
  | deleteRequestData
  /-- `zm_fileAssetCache.deleteAssetData(_, fileName:, encrypted: true)`. -/
  | deleteAssetData
  /-- `uploadFinishedNotificationName` posted on the user-interface context. -/
  | uploadFinished
  /-- `uploadFailedNotificationName` posted on the user-interface context. -/
  | uploadFailed
  deriving DecidableEq, Repr

/-- The sync's request in flight. -/
structure UploadInFlight (ι : Type*) where
  /-- The transport request of the `ZMUpstreamRequest`; `nil` when the
  conversation has no remote identifier, and then no response ever comes. -/
  transportRequest : Option UploadRequest
  /-- `uploadState` as the sync's token captured it. -/
  previousUploadState : ZMAssetUploadState
  /-- The response whose request-specific handler has run; the sync's
  handler is queued behind it. -/
  response : Option (ZMTransportResponse ι)

/-- The strategy and its sync, on one message. -/
structure FileUploadRequestStrategy (ι : Type*) where
  message : ZMAssetClientMessage ι
  effects : List FileUploadEffect
  inFlight : Option (UploadInFlight ι)

/-- `requestToUploadPlaceholder`, `requestToUploadThumbnail`,
`requestToUploadFull` and `requestToUploadNotUploaded`: each returns `nil`
when the conversation has no remote identifier. -/
def requestToUpload {ι : Type*} (message : ZMAssetClientMessage ι) (request : UploadRequest) :
    Option UploadRequest :=
  if message.hasConversationRemoteIdentifier then some request else none

/-- `requestForUpdatingObject(_:forKeys:)` for the key `uploadState`: the
source tests `UploadingFailed`, `UploadingThumbnail`, `UploadingFullAsset` and
`UploadingPlaceholder` in turn, and has no request for `Done`. -/
def requestForUpdatingObject {ι : Type*} (message : ZMAssetClientMessage ι) :
    Option (Option UploadRequest) :=
  match message.uploadState with
  | .uploadingFailed => some (requestToUpload message .notUploaded)
  | .uploadingThumbnail => some (requestToUpload message .thumbnail)
  | .uploadingFullAsset => some (requestToUpload message .fullAsset)
  | .uploadingPlaceholder => some (requestToUpload message .placeholder)
  | .done => none

/-- A change made outside the strategy. -/
inductive StrategyEvent (ι : Type*)
  /-- The operation loop asks for a request, the user being authenticated
  and the client ready. -/
  | nextRequest
  /-- The request in flight completes; its request-specific handler runs. -/
  | completeWithResponse (response : ZMTransportResponse ι)
  /-- The sync's completion handler runs. -/
  | syncCompletion

/-- An event of the strategy, or a change of the message made elsewhere: by
the user, the preprocessors or the data model. -/
inductive Event (ι : Type*)
  | strategy (event : StrategyEvent ι)
  | change (message : ZMAssetClientMessage ι)

namespace FileUploadRequestStrategy

variable {ι : Type*} (s : FileUploadRequestStrategy ι)

/-- A message the strategy has not touched yet. -/
def init (message : ZMAssetClientMessage ι) : FileUploadRequestStrategy ι :=
  ⟨message, [], none⟩

/-- Record an effect outside the message. -/
def post (effect : FileUploadEffect) : FileUploadRequestStrategy ι :=
  { s with effects := s.effects ++ [effect] }

/-- `deleteRequestData(forMessage:includingEncryptedAssetData:)`. -/
def deleteRequestData (includingEncryptedAssetData : Bool) : FileUploadRequestStrategy ι :=
  if includingEncryptedAssetData then (s.post .deleteRequestData).post .deleteAssetData
  else s.post .deleteRequestData

/-- Change the message. -/
def withMessage (f : ZMAssetClientMessage ι → ZMAssetClientMessage ι) :
    FileUploadRequestStrategy ι :=
  { s with message := f s.message }

/-- `resetLocallyModifiedKeys` on the key `uploadState`. -/
def resetLocallyModifiedKeys : FileUploadRequestStrategy ι :=
  s.withMessage fun message => { message with uploadStateModified := false }

/-- `setLocallyModifiedKeys` on the key `uploadState`. -/
def setLocallyModifiedKeys : FileUploadRequestStrategy ι :=
  s.withMessage fun message => { message with uploadStateModified := true }

/-- `failMessageUpload(_:keys:request:)`. -/
def failMessageUpload (keysContainUploadState : Bool) : FileUploadRequestStrategy ι :=
  let s := if s.message.transferState ≠ .cancelledUpload
    then s.withMessage ZMAssetClientMessage.expireFailedUpload else s
  if keysContainUploadState then
    match s.message.uploadState with
    | .uploadingPlaceholder =>
        ((s.deleteRequestData true).withMessage (·.setUploadState .uploadingFailed)).post
          .uploadFailed
    | .uploadingFullAsset | .uploadingThumbnail =>
        (((s.withMessage ZMAssetClientMessage.didFailToUploadFileData).deleteRequestData
          false).withMessage (·.setUploadState .uploadingFailed)).post .uploadFailed
    -- the source returns here, before the tracking notification
    | .uploadingFailed => s
    | .done => (s.withMessage (·.setUploadState .uploadingFailed)).post .uploadFailed
  else s.post .uploadFailed

/-- `updateUpdatedObject(_:requestUserInfo:response:keysToParse:)`, with
whether the transcoder needs more requests.  `updateWithPostPayload` and
`parseUploadResponse` leave the fields modelled here alone. -/
def updateUpdatedObject (response : ZMTransportResponse ι)
    (keysToParseContainUploadState : Bool) : FileUploadRequestStrategy ι × Bool :=
  if keysToParseContainUploadState then
    match s.message.uploadState with
    | .uploadingPlaceholder =>
        (s.withMessage (·.setUploadState
          (if s.message.hasPreviewData then .uploadingThumbnail else .uploadingFullAsset)), true)
    | .uploadingThumbnail => (s.withMessage (·.setUploadState .uploadingFullAsset), true)
    | .uploadingFullAsset =>
        (((s.withMessage fun message =>
            { message.setUploadState .done with
              transferState := .downloaded, delivered := true,
              assetId := response.locationAssetId.or message.assetId }).deleteRequestData
            true).post .uploadFinished, false)
    | .uploadingFailed | .done => (s, false)
  else (s, false)

/-- `shouldRetryToSyncAfterFailedToUpdateObject(_:request:response:keysToParse:)`:
`shouldUploadFailed` is read before `failMessageUpload` changes
`uploadState`. -/
def shouldRetryToSyncAfterFailedToUpdateObject (response : ZMTransportResponse ι)
    (keysToParseContainUploadState : Bool) : FileUploadRequestStrategy ι × Bool :=
  if !response.failedBecauseOfMissingClients then
    let shouldUploadFailed :=
      [ZMAssetUploadState.uploadingFullAsset, .uploadingThumbnail].contains s.message.uploadState
    (s.failMessageUpload keysToParseContainUploadState, shouldUploadFailed)
  else (s, response.failedBecauseOfMissingClients)

/-- The completion handler of `requestToUploadThumbnail` and
`requestToUploadFull`. -/
def failUploadOnError (response : ZMTransportResponse ι) : FileUploadRequestStrategy ι :=
  if response.failsUpload then s.failMessageUpload true else s

/-- The request-specific completion handler.  A failed placeholder is not to
be announced by a not-uploaded message, so its handler also resets the key;
`requestToUploadNotUploaded` adds no handler. -/
def requestCompletionHandler (request : UploadRequest) (response : ZMTransportResponse ι) :
    FileUploadRequestStrategy ι :=
  match request with
  | .placeholder =>
      if response.failsUpload then (s.failMessageUpload true).resetLocallyModifiedKeys else s
  | .thumbnail | .fullAsset => s.failUploadOnError response
  | .notUploaded => s

/-- The completion handler `processNextUpdate` adds, on the token of the
key `uploadState`: the key is parsed unless its value changed since the
request was made (`keysToParseAfterSyncingToken:`).
`didNotFinishToSynchronizeToken:` leaves the modification flag as it is;
`didSynchronizeToken:` and `didFailToSynchronizeToken:` reset it. -/
def syncCompletionHandler (previousUploadState : ZMAssetUploadState)
    (response : ZMTransportResponse ι) : FileUploadRequestStrategy ι :=
  let keysToParse := decide (s.message.uploadState = previousUploadState)
  let s : FileUploadRequestStrategy ι := { s with inFlight := none }
  match response.result with
  | .success =>
      let updated := s.updateUpdatedObject response keysToParse
      if keysToParse && updated.2 then updated.1 else updated.1.resetLocallyModifiedKeys
  | .temporaryError | .tryAgainLater => s
  -- the strategy does not implement `requestExpiredForObject:forKeys:`
  | .expired => s.resetLocallyModifiedKeys
  | .permanentError =>
      let retried := s.shouldRetryToSyncAfterFailedToUpdateObject response keysToParse
      -- the strategy names no object to refetch
      if retried.2 then retried.1.resetLocallyModifiedKeys.setLocallyModifiedKeys
      else retried.1.resetLocallyModifiedKeys

/-- `nextRequest` through `processNextUpdate`: the sync holds the message
while its key is locally modified and not in progress, and syncs it when it
passes the update predicate and the filter. -/
def nextRequest : FileUploadRequestStrategy ι :=
  if s.inFlight.isNone && s.message.uploadStateModified &&
      s.message.predicateForFileToUpload && s.message.isReadyToUploadFile then
    match requestForUpdatingObject s.message with
    | some transportRequest =>
        { s with inFlight := some ⟨transportRequest, s.message.uploadState, none⟩ }
    -- `RequireString`: the sync stops on a `nil` request
    | none => s
  else s

/-- The request in flight completes: its request-specific handler runs and
the sync's is queued. -/
def completeWithResponse (response : ZMTransportResponse ι) : FileUploadRequestStrategy ι :=
  match s.inFlight with
  | some ⟨some request, previousUploadState, none⟩ =>
      { s.requestCompletionHandler request response with
        inFlight := some ⟨some request, previousUploadState, some response⟩ }
  | _ => s

/-- The sync's queued completion handler runs. -/
def syncCompletion : FileUploadRequestStrategy ι :=
  match s.inFlight with
  | some ⟨_, previousUploadState, some response⟩ =>
      s.syncCompletionHandler previousUploadState response
  | _ => s

/-- A change made outside the strategy; `uploadState` and its flag are
kept. -/
def change (message : ZMAssetClientMessage ι) : FileUploadRequestStrategy ι :=
  s.withMessage fun current =>
    { message with uploadState := current.uploadState,
                   uploadStateModified := current.uploadStateModified }

/-- One event. -/
def step : Event ι → FileUploadRequestStrategy ι
  | .strategy .nextRequest => s.nextRequest
  | .strategy (.completeWithResponse response) => s.completeWithResponse response
  | .strategy .syncCompletion => s.syncCompletion
  | .change message => s.change message

/-! ### The effects and the message updates -/

variable (effect : FileUploadEffect) (includingEncryptedAssetData : Bool)
  (f : ZMAssetClientMessage ι → ZMAssetClientMessage ι)

@[simp] theorem post_message : (s.post effect).message = s.message := rfl

@[simp] theorem post_inFlight : (s.post effect).inFlight = s.inFlight := rfl

@[simp] theorem deleteRequestData_message :
    (s.deleteRequestData includingEncryptedAssetData).message = s.message := by
  cases includingEncryptedAssetData <;> rfl

@[simp] theorem deleteRequestData_inFlight :
    (s.deleteRequestData includingEncryptedAssetData).inFlight = s.inFlight := by
  cases includingEncryptedAssetData <;> rfl

@[simp] theorem withMessage_message : (s.withMessage f).message = f s.message := rfl

@[simp] theorem withMessage_inFlight : (s.withMessage f).inFlight = s.inFlight := rfl

@[simp] theorem resetLocallyModifiedKeys_inFlight :
    s.resetLocallyModifiedKeys.inFlight = s.inFlight := rfl

@[simp] theorem resetLocallyModifiedKeys_uploadState :
    s.resetLocallyModifiedKeys.message.uploadState = s.message.uploadState := rfl

@[simp] theorem resetLocallyModifiedKeys_delivered :
    s.resetLocallyModifiedKeys.message.delivered = s.message.delivered := rfl

@[simp] theorem resetLocallyModifiedKeys_transferState :
    s.resetLocallyModifiedKeys.message.transferState = s.message.transferState := rfl

@[simp] theorem setLocallyModifiedKeys_inFlight :
    s.setLocallyModifiedKeys.inFlight = s.inFlight := rfl

@[simp] theorem setLocallyModifiedKeys_uploadState :
    s.setLocallyModifiedKeys.message.uploadState = s.message.uploadState := rfl

@[simp] theorem setLocallyModifiedKeys_delivered :
    s.setLocallyModifiedKeys.message.delivered = s.message.delivered := rfl

@[simp] theorem setLocallyModifiedKeys_transferState :
    s.setLocallyModifiedKeys.message.transferState = s.message.transferState := rfl

/-! ### `failMessageUpload` -/

variable (response : ZMTransportResponse ι) (keys : Bool)

/-- `failMessageUpload` turns `uploadState` to `UploadingFailed` exactly when
its keys contain it. -/
@[simp] theorem failMessageUpload_uploadState :
    (s.failMessageUpload keys).message.uploadState =
      if keys then .uploadingFailed else s.message.uploadState := by
  -- the expiry before the switch leaves `uploadState` alone
  have hexpired : (if s.message.transferState ≠ .cancelledUpload
      then s.withMessage ZMAssetClientMessage.expireFailedUpload else s).message.uploadState =
        s.message.uploadState := by
    split <;> rfl
  unfold failMessageUpload
  cases keys with
  | false => simpa using hexpired
  | true =>
    simp only [if_true]
    split <;> simp_all

/-- `failMessageUpload` leaves the request in flight and `delivered` alone. -/
theorem failMessageUpload_frame :
    (s.failMessageUpload keys).inFlight = s.inFlight ∧
      (s.failMessageUpload keys).message.delivered = s.message.delivered := by
  unfold failMessageUpload
  cases hstate : s.message.uploadState <;> split_ifs <;> simp [hstate]

@[simp] theorem failMessageUpload_inFlight :
    (s.failMessageUpload keys).inFlight = s.inFlight :=
  (s.failMessageUpload_frame keys).1

@[simp] theorem failMessageUpload_delivered :
    (s.failMessageUpload keys).message.delivered = s.message.delivered :=
  (s.failMessageUpload_frame keys).2

theorem failMessageUpload_uploadState_eq_or :
    (s.failMessageUpload keys).message.uploadState = s.message.uploadState ∨
      (s.failMessageUpload keys).message.uploadState = .uploadingFailed := by
  cases keys <;> simp

/-! ### The two completion handlers -/

/-- The request-specific handler keeps `uploadState` or fails the upload. -/
theorem requestCompletionHandler_uploadState (request : UploadRequest) :
    (s.requestCompletionHandler request response).message.uploadState = s.message.uploadState ∨
      (s.requestCompletionHandler request response).message.uploadState = .uploadingFailed := by
  cases request with
  | placeholder =>
    simp only [requestCompletionHandler]
    split
    · rw [resetLocallyModifiedKeys_uploadState]
      exact s.failMessageUpload_uploadState_eq_or true
    · exact .inl rfl
  | thumbnail | fullAsset =>
    simp only [requestCompletionHandler, failUploadOnError]
    split
    · exact s.failMessageUpload_uploadState_eq_or true
    · exact .inl rfl
  | notUploaded => exact .inl rfl

/-- The request-specific handler leaves the request in flight and
`delivered` alone. -/
theorem requestCompletionHandler_frame (request : UploadRequest) :
    (s.requestCompletionHandler request response).inFlight = s.inFlight ∧
      (s.requestCompletionHandler request response).message.delivered = s.message.delivered := by
  unfold requestCompletionHandler failUploadOnError
  split <;> (try split) <;> simp

/-- A successful response moves the message one step along the lifecycle:
the placeholder to the thumbnail exactly when there is preview data. -/
theorem updateUpdatedObject_advances :
    Advances s.message (s.updateUpdatedObject response keys).1.message := by
  cases keys with
  | false => exact .of_uploadState_eq rfl
  | true =>
    unfold updateUpdatedObject
    -- one case per state the request was made in
    cases hstate : s.message.uploadState with
    | uploadingPlaceholder =>
      refine ⟨?_, fun _ hthumbnail => ?_⟩
      · by_cases hpreview : s.message.hasPreviewData = true
        · simpa [hstate, hpreview] using ReflGen.single UploadStep.thumbnail
        · simpa [hstate, hpreview] using ReflGen.single UploadStep.fullAssetAfterPlaceholder
      · by_contra hpreview
        simp [hpreview] at hthumbnail
    | uploadingThumbnail =>
      refine ⟨?_, fun hplaceholder _ => ?_⟩
      · simpa [hstate] using ReflGen.single UploadStep.fullAssetAfterThumbnail
      · rw [hstate] at hplaceholder
        cases hplaceholder
    | uploadingFullAsset =>
      refine ⟨?_, fun hplaceholder _ => ?_⟩
      · simpa [hstate] using ReflGen.single UploadStep.done
      · rw [hstate] at hplaceholder
        cases hplaceholder
    | uploadingFailed | done => exact .of_uploadState_eq (by simp [hstate])

/-- `updateUpdatedObject` sets `delivered` only in its `UploadingFullAsset`
branch, together with `Done` and `Downloaded`. -/
theorem updateUpdatedObject_deliveredOnlyWhenDone :
    DeliveredOnlyWhenDone s.message (s.updateUpdatedObject response keys).1.message := by
  unfold updateUpdatedObject
  split
  · split
    case h_3 =>
      intro _ _
      simp
    all_goals exact .of_delivered_eq (by simp)
  · exact .of_delivered_eq rfl

@[simp] theorem updateUpdatedObject_inFlight :
    (s.updateUpdatedObject response keys).1.inFlight = s.inFlight := by
  unfold updateUpdatedObject
  split <;> (try split) <;> simp

/-- A permanent error keeps `uploadState` or fails the upload. -/
theorem shouldRetryToSyncAfterFailedToUpdateObject_uploadState :
    (s.shouldRetryToSyncAfterFailedToUpdateObject response keys).1.message.uploadState =
        s.message.uploadState ∨
      (s.shouldRetryToSyncAfterFailedToUpdateObject response keys).1.message.uploadState =
        .uploadingFailed := by
  unfold shouldRetryToSyncAfterFailedToUpdateObject
  split
  · exact s.failMessageUpload_uploadState_eq_or keys
  · exact .inl rfl

@[simp] theorem shouldRetryToSyncAfterFailedToUpdateObject_inFlight :
    (s.shouldRetryToSyncAfterFailedToUpdateObject response keys).1.inFlight = s.inFlight := by
  unfold shouldRetryToSyncAfterFailedToUpdateObject
  split <;> simp

@[simp] theorem shouldRetryToSyncAfterFailedToUpdateObject_delivered :
    (s.shouldRetryToSyncAfterFailedToUpdateObject response keys).1.message.delivered =
      s.message.delivered := by
  unfold shouldRetryToSyncAfterFailedToUpdateObject
  split <;> simp

variable (previousUploadState : ZMAssetUploadState)

/-- The sync's handler finishes the request in flight. -/
@[simp] theorem syncCompletionHandler_inFlight :
    (s.syncCompletionHandler previousUploadState response).inFlight = none := by
  unfold syncCompletionHandler
  dsimp only
  split <;> (try split) <;> simp

/-- With a message that is not `Done`, the sync's handler moves `uploadState`
by at most one step of the lifecycle. -/
theorem syncCompletionHandler_advances (hne : s.message.uploadState ≠ .done) :
    Advances s.message (s.syncCompletionHandler previousUploadState response).message := by
  unfold syncCompletionHandler
  dsimp only
  -- one case per response class, as `processNextUpdate` switches on it; what
  -- follows the transcoder's answer only touches the modification flag
  split
  next =>
    have hupdated := ({ s with inFlight := none } : FileUploadRequestStrategy ι)
      |>.updateUpdatedObject_advances response (decide (s.message.uploadState = previousUploadState))
    split
    · exact hupdated
    · exact hupdated.congr_right (resetLocallyModifiedKeys_uploadState _)
  next => exact .of_uploadState_eq rfl
  next => exact .of_uploadState_eq rfl
  next => exact .of_uploadState_eq (resetLocallyModifiedKeys_uploadState _)
  next =>
    have hretried := Advances.of_eq_or_failed hne
      (({ s with inFlight := none } : FileUploadRequestStrategy ι)
        |>.shouldRetryToSyncAfterFailedToUpdateObject_uploadState response
          (decide (s.message.uploadState = previousUploadState)))
    split
    · exact hretried.congr_right (by simp)
    · exact hretried.congr_right (by simp)

/-- The sync's handler sets `delivered` only through `updateUpdatedObject`. -/
theorem syncCompletionHandler_deliveredOnlyWhenDone :
    DeliveredOnlyWhenDone s.message
      (s.syncCompletionHandler previousUploadState response).message := by
  unfold syncCompletionHandler
  dsimp only
  split
  next =>
    have hupdated := ({ s with inFlight := none } : FileUploadRequestStrategy ι)
      |>.updateUpdatedObject_deliveredOnlyWhenDone response
        (decide (s.message.uploadState = previousUploadState))
    split
    · exact hupdated
    · exact hupdated.congr_right (by simp) (by simp) (by simp)
  next => exact .of_delivered_eq rfl
  next => exact .of_delivered_eq rfl
  next => exact .of_delivered_eq rfl
  next => split <;> exact .of_delivered_eq (by simp)

/-! ### One step -/

/-- No request is in flight for a message that is `Done`. -/
def Good : Prop :=
  ∀ inFlight, s.inFlight = some inFlight → s.message.uploadState ≠ .done

theorem init_good (message : ZMAssetClientMessage ι) : (init message).Good := by
  intro _ hinFlight
  cases hinFlight

@[simp] theorem nextRequest_message : s.nextRequest.message = s.message := by
  unfold nextRequest
  split <;> (try split) <;> rfl

@[simp] theorem nextRequest_effects : s.nextRequest.effects = s.effects := by
  unfold nextRequest
  split <;> (try split) <;> rfl

/-- A request is issued only for a message that passes the filter. -/
theorem nextRequest_inFlight {inFlight : UploadInFlight ι}
    (h : s.nextRequest.inFlight = some inFlight) :
    s.inFlight = some inFlight ∨
      (s.message.isReadyToUploadFile = true ∧
        inFlight.previousUploadState = s.message.uploadState ∧ inFlight.response = none) := by
  unfold nextRequest at h
  split at h
  next hready =>
    simp only [Bool.and_eq_true] at hready
    split at h
    · -- the token captures the current state, and no response has come yet
      cases h
      exact .inr ⟨hready.2, rfl, rfl⟩
    · exact .inl h
  next => exact .inl h

/-- A response either finds its request waiting, runs the request-specific
handler and queues the sync's, or does nothing. -/
theorem completeWithResponse_cases :
    s.completeWithResponse response = s ∨
      ∃ request previousUploadState,
        s.inFlight = some ⟨some request, previousUploadState, none⟩ ∧
        s.completeWithResponse response =
          { s.requestCompletionHandler request response with
            inFlight := some ⟨some request, previousUploadState, some response⟩ } := by
  unfold completeWithResponse
  split
  next request previousUploadState heq => exact .inr ⟨request, previousUploadState, heq, rfl⟩
  next => exact .inl rfl

/-- The sync's handler runs on a queued response, or nothing happens. -/
theorem syncCompletion_cases :
    s.syncCompletion = s ∨
      ∃ transportRequest previousUploadState response,
        s.inFlight = some ⟨transportRequest, previousUploadState, some response⟩ ∧
        s.syncCompletion = s.syncCompletionHandler previousUploadState response := by
  unfold syncCompletion
  split
  next transportRequest previousUploadState response heq =>
    exact .inr ⟨transportRequest, previousUploadState, response, heq, rfl⟩
  next => exact .inl rfl

@[simp] theorem change_uploadState (message : ZMAssetClientMessage ι) :
    (s.change message).message.uploadState = s.message.uploadState := rfl

@[simp] theorem change_inFlight (message : ZMAssetClientMessage ι) :
    (s.change message).inFlight = s.inFlight := rfl

variable {s}

theorem Good.nextRequest (h : s.Good) : s.nextRequest.Good := by
  intro inFlight hinFlight
  rw [nextRequest_message]
  rcases s.nextRequest_inFlight hinFlight with hold | ⟨hready, -⟩
  · exact h inFlight hold
  · exact s.message.uploadState_ne_done_of_isReadyToUploadFile hready

theorem Good.completeWithResponse (h : s.Good) : (s.completeWithResponse response).Good := by
  rcases s.completeWithResponse_cases response with hsame | ⟨request, _, hinFlight, heq⟩
  · rw [hsame]
    exact h
  · intro _ _
    rw [heq]
    -- the handler keeps `uploadState`, which is not `Done`, or fails the upload
    show (s.requestCompletionHandler request response).message.uploadState ≠ .done
    rcases s.requestCompletionHandler_uploadState response request with hkeep | hfailed
    · rw [hkeep]
      exact h _ hinFlight
    · rw [hfailed]
      simp

theorem Good.syncCompletion (h : s.Good) : s.syncCompletion.Good := by
  rcases s.syncCompletion_cases with hsame | ⟨_, _, _, _, heq⟩
  · rw [hsame]
    exact h
  · intro _ hinFlight
    rw [heq, syncCompletionHandler_inFlight] at hinFlight
    cases hinFlight

/-- **No request for a finished upload**: every step keeps `Good`. -/
theorem Good.step (h : s.Good) : ∀ event, (s.step event).Good
  | .strategy .nextRequest => h.nextRequest
  | .strategy (.completeWithResponse response) => h.completeWithResponse response
  | .strategy .syncCompletion => h.syncCompletion
  | .change _ => fun inFlight hinFlight => h inFlight hinFlight

theorem Good.run (h : s.Good) (events : List (Event ι)) :
    (StepSystem.run FileUploadRequestStrategy.step s events).Good :=
  run_invariant Good (fun _ event hs => hs.step event) events h

/-- Every step from a good state advances the message along the
lifecycle. -/
theorem step_advances (h : s.Good) : ∀ event, Advances s.message (s.step event).message
  | .strategy .nextRequest => .of_uploadState_eq (by rw [step, nextRequest_message])
  | .strategy (.completeWithResponse response) => by
    rcases s.completeWithResponse_cases response with hsame | ⟨request, _, hinFlight, heq⟩
    · exact .of_uploadState_eq (by rw [step, hsame])
    · rw [step, heq]
      exact .of_eq_or_failed (h _ hinFlight) (s.requestCompletionHandler_uploadState response request)
  | .strategy .syncCompletion => by
    rcases s.syncCompletion_cases with hsame | ⟨_, previousUploadState, response, hinFlight, heq⟩
    · exact .of_uploadState_eq (by rw [step, hsame])
    · rw [step, heq]
      exact s.syncCompletionHandler_advances response previousUploadState (h _ hinFlight)
  | .change message => .of_uploadState_eq (s.change_uploadState message)

/-- Every step of the strategy sets `delivered` only together with `Done` and
`Downloaded`. -/
theorem step_deliveredOnlyWhenDone :
    ∀ event, DeliveredOnlyWhenDone s.message (s.step (.strategy event)).message
  | .nextRequest => .of_delivered_eq (by rw [step, nextRequest_message])
  | .completeWithResponse response => by
    rcases s.completeWithResponse_cases response with hsame | ⟨request, _, _, heq⟩
    · exact .of_delivered_eq (by rw [step, hsame])
    · rw [step, heq]
      exact .of_delivered_eq (s.requestCompletionHandler_frame response request).2
  | .syncCompletion => by
    rcases s.syncCompletion_cases with hsame | ⟨_, previousUploadState, response, _, heq⟩
    · exact .of_delivered_eq (by rw [step, hsame])
    · rw [step, heq]
      exact s.syncCompletionHandler_deliveredOnlyWhenDone response previousUploadState

/-- **Run lemma**: along every run from a good state, `uploadState` follows
the lifecycle. -/
theorem Good.run_uploadStep (h : s.Good) (events : List (Event ι)) :
    ReflTransGen UploadStep s.message.uploadState
      (StepSystem.run FileUploadRequestStrategy.step s events).message.uploadState :=
  run_reflTransGen Good (fun s => s.message.uploadState)
    (fun _ event hs => ⟨hs.step event, (step_advances hs event).uploadState⟩) events h

theorem fileUpload_uploadState_only_moves_forward (message : ZMAssetClientMessage ι)
    (events later : List (Event ι)) (event : StrategyEvent ι) :
    Advances (StepSystem.run step (init message) events).message
        ((StepSystem.run step (init message) events).step (.strategy event)).message ∧
      DeliveredOnlyWhenDone (StepSystem.run step (init message) events).message
        ((StepSystem.run step (init message) events).step (.strategy event)).message ∧
      ReflTransGen UploadStep (StepSystem.run step (init message) events).message.uploadState
        (StepSystem.run step (init message) (events ++ later)).message.uploadState ∧
      ((StepSystem.run step (init message) events).message.uploadState = .done →
        (StepSystem.run step (init message) (events ++ later)).message.uploadState = .done) ∧
      ((StepSystem.run step (init message) events).message.uploadState = .uploadingFailed →
        (StepSystem.run step (init message) (events ++ later)).message.uploadState =
          .uploadingFailed) := by
  have hgood := (init_good message).run events
  have hlater := hgood.run_uploadStep later
  rw [run_append]
  refine ⟨step_advances hgood _, step_deliveredOnlyWhenDone _, hlater,
    fun hdone => ?_, fun hfailed => ?_⟩
  · rw [hdone] at hlater
    exact UploadStep.reflTransGen_done hlater
  · rw [hfailed] at hlater
    exact UploadStep.reflTransGen_failed hlater

end FileUploadRequestStrategy

end ZMessaging.FileUpload
