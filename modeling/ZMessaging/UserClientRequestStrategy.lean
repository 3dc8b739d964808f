import ZMessaging.UpstreamModifiedObjectSync

/-!
# `UserClientRequestStrategy`: failed updates and client deletion

The strategy uploads the self user's clients through three syncs.
`modifiedSync` sends new prekeys, new signaling keys and the fetch of missing
clients' prekeys, `deleteSync` deletes clients marked to delete, and
`insertSync` registers a new client. When an update request fails for good,
the modified sync asks `shouldRetryToSyncAfterFailedToUpdateObject:` with the
keys that did not change while the request was in flight (`keysToParse`). The
strategy reads those keys. Prekeys and signaling keys are handled, and a
deletion goes to `ClientUpdateStatus`. *Every other case* is taken for a
failed registration and goes to `ZMClientRegistrationStatus`. That covers the
missing-clients fetch, and any request whose keys all changed while it was in
flight.

A deletion is answered in three places. `failedToDeleteClient` answers when a
request fails for good, and `didDeleteClient` answers in the continuation that
`processResponseForDeletingClients` queues after a success. The current phase
is read off `isWaitingToDeleteClients`. When the last client is not found on
the server, the answer is posted and the credentials are dropped, but
`isWaitingToDeleteClients` stays set.

Main results:

* `userClient_update_failure_fails_registration`: in every run of the
  modified sync, a failed missing-clients fetch, or a failed update whose keys
  all changed in flight, reaches `didFailToRegisterClient:`;
* `AnsweredOnce.run`: in every interleaving of delete responses and queued
  continuations, a call of `deleteClients` is answered at most once;
* `clientDeletion_not_found_keeps_deleting_phase`: when the one client to
  delete is not found, the answer is posted but the phase stays
  `DeletingClients` with no credentials, for ever.
-/

namespace ZMessaging.UserClients

open StepSystem

/-- The keys of a `UserClient` that the strategy's syncs upload. -/
inductive ClientKey
  | numberOfKeysRemaining
  | missing
  | needsToUpdateSignalingKeys
  | markedToDelete
  deriving DecidableEq, Repr

/-- `ZMUserSessionErrorCode`: the codes of a failed registration. -/
inductive ZMUserSessionErrorCode
  | unkownError
  | needsPasswordToRegisterClient
  | needsToRegisterEmailToRegisterClient
  | canNotRegisterMoreClients
  | invalidCredentials
  deriving DecidableEq, Repr

/-- `ClientUpdateError`. -/
inductive ClientUpdateError
  | none
  | selfClientIsInvalid
  | invalidCredentials
  | deviceIsOffline
  | clientToDeleteNotFound
  deriving DecidableEq, Repr

/-- What the strategy reads of a response. -/
structure ZMTransportResponse where
  result : ZMTransportResponseStatus
  HTTPStatus : Nat
  /-- The string under `label` in the payload, if there is one. -/
  payloadLabel : Option String
  deriving DecidableEq, Repr

/-- `ZMEmailCredentials`. -/
structure ZMEmailCredentials where
  email : Option String
  password : Option String
  deriving DecidableEq, Repr

/-- A `UserClient` of the self user, with the attributes the strategy writes. -/
structure UserClient (κ : Type*) where
  remoteIdentifier : κ
  markedToDelete : Bool
  needsToUploadSignalingKeys : Bool
  deriving DecidableEq, Repr

/-- The self user as the strategy and the statuses read it. -/
structure SelfUser (κ : Type*) where
  /-- The remote identifier of the self client. -/
  selfClient : Option κ
  clients : List (UserClient κ)
  hasEmailAddress : Bool

variable {κ : Type*} [DecidableEq κ]

namespace SelfUser

variable (selfUser : SelfUser κ)

/-- The clients marked to delete. -/
def markedClients : List κ :=
  (selfUser.clients.filter (·.markedToDelete)).map (·.remoteIdentifier)

def hasClientsToDelete : Bool := selfUser.clients.any (·.markedToDelete)

def selfUserClientsExcludingSelfClient : List κ :=
  (selfUser.clients.filter (fun client => some client.remoteIdentifier ≠ selfUser.selfClient)).map
    (·.remoteIdentifier)

/-- `managedObjectContext.deleteObject(client)`, also done by
`deleteClientAndEndSession`. -/
def deleteObject (client : κ) : SelfUser κ :=
  { selfUser with clients := selfUser.clients.filter (·.remoteIdentifier ≠ client) }

def setNeedsToUploadSignalingKeys (client : κ) (value : Bool) : SelfUser κ :=
  { selfUser with clients := selfUser.clients.map fun c =>
      if c.remoteIdentifier = client then { c with needsToUploadSignalingKeys := value } else c }

omit [DecidableEq κ] in
theorem hasClientsToDelete_eq_false_iff :
    selfUser.hasClientsToDelete = false ↔ selfUser.markedClients = [] := by
  simp [hasClientsToDelete, markedClients, List.filter_eq_nil_iff]

omit [DecidableEq κ] in
theorem hasClientsToDelete_of_mem {client : κ} (hclient : client ∈ selfUser.markedClients) :
    selfUser.hasClientsToDelete = true := by
  cases h : selfUser.hasClientsToDelete
  · rw [(hasClientsToDelete_eq_false_iff selfUser).mp h] at hclient
    cases hclient
  · rfl

/-- Deleting a client unmarks that client only. -/
theorem mem_markedClients_deleteObject {client other : κ} :
    other ∈ (selfUser.deleteObject client).markedClients ↔
      other ∈ selfUser.markedClients ∧ other ≠ client := by
  simp only [markedClients, deleteObject, List.filter_filter, List.mem_map, List.mem_filter]
  constructor
  · rintro ⟨c, ⟨hc, hboth⟩, rfl⟩
    simp only [Bool.and_eq_true, decide_eq_true_eq] at hboth
    exact ⟨⟨c, ⟨hc, hboth.1⟩, rfl⟩, hboth.2⟩
  · rintro ⟨⟨c, ⟨hc, hmarked⟩, rfl⟩, hne⟩
    exact ⟨c, ⟨hc, by simp [hmarked, hne]⟩, rfl⟩

end SelfUser

/-! ### `ClientUpdateStatus` -/

/-- `ClientUpdatePhase`. -/
inductive ClientUpdatePhase
  | done
  | fetchingClients
  | deletingClients
  deriving DecidableEq, Repr

/-- The deletion notifications of `ZMClientUpdateNotification`. -/
inductive ClientUpdateNotification (κ : Type*)
  | deletionCompleted (clients : List κ)
  | deletionFailed (error : ClientUpdateError)
  deriving DecidableEq, Repr

/-- `ClientUpdateStatus`, with the notifications it posted. -/
structure ClientUpdateStatus (κ : Type*) where
  isFetchingClients : Bool
  isWaitingToDeleteClients : Bool
  needsToVerifySelfClient : Bool
  internalCredentials : Option ZMEmailCredentials
  notifications : List (ClientUpdateNotification κ)

namespace ClientUpdateStatus

variable (s : ClientUpdateStatus κ)

def currentPhase : ClientUpdatePhase :=
  if s.isFetchingClients then .fetchingClients
  else if s.isWaitingToDeleteClients then .deletingClients
  else .done

def credentials : Option ZMEmailCredentials := s.internalCredentials

def needsToFetchClients (verifySelfClient : Bool) : ClientUpdateStatus κ :=
  { s with isFetchingClients := true, needsToVerifySelfClient := verifySelfClient }

/-- `deleteClients(withCredentials:)`; a missing password counts as empty. -/
def deleteClients (emailCredentials : ZMEmailCredentials) : ClientUpdateStatus κ :=
  if 0 < (emailCredentials.password.map String.length).getD 0 then
    { s with isWaitingToDeleteClients := true, internalCredentials := some emailCredentials }
  else { s with notifications := s.notifications ++ [.deletionFailed .invalidCredentials] }

/-- `failedToDeleteClient(_:error:)`, after the transcoder has deleted a client
that was not found. -/
def failedToDeleteClient (selfUser : SelfUser κ) (error : ClientUpdateError) :
    ClientUpdateStatus κ :=
  if !s.isWaitingToDeleteClients then s
  else
    match error with
    | .clientToDeleteNotFound =>
      if !selfUser.hasClientsToDelete then
        { s with
          internalCredentials := none
          notifications := s.notifications ++
            [.deletionCompleted selfUser.selfUserClientsExcludingSelfClient] }
      else s
    | .invalidCredentials =>
      { s with
        isWaitingToDeleteClients := false
        internalCredentials := none
        notifications := s.notifications ++ [.deletionFailed .invalidCredentials] }
    | _ => s

def didDeleteClient (selfUser : SelfUser κ) : ClientUpdateStatus κ :=
  if s.isWaitingToDeleteClients && !selfUser.hasClientsToDelete then
    { s with
      isWaitingToDeleteClients := false
      internalCredentials := none
      notifications := s.notifications ++
        [.deletionCompleted selfUser.selfUserClientsExcludingSelfClient] }
  else s

/-- `s'` is `s` with no answer posted and the call not restarted, or `s` with
one answer posted while it was waiting; after that answer the call is over, or
no client of `selfUser` is left to delete. -/
def AnswersOnce (selfUser : SelfUser κ) (s' : ClientUpdateStatus κ) : Prop :=
  (s'.notifications = s.notifications ∧
      (s'.isWaitingToDeleteClients = true → s.isWaitingToDeleteClients = true)) ∨
    (s.isWaitingToDeleteClients = true ∧ ∃ answer, s'.notifications = s.notifications ++ [answer] ∧
      (s'.isWaitingToDeleteClients = false ∨ selfUser.hasClientsToDelete = false))

omit [DecidableEq κ] in
theorem answersOnce_refl (selfUser : SelfUser κ) : s.AnswersOnce selfUser s :=
  .inl ⟨rfl, id⟩

theorem answersOnce_failedToDeleteClient (selfUser : SelfUser κ) (error : ClientUpdateError) :
    s.AnswersOnce selfUser (s.failedToDeleteClient selfUser error) := by
  unfold failedToDeleteClient
  split
  · exact s.answersOnce_refl selfUser
  · rename_i hwaiting
    simp only [Bool.not_eq_true', Bool.not_eq_false] at hwaiting
    split
    · -- the last client was not found: answered, still waiting
      split
      · rename_i hnone
        simp only [Bool.not_eq_eq_eq_not, Bool.not_true] at hnone
        exact .inr ⟨hwaiting, _, rfl, .inr hnone⟩
      · exact s.answersOnce_refl selfUser
    · exact .inr ⟨hwaiting, _, rfl, .inl rfl⟩
    · exact s.answersOnce_refl selfUser

theorem answersOnce_didDeleteClient (selfUser : SelfUser κ) :
    s.AnswersOnce selfUser (s.didDeleteClient selfUser) := by
  unfold didDeleteClient
  split
  · rename_i hanswer
    simp only [Bool.and_eq_true, Bool.not_eq_eq_eq_not, Bool.not_true] at hanswer
    exact .inr ⟨hanswer.1, _, rfl, .inl rfl⟩
  · exact s.answersOnce_refl selfUser

end ClientUpdateStatus

/-! ### `ZMClientRegistrationStatus` -/

/-- The part of `ZMClientRegistrationStatus` that a failed registration
changes, with what it asks of others. -/
structure ZMClientRegistrationStatus where
  needsToCheckCredentials : Bool
  isWaitingForEmailVerification : Bool
  isWaitingForUserClients : Bool
  /-- The calls of `credentialsMayBeCleared` on the login credential provider. -/
  credentialsMayBeCleared : Nat
  /-- The errors of `notifyAuthenticationDidFail:`, in order. -/
  authenticationFailures : List ZMUserSessionErrorCode

/-- `didFailToRegisterClient:`. -/
def ZMClientRegistrationStatus.didFailToRegisterClient (s : ZMClientRegistrationStatus)
    (error : ZMUserSessionErrorCode) : ZMClientRegistrationStatus :=
  -- the login state is kept for client registration errors
  let s := if error ≠ .needsPasswordToRegisterClient ∧ error ≠ .needsToRegisterEmailToRegisterClient ∧
      error ≠ .canNotRegisterMoreClients then
    { s with credentialsMayBeCleared := s.credentialsMayBeCleared + 1 } else s
  let s := if error = .needsPasswordToRegisterClient ∨ error = .invalidCredentials then
    { s with needsToCheckCredentials := true } else s
  let s := if error = .needsToRegisterEmailToRegisterClient then
    { s with isWaitingForEmailVerification := true } else s
  if error = .canNotRegisterMoreClients then { s with isWaitingForUserClients := true }
  else { s with authenticationFailures := s.authenticationFailures ++ [error] }

/-! ### The strategy -/

/-- The strategy with the objects and statuses its failure handling touches. -/
structure UserClientRequestStrategy (κ : Type*) where
  didRetryRegisteringSignalingKeys : Bool
  selfUser : SelfUser κ
  clientUpdateStatus : ClientUpdateStatus κ
  clientRegistrationStatus : ZMClientRegistrationStatus

namespace UserClientRequestStrategy

/-- `errorFromFailedDeleteResponse`. -/
def errorFromFailedDeleteResponse (response : ZMTransportResponse) : ClientUpdateError :=
  if response.result = .permanentError then
    match response.payloadLabel with
    | some "client-not-found" => .clientToDeleteNotFound
    | some "invalid-credentials" => .invalidCredentials
    | _ => .none
  else .none

variable (s : UserClientRequestStrategy κ)

/-- `errorFromFailedInsertResponse`. -/
def errorFromFailedInsertResponse (response : ZMTransportResponse) : ZMUserSessionErrorCode :=
  if response.result = .permanentError then
    match response.payloadLabel with
    | some "missing-auth" =>
      if s.selfUser.hasEmailAddress then .needsPasswordToRegisterClient
      else .needsToRegisterEmailToRegisterClient
    | some "too-many-clients" => .canNotRegisterMoreClients
    | some "invalid-credentials" => .invalidCredentials
    | _ => .unkownError
  else .unkownError

/-- `shouldRetryToSyncAfterFailedToUpdateObject:request:response:keysToParse:`
for a client. The error is the `fatal` of a second malformed signaling-key
upload. -/
def shouldRetryToSyncAfterFailedToUpdateObject (client : κ) (response : ZMTransportResponse)
    (keysToParse : Finset ClientKey) : Except String (UserClientRequestStrategy κ × Bool) :=
  if .numberOfKeysRemaining ∈ keysToParse then .ok (s, false)
  else if .needsToUpdateSignalingKeys ∈ keysToParse then
    if response.HTTPStatus = 400 ∧ response.payloadLabel = some "bad-request" then
      -- malformed prekeys: recreated and retried once per launch
      if s.didRetryRegisteringSignalingKeys then
        .error "UserClientTranscoder sigKey request failed with bad-request"
      else .ok ({ s with didRetryRegisteringSignalingKeys := true }, true)
    else .ok ({ s with selfUser := s.selfUser.setNeedsToUploadSignalingKeys client false }, false)
  else if .markedToDelete ∈ keysToParse then
    let error := errorFromFailedDeleteResponse response
    let s := if error = .clientToDeleteNotFound then
      { s with selfUser := s.selfUser.deleteObject client } else s
    .ok ({ s with clientUpdateStatus := s.clientUpdateStatus.failedToDeleteClient s.selfUser error },
      false)
  else
    -- anything else is taken for a failed registration
    let error := s.errorFromFailedInsertResponse response
    let s := if error = .canNotRegisterMoreClients then
      { s with clientUpdateStatus := s.clientUpdateStatus.needsToFetchClients false } else s
    .ok ({ s with clientRegistrationStatus :=
      s.clientRegistrationStatus.didFailToRegisterClient error }, true)

end UserClientRequestStrategy

/-! ### A failed update taken for a failed registration -/

namespace ZMClientRegistrationStatus

variable (s : ZMClientRegistrationStatus)

/-- Every error but `CanNotRegisterMoreClients` is posted as an authentication
failure. -/
theorem didFailToRegisterClient_authenticationFailures {error : ZMUserSessionErrorCode}
    (herror : error ≠ .canNotRegisterMoreClients) :
    (s.didFailToRegisterClient error).authenticationFailures =
      s.authenticationFailures ++ [error] := by
  simp only [didFailToRegisterClient, herror, if_false]
  split_ifs <;> rfl

/-- `CanNotRegisterMoreClients` makes the status wait for the user's clients. -/
theorem didFailToRegisterClient_isWaitingForUserClients :
    (s.didFailToRegisterClient .canNotRegisterMoreClients).isWaitingForUserClients = true := by
  simp [didFailToRegisterClient]

end ZMClientRegistrationStatus

namespace UserClientRequestStrategy

variable (s : UserClientRequestStrategy κ)

/-- Keys that are neither prekeys, signaling keys nor a deletion: the
failure is taken for a failed registration, and the object is retried. -/
theorem shouldRetryToSyncAfterFailedToUpdateObject_of_subset_missing (client : κ)
    (response : ZMTransportResponse) {keysToParse : Finset ClientKey}
    (hkeys : keysToParse ⊆ {.missing}) :
    ∃ s', s.shouldRetryToSyncAfterFailedToUpdateObject client response keysToParse =
        .ok (s', true) ∧
      s'.clientRegistrationStatus = s.clientRegistrationStatus.didFailToRegisterClient
        (s.errorFromFailedInsertResponse response) ∧
      (s.errorFromFailedInsertResponse response = .canNotRegisterMoreClients →
        s'.clientUpdateStatus = s.clientUpdateStatus.needsToFetchClients false) := by
  -- none of the three keys the strategy dispatches on is there
  have hnot : ∀ key, key ≠ ClientKey.missing → key ∉ keysToParse := fun key hkey hmem =>
    hkey (Finset.mem_singleton.mp (hkeys hmem))
  simp only [shouldRetryToSyncAfterFailedToUpdateObject,
    if_neg (hnot .numberOfKeysRemaining (by decide)),
    if_neg (hnot .needsToUpdateSignalingKeys (by decide)),
    if_neg (hnot .markedToDelete (by decide))]
  split_ifs with hmore
  · exact ⟨_, rfl, rfl, fun _ => rfl⟩
  · exact ⟨_, rfl, rfl, fun h => absurd h hmore⟩

/-- A failed delete request: a client not found on the server is deleted
locally, and `ClientUpdateStatus` hears of the failure; the object is not
retried. -/
theorem shouldRetryToSyncAfterFailedToUpdateObject_markedToDelete (client : κ)
    (response : ZMTransportResponse) :
    s.shouldRetryToSyncAfterFailedToUpdateObject client response {.markedToDelete} =
      let selfUser := if errorFromFailedDeleteResponse response = .clientToDeleteNotFound then
        s.selfUser.deleteObject client else s.selfUser
      .ok ({ s with
        selfUser := selfUser
        clientUpdateStatus := s.clientUpdateStatus.failedToDeleteClient selfUser
          (errorFromFailedDeleteResponse response) }, false) := by
  simp only [shouldRetryToSyncAfterFailedToUpdateObject, Finset.mem_singleton, reduceCtorEq,
    if_false, if_true]
  split_ifs <;> rfl

end UserClientRequestStrategy

open UpstreamModifiedObjectSync in
/-- In every run of the modified sync of the self user's clients, a request in
flight that fetches missing clients, or whose keys all changed while it was in
flight, fails into `didFailToRegisterClient:`. Unless the error is
`CanNotRegisterMoreClients`, that posts an authentication failure; otherwise
the registration waits for the user's clients, and the clients are fetched. -/
theorem userClient_update_failure_fails_registration {ν : Type*} [DecidableEq ν]
    {cfg : ZMUpstreamModifiedObjectSyncConfig κ ClientKey ν} {context : ObjectStore κ ClientKey ν}
    {keysToSync : Option (Finset ClientKey)} {transcoderHasDependencies : Bool}
    {w : World κ ClientKey ν}
    (hw : Reachable (World.step cfg) (World.init context keysToSync transcoderHasDependencies) w)
    {r : InFlight κ ClientKey ν} (hr : r ∈ w.inFlight)
    (hkeys : r.keys = {.missing} ∨ w.keysToParse r = ∅)
    (s : UserClientRequestStrategy κ) (response : ZMTransportResponse) :
    ∃ s', s.shouldRetryToSyncAfterFailedToUpdateObject r.objectWithKeys.object response
        (w.keysToParse r) = .ok (s', true) ∧
      s'.clientRegistrationStatus =
        s.clientRegistrationStatus.didFailToRegisterClient (s.errorFromFailedInsertResponse response) ∧
      (s'.clientRegistrationStatus.authenticationFailures =
          s.clientRegistrationStatus.authenticationFailures ++ [s.errorFromFailedInsertResponse response] ∨
        s.errorFromFailedInsertResponse response = .canNotRegisterMoreClients ∧
          s'.clientRegistrationStatus.isWaitingForUserClients = true ∧
          s'.clientUpdateStatus.isFetchingClients = true) := by
  -- the keys handed to the transcoder are among the request's keys
  have hsubset : w.keysToParse r ⊆ {.missing} := by
    rcases hkeys with hmissing | hempty
    · exact hmissing ▸ (Good.reachable hw).keysToParse_subset hr
    · rw [hempty]
      exact Finset.empty_subset _
  obtain ⟨s', hretry, hregistration, hfetch⟩ :=
    s.shouldRetryToSyncAfterFailedToUpdateObject_of_subset_missing r.objectWithKeys.object response
      hsubset
  refine ⟨s', hretry, hregistration, ?_⟩
  by_cases hmore : s.errorFromFailedInsertResponse response = .canNotRegisterMoreClients
  · refine .inr ⟨hmore, ?_, ?_⟩
    · rw [hregistration, hmore]
      exact s.clientRegistrationStatus.didFailToRegisterClient_isWaitingForUserClients
    · rw [hfetch hmore]
      rfl
  · left
    rw [hregistration]
    exact s.clientRegistrationStatus.didFailToRegisterClient_authenticationFailures hmore

/-- A self user with two clients: `0`, the self client, and `1`, marked to
delete. -/
def twoClients : UserClientRequestStrategy Nat where
  didRetryRegisteringSignalingKeys := false
  selfUser := ⟨some 0, [⟨0, false, false⟩, ⟨1, true, false⟩], true⟩
  clientUpdateStatus := ⟨false, false, false, none, []⟩
  clientRegistrationStatus := ⟨false, false, false, 0, []⟩

open UpstreamModifiedObjectSync in
/-- Client `0` gets missing clients to fetch, with `missing` the one tracked
key, and the fetch is sent. -/
def missingClientsFetch : World Nat ClientKey Nat :=
  run (World.step ⟨fun _ => true, fun _ => true, none⟩)
    (World.init (fun _ => ⟨fun _ => 0, ∅, {.missing}, false⟩) none false)
    [.localEdit 0 .missing 1, .objectsDidChange [0] (fun _ => none), .nextRequest true {.missing}]

/-- The server refuses the fetch: the account has too many clients. -/
def tooManyClients : ZMTransportResponse := ⟨.permanentError, 403, some "too-many-clients"⟩

/-- The failed fetch of missing clients is taken for a registration that
failed with too many clients, and the clients are fetched. -/
theorem userClient_update_failure_too_many_clients :
    ∃ r ∈ missingClientsFetch.inFlight,
      (r.keys = {.missing} ∨ missingClientsFetch.keysToParse r = ∅) ∧
      ∃ s', twoClients.shouldRetryToSyncAfterFailedToUpdateObject r.objectWithKeys.object
          tooManyClients (missingClientsFetch.keysToParse r) = .ok (s', true) ∧
        s'.clientRegistrationStatus = twoClients.clientRegistrationStatus.didFailToRegisterClient
          (twoClients.errorFromFailedInsertResponse tooManyClients) ∧
        (s'.clientRegistrationStatus.authenticationFailures =
            twoClients.clientRegistrationStatus.authenticationFailures ++
              [twoClients.errorFromFailedInsertResponse tooManyClients] ∨
          twoClients.errorFromFailedInsertResponse tooManyClients = .canNotRegisterMoreClients ∧
            s'.clientRegistrationStatus.isWaitingForUserClients = true ∧
            s'.clientUpdateStatus.isFetchingClients = true) := by
  obtain ⟨r, hr⟩ : ∃ r, r ∈ missingClientsFetch.inFlight :=
    List.exists_mem_of_length_pos (by decide +kernel)
  have hsent : ∀ r ∈ missingClientsFetch.inFlight, r.keys = {.missing} := by
    decide +kernel
  exact ⟨r, hr, .inl (hsent r hr), userClient_update_failure_fails_registration ⟨_, rfl⟩ hr
    (.inl (hsent r hr)) twoClients tooManyClients⟩

/-! ### Deleting clients -/

/-- Where the deletion of one client is. -/
inductive DeleteRequest
  | idle
  /-- `deleteSync` will send it: the client's `markedToDelete` key is modified. -/
  | scheduled
  | inFlight
  /-- The success continuation of `processResponseForDeletingClients` is queued
  on the context with `performGroupedBlock`. -/
  | continuationQueued
  deriving DecidableEq, Repr

/-- The strategy after a call of `deleteClients(withCredentials:)`, with the
deletion of each client. -/
structure DeletionWorld (κ : Type*) where
  strategy : UserClientRequestStrategy κ
  requests : κ → DeleteRequest

/-- What happens next, to any client and in any order: `nextRequest` sends its
delete request, the request completes, or its queued continuation runs. -/
inductive DeletionEvent (κ : Type*)
  | deleteRequest (client : κ)
  | response (client : κ) (response : ZMTransportResponse)
  | runContinuation (client : κ)

namespace DeletionWorld

/-- The call of `deleteClients(withCredentials:)`: every client marked to
delete is scheduled. -/
def start (s : UserClientRequestStrategy κ) (credentials : ZMEmailCredentials) :
    DeletionWorld κ :=
  { strategy := { s with clientUpdateStatus := s.clientUpdateStatus.deleteClients credentials },
    requests := fun client => if client ∈ s.selfUser.markedClients then .scheduled else .idle }

/-- The completion of a delete request. A success queues the continuation; a
temporary error or try-again-later leaves the key modified for another round;
after expiry the key is reset; a permanent error goes through
`shouldRetryToSyncAfterFailedToUpdateObject:`, whose keys are the request's. -/
def completeDelete (w : DeletionWorld κ) (client : κ) (response : ZMTransportResponse) :
    DeletionWorld κ :=
  match response.result with
  | .success => { w with requests := Function.update w.requests client .continuationQueued }
  | .temporaryError | .tryAgainLater =>
    { w with requests := Function.update w.requests client .scheduled }
  | .expired => { w with requests := Function.update w.requests client .idle }
  | .permanentError =>
    match w.strategy.shouldRetryToSyncAfterFailedToUpdateObject client response {.markedToDelete} with
    | .ok (strategy, shouldRetry) =>
      { strategy := strategy,
        requests := Function.update w.requests client (if shouldRetry then .scheduled else .idle) }
    | .error _ => w

/-- The continuation: `deleteClientAndEndSession`, then `didDeleteClient`. -/
def runContinuation (w : DeletionWorld κ) (client : κ) : DeletionWorld κ :=
  let selfUser := w.strategy.selfUser.deleteObject client
  let clientUpdateStatus := w.strategy.clientUpdateStatus.didDeleteClient selfUser
  { strategy := { w.strategy with selfUser := selfUser, clientUpdateStatus := clientUpdateStatus },
    requests := Function.update w.requests client .idle }

def step (w : DeletionWorld κ) : DeletionEvent κ → DeletionWorld κ
  | .deleteRequest client =>
    -- `nextRequest` asks `deleteSync` only while deleting, with credentials
    let status := w.strategy.clientUpdateStatus
    if status.currentPhase = .deletingClients ∧ status.credentials.isSome ∧
        w.requests client = .scheduled then
      { w with requests := Function.update w.requests client .inFlight }
    else w
  | .response client response =>
    if w.requests client = .inFlight then w.completeDelete client response else w
  | .runContinuation client =>
    if w.requests client = .continuationQueued then w.runContinuation client else w

/-! ### What a completion does -/

/-- Any class of response but a permanent error only moves the request on. -/
theorem completeDelete_of_ne_permanentError (w : DeletionWorld κ) (client : κ)
    {response : ZMTransportResponse} (hresult : response.result ≠ .permanentError) :
    ∃ request, w.completeDelete client response =
      { w with requests := Function.update w.requests client request } := by
  cases hclass : response.result with
  | permanentError => exact absurd hclass hresult
  | success => simp only [completeDelete, hclass]; exact ⟨_, rfl⟩
  | temporaryError => simp only [completeDelete, hclass]; exact ⟨_, rfl⟩
  | tryAgainLater => simp only [completeDelete, hclass]; exact ⟨_, rfl⟩
  | expired => simp only [completeDelete, hclass]; exact ⟨_, rfl⟩

/-- A permanent error: the strategy deletes a client the server does not
know, `ClientUpdateStatus` hears of the failure, and the client's deletion
is over. -/
theorem completeDelete_permanentError (w : DeletionWorld κ) (client : κ)
    {response : ZMTransportResponse} (hresult : response.result = .permanentError) :
    w.completeDelete client response =
      let error := UserClientRequestStrategy.errorFromFailedDeleteResponse response
      let selfUser := if error = .clientToDeleteNotFound then
        w.strategy.selfUser.deleteObject client else w.strategy.selfUser
      ⟨{ w.strategy with
          selfUser := selfUser
          clientUpdateStatus := w.strategy.clientUpdateStatus.failedToDeleteClient selfUser error },
        Function.update w.requests client .idle⟩ := by
  simp only [completeDelete, hresult,
    w.strategy.shouldRetryToSyncAfterFailedToUpdateObject_markedToDelete]
  rfl

/-! ### A call is answered at most once -/

/-- A call answered at most once, counted from the `n` notifications before
it. Every client whose deletion is under way is still marked to delete. At
most one answer has been posted, and after it the call is over or nothing is
left to delete. -/
structure AnsweredOnce (n : Nat) (w : DeletionWorld κ) : Prop where
  marked : ∀ client, w.requests client ≠ .idle → client ∈ w.strategy.selfUser.markedClients
  answers_le : w.strategy.clientUpdateStatus.notifications.length ≤ n + 1
  answered : w.strategy.clientUpdateStatus.notifications.length = n + 1 →
    w.strategy.clientUpdateStatus.isWaitingToDeleteClients = false ∨
      w.strategy.selfUser.hasClientsToDelete = false

section Answers

variable {n : Nat} {w : DeletionWorld κ}

/-- **One answering step.** A client under way moves on; the self user loses
that client at most, and then its deletion is over; the status answers at most
once. -/
theorem AnsweredOnce.answer (hw : AnsweredOnce n w) {client : κ}
    (hclient : w.requests client ≠ .idle) {selfUser : SelfUser κ}
    {status : ClientUpdateStatus κ} {request : DeleteRequest}
    (hselfUser : selfUser = w.strategy.selfUser ∨
      selfUser = w.strategy.selfUser.deleteObject client ∧ request = .idle)
    (hanswer : w.strategy.clientUpdateStatus.AnswersOnce selfUser status) :
    AnsweredOnce n
      ⟨{ w.strategy with selfUser := selfUser, clientUpdateStatus := status },
        Function.update w.requests client request⟩ := by
  -- the client under way is marked, so something is left to delete
  have hmarked := hw.marked client hclient
  have hleft := w.strategy.selfUser.hasClientsToDelete_of_mem hmarked
  -- so an answer posted before has ended the call
  have hover : w.strategy.clientUpdateStatus.notifications.length = n + 1 →
      w.strategy.clientUpdateStatus.isWaitingToDeleteClients = false := fun hlength =>
    (hw.answered hlength).resolve_right (by rw [hleft]; decide)
  refine ⟨fun other hother => ?_, ?_, ?_⟩
  · dsimp only at hother
    by_cases hsame : other = client
    · subst hsame
      rw [Function.update_self] at hother
      rcases hselfUser with rfl | ⟨-, rfl⟩
      · exact hmarked
      · exact absurd rfl hother
    · rw [Function.update_of_ne hsame] at hother
      rcases hselfUser with rfl | ⟨rfl, -⟩
      · exact hw.marked other hother
      · exact (w.strategy.selfUser.mem_markedClients_deleteObject).mpr
          ⟨hw.marked other hother, hsame⟩
  · rcases hanswer with ⟨hsame, -⟩ | ⟨hwaiting, answer, hposted, -⟩
    · simpa [hsame] using hw.answers_le
    · -- no answer before, since the call is still waiting
      have hbefore : w.strategy.clientUpdateStatus.notifications.length ≠ n + 1 := by
        intro hlength
        rw [hover hlength] at hwaiting
        cases hwaiting
      have hle := hw.answers_le
      simp only [hposted, List.length_append, List.length_singleton]
      omega
  · intro hlength
    rcases hanswer with ⟨hsame, hmono⟩ | ⟨-, answer, -, hafter⟩
    · rw [hsame] at hlength
      have hdone := hover hlength
      left
      cases hnow : status.isWaitingToDeleteClients
      · rfl
      · rw [hmono hnow] at hdone
        cases hdone
    · exact hafter

theorem AnsweredOnce.moveOn (hw : AnsweredOnce n w) {client : κ}
    (hclient : w.requests client ≠ .idle) (request : DeleteRequest) :
    AnsweredOnce n { w with requests := Function.update w.requests client request } :=
  hw.answer hclient (.inl rfl) (w.strategy.clientUpdateStatus.answersOnce_refl _)

theorem AnsweredOnce.completeDelete (hw : AnsweredOnce n w) {client : κ}
    (hclient : w.requests client = .inFlight) (response : ZMTransportResponse) :
    AnsweredOnce n (w.completeDelete client response) := by
  have hbusy : w.requests client ≠ .idle := by rw [hclient]; decide
  by_cases hresult : response.result = .permanentError
  · -- the strategy deletes a client not found, and answers
    rw [w.completeDelete_permanentError client hresult]
    by_cases hnotFound : UserClientRequestStrategy.errorFromFailedDeleteResponse response =
        .clientToDeleteNotFound
    · simp only [hnotFound, if_true]
      exact hw.answer hbusy (.inr ⟨rfl, rfl⟩)
        (ClientUpdateStatus.answersOnce_failedToDeleteClient _ _ _)
    · simp only [hnotFound, if_false]
      exact hw.answer hbusy (.inl rfl) (ClientUpdateStatus.answersOnce_failedToDeleteClient _ _ _)
  · obtain ⟨request, hmoved⟩ := w.completeDelete_of_ne_permanentError client hresult
    rw [hmoved]
    exact hw.moveOn hbusy request

theorem AnsweredOnce.step (hw : AnsweredOnce n w) (e : DeletionEvent κ) :
    AnsweredOnce n (w.step e) := by
  cases e with
  | deleteRequest client =>
    simp only [DeletionWorld.step]
    split
    · rename_i hready
      exact hw.moveOn (by rw [hready.2.2]; decide) _
    · exact hw
  | response client response =>
    simp only [DeletionWorld.step]
    split
    · exact hw.completeDelete ‹_› response
    · exact hw
  | runContinuation client =>
    simp only [DeletionWorld.step]
    split
    · rename_i hqueued
      exact hw.answer (by rw [hqueued]; decide) (.inr ⟨rfl, rfl⟩)
        (ClientUpdateStatus.answersOnce_didDeleteClient _ _)
    · exact hw

/-- A call with a password starts with every marked client scheduled and no
answer posted. -/
theorem AnsweredOnce.start (s : UserClientRequestStrategy κ) {credentials : ZMEmailCredentials}
    (hpassword : 0 < (credentials.password.map String.length).getD 0) :
    AnsweredOnce s.clientUpdateStatus.notifications.length (DeletionWorld.start s credentials) where
  marked client hclient := by
    by_contra hnot
    apply hclient
    simp only [DeletionWorld.start] at hnot ⊢
    simp [hnot]
  answers_le := by simp [DeletionWorld.start, ClientUpdateStatus.deleteClients, hpassword]
  answered := by simp [DeletionWorld.start, ClientUpdateStatus.deleteClients, hpassword]

/-- **At most one answer per call**: whatever the responses and in whatever
order requests complete and continuations run, a call of
`deleteClients(withCredentials:)` with a password posts at most one of
`notifyDeletionCompleted` and `notifyDeletionFailed`. -/
theorem AnsweredOnce.run (s : UserClientRequestStrategy κ) {credentials : ZMEmailCredentials}
    (hpassword : 0 < (credentials.password.map String.length).getD 0)
    (events : List (DeletionEvent κ)) :
    (StepSystem.run DeletionWorld.step (DeletionWorld.start s credentials)
      events).strategy.clientUpdateStatus.notifications.length ≤
        s.clientUpdateStatus.notifications.length + 1 :=
  (run_invariant (AnsweredOnce s.clientUpdateStatus.notifications.length)
    (fun _ e hw => hw.step e) events (AnsweredOnce.start s hpassword)).answers_le

end Answers

/-! ### The last client not found -/

/-- With no deletion under way, nothing can happen any more. -/
theorem step_of_idle {w : DeletionWorld κ} (hidle : ∀ client, w.requests client = .idle)
    (e : DeletionEvent κ) : w.step e = w := by
  cases e with
  | deleteRequest client => simp [DeletionWorld.step, hidle]
  | response client response => simp [DeletionWorld.step, hidle]
  | runContinuation client => simp [DeletionWorld.step, hidle]

theorem run_of_idle {w : DeletionWorld κ} (hidle : ∀ client, w.requests client = .idle)
    (events : List (DeletionEvent κ)) : StepSystem.run DeletionWorld.step w events = w :=
  run_invariant (fun w' => w' = w) (fun _ e hw' => hw' ▸ step_of_idle hidle e) events rfl

end DeletionWorld

/-- The response to a delete request for a client the server does not know. -/
def clientNotFound : ZMTransportResponse := ⟨.permanentError, 404, some "client-not-found"⟩

/-- The one client marked to delete is not found on the server. The strategy
deletes it, and `failedToDeleteClient` posts `notifyDeletionCompleted` and
drops the credentials, but `isWaitingToDeleteClients` stays set. The phase
stays `DeletingClients` with no credentials, and no event changes anything any
more. -/
theorem clientDeletion_not_found_keeps_deleting_phase (s : UserClientRequestStrategy κ)
    {credentials : ZMEmailCredentials}
    (hpassword : 0 < (credentials.password.map String.length).getD 0)
    (hfetching : s.clientUpdateStatus.isFetchingClients = false) {client : κ}
    (hmarked : s.selfUser.markedClients = [client]) :
    let w := StepSystem.run DeletionWorld.step (DeletionWorld.start s credentials)
      [.deleteRequest client, .response client clientNotFound]
    w.strategy.clientUpdateStatus.notifications = s.clientUpdateStatus.notifications ++
        [.deletionCompleted (s.selfUser.deleteObject client).selfUserClientsExcludingSelfClient] ∧
      w.strategy.clientUpdateStatus.currentPhase = .deletingClients ∧
      w.strategy.clientUpdateStatus.credentials = none ∧
      ∀ later, StepSystem.run DeletionWorld.step w later = w := by
  intro w
  -- after the deletion no client is marked, and only `client` was scheduled
  have hnone : (s.selfUser.deleteObject client).hasClientsToDelete = false := by
    rw [SelfUser.hasClientsToDelete_eq_false_iff, List.eq_nil_iff_forall_not_mem]
    intro other hother
    rw [SelfUser.mem_markedClients_deleteObject, hmarked, List.mem_singleton] at hother
    exact hother.2 hother.1
  have hscheduled : ∀ other, (DeletionWorld.start s credentials).requests other =
      if other = client then .scheduled else .idle := by
    intro other
    simp [DeletionWorld.start, hmarked]
  -- the call: waiting, with the credentials, and not fetching
  have hstatus : (DeletionWorld.start s credentials).strategy.clientUpdateStatus =
      { s.clientUpdateStatus with
        isWaitingToDeleteClients := true
        internalCredentials := some credentials } := by
    simp [DeletionWorld.start, ClientUpdateStatus.deleteClients, hpassword]
  -- `nextRequest` sends the delete request
  have hsent : (DeletionWorld.start s credentials).step (.deleteRequest client) =
      { DeletionWorld.start s credentials with
        requests :=
          Function.update (DeletionWorld.start s credentials).requests client .inFlight } := by
    simp only [DeletionWorld.step]
    rw [if_pos]
    simp [hstatus, ClientUpdateStatus.currentPhase, hfetching, ClientUpdateStatus.credentials,
      hscheduled]
  -- the server does not know the client: it is deleted, and the call answered
  have hnotFound : UserClientRequestStrategy.errorFromFailedDeleteResponse clientNotFound =
      .clientToDeleteNotFound := rfl
  have hanswered : w.strategy = { s with
      selfUser := s.selfUser.deleteObject client
      clientUpdateStatus := { s.clientUpdateStatus with
        isWaitingToDeleteClients := true
        internalCredentials := none
        notifications := s.clientUpdateStatus.notifications ++
          [.deletionCompleted
            (s.selfUser.deleteObject client).selfUserClientsExcludingSelfClient] } } ∧
      w.requests = Function.update
        (Function.update (DeletionWorld.start s credentials).requests client .inFlight) client
          .idle := by
    have hrun : w = ((DeletionWorld.start s credentials).step (.deleteRequest client)).step
        (.response client clientNotFound) := rfl
    rw [hrun, hsent]
    simp only [DeletionWorld.step, Function.update_self, if_true]
    rw [DeletionWorld.completeDelete_permanentError _ client rfl]
    simp only [hnotFound, if_true, and_true]
    rw [hstatus]
    simp [DeletionWorld.start, ClientUpdateStatus.failedToDeleteClient, hnone]
  refine ⟨by rw [hanswered.1], by simp [hanswered.1, ClientUpdateStatus.currentPhase, hfetching],
    by simp [hanswered.1, ClientUpdateStatus.credentials], DeletionWorld.run_of_idle ?_⟩
  intro other
  rw [hanswered.2]
  by_cases hother : other = client
  · simp [hother]
  · simp [hother, hscheduled]

/-- Client `1` of `twoClients` is not found on the server. -/
theorem clientDeletion_not_found_second_client :
    0 < ((some "secret").map String.length).getD 0 ∧
      twoClients.clientUpdateStatus.isFetchingClients = false ∧
      twoClients.selfUser.markedClients = [1] ∧
      let w := StepSystem.run DeletionWorld.step (DeletionWorld.start twoClients ⟨none, some "secret"⟩)
        [.deleteRequest 1, .response 1 clientNotFound]
      w.strategy.clientUpdateStatus.notifications = twoClients.clientUpdateStatus.notifications ++
          [.deletionCompleted (twoClients.selfUser.deleteObject 1).selfUserClientsExcludingSelfClient] ∧
        w.strategy.clientUpdateStatus.currentPhase = .deletingClients ∧
        w.strategy.clientUpdateStatus.credentials = none ∧
        ∀ later, StepSystem.run DeletionWorld.step w later = w :=
  ⟨by decide, rfl, rfl,
    clientDeletion_not_found_keeps_deleting_phase twoClients (by decide) rfl rfl⟩

end ZMessaging.UserClients
