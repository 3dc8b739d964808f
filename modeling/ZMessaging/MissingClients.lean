import ZMessaging.StepSystem
import Mathlib.Data.Finset.Card
import Mathlib.Data.List.Dedup
import Mathlib.Data.List.Perm.Basic

/-!
# Fetching the prekeys of missing clients

When the self client misses clients, `UserClientRequestStrategy` asks the
backend for their prekeys, a page at a time: `MissingClientsMap` keeps the
missing clients, in the order of the array it is given, while the running
count of their distinct users stays within `pageSize`, and the request's user
info lists their identifiers.  `processResponseForUpdatingMissingClients`
looks the client identifiers of the response up among the missing clients
(by `remoteIdentifier`, computed once before the loop), removes each one it
finds, and, when no requested identifier was in the response, gives up on the
requested ones.  It returns whether clients are still missing, which makes
the sync ask for another page.

The main results:

* a page names at most `pageSize` distinct users and is never empty
  (`missingPage_card_users`, `userInfo_ne_nil`);
* a response removes exactly the missing clients found under the identifiers
  it names for valid user UUIDs, and, when none of those was requested, the
  requested ones (`processResponseForUpdatingMissingClients_spec`);
* for responses that decode as dictionaries of dictionaries and missing
  clients with distinct identifiers, every round removes a requested client,
  removes only requested or named ones, and returns whether clients are
  still missing, and no clients are missing after as many rounds as there
  were missing clients (`missingClients_fetch_terminates`);
* a response that does not decode removes nothing and returns `NO`, and with
  two missing clients that share an identifier a response can remove the
  unrequested one instead of the requested one (`missingClients_fetch_fails`).
-/

namespace ZMessaging

open StepSystem

variable {γ υ κ : Type*}

/-- What the strategy reads of the user clients and their users, and what it
asks of the encryption layer. -/
structure UserClientEnvironment (γ υ κ : Type*) where
  /-- `remoteIdentifier` of a client. -/
  remoteIdentifier : γ → κ
  /-- The `user` of a client, by its remote identifier. -/
  user : γ → υ
  /-- Whether `NSUUID.uuidWithTransportString` accepts a key of a response. -/
  isUUIDTransportString : String → Bool
  /-- Whether `establishSessionWithClient:usingPreKey:` creates a session. -/
  establishSessionWithClient : γ → String → Bool

/-- `MissingClientsMap`: the request payload, user to client identifiers, and
the identifiers under `MissingClientsRequestUserInfoKeys.clients`. -/
structure MissingClientsMap (υ κ : Type*) where
  payload : List (υ × List κ)
  userInfo : List κ

namespace MissingClientsMap

variable [DecidableEq υ] (env : UserClientEnvironment γ υ κ)

/-- The filter of `init`: each client's user joins the set of users seen, and
the client is kept while that set has at most `pageSize` users. -/
def missingPage (pageSize : Nat) : List υ → List γ → List γ
  | _, [] => []
  | users, missingClient :: missingClients =>
    let users := users.insert (env.user missingClient)
    if users.length ≤ pageSize then missingClient :: missingPage pageSize users missingClients
    else missingPage pageSize users missingClients

/-- `addClientIdToMap`: the client's identifier appended to its user's. -/
def addClientIdToMap (clientsMap : List (υ × List κ)) (missingClient : γ) : List (υ × List κ) :=
  let missingUserId := env.user missingClient
  match clientsMap.find? (·.1 = missingUserId) with
  | none => clientsMap ++ [(missingUserId, [env.remoteIdentifier missingClient])]
  | some (_, clientIds) =>
    clientsMap.map fun entry =>
      if entry.1 = missingUserId then (missingUserId, clientIds ++ [env.remoteIdentifier missingClient])
      else entry

/-- `init(_:pageSize:)`. -/
def init (missingClients : List γ) (pageSize : Nat) : MissingClientsMap υ κ :=
  let missing := missingPage env pageSize [] missingClients
  ⟨missing.foldl (addClientIdToMap env) [], missing.map env.remoteIdentifier⟩

/-! ### A page -/

theorem length_le_length_insert (users : List υ) (u : υ) :
    users.length ≤ (users.insert u).length := by
  by_cases hu : u ∈ users
  · rw [List.length_insert_of_mem hu]
  · rw [List.length_insert_of_not_mem hu]
    omega

/-- Once more users were seen than fit, no later client is kept. -/
theorem missingPage_eq_nil {pageSize : Nat} {users : List υ} (h : pageSize < users.length)
    (missingClients : List γ) : missingPage env pageSize users missingClients = [] := by
  induction missingClients generalizing users with
  | nil => rfl
  | cons c cs ih =>
    have hlt : pageSize < (users.insert (env.user c)).length :=
      lt_of_lt_of_le h (length_le_length_insert users _)
    simp only [missingPage, Nat.not_le.mpr hlt, if_false]
    exact ih hlt

theorem missingPage_sublist (pageSize : Nat) (users : List υ) (missingClients : List γ) :
    List.Sublist (missingPage env pageSize users missingClients) missingClients := by
  induction missingClients generalizing users with
  | nil => exact List.Sublist.slnil
  | cons c cs ih =>
    simp only [missingPage]
    split
    · exact (ih _).cons_cons c
    · exact (ih _).cons c

/-- **A page has at most `pageSize` users**, together with those seen before
it. -/
theorem missingPage_card_users {pageSize : Nat} {users : List υ} (hnodup : users.Nodup)
    (hle : users.length ≤ pageSize) (missingClients : List γ) :
    (((missingPage env pageSize users missingClients).map env.user).toFinset ∪
      users.toFinset).card ≤ pageSize := by
  induction missingClients generalizing users with
  | nil => simpa [missingPage, List.toFinset_card_of_nodup hnodup] using hle
  | cons c cs ih =>
    simp only [missingPage]
    split
    · next hkept =>
      -- the client's user is among the users seen, which the rest extends
      have hrest := ih (hnodup.insert) hkept
      have hsets : ((c :: missingPage env pageSize (users.insert (env.user c)) cs).map
            env.user).toFinset ∪ users.toFinset =
          ((missingPage env pageSize (users.insert (env.user c)) cs).map env.user).toFinset ∪
            (users.insert (env.user c)).toFinset := by
        ext u
        simp only [List.map_cons, List.toFinset_cons, Finset.mem_union, Finset.mem_insert,
          List.mem_toFinset, List.mem_insert_iff]
        tauto
      rw [hsets]
      exact hrest
    · next hcut =>
      rw [missingPage_eq_nil env (Nat.lt_of_not_le hcut)]
      simpa [List.toFinset_card_of_nodup hnodup] using hle

/-- With room for one user, the first client is always kept. -/
theorem missingPage_cons {pageSize : Nat} (hpage : 0 < pageSize) (c : γ) (cs : List γ) :
    ∃ rest, missingPage env pageSize [] (c :: cs) = c :: rest := by
  have hfirst : ([] : List υ).insert (env.user c) = [env.user c] := rfl
  have hroom : ([env.user c] : List υ).length ≤ pageSize := by
    rw [List.length_singleton]
    exact hpage
  refine ⟨missingPage env pageSize [env.user c] cs, ?_⟩
  simp only [missingPage, hfirst, if_pos hroom]

theorem keys_addClientIdToMap (clientsMap : List (υ × List κ)) (c : γ) :
    (addClientIdToMap env clientsMap c).map Prod.fst =
      if env.user c ∈ clientsMap.map Prod.fst then clientsMap.map Prod.fst
      else clientsMap.map Prod.fst ++ [env.user c] := by
  by_cases hmem : env.user c ∈ clientsMap.map Prod.fst
  · -- the user has an entry, whose identifiers grow
    rw [if_pos hmem]
    obtain ⟨entry, hentry, hkey⟩ := List.mem_map.mp hmem
    have hsome : (clientsMap.find? (·.1 = env.user c)).isSome :=
      List.find?_isSome.mpr ⟨entry, hentry, by simpa using hkey⟩
    obtain ⟨⟨userId, clientIds⟩, hfind⟩ := Option.isSome_iff_exists.mp hsome
    simp only [addClientIdToMap, hfind, List.map_map]
    congr 1
    funext e
    by_cases he : e.1 = env.user c <;> simp [he]
  · -- a new user gets an entry at the end
    rw [if_neg hmem]
    have hnone : clientsMap.find? (·.1 = env.user c) = none :=
      List.find?_eq_none.mpr fun e he hk => hmem (List.mem_map.mpr ⟨e, he, by simpa using hk⟩)
    simp [addClientIdToMap, hnone]

/-- The payload has one entry per user of the page. -/
theorem keys_foldl_addClientIdToMap (cs : List γ) {clientsMap : List (υ × List κ)}
    (hnodup : (clientsMap.map Prod.fst).Nodup) :
    ((cs.foldl (addClientIdToMap env) clientsMap).map Prod.fst).Nodup ∧
      ((cs.foldl (addClientIdToMap env) clientsMap).map Prod.fst).toFinset =
        (clientsMap.map Prod.fst).toFinset ∪ (cs.map env.user).toFinset := by
  induction cs generalizing clientsMap with
  | nil => simp [hnodup]
  | cons c cs ih =>
    rw [List.foldl_cons]
    have hstep : ((addClientIdToMap env clientsMap c).map Prod.fst).Nodup ∧
        ((addClientIdToMap env clientsMap c).map Prod.fst).toFinset =
          insert (env.user c) (clientsMap.map Prod.fst).toFinset := by
      rw [keys_addClientIdToMap]
      split
      · next hmem => exact ⟨hnodup, (Finset.insert_eq_of_mem (by simpa using hmem)).symm⟩
      · next hnot =>
        refine ⟨List.nodup_append.mpr ⟨hnodup, List.nodup_singleton _, ?_⟩, ?_⟩
        · intro a ha b hb
          simp only [List.mem_singleton] at hb
          rw [hb]
          rintro rfl
          exact hnot ha
        · ext u
          simp
    obtain ⟨hnodup', hkeys⟩ := ih hstep.1
    refine ⟨hnodup', ?_⟩
    rw [hkeys, hstep.2]
    ext u
    simp only [Finset.mem_union, Finset.mem_insert, List.mem_toFinset, List.map_cons,
      List.mem_cons]
    tauto

/-- **A request names at most `pageSize` distinct users.** -/
theorem init_payload (missingClients : List γ) (pageSize : Nat) :
    ((init env missingClients pageSize).payload.map Prod.fst).Nodup ∧
      (init env missingClients pageSize).payload.length ≤ pageSize := by
  obtain ⟨hnodup, hkeys⟩ : ((init env missingClients pageSize).payload.map Prod.fst).Nodup ∧
      ((init env missingClients pageSize).payload.map Prod.fst).toFinset =
        (([] : List (υ × List κ)).map Prod.fst).toFinset ∪
          ((missingPage env pageSize [] missingClients).map env.user).toFinset :=
    keys_foldl_addClientIdToMap env _ List.nodup_nil
  refine ⟨hnodup, ?_⟩
  have hcard := missingPage_card_users env List.nodup_nil (Nat.zero_le pageSize) missingClients
  rw [← List.length_map (f := Prod.fst), ← List.toFinset_card_of_nodup hnodup, hkeys]
  simpa [Finset.union_comm] using hcard

/-- **A request is never empty** while there are missing clients. -/
theorem userInfo_ne_nil {pageSize : Nat} (hpage : 0 < pageSize) {missingClients : List γ}
    (hne : missingClients ≠ []) : (init env missingClients pageSize).userInfo ≠ [] := by
  obtain ⟨c, cs, rfl⟩ := List.exists_cons_of_ne_nil hne
  obtain ⟨rest, hpage'⟩ := missingPage_cons env hpage c cs
  simp [init, hpage']

end MissingClientsMap

/-- The payload of a response: a dictionary from user keys to dictionaries
from client identifiers to entries, where an entry is the string under `key`
when it is a dictionary that has one; or anything else. -/
inductive ClientsKeysPayload (κ : Type*)
  | notClientsDictionary
  | clientsDictionary (dictionary : List (String × List (κ × Option String)))

/-- The client identifiers the loop reads from one user entry of a
response: none when the key is not a user UUID. -/
def userEntryClientIds (env : UserClientEnvironment γ υ κ)
    (entry : String × List (κ × Option String)) : List κ :=
  if env.isUUIDTransportString entry.1 then entry.2.map Prod.fst else []

/-- The client identifiers a response names under keys that are user UUIDs. -/
def ClientsKeysPayload.namedClientIds (env : UserClientEnvironment γ υ κ) :
    ClientsKeysPayload κ → List κ
  | .notClientsDictionary => []
  | .clientsDictionary dictionary => dictionary.flatMap (userEntryClientIds env)

/-- The self client's missing clients, in enumeration order, and the
`failedToEstablishSession` flag of every client. -/
structure SelfClientState (γ : Type*) where
  missingClients : List γ
  failedToEstablishSession : γ → Bool

namespace SelfClientState

variable [DecidableEq γ] [DecidableEq κ] (env : UserClientEnvironment γ υ κ) (s : SelfClientState γ)

/-- `removeMissingClient:`. -/
def removeMissingClient (client : γ) : SelfClientState γ :=
  { s with missingClients := s.missingClients.erase client }

/-- `clearMissingMessagesBecauseClientCanNotBeFeched`. -/
def clearMissingMessagesBecauseClientCanNotBeFeched (client : γ) : SelfClientState γ :=
  ({ s with failedToEstablishSession := Function.update s.failedToEstablishSession client true
    }).removeMissingClient client

/-- `establishSessionAndUpdateMissingClients`. -/
def establishSessionAndUpdateMissingClients (prekeyString : String) (missingClient : γ) :
    SelfClientState γ :=
  let sessionCreated := env.establishSessionWithClient missingClient prekeyString
  ({ s with failedToEstablishSession :=
      Function.update s.failedToEstablishSession missingClient (!sessionCreated)
    }).removeMissingClient missingClient

/-- `processPrekeyEntry`. -/
def processPrekeyEntry (prekeyData : Option String) (missingClient : γ) : SelfClientState γ :=
  match prekeyData with
  | some prekeyString => s.establishSessionAndUpdateMissingClients env prekeyString missingClient
  | none => s.clearMissingMessagesBecauseClientCanNotBeFeched missingClient

/-- `missingUserClientIdToUserClientMap`: the last missing client enumerated
with an identifier is the one the table keeps. -/
def missingUserClientIdToUserClientMap (clientId : κ) : Option γ :=
  s.missingClients.reverse.find? fun client => env.remoteIdentifier client = clientId

/-- The loop body over the clients of one user: the identifier leaves the
remaining ones, and a missing client with it has its entry processed. -/
def processClientEntry (lookup : κ → Option γ) (acc : SelfClientState γ × List κ)
    (entry : κ × Option String) : SelfClientState γ × List κ :=
  let remainingClientsIds := acc.2.erase entry.1
  match lookup entry.1 with
  | none => (acc.1, remainingClientsIds)
  | some missedClient => (acc.1.processPrekeyEntry env entry.2 missedClient, remainingClientsIds)

/-- The loop body over the users of a response: keys that are not user UUIDs
are skipped. -/
def processUserEntry (lookup : κ → Option γ) (acc : SelfClientState γ × List κ)
    (entry : String × List (κ × Option String)) : SelfClientState γ × List κ :=
  if env.isUUIDTransportString entry.1 then entry.2.foldl (processClientEntry env lookup) acc
  else acc

/-- The last loop: the clients of the remaining identifiers are given up. -/
def clearRemaining (lookup : κ → Option γ) (s : SelfClientState γ) (clientId : κ) :
    SelfClientState γ :=
  match lookup clientId with
  | some client => s.clearMissingMessagesBecauseClientCanNotBeFeched client
  | none => s

/-- `processResponseForUpdatingMissingClients`: the state afterwards and
whether clients are still missing. -/
def processResponseForUpdatingMissingClients (requestUserInfo : List κ) :
    ClientsKeysPayload κ → SelfClientState γ × Bool
  | .notClientsDictionary => (s, false)
  | .clientsDictionary dictionary =>
    let lookup := s.missingUserClientIdToUserClientMap env
    let remainingClientsIds := (requestUserInfo.filter fun clientId => (lookup clientId).isSome).dedup
    let originalRemainingClientsCount := remainingClientsIds.length
    let processed := dictionary.foldl (processUserEntry env lookup) (s, remainingClientsIds)
    let remainingClientsCountDidNotChange := processed.2.length = originalRemainingClientsCount
    let s' := if remainingClientsCountDidNotChange then
        processed.2.foldl (clearRemaining lookup) processed.1
      else processed.1
    (s', decide (s'.missingClients.length > 0))

/-! ### What a response removes -/

omit [DecidableEq κ] in
@[simp] theorem processPrekeyEntry_missingClients (prekeyData : Option String) (client : γ) :
    (s.processPrekeyEntry env prekeyData client).missingClients =
      s.missingClients.erase client := by
  cases prekeyData <;> rfl

@[simp] theorem clearMissingMessagesBecauseClientCanNotBeFeched_missingClients (client : γ) :
    (s.clearMissingMessagesBecauseClientCanNotBeFeched client).missingClients =
      s.missingClients.erase client := rfl

omit [DecidableEq κ] in
/-- Erasing the client found under an identifier removes exactly the clients
that identifier finds. -/
theorem erase_removes {clients : List γ} (hnodup : clients.Nodup) {lookup : κ → Option γ}
    {clientId : κ} {client : γ} (hsome : lookup clientId = some client) :
    List.Sublist (clients.erase client) clients ∧
      ∀ c, c ∈ clients.erase client ↔ c ∈ clients ∧ ∀ k ∈ [clientId], lookup k ≠ some c := by
  refine ⟨List.erase_sublist, fun c => ?_⟩
  rw [hnodup.mem_erase_iff]
  simp [hsome, eq_comm, and_comm]

/-- Each step of the loop over one user's clients removes the client of the
identifier. -/
theorem processClientEntry_removes (lookup : κ → Option γ) (acc : SelfClientState γ × List κ)
    (entry : κ × Option String) (hnodup : acc.1.missingClients.Nodup) :
    List.Sublist (processClientEntry env lookup acc entry).1.missingClients acc.1.missingClients ∧
      ∀ c, c ∈ (processClientEntry env lookup acc entry).1.missingClients ↔
        c ∈ acc.1.missingClients ∧ ∀ k ∈ [entry.1], lookup k ≠ some c := by
  unfold processClientEntry
  split
  · next hnone => simp [hnone]
  · next client hsome =>
    simp only [processPrekeyEntry_missingClients]
    exact erase_removes hnodup hsome

theorem processClientEntry_remaining (lookup : κ → Option γ) (acc : SelfClientState γ × List κ)
    (entry : κ × Option String) :
    (processClientEntry env lookup acc entry).2 = acc.2.erase entry.1 := by
  unfold processClientEntry
  split <;> rfl

/-- The identifiers of one user's clients leave the remaining ones. -/
theorem processClientEntries_remaining (lookup : κ → Option γ) (entries : List (κ × Option String))
    (acc : SelfClientState γ × List κ) (hnodup : acc.2.Nodup) :
    (entries.foldl (processClientEntry env lookup) acc).2 =
      acc.2.filter fun k => k ∉ entries.map Prod.fst := by
  induction entries generalizing acc with
  | nil => simp
  | cons e entries ih =>
    have hstep := processClientEntry_remaining env lookup acc e
    rw [List.foldl_cons, ih _ (hstep ▸ hnodup.erase e.1), hstep, hnodup.erase_eq_filter,
      List.filter_filter]
    congr 1
    funext k
    by_cases hk : k = e.1
    · simp [hk]
    · have hbne : (k != e.1) = true := bne_iff_ne.mpr hk
      simp [hk, hbne]

/-- Each step of the loop over the users removes the clients of the
identifiers it reads. -/
theorem processUserEntry_removes (lookup : κ → Option γ) (acc : SelfClientState γ × List κ)
    (entry : String × List (κ × Option String)) (hnodup : acc.1.missingClients.Nodup) :
    List.Sublist (processUserEntry env lookup acc entry).1.missingClients acc.1.missingClients ∧
      ∀ c, c ∈ (processUserEntry env lookup acc entry).1.missingClients ↔
        c ∈ acc.1.missingClients ∧ ∀ k ∈ userEntryClientIds env entry, lookup k ≠ some c := by
  unfold processUserEntry userEntryClientIds
  split
  · obtain ⟨hsub, hmem⟩ := foldl_removes (processClientEntry env lookup) (·.1.missingClients)
      (fun entry => [entry.1]) lookup (processClientEntry_removes env lookup) entry.2 hnodup
    refine ⟨hsub, fun c => ?_⟩
    rw [hmem]
    simp
  · simp

theorem processUserEntries_remaining (lookup : κ → Option γ)
    (dictionary : List (String × List (κ × Option String))) (acc : SelfClientState γ × List κ)
    (hnodup : acc.2.Nodup) :
    (dictionary.foldl (processUserEntry env lookup) acc).2 =
      acc.2.filter fun k => k ∉ dictionary.flatMap (userEntryClientIds env) := by
  induction dictionary generalizing acc with
  | nil => simp
  | cons entry dictionary ih =>
    have hstep : (processUserEntry env lookup acc entry).2 =
        acc.2.filter fun k => k ∉ userEntryClientIds env entry := by
      unfold processUserEntry userEntryClientIds
      split
      · exact processClientEntries_remaining env lookup entry.2 acc hnodup
      · simp
    rw [List.foldl_cons, ih _ (hstep ▸ hnodup.filter _), hstep, List.filter_filter,
      List.flatMap_cons]
    congr 1
    funext k
    by_cases h₁ : k ∈ userEntryClientIds env entry <;>
      by_cases h₂ : k ∈ dictionary.flatMap (userEntryClientIds env) <;> simp [h₁, h₂]

omit [DecidableEq κ] in
theorem clearRemaining_removes (lookup : κ → Option γ) (s : SelfClientState γ) (clientId : κ)
    (hnodup : s.missingClients.Nodup) :
    List.Sublist (clearRemaining lookup s clientId).missingClients s.missingClients ∧
      ∀ c, c ∈ (clearRemaining lookup s clientId).missingClients ↔
        c ∈ s.missingClients ∧ ∀ k ∈ [clientId], lookup k ≠ some c := by
  unfold clearRemaining
  split
  · next client hsome =>
    simp only [clearMissingMessagesBecauseClientCanNotBeFeched_missingClients]
    exact erase_removes hnodup hsome
  · next hnone => simp [hnone]

/-- **What a decoded response removes.**  The missing clients afterwards are
those before, less the clients the table finds under the identifiers named
for user UUIDs and, when none of the requested identifiers still missing is
named, under those; the result says whether clients are still missing. -/
theorem processResponseForUpdatingMissingClients_spec (requestUserInfo : List κ)
    (dictionary : List (String × List (κ × Option String))) (hnodup : s.missingClients.Nodup) :
    let lookup := s.missingUserClientIdToUserClientMap env
    let remaining := (requestUserInfo.filter fun k => (lookup k).isSome).dedup
    let named := (ClientsKeysPayload.clientsDictionary dictionary).namedClientIds env
    let r := s.processResponseForUpdatingMissingClients env requestUserInfo
      (.clientsDictionary dictionary)
    List.Sublist r.1.missingClients s.missingClients ∧
      (∀ c, c ∈ r.1.missingClients ↔ c ∈ s.missingClients ∧ (∀ k ∈ named, lookup k ≠ some c) ∧
        ((∀ k ∈ remaining, k ∉ named) → ∀ k ∈ remaining, lookup k ≠ some c)) ∧
      (r.2 = true ↔ r.1.missingClients ≠ []) := by
  dsimp only
  simp only [processResponseForUpdatingMissingClients, ClientsKeysPayload.namedClientIds]
  have hremnodup := List.nodup_dedup
    (requestUserInfo.filter fun k => (s.missingUserClientIdToUserClientMap env k).isSome)
  generalize s.missingUserClientIdToUserClientMap env = lookup at hremnodup ⊢
  generalize (requestUserInfo.filter fun k => (lookup k).isSome).dedup = remaining at hremnodup ⊢
  -- the loop over the users, then the test on the remaining identifiers
  obtain ⟨hsub, hmem⟩ := foldl_removes (processUserEntry env lookup) (·.1.missingClients)
    (userEntryClientIds env) lookup (processUserEntry_removes env lookup) dictionary
    (s := (s, remaining)) hnodup
  have hrem := processUserEntries_remaining env lookup dictionary (s, remaining) hremnodup
  generalize dictionary.foldl (processUserEntry env lookup) (s, remaining) = processed
    at hsub hmem hrem ⊢
  have hr2 : ∀ s' : SelfClientState γ, decide (s'.missingClients.length > 0) = true ↔
      s'.missingClients ≠ [] := by
    intro s'
    simp [List.length_pos_iff]
  by_cases hall : ∀ k ∈ remaining, k ∉ dictionary.flatMap (userEntryClientIds env)
  · -- no requested identifier was named: the requested ones are given up
    have hsame : processed.2 = remaining := by
      rw [hrem]
      exact List.filter_eq_self.mpr fun k hk => by simpa using hall k hk
    rw [if_pos (by rw [hsame]), hsame]
    obtain ⟨hsub', hmem'⟩ := foldl_removes (clearRemaining lookup) missingClients (fun k => [k])
      lookup (clearRemaining_removes lookup) remaining (s := processed.1) (hnodup.sublist hsub)
    refine ⟨hsub'.trans hsub, fun c => ?_, hr2 _⟩
    rw [hmem', hmem, ← List.forall_mem_flatMap]
    simp only [List.mem_singleton, forall_eq]
    constructor
    · rintro ⟨⟨hc, hnamed⟩, hgiven⟩
      exact ⟨hc, hnamed, fun _ => hgiven⟩
    · rintro ⟨hc, hnamed, hgiven⟩
      exact ⟨⟨hc, hnamed⟩, hgiven hall⟩
  · -- a requested identifier was named: nothing is given up
    have hchanged : ¬ processed.2.length = remaining.length := by
      rw [hrem, List.length_filter_eq_length_iff]
      intro h
      exact hall fun k hk => by simpa using h k hk
    rw [if_neg hchanged]
    refine ⟨hsub, fun c => ?_, hr2 _⟩
    rw [hmem, ← List.forall_mem_flatMap]
    constructor
    · rintro ⟨hc, hnamed⟩
      exact ⟨hc, hnamed, fun h => absurd h hall⟩
    · rintro ⟨hc, hnamed, -⟩
      exact ⟨hc, hnamed⟩

/-! ### The lookup table -/

omit [DecidableEq γ] in
theorem missingUserClientIdToUserClientMap_spec {clientId : κ} {c : γ}
    (h : s.missingUserClientIdToUserClientMap env clientId = some c) :
    c ∈ s.missingClients ∧ env.remoteIdentifier c = clientId := by
  unfold missingUserClientIdToUserClientMap at h
  exact ⟨List.mem_reverse.mp (List.mem_of_find?_eq_some h), by simpa using List.find?_some h⟩

omit [DecidableEq γ] in
theorem missingUserClientIdToUserClientMap_isSome {c : γ} (hc : c ∈ s.missingClients) :
    (s.missingUserClientIdToUserClientMap env (env.remoteIdentifier c)).isSome := by
  unfold missingUserClientIdToUserClientMap
  exact List.find?_isSome.mpr ⟨c, List.mem_reverse.mpr hc, by simp⟩

omit [DecidableEq γ] in
/-- With distinct identifiers, the table finds each missing client under its
own identifier. -/
theorem missingUserClientIdToUserClientMap_of_mem
    (hids : (s.missingClients.map env.remoteIdentifier).Nodup) {c : γ} (hc : c ∈ s.missingClients) :
    s.missingUserClientIdToUserClientMap env (env.remoteIdentifier c) = some c := by
  unfold missingUserClientIdToUserClientMap
  apply find?_key_eq_some
  · rw [List.map_reverse]
    exact List.nodup_reverse.mpr hids
  · exact List.mem_reverse.mpr hc

end SelfClientState

namespace MissingClientsFetch

open MissingClientsMap SelfClientState

variable [DecidableEq γ] [DecidableEq υ] [DecidableEq κ]

/-- One request for the missing clients and its successful response: the
array the page is built from (`Array(missing)`) and the response's payload. -/
structure Round (γ κ : Type*) where
  array : List γ
  payload : ClientsKeysPayload κ

variable (env : UserClientEnvironment γ υ κ) (pageSize : Nat)

/-- `requestForUpdatingObject` builds the page, and the response to it is
processed. -/
def answer (s : SelfClientState γ) (r : Round γ κ) : SelfClientState γ × Bool :=
  s.processResponseForUpdatingMissingClients env (MissingClientsMap.init env r.array pageSize).userInfo
    r.payload

/-- A round; with no missing clients no request is made. -/
def step (s : SelfClientState γ) (r : Round γ κ) : SelfClientState γ :=
  if s.missingClients = [] then s else (answer env pageSize s r).1

/-- The array enumerates the missing clients, and the payload decodes. -/
def Decoded (s : SelfClientState γ) (r : Round γ κ) : Prop :=
  r.array.Perm s.missingClients ∧ ∃ dictionary, r.payload = .clientsDictionary dictionary

/-- The missing clients have no duplicates and distinct identifiers. -/
def Good (s : SelfClientState γ) : Prop :=
  s.missingClients.Nodup ∧ (s.missingClients.map env.remoteIdentifier).Nodup

/-- Properties (a) to (d) of one round. -/
structure RoundSpec (s : SelfClientState γ) (r : Round γ κ) : Prop where
  users_nodup : ((MissingClientsMap.init env r.array pageSize).payload.map Prod.fst).Nodup
  users_le : (MissingClientsMap.init env r.array pageSize).payload.length ≤ pageSize
  nonempty : (MissingClientsMap.init env r.array pageSize).userInfo ≠ []
  removes_requested : ∃ c ∈ missingPage env pageSize [] r.array,
    c ∈ s.missingClients ∧ c ∉ (answer env pageSize s r).1.missingClients
  removes_only : ∀ c ∈ s.missingClients, c ∉ (answer env pageSize s r).1.missingClients →
    env.remoteIdentifier c ∈ (MissingClientsMap.init env r.array pageSize).userInfo ∨
      env.remoteIdentifier c ∈ r.payload.namedClientIds env
  returns_missing : (answer env pageSize s r).2 = true ↔ (answer env pageSize s r).1.missingClients ≠ []

variable {env pageSize}

omit [DecidableEq γ] [DecidableEq κ] in
theorem array_ne_nil {s : SelfClientState γ} {r : Round γ κ} (hdec : Decoded s r)
    (hne : s.missingClients ≠ []) : r.array ≠ [] := by
  intro hnil
  have hperm : s.missingClients.Perm [] := (hnil ▸ hdec.1).symm
  exact hne hperm.eq_nil

omit [DecidableEq γ] [DecidableEq κ] in
theorem page_subset {s : SelfClientState γ} {r : Round γ κ} (hdec : Decoded s r) {c : γ}
    (hc : c ∈ missingPage env pageSize [] r.array) : c ∈ s.missingClients :=
  hdec.1.mem_iff.mp ((missingPage_sublist env pageSize [] r.array).subset hc)

omit [DecidableEq γ] in
/-- The requested identifiers still missing, as `processResponseForUpdatingMissingClients`
computes them. -/
theorem mem_remaining {s : SelfClientState γ} {r : Round γ κ} (hdec : Decoded s r) {k : κ} :
    k ∈ ((MissingClientsMap.init env r.array pageSize).userInfo.filter
        fun k => (s.missingUserClientIdToUserClientMap env k).isSome).dedup ↔
      ∃ c ∈ missingPage env pageSize [] r.array, env.remoteIdentifier c = k := by
  simp only [List.mem_dedup, List.mem_filter, MissingClientsMap.init, List.mem_map]
  constructor
  · rintro ⟨hk, -⟩
    exact hk
  · rintro ⟨c, hc, rfl⟩
    exact ⟨⟨c, hc, rfl⟩, missingUserClientIdToUserClientMap_isSome env s (page_subset hdec hc)⟩

variable (env pageSize)

/-- **Every decoded round removes the client of a requested identifier**:
one that was named, or, when none was, the first requested one. -/
theorem exists_removed {s : SelfClientState γ} {r : Round γ κ} (hpage : 0 < pageSize)
    (hnodup : s.missingClients.Nodup) (hdec : Decoded s r) (hne : s.missingClients ≠ []) :
    ∃ c ∈ missingPage env pageSize [] r.array, ∃ c',
      s.missingUserClientIdToUserClientMap env (env.remoteIdentifier c) = some c' ∧
        c' ∉ (answer env pageSize s r).1.missingClients := by
  obtain ⟨dictionary, hpayload⟩ := hdec.2
  obtain ⟨-, hmem, -⟩ := processResponseForUpdatingMissingClients_spec env s
    (MissingClientsMap.init env r.array pageSize).userInfo dictionary hnodup
  have hanswer : answer env pageSize s r = s.processResponseForUpdatingMissingClients env
      (MissingClientsMap.init env r.array pageSize).userInfo (.clientsDictionary dictionary) := by
    rw [answer, hpayload]
  -- the page is not empty
  obtain ⟨c₀, cs, harray⟩ := List.exists_cons_of_ne_nil (array_ne_nil hdec hne)
  obtain ⟨rest, hpage₀⟩ := missingPage_cons env hpage c₀ cs
  have hc₀ : c₀ ∈ missingPage env pageSize [] r.array := by
    rw [harray, hpage₀]
    exact List.mem_cons_self
  -- a client found under an identifier of the chosen kind is removed
  have hgone : ∀ k, k ∈ ((MissingClientsMap.init env r.array pageSize).userInfo.filter
        fun k => (s.missingUserClientIdToUserClientMap env k).isSome).dedup →
      (k ∈ (ClientsKeysPayload.clientsDictionary dictionary).namedClientIds env ∨
        ∀ k ∈ ((MissingClientsMap.init env r.array pageSize).userInfo.filter
          fun k => (s.missingUserClientIdToUserClientMap env k).isSome).dedup,
          k ∉ (ClientsKeysPayload.clientsDictionary dictionary).namedClientIds env) →
      ∀ c', s.missingUserClientIdToUserClientMap env k = some c' →
        c' ∉ (answer env pageSize s r).1.missingClients := by
    intro k hk hkind c' hc' hin
    rw [hanswer] at hin
    obtain ⟨-, hnamed, hgiven⟩ := (hmem c').mp hin
    rcases hkind with hkind | hall
    · exact hnamed k hkind hc'
    · exact hgiven hall k hk hc'
  by_cases hall : ∀ k ∈ ((MissingClientsMap.init env r.array pageSize).userInfo.filter
      fun k => (s.missingUserClientIdToUserClientMap env k).isSome).dedup,
      k ∉ (ClientsKeysPayload.clientsDictionary dictionary).namedClientIds env
  · -- nothing requested was named: the first requested client is given up
    have hk₀ := (mem_remaining hdec).mpr ⟨c₀, hc₀, rfl⟩
    obtain ⟨c', hc'⟩ := Option.isSome_iff_exists.mp
      (missingUserClientIdToUserClientMap_isSome env s (page_subset hdec hc₀))
    exact ⟨c₀, hc₀, c', hc', hgone _ hk₀ (.inr hall) c' hc'⟩
  · -- a requested identifier was named
    simp only [not_forall, not_not, exists_prop] at hall
    obtain ⟨k, hk, hnamed⟩ := hall
    obtain ⟨c, hc, rfl⟩ := (mem_remaining hdec).mp hk
    obtain ⟨c', hc'⟩ := Option.isSome_iff_exists.mp
      (missingUserClientIdToUserClientMap_isSome env s (page_subset hdec hc))
    exact ⟨c, hc, c', hc', hgone _ hk (.inl hnamed) c' hc'⟩

/-- **One round satisfies (a) to (d).** -/
theorem roundSpec {s : SelfClientState γ} {r : Round γ κ} (hpage : 0 < pageSize)
    (hgood : Good env s) (hdec : Decoded s r) (hne : s.missingClients ≠ []) :
    RoundSpec env pageSize s r := by
  obtain ⟨dictionary, hpayload⟩ := hdec.2
  obtain ⟨-, hmem, hreturns⟩ := processResponseForUpdatingMissingClients_spec env s
    (MissingClientsMap.init env r.array pageSize).userInfo dictionary hgood.1
  have hanswer : answer env pageSize s r = s.processResponseForUpdatingMissingClients env
      (MissingClientsMap.init env r.array pageSize).userInfo (.clientsDictionary dictionary) := by
    rw [answer, hpayload]
  obtain ⟨hkeys, hlen⟩ := init_payload env r.array pageSize
  refine ⟨hkeys, hlen, userInfo_ne_nil env hpage (array_ne_nil hdec hne), ?_, ?_, ?_⟩
  · -- with distinct identifiers, the client removed is the requested one
    obtain ⟨c, hc, c', hc', hgone⟩ := exists_removed env pageSize hpage hgood.1 hdec hne
    have hcc' : c' = c := by
      rw [missingUserClientIdToUserClientMap_of_mem env s hgood.2 (page_subset hdec hc)] at hc'
      exact (Option.some.inj hc').symm
    exact ⟨c, hc, page_subset hdec hc, hcc' ▸ hgone⟩
  · intro c hc hgone
    rw [hanswer, hmem c] at hgone
    by_cases hnamed : ∀ k ∈ (ClientsKeysPayload.clientsDictionary dictionary).namedClientIds env,
        s.missingUserClientIdToUserClientMap env k ≠ some c
    · -- found under a requested identifier that was given up
      obtain ⟨-, hnot⟩ := Classical.not_imp.mp fun hgiven => hgone ⟨hc, hnamed, hgiven⟩
      simp only [not_forall, not_not, exists_prop] at hnot
      obtain ⟨k, hk, hlookup⟩ := hnot
      left
      obtain ⟨c'', hc'', hk'⟩ := (mem_remaining hdec).mp hk
      rw [(missingUserClientIdToUserClientMap_spec env s hlookup).2, ← hk']
      exact List.mem_map.mpr ⟨c'', hc'', rfl⟩
    · -- found under a named identifier
      simp only [not_forall, not_not, exists_prop] at hnamed
      obtain ⟨k, hk, hlookup⟩ := hnamed
      right
      rw [hpayload, (missingUserClientIdToUserClientMap_spec env s hlookup).2]
      exact hk
  · rw [hanswer]
    exact hreturns

/-- A decoded round from missing clients without duplicates keeps them
without duplicates and with distinct identifiers, and removes at least one. -/
theorem step_good {s : SelfClientState γ} {r : Round γ κ} (hpage : 0 < pageSize)
    (hgood : Good env s) (hdec : Decoded s r) :
    Good env (step env pageSize s r) ∧
      (s.missingClients ≠ [] →
        (step env pageSize s r).missingClients.length < s.missingClients.length) := by
  unfold step
  split
  · next hnil => exact ⟨hgood, fun hne => absurd hnil hne⟩
  · next hne =>
    obtain ⟨dictionary, hpayload⟩ := hdec.2
    obtain ⟨hsub, -, -⟩ := processResponseForUpdatingMissingClients_spec env s
      (MissingClientsMap.init env r.array pageSize).userInfo dictionary hgood.1
    have hsub' : List.Sublist (answer env pageSize s r).1.missingClients s.missingClients := by
      rw [answer, hpayload]
      exact hsub
    refine ⟨⟨hgood.1.sublist hsub', hgood.2.sublist (hsub'.map env.remoteIdentifier)⟩, fun _ => ?_⟩
    -- the removed client makes the list shorter
    obtain ⟨c, -, c', hc', hgone⟩ := exists_removed env pageSize hpage hgood.1 hdec hne
    have hc'mem := (missingUserClientIdToUserClientMap_spec env s hc').1
    have hneq : (answer env pageSize s r).1.missingClients ≠ s.missingClients := by
      intro heq
      rw [heq] at hgone
      exact hgone hc'mem
    exact lt_of_le_of_ne hsub'.length_le fun hlen => hneq (hsub'.eq_of_length hlen)

/-- **The fetch loop terminates and loses no client.**  From missing clients
with distinct identifiers, with `pageSize ≥ 1` and nothing added, over rounds
whose arrays enumerate the missing clients and whose payloads decode as
dictionaries of dictionaries: every round made while clients are missing
satisfies (a) to (d), and after as many rounds as there were missing clients
none is missing. -/
theorem missingClients_fetch_terminates (hpage : 0 < pageSize) (s : SelfClientState γ)
    (hnodup : s.missingClients.Nodup) (hids : (s.missingClients.map env.remoteIdentifier).Nodup)
    (rounds : List (Round γ κ)) (hdecoded : Guarded (step env pageSize) Decoded s rounds) :
    (∀ pre r post, rounds = pre ++ r :: post →
        (run (step env pageSize) s pre).missingClients ≠ [] →
        RoundSpec env pageSize (run (step env pageSize) s pre) r) ∧
      (s.missingClients.length ≤ rounds.length → (run (step env pageSize) s rounds).missingClients = []) := by
  have hgood : Good env s := ⟨hnodup, hids⟩
  constructor
  · intro pre r post hrounds hne
    rw [hrounds, guarded_append] at hdecoded
    have hgoodpre : Good env (run (step env pageSize) s pre) :=
      run_invariant_guarded (Good env) (fun _ _ h hd => (step_good env pageSize hpage h hd).1)
        pre hgood hdecoded.1
    exact roundSpec env pageSize hpage hgoodpre hdecoded.2.1 hne
  · -- each round with missing clients removes one
    intro hlen
    suffices hbound : ∀ (rounds : List (Round γ κ)) (s : SelfClientState γ), Good env s →
        Guarded (step env pageSize) Decoded s rounds →
        (run (step env pageSize) s rounds).missingClients.length ≤
          s.missingClients.length - rounds.length by
      have := hbound rounds s hgood hdecoded
      exact List.eq_nil_of_length_eq_zero (by omega)
    intro rounds
    induction rounds with
    | nil =>
      intro s _ _
      simp
    | cons r rounds ih =>
      intro s hgood ⟨hdec, hrest⟩
      obtain ⟨hgood', hlt⟩ := step_good env pageSize hpage hgood hdec
      have hih := ih _ hgood' hrest
      rw [run_cons, List.length_cons]
      by_cases hnil : s.missingClients = []
      · -- nothing is missing: no request is made, and nothing ever is again
        have hstay : step env pageSize s r = s := by simp [step, hnil]
        rw [hstay, hnil] at hih
        rw [hstay, hnil]
        simpa using hih
      · have := hlt hnil
        omega

/-- Clients `0` and `1`, each its own user and identifier; every key is a
user UUID and every session is created. -/
def distinctClients : UserClientEnvironment Nat Nat Nat :=
  ⟨id, id, fun _ => true, fun _ _ => true⟩

/-- Two rounds of one user per page: the first response names client `0`, the
second answers client `1` with an entry without a prekey. -/
def twoRounds : List (Round Nat Nat) :=
  [⟨[0, 1], .clientsDictionary [("user0", [(0, some "prekey")])]⟩,
    ⟨[1], .clientsDictionary [("user1", [(1, none)])]⟩]

theorem missingClients_fetch_terminates_two_rounds :
    (0 < 1 ∧ [0, 1].Nodup ∧ ([0, 1].map distinctClients.remoteIdentifier).Nodup ∧
        Guarded (step distinctClients 1) Decoded ⟨[0, 1], fun _ => false⟩ twoRounds) ∧
      ((∀ pre r post, twoRounds = pre ++ r :: post →
          (run (step distinctClients 1) ⟨[0, 1], fun _ => false⟩ pre).missingClients ≠ [] →
          RoundSpec distinctClients 1 (run (step distinctClients 1) ⟨[0, 1], fun _ => false⟩ pre) r) ∧
        ([0, 1].length ≤ twoRounds.length →
          (run (step distinctClients 1) ⟨[0, 1], fun _ => false⟩ twoRounds).missingClients = [])) :=
  have hdecoded : Guarded (step distinctClients 1) Decoded ⟨[0, 1], fun _ => false⟩ twoRounds :=
    ⟨⟨by decide, _, rfl⟩, ⟨by decide, _, rfl⟩, trivial⟩
  ⟨⟨by decide, by decide, by decide, hdecoded⟩,
    missingClients_fetch_terminates distinctClients 1 (by decide) ⟨[0, 1], fun _ => false⟩
      (by decide) (by decide) twoRounds hdecoded⟩

/-- Clients `0` and `1` of users `0` and `1`, both with identifier `0`. -/
def sharedIdentifier : UserClientEnvironment Nat Nat Nat :=
  ⟨fun _ => 0, id, fun _ => true, fun _ _ => true⟩

/-- **The loop can stop or lose the requested client.**  A missing client
answered, round after round, by payloads that are not dictionaries of
dictionaries stays missing, and each response returns `NO`.  And with two
missing clients that share an identifier and a page of one user, the
request names client `0` only, yet the response naming identifier `0` removes
client `1`, which the table keeps for that identifier: the requested client
stays missing. -/
theorem missingClients_fetch_fails :
    (∀ n, (run (step distinctClients 1) ⟨[0], fun _ => false⟩
        (List.replicate n ⟨[0], .notClientsDictionary⟩)).missingClients = [0]) ∧
      (answer distinctClients 1 ⟨[0], fun _ => false⟩ ⟨[0], .notClientsDictionary⟩).2 = false ∧
      missingPage sharedIdentifier 1 [] [0, 1] = [0] ∧
      (answer sharedIdentifier 1 ⟨[0, 1], fun _ => false⟩
        ⟨[0, 1], .clientsDictionary [("user0", [(0, some "prekey")])]⟩).1.missingClients = [0] := by
  refine ⟨fun n => ?_, rfl, by decide, by decide⟩
  induction n with
  | zero => rfl
  | succ n ih =>
    rw [List.replicate_succ, run_cons]
    -- a payload that does not decode is ignored
    have hstep : step distinctClients 1 ⟨[0], fun _ => false⟩ ⟨[0], .notClientsDictionary⟩ =
        ⟨[0], fun _ => false⟩ := rfl
    rw [hstep]
    exact ih

end MissingClientsFetch

end ZMessaging
