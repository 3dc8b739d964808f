import ZMessaging.DependentObjects
import Mathlib

/-!
# Address book upload (`ZMAddressBookEncoder`)

`createPayloadWithCompletionHandler:` encodes the self user's email and phone
number (`localData`) and the user's contacts (`otherData`) for upload. The
contact loop walks the contacts the address book iterator returns, breaking
once its index passes `1000`. For each contact it collects, in an ordered set,
the hashes of the emails the email validator accepts and then of the phone
numbers longer than seven characters that start with `+`. A contact with at
least one hash gets a card, whose `card_id` is the number of cards made before
it. Every string that is hashed, and the size of every card, also go into a
SHA-512 digest of the whole address book.

The validators, the hash (`addressBookEncoderHash`: SHA-256, then base64) and
SHA-512 are given from outside (`Environment`). A string is its list of
characters, and its `length` counts UTF-16 code units, as `NSString`'s does.

The main results:

* `otherHashesOfContact_fst`: a contact's card holds its email hashes, then its
  phone hashes, each hash once at its first occurrence (`cardContact`,
  `cardContact_spec`), and a contact gets one exactly when it has a valid email
  or an uploadable phone number (`cardContact_isSome_iff`);
* `encodeContacts_otherHashesCards`: the loop started at index `i` makes the
  cards of the next `1001 - i` contacts, numbered on from the cards before;
* `createPayloadWithCompletionHandler_otherData`: `otherData` is the list of
  cards of the first *1001* contacts (`cardsFrom`), or `nil` when there is
  none. The cards follow the contacts' order (`cardsFrom_contact`) and are
  numbered `0, 1, …` (`cardsFrom_card_id`);
* `addressBook_uploads_1001_contacts`: 1001 contacts with a phone number each
  give 1001 cards, the last one numbered `1000`.
-/

namespace ZMessaging.AddressBook

open StepSystem

/-- `NSString.length`: the number of UTF-16 code units. -/
def utf16Length (string : List Char) : Nat :=
  (string.map fun c => if c.toNat ≤ 0xFFFF then 1 else 2).sum

/-- `ZMAddressBookContact`, with what the encoder reads of it. -/
structure ZMAddressBookContact where
  emailAddresses : List (List Char)
  phoneNumbers : List (List Char)
  deriving DecidableEq, Repr

/-- A card of `otherData`: the payload `{"card_id": …, "contact": […]}`. -/
structure Card (η : Type*) where
  card_id : String
  contact : List η
  deriving DecidableEq, Repr

/-- What `CC_SHA512_Update` is fed: the UTF-8 bytes of a string, or the number
of hashes of a card as an `int32_t`. -/
inductive DigestUpdate
  | string (value : List Char)
  | numberOfHashes (count : Int32)
  deriving DecidableEq, Repr

/-- `ZMEncodedAddressBook`. `localData` is `selfHashes.allObjects`, the objects
of a set. -/
structure ZMEncodedAddressBook (η δ : Type*) where
  localData : Finset η
  otherData : Option (List (Card η))
  digest : δ

/-- What the encoder takes from outside: `ZMEmailAddressValidator` and
`ZMPhoneNumberValidator` (`validateValue:error:`, which may normalise the
value), `addressBookEncoderHash`, and SHA-512 over the digest's updates. -/
structure Environment (η δ : Type*) where
  validateEmail : List Char → Option (List Char)
  validatePhoneNumber : List Char → Option (List Char)
  addressBookEncoderHash : List Char → η
  sha512 : List DigestUpdate → δ

/-- The state of the contact loop: the cards made so far and what the digest
has been fed. -/
structure EncoderState (η : Type*) where
  otherHashesCards : List (Card η)
  digestUpdates : List DigestUpdate

/-- The test of a contact's phone number: `(7 < phone.length) && [phone hasPrefix:@"+"]`. -/
def isUploadablePhone (phone : List Char) : Bool :=
  7 < utf16Length phone && ['+'].isPrefixOf phone

/-! ### Ordered sets built by insertion -/

section OrderedSet

variable {α : Type*} [DecidableEq α]

/-- Adding the elements of `l` one by one to an ordered set appends those it
does not hold yet, each at its first occurrence. -/
theorem foldl_orderedSetAdd (acc l : List α) :
    l.foldl orderedSetAdd acc = acc ++ (l.filter (· ∉ acc)).eraseDups := by
  induction l generalizing acc with
  | nil => simp
  | cons x l ih =>
    rw [List.foldl_cons, ih]
    by_cases hx : x ∈ acc
    · simp [orderedSetAdd, hx]
    · -- `x` is appended, and its later occurrences are not kept
      have hfilter : l.filter (· ∉ acc ++ [x]) =
          (l.filter (· ∉ acc)).filter (fun b => !b == x) := by
        rw [List.filter_filter]
        apply List.filter_congr
        intro y _
        by_cases hy : y = x <;> simp [hy, hx]
      have hadd : orderedSetAdd acc x = acc ++ [x] := if_neg hx
      rw [hadd, hfilter, List.filter_cons_of_pos (by simpa using hx), List.eraseDups_cons,
        List.append_assoc, List.singleton_append]

/-- The ordered set of a list holds each element once, at its first occurrence. -/
theorem foldl_orderedSetAdd_nil (l : List α) : l.foldl orderedSetAdd [] = l.eraseDups := by
  rw [foldl_orderedSetAdd, List.nil_append]
  congr 1
  exact List.filter_eq_self.mpr fun x _ => by simp

/-- A loop whose every pass adds to an ordered set the hash its element maps
to, if any, builds the ordered set of those hashes, in the order of the
elements. -/
theorem foldl_fst_orderedSetAdd {β γ : Type*} (step : List α × β → γ → List α × β)
    (hash : γ → Option α)
    (hstep : ∀ acc x, (step acc x).1 = (hash x).elim acc.1 (orderedSetAdd acc.1))
    (l : List γ) (acc : List α × β) :
    (l.foldl step acc).1 = (l.filterMap hash).foldl orderedSetAdd acc.1 := by
  induction l generalizing acc with
  | nil => rfl
  | cons x l ih =>
    rw [List.foldl_cons, ih, hstep, List.filterMap_cons]
    cases hash x with
    | none => rfl
    | some h => rfl

end OrderedSet

variable {η δ : Type*} [DecidableEq η]

namespace Environment

variable (env : Environment η δ)

/-- The check shared by `validatedEmailFromEmail:` and
`validatedPhoneNumberFromPhoneNumber:`: a non-empty string the validator
accepts, as the validator leaves it. -/
def validatedValue (validateValue : List Char → Option (List Char)) (value : List Char) :
    Option (List Char) :=
  if 0 < utf16Length value then validateValue value else none

/-- `validatedEmailFromEmail:`. -/
def validatedEmailFromEmail (email : List Char) : Option (List Char) :=
  validatedValue env.validateEmail email

/-- `validatedPhoneNumberFromPhoneNumber:`. -/
def validatedPhoneNumberFromPhoneNumber (phone : List Char) : Option (List Char) :=
  validatedValue env.validatePhoneNumber phone

/-- One pass of the loop over a contact's emails. -/
def addEmail (acc : List η × List DigestUpdate) (email : List Char) :
    List η × List DigestUpdate :=
  match env.validatedEmailFromEmail email with
  | some validatedEmail =>
    (orderedSetAdd acc.1 (env.addressBookEncoderHash validatedEmail),
      acc.2 ++ [.string validatedEmail])
  | none => acc

/-- One pass of the loop over a contact's phone numbers. -/
def addPhone (acc : List η × List DigestUpdate) (phone : List Char) :
    List η × List DigestUpdate :=
  if isUploadablePhone phone then
    (orderedSetAdd acc.1 (env.addressBookEncoderHash phone), acc.2 ++ [.string phone])
  else acc

/-- The two inner loops: the ordered set `otherHashes` of a contact, and what
the digest is fed on the way. -/
def otherHashesOfContact (contact : ZMAddressBookContact) : List η × List DigestUpdate :=
  contact.phoneNumbers.foldl env.addPhone (contact.emailAddresses.foldl env.addEmail ([], []))

/-- The body of the contact loop after the index check: a contact with a hash
gets the next card, numbered by the cards made before it. -/
def encodeContact (state : EncoderState η) (contact : ZMAddressBookContact) : EncoderState η :=
  let otherHashes := env.otherHashesOfContact contact
  let digestUpdates := state.digestUpdates ++ otherHashes.2
  if 0 < otherHashes.1.length then
    { otherHashesCards :=
        state.otherHashesCards ++ [⟨toString state.otherHashesCards.length, otherHashes.1⟩],
      digestUpdates := digestUpdates ++ [.numberOfHashes (Int32.ofNat otherHashes.1.length)] }
  else { state with digestUpdates := digestUpdates }

/-- The contact loop. `index` counts the contacts looked at; the loop breaks
when it is past `1000`. -/
def encodeContacts : Nat → List ZMAddressBookContact → EncoderState η → EncoderState η
  | _, [], state => state
  | index, contact :: contacts, state =>
    if index > 1000 then state
    else encodeContacts (index + 1) contacts (env.encodeContact state contact)

/-- `createPayloadWithCompletionHandler:`, with the self user's email and phone
number and the contacts of the address book; the completion handler gets the
result. -/
def createPayloadWithCompletionHandler (selfEmail selfPhone : Option (List Char))
    (contacts : List ZMAddressBookContact) : ZMEncodedAddressBook η δ :=
  let selfHashes : Finset η := ∅
  let selfHashes := match selfEmail.bind env.validatedEmailFromEmail with
    | some validatedEmail => insert (env.addressBookEncoderHash validatedEmail) selfHashes
    | none => selfHashes
  let selfHashes := match selfPhone.bind env.validatedPhoneNumberFromPhoneNumber with
    | some validatedPhone => insert (env.addressBookEncoderHash validatedPhone) selfHashes
    | none => selfHashes
  let encoded := env.encodeContacts 0 contacts ⟨[], []⟩
  { localData := selfHashes,
    otherData := if encoded.otherHashesCards.length < 1 then none else some encoded.otherHashesCards,
    digest := env.sha512 encoded.digestUpdates }

/-! ### The card of a contact -/

/-- The hashes of a contact's valid emails, in order. -/
def emailHashes (contact : ZMAddressBookContact) : List η :=
  (contact.emailAddresses.filterMap env.validatedEmailFromEmail).map env.addressBookEncoderHash

/-- The hashes of a contact's uploadable phone numbers, in order. -/
def phoneHashes (contact : ZMAddressBookContact) : List η :=
  (contact.phoneNumbers.filter isUploadablePhone).map env.addressBookEncoderHash

/-- The card a contact should get: its email hashes and then its phone hashes,
each hash once, at its first occurrence; none without a hash. -/
def cardContact (contact : ZMAddressBookContact) : Option (List η) :=
  if (env.emailHashes contact ++ env.phoneHashes contact).eraseDups = [] then none
  else some (env.emailHashes contact ++ env.phoneHashes contact).eraseDups

/-- The cards of a list of contacts, numbered from `n` on. -/
def cardsFrom (n : Nat) : List ZMAddressBookContact → List (Card η)
  | [] => []
  | contact :: contacts =>
    match env.cardContact contact with
    | some hashes => ⟨toString n, hashes⟩ :: cardsFrom (n + 1) contacts
    | none => cardsFrom n contacts

/-! ### The inner loops -/

/-- The email loop adds the hashes of the valid emails, in order. -/
theorem foldl_addEmail_fst (emails : List (List Char)) (acc : List η × List DigestUpdate) :
    (emails.foldl env.addEmail acc).1 =
      ((emails.filterMap env.validatedEmailFromEmail).map env.addressBookEncoderHash).foldl
        orderedSetAdd acc.1 := by
  rw [List.map_filterMap]
  refine foldl_fst_orderedSetAdd env.addEmail _ (fun acc email => ?_) emails acc
  cases hvalid : env.validatedEmailFromEmail email with
  | none => simp [addEmail, hvalid]
  | some validatedEmail => simp [addEmail, hvalid]

/-- The phone loop adds the hashes of the uploadable phone numbers, in order. -/
theorem foldl_addPhone_fst (phones : List (List Char)) (acc : List η × List DigestUpdate) :
    (phones.foldl env.addPhone acc).1 =
      ((phones.filter isUploadablePhone).map env.addressBookEncoderHash).foldl
        orderedSetAdd acc.1 := by
  rw [← List.filterMap_eq_map', List.filterMap_filter]
  refine foldl_fst_orderedSetAdd env.addPhone _ (fun acc phone => ?_) phones acc
  by_cases hphone : isUploadablePhone phone = true
  · simp [addPhone, hphone]
  · simp [addPhone, hphone]

/-- **A contact's hashes**: its email hashes, then its phone hashes, each once
at its first occurrence. -/
theorem otherHashesOfContact_fst (contact : ZMAddressBookContact) :
    (env.otherHashesOfContact contact).1 =
      (env.emailHashes contact ++ env.phoneHashes contact).eraseDups := by
  rw [otherHashesOfContact, foldl_addPhone_fst, foldl_addEmail_fst, ← List.foldl_append,
    foldl_orderedSetAdd_nil]
  rfl

/-- The cards the loop body adds: one for a contact with a hash, numbered by
the cards before it. -/
theorem encodeContact_otherHashesCards (state : EncoderState η) (contact : ZMAddressBookContact) :
    (env.encodeContact state contact).otherHashesCards =
      state.otherHashesCards ++ match env.cardContact contact with
        | some hashes => [⟨toString state.otherHashesCards.length, hashes⟩]
        | none => [] := by
  have hhashes := env.otherHashesOfContact_fst contact
  unfold encodeContact cardContact
  by_cases hnone : (env.emailHashes contact ++ env.phoneHashes contact).eraseDups = []
  · have hlength : ¬ 0 < (env.otherHashesOfContact contact).1.length := by
      simp [hhashes, hnone]
    simp only [hlength, if_false, hnone, if_true, List.append_nil]
  · have hlength : 0 < (env.otherHashesOfContact contact).1.length := by
      rw [hhashes]
      exact List.length_pos_of_ne_nil hnone
    simp only [hlength, if_true]
    simp only [hnone, if_false, hhashes]

/-! ### The contact loop -/

/-- **The contact loop**: started at index `index`, it makes the cards of the
next `1001 - index` contacts, numbered on from the cards it was given. -/
theorem encodeContacts_otherHashesCards (index : Nat) (contacts : List ZMAddressBookContact)
    (state : EncoderState η) :
    (env.encodeContacts index contacts state).otherHashesCards =
      state.otherHashesCards ++
        env.cardsFrom state.otherHashesCards.length (contacts.take (1001 - index)) := by
  induction contacts generalizing index state with
  | nil => simp [encodeContacts, cardsFrom]
  | cons contact contacts ih =>
    by_cases hindex : index > 1000
    · -- the loop breaks before looking at `contact`
      have htake : 1001 - index = 0 := by omega
      simp [encodeContacts, hindex, htake, cardsFrom]
    · have htake : 1001 - index = (1001 - (index + 1)) + 1 := by omega
      rw [encodeContacts, if_neg hindex, ih, encodeContact_otherHashesCards, htake,
        List.take_succ_cons, cardsFrom]
      cases env.cardContact contact with
      | none => simp
      | some hashes => simp

/-! ### The cards -/

/-- The cards follow the contacts that have a card, in order. -/
theorem cardsFrom_contact (n : Nat) (contacts : List ZMAddressBookContact) :
    (env.cardsFrom n contacts).map Card.contact = contacts.filterMap env.cardContact := by
  induction contacts generalizing n with
  | nil => rfl
  | cons contact contacts ih =>
    rw [cardsFrom, List.filterMap_cons]
    cases env.cardContact contact with
    | none => exact ih n
    | some hashes => simp [ih]

/-- The cards are numbered `n, n + 1, …` without a gap. -/
theorem cardsFrom_card_id (n : Nat) (contacts : List ZMAddressBookContact) :
    (env.cardsFrom n contacts).map Card.card_id =
      (List.range (env.cardsFrom n contacts).length).map fun i => toString (n + i) := by
  induction contacts generalizing n with
  | nil => rfl
  | cons contact contacts ih =>
    rw [cardsFrom]
    cases env.cardContact contact with
    | none => exact ih n
    | some hashes =>
      rw [List.length_cons, List.range_succ_eq_map, List.map_cons, List.map_cons, ih (n + 1),
        List.map_map]
      congr 2
      funext i
      simp only [Function.comp_apply]
      congr 1
      omega

theorem length_cardsFrom (n : Nat) (contacts : List ZMAddressBookContact) :
    (env.cardsFrom n contacts).length = (contacts.filterMap env.cardContact).length := by
  rw [← env.cardsFrom_contact n, List.length_map]

/-- A card holds every hash once, the email hashes first. -/
theorem cardContact_spec {contact : ZMAddressBookContact} {hashes : List η}
    (h : env.cardContact contact = some hashes) :
    hashes.Nodup ∧ hashes = (env.emailHashes contact).eraseDups ++
      ((env.phoneHashes contact).removeAll (env.emailHashes contact)).eraseDups := by
  unfold cardContact at h
  split at h
  · cases h
  · cases h
    exact ⟨nodup_eraseDups _, List.eraseDups_append⟩

/-- A contact gets a card exactly when it has a valid email or an uploadable
phone number. -/
theorem cardContact_isSome_iff (contact : ZMAddressBookContact) :
    (env.cardContact contact).isSome ↔ env.emailHashes contact ++ env.phoneHashes contact ≠ [] := by
  have hempty : ∀ l : List η, l.eraseDups = [] ↔ l = [] := by
    intro l
    simp only [List.eq_nil_iff_forall_not_mem, List.mem_eraseDups]
  rw [Ne, ← hempty]
  unfold cardContact
  by_cases hnone : (env.emailHashes contact ++ env.phoneHashes contact).eraseDups = []
  · simp [hnone]
  · simp [hnone]

/-! ### The payload -/

/-- **`otherData`**: the cards of the first 1001 contacts, numbered from `0`,
or `nil` when none of them has a card. -/
theorem createPayloadWithCompletionHandler_otherData (selfEmail selfPhone : Option (List Char))
    (contacts : List ZMAddressBookContact) :
    (env.createPayloadWithCompletionHandler selfEmail selfPhone contacts).otherData =
      if env.cardsFrom 0 (contacts.take 1001) = [] then none
      else some (env.cardsFrom 0 (contacts.take 1001)) := by
  have hcards := env.encodeContacts_otherHashesCards 0 contacts ⟨[], []⟩
  simp only [List.nil_append, List.length_nil, Nat.sub_zero] at hcards
  simp only [createPayloadWithCompletionHandler, hcards, Nat.lt_one_iff, List.length_eq_zero_iff]

end Environment

/-- A contact with one phone number, in international form. -/
def phoneContact : ZMAddressBookContact :=
  ⟨[], [['+', '4', '9', '1', '5', '1', '2', '3', '4', '5', '6', '7']]⟩

/-- An address book of 1001 such contacts is uploaded whole: 1001 cards, the
last one numbered `1000`, whatever the validators and the hash. -/
theorem addressBook_uploads_1001_contacts (env : Environment η δ)
    (selfEmail selfPhone : Option (List Char)) :
    (env.createPayloadWithCompletionHandler selfEmail selfPhone
        (List.replicate 1001 phoneContact)).otherData.map List.length = some 1001 ∧
      ((env.createPayloadWithCompletionHandler selfEmail selfPhone
        (List.replicate 1001 phoneContact)).otherData.bind List.getLast?).map Card.card_id =
          some "1000" := by
  -- the contact's one phone number is uploaded, so it gets a card
  have hcard : (env.cardContact phoneContact).isSome := by
    rw [env.cardContact_isSome_iff]
    have hphone : isUploadablePhone ['+', '4', '9', '1', '5', '1', '2', '3', '4', '5', '6', '7'] :=
      by decide
    simp [Environment.phoneHashes, phoneContact, hphone]
  obtain ⟨hashes, hhashes⟩ := Option.isSome_iff_exists.mp hcard
  have hlength : (env.cardsFrom 0 (List.replicate 1001 phoneContact)).length = 1001 := by
    rw [env.length_cardsFrom, List.filterMap_replicate, hhashes, List.length_replicate]
  have hids := env.cardsFrom_card_id 0 (List.replicate 1001 phoneContact)
  rw [hlength] at hids
  have hnonempty : env.cardsFrom 0 (List.replicate 1001 phoneContact) ≠ [] :=
    List.ne_nil_of_length_pos (by omega)
  have htake : (List.replicate 1001 phoneContact).take 1001 = List.replicate 1001 phoneContact :=
    List.take_of_length_le (List.length_replicate ..).le
  rw [env.createPayloadWithCompletionHandler_otherData, htake, if_neg hnonempty]
  refine ⟨congrArg some hlength, ?_⟩
  show ((env.cardsFrom 0 (List.replicate 1001 phoneContact)).getLast?).map Card.card_id = _
  rw [← List.getLast?_map, hids, List.getLast?_map, List.getLast?_range]
  rfl

end ZMessaging.AddressBook
