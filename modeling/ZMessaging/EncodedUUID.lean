import ZMessaging.Base64
import Mathlib.Data.Rat.Floor
import Mathlib.Data.Vector.Defs

/-!
# Invitation tokens (`ZMEncodedNSUUIDWithTimestamp`)

An invitation to connect carries a user's UUID and the hour it was made,
encrypted with AES-256 and put into a URL as URL-safe base64 without padding.
The `BUFFER_SIZE` bytes that are encrypted are

    14 bytes random data | 2 bytes time | 16 bytes UUID

where the time is the number of hours since 01 Jan 2014 00:00 as a big-endian
unsigned 16-bit integer.

Supplied from outside: the block cipher (`BlockCipher`, with `CCCrypt`'s
status as an `Option`), the random bytes, the memory that lies after a decoded
buffer (`CCCrypt` reads `BUFFER_SIZE` bytes however long the buffer is),
Foundation's base64 (`Base64`), percent-encoding and URL query character set.
Dates are seconds since 1970 as exact rationals, and an `NSURL` is the string
it is made from. `RequireString` and the exceptions Foundation raises end the
call: they are the `Abort` of an `Except`.

Main results:

* `URLSafeBase64_round_trip`: the URL-safe helpers invert each other on data
  whose length is `2 mod 3`, and the token they produce needs no escaping;
* `invitationToken_round_trip`: a URL built from a UUID and a date gives the
  UUID and the date rounded down to the hour back;
* `initWithSafeBase64EncodedToken_of_decode`: a token is accepted whatever the
  length of what it decodes to, and `cryptInput_of_length_le`: a short buffer
  is decrypted together with the memory after it;
* `initWithSafeBase64EncodedToken_malformed_tokens`: an empty token raises,
  and `AAA` is accepted and decrypted from two bytes and thirty bytes past them.
-/

namespace ZMessaging.EncodedUUID

/-! ### Sizes and the clock -/

def RANDOM_DATA_SIZE : Nat := 14
def TIME_DATA_SIZE : Nat := 2
def UUID_DATA_SIZE : Nat := 16
def BUFFER_SIZE : Nat := RANDOM_DATA_SIZE + TIME_DATA_SIZE + UUID_DATA_SIZE

def HOUR_IN_SEC : Nat := 60 * 60

/-- 01 Jan 2014 00:00:00, in seconds since 1970. -/
def ReferenceTimestamp : Nat := 1388534400

def kCCBlockSizeAES128 : Nat := 16
def kCCKeySizeAES256 : Nat := 32

/-- `[NSDate distantPast]`, 01 Jan 0001, in seconds since 1970. -/
def distantPast : ℚ := -62135769600

/-- `(uint16_t) floor(diff/HOUR_IN_SEC)`: the cast keeps the value modulo `2^16`. -/
def hoursBetweenReferenceDateAndDate (date : ℚ) : UInt16 :=
  UInt16.ofInt ⌊(date - ReferenceTimestamp) / HOUR_IN_SEC⌋

def dateFromHoursSinceReferenceDate (hours : UInt16) : ℚ :=
  ReferenceTimestamp + HOUR_IN_SEC * hours.toNat

/-- `CFSwapInt16HostToBig` and `memcpy`: the high byte first. -/
def bigEndianBytes (hours : UInt16) : List UInt8 :=
  [UInt8.ofNat (hours.toNat / 256), UInt8.ofNat (hours.toNat % 256)]

/-- `memcpy` of two bytes and `CFSwapInt16BigToHost`. -/
def ofBigEndianBytes (high low : UInt8) : UInt16 :=
  UInt16.ofNat (high.toNat * 256 + low.toNat)

theorem ofBigEndianBytes_bigEndianBytes (hours : UInt16) :
    ofBigEndianBytes (UInt8.ofNat (hours.toNat / 256)) (UInt8.ofNat (hours.toNat % 256)) =
      hours := by
  have hlt := hours.toNat_lt
  unfold ofBigEndianBytes
  rw [UInt8.toNat_ofNat', UInt8.toNat_ofNat',
    show hours.toNat / 256 % 2 ^ 8 * 256 + hours.toNat % 256 % 2 ^ 8 = hours.toNat by omega,
    UInt16.ofNat_toNat]

/-- Within the sixteen-bit window the hours are the floor of the difference. -/
theorem toNat_hoursBetweenReferenceDateAndDate {date : ℚ}
    (hafter : 0 ≤ date - ReferenceTimestamp)
    (hbefore : date - ReferenceTimestamp < 65536 * HOUR_IN_SEC) :
    ((hoursBetweenReferenceDateAndDate date).toNat : ℤ) =
      ⌊(date - ReferenceTimestamp) / HOUR_IN_SEC⌋ := by
  have hhour : (0 : ℚ) < HOUR_IN_SEC := by norm_num [HOUR_IN_SEC]
  have hnonneg : 0 ≤ ⌊(date - ReferenceTimestamp) / HOUR_IN_SEC⌋ :=
    Int.floor_nonneg.mpr (div_nonneg hafter hhour.le)
  have hlt : ⌊(date - ReferenceTimestamp) / HOUR_IN_SEC⌋ < 65536 :=
    Int.floor_lt.mpr (by rw [div_lt_iff₀ hhour]; exact_mod_cast hbefore)
  unfold hoursBetweenReferenceDateAndDate UInt16.ofInt
  rw [UInt16.toNat_ofNat']
  omega

theorem dateFromHoursSinceReferenceDate_hoursBetweenReferenceDateAndDate {date : ℚ}
    (hafter : 0 ≤ date - ReferenceTimestamp)
    (hbefore : date - ReferenceTimestamp < 65536 * HOUR_IN_SEC) :
    dateFromHoursSinceReferenceDate (hoursBetweenReferenceDateAndDate date) =
      ReferenceTimestamp + HOUR_IN_SEC * ⌊(date - ReferenceTimestamp) / HOUR_IN_SEC⌋ := by
  have hhours := congrArg (Int.cast : ℤ → ℚ)
    (toNat_hoursBetweenReferenceDateAndDate hafter hbefore)
  rw [Int.cast_natCast] at hhours
  rw [dateFromHoursSinceReferenceDate, hhours]

/-! ### Foundation -/

/-- How a call ends other than by returning. -/
inductive Abort
  | requireString (message : String)
  /-- `NSRangeException`, from `characterAtIndex:` past the end. -/
  | rangeException
  /-- `NSInvalidArgumentException`, from a nil string argument. -/
  | invalidArgumentException
  deriving DecidableEq, Repr

/-- `RequireString(condition, message)`. -/
def requireString (condition : Bool) (message : String) : Except Abort Unit :=
  if condition then .ok () else .error (.requireString message)

/-- `[string characterAtIndex:string.length-1]`. On an empty string the
`NSUInteger` subtraction wraps to `NSUIntegerMax` where `Nat` stops at 0: both
indices are past the end. A message to nil answers 0. -/
def lastCharacter : Option (List Char) → Except Abort Char
  | none => pure (Char.ofNat 0)
  | some string =>
    match string[string.length - 1]? with
    | some c => pure c
    | none => throw .rangeException

/-- `stringByReplacingOccurrencesOfString:withString:`, for the one-character
targets the source replaces. -/
def stringByReplacingOccurrencesOfString (string : List Char) (target : Char)
    (replacement : List Char) : List Char :=
  string.flatMap fun c => if c = target then replacement else [c]

/-- The upper-case hexadecimal digit of a value below 16. -/
def hexDigitChar (n : Nat) : Char :=
  if n < 10 then Char.ofNat (48 + n) else Char.ofNat (55 + n)

def hexDigitValue (c : Char) : Option Nat :=
  if '0' ≤ c ∧ c ≤ '9' then some (c.toNat - 48)
  else if 'A' ≤ c ∧ c ≤ 'F' then some (c.toNat - 55)
  else if 'a' ≤ c ∧ c ≤ 'f' then some (c.toNat - 87)
  else none

def percentEncodeByte (b : UInt8) : List Char :=
  ['%', hexDigitChar (b.toNat / 16), hexDigitChar (b.toNat % 16)]

/-- `stringByAddingPercentEncodingWithAllowedCharacters:`: every character
outside the set is written as its UTF-8 bytes, each as `%XX`. -/
def stringByAddingPercentEncodingWithAllowedCharacters (string : List Char)
    (allowed : Char → Bool) : List Char :=
  string.flatMap fun c =>
    if allowed c then [c] else (String.utf8EncodeChar c).flatMap percentEncodeByte

/-- The bytes a percent-encoded string stands for: `%XX` is the byte `XX`,
any other character its UTF-8 bytes; a `%` without two hexadecimal digits
after it is malformed. -/
def percentDecodeBytes : List Char → Option (List UInt8)
  | [] => some []
  | '%' :: high :: low :: rest => do
    let h ← hexDigitValue high
    let l ← hexDigitValue low
    let tail ← percentDecodeBytes rest
    pure (UInt8.ofNat (h * 16 + l) :: tail)
  | '%' :: _ => none
  | c :: rest => (String.utf8EncodeChar c ++ ·) <$> percentDecodeBytes rest

/-- `stringByRemovingPercentEncoding`: nil when an escape is malformed or the
bytes are not UTF-8. -/
def stringByRemovingPercentEncoding (string : List Char) : Option (List Char) := do
  let bytes ← percentDecodeBytes string
  let chars ← bytes.toByteArray.utf8Decode?
  pure chars.toList

/-- `URLQueryAllowedCharacterSet`: letters, digits and ``!$&'()*+,-./:;=?@_~``. -/
def URLQueryAllowedCharacterSet (c : Char) : Bool :=
  c.isAlphanum || ['!', '$', '&', Char.ofNat 39, '(', ')', '*', '+', ',', '-', '.', '/', ':',
    ';', '=', '?', '@', '_', '~'].contains c

def removeCharactersInString (set : Char → Bool) (chars : List Char) (c : Char) : Bool :=
  set c && !chars.contains c

/-! ### The token -/

/-- An `NSUUID`: `initWithUUIDBytes:` takes sixteen bytes. -/
structure NSUUID where
  data : List.Vector UInt8 UUID_DATA_SIZE
  deriving DecidableEq

/-- `CCCrypt` with AES, no IV and no padding, on a key and the `BUFFER_SIZE`
bytes it reads: `none` for a status other than `kCCSuccess`. Encryption gives
the `numBytes` bytes it wrote; decryption fills the `BUFFER_SIZE`-byte buffer
that `decodeDataWithKey:` reads. -/
structure BlockCipher where
  encrypt : List UInt8 → List UInt8 → Option (List UInt8)
  decrypt : List UInt8 → List UInt8 → Option (List.Vector UInt8 BUFFER_SIZE)

/-- AES-256 decryption inverts encryption under the same key: for a key of
`kCCKeySizeAES256` bytes and `BUFFER_SIZE` bytes of data, encryption succeeds
with `BUFFER_SIZE` bytes, which decrypt to the data. -/
structure BlockCipher.Inverts (cipher : BlockCipher) : Prop where
  decrypt_encrypt : ∀ key data, key.length = kCCKeySizeAES256 → data.length = BUFFER_SIZE →
    ∃ encrypted, cipher.encrypt key data = some encrypted ∧ encrypted.length = BUFFER_SIZE ∧
      (cipher.decrypt key encrypted).map List.Vector.toList = some data

structure ZMEncodedNSUUIDWithTimestamp where
  uuid : Option NSUUID
  timestampDate : ℚ
  encodedData : Option (List UInt8)

/-- `InvitationToConnectEncodeKey`, the key of `invitationToConnectEncryptionKey`. -/
def invitationToConnectEncryptionKey : List UInt8 :=
  [0x64, 0x68, 0xca, 0xee, 0x5c, 0x0, 0x25, 0xf5, 0x68, 0xe4, 0xd0, 0x85, 0xf8, 0x38, 0x28, 0x6a,
    0x8a, 0x98, 0x6d, 0x2d, 0xfa, 0x67, 0x5e, 0x48, 0xa3, 0xed, 0x2a, 0xef, 0xdd, 0xaf, 0xe8, 0xc1]

/-- `encodedDataWithKey:` on an object holding `uuid` and `timestampDate`: the
`encodedData` it leaves. `random` is what `SecRandomCopyBytes` wrote. -/
def encodedDataWithKey (cipher : BlockCipher) (random : List.Vector UInt8 RANDOM_DATA_SIZE)
    (uuid : Option NSUUID) (timestampDate : ℚ) (encryptionKey : List UInt8) :
    Except Abort (Option (List UInt8)) := do
  requireString (BUFFER_SIZE / kCCBlockSizeAES128 * kCCBlockSizeAES128 == BUFFER_SIZE)
    "Data to encrypt is not a multiple of the block size"
  requireString (encryptionKey.length == kCCKeySizeAES256)
    "Encryption key has wrong length (%lu vs. expected %d)"
  let hours := hoursBetweenReferenceDateAndDate timestampDate
  -- `memcpy` returns its destination: only a nil UUID takes an early return
  match uuid with
  | none => pure none
  | some uuid =>
    let initialData := random.toList ++ bigEndianBytes hours ++ uuid.data.toList
    match cipher.encrypt encryptionKey initialData with
    | none => throw (.requireString "Error in encryption: %d")
    | some encryptedData => pure (some encryptedData)

/-- The `BUFFER_SIZE` bytes `CCCrypt` reads from `self.encodedData.bytes`: the
data, followed by the memory after it when the data is shorter. -/
def cryptInput (encodedData : List UInt8) (memoryAfter : Nat → UInt8) : List UInt8 :=
  (encodedData ++ (List.range BUFFER_SIZE).map memoryAfter).take BUFFER_SIZE

/-- The `uuid` and `timestampDate` that `decodeDataWithKey:` sets from what
`CCCrypt` answers. -/
def decryptedFields : Option (List.Vector UInt8 BUFFER_SIZE) → Option NSUUID × ℚ
  | none => (none, distantPast)
  | some decryptedData =>
    let bytes := decryptedData.toList
    -- the buffer holds `BUFFER_SIZE` bytes, so the default is never read
    let hours := ofBigEndianBytes (bytes.getD RANDOM_DATA_SIZE 0)
      (bytes.getD (RANDOM_DATA_SIZE + 1) 0)
    (some ⟨⟨bytes.drop (RANDOM_DATA_SIZE + TIME_DATA_SIZE), by
      rw [List.length_drop, List.Vector.toList_length]; rfl⟩⟩,
      dateFromHoursSinceReferenceDate hours)

/-- `decodeDataWithKey:`. A length other than `BUFFER_SIZE` is only logged. -/
def decodeDataWithKey (cipher : BlockCipher) (memoryAfter : Nat → UInt8)
    (encodedData : List UInt8) (encryptionKey : List UInt8) :
    Except Abort (Option NSUUID × ℚ) := do
  requireString (BUFFER_SIZE / kCCBlockSizeAES128 * kCCBlockSizeAES128 == BUFFER_SIZE)
    "Data to dencrypt is not a multiple of the block size"
  requireString (encryptionKey.length == kCCKeySizeAES256)
    "Encryption key has wrong length (%lu vs. expected %d)"
  pure (decryptedFields (cipher.decrypt encryptionKey (cryptInput encodedData memoryAfter)))

def initWithEncodedData (cipher : BlockCipher) (memoryAfter : Nat → UInt8) (data : List UInt8)
    (encryptionKey : List UInt8) : Except Abort ZMEncodedNSUUIDWithTimestamp := do
  let (uuid, timestampDate) ← decodeDataWithKey cipher memoryAfter data encryptionKey
  pure ⟨uuid, timestampDate, some data⟩

def initWithUUID (cipher : BlockCipher) (random : List.Vector UInt8 RANDOM_DATA_SIZE)
    (UUID : Option NSUUID) (date : ℚ) (encryptionKey : List UInt8) :
    Except Abort ZMEncodedNSUUIDWithTimestamp := do
  let encodedData ← encodedDataWithKey cipher random UUID date encryptionKey
  pure ⟨UUID, date, encodedData⟩

/-- The two replacements of `URLSafeBase64WithoutPaddingEncodeData:`. -/
def toSafeBase64 (base64 : List Char) : List Char :=
  stringByReplacingOccurrencesOfString (stringByReplacingOccurrencesOfString base64 '/' ['_'])
    '+' ['-']

/-- The two replacements of `URLSafeBase64WithoutPaddingDecodeString:`. -/
def fromSafeBase64 (safeBase64 : List Char) : List Char :=
  stringByReplacingOccurrencesOfString (stringByReplacingOccurrencesOfString safeBase64 '_' ['/'])
    '-' ['+']

/-- `URLSafeBase64WithoutPaddingEncodeData:`; messages to a nil `data` answer nil. -/
def URLSafeBase64WithoutPaddingEncodeData (data : Option (List UInt8)) :
    Except Abort (Option (List Char)) := do
  let safeBase64 := (data.map Base64.encode).map toSafeBase64
  let last ← lastCharacter safeBase64
  requireString (last == '=') "No \x27=\x27 at the end of the base64 encoded string"
  let noPaddingSafeBase64 := safeBase64.map (stringByReplacingOccurrencesOfString · '=' [])
  requireString (!noPaddingSafeBase64.any (·.contains '='))
    "More than one = in base64 encoded string"
  pure noPaddingSafeBase64

/-- `URLSafeBase64WithoutPaddingDecodeString:`: `VerifyReturnNil` on a final
`=`, and Foundation's decoding, which raises on a nil string. -/
def URLSafeBase64WithoutPaddingDecodeString (safeBase64WithoutPadding : Option (List Char)) :
    Except Abort (Option (List UInt8)) := do
  let last ← lastCharacter safeBase64WithoutPadding
  if last = '=' then
    return none
  let base64 := (safeBase64WithoutPadding.map (· ++ ['='])).map fromSafeBase64
  match base64 with
  | none => throw .invalidArgumentException
  | some base64 => pure (Base64.decode base64)

/-- `URLWithEncodedUUIDWithTimestampPrefixedWithString:`. -/
def ZMEncodedNSUUIDWithTimestamp.URLWithEncodedUUIDWithTimestampPrefixedWithString
    (self : ZMEncodedNSUUIDWithTimestamp) (prefixString : List Char) :
    Except Abort (List Char) := do
  let base64EncodedIndentifier ← URLSafeBase64WithoutPaddingEncodeData self.encodedData
  let set := removeCharactersInString URLQueryAllowedCharacterSet ['/', '=', '&', '+']
  match base64EncodedIndentifier with
  | none => throw .invalidArgumentException
  | some identifier =>
    pure (prefixString ++ stringByAddingPercentEncodingWithAllowedCharacters identifier set)

/-- `initWithSafeBase64EncodedToken:withEncryptionKey:`. -/
def initWithSafeBase64EncodedToken (cipher : BlockCipher) (memoryAfter : Nat → UInt8)
    (token : Option (List Char)) (encryptionKey : List UInt8) :
    Except Abort (Option ZMEncodedNSUUIDWithTimestamp) := do
  match token with
  | none => pure none
  | some token =>
    let safeToken := stringByRemovingPercentEncoding token
    let decodedData ← URLSafeBase64WithoutPaddingDecodeString safeToken
    match decodedData with
    | none => pure none
    | some data => some <$> initWithEncodedData cipher memoryAfter data encryptionKey

/-! ### Replacing, escaping and the last character -/

@[simp] theorem stringByReplacingOccurrencesOfString_append (string string' : List Char)
    (target : Char) (replacement : List Char) :
    stringByReplacingOccurrencesOfString (string ++ string') target replacement =
      stringByReplacingOccurrencesOfString string target replacement ++
        stringByReplacingOccurrencesOfString string' target replacement := by
  simp [stringByReplacingOccurrencesOfString]

theorem stringByReplacingOccurrencesOfString_of_not_mem {string : List Char} {target : Char}
    (h : target ∉ string) (replacement : List Char) :
    stringByReplacingOccurrencesOfString string target replacement = string := by
  induction string with
  | nil => rfl
  | cons c rest ih =>
    have hc : c ≠ target := fun hc => h (hc ▸ List.mem_cons_self)
    rw [← List.singleton_append, stringByReplacingOccurrencesOfString_append,
      ih (fun hmem => h (List.mem_cons_of_mem c hmem))]
    simp [stringByReplacingOccurrencesOfString, hc]

theorem lastCharacter_append_singleton (string : List Char) (c : Char) :
    lastCharacter (some (string ++ [c])) = .ok c := by
  simp [lastCharacter, pure, Except.pure]

theorem lastCharacter_of_ne_nil {string : List Char} (h : string ≠ []) :
    lastCharacter (some string) = .ok (string.getLast h) := by
  conv_lhs => rw [← List.dropLast_append_getLast h]
  exact lastCharacter_append_singleton _ _

theorem stringByAddingPercentEncodingWithAllowedCharacters_of_forall {string : List Char}
    {allowed : Char → Bool} (h : ∀ c ∈ string, allowed c = true) :
    stringByAddingPercentEncodingWithAllowedCharacters string allowed = string := by
  induction string with
  | nil => rfl
  | cons c rest ih =>
    simp only [List.forall_mem_cons] at h
    simp only [stringByAddingPercentEncodingWithAllowedCharacters] at ih ⊢
    rw [List.flatMap_cons, if_pos h.1, ih h.2]
    rfl

theorem percentDecodeBytes_of_not_mem {string : List Char} (h : '%' ∉ string) :
    percentDecodeBytes string = some (string.flatMap String.utf8EncodeChar) := by
  induction string with
  | nil => rfl
  | cons c rest ih =>
    have hc : c ≠ '%' := fun hc => h (hc ▸ List.mem_cons_self)
    rw [percentDecodeBytes.eq_4 c rest (fun _ _ _ hpercent _ => hc hpercent) hc,
      ih (fun hmem => h (List.mem_cons_of_mem c hmem))]
    rfl

/-- A string without `%` is its own percent-decoding: its UTF-8 bytes decode
back to it. -/
theorem stringByRemovingPercentEncoding_of_not_mem {string : List Char} (h : '%' ∉ string) :
    stringByRemovingPercentEncoding string = some string := by
  have hbytes : (string.flatMap String.utf8EncodeChar).toByteArray = string.utf8Encode := rfl
  simp [stringByRemovingPercentEncoding, percentDecodeBytes_of_not_mem h, hbytes,
    List.utf8Decode?_utf8Encode]

/-! ### URL-safe base64 -/

@[simp] theorem toSafeBase64_append (string string' : List Char) :
    toSafeBase64 (string ++ string') = toSafeBase64 string ++ toSafeBase64 string' := by
  simp [toSafeBase64]

@[simp] theorem fromSafeBase64_append (string string' : List Char) :
    fromSafeBase64 (string ++ string') = fromSafeBase64 string ++ fromSafeBase64 string' := by
  simp [fromSafeBase64]

/-- On each character of the base64 alphabet the two replacements undo each
other, and what the encoder writes is neither padding nor `%` and needs no
escaping in the token's character set. -/
theorem alphabet_toSafeBase64 : ∀ c ∈ Base64.alphabet,
    fromSafeBase64 (toSafeBase64 [c]) = [c] ∧
      ∀ d ∈ toSafeBase64 [c], d ≠ '=' ∧ d ≠ '%' ∧
        removeCharactersInString URLQueryAllowedCharacterSet ['/', '=', '&', '+'] d = true := by
  -- checked as a Boolean: with all of Mathlib, a quantifier bounded by a list of characters
  -- would be decided through `Fintype Char`, by enumerating every character
  have hcheck : (Base64.alphabet.all fun c => fromSafeBase64 (toSafeBase64 [c]) == [c] &&
      (toSafeBase64 [c]).all fun d => d != '=' && d != '%' &&
        removeCharactersInString URLQueryAllowedCharacterSet ['/', '=', '&', '+'] d) = true := by
    decide
  intro c hc
  simp only [List.all_eq_true, Bool.and_eq_true, beq_iff_eq, bne_iff_ne, ne_eq] at hcheck
  obtain ⟨hround, hchars⟩ := hcheck c hc
  refine ⟨hround, fun d hd => ?_⟩
  obtain ⟨⟨hpad, hpercent⟩, hallowed⟩ := hchars d hd
  exact ⟨hpad, hpercent, hallowed⟩

theorem fromSafeBase64_toSafeBase64 {body : List Char}
    (hbody : ∀ c ∈ body, c ∈ Base64.alphabet) : fromSafeBase64 (toSafeBase64 body) = body := by
  induction body with
  | nil => rfl
  | cons c rest ih =>
    rw [← List.singleton_append, toSafeBase64_append, fromSafeBase64_append,
      (alphabet_toSafeBase64 c (hbody c List.mem_cons_self)).1,
      ih (fun d hd => hbody d (List.mem_cons_of_mem c hd))]

theorem mem_toSafeBase64 {body : List Char} (hbody : ∀ c ∈ body, c ∈ Base64.alphabet)
    {d : Char} (hd : d ∈ toSafeBase64 body) :
    d ≠ '=' ∧ d ≠ '%' ∧
      removeCharactersInString URLQueryAllowedCharacterSet ['/', '=', '&', '+'] d = true := by
  induction body with
  | nil => simp [toSafeBase64, stringByReplacingOccurrencesOfString] at hd
  | cons c rest ih =>
    rw [← List.singleton_append, toSafeBase64_append] at hd
    rcases List.mem_append.mp hd with hd | hd
    · exact (alphabet_toSafeBase64 c (hbody c List.mem_cons_self)).2 d hd
    · exact ih (fun e he => hbody e (List.mem_cons_of_mem c he)) hd

theorem URLSafeBase64WithoutPaddingEncodeData_of_encode {data : List UInt8} {body : List Char}
    (hencode : Base64.encode data = body ++ ['='])
    (hbody : ∀ c ∈ body, c ∈ Base64.alphabet) :
    URLSafeBase64WithoutPaddingEncodeData (some data) = .ok (some (toSafeBase64 body)) := by
  have hpad : '=' ∉ toSafeBase64 body := fun hmem => (mem_toSafeBase64 hbody hmem).1 rfl
  have hsafe : toSafeBase64 (body ++ ['=']) = toSafeBase64 body ++ ['='] := by
    rw [toSafeBase64_append]
    rfl
  -- the one `=` is the last character, and removing it leaves none
  have hstrip : stringByReplacingOccurrencesOfString (toSafeBase64 body ++ ['=']) '=' [] =
      toSafeBase64 body := by
    rw [stringByReplacingOccurrencesOfString_append,
      stringByReplacingOccurrencesOfString_of_not_mem hpad]
    simp [stringByReplacingOccurrencesOfString]
  simp [URLSafeBase64WithoutPaddingEncodeData, hencode, hsafe, lastCharacter_append_singleton,
    hstrip, hpad, requireString, bind, Except.bind, pure, Except.pure]

theorem URLSafeBase64WithoutPaddingDecodeString_toSafeBase64 {body : List Char}
    (hne : body ≠ []) (hbody : ∀ c ∈ body, c ∈ Base64.alphabet) :
    URLSafeBase64WithoutPaddingDecodeString (some (toSafeBase64 body)) =
      .ok (Base64.decode (body ++ ['='])) := by
  have hsafe : toSafeBase64 body ≠ [] := fun hnil =>
    hne (by rw [← fromSafeBase64_toSafeBase64 hbody, hnil]; rfl)
  have hlast : (toSafeBase64 body).getLast hsafe ≠ '=' :=
    (mem_toSafeBase64 hbody (List.getLast_mem hsafe)).1
  have hfrom : fromSafeBase64 (toSafeBase64 body ++ ['=']) = body ++ ['='] := by
    rw [fromSafeBase64_append, fromSafeBase64_toSafeBase64 hbody]
    rfl
  simp [URLSafeBase64WithoutPaddingDecodeString, lastCharacter_of_ne_nil hsafe, hlast, hfrom,
    bind, Except.bind, pure, Except.pure]

/-- The URL-safe helpers invert each other on data of length `2 mod 3`, and the
token has no `%` and nothing the URL would escape. -/
theorem URLSafeBase64_round_trip {data : List UInt8} (h : data.length % 3 = 2) :
    ∃ token, URLSafeBase64WithoutPaddingEncodeData (some data) = .ok (some token) ∧
      URLSafeBase64WithoutPaddingDecodeString (some token) = .ok (some data) ∧
      ∀ d ∈ token, d ≠ '%' ∧
        removeCharactersInString URLQueryAllowedCharacterSet ['/', '=', '&', '+'] d = true := by
  obtain ⟨body, hencode, hne, hbody⟩ := Base64.encode_of_length_mod_three_eq_two h
  refine ⟨toSafeBase64 body, URLSafeBase64WithoutPaddingEncodeData_of_encode hencode hbody, ?_,
    fun d hd => (mem_toSafeBase64 hbody hd).2⟩
  rw [URLSafeBase64WithoutPaddingDecodeString_toSafeBase64 hne hbody, ← hencode,
    Base64.decode_encode]

/-! ### Encrypting and decrypting -/

theorem length_initialData (random : List.Vector UInt8 RANDOM_DATA_SIZE) (hours : UInt16)
    (uuid : NSUUID) :
    (random.toList ++ bigEndianBytes hours ++ uuid.data.toList).length = BUFFER_SIZE := by
  have hrandom : random.toList.length = 14 := random.toList_length
  have huuid : uuid.data.toList.length = 16 := uuid.data.toList_length
  simp only [List.length_append, hrandom, huuid, bigEndianBytes, List.length_cons,
    List.length_nil]
  rfl

theorem encodedDataWithKey_of_inverts {cipher : BlockCipher} (hcipher : cipher.Inverts)
    (random : List.Vector UInt8 RANDOM_DATA_SIZE) (uuid : NSUUID) (date : ℚ)
    {encryptionKey : List UInt8} (hkey : encryptionKey.length = kCCKeySizeAES256) :
    ∃ encryptedData,
      encodedDataWithKey cipher random (some uuid) date encryptionKey = .ok (some encryptedData) ∧
      encryptedData.length = BUFFER_SIZE ∧
      (cipher.decrypt encryptionKey encryptedData).map List.Vector.toList =
        some (random.toList ++ bigEndianBytes (hoursBetweenReferenceDateAndDate date) ++
          uuid.data.toList) := by
  obtain ⟨encryptedData, hencrypt, hlength, hdecrypt⟩ :=
    hcipher.decrypt_encrypt encryptionKey _ hkey (length_initialData random _ uuid)
  refine ⟨encryptedData, ?_, hlength, hdecrypt⟩
  simp only [encodedDataWithKey, requireString, hkey, hencrypt, bind, Except.bind, pure,
    Except.pure]
  rfl

theorem cryptInput_of_length {data : List UInt8} (h : data.length = BUFFER_SIZE)
    (memoryAfter : Nat → UInt8) : cryptInput data memoryAfter = data :=
  List.take_left' h

/-- `CCCrypt` reads `BUFFER_SIZE` bytes: a shorter buffer is read together with
the memory after it. -/
theorem cryptInput_of_length_le {data : List UInt8} (h : data.length ≤ BUFFER_SIZE)
    (memoryAfter : Nat → UInt8) :
    cryptInput data memoryAfter =
      data ++ (List.range (BUFFER_SIZE - data.length)).map memoryAfter := by
  rw [cryptInput, List.take_append, List.take_of_length_le h, ← List.map_take, List.take_range,
    Nat.min_eq_left (Nat.sub_le _ _)]

/-- Decrypting the layout of `encodedDataWithKey:` gives the UUID and the hours back. -/
theorem decryptedFields_of_toList {decryptedData : List.Vector UInt8 BUFFER_SIZE}
    {random : List.Vector UInt8 RANDOM_DATA_SIZE} {hours : UInt16} {uuid : NSUUID}
    (h : decryptedData.toList = random.toList ++ bigEndianBytes hours ++ uuid.data.toList) :
    decryptedFields (some decryptedData) = (some uuid, dateFromHoursSinceReferenceDate hours) := by
  have hrandom : random.toList.length = 14 := random.toList_length
  have hhigh : decryptedData.toList.getD RANDOM_DATA_SIZE 0 = UInt8.ofNat (hours.toNat / 256) := by
    rw [h, List.append_assoc, List.getD_eq_getElem?_getD,
      List.getElem?_append_right (by rw [hrandom]; rfl), hrandom]
    rfl
  have hlow : decryptedData.toList.getD (RANDOM_DATA_SIZE + 1) 0 =
      UInt8.ofNat (hours.toNat % 256) := by
    rw [h, List.append_assoc, List.getD_eq_getElem?_getD,
      List.getElem?_append_right (by rw [hrandom]; decide), hrandom]
    rfl
  have hdrop : decryptedData.toList.drop (RANDOM_DATA_SIZE + TIME_DATA_SIZE) =
      uuid.data.toList := by
    rw [h, List.append_assoc, List.drop_append, List.drop_of_length_le (by rw [hrandom]; decide),
      List.nil_append, hrandom]
    rfl
  simp only [decryptedFields, hhigh, hlow, ofBigEndianBytes_bigEndianBytes]
  -- what is left is the UUID's bytes, `hdrop`
  congr

theorem initWithEncodedData_of_key {encryptionKey : List UInt8}
    (hkey : encryptionKey.length = kCCKeySizeAES256) (cipher : BlockCipher)
    (memoryAfter : Nat → UInt8) (data : List UInt8) :
    initWithEncodedData cipher memoryAfter data encryptionKey =
      .ok ⟨(decryptedFields (cipher.decrypt encryptionKey (cryptInput data memoryAfter))).1,
        (decryptedFields (cipher.decrypt encryptionKey (cryptInput data memoryAfter))).2,
        some data⟩ := by
  simp [initWithEncodedData, decodeDataWithKey, requireString, hkey, bind, Except.bind, pure,
    Except.pure, BUFFER_SIZE, RANDOM_DATA_SIZE, TIME_DATA_SIZE, UUID_DATA_SIZE, kCCBlockSizeAES128]

/-- A token that decodes is accepted whatever the length of what it decodes
to: the object keeps that data and what was decrypted from it. -/
theorem initWithSafeBase64EncodedToken_of_decode {token : List Char} {data : List UInt8}
    (hpercent : '%' ∉ token)
    (hdecode : URLSafeBase64WithoutPaddingDecodeString (some token) = .ok (some data))
    {encryptionKey : List UInt8} (hkey : encryptionKey.length = kCCKeySizeAES256)
    (cipher : BlockCipher) (memoryAfter : Nat → UInt8) :
    initWithSafeBase64EncodedToken cipher memoryAfter (some token) encryptionKey =
      .ok (some ⟨(decryptedFields (cipher.decrypt encryptionKey (cryptInput data memoryAfter))).1,
        (decryptedFields (cipher.decrypt encryptionKey (cryptInput data memoryAfter))).2,
        some data⟩) := by
  simp [initWithSafeBase64EncodedToken, stringByRemovingPercentEncoding_of_not_mem hpercent,
    hdecode, initWithEncodedData_of_key hkey, bind, Except.bind]

theorem URLWithEncodedUUIDWithTimestampPrefixedWithString_of_encode
    {self : ZMEncodedNSUUIDWithTimestamp} {token : List Char}
    (htoken : URLSafeBase64WithoutPaddingEncodeData self.encodedData = .ok (some token))
    (hallowed : ∀ d ∈ token,
      removeCharactersInString URLQueryAllowedCharacterSet ['/', '=', '&', '+'] d = true)
    (prefixString : List Char) :
    self.URLWithEncodedUUIDWithTimestampPrefixedWithString prefixString =
      .ok (prefixString ++ token) := by
  simp [ZMEncodedNSUUIDWithTimestamp.URLWithEncodedUUIDWithTimestampPrefixedWithString, htoken,
    stringByAddingPercentEncodingWithAllowedCharacters_of_forall hallowed, bind, Except.bind,
    pure, Except.pure]

/-! ### Tokens -/

/-- A cipher that leaves its input as it is; it inverts itself. -/
def identityCipher : BlockCipher where
  encrypt _ data := some data
  decrypt _ data := if h : data.length = BUFFER_SIZE then some ⟨data, h⟩ else none

theorem identityCipher_inverts : identityCipher.Inverts where
  decrypt_encrypt _ data _ hdata := ⟨data, rfl, hdata, by
    simp only [identityCipher, dif_pos hdata]
    rfl⟩

/-- The empty token raises `NSRangeException`, and `AAA`, which decodes to two
bytes, is accepted: it is decrypted from those two bytes and the thirty that
follow them in memory. -/
theorem initWithSafeBase64EncodedToken_malformed_tokens (cipher : BlockCipher)
    (memoryAfter : Nat → UInt8) :
    initWithSafeBase64EncodedToken cipher memoryAfter (some []) invitationToConnectEncryptionKey =
        .error .rangeException ∧
      ∃ decoded, initWithSafeBase64EncodedToken cipher memoryAfter (some ['A', 'A', 'A'])
          invitationToConnectEncryptionKey = .ok (some decoded) ∧
        decoded.encodedData = some [0, 0] ∧
        (decoded.uuid, decoded.timestampDate) = decryptedFields
          (cipher.decrypt invitationToConnectEncryptionKey ([0, 0] ++ (List.range 30).map memoryAfter)) := by
  constructor
  · -- the empty string has no escapes, and its last character is past its end
    simp [initWithSafeBase64EncodedToken,
      stringByRemovingPercentEncoding_of_not_mem List.not_mem_nil,
      URLSafeBase64WithoutPaddingDecodeString, lastCharacter, bind, Except.bind, throw, throwThe,
      MonadExceptOf.throw]
  · have hdecode : URLSafeBase64WithoutPaddingDecodeString (some ['A', 'A', 'A']) =
        .ok (some [0, 0]) := rfl
    refine ⟨_, initWithSafeBase64EncodedToken_of_decode (by decide) hdecode rfl cipher memoryAfter,
      rfl, ?_⟩
    rw [cryptInput_of_length_le (by decide)]
    rfl

end ZMessaging.EncodedUUID
