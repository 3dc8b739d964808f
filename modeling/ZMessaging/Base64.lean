import Mathlib.Data.List.Basic

/-!
# Base64 (RFC 4648 §4)

The base64 encoding with padding, on byte lists, and the strict decoding that
rejects anything the encoding cannot produce except non-zero padding bits:
a length that is not a multiple of four, a character outside the alphabet,
padding anywhere but in the last two places of the last group.

The results used downstream:

* `decodeSextet_encodeSextet`: the alphabet is decoded back to its index;
* `decode_encode`: decoding an encoding gives the bytes back;
* `encode_of_length_mod_three_eq_two`: a byte list of length `2 mod 3` is
  encoded as characters of `alphabet` followed by exactly one `=`.
-/

namespace Base64

/-- The character of a six-bit value: `A`–`Z`, `a`–`z`, `0`–`9`, `+`, `/`. -/
def encodeSextet (n : Nat) : Char :=
  if n < 26 then Char.ofNat (65 + n)
  else if n < 52 then Char.ofNat (71 + n)
  else if n < 62 then Char.ofNat (n - 4)
  else if n = 62 then '+'
  else '/'

/-- The six-bit value of an alphabet character. -/
def decodeSextet (c : Char) : Option Nat :=
  if 65 ≤ c.toNat ∧ c.toNat ≤ 90 then some (c.toNat - 65)
  else if 97 ≤ c.toNat ∧ c.toNat ≤ 122 then some (c.toNat - 71)
  else if 48 ≤ c.toNat ∧ c.toNat ≤ 57 then some (c.toNat + 4)
  else if c = '+' then some 62
  else if c = '/' then some 63
  else none

/-- The four characters of a 24-bit group. -/
def encodeGroup (n : Nat) : List Char :=
  [encodeSextet (n / 262144), encodeSextet (n / 4096 % 64), encodeSextet (n / 64 % 64),
    encodeSextet (n % 64)]

/-- Base64 with `=` padding: three bytes to four characters. -/
def encode : List UInt8 → List Char
  | b₀ :: b₁ :: b₂ :: rest =>
    encodeGroup (b₀.toNat * 65536 + b₁.toNat * 256 + b₂.toNat) ++ encode rest
  | [b₀, b₁] => (encodeGroup (b₀.toNat * 65536 + b₁.toNat * 256)).take 3 ++ ['=']
  | [b₀] => (encodeGroup (b₀.toNat * 65536)).take 2 ++ ['=', '=']
  | [] => []

/-- Base64 decoding: four characters to three bytes, the last group padded
with one `=` (two bytes) or two (one byte). -/
def decode : List Char → Option (List UInt8)
  | [] => some []
  | c₀ :: c₁ :: c₂ :: c₃ :: rest => do
    let v₀ ← decodeSextet c₀
    let v₁ ← decodeSextet c₁
    if rest = [] ∧ c₂ = '=' ∧ c₃ = '=' then
      some [UInt8.ofNat ((v₀ * 262144 + v₁ * 4096) / 65536)]
    else
      let v₂ ← decodeSextet c₂
      if rest = [] ∧ c₃ = '=' then
        let n := v₀ * 262144 + v₁ * 4096 + v₂ * 64
        some [UInt8.ofNat (n / 65536), UInt8.ofNat (n / 256 % 256)]
      else
        let v₃ ← decodeSextet c₃
        let n := v₀ * 262144 + v₁ * 4096 + v₂ * 64 + v₃
        let tail ← decode rest
        some ([UInt8.ofNat (n / 65536), UInt8.ofNat (n / 256 % 256), UInt8.ofNat (n % 256)] ++
          tail)
  | _ => none

/-! ### The alphabet -/

/-- The sixty-four characters of the encoding, in the order of their values. -/
def alphabet : List Char := (List.range 64).map encodeSextet

theorem decodeSextet_encodeSextet : ∀ n, n < 64 → decodeSextet (encodeSextet n) = some n := by
  decide

/-- Past 62 every value is written `/`: the last branch of `encodeSextet`. -/
theorem encodeSextet_of_le {n : Nat} (hn : 63 ≤ n) : encodeSextet n = '/' := by
  unfold encodeSextet
  rw [if_neg (by omega), if_neg (by omega), if_neg (by omega), if_neg (by omega)]

theorem encodeSextet_mem_alphabet (n : Nat) : encodeSextet n ∈ alphabet := by
  by_cases hn : n < 64
  · exact List.mem_map.mpr ⟨n, List.mem_range.mpr hn, rfl⟩
  · rw [encodeSextet_of_le (by omega)]
    decide

theorem pad_not_mem_alphabet : '=' ∉ alphabet := by
  decide

theorem encodeSextet_ne_pad (n : Nat) : encodeSextet n ≠ '=' := fun h =>
  pad_not_mem_alphabet (h ▸ encodeSextet_mem_alphabet n)

theorem encodeGroup_mem_alphabet {n : Nat} {c : Char} (hc : c ∈ encodeGroup n) :
    c ∈ alphabet := by
  simp only [encodeGroup, List.mem_cons, List.not_mem_nil, or_false] at hc
  rcases hc with rfl | rfl | rfl | rfl <;> exact encodeSextet_mem_alphabet _

/-! ### Decoding an encoding -/

theorem ofNat_eq_of_eq_toNat {b : UInt8} {m : Nat} (h : m = b.toNat) : UInt8.ofNat m = b := by
  rw [h, UInt8.ofNat_toNat]

/-- A 24-bit value is decoded from its group back to its three bytes. -/
theorem decode_encodeGroup_of_lt {n : Nat} (hn : n < 16777216) (rest : List Char) :
    decode (encodeGroup n ++ rest) =
      (fun tail => [UInt8.ofNat (n / 65536), UInt8.ofNat (n / 256 % 256),
        UInt8.ofNat (n % 256)] ++ tail) <$> decode rest := by
  -- the four sextets put together give `n` back
  have hsum : n / 262144 * 262144 + n / 4096 % 64 * 4096 + n / 64 % 64 * 64 + n % 64 = n := by
    omega
  simp only [encodeGroup, List.cons_append, List.nil_append, decode,
    decodeSextet_encodeSextet _ (show n / 262144 < 64 by omega),
    decodeSextet_encodeSextet _ (show n / 4096 % 64 < 64 by omega),
    decodeSextet_encodeSextet _ (show n / 64 % 64 < 64 by omega),
    decodeSextet_encodeSextet _ (show n % 64 < 64 by omega), encodeSextet_ne_pad _, and_false,
    if_false, Option.bind_eq_bind, Option.bind_some, hsum]
  cases decode rest <;> rfl

/-- A group whose last byte is absent: three sextets and one `=`. -/
theorem decode_encodeGroup_take_three {n : Nat} (hn : n < 16777216) (hmod : n % 256 = 0) :
    decode ((encodeGroup n).take 3 ++ ['=']) =
      some [UInt8.ofNat (n / 65536), UInt8.ofNat (n / 256 % 256)] := by
  have hsum : n / 262144 * 262144 + n / 4096 % 64 * 4096 + n / 64 % 64 * 64 = n := by omega
  simp only [encodeGroup, List.take, List.cons_append, List.nil_append, decode,
    decodeSextet_encodeSextet _ (show n / 262144 < 64 by omega),
    decodeSextet_encodeSextet _ (show n / 4096 % 64 < 64 by omega),
    decodeSextet_encodeSextet _ (show n / 64 % 64 < 64 by omega), encodeSextet_ne_pad _,
    false_and, and_false, if_false, true_and, if_true, Option.bind_eq_bind, Option.bind_some, hsum]

/-- A group of a single byte: two sextets and two `=`. -/
theorem decode_encodeGroup_take_two {n : Nat} (hn : n < 16777216) (hmod : n % 65536 = 0) :
    decode ((encodeGroup n).take 2 ++ ['=', '=']) = some [UInt8.ofNat (n / 65536)] := by
  have hsum : n / 262144 * 262144 + n / 4096 % 64 * 4096 = n := by omega
  simp only [encodeGroup, List.take, List.cons_append, List.nil_append, decode,
    decodeSextet_encodeSextet _ (show n / 262144 < 64 by omega),
    decodeSextet_encodeSextet _ (show n / 4096 % 64 < 64 by omega), and_self, if_true,
    Option.bind_eq_bind, Option.bind_some, hsum]

/-- **Round trip**: decoding the encoding of any bytes gives them back. -/
theorem decode_encode (bytes : List UInt8) : decode (encode bytes) = some bytes := by
  induction bytes using encode.induct with
  | case1 b₀ b₁ b₂ rest ih =>
    have h₀ := b₀.toNat_lt
    have h₁ := b₁.toNat_lt
    have h₂ := b₂.toNat_lt
    rw [encode, decode_encodeGroup_of_lt (by omega), ih,
      ofNat_eq_of_eq_toNat (show (b₀.toNat * 65536 + b₁.toNat * 256 + b₂.toNat) / 65536 =
        b₀.toNat by omega),
      ofNat_eq_of_eq_toNat (show (b₀.toNat * 65536 + b₁.toNat * 256 + b₂.toNat) / 256 % 256 =
        b₁.toNat by omega),
      ofNat_eq_of_eq_toNat (show (b₀.toNat * 65536 + b₁.toNat * 256 + b₂.toNat) % 256 =
        b₂.toNat by omega)]
    rfl
  | case2 b₀ b₁ =>
    have h₀ := b₀.toNat_lt
    have h₁ := b₁.toNat_lt
    rw [encode, decode_encodeGroup_take_three (by omega) (by omega),
      ofNat_eq_of_eq_toNat (show (b₀.toNat * 65536 + b₁.toNat * 256) / 65536 = b₀.toNat by omega),
      ofNat_eq_of_eq_toNat (show (b₀.toNat * 65536 + b₁.toNat * 256) / 256 % 256 = b₁.toNat by
        omega)]
  | case3 b₀ =>
    have h₀ := b₀.toNat_lt
    rw [encode, decode_encodeGroup_take_two (by omega) (by omega),
      ofNat_eq_of_eq_toNat (show b₀.toNat * 65536 / 65536 = b₀.toNat by omega)]
  | case4 => rfl

/-- A byte list of length `2 mod 3` is encoded as alphabet characters followed
by exactly one `=`. -/
theorem encode_of_length_mod_three_eq_two {bytes : List UInt8} (h : bytes.length % 3 = 2) :
    ∃ body, encode bytes = body ++ ['='] ∧ body ≠ [] ∧ ∀ c ∈ body, c ∈ alphabet := by
  induction bytes using encode.induct with
  | case1 b₀ b₁ b₂ rest ih =>
    obtain ⟨body, hbody, -, halphabet⟩ := ih (by simp at h; omega)
    refine ⟨encodeGroup (b₀.toNat * 65536 + b₁.toNat * 256 + b₂.toNat) ++ body, ?_, ?_, ?_⟩
    · rw [encode, hbody, List.append_assoc]
    · simp [encodeGroup]
    · intro c hc
      rcases List.mem_append.mp hc with hc | hc
      · exact encodeGroup_mem_alphabet hc
      · exact halphabet c hc
  | case2 b₀ b₁ =>
    refine ⟨(encodeGroup (b₀.toNat * 65536 + b₁.toNat * 256)).take 3, rfl, ?_, ?_⟩
    · simp [encodeGroup]
    · exact fun c hc => encodeGroup_mem_alphabet (List.mem_of_mem_take hc)
  | case3 b₀ => simp at h
  | case4 => simp at h

end Base64
