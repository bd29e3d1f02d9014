import CashMesh.Acquirer.StellarDestination
import CashMesh.Lib.CyclicRedundancy
import CashMesh.Lib.SignedWords
/-!
# Canonical destinations

The check of `StellarDestination` with the operators it is written in, which work on signed words of 32
bits. The buffer of the decoder keeps only the bits that wait and the register of the checksum is cut to
its width, so no operator loses a bit and the check is the one on natural numbers. What it accepts is
told here without reference to the loops: the base-32 text of a version, a key and the remainder of
both, in the one spelling that an encoder gives it.
-/

namespace CashMesh.Acquirer

open CashMesh.Lib

/-! ### The check on signed words -/

namespace Signed

/-- `output`, `buffer` and `bufferedBits` of `decodeBase32`. -/
structure Buffered where
  output : List Int
  buffer : Int
  bufferedBits : Nat

def Buffered.start : Buffered :=
  ⟨[], 0, 0⟩

def decodeBase32Character (state : Buffered) (character : Char) : Option Buffered := do
  let digit ← base32Alphabet.idxOf? character
  let buffer := SignedWord.or (SignedWord.shiftLeft state.buffer 5) digit
  let bufferedBits := state.bufferedBits + 5
  if 8 ≤ bufferedBits then
    return ⟨state.output ++ [SignedWord.and (SignedWord.shiftRight buffer (bufferedBits - 8)) 0xff],
      SignedWord.and buffer (SignedWord.shiftLeft 1 (bufferedBits - 8) - 1), bufferedBits - 8⟩
  else
    return ⟨state.output, buffer, bufferedBits⟩

def decodeBase32 (value : List Char) : Option (List Int) := do
  let state ← value.foldlM decodeBase32Character .start
  if state.buffer ≠ 0 then none else return state.output

def crcBit (checksum : Int) : Int :=
  if SignedWord.and checksum 0x8000 ≠ 0 then
    SignedWord.and (SignedWord.xor (SignedWord.shiftLeft checksum 1) 0x1021) 0xffff
  else SignedWord.and (SignedWord.shiftLeft checksum 1) 0xffff

def crc16Xmodem (value : List Int) : Int :=
  value.foldl (fun checksum byte =>
    Nat.repeat crcBit 8 (SignedWord.xor checksum (SignedWord.shiftLeft byte 8))) 0

/-- `decoded` has the version and the checksum of a key of the length. -/
def IsStellarKey (decoded : List Int) (expectedLength expectedVersion : Nat) : Prop :=
  decoded.length = expectedLength ∧ decoded.head? = some (expectedVersion : Int) ∧
    decoded[decoded.length - 2]? =
      some (SignedWord.and (crc16Xmodem (decoded.take (decoded.length - 2))) 0xff) ∧
    decoded[decoded.length - 1]? =
      some (SignedWord.shiftRight (crc16Xmodem (decoded.take (decoded.length - 2))) 8)

instance (decoded : List Int) (expectedLength expectedVersion : Nat) :
    Decidable (IsStellarKey decoded expectedLength expectedVersion) :=
  inferInstanceAs (Decidable (_ ∧ _))

def isValidStellarDestination (value : String) : Bool :=
  stellarAddressPattern value.toList &&
    match decodeBase32 value.toList with
    | none => false
    | some decoded =>
        if value.toList.head? = some 'M' then
          decide (IsStellarKey decoded stellarMuxedAccountBytes stellarMuxedAccountVersion)
        else
          decide (IsStellarKey decoded stellarAccountIdBytes stellarAccountIdVersion)

end Signed

/-! ### What is canonical -/

def base32Character (digit : Nat) : Char :=
  base32Alphabet.getD digit 'A'

/-- The characters of bytes in base 32: as many as are needed, the last one filled up with zero bits. -/
def encodeBase32 (bytes : List Nat) : List Char :=
  let count := (8 * bytes.length + 4) / 5
  (writtenDigits (2 ^ 5) count (numeral (2 ^ 8) bytes * 2 ^ (5 * count - 8 * bytes.length))).map
    base32Character

/-- CRC-16/XMODEM, the low byte first: the remainder of the bytes by `X ^ 16 + X ^ 12 + X ^ 5 + 1`. -/
def IsXmodemChecksum (bytes : List Nat) (low high : Nat) : Prop :=
  low < 2 ^ 8 ∧ high < 2 ^ 8 ∧
    Crc.polynomial (high * 2 ^ 8 + low) = Crc.check 16 0x1021 (Crc.message 8 bytes)

/-- The canonical text of a version, a key of some bytes and their checksum. -/
def IsCanonicalStrkey (version keyLength : Nat) (text : List Char) : Prop :=
  ∃ key low high, key.length = keyLength ∧ (∀ byte ∈ key, byte < 2 ^ 8) ∧
    IsXmodemChecksum (version :: key) low high ∧
    text = encodeBase32 (version :: key ++ [low, high])

/-- The accumulator of `decodeBase32` can take the next digit without a bit reaching the sign. -/
structure ExactAccumulator (state : Signed.Buffered) : Prop where
  nonneg : 0 ≤ state.buffer
  buffer_lt : state.buffer < 2 ^ state.bufferedBits
  bits_lt : state.bufferedBits < 8
  shift_exact : ∀ digit : Nat, digit < 2 ^ 5 →
    SignedWord.or (SignedWord.shiftLeft state.buffer 5) digit = state.buffer * 2 ^ 5 + digit ∧
      state.buffer * 2 ^ 5 + digit < 2 ^ 31

/-! ### The loops on words -/

/-- The state on words that stands for one on natural numbers. -/
def Signed.Buffered.ofRegrouping (state : Regrouping) : Signed.Buffered :=
  ⟨state.output.map Nat.cast, state.buffer, state.bits⟩

/-- The bits that wait are fewer than a byte. -/
structure Waiting (state : Regrouping) : Prop where
  buffer_lt : state.buffer < 2 ^ state.bits
  bits_lt : state.bits < 8

theorem Waiting.buffer_small {state : Regrouping} (h : Waiting state) : state.buffer < 2 ^ 7 := by
  have hbits := h.bits_lt
  exact Nat.lt_of_lt_of_le h.buffer_lt (Nat.pow_le_pow_right (by omega) (by omega))

/-- The buffer takes a digit as an exact word. -/
theorem Waiting.push_digit {state : Regrouping} (h : Waiting state) {digit : Nat}
    (hdigit : digit < 2 ^ 5) :
    SignedWord.or (SignedWord.shiftLeft state.buffer 5) digit =
        (state.buffer <<< 5 ||| digit : Nat) ∧
      state.buffer <<< 5 ||| digit = state.buffer * 2 ^ 5 + digit ∧
      state.buffer * 2 ^ 5 + digit < 2 ^ 12 := by
  have hsmall := h.buffer_small
  have hshift : state.buffer <<< 5 = state.buffer * 2 ^ 5 := Nat.shiftLeft_eq _ _
  have hexact : SignedWord.Exact (state.buffer <<< 5) := by
    rw [hshift]
    show _ < 2 ^ 31
    omega
  refine ⟨?_, ?_, by omega⟩
  · rw [SignedWord.shiftLeft_natCast (by omega) hexact]
    apply SignedWord.or_natCast hexact
    show _ < 2 ^ 31
    omega
  · rw [← Nat.shiftLeft_add_eq_or_of_lt hdigit, hshift]

theorem waiting_of_foldlM {read : List Char} {state : Regrouping}
    (h : read.foldlM decodeBase32Character .start = some state) : Waiting state := by
  obtain ⟨digits, hdigits⟩ := digits_of_foldlM h
  rw [foldlM_decode_of_digits hdigits] at h
  have hreads := Regrouping.reads_foldl (a := 5) (b := 8) (by omega) (by omega) hdigits.lt
  rw [Option.some.inj h] at hreads
  exact ⟨hreads.buffer_lt, hreads.bits_lt⟩

theorem signed_decodeBase32Character {state : Regrouping} (h : Waiting state) (character : Char) :
    Signed.decodeBase32Character (.ofRegrouping state) character =
      (decodeBase32Character state character).map .ofRegrouping := by
  cases hindex : base32Alphabet.idxOf? character with
  | none => simp [Signed.decodeBase32Character, decodeBase32Character, hindex]
  | some digit =>
      have hdigit := digit_lt (idxOf_base32.mp hindex)
      obtain ⟨hword, hsum, hlt⟩ := h.push_digit hdigit
      rw [← hsum] at hlt
      have hbits := h.bits_lt
      simp only [Signed.decodeBase32Character, decodeBase32Character, hindex, Option.bind_eq_bind,
        Option.bind_some, Signed.Buffered.ofRegrouping, hword]
      generalize state.buffer <<< 5 ||| digit = buffer at hlt
      have hbuffer : SignedWord.Exact buffer := by
        show _ < 2 ^ 31
        omega
      by_cases hfull : 8 ≤ state.bits + 5
      · have hcount : state.bits + 5 - 8 < 32 := by omega
        have hmask : SignedWord.Exact (1 <<< (state.bits + 5 - 8)) := by
          rw [Nat.one_shiftLeft]
          exact Nat.pow_lt_pow_right (by omega) (by omega)
        have hone : SignedWord.shiftLeft 1 (state.bits + 5 - 8) - (1 : Int) =
            ((1 <<< (state.bits + 5 - 8) - 1 : Nat) : Int) := by
          have hcast := SignedWord.shiftLeft_natCast hcount hmask
          have hpositive : 1 ≤ 1 <<< (state.bits + 5 - 8) := by
            rw [Nat.one_shiftLeft]
            exact Nat.two_pow_pos _
          rw [Nat.cast_one] at hcast
          rw [hcast, Nat.cast_sub hpositive, Nat.cast_one]
        have hshifted : SignedWord.Exact (buffer >>> (state.bits + 5 - 8)) :=
          Nat.lt_of_le_of_lt (Nat.shiftRight_le _ _) hbuffer
        have hbyte := SignedWord.and_natCast hshifted (show SignedWord.Exact 0xff by decide)
        have hrest := SignedWord.and_natCast (m := 1 <<< (state.bits + 5 - 8) - 1) hbuffer
          (Nat.lt_of_le_of_lt (Nat.sub_le _ _) hmask)
        rw [← SignedWord.shiftRight_natCast hcount hbuffer] at hbyte
        rw [Nat.cast_ofNat] at hbyte
        rw [if_pos hfull, if_pos hfull, hone, hrest, hbyte]
        show _ = some (Signed.Buffered.mk ((state.output ++ [_]).map Nat.cast) _ _)
        rw [List.map_append]
        rfl
      · rw [if_neg hfull, if_neg hfull]
        rfl

theorem signed_foldlM {text read : List Char} {state : Regrouping}
    (h : read.foldlM decodeBase32Character .start = some state) :
    text.foldlM Signed.decodeBase32Character (.ofRegrouping state) =
      (text.foldlM decodeBase32Character state).map .ofRegrouping := by
  induction text generalizing read state with
  | nil => rfl
  | cons c text ih =>
      rw [List.foldlM_cons, List.foldlM_cons, signed_decodeBase32Character (waiting_of_foldlM h)]
      cases hturn : decodeBase32Character state c with
      | none => rfl
      | some next =>
          have hread : (read ++ [c]).foldlM decodeBase32Character .start = some next := by
            rw [List.foldlM_append, h]
            simp [hturn]
          exact ih hread

theorem signed_foldlM_start (text : List Char) :
    text.foldlM Signed.decodeBase32Character .start =
      (text.foldlM decodeBase32Character .start).map .ofRegrouping :=
  @signed_foldlM text [] _ rfl

/-- At every place of every text the accumulator is exact. -/
theorem exactAccumulator_of_foldlM {read : List Char} {state : Signed.Buffered}
    (h : read.foldlM Signed.decodeBase32Character .start = some state) : ExactAccumulator state := by
  rw [signed_foldlM_start, Option.map_eq_some_iff] at h
  obtain ⟨plain, hplain, rfl⟩ := h
  have hwaiting := waiting_of_foldlM hplain
  have hbuffer := hwaiting.buffer_lt
  constructor
  case nonneg => exact Int.natCast_nonneg _
  case buffer_lt =>
    show (plain.buffer : Int) < 2 ^ plain.bits
    exact_mod_cast hbuffer
  case bits_lt => exact hwaiting.bits_lt
  case shift_exact =>
    intro digit hdigit
    obtain ⟨hword, hsum, hlt⟩ := hwaiting.push_digit hdigit
    rw [hsum] at hword
    constructor
    · exact_mod_cast hword
    · show (plain.buffer : Int) * 2 ^ 5 + digit < 2 ^ 31
      omega

theorem signed_decodeBase32 (text : List Char) :
    Signed.decodeBase32 text = (decodeBase32 text).map (List.map Nat.cast) := by
  rw [Signed.decodeBase32, decodeBase32, signed_foldlM_start]
  cases text.foldlM decodeBase32Character .start with
  | none => rfl
  | some state =>
      by_cases hbuffer : state.buffer = 0
      · simp [Signed.Buffered.ofRegrouping, hbuffer]
      · simp [Signed.Buffered.ofRegrouping, hbuffer]

/-! ### The checksum -/

theorem crcBit_eq_turn (checksum : Nat) : crcBit checksum = Crc.turn 16 0x1021 checksum := by
  have hbit : checksum &&& 0x8000 = (checksum.testBit 15).toNat * 2 ^ 15 := Nat.and_two_pow checksum 15
  have hcut : ∀ n, n &&& 0xffff = n % 2 ^ 16 := fun n => Nat.and_two_pow_sub_one_eq_mod n 16
  unfold crcBit Crc.turn
  rw [hbit, hcut, hcut]
  cases checksum.testBit 15 with
  | false => simp
  | true => simp

theorem crc16Xmodem_concat (value : List Nat) (byte : Nat) :
    crc16Xmodem (value ++ [byte]) = Nat.repeat crcBit 8 (crc16Xmodem value ^^^ byte <<< 8) := by
  rw [crc16Xmodem, List.foldl_append]
  rfl

/-- After any bytes the register holds their remainder. -/
theorem holds_crc16Xmodem (value : List Nat) (h : ∀ byte ∈ value, byte < 2 ^ 8) :
    Crc.Holds 16 0x1021 (Crc.message 8 value) (crc16Xmodem value) := by
  induction value using List.reverseRecOn with
  | nil => exact Crc.holds_zero
  | append_singleton value byte ih =>
      have hvalue := ih fun other hother => h other (List.mem_append_left _ hother)
      have hbyte : byte < 2 ^ 8 := h byte (List.mem_append_right _ List.mem_cons_self)
      rw [crc16Xmodem_concat, Crc.message_concat, funext crcBit_eq_turn]
      exact hvalue.word (by omega) (by omega) (by decide) hbyte

/-- The two bytes that the check compares are the checksum of the others, and no two other bytes are. -/
theorem isXmodemChecksum_iff {bytes : List Nat} (h : ∀ byte ∈ bytes, byte < 2 ^ 8) {low high : Nat} :
    IsXmodemChecksum bytes low high ↔
      low = crc16Xmodem bytes &&& 0xff ∧ high = crc16Xmodem bytes >>> 8 := by
  have hholds := holds_crc16Xmodem bytes h
  have hcheck := hholds.eq_check (by decide)
  have hlt := hholds.lt
  have hlow : crc16Xmodem bytes &&& 0xff = crc16Xmodem bytes % 2 ^ 8 :=
    Nat.and_two_pow_sub_one_eq_mod _ 8
  have hhigh : crc16Xmodem bytes >>> 8 = crc16Xmodem bytes / 2 ^ 8 := Nat.shiftRight_eq_div_pow _ 8
  rw [IsXmodemChecksum, ← hcheck, Crc.polynomial_inj, hlow, hhigh]
  omega

/-! ### The checksum on words -/

theorem signed_crcBit {checksum : Nat} (h : checksum < 2 ^ 16) :
    Signed.crcBit checksum = crcBit checksum := by
  have hshift : SignedWord.Exact (checksum <<< 1) := by
    rw [Nat.shiftLeft_eq]
    show _ < 2 ^ 31
    omega
  have hexact : SignedWord.Exact checksum := by
    show _ < 2 ^ 31
    omega
  have hxor : SignedWord.Exact (checksum <<< 1 ^^^ 0x1021) := Nat.xor_lt_two_pow hshift (by decide)
  have hword := SignedWord.shiftLeft_natCast (by omega) hshift
  have hbit := SignedWord.and_natCast hexact (show SignedWord.Exact 0x8000 by decide)
  have hmixed := SignedWord.xor_natCast hshift (show SignedWord.Exact 0x1021 by decide)
  have hset := SignedWord.and_natCast hxor (show SignedWord.Exact 0xffff by decide)
  have hclear := SignedWord.and_natCast hshift (show SignedWord.Exact 0xffff by decide)
  simp only [Nat.cast_ofNat] at hbit hmixed hset hclear
  unfold Signed.crcBit crcBit
  rw [hword, hbit, hmixed, hset, hclear]
  by_cases hzero : checksum &&& 0x8000 = 0
  · simp [hzero]
  · simp [hzero]

theorem signed_turns {checksum : Nat} (h : checksum < 2 ^ 16) (turns : Nat) :
    Nat.repeat Signed.crcBit turns (checksum : Int) = (Nat.repeat crcBit turns checksum : Nat) ∧
      Nat.repeat crcBit turns checksum < 2 ^ 16 := by
  induction turns with
  | zero => exact ⟨rfl, h⟩
  | succ turns ih =>
      obtain ⟨hsame, hlt⟩ := ih
      constructor
      · show Signed.crcBit (Nat.repeat Signed.crcBit turns (checksum : Int)) = _
        rw [hsame]
        exact signed_crcBit hlt
      · exact crcBit_lt _

theorem signed_crc16Xmodem_concat (value : List Int) (byte : Int) :
    Signed.crc16Xmodem (value ++ [byte]) = Nat.repeat Signed.crcBit 8
      (SignedWord.xor (Signed.crc16Xmodem value) (SignedWord.shiftLeft byte 8)) := by
  rw [Signed.crc16Xmodem, List.foldl_append]
  rfl

theorem signed_crc16Xmodem (value : List Nat) (h : ∀ byte ∈ value, byte < 2 ^ 8) :
    Signed.crc16Xmodem (value.map Nat.cast) = crc16Xmodem value ∧ crc16Xmodem value < 2 ^ 16 := by
  induction value using List.reverseRecOn with
  | nil => exact ⟨rfl, by decide⟩
  | append_singleton value byte ih =>
      obtain ⟨hsame, hlt⟩ := ih fun other hother => h other (List.mem_append_left _ hother)
      have hbyte : byte < 2 ^ 8 := h byte (List.mem_append_right _ List.mem_cons_self)
      have hshift : byte <<< 8 < 2 ^ 16 := by
        rw [Nat.shiftLeft_eq]
        omega
      have hmixed : crc16Xmodem value ^^^ byte <<< 8 < 2 ^ 16 := Nat.xor_lt_two_pow hlt hshift
      have hword : SignedWord.xor (crc16Xmodem value) (SignedWord.shiftLeft byte 8) =
          (crc16Xmodem value ^^^ byte <<< 8 : Nat) := by
        have hexact : ∀ n, n < 2 ^ 16 → SignedWord.Exact n := fun n hn =>
          Nat.lt_trans hn (by decide)
        rw [SignedWord.shiftLeft_natCast (by omega) (hexact _ hshift)]
        exact SignedWord.xor_natCast (hexact _ hlt) (hexact _ hshift)
      have hturns := signed_turns hmixed 8
      rw [List.map_append, List.map_singleton, signed_crc16Xmodem_concat, crc16Xmodem_concat, hsame, hword]
      exact hturns

theorem signed_isStellarKey {decoded : List Nat} (h : ∀ byte ∈ decoded, byte < 2 ^ 8)
    (length version : Nat) :
    Signed.IsStellarKey (decoded.map Nat.cast) length version ↔ IsStellarKey decoded length version := by
  obtain ⟨hcrc, hlt⟩ := signed_crc16Xmodem (decoded.take (decoded.length - 2))
    fun byte hmem => h byte (List.mem_of_mem_take hmem)
  have hexact : SignedWord.Exact (crc16Xmodem (decoded.take (decoded.length - 2))) :=
    Nat.lt_trans hlt (by decide)
  have hlow := SignedWord.and_natCast hexact (show SignedWord.Exact 0xff by decide)
  have hhigh := SignedWord.shiftRight_natCast (show 8 < 32 by omega) hexact
  have hcast : ∀ (found : Option Nat) (n : Nat),
      found.map (Nat.cast : Nat → Int) = some (n : Int) ↔ found = some n := by
    intro found n
    cases found with
    | none => simp
    | some other => simp
  rw [Nat.cast_ofNat] at hlow
  unfold Signed.IsStellarKey IsStellarKey
  rw [List.length_map, ← List.map_take, hcrc, hlow, hhigh, List.head?_map, List.getElem?_map,
    List.getElem?_map, hcast, hcast, hcast]

theorem signed_isValidStellarDestination (value : String) :
    Signed.isValidStellarDestination value = isValidStellarDestination value := by
  rw [Signed.isValidStellarDestination, isValidStellarDestination, signed_decodeBase32]
  cases hdecode : decodeBase32 value.toList with
  | none => rfl
  | some decoded =>
      obtain ⟨-, -, -, hbytes, -⟩ := decodeBase32_eq_some.mp hdecode
      simp only [Option.map_some, signed_isStellarKey hbytes]

/-! ### The text of a key -/

theorem base32Character_of_getElem? {digit : Nat} {c : Char} (h : base32Alphabet[digit]? = some c) :
    base32Character digit = c := by
  rw [base32Character, List.getD_eq_getElem?_getD, h, Option.getD_some]

theorem Base32Digits.eq_map {text : List Char} {digits : List Nat} (h : Base32Digits text digits) :
    text = digits.map base32Character := by
  induction h with
  | nil => rfl
  | cons hdigit _ ih => rw [List.map_cons, ← ih, base32Character_of_getElem? hdigit]

theorem base32Digits_map {digits : List Nat} (h : ∀ digit ∈ digits, digit < 2 ^ 5) :
    Base32Digits (digits.map base32Character) digits := by
  induction digits with
  | nil => exact .nil
  | cons digit digits ih =>
      have hdigit : digit < base32Alphabet.length := h digit List.mem_cons_self
      have hget := List.getElem?_eq_getElem hdigit
      apply List.Forall₂.cons
      · rw [base32Character_of_getElem? hget]
        exact hget
      · exact ih fun other hother => h other (List.mem_cons_of_mem _ hother)

theorem eq_encodeBase32 {text : List Char} {bytes : List Nat} (h : WritesBase32 text bytes) :
    text = encodeBase32 bytes := by
  obtain ⟨digits, padding, hdigits, hlength, hpadding, hvalue⟩ := h
  have hcount : (8 * bytes.length + 4) / 5 = digits.length := by omega
  have hpad : 5 * digits.length - 8 * bytes.length = padding := by omega
  have hwritten := eq_writtenDigits (by omega) (Base32Digits.lt hdigits)
  rw [Base32Digits.eq_map hdigits, encodeBase32]
  simp only [hcount, hpad, ← hvalue, ← hwritten]

theorem writesBase32_encodeBase32 {bytes : List Nat} (hbytes : ∀ byte ∈ bytes, byte < 2 ^ 8) :
    WritesBase32 (encodeBase32 bytes) bytes := by
  have hnumber := numeral_lt (by omega) hbytes
  have hfits : numeral (2 ^ 8) bytes *
        2 ^ (5 * ((8 * bytes.length + 4) / 5) - 8 * bytes.length) <
      (2 ^ 5) ^ ((8 * bytes.length + 4) / 5) := by
    calc numeral (2 ^ 8) bytes * 2 ^ (5 * ((8 * bytes.length + 4) / 5) - 8 * bytes.length)
        < (2 ^ 8) ^ bytes.length * 2 ^ (5 * ((8 * bytes.length + 4) / 5) - 8 * bytes.length) :=
          Nat.mul_lt_mul_of_pos_right hnumber (Nat.two_pow_pos _)
      _ = (2 ^ 5) ^ ((8 * bytes.length + 4) / 5) := by
          rw [← pow_mul, ← pow_mul, ← pow_add]
          congr 1
          omega
  refine ⟨_, 5 * ((8 * bytes.length + 4) / 5) - 8 * bytes.length,
    base32Digits_map (writtenDigits_lt (by omega) _ _), ?_, by omega, numeral_writtenDigits hfits⟩
  rw [length_writtenDigits]
  omega

theorem isCanonicalStrkey_iff {version keyLength : Nat} (hversion : version < 2 ^ 8) {text : String} :
    IsCanonicalStrkey version keyLength text.toList ↔ IsStrkey version keyLength text := by
  have hpayload : ∀ key : List Nat, (∀ byte ∈ key, byte < 2 ^ 8) → ∀ byte ∈ version :: key,
      byte < 2 ^ 8 := by
    intro key hkey byte hmem
    rcases List.mem_cons.mp hmem with rfl | hmem
    · exact hversion
    · exact hkey byte hmem
  constructor
  · intro h
    obtain ⟨key, low, high, hlength, hkey, hchecksum, htext⟩ := h
    obtain ⟨rfl, rfl⟩ := (isXmodemChecksum_iff (hpayload key hkey)).mp hchecksum
    exact ⟨key, hlength, hkey, htext ▸ writesBase32_encodeBase32 (strkeyBytes_lt hversion hkey)⟩
  · intro h
    obtain ⟨key, hlength, hkey, hwrites⟩ := h
    have hchecksum := (isXmodemChecksum_iff (hpayload key hkey)).mpr ⟨rfl, rfl⟩
    exact ⟨key, _, _, hlength, hkey, hchecksum, eq_encodeBase32 hwrites⟩

theorem isValidStellarDestination_iff_isStrkey {value : String} :
    isValidStellarDestination value = true ↔ IsAccountAddress value ∨ IsMuxedAddress value := by
  rw [isValidStellarDestination_iff]
  constructor
  · intro h
    rcases h with ⟨haccount, -⟩ | ⟨hmuxed, -⟩
    · exact .inl haccount
    · exact .inr hmuxed
  · intro h
    rcases h with haccount | hmuxed
    · exact .inl ⟨haccount, haccount.head⟩
    · exact .inr ⟨hmuxed, hmuxed.head⟩

/-- What an accepted text decodes to: it is what an encoder writes for these bytes, with zeros behind
them, and the last two are the checksum of the others. -/
theorem decode_of_accepted {value : String} (h : isValidStellarDestination value = true) :
    ∃ payload low high, decodeBase32 value.toList = some (payload ++ [low, high]) ∧
      WritesBase32 value.toList (payload ++ [low, high]) ∧
      encodeBase32 (payload ++ [low, high]) = value.toList ∧ IsXmodemChecksum payload low high := by
  have hstrkey : ∃ version keyLength, version < 2 ^ 8 ∧ IsStrkey version keyLength value := by
    rcases isValidStellarDestination_iff_isStrkey.mp h with haccount | hmuxed
    · exact ⟨_, _, by decide, haccount⟩
    · exact ⟨_, _, by decide, hmuxed⟩
  obtain ⟨version, keyLength, hversion, key, -, hkey, hwrites⟩ := hstrkey
  have hbytes := strkeyBytes_lt hversion hkey
  have hpayload : ∀ byte ∈ version :: key, byte < 2 ^ 8 := fun byte hmem =>
    hbytes byte (List.mem_append_left _ hmem)
  refine ⟨version :: key, _, _, ?_, hwrites, (eq_encodeBase32 hwrites).symm,
    (isXmodemChecksum_iff hpayload).mpr ⟨rfl, rfl⟩⟩
  obtain ⟨digits, padding, hdigits, hlength, hpadding, hvalue⟩ := hwrites
  exact decodeBase32_eq_some.mpr ⟨digits, padding, hdigits, hbytes, hlength, by omega, hvalue⟩

/-- The destination check accepts the canonical texts of accounts and of muxed accounts and no other. At
every place of every text its accumulator is exact; an accepted text is the encoding of the bytes it
decodes to, no bit is left over, and the last two bytes are the checksum of the others. -/
theorem isValidStellarDestination_canonical (value : String) :
    (Signed.isValidStellarDestination value = true ↔
        IsCanonicalStrkey stellarAccountIdVersion 32 value.toList ∨
          IsCanonicalStrkey stellarMuxedAccountVersion 40 value.toList) ∧
      (∀ read rest state, value.toList = read ++ rest →
        read.foldlM Signed.decodeBase32Character .start = some state → ExactAccumulator state) ∧
      (Signed.isValidStellarDestination value = true →
        ∃ payload low high digits padding,
          Signed.decodeBase32 value.toList = some ((payload ++ [low, high]).map Nat.cast) ∧
          Base32Digits value.toList digits ∧
          5 * digits.length = 8 * (payload ++ [low, high]).length + padding ∧ padding < 5 ∧
          numeral (2 ^ 5) digits % 2 ^ padding = 0 ∧
          encodeBase32 (payload ++ [low, high]) = value.toList ∧
          IsXmodemChecksum payload low high) := by
  rw [signed_isValidStellarDestination]
  refine ⟨?_, ?_, ?_⟩
  · rw [isCanonicalStrkey_iff (by decide), isCanonicalStrkey_iff (by decide)]
    exact isValidStellarDestination_iff_isStrkey
  · intro read rest state _ hread
    exact exactAccumulator_of_foldlM hread
  · intro h
    obtain ⟨payload, low, high, hdecode, hwrites, hencode, hchecksum⟩ := decode_of_accepted h
    obtain ⟨digits, padding, hdigits, hlength, hpadding, hvalue⟩ := hwrites
    refine ⟨payload, low, high, digits, padding, ?_, hdigits, hlength, hpadding, ?_, hencode, hchecksum⟩
    · rw [signed_decodeBase32, hdecode]
      rfl
    · rw [hvalue, Nat.mul_mod_left]

end CashMesh.Acquirer
