import CashMesh.Lib.Guarded
import CashMesh.Lib.Regrouping
import Mathlib.Data.List.Nodup
/-!
# Stellar destinations

The check of `stellar-melt-quote.ts` on the address that a settlement goes to. An address is the
base-32 text of a version, a key and their checksum, and the check accepts the texts of accounts and of
muxed accounts and no other.
-/

namespace CashMesh.Acquirer

open CashMesh.Lib

/-! ### The check -/

def base32Alphabet : List Char := "ABCDEFGHIJKLMNOPQRSTUVWXYZ234567".toList

/-- One turn of the loop of `decodeBase32`. -/
def decodeBase32Character (state : Regrouping) (character : Char) : Option Regrouping := do
  let digit ← base32Alphabet.idxOf? character
  let buffer := state.buffer <<< 5 ||| digit
  let bufferedBits := state.bits + 5
  if 8 ≤ bufferedBits then
    return ⟨state.output ++ [buffer >>> (bufferedBits - 8) &&& 0xff],
      buffer &&& (1 <<< (bufferedBits - 8) - 1), bufferedBits - 8⟩
  else
    return ⟨state.output, buffer, bufferedBits⟩

def decodeBase32 (value : List Char) : Option (List Nat) := do
  let state ← value.foldlM decodeBase32Character .start
  if state.buffer ≠ 0 then none else return state.output

/-- One bit of the checksum. -/
def crcBit (checksum : Nat) : Nat :=
  if checksum &&& 0x8000 ≠ 0 then (checksum <<< 1 ^^^ 0x1021) &&& 0xffff
  else checksum <<< 1 &&& 0xffff

def crc16Xmodem (value : List Nat) : Nat :=
  value.foldl (fun checksum byte => Nat.repeat crcBit 8 (checksum ^^^ byte <<< 8)) 0

/-- The characters `[A-Z2-7]`. -/
def isBase32 (c : Char) : Bool :=
  ('A' ≤ c && c ≤ 'Z') || ('2' ≤ c && c ≤ '7')

/-- `STELLAR_ADDRESS_PATTERN`: `^(?:G[A-Z2-7]{55}|M[A-Z2-7]{68})$`. -/
def stellarAddressPattern (value : List Char) : Bool :=
  match value with
  | 'G' :: rest => rest.length == 55 && rest.all isBase32
  | 'M' :: rest => rest.length == 68 && rest.all isBase32
  | _ => false

def stellarAccountIdVersion : Nat := 48
def stellarMuxedAccountVersion : Nat := 96
def stellarAccountIdBytes : Nat := 35
def stellarMuxedAccountBytes : Nat := 43

/-- `decoded` has the version and the checksum of a key of the length. -/
def IsStellarKey (decoded : List Nat) (expectedLength expectedVersion : Nat) : Prop :=
  decoded.length = expectedLength ∧ decoded.head? = some expectedVersion ∧
    decoded[decoded.length - 2]? = some (crc16Xmodem (decoded.take (decoded.length - 2)) &&& 0xff) ∧
    decoded[decoded.length - 1]? = some (crc16Xmodem (decoded.take (decoded.length - 2)) >>> 8)

instance (decoded : List Nat) (expectedLength expectedVersion : Nat) :
    Decidable (IsStellarKey decoded expectedLength expectedVersion) :=
  inferInstanceAs (Decidable (_ ∧ _))

def isValidStellarDestination (value : String) : Bool :=
  stellarAddressPattern value.toList &&
    match decodeBase32 value.toList with
    | none => false
    | some decoded =>
        if value.toList.head? = some 'M' then
          decide (IsStellarKey decoded stellarMuxedAccountBytes stellarMuxedAccountVersion)
        else
          decide (IsStellarKey decoded stellarAccountIdBytes stellarAccountIdVersion)

/-! ### The texts of keys -/

/-- The text writes the bytes in base 32, the last character filled up with zero bits. -/
def WritesBase32 (text : List Char) (bytes : List Nat) : Prop :=
  ∃ digits padding, List.Forall₂ (fun c digit => base32Alphabet[digit]? = some c) text digits ∧
    5 * digits.length = 8 * bytes.length + padding ∧ padding < 5 ∧
    numeral (2 ^ 5) digits = numeral (2 ^ 8) bytes * 2 ^ padding

/-- A key with its version before it and the two bytes of their checksum behind it. -/
def strkeyBytes (version : Nat) (key : List Nat) : List Nat :=
  version :: key ++ [crc16Xmodem (version :: key) &&& 0xff, crc16Xmodem (version :: key) >>> 8]

/-- The canonical text of a key of some bytes. -/
def IsStrkey (version keyLength : Nat) (text : String) : Prop :=
  ∃ key : List Nat, key.length = keyLength ∧ (∀ byte ∈ key, byte < 2 ^ 8) ∧
    WritesBase32 text.toList (strkeyBytes version key)

/-- The text of an account, `G…`. -/
def IsAccountAddress (text : String) : Prop :=
  IsStrkey stellarAccountIdVersion 32 text

/-- The text of a muxed account, `M…`. -/
def IsMuxedAddress (text : String) : Prop :=
  IsStrkey stellarMuxedAccountVersion 40 text

/-! ### Characters and digits -/

theorem idxOf_base32 {c : Char} {digit : Nat} :
    base32Alphabet.idxOf? c = some digit ↔ base32Alphabet[digit]? = some c := by
  have hnodup : base32Alphabet.Nodup := by decide
  constructor
  · intro h
    obtain ⟨hlt, hget, -⟩ := List.idxOf?_eq_some_iff.mp h
    rw [List.getElem?_eq_getElem hlt, hget]
  · intro h
    obtain ⟨hlt, hget⟩ := List.getElem?_eq_some_iff.mp h
    apply List.idxOf?_eq_some_iff.mpr
    refine ⟨hlt, hget, ?_⟩
    intro j hj hsame
    have heq : j = digit := hnodup.getElem_inj_iff.mp (hsame.trans hget.symm)
    omega

theorem digit_lt {c : Char} {digit : Nat} (h : base32Alphabet[digit]? = some c) : digit < 2 ^ 5 := by
  obtain ⟨hlt, -⟩ := List.getElem?_eq_some_iff.mp h
  exact hlt

/-- The digits of a text in base 32. -/
abbrev Base32Digits (text : List Char) (digits : List Nat) : Prop :=
  List.Forall₂ (fun c digit => base32Alphabet[digit]? = some c) text digits

theorem Base32Digits.lt {text : List Char} {digits : List Nat} (h : Base32Digits text digits) :
    ∀ digit ∈ digits, digit < 2 ^ 5 := by
  induction h with
  | nil => simp
  | cons hdigit _ ih =>
      intro digit hmem
      rcases List.mem_cons.mp hmem with rfl | hmem
      · exact digit_lt hdigit
      · exact ih digit hmem

theorem Base32Digits.isBase32 {text : List Char} {digits : List Nat} (h : Base32Digits text digits) :
    text.all isBase32 = true := by
  have halphabet : base32Alphabet.all CashMesh.Acquirer.isBase32 = true := by decide
  induction h with
  | nil => rfl
  | cons hdigit _ ih =>
      rw [List.all_cons, ih, Bool.and_true]
      exact List.all_eq_true.mp halphabet _ (List.mem_of_getElem? hdigit)

/-! ### Decoding -/

theorem decodeBase32Character_eq {state : Regrouping} {c : Char} {digit : Nat}
    (h : base32Alphabet[digit]? = some c) :
    decodeBase32Character state c = some (state.push 5 8 digit) := by
  have hdigit := digit_lt h
  have hor : state.buffer <<< 5 ||| digit = state.buffer * 2 ^ 5 + digit := by
    rw [← Nat.shiftLeft_add_eq_or_of_lt hdigit, Nat.shiftLeft_eq]
  have hbyte : ∀ n, n &&& 0xff = n % 2 ^ 8 := fun n => Nat.and_two_pow_sub_one_eq_mod n 8
  have hrest : ∀ n bits, n &&& (1 <<< bits - 1) = n % 2 ^ bits := by
    intro n bits
    rw [Nat.one_shiftLeft, Nat.and_two_pow_sub_one_eq_mod]
  simp only [decodeBase32Character, idxOf_base32.mpr h, Option.bind_eq_bind, Option.bind_some, hor,
    hbyte, hrest, Nat.shiftRight_eq_div_pow, Regrouping.push]
  split <;> rfl

theorem foldlM_decode_of_digits {text : List Char} {digits : List Nat} (h : Base32Digits text digits)
    (state : Regrouping) :
    text.foldlM decodeBase32Character state = some (digits.foldl (Regrouping.push 5 8) state) := by
  induction h generalizing state with
  | nil => rfl
  | cons hdigit _ ih =>
      rw [List.foldlM_cons, decodeBase32Character_eq hdigit, List.foldl_cons]
      exact ih _

theorem digits_of_foldlM {text : List Char} {state last : Regrouping}
    (h : text.foldlM decodeBase32Character state = some last) : ∃ digits, Base32Digits text digits := by
  induction text generalizing state with
  | nil => exact ⟨[], .nil⟩
  | cons c text ih =>
      rw [List.foldlM_cons, Option.bind_eq_bind, Option.bind_eq_some_iff] at h
      obtain ⟨next, hnext, h⟩ := h
      obtain ⟨digits, hdigits⟩ := ih h
      simp only [decodeBase32Character, Option.bind_eq_bind, Option.bind_eq_some_iff] at hnext
      obtain ⟨digit, hdigit, -⟩ := hnext
      exact ⟨digit :: digits, .cons (idxOf_base32.mp hdigit) hdigits⟩

/-- What a text decodes to: the bytes that its digits write, and no bit is left over. -/
theorem decodeBase32_eq_some {text : List Char} {bytes : List Nat} :
    decodeBase32 text = some bytes ↔
      ∃ digits padding, Base32Digits text digits ∧ (∀ byte ∈ bytes, byte < 2 ^ 8) ∧
        5 * digits.length = 8 * bytes.length + padding ∧ padding < 8 ∧
        numeral (2 ^ 5) digits = numeral (2 ^ 8) bytes * 2 ^ padding := by
  constructor
  · intro h
    simp only [decodeBase32, Option.bind_eq_bind, Option.bind_eq_some_iff] at h
    obtain ⟨last, hlast, h⟩ := h
    obtain ⟨digits, hdigits⟩ := digits_of_foldlM hlast
    have hreads : Regrouping.Reads 5 8 digits last := by
      rw [foldlM_decode_of_digits hdigits] at hlast
      rw [← Option.some.inj hlast]
      exact Regrouping.reads_foldl (by omega) (by omega) hdigits.lt
    by_cases hbuffer : last.buffer ≠ 0
    · rw [if_pos hbuffer] at h
      cases h
    · rw [if_neg hbuffer] at h
      obtain rfl : last.output = bytes := Option.some.inj h
      have hvalue := hreads.value
      rw [not_not.mp hbuffer, Nat.add_zero] at hvalue
      exact ⟨digits, last.bits, hdigits, hreads.output_lt, hreads.length, hreads.bits_lt, hvalue⟩
  · intro h
    obtain ⟨digits, padding, hdigits, hbytes, hlength, hpadding, hvalue⟩ := h
    have hreads := Regrouping.reads_foldl (b := 8) (by omega) (by omega) hdigits.lt
    have hdecode := foldlM_decode_of_digits hdigits .start
    generalize digits.foldl (Regrouping.push 5 8) .start = last at hreads hdecode
    have hlast := hreads.length
    have hbits := hreads.bits_lt
    have hsame : last.output.length = bytes.length := by omega
    have hpad : last.bits = padding := by omega
    have hnumber : numeral (2 ^ 8) last.output * 2 ^ padding + last.buffer =
        numeral (2 ^ 8) bytes * 2 ^ padding := by
      rw [← hvalue, hreads.value, hpad]
    have hbuffer_lt : last.buffer < 2 ^ padding := hpad ▸ hreads.buffer_lt
    have hpositive : 0 < 2 ^ padding := Nat.two_pow_pos padding
    have hbuffer : last.buffer = 0 := by
      have hmod := congrArg (· % 2 ^ padding) hnumber
      simp only [Nat.mul_add_mod', Nat.mul_mod_left, Nat.mod_eq_of_lt hbuffer_lt] at hmod
      exact hmod
    rw [hbuffer, Nat.add_zero] at hnumber
    have houtput : last.output = bytes :=
      numeral_inj (by omega) hsame hreads.output_lt hbytes
        (Nat.eq_of_mul_eq_mul_right hpositive hnumber)
    simp [decodeBase32, hdecode, hbuffer, houtput]

/-! ### Keys -/

theorem crcBit_lt (checksum : Nat) : crcBit checksum < 2 ^ 16 := by
  unfold crcBit
  split
  · exact Nat.lt_succ_of_le Nat.and_le_right
  · exact Nat.lt_succ_of_le Nat.and_le_right

theorem crc16Xmodem_cons_lt (byte : Nat) (value : List Nat) :
    crc16Xmodem (byte :: value) < 2 ^ 16 := by
  have hturn : ∀ checksum, Nat.repeat crcBit 8 checksum < 2 ^ 16 := fun checksum => crcBit_lt _
  have hfold : ∀ (rest : List Nat) (checksum : Nat), checksum < 2 ^ 16 →
      rest.foldl (fun checksum byte => Nat.repeat crcBit 8 (checksum ^^^ byte <<< 8)) checksum <
        2 ^ 16 := by
    intro rest
    induction rest with
    | nil => exact fun checksum h => h
    | cons byte rest ih => exact fun checksum _ => ih _ (hturn _)
  exact hfold value _ (hturn _)

theorem isStellarKey_iff {decoded : List Nat} {keyLength version : Nat} :
    IsStellarKey decoded (keyLength + 3) version ↔
      ∃ key : List Nat, key.length = keyLength ∧ decoded = strkeyBytes version key := by
  constructor
  · intro h
    obtain ⟨hlength, hhead, hlow, hhigh⟩ := h
    rw [hlength] at hlow hhigh
    have hsub : keyLength + 3 - 2 = keyLength + 1 := by omega
    have hsub' : keyLength + 3 - 1 = keyLength + 2 := by omega
    rw [hsub] at hlow hhigh
    rw [hsub'] at hhigh
    cases decoded with
    | nil => cases hhead
    | cons first rest =>
        obtain rfl : first = version := Option.some.inj hhead
        have hrest : rest.length = keyLength + 2 := by
          rw [List.length_cons] at hlength
          omega
        have htake : (first :: rest).take (keyLength + 1) = first :: rest.take keyLength := rfl
        rw [htake] at hlow hhigh
        refine ⟨rest.take keyLength, ?_, ?_⟩
        · rw [List.length_take, hrest]
          omega
        · have hend : rest.drop keyLength = [crc16Xmodem (first :: rest.take keyLength) &&& 0xff,
              crc16Xmodem (first :: rest.take keyLength) >>> 8] := by
            obtain ⟨low, high, hdrop⟩ : ∃ low high, rest.drop keyLength = [low, high] := by
              apply List.length_eq_two.mp
              rw [List.length_drop, hrest]
              omega
            have hfirst : (rest.drop keyLength)[0]? = some low := by rw [hdrop]; rfl
            have hsecond : (rest.drop keyLength)[1]? = some high := by rw [hdrop]; rfl
            rw [List.getElem?_drop] at hfirst hsecond
            rw [hdrop, Option.some.inj (hfirst.symm.trans hlow), Option.some.inj (hsecond.symm.trans hhigh)]
          rw [strkeyBytes, ← hend, List.cons_append, List.take_append_drop]
  · intro h
    obtain ⟨key, hkey, rfl⟩ := h
    have hlength : (strkeyBytes version key).length = keyLength + 3 := by
      simp [strkeyBytes, hkey]
    have hpayload : (version :: key).length = keyLength + 1 := by rw [List.length_cons, hkey]
    have hsub : keyLength + 3 - 2 = keyLength + 1 := by omega
    have hsub' : keyLength + 3 - 1 = keyLength + 2 := by omega
    have htake : (strkeyBytes version key).take (keyLength + 1) = version :: key := by
      rw [strkeyBytes, ← hpayload, List.take_left]
    refine ⟨hlength, rfl, ?_, ?_⟩
    · rw [hlength, hsub, htake, strkeyBytes, List.getElem?_append_right (by omega), hpayload,
        Nat.sub_self]
      rfl
    · rw [hlength, hsub, hsub', htake, strkeyBytes, List.getElem?_append_right (by omega), hpayload,
        show keyLength + 2 - (keyLength + 1) = 1 by omega]
      rfl

theorem strkeyBytes_lt {version : Nat} {key : List Nat} (hversion : version < 2 ^ 8)
    (hkey : ∀ byte ∈ key, byte < 2 ^ 8) : ∀ byte ∈ strkeyBytes version key, byte < 2 ^ 8 := by
  have hcrc := crc16Xmodem_cons_lt version key
  intro byte hbyte
  simp only [strkeyBytes, List.mem_append, List.mem_cons, List.not_mem_nil, or_false] at hbyte
  rcases hbyte with (rfl | hmem) | rfl | rfl
  · exact hversion
  · exact hkey byte hmem
  · exact Nat.lt_succ_of_le Nat.and_le_right
  · rw [Nat.shiftRight_eq_div_pow]
    omega

theorem head_of_writesBase32 {text : List Char} {version : Nat} {bytes : List Nat}
    (h : WritesBase32 text (8 * version :: bytes)) (hbytes : ∀ byte ∈ bytes, byte < 2 ^ 8) :
    ∃ c rest, text = c :: rest ∧ base32Alphabet[version]? = some c := by
  obtain ⟨digits, padding, hdigits, hlength, hpadding, hvalue⟩ := h
  cases hdigits with
  | nil =>
      rw [List.length_nil, List.length_cons] at hlength
      omega
  | @cons c digit rest digits hdigit hdigits =>
      have hrest : numeral (2 ^ 5) digits < (2 ^ 5) ^ digits.length :=
        numeral_lt (by decide) (Base32Digits.lt hdigits)
      have hbytesLt : numeral (2 ^ 8) bytes < (2 ^ 8) ^ bytes.length := numeral_lt (by decide) hbytes
      rw [List.length_cons, List.length_cons] at hlength
      have hpower : (2 ^ 5) ^ digits.length = 8 * ((2 ^ 8) ^ bytes.length * 2 ^ padding) := by
        rw [← pow_mul, ← pow_mul, ← pow_add, show 8 = 2 ^ 3 by rfl, ← pow_add]
        congr 1
        omega
      have hlow : numeral (2 ^ 8) bytes * 2 ^ padding < (2 ^ 8) ^ bytes.length * 2 ^ padding :=
        Nat.mul_lt_mul_of_pos_right hbytesLt (Nat.two_pow_pos padding)
      rw [numeral_cons, numeral_cons, Nat.add_mul, Nat.mul_assoc (8 * version), Nat.mul_comm 8 version,
        Nat.mul_assoc version, hpower] at hvalue
      rw [hpower] at hrest
      generalize (2 ^ 8) ^ bytes.length * 2 ^ padding = unit at hvalue hrest hlow
      have hunit : 0 < 8 * unit := by omega
      have hdiv : ∀ n low, low < 8 * unit → (n * (8 * unit) + low) / (8 * unit) = n := by
        intro n low hlt
        rw [Nat.add_comm, Nat.add_mul_div_right _ _ hunit, Nat.div_eq_of_lt hlt, Nat.zero_add]
      have hversion : digit = version := by
        rw [← hdiv digit _ hrest, hvalue, hdiv version _ (by omega)]
      exact ⟨c, rest, rfl, hversion ▸ hdigit⟩

/-! ### The addresses that are accepted -/

/-- A text of the pattern is that of the key it decodes to. -/
theorem isStrkey_of_decode {text : String} {keyLength version : Nat} {decoded : List Nat}
    (hlength : (5 * text.toList.length) % 8 < 5) (hdecode : decodeBase32 text.toList = some decoded)
    (hkey : IsStellarKey decoded (keyLength + 3) version) : IsStrkey version keyLength text := by
  obtain ⟨digits, padding, hdigits, hbytes, hfull, hpadding, hvalue⟩ := decodeBase32_eq_some.mp hdecode
  obtain ⟨key, hlen, rfl⟩ := isStellarKey_iff.mp hkey
  refine ⟨key, hlen, ?_, digits, padding, hdigits, hfull, ?_, hvalue⟩
  · intro byte hmem
    exact hbytes byte (by simp [strkeyBytes, hmem])
  · have hsame := hdigits.length_eq
    have hmod : padding = 5 * digits.length % 8 := by omega
    rw [hmod, ← hsame]
    exact hlength

theorem decode_of_isStrkey {text : String} {keyLength version : Nat} (hversion : version < 2 ^ 5)
    (h : IsStrkey (8 * version) keyLength text) :
    ∃ c rest decoded, text.toList = c :: rest ∧ base32Alphabet[version]? = some c ∧
      5 * text.toList.length < 8 * (keyLength + 3) + 5 ∧ 8 * (keyLength + 3) ≤ 5 * text.toList.length ∧
      rest.all isBase32 = true ∧ decodeBase32 text.toList = some decoded ∧
      IsStellarKey decoded (keyLength + 3) (8 * version) := by
  obtain ⟨key, hlen, hkey, hwrites⟩ := h
  have hbytes := strkeyBytes_lt (show 8 * version < 2 ^ 8 by omega) hkey
  obtain ⟨c, rest, htext, hc⟩ := head_of_writesBase32 hwrites
    fun byte hmem => hbytes byte (List.mem_cons_of_mem _ hmem)
  obtain ⟨digits, padding, hdigits, hfull, hpadding, hvalue⟩ := hwrites
  have hall := Base32Digits.isBase32 hdigits
  have hsame := hdigits.length_eq
  have hcount : (strkeyBytes (8 * version) key).length = keyLength + 3 := by simp [strkeyBytes, hlen]
  rw [hcount] at hfull
  refine ⟨c, rest, strkeyBytes (8 * version) key, htext, hc, by omega, by omega, ?_, ?_, ?_⟩
  · rw [htext, List.all_cons, Bool.and_eq_true] at hall
    exact hall.2
  · apply decodeBase32_eq_some.mpr
    exact ⟨digits, padding, hdigits, hbytes, by rw [hcount, hfull], by omega, hvalue⟩
  · exact isStellarKey_iff.mpr ⟨key, hlen, rfl⟩

theorem stellarAddressPattern_iff {value : List Char} :
    stellarAddressPattern value = true ↔
      ∃ rest, rest.all isBase32 = true ∧
        ((value = 'G' :: rest ∧ rest.length = 55) ∨ (value = 'M' :: rest ∧ rest.length = 68)) := by
  constructor
  · intro h
    unfold stellarAddressPattern at h
    split at h
    · case h_1 rest =>
      obtain ⟨hlength, hall⟩ := (Bool.and_eq_true _ _).mp h
      exact ⟨rest, hall, .inl ⟨rfl, eq_of_beq hlength⟩⟩
    · case h_2 rest =>
      obtain ⟨hlength, hall⟩ := (Bool.and_eq_true _ _).mp h
      exact ⟨rest, hall, .inr ⟨rfl, eq_of_beq hlength⟩⟩
    · cases h
  · intro h
    obtain ⟨rest, hall, ⟨rfl, hlength⟩ | ⟨rfl, hlength⟩⟩ := h
    · simp [stellarAddressPattern, hlength, hall]
    · simp [stellarAddressPattern, hlength, hall]

/-- The check accepts the canonical texts of accounts and of muxed accounts, told apart by their first
letter. -/
theorem isValidStellarDestination_iff {value : String} :
    isValidStellarDestination value = true ↔
      (IsAccountAddress value ∧ value.toList.head? = some 'G') ∨
        (IsMuxedAddress value ∧ value.toList.head? = some 'M') := by
  constructor
  · intro h
    simp only [isValidStellarDestination, Bool.and_eq_true] at h
    obtain ⟨hpattern, h⟩ := h
    obtain ⟨rest, -, hform⟩ := stellarAddressPattern_iff.mp hpattern
    cases hdecode : decodeBase32 value.toList with
    | none =>
        rw [hdecode] at h
        cases h
    | some decoded =>
        simp only [hdecode] at h
        rcases hform with ⟨htext, hlength⟩ | ⟨htext, hlength⟩
        · have hhead : value.toList.head? = some 'G' := by rw [htext]; rfl
          rw [if_neg (by rw [hhead]; decide)] at h
          refine .inl ⟨isStrkey_of_decode ?_ hdecode (of_decide_eq_true h), hhead⟩
          rw [htext, List.length_cons, hlength]
          decide
        · have hhead : value.toList.head? = some 'M' := by rw [htext]; rfl
          rw [if_pos hhead] at h
          refine .inr ⟨isStrkey_of_decode ?_ hdecode (of_decide_eq_true h), hhead⟩
          rw [htext, List.length_cons, hlength]
          decide
  · intro h
    rcases h with ⟨haccount, hhead⟩ | ⟨hmuxed, hhead⟩
    · obtain ⟨c, rest, decoded, htext, -, hupper, hlower, hall, hdecode, hkey⟩ :=
        decode_of_isStrkey (show 6 < 2 ^ 5 by decide) haccount
      obtain rfl : c = 'G' := by
        rw [htext] at hhead
        exact Option.some.inj hhead
      rw [htext, List.length_cons] at hupper hlower
      have hpattern := stellarAddressPattern_iff.mpr ⟨rest, hall, .inl ⟨rfl, by omega⟩⟩
      rw [← htext] at hpattern
      rw [isValidStellarDestination, hpattern, Bool.true_and, hdecode]
      show (if value.toList.head? = some 'M' then _ else _) = true
      rw [if_neg (by rw [hhead]; decide)]
      exact decide_eq_true hkey
    · obtain ⟨c, rest, decoded, htext, -, hupper, hlower, hall, hdecode, hkey⟩ :=
        decode_of_isStrkey (show 12 < 2 ^ 5 by decide) hmuxed
      obtain rfl : c = 'M' := by
        rw [htext] at hhead
        exact Option.some.inj hhead
      rw [htext, List.length_cons] at hupper hlower
      have hpattern := stellarAddressPattern_iff.mpr ⟨rest, hall, .inr ⟨rfl, by omega⟩⟩
      rw [← htext] at hpattern
      rw [isValidStellarDestination, hpattern, Bool.true_and, hdecode]
      show (if value.toList.head? = some 'M' then _ else _) = true
      rw [if_pos hhead]
      exact decide_eq_true hkey

theorem IsAccountAddress.head {text : String} (h : IsAccountAddress text) :
    text.toList.head? = some 'G' := by
  obtain ⟨c, rest, -, htext, hc, -⟩ := decode_of_isStrkey (show 6 < 2 ^ 5 by decide) h
  rw [htext, List.head?_cons, ← hc]
  rfl

theorem IsMuxedAddress.head {text : String} (h : IsMuxedAddress text) :
    text.toList.head? = some 'M' := by
  obtain ⟨c, rest, -, htext, hc, -⟩ := decode_of_isStrkey (show 12 < 2 ^ 5 by decide) h
  rw [htext, List.head?_cons, ← hc]
  rfl

/-! ### An account -/

theorem Sample.destination_valid :
    isValidStellarDestination "GATTMQEODSDX45WZK2JFIYETXWYCU5GRJ5I3Z7P2UDYD6YFVONDM4CX4" = true := by
  decide +kernel

end CashMesh.Acquirer
