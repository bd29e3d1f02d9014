import Mathlib.Data.List.Basic
/-!
# Form-urlencoded text

The encoding `application/x-www-form-urlencoded` of pairs of strings. A component is written byte by
byte, so the separators never occur in it, and reading what was written gives the pairs back.
-/

namespace CashMesh.Lib

/-- The bytes that a component keeps as they are. -/
def keptByte (byte : UInt8) : Bool :=
  (48 ≤ byte && byte ≤ 57) || (65 ≤ byte && byte ≤ 90) || (97 ≤ byte && byte ≤ 122) ||
    byte == 42 || byte == 45 || byte == 46 || byte == 95

def hexDigitChar (n : Nat) : Char :=
  Char.ofNat (if n < 10 then 48 + n else 55 + n)

def hexDigitValue (c : Char) : Option Nat :=
  if '0' ≤ c ∧ c ≤ '9' then some (c.toNat - 48)
  else if 'A' ≤ c ∧ c ≤ 'F' then some (c.toNat - 55)
  else if 'a' ≤ c ∧ c ≤ 'f' then some (c.toNat - 87)
  else none

def encodeByte (byte : UInt8) : List Char :=
  if keptByte byte = true then [Char.ofNat byte.toNat]
  else if byte = 32 then ['+']
  else ['%', hexDigitChar (byte.toNat / 16), hexDigitChar (byte.toNat % 16)]

def textBytes (text : String) : List UInt8 :=
  text.toByteArray.data.toList

def encodeComponent (text : String) : List Char :=
  (textBytes text).flatMap encodeByte

def encodePair (pair : String × String) : List Char :=
  encodeComponent pair.1 ++ '=' :: encodeComponent pair.2

/-- The text of pairs, in their order. -/
def encodePairs (pairs : List (String × String)) : String :=
  .ofList (['&'].intercalate (pairs.map encodePair))

/-- The bytes of a component; a percent sign that no two digits follow stands for itself. -/
def decodeBytes : List Char → List UInt8
  | [] => []
  | '+' :: rest => 32 :: decodeBytes rest
  | '%' :: high :: low :: rest =>
      match hexDigitValue high, hexDigitValue low with
      | some h, some l => UInt8.ofNat (16 * h + l) :: decodeBytes rest
      | _, _ => 37 :: decodeBytes (high :: low :: rest)
  | c :: rest => textBytes (String.singleton c) ++ decodeBytes rest

/-- A component, when its bytes are a text. -/
def decodeComponent (chars : List Char) : Option String :=
  String.fromUTF8? ⟨(decodeBytes chars).toArray⟩

/-- A pair; what has no equals sign is a name with an empty value. -/
def decodePair (chars : List Char) : Option (String × String) := do
  let name ← decodeComponent (chars.takeWhile (· != '='))
  let value ← decodeComponent ((chars.dropWhile (· != '=')).drop 1)
  return (name, value)

/-- The pairs of a text, in their order; an empty piece is none. -/
def decodePairs (text : String) : Option (List (String × String)) :=
  ((text.toList.splitOn '&').filter (!·.isEmpty)).mapM decodePair

/-! ### Reading what was written -/

theorem hexDigit_roundtrip {n : Nat} (hn : n < 16) :
    hexDigitValue (hexDigitChar n) = some n ∧ hexDigitChar n ≠ '&' ∧ hexDigitChar n ≠ '=' := by
  have hall : ∀ m : Fin 16, hexDigitValue (hexDigitChar m) = some m.val ∧
      hexDigitChar m ≠ '&' ∧ hexDigitChar m ≠ '=' := by
    decide +kernel
  exact hall ⟨n, hn⟩

theorem keptByte_char {byte : UInt8} (hkept : keptByte byte = true) :
    textBytes (String.singleton (Char.ofNat byte.toNat)) = [byte] ∧
      Char.ofNat byte.toNat ∉ ['+', '%', '&', '='] := by
  have hall : ∀ n : Fin 256, keptByte (UInt8.ofNat n) = true →
      textBytes (String.singleton (Char.ofNat n)) = [UInt8.ofNat n] ∧
        Char.ofNat n ∉ ['+', '%', '&', '='] := by
    decide +kernel
  have h := hall ⟨byte.toNat, byte.toNat_lt⟩
  simp only [UInt8.ofNat_toNat] at h
  exact h hkept

theorem decodeBytes_cons {c : Char} (hc : c ∉ ['+', '%', '&', '=']) (rest : List Char) :
    decodeBytes (c :: rest) = textBytes (String.singleton c) ++ decodeBytes rest := by
  simp only [List.mem_cons, List.not_mem_nil, or_false, not_or] at hc
  rw [decodeBytes.eq_4]
  · exact hc.1
  · intro high low rest hpercent
    exact absurd hpercent hc.2.1

theorem decodeBytes_encodeByte (byte : UInt8) (rest : List Char) :
    decodeBytes (encodeByte byte ++ rest) = byte :: decodeBytes rest := by
  unfold encodeByte
  by_cases hkept : keptByte byte = true
  · obtain ⟨htext, hc⟩ := keptByte_char hkept
    rw [if_pos hkept, List.singleton_append, decodeBytes_cons hc, htext, List.singleton_append]
  · by_cases hspace : byte = 32
    · rw [if_neg hkept, if_pos hspace, hspace]
      rfl
    · have hbyte : byte.toNat < 256 := byte.toNat_lt
      have hhigh := (hexDigit_roundtrip (show byte.toNat / 16 < 16 by omega)).1
      have hlow := (hexDigit_roundtrip (show byte.toNat % 16 < 16 by omega)).1
      have hvalue : 16 * (byte.toNat / 16) + byte.toNat % 16 = byte.toNat := Nat.div_add_mod ..
      rw [if_neg hkept, if_neg hspace]
      simp only [List.cons_append, List.nil_append, decodeBytes, hhigh, hlow, hvalue,
        UInt8.ofNat_toNat]

theorem separators_not_mem (byte : UInt8) : '&' ∉ encodeByte byte ∧ '=' ∉ encodeByte byte := by
  unfold encodeByte
  by_cases hkept : keptByte byte = true
  · obtain ⟨-, hc⟩ := keptByte_char hkept
    simp only [List.mem_cons, List.not_mem_nil, or_false, not_or] at hc
    rw [if_pos hkept]
    exact ⟨fun hmem => hc.2.2.1 (List.mem_singleton.mp hmem).symm,
      fun hmem => hc.2.2.2 (List.mem_singleton.mp hmem).symm⟩
  · by_cases hspace : byte = 32
    · rw [if_neg hkept, if_pos hspace]
      decide
    · have hbyte : byte.toNat < 256 := byte.toNat_lt
      obtain ⟨-, hamp, hequals⟩ := hexDigit_roundtrip (show byte.toNat / 16 < 16 by omega)
      obtain ⟨-, hamp', hequals'⟩ := hexDigit_roundtrip (show byte.toNat % 16 < 16 by omega)
      rw [if_neg hkept, if_neg hspace]
      simp [hamp.symm, hamp'.symm, hequals.symm, hequals'.symm]

theorem decodeBytes_encodeBytes (bytes : List UInt8) :
    decodeBytes (bytes.flatMap encodeByte) = bytes := by
  induction bytes with
  | nil => rfl
  | cons byte bytes ih => rw [List.flatMap_cons, decodeBytes_encodeByte, ih]

theorem decodeComponent_encodeComponent (text : String) :
    decodeComponent (encodeComponent text) = some text := by
  have hbytes : decodeBytes (encodeComponent text) = textBytes text := decodeBytes_encodeBytes _
  rw [decodeComponent, hbytes]
  exact dif_pos text.isValidUTF8

theorem separators_not_mem_component (text : String) :
    '&' ∉ encodeComponent text ∧ '=' ∉ encodeComponent text := by
  constructor
  · intro hmem
    obtain ⟨byte, -, hbyte⟩ := List.mem_flatMap.mp hmem
    exact (separators_not_mem byte).1 hbyte
  · intro hmem
    obtain ⟨byte, -, hbyte⟩ := List.mem_flatMap.mp hmem
    exact (separators_not_mem byte).2 hbyte

theorem decodePair_encodePair (pair : String × String) :
    decodePair (encodePair pair) = some pair := by
  have hname : ∀ c ∈ encodeComponent pair.1, (c != '=') = true := by
    intro c hc
    rw [bne_iff_ne]
    rintro rfl
    exact (separators_not_mem_component pair.1).2 hc
  have htake : (encodePair pair).takeWhile (· != '=') = encodeComponent pair.1 := by
    simp [encodePair, List.takeWhile_append_of_pos hname]
  have hdrop : ((encodePair pair).dropWhile (· != '=')).drop 1 = encodeComponent pair.2 := by
    simp [encodePair, List.dropWhile_append_of_pos hname]
  rw [decodePair, htake, hdrop, decodeComponent_encodeComponent, decodeComponent_encodeComponent]
  rfl

theorem ampersand_not_mem_pair (pair : String × String) : '&' ∉ encodePair pair := by
  simp only [encodePair, List.mem_append, List.mem_cons, not_or]
  exact ⟨(separators_not_mem_component pair.1).1, by decide,
    (separators_not_mem_component pair.2).1⟩

theorem decodePairs_encodePairs (pairs : List (String × String)) :
    decodePairs (encodePairs pairs) = some pairs := by
  have hread : (pairs.map encodePair).mapM decodePair = some pairs := by
    induction pairs with
    | nil => rfl
    | cons pair pairs ih => simp [decodePair_encodePair, ih]
  have hkept : (pairs.map encodePair).filter (fun piece => !piece.isEmpty) =
      pairs.map encodePair := by
    rw [List.filter_eq_self]
    intro piece hpiece
    obtain ⟨pair, -, rfl⟩ := List.mem_map.mp hpiece
    simp [encodePair]
  by_cases hnone : pairs = []
  · subst hnone
    rfl
  · have hsplit : (['&'].intercalate (pairs.map encodePair)).splitOn '&' = pairs.map encodePair := by
      apply List.splitOn_intercalate
      · intro piece hpiece
        obtain ⟨pair, -, rfl⟩ := List.mem_map.mp hpiece
        exact ampersand_not_mem_pair pair
      · simpa using hnone
    rw [decodePairs, encodePairs, String.toList_ofList, hsplit, hkept, hread]

end CashMesh.Lib
