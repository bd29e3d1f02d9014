import CashMesh.StellarSettlement.Amount
import Mathlib.Data.List.Induction
import Mathlib.Data.Rat.Cast.Order
import Mathlib.Tactic.FieldSimp
import Mathlib.Tactic.Ring
/-!
# What a decimal writes

The decimals that the processor reads, against the number that their text stands for. A plain decimal
is digits with at most seven more behind a point; its amount is ten million times its value, and the
cents that the processor prints are read back.
-/

namespace CashMesh.StellarSettlement

open CashMesh.Lib

/-! ### Plain decimals -/

/-- The number that the digits before and behind a point write. -/
def decimalValue (whole fraction : List Char) : ℚ :=
  digitsValue whole + digitsValue fraction / 10 ^ fraction.length

/-- A text of digits, with at most seven more behind a point when it has one. -/
structure IsPlainDecimal (value : String) (whole fraction : List Char) : Prop where
  whole_ne_nil : whole ≠ []
  whole_digits : ∀ c ∈ whole, isAsciiDigit c = true
  fraction_digits : ∀ c ∈ fraction, isAsciiDigit c = true
  fraction_length : fraction.length ≤ 7
  text : (value.toList = whole ∧ fraction = []) ∨ value.toList = whole ++ '.' :: fraction

theorem isAsciiDigit_bounds {c : Char} (hc : isAsciiDigit c = true) : 48 ≤ c.toNat ∧ c.toNat ≤ 57 := by
  simp only [isAsciiDigit, Bool.and_eq_true, decide_eq_true_eq, Char.le_def,
    UInt32.le_iff_toNat_le] at hc
  have hval : c.val.toNat = c.toNat := rfl
  have h0 : '0'.val.toNat = 48 := rfl
  have h9 : '9'.val.toNat = 57 := rfl
  omega

theorem isAsciiDigit_of_isDigit {c : Char} (hc : c.isDigit = true) : isAsciiDigit c = true := by
  simpa [isAsciiDigit, Char.isDigit, Char.le_def] using hc

theorem digitsValue_lt {digits : List Char} (hdigits : ∀ c ∈ digits, isAsciiDigit c = true) :
    digitsValue digits < 10 ^ digits.length := by
  have hsmall : ∀ d ∈ digits.map (fun c => c.toNat - '0'.toNat), d < 10 := by
    intro d hd
    obtain ⟨c, hc, rfl⟩ := List.mem_map.mp hd
    have hbounds := isAsciiDigit_bounds (hdigits c hc)
    have h0 : '0'.toNat = 48 := rfl
    omega
  have hvalue := numeral_lt (by omega) hsmall
  rwa [List.length_map] at hvalue

/-- Seven fractional digits never leave 64 bits. -/
theorem parseFraction_eq_ok {fraction : List Char} {value : UInt64}
    (hdigits : ∀ c ∈ fraction, isAsciiDigit c = true) (hlength : fraction.length ≤ 7) :
    parseFraction fraction = .ok value ↔
      value.toNat = digitsValue fraction * 10 ^ (7 - fraction.length) := by
  unfold parseFraction
  by_cases hempty : fraction = []
  · subst hempty
    simp only [List.isEmpty_nil, if_true, Except.ok.injEq, digitsValue, List.map_nil, numeral_nil,
      Nat.zero_mul]
    rw [eq_comm, ← UInt64.toNat_inj]
    rfl
  · have hpower : 10 ^ (7 - fraction.length) < 2 ^ 64 :=
      lt_of_le_of_lt (Nat.pow_le_pow_right (by omega) (Nat.sub_le 7 _)) (by decide)
    have hscale : (UInt64.ofNat (10 ^ (7 - fraction.length))).toNat = 10 ^ (7 - fraction.length) :=
      UInt64.toNat_ofNat_of_lt' hpower
    have hfits : digitsValue fraction < 2 ^ 64 := by
      have hvalue := digitsValue_lt hdigits
      have hseven := Nat.pow_le_pow_right (show 0 < 10 by omega) hlength
      omega
    simp only [List.isEmpty_iff, hempty, if_false, bind_eq_ok, orFail_eq_ok, parseU64_eq_some,
      checkedMul_eq_some, hscale]
    constructor
    · rintro ⟨digits, hdigits, hvalue⟩
      rw [hvalue, hdigits]
    · intro hvalue
      refine ⟨UInt64.ofNat (digitsValue fraction), UInt64.toNat_ofNat_of_lt' hfits, ?_⟩
      rw [hvalue, UInt64.toNat_ofNat_of_lt' hfits]

theorem stroopsOfParts_eq_ok {whole fraction : List Char} {amount : StellarAmount} :
    stroopsOfParts whole fraction = .ok amount ↔
      (whole ≠ [] ∧ whole.all isAsciiDigit = true ∧ fraction.all isAsciiDigit = true ∧
        fraction.length ≤ 7) ∧
      amount.stroops.toNat =
        digitsValue whole * 10000000 + digitsValue fraction * 10 ^ (7 - fraction.length) := by
  simp only [stroopsOfParts, bind_eq_ok, ensure_eq_ok, exists_unit, orFail_eq_ok, Except.ok.injEq,
    parseU64_eq_some, checkedMul_eq_some, checkedAdd_eq_some]
  apply and_congr_right
  intro hparts
  have hdigits : ∀ c ∈ fraction, isAsciiDigit c = true := List.all_eq_true.mp hparts.2.2.1
  simp only [parseFraction_eq_ok hdigits hparts.2.2.2]
  have hmillion : (10000000 : UInt64).toNat = 10000000 := rfl
  constructor
  · rintro ⟨wholes, hwhole, fractional, hfraction, scaled, hscaled, stroops, hstroops, rfl⟩
    rw [hstroops, hscaled, hwhole, hfraction, hmillion]
  · intro hamount
    have hbound := amount.stroops.toNat_lt
    have hwhole : digitsValue whole < 2 ^ 64 := by omega
    have hscaled : digitsValue whole * 10000000 < 2 ^ 64 := by omega
    have hfraction : digitsValue fraction * 10 ^ (7 - fraction.length) < 2 ^ 64 := by omega
    refine ⟨.ofNat (digitsValue whole), UInt64.toNat_ofNat_of_lt' hwhole,
      .ofNat (digitsValue fraction * 10 ^ (7 - fraction.length)),
      UInt64.toNat_ofNat_of_lt' hfraction, .ofNat (digitsValue whole * 10000000), ?_,
      amount.stroops, ?_, rfl⟩
    · rw [UInt64.toNat_ofNat_of_lt' hscaled, UInt64.toNat_ofNat_of_lt' hwhole, hmillion]
    · rw [UInt64.toNat_ofNat_of_lt' hscaled, UInt64.toNat_ofNat_of_lt' hfraction, hamount]

/-! ### Parsing -/

theorem digit_ne {c other : Char} (hc : isAsciiDigit c = true) (hother : isAsciiDigit other = false) :
    c ≠ other := by
  rintro rfl
  rw [hc] at hother
  exact Bool.noConfusion hother

theorem not_mem_of_digits {digits : List Char} {other : Char}
    (hdigits : ∀ c ∈ digits, isAsciiDigit c = true) (hother : isAsciiDigit other = false) :
    other ∉ digits :=
  fun hmem => digit_ne (hdigits other hmem) hother rfl

namespace IsPlainDecimal

variable {value : String} {whole fraction : List Char}

theorem head (hplain : IsPlainDecimal value whole fraction) :
    ∃ c, value.toList.head? = some c ∧ isAsciiDigit c = true := by
  obtain ⟨c, rest, hwhole⟩ := List.exists_cons_of_ne_nil hplain.whole_ne_nil
  have hc : isAsciiDigit c = true := hplain.whole_digits c (by simp [hwhole])
  rcases hplain.text with ⟨htext, -⟩ | htext
  · exact ⟨c, by simp [htext, hwhole], hc⟩
  · exact ⟨c, by simp [htext, hwhole], hc⟩

theorem not_mem (hplain : IsPlainDecimal value whole fraction) {other : Char}
    (hother : isAsciiDigit other = false) (hpoint : other ≠ '.') : other ∉ value.toList := by
  have hwhole := not_mem_of_digits hplain.whole_digits hother
  have hfraction := not_mem_of_digits hplain.fraction_digits hother
  rcases hplain.text with ⟨htext, -⟩ | htext
  · rwa [htext]
  · simp [htext, hwhole, hfraction, hpoint]

theorem split (hplain : IsPlainDecimal value whole fraction) :
    (value.toList.splitOn '.' = [whole] ∧ fraction = []) ∨
      value.toList.splitOn '.' = [whole, fraction] := by
  have hwhole : '.' ∉ whole := not_mem_of_digits hplain.whole_digits rfl
  have hfraction : '.' ∉ fraction := not_mem_of_digits hplain.fraction_digits rfl
  rcases hplain.text with ⟨htext, hnone⟩ | htext
  · apply Or.inl
    rw [htext]
    exact ⟨List.splitOn_eq_singleton hwhole, hnone⟩
  · apply Or.inr
    rw [htext, List.splitOn_append_cons_self_of_not_mem hwhole,
      List.splitOn_eq_singleton hfraction]

end IsPlainDecimal

theorem eq_of_splitOn {chars : List Char} {parts : List (List Char)}
    (hparts : chars.splitOn '.' = parts) : chars = ['.'].intercalate parts := by
  rw [← hparts, List.intercalate_splitOn]

/-- A decimal is parsed exactly when it is plain and its stroops fit 64 bits, and to these. -/
theorem StellarAmount.parse_eq_ok {value : String} {amount : StellarAmount} :
    StellarAmount.parse value = .ok amount ↔
      ∃ whole fraction, IsPlainDecimal value whole fraction ∧
        amount.stroops.toNat =
          digitsValue whole * 10000000 + digitsValue fraction * 10 ^ (7 - fraction.length) := by
  constructor
  · intro hparse
    simp only [StellarAmount.parse, bind_eq_ok, ensure_eq_ok, exists_unit] at hparse
    obtain ⟨-, hparse⟩ := hparse
    split at hparse
    · case h_1 whole hsplit =>
      obtain ⟨⟨hwhole, hdigits, -, -⟩, hamount⟩ := stroopsOfParts_eq_ok.mp hparse
      have htext : value.toList = whole := by simpa using eq_of_splitOn hsplit
      exact ⟨whole, [], ⟨hwhole, List.all_eq_true.mp hdigits, by simp, by simp,
        .inl ⟨htext, rfl⟩⟩, hamount⟩
    · case h_2 whole fraction hsplit =>
      obtain ⟨⟨hwhole, hdigits, hrest, hlength⟩, hamount⟩ := stroopsOfParts_eq_ok.mp hparse
      have htext : value.toList = whole ++ '.' :: fraction := by simpa using eq_of_splitOn hsplit
      exact ⟨whole, fraction, ⟨hwhole, List.all_eq_true.mp hdigits, List.all_eq_true.mp hrest,
        hlength, .inr htext⟩, hamount⟩
    · case h_3 => exact absurd hparse (by simp)
  · rintro ⟨whole, fraction, hplain, hamount⟩
    obtain ⟨c, hhead, hc⟩ := hplain.head
    have hguard : value.toList ≠ [] ∧ value.toList.head? ≠ some '+' ∧
        value.toList.head? ≠ some '-' ∧ 'e' ∉ value.toList ∧ 'E' ∉ value.toList := by
      refine ⟨?_, ?_, ?_, hplain.not_mem rfl (by decide), hplain.not_mem rfl (by decide)⟩
      · intro hnil
        simp [hnil] at hhead
      · rw [hhead]
        exact fun heq => digit_ne hc rfl (Option.some.inj heq)
      · rw [hhead]
        exact fun heq => digit_ne hc rfl (Option.some.inj heq)
    have hparts : stroopsOfParts whole fraction = .ok amount := by
      refine stroopsOfParts_eq_ok.mpr ⟨⟨hplain.whole_ne_nil, ?_, ?_, hplain.fraction_length⟩, hamount⟩
      · exact List.all_eq_true.mpr hplain.whole_digits
      · exact List.all_eq_true.mpr hplain.fraction_digits
    simp only [StellarAmount.parse, ensure_of hguard, ok_bind]
    rcases hplain.split with ⟨hsplit, rfl⟩ | hsplit
    · rw [hsplit]
      exact hparts
    · rw [hsplit]
      exact hparts

theorem decimalValue_scaled {whole fraction : List Char} (hlength : fraction.length ≤ 7) :
    decimalValue whole fraction * 10 ^ 7 =
      ((digitsValue whole * 10000000 + digitsValue fraction * 10 ^ (7 - fraction.length) : Nat) : ℚ) := by
  have hseven : (10 : ℚ) ^ 7 = 10 ^ (7 - fraction.length) * 10 ^ fraction.length := by
    rw [← pow_add, Nat.sub_add_cancel hlength]
  have hpositive : (10 : ℚ) ^ fraction.length ≠ 0 := pow_ne_zero _ (by decide)
  have hfraction : (digitsValue fraction : ℚ) / 10 ^ fraction.length * 10 ^ 7 =
      digitsValue fraction * 10 ^ (7 - fraction.length) := by
    rw [hseven]
    field_simp
  rw [decimalValue, add_mul, hfraction]
  push_cast
  ring

theorem IsPlainDecimal.unique {value : String} {whole fraction whole' fraction' : List Char}
    (hplain : IsPlainDecimal value whole fraction) (hother : IsPlainDecimal value whole' fraction') :
    whole = whole' ∧ fraction = fraction' := by
  rcases hplain.split with ⟨hsplit, hnone⟩ | hsplit
  · rcases hother.split with ⟨hsplit', hnone'⟩ | hsplit'
    · have hlists : [whole] = [whole'] := by rw [← hsplit, hsplit']
      exact ⟨List.cons.inj hlists |>.1, by rw [hnone, hnone']⟩
    · rw [hsplit] at hsplit'
      simp at hsplit'
  · rcases hother.split with ⟨hsplit', hnone'⟩ | hsplit'
    · rw [hsplit] at hsplit'
      simp at hsplit'
    · have hlists : [whole, fraction] = [whole', fraction'] := by rw [← hsplit, hsplit']
      simpa using hlists

/-! ### Cents -/

theorem fromStellarDecimal_eq_ok {value : String} {amount : UsdcMinorUnits} :
    UsdcMinorUnits.fromStellarDecimal value = .ok amount ↔
      ∃ paid, StellarAmount.parse value = .ok paid ∧
        paid.stroops.toNat = amount.value.toNat * 100000 := by
  have hcent : stroopsPerCent.toNat = 100000 := rfl
  simp only [UsdcMinorUnits.fromStellarDecimal, bind_eq_ok, ensure_eq_ok, exists_unit]
  apply exists_congr
  intro paid
  apply and_congr_right
  intro _
  constructor
  · rintro ⟨⟨hnonzero, hexact⟩, hnew⟩
    unfold UsdcMinorUnits.new at hnew
    split at hnew
    · case isTrue => exact absurd hnew (by simp)
    · case isFalse =>
      obtain rfl := Except.ok.inj hnew
      have hmod : paid.stroops.toNat % 100000 = 0 := by
        rw [← hcent, ← UInt64.toNat_mod, hexact]
        rfl
      rw [UInt64.toNat_div, hcent]
      omega
  · intro hpaid
    have hpositive : amount.value.toNat ≠ 0 := by
      intro hzero
      exact amount.positive (UInt64.toNat_inj.mp hzero)
    have hquotient : paid.stroops / stroopsPerCent = amount.value := by
      apply UInt64.toNat_inj.mp
      rw [UInt64.toNat_div, hcent, hpaid]
      omega
    refine ⟨⟨?_, ?_⟩, ?_⟩
    · intro hzero
      rw [hzero] at hpaid
      have h0 : (0 : UInt64).toNat = 0 := rfl
      omega
    · apply UInt64.toNat_inj.mp
      rw [UInt64.toNat_mod, hcent, hpaid]
      have h0 : (0 : UInt64).toNat = 0 := rfl
      omega
    · rw [hquotient, UsdcMinorUnits.new, dif_neg amount.positive]

theorem matchesStellarDecimal_eq_ok_true {value : String} {amount : UsdcMinorUnits} :
    amount.matchesStellarDecimal value = .ok true ↔
      ∃ paid, StellarAmount.parse value = .ok paid ∧
        paid.stroops.toNat = amount.value.toNat * 100000 := by
  constructor
  · exact UsdcMinorUnits.matchesStellarDecimal_true
  · rintro ⟨paid, hparse, hpaid⟩
    have hexpected : checkedMul amount.value stroopsPerCent = some paid.stroops :=
      checkedMul_eq_some.mpr hpaid
    simp [UsdcMinorUnits.matchesStellarDecimal, hexpected, hparse, orFail]

/-! ### Printing -/

theorem toDigits_digits (n : Nat) : ∀ c ∈ Nat.toDigits 10 n, isAsciiDigit c = true :=
  fun _ hc => isAsciiDigit_of_isDigit (Nat.isDigit_of_mem_toDigits (by omega) (by omega) hc)

theorem digitsValue_eq_ofDigitChars (digits : List Char) :
    digitsValue digits = Nat.ofDigitChars 10 digits 0 := by
  induction digits using List.reverseRecOn with
  | nil => rfl
  | append_singleton digits c ih =>
    rw [digitsValue, List.map_append, List.map_singleton, numeral_concat, Nat.ofDigitChars_append,
      ← ih, Nat.ofDigitChars_cons, Nat.ofDigitChars_nil, Nat.mul_comm]
    rfl

@[simp] theorem digitsValue_toDigits (n : Nat) : digitsValue (Nat.toDigits 10 n) = n := by
  rw [digitsValue_eq_ofDigitChars, Nat.ofDigitChars_ten_toDigits]

@[simp] theorem digitsValue_twoDigits (n : Nat) : digitsValue (twoDigits n) = n := by
  rw [digitsValue_eq_ofDigitChars, twoDigits, Nat.ofDigitChars_append,
    Nat.ofDigitChars_replicate_zero, Nat.mul_zero, Nat.ofDigitChars_ten_toDigits]

theorem twoDigits_digits (n : Nat) : ∀ c ∈ twoDigits n, isAsciiDigit c = true := by
  intro c hc
  rcases List.mem_append.mp hc with hzero | hdigit
  · obtain rfl := List.eq_of_mem_replicate hzero
    rfl
  · exact toDigits_digits n c hdigit

theorem length_twoDigits {n : Nat} (hn : n < 100) : (twoDigits n).length = 2 := by
  have hlength : (Nat.toDigits 10 n).length ≤ 2 :=
    (Nat.length_toDigits_le_iff (by omega) (by omega)).mpr hn
  simp only [twoDigits, List.length_append, List.length_replicate]
  omega

theorem toDecimal_plain (amount : UsdcMinorUnits) :
    IsPlainDecimal amount.toDecimal (Nat.toDigits 10 (amount.value / 100).toNat)
      (twoDigits (amount.value % 100).toNat) where
  whole_ne_nil := Nat.toDigits_ne_nil
  whole_digits := toDigits_digits _
  fraction_digits := twoDigits_digits _
  fraction_length := by
    rw [length_twoDigits (by rw [UInt64.toNat_mod]; exact Nat.mod_lt _ (by decide))]
    omega
  text := .inr (by rw [UsdcMinorUnits.toDecimal, String.toList_ofList])

/-- A printed amount is read back as itself when its stroops fit 64 bits. -/
theorem fromStellarDecimal_toDecimal {amount : UsdcMinorUnits} :
    UsdcMinorUnits.fromStellarDecimal amount.toDecimal = .ok amount ↔
      amount.value.toNat * 100000 < 2 ^ 64 := by
  have hparts : digitsValue (Nat.toDigits 10 (amount.value / 100).toNat) * 10000000 +
      digitsValue (twoDigits (amount.value % 100).toNat) *
        10 ^ (7 - (twoDigits (amount.value % 100).toNat).length) =
      amount.value.toNat * 100000 := by
    have hcents : (amount.value % 100).toNat = amount.value.toNat % 100 := UInt64.toNat_mod ..
    have hwhole : (amount.value / 100).toNat = amount.value.toNat / 100 := UInt64.toNat_div ..
    rw [digitsValue_toDigits, digitsValue_twoDigits, length_twoDigits (by omega), hcents, hwhole]
    omega
  rw [fromStellarDecimal_eq_ok]
  constructor
  · rintro ⟨paid, -, hpaid⟩
    exact hpaid ▸ paid.stroops.toNat_lt
  · intro hfits
    have hstroops : (UInt64.ofNat (amount.value.toNat * 100000)).toNat =
        amount.value.toNat * 100000 := UInt64.toNat_ofNat_of_lt' hfits
    refine ⟨⟨.ofNat (amount.value.toNat * 100000)⟩, StellarAmount.parse_eq_ok.mpr ?_, hstroops⟩
    exact ⟨_, _, toDecimal_plain amount, by rw [hparts, hstroops]⟩

/-- A text is an amount exactly when it is a plain decimal whose stroops fit 64 bits, and then it is
these stroops; the cents it gives are the cents it matches; and printed cents are read back. -/
theorem stellarDecimal_exact (value : String) :
    ((∃ amount, StellarAmount.parse value = .ok amount) ↔
      ∃ whole fraction, IsPlainDecimal value whole fraction ∧
        decimalValue whole fraction * 10 ^ 7 < 2 ^ 64) ∧
    (∀ amount whole fraction, StellarAmount.parse value = .ok amount →
      IsPlainDecimal value whole fraction →
      (amount.stroops.toNat : ℚ) = decimalValue whole fraction * 10 ^ 7) ∧
    (∀ amount : UsdcMinorUnits, UsdcMinorUnits.fromStellarDecimal value = .ok amount ↔
      amount.matchesStellarDecimal value = .ok true) ∧
    (∀ amount : UsdcMinorUnits, amount.value.toNat * 100000 < 2 ^ 64 →
      UsdcMinorUnits.fromStellarDecimal amount.toDecimal = .ok amount) := by
  refine ⟨⟨?_, ?_⟩, ?_, ?_, ?_⟩
  · rintro ⟨amount, hparse⟩
    obtain ⟨whole, fraction, hplain, hamount⟩ := StellarAmount.parse_eq_ok.mp hparse
    refine ⟨whole, fraction, hplain, ?_⟩
    rw [decimalValue_scaled hplain.fraction_length, ← hamount]
    exact_mod_cast amount.stroops.toNat_lt
  · rintro ⟨whole, fraction, hplain, hfits⟩
    rw [decimalValue_scaled hplain.fraction_length] at hfits
    have hbound : digitsValue whole * 10000000 +
        digitsValue fraction * 10 ^ (7 - fraction.length) < 2 ^ 64 := by exact_mod_cast hfits
    exact ⟨⟨.ofNat _⟩, StellarAmount.parse_eq_ok.mpr
      ⟨whole, fraction, hplain, UInt64.toNat_ofNat_of_lt' hbound⟩⟩
  · intro amount whole fraction hparse hplain
    obtain ⟨whole', fraction', hplain', hamount⟩ := StellarAmount.parse_eq_ok.mp hparse
    obtain ⟨rfl, rfl⟩ := hplain'.unique hplain
    rw [decimalValue_scaled hplain.fraction_length, hamount]
  · intro amount
    rw [fromStellarDecimal_eq_ok, matchesStellarDecimal_eq_ok_true]
  · intro amount hfits
    exact fromStellarDecimal_toDecimal.mpr hfits

theorem stellarDecimal_exact_twelve_and_a_half :
    (((125000000 : UInt64).toNat : ℚ) = decimalValue ['1', '2'] ['5'] * 10 ^ 7) ∧
      UsdcMinorUnits.fromStellarDecimal (UsdcMinorUnits.toDecimal ⟨1250, by decide⟩) =
        .ok ⟨1250, by decide⟩ := by
  refine ⟨?_, (stellarDecimal_exact "12.5").2.2.2 ⟨1250, by decide⟩ (by decide)⟩
  have hparse : StellarAmount.parse "12.5" = .ok ⟨125000000⟩ := by decide +kernel
  have hplain : IsPlainDecimal "12.5" ['1', '2'] ['5'] :=
    ⟨by decide, List.all_eq_true.mp rfl, List.all_eq_true.mp rfl, by decide, .inr (by decide)⟩
  exact (stellarDecimal_exact "12.5").2.1 ⟨125000000⟩ ['1', '2'] ['5'] hparse hplain

end CashMesh.StellarSettlement
