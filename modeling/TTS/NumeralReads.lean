import TTS.Decimals
import TTS.Numerals

/-!
# What `stod` and `stoi` make of a numeral

Between blanks a numeral is read to its end, as the number it denotes.
-/

namespace TTS

open Numerals

/-! ## Digits -/

/-- No digit follows. -/
def StopsDigits (rest : Text) : Prop := ∀ c cs, rest = c :: cs → c.isDigit = false

theorem isDigit_of_digitValue {c : Char} {d : Nat} (h : digitValue c = some d) (hd : d < 10) : c.isDigit = true := by
  rw [isDigit_iff]
  have h0 : '0'.toNat = 48 := rfl
  have h9 : '9'.toNat = 57 := rfl
  unfold digitValue at h
  split at h
  · rename_i hc
    omega
  · split at h
    · cases h
      omega
    · split at h <;> cases h
      omega

theorem takeDigits_stop {rest : Text} (h : StopsDigits rest) (acc n : Nat) : takeDigits 10 acc n rest = (acc, n, rest) := by
  cases rest with
  | nil => rfl
  | cons c cs =>
    rw [takeDigits]
    cases hd : digitValue c with
    | none => rfl
    | some d =>
      have hstop := h c cs rfl
      have hge : ¬ d < 10 := fun hlt => by
        rw [isDigit_of_digitValue hd hlt] at hstop
        cases hstop
      simp only [if_neg hge]

theorem takeDigits_span {cs rest : Text} (hcs : AllDigits cs) (hrest : StopsDigits rest) (acc n : Nat) :
    takeDigits 10 acc n (cs ++ rest) = (Nat.ofDigitChars 10 cs acc, n + cs.length, rest) := by
  rw [takeDigits_append cs hcs, takeDigits_stop hrest]

/-! ## Blanks -/

theorem blank_toNat {c : Char} (h : isSpace c = true) : c.toNat = 32 ∨ 9 ≤ c.toNat ∧ c.toNat ≤ 13 := by
  have ht : '\t'.toNat = 9 := rfl
  have hr : '\r'.toNat = 13 := rfl
  simp only [isSpace, Bool.or_eq_true, decide_eq_true_eq, Bool.and_eq_true] at h
  rcases h with rfl | h
  · exact .inl rfl
  · omega

theorem isDigit_of_blank {c : Char} (h : isSpace c = true) : c.isDigit = false := by
  rw [Bool.eq_false_iff]
  intro hd
  rw [isSpace_of_isDigit hd] at h
  cases h

theorem toLower_of_blank {c : Char} (h : isSpace c = true) : c.toLower = c := by
  have hb := blank_toNat h
  exact toLower_of_toNat_lt (by omega)

theorem isSpace_of_isNumeralChar {c : Char} (h : isNumeralChar c = true) : isSpace c = false := by
  rw [isNumeralChar, Bool.or_eq_true] at h
  rcases h with h | h
  · exact isSpace_of_isDigit h
  · simp only [List.contains_iff_mem, List.mem_cons, List.not_mem_nil, or_false] at h
    rcases h with rfl | rfl | rfl | rfl | rfl <;> decide

theorem stopsDigits_of_blanks {after : Text} (h : ∀ c ∈ after, isSpace c = true) : StopsDigits after := by
  rintro c cs rfl
  exact isDigit_of_blank (h c List.mem_cons_self)

theorem dropWhile_padded {before : Text} (h : ∀ c ∈ before, isSpace c = true) {c : Char} {rest : Text}
    (hc : isNumeralChar c = true) : (before ++ c :: rest).dropWhile isSpace = c :: rest := by
  rw [List.dropWhile_append_of_pos h]
  apply List.dropWhile_cons_of_neg
  rw [isSpace_of_isNumeralChar hc]
  exact Bool.false_ne_true

theorem takeSign_signed (s : Sign) {c : Char} (rest : Text) (hc : c.isDigit = true ∨ c = '.') :
    takeSign (s.text ++ c :: rest) = (s.isMinus, c :: rest) := by
  cases s with
  | plus | minus => rfl
  | none =>
    have hplus : c ≠ '+' := by
      rintro rfl
      revert hc
      decide
    have hminus : c ≠ '-' := by
      rintro rfl
      revert hc
      decide
    change takeSign (c :: rest) = (false, c :: rest)
    unfold takeSign
    split
    · rename_i he
      exact absurd (List.cons.inj he).1 hminus
    · rename_i he
      exact absurd (List.cons.inj he).1 hplus
    · rfl

/-! ## Integers -/

theorem takeDigits_integer (n : Integer) {after : Text} (hafter : ∀ c ∈ after, isSpace c = true) :
    takeSign (n.text ++ after) = (n.sign.isMinus, n.digits ++ after) ∧
      takeDigits 10 0 0 (n.digits ++ after) = (Nat.ofDigitChars 10 n.digits 0, n.digits.length, after) := by
  constructor
  · obtain ⟨c, rest, hd, hc⟩ := n.head_digits
    rw [Integer.text, List.append_assoc, hd]
    exact takeSign_signed n.sign (rest ++ after) (.inl hc)
  · rw [takeDigits_span n.allDigits (stopsDigits_of_blanks hafter), Nat.zero_add]

theorem stoi_padded {v : Text} {n : Integer} (h : Padded isSpace v n.text) (hmin : -2 ^ 31 ≤ n.value) (hmax : n.value < 2 ^ 31) :
    stoi v = .ok n.value := by
  obtain ⟨before, after, rfl, hbefore, hafter⟩ := h
  have hdrop : (before ++ (n.text ++ after)).dropWhile isSpace = n.text ++ after := by
    have hmem : ∀ c ∈ n.text, isNumeralChar c = true := fun c hc => Integer.isNumeralChar_of_mem hc
    cases ht : n.text with
    | nil =>
      have hne := List.append_ne_nil_of_right_ne_nil n.sign.text n.digits_ne
      exact absurd ht hne
    | cons c rest => exact dropWhile_padded hbefore (hmem c (by rw [ht]; exact List.mem_cons_self))
  obtain ⟨hsign, hdigits⟩ := takeDigits_integer n hafter
  have hlen : n.digits.length ≠ 0 := fun e => n.digits_ne (List.length_eq_zero_iff.mp e)
  have hrange : ¬ (n.value < -2 ^ 31 ∨ 2 ^ 31 ≤ n.value) := by omega
  rw [stoi, hdrop, hsign]
  simp only [hdigits, if_neg hlen]
  exact if_neg hrange

/-! ## Decimals -/

/-- No character of a numeral or a blank after it is one of a word or a hexadecimal mark. -/
theorem toLower_ne_letter {c letter : Char} (hc : isNumeralChar c = true ∨ isSpace c = true)
    (hl : letter = 'i' ∨ letter = 'n' ∨ letter = 'x') : c.toLower ≠ letter := by
  rcases hc with hc | hc
  · rw [isNumeralChar, Bool.or_eq_true] at hc
    rcases hc with hc | hc
    · rw [toLower_of_isDigit hc]
      rintro rfl
      rcases hl with rfl | rfl | rfl <;> cases hc
    · simp only [List.contains_iff_mem, List.mem_cons, List.not_mem_nil, or_false] at hc
      rcases hc with rfl | rfl | rfl | rfl | rfl <;> rcases hl with rfl | rfl | rfl <;> decide
  · rw [toLower_of_blank hc]
    rintro rfl
    rcases hl with rfl | rfl | rfl <;> revert hc <;> decide

theorem not_isPrefixOf_numeral {s : Text} (word : Text) (hs : ∀ c ∈ s, isNumeralChar c = true ∨ isSpace c = true)
    (letter : Char) (hmem : letter ∈ word) (hl : letter = 'i' ∨ letter = 'n' ∨ letter = 'x') :
    word.isPrefixOf (s.map Char.toLower) = false := by
  rw [Bool.eq_false_iff]
  intro hpre
  obtain ⟨c, hc, he⟩ := List.mem_map.mp ((List.isPrefixOf_iff_prefix.mp hpre).subset hmem)
  exact toLower_ne_letter (hs c hc) hl he

theorem takeExponent_blanks {after : Text} (h : ∀ c ∈ after, isSpace c = true) : takeExponent 'e' after = 0 := by
  cases after with
  | nil => rfl
  | cons c cs =>
    have hc := h c List.mem_cons_self
    have hne : c.toLower ≠ 'e' := by
      rw [toLower_of_blank hc]
      rintro rfl
      revert hc
      decide
    rw [takeExponent, if_neg hne]

theorem takeExponent_exponentText (n : Decimal) {after : Text} (h : ∀ c ∈ after, isSpace c = true) :
    takeExponent 'e' (n.exponentText ++ after) = n.exponent.elim 0 fun e => e.value := by
  unfold Decimal.exponentText
  cases n.exponent with
  | none => exact takeExponent_blanks h
  | some e =>
    have hmark : e.mark.toLower = 'e' := by rcases e.mark_mem with hm | hm <;> rw [hm] <;> decide
    obtain ⟨hsign, hdigits⟩ := takeDigits_integer e.toInteger h
    have hlen : e.digits.length ≠ 0 := fun he => e.digits_ne (List.length_eq_zero_iff.mp he)
    simp only [Option.elim_some, List.cons_append, takeExponent, if_pos hmark, hsign, hdigits, if_neg hlen]
    rfl

theorem exponentText_head (n : Decimal) {after : Text} (h : ∀ c ∈ after, isSpace c = true) :
    ∀ c cs, n.exponentText ++ after = c :: cs → c.isDigit = false ∧ c ≠ '.' := by
  intro c cs he
  unfold Decimal.exponentText at he
  cases hx : n.exponent with
  | none =>
    rw [hx] at he
    have hc := h c (by rw [show after = c :: cs from he]; exact List.mem_cons_self)
    refine ⟨isDigit_of_blank hc, ?_⟩
    rintro rfl
    revert hc
    decide
  | some e =>
    rw [hx] at he
    obtain ⟨hm, -⟩ := List.cons.inj he
    rcases e.mark_mem with hmark | hmark <;> rw [← hm, hmark] <;> decide

theorem takeNumber_body (n : Decimal) {after : Text} (h : ∀ c ∈ after, isSpace c = true) :
    takeNumber 10 10 1 'e' (n.body ++ after) = some n.magnitude := by
  have hexp := takeExponent_exponentText n h
  have hhead := exponentText_head n h
  have hstop : StopsDigits (n.exponentText ++ after) := fun c cs he => (hhead c cs he).1
  have hne := n.digits_ne
  have hall := n.allDigits
  cases hf : n.fraction with
  | none =>
    rw [hf, Option.getD_none, List.append_nil] at hne hall
    have hbody : n.body ++ after = n.whole ++ (n.exponentText ++ after) := by
      simp [Decimal.body, Decimal.pointText, hf]
    have hlen : n.whole.length ≠ 0 := fun he => hne (List.length_eq_zero_iff.mp he)
    have hmagnitude : n.magnitude = (Nat.ofDigitChars 10 n.whole 0 : ℚ) *
        (10 : ℚ) ^ (takeExponent 'e' (n.exponentText ++ after) - 1 * (0 : Int)) := by
      simp only [Decimal.magnitude, Decimal.mantissa, hf, hexp, Option.getD_none, List.append_nil, List.length_nil]
      rfl
    rw [takeNumber, hbody, takeDigits_span hall hstop, hmagnitude]
    -- what follows the digits does not start with the point
    generalize n.exponentText ++ after = rest at hhead
    cases rest with
    | nil => simp [hlen]
    | cons c cs =>
      have hc := (hhead c cs rfl).2
      dsimp only
      split
      · rename_i he
        exact absurd (List.cons.inj he).1 hc
      · simp [hlen]
  | some f =>
    rw [hf, Option.getD_some] at hne hall
    have hbody : n.body ++ after = n.whole ++ ('.' :: (f ++ (n.exponentText ++ after))) := by
      simp [Decimal.body, Decimal.pointText, hf]
    have hpoint : StopsDigits ('.' :: (f ++ (n.exponentText ++ after))) := by
      intro c cs he
      rw [← (List.cons.inj he).1]
      rfl
    rw [takeNumber, hbody, takeDigits_span hall.left hpoint]
    simp only [takeDigits_span hall.right hstop]
    have hlen : 0 + n.whole.length + f.length ≠ 0 := by
      rw [Nat.zero_add, ← List.length_append]
      exact fun he => hne (List.length_eq_zero_iff.mp he)
    have hsub : 0 + n.whole.length + f.length - (0 + n.whole.length) = f.length := Nat.add_sub_cancel_left _ _
    rw [hsub, if_neg hlen, ← Nat.ofDigitChars_append, hexp]
    simp only [Decimal.magnitude, Decimal.mantissa, hf, Option.getD_some, Nat.cast_ofNat, one_mul]

theorem strtod_padded {v : Text} {n : Decimal} (h : Padded isSpace v n.text) : strtod v = some (.finite n.value) := by
  obtain ⟨before, after, rfl, hbefore, hafter⟩ := h
  obtain ⟨c, rest, hb, hc⟩ := n.head_body
  have hsign : takeSign ((before ++ (n.text ++ after)).dropWhile isSpace) = (n.sign.isMinus, n.body ++ after) := by
    have htake := takeSign_signed n.sign (rest ++ after) hc
    rw [← List.cons_append, ← hb] at htake
    have hdrop : (before ++ (n.text ++ after)).dropWhile isSpace = n.sign.text ++ (n.body ++ after) := by
      have hfront : ∀ c ∈ n.text, isNumeralChar c = true := by
        intro c hm
        rcases List.mem_append.mp hm with hm | hm
        · exact Sign.isNumeralChar_of_mem hm
        · exact Decimal.isNumeralChar_of_mem_body hm
      rw [← List.append_assoc n.sign.text]
      change (before ++ (n.text ++ after)).dropWhile isSpace = n.text ++ after
      cases ht : n.text with
      | nil =>
        have hne : n.text ≠ [] := List.append_ne_nil_of_right_ne_nil n.sign.text (by rw [hb]; exact List.cons_ne_nil c rest)
        exact absurd ht hne
      | cons d ds => exact dropWhile_padded hbefore (hfront d (by rw [ht]; exact List.mem_cons_self))
    rw [hdrop, htake]
  have hchars : ∀ c ∈ n.body ++ after, isNumeralChar c = true ∨ isSpace c = true := by
    intro c hm
    rcases List.mem_append.mp hm with hm | hm
    · exact .inl (Decimal.isNumeralChar_of_mem_body hm)
    · exact .inr (hafter c hm)
  have hinf := not_isPrefixOf_numeral "inf".toList hchars 'i' (by decide) (.inl rfl)
  have hnan := not_isPrefixOf_numeral "nan".toList hchars 'n' (by decide) (.inr (.inl rfl))
  have hhex := not_isPrefixOf_numeral "0x".toList hchars 'x' (by decide) (.inr (.inr rfl))
  rw [strtod, hsign]
  simp only [hinf, hnan, hhex, Bool.false_eq_true, if_false, takeNumber_body n hafter, Option.map_some]
  rfl

theorem not_doubleOutOfRange {q : ℚ} (h : 1 ≤ q ∧ q ≤ 100) : ¬ doubleOutOfRange q := by
  have habs : |q| = q := abs_of_nonneg (zero_le_one.trans h.1)
  rintro (hbig | ⟨hsmall, -⟩)
  · rw [habs] at hbig
    have hmax := le_maxDouble (h.2.trans (by norm_num))
    have hlt := (lt_add_one maxDouble).trans maxDouble_add_one_lt
    exact absurd (hbig.trans hmax) (not_le.mpr hlt)
  · rw [habs] at hsmall
    have hlt : (2 : ℚ) ^ (-1022 : Int) < 1 := zpow_lt_one_of_neg₀ (by norm_num) (by norm_num)
    exact absurd (hsmall.trans hlt) (not_lt.mpr h.1)

/-! ## The nearest double -/

/-- Between multiples of its last bit a number is rounded to a number between them. -/
theorem nearestDouble_mem {q : ℚ} {k l : Int} (h : k * ulp q ≤ q ∧ q ≤ l * ulp q) :
    k * ulp q ≤ nearestDouble q ∧ nearestDouble q ≤ l * ulp q := by
  have hpos : 0 < ulp q := zpow_pos (by norm_num) _
  have hk : k ≤ roundHalfEven (q / ulp q) := intCast_le_roundHalfEven ((le_div_iff₀ hpos).mpr h.1)
  have hl : roundHalfEven (q / ulp q) ≤ l := roundHalfEven_le_intCast ((div_le_iff₀ hpos).mpr h.2)
  constructor
  · exact mul_le_mul_of_nonneg_right (by exact_mod_cast hk) hpos.le
  · exact mul_le_mul_of_nonneg_right (by exact_mod_cast hl) hpos.le

theorem exists_mul_ulp_eq_one {q : ℚ} (h : 1 ≤ q ∧ q ≤ 100) : ∃ k : Int, k * ulp q = 1 := by
  have hpos : 0 < q := one_pos.trans_le h.1
  have hlow : 0 ≤ Int.log 2 q := (Int.zpow_le_iff_le_log (by norm_num) hpos).mp (by simpa using h.1)
  have hhigh : Int.log 2 q < 7 := (Int.lt_zpow_iff_log_lt (by norm_num) hpos).mp (h.2.trans_lt (by norm_num))
  have hmax : max (Int.log 2 q - 52) (-1074) = -((52 - Int.log 2 q).toNat : Int) := by omega
  refine ⟨2 ^ (52 - Int.log 2 q).toNat, ?_⟩
  rw [ulp, abs_of_pos hpos, hmax, zpow_neg, zpow_natCast, Int.cast_pow, Int.cast_ofNat]
  exact mul_inv_cancel₀ (by positivity)

theorem nearestDouble_inRange {q : ℚ} (h : 1 ≤ q ∧ q ≤ 100) : 1 ≤ nearestDouble q ∧ nearestDouble q ≤ 100 := by
  obtain ⟨k, hk⟩ := exists_mul_ulp_eq_one h
  have hhundred : ((100 * k : Int) : ℚ) * ulp q = 100 := by
    push_cast
    rw [mul_assoc, hk, mul_one]
  have hmem := nearestDouble_mem (q := q) (k := k) (l := 100 * k) (by rw [hk, hhundred]; exact h)
  rwa [hk, hhundred] at hmem

theorem stodExact_padded {v : Text} {n : Decimal} (h : Padded isSpace v n.text) (hrange : 1 ≤ n.value ∧ n.value ≤ 100) :
    stodExact v = .ok (.finite n.value) := by
  rw [stodExact, strtod_padded h]
  simp only [if_neg (not_doubleOutOfRange hrange)]

theorem stod_padded {v : Text} {n : Decimal} (h : Padded isSpace v n.text) (hrange : 1 ≤ n.value ∧ n.value ≤ 100) :
    stod v = .ok (.finite (nearestDouble n.value)) := by
  rw [stod, stodExact_padded h hrange]
  rfl

/-- A little more than 100 is rounded to 100. -/
example : stod "100.00000000000000000001".toList = .ok (.finite 100) := by decide +kernel

/-- Among the smallest numbers, a double is read and another number is not. -/
example : (stod "0x1p-1030".toList).isOk ∧ stod "1e-320".toList = .error .outOfRange := by decide +kernel

end TTS
