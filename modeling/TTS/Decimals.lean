import Mathlib.Tactic.NormNum
import Mathlib.Tactic.Linarith
import Mathlib.Tactic.FieldSimp
import Mathlib.Tactic.Ring
import Mathlib.Tactic.Positivity
import TTS.Text

/-!
# Numbers printed and read back

What `stodExact` makes of the six decimals that `std::to_string` prints, and how
`split` takes apart what was joined with a delimiter.
-/

namespace TTS

/-! ## Joined fields -/

theorem splitLoop_append_cons {delim : Char} {field : Text} (h : delim ∉ field) (cur rest : Text) :
    splitLoop delim cur (field ++ delim :: rest) = (cur ++ field) :: splitLoop delim [] rest := by
  induction field generalizing cur with
  | nil => rw [List.nil_append, splitLoop, if_pos rfl, List.append_nil]
  | cons c field ih =>
    have hc : c ≠ delim := fun e => h (e ▸ List.mem_cons_self)
    rw [List.cons_append, splitLoop, if_neg hc, ih (fun hm => h (List.mem_cons_of_mem _ hm)), List.append_assoc,
      List.singleton_append]

theorem split_append_cons {delim : Char} {field : Text} (h : delim ∉ field) (rest : Text) :
    split (field ++ delim :: rest) delim = field :: split rest delim :=
  splitLoop_append_cons h [] rest

theorem splitLoop_of_not_mem {delim : Char} {last : Text} (h : delim ∉ last) (cur : Text) (hne : cur ++ last ≠ []) :
    splitLoop delim cur last = [cur ++ last] := by
  induction last generalizing cur with
  | nil =>
    rw [List.append_nil] at hne ⊢
    rw [splitLoop, if_neg (by simpa using hne)]
  | cons c last ih =>
    have hc : c ≠ delim := fun e => h (e ▸ List.mem_cons_self)
    have happ : cur ++ [c] ++ last = cur ++ c :: last := by rw [List.append_assoc, List.singleton_append]
    rw [splitLoop, if_neg hc, ih (fun hm => h (List.mem_cons_of_mem _ hm)) _ (happ ▸ hne), happ]

theorem split_of_not_mem {delim : Char} {last : Text} (h : delim ∉ last) (hne : last ≠ []) : split last delim = [last] :=
  splitLoop_of_not_mem h [] hne

theorem length_splitLoop {delim : Char} {last : Text} (h : delim ∉ last) (hne : last ≠ []) (cur front : Text) :
    (splitLoop delim cur (front ++ last)).length = front.count delim + 1 := by
  induction front generalizing cur with
  | nil =>
    have happ : cur ++ last ≠ [] := List.append_ne_nil_of_right_ne_nil cur hne
    rw [List.nil_append, splitLoop_of_not_mem h cur happ]
    rfl
  | cons c front ih =>
    rw [List.cons_append, splitLoop]
    by_cases hc : c = delim
    · rw [if_pos hc, List.length_cons, ih, hc, List.count_cons_self]
    · rw [if_neg hc, ih, List.count_cons_of_ne hc]

theorem length_split {delim : Char} {last : Text} (h : delim ∉ last) (hne : last ≠ []) (front : Text) :
    (split (front ++ last) delim).length = front.count delim + 1 :=
  length_splitLoop h hne [] front

/-! ## Six decimals -/

def sixDecimals (q : ℚ) : ℚ :=
  let n := (roundHalfEven (|q| * 10 ^ 6)).toNat
  if q < 0 then -(n / 10 ^ 6) else n / 10 ^ 6

def millionths (n : Nat) : Text :=
  natToString (n / 10 ^ 6) ++
    '.' :: (List.replicate (6 - (natToString (n % 10 ^ 6)).length) '0' ++ natToString (n % 10 ^ 6))

theorem doubleToString_eq (q : ℚ) :
    doubleToString q = (if q < 0 then ['-'] else []) ++ millionths (roundHalfEven (|q| * 10 ^ 6)).toNat := by
  simp only [doubleToString, millionths, List.append_assoc, List.cons_append]

theorem isDigit_of_mem_fraction {k n : Nat} {c : Char} (h : c ∈ List.replicate k '0' ++ natToString n) :
    c.isDigit = true := by
  rcases List.mem_append.mp h with h | h
  · rw [List.eq_of_mem_replicate h]
    rfl
  · exact isDigit_of_mem_natToString h

theorem mem_millionths {n : Nat} {c : Char} (h : c ∈ millionths n) : c.isDigit = true ∨ c = '.' := by
  rcases List.mem_append.mp h with h | h
  · exact .inl (isDigit_of_mem_natToString h)
  · rcases List.mem_cons.mp h with h | h
    · exact .inr h
    · exact .inl (isDigit_of_mem_fraction h)

theorem takeNumber_millionths (n : Nat) :
    takeNumber 10 10 1 'e' (millionths n) = some ((n : ℚ) / 10 ^ 6) := by
  have hlen : (natToString (n % 10 ^ 6)).length ≤ 6 :=
    (Nat.length_toDigits_le_iff (by decide) (by decide)).mpr (Nat.mod_lt _ (by decide))
  have hfrac := takeDigits_of_isDigit
    (List.replicate (6 - (natToString (n % 10 ^ 6)).length) '0' ++ natToString (n % 10 ^ 6))
    (fun c hc => isDigit_of_mem_fraction hc)
  have hvalue : Nat.ofDigitChars 10
      (List.replicate (6 - (natToString (n % 10 ^ 6)).length) '0' ++ natToString (n % 10 ^ 6)) (n / 10 ^ 6) = n := by
    have hmod : Nat.ofDigitChars 10 (natToString (n % 10 ^ 6)) 0 = n % 10 ^ 6 := Nat.ofDigitChars_ten_toDigits
    rw [Nat.ofDigitChars_append, Nat.ofDigitChars_replicate_zero, Nat.ofDigitChars_eq_ofDigitChars_zero, hmod,
      ← Nat.mul_assoc, ← Nat.pow_add, Nat.add_sub_cancel' hlen, Nat.div_add_mod]
  have hwhole : takeDigits 10 0 0 (millionths n) = (n / 10 ^ 6, (natToString (n / 10 ^ 6)).length,
      '.' :: (List.replicate (6 - (natToString (n % 10 ^ 6)).length) '0' ++ natToString (n % 10 ^ 6))) := by
    have hv : Nat.ofDigitChars 10 (natToString (n / 10 ^ 6)) 0 = n / 10 ^ 6 := Nat.ofDigitChars_ten_toDigits
    rw [millionths, takeDigits_append _ (fun c hc => isDigit_of_mem_natToString hc), hv, Nat.zero_add]
    rfl
  rw [takeNumber, hwhole]
  simp only [hfrac, hvalue, List.length_append, List.length_replicate, Nat.sub_add_cancel hlen, takeExponent]
  rw [if_neg (by omega), Nat.add_sub_cancel_left]
  norm_num
  rw [mul_one_div]

theorem toLower_eq_of_mem_millionths {n : Nat} {c : Char} (h : c ∈ millionths n) : c.toLower = c := by
  rcases mem_millionths h with hd | rfl
  · exact toLower_of_isDigit hd
  · rfl

theorem not_isPrefixOf_millionths (word : Text) (c : Char) (hc : c ∈ word) (hd : c.isDigit = false) (hp : c ≠ '.')
    (n : Nat) : word.isPrefixOf ((millionths n).map Char.toLower) = false := by
  have hlower : (millionths n).map Char.toLower = millionths n :=
    (List.map_congr_left fun c hc => toLower_eq_of_mem_millionths hc).trans (List.map_id' _)
  rw [hlower, Bool.eq_false_iff]
  intro hpre
  rcases mem_millionths ((List.isPrefixOf_iff_prefix.mp hpre).subset hc) with h | h
  · rw [hd] at h
    cases h
  · exact hp h

theorem front_millionths (n : Nat) :
    (millionths n).dropWhile isSpace = millionths n ∧ takeSign (millionths n) = (false, millionths n) := by
  obtain ⟨c, hs, hc⟩ := head_natToString_append (n / 10 ^ 6)
    ('.' :: (List.replicate (6 - (natToString (n % 10 ^ 6)).length) '0' ++ natToString (n % 10 ^ 6)))
  exact front_of_isDigit hs hc

theorem takeSign_doubleToString (q : ℚ) :
    takeSign ((doubleToString q).dropWhile isSpace) =
      (decide (q < 0), millionths (roundHalfEven (|q| * 10 ^ 6)).toNat) := by
  rw [doubleToString_eq]
  by_cases hq : q < 0
  · rw [if_pos hq, decide_eq_true hq]
    rfl
  · rw [if_neg hq, decide_eq_false hq, List.nil_append, (front_millionths _).1, (front_millionths _).2]

theorem strtod_doubleToString (q : ℚ) : strtod (doubleToString q) = some (.finite (sixDecimals q)) := by
  have hinf := not_isPrefixOf_millionths "inf".toList 'i' (by decide) rfl (by decide)
  have hnan := not_isPrefixOf_millionths "nan".toList 'n' (by decide) rfl (by decide)
  have hhex := not_isPrefixOf_millionths "0x".toList 'x' (by decide) rfl (by decide)
  rw [strtod, takeSign_doubleToString]
  simp only [hinf, hnan, hhex, Bool.false_eq_true, if_false, takeNumber_millionths, Option.map_some, sixDecimals,
    decide_eq_true_eq]

/-! ## The range of a double -/

def maxDouble : ℚ := 2 ^ 1024 - 2 ^ 971

theorem maxDouble_nonneg : 0 ≤ maxDouble := by
  have hle : (2 : ℚ) ^ 971 ≤ 2 ^ 1024 := pow_le_pow_right₀ (by norm_num) (by decide)
  exact sub_nonneg.mpr hle

theorem le_maxDouble {q : ℚ} (h : q ≤ 1000) : q ≤ maxDouble := by
  have hpow : (2 : ℚ) ^ 1024 = 2 ^ 971 * 2 ^ 53 := by rw [← pow_add]
  have hone : (1 : ℚ) ≤ 2 ^ 971 := one_le_pow₀ (by norm_num)
  have hmul : ∀ a : ℚ, 1 ≤ a → 1000 ≤ a * 2 ^ 53 - a := fun a ha => by
    norm_num
    linarith
  rw [maxDouble, hpow]
  exact h.trans (hmul _ hone)

theorem maxDouble_add_one_lt : maxDouble + 1 < (2 : ℚ) ^ (1024 : Int) - 2 ^ (970 : Int) := by
  have hone : (1 : ℚ) < 2 ^ 970 := one_lt_pow₀ (by norm_num) (by decide)
  have hdouble : (2 : ℚ) ^ 971 = 2 ^ 970 * 2 := pow_succ 2 970
  have hlt : ∀ a b : ℚ, 1 < b → a - b * 2 + 1 < a - b := fun a b hb => by linarith
  exact (congrArg (fun x => 2 ^ 1024 - x + 1) hdouble).trans_lt (hlt (2 ^ 1024) (2 ^ 970) hone)

theorem roundHalfEven_le (q : ℚ) : (roundHalfEven q : ℚ) ≤ q + 1 := by
  have hf := Int.floor_le q
  unfold roundHalfEven
  simp only
  split_ifs <;> push_cast <;> linarith

theorem floor_le_roundHalfEven (q : ℚ) : ⌊q⌋ ≤ roundHalfEven q := by
  unfold roundHalfEven
  simp only
  split_ifs <;> omega

theorem roundHalfEven_intCast (k : Int) : roundHalfEven k = k := by
  have hk : ((k : ℚ) - ⌊(k : ℚ)⌋) < 1 / 2 := by
    rw [Int.floor_intCast, sub_self]
    norm_num
  rw [roundHalfEven, if_pos hk, Int.floor_intCast]

theorem intCast_le_roundHalfEven {k : Int} {q : ℚ} (h : (k : ℚ) ≤ q) : k ≤ roundHalfEven q :=
  (Int.le_floor.mpr h).trans (floor_le_roundHalfEven q)

theorem roundHalfEven_le_intCast {k : Int} {q : ℚ} (h : q ≤ k) : roundHalfEven q ≤ k := by
  rcases h.lt_or_eq with hlt | rfl
  · have hfloor : ⌊q⌋ < k := Int.floor_lt.mpr hlt
    unfold roundHalfEven
    simp only
    split_ifs <;> omega
  · exact (roundHalfEven_intCast k).le

theorem toNat_roundHalfEven {q : ℚ} (h : 0 ≤ q) : ((roundHalfEven q).toNat : Int) = roundHalfEven q :=
  Int.toNat_of_nonneg ((Int.floor_nonneg.mpr h).trans (floor_le_roundHalfEven q))

theorem abs_sixDecimals (q : ℚ) : |sixDecimals q| = ((roundHalfEven (|q| * 10 ^ 6)).toNat : ℚ) / 10 ^ 6 := by
  have hnonneg : (0 : ℚ) ≤ ((roundHalfEven (|q| * 10 ^ 6)).toNat : ℚ) / 10 ^ 6 := by positivity
  unfold sixDecimals
  simp only
  split_ifs
  · rw [abs_neg, abs_of_nonneg hnonneg]
  · rw [abs_of_nonneg hnonneg]

theorem abs_sixDecimals_le (q : ℚ) : |sixDecimals q| ≤ |q| + 1 := by
  have hnonneg : (0 : ℚ) ≤ |q| * 10 ^ 6 := by positivity
  have hcast : ((roundHalfEven (|q| * 10 ^ 6)).toNat : ℚ) = (roundHalfEven (|q| * 10 ^ 6) : ℚ) := by
    exact_mod_cast toNat_roundHalfEven hnonneg
  have hle := roundHalfEven_le (|q| * 10 ^ 6)
  rw [abs_sixDecimals, hcast, div_le_iff₀ (by norm_num)]
  linarith

theorem sixDecimals_of_millionths {q : ℚ} (h : ∃ k : Int, q = k / 10 ^ 6) : sixDecimals q = q := by
  obtain ⟨k, hk⟩ := h
  have habs : |q| * 10 ^ 6 = ((|k| : Int) : ℚ) := by
    rw [hk, abs_div, abs_of_pos (by norm_num : (0 : ℚ) < 10 ^ 6), div_mul_cancel₀ _ (by norm_num), Int.cast_abs]
  have hn : ((roundHalfEven (|q| * 10 ^ 6)).toNat : ℚ) / 10 ^ 6 = |q| := by
    have hcast : ((roundHalfEven (|q| * 10 ^ 6)).toNat : Int) = |k| := by
      rw [toNat_roundHalfEven (by positivity), habs, roundHalfEven_intCast]
    have hcast' : ((roundHalfEven (|q| * 10 ^ 6)).toNat : ℚ) = ((|k| : Int) : ℚ) := by exact_mod_cast hcast
    rw [hcast', ← habs, mul_div_cancel_right₀ _ (by norm_num)]
  unfold sixDecimals
  simp only [hn]
  split_ifs with hq
  · rw [abs_of_neg hq, neg_neg]
  · exact abs_of_nonneg (not_lt.mp hq)

theorem nearestDouble_zero : nearestDouble 0 = 0 := by
  have hround : roundHalfEven 0 = 0 := roundHalfEven_intCast 0
  rw [nearestDouble, zero_div, hround, Int.cast_zero, zero_mul]

theorem not_doubleOutOfRange_sixDecimals {q : ℚ} (h : |q| ≤ maxDouble) : ¬doubleOutOfRange (sixDecimals q) := by
  rintro (hbig | ⟨hsmall, hrounded⟩)
  · have hle := (abs_sixDecimals_le q).trans (add_le_add_left h 1)
    exact absurd (maxDouble_add_one_lt.trans_le (hbig.trans hle)) (lt_irrefl _)
  · have hne : sixDecimals q ≠ 0 := by
      intro hzero
      rw [hzero] at hrounded
      exact hrounded nearestDouble_zero
    have hpos := abs_pos.mpr hne
    rw [abs_sixDecimals] at hsmall hpos
    have hn : (1 : ℚ) ≤ (roundHalfEven (|q| * 10 ^ 6)).toNat := by
      have hpos' : (0 : ℚ) < (roundHalfEven (|q| * 10 ^ 6)).toNat := by
        by_contra hz
        have hzero : ((roundHalfEven (|q| * 10 ^ 6)).toNat : ℚ) = 0 := le_antisymm (not_lt.mp hz) (Nat.cast_nonneg _)
        rw [hzero, zero_div] at hpos
        exact lt_irrefl _ hpos
      exact_mod_cast hpos'
    have hmin : (2 : ℚ) ^ (-1022 : Int) ≤ 1 / 10 ^ 6 :=
      (zpow_le_zpow_right₀ (by norm_num) (by norm_num : (-1022 : Int) ≤ -20)).trans (by norm_num)
    have hge : (1 : ℚ) / 10 ^ 6 ≤ (roundHalfEven (|q| * 10 ^ 6)).toNat / 10 ^ 6 := by
      rw [div_le_div_iff_of_pos_right (by norm_num)]
      exact hn
    exact absurd (hsmall.trans_le (hmin.trans hge)) (lt_irrefl _)

theorem stodExact_doubleToString {q : ℚ} (h : |q| ≤ maxDouble) : stodExact (doubleToString q) = .ok (.finite (sixDecimals q)) := by
  rw [stodExact, strtod_doubleToString]
  simp only [if_neg (not_doubleOutOfRange_sixDecimals h)]

end TTS
