import TTS.Configuration
import TTS.Decimals

/-!
# Configurations on the wire

A client and the engine exchange a configuration as six fields with commas
between them. What the engine's `fromString` makes of what the client's
`toString` wrote, and the client's of what the engine's wrote.
-/

namespace TTS

def Double.toString : Double → Text
  | .finite q => doubleToString q
  | .infinite negative => if negative then "-inf".toList else "inf".toList
  | .nan => "nan".toList

/-- The finite numbers among the values of a `double`. -/
def Double.Representable : Double → Prop
  | .finite q => |q| ≤ maxDouble
  | .infinite _ | .nan => True

def Double.round : Double → Double
  | .finite q => .finite (max (-maxDouble) (min q maxDouble))
  | .infinite negative => .infinite negative
  | .nan => .nan

theorem Double.representable_round (d : Double) : d.round.Representable := by
  cases d with
  | finite q =>
    have hmax : -maxDouble ≤ maxDouble := neg_le_self maxDouble_nonneg
    exact abs_le.mpr ⟨le_max_left _ _, max_le hmax (min_le_right _ _)⟩
  | infinite _ => trivial
  | nan => trivial

theorem Double.round_of_representable {q : ℚ} (h : |q| ≤ maxDouble) : (Double.finite q).round = .finite q := by
  obtain ⟨hlo, hhi⟩ := abs_le.mp h
  rw [Double.round, min_eq_left hhi, max_eq_right hlo]

/-- The client's `Configuration`; its rate is a `uint8_t`. -/
structure Configuration where
  ttsEndPoint : Text
  ttsEndPointSecured : Text
  language : Text
  voice : Text
  volume : Double
  rate : Nat
  volume_representable : volume.Representable
  rate_lt : rate < 256

namespace Configuration

def new : Configuration where
  ttsEndPoint := []
  ttsEndPointSecured := []
  language := []
  voice := []
  volume := .finite 0
  rate := 0
  volume_representable := by
    rw [Double.Representable, abs_zero]
    exact maxDouble_nonneg
  rate_lt := by decide

def toString (c : Configuration) (delim : Char) : Text :=
  c.ttsEndPoint ++ delim :: c.ttsEndPointSecured ++ delim :: c.language ++ delim :: c.voice ++
    delim :: c.volume.toString ++ delim :: natToString c.rate

theorem toUint8_lt (i : Int) : toUint8 i < 256 := by
  unfold toUint8
  omega

/-- `fromString` on the client's side, where reading a volume rounds nothing. What
was set before a number that does not convert stays set. -/
def fromString (c : Configuration) (str : Text) (delim : Char) : Except StdException Bool × Configuration :=
  match split str delim with
  | [endpoint, secureEndpoint, language, voice, volume, rate] =>
    let c := { c with ttsEndPoint := endpoint, ttsEndPointSecured := secureEndpoint, language := language, voice := voice }
    match stodExact volume with
    | .error e => (.error e, c)
    | .ok v =>
      let c := { c with volume := v.round, volume_representable := v.representable_round }
      match stoi rate with
      | .error e => (.error e, c)
      | .ok r => (.ok true, { c with rate := toUint8 r, rate_lt := toUint8_lt r })
  | _ => (.ok false, c)

def CommaFree (c : Configuration) : Prop :=
  ',' ∉ c.ttsEndPoint ∧ ',' ∉ c.ttsEndPointSecured ∧ ',' ∉ c.language ∧ ',' ∉ c.voice

instance (c : Configuration) : Decidable c.CommaFree := inferInstanceAs (Decidable (_ ∧ _))

end Configuration

/-! ## What is written -/

def Double.printed : Double → Double
  | .finite q => .finite (sixDecimals q)
  | .infinite negative => .infinite negative
  | .nan => .nan

theorem Double.stodExact_toString {d : Double} (h : d.Representable) : stodExact d.toString = .ok d.printed := by
  cases d with
  | finite q => exact stodExact_doubleToString h
  | infinite negative => cases negative <;> rfl
  | nan => rfl

theorem comma_not_mem_millionths (n : Nat) : ',' ∉ millionths n := by
  intro h
  rcases mem_millionths h with h | h
  · cases h
  · cases h

theorem Double.comma_not_mem_toString (d : Double) : ',' ∉ d.toString := by
  cases d with
  | finite q =>
    rw [Double.toString, doubleToString_eq]
    intro h
    rcases List.mem_append.mp h with h | h
    · split at h <;> simp at h
    · exact comma_not_mem_millionths _ h
  | infinite negative => cases negative <;> decide
  | nan => decide

theorem Double.toString_ne_nil (d : Double) : d.toString ≠ [] := by
  cases d with
  | finite q =>
    rw [Double.toString, doubleToString_eq, millionths]
    simp
  | infinite negative => cases negative <;> decide
  | nan => decide

theorem comma_not_mem_natToString (n : Nat) : ',' ∉ natToString n := by
  intro h
  cases isDigit_of_mem_natToString h

namespace Configuration

theorem split_toString {c : Configuration} (h : c.CommaFree) :
    split (c.toString ',') ',' =
      [c.ttsEndPoint, c.ttsEndPointSecured, c.language, c.voice, c.volume.toString, natToString c.rate] := by
  obtain ⟨h1, h2, h3, h4⟩ := h
  simp only [toString, List.append_assoc, List.cons_append]
  rw [split_append_cons h1, split_append_cons h2, split_append_cons h3, split_append_cons h4,
    split_append_cons c.volume.comma_not_mem_toString,
    split_of_not_mem (comma_not_mem_natToString _) (natToString_ne_nil _)]

theorem length_split_toString (c : Configuration) :
    (split (c.toString ',') ',').length = 6 +
      (c.ttsEndPoint.count ',' + c.ttsEndPointSecured.count ',' + c.language.count ',' + c.voice.count ',') := by
  have hv : c.volume.toString.count ',' = 0 := List.count_eq_zero.mpr c.volume.comma_not_mem_toString
  have happ : c.toString ',' = (c.ttsEndPoint ++ ',' :: c.ttsEndPointSecured ++ ',' :: c.language ++ ',' :: c.voice ++
      ',' :: c.volume.toString ++ [',']) ++ natToString c.rate := by
    simp only [toString, List.append_assoc, List.cons_append, List.nil_append]
  rw [happ, length_split (comma_not_mem_natToString _) (natToString_ne_nil _)]
  simp only [List.count_append, List.count_cons_self, List.count_nil, hv]
  omega

theorem length_split_toString_iff (c : Configuration) : (split (c.toString ',') ',').length = 6 ↔ c.CommaFree := by
  rw [length_split_toString]
  simp only [CommaFree, ← List.count_eq_zero]
  omega

end Configuration

/-! ## Client to engine -/

namespace TTSConfiguration

theorem fromString_of_length {e : TTSConfiguration} {str : Text} {delim : Char} (h : (split str delim).length ≠ 6) :
    e.fromString str delim = (.ok false, e) := by
  unfold fromString fromStringWith
  split
  · rename_i hs
    exact absurd (congrArg List.length hs) h
  · rfl

/-- The settings of `c` set one after the other, the volume as it is printed. -/
def overlay (e : TTSConfiguration) (c : Configuration) : TTSConfiguration :=
  (((((e.setEndPoint c.ttsEndPoint).setSecureEndPoint c.ttsEndPointSecured).setLanguage c.language).setVoice
    c.voice).setVolume c.volume.printed).setRate c.rate

theorem fromString_toString {c : Configuration} (h : c.CommaFree) (e : TTSConfiguration) :
    e.fromString (c.toString ',') ',' = (.ok true, e.overlay c) := by
  have hvol : c.volume.toString.isEmpty = false := by simpa using c.volume.toString_ne_nil
  have hrate : (natToString c.rate).isEmpty = false := by simpa using natToString_ne_nil c.rate
  have hlt : c.rate < 2 ^ 31 := c.rate_lt.trans (by decide)
  have huint : toUint8 c.rate = c.rate := by
    have := c.rate_lt
    unfold toUint8
    omega
  rw [fromString, fromStringWith, Configuration.split_toString h]
  simp only [hvol, hrate, Bool.false_eq_true, if_false, Double.stodExact_toString c.volume_representable,
    stoi_natToString hlt, huint]
  rfl

/-- `r` is `e` with the settings of `c` in place of its own, as far as `c` has
them. -/
structure Overlaid (e : TTSConfiguration) (c : Configuration) (r : TTSConfiguration) : Prop where
  ttsEndPoint : r.ttsEndPoint = if c.ttsEndPoint = [] then e.ttsEndPoint else c.ttsEndPoint
  ttsEndPointSecured : r.ttsEndPointSecured =
    if c.ttsEndPointSecured = [] then e.ttsEndPointSecured else c.ttsEndPointSecured
  language : r.language = if c.language = [] then e.language else c.language
  voice : r.voice = if c.voice = [] then e.voice else c.voice
  volume : ∀ q, c.volume = .finite q →
    r.volume = if 1 ≤ sixDecimals q ∧ sixDecimals q ≤ 100 then sixDecimals q else e.volume
  rate : r.rate = if 1 ≤ c.rate ∧ c.rate ≤ 100 then c.rate else e.rate
  preemptiveSpeaking : r.preemptiveSpeaking = e.preemptiveSpeaking

theorem replaceBy_eq (old new : Text) : replaceBy old new = if new = [] then old else new := by
  cases new <;> rfl

theorem setRate_eq (c : TTSConfiguration) (r : Nat) :
    ∃ h, c.setRate r = { c with rate := if 1 ≤ r ∧ r ≤ 100 then r else c.rate, rate_mem := h } := by
  unfold setRate
  by_cases hr : 1 ≤ r ∧ r ≤ 100
  · simp only [dif_pos hr, if_pos hr]
    exact ⟨hr, trivial⟩
  · simp only [dif_neg hr, if_neg hr]
    exact ⟨c.rate_mem, trivial⟩

theorem setVolume_finite (c : TTSConfiguration) (q : ℚ) :
    ∃ h, c.setVolume (.finite q) = { c with volume := if 1 ≤ q ∧ q ≤ 100 then q else c.volume, volume_mem := h } := by
  unfold setVolume
  by_cases hq : 1 ≤ q ∧ q ≤ 100
  · simp only [dif_pos hq, if_pos hq]
    exact ⟨hq, trivial⟩
  · simp only [dif_neg hq, if_neg hq]
    exact ⟨c.volume_mem, trivial⟩

theorem setVolume_eq (c : TTSConfiguration) (v : Double) :
    ∃ q h, c.setVolume v = { c with volume := q, volume_mem := h } ∧
      ∀ x, v = .finite x → q = if 1 ≤ x ∧ x ≤ 100 then x else c.volume := by
  cases v with
  | finite x =>
    obtain ⟨h, hx⟩ := c.setVolume_finite x
    exact ⟨_, h, hx, by rintro _ ⟨⟩; rfl⟩
  | infinite _ => exact ⟨c.volume, c.volume_mem, rfl, fun _ h => nomatch h⟩
  | nan => exact ⟨c.volume, c.volume_mem, rfl, fun _ h => nomatch h⟩

theorem overlaid_overlay (e : TTSConfiguration) (c : Configuration) : e.Overlaid c (e.overlay c) := by
  unfold overlay
  obtain ⟨q, hq, hvol, hx⟩ := setVolume_eq
    ((((e.setEndPoint c.ttsEndPoint).setSecureEndPoint c.ttsEndPointSecured).setLanguage c.language).setVoice c.voice)
    c.volume.printed
  rw [hvol]
  obtain ⟨hr, hrate⟩ := setRate_eq { (((e.setEndPoint c.ttsEndPoint).setSecureEndPoint
    c.ttsEndPointSecured).setLanguage c.language).setVoice c.voice with volume := q, volume_mem := hq } c.rate
  rw [hrate]
  refine ⟨replaceBy_eq _ _, replaceBy_eq _ _, replaceBy_eq _ _, replaceBy_eq _ _, fun x hfin => ?_, rfl, rfl⟩
  exact hx (sixDecimals x) (by rw [hfin]; rfl)

/-- The engine reads what a client sent exactly when no text in it has a comma,
and changes nothing otherwise. -/
theorem fromString_sent (c : Configuration) (e : TTSConfiguration) :
    ((e.fromString (c.toString ',') ',').1 = .ok true ↔ c.CommaFree) ∧
      ((e.fromString (c.toString ',') ',').1 = .ok true → e.Overlaid c (e.fromString (c.toString ',') ',').2) ∧
      ((e.fromString (c.toString ',') ',').1 ≠ .ok true →
        (e.fromString (c.toString ',') ',').1 = .ok false ∧ (e.fromString (c.toString ',') ',').2 = e) := by
  by_cases h : c.CommaFree
  · rw [fromString_toString h]
    exact ⟨⟨fun _ => h, fun _ => rfl⟩, fun _ => overlaid_overlay e c, fun hne => absurd rfl hne⟩
  · have hlen : (split (c.toString ',') ',').length ≠ 6 := fun hl => h (c.length_split_toString_iff.mp hl)
    rw [fromString_of_length hlen]
    exact ⟨⟨fun hf => (nomatch hf), fun hc => absurd hc h⟩, fun hf => (nomatch hf), fun _ => ⟨rfl, rfl⟩⟩

end TTSConfiguration

end TTS
