import TTS.ConfigurationUpdates
import TTS.NumeralReads

/-!
# Volume and rate as texts

A text for the volume or the rate goes through `stod` or `stoi`, which throw or
read a mere prefix of it. A volume is rounded to a `double`, and a rate is cut to
8 bits, before its range is tested. In a configuration string the rate comes
last, where `split` drops an empty field.
-/

namespace TTS

open Numerals

def DenotesNumber (v : Text) (q : ℚ) : Prop := ∃ n : Decimal, Padded isSpace v n.text ∧ n.value = q

def DenotesInteger (v : Text) (i : Int) : Prop := ∃ n : Integer, Padded isSpace v n.text ∧ n.value = i

/-- How a volume is read, and what is stored of a number in the range. -/
structure VolumeReader where
  stod : Text → Except StdException Double
  stored : ℚ → ℚ
  stored_inRange : ∀ q, 1 ≤ q ∧ q ≤ 100 → 1 ≤ stored q ∧ stored q ≤ 100
  stod_denotes : ∀ v q, DenotesNumber v q → 1 ≤ q ∧ q ≤ 100 → stod v = .ok (.finite (stored q))

namespace VolumeReader

/-- The code's: the number is stored as the nearest `double`. -/
def double : VolumeReader where
  stod := TTS.stod
  stored := nearestDouble
  stored_inRange := fun _ => nearestDouble_inRange
  stod_denotes := by
    rintro v q ⟨n, hv, rfl⟩ hq
    exact stod_padded hv hq

/-- The one that rounds nothing. -/
def exact : VolumeReader where
  stod := stodExact
  stored := id
  stored_inRange := fun _ => id
  stod_denotes := by
    rintro v q ⟨n, hv, rfl⟩ hq
    exact stodExact_padded hv hq

end VolumeReader

theorem stoi_denotes {v : Text} {i : Int} (h : DenotesInteger v i) (hmin : -2 ^ 31 ≤ i) (hmax : i < 2 ^ 31) :
    stoi v = .ok i := by
  obtain ⟨n, hv, rfl⟩ := h
  exact stoi_padded hv hmin hmax

/-! ## What a setting should become -/

/-- The setting becomes what is stored of the number that the text denotes within
the range, and else stays. -/
structure SettingRead {α β : Type} (denotes : Text → α → Prop) (inRange : α → Prop) (stored : α → β) (v : Text)
    (old new : β) : Prop where
  becomes : ∀ a, denotes v a → inRange a → new = stored a
  keeps : (∀ a, denotes v a → ¬ inRange a) → new = old

/-- Where `taken` is what the code takes of a text, it finds what the text
denotes within the range; the rest is that it takes nothing of other texts. -/
theorem settingRead_iff {α β : Type} {denotes : Text → α → Prop} {inRange : α → Prop} {stored : α → β} {v : Text}
    {taken : Option β} {old : β} (hdenotes : ∀ a, denotes v a → inRange a → taken = some (stored a)) :
    SettingRead denotes inRange stored v old (taken.getD old) ↔
      ∀ b, taken = some b → b ≠ old → ∃ a, denotes v a ∧ inRange a := by
  constructor
  · intro h b hb hne
    rw [hb, Option.getD_some] at h
    by_contra hnone
    apply hne
    apply h.keeps
    intro a ha hin
    exact hnone ⟨a, ha, hin⟩
  · intro h
    constructor
    · intro a ha hin
      rw [hdenotes a ha hin, Option.getD_some]
    · intro hnone
      cases taken with
      | none => rfl
      | some b =>
        rw [Option.getD_some]
        by_contra hne
        obtain ⟨a, ha, hin⟩ := h b rfl hne
        exact hnone a ha hin

namespace TTSConfiguration

def VolumeRead (reader : VolumeReader) : Text → ℚ → ℚ → Prop :=
  SettingRead DenotesNumber (fun q => 1 ≤ q ∧ q ≤ 100) reader.stored

def RateRead : Text → Nat → Nat → Prop := SettingRead (fun v (n : Nat) => DenotesInteger v n) (fun n => 1 ≤ n ∧ n ≤ 100) id

/-- What `setVolume` takes. -/
def takenVolume : Double → Option ℚ
  | .finite q => if 1 ≤ q ∧ q ≤ 100 then some q else none
  | .infinite _ | .nan => none

/-- What `setRate` takes. -/
def takenRate (rate : Nat) : Option Nat := if 1 ≤ rate ∧ rate ≤ 100 then some rate else none

/-- `stod` converts the text; nothing is taken of it, or the volume there is, or
the whole text denotes a number in the range. -/
def VolumeConverts (reader : VolumeReader) (v : Text) (old : ℚ) : Prop :=
  ∃ d, reader.stod v = .ok d ∧
    ∀ q, takenVolume d = some q → q ≠ old → ∃ p, DenotesNumber v p ∧ 1 ≤ p ∧ p ≤ 100

/-- The same of `stoi` and what 8 bits keep of its result. -/
def RateConverts (v : Text) (old : Nat) : Prop :=
  ∃ r, stoi v = .ok r ∧
    ∀ n, takenRate (toUint8 r) = some n → n ≠ old → ∃ m : Nat, DenotesInteger v m ∧ 1 ≤ m ∧ m ≤ 100

theorem setVolume_volume (c : TTSConfiguration) (d : Double) : (c.setVolume d).volume = (takenVolume d).getD c.volume := by
  cases d with
  | finite q =>
    simp only [setVolume, takenVolume]
    split <;> rfl
  | infinite _ | nan => rfl

theorem setRate_rate (c : TTSConfiguration) (rate : Nat) : (c.setRate rate).rate = (takenRate rate).getD c.rate := by
  simp only [setRate, takenRate]
  split <;> rfl

theorem volumeRead_iff {reader : VolumeReader} {v : Text} {d : Double} (h : reader.stod v = .ok d) (c : TTSConfiguration) :
    VolumeRead reader v c.volume (c.setVolume d).volume ↔ VolumeConverts reader v c.volume := by
  rw [setVolume_volume, VolumeRead, settingRead_iff]
  · unfold VolumeConverts
    simp [h]
  · intro q hq hin
    rw [reader.stod_denotes v q hq hin] at h
    cases h
    exact if_pos (reader.stored_inRange q hin)

theorem rateRead_iff {v : Text} {r : Int} (h : stoi v = .ok r) (c : TTSConfiguration) :
    RateRead v c.rate (c.setRate (toUint8 r)).rate ↔ RateConverts v c.rate := by
  rw [setRate_rate, RateRead, settingRead_iff]
  · unfold RateConverts
    simp [h]
  · intro n hn hin
    rw [stoi_denotes hn (by omega) (by omega)] at h
    cases h
    have hbyte : toUint8 (n : Int) = n := by
      unfold toUint8
      omega
    rw [hbyte]
    exact if_pos hin

def texts (c : TTSConfiguration) : List Text := [c.ttsEndPoint, c.ttsEndPointSecured, c.language, c.voice]

theorem setVolume_others (c : TTSConfiguration) (d : Double) :
    (c.setVolume d).rate = c.rate ∧ (c.setVolume d).texts = c.texts := by
  obtain ⟨q, hq, he⟩ := c.setVolume_frame d
  rw [he]
  exact ⟨rfl, rfl⟩

theorem setRate_others (c : TTSConfiguration) (rate : Nat) :
    (c.setRate rate).volume = c.volume ∧ (c.setRate rate).texts = c.texts := by
  obtain ⟨n, hn, he⟩ := c.setRate_frame rate
  rw [he]
  exact ⟨rfl, rfl⟩

theorem setTexts_frame (c : TTSConfiguration) (configSet : Others) :
    (c.setTexts configSet).volume = c.volume ∧ (c.setTexts configSet).rate = c.rate := by
  unfold setTexts
  cases configSet["TTSEndPoint"]? <;> cases configSet["SecureTTSEndPoint"]? <;> cases configSet["Language"]? <;>
    cases configSet["Voice"]? <;> exact ⟨rfl, rfl⟩

end TTSConfiguration

open TTSConfiguration

/-! ## The file -/

/-- A setting that is not given stays. -/
def GivenRead {α : Type} (read : Text → α → α → Prop) (given : Option Text) (old new : α) : Prop :=
  given.elim (new = old) fun v => read v old new

def loadPolicy (configSet : Others) : ResourceAllocationPolicy :=
  if configSet["ResourceAccessPolicy"]? = some "Reservation".toList then .reservation else .open

/-- The file is read to its end, with the volume and the rate as they should be. -/
def FileRead (reader : VolumeReader) (c : TTSConfiguration) (others : Others) (lines : List Text) : Prop :=
  ∃ r, loadConfigurationsFromFileWith reader.stod c others (some lines) = .ok r ∧
    GivenRead (VolumeRead reader) (readLines lines)["Volume"]? c.volume r.configuration.volume ∧
    GivenRead RateRead (readLines lines)["Rate"]? c.rate r.configuration.rate ∧
    r.configuration.texts = (c.setTexts (readLines lines)).texts ∧
    r.others = settingKeys.foldl Std.TreeMap.erase (readLines lines) ∧
    r.policy = some (loadPolicy (readLines lines))

def loadVolume (reader : VolumeReader) (c : TTSConfiguration) : Option Text → Except StdException TTSConfiguration
  | some volume => (reader.stod volume).map c.setVolume
  | none => .ok c

def loadRate (c : TTSConfiguration) : Option Text → Except StdException TTSConfiguration
  | some rate => (stoi rate).map fun r => c.setRate (toUint8 r)
  | none => .ok c

theorem map_eq_ok_iff {ε α β : Type} {x : Except ε α} {f : α → β} {b : β} :
    x.map f = .ok b ↔ ∃ a, x = .ok a ∧ f a = b := by
  cases x with
  | error e => exact iff_of_false nofun nofun
  | ok a =>
    constructor
    · intro h
      exact ⟨a, rfl, Except.ok.inj h⟩
    · rintro ⟨a', ha, hb⟩
      cases ha
      exact congrArg Except.ok hb

theorem converted_iff {α : Type} {x : Except StdException α} {f : α → TTSConfiguration} {P : TTSConfiguration → Prop} {q : Prop}
    (hset : ∀ a, x = .ok a → (P (f a) ↔ q)) (hq : q → ∃ a, x = .ok a) : (∃ c, x.map f = .ok c ∧ P c) ↔ q := by
  constructor
  · rintro ⟨c, hload, hP⟩
    obtain ⟨a, ha, rfl⟩ := map_eq_ok_iff.mp hload
    exact (hset a ha).mp hP
  · intro h
    obtain ⟨a, ha⟩ := hq h
    exact ⟨f a, map_eq_ok_iff.mpr ⟨a, ha, rfl⟩, (hset a ha).mpr h⟩

theorem loadVolume_iff (reader : VolumeReader) (c : TTSConfiguration) (given : Option Text) :
    (∃ c', loadVolume reader c given = .ok c' ∧ GivenRead (VolumeRead reader) given c.volume c'.volume) ↔
      ∀ v, given = some v → VolumeConverts reader v c.volume := by
  cases given with
  | none => exact iff_of_true ⟨c, rfl, rfl⟩ nofun
  | some v =>
    have hiff : (∃ c', (reader.stod v).map c.setVolume = .ok c' ∧ VolumeRead reader v c.volume c'.volume) ↔
        VolumeConverts reader v c.volume :=
      converted_iff (fun d hd => volumeRead_iff hd c) fun ⟨d, hd, _⟩ => ⟨d, hd⟩
    simpa [loadVolume, GivenRead] using hiff

theorem loadRate_iff (c : TTSConfiguration) (given : Option Text) :
    (∃ c', loadRate c given = .ok c' ∧ GivenRead RateRead given c.rate c'.rate) ↔
      ∀ v, given = some v → RateConverts v c.rate := by
  cases given with
  | none => exact iff_of_true ⟨c, rfl, rfl⟩ nofun
  | some v =>
    have hiff : (∃ c', ((stoi v).map fun r => c.setRate (toUint8 r)) = .ok c' ∧ RateRead v c.rate c'.rate) ↔
        RateConverts v c.rate :=
      converted_iff (fun r hr => rateRead_iff hr c) fun ⟨r, hr, _⟩ => ⟨r, hr⟩
    simpa [loadRate, GivenRead] using hiff

theorem loadVolume_others {reader : VolumeReader} {c c' : TTSConfiguration} {given : Option Text}
    (h : loadVolume reader c given = .ok c') :
    c'.rate = c.rate ∧ c'.texts = c.texts := by
  cases given with
  | none =>
    cases h
    exact ⟨rfl, rfl⟩
  | some v =>
    obtain ⟨d, -, rfl⟩ := map_eq_ok_iff.mp h
    exact c.setVolume_others d

theorem loadRate_others {c c' : TTSConfiguration} {given : Option Text} (h : loadRate c given = .ok c') :
    c'.volume = c.volume ∧ c'.texts = c.texts := by
  cases given with
  | none =>
    cases h
    exact ⟨rfl, rfl⟩
  | some v =>
    obtain ⟨r, -, rfl⟩ := map_eq_ok_iff.mp h
    exact c.setRate_others (toUint8 r)

theorem bind_eq_ok_iff {ε α β : Type} {x : Except ε α} {f : α → Except ε β} {b : β} :
    (x >>= f) = .ok b ↔ ∃ a, x = .ok a ∧ f a = .ok b := by
  cases x with
  | error e => exact iff_of_false nofun nofun
  | ok a =>
    constructor
    · exact fun h => ⟨a, rfl, h⟩
    · rintro ⟨a', ha, hb⟩
      cases ha
      exact hb

theorem loadConfigurationsFromFile_eq (reader : VolumeReader) (c : TTSConfiguration) (others : Others) (lines : List Text) :
    loadConfigurationsFromFileWith reader.stod c others (some lines) = (do
      let c₁ ← loadVolume reader (c.setTexts (readLines lines)) (readLines lines)["Volume"]?
      let c₂ ← loadRate c₁ (readLines lines)["Rate"]?
      return ⟨c₂, settingKeys.foldl Std.TreeMap.erase (readLines lines), some (loadPolicy (readLines lines))⟩) := by
  unfold loadConfigurationsFromFileWith loadPolicy
  dsimp only
  generalize settingKeys.foldl Std.TreeMap.erase (readLines lines) = rest
  generalize (if (readLines lines)["ResourceAccessPolicy"]? = some "Reservation".toList then
    ResourceAllocationPolicy.reservation else .open) = policy
  generalize c.setTexts (readLines lines) = c₀
  generalize (readLines lines)["Rate"]? = rate
  cases (readLines lines)["Volume"]? <;> cases rate <;> rfl

theorem fileRead_iff (reader : VolumeReader) (c : TTSConfiguration) (others : Others) (lines : List Text) :
    FileRead reader c others lines ↔
      (∀ v, (readLines lines)["Volume"]? = some v → VolumeConverts reader v c.volume) ∧
        ∀ v, (readLines lines)["Rate"]? = some v → RateConverts v c.rate := by
  obtain ⟨hvolume, hrate⟩ := c.setTexts_frame (readLines lines)
  have hv := loadVolume_iff reader (c.setTexts (readLines lines)) (readLines lines)["Volume"]?
  rw [hvolume] at hv
  unfold FileRead
  rw [loadConfigurationsFromFile_eq, ← hv]
  constructor
  · rintro ⟨r, hload, hvol, hrat, -⟩
    obtain ⟨c₁, h₁, hload⟩ := bind_eq_ok_iff.mp hload
    obtain ⟨c₂, h₂, hload⟩ := bind_eq_ok_iff.mp hload
    cases hload
    have hr := loadRate_iff c₁ (readLines lines)["Rate"]?
    rw [(loadVolume_others h₁).1, hrate] at hr
    rw [(loadRate_others h₂).1] at hvol
    exact ⟨⟨c₁, h₁, hvol⟩, hr.mp ⟨c₂, h₂, hrat⟩⟩
  · rintro ⟨⟨c₁, h₁, hvol⟩, hrat⟩
    have hr := loadRate_iff c₁ (readLines lines)["Rate"]?
    rw [(loadVolume_others h₁).1, hrate] at hr
    obtain ⟨c₂, h₂, hrat⟩ := hr.mpr hrat
    refine ⟨_, bind_eq_ok_iff.mpr ⟨c₁, h₁, bind_eq_ok_iff.mpr ⟨c₂, h₂, rfl⟩⟩, ?_, hrat, ?_, rfl, rfl⟩
    · rw [(loadRate_others h₂).1]
      exact hvol
    · rw [(loadRate_others h₂).2, (loadVolume_others h₁).2]

/-! ## The configuration string -/

/-- The fields of a configuration string; a comma in one would end it. -/
structure SixFields where
  endpoint : Text
  secureEndpoint : Text
  language : Text
  voice : Text
  volume : Text
  rate : Text
  commaFree : ∀ t ∈ [endpoint, secureEndpoint, language, voice, volume, rate], ',' ∉ t

def SixFields.joined (f : SixFields) : Text :=
  f.endpoint ++ ',' :: (f.secureEndpoint ++ ',' :: (f.language ++ ',' :: (f.voice ++ ',' :: (f.volume ++ ',' :: f.rate))))

def TTSConfiguration.setFields (c : TTSConfiguration) (f : SixFields) : TTSConfiguration :=
  (((c.setEndPoint f.endpoint).setSecureEndPoint f.secureEndpoint).setLanguage f.language).setVoice f.voice

/-- A field that is empty stands for the default. -/
def FieldRead {α : Type} (read : Text → α → α → Prop) (default : α) (field : Text) (old new : α) : Prop :=
  if field = [] then new = default else read field old new

/-- The string is applied, with the volume and the rate as they should be. -/
def StringRead (reader : VolumeReader) (c : TTSConfiguration) (f : SixFields) : Prop :=
  ∃ c', c.fromStringWith reader.stod f.joined ',' = (.ok true, c') ∧
    FieldRead (VolumeRead reader) 100 f.volume c.volume c'.volume ∧ FieldRead RateRead 50 f.rate c.rate c'.rate ∧
    c'.texts = (c.setFields f).texts

theorem SixFields.split_joined (f : SixFields) :
    split f.joined ',' = [f.endpoint, f.secureEndpoint, f.language, f.voice, f.volume] ++ split f.rate ',' := by
  have hfree := f.commaFree
  simp only [List.forall_mem_cons] at hfree
  obtain ⟨hendpoint, hsecure, hlanguage, hvoice, hvolume, -⟩ := hfree
  rw [joined, split_append_cons hendpoint, split_append_cons hsecure, split_append_cons hlanguage,
    split_append_cons hvoice, split_append_cons hvolume]
  rfl

theorem fromString_of_rate_empty (reader : VolumeReader) (c : TTSConfiguration) {f : SixFields} (h : f.rate = []) :
    c.fromStringWith reader.stod f.joined ',' = (.ok false, c) := by
  have hfive : split f.joined ',' = [f.endpoint, f.secureEndpoint, f.language, f.voice, f.volume] := by
    rw [f.split_joined, h]
    rfl
  rw [fromStringWith, hfive]

theorem split_joined_of_rate {f : SixFields} (h : f.rate ≠ []) :
    split f.joined ',' = [f.endpoint, f.secureEndpoint, f.language, f.voice, f.volume, f.rate] := by
  rw [f.split_joined, split_of_not_mem (f.commaFree f.rate (by simp)) h]
  rfl

theorem fromString_joined_iff (reader : VolumeReader) (c c' : TTSConfiguration) {f : SixFields} (h : f.rate ≠ []) :
    c.fromStringWith reader.stod f.joined ',' = (.ok true, c') ↔
      ∃ d r, volumeField reader.stod f.volume = .ok d ∧ stoi f.rate = .ok r ∧
        c' = ((c.setFields f).setVolume d).setRate (toUint8 r) := by
  rw [fromStringWith, split_joined_of_rate h]
  dsimp only
  have hvolume : (if f.volume.isEmpty then .ok (.finite 100) else reader.stod f.volume) =
      volumeField reader.stod f.volume := rfl
  have hrate : (if f.rate.isEmpty then .ok 50 else stoi f.rate) = stoi f.rate := if_neg (by simpa using h)
  rw [hvolume, hrate]
  generalize volumeField reader.stod f.volume = volume
  generalize stoi f.rate = rate
  cases volume with
  | error e =>
    refine iff_of_false ?_ ?_
    · intro he
      cases he
    · rintro ⟨_, _, hd, _⟩
      cases hd
  | ok d =>
    cases rate with
    | error e =>
      refine iff_of_false ?_ ?_
      · intro he
        cases he
      · rintro ⟨_, _, _, hr, _⟩
        cases hr
    | ok r =>
      constructor
      · intro he
        exact ⟨d, r, rfl, rfl, (congrArg Prod.snd he).symm⟩
      · rintro ⟨d', r', hd, hr, rfl⟩
        cases hd
        cases hr
        rfl

theorem fieldRead_volume_iff {reader : VolumeReader} {volume : Text} {d : Double}
    (h : volumeField reader.stod volume = .ok d) (c : TTSConfiguration) :
    FieldRead (VolumeRead reader) 100 volume c.volume (c.setVolume d).volume ↔
      volume = [] ∨ VolumeConverts reader volume c.volume := by
  unfold FieldRead
  cases volume with
  | nil =>
    cases h
    exact iff_of_true rfl (.inl rfl)
  | cons x xs =>
    have hread := volumeRead_iff (show reader.stod (x :: xs) = .ok d from h) c
    simpa using hread

theorem volumeField_of_converts {reader : VolumeReader} {volume : Text} {old : ℚ}
    (h : volume = [] ∨ VolumeConverts reader volume old) : ∃ d, volumeField reader.stod volume = .ok d := by
  apply (readsField_iff (.finite 100) reader.stod volume).mpr
  exact h.imp_right fun ⟨d, hd, _⟩ => ⟨d, hd⟩

theorem stringRead_iff (reader : VolumeReader) (c : TTSConfiguration) (f : SixFields) :
    StringRead reader c f ↔
      f.rate ≠ [] ∧ (f.volume = [] ∨ VolumeConverts reader f.volume c.volume) ∧ RateConverts f.rate c.rate := by
  unfold StringRead
  by_cases hrate : f.rate = []
  · rw [fromString_of_rate_empty reader c hrate]
    refine iff_of_false ?_ fun h => h.1 hrate
    rintro ⟨c', he, -⟩
    cases he
  · have hfield : ∀ new, FieldRead RateRead 50 f.rate c.rate new = RateRead f.rate c.rate new := fun new => if_neg hrate
    simp only [fromString_joined_iff reader c _ hrate, hfield]
    constructor
    · rintro ⟨c', ⟨d, r, hd, hr, rfl⟩, hvol, hrat, -⟩
      rw [(((c.setFields f).setVolume d).setRate_others _).1] at hvol
      refine ⟨hrate, (fieldRead_volume_iff hd (c.setFields f)).mp hvol, ?_⟩
      have hiff := rateRead_iff hr ((c.setFields f).setVolume d)
      rw [((c.setFields f).setVolume_others d).1] at hiff
      exact hiff.mp hrat
    · rintro ⟨-, hvol, hrat⟩
      obtain ⟨d, hd⟩ := volumeField_of_converts hvol
      obtain ⟨r, hr, -⟩ := id hrat
      refine ⟨_, ⟨d, r, hd, hr, rfl⟩, ?_, ?_, ?_⟩
      · rw [(((c.setFields f).setVolume d).setRate_others _).1]
        exact (fieldRead_volume_iff hd (c.setFields f)).mpr hvol
      · have hiff := rateRead_iff hr ((c.setFields f).setVolume d)
        rw [((c.setFields f).setVolume_others d).1] at hiff
        exact hiff.mpr hrat
      · rw [(((c.setFields f).setVolume d).setRate_others _).2, ((c.setFields f).setVolume_others d).2]

/-- Both ways in, a text sets what it denotes and nothing else exactly when it
converts, what is taken of it is what was set or of a number that the whole text
denotes, and, in a string, the rate is not empty. -/
theorem numericSettings_iff (c : TTSConfiguration) (others : Others) (lines : List Text) (f : SixFields) :
    (FileRead .double c others lines ↔
        (∀ v, (readLines lines)["Volume"]? = some v → VolumeConverts .double v c.volume) ∧
          ∀ v, (readLines lines)["Rate"]? = some v → RateConverts v c.rate) ∧
      (StringRead .double c f ↔
        f.rate ≠ [] ∧ (f.volume = [] ∨ VolumeConverts .double f.volume c.volume) ∧ RateConverts f.rate c.rate) := by
  constructor
  · exact fileRead_iff .double c others lines
  · exact stringRead_iff .double c f

/-- A file without a number for the volume is not loaded; a rate of 300 is taken
as 44; an empty rate has the whole string refused. -/
theorem numericSettings_misread :
    ¬ FileRead .double .new ∅ ["Volume=loud".toList] ∧ ¬ FileRead .double .new ∅ ["Rate=300".toList] ∧
      ¬ StringRead .double .new ⟨"http://tts/?".toList, [], [], [], "80".toList, [], by decide⟩ := by
  refine ⟨?_, ?_, ?_⟩
  · rintro ⟨r, hload, -⟩
    cases hload
  · intro h
    obtain ⟨r, hr, htaken⟩ := ((fileRead_iff _ _ _ _).mp h).2 "300".toList rfl
    cases hr
    obtain ⟨m, hm, hin⟩ := htaken 44 rfl (by decide)
    have hdenotes := stoi_denotes hm (by omega) (by omega)
    cases hdenotes
    exact absurd hin.2 (by decide)
  · intro h
    exact ((stringRead_iff _ _ _).mp h).1 rfl

end TTS
