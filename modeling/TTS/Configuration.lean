import Std.Data.TreeMap
import TTS.Text

/-!
# Speech configurations

A `TTSConfiguration` carries what its setters guarantee, a volume and a rate
between 1 and 100. `fromString` changes the configuration field by field and
may throw between two fields; what was set before stays set.
-/

namespace TTS

/-- The static `m_others`: the keys of the ini file that are no setting. -/
abbrev Others := Std.TreeMap String Text

structure TTSConfiguration where
  ttsEndPoint : Text
  ttsEndPointSecured : Text
  language : Text
  voice : Text
  volume : ℚ
  rate : Nat
  preemptiveSpeaking : Bool
  volume_mem : 1 ≤ volume ∧ volume ≤ 100
  rate_mem : 1 ≤ rate ∧ rate ≤ 100
  deriving DecidableEq

namespace TTSConfiguration

def new : TTSConfiguration where
  ttsEndPoint := []
  ttsEndPointSecured := []
  language := "en-US".toList
  voice := []
  volume := 100
  rate := 50
  preemptiveSpeaking := true
  volume_mem := by decide
  rate_mem := by decide

def replaceBy (old new : Text) : Text := if !new.isEmpty then new else old

def setEndPoint (c : TTSConfiguration) (endpoint : Text) : TTSConfiguration :=
  { c with ttsEndPoint := replaceBy c.ttsEndPoint endpoint }

def setSecureEndPoint (c : TTSConfiguration) (endpoint : Text) : TTSConfiguration :=
  { c with ttsEndPointSecured := replaceBy c.ttsEndPointSecured endpoint }

def setLanguage (c : TTSConfiguration) (language : Text) : TTSConfiguration :=
  { c with language := replaceBy c.language language }

def setVoice (c : TTSConfiguration) (voice : Text) : TTSConfiguration :=
  { c with voice := replaceBy c.voice voice }

def setVolume (c : TTSConfiguration) : Double → TTSConfiguration
  | .finite q => if h : 1 ≤ q ∧ q ≤ 100 then { c with volume := q, volume_mem := h } else c
  | .infinite _ | .nan => c

/-- `rate` is the value after the conversion to `uint8_t`. -/
def setRate (c : TTSConfiguration) (rate : Nat) : TTSConfiguration :=
  if h : 1 ≤ rate ∧ rate ≤ 100 then { c with rate := rate, rate_mem := h } else c

def setPreemptiveSpeak (c : TTSConfiguration) (preemptive : Bool) : TTSConfiguration :=
  { c with preemptiveSpeaking := preemptive }

def resolvedVoice (c : TTSConfiguration) (others : Others) : Text :=
  if c.voice ≠ [] then c.voice else (others[("voice_for_" ++ String.ofList c.language)]?).getD []

def updateWith (c n : TTSConfiguration) : TTSConfiguration :=
  (((((c.setEndPoint n.ttsEndPoint).setSecureEndPoint n.ttsEndPointSecured).setLanguage n.language).setVoice
    n.voice).setVolume (.finite n.volume)).setRate n.rate

def isValid (c : TTSConfiguration) : Bool := !(c.ttsEndPoint.isEmpty && c.ttsEndPointSecured.isEmpty)

theorem setVolume_frame (c : TTSConfiguration) (v : Double) : ∃ q h, c.setVolume v = { c with volume := q, volume_mem := h } := by
  cases v with
  | finite q =>
    simp only [setVolume]
    split
    · rename_i hq
      exact ⟨q, hq, rfl⟩
    · exact ⟨c.volume, c.volume_mem, rfl⟩
  | infinite _ | nan => exact ⟨c.volume, c.volume_mem, rfl⟩

theorem setRate_frame (c : TTSConfiguration) (rate : Nat) : ∃ n h, c.setRate rate = { c with rate := n, rate_mem := h } := by
  simp only [setRate]
  split
  · rename_i hrate
    exact ⟨rate, hrate, rfl⟩
  · exact ⟨c.rate, c.rate_mem, rfl⟩

end TTSConfiguration

def toUint8 (i : Int) : Nat := (i % 256).toNat

/-- `fromString` on the engine's side: how it ends, and the configuration it leaves. -/
def TTSConfiguration.fromStringWith (stod : Text → Except StdException Double) (c : TTSConfiguration) (str : Text)
    (delim : Char) : Except StdException Bool × TTSConfiguration :=
  match split str delim with
  | [endpoint, secureEndpoint, language, voice, volume, rate] =>
    let c := (((c.setEndPoint endpoint).setSecureEndPoint secureEndpoint).setLanguage language).setVoice voice
    match if volume.isEmpty then .ok (.finite 100) else stod volume with
    | .error e => (.error e, c)
    | .ok v =>
      let c := c.setVolume v
      match if rate.isEmpty then .ok 50 else stoi rate with
      | .error e => (.error e, c)
      | .ok r => (.ok true, c.setRate (toUint8 r))
  | _ => (.ok false, c)

/-- `fromString` where reading a volume rounds nothing. -/
def TTSConfiguration.fromString : TTSConfiguration → Text → Char → Except StdException Bool × TTSConfiguration :=
  fromStringWith stodExact

/-- `toString` on the engine's side, with the resolved voice. -/
def TTSConfiguration.toString (c : TTSConfiguration) (others : Others) (delim : Char) : Text :=
  c.ttsEndPoint ++ delim :: c.ttsEndPointSecured ++ delim :: c.language ++ delim :: c.resolvedVoice others ++
    delim :: doubleToString c.volume ++ delim :: natToString c.rate

/-- The copy of endpoints in `TTSManager::setConfiguration` when only one is set. -/
def TTSConfiguration.mirrorEndPoints (c : TTSConfiguration) : TTSConfiguration :=
  if c.ttsEndPoint.isEmpty && !c.ttsEndPointSecured.isEmpty then c.setEndPoint c.ttsEndPointSecured
  else if c.ttsEndPointSecured.isEmpty && !c.ttsEndPoint.isEmpty then c.setSecureEndPoint c.ttsEndPoint
  else c

/-! ## What a configuration says -/

namespace TTSConfiguration

def endPoints (c : TTSConfiguration) : Text × Text := (c.ttsEndPoint, c.ttsEndPointSecured)

/-- Both endpoints are set, or neither is. -/
def EndPointsPaired (c : TTSConfiguration) : Prop := c.ttsEndPoint = [] ↔ c.ttsEndPointSecured = []

instance (c : TTSConfiguration) : Decidable c.EndPointsPaired := inferInstanceAs (Decidable (_ ↔ _))

def Agrees (a b : TTSConfiguration) : Prop :=
  a.ttsEndPoint = b.ttsEndPoint ∧ a.ttsEndPointSecured = b.ttsEndPointSecured ∧ a.language = b.language ∧
    a.voice = b.voice ∧ a.volume = b.volume ∧ a.rate = b.rate

instance (a b : TTSConfiguration) : Decidable (Agrees a b) := inferInstanceAs (Decidable (_ ∧ _))

def EmptyIn (a b : TTSConfiguration) : Prop :=
  (b.ttsEndPoint = [] → a.ttsEndPoint = []) ∧ (b.ttsEndPointSecured = [] → a.ttsEndPointSecured = []) ∧
    (b.language = [] → a.language = []) ∧ (b.voice = [] → a.voice = [])

theorem Agrees.refl (a : TTSConfiguration) : a.Agrees a := ⟨rfl, rfl, rfl, rfl, rfl, rfl⟩

theorem EmptyIn.refl (a : TTSConfiguration) : a.EmptyIn a := ⟨id, id, id, id⟩

theorem Agrees.emptyIn {a b : TTSConfiguration} (h : a.Agrees b) : a.EmptyIn b := by
  obtain ⟨h1, h2, h3, h4, -, -⟩ := h
  exact ⟨fun h => h1.trans h, fun h => h2.trans h, fun h => h3.trans h, fun h => h4.trans h⟩

theorem EmptyIn.trans {a b c : TTSConfiguration} (hab : a.EmptyIn b) (hbc : b.EmptyIn c) : a.EmptyIn c :=
  ⟨fun h => hab.1 (hbc.1 h), fun h => hab.2.1 (hbc.2.1 h), fun h => hab.2.2.1 (hbc.2.2.1 h),
    fun h => hab.2.2.2 (hbc.2.2.2 h)⟩

theorem replaceBy_eq_nil {old new : Text} (h : replaceBy old new = []) : old = [] := by
  cases new with
  | nil => exact h
  | cons c new => cases h

theorem replaceBy_of_nil {old new : Text} (h : new = [] → old = []) : replaceBy old new = new := by
  cases new with
  | nil => exact h rfl
  | cons c new => rfl

theorem emptyIn_setEndPoint (c : TTSConfiguration) (t : Text) : c.EmptyIn (c.setEndPoint t) :=
  ⟨replaceBy_eq_nil, id, id, id⟩

theorem emptyIn_setSecureEndPoint (c : TTSConfiguration) (t : Text) : c.EmptyIn (c.setSecureEndPoint t) :=
  ⟨id, replaceBy_eq_nil, id, id⟩

theorem emptyIn_setLanguage (c : TTSConfiguration) (t : Text) : c.EmptyIn (c.setLanguage t) :=
  ⟨id, id, replaceBy_eq_nil, id⟩

theorem emptyIn_setVoice (c : TTSConfiguration) (t : Text) : c.EmptyIn (c.setVoice t) :=
  ⟨id, id, id, replaceBy_eq_nil⟩

theorem emptyIn_setVolume (c : TTSConfiguration) (v : Double) : c.EmptyIn (c.setVolume v) := by
  cases v with
  | finite q =>
    simp only [setVolume]
    split <;> exact EmptyIn.refl c
  | infinite _ => exact EmptyIn.refl c
  | nan => exact EmptyIn.refl c

theorem emptyIn_setRate (c : TTSConfiguration) (r : Nat) : c.EmptyIn (c.setRate r) := by
  unfold setRate
  split <;> exact EmptyIn.refl c

theorem emptyIn_mirrorEndPoints (c : TTSConfiguration) : c.EmptyIn c.mirrorEndPoints := by
  unfold mirrorEndPoints
  split
  · exact emptyIn_setEndPoint c _
  · split
    · exact emptyIn_setSecureEndPoint c _
    · exact EmptyIn.refl c

theorem emptyIn_fromString (c : TTSConfiguration) (str : Text) (delim : Char) :
    c.EmptyIn (c.fromString str delim).2 := by
  unfold fromString fromStringWith
  split
  · rename_i endpoint secureEndpoint language voice volume rate _
    have h4 : c.EmptyIn ((((c.setEndPoint endpoint).setSecureEndPoint secureEndpoint).setLanguage language).setVoice
        voice) :=
      (((emptyIn_setEndPoint c _).trans (emptyIn_setSecureEndPoint _ _)).trans (emptyIn_setLanguage _ _)).trans
        (emptyIn_setVoice _ _)
    simp only
    split
    · exact h4
    · split
      · exact h4.trans (emptyIn_setVolume _ _)
      · exact (h4.trans (emptyIn_setVolume _ _)).trans (emptyIn_setRate _ _)
  · exact EmptyIn.refl c

theorem endPointsPaired_mirrorEndPoints (c : TTSConfiguration) : c.mirrorEndPoints.EndPointsPaired := by
  obtain ⟨endPoint, endPointSecured, _, _, _, _, _, _, _⟩ := c
  cases endPoint with
  | nil => cases endPointSecured <;> exact ⟨fun h => (by cases h <;> rfl), fun h => (by cases h <;> rfl)⟩
  | cons x xs => cases endPointSecured <;> exact ⟨fun h => (nomatch h), fun h => (nomatch h)⟩

theorem endPoints_updateWith (c n : TTSConfiguration) :
    (c.updateWith n).endPoints =
      (replaceBy c.ttsEndPoint n.ttsEndPoint, replaceBy c.ttsEndPointSecured n.ttsEndPointSecured) := by
  unfold updateWith setRate setVolume setVoice setLanguage setSecureEndPoint setEndPoint
  simp only [n.volume_mem, n.rate_mem, and_self, dite_true]
  rfl

theorem endPointsPaired_updateWith {c n : TTSConfiguration} (hc : c.EndPointsPaired) (hn : n.EndPointsPaired) :
    (c.updateWith n).EndPointsPaired := by
  have hend := endPoints_updateWith c n
  have h1 : (c.updateWith n).ttsEndPoint = replaceBy c.ttsEndPoint n.ttsEndPoint := congrArg Prod.fst hend
  have h2 : (c.updateWith n).ttsEndPointSecured = replaceBy c.ttsEndPointSecured n.ttsEndPointSecured :=
    congrArg Prod.snd hend
  unfold EndPointsPaired at *
  rw [h1, h2]
  cases he : n.ttsEndPoint with
  | nil =>
    rw [hn.mp he]
    exact hc
  | cons x xs =>
    have hs : n.ttsEndPointSecured ≠ [] := fun h => by
      rw [hn.mpr h] at he
      cases he
    obtain ⟨y, ys, hy⟩ := List.exists_cons_of_ne_nil hs
    rw [hy]
    exact ⟨fun h => (nomatch h), fun h => (nomatch h)⟩

theorem agrees_updateWith {c n : TTSConfiguration} (h : c.EmptyIn n) : (c.updateWith n).Agrees n := by
  obtain ⟨h1, h2, h3, h4⟩ := h
  unfold updateWith setRate setVolume setVoice setLanguage setSecureEndPoint setEndPoint
  simp only [n.volume_mem, n.rate_mem, and_self, dite_true]
  exact ⟨replaceBy_of_nil h1, replaceBy_of_nil h2, replaceBy_of_nil h3, replaceBy_of_nil h4, rfl, rfl⟩

end TTSConfiguration

end TTS
