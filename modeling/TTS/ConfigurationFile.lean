import TTS.Manager

/-!
# The configuration file

`loadConfigurationsFromFile` matches each line with a pattern that is a
sequence of repeated character classes. As `std::regex` does, a piece takes as
many characters as it can and gives them back one at a time.
-/

namespace TTS

/-! ## Patterns -/

/-- A class of characters, taken once, once or more, or any number of times. -/
inductive Piece
  | one (p : Char → Bool)
  | plus (p : Char → Bool)
  | star (p : Char → Bool)

namespace Piece

/-- What `star` takes, and what `rest` makes of what it leaves. -/
def takeRun {α : Type} (p : Char → Bool) (rest : Text → Option α) : Text → Option (Text × α)
  | [] => (rest []).map fun r => ([], r)
  | c :: cs =>
    let here := (rest (c :: cs)).map fun r => ([], r)
    if p c then
      match takeRun p rest cs with
      | some (t, r) => some (c :: t, r)
      | none => here
    else here

/-- The text each piece takes when the pieces take the whole text. -/
def fullMatch : List Piece → Text → Option (List Text)
  | [], s => if s.isEmpty then some [] else none
  | .star p :: ps, s => (takeRun p (fullMatch ps) s).map fun r => r.1 :: r.2
  | .one p :: ps, c :: s => if p c then (fullMatch ps s).map ([c] :: ·) else none
  | .plus p :: ps, c :: s => if p c then (takeRun p (fullMatch ps) s).map fun r => (c :: r.1) :: r.2 else none
  | .one _ :: _, [] | .plus _ :: _, [] => none

def Takes : Piece → Text → Prop
  | .one p, t => t.length = 1 ∧ ∀ c ∈ t, p c = true
  | .plus p, t => t ≠ [] ∧ ∀ c ∈ t, p c = true
  | .star p, t => ∀ c ∈ t, p c = true

end Piece

/-! ## Lines -/

def isKeyChar (c : Char) : Bool := c.isAlphanum || c = '_' || c = '-'

/-- `.` takes no line terminator. -/
def isAnyChar (c : Char) : Bool := c ≠ '\n' && c ≠ '\r'

/-- `\s*([a-zA-Z0-9_-]+)\s*=\s*([^ ]+).*$` -/
def linePattern : List Piece :=
  [.star isSpace, .plus isKeyChar, .star isSpace, .one (· = '='), .star isSpace, .plus (· ≠ ' '), .star isAnyChar]

def matchLine (line : Text) : Option (String × Text) :=
  match Piece.fullMatch linePattern (line.takeWhile (· ≠ '\x00')) with
  | some [_, key, _, _, _, value, _] => some (String.ofList key, value)
  | _ => none

def readLines (lines : List Text) : Others :=
  lines.foldl (fun configSet line =>
    match matchLine line with
    | some (key, value) => configSet.insert key value
    | none => configSet) ∅

/-! ## Loading -/

/-- What `loadConfigurationsFromFile` sets; no policy when the file does not open. -/
structure LoadedConfiguration where
  configuration : TTSConfiguration
  others : Others
  policy : Option ResourceAllocationPolicy

/-- The keys taken out of `configSet`; what is left becomes `m_others`. -/
def settingKeys : List String :=
  ["TTSEndPoint", "SecureTTSEndPoint", "Language", "Voice", "Volume", "Rate", "ResourceAccessPolicy"]

def TTSConfiguration.setTexts (c : TTSConfiguration) (configSet : Others) : TTSConfiguration :=
  let c := (configSet["TTSEndPoint"]?).elim c c.setEndPoint
  let c := (configSet["SecureTTSEndPoint"]?).elim c c.setSecureEndPoint
  let c := (configSet["Language"]?).elim c c.setLanguage
  (configSet["Voice"]?).elim c c.setVoice

def loadConfigurationsFromFileWith (stod : Text → Except StdException Double) (c : TTSConfiguration) (others : Others)
    (file : Option (List Text)) : Except StdException LoadedConfiguration :=
  match file with
  | none => .ok ⟨c, others, none⟩
  | some lines => do
    let configSet := readLines lines
    let c := c.setTexts configSet
    let c ←
      match configSet["Volume"]? with
      | some volume => (stod volume).map c.setVolume
      | none => .ok c
    let c ←
      match configSet["Rate"]? with
      | some rate => (stoi rate).map fun r => c.setRate (toUint8 r)
      | none => .ok c
    let policy := if configSet["ResourceAccessPolicy"]? = some "Reservation".toList then .reservation else .open
    return ⟨c, settingKeys.foldl Std.TreeMap.erase configSet, some policy⟩

/-- `loadConfigurationsFromFile` where reading the volume rounds nothing. -/
def loadConfigurationsFromFile :
    TTSConfiguration → Others → Option (List Text) → Except StdException LoadedConfiguration :=
  loadConfigurationsFromFileWith stodExact

/-- The constructor of `TTSManager`, when reading the file did not throw. -/
def TTSManager.load (file : Option (List Text)) (maxFailures : Nat) : Except StdException TTSManager :=
  (loadConfigurationsFromFile .new ∅ file).map fun r =>
    .new r.configuration r.others (r.policy.getD .invalid) maxFailures

end TTS
