import TTS.Speaker

/-!
# The URL of a speech

`constructURL`: the endpoint, the voice, the language, the rate and the text.
The text is sanitized first; what `curl_easy_escape` makes of it is given as a
function, with no value where it fails.
-/

namespace TTS

def isPunct (c : Char) : Bool := '!'.toNat ≤ c.toNat && c.toNat ≤ '~'.toNat && !c.isAlphanum

def isBoundary (c : Option Char) : Bool := c.all fun c => isPunct c || isSpace c

/-- `replaceIfIsolated` behind `before`, the last character of what is done. -/
def replaceIsolated (search : Char) (replace : Text) : Option Char → Text → Text
  | _, [] => []
  | before, c :: rest =>
    if c = search then
      if isBoundary before && isBoundary rest.head? then
        replace ++ replaceIsolated search replace (replace.getLast?.or before) rest
      else c :: replaceIsolated search replace (some c) rest
    else c :: replaceIsolated search replace (some c) rest

def replaceIfIsolated (text : Text) (search : Char) (replace : Text) : Text := replaceIsolated search replace none text

def isSilentPunctuation (c : Char) : Bool := "?!:;-()".toList.contains c

/-- Where the loop of `replaceSuccesivePunctuation` stands: at its head, at the
character it steps over after it erased a quotation mark, at the test for
punctuation, or in the inner loop. -/
inductive SanitizePhase
  | head
  | skip
  | test
  | inner

def replaceSuccesive : SanitizePhase → Text → Text
  | _, [] => []
  | .head, c :: rest =>
    if c = '"' then replaceSuccesive .skip rest
    else if isPunct c then c :: replaceSuccesive .inner rest
    else c :: replaceSuccesive .head rest
  | .skip, c :: rest => c :: replaceSuccesive .test rest
  | .test, c :: rest => if isPunct c then c :: replaceSuccesive .inner rest else c :: replaceSuccesive .head rest
  | .inner, c :: rest =>
    if isSilentPunctuation c then replaceSuccesive .inner rest
    else if isSpace c then c :: replaceSuccesive .inner rest
    else if c = '"' then replaceSuccesive .skip rest
    else if isPunct c then c :: replaceSuccesive .inner rest
    else c :: replaceSuccesive .head rest

def replaceSuccesivePunctuation (text : Text) : Text := replaceSuccesive .head text

section
variable (escape : Text → Option Text)

def curlSanitize (text : Text) : Text := (escape text).getD text

def sanitizeString (input : Text) : Text :=
  let text := replaceIfIsolated input '$' "dollar".toList
  let text := replaceIfIsolated text '#' "pound".toList
  let text := replaceIfIsolated text '&' "and".toList
  let text := replaceIfIsolated text '|' "bar".toList
  let text := replaceIfIsolated text '/' "or".toList
  curlSanitize escape (replaceSuccesivePunctuation text)

def TTSConfiguration.chosenEndPoint (c : TTSConfiguration) (secure : Bool) : Text :=
  if secure then c.ttsEndPointSecured else c.ttsEndPoint

def constructURL (config : TTSConfiguration) (others : Others) (d : SpeechData) : Text :=
  if !config.isValid then []
  else
    let request := config.chosenEndPoint d.secure
    let request :=
      if !(config.resolvedVoice others).isEmpty then request ++ "voice=".toList ++ config.resolvedVoice others else request
    let request := if !config.language.isEmpty then request ++ "&language=".toList ++ config.language else request
    let request := request ++ "&rate=".toList ++ natToString (if config.rate > 100 then 100 else config.rate)
    request ++ "&text=".toList ++ sanitizeString escape d.text

theorem chosenEndPoint_prefix {config : TTSConfiguration} (h : config.isValid = true) (others : Others) (d : SpeechData) :
    config.chosenEndPoint d.secure <+: constructURL escape config others d := by
  have hadd : ∀ (p : Bool) (request a b : Text), request <+: if p then request ++ a ++ b else request := by
    intro p request a b
    split
    · rw [List.append_assoc]
      exact List.prefix_append _ _
    · exact List.prefix_refl _
  have hend : ∀ request a b c d : Text, request <+: request ++ a ++ b ++ c ++ d := by
    intro request a b c d
    rw [List.append_assoc, List.append_assoc, List.append_assoc]
    exact List.prefix_append _ _
  rw [constructURL, h]
  exact ((hadd _ _ _ _).trans (hadd _ _ _ _)).trans (hend _ _ _ _ _)

end

end TTS
