import Mathlib.Data.List.TakeWhile
import TTS.NumericSettings

/-!
# Files that follow the ini format

Lines of the documented format, and what the pattern finds in them. A pattern
whose pieces each stop at a character they do not take matches without giving
anything back.
-/

namespace TTS

/-! ## Greedy matches -/

namespace Piece

/-- The piece cannot take more of `s`. -/
def Stops : Piece → Text → Prop
  | .one _, _ => True
  | .plus p, s | .star p, s => ∀ c, s.head? = some c → p c = false

/-- Each text is what its piece takes in front of the texts behind it. -/
def Greedy : List Piece → List Text → Prop
  | [], [] => True
  | piece :: ps, t :: ts => piece.Takes t ∧ piece.Stops ts.flatten ∧ Greedy ps ts
  | _, _ => False

theorem takeRun_append {α : Type} {p : Char → Bool} {rest : Text → Option α} {t s : Text} {r : α}
    (ht : ∀ c ∈ t, p c = true) (hs : ∀ c, s.head? = some c → p c = false) (hr : rest s = some r) :
    takeRun p rest (t ++ s) = some (t, r) := by
  induction t with
  | nil =>
    cases s with
    | nil => simp [takeRun, hr]
    | cons c s => simp [takeRun, hs c rfl, hr]
  | cons c t ih =>
    have ih := ih fun c hc => ht c (List.mem_cons_of_mem _ hc)
    simp [takeRun, ht c List.mem_cons_self, ih]

theorem fullMatch_greedy {ps : List Piece} {ts : List Text} (h : Greedy ps ts) : fullMatch ps ts.flatten = some ts := by
  induction ps generalizing ts with
  | nil =>
    cases ts with
    | nil => rfl
    | cons t ts => cases h
  | cons piece ps ih =>
    cases ts with
    | nil => cases h
    | cons t ts =>
      obtain ⟨htakes, hstops, h⟩ := h
      have hrest := ih h
      rw [List.flatten_cons]
      cases piece with
      | one p =>
        obtain ⟨c, rfl⟩ := List.length_eq_one_iff.mp htakes.1
        simp [fullMatch, htakes.2 c, hrest]
      | star p => simp [fullMatch, takeRun_append htakes hstops hrest]
      | plus p =>
        cases t with
        | nil => exact absurd rfl htakes.1
        | cons c t =>
          have hrun := takeRun_append (fun c' hc' => htakes.2 c' (List.mem_cons_of_mem c hc')) hstops hrest
          simp [fullMatch, htakes.2 c, hrun]

theorem takeRun_eq_none {α : Type} {p : Char → Bool} {rest : Text → Option α} {t s : Text} {c : Char}
    (hc : p c = false) (hrest : ∀ t', t' <:+ t → rest (t' ++ c :: s) = none) : takeRun p rest (t ++ c :: s) = none := by
  induction t with
  | nil => simpa [takeRun, hc] using hrest [] List.suffix_rfl
  | cons c' t ih =>
    have ih := ih fun t' ht' => hrest t' (ht'.trans (List.suffix_cons c' t))
    have hhere := hrest (c' :: t) List.suffix_rfl
    rw [List.cons_append] at hhere
    simp [takeRun, ih, hhere]

end Piece

/-! ## The format -/

/-- A line `key=value` with blanks around the parts and any text behind a space. -/
structure Setting where
  lead : Text
  key : Text
  mid : Text
  gap : Text
  value : Text
  trail : Text
  lead_blank : ∀ c ∈ lead, isSpace c = true
  key_ne : key ≠ []
  key_chars : ∀ c ∈ key, isKeyChar c = true
  mid_blank : ∀ c ∈ mid, isSpace c = true
  gap_blank : ∀ c ∈ gap, isSpace c = true
  value_ne : value ≠ []
  value_chars : ∀ c ∈ value, isSpace c = false
  trail_space : trail = [] ∨ trail.head? = some ' '
  volume_inRange : key = "Volume".toList → ∃ q, DenotesNumber value q ∧ 1 ≤ q ∧ q ≤ 100
  rate_inRange : key = "Rate".toList → ∃ n : Nat, DenotesInteger value n ∧ 1 ≤ n ∧ n ≤ 100

/-- The texts that the pieces of the pattern are to take. -/
def Setting.parts (s : Setting) : List Text := [s.lead, s.key, s.mid, ['='], s.gap, s.value, s.trail]

inductive IniLine
  | empty
  | comment (lead rest : Text) (lead_blank : ∀ c ∈ lead, isSpace c = true)
  | setting (s : Setting) (one_line : ∀ c ∈ s.parts.flatten, c ≠ '\r' ∧ c ≠ '\n' ∧ c ≠ '\x00')

namespace IniLine

def text : IniLine → Text
  | empty => []
  | comment lead rest _ => lead ++ '#' :: rest
  | setting s _ => s.parts.flatten

def assignment : IniLine → Option (String × Text)
  | empty | comment .. => none
  | setting s _ => some (String.ofList s.key, s.value)

end IniLine

/-- The value of the last line that sets `key`. -/
def lastValue (file : List IniLine) (key : String) : Option Text := (file.filterMap IniLine.assignment).reverse.lookup key

/-! ## Reading a line -/

theorem le_toNat_of_isKeyChar {c : Char} (h : isKeyChar c = true) : 45 ≤ c.toNat := by
  have hdigit : '0'.val.toNat = 48 := rfl
  have hupper : 'A'.val.toNat = 65 := rfl
  have hlower : 'a'.val.toNat = 97 := rfl
  have hval : c.toNat = c.val.toNat := rfl
  change (decide ('A'.val ≤ c.val ∧ c.val ≤ 'Z'.val) || (decide ('a'.val ≤ c.val) && decide (c.val ≤ 'z'.val)) ||
    (decide ('0'.val ≤ c.val) && decide (c.val ≤ '9'.val)) || decide (c = '_') || decide (c = '-')) = true at h
  simp only [Bool.or_eq_true, Bool.and_eq_true, decide_eq_true_eq, UInt32.le_iff_toNat_le] at h
  rcases h with ((h | h) | rfl) | rfl
  · omega
  · omega
  · decide
  · decide

theorem toNat_le_of_isSpace {c : Char} (h : isSpace c = true) : c.toNat ≤ 32 := by
  have hr : '\r'.toNat = 13 := rfl
  simp only [isSpace, Bool.or_eq_true, Bool.and_eq_true, decide_eq_true_eq] at h
  rcases h with rfl | h
  · decide
  · omega

theorem isKeyChar_of_isSpace {c : Char} (h : isSpace c = true) : isKeyChar c = false := by
  have hle := toNat_le_of_isSpace h
  by_contra hkey
  have hge := le_toNat_of_isKeyChar (Bool.not_eq_false _ ▸ hkey)
  omega

theorem isSpace_of_isKeyChar {c : Char} (h : isKeyChar c = true) : isSpace c = false := by
  by_contra hspace
  have hle := toNat_le_of_isSpace (Bool.not_eq_false _ ▸ hspace)
  have hge := le_toNat_of_isKeyChar h
  omega

theorem head_append {p : Char → Bool} {t s : Text} (ht : ∀ c ∈ t, p c = false) (hs : ∀ c, s.head? = some c → p c = false) :
    ∀ c, (t ++ s).head? = some c → p c = false := by
  intro c hc
  cases t with
  | nil => exact hs c hc
  | cons c' t =>
    obtain rfl : c' = c := Option.some.inj hc
    exact ht c' List.mem_cons_self

theorem head_append_of_ne {p : Char → Bool} {t : Text} (s : Text) (hne : t ≠ []) (ht : ∀ c ∈ t, p c = false) :
    ∀ c, (t ++ s).head? = some c → p c = false := by
  intro c hc
  rw [List.head?_append_of_ne_nil t hne] at hc
  exact ht c (List.mem_of_head? hc)

theorem Setting.greedy (s : Setting) (one_line : ∀ c ∈ s.parts.flatten, c ≠ '\r' ∧ c ≠ '\n' ∧ c ≠ '\x00') :
    Piece.Greedy linePattern s.parts := by
  have hvalue : ∀ c ∈ s.value, decide (c ≠ ' ') = true := by
    intro c hc
    rw [decide_eq_true_eq]
    rintro rfl
    exact absurd (s.value_chars ' ' hc) (by decide)
  have htrail : ∀ c ∈ s.trail, isAnyChar c = true := by
    intro c hc
    have hin : c ∈ s.parts.flatten := List.mem_flatten_of_mem (by simp [parts]) hc
    simp [isAnyChar, one_line c hin]
  have hend : ∀ c, (s.trail ++ []).head? = some c → decide (c ≠ ' ') = false := by
    intro c hc
    rw [List.append_nil] at hc
    rcases s.trail_space with hnil | hsp
    · rw [hnil] at hc
      cases hc
    · rw [hsp] at hc
      cases hc
      rfl
  have hequals : ∀ c, (['='] ++ (s.gap ++ (s.value ++ (s.trail ++ [])))).head? = some c → c = '=' := by
    intro c hc
    exact (Option.some.inj hc).symm
  refine ⟨s.lead_blank, ?_, ⟨s.key_ne, s.key_chars⟩, ?_, s.mid_blank, ?_, ⟨rfl, by simp⟩, trivial, s.gap_blank, ?_,
    ⟨s.value_ne, hvalue⟩, hend, htrail, (fun c hc => nomatch hc), trivial⟩
  · exact head_append_of_ne _ s.key_ne fun c hc => isSpace_of_isKeyChar (s.key_chars c hc)
  · refine head_append (fun c hc => isKeyChar_of_isSpace (s.mid_blank c hc)) fun c hc => ?_
    rw [hequals c hc]
    decide
  · intro c hc
    rw [hequals c hc]
    decide
  · exact head_append_of_ne _ s.value_ne s.value_chars

theorem matchLine_comment {lead : Text} (hlead : ∀ c ∈ lead, isSpace c = true) (rest : Text) :
    matchLine (lead ++ '#' :: rest) = none := by
  have hnul : ∀ c ∈ lead, decide (c ≠ '\x00') = true := by
    intro c hc
    rw [decide_eq_true_eq]
    rintro rfl
    exact absurd (hlead _ hc) (by decide)
  have htake : (lead ++ '#' :: rest).takeWhile (· ≠ '\x00') = lead ++ '#' :: rest.takeWhile (· ≠ '\x00') := by
    rw [List.takeWhile_append_of_pos hnul]
    rfl
  have hnone : Piece.fullMatch linePattern (lead ++ '#' :: rest.takeWhile (· ≠ '\x00')) = none := by
    rw [linePattern, Piece.fullMatch, Piece.takeRun_eq_none (by decide), Option.map_none]
    -- a key starts neither with a blank nor with the hash
    intro t ht
    cases t with
    | nil => rfl
    | cons c t =>
      have hblank := hlead c (ht.mem List.mem_cons_self)
      simp [Piece.fullMatch, isKeyChar_of_isSpace hblank]
  rw [matchLine, htake, hnone]

theorem matchLine_text (line : IniLine) : matchLine line.text = line.assignment := by
  cases line with
  | empty => rfl
  | comment lead rest hlead => exact matchLine_comment hlead rest
  | setting s one_line =>
    have htake : s.parts.flatten.takeWhile (· ≠ '\x00') = s.parts.flatten :=
      List.takeWhile_eq_self_iff.mpr fun c hc => by simp [one_line c hc]
    rw [IniLine.text, matchLine, htake, Piece.fullMatch_greedy (s.greedy one_line)]
    rfl

example : matchLine " Voice\t=  adam = no comment".toList = some ("Voice", "adam".toList) := by decide

/-! ## Reading the file -/

theorem getElem?_foldl_insert (assignments : List (String × Text)) (t : Others) (key : String) :
    (assignments.foldl (fun configSet it => configSet.insert it.1 it.2) t)[key]? =
      (assignments.reverse.lookup key).or t[key]? := by
  induction assignments generalizing t with
  | nil => rfl
  | cons it assignments ih =>
    obtain ⟨name, value⟩ := it
    rw [List.foldl_cons, ih, List.reverse_cons, List.lookup_append, Std.TreeMap.getElem?_insert]
    by_cases hkey : key = name
    · subst hkey
      simp
    · have hcmp : ¬compare name key = .eq := fun h => hkey (Std.LawfulEqCmp.eq_of_compare h).symm
      have hbeq : (key == name) = false := by simpa using hkey
      simp [List.lookup_cons, hcmp, hbeq]

theorem readLines_file (file : List IniLine) (key : String) : (readLines (file.map IniLine.text))[key]? = lastValue file key := by
  have hread : readLines (file.map IniLine.text) =
      (file.filterMap IniLine.assignment).foldl (fun configSet it => configSet.insert it.1 it.2) ∅ := by
    rw [readLines, List.foldl_map, List.foldl_filterMap]
    congr
    funext configSet line
    rw [matchLine_text]
    cases line.assignment <;> rfl
  rw [hread, getElem?_foldl_insert, Std.TreeMap.getElem?_emptyc, Option.or_none]
  rfl

theorem getElem?_foldl_erase (keys : List String) (t : Others) (key : String) :
    (keys.foldl Std.TreeMap.erase t)[key]? = if key ∈ keys then none else t[key]? := by
  induction keys generalizing t with
  | nil => rfl
  | cons k keys ih =>
    rw [List.foldl_cons, ih, Std.TreeMap.getElem?_erase]
    by_cases hin : key ∈ keys
    · simp [hin]
    · by_cases hkey : key = k
      · subst hkey
        simp
      · have hcmp : ¬compare k key = .eq := fun h => hkey (Std.LawfulEqCmp.eq_of_compare h).symm
        simp [hin, hkey, hcmp]

theorem lastValue_setting {file : List IniLine} {key : String} {value : Text} (h : lastValue file key = some value) :
    ∃ s : Setting, s.key = key.toList ∧ s.value = value := by
  have hm : (key, value) ∈ (file.filterMap IniLine.assignment).reverse := by
    obtain ⟨l₁, l₂, hsplit, -⟩ := List.lookup_eq_some_iff.mp h
    rw [hsplit]
    simp
  rw [List.mem_reverse, List.mem_filterMap] at hm
  obtain ⟨line, -, hline⟩ := hm
  cases line with
  | empty => cases hline
  | comment lead rest hlead => cases hline
  | setting s one_line =>
    cases hline
    exact ⟨s, String.toList_ofList.symm, rfl⟩

theorem TTSConfiguration.setTexts_texts (c : TTSConfiguration) (configSet : Others)
    (hne : ∀ (k : String) (v : Text), configSet[k]? = some v → v ≠ []) :
    (c.setTexts configSet).texts =
      [(configSet["TTSEndPoint"]?).getD c.ttsEndPoint, (configSet["SecureTTSEndPoint"]?).getD c.ttsEndPointSecured,
        (configSet["Language"]?).getD c.language, (configSet["Voice"]?).getD c.voice] := by
  have hreplace : ∀ (k : String) (old : Text), (configSet[k]?).elim old (replaceBy old) = (configSet[k]?).getD old := by
    intro k old
    cases hk : configSet[k]? with
    | none => rfl
    | some v => simp [replaceBy, hne k v hk]
  rw [← hreplace, ← hreplace, ← hreplace, ← hreplace]
  unfold setTexts
  cases configSet["TTSEndPoint"]? <;> cases configSet["SecureTTSEndPoint"]? <;> cases configSet["Language"]? <;>
    cases configSet["Voice"]? <;> rfl

open TTSConfiguration

theorem volumeConverts_of_denotes (reader : VolumeReader) {v : Text} {q : ℚ} (h : DenotesNumber v q) (hq : 1 ≤ q ∧ q ≤ 100)
    (old : ℚ) : VolumeConverts reader v old :=
  ⟨.finite (reader.stored q), reader.stod_denotes v q h hq, fun _ _ _ => ⟨q, h, hq⟩⟩

theorem rateConverts_of_denotes {v : Text} {n : Nat} (h : DenotesInteger v n) (hn : 1 ≤ n ∧ n ≤ 100) (old : Nat) :
    RateConverts v old :=
  ⟨n, stoi_denotes h (by omega) (by omega), fun _ _ _ => ⟨n, h, hn⟩⟩

/-- What a file of the format makes of the default configuration `c`. -/
structure LoadedConfiguration.Follows (reader : VolumeReader) (r : LoadedConfiguration) (c : TTSConfiguration)
    (file : List IniLine) : Prop where
  ttsEndPoint : r.configuration.ttsEndPoint = (lastValue file "TTSEndPoint").getD c.ttsEndPoint
  ttsEndPointSecured : r.configuration.ttsEndPointSecured = (lastValue file "SecureTTSEndPoint").getD c.ttsEndPointSecured
  language : r.configuration.language = (lastValue file "Language").getD c.language
  voice : r.configuration.voice = (lastValue file "Voice").getD c.voice
  volume : (lastValue file "Volume").elim (r.configuration.volume = c.volume) fun v =>
    ∃ q, DenotesNumber v q ∧ r.configuration.volume = reader.stored q
  rate : (lastValue file "Rate").elim (r.configuration.rate = c.rate) fun v => DenotesInteger v r.configuration.rate
  policy : r.policy =
    some (if lastValue file "ResourceAccessPolicy" = some "Reservation".toList then .reservation else .open)
  others : ∀ key : String, r.others[key]? = if key ∈ settingKeys then none else lastValue file key

theorem setResourceAllocationPolicy_policy (m : TTSManager) {policy : ResourceAllocationPolicy} (h : policy ≠ .priority) :
    (m.setResourceAllocationPolicy policy).policy = policy := by
  unfold TTSManager.setResourceAllocationPolicy
  rw [if_neg h]
  split
  · rfl
  · rename_i heq
    exact not_not.mp heq

/-- **Loading an ini file.** A file in the documented format is loaded with the
value of the last line of each key, whether or not reading a volume rounds. -/
theorem loadConfigurationsFromFile_follows (reader : VolumeReader) (c : TTSConfiguration) (others : Others)
    (file : List IniLine) :
    ∃ r, loadConfigurationsFromFileWith reader.stod c others (some (file.map IniLine.text)) = .ok r ∧
      LoadedConfiguration.Follows reader r c file ∧
      ∀ (m : TTSManager) (policy : ResourceAllocationPolicy), r.policy = some policy →
        (m.setResourceAllocationPolicy policy).policy = policy := by
  have hvolume : ∀ v, lastValue file "Volume" = some v → ∃ q, DenotesNumber v q ∧ 1 ≤ q ∧ q ≤ 100 := by
    intro v hv
    obtain ⟨s, hkey, rfl⟩ := lastValue_setting hv
    exact s.volume_inRange hkey
  have hrate : ∀ v, lastValue file "Rate" = some v → ∃ n : Nat, DenotesInteger v n ∧ 1 ≤ n ∧ n ≤ 100 := by
    intro v hv
    obtain ⟨s, hkey, rfl⟩ := lastValue_setting hv
    exact s.rate_inRange hkey
  have hne : ∀ (key : String) (v : Text), (readLines (file.map IniLine.text))[key]? = some v → v ≠ [] := by
    intro key v hv
    rw [readLines_file] at hv
    obtain ⟨s, -, rfl⟩ := lastValue_setting hv
    exact s.value_ne
  have hread : FileRead reader c others (file.map IniLine.text) := by
    rw [fileRead_iff, readLines_file, readLines_file]
    constructor
    · intro v hv
      obtain ⟨q, hq, hin⟩ := hvolume v hv
      exact volumeConverts_of_denotes reader hq hin c.volume
    · intro v hv
      obtain ⟨n, hn, hin⟩ := hrate v hv
      exact rateConverts_of_denotes hn hin c.rate
  obtain ⟨r, hload, hvol, hrat, htexts, hothers, hpolicy⟩ := hread
  rw [readLines_file] at hvol hrat
  rw [setTexts_texts c _ hne] at htexts
  simp only [readLines_file, texts, List.cons.injEq, and_true] at htexts
  obtain ⟨hendPoint, hsecure, hlanguage, hvoice⟩ := htexts
  refine ⟨r, hload, ⟨hendPoint, hsecure, hlanguage, hvoice, ?_, ?_, ?_, fun key => ?_⟩, fun m policy hp => ?_⟩
  · cases hv : lastValue file "Volume" with
    | none =>
      rw [hv] at hvol
      exact hvol
    | some v =>
      rw [hv] at hvol
      obtain ⟨q, hq, hin⟩ := hvolume v hv
      exact ⟨q, hq, hvol.becomes q hq hin⟩
  · cases hv : lastValue file "Rate" with
    | none =>
      rw [hv] at hrat
      exact hrat
    | some v =>
      rw [hv] at hrat
      obtain ⟨n, hn, hin⟩ := hrate v hv
      have hset : r.configuration.rate = n := hrat.becomes n hn hin
      rw [Option.elim_some, hset]
      exact hn
  · rw [hpolicy, loadPolicy, readLines_file]
  · rw [hothers, getElem?_foldl_erase, readLines_file]
  · apply setResourceAllocationPolicy_policy
    rw [hpolicy, loadPolicy] at hp
    rintro rfl
    split at hp <;> cases hp

end TTS
