import TTS.CleanUp

/-!
# Isolated symbols

`sanitizeString` replaces each symbol that stands between text boundaries,
punctuation or white space by a word, one symbol after the other, and cleans up
the punctuation last. What a symbol that was left stands beside is a character
that none of the later passes touches.
-/

namespace TTS

open Deletion

/-- The text handed to `curlSanitize`. -/
def spokenText (input : Text) : Text :=
  let text := replaceIfIsolated input '$' "dollar".toList
  let text := replaceIfIsolated text '#' "pound".toList
  let text := replaceIfIsolated text '&' "and".toList
  let text := replaceIfIsolated text '|' "bar".toList
  let text := replaceIfIsolated text '/' "or".toList
  replaceSuccesivePunctuation text

theorem sanitizeString_eq (escape : Text → Option Text) (input : Text) :
    sanitizeString escape input = curlSanitize escape (spokenText input) := rfl

def isSolid (c : Char) : Bool := !(isPunct c || isSpace c)

theorem any_isSolid (c : Option Char) : c.any isSolid = !isBoundary c := by
  cases c <;> simp [isSolid, isBoundary]

theorem not_isSolid_of_isPunct {c : Char} (h : isPunct c = true) : isSolid c = false := by
  simp [isSolid, h]

/-- Each `symbol` in the text stands beside a character that is no boundary. -/
def Accompanied (symbol : Char) (prev : Option Char) (text : Text) : Prop :=
  Beside (fun c => c == symbol) isSolid prev text

theorem accompanied_append {symbol : Char} {word : Text} (hw : symbol ∉ word) {prev : Option Char} {text : Text}
    (h : Accompanied symbol (word.getLast?.or prev) text) : Accompanied symbol prev (word ++ text) := by
  induction word generalizing prev with
  | nil => simpa using h
  | cons c word ih =>
    simp only [List.mem_cons, not_or] at hw
    have hc : ¬c = symbol := fun e => hw.1 e.symm
    refine ⟨fun heq => absurd (by simpa using heq) hc, ih hw.2 ?_⟩
    cases hlast : word.getLast? <;> simpa [List.getLast?_cons, hlast] using h

/-! ## One pass -/

section
variable {search : Char} {word : Text}

theorem head?_replaceIsolated {rest : Text} (hs : isPunct search = true) (h : rest.head?.any isSolid = true)
    (before : Option Char) : (replaceIsolated search word before rest).head?.any isSolid = true := by
  cases rest with
  | nil => cases h
  | cons c rest =>
    have hc : c ≠ search := by
      rintro rfl
      simp [not_isSolid_of_isPunct hs] at h
    simpa [replaceIsolated, hc] using h

/-- The symbol that is looked for is left only where it is not isolated. -/
theorem accompanied_replaced (hs : isPunct search = true) (hw : search ∉ word) (before : Option Char) (text : Text) :
    Accompanied search before (replaceIsolated search word before text) := by
  induction text generalizing before with
  | nil => trivial
  | cons c rest ih =>
    rw [replaceIsolated]
    split
    · split
      · exact accompanied_append hw (ih _)
      · rename_i hlone
        refine ⟨fun _ => ?_, ih _⟩
        rw [Bool.and_eq_true, not_and_or, Bool.not_eq_true, Bool.not_eq_true] at hlone
        rcases hlone with hleft | hright
        · left
          simp [any_isSolid, hleft]
        · right
          exact head?_replaceIsolated hs (by simp [any_isSolid, hright]) _
    · rename_i hc
      exact ⟨fun heq => absurd (by simpa using heq) hc, ih _⟩

/-- The other symbols keep what they stand beside. -/
theorem Accompanied.replaceIsolated {symbol : Char} (hs : isPunct search = true) (hw : symbol ∉ word)
    {prev prev' : Option Char} (hprev : prev.any isSolid = true → prev'.any isSolid = true) (before : Option Char)
    {text : Text} (h : Accompanied symbol prev text) :
    Accompanied symbol prev' (TTS.replaceIsolated search word before text) := by
  induction text generalizing prev prev' before with
  | nil => trivial
  | cons c rest ih =>
    have hkeep : ∀ before, Accompanied symbol prev' (c :: TTS.replaceIsolated search word before rest) := by
      intro before
      refine ⟨fun heq => ?_, ih (fun hany => hany) before h.2⟩
      rcases h.1 heq with hleft | hright
      · exact .inl (hprev hleft)
      · exact .inr (head?_replaceIsolated hs hright before)
    rw [TTS.replaceIsolated]
    split
    · rename_i hc
      subst hc
      split
      · apply accompanied_append hw
        apply ih _ _ h.2
        intro hany
        simp [not_isSolid_of_isPunct hs] at hany
      · exact hkeep _
    · exact hkeep _

end

/-! ## All passes -/

def symbolWords : List (Char × Text) :=
  [('$', "dollar".toList), ('#', "pound".toList), ('&', "and".toList), ('|', "bar".toList), ('/', "or".toList)]

def replaceAll (passes : List (Char × Text)) (text : Text) : Text :=
  passes.foldl (fun text pass => replaceIfIsolated text pass.1 pass.2) text

theorem spokenText_eq (input : Text) : spokenText input = replaceSuccesivePunctuation (replaceAll symbolWords input) := rfl

/-- A symbol that some pass so far took care of stays accompanied in the later ones. -/
theorem accompanied_replaceAll {symbol : Char} (passes : List (Char × Text))
    (hp : ∀ pass ∈ passes, isPunct pass.1 = true ∧ symbol ∉ pass.2) {text : Text}
    (h : Accompanied symbol none text ∨ symbol ∈ passes.map Prod.fst) :
    Accompanied symbol none (replaceAll passes text) := by
  induction passes generalizing text with
  | nil => simpa [replaceAll] using h
  | cons pass passes ih =>
    obtain ⟨hpunct, hword⟩ := hp pass List.mem_cons_self
    apply ih fun pass hm => hp pass (List.mem_cons_of_mem _ hm)
    by_cases hs : symbol = pass.1
    · left
      rw [hs] at hword ⊢
      exact accompanied_replaced hpunct hword none text
    · rcases h with h | h
      · exact .inl (h.replaceIsolated hpunct hword (fun hany => hany) none)
      · right
        simpa [hs] using h

/-- No occurrence of a symbol has only text boundaries, punctuation and white space beside it. -/
def NoneIsolated (text : Text) : Prop :=
  ∀ before symbol after, text = before ++ symbol :: after → symbol ∈ "$#&|/".toList →
    ¬(isBoundary before.getLast? = true ∧ isBoundary after.head? = true)

/-- **No symbol is left isolated** in the text that is spoken. -/
theorem spokenText_noneIsolated (input : Text) : NoneIsolated (spokenText input) := by
  intro before symbol after h hs
  have hwords : ∀ pass ∈ symbolWords, isPunct pass.1 = true ∧ symbol ∉ pass.2 := by
    have hall : "$#&|/".toList.all
        (fun symbol => symbolWords.all fun pass => isPunct pass.1 && !pass.2.contains symbol) = true := by decide
    simpa using List.all_eq_true.mp hall symbol hs
  have hpass : symbol ∈ symbolWords.map Prod.fst := hs
  have hall : Accompanied symbol none (replaceAll symbolWords input) :=
    accompanied_replaceAll symbolWords hwords (.inr hpass)
  have hremovable : ∀ before c, Removable before c → isSolid c = false := by
    rintro before c (rfl | ⟨hsilent, -⟩)
    · decide
    · exact not_isSolid_of_isPunct (isPunct_of_isSilentPunctuation hsilent)
  have hdeletes := replaceSuccesive_deletes .head [] (replaceAll symbolWords input) fun e => nomatch e
  have hclean : Accompanied symbol none (spokenText input) := by
    rw [spokenText_eq]
    exact Beside.deletes hremovable hdeletes (fun hany => hany) hall
  have hbeside := beside_iff.mp hclean before symbol after h (by simp)
  rw [Option.or_none, any_isSolid, any_isSolid] at hbeside
  rintro ⟨hbefore, hafter⟩
  simp [hbefore, hafter] at hbeside

end TTS
