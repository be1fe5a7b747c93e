import TTS.SpeechUrl
import TTS.Deletion

/-!
# What the clean-up of a text deletes and what it leaves

`replaceSuccesivePunctuation` erases quotation marks and, behind a punctuation
character, silent punctuation. The character behind an erased mark is stepped
over and the next one only tested for punctuation, so what is unwanted there stays.
-/

namespace TTS

open Deletion

theorem isPunct_of_isSilentPunctuation {c : Char} (h : isSilentPunctuation c = true) : isPunct c = true := by
  simp only [isSilentPunctuation, List.contains_iff_mem] at h
  have hall : "?!:;-()".toList.all isPunct = true := by decide
  exact List.all_eq_true.mp hall c h

theorem isSpace_eq_false_of_isPunct {c : Char} (h : isPunct c = true) : isSpace c = false := by
  simp only [isPunct, Bool.and_eq_true, decide_eq_true_eq] at h
  have h33 : '!'.toNat = 33 := rfl
  have h13 : '\r'.toNat = 13 := rfl
  have hsp : c ≠ ' ' := by
    rintro rfl
    exact absurd h.1.1 (by decide)
  simp only [isSpace, hsp, decide_false, Bool.false_or, Bool.and_eq_false_iff, decide_eq_false_iff_not]
  omega

theorem isPunct_eq_false_of_isSpace {c : Char} (h : isSpace c = true) : isPunct c = false := by
  cases hp : isPunct c with
  | false => rfl
  | true => simp [isSpace_eq_false_of_isPunct hp] at h

theorem isSilentPunctuation_eq_false {c : Char} (h : isPunct c = false) : isSilentPunctuation c = false := by
  cases hs : isSilentPunctuation c with
  | false => rfl
  | true => simp [isPunct_of_isSilentPunctuation hs] at h

/-- The phase behind a character, no quotation mark, that is kept. -/
def SanitizePhase.next (c : Char) : SanitizePhase → SanitizePhase
  | .skip => .test
  | .head | .test => if isPunct c then .inner else .head
  | .inner => if isSpace c || isPunct c then .inner else .head

theorem SanitizePhase.after_of_next {phase : SanitizePhase} {c : Char} {after : Bool}
    (ha : phase = .inner → after = true) (h : phase.next c = .inner) : (if isSpace c then after else isPunct c) = true := by
  cases hspace : isSpace c with
  | true =>
    have hpunct : isPunct c = false := isPunct_eq_false_of_isSpace hspace
    cases phase with
    | inner => exact ha rfl
    | head | test => simp [next, hpunct] at h
    | skip => cases h
  | false =>
    cases hpunct : isPunct c with
    | true => rfl
    | false => cases phase <;> simp [next, hspace, hpunct] at h

theorem replaceSuccesive_keep {phase : SanitizePhase} {c : Char} (hc : c ≠ '"')
    (hk : phase = .inner → isSilentPunctuation c = false) (rest : Text) :
    replaceSuccesive phase (c :: rest) = c :: replaceSuccesive (phase.next c) rest := by
  cases phase with
  | skip => rfl
  | head | test =>
    simp only [replaceSuccesive, SanitizePhase.next, hc, if_false]
    split <;> rfl
  | inner =>
    simp only [replaceSuccesive, SanitizePhase.next, hc, hk rfl, if_false, Bool.or_eq_true, Bool.false_eq_true]
    cases isSpace c <;> cases isPunct c <;> rfl

/-! ## What is deleted -/

/-- Behind a punctuation character with only white space and silent punctuation in between. -/
def BehindPunct (before : Text) : Prop :=
  ∃ pre p between, before = pre ++ p :: between ∧ isPunct p = true ∧
    ∀ x ∈ between, isSpace x = true ∨ isSilentPunctuation x = true

def Removable (before : Text) (c : Char) : Prop := c = '"' ∨ isSilentPunctuation c = true ∧ BehindPunct before

theorem BehindPunct.of_punct (before : Text) {c : Char} (h : isPunct c = true) : BehindPunct (before ++ [c]) :=
  ⟨before, c, [], rfl, h, fun _ hx => nomatch hx⟩

theorem BehindPunct.snoc {before : Text} (h : BehindPunct before) {c : Char}
    (hc : isSpace c = true ∨ isSilentPunctuation c = true) : BehindPunct (before ++ [c]) := by
  obtain ⟨pre, p, between, rfl, hp, hbetween⟩ := h
  refine ⟨pre, p, between ++ [c], by simp, hp, fun x hx => ?_⟩
  rcases List.mem_append.mp hx with hx | hx
  · exact hbetween x hx
  · rw [List.mem_singleton.mp hx]
    exact hc

/-- Every phase deletes only what may be deleted; the inner loop stands behind punctuation. -/
theorem replaceSuccesive_deletes (phase : SanitizePhase) (before rest : Text)
    (h : phase = .inner → BehindPunct before) : Deletes Removable before rest (replaceSuccesive phase rest) := by
  induction rest generalizing phase before with
  | nil =>
    rw [replaceSuccesive]
    exact .nil
  | cons c rest ih =>
    have htest : Deletes Removable before (c :: rest) (replaceSuccesive .test (c :: rest)) := by
      rw [replaceSuccesive]
      split
      · rename_i hc
        exact .keep (ih .inner _ fun _ => .of_punct before hc)
      · exact .keep (ih .head _ fun e => nomatch e)
    have hhead : Deletes Removable before (c :: rest) (replaceSuccesive .head (c :: rest)) := by
      rw [replaceSuccesive]
      split
      · rename_i hc
        exact .drop (.inl hc) (ih .skip _ fun e => nomatch e)
      · rwa [replaceSuccesive] at htest
    cases phase with
    | head => exact hhead
    | test => exact htest
    | skip => exact .keep (ih .test _ fun e => nomatch e)
    | inner =>
      have hbehind : BehindPunct before := h rfl
      rw [replaceSuccesive]
      split
      · rename_i hsilent
        exact .drop (.inr ⟨hsilent, hbehind⟩) (ih .inner _ fun _ => hbehind.snoc (.inr hsilent))
      · split
        · rename_i hspace
          exact .keep (ih .inner _ fun _ => hbehind.snoc (.inl hspace))
        · rwa [replaceSuccesive] at hhead

/-- **Nothing else is lost.** The clean-up deletes quotation marks and silent
punctuation behind punctuation, and leaves the rest in order. -/
theorem replaceSuccesivePunctuation_deletes (text : Text) : Deletes Removable [] text (replaceSuccesivePunctuation text) :=
  replaceSuccesive_deletes .head [] text fun e => nomatch e

/-! ## Quotation marks that stay -/

/-- Quotation marks stand at least three characters apart. -/
def MarksApart (text : Text) : Prop :=
  ∀ i j, i < j → text[i]? = some '"' → text[j]? = some '"' → i + 3 ≤ j

theorem marksApart_cons (c : Char) (rest : Text) :
    MarksApart (c :: rest) ↔ (c = '"' → '"' ∉ rest.take 2) ∧ MarksApart rest := by
  constructor
  · intro h
    refine ⟨fun hc hm => ?_, fun i j hij hi hj => ?_⟩
    · obtain ⟨k, hk⟩ := List.mem_iff_getElem?.mp hm
      rw [List.getElem?_take] at hk
      split at hk
      · have h3 := h 0 (k + 1) (Nat.succ_pos k) (by simp [hc]) (by simpa using hk)
        omega
      · cases hk
    · have h3 := h (i + 1) (j + 1) (Nat.succ_lt_succ hij) (by simpa using hi) (by simpa using hj)
      omega
  · rintro ⟨hc, h⟩ i j hij hi hj
    cases j with
    | zero => omega
    | succ j =>
      rw [List.getElem?_cons_succ] at hj
      cases i with
      | zero =>
        rw [List.getElem?_cons_zero, Option.some.injEq] at hi
        by_contra hlt
        apply hc hi
        apply List.mem_iff_getElem?.mpr
        exact ⟨j, by rw [List.getElem?_take, if_pos (by omega), hj]⟩
      | succ i =>
        rw [List.getElem?_cons_succ] at hi
        have h3 := h i j (Nat.lt_of_succ_lt_succ hij) hi hj
        omega

theorem marksApart_cons_other {c : Char} (hc : c ≠ '"') (rest : Text) : MarksApart (c :: rest) ↔ MarksApart rest := by
  simp [marksApart_cons, hc]

/-- What the phases still ask of the characters to come for no mark to stay. -/
def MarksErased : SanitizePhase → Text → Prop
  | .head, rest | .inner, rest => MarksApart rest
  | .skip, rest => '"' ∉ rest.take 2 ∧ MarksApart rest
  | .test, rest => '"' ∉ rest.take 1 ∧ MarksApart rest

theorem mark_not_mem_iff (phase : SanitizePhase) (rest : Text) :
    '"' ∉ replaceSuccesive phase rest ↔ MarksErased phase rest := by
  have hnil : MarksApart [] := fun i j _ hi => by simp at hi
  induction rest generalizing phase with
  | nil =>
    cases phase <;> simp [replaceSuccesive, MarksErased, hnil]
  | cons c rest ih =>
    by_cases hc : c = '"'
    · subst hc
      have hhead : '"' ∉ replaceSuccesive .skip rest ↔ MarksApart ('"' :: rest) := by
        refine (ih .skip).trans ?_
        rw [marksApart_cons]
        simp [MarksErased]
      have hpunct : isPunct '"' = true := by decide
      have hsilent : isSilentPunctuation '"' = false := by decide
      have hspace : isSpace '"' = false := by decide
      cases phase with
      | head => simpa [replaceSuccesive, MarksErased] using hhead
      | skip => simp [replaceSuccesive, MarksErased]
      | test => simp [replaceSuccesive, MarksErased, hpunct]
      | inner => simpa [replaceSuccesive, MarksErased, hsilent, hspace] using hhead
    · have hcons := marksApart_cons_other hc rest
      have hne : '"' ≠ c := fun e => hc e.symm
      by_cases hdrop : phase = .inner ∧ isSilentPunctuation c = true
      · obtain ⟨rfl, hsilent⟩ := hdrop
        simpa [replaceSuccesive, hsilent, MarksErased, hcons] using ih .inner
      · have hnext : MarksErased phase (c :: rest) ↔ MarksErased (phase.next c) rest := by
          cases phase with
          | skip => simp [MarksErased, SanitizePhase.next, hcons, hne]
          | head => cases hp : isPunct c <;> simp [MarksErased, SanitizePhase.next, hcons, hp]
          | test => cases hp : isPunct c <;> simp [MarksErased, SanitizePhase.next, hcons, hne, hp]
          | inner => cases hp : isSpace c || isPunct c <;> simp only [MarksErased, SanitizePhase.next, hcons, hp] <;> rfl
        rw [replaceSuccesive_keep hc fun hp => by simpa [hp] using hdrop, hnext]
        refine Iff.trans ?_ (ih (phase.next c))
        simp [hne]

/-! ## Silent punctuation that stays -/

/-- The first character that is not skipped is silent punctuation. -/
def LeadsToSilent (skips : Char → Prop) (text : Text) : Prop :=
  ∃ between c post, text = between ++ c :: post ∧ (∀ x ∈ between, skips x) ∧ isSilentPunctuation c = true

theorem leadsToSilent_cons (skips : Char → Prop) (c : Char) (rest : Text) :
    LeadsToSilent skips (c :: rest) ↔ isSilentPunctuation c = true ∨ skips c ∧ LeadsToSilent skips rest := by
  constructor
  · rintro ⟨between, c', post, heq, hskips, hc⟩
    cases between with
    | nil =>
      obtain ⟨rfl, -⟩ := List.cons.inj heq
      exact .inl hc
    | cons b between =>
      obtain ⟨rfl, rfl⟩ := List.cons.inj heq
      exact .inr ⟨hskips _ List.mem_cons_self, between, c', post, rfl, fun x hx => hskips x (List.mem_cons_of_mem _ hx), hc⟩
  · rintro (hc | ⟨hskip, between, c', post, rfl, hskips, hc⟩)
    · exact ⟨[], c, rest, rfl, fun _ hx => (nomatch hx), hc⟩
    · refine ⟨c :: between, c', post, rfl, fun x hx => ?_, hc⟩
      rcases List.mem_cons.mp hx with rfl | hx
      · exact hskip
      · exact hskips x hx

theorem not_leadsToSilent_nil (skips : Char → Prop) : ¬LeadsToSilent skips [] := by
  rintro ⟨between, c, post, heq, -⟩
  cases between <;> cases heq

/-- A silent punctuation character whose nearest preceding non-space character is punctuation. -/
def Repeats (text : Text) : Prop :=
  ∃ pre p post, text = pre ++ p :: post ∧ isPunct p = true ∧ LeadsToSilent (fun x => isSpace x = true) post

theorem repeats_cons (c : Char) (rest : Text) :
    Repeats (c :: rest) ↔ isPunct c = true ∧ LeadsToSilent (fun x => isSpace x = true) rest ∨ Repeats rest := by
  constructor
  · rintro ⟨pre, p, post, heq, hp, hlead⟩
    cases pre with
    | nil =>
      obtain ⟨rfl, rfl⟩ := List.cons.inj heq
      exact .inl ⟨hp, hlead⟩
    | cons b pre =>
      obtain ⟨rfl, rfl⟩ := List.cons.inj heq
      exact .inr ⟨pre, p, post, rfl, hp, hlead⟩
  · rintro (⟨hp, hlead⟩ | ⟨pre, p, post, rfl, hp, hlead⟩)
    · exact ⟨[], c, rest, rfl, hp, hlead⟩
    · exact ⟨c :: pre, p, post, rfl, hp, hlead⟩

theorem not_repeats_nil : ¬Repeats [] := by
  rintro ⟨pre, p, post, heq, -⟩
  cases pre <;> cases heq

/-- The same, when `after` says whether what stands in front is punctuation. -/
def RepeatsAfter (after : Bool) (text : Text) : Prop :=
  after = true ∧ LeadsToSilent (fun x => isSpace x = true) text ∨ Repeats text

theorem repeatsAfter_cons (after : Bool) (c : Char) (rest : Text) :
    RepeatsAfter after (c :: rest) ↔
      after = true ∧ isSilentPunctuation c = true ∨
        RepeatsAfter (if isSpace c then after else isPunct c) rest := by
  rw [RepeatsAfter, RepeatsAfter, leadsToSilent_cons, repeats_cons]
  cases hspace : isSpace c with
  | true =>
    have hpunct : isPunct c = false := isPunct_eq_false_of_isSpace hspace
    simp only [hpunct, if_true, true_and, Bool.false_eq_true, false_and, false_or]
    tauto
  | false =>
    simp only [Bool.false_eq_true, if_false, false_and, or_false]

/-! ## The same of the text that is cleaned up -/

/-- White space and quotation marks. -/
def Gap (x : Char) : Prop := isSpace x = true ∨ x = '"'

def LeadsPastMark (text : Text) : Prop :=
  ∃ between c post, text = between ++ c :: post ∧ (∀ x ∈ between, Gap x) ∧ '"' ∈ between ∧ isSilentPunctuation c = true

theorem leadsPastMark_cons (c : Char) (rest : Text) :
    LeadsPastMark (c :: rest) ↔ c = '"' ∧ LeadsToSilent Gap rest ∨ isSpace c = true ∧ LeadsPastMark rest := by
  constructor
  · rintro ⟨between, c', post, heq, hgap, hmark, hc⟩
    cases between with
    | nil => cases hmark
    | cons b between =>
      obtain ⟨rfl, rfl⟩ := List.cons.inj heq
      have hrest : ∀ x ∈ between, Gap x := fun x hx => hgap x (List.mem_cons_of_mem _ hx)
      rcases hgap _ List.mem_cons_self with hspace | hquote
      · have hmark : '"' ∈ between := by
          rcases List.mem_cons.mp hmark with h | h
          · rw [← h] at hspace
            exact absurd hspace (by decide)
          · exact h
        exact .inr ⟨hspace, between, c', post, rfl, hrest, hmark, hc⟩
      · exact .inl ⟨hquote, between, c', post, rfl, hrest, hc⟩
  · rintro (⟨rfl, between, c', post, rfl, hgap, hc⟩ | ⟨hspace, between, c', post, rfl, hgap, hmark, hc⟩)
    · refine ⟨'"' :: between, c', post, rfl, fun x hx => ?_, List.mem_cons_self, hc⟩
      rcases List.mem_cons.mp hx with rfl | hx
      · exact .inr rfl
      · exact hgap x hx
    · refine ⟨c :: between, c', post, rfl, fun x hx => ?_, List.mem_cons_of_mem _ hmark, hc⟩
      rcases List.mem_cons.mp hx with rfl | hx
      · exact .inl hspace
      · exact hgap x hx

theorem LeadsPastMark.leadsToSilent {text : Text} (h : LeadsPastMark text) : LeadsToSilent Gap text := by
  obtain ⟨between, c, post, heq, hgap, -, hc⟩ := h
  exact ⟨between, c, post, heq, hgap, hc⟩

/-- A punctuation character and behind it, past white space and quotation marks,
a silent one, with a mark right in front of the first or between the two. -/
def SilentPastMark (text : Text) : Prop :=
  ∃ pre p between c post, text = pre ++ p :: (between ++ c :: post) ∧ isPunct p = true ∧ p ≠ '"' ∧
    (∀ x ∈ between, Gap x) ∧ isSilentPunctuation c = true ∧ (pre.getLast? = some '"' ∨ '"' ∈ between)

/-- What a quotation mark right in front makes one. -/
def StartsPastMark (text : Text) : Prop :=
  ∃ p rest, text = p :: rest ∧ isPunct p = true ∧ p ≠ '"' ∧ LeadsToSilent Gap rest

theorem silentPastMark_cons (c : Char) (rest : Text) :
    SilentPastMark (c :: rest) ↔
      isPunct c = true ∧ c ≠ '"' ∧ LeadsPastMark rest ∨ c = '"' ∧ StartsPastMark rest ∨ SilentPastMark rest := by
  constructor
  · rintro ⟨pre, p, between, c', post, heq, hp, hne, hgap, hc, hmark⟩
    cases pre with
    | nil =>
      obtain ⟨rfl, rfl⟩ := List.cons.inj heq
      have hmark : '"' ∈ between := by simpa using hmark
      exact .inl ⟨hp, hne, between, c', post, rfl, hgap, hmark, hc⟩
    | cons b pre =>
      obtain ⟨rfl, rfl⟩ := List.cons.inj heq
      cases pre with
      | nil =>
        rcases hmark with hmark | hmark
        · have hb : c = '"' := by simpa using hmark
          exact .inr (.inl ⟨hb, p, _, rfl, hp, hne, between, c', post, rfl, hgap, hc⟩)
        · exact .inr (.inr ⟨[], p, between, c', post, rfl, hp, hne, hgap, hc, .inr hmark⟩)
      | cons b' pre =>
        rw [List.getLast?_cons_cons] at hmark
        exact .inr (.inr ⟨b' :: pre, p, between, c', post, rfl, hp, hne, hgap, hc, hmark⟩)
  · rintro (⟨hp, hne, between, c', post, rfl, hgap, hmark, hc⟩ |
      ⟨rfl, p, rest, rfl, hp, hne, between, c', post, rfl, hgap, hc⟩ |
      ⟨pre, p, between, c', post, rfl, hp, hne, hgap, hc, hmark⟩)
    · exact ⟨[], c, between, c', post, rfl, hp, hne, hgap, hc, .inr hmark⟩
    · exact ⟨['"'], p, between, c', post, rfl, hp, hne, hgap, hc, .inl rfl⟩
    · refine ⟨c :: pre, p, between, c', post, rfl, hp, hne, hgap, hc, hmark.imp_left fun hlast => ?_⟩
      cases pre with
      | nil => cases hlast
      | cons b pre => rwa [List.getLast?_cons_cons]

theorem startsPastMark_cons (c : Char) (rest : Text) :
    StartsPastMark (c :: rest) ↔ isPunct c = true ∧ c ≠ '"' ∧ LeadsToSilent Gap rest := by
  constructor
  · rintro ⟨p, rest', heq, h⟩
    obtain ⟨rfl, rfl⟩ := List.cons.inj heq
    exact h
  · exact fun h => ⟨c, rest, rfl, h⟩

/-- What the phases still ask of the characters to come for silent punctuation to stay. -/
def SilentStays : SanitizePhase → Bool → Text → Prop
  | .head, after, rest | .test, after, rest => after = true ∧ LeadsToSilent Gap rest ∨ SilentPastMark rest
  | .skip, after, rest => after = true ∧ LeadsToSilent Gap rest ∨ StartsPastMark rest ∨ SilentPastMark rest
  | .inner, _, rest => LeadsPastMark rest ∨ SilentPastMark rest

theorem not_silentStays_nil (phase : SanitizePhase) (after : Bool) : ¬SilentStays phase after [] := by
  have hlead : ¬LeadsToSilent Gap [] := not_leadsToSilent_nil Gap
  have hpast : ¬LeadsPastMark [] := fun h => hlead h.leadsToSilent
  have hstart : ¬StartsPastMark [] := by
    rintro ⟨p, rest, heq, -⟩
    cases heq
  have hsilent : ¬SilentPastMark [] := by
    rintro ⟨pre, p, between, c, post, heq, -⟩
    cases pre <;> cases heq
  cases phase <;> simp [SilentStays, hlead, hpast, hstart, hsilent]

theorem silentStays_mark (after : Bool) (rest : Text) :
    (SilentStays .head after ('"' :: rest) ↔ SilentStays .skip after rest) ∧
      (SilentStays .inner after ('"' :: rest) ↔ SilentStays .skip true rest) := by
  have hgap : Gap '"' := .inr rfl
  have hsilent : isSilentPunctuation '"' = false := by decide
  have hspace : isSpace '"' = false := by decide
  simp [SilentStays, leadsToSilent_cons, leadsPastMark_cons, silentPastMark_cons, hgap, hsilent, hspace]

theorem silentStays_keep {phase : SanitizePhase} {after : Bool} {c : Char} (hc : c ≠ '"')
    (ha : phase = .inner → after = true) (hk : phase = .inner → isSilentPunctuation c = false) (rest : Text) :
    SilentStays phase after (c :: rest) ↔ after = true ∧ isSilentPunctuation c = true ∨
      SilentStays (phase.next c) (if isSpace c then after else isPunct c) rest := by
  have hgap : Gap c ↔ isSpace c = true := by simp [Gap, hc]
  have hweaken : LeadsPastMark rest → LeadsToSilent Gap rest := LeadsPastMark.leadsToSilent
  have hlead := leadsToSilent_cons Gap c rest
  have hpast := leadsPastMark_cons c rest
  have hstart := startsPastMark_cons c rest
  have hsilent := silentPastMark_cons c rest
  simp only [hc, hgap, ne_eq, not_false_eq_true, true_and, false_and, false_or] at hlead hpast hstart hsilent
  cases hspace : isSpace c with
  | true =>
    have hpunct : isPunct c = false := isPunct_eq_false_of_isSpace hspace
    have hloud : isSilentPunctuation c = false := isSilentPunctuation_eq_false hpunct
    cases phase <;> simp [SilentStays, SanitizePhase.next, hlead, hpast, hstart, hsilent, hspace, hpunct, hloud]
  | false =>
    cases hpunct : isPunct c with
    | false =>
      have hloud : isSilentPunctuation c = false := isSilentPunctuation_eq_false hpunct
      cases phase <;> simp [SilentStays, SanitizePhase.next, hlead, hpast, hstart, hsilent, hspace, hpunct, hloud]
    | true =>
      cases phase with
      | inner =>
        have hloud : isSilentPunctuation c = false := hk rfl
        simp [SilentStays, SanitizePhase.next, hpast, hsilent, hspace, hpunct, hloud]
      | skip =>
        have habsorb : LeadsToSilent Gap rest ∨ LeadsPastMark rest ∨ SilentPastMark rest ↔
            LeadsToSilent Gap rest ∨ SilentPastMark rest := by
          rw [← or_assoc, or_iff_left_of_imp hweaken]
        simp [SilentStays, SanitizePhase.next, hlead, hstart, hsilent, hspace, hpunct, habsorb]
      | head => simp [SilentStays, SanitizePhase.next, hlead, hsilent, hspace, hpunct]
      | test => simp [SilentStays, SanitizePhase.next, hlead, hsilent, hspace, hpunct]

/-- If no mark stays, silent punctuation stays behind punctuation as `SilentStays` says. -/
theorem repeatsAfter_iff (phase : SanitizePhase) (after : Bool) (rest : Text) (ha : phase = .inner → after = true)
    (hq : '"' ∉ replaceSuccesive phase rest) :
    RepeatsAfter after (replaceSuccesive phase rest) ↔ SilentStays phase after rest := by
  induction rest generalizing phase after with
  | nil =>
    have hrepeats : ¬RepeatsAfter after [] := by
      rintro (⟨-, h⟩ | h)
      · exact not_leadsToSilent_nil _ h
      · exact not_repeats_nil h
    rw [replaceSuccesive]
    exact iff_of_false hrepeats (not_silentStays_nil phase after)
  | cons c rest ih =>
    by_cases hc : c = '"'
    · subst hc
      have hmark := silentStays_mark after rest
      cases phase with
      | head => exact (ih .skip after (fun e => nomatch e) hq).trans hmark.1.symm
      | skip => exact absurd List.mem_cons_self hq
      | test => exact absurd List.mem_cons_self hq
      | inner =>
        obtain rfl := ha rfl
        exact (ih .skip true (fun e => nomatch e) hq).trans hmark.2.symm
    · by_cases hdrop : phase = .inner ∧ isSilentPunctuation c = true
      · -- the only character that is deleted
        obtain ⟨rfl, hsilent⟩ := hdrop
        have hrest : replaceSuccesive .inner (c :: rest) = replaceSuccesive .inner rest := by
          simp [replaceSuccesive, hsilent]
        have hpunct := isPunct_of_isSilentPunctuation hsilent
        rw [hrest] at hq ⊢
        rw [ih .inner after ha hq]
        simp [SilentStays, leadsPastMark_cons, silentPastMark_cons, hc, hpunct, isSpace_eq_false_of_isPunct hpunct]
      · have hk : phase = .inner → isSilentPunctuation c = false := fun hp => by simpa [hp] using hdrop
        rw [replaceSuccesive_keep hc hk] at hq ⊢
        rw [repeatsAfter_cons, silentStays_keep hc ha hk]
        refine or_congr_right (ih _ _ (fun hnext => ?_) fun hm => hq (List.mem_cons_of_mem _ hm))
        exact SanitizePhase.after_of_next ha hnext

/-- No quotation mark is left, and no silent punctuation whose nearest preceding
non-space character is punctuation. -/
def CleanedUp (text : Text) : Prop := '"' ∉ text ∧ ¬Repeats text

/-- **A clean text.** The clean-up is complete exactly for the texts whose marks
stand apart and in which no mark stands at the punctuation in front of silent
punctuation or between the two. -/
theorem cleanedUp_iff (text : Text) :
    CleanedUp (replaceSuccesivePunctuation text) ↔ MarksApart text ∧ ¬SilentPastMark text := by
  have hmark : '"' ∉ replaceSuccesivePunctuation text ↔ MarksApart text := mark_not_mem_iff .head text
  rw [CleanedUp, hmark]
  refine and_congr_right fun hapart => not_congr ?_
  have hrepeats := repeatsAfter_iff .head false text (fun e => nomatch e) (hmark.mpr hapart)
  simpa [RepeatsAfter, SilentStays, replaceSuccesivePunctuation] using hrepeats

/-- An empty quotation: the opening mark is erased, the closing one stepped over. -/
theorem emptyQuotation_not_cleanedUp : ¬CleanedUp (replaceSuccesivePunctuation "say \"\" now".toList) := by
  rintro ⟨hmark, -⟩
  exact hmark (by decide)

end TTS
