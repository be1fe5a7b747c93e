import TTS.SpeechUrl
import TTS.Transition

/-!
# The cursor of replaceSuccesivePunctuation

The two loops as they move `pos` over a text that shrinks. A quotation mark is
erased and `pos` advanced before the test for the end, which compares with
`==`: behind a mark that was the last character `pos` is past the end.
-/

namespace TTS

open Transition

/-- The tests of the loops, named after what they look at. -/
inductive CursorPc
  | outerTest
  | stray
  | punct
  | innerTest
  | inner
  | done
  deriving DecidableEq, Repr

structure Cursor where
  text : Text
  pos : Nat
  pc : CursorPc
  deriving DecidableEq, Repr

namespace Cursor

def reads (c : Cursor) : Bool :=
  match c.pc with
  | .stray | .punct | .inner => true
  | .outerTest | .innerTest | .done => false

/-- `text[pos]`; `beyond` is what a read past the end finds. -/
def char (beyond : Char) (c : Cursor) : Char := c.text.getD c.pos beyond

def erase (c : Cursor) : Cursor := { c with text := c.text.eraseIdx c.pos }

def advance (c : Cursor) : Cursor := { c with pos := c.pos + 1 }

def goto (c : Cursor) (pc : CursorPc) : Cursor := { c with pc := pc }

def step (beyond : Char) (c : Cursor) : Option Cursor :=
  match c.pc with
  | .outerTest => some (c.goto (if c.pos < c.text.length then .stray else .done))
  | .stray =>
    if c.char beyond = '"' then
      let c := c.erase.advance
      some (c.goto (if c.pos = c.text.length then .done else .punct))
    else some (c.goto .punct)
  | .punct => some (c.advance.goto (if isPunct (c.char beyond) then .innerTest else .outerTest))
  | .innerTest => some (c.goto (if c.pos < c.text.length then .inner else .outerTest))
  | .inner =>
    if isSilentPunctuation (c.char beyond) then some (c.erase.goto .innerTest)
    else if isSpace (c.char beyond) then some (c.advance.goto .innerTest)
    else some (c.goto .outerTest)
  | .done => none

end Cursor

def sanitizer (beyond : Char) (text : Text) : Machine Cursor Unit where
  init c := c = ⟨text, 0, .outerTest⟩
  step c _ := c.step beyond

section
variable {beyond : Char}

/-- `pre` is done, `rest` still to come. -/
def Cursor.between (pre rest : Text) (pc : CursorPc) : Cursor := ⟨pre ++ rest, pre.length, pc⟩

theorem Cursor.char_between (pre rest : Text) (c : Char) (pc : CursorPc) :
    (between pre (c :: rest) pc).char beyond = c := by
  simp [char, between]

theorem Cursor.erase_between (pre rest : Text) (c : Char) (pc : CursorPc) :
    (between pre (c :: rest) pc).erase = between pre rest pc := by
  simp [erase, between, List.eraseIdx_append_of_length_le]

theorem Cursor.advance_between (pre rest : Text) (c : Char) (pc : CursorPc) :
    (between pre (c :: rest) pc).advance = between (pre ++ [c]) rest pc := by
  simp [advance, between]

@[simp] theorem Cursor.goto_between (pre rest : Text) (pc pc' : CursorPc) :
    (between pre rest pc).goto pc' = between pre rest pc' := rfl

theorem Cursor.pos_between_lt (pre rest : Text) (c : Char) (pc : CursorPc) :
    (between pre (c :: rest) pc).pos < (between pre (c :: rest) pc).text.length := by
  simp [between]

/-! ## One step -/

namespace Cursor

theorem step_outerTest (pre rest : Text) (c : Char) :
    (between pre (c :: rest) .outerTest).step beyond = some (between pre (c :: rest) .stray) := by
  simp [step, between, goto]

theorem step_outerTest_end (pre : Text) :
    (between pre [] .outerTest).step beyond = some (between pre [] .done) := by
  simp [step, between, goto]

theorem step_innerTest (pre rest : Text) (c : Char) :
    (between pre (c :: rest) .innerTest).step beyond = some (between pre (c :: rest) .inner) := by
  simp [step, between, goto]

theorem step_innerTest_end (pre : Text) :
    (between pre [] .innerTest).step beyond = some (between pre [] .outerTest) := by
  simp [step, between, goto]

theorem step_stray {c : Cursor} (h : c.pc = .stray) :
    c.step beyond =
      if c.char beyond = '"' then
        some (c.erase.advance.goto (if c.erase.advance.pos = c.erase.advance.text.length then .done else .punct))
      else some (c.goto .punct) := by
  simp [step, h]

theorem step_stray_other {c : Char} (hc : c ≠ '"') (pre rest : Text) :
    (between pre (c :: rest) .stray).step beyond = some (between pre (c :: rest) .punct) := by
  rw [step_stray rfl, char_between, if_neg hc, goto_between]

/-- Behind the erased mark one character is stepped over. -/
theorem step_stray_mark (pre rest : Text) (c : Char) :
    (between pre ('"' :: c :: rest) .stray).step beyond =
      some (between (pre ++ [c]) rest (if rest = [] then .done else .punct)) := by
  have hend : (between (pre ++ [c]) rest .stray).pos = (between (pre ++ [c]) rest .stray).text.length ↔ rest = [] := by
    cases rest <;> simp [between]
  rw [step_stray rfl, char_between, if_pos rfl, erase_between, advance_between, goto_between]
  simp only [hend]

/-- The mark was the last character: the cursor is past the end. -/
theorem step_stray_last (pre : Text) :
    (between pre ['"'] .stray).step beyond = some ⟨pre, pre.length + 1, .punct⟩ := by
  simp [step, between, char, erase, advance, goto, List.eraseIdx_append_of_length_le]

theorem step_punct (pre rest : Text) (c : Char) :
    (between pre (c :: rest) .punct).step beyond =
      some (between (pre ++ [c]) rest (if isPunct c then .innerTest else .outerTest)) := by
  simp [step, between, char, advance, goto]

theorem step_inner (pre rest : Text) (c : Char) :
    (between pre (c :: rest) .inner).step beyond =
      some (if isSilentPunctuation c then between pre rest .innerTest
        else if isSpace c then between (pre ++ [c]) rest .innerTest
        else between pre (c :: rest) .outerTest) := by
  have hstep : ∀ {c : Cursor}, c.pc = .inner → c.step beyond =
      if isSilentPunctuation (c.char beyond) then some (c.erase.goto .innerTest)
      else if isSpace (c.char beyond) then some (c.advance.goto .innerTest)
      else some (c.goto .outerTest) := by
    intro c h
    simp [step, h]
  rw [hstep rfl, char_between, erase_between, advance_between]
  split
  · rfl
  · split <;> rfl

/-! ## Whole runs -/

/-- The loops end with the text `result`. -/
def Ends (beyond : Char) (text : Text) (c : Cursor) (result : Text) : Prop :=
  ∃ pos, (sanitizer beyond text).Steps c ⟨result, pos, .done⟩

variable {text result : Text} {c c' : Cursor}

theorem Ends.head (h : c.step beyond = some c') (he : c'.Ends beyond text result) : c.Ends beyond text result := by
  obtain ⟨pos, hs⟩ := he
  exact ⟨pos, .head ⟨(), h⟩ hs⟩

theorem ends_done (s : Text) (pos : Nat) : (⟨s, pos, .done⟩ : Cursor).Ends beyond text s := ⟨pos, .refl⟩

/-- Past the end whatever is read changes nothing. -/
theorem ends_past {s : Text} {pos : Nat} (h : s.length ≤ pos) :
    (⟨s, pos, .outerTest⟩ : Cursor).Ends beyond text s ∧ (⟨s, pos, .innerTest⟩ : Cursor).Ends beyond text s ∧
      (⟨s, pos, .punct⟩ : Cursor).Ends beyond text s := by
  have houter : ∀ p, s.length ≤ p → (⟨s, p, .outerTest⟩ : Cursor).Ends beyond text s := by
    intro p hp
    refine Ends.head ?_ (ends_done s p)
    simp [step, goto, Nat.not_lt.mpr hp]
  have hinner : ∀ p, s.length ≤ p → (⟨s, p, .innerTest⟩ : Cursor).Ends beyond text s := by
    intro p hp
    refine Ends.head ?_ (houter p hp)
    simp [step, goto, Nat.not_lt.mpr hp]
  refine ⟨houter pos h, hinner pos h, ?_⟩
  have hnext : s.length ≤ pos + 1 := Nat.le_succ_of_le h
  cases hpunct : isPunct ((⟨s, pos, .punct⟩ : Cursor).char beyond) with
  | true => exact Ends.head (by simp [step, goto, advance, hpunct]) (hinner (pos + 1) hnext)
  | false => exact Ends.head (by simp [step, goto, advance, hpunct]) (houter (pos + 1) hnext)

/-- Where the cursor stands in each phase of `replaceSuccesive`. -/
def atPhase (pre : Text) : SanitizePhase → Text → Cursor
  | .head, rest => between pre rest .outerTest
  | .skip, [] => ⟨pre, pre.length + 1, .punct⟩
  | .skip, c :: rest => between (pre ++ [c]) rest (if rest = [] then .done else .punct)
  | .test, rest => between pre rest .punct
  | .inner, rest => between pre rest .innerTest

theorem step_stray_quote (pre rest : Text) :
    (between pre ('"' :: rest) .stray).step beyond = some (atPhase pre .skip rest) := by
  cases rest with
  | nil => exact step_stray_last pre
  | cons c rest => exact step_stray_mark pre rest c

theorem replaceSuccesive_inner {c : Char} (h : isSilentPunctuation c = false) (hs : isSpace c = false) (rest : Text) :
    replaceSuccesive .inner (c :: rest) = replaceSuccesive .head (c :: rest) := by
  simp [replaceSuccesive, h, hs]

/-- **The cursor does what `replaceSuccesive` says.** -/
theorem ends_atPhase (phase : SanitizePhase) (pre rest : Text) :
    (atPhase pre phase rest).Ends beyond text (pre ++ replaceSuccesive phase rest) := by
  induction rest generalizing phase pre with
  | nil =>
    have hpast := @ends_past beyond text pre pre.length (Nat.le_refl _)
    have hbeyond := @ends_past beyond text pre (pre.length + 1) (Nat.le_succ _)
    cases phase with
    | head => simpa [atPhase, between, replaceSuccesive] using hpast.1
    | skip => simpa [atPhase, replaceSuccesive] using hbeyond.2.2
    | test => simpa [atPhase, between, replaceSuccesive] using hpast.2.2
    | inner => simpa [atPhase, between, replaceSuccesive] using hpast.2.1
  | cons c rest ih =>
    have hpunct : (between pre (c :: rest) .punct).Ends beyond text (pre ++ replaceSuccesive .test (c :: rest)) := by
      apply Ends.head (step_punct pre rest c)
      cases hc : isPunct c with
      | true => simpa [replaceSuccesive, hc, atPhase] using ih .inner (pre ++ [c])
      | false => simpa [replaceSuccesive, hc, atPhase] using ih .head (pre ++ [c])
    have hhead : (between pre (c :: rest) .outerTest).Ends beyond text (pre ++ replaceSuccesive .head (c :: rest)) := by
      apply Ends.head (step_outerTest pre rest c)
      by_cases hc : c = '"'
      · subst hc
        apply Ends.head (step_stray_quote pre rest)
        simpa [replaceSuccesive] using ih .skip pre
      · apply Ends.head (step_stray_other hc pre rest)
        simpa [replaceSuccesive, hc] using hpunct
    cases phase with
    | head => exact hhead
    | test => exact hpunct
    | skip =>
      simp only [atPhase]
      by_cases hr : rest = []
      · subst hr
        simpa [replaceSuccesive, between] using ends_done (pre ++ [c]) (pre.length + 1)
      · simpa [replaceSuccesive, hr, atPhase] using ih .test (pre ++ [c])
    | inner =>
      apply Ends.head (step_innerTest pre rest c)
      apply Ends.head (step_inner pre rest c)
      cases hsilent : isSilentPunctuation c with
      | true => simpa [replaceSuccesive, hsilent, atPhase] using ih .inner pre
      | false =>
        cases hspace : isSpace c with
        | true => simpa [replaceSuccesive, hsilent, hspace, atPhase] using ih .inner (pre ++ [c])
        | false => simpa [replaceSuccesive_inner hsilent hspace] using hhead

end Cursor

/-! ## The result -/

/-- The loops end, for every text, and leave what `replaceSuccesivePunctuation` says. -/
theorem sanitizer_ends (beyond : Char) (text : Text) :
    (∃ c, (sanitizer beyond text).Reachable c ∧ c.pc = .done) ∧
      ∀ c, (sanitizer beyond text).Reachable c → c.pc = .done → c.text = replaceSuccesivePunctuation text := by
  obtain ⟨pos, hsteps⟩ := @Cursor.ends_atPhase beyond text .head [] text
  have hinit : (sanitizer beyond text).Reachable (.between [] text .outerTest) := .init rfl
  refine ⟨⟨_, hinit.steps hsteps, rfl⟩, fun c hc hdone => ?_⟩
  have hstops : (sanitizer beyond text).step c () = none := by simp [sanitizer, Cursor.step, hdone]
  rw [hc.stops_unique (fun _ h => h) (hinit.steps hsteps) hstops rfl]
  rfl

/-! ## Reads -/

/-- Single characters other than quotation marks, and quotation marks with two
more characters each, then a quotation mark that is the last character. -/
inductive EndsInStray : Text → Prop
  | last : EndsInStray ['"']
  | other {c rest} (h : c ≠ '"') (ends : EndsInStray rest) : EndsInStray (c :: rest)
  | stray {a b rest} (ends : EndsInStray rest) : EndsInStray ('"' :: a :: b :: rest)

theorem EndsInStray.of_cons {c : Char} {rest : Text} (hc : c ≠ '"') (h : EndsInStray (c :: rest)) : EndsInStray rest := by
  cases h with
  | last => exact absurd rfl hc
  | other _ ends => exact ends
  | stray => exact absurd rfl hc

theorem endsInStray_cons {c : Char} (hc : c ≠ '"') (rest : Text) : EndsInStray (c :: rest) ↔ EndsInStray rest :=
  ⟨fun h => h.of_cons hc, fun h => .other hc h⟩

theorem endsInStray_quote (a b : Char) (rest : Text) : EndsInStray ('"' :: a :: b :: rest) ↔ EndsInStray rest := by
  constructor
  · intro h
    cases h with
    | other hc => exact absurd rfl hc
    | stray ends => exact ends
  · exact .stray

/-- Where the cursor comes while no mark at the very end is erased. -/
inductive Cursor.Inside : Cursor → Prop
  | outerTest {pre rest} (h : ¬EndsInStray rest) : Inside (.between pre rest .outerTest)
  | stray {pre c rest} (h : ¬EndsInStray (c :: rest)) : Inside (.between pre (c :: rest) .stray)
  | punct {pre c rest} (h : ¬EndsInStray rest) : Inside (.between pre (c :: rest) .punct)
  | innerTest {pre rest} (h : ¬EndsInStray rest) : Inside (.between pre rest .innerTest)
  | inner {pre c rest} (h : ¬EndsInStray (c :: rest)) : Inside (.between pre (c :: rest) .inner)
  | done {c} (h : c.pc = .done) : Inside c

theorem Cursor.Inside.step {c c' : Cursor} (h : c.Inside) (hs : c.step beyond = some c') : c'.Inside := by
  cases h with
  | @outerTest pre rest h =>
    cases rest with
    | nil =>
      rw [step_outerTest_end] at hs
      obtain rfl := Option.some.inj hs
      exact .done rfl
    | cons c rest =>
      rw [step_outerTest] at hs
      obtain rfl := Option.some.inj hs
      exact .stray h
  | @stray pre c rest h =>
    by_cases hc : c = '"'
    · subst hc
      cases rest with
      | nil => exact absurd .last h
      | cons a rest =>
        rw [step_stray_mark] at hs
        obtain rfl := Option.some.inj hs
        cases rest with
        | nil => exact .done rfl
        | cons b rest => exact .punct (mt (endsInStray_quote a b rest).mpr h)
    · rw [step_stray_other hc] at hs
      obtain rfl := Option.some.inj hs
      exact .punct (mt (endsInStray_cons hc rest).mpr h)
  | @punct pre c rest h =>
    rw [step_punct] at hs
    obtain rfl := Option.some.inj hs
    split
    · exact .innerTest h
    · exact .outerTest h
  | @innerTest pre rest h =>
    cases rest with
    | nil =>
      rw [step_innerTest_end] at hs
      obtain rfl := Option.some.inj hs
      exact .outerTest h
    | cons c rest =>
      rw [step_innerTest] at hs
      obtain rfl := Option.some.inj hs
      exact .inner h
  | @inner pre c rest h =>
    rw [step_inner] at hs
    obtain rfl := Option.some.inj hs
    have hrest : c ≠ '"' → ¬EndsInStray rest := fun hc => mt (endsInStray_cons hc rest).mpr h
    split
    · rename_i hsilent
      exact .innerTest (hrest fun hc => by subst hc; exact absurd hsilent (by decide))
    · split
      · rename_i hspace
        exact .innerTest (hrest fun hc => by subst hc; exact absurd hspace (by decide))
      · exact .outerTest h
  | done h => simp [Cursor.step, h] at hs

theorem Cursor.Inside.in_bounds {c : Cursor} (h : c.Inside) (hr : c.reads = true) : c.pos < c.text.length := by
  cases h with
  | outerTest | innerTest => cases hr
  | done h => simp [reads, h] at hr
  | stray | punct | inner => exact pos_between_lt _ _ _ _

/-- The cursor comes to a read past the end. -/
def Cursor.Overruns (beyond : Char) (text : Text) (c : Cursor) : Prop :=
  ∃ c', (sanitizer beyond text).Steps c c' ∧ c'.reads = true ∧ c'.text.length ≤ c'.pos

theorem Cursor.Overruns.head {text : Text} {c c' : Cursor} (h : c.step beyond = some c')
    (ho : c'.Overruns beyond text) : c.Overruns beyond text := by
  obtain ⟨d, hs, hr, hp⟩ := ho
  exact ⟨d, .head ⟨(), h⟩ hs, hr, hp⟩

theorem EndsInStray.overruns {text rest : Text} (h : EndsInStray rest) (pre : Text) :
    (Cursor.between pre rest .outerTest).Overruns beyond text ∧
      (Cursor.between pre rest .innerTest).Overruns beyond text := by
  -- a mark is neither silent nor white space, so the inner loop leaves it to the outer one
  have hinner : ∀ {pre rest}, (Cursor.between pre ('"' :: rest) .outerTest).Overruns beyond text →
      (Cursor.between pre ('"' :: rest) .innerTest).Overruns beyond text := by
    intro pre rest ho
    apply Cursor.Overruns.head (Cursor.step_innerTest pre rest '"')
    exact Cursor.Overruns.head (Cursor.step_inner pre rest '"') ho
  induction h generalizing pre with
  | last =>
    have ho : (Cursor.between pre ['"'] .outerTest).Overruns beyond text := by
      apply Cursor.Overruns.head (Cursor.step_outerTest pre [] '"')
      apply Cursor.Overruns.head (Cursor.step_stray_last pre)
      exact ⟨_, .refl, rfl, Nat.le_succ _⟩
    exact ⟨ho, hinner ho⟩
  | @other c rest hc _ ih =>
    have ho : (Cursor.between pre (c :: rest) .outerTest).Overruns beyond text := by
      apply Cursor.Overruns.head (Cursor.step_outerTest pre rest c)
      apply Cursor.Overruns.head (Cursor.step_stray_other hc pre rest)
      apply Cursor.Overruns.head (Cursor.step_punct pre rest c)
      split
      · exact (ih _).2
      · exact (ih _).1
    refine ⟨ho, Cursor.Overruns.head (Cursor.step_innerTest pre rest c) ?_⟩
    apply Cursor.Overruns.head (Cursor.step_inner pre rest c)
    split
    · exact (ih pre).2
    · split
      · exact (ih _).2
      · exact ho
  | @stray a b rest _ ih =>
    have ho : (Cursor.between pre ('"' :: a :: b :: rest) .outerTest).Overruns beyond text := by
      apply Cursor.Overruns.head (Cursor.step_outerTest pre _ '"')
      apply Cursor.Overruns.head (Cursor.step_stray_mark pre (b :: rest) a)
      apply Cursor.Overruns.head (Cursor.step_punct (pre ++ [a]) rest b)
      split
      · exact (ih _).2
      · exact (ih _).1
    exact ⟨ho, hinner ho⟩

/-- Every read lies in the text as it then is, and the loops end. -/
def EndsInside (beyond : Char) (text : Text) : Prop :=
  (∀ c, (sanitizer beyond text).Reachable c → c.reads = true → c.pos < c.text.length) ∧
    ∃ c, (sanitizer beyond text).Reachable c ∧ c.pc = .done

theorem overruns_of_endsInStray {text : Text} (h : EndsInStray text) : ¬EndsInside beyond text := by
  rintro ⟨hreads, -⟩
  have hinit : (sanitizer beyond text).Reachable (.between [] text .outerTest) := .init rfl
  obtain ⟨c, hs, hr, hp⟩ := (@EndsInStray.overruns beyond text text h []).1
  exact absurd (hreads c (hinit.steps hs) hr) (Nat.not_lt.mpr hp)

/-- **Reads and termination.** The loops end on every text, and all they read
lies in the text unless they erase a quotation mark at its very end. -/
theorem sanitizer_inside_iff (beyond : Char) (text : Text) : EndsInside beyond text ↔ ¬EndsInStray text := by
  refine ⟨fun h hends => overruns_of_endsInStray hends h, fun hends => ⟨fun c hc hr => ?_, (sanitizer_ends beyond text).1⟩⟩
  apply Cursor.Inside.in_bounds _ hr
  refine Machine.Reachable.invariant (I := Cursor.Inside) ?_ ?_ hc
  · intro c hi
    subst hi
    exact @Cursor.Inside.outerTest [] text hends
  · intro c a c' hin hs
    exact hin.step hs

/-- The closing mark of a quotation is the last character. -/
theorem sanitizer_past_end : ¬EndsInside '\x00' "say \"no\"".toList := by
  apply overruns_of_endsInStray
  exact .other (by decide) (.other (by decide) (.other (by decide) (.other (by decide) (.stray (.last)))))

end

end TTS
