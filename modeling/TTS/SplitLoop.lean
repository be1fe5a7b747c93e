import TTS.Decimals
import TTS.Transition

/-!
# The loop of split

`split` looks for the delimiter from `pos` on and keeps in `prevPos` where the
token it is in starts. What stands behind the last delimiter is a token unless
it is empty, so that joining the tokens loses one delimiter at the end.
-/

namespace TTS

open Transition

/-- `str.find(delim, pos)`; nothing is `npos`. -/
def find (str : Text) (delim : Char) (pos : Nat) : Option Nat := ((str.drop pos).findIdx? (· = delim)).map (pos + ·)

/-- `str.substr(prevPos, pos - prevPos)`. -/
def substrTo (str : Text) (prevPos : Nat) : Option Nat → Text
  | some pos => (str.drop prevPos).take (pos - prevPos)
  | none => str.drop prevPos

inductive SplitPc
  | loop (pos : Nat)
  | rest (pos : Option Nat)
  | done
  deriving DecidableEq, Repr

structure Splitter where
  prevPos : Nat
  tokens : List Text
  pc : SplitPc
  deriving DecidableEq, Repr

namespace Splitter

def step (str : Text) (delim : Char) (s : Splitter) : Option Splitter :=
  match s.pc with
  | .loop pos =>
    -- the test for an empty string comes first, and leaves `pos` alone
    if str.isEmpty then some { s with pc := .rest (some pos) }
    else
      match find str delim pos with
      | some pos => some ⟨pos + 1, s.tokens ++ [substrTo str s.prevPos (some pos)], .loop (pos + 1)⟩
      | none => some { s with pc := .rest none }
  | .rest pos =>
    if !str.isEmpty && s.prevPos < str.length then
      some { s with tokens := s.tokens ++ [substrTo str s.prevPos pos], pc := .done }
    else some { s with pc := .done }
  | .done => none

end Splitter

def splitter (str : Text) (delim : Char) : Machine Splitter Unit where
  init s := s = ⟨0, [], .loop 0⟩
  step s _ := s.step str delim

/-! ## Fields -/

section
variable {delim : Char}

theorem fields_induction (delim : Char) {P : Text → Prop} (last : ∀ t, delim ∉ t → P t)
    (field : ∀ t rest, delim ∉ t → P rest → P (t ++ delim :: rest)) (str : Text) : P str := by
  induction hn : str.length using Nat.strong_induction_on generalizing str with
  | _ n ih =>
    by_cases hd : delim ∈ str
    · obtain ⟨t, rest, rfl, ht⟩ := List.eq_append_cons_of_mem hd
      apply field t rest ht
      apply ih rest.length _ rest rfl
      rw [List.length_append, List.length_cons] at hn
      omega
    · exact last str hd

/-- What `split` leaves out of the text between the delimiters. -/
def emptyEnd (delim : Char) (str : Text) : List Text := if str = [] ∨ str.getLast? = some delim then [[]] else []

theorem splitOn_eq_split (str : Text) : str.splitOn delim = split str delim ++ emptyEnd delim str := by
  induction str using fields_induction delim with
  | last t ht =>
    rw [List.splitOn_eq_singleton ht]
    by_cases hne : t = []
    · rw [hne]
      rfl
    · have hlast : t.getLast? ≠ some delim := fun h => ht (List.mem_of_getLast? h)
      simp [split_of_not_mem ht hne, emptyEnd, hne, hlast]
  | field t rest ht ih =>
    have hend : emptyEnd delim (t ++ delim :: rest) = emptyEnd delim rest := by
      cases rest <;> simp [emptyEnd]
    rw [List.splitOn_append_cons_self_of_not_mem ht, ih, split_append_cons ht, hend, List.cons_append]

theorem delim_not_mem_of_mem_split {str t : Text} (h : t ∈ split str delim) : delim ∉ t := by
  induction str using fields_induction delim with
  | last last hlast =>
    by_cases hne : last = []
    · rw [hne] at h
      cases h
    · rw [split_of_not_mem hlast hne] at h
      rw [List.mem_singleton.mp h]
      exact hlast
  | field field rest hfield ih =>
    rw [split_append_cons hfield] at h
    rcases List.mem_cons.mp h with rfl | h
    · exact hfield
    · exact ih h

theorem intercalate_snoc_nil {tokens : List Text} (hne : tokens ≠ []) :
    [delim].intercalate (tokens ++ [[]]) = [delim].intercalate tokens ++ [delim] := by
  induction tokens with
  | nil => exact absurd rfl hne
  | cons t tokens ih =>
    cases tokens with
    | nil => simp
    | cons t' tokens =>
      have ih := ih (List.cons_ne_nil t' tokens)
      rw [List.cons_append] at ih
      rw [List.cons_append, List.cons_append, List.intercalate_cons_cons, List.intercalate_cons_cons, ih,
        List.append_assoc (t ++ [delim])]

theorem join_split (str : Text) :
    [delim].intercalate (split str delim) = if str.getLast? = some delim then str.dropLast else str := by
  have hjoin : [delim].intercalate (str.splitOn delim) = str := List.intercalate_splitOn delim
  rw [splitOn_eq_split, emptyEnd] at hjoin
  by_cases hlast : str.getLast? = some delim
  · have hne : split str delim ≠ [] := by
      intro hnil
      rw [hnil, if_pos (.inr hlast)] at hjoin
      rw [← hjoin] at hlast
      cases hlast
    rw [if_pos (.inr hlast), intercalate_snoc_nil hne] at hjoin
    have hdrop := congrArg List.dropLast hjoin
    rw [List.dropLast_concat] at hdrop
    rw [if_pos hlast, hdrop]
  · rw [if_neg hlast]
    by_cases hnil : str = []
    · rw [hnil]
      rfl
    · rwa [if_neg (not_or.mpr ⟨hnil, hlast⟩), List.append_nil] at hjoin

/-- A last token that is not empty is not lost. -/
theorem split_join {tokens : List Text} (hfree : ∀ t ∈ tokens, delim ∉ t) (hlast : tokens.getLast? ≠ some [])
    (hne : tokens ≠ []) : split ([delim].intercalate tokens) delim = tokens := by
  have hsplit := @splitOn_eq_split delim ([delim].intercalate tokens)
  rw [List.splitOn_intercalate delim hfree hne] at hsplit
  rw [emptyEnd] at hsplit
  split at hsplit
  · rw [hsplit, List.getLast?_concat] at hlast
    exact absurd rfl hlast
  · rw [List.append_nil] at hsplit
    exact hsplit.symm

/-! ## The loop -/

namespace Splitter

theorem findIdx?_delim {t : Text} (ht : delim ∉ t) : t.findIdx? (· = delim) = none := by
  rw [List.findIdx?_eq_none_iff]
  intro c hc
  simpa using fun e : c = delim => ht (e ▸ hc)

theorem find_field {t : Text} (ht : delim ∉ t) (pre rest : Text) :
    find (pre ++ (t ++ delim :: rest)) delim pre.length = some (pre.length + t.length) := by
  simp [find, List.findIdx?_append, findIdx?_delim ht, List.findIdx?_cons]

theorem find_last {t : Text} (ht : delim ∉ t) (pre : Text) : find (pre ++ t) delim pre.length = none := by
  simp [find, findIdx?_delim ht]

/-- Behind `pre`, at the start of a token, the loop goes on to find the tokens of `rest`. -/
theorem ends_from (pre rest : Text) (tokens : List Text) :
    ∃ prevPos, (splitter (pre ++ rest) delim).Steps ⟨pre.length, tokens, .loop pre.length⟩
      ⟨prevPos, tokens ++ split rest delim, .done⟩ := by
  induction rest using fields_induction delim generalizing pre tokens with
  | last t ht =>
    refine ⟨pre.length, ?_⟩
    by_cases hempty : pre ++ t = []
    · obtain ⟨rfl, rfl⟩ := List.append_eq_nil_iff.mp hempty
      have hnil : tokens ++ split [] delim = tokens := List.append_nil tokens
      rw [hnil]
      exact .head ⟨(), rfl⟩ (.single ⟨(), rfl⟩)
    · have hloop : step (pre ++ t) delim ⟨pre.length, tokens, .loop pre.length⟩ = some ⟨pre.length, tokens, .rest none⟩ := by
        simp [step, hempty, find_last ht]
      refine .head ⟨(), hloop⟩ (.single ⟨(), ?_⟩)
      by_cases hne : t = []
      · subst hne
        simp [splitter, step, split, splitLoop]
      · rw [split_of_not_mem ht hne]
        simp [splitter, step, hne, List.length_pos_of_ne_nil hne, substrTo]
  | field t rest ht ih =>
    have hstr : pre ++ (t ++ delim :: rest) = pre ++ t ++ [delim] ++ rest := by simp
    obtain ⟨prevPos, hs⟩ := ih (pre ++ t ++ [delim]) (tokens ++ [t])
    rw [← hstr] at hs
    have hloop : step (pre ++ (t ++ delim :: rest)) delim ⟨pre.length, tokens, .loop pre.length⟩ =
        some ⟨(pre ++ t ++ [delim]).length, tokens ++ [t], .loop (pre ++ t ++ [delim]).length⟩ := by
      simp [step, find_field ht, substrTo, Nat.add_assoc]
    refine ⟨prevPos, .head ⟨(), hloop⟩ ?_⟩
    have htokens : tokens ++ t :: split rest delim = tokens ++ [t] ++ split rest delim := List.append_cons ..
    rw [split_append_cons ht, htokens]
    exact hs

end Splitter

/-- **split undoes joining.** Its loop ends with tokens free of the delimiter that
join to the string, less a delimiter at its end. -/
theorem split_inverse_of_join (str : Text) (delim : Char) :
    (∃ s, (splitter str delim).Reachable s ∧ s.pc = .done) ∧
      (∀ s, (splitter str delim).Reachable s → s.pc = .done → s.tokens = split str delim) ∧
      (∀ t ∈ split str delim, delim ∉ t) ∧
      [delim].intercalate (split str delim) = (if str.getLast? = some delim then str.dropLast else str) ∧
      ∀ tokens : List Text, tokens ≠ [] → (∀ t ∈ tokens, delim ∉ t) → tokens.getLast? ≠ some [] →
        split ([delim].intercalate tokens) delim = tokens := by
  obtain ⟨prevPos, hsteps⟩ := @Splitter.ends_from delim [] str []
  have hinit : (splitter str delim).Reachable ⟨0, [], .loop 0⟩ := .init rfl
  have hend := hinit.steps hsteps
  refine ⟨⟨_, hend, rfl⟩, fun s hs hdone => ?_, fun t => delim_not_mem_of_mem_split, join_split str,
    fun tokens hne hfree hlast => split_join hfree hlast hne⟩
  have hstops : (splitter str delim).step s () = none := by simp [splitter, Splitter.step, hdone]
  rw [hs.stops_unique (fun _ h => h) hend hstops rfl]
  rfl

end

end TTS
