import Mathlib.Data.List.TakeWhile

/-!
# Queries

The parameters of a query: the pieces between the ampersands, each cut at its
first equals sign, the values percent-decoded. `Escaped` relates a text to its
escaped forms, in which only unreserved characters and `%XX` occur.
-/

namespace Query

abbrev Chars := List Char

def hexValue (c : Char) : Option Nat :=
  if 48 ≤ c.toNat ∧ c.toNat ≤ 57 then some (c.toNat - 48)
  else if 65 ≤ c.toNat ∧ c.toNat ≤ 70 then some (c.toNat - 55)
  else if 97 ≤ c.toNat ∧ c.toNat ≤ 102 then some (c.toNat - 87)
  else none

/-- The character that the two digits of `%XX` stand for. -/
def hexPair (h l : Char) : Option Char :=
  (hexValue h).bind fun a => (hexValue l).map fun b => Char.ofNat (16 * a + b)

/-- A percent sign without two digits behind it stands for itself. -/
def percentDecode : Chars → Chars
  | [] => []
  | [a] => [a]
  | [a, b] => [a, b]
  | a :: h :: l :: rest =>
    match if a = '%' then hexPair h l else none with
    | some c => c :: percentDecode rest
    | none => a :: percentDecode (h :: l :: rest)

def HasEscape (s : Chars) : Prop := ∃ pre h l post, s = pre ++ '%' :: h :: l :: post ∧ (hexPair h l).isSome = true

theorem percentDecode_cons_other {a : Char} (ha : a ≠ '%') (s : Chars) : percentDecode (a :: s) = a :: percentDecode s := by
  rcases s with _ | ⟨b, _ | ⟨c, s⟩⟩
  · rfl
  · rfl
  · simp [percentDecode, ha]

theorem percentDecode_of_not_mem {s : Chars} (h : '%' ∉ s) : percentDecode s = s := by
  induction s with
  | nil => rfl
  | cons a s ih =>
    simp only [List.mem_cons, not_or] at h
    rw [percentDecode_cons_other fun e => h.1 e.symm, ih h.2]

theorem length_percentDecode_le (s : Chars) : (percentDecode s).length ≤ s.length := by
  fun_induction percentDecode s with
  | case1 => simp
  | case2 => simp
  | case3 => simp
  | case4 a h l rest c _ ih =>
    simp only [List.length_cons]
    omega
  | case5 a h l rest _ ih =>
    simp only [List.length_cons] at ih ⊢
    omega

theorem hasEscape_cons (a : Char) (s : Chars) :
    HasEscape (a :: s) ↔ (∃ h l post, a = '%' ∧ s = h :: l :: post ∧ (hexPair h l).isSome = true) ∨ HasEscape s := by
  constructor
  · rintro ⟨pre, h, l, post, heq, hcode⟩
    cases pre with
    | nil =>
      obtain ⟨rfl, rfl⟩ := List.cons.inj heq
      exact .inl ⟨h, l, post, rfl, rfl, hcode⟩
    | cons b pre =>
      obtain ⟨rfl, rfl⟩ := List.cons.inj heq
      exact .inr ⟨pre, h, l, post, rfl, hcode⟩
  · rintro (⟨h, l, post, rfl, rfl, hcode⟩ | ⟨pre, h, l, post, rfl, hcode⟩)
    · exact ⟨[], h, l, post, rfl, hcode⟩
    · exact ⟨a :: pre, h, l, post, rfl, hcode⟩

theorem not_hasEscape_nil : ¬HasEscape [] := by
  rintro ⟨pre, h, l, post, heq, -⟩
  cases pre <;> cases heq

theorem percentDecode_eq_self_iff (s : Chars) : percentDecode s = s ↔ ¬HasEscape s := by
  fun_induction percentDecode s with
  | case1 => simp [not_hasEscape_nil]
  | case2 a => simp [hasEscape_cons, not_hasEscape_nil]
  | case3 a b => simp [hasEscape_cons, not_hasEscape_nil]
  | case4 a h l rest c hcode ih =>
    obtain ⟨rfl, hpair⟩ := Option.ite_none_right_eq_some.mp hcode
    have hlen := length_percentDecode_le rest
    constructor
    · intro heq
      have heq := congrArg List.length heq
      simp only [List.length_cons] at heq
      omega
    · intro hno
      exact absurd ((hasEscape_cons _ _).mpr (.inl ⟨h, l, rest, rfl, rfl, by simp [hpair]⟩)) hno
  | case5 a h l rest hcode ih =>
    have hnone : ¬∃ h' l' post, a = '%' ∧ h :: l :: rest = h' :: l' :: post ∧ (hexPair h' l').isSome = true := by
      rintro ⟨h', l', post, rfl, heq, hsome⟩
      simp only [List.cons.injEq] at heq
      obtain ⟨rfl, rfl, rfl⟩ := heq
      simp only [if_true] at hcode
      simp [hcode] at hsome
    rw [List.cons_inj_right, ih, hasEscape_cons a, or_iff_right hnone]

/-! ## Escaped texts -/

def isUnreserved (c : Char) : Bool := c.isAlphanum || c = '-' || c = '.' || c = '_' || c = '~'

/-- `out` stands for `s` with unreserved characters and `%XX` only. -/
inductive Escaped : Chars → Chars → Prop
  | nil : Escaped [] []
  | plain {c out s} (unreserved : isUnreserved c = true) (rest : Escaped out s) : Escaped (c :: out) (c :: s)
  | coded {h l c out s} (code : hexPair h l = some c) (rest : Escaped out s) : Escaped ('%' :: h :: l :: out) (c :: s)

theorem percentDecode_escaped {out s : Chars} (h : Escaped out s) : percentDecode out = s := by
  induction h with
  | nil => rfl
  | @plain c out s hc _ ih =>
    have hne : c ≠ '%' := by
      rintro rfl
      exact absurd hc (by decide)
    rw [percentDecode_cons_other hne, ih]
  | @coded h l c out s hcode _ ih => simp [percentDecode, hcode, ih]

theorem hexValue_ampersand : hexValue '&' = none := by decide

theorem Escaped.ampersand_not_mem {out s : Chars} (h : Escaped out s) : '&' ∉ out := by
  induction h with
  | nil => simp
  | @plain c out s hc _ ih =>
    have hne : '&' ≠ c := by
      rintro rfl
      exact absurd hc (by decide)
    simp [hne, ih]
  | @coded h l c out s hcode _ ih =>
    have hh : '&' ≠ h := by
      rintro rfl
      simp [hexPair, hexValue_ampersand] at hcode
    have hl : '&' ≠ l := by
      rintro rfl
      cases hv : hexValue h <;> simp [hexPair, hexValue_ampersand, hv] at hcode
    simp [hh, hl, ih]

def hexDigit (n : Nat) : Char := "0123456789ABCDEF".toList.getD n '0'

theorem hexValue_hexDigit : ∀ n < 16, hexValue (hexDigit n) = some n := by decide

/-- Every byte that is not unreserved as `%XX`. -/
def escapeBytes (s : Chars) : Chars :=
  s.flatMap fun c => if isUnreserved c then [c] else ['%', hexDigit (c.toNat / 16), hexDigit (c.toNat % 16)]

theorem escaped_escapeBytes {s : Chars} (h : ∀ c ∈ s, c.toNat < 256) : Escaped (escapeBytes s) s := by
  induction s with
  | nil => exact .nil
  | cons c s ih =>
    have hrest : Escaped (escapeBytes s) s := ih fun c' hc' => h c' (List.mem_cons_of_mem _ hc')
    have hc : c.toNat < 256 := h c List.mem_cons_self
    rw [escapeBytes, List.flatMap_cons]
    split
    · rename_i hun
      exact .plain hun hrest
    · apply Escaped.coded _ hrest
      rw [hexPair, hexValue_hexDigit _ (by omega), hexValue_hexDigit _ (by omega)]
      simp only [Option.bind_some, Option.map_some, Nat.div_add_mod, Char.ofNat_toNat]

/-! ## Parameters -/

def parameter (piece : Chars) : Chars × Chars :=
  (piece.takeWhile (· ≠ '='), percentDecode ((piece.dropWhile (· ≠ '=')).drop 1))

def parameters (query : Chars) : List (Chars × Chars) :=
  ((query.splitOn '&').filter fun piece => !piece.isEmpty).map parameter

theorem parameters_nil : parameters [] = [] := rfl

theorem parameters_append (query rest : Chars) :
    parameters (query ++ '&' :: rest) = parameters query ++ parameters rest := by
  simp [parameters, List.splitOn_append_cons_self]

theorem parameters_piece {piece : Chars} (h : '&' ∉ piece) (hne : piece ≠ []) : parameters piece = [parameter piece] := by
  simp [parameters, List.splitOn_eq_singleton h, hne]

theorem parameter_eq {name : Chars} (h : '=' ∉ name) (value : Chars) :
    parameter (name ++ '=' :: value) = (name, percentDecode value) := by
  have hname : ∀ c ∈ name, (decide (c ≠ '=')) = true := by
    intro c hc
    simpa using fun e : c = '=' => h (e ▸ hc)
  rw [parameter, List.takeWhile_append_of_pos hname, List.dropWhile_append_of_pos hname]
  simp

section
variable {name : Chars} (hname : '&' ∉ name) (heq : '=' ∉ name)
include hname heq

theorem parameters_assign {value : Chars} (h : '&' ∉ value) :
    parameters (name ++ '=' :: value) = [(name, percentDecode value)] := by
  rw [parameters_piece _ (by simp), parameter_eq heq]
  simp [hname, h]

theorem mem_parameters_assign (value : Chars) :
    (name, percentDecode (value.takeWhile (· ≠ '&'))) ∈ parameters (name ++ '=' :: value) := by
  have hfront : '&' ∉ value.takeWhile (· ≠ '&') := by
    intro hm
    simpa using List.mem_takeWhile_imp hm
  have hsplit := List.takeWhile_append_dropWhile (p := (· ≠ '&')) (l := value)
  cases hrest : value.dropWhile (· ≠ '&') with
  | nil =>
    rw [hrest, List.append_nil] at hsplit
    rw [hsplit] at hfront ⊢
    rw [parameters_assign hname heq hfront]
    exact List.mem_singleton_self _
  | cons c rest =>
    have hc : c = '&' := by
      have hhead := List.head?_dropWhile_not (p := (· ≠ '&')) (l := value)
      rw [hrest] at hhead
      simpa using hhead
    subst hc
    have hquery : name ++ '=' :: value = (name ++ '=' :: value.takeWhile (· ≠ '&')) ++ '&' :: rest := by
      rw [hrest] at hsplit
      have hjoin := congrArg (fun v => name ++ '=' :: v) hsplit
      simpa using hjoin.symm
    rw [hquery, parameters_append, parameters_assign hname heq hfront]
    exact List.mem_append_left _ (List.mem_singleton_self _)

end

/-- A text that a query carries as it is. -/
def Plain (s : Chars) : Prop := '&' ∉ s ∧ ¬HasEscape s

theorem plain_of_decoded_front {value : Chars} (h : percentDecode (value.takeWhile (· ≠ '&')) = value) : Plain value := by
  have hle := length_percentDecode_le (value.takeWhile (· ≠ '&'))
  have hwhole : value.takeWhile (· ≠ '&') = value := by
    apply (List.takeWhile_prefix _).eq_of_length_le
    rwa [h] at hle
  rw [hwhole] at h
  refine ⟨fun hm => ?_, (percentDecode_eq_self_iff value).mp h⟩
  rw [← hwhole] at hm
  simpa using List.mem_takeWhile_imp hm

end Query
