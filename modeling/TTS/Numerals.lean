import Mathlib.Data.Rat.Defs
import Mathlib.Algebra.Order.Field.Rat

/-!
# Numerals

Decimal numerals and what they denote: a sign, digits with a point among them
or not, and an exponent. An integer numeral is a sign and digits. A text
denotes a number if it is a numeral between blanks.
-/

namespace Numerals

def AllDigits (cs : List Char) : Prop := ∀ c ∈ cs, c.isDigit = true

inductive Sign
  | none
  | plus
  | minus
  deriving DecidableEq

namespace Sign

def text : Sign → List Char
  | none => []
  | plus => ['+']
  | minus => ['-']

def isMinus : Sign → Bool
  | minus => true
  | none | plus => false

end Sign

structure Integer where
  sign : Sign
  digits : List Char
  digits_ne : digits ≠ []
  allDigits : AllDigits digits

namespace Integer

def text (n : Integer) : List Char := n.sign.text ++ n.digits

def value (n : Integer) : Int :=
  if n.sign.isMinus then -(Nat.ofDigitChars 10 n.digits 0) else Nat.ofDigitChars 10 n.digits 0

end Integer

/-- `mark` is the letter of the exponent. -/
structure Exponent extends Integer where
  mark : Char
  mark_mem : mark = 'e' ∨ mark = 'E'

structure Decimal where
  sign : Sign
  whole : List Char
  fraction : Option (List Char)
  exponent : Option Exponent
  digits_ne : whole ++ fraction.getD [] ≠ []
  allDigits : AllDigits (whole ++ fraction.getD [])

namespace Decimal

def pointText (n : Decimal) : List Char := n.fraction.elim [] ('.' :: ·)

def exponentText (n : Decimal) : List Char := n.exponent.elim [] fun e => e.mark :: e.text

def body (n : Decimal) : List Char := n.whole ++ (n.pointText ++ n.exponentText)

def text (n : Decimal) : List Char := n.sign.text ++ n.body

def mantissa (n : Decimal) : Nat := Nat.ofDigitChars 10 (n.whole ++ n.fraction.getD []) 0

def magnitude (n : Decimal) : ℚ :=
  n.mantissa * (10 : ℚ) ^ (n.exponent.elim 0 (fun e => e.value) - ((n.fraction.getD []).length : Int))

def value (n : Decimal) : ℚ := if n.sign.isMinus then -n.magnitude else n.magnitude

end Decimal

/-- `t` between blanks. -/
def Padded (blank : Char → Bool) (v t : List Char) : Prop :=
  ∃ before after, v = before ++ (t ++ after) ∧ (∀ c ∈ before, blank c = true) ∧ ∀ c ∈ after, blank c = true

/-! ## Characters of a numeral -/

theorem AllDigits.left {as bs : List Char} (h : AllDigits (as ++ bs)) : AllDigits as :=
  fun c hc => h c (List.mem_append_left _ hc)

theorem AllDigits.right {as bs : List Char} (h : AllDigits (as ++ bs)) : AllDigits bs :=
  fun c hc => h c (List.mem_append_right _ hc)

def isNumeralChar (c : Char) : Bool := c.isDigit || ['.', 'e', 'E', '+', '-'].contains c

theorem isNumeralChar_of_isDigit {c : Char} (h : c.isDigit = true) : isNumeralChar c = true := by
  unfold isNumeralChar
  rw [h, Bool.true_or]

theorem Sign.isNumeralChar_of_mem {s : Sign} {c : Char} (h : c ∈ s.text) : isNumeralChar c = true := by
  cases s with
  | none => cases h
  | plus | minus =>
    rw [List.mem_singleton.mp h]
    decide

theorem Integer.isNumeralChar_of_mem {n : Integer} {c : Char} (h : c ∈ n.text) : isNumeralChar c = true := by
  rcases List.mem_append.mp h with h | h
  · exact Sign.isNumeralChar_of_mem h
  · exact isNumeralChar_of_isDigit (n.allDigits c h)

theorem Decimal.isNumeralChar_of_mem_body {n : Decimal} {c : Char} (h : c ∈ n.body) : isNumeralChar c = true := by
  rcases List.mem_append.mp h with h | h
  · exact isNumeralChar_of_isDigit (n.allDigits.left c h)
  rcases List.mem_append.mp h with h | h
  · unfold pointText at h
    have hdigits := n.allDigits.right
    cases hf : n.fraction with
    | none =>
      rw [hf] at h
      cases h
    | some f =>
      rw [hf] at h hdigits
      rcases List.mem_cons.mp h with rfl | h
      · decide
      · exact isNumeralChar_of_isDigit (hdigits c h)
  · unfold exponentText at h
    cases he : n.exponent with
    | none =>
      rw [he] at h
      cases h
    | some e =>
      rw [he] at h
      rcases List.mem_cons.mp h with rfl | h
      · rcases e.mark_mem with hm | hm <;> rw [hm] <;> decide
      · exact Integer.isNumeralChar_of_mem h

theorem Decimal.head_body (n : Decimal) : ∃ c rest, n.body = c :: rest ∧ (c.isDigit = true ∨ c = '.') := by
  unfold body
  cases hw : n.whole with
  | cons c rest =>
    have hdigits := n.allDigits
    rw [hw] at hdigits
    exact ⟨c, _, rfl, .inl (hdigits c List.mem_cons_self)⟩
  | nil =>
    cases hf : n.fraction with
    | none =>
      have hne := n.digits_ne
      rw [hw, hf] at hne
      exact absurd rfl hne
    | some f =>
      refine ⟨'.', f ++ n.exponentText, ?_, .inr rfl⟩
      rw [pointText, hf]
      rfl

theorem Integer.head_digits (n : Integer) : ∃ c rest, n.digits = c :: rest ∧ c.isDigit = true := by
  cases hd : n.digits with
  | nil => exact absurd hd n.digits_ne
  | cons c rest => exact ⟨c, rest, rfl, n.allDigits c (by rw [hd]; exact List.mem_cons_self)⟩

end Numerals
