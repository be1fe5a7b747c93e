import Mathlib.Data.Rat.Defs
import Mathlib.Algebra.Order.Field.Rat
import Mathlib.Algebra.Order.Floor.Ring
import Mathlib.Data.Rat.Floor
import Mathlib.Data.Int.Log

/-!
# Strings and numbers in strings

A string is the list of its characters, a `double` its exact value. `stod`
and `stoi` convert the longest prefix that denotes a number, after white
space, and throw when there is none or when the number is out of range.
`stod` gives the `double` nearest to the number, `stodExact` the number itself:
what is proved of numbers that are printed and read back assumes that nothing is
rounded on the way.
-/

namespace TTS

abbrev Text := List Char

inductive StdException
  | invalidArgument
  | outOfRange
  deriving DecidableEq, Repr

inductive Double
  | finite (q : ℚ)
  | infinite (negative : Bool)
  | nan
  deriving DecidableEq, Repr

/-! ## split -/

/-- The loop of `split`; `cur` is the text between `prevPos` and the position reached. -/
def splitLoop (delim : Char) : Text → Text → List Text
  | cur, [] => if cur.isEmpty then [] else [cur]
  | cur, c :: rest => if c = delim then cur :: splitLoop delim [] rest else splitLoop delim (cur ++ [c]) rest

def split (str : Text) (delim : Char) : List Text := splitLoop delim [] str

/-! ## Numbers -/

def isSpace (c : Char) : Bool := c = ' ' || '\t'.toNat ≤ c.toNat && c.toNat ≤ '\r'.toNat

def digitValue (c : Char) : Option Nat :=
  if '0'.toNat ≤ c.toNat ∧ c.toNat ≤ '9'.toNat then some (c.toNat - '0'.toNat)
  else if 'a'.toNat ≤ c.toNat ∧ c.toNat ≤ 'f'.toNat then some (c.toNat - 'a'.toNat + 10)
  else if 'A'.toNat ≤ c.toNat ∧ c.toNat ≤ 'F'.toNat then some (c.toNat - 'A'.toNat + 10)
  else none

def takeDigits (base : Nat) : Nat → Nat → Text → Nat × Nat × Text
  | acc, n, [] => (acc, n, [])
  | acc, n, c :: rest =>
    match digitValue c with
    | some d => if d < base then takeDigits base (acc * base + d) (n + 1) rest else (acc, n, c :: rest)
    | none => (acc, n, c :: rest)

def takeSign : Text → Bool × Text
  | '-' :: rest => (true, rest)
  | '+' :: rest => (false, rest)
  | rest => (false, rest)

/-- The exponent after `mark`, in either case; 0 when no digit follows. -/
def takeExponent (mark : Char) : Text → Int
  | c :: rest =>
    if c.toLower = mark then
      let (negative, rest) := takeSign rest
      let (value, n, _) := takeDigits 10 0 0 rest
      if n = 0 then 0 else if negative then -value else value
    else 0
  | [] => 0

/-- Digits with an optional point, then an exponent of `expBase`. -/
def takeNumber (base expBase : Nat) (digitBits : Int) (mark : Char) (s : Text) : Option ℚ :=
  let (whole, n, rest) := takeDigits base 0 0 s
  let (mantissa, k, rest) :=
    match rest with
    | '.' :: frac => let (m, k, r) := takeDigits base whole n frac; (m, k - n, r)
    | _ => (whole, 0, rest)
  if n + k = 0 then none
  else some (mantissa * (expBase : ℚ) ^ (takeExponent mark rest - digitBits * k))

def strtod (s : Text) : Option Double :=
  let (negative, s) := takeSign (s.dropWhile isSpace)
  let sign (q : ℚ) : Double := .finite (if negative then -q else q)
  let lower := s.map Char.toLower
  if "inf".toList.isPrefixOf lower then some (.infinite negative)
  else if "nan".toList.isPrefixOf lower then some .nan
  else
    let hex := if "0x".toList.isPrefixOf lower then takeNumber 16 2 4 'p' (s.drop 2) else none
    match hex with
    | some q => some (sign q)
    | none => (takeNumber 10 10 1 'e' s).map sign

def roundHalfEven (q : ℚ) : Int :=
  let f := ⌊q⌋
  if q - f < 1 / 2 then f else if 1 / 2 < q - f then f + 1 else if f % 2 = 0 then f else f + 1

/-- The weight of the last of the 53 bits of a `double` of this size. -/
def ulp (q : ℚ) : ℚ := 2 ^ max (Int.log 2 |q| - 52) (-1074)

def nearestDouble (q : ℚ) : ℚ := roundHalfEven (q / ulp q) * ulp q

/-- `ERANGE`: the number rounds to infinity, or lies below the smallest normal
number (before it is rounded, as on ARM) and is none of the `double`s there. -/
def doubleOutOfRange (q : ℚ) : Prop :=
  (2 : ℚ) ^ (1024 : Int) - 2 ^ (970 : Int) ≤ |q| ∨ |q| < 2 ^ (-1022 : Int) ∧ nearestDouble q ≠ q

instance (q : ℚ) : Decidable (doubleOutOfRange q) := inferInstanceAs (Decidable (_ ∨ _))

/-- Throws as `stod` does, and gives the number that was read. -/
def stodExact (s : Text) : Except StdException Double :=
  match strtod s with
  | none => .error .invalidArgument
  | some (.finite q) => if doubleOutOfRange q then .error .outOfRange else .ok (.finite q)
  | some d => .ok d

def Double.nearest : Double → Double
  | .finite q => .finite (nearestDouble q)
  | d => d

def stod (s : Text) : Except StdException Double := (stodExact s).map Double.nearest

theorem stod_ok_iff (s : Text) : (∃ d, stod s = .ok d) ↔ ∃ d, stodExact s = .ok d := by
  unfold stod
  cases stodExact s with
  | error e => exact iff_of_false nofun nofun
  | ok d => exact iff_of_true ⟨d.nearest, rfl⟩ ⟨d, rfl⟩

def stoi (s : Text) : Except StdException Int :=
  let (negative, s) := takeSign (s.dropWhile isSpace)
  let (value, n, _) := takeDigits 10 0 0 s
  if n = 0 then .error .invalidArgument
  else
    let v : Int := if negative then -value else value
    if v < -2 ^ 31 ∨ 2 ^ 31 ≤ v then .error .outOfRange else .ok v

/-- A `long` of 64 bits; for a number outside it the behaviour is undefined. -/
def atol (s : Text) : Int :=
  let (negative, s) := takeSign (s.dropWhile isSpace)
  let (value, _, _) := takeDigits 10 0 0 s
  if negative then -value else value

def natToString (n : Nat) : Text := Nat.toDigits 10 n

theorem isDigit_iff (c : Char) : c.isDigit = true ↔ 48 ≤ c.toNat ∧ c.toNat ≤ 57 := by
  simp only [Char.isDigit, Bool.and_eq_true, decide_eq_true_eq, ge_iff_le, UInt32.le_iff_toNat_le]
  rfl

theorem digitValue_of_isDigit {c : Char} (h : c.isDigit = true) :
    digitValue c = some (c.toNat - '0'.toNat) ∧ c.toNat - '0'.toNat < 10 := by
  rw [isDigit_iff] at h
  have h0 : '0'.toNat = 48 := rfl
  exact ⟨if_pos h, by omega⟩

theorem isSpace_of_isDigit {c : Char} (h : c.isDigit = true) : isSpace c = false := by
  have hsp : c ≠ ' ' := by
    rintro rfl
    cases h
  rw [isDigit_iff] at h
  have hr : '\r'.toNat = 13 := rfl
  simp only [isSpace, hsp, decide_false, Bool.false_or, Bool.and_eq_false_iff, decide_eq_false_iff_not]
  omega

theorem toLower_of_toNat_lt {c : Char} (h : c.toNat < 65) : c.toLower = c := by
  have hA : 'A'.val.toNat = 65 := rfl
  refine dif_neg fun hupper => ?_
  have hle : 'A'.val.toNat ≤ c.toNat := UInt32.le_iff_toNat_le.mp hupper.1
  omega

theorem toLower_of_isDigit {c : Char} (h : c.isDigit = true) : c.toLower = c := by
  rw [isDigit_iff] at h
  exact toLower_of_toNat_lt (by omega)

theorem takeDigits_append (cs : Text) (h : ∀ c ∈ cs, c.isDigit = true) (acc n : Nat) (rest : Text) :
    takeDigits 10 acc n (cs ++ rest) = takeDigits 10 (Nat.ofDigitChars 10 cs acc) (n + cs.length) rest := by
  induction cs generalizing acc n with
  | nil => rfl
  | cons c cs ih =>
    obtain ⟨hd, hlt⟩ := digitValue_of_isDigit (h c List.mem_cons_self)
    rw [List.cons_append, takeDigits, hd]
    simp only [if_pos hlt]
    rw [ih (fun c' hc' => h c' (List.mem_cons_of_mem _ hc')), Nat.ofDigitChars_cons, List.length_cons, Nat.mul_comm acc,
      Nat.add_right_comm, Nat.add_assoc n]

theorem takeDigits_of_isDigit (cs : Text) (h : ∀ c ∈ cs, c.isDigit = true) (acc n : Nat) :
    takeDigits 10 acc n cs = (Nat.ofDigitChars 10 cs acc, n + cs.length, []) := by
  have happ := takeDigits_append cs h acc n []
  rwa [List.append_nil] at happ

theorem isDigit_of_mem_natToString {n : Nat} {c : Char} (h : c ∈ natToString n) : c.isDigit = true :=
  Nat.isDigit_of_mem_toDigits (by decide) (by decide) h

theorem natToString_ne_nil (n : Nat) : natToString n ≠ [] :=
  List.ne_nil_of_length_pos Nat.length_toDigits_pos

theorem front_of_isDigit {s : Text} {c : Char} (hs : s.head? = some c) (hc : c.isDigit = true) :
    s.dropWhile isSpace = s ∧ takeSign s = (false, s) := by
  cases s with
  | nil => cases hs
  | cons c' cs =>
    obtain rfl : c' = c := Option.some.inj hs
    refine ⟨List.dropWhile_cons_of_neg (by rw [isSpace_of_isDigit hc]; exact Bool.false_ne_true), ?_⟩
    unfold takeSign
    split
    · rename_i heq
      obtain ⟨rfl, -⟩ := List.cons.inj heq
      cases hc
    · rename_i heq
      obtain ⟨rfl, -⟩ := List.cons.inj heq
      cases hc
    · rfl

theorem head_natToString_append (n : Nat) (rest : Text) :
    ∃ c, (natToString n ++ rest).head? = some c ∧ c.isDigit = true := by
  have hdigit : ∀ c ∈ natToString n, c.isDigit = true := fun c hc => isDigit_of_mem_natToString hc
  cases hn : natToString n with
  | nil => exact absurd hn (natToString_ne_nil n)
  | cons c cs => exact ⟨c, rfl, hdigit c (by rw [hn]; exact List.mem_cons_self)⟩

theorem front_natToString (n : Nat) :
    (natToString n).dropWhile isSpace = natToString n ∧ takeSign (natToString n) = (false, natToString n) := by
  obtain ⟨c, hs, hc⟩ := head_natToString_append n []
  rw [List.append_nil] at hs
  exact front_of_isDigit hs hc

theorem takeDigits_natToString (n : Nat) :
    takeDigits 10 0 0 (natToString n) = (n, (natToString n).length, []) := by
  have hn : Nat.ofDigitChars 10 (natToString n) 0 = n := Nat.ofDigitChars_ten_toDigits
  rw [takeDigits_of_isDigit _ fun c hc => isDigit_of_mem_natToString hc, hn, Nat.zero_add]

theorem atol_natToString (n : Nat) : atol (natToString n) = n := by
  rw [atol, (front_natToString n).1, (front_natToString n).2]
  simp only [takeDigits_natToString]
  rfl

theorem stoi_natToString {n : Nat} (h : n < 2 ^ 31) : stoi (natToString n) = .ok n := by
  have hlen : (natToString n).length ≠ 0 := fun e => natToString_ne_nil n (List.length_eq_zero_iff.mp e)
  have hrange : ¬((n : Int) < -2 ^ 31 ∨ 2 ^ 31 ≤ (n : Int)) := by omega
  rw [stoi, (front_natToString n).1, (front_natToString n).2]
  simp only [takeDigits_natToString, if_neg hlen, Bool.false_eq_true, if_false, if_neg hrange]

/-- `std::to_string` of a `double`: six decimals. -/
def doubleToString (q : ℚ) : Text :=
  let n := (roundHalfEven (|q| * 10 ^ 6)).toNat
  let frac := natToString (n % 10 ^ 6)
  (if q < 0 then ['-'] else []) ++ natToString (n / 10 ^ 6) ++ '.' :: List.replicate (6 - frac.length) '0' ++ frac

end TTS
