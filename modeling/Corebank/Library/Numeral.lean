import Mathlib.Algebra.Order.Field.Rat
import Mathlib.Algebra.Order.Ring.Abs
import Mathlib.Algebra.Ring.Int.Parity
import Mathlib.Data.List.TakeWhile
import Mathlib.Tactic.Linarith
import Mathlib.Tactic.Ring

/-!
# Decimal numerals

Texts with a point and an exponent as numbers, numbers as texts with a fixed number of places, and
rounding to the nearest integer.
-/

namespace Corebank.Library

structure Numeral where
  negative : Bool
  coefficient : Nat
  exponent : Int
  deriving DecidableEq, Repr

namespace Numeral

def value (x : Numeral) : ℚ :=
  (if x.negative then -1 else 1) * x.coefficient * 10 ^ x.exponent

/-! ## Reading -/

def sign : List Char → Bool × List Char
  | '-' :: cs => (true, cs)
  | '+' :: cs => (false, cs)
  | cs => (false, cs)

def natural (ds : List Char) : Option Nat :=
  if ds ≠ [] ∧ ds.all Char.isDigit then some (Nat.ofDigitChars 10 ds 0) else none

def integer (cs : List Char) : Option Int :=
  (natural (sign cs).2).map fun n : Nat => if (sign cs).1 then -(n : Int) else n

def scale : List Char → Option Int
  | [] => some 0
  | e :: cs => if e = 'e' ∨ e = 'E' then integer cs else none

/-- The digits after a point, and what follows. -/
def fraction : List Char → List Char × List Char
  | '.' :: cs => (cs.takeWhile Char.isDigit, cs.dropWhile Char.isDigit)
  | cs => ([], cs)

def unsigned (negative : Bool) (cs : List Char) : Option Numeral :=
  let whole := cs.takeWhile Char.isDigit
  let part := fraction (cs.dropWhile Char.isDigit)
  if whole ++ part.1 = [] then none
  else (scale part.2).map fun e =>
    ⟨negative, Nat.ofDigitChars 10 (whole ++ part.1) 0, e - part.1.length⟩

def parse (cs : List Char) : Option Numeral := unsigned (sign cs).1 (sign cs).2

/-! ## The grammar -/

/-- The parts of a numeral as it is written. -/
structure Literal where
  minus : Option Bool
  whole : List Char
  part : Option (List Char)
  power : Option (Char × Option Bool × List Char)
  digits : ∀ c ∈ whole ++ part.getD [], c.isDigit
  some_digit : whole ++ part.getD [] ≠ []
  power_form : ∀ p ∈ power, (p.1 = 'e' ∨ p.1 = 'E') ∧ p.2.2 ≠ [] ∧ ∀ c ∈ p.2.2, c.isDigit

namespace Literal

def signText (minus : Option Bool) : List Char := minus.elim [] fun m => if m then ['-'] else ['+']

def partText (part : Option (List Char)) : List Char := part.elim [] fun ds => '.' :: ds

def powerText (power : Option (Char × Option Bool × List Char)) : List Char :=
  power.elim [] fun p => p.1 :: (signText p.2.1 ++ p.2.2)

def text (l : Literal) : List Char :=
  signText l.minus ++ (l.whole ++ (partText l.part ++ powerText l.power))

def powerOf (power : Option (Char × Option Bool × List Char)) : Int :=
  power.elim 0 fun p =>
    if p.2.1.getD false then -(Nat.ofDigitChars 10 p.2.2 0) else Nat.ofDigitChars 10 p.2.2 0

def numeral (l : Literal) : Numeral :=
  ⟨l.minus.getD false, Nat.ofDigitChars 10 (l.whole ++ l.part.getD []) 0,
    powerOf l.power - (l.part.getD []).length⟩

end Literal

open Literal

theorem sign_signText (minus : Option Bool) {cs : List Char}
    (bare : ∀ c ∈ cs.head?, c ≠ '-' ∧ c ≠ '+') :
    sign (signText minus ++ cs) = (minus.getD false, cs) := by
  cases minus with
  | some m => cases m <;> rfl
  | none =>
      cases cs with
      | nil => rfl
      | cons c cs =>
          obtain ⟨minus, plus⟩ := bare c rfl
          rw [signText, Option.elim_none, List.nil_append, sign]
          · rfl
          · simpa using minus
          · simpa using plus

theorem sign_split (cs : List Char) :
    ∃ minus, cs = signText minus ++ (sign cs).2 ∧ minus.getD false = (sign cs).1 := by
  unfold sign
  split
  · exact ⟨some true, rfl, rfl⟩
  · exact ⟨some false, rfl, rfl⟩
  · exact ⟨none, rfl, rfl⟩

theorem natural_iff {ds : List Char} {n : Nat} : natural ds = some n ↔
    (ds ≠ [] ∧ ∀ c ∈ ds, c.isDigit) ∧ Nat.ofDigitChars 10 ds 0 = n := by
  rw [natural, Option.ite_none_right_eq_some, List.all_eq_true, Option.some.injEq]

theorem digit_bare {cs : List Char} (digits : ∀ c ∈ cs, c.isDigit) :
    ∀ c ∈ cs.head?, c ≠ '-' ∧ c ≠ '+' := by
  intro c head
  have digit := digits c (List.mem_of_mem_head? head)
  constructor <;> rintro rfl <;> exact absurd digit (by decide)

theorem scale_iff {cs : List Char} {e : Int} : scale cs = some e ↔
    ∃ power : Option (Char × Option Bool × List Char),
      (∀ p ∈ power, (p.1 = 'e' ∨ p.1 = 'E') ∧ p.2.2 ≠ [] ∧ ∀ c ∈ p.2.2, c.isDigit) ∧
      powerText power = cs ∧ powerOf power = e := by
  constructor
  · intro h
    cases cs with
    | nil =>
        cases h
        exact ⟨none, by simp, rfl, rfl⟩
    | cons c cs =>
        rw [scale, Option.ite_none_right_eq_some, integer, Option.map_eq_some_iff] at h
        obtain ⟨letter, n, read, rfl⟩ := h
        obtain ⟨digits, rfl⟩ := natural_iff.mp read
        obtain ⟨minus, split, negative⟩ := sign_split cs
        refine ⟨some (c, minus, (sign cs).2), ?_, ?_, ?_⟩
        · intro p mem
          cases mem
          exact ⟨letter, digits⟩
        · exact congrArg (c :: ·) split.symm
        · simp [powerOf, negative]
  · rintro ⟨power, form, rfl, rfl⟩
    cases power with
    | none => rfl
    | some p =>
        obtain ⟨letter, some, digits⟩ := form p rfl
        have read := natural_iff.mpr ⟨⟨some, digits⟩, rfl⟩
        rw [powerText, Option.elim_some, scale, if_pos letter, integer,
          sign_signText _ (digit_bare digits), read]
        rfl

/-! ### Numerals without a sign -/

/-- Does not begin with a digit. -/
def Ends (cs : List Char) : Prop := ∀ c ∈ cs.head?, c.isDigit = false

theorem takeWhile_ends {ds cs : List Char} (digits : ∀ c ∈ ds, c.isDigit) (ends : Ends cs) :
    (ds ++ cs).takeWhile Char.isDigit = ds := by
  rw [List.takeWhile_append_of_pos digits]
  cases cs with
  | nil => simp
  | cons c cs => rw [List.takeWhile_cons_of_neg (by simp [ends c rfl]), List.append_nil]

theorem dropWhile_ends {ds cs : List Char} (digits : ∀ c ∈ ds, c.isDigit) (ends : Ends cs) :
    (ds ++ cs).dropWhile Char.isDigit = cs := by
  rw [List.dropWhile_append_of_pos digits]
  cases cs with
  | nil => rfl
  | cons c cs => rw [List.dropWhile_cons_of_neg (by simp [ends c rfl])]

theorem ends_powerText {power : Option (Char × Option Bool × List Char)}
    (letter : ∀ p ∈ power, p.1 = 'e' ∨ p.1 = 'E') : Ends (powerText power) := by
  cases power with
  | none => simp [Ends, powerText]
  | some p =>
      intro c head
      cases head
      rcases letter p rfl with e | e <;> rw [e] <;> rfl

theorem ends_partText (part : Option (List Char)) {cs : List Char} (ends : Ends cs) :
    Ends (partText part ++ cs) := by
  cases part with
  | none => exact ends
  | some ds =>
      intro c head
      cases head
      rfl

theorem fraction_partText {part : Option (List Char)} {power : Option (Char × Option Bool × List Char)}
    (digits : ∀ c ∈ part.getD [], c.isDigit) (letter : ∀ p ∈ power, p.1 = 'e' ∨ p.1 = 'E') :
    fraction (partText part ++ powerText power) = (part.getD [], powerText power) := by
  cases part with
  | some ds =>
      have ends := ends_powerText letter
      exact Prod.ext (takeWhile_ends digits ends) (dropWhile_ends digits ends)
  | none =>
      cases power with
      | none => rfl
      | some p => rcases letter p rfl with e | e <;> simp [partText, powerText, e, fraction]

theorem fraction_split (cs : List Char) : ∃ part, cs = partText part ++ (fraction cs).2 ∧
    part.getD [] = (fraction cs).1 ∧ ∀ c ∈ part.getD [], c.isDigit := by
  unfold fraction
  split
  · rename_i cs
    refine ⟨some (cs.takeWhile Char.isDigit), ?_, rfl, fun c mem => List.mem_takeWhile_imp mem⟩
    exact congrArg ('.' :: ·) List.takeWhile_append_dropWhile.symm
  · exact ⟨none, rfl, rfl, by simp⟩

theorem Literal.bare (l : Literal) :
    ∀ c ∈ (l.whole ++ (partText l.part ++ powerText l.power)).head?, c ≠ '-' ∧ c ≠ '+' := by
  obtain ⟨minus, whole, part, power, digits, some, -⟩ := l
  intro c head
  cases whole with
  | cons d ds =>
      cases head
      exact digit_bare digits c rfl
  | nil =>
      cases part with
      | none => exact absurd rfl some
      | some ds =>
          cases head
          exact ⟨by decide, by decide⟩

/-- A text is read as a number when it is a literal of the grammar, and as its number. -/
theorem parse_iff {cs : List Char} {x : Numeral} :
    parse cs = some x ↔ ∃ l : Literal, l.text = cs ∧ l.numeral = x := by
  constructor
  · intro h
    obtain ⟨minus, split, negative⟩ := sign_split cs
    obtain ⟨part, after, parts, digits⟩ := fraction_split ((sign cs).2.dropWhile Char.isDigit)
    simp only [parse, unsigned, Option.ite_none_left_eq_some, Option.map_eq_some_iff] at h
    obtain ⟨some, e, scaled, rfl⟩ := h
    obtain ⟨power, form, powers, rfl⟩ := scale_iff.mp scaled
    rw [← parts] at some
    refine ⟨⟨minus, (sign cs).2.takeWhile Char.isDigit, part, power, ?_, some, form⟩, ?_, ?_⟩
    · intro c mem
      rcases List.mem_append.mp mem with mem | mem
      · exact List.mem_takeWhile_imp mem
      · exact digits c mem
    · rw [Literal.text, powers, ← after, List.takeWhile_append_dropWhile, ← split]
    · simp only [Literal.numeral, negative, parts]
  · rintro ⟨l, rfl, rfl⟩
    have letter (p) (mem : p ∈ l.power) := (l.power_form p mem).1
    have whole : ∀ c ∈ l.whole, c.isDigit := fun c mem => l.digits c (List.mem_append_left _ mem)
    have part : ∀ c ∈ l.part.getD [], c.isDigit :=
      fun c mem => l.digits c (List.mem_append_right _ mem)
    have ends := ends_partText l.part (ends_powerText letter)
    rw [parse, Literal.text, sign_signText _ l.bare, unsigned, takeWhile_ends whole ends,
      dropWhile_ends whole ends, fraction_partText part letter, if_neg l.some_digit,
      scale_iff.mpr ⟨l.power, l.power_form, rfl, rfl⟩]
    rfl

/-! ## Printing -/

def padded (places n : Nat) : List Char := (Nat.toDigits 10 n).leftpad places '0'

/-- `n` units of `10 ^ -places`, with all the places. -/
def fixed (places : Nat) (negative : Bool) (n : Nat) : List Char :=
  (if negative then ['-'] else []) ++
    (Nat.toDigits 10 (n / 10 ^ places) ++ '.' :: padded places (n % 10 ^ places))

theorem isDigit_toDigits (n : Nat) : ∀ c ∈ Nat.toDigits 10 n, c.isDigit :=
  fun _ mem => Nat.isDigit_of_mem_toDigits (by decide) (by decide) mem

theorem isDigit_padded (places n : Nat) : ∀ c ∈ padded places n, c.isDigit := by
  intro c mem
  rw [padded, List.leftpad, List.mem_append, List.mem_replicate] at mem
  rcases mem with ⟨-, rfl⟩ | mem
  · rfl
  · exact isDigit_toDigits n c mem

theorem length_padded {places n : Nat} (pos : 0 < places) (fits : n < 10 ^ places) :
    (padded places n).length = places := by
  rw [padded, List.length_leftpad]
  exact max_eq_left ((Nat.length_toDigits_le_iff (by decide) pos).mpr fits)

theorem ofDigitChars_padded (places n : Nat) : Nat.ofDigitChars 10 (padded places n) 0 = n := by
  rw [padded, List.leftpad, Nat.ofDigitChars_append, Nat.ofDigitChars_replicate_zero, mul_zero,
    Nat.ofDigitChars_ten_toDigits]

def fixedLiteral (places : Nat) (negative : Bool) (n : Nat) : Literal where
  minus := if negative then some true else none
  whole := Nat.toDigits 10 (n / 10 ^ places)
  part := some (padded places (n % 10 ^ places))
  power := none
  digits := by
    intro c mem
    rcases List.mem_append.mp mem with mem | mem
    · exact isDigit_toDigits _ c mem
    · exact isDigit_padded _ _ c mem
  some_digit := by simp [Nat.toDigits_ne_nil]
  power_form := by simp

theorem fixedLiteral_text (places : Nat) (negative : Bool) (n : Nat) :
    (fixedLiteral places negative n).text = fixed places negative n := by
  cases negative <;> simp [Literal.text, fixedLiteral, fixed, signText, partText, powerText]

/-- A printed number is read again as it was. -/
theorem fixedLiteral_numeral {places : Nat} (pos : 0 < places) (negative : Bool) (n : Nat) :
    (fixedLiteral places negative n).numeral = ⟨negative, n, -places⟩ := by
  have length := length_padded pos (Nat.mod_lt n (pow_pos (by decide : 0 < 10) places))
  have coefficient : Nat.ofDigitChars 10 (Nat.toDigits 10 (n / 10 ^ places) ++
      padded places (n % 10 ^ places)) 0 = n := by
    rw [Nat.ofDigitChars_append, Nat.ofDigitChars_ten_toDigits, Nat.ofDigitChars_eq_ofDigitChars_zero,
      length, ofDigitChars_padded]
    exact Nat.div_add_mod n (10 ^ places)
  cases negative <;> simp [Literal.numeral, fixedLiteral, coefficient, length, powerOf]

end Numeral

/-! ## Rounding -/

/-- `n` is `q` rounded to an integer, ties to even. -/
def Nearest (q : ℚ) (n : ℤ) : Prop := |q - n| ≤ 1 / 2 ∧ (|q - n| = 1 / 2 → Even n)

namespace Nearest

variable {q q' : ℚ} {n n' : ℤ}

theorem mono (near : Nearest q n) (near' : Nearest q' n') (le : q ≤ q') : n ≤ n' := by
  by_contra gt
  have above : (n' : ℚ) + 1 ≤ n := by exact_mod_cast not_le.mp gt
  have low := (abs_le.mp near.1).1
  have high := (abs_le.mp near'.1).2
  -- Both are ties, between two neighbours that are both even.
  have half : q - n = -(1 / 2) := by linarith
  have half' : q' - n' = 1 / 2 := by linarith
  have next : n = n' + 1 := by
    have : (n : ℚ) = n' + 1 := by linarith
    exact_mod_cast this
  have even := near.2 (by rw [half, abs_neg]; norm_num)
  have even' := near'.2 (by rw [half']; norm_num)
  rw [next, Int.even_add_one] at even
  exact even even'

theorem unique (near : Nearest q n) (near' : Nearest q n') : n = n' :=
  le_antisymm (near.mono near' le_rfl) (near'.mono near le_rfl)

theorem of_int (n : ℤ) : Nearest n n := by
  rw [Nearest, sub_self, abs_zero]
  constructor <;> norm_num

end Nearest

end Corebank.Library
