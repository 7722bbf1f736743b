import Corebank.Exceptions
import Mathlib.Data.String.Basic
import Mathlib.Tactic.Ring
import Mathlib.Tactic.Linarith

namespace Corebank

/-! ## Strings -/

/-- A string without its trailing spaces, as a `CHAR` column gives it back. -/
def rstrip (s : String) : String :=
  String.ofList (s.toList.reverse.dropWhile (· = ' ')).reverse

theorem rstrip_idem (s : String) : rstrip (rstrip s) = rstrip s := by
  have h (l : List Char) : (l.dropWhile (· = ' ')).dropWhile (· = ' ') = l.dropWhile (· = ' ') := by
    induction l with
    | nil => rfl
    | cons c cs ih => by_cases hc : c = ' ' <;> simp [List.dropWhile, hc, ih]
  simp [rstrip, h]

/-- How the database compares strings: two are equal when their weights are. The collation is
a PAD SPACE one, so trailing spaces carry no weight. -/
class Collation where
  key : String → String
  key_rstrip (s : String) : key (rstrip s) = key s

export Collation (key key_rstrip)

/-- `utf8mb4_unicode_ci` on printable ASCII: the case of letters carries no weight. -/
@[reducible] def foldCase : Collation where
  key s := String.ofList ((rstrip s).toList.map Char.toLower)
  key_rstrip s := by rw [rstrip_idem]

/-! ## Money

A `DECIMAL(_, 2)` value is held in hundredths. -/

structure Decimal where
  coefficient : Int
  exponent : Int
  deriving DecidableEq, Repr

/-- `n / d` to the nearest integer, ties to even (`d > 0`). -/
def roundHalfEven (n d : Int) : Int :=
  if 2 * (n % d) < d then n / d
  else if 2 * (n % d) > d then n / d + 1
  else if n / d % 2 = 0 then n / d
  else n / d + 1

def Decimal.toCents (x : Decimal) : Int :=
  if 0 ≤ x.exponent + 2 then x.coefficient * 10 ^ (x.exponent + 2).toNat
  else roundHalfEven x.coefficient (10 ^ (-(x.exponent + 2)).toNat)

/-- `Decimal(x).quantize(Decimal("0.01"))` in the default context of 28 digits. -/
def quantize (x : Decimal) : Except Exn Int :=
  if x.toCents.natAbs < 10 ^ 28 then .ok x.toCents else .error .invalidOperation

def Decimal.ofCents (c : Int) : Decimal := ⟨c, -2⟩

/-! ## Dates -/

abbrev Date := Int

/-- A `datetime`: its wall-clock fields as microseconds since year 1, and its UTC offset in
minutes when it is aware. -/
structure DateTime where
  micros : Int
  offset : Option Int
  deriving DecidableEq, Repr

/-- 9999-12-31 23:59:59, the last value of a `DATETIME` column, in seconds. -/
def lastSecond : Int := 315537897599

end Corebank
