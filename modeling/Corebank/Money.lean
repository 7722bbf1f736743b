import Corebank.Api
import Corebank.Library.Numeral
import Corebank.Text

/-!
# Amounts as texts

`money` of `app/api/_fields.py` is marshmallow's `fields.Decimal(places=2, as_string=True)`. Of a text
the field makes `Decimal(text)`.
-/

namespace Corebank
open Library

class UnicodeData where
  /-- The digit a character outside ASCII stands for. -/
  decimal : Char → Option (Fin 10)

@[reducible] def asciiOnly : UnicodeData where
  decimal _ := none

/-- An amount of two places; a zero may have a minus sign. -/
structure Amount where
  negative : Bool
  cents : Nat
  deriving DecidableEq, Repr

namespace Amount

def value (a : Amount) : Int := if a.negative then -a.cents else a.cents

def ofCents (c : Int) : Amount := ⟨c < 0, c.natAbs⟩

end Amount

/-! ## `Decimal(str)` -/

section
variable [UnicodeData]

def asciiDigit (c : Char) : Char :=
  if c.toNat < 128 then c
  else if isSpace c then ' '
  else
    match UnicodeData.decimal c with
    | some d => Nat.digitChar d
    -- the whole text is no number, as one with a `?` is not
    | none => '?'

def numericText (s : List Char) : List Char :=
  ((strip s).filter (· ≠ '_')).map asciiDigit

end

/-- Within the exponents a `Decimal` can have. -/
def Library.Numeral.representable (x : Numeral) : Bool :=
  let adjusted :=
    if x.coefficient = 0 then x.exponent
    else x.exponent + (Nat.toDigits 10 x.coefficient).length - 1
  adjusted ≤ 999999999999999999 && -1999999999999999997 ≤ x.exponent

def Library.Numeral.decimal (x : Numeral) : Decimal :=
  ⟨if x.negative then -x.coefficient else x.coefficient, x.exponent⟩

section
variable [UnicodeData]

/-- `Decimal(text)`. The numbers of `decimal` that are no numerals, nan and infinity, are not among
them. -/
def decimalOf (s : List Char) : Option Numeral :=
  (Numeral.parse (numericText s)).filter Numeral.representable

end

namespace Amount

def quantized (x : Numeral) : Option Amount :=
  (quantize x.decimal).toOption.map fun cents => ⟨x.negative, cents.natAbs⟩

/-- `format(value, "f")`. -/
def format (a : Amount) : List Char := Numeral.fixed 2 a.negative a.cents

end Amount

/-! ## The field -/

/-- `fields.Decimal(places=2, as_string=True)`. -/
class MoneyField where
  deserialize : List Char → Option Amount
  serialize : Amount → List Char

/-- A text is loaded as the decimal it stands for, quantized to the places. Nan and infinity are
refused, as is a text that stands for nothing. -/
structure MoneyField.Documented [UnicodeData] [MoneyField] : Prop where
  deserialize : ∀ s, MoneyField.deserialize s = (decimalOf s).bind Amount.quantized
  serialize : ∀ a, MoneyField.serialize a = a.format

namespace Money

variable [MoneyField]

def load (s : List Char) : Option Amount := MoneyField.deserialize s

def dump (a : Amount) : List Char := MoneyField.serialize a

end Money

/-- `TransferSchema`, without the check of its range. -/
def TransferData.load [MoneyField] (senderAccountId receiverAccountId : String) (amount : List Char) :
    Option TransferData :=
  (Money.load amount).map fun a => ⟨senderAccountId, receiverAccountId, a.value⟩

end Corebank
