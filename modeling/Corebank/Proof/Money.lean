import Corebank.Money
import Mathlib.Tactic.FieldSimp
import Mathlib.Tactic.Positivity

/-! # Amounts survive being printed and read -/

namespace Corebank
open Library

/-! ## Rounding to the cent -/

theorem roundHalfEven_nearest {n d : Int} (pos : 0 < d) :
    Nearest ((n : ℚ) / d) (roundHalfEven n d) := by
  have size : (0 : ℚ) < d := by exact_mod_cast pos
  have parts : (n : ℚ) = d * (n / d : Int) + (n % d : Int) := by
    exact_mod_cast (Int.mul_ediv_add_emod n d).symm
  have low : (0 : ℚ) ≤ (n % d : Int) := by exact_mod_cast Int.emod_nonneg n (ne_of_gt pos)
  have below : (n : ℚ) / d - (n / d : Int) = (n % d : Int) / d := by
    field_simp
    linarith
  have above : (n : ℚ) / d - ((n / d + 1 : Int) : ℚ) = (n % d : Int) / d - 1 := by
    rw [Int.cast_add, Int.cast_one, ← sub_sub, below]
  have fraction : (0 : ℚ) ≤ (n % d : Int) / d := div_nonneg low size.le
  unfold roundHalfEven
  split
  · rename_i less
    have less : (n % d : Int) / d < (1 / 2 : ℚ) := by
      rw [div_lt_iff₀ size]
      have : 2 * ((n % d : Int) : ℚ) < d := by exact_mod_cast less
      linarith
    rw [Nearest, below, abs_of_nonneg fraction]
    exact ⟨less.le, fun tie => absurd tie less.ne⟩
  · split
    · rename_i more
      have more : (1 / 2 : ℚ) < (n % d : Int) / d := by
        rw [lt_div_iff₀ size]
        have : (d : ℚ) < 2 * ((n % d : Int) : ℚ) := by exact_mod_cast more
        linarith
      have whole : ((n % d : Int) : ℚ) / d < 1 := by
        rw [div_lt_one size]
        exact_mod_cast Int.emod_lt_of_pos n pos
      have size : |(n : ℚ) / d - ((n / d + 1 : Int) : ℚ)| < 1 / 2 := by
        rw [above, abs_lt]
        constructor <;> linarith
      exact ⟨size.le, fun tie => absurd tie size.ne⟩
    · have tie : ((n % d : Int) : ℚ) / d = 1 / 2 := by
        rw [div_eq_iff size.ne']
        have : 2 * ((n % d : Int) : ℚ) = d := by
          exact_mod_cast (by omega : 2 * (n % d) = d)
        linarith
      split
      · rename_i even
        rw [Nearest, below, tie, abs_of_pos (by norm_num)]
        exact ⟨le_rfl, fun _ => Int.even_iff.mpr even⟩
      · rename_i odd
        rw [Nearest, above, tie, abs_of_neg (by norm_num)]
        refine ⟨by norm_num, fun _ => Int.even_add_one.mpr ?_⟩
        rwa [Int.even_iff]

def Decimal.toRat (x : Decimal) : ℚ := x.coefficient * 10 ^ x.exponent

theorem toCents_nearest (x : Decimal) : Nearest (100 * x.toRat) x.toCents := by
  have scaled : 100 * x.toRat = x.coefficient * 10 ^ (x.exponent + 2) := by
    rw [Decimal.toRat, zpow_add₀ (by norm_num)]
    ring
  rw [scaled, Decimal.toCents]
  split
  · rename_i whole
    have exact : (x.coefficient : ℚ) * 10 ^ (x.exponent + 2) =
        ((x.coefficient * 10 ^ (x.exponent + 2).toNat : Int) : ℚ) := by
      push_cast
      rw [← zpow_natCast, Int.toNat_of_nonneg whole]
    rw [exact]
    exact Nearest.of_int _
  · rename_i part
    have divided : (x.coefficient : ℚ) * 10 ^ (x.exponent + 2) =
        (x.coefficient : ℚ) / ((10 ^ (-(x.exponent + 2)).toNat : Int) : ℚ) := by
      push_cast
      rw [div_eq_mul_inv, ← zpow_natCast, ← zpow_neg, Int.toNat_of_nonneg (by omega), neg_neg]
    rw [divided]
    exact roundHalfEven_nearest (by positivity)

theorem quantize_iff {x : Decimal} {c : Int} :
    quantize x = .ok c ↔ Nearest (100 * x.toRat) c ∧ c.natAbs < 10 ^ 28 := by
  constructor
  · intro rounded
    unfold quantize at rounded
    split at rounded
    · cases rounded
      exact ⟨toCents_nearest x, ‹_›⟩
    · cases rounded
  · rintro ⟨near, small⟩
    obtain rfl := near.unique (toCents_nearest x)
    rw [quantize, if_pos small]

/-! ## Texts of amounts -/

theorem decimal_toRat (x : Numeral) : x.decimal.toRat = x.value := by
  obtain ⟨negative, coefficient, exponent⟩ := x
  cases negative <;> simp [Numeral.decimal, Decimal.toRat, Numeral.value]

@[simp] theorem Amount.natAbs_value (a : Amount) : a.value.natAbs = a.cents := by
  obtain ⟨negative, cents⟩ := a
  cases negative <;> simp [Amount.value]

theorem value_sign (x : Numeral) : if x.negative then x.value ≤ 0 else 0 ≤ x.value := by
  have size : (0 : ℚ) ≤ x.coefficient * 10 ^ x.exponent :=
    mul_nonneg (Nat.cast_nonneg _) (zpow_nonneg (by norm_num) _)
  have value : x.value = (if x.negative then -1 else 1) * (x.coefficient * 10 ^ x.exponent) :=
    mul_assoc _ _ _
  split
  · rename_i negative
    rw [value, if_pos negative]
    linarith
  · rename_i positive
    rw [value, if_neg positive, one_mul]
    exact size

theorem value_of_nearest {x : Numeral} {c : Int} (near : Nearest (100 * x.value) c) :
    (⟨x.negative, c.natAbs⟩ : Amount).value = c := by
  have zero : Nearest 0 0 := by exact_mod_cast Nearest.of_int 0
  have sign := value_sign x
  unfold Amount.value
  split at sign
  · rename_i negative
    have low : c ≤ 0 := near.mono zero (by linarith)
    rw [if_pos negative]
    simp only
    omega
  · rename_i positive
    have high : 0 ≤ c := zero.mono near (by linarith)
    rw [if_neg positive]
    simp only
    omega

theorem quantized_iff {x : Numeral} {a : Amount} : Amount.quantized x = some a ↔
    a.negative = x.negative ∧ Nearest (100 * x.value) a.value ∧ a.cents < 10 ^ 28 := by
  constructor
  · intro loaded
    obtain ⟨cents, rounded, rfl⟩ := Option.map_eq_some_iff.mp loaded
    have rounded : quantize x.decimal = .ok cents := by
      cases h : quantize x.decimal with
      | error e =>
          rw [h] at rounded
          cases rounded
      | ok c =>
          rw [h] at rounded
          cases rounded
          rfl
    obtain ⟨near, small⟩ := quantize_iff.mp rounded
    rw [decimal_toRat] at near
    refine ⟨rfl, ?_, small⟩
    rwa [value_of_nearest near]
  · rintro ⟨sign, near, small⟩
    have rounded : quantize x.decimal = .ok a.value :=
      quantize_iff.mpr ⟨by rwa [decimal_toRat], by rwa [Amount.natAbs_value]⟩
    rw [Amount.quantized, rounded]
    simp only [Except.toOption, Option.map_some, Amount.natAbs_value, ← sign]

section
variable [UnicodeData]

theorem decimalOf_iff {s : List Char} {x : Numeral} : decimalOf s = some x ↔
    ∃ l : Numeral.Literal, l.text = numericText s ∧ l.numeral = x ∧ x.representable = true := by
  rw [decimalOf, Option.filter_eq_some_iff, Numeral.parse_iff]
  constructor
  · rintro ⟨⟨l, text, number⟩, representable⟩
    exact ⟨l, text, number, representable⟩
  · rintro ⟨l, text, number, representable⟩
    exact ⟨⟨l, text, number⟩, representable⟩

namespace Money

variable [MoneyField]

/-- A text is an amount when it is a numeral, and the amount is the nearest one of two places. -/
theorem load_iff (documented : MoneyField.Documented) {s : List Char} {a : Amount} :
    load s = some a ↔
    ∃ l : Numeral.Literal, l.text = numericText s ∧ l.numeral.representable = true ∧
      a.negative = l.numeral.negative ∧ Nearest (100 * l.numeral.value) a.value ∧
        a.cents < 10 ^ 28 := by
  rw [load, documented.deserialize, Option.bind_eq_some_iff]
  constructor
  · rintro ⟨x, parsed, rounded⟩
    obtain ⟨l, text, rfl, representable⟩ := decimalOf_iff.mp parsed
    exact ⟨l, text, representable, quantized_iff.mp rounded⟩
  · rintro ⟨l, text, representable, rounded⟩
    exact ⟨l.numeral, decimalOf_iff.mpr ⟨l, text, rfl, representable⟩, quantized_iff.mpr rounded⟩

omit [UnicodeData] [MoneyField] in
theorem format_plain (a : Amount) : ∀ c ∈ a.format, c.isDigit ∨ c = '-' ∨ c = '.' := by
  intro c mem
  rw [Amount.format, Numeral.fixed, List.mem_append, List.mem_append, List.mem_cons] at mem
  rcases mem with sign | whole | rfl | part
  · cases negative : a.negative <;> simp_all
  · exact Or.inl (Numeral.isDigit_toDigits _ c whole)
  · simp
  · exact Or.inl (Numeral.isDigit_padded _ _ c part)

omit [UnicodeData] [MoneyField] in
theorem plain_ascii {c : Char} (plain : c.isDigit ∨ c = '-' ∨ c = '.') :
    c.toNat < 128 ∧ isSpace c = false ∧ c ≠ '_' := by
  rcases plain with digit | rfl | rfl
  · have code : 48 ≤ c.toNat ∧ c.toNat ≤ 57 := by
      simpa [Char.isDigit, UInt32.le_iff_toNat_le] using digit
    refine ⟨by omega, ?_, ?_⟩
    · simp [isSpace]
      omega
    · rintro rfl
      exact absurd digit (by decide)
  · decide
  · decide

omit [MoneyField] in
theorem numericText_plain {s : List Char} (plain : ∀ c ∈ s, c.isDigit ∨ c = '-' ∨ c = '.') :
    numericText s = s := by
  have ascii (c : Char) (mem : c ∈ s) := plain_ascii (plain c mem)
  have stripped : strip s = s := by
    obtain ⟨left, right, split, blanks, blanks'⟩ := Text.strip_split isSpace s
    have solid (part : List Char) (inside : part ⊆ s) (blank : ∀ c ∈ part, isSpace c) : part = [] := by
      refine List.eq_nil_iff_forall_not_mem.mpr fun c mem => ?_
      exact absurd (blank c mem) (by simp [(ascii c (inside mem)).2.1])
    have front : left ⊆ s := by
      rw [split, List.append_assoc]
      exact List.subset_append_left _ _
    have back : right ⊆ s := by
      rw [split]
      exact List.subset_append_right _ _
    rw [solid left front blanks, solid right back blanks', List.nil_append, List.append_nil] at split
    exact split.symm
  have kept : s.filter (· ≠ '_') = s :=
    List.filter_eq_self.mpr fun c mem => by simp [(ascii c mem).2.2]
  rw [numericText, stripped, kept]
  conv_rhs => rw [← List.map_id s]
  exact List.map_congr_left fun c mem => if_pos (ascii c mem).1

omit [UnicodeData] [MoneyField] in
theorem representable_cents {a : Amount} (fits : a.cents < 10 ^ 28) :
    (⟨a.negative, a.cents, -2⟩ : Numeral).representable = true := by
  have digits : (Nat.toDigits 10 a.cents).length ≤ 28 :=
    (Nat.length_toDigits_le_iff (by decide) (by decide)).mpr fits
  simp only [Numeral.representable, Bool.and_eq_true, decide_eq_true_eq]
  split <;> omega

omit [UnicodeData] [MoneyField] in
theorem cents_value (a : Amount) :
    100 * (⟨a.negative, a.cents, -2⟩ : Numeral).value = (a.value : ℚ) := by
  obtain ⟨negative, cents⟩ := a
  cases negative <;> simp only [Numeral.value, Amount.value] <;> norm_num <;> ring

/-- A printed amount is read as the amount. -/
theorem load_dump (documented : MoneyField.Documented) {a : Amount} (fits : a.cents < 10 ^ 28) :
    load (dump a) = some a := by
  have text := Numeral.fixedLiteral_text 2 a.negative a.cents
  have number : (Numeral.fixedLiteral 2 a.negative a.cents).numeral = ⟨a.negative, a.cents, -2⟩ :=
    Numeral.fixedLiteral_numeral (by decide) a.negative a.cents
  rw [dump, documented.serialize, load_iff documented]
  refine ⟨_, text.trans (numericText_plain (format_plain a)).symm, ?_, ?_, ?_, fits⟩
  · rw [number]
    exact representable_cents fits
  · rw [number]
  · rw [number, cents_value]
    exact Nearest.of_int a.value

end Money

/-! ## The amount of a transfer -/

variable [MoneyField]

theorem load_none (documented : MoneyField.Documented)
    {s : List Char} {l : Numeral.Literal} (text : l.text = numericText s) {c : Int}
    (near : Nearest (100 * l.numeral.value) c) (big : ¬ c.natAbs < 10 ^ 28) :
    Money.load s = none := by
  refine Option.eq_none_iff_forall_ne_some.mpr fun a loaded => ?_
  obtain ⟨l', text', -, -, near', small⟩ := (Money.load_iff documented).mp loaded
  have number : some l'.numeral = some l.numeral :=
    (Numeral.parse_iff.mpr ⟨l', text', rfl⟩).symm.trans (Numeral.parse_iff.mpr ⟨l, text, rfl⟩)
  rw [Option.some.inj number] at near'
  rw [near.unique near', Amount.natAbs_value] at big
  exact big small

variable [Collation] [Werkzeug] [Marshmallow]

/-- A transfer is asked for the amount of cents its text is nearest to; a text that is no numeral,
or nearest to nothing above zero, is refused by the schema. -/
theorem transfer_amount (documented : MoneyField.Documented)
    (env : Env) (actor : Actor) (senderId receiverId : String) (s : List Char) :
    (∀ l : Numeral.Literal, l.text = numericText s → l.numeral.representable = true →
      ∀ c, Nearest (100 * l.numeral.value) c →
        (ApiCall.transfer (TransferData.load senderId receiverId s)).serve env actor =
          if 0 < c ∧ c < 10 ^ 28 then
            (Operation.transfer actor senderId receiverId (.ofCents c)).serve env
          else .raise (.http 422)) ∧
    ((∀ l : Numeral.Literal, l.text = numericText s → l.numeral.representable = false) →
      (ApiCall.transfer (TransferData.load senderId receiverId s)).serve env actor =
        .raise (.http 422)) := by
  constructor
  · intro l text representable c near
    by_cases small : c.natAbs < 10 ^ 28
    · have value : (⟨l.numeral.negative, c.natAbs⟩ : Amount).value = c := value_of_nearest near
      have loaded : Money.load s = some ⟨l.numeral.negative, c.natAbs⟩ :=
        (Money.load_iff documented).mpr ⟨l, text, representable, rfl, by rwa [value], small⟩
      rw [TransferData.load, loaded, Option.map_some, value, ApiCall.serve, arguments]
      simp only [TransferData.admitted, decide_eq_true_eq]
      by_cases positive : 0 < c
      · rw [if_pos positive, if_pos ⟨positive, by omega⟩]
      · rw [if_neg positive, if_neg fun both => positive both.1]
    · rw [TransferData.load, load_none documented text near small, if_neg fun both => small (by omega)]
      rfl
  · intro unreadable
    have refused : Money.load s = none := by
      refine Option.eq_none_iff_forall_ne_some.mpr fun a loaded => ?_
      obtain ⟨l, text, representable, -⟩ := (Money.load_iff documented).mp loaded
      rw [unreadable l text] at representable
      cases representable
    rw [TransferData.load, refused]
    rfl

end

/-! ## Texts -/

attribute [local instance] foldCase clearText plainEmail asciiOnly

@[reducible] def plainField : MoneyField where
  deserialize s := (decimalOf s).bind Amount.quantized
  serialize a := a.format

attribute [local instance] plainField

theorem plainField_documented : MoneyField.Documented where
  deserialize _ := rfl
  serialize _ := rfl

theorem fixed_numeral (places coefficient : Nat) (positive : 0 < places) :
    (Numeral.fixedLiteral places false coefficient).numeral = ⟨false, coefficient, -places⟩ :=
  Numeral.fixedLiteral_numeral positive false coefficient

/-- `10.005` is as near to 10.01 as to 10.00. -/
theorem load_iff_tie : Money.load ['1', '_', '0', '.', '0', '0', '5', ' '] = some ⟨false, 1000⟩ := by
  rw [Money.load_iff plainField_documented]
  refine ⟨Numeral.fixedLiteral 3 false 10005, by decide, ?_, ?_, ?_, by decide⟩
  · rw [fixed_numeral 3 10005 (by decide)]
    decide
  · rw [fixed_numeral 3 10005 (by decide)]
  · rw [fixed_numeral 3 10005 (by decide)]
    have even : Even (1000 : Int) := ⟨500, rfl⟩
    norm_num [Nearest, Numeral.value, Amount.value, even]

theorem load_dump_negative : Money.load (Money.dump ⟨true, 150⟩) = some ⟨true, 150⟩ :=
  Money.load_dump plainField_documented (by decide)

/-- Half a cent, `0.005`, is nearest to nothing, and `0.015` to two. -/
theorem transfer_amount_halfCent :
    (ApiCall.transfer (TransferData.load "a-1" "b-1" (Numeral.fixed 3 false 5))).serve
      (noon "t-1") ann = .raise (.http 422) ∧
    (ApiCall.transfer (TransferData.load "a-1" "b-1" (Numeral.fixed 3 false 15))).serve
      (noon "t-1") ann = (Operation.transfer ann "a-1" "b-1" (.ofCents 2)).serve (noon "t-1") := by
  have served (coefficient : Nat) := transfer_amount plainField_documented (noon "t-1") ann "a-1" "b-1"
    (Numeral.fixed 3 false coefficient)
  have nothing : Nearest (100 * (Numeral.fixedLiteral 3 false 5).numeral.value) 0 := by
    rw [fixed_numeral 3 5 (by decide)]
    norm_num [Nearest, Numeral.value]
  have two : Nearest (100 * (Numeral.fixedLiteral 3 false 15).numeral.value) 2 := by
    rw [fixed_numeral 3 15 (by decide)]
    norm_num [Nearest, Numeral.value]
  have refused := (served 5).1 (Numeral.fixedLiteral 3 false 5) (by decide)
    (by rw [fixed_numeral 3 5 (by decide)]; decide) 0 nothing
  have handed := (served 15).1 (Numeral.fixedLiteral 3 false 15) (by decide)
    (by rw [fixed_numeral 3 15 (by decide)]; decide) 2 two
  rw [if_neg (by decide)] at refused
  rw [if_pos (by decide)] at handed
  exact ⟨refused, handed⟩

end Corebank
