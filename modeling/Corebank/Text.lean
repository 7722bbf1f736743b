import Corebank.Library.Text

/-! # The methods of `str`

A text is the list of its characters. -/

namespace Corebank
open Library

def isSpace (c : Char) : Bool :=
  (0x09 ≤ c.toNat && c.toNat ≤ 0x0d) || (0x1c ≤ c.toNat && c.toNat ≤ 0x20) ||
    (0x2000 ≤ c.toNat && c.toNat ≤ 0x200a) ||
    c.toNat ∈ [0x85, 0xa0, 0x1680, 0x2028, 0x2029, 0x202f, 0x205f, 0x3000]

/-- The line boundaries `splitlines` knows. -/
def isLineBreak (c : Char) : Bool :=
  c.toNat ∈ [0x0a, 0x0b, 0x0c, 0x0d, 0x1c, 0x1d, 0x1e, 0x85, 0x2028, 0x2029]

def strip (s : List Char) : List Char := Text.strip isSpace s

/-- Every line boundary becomes a newline, and `\r\n` one. -/
def unifyBreaks : List Char → List Char
  | [] => []
  | c :: cs =>
      if c = '\r' ∧ cs.head? = some '\n' then unifyBreaks cs
      else (if isLineBreak c then '\n' else c) :: unifyBreaks cs

def splitlines (s : List Char) : List (List Char) := Text.lines '\n' (unifyBreaks s)

/-! ## Lines -/

theorem unifyBreaks_append_cons (xs ys : List Char) :
    unifyBreaks (xs ++ '\n' :: ys) = unifyBreaks (xs ++ ['\n']) ++ unifyBreaks ys := by
  induction xs with
  | nil => simp [unifyBreaks]
  | cons c cs ih =>
      have next : (cs ++ '\n' :: ys).head? = (cs ++ ['\n']).head? := by
        cases cs <;> rfl
      simp only [List.cons_append, unifyBreaks, next, ih]
      split <;> rfl

theorem unifyBreaks_ends (xs : List Char) : ∃ us, unifyBreaks (xs ++ ['\n']) = us ++ ['\n'] := by
  induction xs with
  | nil => exact ⟨[], by simp [unifyBreaks, isLineBreak]⟩
  | cons c cs ih =>
      obtain ⟨us, h⟩ := ih
      simp only [List.cons_append, unifyBreaks, h]
      split
      · exact ⟨us, rfl⟩
      · exact ⟨_ :: us, rfl⟩

theorem unifyBreaks_break {xs : List Char} {c : Char} (mem : c ∈ unifyBreaks xs)
    (isBreak : isLineBreak c) : c = '\n' := by
  induction xs with
  | nil => cases mem
  | cons d ds ih =>
      rw [unifyBreaks] at mem
      split at mem
      · exact ih mem
      · rcases List.mem_cons.mp mem with rfl | mem
        · split at isBreak
          · rw [if_pos ‹_›]
          · contradiction
        · exact ih mem

theorem unifyBreaks_eq_self {xs : List Char} (unified : ∀ c ∈ xs, isLineBreak c → c = '\n') :
    unifyBreaks xs = xs := by
  induction xs with
  | nil => rfl
  | cons c cs ih =>
      rw [List.forall_mem_cons] at unified
      rw [unifyBreaks, ih unified.2, if_neg]
      · congr 1
        split
        · exact (unified.1 ‹_›).symm
        · rfl
      · rintro ⟨rfl, -⟩
        exact absurd (unified.1 (by decide)) (by decide)

theorem splitlines_append_cons (xs ys : List Char) :
    splitlines (xs ++ '\n' :: ys) = splitlines (xs ++ ['\n']) ++ splitlines ys := by
  obtain ⟨us, h⟩ := unifyBreaks_ends xs
  rw [splitlines, unifyBreaks_append_cons, h, List.append_assoc, List.singleton_append,
    Text.lines_append_cons, splitlines, h, splitlines]

end Corebank
