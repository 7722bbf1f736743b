import Mathlib.Data.List.DropRight
import Mathlib.Data.List.Infix

/-!
# Texts as lists

Stripping, splitting at a separator and splitting into lines, over arbitrary elements: `blank` says
which of them are white space.
-/

namespace Corebank.Library.Text

variable {α : Type*} (blank : α → Bool)

/-! ## Stripping -/

def strip (xs : List α) : List α := (xs.dropWhile blank).rdropWhile blank

theorem strip_split (xs : List α) : ∃ left right, xs = left ++ strip blank xs ++ right ∧
    (∀ x ∈ left, blank x) ∧ ∀ x ∈ right, blank x := by
  refine ⟨xs.takeWhile blank, (xs.dropWhile blank).rtakeWhile blank, ?_,
    fun x mem => List.mem_takeWhile_imp mem, fun x mem => List.mem_rtakeWhile_imp mem⟩
  rw [strip, List.append_assoc, List.rdropWhile_append_rtakeWhile, List.takeWhile_append_dropWhile]

theorem strip_infix (xs : List α) : strip blank xs <:+: xs := by
  obtain ⟨left, right, split, -, -⟩ := strip_split blank xs
  exact ⟨left, right, split.symm⟩

variable {blank}

theorem strip_blank_append {left : List α} (h : ∀ x ∈ left, blank x) (xs : List α) :
    strip blank (left ++ xs) = strip blank xs := by
  rw [strip, List.dropWhile_append_of_pos h, strip]

theorem strip_append_blank (xs : List α) {right : List α} (h : ∀ x ∈ right, blank x) :
    strip blank (xs ++ right) = strip blank xs := by
  have drop (ys : List α) : (ys ++ right).rdropWhile blank = ys.rdropWhile blank := by
    rw [List.rdropWhile, List.reverse_append,
      List.dropWhile_append_of_pos fun x mem => h x (List.mem_reverse.mp mem), List.rdropWhile]
  rw [strip, List.dropWhile_append]
  split
  · rename_i none
    rw [strip, List.isEmpty_iff.mp none, List.dropWhile_eq_nil_iff.mpr h]
  · rw [drop, strip]

theorem strip_idem (xs : List α) : strip blank (strip blank xs) = strip blank xs := by
  obtain ⟨left, right, split, blanks, blanks'⟩ := strip_split blank xs
  conv_rhs => rw [split, strip_append_blank _ blanks', strip_blank_append blanks]

theorem strip_eq_nil {xs : List α} : strip blank xs = [] ↔ ∀ x ∈ xs, blank x := by
  constructor
  · intro h
    obtain ⟨left, right, split, blanks, blanks'⟩ := strip_split blank xs
    rw [h, List.append_nil] at split
    rw [split]
    intro x mem
    exact (List.mem_append.mp mem).elim (blanks x) (blanks' x)
  · intro h
    rw [← List.append_nil xs, strip_blank_append h]
    rfl

theorem dropWhile_of_trimmed {xs : List α} (trimmed : strip blank xs = xs) :
    xs.dropWhile blank = xs := by
  have shorter : (strip blank xs).length ≤ (xs.dropWhile blank).length :=
    (List.rdropWhile_prefix blank _).length_le
  rw [trimmed] at shorter
  exact (List.dropWhile_suffix blank).eq_of_length_le shorter

/-- A text that `strip` leaves as it is begins and ends in something. -/
theorem strip_append_trimmed (xs : List α) {ys : List α} (some : ys ≠ [])
    (trimmed : strip blank ys = ys) : strip blank (xs ++ ys) = xs.dropWhile blank ++ ys := by
  have first := dropWhile_of_trimmed trimmed
  have last : ys.rdropWhile blank = ys := by
    rwa [strip, first] at trimmed
  have dropped : (xs ++ ys).dropWhile blank = xs.dropWhile blank ++ ys := by
    rw [List.dropWhile_append]
    split
    · rename_i none
      rw [List.isEmpty_iff.mp none, first, List.nil_append]
    · rfl
  rw [strip, dropped, List.rdropWhile_eq_self_iff]
  intro more
  rw [List.getLast_append_of_ne_nil _ some]
  exact List.rdropWhile_eq_self_iff.mp last some

theorem strip_append_eq_iff {xs ys : List α} (some : ys ≠ []) (trimmed : strip blank ys = ys) :
    strip blank (xs ++ ys) = ys ↔ ∀ x ∈ xs, blank x := by
  rw [strip_append_trimmed xs some trimmed, List.append_left_eq_self, List.dropWhile_eq_nil_iff]

/-- Stripping on the right leaves a beginning without white space alone. -/
theorem prefix_strip {xs ys : List α} (solid : ∀ y ∈ ys, ¬ blank y) :
    ys <+: strip blank xs ↔ ys <+: xs.dropWhile blank := by
  constructor
  · exact fun h => h.trans (List.rdropWhile_prefix blank _)
  · intro ⟨rest, h⟩
    rw [strip, ← h]
    clear h
    induction rest using List.reverseRecOn with
    | nil =>
        have kept : ys.rdropWhile blank = ys :=
          List.rdropWhile_eq_self_iff.mpr fun some => solid _ (List.getLast_mem some)
        rw [List.append_nil, kept]
    | append_singleton rest x ih =>
        rw [← List.append_assoc]
        by_cases space : blank x
        · rwa [List.rdropWhile_concat_pos _ _ _ space]
        · rw [List.rdropWhile_concat_neg _ _ _ space, List.append_assoc]
          exact List.prefix_append _ _

/-! ## Fields

The stripped pieces between separators, without the empty ones. -/

variable [DecidableEq α]

def fields (blank : α → Bool) (sep : α) (xs : List α) : List (List α) :=
  ((xs.splitOn sep).map (strip blank)).filter (· ≠ [])

variable {sep : α}

/-- A text is one piece, or a piece, the separator and a text. -/
theorem splitOn_cases (sep : α) {motive : List α → Prop} (piece : ∀ xs, sep ∉ xs → motive xs)
    (cons : ∀ xs ys, sep ∉ xs → motive ys → motive (xs ++ sep :: ys)) (xs : List α) : motive xs := by
  induction h : xs.length using Nat.strong_induction_on generalizing xs with
  | _ n ih =>
      subst h
      by_cases mem : sep ∈ xs
      · obtain ⟨before, after, rfl, none⟩ := List.eq_append_cons_of_mem mem
        exact cons before after none (ih after.length (by simp; omega) after rfl)
      · exact piece xs mem

theorem mem_splitOn {xs ys : List α} : ys ∈ xs.splitOn sep ↔ sep ∉ ys ∧ ∃ before after,
    xs = before ++ ys ++ after ∧ (before = [] ∨ ∃ more, before = more ++ [sep]) ∧
      (after = [] ∨ ∃ more, after = sep :: more) := by
  constructor
  · intro mem
    induction xs using splitOn_cases sep with
    | piece xs none =>
        rw [List.splitOn_eq_singleton none, List.mem_singleton] at mem
        subst mem
        exact ⟨none, [], [], by simp, Or.inl rfl, Or.inl rfl⟩
    | cons xs rest none ih =>
        rw [List.splitOn_append_cons_self_of_not_mem none, List.mem_cons] at mem
        rcases mem with rfl | mem
        · exact ⟨none, [], sep :: rest, by simp, Or.inl rfl, Or.inr ⟨rest, rfl⟩⟩
        · obtain ⟨single, before, after, rfl, opens, closes⟩ := ih mem
          refine ⟨single, xs ++ sep :: before, after, by simp, Or.inr ?_, closes⟩
          rcases opens with rfl | ⟨more, rfl⟩
          · exact ⟨xs, rfl⟩
          · exact ⟨xs ++ sep :: more, by simp⟩
  · rintro ⟨single, before, after, rfl, opens, closes⟩
    have last : ys ∈ (ys ++ after).splitOn sep := by
      rcases closes with rfl | ⟨more, rfl⟩
      · rw [List.append_nil, List.splitOn_eq_singleton single]
        exact List.mem_singleton_self _
      · rw [List.splitOn_append_cons_self_of_not_mem single]
        exact List.mem_cons_self
    rcases opens with rfl | ⟨more, rfl⟩
    · simpa using last
    · have split : (more ++ sep :: (ys ++ after)).splitOn sep =
          more.splitOn sep ++ (ys ++ after).splitOn sep :=
        List.splitOn_append_cons_self more (ys ++ after)
      simp only [List.append_assoc, List.cons_append, List.nil_append] at split ⊢
      rw [split]
      exact List.mem_append_right _ last

theorem mem_fields {xs ys : List α} : ys ∈ fields blank sep xs ↔
    ys ≠ [] ∧ ∃ piece ∈ xs.splitOn sep, strip blank piece = ys := by
  simp [fields, and_comm]

theorem fields_piece {xs : List α} (none : sep ∉ xs) :
    fields blank sep xs = if strip blank xs = [] then [] else [strip blank xs] := by
  rw [fields, List.splitOn_eq_singleton none]
  split <;> simp_all

theorem fields_append_cons (xs ys : List α) :
    fields blank sep (xs ++ sep :: ys) = fields blank sep xs ++ fields blank sep ys := by
  simp [fields, List.splitOn_append_cons_self]

theorem fields_sep_cons (xs : List α) : fields blank sep (sep :: xs) = fields blank sep xs := by
  have split : fields blank sep ([] ++ sep :: xs) = fields blank sep [] ++ fields blank sep xs :=
    fields_append_cons [] xs
  simpa [fields, strip] using split

theorem fields_eq_nil {xs : List α} :
    fields blank sep xs = [] ↔ ∀ x ∈ xs, blank x ∨ x = sep := by
  induction xs using splitOn_cases sep with
  | piece xs none =>
      rw [fields_piece none, ite_eq_left_iff]
      simp only [List.cons_ne_nil, imp_false, not_not, strip_eq_nil]
      refine forall₂_congr fun x mem => ⟨Or.inl, fun h => h.resolve_right ?_⟩
      rintro rfl
      exact none mem
  | cons xs ys none ih =>
      rw [fields_append_cons, List.append_eq_nil_iff, ih, fields_piece none, ite_eq_left_iff]
      simp only [List.cons_ne_nil, imp_false, not_not, strip_eq_nil, List.forall_mem_append,
        List.forall_mem_cons, or_true, true_and]
      refine and_congr_left fun _ => forall₂_congr fun x mem => ⟨Or.inl, fun h => h.resolve_right ?_⟩
      rintro rfl
      exact none mem

/-- A field is a piece between separators, perhaps with white space around it. -/
theorem mem_fields_padded (solid : ¬ blank sep) {xs ys : List α} (some : ys ≠ [])
    (trimmed : strip blank ys = ys) (none : sep ∉ ys) :
    ys ∈ fields blank sep xs ↔ ∃ before left right after,
      xs = before ++ (left ++ ys ++ right) ++ after ∧ (∀ x ∈ left, blank x) ∧
        (∀ x ∈ right, blank x) ∧ (before = [] ∨ ∃ more, before = more ++ [sep]) ∧
          (after = [] ∨ ∃ more, after = sep :: more) := by
  rw [mem_fields]
  constructor
  · intro ⟨_, piece, mem, stripped⟩
    obtain ⟨-, before, after, rfl, opens, closes⟩ := mem_splitOn.mp mem
    obtain ⟨left, right, split, blanks, blanks'⟩ := strip_split blank piece
    rw [stripped] at split
    exact ⟨before, left, right, after, by rw [split], blanks, blanks', opens, closes⟩
  · intro ⟨before, left, right, after, split, blanks, blanks', opens, closes⟩
    refine ⟨some, left ++ ys ++ right, mem_splitOn.mpr ⟨?_, before, after, split, opens, closes⟩, ?_⟩
    · simp only [List.mem_append, not_or]
      exact ⟨⟨fun mem => solid (blanks sep mem), none⟩, fun mem => solid (blanks' sep mem)⟩
    · rw [strip_append_blank _ blanks', strip_blank_append blanks, trimmed]

theorem fields_append_blank (xs : List α) {right : List α} (blanks : ∀ x ∈ right, blank x)
    (none : sep ∉ right) : fields blank sep (xs ++ right) = fields blank sep xs := by
  induction xs using splitOn_cases sep with
  | piece xs none' =>
      have single : sep ∉ xs ++ right := by simp [none, none']
      rw [fields_piece single, fields_piece none', strip_append_blank xs blanks]
  | cons xs ys none' ih =>
      rw [List.append_assoc, List.cons_append, fields_append_cons, fields_append_cons, ih]

theorem fields_skip {left : List α} (skipped : fields blank sep left = []) (xs : List α) :
    fields blank sep (left ++ xs) = fields blank sep xs := by
  rw [fields_eq_nil] at skipped
  induction left with
  | nil => rfl
  | cons x left ih =>
      rw [List.forall_mem_cons] at skipped
      rw [List.cons_append, ← ih skipped.2]
      by_cases separator : x = sep
      · rw [separator, fields_sep_cons]
      · have blanks : ∀ y ∈ [x], blank y := by simpa using skipped.1.resolve_right separator
        generalize left ++ xs = ys
        induction ys using splitOn_cases sep with
        | piece ys none =>
            have single : sep ∉ x :: ys := by simp [none, Ne.symm separator]
            rw [fields_piece single, fields_piece none, ← List.singleton_append,
              strip_blank_append blanks]
        | cons ys zs none ih =>
            have single : sep ∉ x :: ys := by simp [none, Ne.symm separator]
            rw [← List.cons_append, fields_append_cons, fields_append_cons, fields_piece single,
              fields_piece none, ← List.singleton_append, strip_blank_append blanks]

section
variable {ys : List α} (some : ys ≠ []) (trimmed : strip blank ys = ys) (none : sep ∉ ys)
include some trimmed none

theorem fields_trimmed : fields blank sep ys = [ys] := by
  rw [fields_piece none, trimmed, if_neg some]

theorem fields_append_ne_nil (xs : List α) : fields blank sep (xs ++ ys) ≠ [] := by
  intro h
  have blanks : ∀ y ∈ ys, blank y := fun y mem =>
    (fields_eq_nil.mp h y (List.mem_append_right _ mem)).resolve_right fun e => none (e ▸ mem)
  rw [← strip_eq_nil, trimmed] at blanks
  exact some blanks

theorem fields_append_eq_iff (xs : List α) :
    fields blank sep (xs ++ ys) = [ys] ↔ fields blank sep xs = [] := by
  refine ⟨fun h => ?_, fun h => by rw [fields_skip h, fields_trimmed some trimmed none]⟩
  induction xs using splitOn_cases sep with
  | piece xs none' =>
      have single : sep ∉ xs ++ ys := by simp [none, none']
      rw [fields_piece single] at h
      split at h
      · cases h
      · rw [List.cons.injEq, strip_append_eq_iff some trimmed] at h
        exact fields_eq_nil.mpr fun x mem => Or.inl (h.1 x mem)
  | cons xs rest none' ih =>
      rw [List.append_assoc, List.cons_append, fields_append_cons] at h
      have more := fields_append_ne_nil some trimmed none rest
      rw [List.append_eq_singleton_iff] at h
      rcases h with ⟨before, last⟩ | ⟨-, last⟩
      · rw [fields_append_cons, before, ih last, List.nil_append]
      · exact absurd last more

end

/-! ## Lines -/

/-- The lines of a text; a separator at its end opens no further line. -/
def lines (nl : α) : List α → List (List α)
  | [] => []
  | x :: xs =>
      if x = nl then [] :: lines nl xs
      else
        match lines nl xs with
        | [] => [[x]]
        | line :: rest => (x :: line) :: rest

def unlines (nl : α) (ls : List (List α)) : List α := ls.flatMap (· ++ [nl])

variable {nl : α}

theorem lines_eq_nil {xs : List α} : lines nl xs = [] ↔ xs = [] := by
  cases xs with
  | nil => simp [lines]
  | cons x xs =>
      rw [lines]
      split
      · simp
      · split <;> simp

theorem lines_append_cons (xs ys : List α) :
    lines nl (xs ++ nl :: ys) = lines nl (xs ++ [nl]) ++ lines nl ys := by
  induction xs with
  | nil => simp [lines]
  | cons x xs ih =>
      simp only [List.cons_append, lines, ih]
      split
      · rfl
      · cases h : lines nl (xs ++ [nl]) with
        | nil => simp [lines_eq_nil] at h
        | cons line rest => rfl

theorem not_mem_lines {xs line : List α} (mem : line ∈ lines nl xs) : nl ∉ line := by
  induction xs generalizing line with
  | nil => simp [lines] at mem
  | cons x xs ih =>
      rw [lines] at mem
      split at mem
      · rcases List.mem_cons.mp mem with rfl | mem
        · simp
        · exact ih mem
      · rename_i other
        split at mem
        · rw [List.mem_singleton] at mem
          simpa [mem] using Ne.symm other
        · rename_i first rest found
          rw [found] at ih
          rcases List.mem_cons.mp mem with rfl | mem
          · have := ih List.mem_cons_self
            simp [this, Ne.symm other]
          · exact ih (List.mem_cons_of_mem _ mem)

theorem subset_of_mem_lines {xs line : List α} (mem : line ∈ lines nl xs) : line ⊆ xs := by
  induction xs generalizing line with
  | nil => simp [lines] at mem
  | cons x xs ih =>
      rw [lines] at mem
      split at mem
      · rcases List.mem_cons.mp mem with rfl | mem
        · exact List.nil_subset _
        · exact List.subset_cons_of_subset _ (ih mem)
      · split at mem
        · rw [List.mem_singleton] at mem
          simp [mem]
        · rename_i first rest found
          rw [found] at ih
          rcases List.mem_cons.mp mem with rfl | mem
          · exact List.cons_subset_cons _ (ih List.mem_cons_self)
          · exact List.subset_cons_of_subset _ (ih (List.mem_cons_of_mem _ mem))

theorem lines_piece_cons {xs : List α} (none : nl ∉ xs) (ys : List α) :
    lines nl (xs ++ nl :: ys) = xs :: lines nl ys := by
  induction xs with
  | nil => simp [lines]
  | cons x xs ih =>
      rw [List.mem_cons, not_or] at none
      rw [List.cons_append, lines, if_neg (Ne.symm none.1), ih none.2]

/-- Appending to a text appends to its last line. -/
theorem lines_extend (xs : List α) {ys : List α} (none : nl ∉ ys) : ∃ init last,
    lines nl (xs ++ [nl]) = init ++ [last] ∧ lines nl (xs ++ ys ++ [nl]) = init ++ [last ++ ys] := by
  induction xs with
  | nil => exact ⟨[], [], by simp [lines], by rw [List.nil_append, lines_piece_cons none]; rfl⟩
  | cons x xs ih =>
      obtain ⟨init, last, before, after⟩ := ih
      by_cases same : x = nl
      · exact ⟨[] :: init, last, by simp [lines, same, before],
          by simp only [List.cons_append, lines, same, if_true, after]⟩
      · cases init with
        | nil => exact ⟨[], x :: last, by simp [lines, same, before],
            by simp only [List.cons_append, lines, same, if_false, after]; rfl⟩
        | cons first init => exact ⟨(x :: first) :: init, last, by simp [lines, same, before],
            by simp only [List.cons_append, lines, same, if_false, after]⟩

theorem unlines_lines (xs : List α) : unlines nl (lines nl (xs ++ [nl])) = xs ++ [nl] := by
  induction xs with
  | nil => simp [lines, unlines]
  | cons x xs ih =>
      simp only [List.cons_append, lines]
      split
      · rename_i same
        simpa [unlines, same] using ih
      · split
        · rename_i none
          simp [none, unlines] at ih
        · rename_i line rest found
          simpa [found, unlines] using ih

/-- The lines of a part of a text begin, but for the first one, where lines of the text begin. -/
theorem lines_of_front {ls : List (List α)} (single : ∀ l ∈ ls, nl ∉ l) {ys : List α}
    (part : ys <+: unlines nl ls) :
    ∀ line ∈ lines nl (ys ++ [nl]), line = [] ∨ ∃ l ∈ ls, line <+: l := by
  induction ls generalizing ys with
  | nil =>
      have : ys = [] := List.prefix_nil.mp part
      simp [this, lines]
  | cons l ls ih =>
      rw [List.forall_mem_cons] at single
      obtain ⟨rest, part⟩ := part
      have h : ys ++ rest = l ++ nl :: unlines nl ls := by simpa [unlines] using part
      rw [List.append_eq_append_iff] at h
      clear part
      rcases h with ⟨more, h, -⟩ | ⟨more, rfl, h⟩
      · have none : nl ∉ ys := fun mem => single.1 (h ▸ List.mem_append_left _ mem)
        rw [lines_piece_cons none]
        simp [lines, h]
      · cases more with
        | nil =>
            rw [List.append_nil, lines_piece_cons single.1]
            simp [lines]
        | cons x more =>
            rw [List.cons_append, List.cons.injEq] at h
            obtain ⟨rfl, h⟩ := h
            rw [List.append_assoc, List.cons_append, lines_piece_cons single.1, List.forall_mem_cons]
            refine ⟨Or.inr ⟨l, List.mem_cons_self, List.prefix_refl l⟩, fun line mem => ?_⟩
            rcases ih single.2 ⟨rest, h.symm⟩ line mem with none | ⟨l', mem', begins⟩
            · exact Or.inl none
            · exact Or.inr ⟨l', List.mem_cons_of_mem _ mem', begins⟩

theorem tail_lines_of_infix {ls : List (List α)} (single : ∀ l ∈ ls, nl ∉ l) {ys : List α}
    (part : ys <:+: unlines nl ls) :
    ∀ line ∈ (lines nl (ys ++ [nl])).tail, line = [] ∨ ∃ l ∈ ls, line <+: l := by
  have one {zs : List α} (none : nl ∉ zs) : (lines nl (zs ++ [nl])).tail = [] := by
    rw [lines_piece_cons none]
    rfl
  induction ls generalizing ys with
  | nil =>
      have : ys = [] := List.infix_nil.mp part
      simp [this, lines]
  | cons l ls ih =>
      rw [List.forall_mem_cons] at single
      obtain ⟨front, rest, h⟩ := part
      have h : front ++ ys ++ rest = l ++ nl :: unlines nl ls := by simpa [unlines] using h
      rw [List.append_eq_append_iff] at h
      have wider {line : List α} (h : line = [] ∨ ∃ l ∈ ls, line <+: l) :
          line = [] ∨ ∃ l' ∈ l :: ls, line <+: l' :=
        h.imp_right fun ⟨l', mem, begins⟩ => ⟨l', List.mem_cons_of_mem _ mem, begins⟩
      rcases h with ⟨more, h, -⟩ | ⟨more, h, back⟩
      · have none : nl ∉ ys := fun mem => single.1 (by simp [h, mem])
        rw [one none]
        exact fun _ mem => absurd mem List.not_mem_nil
      · cases more with
        | nil =>
            have none : nl ∉ ys := fun mem => single.1 (by
              rw [← l.append_nil, ← h]
              exact List.mem_append_right _ mem)
            rw [one none]
            exact fun _ mem => absurd mem List.not_mem_nil
        | cons x more =>
            rw [List.cons_append, List.cons.injEq] at back
            obtain ⟨rfl, back⟩ := back
            -- the part begins in the first line, or at or after the second
            rcases List.append_eq_append_iff.mp h with ⟨start, rfl, rfl⟩ | ⟨gap, -, later⟩
            · rw [List.append_assoc, List.cons_append, lines_piece_cons fun mem =>
                single.1 (List.mem_append_right _ mem)]
              exact fun line mem => wider (lines_of_front single.2 ⟨rest, back.symm⟩ line mem)
            · cases gap with
              | nil =>
                  rw [List.nil_append] at later
                  rw [← later, ← List.nil_append (nl :: more), List.append_assoc, List.cons_append,
                    lines_piece_cons List.not_mem_nil]
                  exact fun line mem => wider (lines_of_front single.2 ⟨rest, back.symm⟩ line mem)
              | cons y gap =>
                  rw [List.cons_append, List.cons.injEq] at later
                  refine fun line mem => wider (ih single.2 ⟨gap, rest, ?_⟩ line mem)
                  rw [← later.2]
                  exact back.symm

omit [DecidableEq α] in
theorem intercalate_append (ls : List (List α)) (some : ls ≠ []) :
    [nl].intercalate ls ++ [nl] = unlines nl ls := by
  induction ls with
  | nil => exact absurd rfl some
  | cons line rest ih =>
      cases rest with
      | nil => simp [unlines, List.intercalate]
      | cons next rest =>
          have := ih (by simp)
          simpa [unlines, List.intercalate] using this

end Corebank.Library.Text
