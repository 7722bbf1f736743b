import Mathlib.Data.List.Dedup
import Mathlib.Data.List.Nodup
import Mathlib.Algebra.BigOperators.Group.List.Basic
import Mathlib.Algebra.Ring.Int.Defs

/-! # Joins and groups of a SELECT over lists of rows -/

namespace Corebank.Library.Relational

variable {α β κ : Type*} [DecidableEq κ]

def join (rows : List α) (others : List β) (on : α → β → Bool) : List (α × β) :=
  rows.flatMap fun a => (others.filter (on a)).map fun b => (a, b)

/-- A row without partner is kept once, with NULLs. -/
def leftJoin (rows : List α) (others : List β) (on : α → β → Bool) : List (α × Option β) :=
  rows.flatMap fun a =>
    match others.filter (on a) with
    | [] => [(a, none)]
    | partners => partners.map fun b => (a, some b)

def groupBy (key : α → κ) (rows : List α) : List (List α) :=
  (rows.map key).dedup.map fun k => rows.filter fun a => key a = k

/-- `COUNT(DISTINCT column)`, which skips NULL. -/
def countDistinct (column : α → Option κ) (rows : List α) : Nat :=
  (rows.filterMap column).dedup.length

/-! ## Joins -/

theorem join_flatMap {γ : Type*} (rows : List γ) (f : γ → List α) (others : List β)
    (on : α → β → Bool) :
    join (rows.flatMap f) others on = rows.flatMap fun c => join (f c) others on :=
  List.flatMap_assoc

theorem join_single (rows : List α) (others : List β) (on : α → β → Bool) :
    join rows others on = rows.flatMap fun a => join [a] others on := by
  simp [join]

theorem join_filter (rows : List α) (others : List β) (on : α → β → Bool) (p : β → Bool) :
    (join rows others on).filter (fun r => p r.2) =
      rows.flatMap fun a => (others.filter fun b => on a b && p b).map fun b => (a, b) := by
  rw [join, List.filter_flatMap]
  congr 1
  funext a
  rw [List.filter_map, List.filter_filter]
  congr 2
  funext b
  exact Bool.and_comm _ _

theorem mem_join {rows : List α} {others : List β} {on : α → β → Bool} {p : α × β} :
    p ∈ join rows others on ↔ p.1 ∈ rows ∧ p.2 ∈ others ∧ on p.1 p.2 = true := by
  obtain ⟨a, b⟩ := p
  simp only [join, List.mem_flatMap, List.mem_map, List.mem_filter, Prod.mk.injEq]
  constructor
  · rintro ⟨a, ha, b, ⟨hb, h⟩, rfl, rfl⟩
    exact ⟨ha, hb, h⟩
  · rintro ⟨ha, hb, h⟩
    exact ⟨a, ha, b, ⟨hb, h⟩, rfl, rfl⟩

theorem leftJoin_flatMap {γ : Type*} (rows : List γ) (f : γ → List α) (others : List β)
    (on : α → β → Bool) :
    leftJoin (rows.flatMap f) others on = rows.flatMap fun c => leftJoin (f c) others on :=
  List.flatMap_assoc

theorem leftJoin_single (rows : List α) (others : List β) (on : α → β → Bool) :
    leftJoin rows others on = rows.flatMap fun a => leftJoin [a] others on := by
  simp [leftJoin]

theorem mem_padded {a : α} {partners : List β} {p : α × Option β} :
    p ∈ (match partners with
      | [] => [(a, none)]
      | partners => partners.map fun b => (a, some b)) ↔
    p.1 = a ∧ (p.2 = none ∧ partners = [] ∨ ∃ b ∈ partners, p.2 = some b) := by
  obtain ⟨a', o⟩ := p
  cases partners with
  | nil => simp
  | cons b bs =>
      cases o with
      | none => simp
      | some b' =>
          simp [eq_comm]
          tauto

theorem mem_leftJoin {rows : List α} {others : List β} {on : α → β → Bool} {a : α} {b : β} :
    (a, some b) ∈ leftJoin rows others on ↔ a ∈ rows ∧ b ∈ others ∧ on a b = true := by
  simp only [leftJoin, List.mem_flatMap, mem_padded, List.mem_filter]
  constructor
  · rintro ⟨a, ha, rfl, ⟨⟨⟩, -⟩ | ⟨b, hb, ⟨⟩⟩⟩
    exact ⟨ha, hb⟩
  · rintro ⟨ha, hb⟩
    exact ⟨a, ha, rfl, Or.inr ⟨b, hb, rfl⟩⟩

theorem leftJoin_left {rows : List α} {others : List β} {on : α → β → Bool} {p : α × Option β}
    (mem : p ∈ leftJoin rows others on) : p.1 ∈ rows := by
  simp only [leftJoin, List.mem_flatMap, mem_padded] at mem
  obtain ⟨a, ha, rfl, -⟩ := mem
  exact ha

theorem exists_leftJoin {rows : List α} (others : List β) (on : α → β → Bool) {a : α}
    (mem : a ∈ rows) : ∃ o, (a, o) ∈ leftJoin rows others on := by
  simp only [leftJoin, List.mem_flatMap, mem_padded]
  cases partners : others.filter (on a) with
  | nil => exact ⟨none, a, mem, rfl, Or.inl ⟨rfl, partners⟩⟩
  | cons b bs => exact ⟨some b, a, mem, rfl, Or.inr ⟨b, by rw [partners]; simp, rfl⟩⟩

theorem sum_filter (p : β → Bool) (f : β → Int) (rows : List β) :
    ((rows.filter p).map f).sum = (rows.map fun b => if p b then f b else 0).sum := by
  induction rows with
  | nil => rfl
  | cons b rows ih => by_cases h : p b <;> simp [h, ih]

theorem sum_join (rows : List α) (others : List β) (on : α → β → Bool) (f : β → Int) :
    ((join rows others on).map fun p => f p.2).sum =
      (others.map fun b => ((rows.filter (on · b)).length : Int) * f b).sum := by
  induction rows with
  | nil => simp [join]
  | cons a rows ih =>
      have first : (((others.filter (on a)).map fun b => (a, b)).map fun p => f p.2).sum =
          (others.map fun b => if on a b then f b else 0).sum := by
        rw [List.map_map, ← sum_filter]
        rfl
      rw [join, List.flatMap_cons, List.map_append, List.sum_append, first, ← join, ih,
        ← List.sum_map_add]
      congr 1
      apply List.map_congr_left
      intro b _
      by_cases h : on a b
      · simp [h, Int.add_mul, Int.add_comm]
      · simp [h]

/-! ## Groups -/

section
variable {key : β → κ} {label : α → κ} {rows : List α} {block : α → List β}
  (nodup : (rows.map label).Nodup) (labelled : ∀ a ∈ rows, ∀ b ∈ block a, key b = label a)
include nodup labelled

/-- Rows that come in blocks, each under a key of its own, are grouped into these blocks. -/
theorem groupBy_flatMap : groupBy key (rows.flatMap block) =
    (rows.map block).filter fun group => !group.isEmpty := by
  induction rows with
  | nil => rfl
  | cons a rows ih =>
      rw [List.map_cons, List.nodup_cons] at nodup
      have labelled' := fun a' mem => labelled a' (List.mem_cons_of_mem a mem)
      have own : ∀ b ∈ block a, key b = label a := labelled a List.mem_cons_self
      have other : ∀ b ∈ rows.flatMap block, key b ≠ label a := by
        intro b mem
        obtain ⟨a', ha', hb⟩ := List.mem_flatMap.mp mem
        rw [labelled' a' ha' b hb]
        exact fun same => nodup.1 (same ▸ List.mem_map_of_mem ha')
      have rest := ih nodup.2 labelled'
      by_cases empty : block a = []
      · simpa [empty] using rest
      have head : ((block a).map key).dedup = [label a] := by
        rw [List.map_congr_left own, List.map_const', List.replicate_dedup]
        simpa using empty
      have apart : List.Disjoint ((block a).map key) ((rows.flatMap block).map key) := by
        intro k mem mem'
        obtain ⟨b, hb, rfl⟩ := List.mem_map.mp mem
        obtain ⟨b', hb', same⟩ := List.mem_map.mp mem'
        exact other b' hb' (same.trans (own b hb))
      rw [groupBy, List.flatMap_cons, List.map_append, apart.dedup_append, head, List.map_append,
        List.map_singleton, List.map_cons, List.filter_cons_of_pos (by simpa using empty), ← rest,
        List.singleton_append]
      congr 1
      · rw [List.filter_append, List.filter_eq_self.mpr (by simpa using own),
          List.filter_eq_nil_iff.mpr (by simpa using other), List.append_nil]
      · apply List.map_congr_left
        intro k mem
        obtain ⟨b, hb, rfl⟩ := List.mem_map.mp (List.mem_dedup.mp mem)
        rw [List.filter_append, List.filter_eq_nil_iff.mpr, List.nil_append]
        intro b' hb'
        simpa [own b' hb'] using (other b hb).symm

theorem filterMap_groupBy {γ : Type*} (f : List β → Option γ) (empty : f [] = none) :
    (groupBy key (rows.flatMap block)).filterMap f = rows.filterMap fun a => f (block a) := by
  rw [groupBy_flatMap nodup labelled, List.filterMap_filter, List.filterMap_map]
  apply List.filterMap_congr
  intro a _
  cases h : block a with
  | nil => simp [h, empty]
  | cons b bs => simp [h]

end

omit [DecidableEq κ] in
/-- When every row found carries the label of the row it is found for, only the rows count. -/
theorem filterMap_perm_iff {γ : Type*} {rows : List α} {label : α → κ} {f g : α → Option γ}
    {id : γ → κ} (nodup : (rows.map label).Nodup)
    (hf : ∀ a ∈ rows, ∀ c, f a = some c → id c = label a)
    (hg : ∀ a ∈ rows, ∀ c, g a = some c → id c = label a) :
    (rows.filterMap f).Perm (rows.filterMap g) ↔ ∀ a ∈ rows, f a = g a := by
  constructor
  · intro perm a mem
    have transfer {f g : α → Option γ} (hf : ∀ a ∈ rows, ∀ c, f a = some c → id c = label a)
        (hg : ∀ a ∈ rows, ∀ c, g a = some c → id c = label a)
        (sub : ∀ c, c ∈ rows.filterMap f → c ∈ rows.filterMap g) {c : γ} (found : f a = some c) :
        g a = some c := by
      obtain ⟨a', mem', found'⟩ := List.mem_filterMap.mp (sub c (List.mem_filterMap.mpr ⟨a, mem, found⟩))
      have same : label a' = label a := (hg a' mem' c found').symm.trans (hf a mem c found)
      rwa [List.inj_on_of_nodup_map nodup mem' mem same] at found'
    cases found : f a with
    | some c => exact (transfer hf hg (fun c => perm.mem_iff.mp) found).symm
    | none =>
        cases found' : g a with
        | none => rfl
        | some c =>
            have back := transfer hg hf (fun c => perm.mem_iff.mpr) found'
            rw [found] at back
            cases back
  · intro same
    rw [List.filterMap_congr same]

theorem countDistinct_eq {column : α → Option κ} {rows : List α} {keys : List κ}
    (nodup : keys.Nodup) (same : ∀ k, (∃ a ∈ rows, column a = some k) ↔ k ∈ keys) :
    countDistinct column rows = keys.length := by
  apply List.Perm.length_eq
  rw [List.perm_ext_iff_of_nodup (List.nodup_dedup _) nodup]
  intro k
  rw [List.mem_dedup, List.mem_filterMap, same]

end Corebank.Library.Relational
