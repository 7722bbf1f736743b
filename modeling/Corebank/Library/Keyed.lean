import Mathlib.Data.List.Nodup
import Mathlib.Data.List.Perm.Basic
import Mathlib.Algebra.BigOperators.Group.List.Basic
import Mathlib.Tactic.Ring

/-! # Lists of rows with a key -/

namespace Corebank.Library.Keyed

variable {α β κ : Type*} [DecidableEq κ] (key : α → κ)

def lookup (k : κ) (rows : List α) : Option α := rows.find? fun x => key x = k

def replace (x : α) (rows : List α) : List α := rows.map fun y => if key y = key x then x else y

def remove (k : κ) (rows : List α) : List α := rows.filter fun x => key x ≠ k

variable {key}

theorem lookup_mem {k : κ} {rows : List α} {x : α} (h : lookup key k rows = some x) : x ∈ rows :=
  List.mem_of_find?_eq_some h

theorem lookup_key {k : κ} {rows : List α} {x : α} (h : lookup key k rows = some x) : key x = k := by
  simpa using List.find?_some h

theorem lookup_eq_none {k : κ} {rows : List α} :
    lookup key k rows = none ↔ ∀ x ∈ rows, key x ≠ k := by
  simp [lookup]

theorem lookup_isSome {k : κ} {rows : List α} :
    (lookup key k rows).isSome ↔ ∃ x ∈ rows, key x = k := by
  simp [lookup]

theorem lookup_of_mem {rows : List α} (nodup : (rows.map key).Nodup) {x : α} (mem : x ∈ rows) :
    lookup key (key x) rows = some x := by
  induction rows with
  | nil => cases mem
  | cons y ys ih =>
      rw [List.map_cons, List.nodup_cons] at nodup
      rcases List.mem_cons.mp mem with rfl | mem
      · simp [lookup]
      · have ne : key y ≠ key x := fun h => nodup.1 (h ▸ List.mem_map_of_mem mem)
        simpa [lookup, ne] using ih nodup.2 mem

theorem eq_of_key {rows : List α} (nodup : (rows.map key).Nodup) {x y : α} (hx : x ∈ rows)
    (hy : y ∈ rows) (h : key x = key y) : x = y := by
  have := lookup_of_mem nodup hx
  rw [h, lookup_of_mem nodup hy] at this
  exact (Option.some.inj this).symm

theorem lookup_append {k : κ} {rows more : List α} :
    lookup key k (rows ++ more) = (lookup key k rows).or (lookup key k more) :=
  List.find?_append

theorem map_key_replace (x : α) (rows : List α) : (replace key x rows).map key = rows.map key := by
  simp only [replace, List.map_map]
  apply List.map_congr_left
  intro y _
  by_cases h : key y = key x <;> simp [h]

theorem mem_replace {x y : α} {rows : List α} (h : y ∈ replace key x rows) :
    y = x ∨ y ∈ rows ∧ key y ≠ key x := by
  obtain ⟨z, hz, rfl⟩ := List.mem_map.mp h
  by_cases e : key z = key x
  · simp [e]
  · simp [e, hz]

theorem mem_replace_of_ne {x y : α} {rows : List α} (h : y ∈ rows) (ne : key y ≠ key x) :
    y ∈ replace key x rows :=
  List.mem_map.mpr ⟨y, h, by simp [ne]⟩

theorem lookup_replace_self {x : α} {rows : List α} (h : (lookup key (key x) rows).isSome) :
    lookup key (key x) (replace key x rows) = some x := by
  induction rows with
  | nil => simp [lookup] at h
  | cons y ys ih =>
      by_cases e : key y = key x
      · simp [replace, lookup, e]
      · simp only [lookup, List.find?_cons, e, decide_false] at h
        simpa [replace, lookup, e] using ih h

theorem lookup_replace_of_ne {k : κ} {x : α} {rows : List α} (ne : k ≠ key x) :
    lookup key k (replace key x rows) = lookup key k rows := by
  induction rows with
  | nil => rfl
  | cons y ys ih =>
      simp only [replace, lookup, List.map_cons, List.find?_cons] at ih ⊢
      by_cases e : key y = key x
      · simp [e, ne.symm, ih]
      · simp [e, ih]

theorem nodup_map_replace {γ : Type*} (column : α → γ) {x : α} {rows : List α}
    (keys : (rows.map key).Nodup) (nodup : (rows.map column).Nodup)
    (fresh : ∀ y ∈ rows, key y ≠ key x → column y ≠ column x) :
    ((replace key x rows).map column).Nodup := by
  induction rows with
  | nil => simp [replace]
  | cons y ys ih =>
      rw [List.map_cons, List.nodup_cons] at keys nodup
      have rest := ih keys.2 nodup.2 fun z hz => fresh z (List.mem_cons_of_mem _ hz)
      simp only [replace, List.map_cons, List.nodup_cons] at rest ⊢
      refine ⟨?_, rest⟩
      intro clash
      obtain ⟨z, hz, ez⟩ := List.mem_map.mp clash
      rcases mem_replace hz with rfl | ⟨hz, hne⟩
      · by_cases e : key y = key z
        · -- `y` was the row replaced, so no row of `ys` has its key
          obtain ⟨w, hw, ew⟩ := List.mem_map.mp hz
          by_cases e' : key w = key z
          · exact keys.1 (e ▸ e' ▸ List.mem_map_of_mem hw)
          · simp only [e', if_false] at ew
            exact e' (ew ▸ rfl)
        · simp only [e, if_false] at ez
          exact fresh y List.mem_cons_self e ez.symm
      · by_cases e : key y = key x
        · simp only [e, if_true] at ez
          exact fresh z (List.mem_cons_of_mem _ hz) hne ez
        · simp only [e, if_false] at ez
          exact nodup.1 (ez ▸ List.mem_map_of_mem hz)

theorem filter_replace (x : α) (rows : List α) :
    (replace key x rows).filter (fun y => key y ≠ key x) = rows.filter fun y => key y ≠ key x := by
  induction rows with
  | nil => rfl
  | cons y ys ih =>
      by_cases e : key y = key x
      · simpa [replace, e] using ih
      · simpa [replace, e] using ih

theorem replace_of_absent {x : α} {rows : List α} (absent : ∀ y ∈ rows, key y ≠ key x) :
    replace key x rows = rows := by
  conv_rhs => rw [← List.map_id rows]
  exact List.map_congr_left fun y hy => by simp [absent y hy]

theorem remove_of_absent {k : κ} {rows : List α} (absent : ∀ y ∈ rows, key y ≠ k) :
    remove key k rows = rows := by
  simpa [remove, List.filter_eq_self] using absent

theorem lookup_split {k : κ} {rows : List α} (nodup : (rows.map key).Nodup) {x : α}
    (h : lookup key k rows = some x) :
    ∃ before after, rows = before ++ x :: after ∧ (∀ y ∈ before, key y ≠ k) ∧
      ∀ y ∈ after, key y ≠ k := by
  have hk := lookup_key h
  obtain ⟨before, after, rfl⟩ := List.append_of_mem (lookup_mem h)
  rw [List.map_append, List.map_cons, List.nodup_append, List.nodup_cons] at nodup
  obtain ⟨-, ⟨notAfter, -⟩, disjoint⟩ := nodup
  refine ⟨before, after, rfl, fun y hy e => ?_, fun y hy e => ?_⟩
  · exact disjoint _ (List.mem_map_of_mem hy) _ List.mem_cons_self (e.trans hk.symm)
  · exact notAfter (hk.trans e.symm ▸ List.mem_map_of_mem hy)

theorem sum_replace {rows : List α} (nodup : (rows.map key).Nodup) (f : α → Int) {old x : α}
    (h : lookup key (key x) rows = some old) :
    ((replace key x rows).map f).sum = (rows.map f).sum - f old + f x := by
  obtain ⟨before, after, rfl, hb, ha⟩ := lookup_split nodup h
  have split : replace key x (before ++ old :: after) = before ++ x :: after := by
    have hb := replace_of_absent hb
    have ha := replace_of_absent ha
    unfold replace at hb ha ⊢
    rw [List.map_append, List.map_cons, hb, ha, if_pos (lookup_key h)]
  rw [split]
  simp only [List.map_append, List.map_cons, List.sum_append, List.sum_cons]
  ring

theorem sum_remove {rows : List α} (nodup : (rows.map key).Nodup) (f : α → Int) {k : κ} {old : α}
    (h : lookup key k rows = some old) :
    ((remove key k rows).map f).sum = (rows.map f).sum - f old := by
  obtain ⟨before, after, rfl, hb, ha⟩ := lookup_split nodup h
  have split : remove key k (before ++ old :: after) = before ++ after := by
    have hb := remove_of_absent hb
    have ha := remove_of_absent ha
    unfold remove at hb ha ⊢
    rw [List.filter_append, List.filter_cons_of_neg (by simp [lookup_key h]), hb, ha]
  rw [split]
  simp only [List.map_append, List.map_cons, List.sum_append, List.sum_cons]
  ring

theorem map_key_remove_sublist (k : κ) (rows : List α) :
    ((remove key k rows).map key).Sublist (rows.map key) :=
  List.filter_sublist.map key

theorem mem_remove {k : κ} {x : α} {rows : List α} :
    x ∈ remove key k rows ↔ x ∈ rows ∧ key x ≠ k := by
  simp [remove]

theorem lookup_remove_of_ne {k j : κ} {rows : List α} (ne : j ≠ k) :
    lookup key j (remove key k rows) = lookup key j rows := by
  unfold lookup remove
  rw [List.find?_filter]
  congr 1
  funext x
  by_cases e : key x = j
  · simp [e, ne]
  · simp [e]

omit [DecidableEq κ] in
theorem perm_of_mem_iff {rows others : List α} (hr : (rows.map key).Nodup)
    (ho : (others.map key).Nodup) (h : ∀ x, x ∈ rows ↔ x ∈ others) : rows.Perm others :=
  (List.perm_ext_iff_of_nodup (List.Nodup.of_map key hr) (List.Nodup.of_map key ho)).mpr h

/-! ## Runs of steps that may be refused -/

theorem foldlM_keeps {σ ι : Type*} {step : σ → ι → Option σ} {P : σ → Prop}
    (keeps : ∀ s i s', P s → step s i = some s' → P s') {schedule : List ι} {s s' : σ} (start : P s)
    (run : schedule.foldlM step s = some s') : P s' := by
  induction schedule generalizing s with
  | nil =>
      cases run
      exact start
  | cons i schedule ih =>
      rw [List.foldlM_cons, Option.bind_eq_bind, Option.bind_eq_some_iff] at run
      obtain ⟨between, taken, rest⟩ := run
      exact ih (keeps s i between start taken) rest

end Corebank.Library.Keyed
