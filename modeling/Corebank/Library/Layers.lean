import Mathlib.Data.List.Basic

/-! # States built by laying entries on a base, and taking them off again -/

namespace Corebank.Library.Layers

variable {σ E : Type*} (adds : E → σ → σ → Prop)

/-- A state over `base` with entries laid on it, the last one first. -/
inductive Over (base : σ) : List E → σ → Prop
  | base : Over base [] base
  | layer {e : E} {es : List E} {s s' : σ} (under : Over base es s) (added : adds e s s') :
      Over base (e :: es) s'

variable {adds}

theorem Over.build {add : σ → E → Option σ} {P : σ → Prop}
    (step : ∀ e s s', P s → add s e = some s' → adds e s s' ∧ P s') {base : σ} {es more : List E}
    {s s' : σ} (start : P s) (laid : Over adds base es s) (run : more.foldlM add s = some s') :
    Over adds base (more.reverse ++ es) s' ∧ P s' := by
  induction more generalizing s es with
  | nil =>
      cases run
      exact ⟨laid, start⟩
  | cons e more ih =>
      rw [List.foldlM_cons, Option.bind_eq_bind, Option.bind_eq_some_iff] at run
      obtain ⟨between, first, rest⟩ := run
      obtain ⟨added, kept⟩ := step e s between start first
      rw [List.reverse_cons, List.append_assoc, List.singleton_append]
      exact ih kept (laid.layer added) rest

/-- Entries that can be taken off when they are on top can all be, the last one first. -/
theorem Over.undo {remove : σ → E → Option σ}
    (removes : ∀ e s s', adds e s s' → remove s' e = some s) {base : σ} {es : List E} {s : σ}
    (laid : Over adds base es s) : es.foldlM remove s = some base := by
  induction laid with
  | base => rfl
  | layer under added ih =>
      rw [List.foldlM_cons, removes _ _ _ added]
      exact ih

/-- A change of one entry that the entries above it do not notice leaves the base alone. -/
theorem Over.change {f : σ → σ} {e : E} (top : ∀ s s', adds e s s' → adds e s (f s'))
    (above : ∀ d s s', adds d s s' → adds d (f s) (f s')) {base : σ} {es : List E} {s : σ}
    (laid : Over adds base es s) (mem : e ∈ es) : Over adds base es (f s) := by
  induction laid with
  | base => cases mem
  | layer under added ih =>
      rcases List.mem_cons.mp mem with rfl | mem
      · exact under.layer (top _ _ added)
      · exact (ih mem).layer (above _ _ _ added)

end Corebank.Library.Layers
