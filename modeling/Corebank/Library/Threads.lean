import Mathlib.Algebra.BigOperators.Group.Finset.Basic
import Mathlib.Data.Fintype.Basic
import Mathlib.Logic.Function.Basic

/-!
# Threads over a state they share

Each thread stands at a point of its own, and one thread at a time makes a step on the shared
state. `ε` is what a step may depend on from outside.
-/

namespace Corebank.Library.Threads

structure Configuration (ι σ τ : Type) where
  shared : σ
  point : ι → τ

abbrev System (ε ι σ τ : Type) := ε → ι → σ → τ → Option (σ × τ)

variable {ε ι σ τ : Type} [DecidableEq ι]

def Configuration.move (c : Configuration ι σ τ) (i : ι) (next : σ × τ) : Configuration ι σ τ :=
  ⟨next.1, Function.update c.point i next.2⟩

section
variable (step : System ε ι σ τ)

inductive Execution (init : Configuration ι σ τ) : Configuration ι σ τ → Prop where
  | start : Execution init init
  | move {c : Configuration ι σ τ} (e : ε) (i : ι) {next : σ × τ} (past : Execution init c)
      (moved : step e i c.shared (c.point i) = some next) : Execution init (c.move i next)

def follow (schedule : List (ι × ε)) (c : Configuration ι σ τ) : Option (Configuration ι σ τ) :=
  schedule.foldlM (fun c turn => (step turn.2 turn.1 c.shared (c.point turn.1)).map (c.move turn.1)) c

end

variable {step : System ε ι σ τ} {init c : Configuration ι σ τ}

theorem Execution.follow {schedule : List (ι × ε)} {c' : Configuration ι σ τ}
    (past : Execution step init c) (followed : follow step schedule c = some c') : Execution step init c' := by
  induction schedule generalizing c with
  | nil =>
      cases followed
      exact past
  | cons turn schedule ih =>
      rw [Threads.follow, List.foldlM_cons, Option.bind_eq_bind, Option.bind_eq_some_iff] at followed
      obtain ⟨c₁, first, rest⟩ := followed
      obtain ⟨next, moved, rfl⟩ := Option.map_eq_some_iff.mp first
      exact ih (past.move turn.2 turn.1 moved) rest

/-! ## Assertions -/

/-- What a thread knows of the shared state where it stands: its own steps lead to it, and no step
of another thread spoils it. -/
structure Outline (step : System ε ι σ τ) (init : Configuration ι σ τ) (known : ι → σ → τ → Prop) :
    Prop where
  start : ∀ i, known i init.shared (init.point i)
  own : ∀ {c e i next}, Execution step init c → known i c.shared (c.point i) →
    step e i c.shared (c.point i) = some next → known i next.1 next.2
  stable : ∀ {c e i j next}, Execution step init c → j ≠ i → known i c.shared (c.point i) →
    known j c.shared (c.point j) → step e i c.shared (c.point i) = some next →
    known j next.1 (c.point j)

theorem Outline.holds {known : ι → σ → τ → Prop} (outline : Outline step init known)
    (run : Execution step init c) (i : ι) : known i c.shared (c.point i) := by
  induction run generalizing i with
  | start => exact outline.start i
  | @move c e k next past moved ih =>
      simp only [Configuration.move]
      by_cases same : i = k
      · subst same
        rw [Function.update_self]
        exact outline.own past (ih i) moved
      · rw [Function.update_of_ne same]
        exact outline.stable past same (ih k) (ih i) moved

/-! ## Locks -/

/-- A lock one thread holds at most, at the points that are `critical`. -/
structure Mutex (step : System ε ι σ τ) (holder : σ → Option ι) (critical : τ → Prop) : Prop where
  own : ∀ {e i s t next}, (critical t ↔ holder s = some i) → step e i s t = some next →
    (critical next.2 ↔ holder next.1 = some i)
  others : ∀ {e i j s t next}, j ≠ i → (critical t ↔ holder s = some i) →
    step e i s t = some next → (holder next.1 = some j ↔ holder s = some j)

variable {holder : σ → Option ι} {critical : τ → Prop}

theorem Mutex.outline (mutex : Mutex step holder critical)
    (start : ∀ i, critical (init.point i) ↔ holder init.shared = some i) :
    Outline step init fun i s t => critical t ↔ holder s = some i where
  start := start
  own _ mine moved := mutex.own mine moved
  stable _ ne mine others moved := others.trans (mutex.others ne mine moved).symm

theorem Mutex.exclusive (mutex : Mutex step holder critical)
    (start : ∀ i, critical (init.point i) ↔ holder init.shared = some i) (run : Execution step init c)
    {i j : ι} (hi : critical (c.point i)) (hj : critical (c.point j)) : i = j := by
  have outline := mutex.outline start
  have holds_i := (outline.holds run i).mp hi
  have holds_j := (outline.holds run j).mp hj
  exact Option.some.inj (holds_i.symm.trans holds_j)

/-- A lock over what its holder may have changed for the moment: `free` holds of it while nobody has
the lock, and `held` of it and of the holder while somebody has it. -/
structure Monitor (step : System ε ι σ τ) (holder : σ → Option ι) (critical : τ → Prop)
    (free : σ → Prop) (held : σ → τ → Prop) : Prop where
  mutex : Mutex step holder critical
  outside : ∀ {e i s t next}, ¬ critical t → step e i s t = some next →
    (∀ u, held s u → held next.1 u) ∧ (free s → free next.1)
  enter : ∀ {e i s t next}, ¬ critical t → critical next.2 → step e i s t = some next → free s →
    held next.1 next.2
  inside : ∀ {e i s t next}, critical t → critical next.2 → step e i s t = some next → held s t →
    held next.1 next.2
  leave : ∀ {e i s t next}, critical t → ¬ critical next.2 → step e i s t = some next → held s t →
    free next.1

variable {free : σ → Prop} {held : σ → τ → Prop}

theorem Monitor.holds (monitor : Monitor step holder critical free held)
    (start : ∀ i, critical (init.point i) ↔ holder init.shared = some i)
    (ready : holder init.shared = none ∧ free init.shared) (run : Execution step init c) :
    (holder c.shared = none → free c.shared) ∧
      ∀ i, critical (c.point i) → held c.shared (c.point i) := by
  have locked {c : Configuration ι σ τ} (run : Execution step init c) (i : ι) :=
    (monitor.mutex.outline start).holds run i
  induction run with
  | start =>
      refine ⟨fun _ => ready.2, fun i inside => ?_⟩
      rw [start i, ready.1] at inside
      cases inside
  | @move c e k next past moved ih =>
      have before := locked past k
      have after := monitor.mutex.own before moved
      have others {j : ι} (ne : j ≠ k) := monitor.mutex.others ne before moved
      by_cases was : critical (c.point k)
      · refine ⟨fun unheld => ?_, fun i inside => ?_⟩
        · have now : ¬ critical next.2 := by
            rw [after]
            exact fun held => Option.some_ne_none k (held.symm.trans unheld)
          exact monitor.leave was now moved (ih.2 k was)
        · by_cases same : i = k
          · subst same
            simp only [Configuration.move, Function.update_self] at inside ⊢
            exact monitor.inside was inside moved (ih.2 i was)
          · simp only [Configuration.move, Function.update_of_ne same] at inside
            exact absurd (monitor.mutex.exclusive start past inside was) same
      · obtain ⟨kept, freed⟩ := monitor.outside was moved
        -- nobody else comes to the lock or leaves it
        have free_before (noOther : ∀ j, j ≠ k → holder next.1 ≠ some j) : holder c.shared = none := by
          refine Option.eq_none_iff_forall_ne_some.mpr fun j held => ?_
          by_cases same : j = k
          · exact was (before.mpr (same ▸ held))
          · exact noOther j same ((others same).mpr held)
        refine ⟨fun unheld => ?_, fun i inside => ?_⟩
        · exact freed (ih.1 (free_before fun j _ held =>
            Option.some_ne_none j (held.symm.trans unheld)))
        by_cases same : i = k
        · subst same
          simp only [Configuration.move, Function.update_self] at inside ⊢
          refine monitor.enter was inside moved (ih.1 (free_before fun j ne => ?_))
          rw [after.mp inside]
          exact fun eq => ne (Option.some.inj eq).symm
        · simp only [Configuration.move, Function.update_of_ne same] at inside ⊢
          exact kept _ (ih.2 i inside)

/-! ## Sums -/

/-- What the threads have between them and the shared state together, after a step that only
passes some of it on. -/
theorem total_move [Fintype ι] {M : Type} [AddCommMonoid M] (stored : σ → M) (carried : τ → M)
    {i : ι} {next : σ × τ}
    (passed : stored next.1 + carried next.2 = stored c.shared + carried (c.point i)) :
    stored (c.move i next).shared + ∑ j, carried ((c.move i next).point j) =
      stored c.shared + ∑ j, carried (c.point j) := by
  rw [← Finset.add_sum_erase _ _ (Finset.mem_univ i), ← Finset.add_sum_erase _ _ (Finset.mem_univ i)]
  have rest : ∑ j ∈ Finset.univ.erase i, carried ((c.move i next).point j) =
      ∑ j ∈ Finset.univ.erase i, carried (c.point j) := by
    refine Finset.sum_congr rfl fun j mem => ?_
    simp only [Configuration.move, Function.update_of_ne (Finset.ne_of_mem_erase mem)]
  rw [rest, ← add_assoc, ← add_assoc]
  simp only [Configuration.move, Function.update_self]
  rw [passed]

end Corebank.Library.Threads
