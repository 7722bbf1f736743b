import Mathlib.Data.List.Basic

/-! # Scripts of statements that may be run again from the start -/

namespace Corebank.Library.Resume

variable {σ S : Type*} (exec : S → σ → Option σ)

def execAll : List S → σ → Option σ
  | [], c => some c
  | s :: ss, c => (exec s c).bind (execAll ss)

/-- Every statement of the script is a no-op once it has gone through, whatever the others do. -/
structure Repeatable (script : List S) : Prop where
  again : ∀ s ∈ script, ∀ c c', exec s c = some c' → exec s c' = some c'
  stays : ∀ s ∈ script, ∀ s' ∈ script, ∀ c c', exec s c = some c → exec s' c = some c' →
    exec s c' = some c'

/-- A statement is a no-op once it has gone through, and no later one changes that. -/
structure Resumable (script : List S) : Prop where
  again : ∀ s ∈ script, ∀ c c', exec s c = some c' → exec s c' = some c'
  stays : script.Pairwise fun s s' => ∀ c c', exec s c = some c → exec s' c = some c' →
    exec s c' = some c'

/-- The script's first statement fails once it has gone through, whatever the others do. -/
structure Unrepeatable (first : S) (rest : List S) : Prop where
  again : ∀ c c', exec first c = some c' → exec first c' = none
  stays : ∀ s ∈ rest, ∀ c c', exec first c = none → exec s c = some c' → exec first c' = none

variable {exec}

theorem execAll_append (xs ys : List S) (c : σ) :
    execAll exec (xs ++ ys) c = (execAll exec xs c).bind (execAll exec ys) := by
  induction xs generalizing c with
  | nil => rfl
  | cons x xs ih =>
      simp only [List.cons_append, execAll]
      cases exec x c with
      | none => rfl
      | some c' => exact ih c'

theorem execAll_of_settled {xs : List S} {c : σ} (settled : ∀ s ∈ xs, exec s c = some c) :
    execAll exec xs c = some c := by
  induction xs with
  | nil => rfl
  | cons x xs ih =>
      simp only [execAll, settled x List.mem_cons_self, Option.bind_some]
      exact ih fun s mem => settled s (List.mem_cons_of_mem _ mem)

theorem execAll_take_some {xs : List S} {c final : σ} (h : execAll exec xs c = some final)
    (n : Nat) : ∃ c', execAll exec (xs.take n) c = some c' ∧
      execAll exec (xs.drop n) c' = some final := by
  rw [← List.take_append_drop n xs, execAll_append] at h
  exact Option.bind_eq_some_iff.mp h

/-! ## Resumable scripts -/

theorem execAll_stays {s : S} {xs : List S}
    (stays : ∀ x ∈ xs, ∀ c c', exec s c = some c → exec x c = some c' → exec s c' = some c')
    {c c' : σ} (settled : exec s c = some c) (run : execAll exec xs c = some c') :
    exec s c' = some c' := by
  induction xs generalizing c with
  | nil =>
      cases run
      exact settled
  | cons x xs ih =>
      obtain ⟨d, first, rest⟩ := Option.bind_eq_some_iff.mp run
      rw [List.forall_mem_cons] at stays
      exact ih stays.2 (stays.1 c d settled first) rest

theorem Resumable.settled {script : List S} (resumable : Resumable exec script) {c c' : σ}
    (run : execAll exec script c = some c') : ∀ s ∈ script, exec s c' = some c' := by
  induction script generalizing c with
  | nil => simp
  | cons x xs ih =>
      obtain ⟨d, first, rest⟩ := Option.bind_eq_some_iff.mp run
      obtain ⟨later, stays⟩ := List.pairwise_cons.mp resumable.stays
      obtain ⟨once, again⟩ := List.forall_mem_cons.mp resumable.again
      rw [List.forall_mem_cons]
      exact ⟨execAll_stays later (once c d first) rest, ih ⟨again, stays⟩ rest⟩

theorem Resumable.take {script : List S} (resumable : Resumable exec script) (n : Nat) :
    Resumable exec (script.take n) where
  again s mem := resumable.again s (List.mem_of_mem_take mem)
  stays := resumable.stays.sublist (List.take_sublist n script)

theorem Resumable.resume {script : List S} (resumable : Resumable exec script) {j : Nat} {c c' : σ}
    (run : execAll exec (script.take j) c = some c') (n : Nat) :
    execAll exec (script.take n) c' =
      if n ≤ j then some c' else execAll exec (script.take n) c := by
  have settled := (resumable.take j).settled run
  split
  · rename_i le
    refine execAll_of_settled fun s mem => settled s ?_
    rw [← Nat.min_eq_left le, ← List.take_take] at mem
    exact List.mem_of_mem_take mem
  · rename_i gt
    have split := List.take_append_drop j (script.take n)
    rw [List.take_take, Nat.min_eq_left (by omega : j ≤ n)] at split
    rw [← split, execAll_append, execAll_append, run, execAll_of_settled settled]

theorem execAll_total (f : S → σ → σ) (xs : List S) (c : σ) :
    execAll (fun s c => some (f s c)) xs c = some (xs.foldl (fun c s => f s c) c) := by
  induction xs generalizing c with
  | nil => rfl
  | cons x xs ih => exact ih (f x c)

/-- A script of statements that always go through, performed whole after it was stopped. -/
theorem Resumable.complete {f : S → σ → σ} {script : List S}
    (resumable : Resumable (fun s c => some (f s c)) script) (j : Nat) (c : σ) :
    script.foldl (fun c s => f s c) ((script.take j).foldl (fun c s => f s c) c) =
      script.foldl (fun c s => f s c) c := by
  have resumed := resumable.resume (execAll_total f (script.take j) c) (max j script.length + 1)
  rw [if_neg (by omega), List.take_of_length_le (by omega), execAll_total, execAll_total] at resumed
  exact Option.some.inj resumed

theorem Repeatable.resumable {script : List S} (repeatable : Repeatable exec script) :
    Resumable exec script where
  again := repeatable.again
  stays := List.pairwise_of_forall_mem_list repeatable.stays

/-! ## Scripts that cannot be repeated -/

theorem Unrepeatable.blocked {first : S} {rest : List S} (unrepeatable : Unrepeatable exec first rest)
    {xs : List S} (sub : xs ⊆ rest) {c c' : σ} (run : execAll exec (first :: xs) c = some c') :
    exec first c' = none := by
  obtain ⟨d, once, others⟩ := Option.bind_eq_some_iff.mp run
  have blocked := unrepeatable.again c d once
  clear run once
  induction xs generalizing d with
  | nil =>
      cases others
      exact blocked
  | cons x xs ih =>
      obtain ⟨d', step, others⟩ := Option.bind_eq_some_iff.mp others
      exact ih (fun y mem => sub (List.mem_cons_of_mem _ mem)) d' others
        (unrepeatable.stays x (sub List.mem_cons_self) d d' blocked step)

end Corebank.Library.Resume
