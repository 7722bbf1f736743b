import Corebank.Library.Keyed
import Mathlib.Data.Fintype.Basic
import Mathlib.Logic.Function.Basic

/-!
# Sessions with snapshots

A table of rows with a key, shared by sessions that each run one program. A SELECT reads the rows
that were committed when the session first read, with the session's own changes. INSERT, UPDATE and
DELETE look at the row as last committed, and keep it locked until the session ends.
-/

namespace Corebank.Library.Snapshot
open Keyed

/-- `A` is what an INSERT is given and `Δ` what an UPDATE is given. -/
structure Schema (K V A Δ E : Type) where
  key : V → K
  newKey : A → K
  /-- Told whether the key is taken. -/
  insert : A → Bool → Except E V
  /-- `none` leaves the row as it is. -/
  update : Δ → V → Except E (Option V)
  key_insert : ∀ {a taken v}, insert a taken = .ok v → key v = newKey a
  key_update : ∀ {d v v'}, update d v = .ok (some v') → key v' = key v

inductive Stmt (K A Δ : Type) where
  | insert (row : A)
  | update (k : K) (change : Δ)
  | delete (k : K)

inductive Prog (K V A Δ E R : Type) where
  | done (r : R)
  | raise (e : E)
  | select (next : List V → Prog K V A Δ E R)
  /-- `next` is told how many rows changed. -/
  | execute (s : Stmt K A Δ) (next : Nat → Prog K V A Δ E R)

inductive Write (K V : Type) where
  | put (v : V)
  | drop (k : K)

variable {K V A Δ E R ι : Type} [DecidableEq K]

/-! ## Rows and versions -/

def Write.row : Write K V → Option V
  | .put v => some v
  | .drop _ => none

section
variable (S : Schema K V A Δ E)

def Write.key : Write K V → K
  | .put v => S.key v
  | .drop k => k

def Write.apply : Write K V → List V → List V
  | .put v, rows =>
      if (lookup S.key (S.key v) rows).isSome then replace S.key v rows else rows ++ [v]
  | .drop k, rows => remove S.key k rows

def applied (writes : List (Write K V)) (rows : List V) : List V :=
  writes.foldl (fun rows w => w.apply S rows) rows

def Stmt.key : Stmt K A Δ → K
  | .insert row => S.newKey row
  | .update k _ | .delete k => k

def Stmt.exec : Stmt K A Δ → Option V → Except E (Option (Write K V))
  | .insert row, current => (S.insert row current.isSome).map fun v => some (.put v)
  | .update _ _, none | .delete _, none => .ok none
  | .update _ change, some v => (S.update change v).map fun v' => v'.map .put
  | .delete k, some _ => .ok (some (.drop k))

def Prog.run : Prog K V A Δ E R → List V → Except E (R × List V)
  | .done r, rows => .ok (r, rows)
  | .raise e, _ => .error e
  | .select next, rows => (next rows).run rows
  | .execute s next, rows =>
      match s.exec S (lookup S.key (s.key S) rows) with
      | .error e => .error e
      | .ok none => (next 0).run rows
      | .ok (some w) => (next 1).run (w.apply S rows)

end

theorem lookup_apply {S : Schema K V A Δ E} (w : Write K V) (rows : List V) (k : K) :
    lookup S.key k (w.apply S rows) = if k = w.key S then w.row else lookup S.key k rows := by
  cases w with
  | put v =>
      rw [Write.apply, Write.key, Write.row]
      split
      · rename_i present
        split
        · rename_i same
          subst same
          exact lookup_replace_self present
        · rename_i other
          exact lookup_replace_of_ne other
      · rename_i absent
        rw [lookup_append]
        split
        · rename_i same
          subst same
          rw [Option.not_isSome_iff_eq_none.mp absent]
          simp [lookup]
        · rename_i other
          simp [lookup, Ne.symm other]
  | drop j =>
      rw [Write.apply, Write.key, Write.row]
      split
      · rename_i same
        subst same
        rw [lookup_eq_none]
        intro v mem
        exact (mem_remove.mp mem).2
      · rename_i other
        exact lookup_remove_of_ne other

theorem mem_apply {S : Schema K V A Δ E} {w : Write K V} {rows : List V} {v : V}
    (mem : v ∈ w.apply S rows) : v ∈ rows ∨ w = .put v := by
  cases w with
  | put x =>
      rw [Write.apply] at mem
      split at mem
      · rcases mem_replace mem with rfl | ⟨mem, -⟩
        · exact Or.inr rfl
        · exact Or.inl mem
      · rcases List.mem_append.mp mem with mem | mem
        · exact Or.inl mem
        · obtain rfl := List.mem_singleton.mp mem
          exact Or.inr rfl
  | drop k => exact Or.inl (mem_remove.mp mem).1

section
variable {S : Schema K V A Δ E} (writes : List (Write K V))

theorem mem_applied {rows : List V} {v : V} (mem : v ∈ applied S writes rows) :
    v ∈ rows ∨ .put v ∈ writes := by
  induction writes generalizing rows with
  | nil => exact Or.inl mem
  | cons w writes ih =>
      rcases ih mem with mem | mem
      · rcases mem_apply mem with mem | rfl
        · exact Or.inl mem
        · exact Or.inr List.mem_cons_self
      · exact Or.inr (List.mem_cons_of_mem w mem)

theorem lookup_applied_other {k : K} (others : ∀ w ∈ writes, w.key S ≠ k) (rows : List V) :
    lookup S.key k (applied S writes rows) = lookup S.key k rows := by
  induction writes generalizing rows with
  | nil => rfl
  | cons w writes ih =>
      obtain ⟨first, others⟩ := List.forall_mem_cons.mp others
      have rest := ih others (w.apply S rows)
      rw [lookup_apply, if_neg first.symm] at rest
      exact rest

theorem lookup_applied_congr {k : K} {rows rows' : List V}
    (same : lookup S.key k rows' = lookup S.key k rows) :
    lookup S.key k (applied S writes rows') = lookup S.key k (applied S writes rows) := by
  induction writes generalizing rows rows' with
  | nil => exact same
  | cons w writes ih =>
      refine ih ?_
      rw [lookup_apply, lookup_apply, same]

theorem applied_concat (w : Write K V) (rows : List V) :
    applied S (writes ++ [w]) rows = w.apply S (applied S writes rows) := by
  simp [applied]

end

section
variable {S : Schema K V A Δ E} {current : Option V} {w : Write K V}

omit [DecidableEq K] in
theorem Stmt.exec_insert {row : A} (h : (Stmt.insert row).exec S current = .ok (some w)) :
    ∃ v, w = .put v ∧ S.insert row current.isSome = .ok v := by
  rw [Stmt.exec] at h
  cases made : S.insert row current.isSome with
  | error e =>
      rw [made] at h
      cases h
  | ok v =>
      rw [made] at h
      cases h
      exact ⟨v, rfl, rfl⟩

omit [DecidableEq K] in
theorem Stmt.exec_update {k : K} {change : Δ}
    (h : (Stmt.update k change).exec S current = .ok (some w)) :
    ∃ v v', w = .put v' ∧ current = some v ∧ S.update change v = .ok (some v') := by
  cases current with
  | none => cases h
  | some v =>
      rw [Stmt.exec] at h
      rcases made : S.update change v with e | v'
      · rw [made] at h
        cases h
      · rw [made] at h
        cases v' with
        | none => cases h
        | some v' =>
            cases h
            exact ⟨v, v', rfl, rfl, made⟩

omit [DecidableEq K] in
theorem Stmt.exec_key {s : Stmt K A Δ} (keyed : ∀ v, current = some v → S.key v = s.key S)
    (h : s.exec S current = .ok (some w)) : w.key S = s.key S := by
  cases s with
  | insert row =>
      obtain ⟨v, rfl, made⟩ := exec_insert h
      exact S.key_insert made
  | update k change =>
      obtain ⟨v, v', rfl, found, made⟩ := exec_update h
      exact (S.key_update made).trans (keyed v found)
  | delete k =>
      cases current with
      | none => cases h
      | some v =>
          cases h
          rfl

end

/-! ## Sessions -/

structure Work (K V A Δ E R : Type) where
  snapshot : Option (List V)
  writes : List (Write K V)
  locks : List K
  rest : Prog K V A Δ E R

inductive Phase (K V A Δ E R : Type) where
  | idle
  | running (work : Work K V A Δ E R)
  /-- With the rows committed just before and just after the end. -/
  | finished (result : Except E R) (before after : List V)

namespace Phase

def locks : Phase K V A Δ E R → List K
  | .running work => work.locks
  | _ => []

def writes : Phase K V A Δ E R → List (Write K V)
  | .running work => work.writes
  | _ => []

end Phase

structure Machine (ι K V A Δ E R : Type) where
  committed : List V
  phases : ι → Phase K V A Δ E R

def start (rows : List V) : Machine ι K V A Δ E R := ⟨rows, fun _ => .idle⟩

section
variable (S : Schema K V A Δ E)

/-- A statement on the row as the session may change it, once it has the lock. -/
def Work.execute (committed : List V) (snapshot : Option (List V)) (writes : List (Write K V))
    (locks : List K) (s : Stmt K A Δ) (next : Nat → Prog K V A Δ E R) : Work K V A Δ E R :=
  let current := lookup S.key (s.key S) (applied S writes committed)
  let held := if current.isSome then s.key S :: locks else locks
  match s.exec S current with
  | .error e => ⟨snapshot, writes, held, .raise e⟩
  | .ok none => ⟨snapshot, writes, held, next 0⟩
  | .ok (some w) => ⟨snapshot, writes ++ [w], s.key S :: locks, next 1⟩

namespace Machine
variable [DecidableEq ι]

def goto (m : Machine ι K V A Δ E R) (i : ι) (phase : Phase K V A Δ E R) :
    Machine ι K V A Δ E R :=
  { m with phases := Function.update m.phases i phase }

def finish (m : Machine ι K V A Δ E R) (i : ι) (result : Except E R) (after : List V) :
    Machine ι K V A Δ E R :=
  ⟨after, Function.update m.phases i (.finished result m.committed after)⟩

def begin (m : Machine ι K V A Δ E R) (i : ι) (body : Prog K V A Δ E R) :
    Option (Machine ι K V A Δ E R) :=
  match m.phases i with
  | .idle => some (m.goto i (.running ⟨none, [], [], body⟩))
  | _ => none

def fault (m : Machine ι K V A Δ E R) (i : ι) (e : E) : Option (Machine ι K V A Δ E R) :=
  match m.phases i with
  | .running _ => some (m.finish i (.error e) m.committed)
  | _ => none

variable [Fintype ι]

def available (m : Machine ι K V A Δ E R) (i : ι) (k : K) : Bool :=
  decide (∀ j, j ≠ i → k ∉ (m.phases j).locks)

def step (m : Machine ι K V A Δ E R) (i : ι) : Option (Machine ι K V A Δ E R) :=
  match m.phases i with
  | .running ⟨_, writes, _, .done r⟩ =>
      some (m.finish i (.ok r) (applied S writes m.committed))
  | .running ⟨_, _, _, .raise e⟩ => some (m.finish i (.error e) m.committed)
  | .running ⟨snapshot, writes, locks, .select next⟩ =>
      let read := snapshot.getD m.committed
      some (m.goto i (.running ⟨some read, writes, locks, next (applied S writes read)⟩))
  | .running ⟨snapshot, writes, locks, .execute s next⟩ =>
      if m.available i (s.key S) then
        some (m.goto i (.running (Work.execute S m.committed snapshot writes locks s next)))
      else none
  | _ => none

/-- The next step of session `i`, which begins with `bodies i`. -/
def next (bodies : ι → Prog K V A Δ E R) (m : Machine ι K V A Δ E R) (i : ι) :
    Option (Machine ι K V A Δ E R) :=
  match m.phases i with
  | .idle => m.begin i (bodies i)
  | _ => m.step S i

/-- The sessions of `schedule` take one step each, as long as every step is `allowed`. -/
def follow (bodies : ι → Prog K V A Δ E R) (allowed : Machine ι K V A Δ E R → ι → Bool)
    (schedule : List ι) (m : Machine ι K V A Δ E R) : Option (Machine ι K V A Δ E R) :=
  schedule.foldlM (fun m i => if allowed m i then m.next S bodies i else none) m

end Machine

/-! ## Steps -/

/-- What a step or a fault of session `i` does. -/
inductive Move [DecidableEq ι] (m : Machine ι K V A Δ E R) (i : ι) :
    Machine ι K V A Δ E R → Prop where
  | commit {snapshot writes locks r}
      (phase : m.phases i = .running ⟨snapshot, writes, locks, .done r⟩) :
      Move m i (m.finish i (.ok r) (applied S writes m.committed))
  | rollback {work e} (phase : m.phases i = .running work) :
      Move m i (m.finish i (.error e) m.committed)
  | read {snapshot writes locks next}
      (phase : m.phases i = .running ⟨snapshot, writes, locks, .select next⟩) :
      Move m i (m.goto i (.running ⟨some (snapshot.getD m.committed), writes, locks,
        next (applied S writes (snapshot.getD m.committed))⟩))
  | execute {snapshot writes locks s next}
      (phase : m.phases i = .running ⟨snapshot, writes, locks, .execute s next⟩)
      (free : ∀ j, j ≠ i → s.key S ∉ (m.phases j).locks) :
      Move m i (m.goto i (.running (Work.execute S m.committed snapshot writes locks s next)))

end

section
variable {S : Schema K V A Δ E} [DecidableEq ι] {m m' : Machine ι K V A Δ E R} {i : ι}

omit [DecidableEq K] in
theorem begin_cases {body : Prog K V A Δ E R} (h : m.begin i body = some m') :
    m.phases i = .idle ∧ m' = m.goto i (.running ⟨none, [], [], body⟩) := by
  unfold Machine.begin at h
  split at h
  · cases h
    exact ⟨‹_›, rfl⟩
  · cases h

theorem step_moves [Fintype ι] (h : m.step S i = some m') : Move S m i m' := by
  unfold Machine.step at h
  split at h
  · cases h
    exact .commit ‹_›
  · cases h
    exact .rollback ‹_›
  · cases h
    exact .read ‹_›
  · split at h
    · rename_i phase free
      cases h
      exact .execute phase (of_decide_eq_true free)
    · cases h
  · cases h

omit [DecidableEq K] in
theorem fault_cases {e : E} (h : m.fault i e = some m') :
    (∃ work, m.phases i = .running work) ∧ m' = m.finish i (.error e) m.committed := by
  unfold Machine.fault at h
  split at h
  · cases h
    exact ⟨⟨_, ‹_›⟩, rfl⟩
  · cases h

theorem fault_moves {e : E} (h : m.fault i e = some m') : Move S m i m' := by
  obtain ⟨⟨work, phase⟩, rfl⟩ := fault_cases h
  exact .rollback phase

theorem Move.other (move : Move S m i m') {j : ι} (ne : j ≠ i) : m'.phases j = m.phases j := by
  cases move <;> exact Function.update_of_ne ne _ _

omit [DecidableEq K] in
@[simp] theorem phases_goto (phase : Phase K V A Δ E R) : (m.goto i phase).phases i = phase :=
  Function.update_self ..

omit [DecidableEq K] in
theorem phases_goto_other (phase : Phase K V A Δ E R) {j : ι} (ne : j ≠ i) :
    (m.goto i phase).phases j = m.phases j :=
  Function.update_of_ne ne ..

omit [DecidableEq K] in
@[simp] theorem phases_finish (result : Except E R) (after : List V) :
    (m.finish i result after).phases i = .finished result m.committed after :=
  Function.update_self ..

end

end Corebank.Library.Snapshot
