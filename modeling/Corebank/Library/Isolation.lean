import Corebank.Library.Snapshot
import Mathlib.Logic.Relation

/-!
# What holds in every run of sessions with snapshots

No two sessions hold one row, so a row that a session holds is not committed anew. Statements that
keep a property of rows keep it of all versions. A session on its own does what its program means.
-/

namespace Corebank.Library.Snapshot
open Keyed

variable {K V A Δ E R ι : Type} [DecidableEq K]

section
variable {S : Schema K V A Δ E} [DecidableEq ι] {m m' : Machine ι K V A Δ E R} {i : ι}

/-! ## Locks -/

section
variable {committed : List V} {snapshot : Option (List V)} {writes : List (Write K V)}
  {locks : List K} {s : Stmt K A Δ} {next : Nat → Prog K V A Δ E R}

theorem locks_execute {k : K}
    (mem : k ∈ (Work.execute S committed snapshot writes locks s next).locks) :
    k ∈ locks ∨ k = s.key S := by
  have held (b : Bool) (mem : k ∈ if b then s.key S :: locks else locks) : k ∈ locks ∨ k = s.key S := by
    split at mem
    · exact (List.mem_cons.mp mem).symm
    · exact Or.inl mem
  unfold Work.execute at mem
  dsimp only at mem
  split at mem
  · exact held _ mem
  · exact held _ mem
  · exact (List.mem_cons.mp mem).symm

theorem execute_locks {k : K} (mem : k ∈ locks) :
    k ∈ (Work.execute S committed snapshot writes locks s next).locks := by
  have held (b : Bool) : k ∈ if b then s.key S :: locks else locks := by
    split
    · exact List.mem_cons_of_mem _ mem
    · exact mem
  unfold Work.execute
  dsimp only
  split
  · exact held _
  · exact held _
  · exact List.mem_cons_of_mem _ mem

theorem writes_execute {w : Write K V}
    (mem : w ∈ (Work.execute S committed snapshot writes locks s next).writes) :
    w ∈ writes ∨ s.exec S (lookup S.key (s.key S) (applied S writes committed)) = .ok (some w) ∧
      w.key S = s.key S ∧
      s.key S ∈ (Work.execute S committed snapshot writes locks s next).locks := by
  unfold Work.execute at mem ⊢
  dsimp only at mem ⊢
  split at mem
  · exact Or.inl mem
  · exact Or.inl mem
  · rename_i made
    rcases List.mem_append.mp mem with mem | mem
    · exact Or.inl mem
    · obtain rfl := List.mem_singleton.mp mem
      rw [made]
      exact Or.inr ⟨rfl, Stmt.exec_key (fun _ found => lookup_key found) made, List.mem_cons_self⟩

end

/-- No two sessions hold a lock on one row, and each has locked what it has changed. -/
structure Exclusive (S : Schema K V A Δ E) (m : Machine ι K V A Δ E R) : Prop where
  apart : ∀ {i j k}, i ≠ j → k ∈ (m.phases i).locks → k ∉ (m.phases j).locks
  held : ∀ {i}, ∀ w ∈ (m.phases i).writes, w.key S ∈ (m.phases i).locks

omit [DecidableEq ι] [DecidableEq K] in
theorem exclusive_start (rows : List V) :
    Exclusive S (start rows : Machine ι K V A Δ E R) :=
  ⟨fun _ => nofun, fun _ => nofun⟩

omit [DecidableEq K] in
/-- A session may change what it holds: it stays alone with it as long as it takes nothing that
another has. -/
theorem Exclusive.replaced (exclusive : Exclusive S m) (others : ∀ j, j ≠ i → m'.phases j = m.phases j)
    (taken : ∀ k ∈ (m'.phases i).locks, k ∈ (m.phases i).locks ∨
      ∀ j, j ≠ i → k ∉ (m.phases j).locks)
    (held : ∀ w ∈ (m'.phases i).writes, w.key S ∈ (m'.phases i).locks) : Exclusive S m' := by
  have free {j k} (ne : j ≠ i) (mem : k ∈ (m'.phases i).locks) : k ∉ (m.phases j).locks := by
    rcases taken k mem with mine | free
    · exact exclusive.apart ne.symm mine
    · exact free j ne
  constructor
  · intro j j' k ne mem mem'
    by_cases first : j = i
    · subst first
      rw [others j' ne.symm] at mem'
      exact free ne.symm mem mem'
    · by_cases second : j' = i
      · subst second
        rw [others j first] at mem
        exact free first mem' mem
      · rw [others j first] at mem
        rw [others j' second] at mem'
        exact exclusive.apart ne mem mem'
  · intro j w mem
    by_cases mine : j = i
    · subst mine
      exact held w mem
    · rw [others j mine] at mem ⊢
      exact exclusive.held w mem

omit [DecidableEq K] in
theorem Exclusive.begin (exclusive : Exclusive S m) {body : Prog K V A Δ E R}
    (h : m.begin i body = some m') : Exclusive S m' := by
  obtain ⟨-, rfl⟩ := begin_cases h
  refine exclusive.replaced (fun j ne => phases_goto_other _ ne) ?_ ?_
  all_goals
    intro x mem
    rw [phases_goto] at mem
    cases mem

theorem Exclusive.move (exclusive : Exclusive S m) (move : Move S m i m') : Exclusive S m' := by
  refine exclusive.replaced (fun j ne => move.other ne) ?_ ?_
  · intro k mem
    cases move with
    | commit | rollback =>
        rw [phases_finish] at mem
        cases mem
    | read phase =>
        rw [phases_goto] at mem
        rw [phase]
        exact Or.inl mem
    | execute phase free =>
        rw [phases_goto] at mem
        rw [phase]
        rcases locks_execute mem with mem | rfl
        · exact Or.inl mem
        · exact Or.inr free
  · intro w mem
    cases move with
    | commit | rollback =>
        rw [phases_finish] at mem
        cases mem
    | read phase =>
        have held := exclusive.held (i := i) w
        rw [phase] at held
        rw [phases_goto] at mem ⊢
        exact held mem
    | execute phase free =>
        have held := exclusive.held (i := i) w
        rw [phase] at held
        rw [phases_goto] at mem ⊢
        rcases writes_execute mem with mem | ⟨-, same, locked⟩
        · exact execute_locks (held mem)
        · rw [same]
          exact locked

theorem Exclusive.stays (exclusive : Exclusive S m) (move : Move S m i m') {j : ι} (ne : j ≠ i)
    {k : K} (locked : k ∈ (m.phases j).locks) :
    lookup S.key k m'.committed = lookup S.key k m.committed := by
  cases move with
  | @commit snapshot writes locks r phase =>
      have others : ∀ w ∈ writes, w.key S ≠ k := by
        intro w mem same
        have held := exclusive.held (i := i) w
        rw [phase] at held
        have mine : k ∈ (m.phases i).locks := by
          rw [phase, ← same]
          exact held mem
        exact exclusive.apart ne locked mine
      exact lookup_applied_other writes others m.committed
  | rollback | read | execute => rfl

/-! ## Rows that keep a property -/

/-- Every statement a program may come to is one of `Q`, every answer one of `A`. -/
def Prog.Within (Q : Stmt K A Δ → Prop) (answers : R → Prop) : Prog K V A Δ E R → Prop
  | .done r => answers r
  | .raise _ => True
  | .select next => ∀ rows, (next rows).Within Q answers
  | .execute s next => Q s ∧ ∀ n, (next n).Within Q answers

section
variable {P : V → Prop} {Q : ι → Stmt K A Δ → Prop} {answers : ι → R → Prop}

/-- All versions of rows are in `P`. -/
structure Rows (P : V → Prop) (Q : ι → Stmt K A Δ → Prop) (answers : ι → R → Prop)
    (m : Machine ι K V A Δ E R) : Prop where
  committed : ∀ v ∈ m.committed, P v
  writes : ∀ i v, .put v ∈ (m.phases i).writes → P v
  rest : ∀ i work, m.phases i = .running work → work.rest.Within (Q i) (answers i)
  answered : ∀ i r before after, m.phases i = .finished (.ok r) before after → answers i r

omit [DecidableEq K] [DecidableEq ι] in
theorem rows_start {rows : List V} (initial : ∀ v ∈ rows, P v) :
    Rows P Q answers (start rows : Machine ι K V A Δ E R) :=
  ⟨initial, fun _ _ => nofun, fun _ _ => nofun, fun _ _ _ _ => nofun⟩

omit [DecidableEq K] in
theorem Rows.goto (rows : Rows P Q answers m) {work : Work K V A Δ E R}
    (writes : ∀ v, .put v ∈ work.writes → P v) (rest : work.rest.Within (Q i) (answers i)) :
    Rows P Q answers (m.goto i (.running work)) := by
  refine ⟨rows.committed, ?_, ?_, ?_⟩
  · intro j v mem
    by_cases mine : j = i
    · subst mine
      rw [phases_goto] at mem
      exact writes v mem
    · rw [phases_goto_other _ mine] at mem
      exact rows.writes j v mem
  · intro j work' phase
    by_cases mine : j = i
    · subst mine
      rw [phases_goto] at phase
      cases phase
      exact rest
    · rw [phases_goto_other _ mine] at phase
      exact rows.rest j work' phase
  · intro j r before after phase
    by_cases mine : j = i
    · subst mine
      rw [phases_goto] at phase
      cases phase
    · rw [phases_goto_other _ mine] at phase
      exact rows.answered j r before after phase

omit [DecidableEq K] in
theorem Rows.finish (rows : Rows P Q answers m) {result : Except E R} {after : List V}
    (committed : ∀ v ∈ after, P v) (answered : ∀ r, result = .ok r → answers i r) :
    Rows P Q answers (m.finish i result after) := by
  have others {j} (ne : j ≠ i) : (m.finish i result after).phases j = m.phases j :=
    Function.update_of_ne ne ..
  refine ⟨committed, ?_, ?_, ?_⟩
  · intro j v mem
    by_cases mine : j = i
    · subst mine
      rw [phases_finish] at mem
      cases mem
    · rw [others mine] at mem
      exact rows.writes j v mem
  · intro j work' phase
    by_cases mine : j = i
    · subst mine
      rw [phases_finish] at phase
      cases phase
    · rw [others mine] at phase
      exact rows.rest j work' phase
  · intro j r before after phase
    by_cases mine : j = i
    · subst mine
      rw [phases_finish] at phase
      cases phase
      exact answered r rfl
    · rw [others mine] at phase
      exact rows.answered j r before after phase

omit [DecidableEq K] in
theorem Rows.begin (rows : Rows P Q answers m) {body : Prog K V A Δ E R}
    (within : body.Within (Q i) (answers i)) (h : m.begin i body = some m') :
    Rows P Q answers m' := by
  obtain ⟨-, rfl⟩ := begin_cases h
  exact rows.goto (fun _ => nofun) within

theorem Rows.move (keeps : ∀ i s current v, Q i s →
      (∀ u, current = some u → P u ∧ S.key u = s.key S) →
      s.exec S current = .ok (some (.put v)) → P v)
    (rows : Rows P Q answers m) (move : Move S m i m') : Rows P Q answers m' := by
  have own {work} (phase : m.phases i = .running work) (v : V) (mem : .put v ∈ work.writes) : P v := by
    refine rows.writes i v ?_
    rw [phase]
    exact mem
  have versions {work} (phase : m.phases i = .running work) (v : V)
      (mem : v ∈ applied S work.writes m.committed) : P v := by
    rcases mem_applied work.writes mem with mem | mem
    · exact rows.committed v mem
    · exact own phase v mem
  cases move with
  | commit phase =>
      refine rows.finish (versions phase) ?_
      intro r same
      cases same
      exact rows.rest i _ phase
  | rollback => exact rows.finish rows.committed fun _ => nofun
  | read phase =>
      have made := own phase
      exact rows.goto made (rows.rest i _ phase _)
  | @execute snapshot writes locks s next phase free =>
      obtain ⟨allowed, within⟩ := rows.rest i _ phase
      refine rows.goto ?_ ?_
      · intro v mem
        rcases writes_execute mem with mem | ⟨made, -, -⟩
        · exact own phase v mem
        · exact keeps i s _ v allowed
            (fun u found => ⟨versions phase u (lookup_mem found), lookup_key found⟩) made
      · unfold Work.execute
        dsimp only
        split
        · trivial
        · exact within 0
        · exact within 1

end

/-! ## A session on its own -/

/-- What a program answers and leaves when nothing runs beside it. -/
def Prog.outcome (S : Schema K V A Δ E) (body : Prog K V A Δ E R) (rows committed : List V) :
    Except E R × List V :=
  match body.run S rows with
  | .ok (r, rows) => (.ok r, rows)
  | .error e => (.error e, committed)

omit [DecidableEq K] in
theorem finish_goto (phase : Phase K V A Δ E R) (result : Except E R) (after : List V) :
    (m.goto i phase).finish i result after = m.finish i result after := by
  simp [Machine.finish, Machine.goto]

omit [DecidableEq K] in
theorem goto_free (free : ∀ j, j ≠ i → (m.phases j).locks = []) (phase : Phase K V A Δ E R) :
    ∀ j, j ≠ i → ((m.goto i phase).phases j).locks = [] := by
  intro j ne
  rw [phases_goto_other phase ne]
  exact free j ne

variable [Fintype ι]

theorem runs_alone (rest : Prog K V A Δ E R) {m : Machine ι K V A Δ E R} {snapshot : Option (List V)}
    {writes : List (Write K V)} {locks : List K} {i : ι}
    (phase : m.phases i = .running ⟨snapshot, writes, locks, rest⟩)
    (free : ∀ j, j ≠ i → (m.phases j).locks = [])
    (current : snapshot.getD m.committed = m.committed) :
    Relation.ReflTransGen (fun m m' => m.step S i = some m') m
      (m.finish i (rest.outcome S (applied S writes m.committed) m.committed).1
        (rest.outcome S (applied S writes m.committed) m.committed).2) := by
  induction rest generalizing m snapshot writes locks with
  | done r =>
      apply Relation.ReflTransGen.single
      simp only [Machine.step, phase, Prog.outcome, Prog.run]
  | raise e =>
      apply Relation.ReflTransGen.single
      simp only [Machine.step, phase, Prog.outcome, Prog.run]
  | select next ih =>
      let after : Phase K V A Δ E R := .running ⟨some m.committed, writes, locks,
        next (applied S writes m.committed)⟩
      have step : m.step S i = some (m.goto i after) := by
        simp only [Machine.step, phase, current, after]
      have rest := ih (applied S writes m.committed) (phases_goto after) (goto_free free after) rfl
      rw [finish_goto] at rest
      exact .head step rest
  | execute s next ih =>
      have available : m.available i (s.key S) = true := by
        refine decide_eq_true fun j ne mem => ?_
        rw [free j ne] at mem
        cases mem
      have step : m.step S i =
          some (m.goto i (.running (Work.execute S m.committed snapshot writes locks s next))) := by
        simp only [Machine.step, phase, available, if_true]
      have continued (n : Nat) (writes : List (Write K V)) (locks : List K) :
          Relation.ReflTransGen (fun m m' => m.step S i = some m')
            (m.goto i (.running ⟨snapshot, writes, locks, next n⟩))
            (m.finish i ((next n).outcome S (applied S writes m.committed) m.committed).1
              ((next n).outcome S (applied S writes m.committed) m.committed).2) := by
        have rest := ih n (phases_goto (.running ⟨snapshot, writes, locks, next n⟩))
          (goto_free free _) current
        rwa [finish_goto] at rest
      refine .head step ?_
      cases made : s.exec S (lookup S.key (s.key S) (applied S writes m.committed)) with
      | error e =>
          have run : (Prog.execute s next).outcome S (applied S writes m.committed) m.committed =
              (.error e, m.committed) := by
            simp only [Prog.outcome, Prog.run, made]
          rw [run, ← finish_goto]
          apply Relation.ReflTransGen.single
          simp only [Machine.step, phases_goto, Work.execute, made]
          rfl
      | ok write =>
          cases write with
          | none =>
              have run : (Prog.execute s next).outcome S (applied S writes m.committed) m.committed =
                  (next 0).outcome S (applied S writes m.committed) m.committed := by
                simp only [Prog.outcome, Prog.run, made]
              rw [run]
              simp only [Work.execute, made]
              exact continued 0 writes _
          | some w =>
              have run : (Prog.execute s next).outcome S (applied S writes m.committed) m.committed =
                  (next 1).outcome S (applied S (writes ++ [w]) m.committed) m.committed := by
                simp only [Prog.outcome, Prog.run, made, applied_concat]
              rw [run]
              simp only [Work.execute, made]
              exact continued 1 (writes ++ [w]) _

end

end Corebank.Library.Snapshot
