import Corebank.Migrations
import Corebank.Library.Resume

/-! # Resuming interrupted migrations -/

namespace Corebank
open Library.Resume

/-! ## Steps -/

def Catalog.prepare (c : Catalog) : Catalog := { c with database := true, versionTable := true }

theorem exec_prepare {s : Step} {c c' : Catalog} (h : s.exec c.prepare = some c') :
    c'.prepare = c' := by
  cases s with
  | createDatabase | createVersionTable | selectApplied =>
      cases h
      rfl
  | statement s =>
      cases s with
      | createTable name references =>
          simp only [Step.exec] at h
          split at h
          · cases h; rfl
          · split at h <;> cases h
            rfl
      | createIndex name table =>
          simp only [Step.exec] at h
          split at h <;> cases h
          rfl
  | record version =>
      simp only [Step.exec] at h
      split at h <;> cases h
      rfl

theorem perform_prepare (steps : List Step) (stop : Option Nat) (c : Catalog) :
    (perform steps stop c.prepare).catalog.prepare = (perform steps stop c.prepare).catalog := by
  induction steps generalizing stop c with
  | nil => rfl
  | cons s rest ih =>
      unfold perform
      split
      · rfl
      · rfl
      · rename_i h _
        cases h
        split
        · rfl
        · rename_i c' exec
          have prepared := exec_prepare exec
          rw [← prepared]
          exact ih _ _

theorem execAll_prepare {steps : List Step} {c c' : Catalog}
    (h : execAll Step.exec steps c.prepare = some c') : c'.prepare = c' := by
  induction steps generalizing c with
  | nil =>
      cases h
      rfl
  | cons s rest ih =>
      obtain ⟨d, first, rest⟩ := Option.bind_eq_some_iff.mp h
      rw [← exec_prepare first] at rest
      exact ih rest

theorem exec_applied {d : Ddl} {c c' : Catalog} (h : (Step.statement d).exec c = some c') :
    c'.applied = c.applied := by
  cases d with
  | createTable name references =>
      simp only [Step.exec] at h
      split at h
      · cases h; rfl
      · split at h <;> cases h
        rfl
  | createIndex name table =>
      simp only [Step.exec] at h
      split at h <;> cases h
      rfl

theorem execAll_applied {ds : List Ddl} {c c' : Catalog}
    (h : execAll Step.exec (ds.map .statement) c = some c') : c'.applied = c.applied := by
  induction ds generalizing c with
  | nil =>
      cases h
      rfl
  | cons d ds ih =>
      obtain ⟨c₁, first, rest⟩ := Option.bind_eq_some_iff.mp h
      rw [ih rest, exec_applied first]

/-! ## Runs -/

theorem perform_append {xs : List Step} {c c' : Catalog} (h : execAll Step.exec xs c = some c')
    (ys : List Step) (stop : Option Nat) (enough : ∀ n ∈ stop, xs.length ≤ n) :
    perform (xs ++ ys) stop c =
      let run := perform ys (stop.map (· - xs.length)) c'
      { run with executed := xs ++ run.executed } := by
  induction xs generalizing c stop with
  | nil =>
      cases h
      cases stop <;> simp
  | cons x xs ih =>
      obtain ⟨c₁, first, rest⟩ := Option.bind_eq_some_iff.mp h
      have ih := ih rest (stop.map (· - 1)) (by
        cases stop with
        | none => simp
        | some n =>
            have := enough n rfl
            simp only [List.length_cons] at this
            simp only [Option.map_some, Option.mem_def, Option.some.injEq, forall_eq']
            omega)
      have stops : (stop.map (· - 1)).map (· - xs.length) = stop.map (· - (x :: xs).length) := by
        cases stop with
        | none => rfl
        | some n => simp; omega
      rw [List.cons_append, perform]
      · simp only [first, ih, stops]
        rfl
      · rintro rfl
        have := enough 0 rfl
        simp at this

theorem perform_stopped {steps : List Step} {n : Nat} {c c' : Catalog} (short : n < steps.length)
    (h : execAll Step.exec (steps.take n) c = some c') :
    (perform steps (some n) c).catalog = c' ∧ (perform steps (some n) c).completed = false := by
  induction steps generalizing n c with
  | nil => simp at short
  | cons s rest ih =>
      cases n with
      | zero =>
          cases h
          exact ⟨rfl, rfl⟩
      | succ n =>
          obtain ⟨c₁, first, tail⟩ := Option.bind_eq_some_iff.mp h
          have ih := ih (by simpa using short) tail
          rw [perform]
          · simpa [first] using ih
          · simp

theorem perform_blocked {s : Step} {c : Catalog} (h : s.exec c = none) (rest : List Step)
    (stop : Option Nat) : perform (s :: rest) stop c = ⟨c, [], false⟩ := by
  rcases stop with _ | _ | n <;> simp [perform, h]

/-- Stopped after `n` statements in all, a run has worked on the pending files for `n - 3`. -/
theorem runMigrations_stopped (files : List Migration) (n : Nat) (c : Catalog) :
    (runMigrations files (some n) c).catalog.prepare =
      (perform ((files.filter fun m => m.version ∉ c.applied).flatMap Migration.steps)
        (some (n - 3)) c.prepare).catalog := by
  have zero (steps : List Step) (c : Catalog) : (perform steps (some 0) c).catalog = c := by
    cases steps <;> rfl
  obtain small | large := Nat.lt_or_ge n 3
  · rw [Nat.sub_eq_zero_of_le (by omega), zero]
    obtain rfl | rfl | rfl : n = 0 ∨ n = 1 ∨ n = 2 := by omega
    all_goals rfl
  · have done : execAll Step.exec preamble c = some c.prepare := rfl
    rw [runMigrations, runSteps, perform_append done _ _ (by simpa [preamble] using large)]
    exact perform_prepare _ _ _

/-! ## Repeatable files -/

def Ddl.repeatable : Ddl → Bool
  | .createTable .. => true
  | .createIndex .. => false

def Migration.repeatable (m : Migration) : Bool := m.statements.all Ddl.repeatable

def Migration.script (m : Migration) : List Step := m.statements.map .statement

theorem repeatable_script {m : Migration} (h : m.repeatable) : Repeatable Step.exec m.script := by
  have table (s : Step) (mem : s ∈ m.script) :
      ∃ name references, s = .statement (.createTable name references) := by
    obtain ⟨d, memD, rfl⟩ := List.mem_map.mp mem
    have isTable := List.all_eq_true.mp h d memD
    cases d with
    | createTable name references => exact ⟨name, references, rfl⟩
    | createIndex name table => cases isTable
  have exists_of_settled {name : String} {references : List String} {c : Catalog}
      (h : (Step.statement (.createTable name references)).exec c = some c) : name ∈ c.tables := by
    by_contra absent
    simp only [Step.exec, absent, if_false] at h
    split at h
    · have := congrArg (fun c => c.tables.length) (Option.some.inj h)
      simp at this
    · cases h
  constructor
  · intro s mem c c' run
    obtain ⟨name, references, rfl⟩ := table s mem
    simp only [Step.exec] at run ⊢
    split at run
    · cases run
      simp [*]
    · split at run <;> cases run
      simp
  · intro s mem s' mem' c c' settled run
    obtain ⟨name, references, rfl⟩ := table s mem
    obtain ⟨name', references', rfl⟩ := table s' mem'
    have present := exists_of_settled settled
    simp only [Step.exec] at run ⊢
    split at run
    · cases run
      simp [present]
    · split at run <;> cases run
      simp [present]

theorem unrepeatable_script {name table : String} {rest : List Ddl}
    (h : ∀ d ∈ rest, d.repeatable = false) :
    Unrepeatable Step.exec (.statement (.createIndex name table)) (rest.map .statement) := by
  constructor
  · intro c c' run
    simp only [Step.exec] at run ⊢
    split at run <;> cases run
    simp
  · intro s mem c c' blocked run
    obtain ⟨d, memD, rfl⟩ := List.mem_map.mp mem
    cases d with
    | createTable name references => cases h _ memD
    | createIndex name' table' =>
        simp only [Step.exec] at run blocked ⊢
        split at run <;> cases run
        split at blocked
        · cases blocked
        · rename_i refused
          simp only [List.mem_append, List.mem_singleton, ite_eq_right_iff, reduceCtorEq, imp_false]
          tauto

/-! ## Where stopped runs leave off -/

/-- The files a run stopped after `n` statements on the pending ones leaves pending, and how many
statements of the first of them it has executed. -/
def leftover : List Migration → Nat → List Migration × Nat
  | [], _ => ([], 0)
  | m :: rest, n =>
      if n ≤ m.statements.length then (m :: rest, n) else leftover rest (n - (m.statements.length + 1))

/-- A catalog with a prefix of the files applied, from which the others lead to `final`. -/
structure Boundary (files : List Migration) (final : Catalog) (pending : List Migration)
    (c : Catalog) : Prop where
  split : ∃ done, files = done ++ pending ∧ c.applied = done.map Migration.version
  finishes : execAll Step.exec (pending.flatMap Migration.steps) c = some final

def Partial : List Migration → Nat → Catalog → Catalog → Prop
  | [], _, c₁, c => c = c₁
  | m :: _, j, c₁, c => execAll Step.exec (m.script.take j) c₁ = some c

/-- Nothing is half done, or what is can be repeated. -/
def Clean (pending : List Migration) (j : Nat) : Prop := j = 0 ∨ ∀ m ∈ pending.head?, m.repeatable

theorem boundary_cons {files : List Migration} {final : Catalog} {m : Migration}
    {rest : List Migration} {c₁ : Catalog} (b : Boundary files final (m :: rest) c₁) :
    ∃ d d', execAll Step.exec m.script c₁ = some d ∧ (Step.record m.version).exec d = some d' ∧
      Boundary files final rest d' := by
  obtain ⟨⟨done, split, applied⟩, finishes⟩ := b
  rw [List.flatMap_cons, Migration.steps, List.append_assoc, execAll_append] at finishes
  obtain ⟨d, script, finishes⟩ := Option.bind_eq_some_iff.mp finishes
  obtain ⟨d', record, finishes⟩ := Option.bind_eq_some_iff.mp finishes
  refine ⟨d, d', script, record, ⟨done ++ [m], by simp [split], ?_⟩, finishes⟩
  have kept : d.applied = c₁.applied := execAll_applied script
  simp only [Step.exec] at record
  split at record <;> cases record
  simp [kept, applied]

theorem partial_resume {m : Migration} {j : Nat} {rest : List Migration} {c₁ c : Catalog}
    (part : Partial (m :: rest) j c₁ c) (clean : Clean (m :: rest) j) (n : Nat) :
    execAll Step.exec (m.script.take n) c =
      if n ≤ j then some c else execAll Step.exec (m.script.take n) c₁ := by
  rcases clean with rfl | repeatable
  · cases part
    split
    · rename_i zero
      rw [Nat.le_zero.mp zero]
      rfl
    · rfl
  · exact (repeatable_script (repeatable m rfl)).resumable.resume part n

theorem partial_finish {m : Migration} {j : Nat}
    {rest : List Migration} {c₁ c d : Catalog} (part : Partial (m :: rest) j c₁ c)
    (clean : Clean (m :: rest) j) (script : execAll Step.exec m.script c₁ = some d) :
    execAll Step.exec m.script c = some d := by
  have resumed := partial_resume part clean (max j m.script.length + 1)
  rw [if_neg (by omega), List.take_of_length_le (by omega), script] at resumed
  exact resumed

theorem perform_pending {files : List Migration} {final : Catalog} {pending : List Migration}
    {j : Nat} {c₁ c : Catalog} (b : Boundary files final pending c₁) (part : Partial pending j c₁ c)
    (clean : Clean pending j) (n : Nat) :
    ∃ c₁' j', Boundary files final (leftover pending n).1 c₁' ∧
      Partial (leftover pending n).1 j' c₁'
        (perform (pending.flatMap Migration.steps) (some n) c).catalog ∧
      (j' = (leftover pending n).2 ∨ ∀ m ∈ (leftover pending n).1.head?, m.repeatable) := by
  induction pending generalizing j c₁ c n with
  | nil => exact ⟨c₁, 0, b, part, Or.inl rfl⟩
  | cons m rest ih =>
      obtain ⟨d, d', script, record, b'⟩ := boundary_cons b
      have length : m.script.length = m.statements.length := List.length_map _
      unfold leftover
      split
      · rename_i short
        have within : n < ((m :: rest).flatMap Migration.steps).length := by
          simp [Migration.steps]
          omega
        have steps : ((m :: rest).flatMap Migration.steps).take n = m.script.take n := by
          rw [List.flatMap_cons, Migration.steps, List.append_assoc]
          exact List.take_append_of_le_length (length ▸ short)
        obtain ⟨c', upTo, -⟩ := execAll_take_some script n
        have run := partial_resume part clean n
        rw [upTo, ← steps] at run
        by_cases le : n ≤ j
        · rw [if_pos le] at run
          rw [(perform_stopped within run).1]
          rcases clean with rfl | repeatable
          · exact ⟨c₁, 0, b, part, Or.inl (Nat.le_zero.mp le).symm⟩
          · exact ⟨c₁, j, b, part, Or.inr repeatable⟩
        · rw [if_neg le] at run
          rw [(perform_stopped within run).1]
          exact ⟨c₁, n, b, upTo, Or.inl rfl⟩
      · rename_i long
        have done : execAll Step.exec m.steps c = some d' := by
          rw [Migration.steps, ← Migration.script, execAll_append, partial_finish part clean script]
          simp [execAll, record]
        have count : m.steps.length = m.statements.length + 1 := by simp [Migration.steps]
        rw [List.flatMap_cons, perform_append done _ _ (by simp; omega)]
        simp only [Option.map_some, count]
        exact ih b' (by cases rest <;> rfl) (Or.inl rfl) _

theorem boundary_final {files : List Migration} {final : Catalog} {pending : List Migration}
    {c₁ : Catalog} (b : Boundary files final pending c₁) : Boundary files final [] final := by
  induction pending generalizing c₁ with
  | nil =>
      obtain ⟨split, finishes⟩ := b
      cases finishes
      exact ⟨split, rfl⟩
  | cons m rest ih =>
      obtain ⟨d, d', -, -, b'⟩ := boundary_cons b
      exact ih b'

theorem pending_eq {files : List Migration} (nodup : (files.map Migration.version).Nodup)
    {done pending : List Migration} (split : files = done ++ pending) {applied : List String}
    (h : applied = done.map Migration.version) :
    files.filter (fun m => m.version ∉ applied) = pending := by
  subst split h
  rw [List.map_append, List.nodup_append] at nodup
  rw [List.filter_append, List.filter_eq_nil_iff.mpr, List.nil_append, List.filter_eq_self]
  · intro m mem
    simp only [decide_eq_true_eq]
    intro applied
    exact nodup.2.2 _ applied _ (List.mem_map_of_mem mem) rfl
  · intro m mem
    simp only [decide_eq_true_eq, not_not]
    exact List.mem_map_of_mem mem

/-! ## Sequences of stopped runs -/

/-- No stop falls inside a file that cannot be repeated, after some of its statements. -/
def StopsCleanly : List Migration → List Nat → Prop
  | _, [] => True
  | pending, n :: stops =>
      Clean (leftover pending (n - 3)).1 (leftover pending (n - 3)).2 ∧
        StopsCleanly (leftover pending (n - 3)).1 stops

/-- Files are of the two kinds the repository has: tables only, or indexes only. -/
def Kinds (files : List Migration) : Prop :=
  ∀ m ∈ files, m.repeatable ∨ ∃ name table rest, m.statements = .createIndex name table :: rest ∧
    ∀ d ∈ rest, d.repeatable = false

structure Progress (files : List Migration) (final : Catalog) (pending : List Migration)
    (c : Catalog) : Prop where
  intro ::
  reached : ∃ c₁ j, Boundary files final pending c₁ ∧ Partial pending j c₁ c.prepare ∧
    Clean pending j

structure Stuck (files : List Migration) (c : Catalog) : Prop where
  intro ::
  reached : ∃ done m rest first others, files = done ++ m :: rest ∧
    c.applied = done.map Migration.version ∧ m.script = first :: others ∧
    first.exec c.prepare = none

theorem partial_applied {pending : List Migration} {j : Nat} {c₁ c : Catalog}
    (part : Partial pending j c₁ c) : c.applied = c₁.applied := by
  cases pending with
  | nil => rw [show c = c₁ from part]
  | cons m rest =>
      have taken : m.script.take j = (m.statements.take j).map .statement := List.map_take.symm
      rw [Partial, taken] at part
      exact execAll_applied part

section
variable {files : List Migration} (nodup : (files.map Migration.version).Nodup) {final : Catalog}
include nodup

theorem progress_pending {pending : List Migration} {j : Nat} {c₁ c : Catalog}
    (b : Boundary files final pending c₁) (part : Partial pending j c₁ c.prepare) :
    files.filter (fun m => m.version ∉ c.applied) = pending := by
  obtain ⟨done, split, applied⟩ := b.split
  have same : c.prepare.applied = c₁.applied := partial_applied part
  exact pending_eq nodup split (same.trans applied)

theorem run_progress {pending : List Migration} {c : Catalog} (progress : Progress files final pending c)
    (n : Nat) (clean : Clean (leftover pending (n - 3)).1 (leftover pending (n - 3)).2) :
    Progress files final (leftover pending (n - 3)).1 (runMigrations files (some n) c).catalog := by
  obtain ⟨c₁, j, b, part, cleanBefore⟩ := progress.reached
  obtain ⟨c₁', j', b', part', executed⟩ := perform_pending b part cleanBefore (n - 3)
  have run := runMigrations_stopped files n c
  rw [progress_pending nodup b part] at run
  rw [← run] at part'
  refine ⟨c₁', j', b', part', ?_⟩
  rcases executed with rfl | repeatable
  · exact clean
  · exact Or.inr repeatable

theorem run_stuck (kinds : Kinds files) {pending : List Migration} {c : Catalog}
    (progress : Progress files final pending c) (n : Nat)
    (unclean : ¬Clean (leftover pending (n - 3)).1 (leftover pending (n - 3)).2) :
    Stuck files (runMigrations files (some n) c).catalog := by
  obtain ⟨c₁, j, b, part, cleanBefore⟩ := progress.reached
  obtain ⟨c₁', j', b', part', executed⟩ := perform_pending b part cleanBefore (n - 3)
  have run := runMigrations_stopped files n c
  rw [progress_pending nodup b part] at run
  rw [← run] at part'
  obtain ⟨done, split, applied⟩ := b'.split
  have same : (runMigrations files (some n) c).catalog.prepare.applied = c₁'.applied :=
    partial_applied part'
  generalize leftover pending (n - 3) = left at *
  obtain ⟨left, k⟩ := left
  obtain ⟨some, notRepeatable⟩ := not_or.mp unclean
  cases left with
  | nil => simp at notRepeatable
  | cons m rest =>
      have irregular : ¬m.repeatable := by simpa using notRepeatable
      obtain rfl : j' = k := executed.resolve_right notRepeatable
      obtain ⟨name, table, others, first, indexes⟩ :=
        (kinds m (by rw [split]; simp)).resolve_left irregular
      have script : m.script = .statement (.createIndex name table) :: others.map .statement := by
        rw [Migration.script, first, List.map_cons]
      obtain ⟨i, rfl⟩ := Nat.exists_eq_succ_of_ne_zero some
      refine ⟨done, m, rest, _, _, split, same.trans applied, script, ?_⟩
      rw [Partial, script, List.take_succ_cons] at part'
      exact (unrepeatable_script indexes).blocked (List.take_subset _ _) part'

theorem stuck_run {c : Catalog} (stuck : Stuck files c) (stop : Option Nat) :
    Stuck files (runMigrations files stop c).catalog ∧
      (runMigrations files stop c).completed = false := by
  obtain ⟨done, m, rest, first, others, split, applied, script, fails⟩ := stuck.reached
  have pending := pending_eq nodup split applied
  have steps : runSteps files c =
      preamble ++ first :: (others ++ .record m.version :: rest.flatMap Migration.steps) := by
    rw [runSteps, pending, List.flatMap_cons, Migration.steps, ← Migration.script, script]
    simp
  have kept (c' : Catalog) (same : c'.prepare = c.prepare) : Stuck files c' := by
    refine ⟨done, m, rest, first, others, split, ?_, script, by rw [same]; exact fails⟩
    exact (congrArg Catalog.applied same).trans applied
  rw [runMigrations, steps]
  by_cases enough : ∀ n ∈ stop, preamble.length ≤ n
  · have done : execAll Step.exec preamble c = some c.prepare := rfl
    rw [perform_append done _ _ enough, perform_blocked fails]
    exact ⟨kept _ rfl, rfl⟩
  · cases stop with
    | none => simp at enough
    | some n =>
        have short : n < 3 := by simpa [preamble] using enough
        obtain rfl | rfl | rfl : n = 0 ∨ n = 1 ∨ n = 2 := by omega
        all_goals exact ⟨kept _ rfl, rfl⟩

theorem run_finishes {pending : List Migration} {c : Catalog}
    (progress : Progress files final pending c) :
    runMigrations files none c = ⟨final, runSteps files c, true⟩ := by
  obtain ⟨c₁, j, b, part, clean⟩ := progress.reached
  have rest : execAll Step.exec (pending.flatMap Migration.steps) c.prepare = some final := by
    cases pending with
    | nil =>
        rw [show c.prepare = c₁ from part]
        exact b.finishes
    | cons m rest =>
        obtain ⟨d, d', script, record, b'⟩ := boundary_cons b
        rw [List.flatMap_cons, Migration.steps, ← Migration.script, List.append_assoc,
          execAll_append, partial_finish part clean script]
        simp only [Option.bind_some, List.singleton_append, execAll, record]
        exact b'.finishes
  have all : execAll Step.exec (runSteps files c) c = some final := by
    rw [runSteps, progress_pending nodup b part, execAll_append]
    exact rest
  have run := perform_append all [] none (by simp)
  simpa [runMigrations, perform] using run

end

/-! ## Resuming -/

/-- After the stopped runs, a complete one ends where a single run from the start would have, and
leaves nothing to do. -/
structure Resumes (files : List Migration) (c : Catalog) (stops : List Nat) : Prop where
  completes : (runMigrations files none (interrupted files stops c)).completed = true
  same : (runMigrations files none (interrupted files stops c)).catalog =
    (runMigrations files none c).catalog
  inOrder : (runMigrations files none (interrupted files stops c)).catalog.applied =
    files.map Migration.version
  nothingLeft : (runMigrations files none
    (runMigrations files none (interrupted files stops c)).catalog).executed = preamble

section
variable {files : List Migration} (nodup : (files.map Migration.version).Nodup) {final : Catalog}
include nodup

theorem interrupted_progress {pending : List Migration} {c : Catalog}
    (progress : Progress files final pending c) {stops : List Nat}
    (clean : StopsCleanly pending stops) :
    ∃ left, Progress files final left (interrupted files stops c) := by
  induction stops generalizing pending c with
  | nil => exact ⟨pending, progress⟩
  | cons n stops ih => exact ih (run_progress nodup progress n clean.1) clean.2

theorem interrupted_stuck {c : Catalog} (stuck : Stuck files c) (stops : List Nat) :
    Stuck files (interrupted files stops c) := by
  induction stops generalizing c with
  | nil => exact stuck
  | cons n stops ih => exact ih (stuck_run nodup stuck _).1

theorem interrupted_unclean (kinds : Kinds files) {pending : List Migration} {c : Catalog}
    (progress : Progress files final pending c) {stops : List Nat}
    (unclean : ¬StopsCleanly pending stops) : Stuck files (interrupted files stops c) := by
  induction stops generalizing pending c with
  | nil => exact absurd trivial unclean
  | cons n stops ih =>
      by_cases clean : Clean (leftover pending (n - 3)).1 (leftover pending (n - 3)).2
      · exact ih (run_progress nodup progress n clean) fun rest => unclean ⟨clean, rest⟩
      · exact interrupted_stuck nodup (run_stuck nodup kinds progress n clean) stops

theorem resumes_iff_stopsCleanly (kinds : Kinds files) {pending : List Migration} {c : Catalog}
    (b : Boundary files final pending c.prepare) (stops : List Nat) :
    Resumes files c stops ↔ StopsCleanly pending stops := by
  have start : Progress files final pending c :=
    ⟨c.prepare, 0, b, by cases pending <;> rfl, Or.inl rfl⟩
  constructor
  · intro resumes
    by_contra unclean
    have stuck := interrupted_unclean nodup kinds start unclean
    have completes := resumes.completes
    rw [(stuck_run nodup stuck none).2] at completes
    cases completes
  · intro clean
    obtain ⟨left, progress⟩ := interrupted_progress nodup start clean
    have finished := boundary_final b
    have still : final.prepare = final := execAll_prepare b.finishes
    have ended : Progress files final [] final := ⟨final, 0, finished, still, Or.inl rfl⟩
    have run := run_finishes nodup progress
    refine ⟨by rw [run], by rw [run, run_finishes nodup start], ?_, ?_⟩
    · obtain ⟨done, split, applied⟩ := finished.split
      rw [run, applied, split, List.append_nil]
    · rw [run, run_finishes nodup ended, runSteps,
        progress_pending nodup finished (j := 0) still]
      rfl

end

/-! ## The repository's files -/

theorem migrations_kinds : Kinds migrations := by
  intro m mem
  simp only [migrations, List.mem_cons, List.not_mem_nil, or_false] at mem
  rcases mem with rfl | rfl
  · exact Or.inl rfl
  · exact Or.inr ⟨_, _, _, rfl, by decide⟩

theorem migrated_boundary (k : Nat) :
    Boundary migrations (migrated 2) (migrations.drop k) (migrated k).prepare := by
  match k with
  | 0 => exact ⟨⟨[], rfl, rfl⟩, by decide⟩
  | 1 => exact ⟨⟨[initialSchema], rfl, by decide⟩, by decide⟩
  | k + 2 =>
      have all : migrated (k + 2) = migrated 2 := by simp [migrated, migrations]
      have none : migrations.drop (k + 2) = [] := by simp [migrations]
      rw [all, none]
      exact ⟨⟨migrations, by simp, by decide⟩, by decide⟩

theorem migrations_resume_iff (k : Nat) (stops : List Nat) :
    Resumes migrations (migrated k) stops ↔ StopsCleanly (migrations.drop k) stops :=
  resumes_iff_stopsCleanly (by decide) migrations_kinds (migrated_boundary k) stops

/-- Stopped between two indexes, the migrations never complete again. -/
theorem stopped_between_indexes : ¬Resumes migrations (migrated 1) [4] ∧
    ∀ stop, (runMigrations migrations stop (interrupted migrations [4] (migrated 1))).completed =
      false := by
  have start : Progress migrations (migrated 2) [indexes] (migrated 1) :=
    ⟨_, 0, migrated_boundary 1, rfl, Or.inl rfl⟩
  have unclean : ¬StopsCleanly [indexes] [4] := by
    intro clean
    have clean := clean.1
    simp [Clean, leftover, indexes, Migration.repeatable, Ddl.repeatable] at clean
  have stuck := interrupted_unclean (by decide) migrations_kinds start unclean
  have never (stop : Option Nat) := (stuck_run (by decide) stuck stop).2
  refine ⟨fun resumes => ?_, never⟩
  have completes := resumes.completes
  rw [never none] at completes
  cases completes

end Corebank
