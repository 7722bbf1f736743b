import Corebank.Library.Serial

/-! # Invariants of single rows, committed or not -/

namespace Corebank.Library.TwoPhase
open Keyed

variable {K V Δ L E R ι : Type} [DecidableEq K] [DecidableEq ι] [Fintype ι]
  {S : Schema K V Δ E} {jobs : ι → Job K V Δ L E R} {m m' : Machine ι K V Δ L E R} {i : ι}
  {init : Store V L}

/-- Every UPDATE of the program turns a row with `P` into a row with `P`. -/
def Prog.Keeps (S : Schema K V Δ E) (P : V → Prop) : Prog K V Δ L E R → Prop
  | .done _ | .raise _ => True
  | .select next => ∀ s, (next s).Keeps S P
  | .lock _ next => ∀ v, (next v).Keeps S P
  | .update _ change next =>
      (∀ v v', P v → S.apply change v = .ok (some v') → P v') ∧ ∀ n, (next n).Keeps S P
  | .append _ next => next.Keeps S P

def Job.Keeps (S : Schema K V Δ E) (P : V → Prop) : Job K V Δ L E R → Prop
  | .refused _ => True
  | .block _ body => body.Keeps S P

def Phase.Keeps (S : Schema K V Δ E) (P : V → Prop) : Phase K V Δ L E R → Prop
  | .opened body => body.Keeps S P
  | .running _ work => work.rest.Keeps S P
  | _ => True

structure AllRows (S : Schema K V Δ E) (P : V → Prop) (m : Machine ι K V Δ L E R) : Prop where
  committed : ∀ v ∈ m.committed.rows, P v
  own : ∀ i, ∀ v ∈ (m.phase i).own, P v
  keeps : ∀ i, (m.phase i).Keeps S P

variable {P : V → Prop}

omit [DecidableEq ι] [Fintype ι] in
theorem acquire_all {committed : Store V L} {k : K} {own : List V}
    (rows : ∀ v ∈ committed.rows, P v) (mine : ∀ v ∈ own, P v) :
    (∀ v ∈ (acquire S committed k own).1, P v) ∧ ∀ v ∈ (acquire S committed k own).2, P v := by
  rcases acquire_cases (S := S) committed k own with
    ⟨v, found, eq⟩ | ⟨v, -, found, eq⟩ | ⟨-, -, eq⟩ <;> rw [eq]
  · refine ⟨?_, mine⟩
    rintro w ⟨⟩
    exact mine v (lookup_mem found)
  · have now := rows v (lookup_mem found)
    refine ⟨?_, List.forall_mem_cons.mpr ⟨now, mine⟩⟩
    rintro w ⟨⟩
    exact now
  · refine ⟨?_, mine⟩
    rintro w ⟨⟩

omit [DecidableEq ι] [Fintype ι] in
theorem Work.step_all {committed : Store V L} {available : K → Bool} {work work' : Work K V Δ L E R}
    (rows : ∀ v ∈ committed.rows, P v) (mine : ∀ v ∈ work.own, P v) (keeps : work.rest.Keeps S P)
    (h : work.step S committed available = some work') :
    (∀ v ∈ work'.own, P v) ∧ work'.rest.Keeps S P := by
  obtain ⟨own, pending, rest⟩ := work
  cases rest with
  | done r => cases h
  | raise e => cases h
  | select next =>
      cases h
      exact ⟨mine, keeps _⟩
  | append entry next =>
      cases h
      exact ⟨mine, keeps⟩
  | lock k next =>
      obtain ⟨-, rfl⟩ := Work.step_lock h
      exact ⟨(acquire_all rows mine).2, keeps _⟩
  | update k change next =>
      obtain ⟨-, own', rest, rfl, updated⟩ := Work.step_update h
      obtain ⟨read, held⟩ := acquire_all (S := S) (k := k) rows mine
      cases updated with
      | missing | kept => exact ⟨held, keeps.2 _⟩
      | @changed v v' found applied =>
          refine ⟨fun w mem => ?_, keeps.2 _⟩
          rcases mem_replace mem with rfl | ⟨mem, -⟩
          · exact keeps.1 v w (read v found) applied
          · exact held w mem
      | failed => exact ⟨held, trivial⟩

omit [DecidableEq ι] [Fintype ι] in
theorem view_all {own : List V} {pending : List L} {s : Store V L} (rows : ∀ v ∈ s.rows, P v)
    (mine : ∀ v ∈ own, P v) : ∀ v ∈ (view S own pending s).rows, P v := by
  intro w mem
  obtain ⟨v, here, rfl⟩ := List.mem_map.mp mem
  cases found : lookup S.key (S.key v) own with
  | none => exact rows v here
  | some u => exact mine u (lookup_mem found)

omit [DecidableEq K] [Fintype ι] in
theorem AllRows.goto (all : AllRows S P m) {p : Phase K V Δ L E R}
    (phases : m'.phase = Function.update m.phase i p) (committed : ∀ v ∈ m'.committed.rows, P v)
    (own : ∀ v ∈ p.own, P v) (keeps : p.Keeps S P) : AllRows S P m' := by
  refine ⟨committed, ?_, ?_⟩
  · rw [phases]
    exact (Function.forall_update_iff m.phase fun _ p => ∀ v ∈ p.own, P v).mpr
      ⟨own, fun j _ => all.own j⟩
  · rw [phases]
    exact (Function.forall_update_iff m.phase fun _ p => p.Keeps S P).mpr
      ⟨keeps, fun j _ => all.keeps j⟩

theorem AllRows.step (all : AllRows S P m) (keeps : ∀ i, (jobs i).Keeps S P)
    (h : Machine.Step S jobs m i m') : AllRows S P m' := by
  have mine := all.own i
  have rest := all.keeps i
  have none_own : ∀ v ∈ ([] : List V), P v := by simp
  cases h with
  | refuse phase job => exact all.goto (m.phase_finish i _) all.committed none_own trivial
  | @borrow kind body phase job free =>
      have body_keeps : body.Keeps S P := by
        have := keeps i
        rwa [job] at this
      refine all.goto (m.phase_borrow i _) all.committed ?_ ?_
      · cases kind <;> exact none_own
      · cases kind <;> exact body_keeps
  | begin phase =>
      rw [phase] at rest
      exact all.goto (m.phase_goto i _) all.committed none_own rest
  | commit phase =>
      rw [phase] at mine
      exact all.goto ((m.commit S _).phase_finish i _) (view_all all.committed mine) none_own trivial
  | read phase => exact all.goto (m.phase_finish i _) all.committed none_own trivial
  | fail phase =>
      rw [phase] at mine
      exact all.goto (m.phase_goto i _) all.committed mine trivial
  | failRead phase => exact all.goto (m.phase_finish i _) all.committed none_own trivial
  | work phase advance =>
      rw [phase] at mine rest
      obtain ⟨held, rest⟩ := Work.step_all all.committed mine rest advance
      exact all.goto (m.phase_goto i _) all.committed held rest
  | rollback phase => exact all.goto (m.phase_finish i _) all.committed none_own trivial
  | giveBack phase => exact all.goto (m.phase_giveBack i _) all.committed none_own trivial

omit [DecidableEq K] [Fintype ι] in
theorem AllRows.fault {e : E} (all : AllRows S P m) (h : Machine.Fault m i e m') :
    AllRows S P m' := by
  have mine := all.own i
  have none_own : ∀ v ∈ ([] : List V), P v := by simp
  cases h with
  | connect phase => exact all.goto (m.phase_finish i _) all.committed none_own trivial
  | begin phase => exact all.goto (m.phase_goto i _) all.committed none_own trivial
  | work phase =>
      rw [phase] at mine
      exact all.goto (m.phase_goto i _) all.committed mine trivial
  | read phase => exact all.goto (m.phase_finish i _) all.committed none_own trivial

theorem Reachable.all (keeps : ∀ i, (jobs i).Keeps S P) {faults : Bool} {n : Nat}
    (rows : ∀ v ∈ init.rows, P v)
    (reached : Machine.Reachable S jobs faults (start n init) m) : AllRows S P m := by
  induction reached with
  | start => exact ⟨rows, by simp [Machine.phase, start, Phase.own], fun _ => trivial⟩
  | step i _ next ih => exact ih.step keeps (Machine.step_cases S jobs next)
  | fault i e _ _ next ih => exact ih.fault (Machine.fault_cases next)

end Corebank.Library.TwoPhase
