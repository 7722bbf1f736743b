import Corebank.Library.Interleaving
import Mathlib.Algebra.BigOperators.Group.Finset.Piecewise
import Mathlib.Data.Finset.Max
import Mathlib.Order.WithBot

/-!
# Connections and deadlocks

The pool loses no connection, and sessions that lock rows in one order never all wait.
-/

namespace Corebank.Library.TwoPhase
open Keyed

variable {K V Δ L E R ι : Type} [DecidableEq ι] [Fintype ι]

/-! ## Connections -/

def inUse (phase : ι → Phase K V Δ L E R) : Nat :=
  (Finset.univ.filter fun i => (phase i).inside = true).card

def Phase.connections (p : Phase K V Δ L E R) : Nat := if p.inside then 1 else 0

omit [DecidableEq ι] in
theorem inUse_eq_sum (phase : ι → Phase K V Δ L E R) :
    inUse phase = ∑ i, (phase i).connections :=
  Finset.card_filter _ _

theorem inUse_update (phase : ι → Phase K V Δ L E R) (i : ι) (p : Phase K V Δ L E R) :
    inUse (Function.update phase i p) + (phase i).connections = inUse phase + p.connections := by
  have counts : (fun j => (Function.update phase i p j).connections) =
      Function.update (fun j => (phase j).connections) i p.connections := by
    funext j
    by_cases same : j = i
    · subst same
      simp
    · simp [same]
  rw [inUse_eq_sum, inUse_eq_sum, counts, Finset.sum_update_of_mem (Finset.mem_univ i)]
  have split := Finset.sum_eq_add_sum_sdiff_singleton_of_mem (Finset.mem_univ i)
    fun j => (phase j).connections
  omega

def Session.Counted (s : Session K V Δ L E R) : Prop :=
  match s.phase with
  | .waiting => s.borrowed = 0 ∧ s.returned = 0
  | .finished _ => s.returned = s.borrowed ∧ s.borrowed ≤ 1
  | _ => s.borrowed = 1 ∧ s.returned = 0

structure Accounted (n : Nat) (m : Machine ι K V Δ L E R) : Prop where
  pool : m.free + inUse m.phase = n
  counted : ∀ i, (m.sessions i).Counted

variable {m m' : Machine ι K V Δ L E R} {i : ι} {n : Nat}

theorem Accounted.goto (accounted : Accounted n m) {p : Phase K V Δ L E R}
    (inside : p.inside = (m.phase i).inside)
    (counted : Session.Counted { m.sessions i with phase := p }) : Accounted n (m.goto i p) where
  pool := by
    have moved := inUse_update m.phase i p
    have same : p.connections = (m.phase i).connections := by
      rw [Phase.connections, inside, Phase.connections]
    rw [m.phase_goto]
    have pool := accounted.pool
    have free : (m.goto i p).free = m.free := rfl
    omega
  counted j := by
    by_cases same : j = i
    · subst same
      simpa [Machine.goto] using counted
    · simpa [Machine.goto, same] using accounted.counted j

theorem Accounted.finish (accounted : Accounted n m) {p : Phase K V Δ L E R}
    (inside : p.inside = (m.phase i).inside)
    (counted : Session.Counted { m.sessions i with phase := p }) : Accounted n (m.finish i p) :=
  ⟨(accounted.goto inside counted).pool, (accounted.goto inside counted).counted⟩

theorem Accounted.borrow (accounted : Accounted n m) (phase : m.phase i = .waiting)
    {p : Phase K V Δ L E R} (inside : p.inside = true)
    (counted : Session.Counted { m.sessions i with
      phase := p, borrowed := (m.sessions i).borrowed + 1 }) (free : m.free ≠ 0) :
    Accounted n (m.borrow i p) where
  pool := by
    have moved := inUse_update m.phase i p
    have before : (m.phase i).connections = 0 := by rw [phase]; rfl
    have now : p.connections = 1 := by rw [Phase.connections, inside]; rfl
    rw [m.phase_borrow]
    have pool := accounted.pool
    have left : (m.borrow i p).free = m.free - 1 := rfl
    omega
  counted j := by
    by_cases same : j = i
    · subst same
      simpa [Machine.borrow] using counted
    · simpa [Machine.borrow, same] using accounted.counted j

theorem Accounted.giveBack (accounted : Accounted n m) {r : Except E R}
    (phase : m.phase i = .closing r) : Accounted n (m.giveBack i (.finished r)) where
  pool := by
    have moved := inUse_update m.phase i (.finished r)
    have before : (m.phase i).connections = 1 := by rw [phase]; rfl
    have now : (Phase.finished r : Phase K V Δ L E R).connections = 0 := rfl
    rw [m.phase_giveBack]
    have pool := accounted.pool
    have left : (m.giveBack i (.finished r)).free = m.free + 1 := rfl
    omega
  counted j := by
    by_cases same : j = i
    · subst same
      have counted := accounted.counted j
      have here : (m.sessions j).phase = .closing r := phase
      simp only [Session.Counted, here] at counted
      simp [Machine.giveBack, Session.Counted, counted.1, counted.2]
    · simpa [Machine.giveBack, same] using accounted.counted j

variable [DecidableEq K] {S : Schema K V Δ E} {jobs : ι → Job K V Δ L E R}

theorem Accounted.step (accounted : Accounted n m) (h : Machine.Step S jobs m i m') :
    Accounted n m' := by
  have counted := accounted.counted i
  cases h with
  | refuse phase job =>
      have here : (m.sessions i).phase = .waiting := phase
      simp only [Session.Counted, here] at counted
      exact accounted.finish (by rw [phase]; rfl) (by simp [Session.Counted, counted])
  | @borrow kind body phase job free =>
      have here : (m.sessions i).phase = .waiting := phase
      simp only [Session.Counted, here] at counted
      refine accounted.borrow phase ?_ ?_ free
      · cases kind <;> rfl
      · cases kind <;> simp [Session.Counted, Kind.enter, counted]
  | begin phase | fail phase | work phase =>
      have here : (m.sessions i).phase = _ := phase
      simp only [Session.Counted, here] at counted
      exact accounted.goto (by rw [phase]; rfl) (by simp [Session.Counted, counted])
  | @commit own pending r phase =>
      have here : (m.sessions i).phase = _ := phase
      simp only [Session.Counted, here] at counted
      have committed : Accounted n (m.commit S ⟨own, pending, .done r⟩) :=
        ⟨accounted.pool, accounted.counted⟩
      refine committed.finish ?_ ?_
      · have phase : (m.commit S ⟨own, pending, .done r⟩).phase i = _ := phase
        rw [phase]
        rfl
      · exact counted
  | read phase | failRead phase | rollback phase =>
      have here : (m.sessions i).phase = _ := phase
      simp only [Session.Counted, here] at counted
      exact accounted.finish (by rw [phase]; rfl) (by simp [Session.Counted, counted])
  | giveBack phase => exact accounted.giveBack phase

omit [DecidableEq K] in
theorem Accounted.fault {e : E} (accounted : Accounted n m) (h : Machine.Fault m i e m') :
    Accounted n m' := by
  have counted := accounted.counted i
  cases h with
  | connect phase =>
      have here : (m.sessions i).phase = .waiting := phase
      simp only [Session.Counted, here] at counted
      exact accounted.finish (by rw [phase]; rfl) (by simp [Session.Counted, counted])
  | begin phase | work phase =>
      have here : (m.sessions i).phase = _ := phase
      simp only [Session.Counted, here] at counted
      exact accounted.goto (by rw [phase]; rfl) (by simp [Session.Counted, counted])
  | read phase =>
      have here : (m.sessions i).phase = _ := phase
      simp only [Session.Counted, here] at counted
      exact accounted.finish (by rw [phase]; rfl) (by simp [Session.Counted, counted])

theorem Reachable.accounted {faults : Bool} {s : Store V L}
    (reached : Machine.Reachable S jobs faults (start n s) m) : Accounted n m := by
  induction reached with
  | start =>
      refine ⟨?_, fun _ => ⟨rfl, rfl⟩⟩
      have none_inside : inUse (start n s : Machine ι K V Δ L E R).phase = 0 := by
        simp [inUse, Machine.phase, TwoPhase.start, Phase.inside]
      rw [none_inside]
      rfl
  | step i _ next ih => exact ih.step (Machine.step_cases S jobs next)
  | fault i e _ _ next ih => exact ih.fault (Machine.fault_cases next)

/-! ## Rows locked in one order -/

variable {O : Type} [LinearOrder O] (rank : K → O)

/-- With the rows `held`, every row the program comes to lock it has, or ranks above all it has. -/
inductive Prog.Ascending : Set K → Prog K V Δ L E R → Prop where
  | done {held r} : Ascending held (.done r)
  | raise {held e} : Ascending held (.raise e)
  | select {held next} (each : ∀ s, Ascending held (next s)) : Ascending held (.select next)
  | lock {held k next} (above : k ∈ held ∨ ∀ h ∈ held, rank h < rank k)
      (found : ∀ v, Ascending (insert k held) (next (some v)))
      (missing : Ascending held (next none)) : Ascending held (.lock k next)
  | update {held k change next} (above : k ∈ held ∨ ∀ h ∈ held, rank h < rank k)
      (found : ∀ n, Ascending (insert k held) (next n)) (missing : Ascending held (next 0)) :
      Ascending held (.update k change next)
  | append {held entry next} (rest : Ascending held next) : Ascending held (.append entry next)

variable (S) in
def keys (own : List V) : Set K := {k | k ∈ own.map S.key}

def Job.Ascending : Job K V Δ L E R → Prop
  | .refused _ => True
  | .block _ body => body.Ascending rank ∅

variable (S) in
def Phase.Ascending : Phase K V Δ L E R → Prop
  | .opened body => body.Ascending rank ∅
  | .running _ work => work.rest.Ascending rank (keys S work.own)
  | _ => True

omit [DecidableEq ι] [Fintype ι] in
theorem keys_acquire (committed : Store V L) (k : K) (own : List V) :
    (∃ v, (acquire S committed k own).1 = some v ∧
      keys S (acquire S committed k own).2 = insert k (keys S own)) ∨
    (acquire S committed k own).1 = none ∧ keys S (acquire S committed k own).2 = keys S own := by
  rcases acquire_cases (S := S) committed k own with
    ⟨v, mine, eq⟩ | ⟨v, -, found, eq⟩ | ⟨-, -, eq⟩ <;> rw [eq]
  · refine Or.inl ⟨v, rfl, (Set.insert_eq_of_mem ?_).symm⟩
    exact lookup_key mine ▸ List.mem_map_of_mem (lookup_mem mine)
  · refine Or.inl ⟨v, rfl, ?_⟩
    ext j
    simp [keys, lookup_key found]
  · exact Or.inr ⟨rfl, rfl⟩

omit [DecidableEq ι] [Fintype ι] in
theorem Work.step_ascending {committed : Store V L} {available : K → Bool}
    {work work' : Work K V Δ L E R} (ascending : work.rest.Ascending rank (keys S work.own))
    (h : work.step S committed available = some work') :
    work'.rest.Ascending rank (keys S work'.own) := by
  obtain ⟨own, pending, rest⟩ := work
  cases ascending with
  | done => cases h
  | raise => cases h
  | select each =>
      cases h
      exact each _
  | append rest =>
      cases h
      exact rest
  | @lock _ k next above found missing =>
      obtain ⟨-, rfl⟩ := Work.step_lock h
      rcases keys_acquire (S := S) committed k own with ⟨v, read, same⟩ | ⟨read, same⟩ <;>
        simp only [read, same]
      · exact found v
      · exact missing
  | @update _ k change next above found missing =>
      obtain ⟨-, own', rest, rfl, updated⟩ := Work.step_update h
      rw [keys, updated.keys, ← keys]
      rcases keys_acquire (S := S) committed k own with ⟨v, read, same⟩ | ⟨read, same⟩
      · rw [same]
        cases updated with
        | missing | kept => exact found 0
        | changed => exact found 1
        | failed => exact .raise
      · rw [same]
        cases updated with
        | missing => exact missing
        | kept held | changed held | failed held =>
            rw [read] at held
            cases held

omit [Fintype ι] [DecidableEq K] in
theorem Ascending.goto (ordered : ∀ j, (m.phase j).Ascending S rank) {p : Phase K V Δ L E R}
    (phases : m'.phase = Function.update m.phase i p) (ascending : p.Ascending S rank) :
    ∀ j, (m'.phase j).Ascending S rank := by
  rw [phases]
  exact (Function.forall_update_iff m.phase fun _ p => p.Ascending S rank).mpr
    ⟨ascending, fun j _ => ordered j⟩

theorem Ascending.step (ordered : ∀ j, (m.phase j).Ascending S rank)
    (jobs_ordered : ∀ j, (jobs j).Ascending rank) (h : Machine.Step S jobs m i m') :
    ∀ j, (m'.phase j).Ascending S rank := by
  have goto {p : Phase K V Δ L E R} (phases : m'.phase = Function.update m.phase i p) :=
    Ascending.goto rank ordered phases
  have mine := ordered i
  cases h with
  | refuse phase job => exact goto (m.phase_finish i _) trivial
  | @borrow kind body phase job free =>
      have body_ordered : body.Ascending rank ∅ := by
        have := jobs_ordered i
        rwa [job] at this
      refine goto (m.phase_borrow i _) ?_
      cases kind with
      | unitOfWork => exact body_ordered
      | readOnly =>
          have none_held : keys S ([] : List V) = ∅ := by simp [keys]
          rw [← none_held] at body_ordered
          exact body_ordered
  | @begin body phase =>
      rw [phase] at mine
      have none_held : keys S ([] : List V) = ∅ := by simp [keys]
      have body_ordered : body.Ascending rank (keys S []) := none_held ▸ mine
      exact goto (m.phase_goto i _) body_ordered
  | commit phase => exact goto ((m.commit S _).phase_finish i _) trivial
  | read phase => exact goto (m.phase_finish i _) trivial
  | fail phase => exact goto (m.phase_goto i _) trivial
  | failRead phase => exact goto (m.phase_finish i _) trivial
  | work phase advance =>
      rw [phase] at mine
      exact goto (m.phase_goto i _) (Work.step_ascending rank mine advance)
  | rollback phase => exact goto (m.phase_finish i _) trivial
  | giveBack phase => exact goto (m.phase_giveBack i _) trivial

omit [Fintype ι] [DecidableEq K] in
theorem Ascending.fault {e : E} (ordered : ∀ j, (m.phase j).Ascending S rank)
    (h : Machine.Fault m i e m') : ∀ j, (m'.phase j).Ascending S rank := by
  have goto {p : Phase K V Δ L E R} (phases : m'.phase = Function.update m.phase i p) :=
    Ascending.goto rank ordered phases
  cases h with
  | connect phase => exact goto (m.phase_finish i _) trivial
  | begin phase => exact goto (m.phase_goto i _) trivial
  | work phase => exact goto (m.phase_goto i _) trivial
  | read phase => exact goto (m.phase_finish i _) trivial

theorem Reachable.ascending {faults : Bool} {s : Store V L}
    (jobs_ordered : ∀ j, (jobs j).Ascending rank)
    (reached : Machine.Reachable S jobs faults (start n s) m) :
    ∀ j, (m.phase j).Ascending S rank := by
  induction reached with
  | start => exact fun _ => trivial
  | step i _ next ih => exact Ascending.step rank ih jobs_ordered (Machine.step_cases S jobs next)
  | fault i e _ _ next ih => exact Ascending.fault rank ih (Machine.fault_cases next)

/-! ## Some call can go on -/

def Prog.wants : Prog K V Δ L E R → Option K
  | .lock k _ | .update k _ _ => some k
  | _ => none

def Phase.wants : Phase K V Δ L E R → Option K
  | .running _ work => work.rest.wants
  | _ => none

/-- A call that cannot go on is finished, or waits for a connection or for a row. -/
theorem stuck_cases (stuck : m.step S jobs i = none) :
    (m.phase i).isFinished = true ∨ m.phase i = .waiting ∧ m.free = 0 ∨
      ∃ k, (m.phase i).wants = some k ∧ m.available S i k = false := by
  unfold Machine.step at stuck
  split at stuck
  · rename_i phase
    split at stuck
    · cases stuck
    · split at stuck
      · exact Or.inr (Or.inl ⟨phase, ‹_›⟩)
      · cases stuck
  · cases stuck
  · rename_i kind work phase
    rw [phase]
    obtain ⟨own, pending, rest⟩ := work
    cases rest with
    | done r => cases kind <;> cases stuck
    | raise e => cases kind <;> cases stuck
    | select next => cases stuck
    | append entry next => cases stuck
    | lock k next =>
        refine Or.inr (Or.inr ⟨k, rfl, ?_⟩)
        simp only [Option.map_eq_none_iff, Work.step] at stuck
        split at stuck
        · cases stuck
        · exact Bool.eq_false_iff.mpr ‹_›
    | update k change next =>
        refine Or.inr (Or.inr ⟨k, rfl, ?_⟩)
        simp only [Option.map_eq_none_iff, Work.step] at stuck
        split at stuck
        · split at stuck <;> cases stuck
        · exact Bool.eq_false_iff.mpr ‹_›
  · cases stuck
  · cases stuck
  · rename_i phase
    rw [phase]
    exact Or.inl rfl

omit [DecidableEq ι] [Fintype ι] [DecidableEq K] in
theorem wants_above {p : Phase K V Δ L E R} (ascending : p.Ascending S rank) {k : K}
    (wants : p.wants = some k) :
    k ∈ p.own.map S.key ∨ ∀ h ∈ p.own.map S.key, rank h < rank k := by
  cases p with
  | running kind work =>
      obtain ⟨own, pending, rest⟩ := work
      cases rest with
      | lock j next =>
          cases wants
          cases ascending with
          | lock above found missing => exact above
      | update j change next =>
          cases wants
          cases ascending with
          | update above found missing => exact above
      | done r => cases wants
      | raise e => cases wants
      | select next => cases wants
      | append entry next => cases wants
  | waiting => cases wants
  | opened body => cases wants
  | failed e own => cases wants
  | closing r => cases wants
  | finished r => cases wants

/-- Whoever has the row a call waits for waits, in its turn, for a row of higher rank. -/
theorem waits_above (locked : Locked S m) (ordered : ∀ j, (m.phase j).Ascending S rank)
    (stuck : ∀ j, (m.phase j).isFinished = false → m.step S jobs j = none) {k : K}
    (taken : m.available S i k = false) :
    ∃ j k', (m.phase j).wants = some k' ∧ m.available S j k' = false ∧ rank k < rank k' := by
  have held : ∃ j, j ≠ i ∧ k ∈ (m.phase j).own.map S.key := by
    by_contra none_holds
    push Not at none_holds
    have free : m.available S i k = true :=
      available_iff.mpr fun j ne => lookup_none_iff.mpr (none_holds j ne)
    rw [taken] at free
    cases free
  obtain ⟨j, -, holds⟩ := held
  have unfinished : (m.phase j).isFinished = false := by
    cases phase : m.phase j with
    | finished r => simp [phase, Phase.own] at holds
    | _ => rfl
  rcases stuck_cases (stuck j unfinished) with done | ⟨waiting, -⟩ | ⟨k', wants, taken'⟩
  · rw [unfinished] at done
    cases done
  · simp [waiting, Phase.own] at holds
  · refine ⟨j, k', wants, taken', ?_⟩
    rcases wants_above rank (ordered j) wants with mine | above
    · -- its own row is always available to it
      have free : m.available S j k' = true :=
        available_iff.mpr fun l ne => locked.exclusive j l ne.symm k' mine
      rw [taken'] at free
      cases free
    · exact above k holds

theorem progress (locked : Locked S m) (ordered : ∀ j, (m.phase j).Ascending S rank)
    (accounted : Accounted n m) (pool : 1 ≤ n) (unfinished : (m.phase i).isFinished = false) :
    ∃ j, (m.phase j).isFinished = false ∧ (m.step S jobs j).isSome := by
  by_contra none_steps
  have stuck (j : ι) (open_ : (m.phase j).isFinished = false) : m.step S jobs j = none := by
    by_contra steps
    exact none_steps ⟨j, open_, Option.isSome_iff_ne_none.mpr steps⟩
  -- the calls that wait for a row, by the rank of that row
  let want (j : ι) : WithBot O := ((m.phase j).wants.map rank : Option O)
  let blocked := Finset.univ.filter fun j => ∃ k, (m.phase j).wants = some k ∧
    m.available S j k = false
  have nobody : blocked = ∅ := by
    by_contra some_blocked
    obtain ⟨j, mem, highest⟩ := blocked.exists_max_image want (Finset.nonempty_iff_ne_empty.mpr
      some_blocked)
    obtain ⟨k, wants, taken⟩ := (Finset.mem_filter.mp mem).2
    obtain ⟨j', k', wants', taken', above⟩ := waits_above rank locked ordered stuck taken
    have le := highest j' (Finset.mem_filter.mpr ⟨Finset.mem_univ _, k', wants', taken'⟩)
    simp only [want, wants, wants', Option.map_some] at le
    exact absurd above (not_lt.mpr (WithBot.coe_le_coe.mp le))
  have waiting (j : ι) (open_ : (m.phase j).isFinished = false) :
      m.phase j = .waiting ∧ m.free = 0 := by
    rcases stuck_cases (stuck j open_) with done | idle | row
    · rw [open_] at done
      cases done
    · exact idle
    · have mem : j ∈ blocked := Finset.mem_filter.mpr ⟨Finset.mem_univ _, row⟩
      rw [nobody] at mem
      simp at mem
  have empty : inUse m.phase = 0 := by
    refine Finset.card_eq_zero.mpr (Finset.filter_eq_empty_iff.mpr fun j _ inside => ?_)
    cases phase : m.phase j with
    | waiting => simp [phase, Phase.inside] at inside
    | finished r => simp [phase, Phase.inside] at inside
    | _ =>
        have idle := (waiting j (by rw [phase]; rfl)).1
        rw [phase] at idle
        cases idle
  have pool_full := accounted.pool
  have free := (waiting i unfinished).2
  omega

end Corebank.Library.TwoPhase
