import Corebank.Library.Keyed
import Mathlib.Data.Fintype.Basic
import Mathlib.Logic.Function.Basic

/-!
# Sessions over rows with exclusive locks

A table of rows with a key and an append-only log, shared by sessions that each run one program on
one connection of a pool. A row a session locks or updates is its own until it commits or rolls
back; its changes are seen by no other session before the commit.
-/

namespace Corebank.Library.TwoPhase
open Keyed

/-- Rows, and the changes of a row that statements make. `none` leaves the row as it is. -/
structure Schema (K V Δ E : Type) where
  key : V → K
  apply : Δ → V → Except E (Option V)
  key_apply : ∀ {d v v'}, apply d v = .ok (some v') → key v' = key v

@[ext] structure Store (V L : Type) where
  rows : List V
  log : List L

variable {K V Δ L E R ι : Type} [DecidableEq K]

/-! ## Programs -/

inductive Prog (K V Δ L E R : Type) where
  | done (r : R)
  | raise (e : E)
  | select (next : Store V L → Prog K V Δ L E R)
  | lock (k : K) (next : Option V → Prog K V Δ L E R)
  /-- `next` is told how many rows changed. -/
  | update (k : K) (change : Δ) (next : Nat → Prog K V Δ L E R)
  | append (entry : L) (next : Prog K V Δ L E R)

section
variable (S : Schema K V Δ E)

def Prog.run : Prog K V Δ L E R → Store V L → Except E (R × Store V L)
  | .done r, s => .ok (r, s)
  | .raise e, _ => .error e
  | .select next, s => (next s).run s
  | .lock k next, s => (next (lookup S.key k s.rows)).run s
  | .update k change next, s =>
      match lookup S.key k s.rows with
      | none => (next 0).run s
      | some v =>
          match S.apply change v with
          | .error e => .error e
          | .ok none => (next 0).run s
          | .ok (some v') => (next 1).run { s with rows := replace S.key v' s.rows }
  | .append entry next, s => next.run { s with log := s.log ++ [entry] }

/-- What a session with its `own` rows and `pending` log entries sees of a store. -/
def view (own : List V) (pending : List L) (s : Store V L) : Store V L :=
  ⟨s.rows.map fun v => (lookup S.key (S.key v) own).getD v, s.log ++ pending⟩

structure Work (K V Δ L E R : Type) where
  own : List V
  pending : List L
  rest : Prog K V Δ L E R

/-- The row `k` as the session reads it once it may have it, and the rows it then has. -/
def acquire (committed : Store V L) (k : K) (own : List V) : Option V × List V :=
  match lookup S.key k own with
  | some v => (some v, own)
  | none =>
      match lookup S.key k committed.rows with
      | some v => (some v, v :: own)
      | none => (none, own)

def Work.step (committed : Store V L) (available : K → Bool) :
    Work K V Δ L E R → Option (Work K V Δ L E R)
  | ⟨_, _, .done _⟩ | ⟨_, _, .raise _⟩ => none
  | ⟨own, pending, .select next⟩ => some ⟨own, pending, next (view S own pending committed)⟩
  | ⟨own, pending, .lock k next⟩ =>
      if available k then
        let read := acquire S committed k own
        some ⟨read.2, pending, next read.1⟩
      else none
  | ⟨own, pending, .update k change next⟩ =>
      if available k then
        let read := acquire S committed k own
        match read.1.map (S.apply change) with
        | none | some (.ok none) => some ⟨read.2, pending, next 0⟩
        | some (.ok (some v')) => some ⟨replace S.key v' read.2, pending, next 1⟩
        | some (.error e) => some ⟨read.2, pending, .raise e⟩
      else none
  | ⟨own, pending, .append entry next⟩ => some ⟨own, pending ++ [entry], next⟩

/-- What an UPDATE does that reads `read` and has the rows `own` then. -/
inductive Updated (change : Δ) (next : Nat → Prog K V Δ L E R) (read : Option V) (own : List V) :
    List V → Prog K V Δ L E R → Prop where
  | missing (absent : read = none) : Updated change next read own own (next 0)
  | kept {v} (found : read = some v) (applied : S.apply change v = .ok none) :
      Updated change next read own own (next 0)
  | changed {v v'} (found : read = some v) (applied : S.apply change v = .ok (some v')) :
      Updated change next read own (replace S.key v' own) (next 1)
  | failed {v e} (found : read = some v) (applied : S.apply change v = .error e) :
      Updated change next read own own (.raise e)

variable {S} {committed : Store V L} {available : K → Bool} {k : K} {own : List V}
  {pending : List L} {work' : Work K V Δ L E R}

theorem Work.step_lock {next : Option V → Prog K V Δ L E R}
    (h : Work.step S committed available ⟨own, pending, .lock k next⟩ = some work') :
    available k = true ∧
      work' = ⟨(acquire S committed k own).2, pending, next (acquire S committed k own).1⟩ := by
  simp only [Work.step] at h
  split at h
  · exact ⟨‹_›, (Option.some.inj h).symm⟩
  · cases h

theorem Work.step_update {change : Δ} {next : Nat → Prog K V Δ L E R}
    (h : Work.step S committed available ⟨own, pending, .update k change next⟩ = some work') :
    available k = true ∧ ∃ own' rest, work' = ⟨own', pending, rest⟩ ∧
      Updated S change next (acquire S committed k own).1 (acquire S committed k own).2 own' rest := by
  simp only [Work.step] at h
  split at h
  · refine ⟨‹_›, ?_⟩
    split at h <;> rename_i eq <;> cases h
    · exact ⟨_, _, rfl, .missing (Option.map_eq_none_iff.mp eq)⟩
    · obtain ⟨v, found, applied⟩ := Option.map_eq_some_iff.mp eq
      exact ⟨_, _, rfl, .kept found applied⟩
    · obtain ⟨v, found, applied⟩ := Option.map_eq_some_iff.mp eq
      exact ⟨_, _, rfl, .changed found applied⟩
    · obtain ⟨v, found, applied⟩ := Option.map_eq_some_iff.mp eq
      exact ⟨_, _, rfl, .failed found applied⟩
  · cases h

end

/-! ## Sessions -/

inductive Kind where
  | unitOfWork | readOnly
  deriving DecidableEq, Repr

inductive Job (K V Δ L E R : Type) where
  | refused (e : E)
  | block (kind : Kind) (body : Prog K V Δ L E R)

def Job.run (S : Schema K V Δ E) : Job K V Δ L E R → Store V L → Except E R × Store V L
  | .refused e, s => (.error e, s)
  | .block kind body, s =>
      match body.run S s, kind with
      | .ok (r, s'), .unitOfWork => (.ok r, s')
      | .ok (r, _), .readOnly => (.ok r, s)
      | .error e, _ => (.error e, s)

theorem Job.run_ok {S : Schema K V Δ E} {body : Prog K V Δ L E R} {s s' : Store V L} {r : R}
    (h : body.run S s = .ok (r, s')) : (Job.block .unitOfWork body).run S s = (.ok r, s') := by
  simp only [Job.run, h]

theorem Job.run_error {S : Schema K V Δ E} {body : Prog K V Δ L E R} {s : Store V L} {e : E}
    (h : body.run S s = .error e) : (Job.block .unitOfWork body).run S s = (.error e, s) := by
  simp only [Job.run, h]

inductive Phase (K V Δ L E R : Type) where
  | waiting
  | opened (body : Prog K V Δ L E R)
  | running (kind : Kind) (work : Work K V Δ L E R)
  /-- The block raised and is not rolled back yet. -/
  | failed (e : E) (own : List V)
  /-- Committed, rolled back or read, the connection not returned yet. -/
  | closing (result : Except E R)
  | finished (result : Except E R)

namespace Phase

def own : Phase K V Δ L E R → List V
  | .running _ work => work.own
  | .failed _ own => own
  | _ => []

/-- Between taking a connection and returning it. -/
def inside : Phase K V Δ L E R → Bool
  | .waiting | .finished _ => false
  | _ => true

def isFinished : Phase K V Δ L E R → Bool
  | .finished _ => true
  | _ => false

def result : Phase K V Δ L E R → Option (Except E R)
  | .closing r | .finished r => some r
  | _ => none

def raised : Phase K V Δ L E R → Option E
  | .failed e _ | .closing (.error e) | .finished (.error e) => some e
  | _ => none

end Phase

structure Session (K V Δ L E R : Type) where
  phase : Phase K V Δ L E R
  borrowed : Nat
  returned : Nat

/-! ## The machine -/

structure Machine (ι K V Δ L E R : Type) where
  committed : Store V L
  free : Nat
  sessions : ι → Session K V Δ L E R
  /-- The calls that came to their end, in that order. -/
  order : List ι

def start (n : Nat) (s : Store V L) : Machine ι K V Δ L E R :=
  ⟨s, n, fun _ => ⟨.waiting, 0, 0⟩, []⟩

def Kind.enter (body : Prog K V Δ L E R) : Kind → Phase K V Δ L E R
  | .unitOfWork => .opened body
  | .readOnly => .running .readOnly ⟨[], [], body⟩

namespace Machine
variable [DecidableEq ι]

def phase (m : Machine ι K V Δ L E R) (i : ι) : Phase K V Δ L E R := (m.sessions i).phase

def goto (m : Machine ι K V Δ L E R) (i : ι) (phase : Phase K V Δ L E R) :
    Machine ι K V Δ L E R :=
  { m with sessions := Function.update m.sessions i { m.sessions i with phase := phase } }

def finish (m : Machine ι K V Δ L E R) (i : ι) (phase : Phase K V Δ L E R) :
    Machine ι K V Δ L E R :=
  { m.goto i phase with order := m.order ++ [i] }

def borrow (m : Machine ι K V Δ L E R) (i : ι) (phase : Phase K V Δ L E R) :
    Machine ι K V Δ L E R :=
  { m with
    free := m.free - 1
    sessions := Function.update m.sessions i
      { m.sessions i with phase := phase, borrowed := (m.sessions i).borrowed + 1 } }

def giveBack (m : Machine ι K V Δ L E R) (i : ι) (phase : Phase K V Δ L E R) :
    Machine ι K V Δ L E R :=
  { m with
    free := m.free + 1
    sessions := Function.update m.sessions i
      { m.sessions i with phase := phase, returned := (m.sessions i).returned + 1 } }

variable [Fintype ι] (S : Schema K V Δ E) (jobs : ι → Job K V Δ L E R)

def available (m : Machine ι K V Δ L E R) (i : ι) (k : K) : Bool :=
  decide (∀ j, j ≠ i → lookup S.key k (m.phase j).own = none)

def commit (m : Machine ι K V Δ L E R) (work : Work K V Δ L E R) : Machine ι K V Δ L E R :=
  { m with committed := view S work.own work.pending m.committed }

def step (m : Machine ι K V Δ L E R) (i : ι) : Option (Machine ι K V Δ L E R) :=
  match m.phase i with
  | .waiting =>
      match jobs i with
      | .refused e => some (m.finish i (.finished (.error e)))
      | .block kind body => if m.free = 0 then none else some (m.borrow i (kind.enter body))
  | .opened body => some (m.goto i (.running .unitOfWork ⟨[], [], body⟩))
  | .running kind work =>
      match work.rest, kind with
      | .done r, .unitOfWork => some ((m.commit S work).finish i (.closing (.ok r)))
      | .done r, .readOnly => some (m.finish i (.closing (.ok r)))
      | .raise e, .unitOfWork => some (m.goto i (.failed e work.own))
      | .raise e, .readOnly => some (m.finish i (.closing (.error e)))
      | _, _ =>
          (work.step S m.committed (m.available S i)).map fun work' =>
            m.goto i (.running kind work')
  | .failed e _ => some (m.finish i (.closing (.error e)))
  | .closing r => some (m.giveBack i (.finished r))
  | .finished _ => none

/-- Call `i` fails where it stands: the step it was at raises `e`. -/
def fault (m : Machine ι K V Δ L E R) (i : ι) (e : E) : Option (Machine ι K V Δ L E R) :=
  match m.phase i with
  | .waiting => some (m.finish i (.finished (.error e)))
  | .opened _ => some (m.goto i (.failed e []))
  | .running .unitOfWork work => some (m.goto i (.failed e work.own))
  | .running .readOnly _ => some (m.finish i (.closing (.error e)))
  | _ => none

inductive Reachable (faults : Bool) (init : Machine ι K V Δ L E R) :
    Machine ι K V Δ L E R → Prop where
  | start : Reachable faults init init
  | step {m m' : Machine ι K V Δ L E R} (i : ι) (reached : Reachable faults init m)
      (next : m.step S jobs i = some m') : Reachable faults init m'
  | fault {m m' : Machine ι K V Δ L E R} (i : ι) (e : E) (allowed : faults = true)
      (reached : Reachable faults init m) (next : m.fault i e = some m') :
      Reachable faults init m'

inductive Step (m : Machine ι K V Δ L E R) (i : ι) : Machine ι K V Δ L E R → Prop where
  | refuse {e} (phase : m.phase i = .waiting) (job : jobs i = .refused e) :
      Step m i (m.finish i (.finished (.error e)))
  | borrow {kind body} (phase : m.phase i = .waiting) (job : jobs i = .block kind body)
      (free : m.free ≠ 0) : Step m i (m.borrow i (kind.enter body))
  | begin {body} (phase : m.phase i = .opened body) :
      Step m i (m.goto i (.running .unitOfWork ⟨[], [], body⟩))
  | commit {own pending r} (phase : m.phase i = .running .unitOfWork ⟨own, pending, .done r⟩) :
      Step m i ((m.commit S ⟨own, pending, .done r⟩).finish i (.closing (.ok r)))
  | read {own pending r} (phase : m.phase i = .running .readOnly ⟨own, pending, .done r⟩) :
      Step m i (m.finish i (.closing (.ok r)))
  | fail {own pending e} (phase : m.phase i = .running .unitOfWork ⟨own, pending, .raise e⟩) :
      Step m i (m.goto i (.failed e own))
  | failRead {own pending e} (phase : m.phase i = .running .readOnly ⟨own, pending, .raise e⟩) :
      Step m i (m.finish i (.closing (.error e)))
  | work {kind work work'} (phase : m.phase i = .running kind work)
      (advance : work.step S m.committed (m.available S i) = some work') :
      Step m i (m.goto i (.running kind work'))
  | rollback {e own} (phase : m.phase i = .failed e own) :
      Step m i (m.finish i (.closing (.error e)))
  | giveBack {r} (phase : m.phase i = .closing r) : Step m i (m.giveBack i (.finished r))

theorem step_cases {m m' : Machine ι K V Δ L E R} {i : ι} (h : m.step S jobs i = some m') :
    Step S jobs m i m' := by
  unfold step at h
  split at h
  · rename_i phase
    split at h
    · cases h
      exact .refuse phase ‹_›
    · split at h
      · cases h
      · cases h
        exact .borrow phase ‹_› ‹_›
  · cases h
    exact .begin ‹_›
  · rename_i kind work phase
    obtain ⟨own, pending, rest⟩ := work
    split at h
    · rename_i r done
      obtain rfl : rest = .done r := done
      cases h
      exact .commit phase
    · rename_i r done
      obtain rfl : rest = .done r := done
      cases h
      exact .read phase
    · rename_i e raised
      obtain rfl : rest = .raise e := raised
      cases h
      exact .fail phase
    · rename_i e raised
      obtain rfl : rest = .raise e := raised
      cases h
      exact .failRead phase
    · obtain ⟨work', advance, rfl⟩ := Option.map_eq_some_iff.mp h
      exact .work phase advance
  · cases h
    exact .rollback ‹_›
  · cases h
    exact .giveBack ‹_›
  · cases h

inductive Fault (m : Machine ι K V Δ L E R) (i : ι) (e : E) : Machine ι K V Δ L E R → Prop where
  | connect (phase : m.phase i = .waiting) : Fault m i e (m.finish i (.finished (.error e)))
  | begin {body} (phase : m.phase i = .opened body) : Fault m i e (m.goto i (.failed e []))
  | work {work} (phase : m.phase i = .running .unitOfWork work) :
      Fault m i e (m.goto i (.failed e work.own))
  | read {work} (phase : m.phase i = .running .readOnly work) :
      Fault m i e (m.finish i (.closing (.error e)))

omit [DecidableEq K] [Fintype ι] in
theorem fault_cases {m m' : Machine ι K V Δ L E R} {i : ι} {e : E} (h : m.fault i e = some m') :
    Fault m i e m' := by
  unfold fault at h
  split at h <;> cases h
  · exact .connect ‹_›
  · exact .begin ‹_›
  · exact .work ‹_›
  · exact .read ‹_›

def follow (schedule : List ι) (m : Machine ι K V Δ L E R) : Option (Machine ι K V Δ L E R) :=
  schedule.foldlM (fun m i => m.step S jobs i) m

theorem Reachable.follow {faults : Bool} {init m m' : Machine ι K V Δ L E R} {schedule : List ι}
    (reached : Reachable S jobs faults init m) (h : m.follow S jobs schedule = some m') :
    Reachable S jobs faults init m' :=
  foldlM_keeps (fun _ i _ reached next => reached.step i next) reached h

/-! ## Phases after a change of one session -/

section
omit [DecidableEq K] [Fintype ι]
variable (m : Machine ι K V Δ L E R) (i : ι) (p : Phase K V Δ L E R)

theorem phase_goto : (m.goto i p).phase = Function.update m.phase i p := by
  funext j
  by_cases h : j = i
  · subst h
    simp [goto, phase]
  · simp [goto, phase, h]

theorem phase_finish : (m.finish i p).phase = Function.update m.phase i p := m.phase_goto i p

theorem phase_borrow : (m.borrow i p).phase = Function.update m.phase i p := by
  funext j
  by_cases h : j = i
  · subst h
    simp [borrow, phase]
  · simp [borrow, phase, h]

theorem phase_giveBack : (m.giveBack i p).phase = Function.update m.phase i p := by
  funext j
  by_cases h : j = i
  · subst h
    simp [giveBack, phase]
  · simp [giveBack, phase, h]

end

end Machine

end Corebank.Library.TwoPhase
