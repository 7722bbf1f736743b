import Corebank.Library.Serial

/-! # Every reachable state of the machine is that of a serial run -/

namespace Corebank.Library.TwoPhase
open Keyed

variable {K V Δ L E R ι : Type} [DecidableEq K] [DecidableEq ι] [Fintype ι]
  {S : Schema K V Δ E} {jobs : ι → Job K V Δ L E R} {m m' : Machine ι K V Δ L E R} {i : ι}

/-! ## Locks -/

structure Locked (S : Schema K V Δ E) (m : Machine ι K V Δ L E R) : Prop where
  rows : (m.committed.rows.map S.key).Nodup
  holds : ∀ i, Holds (S := S) m.committed (m.phase i).own
  exclusive : ∀ i j, i ≠ j → ∀ k ∈ (m.phase i).own.map S.key, lookup S.key k (m.phase j).own = none

theorem available_iff {k : K} :
    m.available S i k = true ↔ ∀ j, j ≠ i → lookup S.key k (m.phase j).own = none := by
  simp [Machine.available]

omit [DecidableEq ι] [Fintype ι] in
theorem lookup_none_iff {k : K} {own : List V} :
    lookup S.key k own = none ↔ k ∉ own.map S.key := by
  simp [lookup_eq_none]

def MovesLocks (S : Schema K V Δ E) (m : Machine ι K V Δ L E R) (i : ι)
    (m' : Machine ι K V Δ L E R) : Prop :=
  ∃ p, m'.phase = Function.update m.phase i p ∧
    m'.committed.rows.map S.key = m.committed.rows.map S.key ∧
    (p.own = [] ∨ Grows (S := S) m.committed (m.available S i) ((m.phase i).own.map S.key)
      (p.own.map S.key))

theorem step_moves (h : Machine.Step S jobs m i m') : MovesLocks S m i m' := by
  cases h with
  | refuse phase job => exact ⟨_, m.phase_finish i _, rfl, Or.inl rfl⟩
  | @borrow kind body phase job free =>
      refine ⟨_, m.phase_borrow i _, rfl, Or.inl ?_⟩
      cases kind <;> rfl
  | begin phase => exact ⟨_, m.phase_goto i _, rfl, Or.inl rfl⟩
  | commit phase =>
      exact ⟨_, (m.commit S _).phase_finish i _, keys_view _ _ _, Or.inl rfl⟩
  | read phase => exact ⟨_, m.phase_finish i _, rfl, Or.inl rfl⟩
  | fail phase => exact ⟨_, m.phase_goto i _, rfl, Or.inr (Or.inl (by rw [phase]; rfl))⟩
  | failRead phase => exact ⟨_, m.phase_finish i _, rfl, Or.inl rfl⟩
  | work phase advance =>
      refine ⟨_, m.phase_goto i _, rfl, Or.inr ?_⟩
      rw [phase]
      exact Work.step_grows advance
  | rollback phase => exact ⟨_, m.phase_finish i _, rfl, Or.inl rfl⟩
  | giveBack phase => exact ⟨_, m.phase_giveBack i _, rfl, Or.inl rfl⟩

theorem fault_moves {e : E} (h : Machine.Fault m i e m') : MovesLocks S m i m' := by
  cases h with
  | connect phase => exact ⟨_, m.phase_finish i _, rfl, Or.inl rfl⟩
  | begin phase => exact ⟨_, m.phase_goto i _, rfl, Or.inl rfl⟩
  | work phase => exact ⟨_, m.phase_goto i _, rfl, Or.inr (Or.inl (by rw [phase]; rfl))⟩
  | read phase => exact ⟨_, m.phase_finish i _, rfl, Or.inl rfl⟩

theorem Locked.moves (locked : Locked S m) (moves : MovesLocks S m i m') : Locked S m' := by
  obtain ⟨p, phases, keys, change⟩ := moves
  have rows : (m'.committed.rows.map S.key).Nodup := keys ▸ locked.rows
  have holds_p : Holds (S := S) m.committed p.own := by
    rcases change with none | grows
    · rw [none]
      exact ⟨locked.rows, List.nodup_nil, by simp⟩
    · exact (locked.holds i).grows grows
  have transfer {own : List V} (h : Holds (S := S) m.committed own) :
      Holds (S := S) m'.committed own :=
    ⟨rows, h.nodup, fun v mem => keys ▸ h.known v mem⟩
  -- a key session `i` has now it had before, or nobody had it
  have gained (k : K) (mem : k ∈ p.own.map S.key) (j : ι) (ne : j ≠ i) :
      k ∉ (m.phase j).own.map S.key := by
    rcases change with none | same | ⟨k', same, -, -, free⟩
    · simp [none] at mem
    · rw [same] at mem
      exact lookup_none_iff.mp (locked.exclusive i j ne.symm k mem)
    · rw [same, List.mem_cons] at mem
      rcases mem with rfl | mem
      · exact lookup_none_iff.mp (available_iff.mp free j ne)
      · exact lookup_none_iff.mp (locked.exclusive i j ne.symm k mem)
  refine ⟨rows, ?_, fun j j' ne k mem => ?_⟩
  · rw [phases]
    exact (Function.forall_update_iff m.phase fun _ p => Holds (S := S) m'.committed p.own).mpr
      ⟨transfer holds_p, fun j _ => transfer (locked.holds j)⟩
  · rw [lookup_none_iff, phases] at *
    by_cases same : j = i
    · subst same
      rw [Function.update_self] at mem
      rw [Function.update_of_ne ne.symm]
      exact gained k mem j' ne.symm
    · rw [Function.update_of_ne same] at mem
      by_cases same' : j' = i
      · subst same'
        rw [Function.update_self]
        exact fun mem' => gained k mem' j same mem
      · rw [Function.update_of_ne same']
        exact lookup_none_iff.mp (locked.exclusive j j' ne k mem)

omit [DecidableEq ι] [Fintype ι] in
theorem locked_start {n : Nat} {s : Store V L} (nodup : (s.rows.map S.key).Nodup) :
    Locked S (start n s : Machine ι K V Δ L E R) where
  rows := nodup
  holds _ := ⟨nodup, List.nodup_nil, by simp [Machine.phase, start, Phase.own]⟩
  exclusive _ _ _ _ mem := by simp [Machine.phase, start, Phase.own] at mem

theorem Reachable.locked {faults : Bool} {n : Nat} {s : Store V L}
    (nodup : (s.rows.map S.key).Nodup)
    (reached : Machine.Reachable S jobs faults (start n s) m) : Locked S m := by
  induction reached with
  | start => exact locked_start nodup
  | step i _ next ih => exact ih.moves (step_moves (Machine.step_cases S jobs next))
  | fault i e _ _ next ih => exact ih.moves (fault_moves (Machine.fault_cases next))

/-! ## The serial run -/

variable (S jobs) in
def after (order : List ι) (s : Store V L) : Store V L :=
  order.foldl (fun s i => ((jobs i).run S s).2) s

omit [DecidableEq ι] [Fintype ι] in
theorem after_concat (order : List ι) (i : ι) (s : Store V L) :
    after S jobs (order ++ [i]) s = ((jobs i).run S (after S jobs order s)).2 := by
  rw [after, List.foldl_append]
  rfl

/-- Units of work that read rows only under their locks. -/
def Job.Locking : Job K V Δ L E R → Prop
  | .refused _ => True
  | .block kind body => kind = .unitOfWork ∧ body.Locking

variable (S jobs) in
/-- What call `i` has done so far it would have done on every store that agrees with the committed
one on its rows. -/
def Follows (committed : Store V L) (i : ι) : Phase K V Δ L E R → Prop
  | .opened body => jobs i = .block .unitOfWork body
  | .running kind work => kind = .unitOfWork ∧ work.rest.Locking ∧
      ∃ body, jobs i = .block .unitOfWork body ∧
        ∀ s, Agrees S (work.own.map S.key) committed s →
          body.run S s = work.rest.run S (view S work.own work.pending s)
  | .failed e own => ∃ body, jobs i = .block .unitOfWork body ∧
      ∀ s, Agrees S (own.map S.key) committed s → body.run S s = .error e
  | _ => True

omit [DecidableEq ι] [Fintype ι] in
theorem Follows.mono {committed committed' : Store V L} {p : Phase K V Δ L E R}
    (follows : Follows S jobs committed i p)
    (agrees : Agrees S (p.own.map S.key) committed committed') :
    Follows S jobs committed' i p := by
  cases p with
  | running kind work =>
      obtain ⟨unit, locking, body, job, same⟩ := follows
      exact ⟨unit, locking, body, job, fun s agrees' => same s (agrees.trans agrees')⟩
  | failed e own =>
      obtain ⟨body, job, same⟩ := follows
      exact ⟨body, job, fun s agrees' => same s (agrees.trans agrees')⟩
  | opened body => exact follows
  | waiting => trivial
  | closing r => trivial
  | finished r => trivial

omit [DecidableEq ι] [Fintype ι] in
theorem Locked.agrees_commit (locked : Locked S m) {j : ι} (ne : j ≠ i)
    {work : Work K V Δ L E R} (own : (m.phase i).own = work.own) :
    Agrees S ((m.phase j).own.map S.key) m.committed (m.commit S work).committed := by
  refine ⟨keys_view _ _ _, fun k mem => ?_⟩
  have foreign : lookup S.key k work.own = none := own ▸ locked.exclusive j i ne k mem
  rw [Machine.commit, lookup_view, foreign]
  cases lookup S.key k m.committed.rows with
  | none => rfl
  | some v => rfl

variable (S jobs) in
structure Serial (init : Store V L) (m : Machine ι K V Δ L E R) : Prop where
  locked : Locked S m
  follows : ∀ i, Follows S jobs m.committed i (m.phase i)
  committed : m.committed = after S jobs m.order init
  nodup : m.order.Nodup
  ended : ∀ i, i ∈ m.order ↔ (m.phase i).result.isSome
  results : ∀ before i later, m.order = before ++ i :: later →
    (m.phase i).result = some ((jobs i).run S (after S jobs before init)).1

variable {init : Store V L}

omit [Fintype ι] in
theorem Serial.goto (serial : Serial S jobs init m) (locked : Locked S m')
    {p : Phase K V Δ L E R} (phases : m'.phase = Function.update m.phase i p)
    (committed : m'.committed = m.committed) (order : m'.order = m.order)
    (result : p.result = (m.phase i).result) (follows : Follows S jobs m.committed i p) :
    Serial S jobs init m' := by
  have results : ∀ j, (m'.phase j).result = (m.phase j).result := by
    rw [phases]
    exact (Function.forall_update_iff m.phase fun j p => p.result = (m.phase j).result).mpr
      ⟨result, fun _ _ => rfl⟩
  refine ⟨locked, ?_, by rw [committed, order, serial.committed], by
    rw [order]; exact serial.nodup, fun j => by rw [order, results]; exact serial.ended j,
    fun before j later => by rw [order, results]; exact serial.results before j later⟩
  rw [committed, phases]
  exact (Function.forall_update_iff m.phase (Follows S jobs m.committed)).mpr
    ⟨follows, fun j _ => serial.follows j⟩

omit [Fintype ι] in
theorem Serial.finish (serial : Serial S jobs init m) (locked : Locked S m')
    {p : Phase K V Δ L E R} {r : Except E R}
    (phases : m'.phase = Function.update m.phase i p) (order : m'.order = m.order ++ [i])
    (open_ : (m.phase i).result = none) (result : p.result = some r)
    (run : (jobs i).run S m.committed = (r, m'.committed))
    (trivially : ∀ committed, Follows S jobs committed i p)
    (agrees : ∀ j, j ≠ i → Agrees S ((m.phase j).own.map S.key) m.committed m'.committed) :
    Serial S jobs init m' := by
  have fresh : i ∉ m.order := by
    rw [serial.ended, open_]
    simp
  refine ⟨locked, ?_, ?_, ?_, fun j => ?_, fun before j later eq => ?_⟩
  · rw [phases]
    exact (Function.forall_update_iff m.phase (Follows S jobs m'.committed)).mpr
      ⟨trivially _, fun j ne => (serial.follows j).mono (agrees j ne)⟩
  · rw [order, after_concat, ← serial.committed, run]
  · rw [order]
    refine List.nodup_append.mpr ⟨serial.nodup, List.nodup_singleton i, fun a mem b single eq => ?_⟩
    rw [List.mem_singleton] at single
    exact fresh (single ▸ eq ▸ mem)
  · rw [order, phases, List.mem_append, List.mem_singleton]
    by_cases same : j = i
    · subst same
      simp [result]
    · rw [Function.update_of_ne same]
      simpa [same] using serial.ended j
  · rw [order] at eq
    rw [phases]
    rcases List.eq_nil_or_concat later with rfl | ⟨later', last, rfl⟩
    · obtain ⟨rfl, same⟩ := List.append_inj' eq rfl
      obtain rfl : i = j := List.singleton_inj.mp same
      rw [Function.update_self, result, ← serial.committed, run]
    · rw [List.concat_eq_append, ← List.cons_append, ← List.append_assoc] at eq
      obtain ⟨inner, -⟩ := List.append_inj' eq rfl
      have mem : j ∈ m.order := inner ▸ List.mem_append_right _ List.mem_cons_self
      have ne : j ≠ i := fun same => fresh (same ▸ mem)
      rw [Function.update_of_ne ne]
      exact serial.results before j later' inner

theorem Serial.step (serial : Serial S jobs init m) (locking : ∀ i, (jobs i).Locking)
    (h : Machine.Step S jobs m i m') : Serial S jobs init m' := by
  have locked : Locked S m' := serial.locked.moves (step_moves h)
  have follows := serial.follows i
  have same (j : ι) : Agrees S ((m.phase j).own.map S.key) m.committed m.committed :=
    agrees_refl S _ _
  cases h with
  | refuse phase job =>
      exact serial.finish locked (m.phase_finish i _) rfl (by rw [phase]; rfl) rfl
        (by rw [job]; rfl) (fun _ => trivial) fun j _ => same j
  | @borrow kind body phase job free =>
      obtain ⟨rfl, -⟩ : kind = .unitOfWork ∧ body.Locking := by
        have := locking i
        rwa [job] at this
      exact serial.goto locked (m.phase_borrow i _) rfl rfl (by rw [phase]; rfl) job
  | @begin body phase =>
      rw [phase] at follows
      have job : jobs i = .block .unitOfWork body := follows
      have body_locking : body.Locking := by
        have := locking i
        rw [job] at this
        exact this.2
      refine serial.goto locked (m.phase_goto i _) rfl rfl (by rw [phase]; rfl)
        ⟨rfl, body_locking, body, job, fun s _ => ?_⟩
      rw [view_nil]
  | @commit own pending r phase =>
      rw [phase] at follows
      obtain ⟨-, -, body, job, same⟩ := follows
      refine serial.finish locked ((m.commit S _).phase_finish i _) rfl (by rw [phase]; rfl) rfl ?_
        (fun _ => trivial) fun j ne => serial.locked.agrees_commit ne (by rw [phase]; rfl)
      rw [job]
      exact Job.run_ok (same m.committed (agrees_refl S _ _))
  | read phase =>
      rw [phase] at follows
      cases follows.1
  | fail phase =>
      rw [phase] at follows
      obtain ⟨-, -, body, job, same⟩ := follows
      exact serial.goto locked (m.phase_goto i _) rfl rfl (by rw [phase]; rfl)
        ⟨body, job, fun s agrees => same s agrees⟩
  | failRead phase =>
      rw [phase] at follows
      cases follows.1
  | @work kind work work' phase advance =>
      rw [phase] at follows
      obtain ⟨unit, rest, body, job, same⟩ := follows
      have holds : Holds (S := S) m.committed work.own := by
        have := serial.locked.holds i
        rwa [phase] at this
      refine serial.goto locked (m.phase_goto i _) rfl rfl (by rw [phase]; rfl)
        ⟨unit, Work.step_locking rest advance, body, job, fun s agrees => ?_⟩
      rw [← Work.step_run rest holds advance agrees]
      refine same s (agrees.mono fun k mem => ?_)
      rcases Work.step_grows advance with eq | ⟨k', eq, -⟩
      · rwa [eq]
      · rw [eq]
        exact List.mem_cons_of_mem _ mem
  | @rollback e own phase =>
      rw [phase] at follows
      obtain ⟨body, job, raises⟩ := follows
      refine serial.finish locked (m.phase_finish i _) rfl (by rw [phase]; rfl) rfl ?_
        (fun _ => trivial) fun j _ => same j
      rw [job]
      exact Job.run_error (raises m.committed (agrees_refl S _ _))
  | giveBack phase =>
      exact serial.goto locked (m.phase_giveBack i _) rfl rfl (by rw [phase]; rfl) trivial

omit [DecidableEq ι] [Fintype ι] in
theorem serial_start {n : Nat} (nodup : (init.rows.map S.key).Nodup) :
    Serial S jobs init (start n init) where
  locked := locked_start nodup
  follows _ := trivial
  committed := rfl
  nodup := List.nodup_nil
  ended _ := by simp [Machine.phase, start, Phase.result]
  results before i later eq := by simp [start] at eq

theorem Reachable.serial (locking : ∀ i, (jobs i).Locking) {n : Nat}
    (nodup : (init.rows.map S.key).Nodup)
    (reached : Machine.Reachable S jobs false (start n init) m) : Serial S jobs init m := by
  induction reached with
  | start => exact serial_start nodup
  | step i _ next ih => exact ih.step locking (Machine.step_cases S jobs next)
  | fault i e allowed => cases allowed

omit [DecidableEq ι] [Fintype ι] in
theorem Serial.raised (serial : Serial S jobs init m) {e : E} (raised : (m.phase i).raised = some e) :
    ∃ before, before.Nodup ∧ i ∉ before ∧
      ((jobs i).run S (after S jobs before init)).1 = .error e := by
  have ended (result : (m.phase i).result = some (.error e)) : ∃ before, before.Nodup ∧
      i ∉ before ∧ ((jobs i).run S (after S jobs before init)).1 = .error e := by
    have mem : i ∈ m.order := by
      rw [serial.ended, result]
      rfl
    obtain ⟨before, later, eq⟩ := List.append_of_mem mem
    have split := List.nodup_append.mp (eq ▸ serial.nodup)
    have run := serial.results before i later eq
    rw [result] at run
    exact ⟨before, split.1, fun mem => split.2.2 i mem i List.mem_cons_self rfl,
      (Option.some.inj run).symm⟩
  cases phase : m.phase i with
  | failed e' own =>
      have follows := serial.follows i
      rw [phase] at raised follows
      cases raised
      obtain ⟨body, job, raises⟩ := follows
      refine ⟨m.order, serial.nodup, ?_, ?_⟩
      · rw [serial.ended, phase]
        simp [Phase.result]
      · rw [← serial.committed, job, Job.run_error (raises m.committed (agrees_refl S _ _))]
  | closing r =>
      rw [phase] at raised
      cases r with
      | ok r => cases raised
      | error e' =>
          cases raised
          exact ended (by rw [phase]; rfl)
  | finished r =>
      rw [phase] at raised
      cases r with
      | ok r => cases raised
      | error e' =>
          cases raised
          exact ended (by rw [phase]; rfl)
  | _ =>
      rw [phase] at raised
      cases raised

end Corebank.Library.TwoPhase
