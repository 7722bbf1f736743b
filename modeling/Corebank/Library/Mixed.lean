import Corebank.Library.Progress

/-!
# Writers, readers and calls that fail

Units of work whose plain SELECTs depend on nothing but rows they hold, blocks that read once, and
failures at any step: what is committed is a serial run of the units of work that committed, and every
reader saw the state after some of them.
-/

namespace Corebank.Library.TwoPhase
open Keyed

variable {K V Δ L E R ι : Type} [DecidableEq K] {S : Schema K V Δ E}

/-! ## SELECTs of rows that are held -/

variable (S) in
/-- Every plain SELECT of the program depends on rows it holds by then. -/
inductive Prog.Covered : Set K → Prog K V Δ L E R → Prop where
  | done {held r} : Covered held (.done r)
  | raise {held e} : Covered held (.raise e)
  | select {held next} (only : ∀ s s' : Store V L,
      (∀ k ∈ held, lookup S.key k s'.rows = lookup S.key k s.rows) → next s' = next s)
      (each : ∀ s, Covered held (next s)) : Covered held (.select next)
  | lock {held k next} (found : ∀ v, Covered (insert k held) (next (some v)))
      (missing : Covered held (next none)) : Covered held (.lock k next)
  | update {held k change next} (found : ∀ n, Covered (insert k held) (next n))
      (missing : Covered held (next 0)) : Covered held (.update k change next)
  | append {held entry next} (rest : Covered held next) : Covered held (.append entry next)

theorem Prog.Locking.covered {p : Prog K V Δ L E R} (locking : p.Locking) (held : Set K) :
    p.Covered S held := by
  induction p generalizing held with
  | done r => exact .done
  | raise e => exact .raise
  | select next ih => exact locking.elim
  | lock k next ih => exact .lock (fun v => ih _ (locking _) _) (ih _ (locking _) _)
  | update k change next ih => exact .update (fun n => ih _ (locking _) _) (ih _ (locking _) _)
  | append entry next ih => exact .append (ih locking _)

theorem Work.step_covered {committed : Store V L} {available : K → Bool} {work work' : Work K V Δ L E R}
    (covered : work.rest.Covered S (keys S work.own))
    (h : work.step S committed available = some work') :
    work'.rest.Covered S (keys S work'.own) := by
  obtain ⟨own, pending, rest⟩ := work
  cases covered with
  | done => cases h
  | raise => cases h
  | select only each =>
      cases h
      exact each _
  | append rest =>
      cases h
      exact rest
  | @lock _ k next found missing =>
      obtain ⟨-, rfl⟩ := Work.step_lock h
      rcases keys_acquire (S := S) committed k own with ⟨v, read, same⟩ | ⟨read, same⟩ <;>
        simp only [read, same]
      · exact found v
      · exact missing
  | @update _ k change next found missing =>
      obtain ⟨-, own', rest, rfl, updated⟩ := Work.step_update h
      have same' : keys S own' = keys S (acquire S committed k own).2 := by
        rw [keys, updated.keys, keys]
      simp only [same']
      rcases keys_acquire (S := S) committed k own with ⟨v, read, same⟩ | ⟨read, same⟩ <;> rw [same]
      · cases updated with
        | missing absent =>
            rw [absent] at read
            cases read
        | kept | changed => exact found _
        | failed => exact .raise
      · cases updated with
        | missing => exact missing
        | kept found | changed found | failed found =>
            rw [read] at found
            cases found

/-- What a session sees of the rows it has, it sees in any agreeing store. -/
theorem lookup_view_own {committed s : Store V L} {own : List V} {k : K} (mine : k ∈ keys S own)
    (pending : List L) (agrees : Agrees S (own.map S.key) committed s) :
    lookup S.key k (view S own pending s).rows = lookup S.key k (view S own pending committed).rows := by
  rw [lookup_view, lookup_view, agrees.rows k mine]

/-- A statement does to the view of any agreeing store what it does alone. -/
theorem Work.step_run_covered {committed s : Store V L} {available : K → Bool}
    {work work' : Work K V Δ L E R} (covered : work.rest.Covered S (keys S work.own))
    (holds : Holds (S := S) committed work.own) (h : work.step S committed available = some work')
    (agrees : Agrees S (work'.own.map S.key) committed s) :
    work.rest.run S (view S work.own work.pending s) =
      work'.rest.run S (view S work'.own work'.pending s) := by
  by_cases selects : ∃ next, work.rest = .select next
  · obtain ⟨own, pending, rest⟩ := work
    obtain ⟨next, rfl⟩ := selects
    cases h
    cases covered with
    | select only each =>
        simp only [Prog.run]
        rw [only _ _ fun k mine => lookup_view_own mine pending agrees]
  · exact Work.step_run_of_ne (fun next eq => selects ⟨next, eq⟩) holds h agrees

/-! ## Jobs -/

def Prog.Ended : Prog K V Δ L E R → Prop
  | .done _ | .raise _ => True
  | _ => False

/-- A program that reads once, and then knows what to answer. -/
def Prog.ReadsOnce : Prog K V Δ L E R → Prop
  | .done _ | .raise _ => True
  | .select next => ∀ s, (next s).Ended
  | _ => False

variable (S) in
def Job.Covered : Job K V Δ L E R → Prop
  | .refused _ => True
  | .block .unitOfWork body => body.Covered S ∅
  | .block .readOnly body => body.ReadsOnce

variable [DecidableEq ι] [Fintype ι] {jobs : ι → Job K V Δ L E R} {m m' : Machine ι K V Δ L E R} {i : ι}
  {init : Store V L}

/-! ## What has committed -/

/-- A unit of work that has come to a good end. -/
def Job.lands : Job K V Δ L E R → Option (Except E R) → Bool
  | .block .unitOfWork _, some (.ok _) => true
  | _, _ => false

variable (jobs) in
/-- The units of work that committed, in the order of their commits. -/
def landed (m : Machine ι K V Δ L E R) : List ι :=
  m.order.filter fun i => (jobs i).lands (m.phase i).result

omit [DecidableEq K] [DecidableEq ι] [Fintype ι] in
theorem landed_same (order : m'.order = m.order)
    (results : ∀ j, (m'.phase j).result = (m.phase j).result) : landed jobs m' = landed jobs m := by
  simp only [landed, order, results]

omit [DecidableEq K] [Fintype ι] in
theorem landed_finish {p : Phase K V Δ L E R} (phases : m'.phase = Function.update m.phase i p)
    (order : m'.order = m.order ++ [i]) (fresh : i ∉ m.order) :
    landed jobs m' = landed jobs m ++ if (jobs i).lands p.result then [i] else [] := by
  have others : m.order.filter (fun j => (jobs j).lands (m'.phase j).result) = landed jobs m := by
    refine List.filter_congr fun j mem => ?_
    have ne : j ≠ i := fun same => fresh (same ▸ mem)
    rw [phases, Function.update_of_ne ne]
  rw [landed, order, List.filter_append, others, List.filter_singleton, phases, Function.update_self,
    cond_eq_ite]

/-! ## The invariant -/

variable (S jobs) in
/-- What call `i` is about to do: a unit of work does what it would do on every store that agrees with
the committed one on its rows, and a reader what it would do after some of the commits, `early` ones
among them. -/
def Tracks (committed : Store V L) (early commits : List ι) (init : Store V L) (i : ι) :
    Phase K V Δ L E R → Prop
  | .opened body => jobs i = .block .unitOfWork body
  | .running .unitOfWork work => work.rest.Covered S (keys S work.own) ∧
      ∃ body, jobs i = .block .unitOfWork body ∧
        ∀ s, Agrees S (work.own.map S.key) committed s →
          body.run S s = work.rest.run S (view S work.own work.pending s)
  | .running .readOnly work => work.own = [] ∧ work.pending = [] ∧
      ∃ body, jobs i = .block .readOnly body ∧
        (work.rest = body ∧ body.ReadsOnce ∨
          work.rest.Ended ∧ ∃ before, early <+: before ∧ before <+: commits ∧
            body.run S (after S jobs before init) = work.rest.run S (after S jobs before init))
  | _ => True

omit [DecidableEq ι] [Fintype ι] in
theorem Tracks.mono {committed committed' : Store V L} {early commits commits' : List ι}
    {p : Phase K V Δ L E R} (tracks : Tracks S jobs committed early commits init i p)
    (agrees : Agrees S (p.own.map S.key) committed committed') (longer : commits <+: commits') :
    Tracks S jobs committed' early commits' init i p := by
  cases p with
  | running kind work =>
      cases kind with
      | unitOfWork =>
          obtain ⟨covered, body, job, same⟩ := tracks
          exact ⟨covered, body, job, fun s agrees' => same s (agrees.trans agrees')⟩
      | readOnly =>
          obtain ⟨own, pending, body, job, fresh | ⟨ended, before, le, done, same⟩⟩ := tracks
          · exact ⟨own, pending, body, job, Or.inl fresh⟩
          · exact ⟨own, pending, body, job, Or.inr ⟨ended, before, le, done.trans longer, same⟩⟩
  | opened body => exact tracks
  | _ => trivial

variable (S jobs) in
/-- The commits `early i` come before call `i`. -/
structure Mixed (init : Store V L) (early : ι → List ι) (m : Machine ι K V Δ L E R) : Prop where
  locked : Locked S m
  tracks : ∀ i, Tracks S jobs m.committed (early i) (landed jobs m) init i (m.phase i)
  committed : m.committed = after S jobs (landed jobs m) init
  nodup : m.order.Nodup
  ended : ∀ i, i ∈ m.order ↔ (m.phase i).result.isSome
  known : ∀ i, (m.phase i).result = none → early i <+: landed jobs m
  results : ∀ before i later, landed jobs m = before ++ i :: later → early i <+: before ∧
    (m.phase i).result = some ((jobs i).run S (after S jobs before init)).1
  reads : ∀ i r, (jobs i).lands (some (.ok r)) = false → (m.phase i).result = some (.ok r) →
    ∃ before, early i <+: before ∧ before <+: landed jobs m ∧
      ((jobs i).run S (after S jobs before init)).1 = .ok r

variable {early : ι → List ι}

omit [Fintype ι] in
theorem Mixed.goto (mixed : Mixed S jobs init early m) (locked : Locked S m')
    {p : Phase K V Δ L E R} (phases : m'.phase = Function.update m.phase i p)
    (committed : m'.committed = m.committed) (order : m'.order = m.order)
    (result : p.result = (m.phase i).result)
    (tracks : Tracks S jobs m.committed (early i) (landed jobs m) init i p) :
    Mixed S jobs init early m' := by
  have results : ∀ j, (m'.phase j).result = (m.phase j).result := by
    rw [phases]
    exact (Function.forall_update_iff m.phase fun j p => p.result = (m.phase j).result).mpr
      ⟨result, fun _ _ => rfl⟩
  have same : landed jobs m' = landed jobs m := landed_same order results
  refine ⟨locked, ?_, by rw [committed, same, mixed.committed], by rw [order]; exact mixed.nodup,
    fun j => by rw [order, results]; exact mixed.ended j, fun j => ?_, fun before j later => ?_,
    fun j r => ?_⟩
  · rw [committed, same, phases]
    exact (Function.forall_update_iff m.phase fun j =>
      Tracks S jobs m.committed (early j) (landed jobs m) init j).mpr ⟨tracks, fun j _ => mixed.tracks j⟩
  · rw [same, results]
    exact mixed.known j
  · rw [same, results]
    exact mixed.results before j later
  · rw [same, results]
    exact mixed.reads j r

omit [Fintype ι] in
/-- A call comes to its end: it lands and has changed what is committed, or it has not. -/
theorem Mixed.finish (mixed : Mixed S jobs init early m) (locked : Locked S m')
    {p : Phase K V Δ L E R} {r : Except E R} (phases : m'.phase = Function.update m.phase i p)
    (order : m'.order = m.order ++ [i]) (open_ : (m.phase i).result = none) (result : p.result = some r)
    (trivially : ∀ committed commits, Tracks S jobs committed (early i) commits init i p)
    (agrees : ∀ j, j ≠ i → Agrees S ((m.phase j).own.map S.key) m.committed m'.committed)
    (lands : (jobs i).lands (some r) = true → (jobs i).run S m.committed = (r, m'.committed))
    (stays : (jobs i).lands (some r) = false → m'.committed = m.committed)
    (reads : ∀ v, (jobs i).lands (some (.ok v)) = false → r = .ok v →
      ∃ before, early i <+: before ∧ before <+: landed jobs m ∧
        ((jobs i).run S (after S jobs before init)).1 = .ok v) :
    Mixed S jobs init early m' := by
  have fresh : i ∉ m.order := by
    rw [mixed.ended, open_]
    simp
  have commits : landed jobs m' = landed jobs m ++ if (jobs i).lands p.result then [i] else [] :=
    landed_finish phases order fresh
  rw [result] at commits
  have longer : landed jobs m <+: landed jobs m' := commits ▸ List.prefix_append _ _
  have other {j : ι} (ne : j ≠ i) : m'.phase j = m.phase j := by rw [phases, Function.update_of_ne ne]
  refine ⟨locked, ?_, ?_, ?_, fun j => ?_, fun j unended => ?_, fun before j later eq => ?_,
    fun j v kept eq => ?_⟩
  · rw [phases]
    exact (Function.forall_update_iff m.phase fun j =>
      Tracks S jobs m'.committed (early j) (landed jobs m') init j).mpr
        ⟨trivially _ _, fun j ne => (mixed.tracks j).mono (agrees j ne) longer⟩
  · cases landing : (jobs i).lands (some r) with
    | true => rw [commits, landing, if_pos rfl, after_concat, ← mixed.committed, lands landing]
    | false =>
        rw [commits, landing, if_neg Bool.false_ne_true, List.append_nil, stays landing, mixed.committed]
  · rw [order]
    refine List.nodup_append.mpr ⟨mixed.nodup, List.nodup_singleton i, fun a mem b single eq => ?_⟩
    rw [List.mem_singleton] at single
    exact fresh (single ▸ eq ▸ mem)
  · rw [order, phases, List.mem_append, List.mem_singleton]
    by_cases same : j = i
    · subst same
      simp [result]
    · rw [Function.update_of_ne same]
      simpa [same] using mixed.ended j
  · refine (mixed.known j ?_).trans longer
    by_cases same : j = i
    · rw [same]
      exact open_
    · rwa [other same] at unended
  · have inner {later : List ι} (eq : landed jobs m = before ++ j :: later) : early j <+: before ∧
        (m'.phase j).result = some ((jobs j).run S (after S jobs before init)).1 := by
      have mem : j ∈ landed jobs m := eq ▸ List.mem_append_right _ List.mem_cons_self
      have ne : j ≠ i := fun same => fresh (same ▸ List.mem_of_mem_filter mem)
      rw [other ne]
      exact mixed.results before j later eq
    rw [commits] at eq
    cases landing : (jobs i).lands (some r) with
    | true =>
        rw [landing, if_pos rfl] at eq
        rcases List.eq_nil_or_concat later with rfl | ⟨later', last, rfl⟩
        · obtain ⟨rfl, same⟩ := List.append_inj' eq rfl
          obtain rfl : i = j := List.singleton_inj.mp same
          rw [phases, Function.update_self, result, ← mixed.committed, lands landing]
          exact ⟨mixed.known i open_, rfl⟩
        · rw [List.concat_eq_append, ← List.cons_append, ← List.append_assoc] at eq
          exact inner (List.append_inj' eq rfl).1
    | false =>
        rw [landing, if_neg Bool.false_ne_true, List.append_nil] at eq
        exact inner eq
  · by_cases same : j = i
    · subst same
      rw [phases, Function.update_self, result] at eq
      obtain ⟨before, le, done, run⟩ := reads v kept (Option.some.inj eq)
      exact ⟨before, le, done.trans longer, run⟩
    · rw [other same] at eq
      obtain ⟨before, le, done, run⟩ := mixed.reads j v kept eq
      exact ⟨before, le, done.trans longer, run⟩

omit [Fintype ι] in
/-- A call comes to its end with an error. -/
theorem Mixed.refuse (mixed : Mixed S jobs init early m) (locked : Locked S m')
    {p : Phase K V Δ L E R} {e : E} (phases : m'.phase = Function.update m.phase i p)
    (committed : m'.committed = m.committed) (order : m'.order = m.order ++ [i])
    (open_ : (m.phase i).result = none) (result : p.result = some (.error e))
    (trivially : ∀ committed commits, Tracks S jobs committed (early i) commits init i p) :
    Mixed S jobs init early m' := by
  have none : (jobs i).lands (some (.error e)) = false := by
    unfold Job.lands
    split
    · rename_i eq
      cases eq
    · rfl
  refine mixed.finish locked phases order open_ result trivially (fun j _ => ?_) (fun lands => ?_)
    (fun _ => committed) nofun
  · rw [committed]
    exact agrees_refl S _ _
  · rw [none] at lands
    cases lands

theorem Mixed.step (mixed : Mixed S jobs init early m) (covered : ∀ i, (jobs i).Covered S)
    (h : Machine.Step S jobs m i m') : Mixed S jobs init early m' := by
  have locked : Locked S m' := mixed.locked.moves (step_moves h)
  have tracks := mixed.tracks i
  have job_covered := covered i
  cases h with
  | refuse phase job =>
      exact mixed.refuse locked (m.phase_finish i _) rfl rfl (by rw [phase]; rfl) rfl fun _ _ => trivial
  | @borrow kind body phase job free =>
      rw [job] at job_covered
      cases kind with
      | unitOfWork => exact mixed.goto locked (m.phase_borrow i _) rfl rfl (by rw [phase]; rfl) job
      | readOnly =>
          exact mixed.goto locked (m.phase_borrow i _) rfl rfl (by rw [phase]; rfl)
            ⟨rfl, rfl, body, job, Or.inl ⟨rfl, job_covered⟩⟩
  | @begin body phase =>
      rw [phase] at tracks
      have job : jobs i = .block .unitOfWork body := tracks
      rw [job] at job_covered
      have none_held : keys S ([] : List V) = ∅ := by simp [keys]
      have body_covered : body.Covered S (keys S []) := none_held ▸ job_covered
      refine mixed.goto locked (m.phase_goto i _) rfl rfl (by rw [phase]; rfl)
        ⟨body_covered, body, job, fun s _ => ?_⟩
      rw [view_nil]
  | @commit own pending r phase =>
      rw [phase] at tracks
      obtain ⟨-, body, job, same⟩ := tracks
      refine mixed.finish locked ((m.commit S _).phase_finish i _) rfl (by rw [phase]; rfl) rfl
        (fun _ _ => trivial) (fun j ne => mixed.locked.agrees_commit ne (by rw [phase]; rfl))
        (fun _ => ?_) (fun stays => ?_) fun v stays => ?_
      · rw [job]
        exact Job.run_ok (same m.committed (agrees_refl S _ _))
      · rw [job] at stays
        cases stays
      · rw [job] at stays
        cases stays
  | @read own pending r phase =>
      rw [phase] at tracks
      obtain ⟨-, -, body, job, now⟩ := tracks
      have answered : ∃ before, early i <+: before ∧ before <+: landed jobs m ∧
          body.run S (after S jobs before init) = .ok (r, after S jobs before init) := by
        rcases now with ⟨rfl, -⟩ | ⟨-, before, le, done, same⟩
        · exact ⟨landed jobs m, mixed.known i (by rw [phase]; rfl), List.prefix_refl _, rfl⟩
        · exact ⟨before, le, done, same⟩
      refine mixed.finish locked (m.phase_finish i _) rfl (by rw [phase]; rfl) rfl
        (fun _ _ => trivial) (fun j _ => agrees_refl S _ _) (fun lands => ?_) (fun _ => rfl)
        fun v _ eq => ?_
      · rw [job] at lands
        cases lands
      · obtain ⟨before, le, done, run⟩ := answered
        cases eq
        refine ⟨before, le, done, ?_⟩
        rw [job]
        simp only [Job.run, run]
  | fail phase =>
      exact mixed.goto locked (m.phase_goto i _) rfl rfl (by rw [phase]; rfl) trivial
  | @failRead own pending e phase =>
      exact mixed.refuse locked (m.phase_finish i _) rfl rfl (by rw [phase]; rfl) rfl fun _ _ => trivial
  | @work kind work work' phase advance =>
      rw [phase] at tracks
      refine mixed.goto locked (m.phase_goto i _) rfl rfl (by rw [phase]; rfl) ?_
      cases kind with
      | unitOfWork =>
          obtain ⟨rest, body, job, same⟩ := tracks
          have holds : Holds (S := S) m.committed work.own := by
            have := mixed.locked.holds i
            rwa [phase] at this
          refine ⟨Work.step_covered rest advance, body, job, fun s agrees => ?_⟩
          rw [← Work.step_run_covered rest holds advance agrees]
          refine same s (agrees.mono fun k mem => ?_)
          rcases Work.step_grows advance with eq | ⟨k', eq, -⟩
          · rwa [eq]
          · rw [eq]
            exact List.mem_cons_of_mem _ mem
      | readOnly =>
          obtain ⟨own, pending, rest⟩ := work
          obtain ⟨none_held, none_pending, body, job, now⟩ := tracks
          obtain rfl : own = [] := none_held
          obtain rfl : pending = [] := none_pending
          rcases now with ⟨rfl, once⟩ | ⟨ended, -⟩
          · cases rest with
            | select next =>
                cases advance
                have le : early i <+: landed jobs m := mixed.known i (by rw [phase]; rfl)
                refine ⟨rfl, rfl, _, job,
                  Or.inr ⟨once _, landed jobs m, le, List.prefix_refl _, ?_⟩⟩
                rw [view_nil, ← mixed.committed]
                rfl
            | done | raise => cases advance
            | _ => exact once.elim
          · cases rest with
            | done | raise => cases advance
            | _ => exact ended.elim
  | rollback phase =>
      exact mixed.refuse locked (m.phase_finish i _) rfl rfl (by rw [phase]; rfl) rfl fun _ _ => trivial
  | giveBack phase =>
      exact mixed.goto locked (m.phase_giveBack i _) rfl rfl (by rw [phase]; rfl) trivial

omit [Fintype ι] in
theorem Mixed.fault (mixed : Mixed S jobs init early m) (locked : Locked S m') {e : E}
    (h : Machine.Fault m i e m') : Mixed S jobs init early m' := by
  cases h with
  | connect phase | read phase =>
      exact mixed.refuse locked (m.phase_finish i _) rfl rfl (by rw [phase]; rfl) rfl fun _ _ => trivial
  | begin phase | work phase =>
      exact mixed.goto locked (m.phase_goto i _) rfl rfl (by rw [phase]; rfl) trivial

omit [DecidableEq ι] [Fintype ι] in
theorem mixed_start {n : Nat} (nodup : (init.rows.map S.key).Nodup) :
    Mixed S jobs init (fun _ => []) (start n init) where
  locked := locked_start nodup
  tracks _ := trivial
  committed := rfl
  nodup := List.nodup_nil
  ended _ := by simp [Machine.phase, start, Phase.result]
  known _ _ := List.nil_prefix
  results before i later eq := by simp [landed, start] at eq
  reads i r _ result := by simp [Machine.phase, start, Phase.result] at result

theorem Mixed.reachable (covered : ∀ i, (jobs i).Covered S) {faults : Bool}
    (mixed : Mixed S jobs init early m) (reached : Machine.Reachable S jobs faults m m') :
    Mixed S jobs init early m' := by
  induction reached with
  | start => exact mixed
  | step i _ next ih => exact ih.step covered (Machine.step_cases S jobs next)
  | fault i e _ _ next ih =>
      have fault := Machine.fault_cases next
      exact ih.fault (ih.locked.moves (fault_moves fault)) fault

omit [DecidableEq ι] [Fintype ι] in
theorem Mixed.unlanded (mixed : Mixed S jobs init early m) (unended : (m.phase i).result = none) :
    i ∉ landed jobs m := by
  intro mem
  have ended := (mixed.ended i).mp (List.mem_of_mem_filter mem)
  rw [unended] at ended
  cases ended

omit [Fintype ι] in
/-- What has committed comes before a call that has not begun. -/
theorem Mixed.sees (mixed : Mixed S jobs init early m) (waiting : m.phase i = .waiting) :
    Mixed S jobs init (Function.update early i (landed jobs m)) m := by
  have unended : (m.phase i).result = none := by
    rw [waiting]
    rfl
  refine ⟨mixed.locked, fun j => ?_, mixed.committed, mixed.nodup, mixed.ended, fun j open_ => ?_,
    fun before j later eq => ?_, fun j r stays result => ?_⟩
  · by_cases same : j = i
    · rw [same, waiting]
      trivial
    · rw [Function.update_of_ne same]
      exact mixed.tracks j
  · by_cases same : j = i
    · rw [same, Function.update_self]
    · rw [Function.update_of_ne same]
      exact mixed.known j open_
  · have mem : j ∈ landed jobs m := eq ▸ List.mem_append_right _ List.mem_cons_self
    have ne : j ≠ i := fun same => mixed.unlanded unended (same ▸ mem)
    rw [Function.update_of_ne ne]
    exact mixed.results before j later eq
  · have ne : j ≠ i := by
      rintro rfl
      rw [unended] at result
      cases result
    rw [Function.update_of_ne ne]
    exact mixed.reads j r stays result

omit [DecidableEq ι] [Fintype ι] in
/-- Every success is that of the call after some of the commits. -/
theorem Mixed.answered (mixed : Mixed S jobs init early m) {r : R}
    (result : (m.phase i).result = some (.ok r)) :
    ∃ before, early i <+: before ∧ before <+: landed jobs m ∧ i ∉ before ∧
      ((jobs i).run S (after S jobs before init)).1 = .ok r := by
  cases lands : (jobs i).lands (some (.ok r)) with
  | true =>
      have mem : i ∈ landed jobs m := by
        refine List.mem_filter.mpr ⟨(mixed.ended i).mpr ?_, ?_⟩
        · rw [result]
          rfl
        · rwa [result]
      obtain ⟨before, later, eq⟩ := List.append_of_mem mem
      obtain ⟨le, run⟩ := mixed.results before i later eq
      have nodup : (landed jobs m).Nodup := mixed.nodup.filter _
      have split := List.nodup_append.mp (eq ▸ nodup)
      refine ⟨before, le, eq ▸ List.prefix_append _ _, fun mem =>
        split.2.2 i mem i List.mem_cons_self rfl, ?_⟩
      rw [result] at run
      exact (Option.some.inj run).symm
  | false =>
      obtain ⟨before, le, done, run⟩ := mixed.reads i r lands result
      refine ⟨before, le, done, fun mem => ?_, run⟩
      have landing := (List.mem_filter.mp (done.subset mem)).2
      rw [result, lands] at landing
      cases landing

end Corebank.Library.TwoPhase
