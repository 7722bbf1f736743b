import Corebank.Proof.Demo

/-! # Every transfer of a storm is counted, and none waits for ever -/

namespace Corebank
open Library Library.Threads

section
variable [Collation] {ι : Type} [DecidableEq ι] {i : ι} {s s' : StormState ι} {t : Withdrawal}
  {w w' : Worker} {failure : Option Exn}

/-! ## What a call leaves alone -/

theorem update_frame {id : String} {change : AccountChange}
    {result : Except Exn (Option Account)} (h : s.update i id change = some (s', result)) :
    s' = s ∨ s' = s.lock i id ∧ (s.locks (key id)).all (· = i) := by
  unfold StormState.update at h
  split at h
  · cases h
    exact Or.inl rfl
  · split at h
    · split at h <;> cases h <;> exact Or.inr ⟨rfl, ‹_›⟩
    · cases h

theorem update_refused {id : String} {change : AccountChange} {e : Exn}
    (h : s.update i id change = some (s', .error e)) : s'.locks (key id) = some i := by
  unfold StormState.update at h
  split at h
  · cases h
  · split at h
    · split at h <;> cases h
      simp [StormState.lock]
    · cases h

theorem reconnected_frame {leg : Leg} {e : Exn} {line' : NaiveLine}
    (tried : reconnected i s t leg e = some (s', line')) :
    s' = s ∨ s' = s.release i ∨ s' = (s.release i).lock i (leg.account t) ∧
      ((s.release i).locks (key (leg.account t))).all (· = i) := by
  rcases (reconnected_cases tried).1 with rfl | ⟨result, executed⟩
  · exact Or.inl rfl
  · exact Or.inr (update_frame executed)

theorem update_keeps {id : String} {change : AccountChange} {result : Except Exn (Option Account)}
    (h : s.update i id change = some (s', result)) :
    s'.free = s.free ∧ s'.mutex = s.mutex ∧ s'.counters = s.counters := by
  rcases update_frame h with rfl | ⟨rfl, -⟩ <;> exact ⟨rfl, rfl, rfl⟩

theorem reconnected_keeps {leg : Leg} {e : Exn} {line' : NaiveLine}
    (tried : reconnected i s t leg e = some (s', line')) :
    s'.free = s.free ∧ s'.mutex = s.mutex ∧ s'.counters = s.counters := by
  rcases reconnected_frame tried with rfl | rfl | ⟨rfl, -⟩ <;> exact ⟨rfl, rfl, rfl⟩

theorem NaiveTurn.frame {line : NaiveLine} {next : NaiveLine ⊕ Except Exn Unit}
    (turn : NaiveTurn failure i s t line s' next) :
    s'.mutex = s.mutex ∧ s'.counters = s.counters := by
  cases turn with
  | update _ updated | overdraw updated | overflow updated | again updated =>
      exact (update_keeps updated).2
  | reconnect tried => exact (reconnected_keeps tried).2
  | _ => exact ⟨rfl, rfl⟩

/-! ## The lock of the counters -/

def Worker.merging (w : Worker) : Prop :=
  match w.line with
  | .load _ | .store _ _ _ => True
  | _ => False

omit [Collation] in
theorem ended_merging (w : Worker) (missing : Int) (outcome : Except Exn Unit) :
    ¬ (w.ended missing outcome).merging := by
  rcases ended_cases w missing outcome with ⟨key, eq⟩ | ⟨e, -, eq⟩ <;>
    simp [eq, Worker.merging, Worker.count]

theorem StormTurn.mutex (turn : StormTurn failure i s w s' w') :
    s'.mutex = s.mutex ∧ (w'.merging ↔ w.merging) ∨
      s.mutex = none ∧ s'.mutex = some i ∧ w'.merging ∨
      w.merging ∧ s'.mutex = none ∧ ¬ w'.merging := by
  cases turn with
  | acquire line free => exact Or.inr (Or.inl ⟨free, rfl, trivial⟩)
  | release line => exact Or.inr (Or.inr ⟨by simp [Worker.merging, line], rfl, id⟩)
  | call at_call turn =>
      exact Or.inl ⟨turn.frame.1, by simp [Worker.merging, Worker.goto, at_call]⟩
  | ended at_call turn =>
      refine Or.inl ⟨turn.frame.1, iff_of_false (ended_merging _ _ _) ?_⟩
      simp [Worker.merging, at_call]
  | idle line | begin line | load line | store line =>
      exact Or.inl ⟨rfl, by simp [Worker.merging, Worker.goto, line]⟩

theorem stormMutex (failures : Bool) :
    Mutex (storm (ι := ι) failures) StormState.mutex Worker.merging where
  own mine moved := by
    rcases (stormStep_cases moved).mutex with ⟨lock, same⟩ | ⟨-, lock, inside⟩ | ⟨-, lock, outside⟩
    · rw [lock, same, mine]
    · simp [lock, inside]
    · simp [lock, outside]
  others ne mine moved := by
    rcases (stormStep_cases moved).mutex with ⟨lock, -⟩ | ⟨free, lock, -⟩ | ⟨inside, lock, -⟩
    · rw [lock]
    · simp [lock, free, ne.symm]
    · simp [lock, mine.mp inside, ne.symm]

section
variable {failures : Bool} {n : Nat} {db : Db} {calls : ι → List Withdrawal}
  {c : Configuration ι (StormState ι) Worker}

omit [Collation] [DecidableEq ι] in
theorem stormStart_outside (i : ι) : ((stormStart n db calls).point i).merging ↔
    (stormStart n db calls).shared.mutex = some i := by
  simp [stormStart, Worker.merging]

/-- What is about to be stored is what stands there and the worker's own count. -/
def Fresh (s : StormState ι) (w : Worker) : Prop :=
  ∀ key value keys, w.line = .store key value keys → value = s.counters key + w.tally key

theorem StormTurn.counters (turn : StormTurn failure i s w s' w') (outside : ¬ w.merging) :
    s'.counters = s.counters := by
  cases turn with
  | call _ turn | ended _ turn => exact turn.frame.2
  | store line => exact absurd (by simp [Worker.merging, line]) outside
  | _ => rfl

theorem StormTurn.fresh (turn : StormTurn failure i s w s' w') : Fresh s' w' := by
  cases turn with
  | load line =>
      intro key value keys eq
      cases eq
      rfl
  | @ended t line s' outcome at_call turn =>
      intro key value keys eq
      have merging : (w.ended line.missing outcome).merging := by simp [Worker.merging, eq]
      exact absurd merging (ended_merging _ _ _)
  | _ => nofun

theorem freshOutline :
    Outline (storm failures) (stormStart n db calls) fun _ s w => Fresh s w where
  start i := nofun
  own _ _ moved := (stormStep_cases moved).fresh
  stable {c e i j next} run ne _ fresh moved := by
    intro key value keys line
    have inside : (c.point j).merging := by simp [Worker.merging, line]
    have outside : ¬ (c.point i).merging := fun both =>
      ne ((stormMutex failures).exclusive stormStart_outside run inside both)
    rw [(stormStep_cases moved).counters outside]
    exact fresh key value keys line

/-! ## Counting -/

def StormState.counted (s : StormState ι) : Nat := (Tally.all.map s.counters).sum

/-- The calls of a worker that are not in the counters yet. -/
def Worker.uncounted (w : Worker) : Nat :=
  match w.line with
  | .next => w.todo.length + (Tally.all.map w.tally).sum
  | .call _ _ | .crashed _ => w.todo.length + 1 + (Tally.all.map w.tally).sum
  | .acquire => (Tally.all.map w.tally).sum
  | .load keys => (keys.map w.tally).sum
  | .store key _ keys => w.tally key + (keys.map w.tally).sum
  | .finished => 0

omit [Collation] [DecidableEq ι] in
theorem sum_tally (f : Tally → Nat) (key : Tally) (value : Nat) :
    (Tally.all.map (Function.update f key value)).sum + f key = (Tally.all.map f).sum + value := by
  cases key <;> simp [Tally.all] <;> omega

omit [Collation] [DecidableEq ι] in
theorem ended_uncounted (w : Worker) (missing : Int) (outcome : Except Exn Unit) :
    (w.ended missing outcome).uncounted = w.todo.length + 1 + (Tally.all.map w.tally).sum := by
  rcases ended_cases w missing outcome with ⟨key, eq⟩ | ⟨e, -, eq⟩ <;> rw [eq]
  · have more := sum_tally w.tally key (w.tally key + 1)
    simp only [Worker.count, Worker.uncounted]
    omega
  · rfl

theorem StormTurn.counted (turn : StormTurn failure i s w s' w') (fresh : Fresh s w) :
    s'.counted + w'.uncounted = s.counted + w.uncounted := by
  cases turn with
  | call at_call turn =>
      rw [StormState.counted, turn.frame.2]
      simp [StormState.counted, Worker.uncounted, Worker.goto, at_call]
  | ended at_call turn =>
      rw [StormState.counted, turn.frame.2, ended_uncounted]
      simp [StormState.counted, Worker.uncounted, at_call]
  | @store key value keys line =>
      have more := sum_tally s.counters key value
      rw [fresh _ _ _ line] at more ⊢
      simp only [StormState.counted, Worker.uncounted, Worker.goto, line]
      omega
  | idle line todo => simp [Worker.uncounted, Worker.goto, line, todo]
  | begin line todo => simp [Worker.uncounted, line, todo]
  | acquire line | release line | load line =>
      simp [StormState.counted, Worker.uncounted, Worker.goto, line]

/-- Every call is in the counters or with its worker, and once all workers are through, the counters
add up to the calls. -/
theorem storm_counts [Fintype ι] (run : StormRun failures n db calls c) :
    c.shared.counted + ∑ i, (c.point i).uncounted = ∑ i, (calls i).length ∧
      ((∀ i, (c.point i).line = .finished) → c.shared.counted = ∑ i, (calls i).length) := by
  have total : c.shared.counted + ∑ i, (c.point i).uncounted = ∑ i, (calls i).length := by
    induction run with
    | start => simp [stormStart, StormState.counted, Worker.uncounted, Tally.all]
    | @move c e i next past moved ih =>
        have fresh := freshOutline.holds past i
        have passed := (stormStep_cases moved).counted fresh
        exact (total_move StormState.counted Worker.uncounted passed).trans ih
  refine ⟨total, fun finished => ?_⟩
  have none (i : ι) : (c.point i).uncounted = 0 := by
    simp [Worker.uncounted, finished i]
  simpa [none] using total

/-! ## Connections and row locks -/

/-- Between taking a connection and returning it. -/
def NaiveLine.connected : NaiveLine → Bool
  | .connect => false
  | _ => true

/-- Where a transaction may hold a row. Its next step waits for nothing but its own lock. -/
def NaiveLine.holding : NaiveLine → Bool
  | .commitDebit _ | .commitCredit _ | .retry _ _ | .reconnect _ _ | .close _ _ => true
  | _ => false

omit [Collation] in
theorem holding_commit (leg : Leg) (own : Option Account) : (leg.commit own).holding = true := by
  cases leg <;> rfl

omit [Collation] in
theorem holding_executed (leg : Leg) (result : Except Exn (Option Account)) :
    (leg.executed t result).holding = true := by
  cases result with
  | ok own => exact holding_commit leg own
  | error e =>
      simp only [Leg.executed]
      split <;> rfl

omit [Collation] in
theorem holding_connected {line : NaiveLine} (holding : line.holding = true) :
    line.connected = true := by
  cases line with
  | connect => cases holding
  | _ => rfl

theorem reconnected_holding {leg : Leg} {e : Exn} {line' : NaiveLine}
    (tried : reconnected i s t leg e = some (s', line')) : line'.holding = true := by
  obtain ⟨-, ⟨own, rfl⟩ | ⟨e', rfl⟩⟩ := reconnected_cases tried
  · exact holding_commit leg own
  · rfl

def StormLine.during (here : NaiveLine → Bool) : StormLine → Bool
  | .call _ line => here line
  | _ => false

omit [Collation] in
theorem ended_during (here : NaiveLine → Bool) (w : Worker) (missing : Int) (outcome : Except Exn Unit) :
    (w.ended missing outcome).line.during here = false := by
  rcases ended_cases w missing outcome with ⟨key, eq⟩ | ⟨e, -, eq⟩ <;> rw [eq] <;> rfl

theorem NaiveTurn.connections {line : NaiveLine} {next : NaiveLine ⊕ Except Exn Unit}
    (turn : NaiveTurn failure i s t line s' next) :
    s'.free + (next.elim NaiveLine.connected fun _ => false).toNat = s.free + line.connected.toNat := by
  cases turn with
  | refused => rfl
  | connect free => exact Nat.sub_add_cancel (Nat.pos_of_ne_zero free)
  | raise fails connected busy =>
      cases line with
      | connect => exact absurd rfl connected
      | _ => rfl
  | @update line leg s' own here updated =>
      have connected : line.connected = true := by
        cases line <;> cases here <;> rfl
      have after : (leg.commit own).connected = true := holding_connected (holding_commit leg own)
      rw [Sum.elim_inl, connected, after, (update_keeps updated).1]
  | overdraw updated | overflow updated =>
      rw [Sum.elim_inl, holding_connected (holding_executed _ _), (update_keeps updated).1]
      rfl
  | again updated =>
      rw [(update_keeps updated).1]
      rfl
  | reconnect tried =>
      rw [Sum.elim_inl, holding_connected (reconnected_holding tried), (reconnected_keeps tried).1]
      rfl
  | _ => rfl

theorem StormTurn.connections (turn : StormTurn failure i s w s' w') :
    s'.free + (w'.line.during NaiveLine.connected).toNat =
      s.free + (w.line.during NaiveLine.connected).toNat := by
  cases turn with
  | call at_call turn =>
      rw [at_call]
      exact turn.connections
  | ended at_call turn =>
      rw [at_call, ended_during]
      exact turn.connections
  | idle line | begin line | acquire line | release line | load line | store line =>
      rw [line]
      rfl

theorem StormRun.connections [Fintype ι] (run : StormRun failures n db calls c) :
    c.shared.free + ∑ i, ((c.point i).line.during NaiveLine.connected).toNat = n := by
  induction run with
  | start => simp [stormStart, StormLine.during]
  | @move c e i next past moved ih =>
      have passed := (stormStep_cases moved).connections
      have total := total_move StormState.free
        (fun w : Worker => (w.line.during NaiveLine.connected).toNat) passed
      exact total.trans ih

/-- What a step of worker `i` does to the row locks, from a line at which it may or may not hold some,
to another. -/
structure Locking (i : ι) (s s' : StormState ι) (before after : Bool) : Prop where
  own : (∀ k, s.locks k = some i → before = true) → ∀ k, s'.locks k = some i → after = true
  others : ∀ j, j ≠ i → ∀ k, s'.locks k = some j ↔ s.locks k = some j

omit [Collation] [DecidableEq ι] in
theorem locking_same {before after : Bool} (locks : s'.locks = s.locks)
    (kept : before = true → after = true) : Locking i s s' before after where
  own held k lock := kept (held k (locks ▸ lock))
  others _ _ _ := by rw [locks]

theorem locking_lock {id : String} {before : Bool} (free : (s.locks (key id)).all (· = i)) :
    Locking i s (s.lock i id) before true where
  own _ _ _ := rfl
  others j ne k := by
    simp only [StormState.lock, Function.update_apply]
    split
    · rename_i here
      rw [here, Option.some.injEq]
      refine iff_of_false (Ne.symm ne) fun held => ?_
      rw [held] at free
      exact ne (of_decide_eq_true free)
    · rfl

omit [Collation] in
theorem locking_release {before after : Bool} (locks : s'.locks = (s.release i).locks) :
    Locking i s s' before after where
  own _ k lock := by
    rw [locks] at lock
    simp [StormState.release] at lock
  others j ne k := by
    rw [locks]
    simp [StormState.release, Option.filter_eq_some_iff, ne]

theorem locking_update {id : String} {change : AccountChange} {before : Bool}
    {result : Except Exn (Option Account)} (updated : s.update i id change = some (s', result)) :
    Locking i s s' before true := by
  rcases update_frame updated with rfl | ⟨rfl, free⟩
  · exact locking_same rfl fun _ => rfl
  · exact locking_lock free

theorem NaiveTurn.locking {line : NaiveLine} {next : NaiveLine ⊕ Except Exn Unit}
    (turn : NaiveTurn failure i s t line s' next) :
    Locking i s s' line.holding (next.elim NaiveLine.holding fun _ => false) := by
  cases turn with
  | update _ updated =>
      rw [Sum.elim_inl, holding_commit]
      exact locking_update updated
  | overdraw updated | overflow updated =>
      rw [Sum.elim_inl, holding_executed]
      exact locking_update updated
  | again updated => exact locking_update updated
  | reconnect tried =>
      rw [Sum.elim_inl, reconnected_holding tried]
      rcases reconnected_frame tried with rfl | rfl | ⟨rfl, free⟩
      · exact locking_same rfl fun _ => rfl
      · exact locking_release rfl
      · have freed : Locking i s (s.release i) true true := locking_release rfl
        have locked : Locking i (s.release i) ((s.release i).lock i _) true true := locking_lock free
        exact ⟨fun _ _ _ => rfl, fun j ne k => (locked.others j ne k).trans (freed.others j ne k)⟩
  | commitDebit | commitCredit | close => exact locking_release rfl
  | raise | retryFails => exact locking_same rfl fun _ => rfl
  | _ => exact locking_same rfl nofun

theorem StormTurn.locking (turn : StormTurn failure i s w s' w') :
    Locking i s s' (w.line.during NaiveLine.holding) (w'.line.during NaiveLine.holding) := by
  cases turn with
  | call at_call turn =>
      rw [at_call]
      exact turn.locking
  | ended at_call turn =>
      rw [at_call, ended_during]
      exact turn.locking
  | idle line | begin line | acquire line | release line | load line | store line =>
      rw [line]
      exact locking_same rfl id

theorem locksOutline : Outline (storm failures) (stormStart n db calls) fun i s w =>
    ∀ k, s.locks k = some i → w.line.during NaiveLine.holding = true where
  start _ := nofun
  own _ held moved := (stormStep_cases moved).locking.own held
  stable _ ne _ held moved k lock :=
    held k (((stormStep_cases moved).locking.others _ ne k).mp lock)

/-! ## Waiting for oneself -/

/-- Where DBUtils executes an UPDATE again, the worker has locked the row already. -/
def NaiveLine.Locked (i : ι) (s : StormState ι) (t : Withdrawal) : NaiveLine → Prop
  | .retry leg _ | .reconnect leg _ => s.locks (key (leg.account t)) = some i
  | _ => True

omit [DecidableEq ι] in
theorem locked_executed {leg : Leg} {e : Exn} (locked : s.locks (key (leg.account t)) = some i) :
    (leg.executed t (.error e)).Locked i s t := by
  simp only [Leg.executed]
  split
  · exact locked
  · trivial

omit [DecidableEq ι] in
theorem locked_commit (leg : Leg) (own : Option Account) : (leg.commit own).Locked i s t := by
  cases leg <;> trivial

theorem NaiveTurn.locked {line line' : NaiveLine} (turn : NaiveTurn failure i s t line s' (.inl line'))
    (locked : line.Locked i s t) : line'.Locked i s' t := by
  cases turn with
  | update => exact locked_commit _ _
  | overdraw updated | overflow updated => exact locked_executed (update_refused updated)
  | again updated => exact update_refused updated
  | retryFails => exact locked
  | reconnect tried =>
      obtain ⟨-, ⟨own, rfl⟩ | ⟨e', rfl⟩⟩ := reconnected_cases tried
      · exact locked_commit _ own
      · trivial
  | _ => trivial

theorem StormTurn.locked (turn : StormTurn failure i s w s' w')
    (locked : ∀ t line, w.line = .call t line → line.Locked i s t) :
    ∀ t line, w'.line = .call t line → line.Locked i s' t := by
  intro t line at_call'
  cases turn with
  | begin =>
      cases at_call'
      trivial
  | call at_call turn =>
      cases at_call'
      exact turn.locked (locked _ _ at_call)
  | @ended t' line' s' outcome at_call turn =>
      rcases ended_cases w line'.missing outcome with ⟨key, eq⟩ | ⟨e, -, eq⟩ <;> rw [eq] at at_call' <;>
        cases at_call'
  | _ => cases at_call'

theorem lockedOutline : Outline (storm failures) (stormStart n db calls) fun i s w =>
    ∀ t line, w.line = .call t line → line.Locked i s t where
  start _ := fun _ _ => nofun
  own _ locked moved := (stormStep_cases moved).locked locked
  stable _ ne _ locked moved t line at_call := by
    have mine := locked t line at_call
    have kept := (stormStep_cases moved).locking.others _ ne
    cases line with
    | retry leg e => exact (kept _).mpr mine
    | reconnect leg e => exact (kept _).mpr mine
    | _ => trivial

/-! ## Progress -/

/-- Why a worker that is not through cannot go on. -/
inductive Waiting (i : ι) (s : StormState ι) (w : Worker) : Prop where
  | counters {j : ι} (line : w.line = .acquire) (held : s.mutex = some j)
  | connection (line : w.line.during NaiveLine.connected = false) (none : s.free = 0)
  | row {j : ι} {k : String} (other : j ≠ i) (held : s.locks k = some j)

def Worker.through (w : Worker) : Prop := w.line = .finished ∨ ∃ e, w.line = .crashed e

theorem update_waits {id : String} {change : AccountChange} (waits : s.update i id change = none) :
    ∃ j, j ≠ i ∧ s.locks (key id) = some j := by
  unfold StormState.update at waits
  split at waits
  · cases waits
  · split at waits
    · split at waits <;> cases waits
    · rename_i busy
      cases lock : s.locks (key id) with
      | none => exact absurd (by rw [lock]; rfl) busy
      | some j => exact ⟨j, fun same => busy (by simp [lock, same]), rfl⟩

theorem naiveStep_waits {line : NaiveLine} (waits : naiveStep none i s t line = none) :
    line = .connect ∧ s.free = 0 ∨ ∃ j k, j ≠ i ∧ s.locks k = some j := by
  have row {leg : Leg} (waits : s.execute i t leg = none) : ∃ j k, j ≠ i ∧ s.locks k = some j := by
    obtain ⟨j, other, held⟩ := update_waits waits
    exact ⟨j, _, other, held⟩
  cases line with
  | connect =>
      simp only [naiveStep] at waits
      split at waits
      · exact Or.inl ⟨rfl, ‹_›⟩
      · cases waits
  | select =>
      simp only [naiveStep] at waits
      split at waits <;> (try split at waits) <;> cases waits
  | debit balance since => exact Or.inr (row (Option.map_eq_none_iff.mp waits))
  | credit => exact Or.inr (row (Option.map_eq_none_iff.mp waits))
  | retry leg e => exact Or.inr (row (Option.map_eq_none_iff.mp waits))
  | reconnect leg e =>
      have waits := Option.map_eq_none_iff.mp waits
      unfold reconnected at waits
      split at waits
      · cases waits
      · obtain ⟨j, other, held⟩ := update_waits (Option.map_eq_none_iff.mp waits)
        simp only [StormState.release, Option.filter_eq_some_iff] at held
        exact Or.inr ⟨j, _, other, held.1⟩
  | _ => cases waits

theorem update_own {id : String} {change : AccountChange} (locked : s.locks (key id) = some i) :
    (s.update i id change).isSome := by
  rw [← Option.ne_none_iff_isSome]
  intro waits
  obtain ⟨j, other, held⟩ := update_waits waits
  exact other (Option.some.inj (held.symm.trans locked))

/-- Only the lock wait timeout ends the wait for the row the worker has locked itself. -/
theorem reconnect_timesOut {leg : Leg} {e : Exn} (at_call : w.line = .call t (.reconnect leg e))
    (locked : s.locks (key (leg.account t)) = some i) :
    stormStep none i s w = some (s, w.goto (.call t (leg.fail t e))) := by
  simp [stormStep, at_call, naiveStep, reconnected, locked]

theorem stormStep_waits (waits : stormStep none i s w = none) (going : ¬ w.through) : Waiting i s w := by
  unfold stormStep at waits
  split at waits
  · split at waits <;> cases waits
  · rename_i t line at_call
    rcases naiveStep_waits (Option.map_eq_none_iff.mp waits) with ⟨rfl, none⟩ | ⟨j, k, other, held⟩
    · exact .connection (by rw [at_call]; rfl) none
    · exact .row other held
  · split at waits
    · cases waits
    · exact .counters ‹_› ‹_›
  · cases waits
  · cases waits
  · cases waits
  · exact absurd (Or.inl ‹_›) going
  · exact absurd (Or.inr ⟨_, ‹_›⟩) going

theorem holding_moves (locked : ∀ t line, w.line = .call t line → line.Locked i s t)
    (holding : w.line.during NaiveLine.holding = true) :
    ¬ w.through ∧ (stormStep none i s w).isSome := by
  cases at_line : w.line with
  | call t line =>
      refine ⟨by simp [Worker.through, at_line], ?_⟩
      have mine := locked t line at_line
      rw [at_line] at holding
      cases line with
      | commitDebit | commitCredit | close => simp [stormStep, at_line, naiveStep]
      | retry leg e =>
          simp only [stormStep, at_line, naiveStep, Option.isSome_map]
          exact update_own mine
      | reconnect leg e =>
          rw [reconnect_timesOut at_line mine]
          rfl
      | _ => cases holding
  | _ => simp [at_line, StormLine.during] at holding

omit [DecidableEq ι] in
theorem merging_moves [DecidableEq ι] (merging : w.merging) :
    ¬ w.through ∧ (stormStep none i s w).isSome := by
  unfold Worker.merging at merging
  split at merging
  · rename_i keys line
    refine ⟨by simp [Worker.through, line], ?_⟩
    cases keys <;> simp [stormStep, line]
  · rename_i line
    exact ⟨by simp [Worker.through, line], by simp [stormStep, line]⟩
  · exact merging.elim

theorem storm_plain (failures : Bool) (i : ι) (s : StormState ι) (w : Worker) :
    storm failures none i s w = stormStep none i s w := by
  cases failures <;> rfl

/-- While a worker is not through, one of them can go on: nobody waits for ever for the lock of the
counters, a connection or a row of another. A worker whose UPDATE is executed on a connection beside
the pool waits for its own row, till the lock wait timeout. -/
theorem storm_progress [Fintype ι] (connections : 1 ≤ n) (run : StormRun failures n db calls c) :
    ((∃ i, ¬ (c.point i).through) →
      ∃ i, ¬ (c.point i).through ∧ (storm failures none i c.shared (c.point i)).isSome) ∧
    ∀ i t leg e, (c.point i).line = .call t (.reconnect leg e) →
      c.shared.locks (key (leg.account t)) = some i ∧
      storm failures none i c.shared (c.point i) =
        some (c.shared, (c.point i).goto (.call t (leg.fail t e))) := by
  simp only [storm_plain]
  refine ⟨fun going => ?_, fun i t leg e at_call => ?_⟩
  · by_contra stuck
    have waits (i : ι) (going : ¬ (c.point i).through) : Waiting i c.shared (c.point i) := by
      refine stormStep_waits ?_ going
      rw [← Option.not_isSome_iff_eq_none]
      exact fun moves => stuck ⟨i, going, moves⟩
    have noRow {j : ι} {k : String} (held : c.shared.locks k = some j) : False :=
      stuck ⟨j, holding_moves (lockedOutline.holds run j) (locksOutline.holds run j k held)⟩
    obtain ⟨i, going⟩ := going
    cases waits i going with
    | @counters j line held =>
        have merging := ((stormMutex failures).outline stormStart_outside).holds run j
        exact stuck ⟨j, merging_moves (merging.mpr held)⟩
    | row other held => exact noRow held
    | connection line none =>
        have taken := run.connections
        rw [none, Nat.zero_add] at taken
        obtain ⟨j, -, inside⟩ := Finset.exists_ne_zero_of_sum_ne_zero
          (taken.symm ▸ Nat.one_le_iff_ne_zero.mp connections)
        have connected : (c.point j).line.during NaiveLine.connected = true := by
          simpa [Bool.toNat_eq_zero] using inside
        have busy : ¬ (c.point j).through := by
          rintro (line | ⟨e, line⟩) <;> simp [line, StormLine.during] at connected
        cases waits j busy with
        | counters line => simp [line, StormLine.during] at connected
        | connection line => simp [line] at connected
        | row other held => exact noRow held
  · have locked : c.shared.locks (key (leg.account t)) = some i :=
      lockedOutline.holds run i t (.reconnect leg e) at_call
    exact ⟨locked, reconnect_timesOut at_call locked⟩

end

end

/-! ## Two workers and one account -/

attribute [local instance] foldCase clearText

theorem storm_counts_contending : ∃ c,
    follow (storm false) (plainly (bothRead ++ merged)) (stormStart 2 opened contending) = some c ∧
    c.shared.counted = 2 := by
  have ends : (follow (storm false) (plainly (bothRead ++ merged)) (stormStart 2 opened contending)).any
      (fun c => ∀ i, (c.point i).line.isFinished = true) = true := by decide +kernel
  obtain ⟨c, run, finished⟩ := (Option.any_eq_true _ _).mp ends
  have counts := storm_counts (Execution.start.follow run)
  exact ⟨c, run, counts.2 fun i => StormLine.isFinished_iff.mp (of_decide_eq_true finished i)⟩

/-- The second has its debit refused when the first is through. -/
def refusedLate : List Bool :=
  List.replicate 3 false ++ List.replicate 3 true ++ List.replicate 14 false ++ [true, true]

def StormLine.reconnecting : StormLine → Option (Withdrawal × Leg × Exn)
  | .call t (.reconnect leg e) => some (t, leg, e)
  | _ => none

theorem StormLine.reconnecting_eq {line : StormLine} {leg : Leg} {e : Exn} {t : Withdrawal}
    (here : line.reconnecting = some (t, leg, e)) : line = .call t (.reconnect leg e) := by
  unfold StormLine.reconnecting at here
  split at here
  · cases here
    rfl
  · cases here

/-- Nobody else is left, and the second waits for the row it has locked itself. -/
theorem storm_progress_contending : ∃ c,
    follow (storm false) (plainly refusedLate) (stormStart 2 opened contending) = some c ∧
    (c.point false).through ∧ c.shared.locks (key "a-1") = some true ∧
    ∃ i, ¬ (c.point i).through ∧ (storm false none i c.shared (c.point i)).isSome := by
  have ends : (follow (storm false) (plainly refusedLate) (stormStart 2 opened contending)).any
      (fun c => (c.point false).line.isFinished = true ∧ (c.point true).line.reconnecting =
        some (⟨"a-1", "b-1", 6000⟩, .debit, .driver (mysqlError 3819))) = true := by decide +kernel
  obtain ⟨c, run, ok⟩ := (Option.any_eq_true _ _).mp ends
  obtain ⟨finished, waiting⟩ := of_decide_eq_true ok
  have at_call := StormLine.reconnecting_eq waiting
  have going : ¬ (c.point true).through := by
    rintro (line | ⟨e, line⟩) <;> cases at_call.symm.trans line
  obtain ⟨moves, waits⟩ := storm_progress (by decide) (Execution.start.follow run)
  exact ⟨c, run, Or.inl (StormLine.isFinished_iff.mp finished), (waits true _ _ _ at_call).1,
    moves ⟨true, going⟩⟩

end Corebank
