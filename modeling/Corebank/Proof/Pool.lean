import Corebank.Pool

/-! # One pool for all threads -/

namespace Corebank
open Library Library.Threads

section
variable {ι : Type} {i : ι} {failure : Option Exn} {s s' : PoolState ι} {t t' : PoolThread}

/-! ## One step -/

/-- The steps of a thread, by the line it is at. -/
inductive PoolTurn (i : ι) (s : PoolState ι) (t : PoolThread) (call : PoolCall)
    (rest : List PoolCall) : PoolState ι → PoolThread → Prop where
  | found (line : t.line = .enter) (get : call = .getPool) (pool : s.pool ≠ none) :
      PoolTurn i s t call rest s { t with since := s.resets, line := .giveBack }
  | missing (line : t.line = .enter) :
      PoolTurn i s t call rest s { t with since := s.resets, line := .acquire }
  | acquire (line : t.line = .acquire) (free : s.lock = none) :
      PoolTurn i s t call rest { s with lock := some i } (t.goto call.locked)
  | empty (line : t.line = .recheck) (pool : s.pool = none) :
      PoolTurn i s t call rest s (t.goto .build)
  | filled (line : t.line = .recheck) (pool : s.pool ≠ none) :
      PoolTurn i s t call rest s (t.goto (.release none))
  | fail (line : t.line = .build) (e : Exn) : PoolTurn i s t call rest s (t.goto (.release (some e)))
  | build (line : t.line = .build) (lazily : Nat)
      (count : lazily = if call = .getPool then s.lazily + 1 else s.lazily) :
      PoolTurn i s t call rest { s with built := s.built + 1, lazily := lazily }
        (t.goto (.assign s.built))
  | assign {pool : Nat} (line : t.line = .assign pool) :
      PoolTurn i s t call rest { s with pool := some pool } (t.goto (.release none))
  | clear (line : t.line = .clear) :
      PoolTurn i s t call rest { s with pool := none, resets := s.resets + 1 }
        (t.goto (.release none))
  | raise {e : Exn} (line : t.line = .release (some e)) :
      PoolTurn i s t call rest { s with lock := none } (t.finish s call rest (.error e))
  | leave (line : t.line = .release none) (get : call = .getPool) :
      PoolTurn i s t call rest { s with lock := none } (t.goto .giveBack)
  | done (line : t.line = .release none) (other : call ≠ .getPool) :
      PoolTurn i s t call rest { s with lock := none } (t.finish s call rest (.ok none))
  | giveBack (line : t.line = .giveBack) :
      PoolTurn i s t call rest s (t.finish s call rest (.ok s.pool))

theorem poolStep_cases {next : PoolState ι × PoolThread} (h : poolStep failure i s t = some next) :
    ∃ call rest, t.todo = call :: rest ∧ PoolTurn i s t call rest next.1 next.2 := by
  unfold poolStep at h
  split at h
  · cases h
  · rename_i call rest todo
    refine ⟨call, rest, todo, ?_⟩
    split at h
    · rename_i line
      cases h
      by_cases shown : call = .getPool ∧ s.pool ≠ none
      · simp only [if_pos shown]
        exact .found line shown.1 shown.2
      · simp only [if_neg shown]
        exact .missing line
    · split at h
      · cases h
        exact .acquire ‹_› ‹_›
      · cases h
    · rename_i line
      cases h
      by_cases pool : s.pool = none
      · simp only [if_pos pool]
        exact .empty line pool
      · simp only [if_neg pool]
        exact .filled line pool
    · split at h <;> cases h
      · exact .fail ‹_› _
      · exact .build ‹_› _ rfl
    · cases h
      exact .assign ‹_›
    · cases h
      exact .clear ‹_›
    · split at h
      · cases h
        exact .raise ‹_›
      · split at h <;> cases h
        · exact .leave ‹_› ‹_›
        · exact .done ‹_› ‹_›
    · cases h
      exact .giveBack ‹_›

/-! ## The lock -/

/-- Between taking the lock and giving it back. -/
def PoolLine.inside : PoolLine → Prop
  | .enter | .acquire | .giveBack => False
  | _ => True

def PoolThread.inside (t : PoolThread) : Prop := t.line.inside

theorem locked_inside (call : PoolCall) : call.locked.inside := by
  cases call <;> trivial

theorem PoolTurn.lock {call : PoolCall} {rest : List PoolCall}
    (turn : PoolTurn i s t call rest s' t') :
    s'.lock = s.lock ∧ (t'.inside ↔ t.inside) ∨
      s.lock = none ∧ s'.lock = some i ∧ t'.inside ∨
      t.inside ∧ s'.lock = none ∧ ¬ t'.inside := by
  cases turn with
  | acquire line free => exact Or.inr (Or.inl ⟨free, rfl, locked_inside call⟩)
  | raise line | leave line | done line =>
      refine Or.inr (Or.inr ⟨?_, rfl, ?_⟩)
      · simp [PoolThread.inside, line, PoolLine.inside]
      · simp [PoolThread.inside, PoolThread.goto, PoolThread.finish, PoolLine.inside]
  | _ =>
      rename_i line
      refine Or.inl ⟨rfl, ?_⟩
      simp [PoolThread.inside, PoolThread.goto, PoolThread.finish, PoolLine.inside, *]

section
variable [DecidableEq ι] {calls : ι → List PoolCall} {c : Configuration ι (PoolState ι) PoolThread}

omit [DecidableEq ι] in
theorem poolMutex : Mutex (poolStep (ι := ι)) PoolState.lock PoolThread.inside where
  own mine moved := by
    obtain ⟨call, rest, -, turn⟩ := poolStep_cases moved
    rcases turn.lock with ⟨lock, same⟩ | ⟨-, lock, inside⟩ | ⟨-, lock, outside⟩
    · rw [lock, same, mine]
    · simp [lock, inside]
    · simp [lock, outside]
  others ne mine moved := by
    obtain ⟨call, rest, -, turn⟩ := poolStep_cases moved
    rcases turn.lock with ⟨lock, -⟩ | ⟨free, lock, -⟩ | ⟨inside, lock, -⟩
    · rw [lock]
    · simp [lock, free, ne.symm]
    · simp [lock, mine.mp inside, ne.symm]

omit [DecidableEq ι] in
theorem poolStart_outside (calls : ι → List PoolCall) (i : ι) :
    ((poolStart calls).point i).inside ↔ (poolStart calls).shared.lock = some i := by
  simp [poolStart, PoolThread.inside, PoolLine.inside]

theorem PoolRun.holder (run : PoolRun calls c) (i : ι) :
    (c.point i).inside ↔ c.shared.lock = some i :=
  (poolMutex.outline (poolStart_outside calls)).holds run i

/-! ## What the lock protects -/

/-- A pool `get_pool` has built and not yet assigned. -/
def PoolThread.owed (t : PoolThread) : Nat :=
  match t.line, t.todo.head? with
  | .assign _, some .getPool => 1
  | _, _ => 0

/-- `get_pool` built one pool, and one more for each reset at most. -/
def Spent (s : PoolState ι) (owed : Nat) : Prop :=
  s.lazily ≤ s.resets + (if s.pool = none then 0 else 1) + owed

/-- What the holder of the lock knows of `_pool`. -/
structure Held (s : PoolState ι) (t : PoolThread) : Prop where
  spent : Spent s t.owed
  reset : t.line = .clear → t.todo.head? ≠ some .getPool
  empty : t.line = .build ∨ (∃ p, t.line = .assign p) → t.todo.head? = some .getPool → s.pool = none
  filled : t.line = .release none → t.todo.head? = some .getPool → s.pool ≠ none

section
omit [DecidableEq ι]
variable {call : PoolCall} {rest : List PoolCall}

theorem owed_release {raised : Option Exn} (line : t.line = .release raised) : t.owed = 0 := by
  simp [PoolThread.owed, line]

theorem Held.same {u : PoolThread} (held : Held s u) (pool : s'.pool = s.pool)
    (lazily : s'.lazily = s.lazily) (resets : s'.resets = s.resets) : Held s' u := by
  refine ⟨?_, held.reset, ?_, ?_⟩
  · rw [Spent, pool, lazily, resets]
    exact held.spent
  · rw [pool]
    exact held.empty
  · rw [pool]
    exact held.filled

theorem Held.bound (held : Held s t) : s.lazily ≤ s.resets + 1 := by
  have spent := held.spent
  unfold PoolThread.owed at spent
  split at spent
  · rename_i line get
    rw [Spent, held.empty (Or.inr ⟨_, line⟩) get] at spent
    exact spent
  · refine spent.trans ?_
    split <;> omega

theorem PoolTurn.outside (turn : PoolTurn i s t call rest s' t') (out : ¬ t.inside) :
    s'.pool = s.pool ∧ s'.lazily = s.lazily ∧ s'.resets = s.resets := by
  cases turn with
  | found | missing | acquire | giveBack => exact ⟨rfl, rfl, rfl⟩
  | _ => exact absurd (by simp [PoolThread.inside, PoolLine.inside, *]) out

theorem PoolTurn.enters (turn : PoolTurn i s t call rest s' t') (todo : t.todo = call :: rest)
    (out : ¬ t.inside) (into : t'.inside) (spent : Spent s 0) : Held s' t' := by
  cases turn with
  | acquire line free =>
      cases call <;>
        exact ⟨spent, by simp [PoolThread.goto, PoolCall.locked, todo],
          by simp [PoolThread.goto, PoolCall.locked, todo],
          by simp [PoolThread.goto, PoolCall.locked]⟩
  | found | missing | giveBack => exact absurd into id
  | _ => exact absurd (by simp [PoolThread.inside, PoolLine.inside, *]) out

theorem PoolTurn.stays (turn : PoolTurn i s t call rest s' t') (todo : t.todo = call :: rest)
    (inside : t.inside) (still : t'.inside) (held : Held s t) : Held s' t' := by
  have spent := held.spent
  have current : t.todo.head? = some call := by rw [todo, List.head?_cons]
  cases turn with
  | found line | missing line | acquire line | giveBack line =>
      exact absurd inside (by simp [PoolThread.inside, PoolLine.inside, line])
  | raise | leave | done => exact absurd still id
  | empty line pool =>
      rw [PoolThread.owed, line] at spent
      exact ⟨spent, nofun, fun _ _ => pool, nofun⟩
  | filled line pool =>
      rw [PoolThread.owed, line] at spent
      exact ⟨spent, nofun, fun h => by simp [PoolThread.goto] at h, fun _ _ => pool⟩
  | fail line e =>
      rw [PoolThread.owed, line] at spent
      exact ⟨spent, nofun, fun h => by simp [PoolThread.goto] at h,
        fun h => by simp [PoolThread.goto] at h⟩
  | build line lazily count =>
      refine ⟨?_, nofun, fun _ get => held.empty (Or.inl line) get, nofun⟩
      rw [PoolThread.owed, line] at spent
      by_cases get : call = .getPool
      · subst get
        rw [Spent, held.empty (Or.inl line) current] at spent
        simp only [Spent, PoolThread.owed, PoolThread.goto, current, count,
          held.empty (Or.inl line) current]
        exact Nat.succ_le_succ spent
      · rw [count, if_neg get]
        exact spent.trans (Nat.le_add_right _ _)
  | assign line =>
      refine ⟨?_, nofun, fun h => by simp [PoolThread.goto] at h, nofun⟩
      by_cases get : call = .getPool
      · subst get
        simp only [Spent, PoolThread.owed, line, current, held.empty (Or.inr ⟨_, line⟩) current] at spent
        exact spent
      · have owed : t.owed = 0 := by
          simp [PoolThread.owed, line, current, get]
        rw [owed] at spent
        refine spent.trans ?_
        simp only [reduceCtorEq, if_false]
        split <;> omega
  | clear line =>
      refine ⟨?_, nofun, fun h => by simp [PoolThread.goto] at h,
        fun _ get => absurd get (held.reset line)⟩
      rw [PoolThread.owed, line] at spent
      refine spent.trans ?_
      simp only [PoolThread.owed, PoolThread.goto]
      split <;> omega

theorem PoolTurn.leaves (turn : PoolTurn i s t call rest s' t') (inside : t.inside)
    (out : ¬ t'.inside) (held : Held s t) : Spent s' 0 := by
  have spent := held.spent
  cases turn with
  | raise line | leave line | done line =>
      rw [owed_release line] at spent
      exact spent
  | found line | missing line | acquire line | giveBack line =>
      exact absurd inside (by simp [PoolThread.inside, PoolLine.inside, line])
  | _ => exact absurd trivial out

end

omit [DecidableEq ι] in
theorem poolMonitor : Monitor (poolStep (ι := ι)) PoolState.lock PoolThread.inside
    (fun s => Spent s 0) Held where
  mutex := poolMutex
  outside out moved := by
    obtain ⟨call, rest, -, turn⟩ := poolStep_cases moved
    obtain ⟨pool, lazily, resets⟩ := turn.outside out
    refine ⟨fun u held => held.same pool lazily resets, fun spent => ?_⟩
    rw [Spent, pool, lazily, resets]
    exact spent
  enter out into moved spent := by
    obtain ⟨call, rest, todo, turn⟩ := poolStep_cases moved
    exact turn.enters todo out into spent
  inside inside still moved held := by
    obtain ⟨call, rest, todo, turn⟩ := poolStep_cases moved
    exact turn.stays todo inside still held
  leave inside out moved held := by
    obtain ⟨call, rest, -, turn⟩ := poolStep_cases moved
    exact turn.leaves inside out held

theorem PoolRun.spent (run : PoolRun calls c) :
    (c.shared.lock = none → Spent c.shared 0) ∧ ∀ i, (c.point i).inside → Held c.shared (c.point i) :=
  poolMonitor.holds (poolStart_outside calls) ⟨rfl, Nat.le_refl 0⟩ run

/-! ## What a call returns -/

omit [DecidableEq ι] in
/-- The pool goes only when it is reset. -/
theorem PoolTurn.reset {call : PoolCall} {rest : List PoolCall}
    (turn : PoolTurn i s t call rest s' t') :
    s.resets ≤ s'.resets ∧ (s.pool ≠ none → s'.pool ≠ none ∨ s.resets < s'.resets) := by
  cases turn with
  | clear => exact ⟨Nat.le_succ _, fun _ => Or.inr (Nat.lt_succ_self _)⟩
  | assign => exact ⟨Nat.le_refl _, fun _ => Or.inl (Option.some_ne_none _)⟩
  | _ => exact ⟨Nat.le_refl _, Or.inl⟩

/-- What a thread knows of its call and of those before. -/
structure Shown (s : PoolState ι) (t : PoolThread) : Prop where
  idle : t.todo = [] → t.line = .enter
  began : t.line ≠ .enter → t.since ≤ s.resets
  pool : t.line = .giveBack → s.pool ≠ none ∨ t.since < s.resets
  past : ∀ r ∈ t.returned, r.call = .getPool → r.outcome = .ok none → 0 < r.resets

omit [DecidableEq ι] in
theorem Shown.finish {call : PoolCall} {rest : List PoolCall} {outcome : Except Exn (Option Nat)}
    (shown : Shown s t) (right : call = .getPool → outcome = .ok none → t.since < s.resets) :
    Shown s' (t.finish s call rest outcome) where
  idle _ := rfl
  began other := absurd rfl other
  pool := nofun
  past r mem get none := by
    rcases List.mem_append.mp mem with mem | mem
    · exact shown.past r mem get none
    · cases List.mem_singleton.mp mem
      exact Nat.sub_pos_of_lt (right get none)

omit [DecidableEq ι] in
theorem Shown.goto {line : PoolLine} (shown : Shown s t) (began : t.line ≠ .enter)
    (resets : s.resets ≤ s'.resets) (pool : line = .giveBack → s'.pool ≠ none) :
    Shown s' (t.goto line) where
  idle none := absurd (shown.idle none) began
  began _ := (shown.began began).trans resets
  pool at_end := Or.inl (pool at_end)
  past := shown.past

omit [DecidableEq ι] in
theorem PoolTurn.shown {call : PoolCall} {rest : List PoolCall}
    (turn : PoolTurn i s t call rest s' t') (todo : t.todo = call :: rest)
    (held : t.inside → Held s t) (shown : Shown s t) : Shown s' t' := by
  cases turn with
  | found line get pool =>
      exact ⟨fun none => by simp [todo] at none, fun _ => Nat.le_refl _, fun _ => Or.inl pool, shown.past⟩
  | missing line => exact ⟨fun none => by simp [todo] at none, fun _ => Nat.le_refl _, nofun, shown.past⟩
  | acquire line =>
      refine shown.goto (by simp [line]) (Nat.le_refl _) fun at_end => ?_
      cases call <;> cases at_end
  | empty line | filled line | fail line | build line | assign line =>
      exact shown.goto (by simp [line]) (Nat.le_refl _) nofun
  | clear line => exact shown.goto (by simp [line]) (Nat.le_succ _) nofun
  | raise line => exact shown.finish nofun
  | leave line get =>
      refine shown.goto (by simp [line]) (Nat.le_refl _) fun _ => ?_
      exact (held (by simp [PoolThread.inside, PoolLine.inside, line])).filled line (by simp [todo, get])
  | done line other => exact shown.finish fun get => absurd get other
  | giveBack line =>
      refine shown.finish fun _ none => ?_
      exact (shown.pool line).resolve_left (not_not.mpr (Except.ok.inj none))

theorem shownOutline (calls : ι → List PoolCall) :
    Outline (poolStep (ι := ι)) (poolStart calls) fun _ s t => Shown s t where
  start i := ⟨fun _ => rfl, fun other => absurd rfl other, nofun, nofun⟩
  own {c e i next} run shown moved := by
    obtain ⟨call, rest, todo, turn⟩ := poolStep_cases moved
    exact turn.shown todo ((PoolRun.spent run).2 i) shown
  stable run _ _ shown moved := by
    obtain ⟨call, rest, todo, turn⟩ := poolStep_cases moved
    obtain ⟨resets, kept⟩ := turn.reset
    refine ⟨shown.idle, fun other => (shown.began other).trans resets, fun line => ?_, shown.past⟩
    rcases shown.pool line with pool | since
    · exact (kept pool).imp_right fun reset => (shown.began (by simp [line])).trans_lt reset
    · exact Or.inr (since.trans_le resets)

/-! ## Numbers of pools -/

/-- Every pool in sight was built. -/
structure Numbered (s : PoolState ι) (t : PoolThread) : Prop where
  stored : ∀ p, s.pool = some p → p < s.built
  carried : ∀ p, t.line = .assign p → p < s.built
  returned : ∀ r ∈ t.returned, ∀ p, r.outcome = .ok (some p) → p < s.built

omit [DecidableEq ι] in
theorem PoolTurn.built {call : PoolCall} {rest : List PoolCall}
    (turn : PoolTurn i s t call rest s' t') :
    s.built ≤ s'.built ∧
      ∀ p, s'.pool = some p → s.pool = some p ∨ t.line = .assign p := by
  cases turn with
  | build => exact ⟨Nat.le_succ _, fun _ => Or.inl⟩
  | assign line =>
      refine ⟨Nat.le_refl _, fun p same => ?_⟩
      cases same
      exact Or.inr line
  | clear => exact ⟨Nat.le_refl _, nofun⟩
  | _ => exact ⟨Nat.le_refl _, fun _ => Or.inl⟩

omit [DecidableEq ι] in
theorem PoolTurn.returned {call : PoolCall} {rest : List PoolCall}
    (turn : PoolTurn i s t call rest s' t') :
    (∀ p, t'.line = .assign p → p < s'.built) ∧
      ∀ r ∈ t'.returned, r ∈ t.returned ∨ ∀ p, r.outcome = .ok (some p) → s.pool = some p := by
  have finished (outcome : Except Exn (Option Nat))
      (right : ∀ p, outcome = .ok (some p) → s.pool = some p) :
      ∀ r ∈ (t.finish s call rest outcome).returned,
        r ∈ t.returned ∨ ∀ p, r.outcome = .ok (some p) → s.pool = some p := by
    intro r mem
    refine (List.mem_append.mp mem).imp_right fun new => ?_
    cases List.mem_singleton.mp new
    exact right
  cases turn with
  | acquire =>
      refine ⟨fun p line => ?_, fun _ => Or.inl⟩
      cases call <;> cases line
  | build =>
      refine ⟨fun p line => ?_, fun _ => Or.inl⟩
      cases line
      exact Nat.lt_succ_self _
  | raise | done => exact ⟨nofun, finished _ nofun⟩
  | giveBack => exact ⟨nofun, finished _ fun p same => Except.ok.inj same⟩
  | _ => exact ⟨nofun, fun _ => Or.inl⟩

omit [DecidableEq ι] in
theorem PoolTurn.numbered {call : PoolCall} {rest : List PoolCall}
    (turn : PoolTurn i s t call rest s' t') (numbered : Numbered s t) : Numbered s' t' := by
  obtain ⟨more, assigned⟩ := turn.built
  obtain ⟨carried, shown⟩ := turn.returned
  refine ⟨fun p pool => ?_, carried, fun r mem p outcome => ?_⟩
  · exact ((assigned p pool).elim (numbered.stored p) (numbered.carried p)).trans_le more
  · rcases shown r mem with old | new
    · exact (numbered.returned r old p outcome).trans_le more
    · exact (numbered.stored p (new p outcome)).trans_le more

theorem numberedOutline (calls : ι → List PoolCall) :
    Outline (poolStep (ι := ι)) (poolStart calls) fun _ s t => Numbered s t where
  start i := ⟨nofun, nofun, nofun⟩
  own run numbered moved := by
    obtain ⟨call, rest, -, turn⟩ := poolStep_cases moved
    exact turn.numbered numbered
  stable run _ mine numbered moved := by
    obtain ⟨call, rest, -, turn⟩ := poolStep_cases moved
    exact ⟨(turn.numbered mine).stored, fun p line => (numbered.carried p line).trans_le turn.built.1,
      fun r mem p outcome => (numbered.returned r mem p outcome).trans_le turn.built.1⟩

/-! ## Progress -/

omit [DecidableEq ι] in
theorem poolStep_blocked (waits : poolStep failure i s t = none) :
    t.todo = [] ∨ t.line = .acquire ∧ s.lock ≠ none := by
  unfold poolStep at waits
  split at waits
  · exact Or.inl ‹_›
  · right
    split at waits
    case h_2 line =>
      split at waits
      · cases waits
      · rename_i held
        exact ⟨line, by simp [held]⟩
    case h_4 | h_7 => split at waits <;> (try split at waits) <;> cases waits
    all_goals cases waits

/-- Whoever waits for the lock waits for a thread that can go on. -/
theorem PoolRun.progress (run : PoolRun calls c) (failure : Option Exn)
    (busy : ∃ i, (c.point i).todo ≠ []) :
    ∃ j, (poolStep failure j c.shared (c.point j)).isSome := by
  obtain ⟨i, busy⟩ := busy
  by_contra stuck
  have waits (j : ι) : poolStep failure j c.shared (c.point j) = none := by
    rw [← Option.not_isSome_iff_eq_none]
    exact fun moves => stuck ⟨j, moves⟩
  rcases poolStep_blocked (waits i) with none | ⟨-, held⟩
  · exact busy none
  · obtain ⟨j, holds⟩ := Option.ne_none_iff_exists'.mp held
    have inside : (c.point j).inside := (run.holder j).mpr holds
    rcases poolStep_blocked (waits j) with none | ⟨line, -⟩
    · have idle := ((shownOutline calls).holds run j).idle none
      simp [PoolThread.inside, PoolLine.inside, idle] at inside
    · simp [PoolThread.inside, PoolLine.inside, line] at inside

/-! ## Every reachable state -/

structure PoolSafe (c : Configuration ι (PoolState ι) PoolThread) : Prop where
  exclusive : ∀ i j, (c.point i).inside → (c.point j).inside → i = j
  lazily : c.shared.lazily ≤ c.shared.resets + 1
  returns : ∀ i, ∀ r ∈ (c.point i).returned, r.call = .getPool →
    r.outcome = .ok none → 0 < r.resets
  progress : (∃ i, (c.point i).todo ≠ []) →
    ∀ failure, ∃ j, (poolStep failure j c.shared (c.point j)).isSome

/-- One thread at a time has the lock, and nobody waits for ever. `get_pool` builds at most one pool
more than there were resets, and returns `None` only if the pool was reset while it ran. -/
theorem pool_safe (run : PoolRun calls c) : PoolSafe c where
  exclusive i j hi hj := poolMutex.exclusive (poolStart_outside calls) run hi hj
  lazily := by
    obtain ⟨free, held⟩ := run.spent
    cases lock : c.shared.lock with
    | none =>
        refine (free lock).trans ?_
        split <;> omega
    | some i => exact (held i ((run.holder i).mpr lock)).bound
  returns i := ((shownOutline calls).holds run i).past
  progress busy failure := run.progress failure busy

/-- The state of a process in which `get_pool` alone is called. -/
structure Lazy (s : PoolState ι) (t : PoolThread) : Prop where
  resets : s.resets = 0
  built : s.built = s.lazily
  todo : ∀ call ∈ t.todo, call = .getPool
  line : t.line ≠ .clear
  returned : ∀ r ∈ t.returned, r.call = .getPool ∧ r.resets = 0

omit [DecidableEq ι] in
theorem Lazy.finish {rest : List PoolCall} {outcome : Except Exn (Option Nat)} (known : Lazy s t)
    (todo : t.todo = .getPool :: rest) (resets : s'.resets = 0) (built : s'.built = s'.lazily) :
    Lazy s' (t.finish s .getPool rest outcome) where
  resets := resets
  built := built
  todo call mem := known.todo call (todo ▸ List.mem_cons_of_mem _ mem)
  line := nofun
  returned r mem := by
    rcases List.mem_append.mp mem with mem | mem
    · exact known.returned r mem
    · cases List.mem_singleton.mp mem
      exact ⟨rfl, by rw [known.resets, Nat.zero_sub]⟩

omit [DecidableEq ι] in
theorem PoolTurn.lazy {call : PoolCall} {rest : List PoolCall}
    (turn : PoolTurn i s t call rest s' t') (todo : t.todo = call :: rest) (known : Lazy s t) :
    Lazy s' t' := by
  obtain rfl : call = .getPool := known.todo call (todo ▸ List.mem_cons_self)
  cases turn with
  | clear line => exact absurd line known.line
  | raise | giveBack => exact known.finish todo known.resets known.built
  | done line other => exact absurd rfl other
  | build line lazily count =>
      exact ⟨known.resets, count ▸ congrArg Nat.succ known.built, known.todo, nofun, known.returned⟩
  | _ => exact ⟨known.resets, known.built, known.todo, nofun, known.returned⟩

theorem lazyOutline (lazy : ∀ i, ∀ call ∈ calls i, call = .getPool) :
    Outline (poolStep (ι := ι)) (poolStart calls) fun _ s t => Lazy s t where
  start i := ⟨rfl, rfl, lazy i, nofun, List.forall_mem_nil _⟩
  own run known moved := by
    obtain ⟨call, rest, todo, turn⟩ := poolStep_cases moved
    exact turn.lazy todo known
  stable run _ mine known moved := by
    obtain ⟨call, rest, todo, turn⟩ := poolStep_cases moved
    have after := turn.lazy todo mine
    exact ⟨after.resets, after.built, known.todo, known.line, known.returned⟩

/-- While nobody sets or resets the pool, all threads are given the same one. -/
theorem one_pool (lazy : ∀ i, ∀ call ∈ calls i, call = .getPool) (run : PoolRun calls c) :
    c.shared.built ≤ 1 ∧
      ∀ i, ∀ r ∈ (c.point i).returned, ∀ pool, r.outcome = .ok pool → pool = some 0 := by
  have known (i : ι) := (lazyOutline lazy).holds run i
  have safe := pool_safe run
  have one : c.shared.built ≤ 1 := by
    cases run with
    | start => exact Nat.zero_le 1
    | move e i past moved =>
        have bound := safe.lazily
        rwa [(known i).resets, ← (known i).built] at bound
  refine ⟨one, fun i r mem pool outcome => ?_⟩
  obtain ⟨get, resets⟩ := (known i).returned r mem
  cases pool with
  | none => exact absurd resets (safe.returns i r mem get outcome).ne'
  | some p =>
      have bound := ((numberedOutline calls).holds run i).returned r mem p outcome
      rw [Nat.lt_one_iff.mp (bound.trans_le one)]

end

end

/-! ## Two threads -/

def racing : Bool → List PoolCall := fun _ => [.getPool]

/-- Both threads find no pool, and the second finds one when it has the lock. -/
def raced : List (Bool × Option Exn) :=
  ([false, true] ++ List.replicate 5 false ++ List.replicate 4 true ++ [false]).map fun i => (i, none)

theorem one_pool_racing : ∃ c, follow poolStep raced (poolStart racing) = some c ∧
    (∀ i, (c.point i).returned.length = 1) ∧
    ∀ i, ∀ r ∈ (c.point i).returned, ∀ pool, r.outcome = .ok pool → pool = some 0 := by
  have ends : (follow poolStep raced (poolStart racing)).any (fun c =>
      decide (∀ i, (c.point i).returned.length = 1)) = true := by decide +kernel
  obtain ⟨c, run, once⟩ := (Option.any_eq_true _ _).mp ends
  exact ⟨c, run, of_decide_eq_true once, (one_pool (by decide) (Execution.start.follow run)).2⟩

def resetting : Bool → List PoolCall
  | false => [.getPool]
  | true => [.resetPool]

/-- The pool goes between the check of `get_pool` and its return. -/
def unset : List (Bool × Option Exn) :=
  (List.replicate 6 false ++ List.replicate 4 true ++ [false]).map fun i => (i, none)

theorem pool_safe_resetting : ∃ c, follow poolStep unset (poolStart resetting) = some c ∧
    (c.point false).returned.map (fun r => (r.call, r.outcome, r.resets)) = [(.getPool, .ok none, 1)] ∧
    PoolSafe c := by
  have ends : (follow poolStep unset (poolStart resetting)).map (fun c =>
      (c.point false).returned.map fun r => (r.call, r.outcome, r.resets)) =
        some [(.getPool, .ok none, 1)] := by decide +kernel
  obtain ⟨c, run, gone⟩ := Option.map_eq_some_iff.mp ends
  exact ⟨c, run, gone, pool_safe (Execution.start.follow run)⟩

end Corebank
