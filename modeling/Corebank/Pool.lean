import Corebank.Exceptions
import Corebank.Library.Threads

/-!
# The connection pool of the process

`app/db/pool.py`: the variable `_pool`, the lock beside it and the threads that call for a pool.
-/

namespace Corebank
open Library Library.Threads

inductive PoolCall where
  | initPool | getPool | resetPool
  deriving DecidableEq, Repr

/-- Where a thread is in its call. -/
inductive PoolLine where
  | enter
  /-- At `with _lock`. -/
  | acquire
  | recheck
  | build
  | assign (pool : Nat)
  | clear
  /-- At the end of the `with` block, left by an exception or not. -/
  | release (raised : Option Exn)
  /-- At `return _pool`. -/
  | giveBack
  deriving DecidableEq

/-- What came of a call, and how often the pool was reset while it ran. -/
structure Returned where
  call : PoolCall
  outcome : Except Exn (Option Nat)
  resets : Nat

structure PoolThread where
  todo : List PoolCall
  line : PoolLine
  /-- The resets there had been when the call began. -/
  since : Nat
  returned : List Returned

/-- Pools are numbered as they are built. Of them `get_pool` built `lazily` many. -/
structure PoolState (ι : Type) where
  pool : Option Nat
  lock : Option ι
  built : Nat
  lazily : Nat
  resets : Nat

def PoolCall.locked : PoolCall → PoolLine
  | .initPool => .build
  | .getPool => .recheck
  | .resetPool => .clear

variable {ι : Type}

def PoolThread.goto (t : PoolThread) (line : PoolLine) : PoolThread := { t with line := line }

def PoolThread.finish (t : PoolThread) (s : PoolState ι) (call : PoolCall) (rest : List PoolCall)
    (outcome : Except Exn (Option Nat)) : PoolThread :=
  ⟨rest, .enter, t.since, t.returned ++ [⟨call, outcome, s.resets - t.since⟩]⟩

/-- The next step of thread `i`. A pool that is being built raises `failure`, if there is one. -/
def poolStep (failure : Option Exn) (i : ι) (s : PoolState ι) (t : PoolThread) :
    Option (PoolState ι × PoolThread) :=
  match t.todo with
  | [] => none
  | call :: rest =>
      match t.line with
      | .enter =>
          let line := if call = .getPool ∧ s.pool ≠ none then .giveBack else .acquire
          some (s, { t with since := s.resets, line := line })
      | .acquire =>
          match s.lock with
          | none => some ({ s with lock := some i }, t.goto call.locked)
          | some _ => none
      | .recheck => some (s, t.goto (if s.pool = none then .build else .release none))
      | .build =>
          match failure with
          | some e => some (s, t.goto (.release (some e)))
          | none =>
              let lazily := if call = .getPool then s.lazily + 1 else s.lazily
              some ({ s with built := s.built + 1, lazily := lazily }, t.goto (.assign s.built))
      | .assign pool => some ({ s with pool := some pool }, t.goto (.release none))
      | .clear => some ({ s with pool := none, resets := s.resets + 1 }, t.goto (.release none))
      | .release raised =>
          let s' := { s with lock := none }
          match raised with
          | some e => some (s', t.finish s call rest (.error e))
          | none =>
              if call = .getPool then some (s', t.goto .giveBack)
              else some (s', t.finish s call rest (.ok none))
      | .giveBack => some (s, t.finish s call rest (.ok s.pool))

/-- A process in which no pool was built yet. -/
def poolStart (calls : ι → List PoolCall) : Configuration ι (PoolState ι) PoolThread :=
  ⟨⟨none, none, 0, 0, 0⟩, fun i => ⟨calls i, .enter, 0, []⟩⟩

abbrev PoolRun [DecidableEq ι] (calls : ι → List PoolCall) :=
  Execution (poolStep (ι := ι)) (poolStart calls)

end Corebank
