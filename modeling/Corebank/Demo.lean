import Corebank.Operations
import Corebank.Library.Threads

/-!
# The storm of the concurrency demo

`naive_transfer` and `_storm` of `scripts/concurrency_demo.py`: workers that check a balance, debit it
and credit another in statements of their own, and count what came of it.
-/

namespace Corebank
open Library Library.Threads

/-- The keys of `counters`. -/
inductive Tally where
  | ok | cleanReject | dbError
  deriving DecidableEq, Repr

def Tally.all : List Tally := [.ok, .cleanReject, .dbError]

/-- The arguments of one call of `transfer_fn`. -/
structure Withdrawal where
  sender : String
  receiver : String
  amount : Int
  deriving DecidableEq, Repr

/-- The two UPDATEs of a transfer. -/
inductive Leg where
  | debit | credit
  deriving DecidableEq, Repr

def Leg.account (t : Withdrawal) : Leg → String
  | .debit => t.sender
  | .credit => t.receiver

/-- What the UPDATE adds to the balance. -/
def Leg.change (t : Withdrawal) : Leg → Int
  | .debit => -t.amount
  | .credit => t.amount

/-- What is debited and not credited if the UPDATE fails. -/
def Leg.missing (t : Withdrawal) : Leg → Int
  | .debit => 0
  | .credit => t.amount

/-- Where a worker is in `naive_transfer`. -/
inductive NaiveLine where
  | connect
  | select
  /-- `since` is how often the account had been debited when `balance` was read. -/
  | debit (balance : Int) (since : Nat)
  /-- `own` is the row as the transaction has it. -/
  | commitDebit (own : Option Account)
  | credit
  | commitCredit (own : Option Account)
  /-- Where DBUtils executes an UPDATE that raised `e` once more, with a new cursor. -/
  | retry (leg : Leg) (e : Exn)
  /-- And then once more, with a connection it opens beside those of the pool. -/
  | reconnect (leg : Leg) (e : Exn)
  /-- At `conn.close()`. `missing` was debited and not credited. -/
  | close (outcome : Except Exn Unit) (missing : Int)

inductive StormLine where
  | next
  | call (t : Withdrawal) (line : NaiveLine)
  /-- At `with lock`. -/
  | acquire
  /-- Where `counters[key] += local[key]` reads `counters[key]`, and with what it then sets it. -/
  | load (keys : List Tally)
  | store (key : Tally) (value : Nat) (keys : List Tally)
  | finished
  | crashed (e : Exn)

/-- `lost` sums up what was debited in calls that failed before the credit. -/
structure Worker where
  todo : List Withdrawal
  line : StormLine
  tally : Tally → Nat
  lost : Int

/-- `db` is what is committed, and `debits` counts the committed debits of each account. -/
structure StormState (ι : Type) where
  db : Db
  locks : String → Option ι
  debits : String → Nat
  free : Nat
  counters : Tally → Nat
  mutex : Option ι

section
variable [Collation] {ι : Type} [DecidableEq ι]

/-! ## Statements -/

namespace StormState

def lock (s : StormState ι) (i : ι) (id : String) : StormState ι :=
  { s with locks := Function.update s.locks (key id) (some i) }

/-- An UPDATE of an account by transaction `i`, which waits for the row's lock, and the row after it. -/
def update (s : StormState ι) (i : ι) (id : String) (change : AccountChange) :
    Option (StormState ι × Except Exn (Option Account)) :=
  match s.db.find .account id with
  | none => some (s, .ok none)
  | some _ =>
      if (s.locks (key id)).all (· = i) then
        match (Statement.update .account id change).exec s.db with
        | .ok (_, db') => some (s.lock i id, .ok (db'.find .account id))
        | .error e => some (s.lock i id, .error (.driver e))
      else none

def release (s : StormState ι) (i : ι) : StormState ι :=
  { s with locks := fun k => (s.locks k).filter (· ≠ i) }

def write (s : StormState ι) (own : Option Account) : StormState ι :=
  { s with
    db := match own with
      | none => s.db
      | some r => s.db.set .account (Keyed.replace (rowKey .account) r (s.db .account)) }

def commit (s : StormState ι) (i : ι) (own : Option Account) : StormState ι := (s.write own).release i

def countDebit (s : StormState ι) (id : String) : StormState ι :=
  { s with debits := Function.update s.debits (key id) (s.debits (key id) + 1) }

end StormState

/-! ## `naive_transfer` -/

/-- The `failures` of DBUtils. A statement that raises one is executed again, unless `begin()` was
called. -/
def Exn.isFailure : Exn → Bool
  | .driver e => e.errorClass = .operational
  | _ => false

def Exn.sameClass : Exn → Exn → Bool
  | .driver e, .driver e' => e.errorClass = e'.errorClass
  | _, _ => false

def Leg.commit (own : Option Account) : Leg → NaiveLine
  | .debit => .commitDebit own
  | .credit => .commitCredit own

def Leg.fail (t : Withdrawal) (leg : Leg) (e : Exn) : NaiveLine := .close (.error e) (leg.missing t)

/-- Where an UPDATE leads that was executed the first time. -/
def Leg.executed (t : Withdrawal) (leg : Leg) : Except Exn (Option Account) → NaiveLine
  | .ok own => leg.commit own
  | .error e => if e.isFailure then .retry leg e else leg.fail t e

def NaiveLine.missing : NaiveLine → Int
  | .close _ missing => missing
  | _ => 0

def StormState.execute (s : StormState ι) (i : ι) (t : Withdrawal) (leg : Leg) :
    Option (StormState ι × Except Exn (Option Account)) :=
  s.update i (leg.account t) (.credit (leg.change t))

/-- The UPDATE on the connection DBUtils opened, after it raised `e` twice. Only the lock wait timeout
ends its wait for a row the worker itself has locked on the other connection. -/
def reconnected (i : ι) (s : StormState ι) (t : Withdrawal) (leg : Leg) (e : Exn) :
    Option (StormState ι × NaiveLine) :=
  if s.locks (key (leg.account t)) = some i then some (s, leg.fail t e)
  else
    ((s.release i).execute i t leg).map fun executed =>
      match executed.2 with
      -- the new connection takes the place of the other, which is closed
      | .ok own => (executed.1, leg.commit own)
      | .error e' => if e.sameClass e' then (s, leg.fail t e) else (executed.1, leg.fail t e')

/-- The next step of a call, which may raise `failure`: on to another line, or to its end. -/
def naiveStep (failure : Option Exn) (i : ι) (s : StormState ι) (t : Withdrawal) :
    NaiveLine → Option (StormState ι × (NaiveLine ⊕ Except Exn Unit))
  | .connect =>
      match failure with
      | some e => some (s, .inr (.error e))
      | none => if s.free = 0 then none else some ({ s with free := s.free - 1 }, .inl .select)
  | .select =>
      match failure, s.db.find .account t.sender with
      | some e, _ => some (s, .inl (.close (.error e) 0))
      | none, none => some (s, .inl (.close (.error (.other "TypeError")) 0))
      | none, some r =>
          if r.balance < t.amount then
            some (s, .inl (.close (.error (.app .businessRule "Insufficient funds")) 0))
          else some (s, .inl (.debit r.balance (s.debits (key t.sender))))
  | .debit _ _ =>
      match failure with
      | some e => some (s, .inl (Leg.debit.fail t e))
      | none =>
          (s.execute i t .debit).map fun executed =>
            (executed.1, .inl (Leg.debit.executed t executed.2))
  | .commitDebit own =>
      match failure with
      | some e => some (s, .inl (.close (.error e) 0))
      | none => some ((s.commit i own).countDebit t.sender, .inl .credit)
  | .credit =>
      match failure with
      | some e => some (s, .inl (Leg.credit.fail t e))
      | none =>
          (s.execute i t .credit).map fun executed =>
            (executed.1, .inl (Leg.credit.executed t executed.2))
  | .commitCredit own =>
      match failure with
      | some e => some (s, .inl (.close (.error e) t.amount))
      | none => some (s.commit i own, .inl (.close (.ok ()) 0))
  | .retry leg e =>
      match failure with
      | some _ => some (s, .inl (.reconnect leg e))
      | none =>
          (s.execute i t leg).map fun executed =>
            match executed.2 with
            | .ok own => (executed.1, .inl (leg.commit own))
            | .error _ => (executed.1, .inl (.reconnect leg e))
  | .reconnect leg e =>
      match failure with
      | some e' => some (s, .inl (leg.fail t (if e.sameClass e' then e else e')))
      | none => (reconnected i s t leg e).map fun next => (next.1, .inl next.2)
  | .close outcome _ => some ({ s.release i with free := s.free + 1 }, .inr outcome)

/-! ## `worker` -/

def Worker.goto (w : Worker) (line : StormLine) : Worker := { w with line := line }

def Worker.count (w : Worker) (key : Tally) (missing : Int) : Worker :=
  { w with
    line := .next
    tally := Function.update w.tally key (w.tally key + 1)
    lost := w.lost + missing }

/-- An exception of no class the worker catches ends it. -/
def Worker.ended (w : Worker) (missing : Int) : Except Exn Unit → Worker
  | .ok () => w.count .ok missing
  | .error (.app .businessRule _) => w.count .cleanReject missing
  | .error e@(.driver error) =>
      if error.errorClass = .operational then w.count .dbError missing
      else { w with line := .crashed e, lost := w.lost + missing }
  | .error e => { w with line := .crashed e, lost := w.lost + missing }

def stormStep (failure : Option Exn) (i : ι) (s : StormState ι) (w : Worker) :
    Option (StormState ι × Worker) :=
  match w.line with
  | .next =>
      match w.todo with
      | [] => some (s, w.goto .acquire)
      | t :: rest => some (s, { w with todo := rest, line := .call t .connect })
  | .call t line =>
      (naiveStep failure i s t line).map fun next =>
        match next.2 with
        | .inl line' => (next.1, w.goto (.call t line'))
        | .inr outcome => (next.1, w.ended line.missing outcome)
  | .acquire =>
      match s.mutex with
      | none => some ({ s with mutex := some i }, w.goto (.load Tally.all))
      | some _ => none
  | .load [] => some ({ s with mutex := none }, w.goto .finished)
  | .load (key :: keys) => some (s, w.goto (.store key (s.counters key + w.tally key) keys))
  | .store key value keys =>
      some ({ s with counters := Function.update s.counters key value }, w.goto (.load keys))
  | .finished | .crashed _ => none

/-- With `failures`, any step of a call may raise. -/
def storm (failures : Bool) : System (Option Exn) ι (StormState ι) Worker :=
  fun failure => stormStep (if failures then failure else none)

/-- Before the storm, with `connections` in the pool. -/
def stormStart (connections : Nat) (db : Db) (calls : ι → List Withdrawal) :
    Configuration ι (StormState ι) Worker :=
  ⟨⟨db, fun _ => none, fun _ => 0, connections, fun _ => 0, none⟩,
    fun i => ⟨calls i, .next, fun _ => 0, 0⟩⟩

abbrev StormRun (failures : Bool) (connections : Nat) (db : Db) (calls : ι → List Withdrawal) :=
  Execution (storm failures) (stormStart connections db calls)

end

end Corebank
