import Corebank.Database

/-!
# Connections and units of work

Code that runs on a connection is a program over statements, and a service operation a program
over the blocks of `app/db/uow.py`. The same programs are run without failures (`run`) and with
any step allowed to raise (`runWith`).
-/

namespace Corebank

/-- Which steps fail, and with what: one entry a step, none left meaning none fails. -/
abbrev Plan := List (Option Exn)

def fault (plan : Plan) : Option Exn := plan.head?.join

def Statement.locks [Collation] : Statement → Db → List (Table × String)
  | .insert _ _, _ => []
  | .update t id _, db | .delete t id, db => ((db.find t id).map fun r => (t, rowId t r)).toList

/-! ## Programs on a connection -/

inductive Sql (α : Type) where
  | done (a : α)
  | raise (e : Exn)
  /-- A plain SELECT. -/
  | fetch (next : Db → Sql α)
  | lock (t : Table) (id : String) (next : Option (Row t) → Sql α)
  | execute (s : Statement) (next : Nat → Sql α)

namespace Sql

def bind {α β : Type} : Sql α → (α → Sql β) → Sql β
  | .done a, f => f a
  | .raise e, _ => .raise e
  | .fetch next, f => .fetch fun db => (next db).bind f
  | .lock t id next, f => .lock t id fun r => (next r).bind f
  | .execute s next, f => .execute s fun n => (next n).bind f

instance : Monad Sql where
  pure := .done
  bind := bind

variable {α β : Type}

@[simp] theorem pure_eq (a : α) : (pure a : Sql α) = .done a := rfl
@[simp] theorem done_bind (a : α) (f : α → Sql β) : (Sql.done a >>= f) = f a := rfl
@[simp] theorem raise_bind (e : Exn) (f : α → Sql β) : (Sql.raise e >>= f) = .raise e := rfl
@[simp] theorem fetch_bind (next : Db → Sql α) (f : α → Sql β) :
    (Sql.fetch next >>= f) = .fetch fun db => next db >>= f := rfl
@[simp] theorem lock_bind (t : Table) (id : String) (next : Option (Row t) → Sql α)
    (f : α → Sql β) : (Sql.lock t id next >>= f) = .lock t id fun r => next r >>= f := rfl
@[simp] theorem execute_bind (s : Statement) (next : Nat → Sql α) (f : α → Sql β) :
    (Sql.execute s next >>= f) = .execute s fun n => next n >>= f := rfl

def throw (error : AppError) (message : String) : Sql α := .raise (.app error message)

def ofExcept : Except Exn α → Sql α
  | .ok a => .done a
  | .error e => .raise e

section
variable [Collation]

def run : Sql α → Db → Except Exn (α × Db)
  | .done a, db => .ok (a, db)
  | .raise e, _ => .error e
  | .fetch next, db => (next db).run db
  | .lock t id next, db => (next (db.find t id)).run db
  | .execute s next, db =>
      match s.exec db with
      | .ok (n, db') => (next n).run db'
      | .error e => .error (.driver e)

def runWith : Sql α → Plan → Db → Except Exn (α × Db) × Plan
  | .done a, plan, db => (.ok (a, db), plan)
  | .raise e, plan, _ => (.error e, plan)
  | .fetch next, plan, db =>
      match fault plan with
      | some e => (.error e, plan.tail)
      | none => (next db).runWith plan.tail db
  | .lock t id next, plan, db =>
      match fault plan with
      | some e => (.error e, plan.tail)
      | none => (next (db.find t id)).runWith plan.tail db
  | .execute s next, plan, db =>
      match fault plan with
      | some e => (.error e, plan.tail)
      | none =>
          match s.exec db with
          | .ok (n, db') => (next n).runWith plan.tail db'
          | .error e => (.error (.driver e), plan.tail)

/-- The row locks a program takes, in order. A row that does not exist is not locked. -/
def locks : Sql α → Db → List (Table × String)
  | .done _, _ | .raise _, _ => []
  | .fetch next, db => (next db).locks db
  | .lock t id next, db =>
      ((db.find t id).map fun r => (t, rowId t r)).toList ++ (next (db.find t id)).locks db
  | .execute s next, db =>
      s.locks db ++
        match s.exec db with
        | .ok (n, db') => (next n).locks db'
        | .error _ => []

end

end Sql

/-! ## Service operations -/

inductive Service (α : Type) : Type 1 where
  | done (a : α)
  | raise (e : Exn)
  /-- `with unit_of_work() as conn`, with `integrity_guard()` as its `guard` where the source
  has it and `id` where it has not. -/
  | unitOfWork {β : Type} (guard : Exn → Exn) (body : Sql β) (next : β → Service α)
  | readOnly {β : Type} (body : Sql β) (next : β → Service α)

namespace Service

def bind {α β : Type} : Service α → (α → Service β) → Service β
  | .done a, f => f a
  | .raise e, _ => .raise e
  | .unitOfWork guard body next, f => .unitOfWork guard body fun b => (next b).bind f
  | .readOnly body next, f => .readOnly body fun b => (next b).bind f

instance : Monad Service where
  pure := .done
  bind := bind

variable {α β γ : Type}

@[simp] theorem pure_eq (a : α) : (pure a : Service α) = .done a := rfl
@[simp] theorem done_bind (a : α) (f : α → Service β) : (Service.done a >>= f) = f a := rfl
@[simp] theorem raise_bind (e : Exn) (f : α → Service β) :
    (Service.raise e >>= f) = .raise e := rfl
@[simp] theorem unitOfWork_bind (guard : Exn → Exn) (body : Sql γ) (next : γ → Service α)
    (f : α → Service β) : (Service.unitOfWork guard body next >>= f) =
      .unitOfWork guard body fun b => next b >>= f := rfl
@[simp] theorem readOnly_bind (body : Sql γ) (next : γ → Service α) (f : α → Service β) :
    (Service.readOnly body next >>= f) = .readOnly body fun b => next b >>= f := rfl

def ofExcept : Except Exn α → Service α
  | .ok a => .done a
  | .error e => .raise e

section
variable [Collation]

def run : Service α → Db → Except Exn α × Db
  | .done a, db => (.ok a, db)
  | .raise e, db => (.error e, db)
  | .unitOfWork guard body next, db =>
      match body.run db with
      | .ok (b, db') => (next b).run db'
      | .error e => (.error (guard e), db)
  | .readOnly body next, db =>
      match body.run db with
      | .ok (b, _) => (next b).run db
      | .error e => (.error e, db)

/-- The steps that may fail are `get_connection`, `begin`, each statement and `commit`. A statement of
a read-only block fails when DBUtils has tried it again in vain. -/
def runWith : Service α → Plan → Db → Except Exn α × Db
  | .done a, _, db => (.ok a, db)
  | .raise e, _, db => (.error e, db)
  | .unitOfWork guard body next, plan, db =>
      match fault plan with
      | some e => (.error e, db)
      | none =>
          match fault plan.tail with
          | some e => (.error e, db)
          | none =>
              match body.runWith plan.tail.tail db with
              | (.error e, _) => (.error (guard e), db)
              | (.ok (b, db'), plan) =>
                  match fault plan with
                  | some e => (.error e, db)
                  | none => (next b).runWith plan.tail db'
  | .readOnly body next, plan, db =>
      match fault plan with
      | some e => (.error e, db)
      | none =>
          match body.runWith plan.tail db with
          | (.error e, _) => (.error e, db)
          | (.ok (b, _), plan) => (next b).runWith plan db

def locks : Service α → Db → List (Table × String)
  | .done _, _ | .raise _, _ => []
  | .unitOfWork _ body next, db =>
      (body.locks db).eraseDups ++
        match body.run db with
        | .ok (b, db') => (next b).locks db'
        | .error _ => []
  | .readOnly body next, db =>
      match body.run db with
      | .ok (b, _) => (next b).locks db
      | .error _ => []

theorem run_bind (op : Service α) (f : α → Service β) (db : Db) :
    (op >>= f).run db = match op.run db with
      | (.ok a, db') => (f a).run db'
      | (.error e, db') => (.error e, db') := by
  induction op generalizing db with
  | done a => rfl
  | raise e => rfl
  | unitOfWork guard body next ih =>
      simp only [unitOfWork_bind, run]
      cases body.run db with
      | ok result => exact ih _ _
      | error e => rfl
  | readOnly body next ih =>
      simp only [readOnly_bind, run]
      cases body.run db with
      | ok result => exact ih _ _
      | error e => rfl

end

end Service

def guarded {α : Type} (body : Sql α) : Service α := .unitOfWork integrityGuard body .done

def unitOfWork {α : Type} (body : Sql α) : Service α := .unitOfWork id body .done

def readOnly {α : Type} (body : Sql α) : Service α := .readOnly body .done

def raise {α : Type} (error : AppError) (message : String) : Service α :=
  .raise (.app error message)

structure Env where
  newId : String
  utcnow : DateTime
  salt : String

end Corebank
