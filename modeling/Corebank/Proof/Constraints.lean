import Corebank.Proof.Atomicity
import Corebank.Proof.Transfer
import Mathlib.Tactic.FinCases

/-! # Constraint violations and `integrity_guard` -/

namespace Corebank
open Library

section
variable [Collation]

/-! ## Failing statements -/

def Sql.failed {α : Type} : Sql α → Db → Option DriverError
  | .done _, _ | .raise _, _ => none
  | .fetch next, db => (next db).failed db
  | .lock t id next, db => (next (db.find t id)).failed db
  | .execute s next, db =>
      match s.exec db with
      | .ok (n, db') => (next n).failed db'
      | .error e => some e

def Service.failed {α : Type} : Service α → Db → Option DriverError
  | .done _, _ | .raise _, _ => none
  | .unitOfWork _ body next, db =>
      match body.run db with
      | .ok (b, db') => (next b).failed db'
      | .error _ => body.failed db
  | .readOnly body next, db =>
      match body.run db with
      | .ok (b, _) => (next b).failed db
      | .error _ => none

theorem Sql.run_of_failed {α : Type} {p : Sql α} {db : Db} {e : DriverError}
    (h : p.failed db = some e) : p.run db = .error (.driver e) := by
  induction p generalizing db with
  | done a => cases h
  | raise e => cases h
  | fetch next ih => exact ih _ h
  | lock t id next ih => exact ih _ h
  | execute s next ih =>
      cases exec : s.exec db with
      | ok result =>
          simp only [Sql.failed, exec] at h
          simp only [Sql.run, exec]
          exact ih _ h
      | error _ =>
          simp only [Sql.failed, exec] at h
          cases h
          simp only [Sql.run, exec]

/-! ## One guarded statement -/

def Sql.WritesOnce {α : Type} (ok : Statement → Prop) : Sql α → Prop
  | .done _ | .raise _ => True
  | .fetch next => ∀ db, (next db).WritesOnce ok
  | .lock _ _ next => ∀ r, (next r).WritesOnce ok
  | .execute s next => ok s ∧ ∀ n, (next n).Issues fun _ => False

theorem Sql.failed_of_silent {α : Type} {p : Sql α} (silent : p.Issues fun _ => False) (db : Db) :
    p.failed db = none := by
  induction p with
  | done a => rfl
  | raise e => rfl
  | fetch next ih => exact ih db (silent db)
  | lock t id next ih => exact ih _ (silent _)
  | execute s next ih => exact silent.1.elim

theorem Sql.WritesOnce.failed {α : Type} {ok : Statement → Prop} {p : Sql α} (once : p.WritesOnce ok)
    {db : Db} {e : DriverError} (h : p.failed db = some e) : ∃ s, ok s ∧ s.exec db = .error e := by
  induction p with
  | done a => cases h
  | raise e => cases h
  | fetch next ih => exact ih db (once db) h
  | lock t id next ih => exact ih _ (once _) h
  | execute s next ih =>
      simp only [Sql.failed] at h
      split at h
      · rw [Sql.failed_of_silent (once.2 _)] at h
        cases h
      · rename_i exec
        cases h
        exact ⟨s, once.1, exec⟩

def Service.GuardsOnce {α : Type} (ok : Statement → Prop) : Service α → Prop
  | .done _ | .raise _ => True
  | .unitOfWork guard body next => guard = integrityGuard ∧ body.WritesOnce ok ∧
      ∀ b db, (next b).failed db = none
  | .readOnly _ next => ∀ b, (next b).GuardsOnce ok

theorem Service.GuardsOnce.failed {α : Type} {ok : Statement → Prop} {op : Service α}
    (once : op.GuardsOnce ok) {db : Db} {e : DriverError} (h : op.failed db = some e) :
    (∃ s, ok s ∧ s.exec db = .error e) ∧ op.run db = (.error (integrityGuard (.driver e)), db) := by
  induction op with
  | done a => cases h
  | raise e => cases h
  | unitOfWork guard body next ih =>
      obtain ⟨rfl, writes, silent⟩ := once
      simp only [Service.failed] at h
      split at h
      · rw [silent] at h
        cases h
      · refine ⟨writes.failed h, ?_⟩
        simp only [Service.run, Sql.run_of_failed h]
  | readOnly body next ih =>
      simp only [Service.failed] at h
      split at h
      · rename_i run
        simp only [Service.run, run]
        exact ih _ (once _) h
      · cases h

theorem respond_failed {α : Type} (f : α → Response) (op : Service α) (db : Db) :
    (respond f op).failed db = op.failed db := by
  unfold respond
  induction op generalizing db with
  | done a => rfl
  | raise e => rfl
  | unitOfWork guard body next ih => simp only [Service.unitOfWork_bind, Service.failed, ih]
  | readOnly body next ih => simp only [Service.readOnly_bind, Service.failed, ih]

theorem Service.GuardsOnce.respond {α : Type} {ok : Statement → Prop} {op : Service α}
    (once : op.GuardsOnce ok) (f : α → Response) : (respond f op).GuardsOnce ok := by
  induction op with
  | done a => trivial
  | raise e => trivial
  | unitOfWork guard body next ih =>
      exact ⟨once.1, once.2.1, fun b db => (respond_failed f (next b) db).trans (once.2.2 b db)⟩
  | readOnly body next ih => exact fun b => ih b (once b)

omit [Collation] in
theorem Sql.Issues.once {α β : Type} {ok : Statement → Prop} {p : Sql α} {f : α → Sql β}
    (silent : p.Issues fun _ => False) (once : ∀ a, (f a).WritesOnce ok) :
    (p >>= f).WritesOnce ok := by
  induction p with
  | done a => exact once a
  | raise e => trivial
  | fetch next ih => exact fun db => ih db (silent db)
  | lock t id next ih => exact fun r => ih r (silent r)
  | execute s next ih => exact silent.1.elim

section
variable {ok : Statement → Prop} {α β : Type}

theorem guardsOnce_ofExcept (x : Except Exn α) {next : α → Service β}
    (once : ∀ a, (next a).GuardsOnce ok) : (Service.ofExcept x >>= next).GuardsOnce ok := by
  cases x with
  | error e => trivial
  | ok a => exact once a

theorem guardsOnce_guarded {body : Sql α} (once : body.WritesOnce ok) :
    (guarded body).GuardsOnce ok :=
  ⟨rfl, once, fun _ _ => rfl⟩

theorem guardsOnce_createRow {t : Table} {record : Row t} (h : ok (.insert t record)) :
    (createRow t record).GuardsOnce ok :=
  ⟨rfl, ⟨h, fun _ => trivial⟩, fun _ _ => rfl⟩

theorem guardsOnce_updateThenGet {t : Table} {id : String} {change : Change t}
    {get : Sql (Option β)} {missing : String} (h : ok (.update t id change))
    (reads : get.Issues fun _ => False) :
    (updateThenGet (updateRow t id change) get missing).GuardsOnce ok := by
  refine guardsOnce_guarded ⟨h, fun n => ?_⟩
  show (if n = 0 then Sql.throw .notFound missing else get).Issues fun _ => False
  split
  · trivial
  · exact reads

theorem guardsOnce_delete {t : Table} {id missing : String} (h : ok (.delete t id)) :
    (deleteOrMissing guarded (deleteRow t id) missing).GuardsOnce ok := by
  refine guardsOnce_guarded ⟨h, fun n => ?_⟩
  show (if n = 0 then Sql.throw .notFound missing else (return () : Sql Unit)).Issues fun _ => False
  split
  · trivial
  · trivial

end

variable [Werkzeug]

/-- Whether the operation's block has `integrity_guard()`; a transfer and the deletion of a ledger
row go without. -/
def Operation.usesGuard : Operation → Bool
  | .transfer .. | .deleteTransaction _ => false
  | _ => true

theorem operation_guardsOnce (op : Operation) (env : Env) (uses : op.usesGuard) :
    (op.serve env).GuardsOnce (· ∈ op.writes env) := by
  have single {s : Statement} : s ∈ [s] := List.mem_singleton_self s
  cases op with
  | transfer | deleteTransaction => cases uses
  | createCustomer | createBranch | createAccount | createLoan | createLoanPayment | createEmployee
  | createTicket | createCreditScore => exact (guardsOnce_createRow single).respond _
  | createUser data =>
      have once : (UserService.create env data).GuardsOnce (· ∈ (Operation.createUser data).writes env) :=
        ⟨rfl, ⟨single, fun _ => trivial⟩, fun _ _ => rfl⟩
      exact once.respond _
  | createCard data =>
      have once : (CardService.create env data).GuardsOnce (· ∈ (Operation.createCard data).writes env) :=
        ⟨rfl, ⟨single, fun _ => trivial⟩, fun _ _ => rfl⟩
      exact once.respond _
  | updateCustomer customerId fields actor =>
      refine (guardsOnce_ofExcept _ fun _ => guardsOnce_updateThenGet single ?_).respond _
      exact fun _ => trivial
  | setBalance accountId balance =>
      refine Service.GuardsOnce.respond ?_ _
      simp only [AccountService.setBalance, Operation.writes]
      cases quantize balance with
      | error e => trivial
      | ok cents =>
          refine guardsOnce_updateThenGet single ?_
          exact fun _ => trivial
  | setCardStatus cardId status actor =>
      refine (guardsOnce_guarded (Sql.Issues.once (issues_ensureOwned _ _) fun _ => ?_)).respond _
      exact ⟨single, fun _ _ => trivial⟩
  | updateUser | updateBranch | updateEmployee | updateCreditScore | setLoanStatus
  | setTicketStatus =>
      refine (guardsOnce_updateThenGet single ?_).respond _
      exact fun _ => trivial
  | _ => exact (guardsOnce_delete single).respond _

/-! ## Where the guard falls short -/

def documented (errno : Nat) : Option Exn :=
  if errno = 1062 then some (.app .conflict "A record with these unique values already exists")
  else if errno = 1452 then some (.app .badRequest "A referenced record does not exist")
  else if errno = 1451 then
    some (.app .conflict "Cannot delete: this record is still referenced by others")
  else if errno = 3819 ∨ errno = 4025 then
    some (.app .businessRule "A database constraint was violated")
  else none

def Operation.GuardHolds (op : Operation) (env : Env) (db : Db) : Prop :=
  op.usesGuard → ∀ e d, (op.serve env).failed db = some e → documented e.errno = some d →
    (op.serve env).run db = (.error d, db)

/-- The operations that can break a CHECK, with the requests that do. -/
def Operation.BreaksCheck (env : Env) (db : Db) : Operation → Prop
  | .setBalance id balance => ∃ cents, quantize balance = .ok cents ∧
      (db.find .account id).isSome ∧ -10 ^ 15 < cents ∧ cents < 0
  | .createLoan data => misfit .loan (LoanService.record env data) = none ∧
      ¬(0 < data.principalAmount ∧ 0 ≤ data.interestRate ∧ data.startDate < data.endDate)
  | .createLoanPayment data => misfit .loanPayment (LoanPaymentService.record env data) = none ∧
      ¬(0 < data.paymentAmount ∧ ∀ remaining ∈ data.remainingBalance, 0 ≤ remaining)
  | _ => False

omit [Werkzeug] in
theorem loan_breaksCheck {env : Env} {data : LoanData} {db : Db} :
    (Statement.insert .loan (LoanService.record env data)).BreaksCheck db ↔
      misfit .loan (LoanService.record env data) = none ∧
        ¬(0 < data.principalAmount ∧ 0 ≤ data.interestRate ∧ data.startDate < data.endDate) := by
  refine and_congr_right fun _ => ?_
  simp only [checks, ← Bool.not_eq_true, Bool.and_eq_true, decide_eq_true_eq, and_assoc]
  rfl

omit [Werkzeug] in
theorem loanPayment_breaksCheck {env : Env} {data : LoanPaymentData} {db : Db} :
    (Statement.insert .loanPayment (LoanPaymentService.record env data)).BreaksCheck db ↔
      misfit .loanPayment (LoanPaymentService.record env data) = none ∧
        ¬(0 < data.paymentAmount ∧ ∀ remaining ∈ data.remainingBalance, 0 ≤ remaining) := by
  refine and_congr_right fun _ => ?_
  simp only [checks, ← Bool.not_eq_true, Bool.and_eq_true, decide_eq_true_eq, Option.all_eq_true]
  rfl

theorem writes_breaksCheck {db : Db} (valid : db.Valid) {env : Env} {op : Operation}
    (uses : op.usesGuard) {s : Statement} (mem : s ∈ op.writes env) (broken : s.BreaksCheck db) :
    op.BreaksCheck env db := by
  cases op with
  | transfer | deleteTransaction => cases uses
  | createLoan data =>
      obtain rfl := List.mem_singleton.mp mem
      exact loan_breaksCheck.mp broken
  | createLoanPayment data =>
      obtain rfl := List.mem_singleton.mp mem
      exact loanPayment_breaksCheck.mp broken
  | setBalance id balance =>
      simp only [Operation.writes] at mem
      split at mem
      · rename_i cents rounded
        obtain rfl := List.mem_singleton.mp mem
        obtain ⟨r, found, fits, broken⟩ := broken
        refine ⟨cents, rounded, Option.isSome_of_eq_some found, ?_⟩
        have small := (misfit_withBalance valid found cents).symm.trans fits
        rw [decimalMisfit_eq_none] at small
        have negative : ¬0 ≤ cents := of_decide_eq_false broken
        omega
      · cases mem
  | setLoanStatus id status =>
      obtain rfl := List.mem_singleton.mp mem
      obtain ⟨r, found, -, broken⟩ := broken
      have kept : checks .loan r = false := broken
      rw [valid.checks .loan r (Db.find_mem found)] at kept
      cases kept
  | _ =>
      obtain rfl := List.mem_singleton.mp mem
      simp_all [Statement.BreaksCheck, checks, store, AccountService.record]

omit [Werkzeug] in
theorem createRow_failed {db : Db} {t : Table} {record : Row t} {e : DriverError}
    (h : (Statement.insert t record).exec db = .error e) :
    (createRow t record).failed db = some e := by
  simp only [createRow, guarded, insertRow, Service.unitOfWork_bind, Service.failed, Sql.run,
    Sql.failed, h]

omit [Werkzeug] in
theorem updateThenGet_failed {db : Db} {t : Table} {id : String} {change : Change t} {β : Type}
    {get : Sql (Option β)} {missing : String} {e : DriverError}
    (h : (Statement.update t id change).exec db = .error e) :
    (updateThenGet (updateRow t id change) get missing).failed db = some e := by
  simp only [updateThenGet, guarded, updateRow, Sql.execute_bind, Service.failed, Sql.run,
    Sql.failed, h]

omit [Werkzeug] in
theorem exec_insert_check {db : Db} {t : Table} {record : Row t}
    (broken : (Statement.insert t record).BreaksCheck db) :
    (Statement.insert t record).exec db = .error (mysqlError 3819) := by
  simp only [Statement.exec, broken.1, verify, broken.2, Bool.not_false, if_true]

theorem failed_of_breaksCheck {db : Db} (valid : db.Valid) {env : Env} {op : Operation}
    (broken : op.BreaksCheck env db) :
    op.usesGuard ∧ (op.serve env).failed db = some (mysqlError 3819) := by
  cases op with
  | setBalance id balance =>
      obtain ⟨cents, rounded, found, small, negative⟩ := broken
      obtain ⟨r, found⟩ := Option.isSome_iff_exists.mp found
      have range := balance_range valid found
      have exec : (Statement.update .account id (.setBalance cents)).exec db =
          .error (mysqlError 3819) := by
        rw [exec_balance valid found rfl rfl, if_neg (by omega), if_neg (by omega), if_pos negative]
      refine ⟨rfl, (respond_failed _ _ db).trans ?_⟩
      rw [AccountService.setBalance, rounded]
      exact updateThenGet_failed exec
  | createLoan data =>
      exact ⟨rfl, (respond_failed _ _ db).trans
        (createRow_failed (exec_insert_check (loan_breaksCheck.mpr broken)))⟩
  | createLoanPayment data =>
      exact ⟨rfl, (respond_failed _ _ db).trans
        (createRow_failed (exec_insert_check (loanPayment_breaksCheck.mpr broken)))⟩
  | _ => cases broken

theorem not_guardHolds {db : Db} (valid : db.Valid) {env : Env} {op : Operation}
    (broken : op.BreaksCheck env db) : ¬op.GuardHolds env db := by
  intro holds
  obtain ⟨uses, failed⟩ := failed_of_breaksCheck valid broken
  have run := ((operation_guardsOnce op env uses).failed failed).2
  rw [holds uses _ _ failed rfl, integrityGuard_other _ (by decide)] at run
  cases run

theorem guardHolds_iff {db : Db} (reached : Reachable db) (op : Operation) (env : Env) :
    op.GuardHolds env db ↔ ¬op.BreaksCheck env db := by
  constructor
  · exact fun holds broken => not_guardHolds reached.valid broken holds
  · intro intact uses e d failed named
    obtain ⟨⟨s, mem, exec⟩, run⟩ := (operation_guardsOnce op env uses).failed failed
    rw [run]
    rcases exec_error exec with listed | ⟨-, broken⟩
    · have translated : integrityGuard (.driver e) = d := by
        fin_cases listed <;> cases named <;> rfl
      rw [translated]
    · exact absurd (writes_breaksCheck reached.valid uses mem broken) intact

end

attribute [local instance] foldCase clearText

theorem guardHolds_opened :
    (Operation.setBalance "a-1" ⟨5, 0⟩).GuardHolds (noon "") opened ↔
      ¬(Operation.setBalance "a-1" ⟨5, 0⟩).BreaksCheck (noon "") opened :=
  guardHolds_iff reachable_opened _ _

/-- A negative balance is answered with a raw `OperationalError`. -/
theorem negative_balance_escapes : Reachable opened ∧
    ¬(Operation.setBalance "a-1" ⟨-1, 0⟩).GuardHolds (noon "") opened ∧
    ((AccountService.setBalance "a-1" ⟨-1, 0⟩).run opened).1 = .error (.driver (mysqlError 3819)) ∧
    (Exn.driver (mysqlError 3819)).statusCode = 500 := by
  refine ⟨reachable_opened, not_guardHolds reachable_opened.valid ?_, by decide +kernel, rfl⟩
  exact ⟨-100, rfl, by decide +kernel, by decide, by decide⟩

end Corebank
