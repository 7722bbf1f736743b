import Mathlib.Data.List.DropRight
import Corebank.Proof.ReadIsolation
import Corebank.Proof.Transfer
import Corebank.Proof.Updates

/-! # A created record, and the row read back -/

namespace Corebank
open Library

/-! ## Values the columns keep as they are -/

def Unpadded (s : String) : Prop := s.toList.getLast? ≠ some ' '

def Within (n : Nat) (s : String) : Prop := s.length ≤ n

/-- Few enough bytes for a `TEXT`. -/
def WithinText (s : String) : Prop := s.utf8ByteSize ≤ 65535

def WholeSecond (d : DateTime) : Prop := d.micros % 1000000 = 0 ∧ d.offset = none

theorem rstrip_eq_self_iff {s : String} : rstrip s = s ↔ Unpadded s := by
  have chars : rstrip s = s ↔ s.toList.rdropWhile (· = ' ') = s.toList := by
    rw [← String.toList_inj, rstrip, String.toList_ofList, List.rdropWhile]
  rw [chars, List.rdropWhile_eq_self_iff, Unpadded]
  cases s.toList using List.reverseRecOn with
  | nil => simp
  | append_singleton cs c => simp

theorem varchar_eq_self_iff {n : Nat} {s : String} : varchar n s = s ↔ Within n s := by
  rw [← String.toList_inj, varchar, String.toList_ofList, List.take_eq_self_iff, Within,
    String.length_toList]

theorem takeBytes_eq_self_iff {n : Nat} {cs : List Char} :
    takeBytes n cs = cs ↔ (cs.map Char.utf8Size).sum ≤ n := by
  induction cs generalizing n with
  | nil => simp [takeBytes]
  | cons c cs ih =>
      rw [takeBytes, List.map_cons, List.sum_cons]
      split
      · rw [List.cons.injEq, ih]
        simp only [true_and]
        omega
      · simp only [List.nil_eq, reduceCtorEq, false_iff]
        omega

theorem utf8ByteSize_ofList (cs : List Char) :
    (String.ofList cs).utf8ByteSize = (cs.map Char.utf8Size).sum := by
  induction cs with
  | nil => rfl
  | cons c cs ih =>
      rw [String.ofList_cons]
      simp [ih]

theorem text_eq_self_iff {s : String} : text s = s ↔ WithinText s := by
  rw [← String.toList_inj, text, String.toList_ofList, takeBytes_eq_self_iff, ← utf8ByteSize_ofList,
    String.ofList_toList, WithinText]

theorem dateTime_eq_self_iff {d : DateTime} : dateTime d = d ↔ WholeSecond d := by
  obtain ⟨micros, offset⟩ := d
  simp only [dateTime, DateTime.mk.injEq, WholeSecond]
  exact and_congr (by omega) eq_comm

theorem map_eq_self_iff {α : Type} {f : α → α} {o : Option α} :
    o.map f = o ↔ ∀ a ∈ o, f a = a := by
  cases o <;> simp

/-! ## Requests that create a row -/

def ApiCall.creates : ApiCall → Option Table
  | .createUser _ => some .user
  | .createCustomer _ => some .customer
  | .createBranch _ => some .branch
  | .createEmployee _ => some .employee
  | .createAccount _ => some .account
  | .createCard _ => some .card
  | .createLoan _ => some .loan
  | .createLoanPayment _ => some .loanPayment
  | .createCreditScore _ => some .creditScore
  | .createTicket _ => some .customerSupport
  | .transfer _ => some .transaction
  | _ => none

def fetchOf : Table → String → ApiCall
  | .customer => .getCustomer
  | .user => .getUser
  | .branch => .getBranch
  | .account => .getAccount
  | .loan => .getLoan
  | .loanPayment => .getLoanPayment
  | .employee => .getEmployee
  | .card => .getCard
  | .transaction => .getTransaction
  | .customerSupport => .getTicket
  | .creditScore => .getCreditScore

inductive DecimalField where
  | wageDeclaration | interestRate | remainingBalance | score
  deriving DecidableEq, Repr

/-- The decimals of a body that are zero, with a sign or without. -/
def ApiCall.zeros : ApiCall → List DecimalField
  | .createCustomer (some data) => if data.wageDeclaration = some 0 then [.wageDeclaration] else []
  | .createLoan (some data) => if data.interestRate = 0 then [.interestRate] else []
  | .createLoanPayment (some data) =>
      if data.remainingBalance = some 0 then [.remainingBalance] else []
  | .createCreditScore (some data) => if data.score = 0 then [.score] else []
  | _ => []

structure CreateRequest where
  call : ApiCall
  table : Table
  creates : call.creates = some table
  /-- The decimals sent as a negative zero. -/
  minus : List DecimalField
  zeros : minus ⊆ call.zeros

/-- A response as it is serialized; the decimals of `minus` are printed as `-0.00`. -/
structure Json where
  response : Response
  minus : List DecimalField

def ticketCustomer (actor : Actor) (data : TicketData) : Option String :=
  if actor.role = .admin then data.customerId else actor.customerId

/-- Every value of the response is one its column keeps. -/
def ApiCall.Kept (env : Env) (actor : Actor) : ApiCall → Prop
  | .createUser (some data) =>
      Unpadded env.newId ∧ Within 100 data.username ∧ ∀ c ∈ data.customerId, Unpadded c
  | .createCustomer (some data) =>
      Unpadded env.newId ∧ Within 100 data.firstName ∧ Within 100 data.lastName ∧
        Within 15 data.phoneNumber ∧ Within 255 data.email ∧ Within 255 data.addressLine1 ∧
          (∀ line ∈ data.addressLine2.getD none, Within 255 line) ∧ Within 100 data.city ∧
            Within 20 data.zipCode
  | .createBranch (some data) =>
      Unpadded env.newId ∧ Within 100 data.branchName ∧ Within 100 data.addressLine1 ∧
        (∀ line ∈ data.addressLine2.getD none, Within 100 line) ∧ Within 100 data.city ∧
          Within 20 data.zipCode ∧ Within 15 data.phoneNumber
  | .createEmployee (some data) =>
      Unpadded env.newId ∧ Unpadded data.branchId ∧ Within 100 data.firstName ∧
        Within 100 data.lastName ∧ Within 100 data.position ∧ WholeSecond data.hireDate ∧
          Within 15 data.phoneNumber ∧ Within 255 data.email
  | .createAccount (some data) =>
      Unpadded env.newId ∧ Unpadded data.customerId ∧ WholeSecond env.utcnow ∧
        Unpadded data.branchId
  | .createLoan (some data) => Unpadded env.newId ∧ Unpadded data.customerId
  | .createLoanPayment (some data) =>
      Unpadded env.newId ∧ Unpadded data.loanId ∧ WholeSecond (data.paymentDate.getD env.utcnow)
  | .createCreditScore (some data) =>
      Unpadded env.newId ∧ Unpadded data.customerId ∧ Within 50 data.riskCategory
  | .createTicket (some data) =>
      Unpadded env.newId ∧ (∀ c ∈ ticketCustomer actor data, Unpadded c) ∧
        Unpadded data.employeeId ∧ WithinText data.issueDescription ∧ WholeSecond env.utcnow
  | .transfer (some data) =>
      Unpadded env.newId ∧ Unpadded data.senderAccountId ∧ Unpadded data.receiverAccountId ∧
        WholeSecond env.utcnow
  -- a card is read back by the request itself
  | _ => True

/-! ## Fetching -/

/-- What the item endpoints answer for a row. -/
def shown : (t : Table) → Row t → Response
  | .user, r => .user (some r.publicColumns)
  | .card, r => .card (some r.safeColumns)
  | t, r => .row t (some r)

section
variable [Collation]

theorem lookup_last {t : Table} {record : Row t} {rows : List (Row t)}
    (fresh : Keyed.lookup (rowKey t) (rowKey t record) rows = none) :
    Keyed.lookup (rowKey t) (rowKey t record) (rows ++ [store t record]) = some (store t record) := by
  rw [Keyed.lookup_append, fresh, Option.none_or]
  simp [Keyed.lookup]

theorem exec_insert_find {t : Table} {record : Row t} {db db' : Db} {n : Nat}
    (h : (Statement.insert t record).exec db = .ok (n, db')) :
    db'.find t (rowId t record) = some (store t record) := by
  obtain ⟨-, verified, -, rfl⟩ := exec_insert h
  obtain ⟨-, noClash, -⟩ := verify_eq_none.mp verified
  have fresh : Keyed.lookup (rowKey t) (rowKey t record) (db t) = none := by
    refine Keyed.lookup_eq_none.mpr fun o mem same => ?_
    exact (clashes_eq_false (noClash o mem)).1 (same.trans (rowKey_store t record).symm)
  rw [Db.find, Db.set_same]
  exact lookup_last fresh

theorem exists_of_isOk {α : Type} {op : Service α} {db : Db} (ok : (op.run db).1.isOk) :
    ∃ a, op.run db = (.ok a, (op.run db).2) := by
  cases h : op.run db with
  | mk result db' =>
      rw [h] at ok
      cases result with
      | error e => cases ok
      | ok a => exact ⟨a, rfl⟩

omit [Collation] in
theorem ensureOwner_admin {actor : Actor} (admin : actor.role = .admin) (id : Option String) :
    ensureOwnerOrAdmin actor id = .ok () := by
  rw [ensureOwnerOrAdmin, if_pos admin]

variable [Werkzeug] [Marshmallow]

theorem fetch_run {db : Db} (valid : db.Valid) {t : Table} {id : String} {r : Row t}
    (found : db.find t id = some r) {actor : Actor} (admin : actor.role = .admin) (env : Env) :
    (((fetchOf t id).serve env actor).run db).1 = .ok (shown t r) := by
  have allowed {α : Type} (op : Service α) : adminRequired actor op = op := if_pos admin
  have fetched {t : Table} {r : Row t} (found : db.find t id = some r) (missing : String) :
      ((respond (.row t ∘ some) (fetchRow (getRow t id) missing)).run db).1 =
        .ok (.row t (some r)) := by
    rw [respond_run, fetchRow_run, found]
    rfl
  have owned {t : Table} {r : Row t} (found : db.find t id = some r) (missing : String)
      (owner : Row t → String) :
      ((respond (.row t ∘ some) (fetchOwned (getRow t id) missing owner actor)).run db).1 =
        .ok (.row t (some r)) := by
    rw [respond_run, fetchOwned_run, found]
    simp only [ensureOwner_admin admin]
    rfl
  cases t with
  | customer =>
      simp only [fetchOf, ApiCall.serve, respond_run, getCustomer_run, ensureOwner_admin admin, found]
      rfl
  | account => exact owned found _ _
  | loan => exact owned found _ _
  | creditScore => exact owned found _ _
  | customerSupport => exact owned found _ _
  | branch =>
      rw [fetchOf, ApiCall.serve, allowed]
      exact fetched found _
  | employee =>
      rw [fetchOf, ApiCall.serve, allowed]
      exact fetched found _
  | loanPayment =>
      rw [fetchOf, ApiCall.serve, allowed]
      exact fetched found _
  | user =>
      rw [fetchOf, ApiCall.serve, allowed, respond_run]
      simp only [UserService.get, fetchRow, readOnly, Users.get, Service.readOnly_bind,
        Service.done_bind, Service.run, Sql.run, found, Option.map_some]
      rfl
  | card =>
      obtain ⟨a, owner⟩ := Option.isSome_iff_exists.mp
        (valid.references .card r (Db.find_mem found) _ List.mem_cons_self r.accountId rfl)
      have allowed : (CardService.ensureOwned id actor).run db = .ok ((), db) := by
        rw [ensureOwned_run, found, Option.bind_some, owner]
        simp only [ensureOwner_admin admin]
      rw [fetchOf, ApiCall.serve, respond_run]
      simp only [CardService.get, readOnly, Service.run, Sql.run_bind, allowed, Cards.get, Sql.run,
        found, Option.map_some]
      rfl
  | transaction =>
      rw [fetchOf, ApiCall.serve, respond_run]
      simp only [TransactionService.get, readOnly, Transactions.get, getRow, Sql.fetch_bind,
        Sql.done_bind, Service.run, Sql.run, found, admin, if_true]
      rfl

/-! ## Creating -/

omit [Werkzeug] [Marshmallow] in
theorem posted_row {δ : Type} {t : Table} {actor : Actor} {admitted : δ → Bool} {body : Option δ}
    {record : δ → Row t} {db db' : Db} {a : Response}
    (run : (adminRequired actor <| arguments admitted body fun data =>
      respond (fun r => .row t (some r)) (createRow t (record data))).run db = (.ok a, db')) :
    ∃ data, body = some data ∧ a = .row t (some (record data)) ∧
      db'.find t (rowId t (record data)) = some (store t (record data)) := by
  obtain ⟨data, given, run⟩ := arguments_ok (adminRequired_ok run)
  obtain ⟨b, shows, run⟩ := respond_ok run
  obtain ⟨rfl, n, h⟩ := createRow_ok run
  exact ⟨data, given, shows, exec_insert_find h⟩

omit [Marshmallow] in
theorem createUser_found {env : Env} {data : UserData} {u : PublicUser} {db db' : Db}
    (run : (UserService.create env data).run db = (.ok u, db')) :
    db'.find .user env.newId = some (store .user (UserService.record env data)) ∧
      u = (UserService.record env data).publicColumns := by
  rw [UserService.create, Service.run_bind] at run
  split at run
  · rename_i r after inserted
    cases run
    obtain ⟨rfl, n, h⟩ := createRow_ok inserted
    exact ⟨exec_insert_find h, rfl⟩
  · cases run

omit [Werkzeug] [Marshmallow] in
theorem createCard_found {env : Env} {data : CardData} {c : Option SafeCard} {db db' : Db}
    (run : (CardService.create env data).run db = (.ok c, db')) :
    ∃ r, db'.find .card env.newId = some r ∧ c = some r.safeColumns := by
  obtain ⟨n, h, read⟩ := createCard_ok run
  have found : db'.find .card env.newId = _ := exec_insert_find h
  refine ⟨_, found, ?_⟩
  rw [read, found, Option.map_some]

omit [Marshmallow] in
theorem fileTicket_found {env : Env} {actor : Actor} {data : TicketData} {a : Response} {db db' : Db}
    (run : (fileTicket env actor data).run db = (.ok a, db')) :
    ∃ c, ticketCustomer actor data = some c ∧
      let record := SupportService.record env c data.employeeId data.issueDescription
      a = .row .customerSupport (some record) ∧
        db'.find .customerSupport env.newId = some (store .customerSupport record) := by
  rw [fileTicket] at run
  split at run
  · cases run
  · rename_i c files
    split at run
    · cases run
    · obtain ⟨b, shows, run⟩ := respond_ok run
      obtain ⟨rfl, n, h⟩ := createRow_ok run
      exact ⟨c, files, shows, exec_insert_find h⟩

omit [Werkzeug] [Marshmallow] in
theorem transfer_found {env : Env} {actor : Actor} {senderId receiverId : String} {amount : Decimal}
    {txn : Transaction} {db db' : Db} (valid : db.Valid)
    (run : (TransactionService.transfer env actor senderId receiverId amount).run db =
      (.ok txn, db')) :
    ∃ cents, db'.find .transaction env.newId =
        some (store .transaction (TransactionService.ledgerRecord env senderId receiverId cents)) ∧
      txn = TransactionService.ledgerRecord env senderId receiverId cents := by
  obtain ⟨cents, sender, receiver, -, ok, rfl, rfl⟩ := transfer_ok valid run
  refine ⟨cents, ?_, rfl⟩
  rw [Db.find, Db.transferred, Db.record, Db.set_same, withBalance_other _ _ _ (by decide),
    withBalance_other _ _ _ (by decide)]
  have fresh : Keyed.lookup (rowKey .transaction) (rowKey .transaction
      (TransactionService.ledgerRecord env senderId receiverId cents)) (db .transaction) = none :=
    ok.fresh
  exact lookup_last fresh

omit [Collation] [Werkzeug] [Marshmallow] in
theorem row_eq_iff {t : Table} {record : Row t} :
    Response.row t (some record) = Response.row t (some (store t record)) ↔
      store t record = record := by
  rw [Response.row.injEq]
  simp [eq_comm]

/-- The call with answer `a` stored the row `id`, and `a` shows that row exactly when `kept`. -/
def EchoedWhen (db : Db) (t : Table) (id : String) (a : Response) (kept : Prop) : Prop :=
  ∃ r, db.find t id = some r ∧ (a = shown t r ↔ kept)

section
variable {db db' : Db} {env : Env} {actor : Actor} {a : Response}

theorem createdCustomer_echo {body : Option CustomerData}
    (run : ((ApiCall.createCustomer body).serve env actor).run db = (.ok a, db')) :
    EchoedWhen db' .customer env.newId a ((ApiCall.createCustomer body).Kept env actor) := by
  obtain ⟨data, rfl, rfl, found⟩ := posted_row run
  refine ⟨_, found, row_eq_iff.trans ?_⟩
  simp only [store, CustomerService.record, Customer.mk.injEq, rstrip_eq_self_iff,
    varchar_eq_self_iff, map_eq_self_iff, and_true, true_and]
  rfl

theorem createdBranch_echo {body : Option BranchData}
    (run : ((ApiCall.createBranch body).serve env actor).run db = (.ok a, db')) :
    EchoedWhen db' .branch env.newId a ((ApiCall.createBranch body).Kept env actor) := by
  obtain ⟨data, rfl, rfl, found⟩ := posted_row run
  refine ⟨_, found, row_eq_iff.trans ?_⟩
  simp only [store, BranchService.record, Branch.mk.injEq, rstrip_eq_self_iff,
    varchar_eq_self_iff, map_eq_self_iff]
  rfl

theorem createdEmployee_echo {body : Option EmployeeData}
    (run : ((ApiCall.createEmployee body).serve env actor).run db = (.ok a, db')) :
    EchoedWhen db' .employee env.newId a ((ApiCall.createEmployee body).Kept env actor) := by
  obtain ⟨data, rfl, rfl, found⟩ := posted_row run
  refine ⟨_, found, row_eq_iff.trans ?_⟩
  simp only [store, EmployeeService.record, Employee.mk.injEq, rstrip_eq_self_iff,
    varchar_eq_self_iff, dateTime_eq_self_iff]
  rfl

theorem createdAccount_echo {body : Option AccountData}
    (run : ((ApiCall.createAccount body).serve env actor).run db = (.ok a, db')) :
    EchoedWhen db' .account env.newId a ((ApiCall.createAccount body).Kept env actor) := by
  obtain ⟨data, rfl, rfl, found⟩ := posted_row run
  refine ⟨_, found, row_eq_iff.trans ?_⟩
  simp only [store, AccountService.record, Account.mk.injEq, rstrip_eq_self_iff,
    dateTime_eq_self_iff, true_and]
  rfl

theorem createdLoan_echo {body : Option LoanData}
    (run : ((ApiCall.createLoan body).serve env actor).run db = (.ok a, db')) :
    EchoedWhen db' .loan env.newId a ((ApiCall.createLoan body).Kept env actor) := by
  obtain ⟨data, rfl, rfl, found⟩ := posted_row run
  refine ⟨_, found, row_eq_iff.trans ?_⟩
  simp only [store, LoanService.record, Loan.mk.injEq, rstrip_eq_self_iff, and_true]
  rfl

theorem createdLoanPayment_echo {body : Option LoanPaymentData}
    (run : ((ApiCall.createLoanPayment body).serve env actor).run db = (.ok a, db')) :
    EchoedWhen db' .loanPayment env.newId a ((ApiCall.createLoanPayment body).Kept env actor) := by
  obtain ⟨data, rfl, rfl, found⟩ := posted_row run
  refine ⟨_, found, row_eq_iff.trans ?_⟩
  simp only [store, LoanPaymentService.record, LoanPayment.mk.injEq, rstrip_eq_self_iff,
    dateTime_eq_self_iff, and_true]
  rfl

theorem createdCreditScore_echo {body : Option CreditScoreData}
    (run : ((ApiCall.createCreditScore body).serve env actor).run db = (.ok a, db')) :
    EchoedWhen db' .creditScore env.newId a ((ApiCall.createCreditScore body).Kept env actor) := by
  obtain ⟨data, rfl, rfl, found⟩ := posted_row run
  refine ⟨_, found, row_eq_iff.trans ?_⟩
  simp only [store, CreditScoreService.record, CreditScore.mk.injEq, rstrip_eq_self_iff,
    varchar_eq_self_iff, and_true, true_and]
  rfl

theorem createdUser_echo {body : Option UserData}
    (run : ((ApiCall.createUser body).serve env actor).run db = (.ok a, db')) :
    EchoedWhen db' .user env.newId a ((ApiCall.createUser body).Kept env actor) := by
  obtain ⟨data, rfl, created⟩ := arguments_ok (adminRequired_ok run)
  obtain ⟨u, rfl, served⟩ := respond_ok created
  obtain ⟨found, rfl⟩ := createUser_found served
  refine ⟨_, found, ?_⟩
  have user : Response.user (some (UserService.record env data).publicColumns) =
      shown .user (store .user (UserService.record env data)) ↔
        (store .user (UserService.record env data)).publicColumns =
          (UserService.record env data).publicColumns := by
    rw [shown, Response.user.injEq, Option.some.injEq, eq_comm]
  rw [user]
  simp only [store, UserService.record, User.publicColumns, PublicUser.mk.injEq,
    rstrip_eq_self_iff, varchar_eq_self_iff, map_eq_self_iff, true_and]
  rfl

theorem createdCard_echo {body : Option CardData}
    (run : ((ApiCall.createCard body).serve env actor).run db = (.ok a, db')) :
    EchoedWhen db' .card env.newId a ((ApiCall.createCard body).Kept env actor) := by
  obtain ⟨data, rfl, created⟩ := arguments_ok (adminRequired_ok run)
  obtain ⟨c, rfl, served⟩ := respond_ok created
  obtain ⟨r, found, rfl⟩ := createCard_found served
  exact ⟨r, found, iff_of_true rfl trivial⟩

theorem createdTicket_echo {body : Option TicketData}
    (run : ((ApiCall.createTicket body).serve env actor).run db = (.ok a, db')) :
    EchoedWhen db' .customerSupport env.newId a ((ApiCall.createTicket body).Kept env actor) := by
  obtain ⟨data, rfl, created⟩ := arguments_ok run
  obtain ⟨c, files, rfl, found⟩ := fileTicket_found created
  refine ⟨_, found, row_eq_iff.trans ?_⟩
  simp only [store, SupportService.record, Ticket.mk.injEq, rstrip_eq_self_iff,
    text_eq_self_iff, dateTime_eq_self_iff, Option.map_none, and_true, true_and, ApiCall.Kept, files,
    Option.mem_some_iff, forall_eq']

theorem createdTransfer_echo (valid : db.Valid) {body : Option TransferData}
    (run : ((ApiCall.transfer body).serve env actor).run db = (.ok a, db')) :
    EchoedWhen db' .transaction env.newId a ((ApiCall.transfer body).Kept env actor) := by
  obtain ⟨data, rfl, created⟩ := arguments_ok run
  obtain ⟨txn, rfl, served⟩ := respond_ok created
  obtain ⟨cents, found, rfl⟩ := transfer_found valid served
  refine ⟨_, found, row_eq_iff.trans ?_⟩
  simp only [store, TransactionService.ledgerRecord, Transaction.mk.injEq, rstrip_eq_self_iff,
    dateTime_eq_self_iff, map_eq_self_iff, Option.mem_some_iff, forall_eq', true_and]
  rfl

end

theorem created_echo {db db' : Db} (valid : db.Valid) {call : ApiCall} {t : Table}
    (creates : call.creates = some t) {env : Env} {actor : Actor} {a : Response}
    (run : (call.serve env actor).run db = (.ok a, db')) :
    EchoedWhen db' t env.newId a (call.Kept env actor) := by
  cases call with
  | createCustomer body =>
      cases creates
      exact createdCustomer_echo run
  | createBranch body =>
      cases creates
      exact createdBranch_echo run
  | createEmployee body =>
      cases creates
      exact createdEmployee_echo run
  | createAccount body =>
      cases creates
      exact createdAccount_echo run
  | createLoan body =>
      cases creates
      exact createdLoan_echo run
  | createLoanPayment body =>
      cases creates
      exact createdLoanPayment_echo run
  | createCreditScore body =>
      cases creates
      exact createdCreditScore_echo run
  | createUser body =>
      cases creates
      exact createdUser_echo run
  | createCard body =>
      cases creates
      exact createdCard_echo run
  | createTicket body =>
      cases creates
      exact createdTicket_echo run
  | transfer body =>
      cases creates
      exact createdTransfer_echo valid run
  | _ => cases creates

/-- What a request created is what fetching it shows exactly when the columns keep every value
shown and no decimal is a negative zero. -/
theorem create_echo_iff {db db' : Db} (valid : db.Valid) (request : CreateRequest) {env : Env}
    {actor : Actor} {a : Response} (run : (request.call.serve env actor).run db = (.ok a, db'))
    {reader : Actor} (admin : reader.role = .admin) (env' : Env) :
    ∃ fetched, (((fetchOf request.table env.newId).serve env' reader).run db').1 = .ok fetched ∧
      (Json.mk a request.minus = Json.mk fetched [] ↔
        request.call.Kept env actor ∧ request.minus = []) := by
  obtain ⟨r, found, echo⟩ := created_echo valid request.creates run
  have after := Service.run_valid (request.call.serve env actor) valid
  rw [run] at after
  refine ⟨shown request.table r, fetch_run after found admin env', ?_⟩
  rw [Json.mk.injEq, echo]

end

/-! ## An account -/

attribute [local instance] foldCase clearText plainEmail

def savings : CreateRequest where
  call := .createAccount (some ⟨"ann", .savings, "north"⟩)
  table := .account
  creates := rfl
  minus := []
  zeros := List.nil_subset _

def administrator : Actor := ⟨"u-0", .admin, none⟩

theorem create_echo_savings : ∃ a db' fetched,
    (savings.call.serve (noon "a-2") administrator).run opened = (.ok a, db') ∧
      (((fetchOf .account "a-2").serve (noon "") administrator).run db').1 = .ok fetched ∧
      Json.mk a [] = Json.mk fetched [] := by
  obtain ⟨a, run⟩ := exists_of_isOk
    (by decide +kernel : ((savings.call.serve (noon "a-2") administrator).run opened).1.isOk)
  obtain ⟨fetched, read, echo⟩ :=
    create_echo_iff reachable_opened.valid savings run (rfl : administrator.role = .admin) (noon "")
  refine ⟨a, _, fetched, run, read, echo.mpr ⟨⟨?_, ?_, ?_, ?_⟩, rfl⟩⟩
  · unfold Unpadded
    decide +kernel
  · unfold Unpadded
    decide +kernel
  · unfold WholeSecond
    decide +kernel
  · unfold Unpadded
    decide +kernel

def Response.account : Response → Option Account
  | .row .account a => a
  | _ => none

/-- An account opened 123456 microseconds past noon. -/
theorem account_not_echoed : Reachable opened ∧ ∃ a db' fetched,
    (savings.call.serve ⟨"a-2", ⟨63000000000123456, none⟩, ""⟩ administrator).run opened = (.ok a, db') ∧
      (((fetchOf .account "a-2").serve (noon "") administrator).run db').1 = .ok fetched ∧
      a ≠ fetched := by
  let creating := savings.call.serve ⟨"a-2", ⟨63000000000123456, none⟩, ""⟩ administrator
  let reading := (fetchOf .account "a-2").serve (noon "") administrator
  obtain ⟨a, run⟩ := exists_of_isOk (by decide +kernel : (creating.run opened).1.isOk)
  obtain ⟨fetched, read⟩ := exists_of_isOk
    (by decide +kernel : (reading.run (creating.run opened).2).1.isOk)
  refine ⟨reachable_opened, a, _, fetched, run, congrArg Prod.fst read, fun same => ?_⟩
  have created := congrArg (fun result => result.1.toOption.bind Response.account) run
  have shown := congrArg (fun result => result.1.toOption.bind Response.account) read
  have differ : (creating.run opened).1.toOption.bind Response.account ≠
      (reading.run (creating.run opened).2).1.toOption.bind Response.account := by decide +kernel
  exact differ (by rw [created, shown, same])

end Corebank
