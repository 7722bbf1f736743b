import Corebank.Services.Resources
import Corebank.Services.Users
import Corebank.Services.Transactions
import Corebank.Proof.Integrity

/-! # The mutating service operations -/

namespace Corebank

inductive Response where
  | empty
  | row (t : Table) (r : Option (Row t))
  | rows (t : Table) (rs : List (Row t))
  | user (u : Option PublicUser)
  | users (us : List PublicUser)
  | card (c : Option SafeCard)
  | cards (cs : List SafeCard)
  | conditions (bs : List BranchConditions)
  | highValue (hs : List HighValue)
  | topResolvers (rs : List TopResolver)
  | token (claims : Actor)
  | identity (claims : Actor)
  | health

def respond {α : Type} (f : α → Response) (op : Service α) : Service Response := do
  return f (← op)

theorem respond_run [Collation] {α : Type} (f : α → Response) (op : Service α) (db : Db) :
    (respond f op).run db = ((op.run db).1.map f, (op.run db).2) := by
  simp only [respond, Service.run_bind]
  split <;> rename_i h <;> simp [h, Service.run, Except.map]

inductive Operation where
  | createCustomer (data : CustomerData)
  | updateCustomer (customerId : String) (fields : CustomerFields) (actor : Actor)
  | deleteCustomer (customerId : String)
  | createUser (data : UserData)
  | updateUser (userId : String) (fields : UserFields)
  | deleteUser (userId : String)
  | createBranch (data : BranchData)
  | updateBranch (branchId : String) (fields : BranchFields)
  | deleteBranch (branchId : String)
  | createAccount (customerId : String) (accountType : AccountType) (branchId : String)
  | setBalance (accountId : String) (balance : Decimal)
  | deleteAccount (accountId : String)
  | createLoan (data : LoanData)
  | setLoanStatus (loanId : String) (status : LoanStatus)
  | deleteLoan (loanId : String)
  | createLoanPayment (data : LoanPaymentData)
  | deleteLoanPayment (loanPaymentId : String)
  | createEmployee (data : EmployeeData)
  | updateEmployee (employeeId : String) (fields : EmployeeFields)
  | deleteEmployee (employeeId : String)
  | createCard (data : CardData)
  | setCardStatus (cardId : String) (status : CardStatus) (actor : Actor)
  | deleteCard (cardId : String)
  | transfer (actor : Actor) (senderId receiverId : String) (amount : Decimal)
  | deleteTransaction (transactionId : String)
  | createTicket (customerId employeeId issueDescription : String)
  | setTicketStatus (ticketId : String) (status : TicketStatus)
  | deleteTicket (ticketId : String)
  | createCreditScore (data : CreditScoreData)
  | updateCreditScore (creditScoreId : String) (fields : CreditScoreFields)
  | deleteCreditScore (creditScoreId : String)
  deriving DecidableEq

variable [Collation] [Werkzeug]

def Operation.serve (env : Env) : Operation → Service Response
  | .createCustomer data =>
      respond (fun r => .row .customer (some r)) (CustomerService.create env data)
  | .updateCustomer customerId fields actor =>
      respond (.row .customer) (CustomerService.update customerId fields actor)
  | .deleteCustomer customerId => respond (fun _ => .empty) (CustomerService.delete customerId)
  | .createUser data => respond (fun u => .user (some u)) (UserService.create env data)
  | .updateUser userId fields => respond .user (UserService.update env userId fields)
  | .deleteUser userId => respond (fun _ => .empty) (UserService.delete userId)
  | .createBranch data => respond (fun r => .row .branch (some r)) (BranchService.create env data)
  | .updateBranch branchId fields =>
      respond (.row .branch) (BranchService.update branchId fields)
  | .deleteBranch branchId => respond (fun _ => .empty) (BranchService.delete branchId)
  | .createAccount customerId accountType branchId =>
      respond (fun r => .row .account (some r))
        (AccountService.create env customerId accountType branchId)
  | .setBalance accountId balance =>
      respond (.row .account) (AccountService.setBalance accountId balance)
  | .deleteAccount accountId => respond (fun _ => .empty) (AccountService.delete accountId)
  | .createLoan data => respond (fun r => .row .loan (some r)) (LoanService.create env data)
  | .setLoanStatus loanId status => respond (.row .loan) (LoanService.setStatus loanId status)
  | .deleteLoan loanId => respond (fun _ => .empty) (LoanService.delete loanId)
  | .createLoanPayment data =>
      respond (fun r => .row .loanPayment (some r)) (LoanPaymentService.create env data)
  | .deleteLoanPayment loanPaymentId =>
      respond (fun _ => .empty) (LoanPaymentService.delete loanPaymentId)
  | .createEmployee data =>
      respond (fun r => .row .employee (some r)) (EmployeeService.create env data)
  | .updateEmployee employeeId fields =>
      respond (.row .employee) (EmployeeService.update employeeId fields)
  | .deleteEmployee employeeId => respond (fun _ => .empty) (EmployeeService.delete employeeId)
  | .createCard data => respond .card (CardService.create env data)
  | .setCardStatus cardId status actor =>
      respond .card (CardService.setStatus cardId status actor)
  | .deleteCard cardId => respond (fun _ => .empty) (CardService.delete cardId)
  | .transfer actor senderId receiverId amount =>
      respond (fun r => .row .transaction (some r))
        (TransactionService.transfer env actor senderId receiverId amount)
  | .deleteTransaction transactionId =>
      respond (fun _ => .empty) (TransactionService.delete transactionId)
  | .createTicket customerId employeeId issueDescription =>
      respond (fun r => .row .customerSupport (some r))
        (SupportService.create env customerId employeeId issueDescription)
  | .setTicketStatus ticketId status =>
      respond (.row .customerSupport) (SupportService.setStatus env ticketId status)
  | .deleteTicket ticketId => respond (fun _ => .empty) (SupportService.delete ticketId)
  | .createCreditScore data =>
      respond (fun r => .row .creditScore (some r)) (CreditScoreService.create env data)
  | .updateCreditScore creditScoreId fields =>
      respond (.row .creditScore) (CreditScoreService.update creditScoreId fields)
  | .deleteCreditScore creditScoreId =>
      respond (fun _ => .empty) (CreditScoreService.delete creditScoreId)

/-- The write statements an operation issues when it gets that far. -/
def Operation.writes (env : Env) : Operation → List Statement
  | .createCustomer data => [.insert .customer (CustomerService.record env data)]
  | .updateCustomer customerId fields _ => [.update .customer customerId fields]
  | .deleteCustomer customerId => [.delete .customer customerId]
  | .createUser data => [.insert .user (UserService.record env data)]
  | .updateUser userId fields => [.update .user userId (UserService.hashed env fields)]
  | .deleteUser userId => [.delete .user userId]
  | .createBranch data => [.insert .branch (BranchService.record env data)]
  | .updateBranch branchId fields => [.update .branch branchId fields]
  | .deleteBranch branchId => [.delete .branch branchId]
  | .createAccount customerId accountType branchId =>
      [.insert .account (AccountService.record env customerId accountType branchId)]
  | .setBalance accountId balance =>
      match quantize balance with
      | .ok balance => [.update .account accountId (.setBalance balance)]
      | .error _ => []
  | .deleteAccount accountId => [.delete .account accountId]
  | .createLoan data => [.insert .loan (LoanService.record env data)]
  | .setLoanStatus loanId status => [.update .loan loanId status]
  | .deleteLoan loanId => [.delete .loan loanId]
  | .createLoanPayment data => [.insert .loanPayment (LoanPaymentService.record env data)]
  | .deleteLoanPayment loanPaymentId => [.delete .loanPayment loanPaymentId]
  | .createEmployee data => [.insert .employee (EmployeeService.record env data)]
  | .updateEmployee employeeId fields => [.update .employee employeeId fields]
  | .deleteEmployee employeeId => [.delete .employee employeeId]
  | .createCard data => [.insert .card (CardService.record env data)]
  | .setCardStatus cardId status _ => [.update .card cardId status]
  | .deleteCard cardId => [.delete .card cardId]
  | .transfer _ senderId receiverId amount =>
      match quantize amount with
      | .ok amount => [.update .account senderId (.debit amount),
          .update .account receiverId (.credit amount),
          .insert .transaction (TransactionService.ledgerRecord env senderId receiverId amount)]
      | .error _ => []
  | .deleteTransaction transactionId => [.delete .transaction transactionId]
  | .createTicket customerId employeeId issueDescription =>
      [.insert .customerSupport (SupportService.record env customerId employeeId issueDescription)]
  | .setTicketStatus ticketId status =>
      [.update .customerSupport ticketId
        ⟨status, if status = .resolved then some env.utcnow else none⟩]
  | .deleteTicket ticketId => [.delete .customerSupport ticketId]
  | .createCreditScore data => [.insert .creditScore (CreditScoreService.record env data)]
  | .updateCreditScore creditScoreId fields => [.update .creditScore creditScoreId fields]
  | .deleteCreditScore creditScoreId => [.delete .creditScore creditScoreId]

/-! ## The statements of the shared shapes -/

section
variable {α β : Type} {ok : Statement → Prop}

omit [Collation] [Werkzeug] in
theorem issues_respond {op : Service α} (f : α → Response) (h : op.Issues ok) :
    (respond f op).Issues ok :=
  Service.Issues.bind h fun _ => trivial

omit [Collation] [Werkzeug] in
theorem issues_createRow {t : Table} {record : Row t} (h : ok (.insert t record)) :
    (createRow t record).Issues ok :=
  ⟨⟨h, fun _ => trivial⟩, fun _ => trivial⟩

omit [Collation] [Werkzeug] in
theorem issues_updateThenGet {update : Sql Nat} {get : Sql (Option β)} (missing : String)
    (writes : update.Issues ok) (reads : get.Issues ok) :
    (updateThenGet update get missing).Issues ok := by
  refine ⟨Sql.Issues.bind writes fun n => ?_, fun _ => trivial⟩
  split
  · trivial
  · exact reads

omit [Collation] [Werkzeug] in
theorem issues_deleteOrMissing {block : Sql Unit → Service Unit} {delete : Sql Nat}
    (missing : String) (inside : ∀ body, body.Issues ok → (block body).Issues ok)
    (writes : delete.Issues ok) : (deleteOrMissing block delete missing).Issues ok := by
  refine inside _ (Sql.Issues.bind writes fun n => ?_)
  split
  · trivial
  · trivial

omit [Collation] [Werkzeug] in
theorem issues_guarded (body : Sql α) (h : body.Issues ok) : (guarded body).Issues ok :=
  ⟨h, fun _ => trivial⟩

omit [Collation] [Werkzeug] in
theorem issues_ofExcept (x : Except Exn α) : (Service.ofExcept x).Issues ok := by
  cases x <;> trivial

omit [Collation] [Werkzeug] in
theorem sql_issues_ofExcept (x : Except Exn α) : (Sql.ofExcept x).Issues ok := by
  cases x <;> trivial

omit [Werkzeug] in
theorem issues_ensureOwned (cardId : String) (actor : Actor) :
    (CardService.ensureOwned cardId actor).Issues ok := by
  refine Sql.Issues.bind (fun _ => trivial) fun owned => ?_
  cases owned with
  | none => trivial
  | some owned => exact sql_issues_ofExcept _

omit [Collation] [Werkzeug] in
theorem issues_transferBody {env : Env} {actor : Actor} {senderId receiverId : String}
    {amount : Int} (debit : ok (.update .account senderId (.debit amount)))
    (credit : ok (.update .account receiverId (.credit amount)))
    (ledger : ok (.insert .transaction
      (TransactionService.ledgerRecord env senderId receiverId amount))) :
    (TransactionService.transferBody env actor senderId receiverId amount).Issues ok := by
  refine Sql.Issues.bind (fun _ => trivial) fun _ => Sql.Issues.bind (fun _ => trivial) fun _ =>
    Sql.Issues.bind (sql_issues_ofExcept _) fun _ =>
      Sql.Issues.bind ⟨debit, fun _ => trivial⟩ fun debited => ?_
  split
  · trivial
  · exact ⟨credit, fun _ => ⟨ledger, fun _ => trivial⟩⟩

end

theorem operation_issues (op : Operation) (env : Env) :
    (op.serve env).Issues (· ∈ op.writes env) := by
  have single {s : Statement} : s ∈ [s] := List.mem_singleton_self s
  have delete {t : Table} {id missing : String} :
      (deleteOrMissing guarded (deleteRow t id) missing).Issues (· ∈ [Statement.delete t id]) :=
    issues_deleteOrMissing missing issues_guarded ⟨single, fun _ => trivial⟩
  have update {β : Type} {t : Table} {id : String} {change : Change t} {get : Sql (Option β)}
      {missing : String} (reads : get.Issues (· ∈ [Statement.update t id change])) :
      (updateThenGet (updateRow t id change) get missing).Issues
        (· ∈ [Statement.update t id change]) :=
    issues_updateThenGet missing ⟨single, fun _ => trivial⟩ reads
  cases op with
  | createCustomer | createBranch | createAccount | createLoan | createLoanPayment
  | createEmployee | createTicket | createCreditScore =>
      exact issues_respond _ (issues_createRow single)
  | createUser data =>
      exact issues_respond _ (Service.Issues.bind (issues_createRow single) fun _ => trivial)
  | createCard data =>
      exact issues_respond _ (Service.Issues.bind (issues_guarded _ ⟨single, fun _ => trivial⟩)
        fun _ _ => trivial)
  | deleteCustomer | deleteUser | deleteBranch | deleteAccount | deleteLoan | deleteLoanPayment
  | deleteEmployee | deleteCard | deleteTicket | deleteCreditScore =>
      exact issues_respond _ delete
  | deleteTransaction transactionId =>
      exact issues_respond _ (issues_deleteOrMissing _ (fun _ h => ⟨h, fun _ => trivial⟩)
        ⟨single, fun _ => trivial⟩)
  | updateCustomer customerId fields actor =>
      exact issues_respond _ (Service.Issues.bind (issues_ofExcept _) fun _ =>
        update fun _ => trivial)
  | updateUser | updateBranch | updateEmployee | updateCreditScore | setLoanStatus
  | setTicketStatus => exact issues_respond _ (update fun _ => trivial)
  | setBalance accountId balance =>
      refine issues_respond _ ?_
      simp only [AccountService.setBalance, Operation.writes]
      cases quantize balance with
      | error e => trivial
      | ok cents => exact update fun _ => trivial
  | setCardStatus cardId status actor =>
      exact issues_respond _ (issues_guarded _ (Sql.Issues.bind (issues_ensureOwned _ _) fun _ =>
        ⟨single, fun _ _ => trivial⟩))
  | transfer actor senderId receiverId amount =>
      refine issues_respond _ ?_
      simp only [TransactionService.transfer, Operation.writes]
      cases quantize amount with
      | error e => trivial
      | ok cents =>
          simp only [Service.ofExcept, Service.done_bind]
          split
          · trivial
          · split
            · trivial
            · exact ⟨issues_transferBody (by simp) (by simp) (by simp), fun _ => trivial⟩

/-- The states operations reach from a freshly migrated database. -/
inductive Reachable : Db → Prop where
  | start : Reachable Db.empty
  | step {db : Db} (op : Operation) (env : Env) (reached : Reachable db) :
      Reachable ((op.serve env).run db).2

def replay (calls : List (Operation × Env)) (db : Db) : Db :=
  calls.foldl (fun db call => ((call.1.serve call.2).run db).2) db

theorem Reachable.replay {db : Db} (reached : Reachable db) (calls : List (Operation × Env)) :
    Reachable (replay calls db) := by
  induction calls generalizing db with
  | nil => exact reached
  | cons call calls ih => exact ih (reached.step call.1 call.2)

theorem Reachable.valid {db : Db} (reached : Reachable db) : db.Valid := by
  induction reached with
  | start => exact Db.empty_valid
  | step op env _ ih => exact Service.run_valid _ ih

def opening : List (Operation × Env) :=
  let now : DateTime := ⟨63000000000000000, none⟩
  let customer (name phone email : String) : CustomerData :=
    { firstName := name, lastName := name, dateOfBirth := 0, phoneNumber := phone, email := email,
      addressLine1 := "1 Main St", addressLine2 := none, city := "Town", zipCode := "100",
      wageDeclaration := none }
  let branch : BranchData :=
    { branchName := "North", addressLine1 := "2 Main St", addressLine2 := none, city := "Town",
      zipCode := "100", phoneNumber := "300" }
  [(.createCustomer (customer "Ann" "100" "ann@mail"), ⟨"ann", now, ""⟩),
    (.createCustomer (customer "Bob" "200" "bob@mail"), ⟨"bob", now, ""⟩),
    (.createBranch branch, ⟨"north", now, ""⟩),
    (.createAccount "ann" .checking "north", ⟨"a-1", now, ""⟩),
    (.createAccount "bob" .checking "north", ⟨"b-1", now, ""⟩),
    (.setBalance "a-1" ⟨10000, -2⟩, ⟨"", now, ""⟩)]

def opened : Db := @replay foldCase clearText opening Db.empty

omit [Collation] [Werkzeug] in
theorem reachable_opened : @Reachable foldCase clearText opened :=
  @Reachable.replay foldCase clearText _ (@Reachable.start foldCase clearText) opening

def ann : Actor := ⟨"u-1", .user, some "ann"⟩

def bob : Actor := ⟨"u-2", .user, some "bob"⟩

def noon (id : String) : Env := ⟨id, ⟨63000000000000000, none⟩, ""⟩

end Corebank
