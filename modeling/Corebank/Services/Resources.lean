import Corebank.Services.Helpers

/-!
# The resource services

Customers, branches, employees, accounts, cards, loans, loan payments, credit scores and tickets.
A request's data is what its schema loads; a key it may lack is an `Option`.
-/

namespace Corebank

variable [Collation]

structure CustomerData where
  firstName : String
  lastName : String
  dateOfBirth : Date
  phoneNumber : String
  email : String
  addressLine1 : String
  addressLine2 : Option (Option String)
  city : String
  zipCode : String
  wageDeclaration : Option Int
  deriving DecidableEq, Repr

namespace CustomerService

def record (env : Env) (data : CustomerData) : Customer :=
  { customerId := env.newId, firstName := data.firstName, lastName := data.lastName,
    dateOfBirth := data.dateOfBirth, phoneNumber := data.phoneNumber, email := data.email,
    addressLine1 := data.addressLine1, addressLine2 := data.addressLine2.getD none,
    city := data.city, zipCode := data.zipCode,
    wageDeclaration := some (data.wageDeclaration.getD 0) }

def create (env : Env) (data : CustomerData) : Service Customer :=
  createRow .customer (record env data)

def listAll : Service (List Customer) := listRows Customers.listAll

def get (customerId : String) (actor : Actor) : Service Customer := do
  Service.ofExcept (ensureOwnerOrAdmin actor (some customerId))
  fetchRow (Customers.get customerId) "Customer not found"

def update (customerId : String) (fields : CustomerFields) (actor : Actor) :
    Service (Option Customer) := do
  Service.ofExcept (ensureOwnerOrAdmin actor (some customerId))
  updateThenGet (Customers.update customerId fields) (Customers.get customerId)
    "Customer not found"

def delete (customerId : String) : Service Unit :=
  deleteOrMissing guarded (Customers.delete customerId) "Customer not found"

end CustomerService

structure BranchData where
  branchName : String
  addressLine1 : String
  addressLine2 : Option (Option String)
  city : String
  zipCode : String
  phoneNumber : String
  deriving DecidableEq, Repr

namespace BranchService

def record (env : Env) (data : BranchData) : Branch :=
  { branchId := env.newId, branchName := data.branchName, addressLine1 := data.addressLine1,
    addressLine2 := data.addressLine2.getD none, city := data.city, zipCode := data.zipCode,
    phoneNumber := data.phoneNumber }

def create (env : Env) (data : BranchData) : Service Branch :=
  createRow .branch (record env data)

def listAll : Service (List Branch) := listRows Branches.listAll

def get (branchId : String) : Service Branch :=
  fetchRow (Branches.get branchId) "Branch not found"

def update (branchId : String) (fields : BranchFields) : Service (Option Branch) :=
  updateThenGet (Branches.update branchId fields) (Branches.get branchId) "Branch not found"

def delete (branchId : String) : Service Unit :=
  deleteOrMissing guarded (Branches.delete branchId) "Branch not found"

def withConditions (minEmployees minAccounts : Int) : Service (List BranchConditions) :=
  readOnly (Branches.withConditions minEmployees minAccounts)

end BranchService

structure EmployeeData where
  branchId : String
  firstName : String
  lastName : String
  position : String
  hireDate : DateTime
  phoneNumber : String
  email : String
  deriving DecidableEq, Repr

namespace EmployeeService

def record (env : Env) (data : EmployeeData) : Employee :=
  { employeeId := env.newId, branchId := data.branchId, firstName := data.firstName,
    lastName := data.lastName, position := data.position, hireDate := data.hireDate,
    phoneNumber := data.phoneNumber, email := data.email }

def create (env : Env) (data : EmployeeData) : Service Employee :=
  createRow .employee (record env data)

def listAll : Service (List Employee) := listRows Employees.listAll

def get (employeeId : String) : Service Employee :=
  fetchRow (Employees.get employeeId) "Employee not found"

def update (employeeId : String) (fields : EmployeeFields) : Service (Option Employee) :=
  updateThenGet (Employees.update employeeId fields) (Employees.get employeeId)
    "Employee not found"

def delete (employeeId : String) : Service Unit :=
  deleteOrMissing guarded (Employees.delete employeeId) "Employee not found"

end EmployeeService

namespace AccountService

def record (env : Env) (customerId : String) (accountType : AccountType) (branchId : String) : Account :=
  { accountId := env.newId, customerId := customerId, accountType := accountType,
    balance := 0, creationDate := env.utcnow, branchId := branchId }

def create (env : Env) (customerId : String) (accountType : AccountType) (branchId : String) : Service Account :=
  createRow .account (record env customerId accountType branchId)

def listForActor (actor : Actor) : Service (List Account) :=
  readOnly (if actor.role = .admin then Accounts.listAll else Accounts.listByCustomer actor.customerId)

def get (accountId : String) (actor : Actor) : Service Account :=
  fetchOwned (Accounts.get accountId) "Account not found" Account.customerId actor

def setBalance (accountId : String) (balance : Decimal) : Service (Option Account) := do
  let balance ← Service.ofExcept (quantize balance)
  updateThenGet (Accounts.setBalance accountId balance) (Accounts.get accountId)
    "Account not found"

def delete (accountId : String) : Service Unit :=
  deleteOrMissing guarded (Accounts.delete accountId) "Account not found"

end AccountService

structure CardData where
  accountId : String
  cardType : CardType
  cardNumber : String
  expirationDate : Date
  cvv : String
  status : CardStatus
  deriving DecidableEq, Repr

namespace CardService

def record (env : Env) (data : CardData) : Card :=
  { cardId := env.newId, accountId := data.accountId, cardType := data.cardType,
    cardNumber := data.cardNumber, expirationDate := data.expirationDate, cvv := data.cvv,
    status := data.status }

/-- The masked view is read back on a second connection, after the commit. -/
def create (env : Env) (data : CardData) : Service (Option SafeCard) := do
  guarded (Cards.insert (record env data))
  readOnly (Cards.get (record env data).cardId)

def listAll : Service (List SafeCard) := listRows Cards.listAll

def ensureOwned (cardId : String) (actor : Actor) : Sql Unit := do
  match ← Cards.getWithAccount cardId with
  | none => Sql.throw .notFound "Card not found"
  | some owned => Sql.ofExcept (ensureOwnerOrAdmin actor (some owned.customerId))

def get (cardId : String) (actor : Actor) : Service (Option SafeCard) :=
  readOnly do
    ensureOwned cardId actor
    Cards.get cardId

def setStatus (cardId : String) (status : CardStatus) (actor : Actor) :
    Service (Option SafeCard) :=
  guarded do
    ensureOwned cardId actor
    let _ ← Cards.setStatus cardId status
    Cards.get cardId

def delete (cardId : String) : Service Unit :=
  deleteOrMissing guarded (Cards.delete cardId) "Card not found"

end CardService

structure LoanData where
  customerId : String
  loanType : LoanType
  principalAmount : Int
  interestRate : Int
  startDate : Date
  endDate : Date
  status : Option LoanStatus
  deriving DecidableEq, Repr

namespace LoanService

def record (env : Env) (data : LoanData) : Loan :=
  { loanId := env.newId, customerId := data.customerId, loanType := data.loanType,
    principalAmount := data.principalAmount, interestRate := data.interestRate,
    startDate := data.startDate, endDate := data.endDate,
    status := data.status.getD .active }

def create (env : Env) (data : LoanData) : Service Loan :=
  createRow .loan (record env data)

def listAll : Service (List Loan) := listRows Loans.listAll

def get (loanId : String) (actor : Actor) : Service Loan :=
  fetchOwned (Loans.get loanId) "Loan not found" Loan.customerId actor

def setStatus (loanId : String) (status : LoanStatus) : Service (Option Loan) :=
  updateThenGet (Loans.setStatus loanId status) (Loans.get loanId) "Loan not found"

def delete (loanId : String) : Service Unit :=
  deleteOrMissing guarded (Loans.delete loanId) "Loan not found"

end LoanService

structure LoanPaymentData where
  loanId : String
  paymentAmount : Int
  remainingBalance : Option Int
  paymentDate : Option DateTime
  deriving DecidableEq, Repr

namespace LoanPaymentService

def record (env : Env) (data : LoanPaymentData) : LoanPayment :=
  { loanPaymentId := env.newId, loanId := data.loanId,
    paymentDate := data.paymentDate.getD env.utcnow, paymentAmount := data.paymentAmount,
    remainingBalance := data.remainingBalance }

def create (env : Env) (data : LoanPaymentData) : Service LoanPayment :=
  createRow .loanPayment (record env data)

def listAll : Service (List LoanPayment) := listRows LoanPayments.listAll

def get (loanPaymentId : String) : Service LoanPayment :=
  fetchRow (LoanPayments.get loanPaymentId) "Loan payment not found"

def listByLoan (loanId : String) : Service (List LoanPayment) :=
  readOnly do
    match ← Loans.get loanId with
    | none => Sql.throw .notFound "Loan not found"
    | some _ => LoanPayments.listByLoan loanId

def delete (loanPaymentId : String) : Service Unit :=
  deleteOrMissing guarded (LoanPayments.delete loanPaymentId) "Loan payment not found"

end LoanPaymentService

structure CreditScoreData where
  customerId : String
  score : Int
  riskCategory : String
  computedBySystem : Option Bool
  deriving DecidableEq, Repr

namespace CreditScoreService

def record (env : Env) (data : CreditScoreData) : CreditScore :=
  { creditScoreId := env.newId, customerId := data.customerId, score := data.score,
    riskCategory := data.riskCategory,
    computedBySystem := some (data.computedBySystem.getD true) }

def create (env : Env) (data : CreditScoreData) : Service CreditScore :=
  createRow .creditScore (record env data)

def listAll : Service (List CreditScore) := listRows CreditScores.listAll

def get (creditScoreId : String) (actor : Actor) : Service CreditScore :=
  fetchOwned (CreditScores.get creditScoreId) "Credit score not found" CreditScore.customerId actor

def update (creditScoreId : String) (fields : CreditScoreFields) : Service (Option CreditScore) :=
  updateThenGet (CreditScores.update creditScoreId fields) (CreditScores.get creditScoreId)
    "Credit score not found"

def delete (creditScoreId : String) : Service Unit :=
  deleteOrMissing guarded (CreditScores.delete creditScoreId) "Credit score not found"

end CreditScoreService

namespace SupportService

def record (env : Env) (customerId employeeId issueDescription : String) : Ticket :=
  { ticketId := env.newId, customerId := customerId, employeeId := employeeId,
    issueDescription := issueDescription, status := .open, createdDate := env.utcnow,
    resolvedDate := none }

def create (env : Env) (customerId employeeId issueDescription : String) : Service Ticket :=
  createRow .customerSupport (record env customerId employeeId issueDescription)

def listAll : Service (List Ticket) := listRows SupportTickets.listAll

def get (ticketId : String) (actor : Actor) : Service Ticket :=
  fetchOwned (SupportTickets.get ticketId) "Ticket not found" Ticket.customerId actor

def setStatus (env : Env) (ticketId : String) (status : TicketStatus) : Service (Option Ticket) :=
  let resolvedDate := if status = .resolved then some env.utcnow else none
  updateThenGet (SupportTickets.setStatus ticketId status resolvedDate)
    (SupportTickets.get ticketId) "Ticket not found"

def delete (ticketId : String) : Service Unit :=
  deleteOrMissing guarded (SupportTickets.delete ticketId) "Ticket not found"

def topResolvers : Service (List TopResolver) := readOnly SupportTickets.topResolvers

end SupportService

end Corebank
