import Corebank.Session
import Corebank.Library.Relational

/-!
# Repositories

The statements of `app/repositories/`, one namespace a module.
-/

namespace Corebank
open Library

variable [Collation]

/-! ## The shared shapes -/

def insertRow (t : Table) (data : Row t) : Sql Unit := .execute (.insert t data) fun _ => .done ()

def allRows (t : Table) : Sql (List (Row t)) := .fetch fun db => .done (db t)

def getRow (t : Table) (id : String) : Sql (Option (Row t)) :=
  .fetch fun db => .done (db.find t id)

def updateRow (t : Table) (id : String) (change : Change t) : Sql Nat :=
  .execute (.update t id change) .done

def deleteRow (t : Table) (id : String) : Sql Nat := .execute (.delete t id) .done

namespace Customers

def insert (data : Customer) : Sql Unit := insertRow .customer data
def listAll : Sql (List Customer) := allRows .customer
def get (customerId : String) : Sql (Option Customer) := getRow .customer customerId
def update (customerId : String) (fields : CustomerFields) : Sql Nat :=
  updateRow .customer customerId fields
def delete (customerId : String) : Sql Nat := deleteRow .customer customerId

end Customers

/-- `PUBLIC_COLUMNS`. -/
structure PublicUser where
  userId : String
  username : String
  role : Role
  customerId : Option String
  deriving DecidableEq, Repr

def User.publicColumns (u : User) : PublicUser := ⟨u.userId, u.username, u.role, u.customerId⟩

namespace Users

def insert (data : User) : Sql Unit := insertRow .user data
def getByUsername (username : String) : Sql (Option User) :=
  .fetch fun db => .done ((db .user).find? fun u => key u.username = key username)
def listAll : Sql (List PublicUser) := .fetch fun db => .done ((db .user).map User.publicColumns)
def get (userId : String) : Sql (Option PublicUser) :=
  .fetch fun db => .done ((db.find .user userId).map User.publicColumns)
def update (userId : String) (fields : UserFields) : Sql Nat := updateRow .user userId fields
def delete (userId : String) : Sql Nat := deleteRow .user userId

end Users

structure BranchConditions where
  branchName : String
  employeeCount : Nat
  accountCount : Nat
  deriving DecidableEq, Repr

namespace Branches

def insert (data : Branch) : Sql Unit := insertRow .branch data
def listAll : Sql (List Branch) := allRows .branch
def get (branchId : String) : Sql (Option Branch) := getRow .branch branchId
def update (branchId : String) (fields : BranchFields) : Sql Nat :=
  updateRow .branch branchId fields
def delete (branchId : String) : Sql Nat := deleteRow .branch branchId

def conditionRows (db : Db) : List ((Branch × Option Employee) × Option Account) :=
  let staffed := Relational.leftJoin (db .branch) (db .employee) fun b e =>
    key b.branchId = key e.branchId
  Relational.leftJoin staffed (db .account) fun p a => key p.1.branchId = key a.branchId

def withConditions (minEmployees minAccounts : Int) : Sql (List BranchConditions) :=
  .fetch fun db =>
    let groups := Relational.groupBy (fun p => key p.1.1.branchName) (conditionRows db)
    .done <| groups.filterMap fun group =>
      let employees := Relational.countDistinct (fun p => p.1.2.map fun e => key e.employeeId) group
      let accounts := Relational.countDistinct (fun p => p.2.map fun a => key a.accountId) group
      if minEmployees < employees ∧ minAccounts ≤ accounts then
        group.head?.map fun p => ⟨p.1.1.branchName, employees, accounts⟩
      else none

end Branches

namespace Accounts

def insert (data : Account) : Sql Unit := insertRow .account data
def listAll : Sql (List Account) := allRows .account
def get (accountId : String) : Sql (Option Account) := getRow .account accountId

/-- No row has `customer_id = NULL`. -/
def listByCustomer (customerId : Option String) : Sql (List Account) :=
  .fetch fun db => .done ((db .account).filter fun a => customerId.any fun c => key a.customerId = key c)

def setBalance (accountId : String) (balance : Int) : Sql Nat :=
  updateRow .account accountId (.setBalance balance)
def delete (accountId : String) : Sql Nat := deleteRow .account accountId
def lock (accountId : String) : Sql (Option Account) := .lock .account accountId .done
def debit (accountId : String) (amount : Int) : Sql Nat :=
  updateRow .account accountId (.debit amount)
def credit (accountId : String) (amount : Int) : Sql Nat :=
  updateRow .account accountId (.credit amount)

end Accounts

namespace Loans

def insert (data : Loan) : Sql Unit := insertRow .loan data
def listAll : Sql (List Loan) := allRows .loan
def get (loanId : String) : Sql (Option Loan) := getRow .loan loanId
def setStatus (loanId : String) (status : LoanStatus) : Sql Nat := updateRow .loan loanId status
def delete (loanId : String) : Sql Nat := deleteRow .loan loanId

end Loans

namespace LoanPayments

def insert (data : LoanPayment) : Sql Unit := insertRow .loanPayment data
def listAll : Sql (List LoanPayment) := allRows .loanPayment
def get (loanPaymentId : String) : Sql (Option LoanPayment) := getRow .loanPayment loanPaymentId

def listByLoan (loanId : String) : Sql (List LoanPayment) :=
  .fetch fun db => .done <|
    ((db .loanPayment).filter fun p => key p.loanId = key loanId).mergeSort fun p q =>
      p.paymentDate.micros ≤ q.paymentDate.micros

def delete (loanPaymentId : String) : Sql Nat := deleteRow .loanPayment loanPaymentId

end LoanPayments

namespace Employees

def insert (data : Employee) : Sql Unit := insertRow .employee data
def listAll : Sql (List Employee) := allRows .employee
def get (employeeId : String) : Sql (Option Employee) := getRow .employee employeeId
def update (employeeId : String) (fields : EmployeeFields) : Sql Nat :=
  updateRow .employee employeeId fields
def delete (employeeId : String) : Sql Nat := deleteRow .employee employeeId

end Employees

/-- `SAFE_COLUMNS`: the number masked but for its last four digits, no CVV. -/
structure SafeCard where
  cardId : String
  accountId : String
  cardType : CardType
  cardNumber : String
  expirationDate : Date
  status : CardStatus
  deriving DecidableEq, Repr

def right (s : String) (n : Nat) : String := String.ofList (s.toList.drop (s.length - n))

def Card.safeColumns (c : Card) : SafeCard :=
  ⟨c.cardId, c.accountId, c.cardType, "************" ++ right c.cardNumber 4, c.expirationDate,
    c.status⟩

structure OwnedCard where
  cardId : String
  accountId : String
  customerId : String
  status : CardStatus
  deriving DecidableEq, Repr

namespace Cards

def insert (data : Card) : Sql Unit := insertRow .card data
def listAll : Sql (List SafeCard) := .fetch fun db => .done ((db .card).map Card.safeColumns)
def get (cardId : String) : Sql (Option SafeCard) :=
  .fetch fun db => .done ((db.find .card cardId).map Card.safeColumns)

/-- `card c JOIN account a ON c.account_id = a.account_id`. -/
def getWithAccount (cardId : String) : Sql (Option OwnedCard) :=
  .fetch fun db => .done <|
    (db.find .card cardId).bind fun c => (db.find .account c.accountId).map fun a =>
      ⟨c.cardId, c.accountId, a.customerId, c.status⟩

def setStatus (cardId : String) (status : CardStatus) : Sql Nat := updateRow .card cardId status
def delete (cardId : String) : Sql Nat := deleteRow .card cardId

end Cards

structure HighValue where
  customerId : String
  firstName : String
  lastName : String
  totalTransaction : Int
  deriving DecidableEq, Repr

def Decimal.ltCents (x : Decimal) (c : Int) : Bool :=
  if 0 ≤ x.exponent + 2 then x.coefficient * 10 ^ (x.exponent + 2).toNat < c
  else x.coefficient < c * 10 ^ (-(x.exponent + 2)).toNat

namespace Transactions

def insert (data : Transaction) : Sql Unit := insertRow .transaction data

def newestFirst (rows : List Transaction) : List Transaction :=
  rows.mergeSort fun t u => u.transactionTimestamp.micros ≤ t.transactionTimestamp.micros

def listAll : Sql (List Transaction) := .fetch fun db => .done (newestFirst (db .transaction))
def get (transactionId : String) : Sql (Option Transaction) := getRow .transaction transactionId

def names (id : String) (t : Transaction) : Bool :=
  key t.fromAccountId = key id || t.toAccountId.any fun receiver => key receiver = key id

def listByAccount (accountId : String) : Sql (List Transaction) :=
  .fetch fun db => .done (newestFirst ((db .transaction).filter (names accountId)))

def delete (transactionId : String) : Sql Nat := deleteRow .transaction transactionId

def customerRows (db : Db) : List ((Customer × Account) × Transaction) :=
  let owned := Relational.join (db .customer) (db .account) fun c a =>
    key c.customerId = key a.customerId
  Relational.join owned (db .transaction) fun p t => names p.2.accountId t

def customersWithHighTransactions (minimum : Decimal) : Sql (List HighValue) :=
  .fetch fun db =>
    let group (p : (Customer × Account) × Transaction) :=
      (key p.1.1.customerId, key p.1.1.firstName, key p.1.1.lastName)
    let rows := (Relational.groupBy group (customerRows db)).filterMap fun g =>
      let total := (g.map fun p => p.2.amount).sum
      if minimum.ltCents total then
        g.head?.map fun p => ⟨p.1.1.customerId, p.1.1.firstName, p.1.1.lastName, total⟩
      else none
    .done (rows.mergeSort fun r s => s.totalTransaction ≤ r.totalTransaction)

end Transactions

structure TopResolver where
  employeeId : String
  firstName : String
  lastName : String
  resolvedTickets : Nat
  deriving DecidableEq, Repr

namespace SupportTickets

def insert (data : Ticket) : Sql Unit := insertRow .customerSupport data
def listAll : Sql (List Ticket) := allRows .customerSupport
def get (ticketId : String) : Sql (Option Ticket) := getRow .customerSupport ticketId
def setStatus (ticketId : String) (status : TicketStatus) (resolvedDate : Option DateTime) :
    Sql Nat := updateRow .customerSupport ticketId ⟨status, resolvedDate⟩
def delete (ticketId : String) : Sql Nat := deleteRow .customerSupport ticketId

def resolvedTickets (db : Db) : List TopResolver :=
  let rows := (Relational.join (db .employee) (db .customerSupport) fun e t =>
    key e.employeeId = key t.employeeId).filter fun p => p.2.status = .resolved
  let group (p : Employee × Ticket) := (key p.1.employeeId, key p.1.firstName, key p.1.lastName)
  (Relational.groupBy group rows).filterMap fun g =>
    g.head?.map fun p => ⟨p.1.employeeId, p.1.firstName, p.1.lastName, g.length⟩

def topResolvers : Sql (List TopResolver) :=
  .fetch fun db =>
    let resolved := resolvedTickets db
    .done (resolved.filter fun r => some r.resolvedTickets = (resolved.map (·.resolvedTickets)).max?)

end SupportTickets

namespace CreditScores

def insert (data : CreditScore) : Sql Unit := insertRow .creditScore data
def listAll : Sql (List CreditScore) := allRows .creditScore
def get (creditScoreId : String) : Sql (Option CreditScore) := getRow .creditScore creditScoreId
def update (creditScoreId : String) (fields : CreditScoreFields) : Sql Nat :=
  updateRow .creditScore creditScoreId fields
def delete (creditScoreId : String) : Sql Nat := deleteRow .creditScore creditScoreId

end CreditScores

end Corebank
