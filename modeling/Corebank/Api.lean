import Corebank.Operations

/-!
# The endpoints

The blueprints of `app/api/`: who may call each endpoint, which arguments its schema admits, and
the service operation behind it. A body is what its schema loads, `none` when a field is missing,
unknown or of the wrong type.
-/

namespace Corebank

class Marshmallow where
  isEmail : String → Bool

export Marshmallow (isEmail)

/-- One `@` with something on both sides. -/
@[reducible] def plainEmail : Marshmallow where
  isEmail s := match s.toList.splitOn '@' with
    | [name, domain] => name ≠ [] && domain ≠ []
    | _ => false

/-! ## Bodies and the checks of their schemas -/

section
variable [Marshmallow]

def CustomerData.admitted (data : CustomerData) : Bool :=
  data.phoneNumber.length ≤ 15 && isEmail data.email

def CustomerFields.admitted (fields : CustomerFields) : Bool :=
  fields.phoneNumber.all (·.length ≤ 15) && fields.email.all isEmail

def EmployeeData.admitted (data : EmployeeData) : Bool :=
  data.phoneNumber.length ≤ 15 && isEmail data.email

def EmployeeFields.admitted (fields : EmployeeFields) : Bool :=
  fields.phoneNumber.all (·.length ≤ 15) && fields.email.all isEmail

end

def admittedUsername (username : String) : Bool := 3 ≤ username.length && username.length ≤ 100

def UserData.admitted (data : UserData) : Bool :=
  admittedUsername data.username && 6 ≤ data.password.length

def UserFields.admitted (fields : UserFields) : Bool :=
  fields.username.all admittedUsername && fields.password.all (6 ≤ ·.length)

def BranchData.admitted (data : BranchData) : Bool := data.phoneNumber.length ≤ 15

def BranchFields.admitted (fields : BranchFields) : Bool :=
  fields.phoneNumber.all (·.length ≤ 15)

def LoanData.admitted (data : LoanData) : Bool := 0 < data.principalAmount

def LoanPaymentData.admitted (data : LoanPaymentData) : Bool := 0 < data.paymentAmount

def CardData.admitted (data : CardData) : Bool :=
  data.cardNumber.length = 16 && data.cvv.length = 3

def CreditScoreData.admitted (data : CreditScoreData) : Bool := data.riskCategory.length ≤ 50

def CreditScoreFields.admitted (fields : CreditScoreFields) : Bool :=
  fields.riskCategory.all (·.length ≤ 50)

structure LoginData where
  username : String
  password : String
  deriving DecidableEq, Repr

structure AccountData where
  customerId : String
  accountType : AccountType
  branchId : String
  deriving DecidableEq, Repr

structure BranchConditionsArgs where
  minEmployees : Option Int
  minAccounts : Option Int
  deriving DecidableEq, Repr

def BranchConditionsArgs.admitted (args : BranchConditionsArgs) : Bool :=
  args.minEmployees.all (0 ≤ ·) && args.minAccounts.all (0 ≤ ·)

structure TransferData where
  senderAccountId : String
  receiverAccountId : String
  amount : Int
  deriving DecidableEq, Repr

def TransferData.admitted (data : TransferData) : Bool := 0 < data.amount

structure TicketData where
  customerId : Option String
  employeeId : String
  issueDescription : String
  deriving DecidableEq, Repr

def TicketData.admitted (data : TicketData) : Bool := 1 ≤ data.issueDescription.length

/-! ## Decorators -/

def adminRequired {α : Type} (actor : Actor) (op : Service α) : Service α :=
  if actor.role = .admin then op else raise .forbidden "Administrator access required"

def arguments {α β : Type} (admitted : α → Bool) (body : Option α) (view : α → Service β) :
    Service β :=
  match body with
  | some data => if admitted data then view data else .raise (.http 422)
  | none => .raise (.http 422)

/-- `if not data: raise BadRequestError`. -/
def someFields {β : Type} (t : Table) (fields : Change t) (view : Service β) : Service β :=
  if fields.assigns t then view else raise .badRequest "No fields to update"

/-! ## Calls -/

inductive ApiCall where
  | health
  | ready
  | login (body : Option LoginData)
  | me
  | listUsers
  | createUser (body : Option UserData)
  | getUser (userId : String)
  | updateUser (userId : String) (body : Option UserFields)
  | deleteUser (userId : String)
  | listCustomers
  | createCustomer (body : Option CustomerData)
  | getCustomer (customerId : String)
  | updateCustomer (customerId : String) (body : Option CustomerFields)
  | deleteCustomer (customerId : String)
  | listAccounts
  | createAccount (body : Option AccountData)
  | getAccount (accountId : String)
  | deleteAccount (accountId : String)
  | setBalance (accountId : String) (body : Option Int)
  | listCards
  | createCard (body : Option CardData)
  | getCard (cardId : String)
  | deleteCard (cardId : String)
  | setCardStatus (cardId : String) (body : Option CardStatus)
  | listBranches
  | createBranch (body : Option BranchData)
  | branchConditions (args : Option BranchConditionsArgs)
  | getBranch (branchId : String)
  | updateBranch (branchId : String) (body : Option BranchFields)
  | deleteBranch (branchId : String)
  | listEmployees
  | createEmployee (body : Option EmployeeData)
  | getEmployee (employeeId : String)
  | updateEmployee (employeeId : String) (body : Option EmployeeFields)
  | deleteEmployee (employeeId : String)
  | listLoans
  | createLoan (body : Option LoanData)
  | getLoan (loanId : String)
  | deleteLoan (loanId : String)
  | setLoanStatus (loanId : String) (body : Option LoanStatus)
  | listLoanPayments
  | createLoanPayment (body : Option LoanPaymentData)
  | loanPaymentsByLoan (loanId : String)
  | getLoanPayment (loanPaymentId : String)
  | deleteLoanPayment (loanPaymentId : String)
  | listTransactions
  | getTransaction (transactionId : String)
  | deleteTransaction (transactionId : String)
  | accountTransactions (accountId : String)
  | transfer (body : Option TransferData)
  /-- The path has any text; this is one that is a decimal. -/
  | highValue (minimum : Decimal)
  | listCreditScores
  | createCreditScore (body : Option CreditScoreData)
  | getCreditScore (creditScoreId : String)
  | updateCreditScore (creditScoreId : String) (body : Option CreditScoreFields)
  | deleteCreditScore (creditScoreId : String)
  | listTickets
  | createTicket (body : Option TicketData)
  | topResolvers
  | getTicket (ticketId : String)
  | deleteTicket (ticketId : String)
  | setTicketStatus (ticketId : String) (body : Option TicketStatus)

def ApiCall.isRead : ApiCall → Bool
  | .health | .ready | .me | .listUsers | .getUser _ | .listCustomers | .getCustomer _
  | .listAccounts | .getAccount _ | .listCards | .getCard _ | .listBranches | .branchConditions _
  | .getBranch _ | .listEmployees | .getEmployee _ | .listLoans | .getLoan _ | .listLoanPayments
  | .loanPaymentsByLoan _ | .getLoanPayment _ | .listTransactions | .getTransaction _
  | .accountTransactions _ | .highValue _ | .listCreditScores | .getCreditScore _ | .listTickets
  | .topResolvers | .getTicket _ => true
  | _ => false

section
variable [Collation] [Werkzeug]

/-- `Tickets.post`: customers file for themselves. -/
def fileTicket (env : Env) (actor : Actor) (data : TicketData) : Service Response :=
  let customerId := if actor.role = .admin then data.customerId else actor.customerId
  match customerId with
  | none => raise .badRequest "A customer_id is required"
  | some customerId =>
      if customerId = "" then raise .badRequest "A customer_id is required"
      else (Operation.createTicket customerId data.employeeId data.issueDescription).serve env

variable [Marshmallow]

def ApiCall.serve (env : Env) (actor : Actor) : ApiCall → Service Response
  | .health => return .health
  | .ready => respond (fun _ => .health) (readOnly (Sql.done ()))
  | .login body => arguments (fun _ => true) body fun data =>
      respond .token (AuthService.authenticate data.username data.password)
  | .me => return .identity actor
  | .listUsers => adminRequired actor <| respond .users UserService.listAll
  | .createUser body => adminRequired actor <| arguments UserData.admitted body fun data =>
      (Operation.createUser data).serve env
  | .getUser userId => adminRequired actor <| respond (.user ∘ some) (UserService.get userId)
  | .updateUser userId body =>
      adminRequired actor <| arguments UserFields.admitted body fun fields =>
        someFields .user fields <| (Operation.updateUser userId fields).serve env
  | .deleteUser userId => adminRequired actor <| (Operation.deleteUser userId).serve env
  | .listCustomers => adminRequired actor <| respond (.rows .customer) CustomerService.listAll
  | .createCustomer body => adminRequired actor <| arguments CustomerData.admitted body fun data =>
      (Operation.createCustomer data).serve env
  | .getCustomer customerId =>
      respond (.row .customer ∘ some) (CustomerService.get customerId actor)
  | .updateCustomer customerId body => arguments CustomerFields.admitted body fun fields =>
      someFields .customer fields <|
        (Operation.updateCustomer customerId fields actor).serve env
  | .deleteCustomer customerId =>
      adminRequired actor <| (Operation.deleteCustomer customerId).serve env
  | .listAccounts => respond (.rows .account) (AccountService.listForActor actor)
  | .createAccount body => adminRequired actor <| arguments (fun _ => true) body fun data =>
      (Operation.createAccount data.customerId data.accountType data.branchId).serve env
  | .getAccount accountId => respond (.row .account ∘ some) (AccountService.get accountId actor)
  | .deleteAccount accountId =>
      adminRequired actor <| (Operation.deleteAccount accountId).serve env
  | .setBalance accountId body => adminRequired actor <| arguments (fun _ => true) body fun cents =>
      (Operation.setBalance accountId (Decimal.ofCents cents)).serve env
  | .listCards => adminRequired actor <| respond .cards CardService.listAll
  | .createCard body => adminRequired actor <| arguments CardData.admitted body fun data =>
      (Operation.createCard data).serve env
  | .getCard cardId => respond .card (CardService.get cardId actor)
  | .deleteCard cardId => adminRequired actor <| (Operation.deleteCard cardId).serve env
  | .setCardStatus cardId body => arguments (fun _ => true) body fun status =>
      (Operation.setCardStatus cardId status actor).serve env
  | .listBranches => adminRequired actor <| respond (.rows .branch) BranchService.listAll
  | .createBranch body => adminRequired actor <| arguments BranchData.admitted body fun data =>
      (Operation.createBranch data).serve env
  | .branchConditions args =>
      adminRequired actor <| arguments BranchConditionsArgs.admitted args fun args =>
        respond .conditions
          (BranchService.withConditions (args.minEmployees.getD 5) (args.minAccounts.getD 3))
  | .getBranch branchId =>
      adminRequired actor <| respond (.row .branch ∘ some) (BranchService.get branchId)
  | .updateBranch branchId body =>
      adminRequired actor <| arguments BranchFields.admitted body fun fields =>
        someFields .branch fields <| (Operation.updateBranch branchId fields).serve env
  | .deleteBranch branchId => adminRequired actor <| (Operation.deleteBranch branchId).serve env
  | .listEmployees => adminRequired actor <| respond (.rows .employee) EmployeeService.listAll
  | .createEmployee body => adminRequired actor <| arguments EmployeeData.admitted body fun data =>
      (Operation.createEmployee data).serve env
  | .getEmployee employeeId =>
      adminRequired actor <| respond (.row .employee ∘ some) (EmployeeService.get employeeId)
  | .updateEmployee employeeId body =>
      adminRequired actor <| arguments EmployeeFields.admitted body fun fields =>
        someFields .employee fields <| (Operation.updateEmployee employeeId fields).serve env
  | .deleteEmployee employeeId =>
      adminRequired actor <| (Operation.deleteEmployee employeeId).serve env
  | .listLoans => adminRequired actor <| respond (.rows .loan) LoanService.listAll
  | .createLoan body => adminRequired actor <| arguments LoanData.admitted body fun data =>
      (Operation.createLoan data).serve env
  | .getLoan loanId => respond (.row .loan ∘ some) (LoanService.get loanId actor)
  | .deleteLoan loanId => adminRequired actor <| (Operation.deleteLoan loanId).serve env
  | .setLoanStatus loanId body =>
      adminRequired actor <| arguments (fun _ => true) body fun status =>
        (Operation.setLoanStatus loanId status).serve env
  | .listLoanPayments =>
      adminRequired actor <| respond (.rows .loanPayment) LoanPaymentService.listAll
  | .createLoanPayment body =>
      adminRequired actor <| arguments LoanPaymentData.admitted body fun data =>
        (Operation.createLoanPayment data).serve env
  | .loanPaymentsByLoan loanId =>
      adminRequired actor <| respond (.rows .loanPayment) (LoanPaymentService.listByLoan loanId)
  | .getLoanPayment loanPaymentId =>
      adminRequired actor <|
        respond (.row .loanPayment ∘ some) (LoanPaymentService.get loanPaymentId)
  | .deleteLoanPayment loanPaymentId =>
      adminRequired actor <| (Operation.deleteLoanPayment loanPaymentId).serve env
  | .listTransactions =>
      adminRequired actor <| respond (.rows .transaction) TransactionService.listAll
  | .getTransaction transactionId =>
      respond (.row .transaction ∘ some) (TransactionService.get transactionId actor)
  | .deleteTransaction transactionId =>
      adminRequired actor <| (Operation.deleteTransaction transactionId).serve env
  | .accountTransactions accountId =>
      respond (.rows .transaction) (TransactionService.listByAccount accountId actor)
  | .transfer body => arguments TransferData.admitted body fun data =>
      (Operation.transfer actor data.senderAccountId data.receiverAccountId
        (Decimal.ofCents data.amount)).serve env
  | .highValue minimum =>
      adminRequired actor <| respond .highValue (TransactionService.highTransactions minimum)
  | .listCreditScores =>
      adminRequired actor <| respond (.rows .creditScore) CreditScoreService.listAll
  | .createCreditScore body =>
      adminRequired actor <| arguments CreditScoreData.admitted body fun data =>
        (Operation.createCreditScore data).serve env
  | .getCreditScore creditScoreId =>
      respond (.row .creditScore ∘ some) (CreditScoreService.get creditScoreId actor)
  | .updateCreditScore creditScoreId body =>
      adminRequired actor <| arguments CreditScoreFields.admitted body fun fields =>
        someFields .creditScore fields <|
          (Operation.updateCreditScore creditScoreId fields).serve env
  | .deleteCreditScore creditScoreId =>
      adminRequired actor <| (Operation.deleteCreditScore creditScoreId).serve env
  | .listTickets => adminRequired actor <| respond (.rows .customerSupport) SupportService.listAll
  | .createTicket body => arguments TicketData.admitted body fun data => fileTicket env actor data
  | .topResolvers => adminRequired actor <| respond .topResolvers SupportService.topResolvers
  | .getTicket ticketId =>
      respond (.row .customerSupport ∘ some) (SupportService.get ticketId actor)
  | .deleteTicket ticketId => adminRequired actor <| (Operation.deleteTicket ticketId).serve env
  | .setTicketStatus ticketId body =>
      adminRequired actor <| arguments (fun _ => true) body fun status =>
        (Operation.setTicketStatus ticketId status).serve env

end

end Corebank
