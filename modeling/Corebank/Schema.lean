import Corebank.Values
import Mathlib.Data.Fintype.Basic

/-!
# The eleven tables

`migrations/001_initial_schema.sql`: rows, column types, keys, references and CHECK constraints.
A row type serves both for the record a service builds and for the stored row; `store` is what
the column types do to the former.
-/

namespace Corebank

/-! ## Rows -/

inductive Role where
  | admin | user
  deriving DecidableEq, Repr

inductive AccountType where
  | checking | savings
  deriving DecidableEq, Repr

inductive LoanType where
  | home | auto | personal
  deriving DecidableEq, Repr

inductive LoanStatus where
  | active | paidOff | default
  deriving DecidableEq, Repr

inductive CardType where
  | debit | credit
  deriving DecidableEq, Repr

inductive CardStatus where
  | active | blocked | expired
  deriving DecidableEq, Repr

inductive TransactionType where
  | deposit | withdrawal | transfer
  deriving DecidableEq, Repr

inductive TicketStatus where
  | open | inProgress | resolved
  deriving DecidableEq, Repr

structure Customer where
  customerId : String
  firstName : String
  lastName : String
  dateOfBirth : Date
  phoneNumber : String
  email : String
  addressLine1 : String
  addressLine2 : Option String
  city : String
  zipCode : String
  wageDeclaration : Option Int
  deriving DecidableEq, Repr

structure User where
  userId : String
  username : String
  password : String
  role : Role
  customerId : Option String
  deriving DecidableEq, Repr

structure Branch where
  branchId : String
  branchName : String
  addressLine1 : String
  addressLine2 : Option String
  city : String
  zipCode : String
  phoneNumber : String
  deriving DecidableEq, Repr

structure Account where
  accountId : String
  customerId : String
  accountType : AccountType
  balance : Int
  creationDate : DateTime
  branchId : String
  deriving DecidableEq, Repr

structure Loan where
  loanId : String
  customerId : String
  loanType : LoanType
  principalAmount : Int
  interestRate : Int
  startDate : Date
  endDate : Date
  status : LoanStatus
  deriving DecidableEq, Repr

structure LoanPayment where
  loanPaymentId : String
  loanId : String
  paymentDate : DateTime
  paymentAmount : Int
  remainingBalance : Option Int
  deriving DecidableEq, Repr

structure Employee where
  employeeId : String
  branchId : String
  firstName : String
  lastName : String
  position : String
  hireDate : DateTime
  phoneNumber : String
  email : String
  deriving DecidableEq, Repr

structure Card where
  cardId : String
  accountId : String
  cardType : CardType
  cardNumber : String
  expirationDate : Date
  cvv : String
  status : CardStatus
  deriving DecidableEq, Repr

structure Transaction where
  transactionId : String
  fromAccountId : String
  toAccountId : Option String
  transactionType : TransactionType
  amount : Int
  transactionTimestamp : DateTime
  deriving DecidableEq, Repr

structure Ticket where
  ticketId : String
  customerId : String
  employeeId : String
  issueDescription : String
  status : TicketStatus
  createdDate : DateTime
  resolvedDate : Option DateTime
  deriving DecidableEq, Repr

structure CreditScore where
  creditScoreId : String
  customerId : String
  score : Int
  riskCategory : String
  computedBySystem : Option Bool
  deriving DecidableEq, Repr

inductive Table where
  | customer | user | branch | account | loan | loanPayment | employee | card | transaction
  | customerSupport | creditScore
  deriving DecidableEq, Repr

def Table.all : List Table :=
  [.customer, .user, .branch, .account, .loan, .loanPayment, .employee, .card, .transaction,
    .customerSupport, .creditScore]

theorem Table.mem_all (t : Table) : t ∈ Table.all := by cases t <;> decide

abbrev Row : Table → Type
  | .customer => Customer
  | .user => User
  | .branch => Branch
  | .account => Account
  | .loan => Loan
  | .loanPayment => LoanPayment
  | .employee => Employee
  | .card => Card
  | .transaction => Transaction
  | .customerSupport => Ticket
  | .creditScore => CreditScore

instance : (t : Table) → DecidableEq (Row t)
  | .customer => inferInstanceAs (DecidableEq Customer)
  | .user => inferInstanceAs (DecidableEq User)
  | .branch => inferInstanceAs (DecidableEq Branch)
  | .account => inferInstanceAs (DecidableEq Account)
  | .loan => inferInstanceAs (DecidableEq Loan)
  | .loanPayment => inferInstanceAs (DecidableEq LoanPayment)
  | .employee => inferInstanceAs (DecidableEq Employee)
  | .card => inferInstanceAs (DecidableEq Card)
  | .transaction => inferInstanceAs (DecidableEq Transaction)
  | .customerSupport => inferInstanceAs (DecidableEq Ticket)
  | .creditScore => inferInstanceAs (DecidableEq CreditScore)

def rowId : (t : Table) → Row t → String
  | .customer, r => r.customerId
  | .user, r => r.userId
  | .branch, r => r.branchId
  | .account, r => r.accountId
  | .loan, r => r.loanId
  | .loanPayment, r => r.loanPaymentId
  | .employee, r => r.employeeId
  | .card, r => r.cardId
  | .transaction, r => r.transactionId
  | .customerSupport, r => r.ticketId
  | .creditScore, r => r.creditScoreId

/-! ## Column types

Each column type has what it stores and, in strict mode, the error for a value it cannot hold. -/

def varchar (n : Nat) (s : String) : String := String.ofList (s.toList.take n)

/-- The characters from the start that have at most `n` bytes together. -/
def takeBytes : Nat → List Char → List Char
  | _, [] => []
  | n, c :: cs => if c.utf8Size ≤ n then c :: takeBytes (n - c.utf8Size) cs else []

/-- A `TEXT` holds 65535 bytes. -/
def text (s : String) : String := String.ofList (takeBytes 65535 s.toList)

def dateTime (d : DateTime) : DateTime := ⟨(d.micros + 500000) / 1000000 * 1000000, none⟩

def charMisfit (n : Nat) (s : String) : Option DriverError :=
  if (rstrip s).length ≤ n then none else some (mysqlError 1406)

/-- Only spaces may be cut off a `VARCHAR` or a `TEXT`. -/
def varcharMisfit (n : Nat) (s : String) : Option DriverError :=
  if (s.toList.drop n).all (· = ' ') then none else some (mysqlError 1406)

def textMisfit (s : String) : Option DriverError :=
  if (s.toList.drop (text s).length).all (· = ' ') then none else some (mysqlError 1406)

def decimalMisfit (digits : Nat) (c : Int) : Option DriverError :=
  if c.natAbs < 10 ^ digits then none else some (mysqlError 1264)

def dateTimeMisfit (d : DateTime) : Option DriverError :=
  if (dateTime d).micros ≤ lastSecond * 1000000 then none else some (mysqlError 1292)

theorem decimalMisfit_eq_none {digits : Nat} {c : Int} :
    decimalMisfit digits c = none ↔ c.natAbs < 10 ^ digits := by
  unfold decimalMisfit
  split <;> simp_all

theorem charMisfit_rstrip (n : Nat) (s : String) : charMisfit n (rstrip s) = charMisfit n s := by
  simp [charMisfit, rstrip_idem]

theorem varchar_idem (n : Nat) (s : String) : varchar n (varchar n s) = varchar n s := by
  simp [varchar, List.take_take]

theorem varcharMisfit_varchar (n : Nat) (s : String) : varcharMisfit n (varchar n s) = none := by
  simp [varcharMisfit, varchar]

theorem takeBytes_idem (n : Nat) (cs : List Char) : takeBytes n (takeBytes n cs) = takeBytes n cs := by
  induction cs generalizing n with
  | nil => rfl
  | cons c cs ih =>
      simp only [takeBytes]
      split
      · rename_i fits
        rw [takeBytes, if_pos fits, ih]
      · rfl

theorem text_idem (s : String) : text (text s) = text s := by
  simp [text, takeBytes_idem]

theorem textMisfit_text (s : String) : textMisfit (text s) = none := by
  rw [textMisfit, text_idem, ← String.length_toList, List.drop_length]
  rfl

theorem dateTime_idem (d : DateTime) : dateTime (dateTime d) = dateTime d := by
  simp only [dateTime, DateTime.mk.injEq, and_true]
  omega

theorem dateTime_mono {d d' : DateTime} (le : d.micros ≤ d'.micros) :
    (dateTime d).micros ≤ (dateTime d').micros := by
  simp only [dateTime]
  omega

theorem dateTimeMisfit_dateTime (d : DateTime) :
    dateTimeMisfit (dateTime d) = dateTimeMisfit d := by
  simp only [dateTimeMisfit, dateTime_idem]

def misfit : (t : Table) → Row t → Option DriverError
  | .customer, r => [charMisfit 36 r.customerId, varcharMisfit 100 r.firstName,
      varcharMisfit 100 r.lastName, varcharMisfit 15 r.phoneNumber, varcharMisfit 255 r.email,
      varcharMisfit 255 r.addressLine1, r.addressLine2.bind (varcharMisfit 255),
      varcharMisfit 100 r.city, varcharMisfit 20 r.zipCode,
      r.wageDeclaration.bind (decimalMisfit 15)].findSome? id
  | .user, r => [charMisfit 36 r.userId, varcharMisfit 100 r.username,
      varcharMisfit 255 r.password, r.customerId.bind (charMisfit 36)].findSome? id
  | .branch, r => [charMisfit 36 r.branchId, varcharMisfit 100 r.branchName,
      varcharMisfit 100 r.addressLine1, r.addressLine2.bind (varcharMisfit 100),
      varcharMisfit 100 r.city, varcharMisfit 20 r.zipCode,
      varcharMisfit 15 r.phoneNumber].findSome? id
  | .account, r => [charMisfit 36 r.accountId, charMisfit 36 r.customerId,
      decimalMisfit 15 r.balance, dateTimeMisfit r.creationDate,
      charMisfit 36 r.branchId].findSome? id
  | .loan, r => [charMisfit 36 r.loanId, charMisfit 36 r.customerId,
      decimalMisfit 15 r.principalAmount, decimalMisfit 5 r.interestRate].findSome? id
  | .loanPayment, r => [charMisfit 36 r.loanPaymentId, charMisfit 36 r.loanId,
      dateTimeMisfit r.paymentDate, decimalMisfit 15 r.paymentAmount,
      r.remainingBalance.bind (decimalMisfit 15)].findSome? id
  | .employee, r => [charMisfit 36 r.employeeId, charMisfit 36 r.branchId,
      varcharMisfit 100 r.firstName, varcharMisfit 100 r.lastName, varcharMisfit 100 r.position,
      dateTimeMisfit r.hireDate, varcharMisfit 15 r.phoneNumber,
      varcharMisfit 255 r.email].findSome? id
  | .card, r => [charMisfit 36 r.cardId, charMisfit 36 r.accountId,
      varcharMisfit 16 r.cardNumber, varcharMisfit 3 r.cvv].findSome? id
  | .transaction, r => [charMisfit 36 r.transactionId, charMisfit 36 r.fromAccountId,
      r.toAccountId.bind (charMisfit 36), decimalMisfit 15 r.amount,
      dateTimeMisfit r.transactionTimestamp].findSome? id
  | .customerSupport, r => [charMisfit 36 r.ticketId, charMisfit 36 r.customerId,
      charMisfit 36 r.employeeId, textMisfit r.issueDescription, dateTimeMisfit r.createdDate,
      r.resolvedDate.bind dateTimeMisfit].findSome? id
  | .creditScore, r => [charMisfit 36 r.creditScoreId, charMisfit 36 r.customerId,
      decimalMisfit 5 r.score, varcharMisfit 50 r.riskCategory].findSome? id

/-- The row the columns keep of a record that fits them. -/
def store : (t : Table) → Row t → Row t
  | .customer, r => { r with
      customerId := rstrip r.customerId, firstName := varchar 100 r.firstName,
      lastName := varchar 100 r.lastName, phoneNumber := varchar 15 r.phoneNumber,
      email := varchar 255 r.email, addressLine1 := varchar 255 r.addressLine1,
      addressLine2 := r.addressLine2.map (varchar 255), city := varchar 100 r.city,
      zipCode := varchar 20 r.zipCode }
  | .user, r => { r with
      userId := rstrip r.userId, username := varchar 100 r.username,
      password := varchar 255 r.password, customerId := r.customerId.map rstrip }
  | .branch, r => { r with
      branchId := rstrip r.branchId, branchName := varchar 100 r.branchName,
      addressLine1 := varchar 100 r.addressLine1,
      addressLine2 := r.addressLine2.map (varchar 100), city := varchar 100 r.city,
      zipCode := varchar 20 r.zipCode, phoneNumber := varchar 15 r.phoneNumber }
  | .account, r => { r with
      accountId := rstrip r.accountId, customerId := rstrip r.customerId,
      creationDate := dateTime r.creationDate, branchId := rstrip r.branchId }
  | .loan, r => { r with loanId := rstrip r.loanId, customerId := rstrip r.customerId }
  | .loanPayment, r => { r with
      loanPaymentId := rstrip r.loanPaymentId, loanId := rstrip r.loanId,
      paymentDate := dateTime r.paymentDate }
  | .employee, r => { r with
      employeeId := rstrip r.employeeId, branchId := rstrip r.branchId,
      firstName := varchar 100 r.firstName, lastName := varchar 100 r.lastName,
      position := varchar 100 r.position, hireDate := dateTime r.hireDate,
      phoneNumber := varchar 15 r.phoneNumber, email := varchar 255 r.email }
  | .card, r => { r with
      cardId := rstrip r.cardId, accountId := rstrip r.accountId,
      cardNumber := varchar 16 r.cardNumber, cvv := varchar 3 r.cvv }
  | .transaction, r => { r with
      transactionId := rstrip r.transactionId, fromAccountId := rstrip r.fromAccountId,
      toAccountId := r.toAccountId.map rstrip,
      transactionTimestamp := dateTime r.transactionTimestamp }
  | .customerSupport, r => { r with
      ticketId := rstrip r.ticketId, customerId := rstrip r.customerId,
      employeeId := rstrip r.employeeId, issueDescription := text r.issueDescription,
      createdDate := dateTime r.createdDate, resolvedDate := r.resolvedDate.map dateTime }
  | .creditScore, r => { r with
      creditScoreId := rstrip r.creditScoreId, customerId := rstrip r.customerId,
      riskCategory := varchar 50 r.riskCategory }

@[simp] theorem rowId_store (t : Table) (r : Row t) : rowId t (store t r) = rstrip (rowId t r) := by
  cases t <;> rfl

theorem store_idem (t : Table) (r : Row t) : store t (store t r) = store t r := by
  cases t <;>
    simp [store, rstrip_idem, varchar_idem, text_idem, dateTime_idem, Option.map_map, Function.comp_def]

theorem misfit_store (t : Table) (r : Row t) (fits : misfit t r = none) :
    misfit t (store t r) = none := by
  have char_bind (n : Nat) (o : Option String) :
      (o.map rstrip).bind (charMisfit n) = o.bind (charMisfit n) := by
    cases o <;> simp [charMisfit_rstrip]
  have varchar_bind (n : Nat) (o : Option String) :
      (o.map (varchar n)).bind (varcharMisfit n) = none := by
    cases o <;> simp [varcharMisfit_varchar]
  have dateTime_bind (o : Option DateTime) :
      (o.map dateTime).bind dateTimeMisfit = o.bind dateTimeMisfit := by
    cases o <;> simp [dateTimeMisfit_dateTime]
  cases t <;>
    simp only [misfit, store, List.findSome?_eq_none_iff, List.forall_mem_cons, id_eq,
      charMisfit_rstrip, varcharMisfit_varchar, textMisfit_text, dateTimeMisfit_dateTime, char_bind,
      varchar_bind, dateTime_bind] at fits ⊢ <;>
    simp_all

/-! ## Constraints -/

/-- The `CHECK` constraints. A comparison with NULL does not fail one. -/
def checks : (t : Table) → Row t → Bool
  | .account, r => 0 ≤ r.balance
  | .loan, r => 0 < r.principalAmount && 0 ≤ r.interestRate && r.startDate < r.endDate
  | .loanPayment, r => 0 < r.paymentAmount && r.remainingBalance.all (0 ≤ ·)
  | .transaction, r => 0 < r.amount
  | _, _ => true

def uniques : (t : Table) → List (Row t → String)
  | .customer => [Customer.phoneNumber, Customer.email]
  | .user => [User.username]
  | .branch => [Branch.branchName, Branch.phoneNumber]
  | .employee => [Employee.email]
  | .card => [Card.cardNumber]
  | _ => []

/-- A foreign key of table `t`. `onDelete` is what happens to a row whose parent is deleted:
RESTRICT, or SET NULL with the row it leaves. -/
structure ForeignKey (t : Table) where
  column : Row t → Option String
  parent : Table
  onDelete : Option (Row t → Row t)

def foreignKeys : (t : Table) → List (ForeignKey t)
  | .customer => []
  | .user => [⟨User.customerId, .customer, none⟩]
  | .branch => []
  | .account => [⟨fun r => some r.customerId, .customer, none⟩,
      ⟨fun r => some r.branchId, .branch, none⟩]
  | .loan => [⟨fun r => some r.customerId, .customer, none⟩]
  | .loanPayment => [⟨fun r => some r.loanId, .loan, none⟩]
  | .employee => [⟨fun r => some r.branchId, .branch, none⟩]
  | .card => [⟨fun r => some r.accountId, .account, none⟩]
  | .transaction => [⟨fun r => some r.fromAccountId, .account, none⟩,
      ⟨Transaction.toAccountId, .account, some fun r => { r with toAccountId := none }⟩]
  | .customerSupport => [⟨fun r => some r.customerId, .customer, none⟩,
      ⟨fun r => some r.employeeId, .employee, none⟩]
  | .creditScore => [⟨fun r => some r.customerId, .customer, none⟩]

end Corebank
