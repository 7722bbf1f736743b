import Corebank.Schema
import Corebank.Library.Keyed
import Mathlib.Logic.Function.Basic

/-!
# The database

A state of the database, the write statements the repositories issue, and what a server that
enforces the schema does with them.
-/

namespace Corebank
open Library

/-! ## Assignments of the UPDATE statements -/

structure CustomerFields where
  firstName : Option String
  lastName : Option String
  phoneNumber : Option String
  email : Option String
  addressLine1 : Option String
  addressLine2 : Option (Option String)
  city : Option String
  zipCode : Option String
  wageDeclaration : Option Int
  deriving DecidableEq, Repr

structure UserFields where
  username : Option String
  password : Option String
  role : Option Role
  customerId : Option (Option String)
  deriving DecidableEq, Repr

structure BranchFields where
  branchName : Option String
  addressLine1 : Option String
  addressLine2 : Option (Option String)
  city : Option String
  zipCode : Option String
  phoneNumber : Option String
  deriving DecidableEq, Repr

structure EmployeeFields where
  branchId : Option String
  firstName : Option String
  lastName : Option String
  position : Option String
  hireDate : Option DateTime
  phoneNumber : Option String
  email : Option String
  deriving DecidableEq, Repr

structure CreditScoreFields where
  score : Option Int
  riskCategory : Option String
  computedBySystem : Option Bool
  deriving DecidableEq, Repr

inductive AccountChange where
  | setBalance (balance : Int)
  | debit (amount : Int)
  | credit (amount : Int)
  deriving DecidableEq, Repr

structure TicketChange where
  status : TicketStatus
  resolvedDate : Option DateTime
  deriving DecidableEq, Repr

/-- The SET clauses that exist for a table; no statement updates a payment or a ledger row. -/
abbrev Change : Table → Type
  | .customer => CustomerFields
  | .user => UserFields
  | .branch => BranchFields
  | .account => AccountChange
  | .loan => LoanStatus
  | .loanPayment => Empty
  | .employee => EmployeeFields
  | .card => CardStatus
  | .transaction => Empty
  | .customerSupport => TicketChange
  | .creditScore => CreditScoreFields

/-- The SET clause of a dict without keys is empty, which is a syntax error. -/
def Change.assigns : (t : Table) → Change t → Bool
  | .customer, f => f != ⟨none, none, none, none, none, none, none, none, none⟩
  | .user, f => f != ⟨none, none, none, none⟩
  | .branch, f => f != ⟨none, none, none, none, none, none⟩
  | .employee, f => f != ⟨none, none, none, none, none, none, none⟩
  | .creditScore, f => f != ⟨none, none, none⟩
  | _, _ => true

/-- What the WHERE clause asks of a row besides its id. -/
def Change.selects : (t : Table) → Change t → Row t → Bool
  | .account, .debit amount, r => amount ≤ r.balance
  | _, _, _ => true

def Change.apply : (t : Table) → Change t → Row t → Row t
  | .customer, f, r => { r with
      firstName := f.firstName.getD r.firstName, lastName := f.lastName.getD r.lastName,
      phoneNumber := f.phoneNumber.getD r.phoneNumber, email := f.email.getD r.email,
      addressLine1 := f.addressLine1.getD r.addressLine1,
      addressLine2 := f.addressLine2.getD r.addressLine2, city := f.city.getD r.city,
      zipCode := f.zipCode.getD r.zipCode,
      wageDeclaration := f.wageDeclaration.elim r.wageDeclaration some }
  | .user, f, r => { r with
      username := f.username.getD r.username, password := f.password.getD r.password,
      role := f.role.getD r.role, customerId := f.customerId.getD r.customerId }
  | .branch, f, r => { r with
      branchName := f.branchName.getD r.branchName,
      addressLine1 := f.addressLine1.getD r.addressLine1,
      addressLine2 := f.addressLine2.getD r.addressLine2, city := f.city.getD r.city,
      zipCode := f.zipCode.getD r.zipCode, phoneNumber := f.phoneNumber.getD r.phoneNumber }
  | .account, .setBalance balance, r => { r with balance := balance }
  | .account, .debit amount, r => { r with balance := r.balance - amount }
  | .account, .credit amount, r => { r with balance := r.balance + amount }
  | .loan, status, r => { r with status := status }
  | .employee, f, r => { r with
      branchId := f.branchId.getD r.branchId, firstName := f.firstName.getD r.firstName,
      lastName := f.lastName.getD r.lastName, position := f.position.getD r.position,
      hireDate := f.hireDate.getD r.hireDate, phoneNumber := f.phoneNumber.getD r.phoneNumber,
      email := f.email.getD r.email }
  | .card, status, r => { r with status := status }
  | .customerSupport, c, r => { r with status := c.status, resolvedDate := c.resolvedDate }
  | .creditScore, f, r => { r with
      score := f.score.getD r.score, riskCategory := f.riskCategory.getD r.riskCategory,
      computedBySystem := f.computedBySystem.elim r.computedBySystem some }

@[simp] theorem rowId_apply (t : Table) (c : Change t) (r : Row t) :
    rowId t (c.apply t r) = rowId t r := by
  cases t <;> cases c <;> rfl

/-! ## States -/

abbrev Db := (t : Table) → List (Row t)

def Db.empty : Db := fun _ => []

def Db.set (db : Db) (t : Table) (rows : List (Row t)) : Db := Function.update db t rows

@[simp] theorem Db.set_same (db : Db) (t : Table) (rows : List (Row t)) :
    db.set t rows t = rows := by
  simp [Db.set]

@[simp] theorem Db.set_other (db : Db) {t t' : Table} (rows : List (Row t)) (ne : t' ≠ t) :
    db.set t rows t' = db t' := by
  simp [Db.set, ne]

section
variable [Collation]

def rowKey (t : Table) (r : Row t) : String := key (rowId t r)

@[simp] theorem rowKey_store (t : Table) (r : Row t) : rowKey t (store t r) = rowKey t r := by
  rw [rowKey, rowId_store, key_rstrip, rowKey]

@[simp] theorem rowKey_apply (t : Table) (c : Change t) (r : Row t) :
    rowKey t (c.apply t r) = rowKey t r := by
  rw [rowKey, rowId_apply, rowKey]

/-- The row of `t` that `id` denotes. -/
def Db.find (db : Db) (t : Table) (id : String) : Option (Row t) :=
  Keyed.lookup (rowKey t) (key id) (db t)

theorem Db.find_congr (db : Db) (t : Table) {id id' : String} (h : key id = key id') :
    db.find t id = db.find t id' := by
  rw [Db.find, h, Db.find]

/-! ## Constraints -/

def clashes (t : Table) (r other : Row t) : Bool :=
  rowKey t other = rowKey t r || (uniques t).any fun column => key (column other) = key (column r)

def missingReference (db : Db) (t : Table) (r : Row t) : Bool :=
  (foreignKeys t).any fun fk => (fk.column r).any fun id => (db.find fk.parent id).isNone

def verify (db : Db) (t : Table) (r : Row t) (others : List (Row t)) : Option DriverError :=
  if !checks t r then some (mysqlError 3819)
  else if others.any (clashes t r) then some (mysqlError 1062)
  else if missingReference db t r then some (mysqlError 1452)
  else none

def Db.others (db : Db) (t : Table) (r : Row t) : List (Row t) :=
  (db t).filter fun other => rowKey t other ≠ rowKey t r

def restricted (db : Db) (t : Table) (id : String) : Bool :=
  Table.all.any fun child => (foreignKeys child).any fun fk =>
    fk.parent = t && fk.onDelete.isNone &&
      (db child).any fun r => (fk.column r).any fun v => key v = key id

def nullify (t : Table) (id : String) (child : Table) (r : Row child) : Row child :=
  (foreignKeys child).foldl (fun r fk =>
    match fk.onDelete with
    | some clear =>
        if fk.parent = t && (fk.column r).any fun v => key v = key id then clear r else r
    | none => r) r

/-! ## Write statements -/

inductive Statement where
  | insert (t : Table) (row : Row t)
  | update (t : Table) (id : String) (change : Change t)
  | delete (t : Table) (id : String)

/-- The rows changed, as PyMySQL counts them, and the state after the statement. -/
def Statement.exec : Statement → Db → Except DriverError (Nat × Db)
  | .insert t row, db =>
      match misfit t row with
      | some e => .error e
      | none =>
          match verify db t (store t row) (db t) with
          | some e => .error e
          | none => .ok (1, db.set t (db t ++ [store t row]))
  | .update t id change, db =>
      if !change.assigns t then .error (mysqlError 1064)
      else
        match db.find t id with
        | none => .ok (0, db)
        | some r =>
            if !change.selects t r then .ok (0, db)
            else
              match misfit t (change.apply t r) with
              | some e => .error e
              | none =>
                  let r' := store t (change.apply t r)
                  if r' = r then .ok (0, db)
                  else
                    match verify db t r' (db.others t r') with
                    | some e => .error e
                    | none => .ok (1, db.set t (Keyed.replace (rowKey t) r' (db t)))
  | .delete t id, db =>
      match db.find t id with
      | none => .ok (0, db)
      | some _ =>
          if restricted db t id then .error (mysqlError 1451)
          else .ok (1, Db.set (fun child => (db child).map (nullify t id child)) t
            (Keyed.remove (rowKey t) (key id) (db t)))

end

end Corebank
