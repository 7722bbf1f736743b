import Corebank.Operations
import Corebank.Library.Snapshot

/-!
# Calls on cards and tickets that run at the same time

The blocks of `set_status`, `create` and `delete` as programs over the rows of one table. The other
tables stand still meanwhile.
-/

namespace Corebank
open Library Library.Snapshot

section
variable [Collation]

def refusedBy (e : DriverError) : Exn := integrityGuard (.driver e)

/-- An INSERT, told whether its id is taken. -/
def admitRow (db : Db) (t : Table) (row : Row t) (taken : Bool) : Except Exn (Row t) :=
  match misfit t row with
  | some e => .error (refusedBy e)
  | none =>
      if !checks t (store t row) then .error (refusedBy (mysqlError 3819))
      else if taken then .error (refusedBy (mysqlError 1062))
      else if missingReference db t (store t row) then .error (refusedBy (mysqlError 1452))
      else .ok (store t row)

/-- An UPDATE of a row that touches no unique column and no reference. -/
def changeRow (t : Table) (change : Change t) (r : Row t) : Except Exn (Option (Row t)) :=
  match misfit t (change.apply t r) with
  | some e => .error (refusedBy e)
  | none =>
      let r' := store t (change.apply t r)
      if r' = r then .ok none
      else if !checks t r' then .error (refusedBy (mysqlError 3819))
      else .ok (some r')

theorem admitRow_ok {db : Db} {t : Table} {row r : Row t} {taken : Bool}
    (h : admitRow db t row taken = .ok r) :
    misfit t row = none ∧ taken = false ∧ missingReference db t r = false ∧ r = store t row := by
  unfold admitRow at h
  split at h
  · cases h
  split at h
  · cases h
  split at h
  · cases h
  split at h
  · cases h
  · rename_i fits _ free present
    cases h
    exact ⟨fits, eq_false_of_ne_true free, eq_false_of_ne_true present, rfl⟩

omit [Collation] in
theorem changeRow_ok {t : Table} {change : Change t} {r : Row t} {result : Option (Row t)}
    (h : changeRow t change r = .ok result) :
    result = none ∧ store t (change.apply t r) = r ∨
      result = some (store t (change.apply t r)) := by
  unfold changeRow at h
  split at h
  · cases h
  dsimp only at h
  split at h
  · rename_i unchanged
    cases h
    exact Or.inl ⟨rfl, unchanged⟩
  split at h
  · cases h
  · cases h
    exact Or.inr rfl

theorem changeRow_key {t : Table} {change : Change t} {r r' : Row t}
    (h : changeRow t change r = .ok (some r')) : rowKey t r' = rowKey t r := by
  rcases changeRow_ok h with ⟨none, -⟩ | changed
  · cases none
  · cases changed
    rw [rowKey_store, rowKey_apply]

def rowSchema (t : Table) (db : Db) : Snapshot.Schema String (Row t) (Row t) (Change t) Exn where
  key := rowKey t
  newKey := rowKey t
  insert := admitRow db t
  update := changeRow t
  key_insert h := by
    rw [(admitRow_ok h).2.2.2, rowKey_store]
  key_update := changeRow_key

@[simp] theorem rowSchema_key (t : Table) (db : Db) : (rowSchema t db).key = rowKey t := rfl

@[simp] theorem rowSchema_insert (t : Table) (db : Db) : (rowSchema t db).insert = admitRow db t := rfl

@[simp] theorem rowSchema_update (t : Table) (db : Db) : (rowSchema t db).update = changeRow t := rfl

abbrev RowProg (t : Table) := Snapshot.Prog String (Row t) (Row t) (Change t) Exn Response

abbrev RowMachine (ι : Type) (t : Table) :=
  Snapshot.Machine ι String (Row t) (Row t) (Change t) Exn Response

/-! ## The shared shapes -/

def insertSteps (t : Table) (record : Row t) : RowProg t :=
  .execute (.insert record) fun _ => .done (.row t (some record))

def updateSteps (t : Table) (id : String) (change : Change t) (missing : String) : RowProg t :=
  .execute (.update (key id) change) fun changed =>
    if changed = 0 then .raise (.app .notFound missing)
    else .select fun rows => .done (.row t (Keyed.lookup (rowKey t) (key id) rows))

def deleteSteps (t : Table) (id missing : String) : RowProg t :=
  .execute (.delete (key id)) fun deleted =>
    if deleted = 0 then .raise (.app .notFound missing) else .done .empty

/-! ## Cards -/

def showCard (cardId : String) : RowProg .card :=
  .select fun cards =>
    .done (.card ((Keyed.lookup (rowKey .card) (key cardId) cards).map Card.safeColumns))

def cardStatusSteps (db : Db) (cardId : String) (status : CardStatus) (actor : Actor) :
    RowProg .card :=
  .select fun cards =>
    match (CardService.ensureOwned cardId actor).run (db.set .card cards) with
    | .error e => .raise e
    -- the number of rows changed is dropped
    | .ok _ => .execute (.update (key cardId) status) fun _ => showCard cardId

inductive CardCall where
  | setStatus (cardId : String) (status : CardStatus) (actor : Actor)
  | delete (cardId : String)

def CardCall.steps (db : Db) : CardCall → RowProg .card
  | .setStatus cardId status actor => cardStatusSteps db cardId status actor
  | .delete cardId => deleteSteps .card cardId "Card not found"

def CardCall.operation : CardCall → Operation
  | .setStatus cardId status actor => .setCardStatus cardId status actor
  | .delete cardId => .deleteCard cardId

/-! ## Tickets -/

inductive TicketCall where
  | create (customerId employeeId issueDescription : String)
  | setStatus (ticketId : String) (status : TicketStatus)
  | delete (ticketId : String)

/-- The clock is read before the block begins. -/
def TicketCall.steps (env : Env) : TicketCall → RowProg .customerSupport
  | .create customerId employeeId issueDescription =>
      insertSteps .customerSupport
        (SupportService.record env customerId employeeId issueDescription)
  | .setStatus ticketId status =>
      updateSteps .customerSupport ticketId
        ⟨status, if status = .resolved then some env.utcnow else none⟩ "Ticket not found"
  | .delete ticketId => deleteSteps .customerSupport ticketId "Ticket not found"

def TicketCall.operation : TicketCall → Operation
  | .create customerId employeeId issueDescription =>
      .createTicket customerId employeeId issueDescription
  | .setStatus ticketId status => .setTicketStatus ticketId status
  | .delete ticketId => .deleteTicket ticketId

end

end Corebank
