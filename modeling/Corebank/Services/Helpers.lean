import Corebank.Repositories

namespace Corebank

structure Actor where
  userId : String
  role : Role
  customerId : Option String
  deriving DecidableEq, Repr

def ensureOwnerOrAdmin (actor : Actor) (customerId : Option String) : Except Exn Unit :=
  if actor.role = .admin then .ok ()
  -- `not customer_id` also holds of the empty string
  else if customerId = none ∨ customerId = some "" ∨ actor.customerId ≠ customerId then
    .error (.app .forbidden "You do not have access to this resource")
  else .ok ()

theorem ensureOwnerOrAdmin_ok {actor : Actor} {customerId : Option String}
    (h : ensureOwnerOrAdmin actor customerId = .ok ()) :
    actor.role = .admin ∨ actor.customerId = customerId := by
  unfold ensureOwnerOrAdmin at h
  split at h
  · exact Or.inl ‹_›
  · split at h
    · cases h
    · exact Or.inr (by tauto)

variable [Collation]

/-! ## The shapes the resource services share -/

def createRow (t : Table) (record : Row t) : Service (Row t) := do
  guarded (insertRow t record)
  return record

def listRows {β : Type} (list : Sql (List β)) : Service (List β) := readOnly list

def fetchRow {β : Type} (get : Sql (Option β)) (missing : String) : Service β := do
  match ← readOnly get with
  | none => raise .notFound missing
  | some row => return row

def fetchOwned {β : Type} (get : Sql (Option β)) (missing : String) (owner : β → String)
    (actor : Actor) : Service β := do
  let row ← fetchRow get missing
  Service.ofExcept (ensureOwnerOrAdmin actor (some (owner row)))
  return row

def updateThenGet {β : Type} (update : Sql Nat) (get : Sql (Option β)) (missing : String) :
    Service (Option β) :=
  guarded do
    let changed ← update
    if changed = 0 then Sql.throw .notFound missing else get

def deleteOrMissing (block : Sql Unit → Service Unit) (delete : Sql Nat) (missing : String) :
    Service Unit :=
  block do
    let deleted ← delete
    if deleted = 0 then Sql.throw .notFound missing else return ()

end Corebank
