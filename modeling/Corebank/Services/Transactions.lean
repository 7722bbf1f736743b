import Corebank.Services.Helpers

/-! # The money-transfer flow -/

namespace Corebank

variable [Collation]

namespace TransactionService

def ledgerRecord (env : Env) (senderId receiverId : String) (amount : Int) : Transaction :=
  { transactionId := env.newId, fromAccountId := senderId, toAccountId := some receiverId,
    transactionType := .transfer, amount := amount, transactionTimestamp := env.utcnow }

/-- The statements after both rows are locked and the sender's owner is checked. -/
def move (env : Env) (senderId receiverId : String) (amount : Int) : Sql Transaction := do
  let debited ← Accounts.debit senderId amount
  if debited ≠ 1 then Sql.throw .businessRule "Insufficient funds"
  else
    let _ ← Accounts.credit receiverId amount
    let record := ledgerRecord env senderId receiverId amount
    Transactions.insert record
    return record

def authorize (actor : Actor) (sender receiver : Option Account) : Except Exn Unit :=
  match sender, receiver with
  | none, _ => .error (.app .notFound "Sender account not found")
  | some _, none => .error (.app .notFound "Receiver account not found")
  | some sender, some _ =>
      if actor.role ≠ .admin ∧ actor.customerId ≠ some sender.customerId then
        .error (.app .forbidden "You may only transfer from your own account")
      else .ok ()

def transferBody (env : Env) (actor : Actor) (senderId receiverId : String) (amount : Int) :
    Sql Transaction := do
  let first := if senderId ≤ receiverId then senderId else receiverId
  let second := if senderId ≤ receiverId then receiverId else senderId
  let lockedFirst ← Accounts.lock first
  let lockedSecond ← Accounts.lock second
  -- the dict of locked rows is keyed by the ids as the request spells them
  let sender := if senderId = first then lockedFirst else lockedSecond
  let receiver := if receiverId = first then lockedFirst else lockedSecond
  Sql.ofExcept (authorize actor sender receiver)
  move env senderId receiverId amount

def transfer (env : Env) (actor : Actor) (senderId receiverId : String) (amount : Decimal) :
    Service Transaction := do
  let amount ← Service.ofExcept (quantize amount)
  if amount ≤ 0 then raise .businessRule "Transfer amount must be greater than zero"
  else if senderId = receiverId then
    raise .businessRule "Sender and receiver accounts must differ"
  else unitOfWork (transferBody env actor senderId receiverId amount)

def listAll : Service (List Transaction) := listRows Transactions.listAll

/-- `_ensure_actor_sees_transaction`; the loop stops at the first account of the actor. -/
def ensureActorSees (actor : Actor) : List (Option String) → Sql Unit
  | [] => Sql.throw .forbidden "You do not have access to this transaction"
  | none :: rest => ensureActorSees actor rest
  | some accountId :: rest =>
      if accountId = "" then ensureActorSees actor rest
      else do
        let account ← Accounts.get accountId
        if account.any fun a => some a.customerId = actor.customerId then return ()
        else ensureActorSees actor rest

def get (transactionId : String) (actor : Actor) : Service Transaction :=
  readOnly do
    match ← Transactions.get transactionId with
    | none => Sql.throw .notFound "Transaction not found"
    | some txn =>
        if actor.role = .admin then return txn
        else
          ensureActorSees actor [some txn.fromAccountId, txn.toAccountId]
          return txn

def listByAccount (accountId : String) (actor : Actor) : Service (List Transaction) :=
  readOnly do
    match ← Accounts.get accountId with
    | none => Sql.throw .notFound "Account not found"
    | some account =>
        Sql.ofExcept (ensureOwnerOrAdmin actor (some account.customerId))
        Transactions.listByAccount accountId

def delete (transactionId : String) : Service Unit :=
  deleteOrMissing unitOfWork (Transactions.delete transactionId) "Transaction not found"

def highTransactions (minimum : Decimal) : Service (List HighValue) :=
  readOnly (Transactions.customersWithHighTransactions minimum)

end TransactionService

end Corebank
