import Corebank.Operations
import Corebank.Library.TwoPhase

/-!
# Calls that run at the same time

The blocks of `transfer`, `set_balance` and the reads as programs over the account rows and the
ledger, with a row lock for each `SELECT ... FOR UPDATE` and each UPDATE.
-/

namespace Corebank
open Library Library.TwoPhase TransactionService

section
variable [Collation]

/-- An UPDATE of one account row: `none` when the row is not selected or not changed. -/
def updateAccount (change : AccountChange) (r : Account) : Except Exn (Option Account) :=
  if !Change.selects .account change r then .ok none
  else
    match misfit .account (Change.apply .account change r) with
    | some e => .error (.driver e)
    | none =>
        let r' := store .account (Change.apply .account change r)
        if r' = r then .ok none
        else if !checks .account r' then .error (.driver (mysqlError 3819))
        else .ok (some r')

omit [Collation] in
theorem updateAccount_ok {change : AccountChange} {r r' : Account}
    (h : updateAccount change r = .ok (some r')) :
    r' = store .account (Change.apply .account change r) ∧ checks .account r' = true := by
  unfold updateAccount at h
  split at h
  · cases h
  split at h
  · cases h
  simp only at h
  split at h
  · cases h
  split at h
  · cases h
  · rename_i checked
    cases h
    refine ⟨rfl, ?_⟩
    cases passes : checks .account (store .account (Change.apply .account change r)) with
    | true => rfl
    | false => exact absurd (by rw [passes]; rfl) checked

def accountSchema : TwoPhase.Schema String Account AccountChange Exn where
  key := rowKey .account
  apply := updateAccount
  key_apply h := by
    rw [(updateAccount_ok h).1, rowKey_store, rowKey_apply]

abbrev AccountProg := Prog String Account AccountChange Transaction Exn Response

abbrev AccountJob := Job String Account AccountChange Transaction Exn Response

abbrev Bank (ι : Type) := Machine ι String Account AccountChange Transaction Exn Response

def Db.accounts (db : Db) : Store Account Transaction := ⟨db .account, db .transaction⟩

/-! ## Transfers -/

/-- The ids of ledger rows are fresh, so the INSERT is refused for its values or not at all. -/
def ledgerSteps (record : Transaction) : AccountProg :=
  match misfit .transaction record with
  | some e => .raise (.driver e)
  | none => .append (store .transaction record) (.done (.row .transaction (some record)))

def moveSteps (env : Env) (senderId receiverId : String) (amount : Int) : AccountProg :=
  .update (key senderId) (.debit amount) fun debited =>
    if debited ≠ 1 then .raise (.app .businessRule "Insufficient funds")
    else .update (key receiverId) (.credit amount) fun _ =>
      ledgerSteps (ledgerRecord env senderId receiverId amount)

def transferSteps (env : Env) (actor : Actor) (senderId receiverId : String) (amount : Int) :
    AccountProg :=
  let first := if senderId ≤ receiverId then senderId else receiverId
  let second := if senderId ≤ receiverId then receiverId else senderId
  .lock (key first) fun lockedFirst => .lock (key second) fun lockedSecond =>
    let sender := if senderId = first then lockedFirst else lockedSecond
    let receiver := if receiverId = first then lockedFirst else lockedSecond
    match authorize actor sender receiver with
    | .error e => .raise e
    | .ok () => moveSteps env senderId receiverId amount

def transferJob (env : Env) (actor : Actor) (senderId receiverId : String) (amount : Decimal) :
    AccountJob :=
  match quantize amount with
  | .error e => .refused e
  | .ok amount =>
      if amount ≤ 0 then
        .refused (.app .businessRule "Transfer amount must be greater than zero")
      else if senderId = receiverId then
        .refused (.app .businessRule "Sender and receiver accounts must differ")
      else .block .unitOfWork (transferSteps env actor senderId receiverId amount)

structure TransferCall where
  actor : Actor
  senderId : String
  receiverId : String
  amount : Decimal
  env : Env

def TransferCall.request (call : TransferCall) : Operation × Env :=
  (.transfer call.actor call.senderId call.receiverId call.amount, call.env)

def TransferCall.job (call : TransferCall) : AccountJob :=
  transferJob call.env call.actor call.senderId call.receiverId call.amount

/-! ## Other calls -/

def setBalanceJob (accountId : String) (balance : Decimal) : AccountJob :=
  match quantize balance with
  | .error e => .refused e
  | .ok balance =>
      .block .unitOfWork <| .update (key accountId) (.setBalance balance) fun changed =>
        if changed = 0 then .raise (.app .notFound "Account not found")
        else .select fun s =>
          .done (.row .account (Keyed.lookup (rowKey .account) (key accountId) s.rows))

def readsOnly : AccountProg → Prop
  | .done _ | .raise _ => True
  | .select next => ∀ s, readsOnly (next s)
  | _ => False

inductive Call where
  | transfer (actor : Actor) (senderId receiverId : String) (amount : Decimal)
  | setBalance (accountId : String) (balance : Decimal)
  | readOnly (body : { body : AccountProg // readsOnly body })

def Call.job (env : Env) : Call → AccountJob
  | .transfer actor senderId receiverId amount => transferJob env actor senderId receiverId amount
  | .setBalance accountId balance => setBalanceJob accountId balance
  | .readOnly body => .block .readOnly body.val

def Call.ids : Call → List String
  | .transfer _ senderId receiverId _ => [senderId, receiverId]
  | .setBalance accountId _ => [accountId]
  | .readOnly _ => []

end

end Corebank
