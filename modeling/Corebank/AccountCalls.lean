import Corebank.Api
import Corebank.Concurrency
import Corebank.Library.Mixed

/-!
# Requests at the account and transfer endpoints

Each as the block it runs. `autocommit` is off, so the SELECTs of a read-only block all read the
snapshot of the first.
-/

namespace Corebank
open Library Library.TwoPhase

inductive AccountCall where
  | listAccounts
  | getAccount (accountId : String)
  | setBalance (accountId : String) (body : Option Int)
  | transfer (body : Option TransferData)
  | listTransactions
  | getTransaction (transactionId : String)
  | accountTransactions (accountId : String)

def AccountCall.api : AccountCall → ApiCall
  | .listAccounts => .listAccounts
  | .getAccount accountId => .getAccount accountId
  | .setBalance accountId body => .setBalance accountId body
  | .transfer body => .transfer body
  | .listTransactions => .listTransactions
  | .getTransaction transactionId => .getTransaction transactionId
  | .accountTransactions accountId => .accountTransactions accountId

structure AccountRequest where
  actor : Actor
  call : AccountCall
  env : Env

/-- The database as far as these requests read it. -/
def accountTables (s : Store Account Transaction) : Db :=
  (Db.empty.set .account s.rows).set .transaction s.log

section
variable [Collation]

def readJob (read : Service Response) : AccountJob :=
  .block .readOnly <| .select fun s =>
    match (read.run (accountTables s)).1 with
    | .ok r => .done r
    | .error e => .raise e

def adminJob (actor : Actor) (job : AccountJob) : AccountJob :=
  if actor.role = .admin then job
  else .refused (.app .forbidden "Administrator access required")

def argumentsJob {α : Type} (admitted : α → Bool) (body : Option α) (job : α → AccountJob) :
    AccountJob :=
  match body with
  | some data => if admitted data then job data else .refused (.http 422)
  | none => .refused (.http 422)

def AccountRequest.job (request : AccountRequest) : AccountJob :=
  let actor := request.actor
  match request.call with
  | .listAccounts => readJob (respond (.rows .account) (AccountService.listForActor actor))
  | .getAccount accountId =>
      readJob (respond (.row .account ∘ some) (AccountService.get accountId actor))
  | .setBalance accountId body => adminJob actor <| argumentsJob (fun _ => true) body fun cents =>
      setBalanceJob accountId (Decimal.ofCents cents)
  | .transfer body => argumentsJob TransferData.admitted body fun data =>
      transferJob request.env actor data.senderAccountId data.receiverAccountId
        (Decimal.ofCents data.amount)
  | .listTransactions =>
      adminJob actor <| readJob (respond (.rows .transaction) TransactionService.listAll)
  | .getTransaction transactionId =>
      readJob (respond (.row .transaction ∘ some) (TransactionService.get transactionId actor))
  | .accountTransactions accountId =>
      readJob (respond (.rows .transaction) (TransactionService.listByAccount accountId actor))

variable [Werkzeug] [Marshmallow]

def AccountRequest.serve (request : AccountRequest) (db : Db) : Except Exn Response × Db :=
  (request.call.api.serve request.env request.actor).run db

end

section
variable [Collation] {ι : Type}

/-- The requests whose unit of work has committed, in the order of the commits. -/
def commits (requests : ι → AccountRequest) (m : Bank ι) : List ι :=
  landed (fun i => (requests i).job) m

variable [Werkzeug] [Marshmallow]

/-- The database after the requests `order`, served one at a time. -/
def served (requests : ι → AccountRequest) (order : List ι) (db : Db) : Db :=
  order.foldl (fun db i => ((requests i).serve db).2) db

end

end Corebank
