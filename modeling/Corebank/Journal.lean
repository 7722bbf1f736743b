import Corebank.Operations
import Corebank.Library.Book

/-!
# What the answers say of the accounts

Calls with failures, and the journal an auditor keeps who sees each call and whether it succeeded.
-/

namespace Corebank
open Library

/-- A call, and the steps of it that fail. -/
structure Incident where
  op : Operation
  env : Env
  plan : Plan

variable [Collation]

abbrev JournalEntry := Book.Entry String String

/-- What the success of a call does to the accounts. -/
def Operation.entry (env : Env) : Operation → Option JournalEntry
  | .createAccount customerId _ _ => some (.opened (key env.newId) (key customerId))
  | .deleteAccount accountId => some (.closed (key accountId))
  | .setBalance accountId balance =>
      (quantize balance).toOption.map (.adjusted (key accountId))
  | .transfer _ senderId receiverId amount =>
      (quantize amount).toOption.map (.paid (key senderId) (key receiverId))
  | _ => none

def Incident.entries (x : Incident) : Except Exn Response → List JournalEntry
  | .ok _ => (x.op.entry x.env).toList
  | .error _ => []

variable [Werkzeug]

def Incident.serve (x : Incident) (db : Db) : Except Exn Response × Db :=
  (x.op.serve x.env).runWith x.plan db

def outcome (calls : List Incident) (db : Db) : Db := calls.foldl (fun db x => (x.serve db).2) db

def journal : List Incident → Db → List JournalEntry
  | [], _ => []
  | x :: calls, db => x.entries (x.serve db).1 ++ journal calls (x.serve db).2

end Corebank
