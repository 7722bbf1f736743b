import Corebank.Proof.Conservation

/-! # The exact outcome of one transfer -/

namespace Corebank
open Library TransactionService

/-! ## What decides it -/

/-- The error of the first condition that fails. -/
def firstFailure (conditions : List (Bool × AppError)) : Option AppError :=
  (conditions.find? fun c => !c.1).map Prod.snd

section
variable [Collation]

/-- What a transfer of `amount` hundredths needs, in the order the code asks for it. -/
def transferConditions (db : Db) (actor : Actor) (senderId receiverId : String) (amount : Int) :
    List (Bool × AppError) :=
  let sender := db.find .account senderId
  let receiver := db.find .account receiverId
  [(0 < amount, .businessRule),
    (senderId ≠ receiverId, .businessRule),
    (sender.isSome && receiver.isSome, .notFound),
    (actor.role = .admin || sender.any fun s => actor.customerId = some s.customerId, .forbidden),
    (sender.any fun s => amount ≤ s.balance, .businessRule)]

/-- `id` is spelled as the row it denotes, if it denotes one. -/
def Db.Spelled (db : Db) (t : Table) (id : String) : Prop :=
  ∀ r, db.find t id = some r → rowId t r = id

/-- What `new_id` and `utcnow` promise: an unused id that its column keeps as it is, and a moment
that a `DATETIME` column holds. -/
structure Env.Usable (env : Env) (db : Db) (t : Table) : Prop where
  unused : db.find t env.newId = none
  short : charMisfit 36 env.newId = none
  kept : rstrip env.newId = env.newId
  moment : dateTimeMisfit env.utcnow = none

structure Moved (db db' : Db) (senderId receiverId : String) (amount : Int)
    (record : Transaction) : Prop where
  accounts : db' .account = (db .account).map fun a =>
    if a.accountId = senderId then { a with balance := a.balance - amount }
    else if a.accountId = receiverId then { a with balance := a.balance + amount }
    else a
  ledger : ∃ row : Transaction, db' .transaction = db .transaction ++ [row] ∧
    row.fromAccountId = senderId ∧ row.toAccountId = some receiverId ∧
    row.transactionType = .transfer ∧ row.amount = amount ∧
    record.transactionId = row.transactionId ∧ record.fromAccountId = row.fromAccountId ∧
    record.toAccountId = row.toAccountId ∧ record.amount = row.amount
  others : ∀ t, t ≠ .account → t ≠ .transaction → db' t = db t

/-! ## The rows a transfer leaves -/

theorem spelled_mem {db : Db} (valid : db.Valid) {id : String} (spelled : db.Spelled .account id)
    {a : Account} (mem : a ∈ db .account) : a.accountId = id ↔ key a.accountId = key id := by
  constructor
  · rintro rfl
    rfl
  · intro same
    exact spelled a (valid.find_of_mem mem same.symm)

theorem withBalance_account {db : Db} (valid : db.Valid) {id : String} {r : Account}
    (spelled : db.Spelled .account id) (found : db.find .account id = some r)
    (balance : Account → Int) :
    db.withBalance r (balance r) .account = (db .account).map fun a =>
      if a.accountId = id then { a with balance := balance a } else a := by
  have same : rowKey .account { r with balance := balance r } = key id :=
    (Db.find_key found : rowKey .account r = key id)
  rw [Db.withBalance, Db.set_same, Keyed.replace]
  apply List.map_congr_left
  intro a mem
  rw [same]
  by_cases e : a.accountId = id
  · have row : db.find .account id = some a := valid.find_of_mem mem (by rw [← e, rowKey, rowId])
    obtain rfl : r = a := Option.some.inj (found.symm.trans row)
    rw [if_pos (by rw [rowKey, rowId, e]), if_pos e]
  · have ne : rowKey .account a ≠ key id := fun h => e ((spelled_mem valid spelled mem).mpr h)
    rw [if_neg ne, if_neg e]

theorem spelled_withBalance {db : Db} {id id' : String} {r : Account}
    (found : db.find .account id = some r) (balance : Int) (spelled : db.Spelled .account id') :
    (db.withBalance r balance).Spelled .account id' := by
  intro a h
  rw [withBalance_find found] at h
  split at h
  · rename_i same
    cases h
    exact spelled r (by rw [db.find_congr .account same, found])
  · exact spelled a h

theorem transferred_moved {db : Db} (valid : db.Valid) {env : Env} {actor : Actor}
    {senderId receiverId : String} {amount : Int} {sender receiver : Account}
    (ok : TransferOk db env actor senderId receiverId amount sender receiver)
    (senderSpelled : db.Spelled .account senderId)
    (receiverSpelled : db.Spelled .account receiverId) (kept : rstrip env.newId = env.newId)
    (senderKept : rstrip senderId = senderId) (receiverKept : rstrip receiverId = receiverId) :
    Moved db (db.transferred sender receiver (ledgerRecord env senderId receiverId amount))
      senderId receiverId amount (ledgerRecord env senderId receiverId amount) := by
  have debit := exec_debit valid ok.senderFound ok.positive
  rw [if_pos ok.funds] at debit
  have valid' := exec_valid valid debit
  refine ⟨?_, ?_, ?_⟩
  · rw [Db.transferred, Db.record, Db.set_other _ _ (by decide)]
    simp only [ledgerRecord]
    rw [withBalance_account valid' (spelled_withBalance ok.senderFound _
      receiverSpelled) ok.receiverFound (fun a => a.balance + amount),
      withBalance_account valid senderSpelled ok.senderFound (fun a => a.balance - amount),
      List.map_map]
    apply List.map_congr_left
    intro a _
    by_cases e : a.accountId = senderId
    · simp [e, ok.differ]
    · simp [e]
  · refine ⟨_, transferred_ledger _ _ _ _, senderKept, ?_, rfl, rfl, kept.symm, senderKept.symm,
      ?_, rfl⟩
    · exact congrArg some receiverKept
    · exact congrArg some receiverKept.symm
  · intro t account ledger
    rw [Db.transferred, Db.record, Db.set_other _ _ ledger, withBalance_other _ _ _ account,
      withBalance_other _ _ _ account]

/-! ## The outcome -/

theorem find_kept {db : Db} (valid : db.Valid) {id : String} {r : Account}
    (found : db.find .account id = some r) (spelled : db.Spelled .account id) :
    rstrip id = id ∧ charMisfit 36 id = none := by
  obtain ⟨fits, kept⟩ := valid.fits .account r (Db.find_mem found)
  have same : r.accountId = id := spelled r found
  have stored := congrArg (rowId .account) kept
  rw [rowId_store] at stored
  simp only [misfit, List.findSome?_eq_none_iff, List.forall_mem_cons, id_eq] at fits
  exact ⟨same ▸ stored, same ▸ fits.1⟩

omit [Collation] in
theorem authorize_of {actor : Actor} {sender receiver : Account} :
    authorize actor (some sender) (some receiver) =
      if actor.role = .admin ∨ actor.customerId = some sender.customerId then .ok ()
      else .error (.app .forbidden "You may only transfer from your own account") := by
  by_cases admin : actor.role = .admin <;>
    by_cases owner : actor.customerId = some sender.customerId <;> simp [authorize, admin, owner]

theorem settle_funds {db : Db} {sender receiver : Account} {txn : Transaction}
    (funds : txn.amount ≤ sender.balance) (range : receiver.balance + txn.amount < (10 ^ 15 : Int))
    (fits : misfit .transaction txn = none)
    (fresh : db.find .transaction txn.transactionId = none) :
    db.settle sender receiver txn = .ok (txn, db.transferred sender receiver txn) := by
  rw [Db.settle, if_neg (Int.not_lt.mpr funds), if_pos range, fits, fresh]
  rfl

theorem settle_poor {db : Db} {sender receiver : Account} {txn : Transaction}
    (poor : sender.balance < txn.amount) :
    db.settle sender receiver txn = .error (.app .businessRule "Insufficient funds") := by
  rw [Db.settle, if_pos poor]

theorem transfer_checked {db : Db} (valid : db.Valid) (env : Env) (actor : Actor)
    (senderId receiverId : String) {amount : Decimal} {a : Int} (rounded : quantize amount = .ok a) :
    (∃ error message,
      firstFailure (transferConditions db actor senderId receiverId a) = some error ∧
        (transfer env actor senderId receiverId amount).run db = (.error (.app error message), db)) ∨
    firstFailure (transferConditions db actor senderId receiverId a) = none ∧
      0 < a ∧ senderId ≠ receiverId ∧ ∃ sender receiver receiver',
        db.find .account senderId = some sender ∧ db.find .account receiverId = some receiver ∧
        (actor.role = .admin ∨ actor.customerId = some sender.customerId) ∧ a ≤ sender.balance ∧
        (db.withBalance sender (sender.balance - a)).find .account receiverId = some receiver' ∧
        (transfer env actor senderId receiverId amount).run db =
          match db.settle sender receiver' (ledgerRecord env senderId receiverId a) with
          | .ok (txn, db') => (.ok txn, db')
          | .error e => (.error e, db) := by
  have run : (transfer env actor senderId receiverId amount).run db = _ := transfer_run amount
  simp only [rounded] at run
  by_cases positive : 0 < a
  swap
  · exact Or.inl ⟨_, _, by simp [firstFailure, transferConditions, positive],
      run.trans (if_pos (Int.not_lt.mp positive))⟩
  rw [if_neg (Int.not_le.mpr positive)] at run
  by_cases differ : senderId = receiverId
  · exact Or.inl ⟨_, _, by simp [firstFailure, transferConditions, positive, differ],
      run.trans (if_pos differ)⟩
  rw [if_neg differ, transferBody_run differ] at run
  cases hs : db.find .account senderId with
  | none =>
      simp only [hs, authorize] at run
      exact Or.inl ⟨_, _, by simp [firstFailure, transferConditions, positive, differ, hs], run⟩
  | some sender =>
  cases hr : db.find .account receiverId with
  | none =>
      simp only [hs, hr, authorize] at run
      exact Or.inl ⟨_, _, by simp [firstFailure, transferConditions, positive, differ, hs, hr], run⟩
  | some receiver =>
  simp only [hs, hr, authorize_of] at run
  by_cases owner : actor.role = .admin ∨ actor.customerId = some sender.customerId
  swap
  · rw [if_neg owner] at run
    exact Or.inl ⟨_, _, by
      simpa [firstFailure, transferConditions, positive, differ, hs, hr] using owner, run⟩
  obtain ⟨receiver', hr'⟩ := receiver_found hs hr (sender.balance - a)
  rw [if_pos owner] at run
  simp only [move_run valid hs hr' positive] at run
  by_cases funds : a ≤ sender.balance
  · have met : firstFailure (transferConditions db actor senderId receiverId a) = none := by
      simpa [firstFailure, transferConditions, positive, differ, hs, hr, funds] using owner
    exact Or.inr ⟨met, positive, differ, sender, receiver, receiver', rfl, rfl, owner, funds, hr', run⟩
  · have poor : db.settle sender receiver' (ledgerRecord env senderId receiverId a) =
        .error (.app .businessRule "Insufficient funds") := settle_poor (Int.not_le.mp funds)
    rw [poor] at run
    exact Or.inl ⟨_, _, by
      simpa [firstFailure, transferConditions, positive, differ, hs, hr, funds] using owner, run⟩

theorem ledgerRecord_fits {db : Db} (valid : db.Valid) {env : Env} {senderId receiverId : String}
    {sender receiver : Account} (hs : db.find .account senderId = some sender)
    (hr : db.find .account receiverId = some receiver) (senderSpelled : db.Spelled .account senderId)
    (receiverSpelled : db.Spelled .account receiverId) (usable : env.Usable db .transaction)
    {amount : Int} (positive : 0 < amount) (funds : amount ≤ sender.balance) :
    misfit .transaction (ledgerRecord env senderId receiverId amount) = none := by
  have small := (balance_range valid hs).2
  have amountFits : decimalMisfit 15 amount = none := by
    rw [decimalMisfit_eq_none]
    omega
  simp [misfit, ledgerRecord, usable.short, (find_kept valid hs senderSpelled).2,
    (find_kept valid hr receiverSpelled).2, usable.moment, amountFits]

theorem transfer_outcome {db : Db} (valid : db.Valid) {env : Env} {actor : Actor}
    {senderId receiverId : String} {amount : Decimal} {a : Int} (rounded : quantize amount = .ok a)
    (senderSpelled : db.Spelled .account senderId)
    (receiverSpelled : db.Spelled .account receiverId)
    (range : ∀ r, db.find .account receiverId = some r → r.balance + a < (10 ^ 15 : Int))
    (usable : env.Usable db .transaction) :
    (firstFailure (transferConditions db actor senderId receiverId a) = none →
      ∃ record db', (transfer env actor senderId receiverId amount).run db = (.ok record, db') ∧
        Moved db db' senderId receiverId a record) ∧
    ∀ error, firstFailure (transferConditions db actor senderId receiverId a) = some error →
      ∃ message, (transfer env actor senderId receiverId amount).run db =
        (.error (.app error message), db) := by
  obtain ⟨error, message, first, run⟩ | ⟨met, positive, differ, sender, receiver, receiver', hs, hr,
    owner, funds, hr', run⟩ := transfer_checked valid env actor senderId receiverId rounded
  · rw [first]
    refine ⟨nofun, ?_⟩
    rintro _ ⟨⟩
    exact ⟨message, run⟩
  have other : key receiverId ≠ key senderId := by
    intro same
    exact differ ((senderSpelled receiver (by rw [← hr, db.find_congr .account same])).symm.trans
      (receiverSpelled receiver hr))
  obtain rfl : receiver = receiver' := by
    rw [withBalance_find hs, if_neg other, hr] at hr'
    exact Option.some.inj hr'
  have fits := ledgerRecord_fits valid hs hr senderSpelled receiverSpelled usable positive funds
  have ok : TransferOk db env actor senderId receiverId a sender receiver :=
    ⟨positive, differ, hs, owner, funds, hr', range receiver hr, fits, usable.unused⟩
  rw [settle_funds ok.funds ok.range fits ok.fresh] at run
  rw [met]
  exact ⟨fun _ => ⟨_, _, run, transferred_moved valid ok senderSpelled receiverSpelled
    usable.kept (find_kept valid hs senderSpelled).1 (find_kept valid hr receiverSpelled).1⟩, nofun⟩

end

/-! ## A run -/

section
attribute [local instance] foldCase clearText

theorem spelled_of_all {db : Db} {t : Table} {id : String}
    (h : (db.find t id).all fun r => rowId t r = id) : db.Spelled t id := by
  intro r found
  rw [found] at h
  exact of_decide_eq_true h

/-- 25.005 is rounded to the even 25.00. -/
theorem transfer_outcome_ann : ∃ record db',
    (transfer (noon "t-1") ann "a-1" "b-1" ⟨25005, -3⟩).run opened = (.ok record, db') ∧
      Moved opened db' "a-1" "b-1" 2500 record := by
  have range (r : Account) (h : opened.find .account "b-1" = some r) :
      r.balance + 2500 < (10 ^ 15 : Int) := by
    have row : (opened.find .account "b-1").all fun r => r.balance + 2500 < (10 ^ 15 : Int) := by
      decide +kernel
    rw [h] at row
    exact of_decide_eq_true row
  exact (transfer_outcome reachable_opened.valid rfl (spelled_of_all (by decide +kernel))
    (spelled_of_all (by decide +kernel)) range
    ⟨by decide +kernel, by decide +kernel, by decide +kernel, by decide +kernel⟩).1
      (by decide +kernel)

end

end Corebank
