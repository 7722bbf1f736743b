import Corebank.Operations

/-! # What a transfer does -/

namespace Corebank
open Library TransactionService

variable [Collation]

/-! ## Statements on accounts -/

def Db.withBalance (db : Db) (r : Account) (balance : Int) : Db :=
  db.set .account (Keyed.replace (rowKey .account) { r with balance := balance } (db .account))

section
variable {db : Db} (valid : db.Valid) {id : String} {r : Account}
  (found : db.find .account id = some r)
include valid found

theorem store_withBalance (balance : Int) :
    store .account { r with balance := balance } = { r with balance := balance } := by
  have kept := (valid.fits .account r (Db.find_mem found)).2
  cases r
  simp only [store, Account.mk.injEq] at kept ⊢
  tauto

theorem misfit_withBalance (balance : Int) :
    misfit .account { r with balance := balance } = decimalMisfit 15 balance := by
  have fits := (valid.fits .account r (Db.find_mem found)).1
  simp only [misfit, List.findSome?_eq_none_iff, List.forall_mem_cons, id_eq] at fits
  obtain ⟨account, customer, -, created, branch, -⟩ := fits
  simp only [misfit, account, customer, created, branch, List.findSome?_cons, id_eq]
  cases decimalMisfit 15 balance <;> rfl

theorem balance_range : 0 ≤ r.balance ∧ r.balance < (10 ^ 15 : Int) := by
  have nonneg : 0 ≤ r.balance := by
    simpa [checks] using valid.checks .account r (Db.find_mem found)
  have fits := (valid.fits .account r (Db.find_mem found)).1
  simp only [misfit, List.findSome?_eq_none_iff, List.forall_mem_cons, id_eq,
    decimalMisfit_eq_none] at fits
  refine ⟨nonneg, ?_⟩
  have small := fits.2.2.1
  omega

theorem verify_withBalance (balance : Int) :
    verify db .account { r with balance := balance }
      (db.others .account { r with balance := balance }) =
        if balance < 0 then some (mysqlError 3819) else none := by
  have noClash : (db.others .account { r with balance := balance }).any
      (clashes .account { r with balance := balance }) = false := by
    simp [Db.others, clashes, uniques]
  have noMissing : missingReference db .account { r with balance := balance } = false := by
    have refs := valid.references .account r (Db.find_mem found)
    simp only [foreignKeys, List.forall_mem_cons] at refs
    simpa [missingReference, foreignKeys] using And.intro (refs.1 _ rfl) (refs.2.1 _ rfl)
  unfold verify
  rw [noClash, noMissing]
  by_cases negative : balance < 0
  · simp [checks, negative]
  · simp [checks, negative, Int.not_lt.mp negative]

theorem exec_balance {change : AccountChange} {balance : Int}
    (selected : Change.selects .account change r = true)
    (applied : Change.apply .account change r = { r with balance := balance }) :
    (Statement.update .account id change).exec db =
      if 10 ^ 15 ≤ balance.natAbs then .error (mysqlError 1264)
      else if balance = r.balance then .ok (0, db)
      else if balance < 0 then .error (mysqlError 3819)
      else .ok (1, db.withBalance r balance) := by
  simp only [Statement.exec, Change.assigns, found, selected, applied, Bool.not_true,
    Bool.false_eq_true, if_false]
  rw [misfit_withBalance valid found, store_withBalance valid found,
    verify_withBalance valid found, decimalMisfit]
  by_cases fits : balance.natAbs < 10 ^ 15
  · have same : ({ r with balance := balance } : Account) = r ↔ balance = r.balance := by
      constructor
      · intro h
        rw [← h]
      · rintro rfl
        rfl
    simp only [fits, if_true, Nat.not_le.mpr fits, if_false, same]
    by_cases e : balance = r.balance
    · simp [e]
    · by_cases negative : balance < 0
      · simp [e, negative]
      · simp [e, negative, Db.withBalance]
  · simp only [fits, if_false, Nat.not_lt.mp fits, if_true]

theorem exec_debit {amount : Int} (positive : 0 < amount) :
    (Statement.update .account id (.debit amount)).exec db =
      if amount ≤ r.balance then .ok (1, db.withBalance r (r.balance - amount)) else .ok (0, db) := by
  obtain ⟨nonneg, small⟩ := balance_range valid found
  by_cases enough : amount ≤ r.balance
  · rw [exec_balance valid found (by simpa [Change.selects] using enough) rfl, if_neg (by omega),
      if_neg (by omega), if_neg (by omega), if_pos enough]
  · simp [Statement.exec, Change.assigns, found, Change.selects, enough]

theorem exec_credit {amount : Int} (positive : 0 < amount) :
    (Statement.update .account id (.credit amount)).exec db =
      if r.balance + amount < (10 ^ 15 : Int) then .ok (1, db.withBalance r (r.balance + amount))
      else .error (mysqlError 1264) := by
  obtain ⟨nonneg, small⟩ := balance_range valid found
  rw [exec_balance valid found rfl rfl]
  by_cases fits : r.balance + amount < (10 ^ 15 : Int)
  · rw [if_neg (by omega), if_neg (by omega), if_neg (by omega), if_pos fits]
  · rw [if_pos (by omega), if_neg fits]

omit valid in
theorem withBalance_find (balance : Int) (id' : String) :
    (db.withBalance r balance).find .account id' =
      if key id' = key id then some { r with balance := balance } else db.find .account id' := by
  have same : rowKey .account { r with balance := balance } = key id :=
    (Db.find_key found : rowKey .account r = key id)
  simp only [Db.withBalance, Db.find, Db.set_same]
  split
  · rename_i e
    rw [e, ← same]
    exact Keyed.lookup_replace_self (by rw [same]; exact Option.isSome_of_eq_some found)
  · rename_i ne
    exact Keyed.lookup_replace_of_ne (by rwa [same])

omit valid in
theorem withBalance_find_isSome (balance : Int) (id' : String) :
    ((db.withBalance r balance).find .account id').isSome = (db.find .account id').isSome := by
  rw [withBalance_find found]
  split
  · rename_i e
    rw [db.find_congr .account e, found]
    rfl
  · rfl

end

def Db.record (db : Db) (txn : Transaction) : Db :=
  db.set .transaction (db .transaction ++ [store .transaction txn])

/-- A ledger row between existing accounts is refused for its values or its id, if at all. -/
theorem exec_ledger (db : Db) (env : Env) {senderId receiverId : String} {amount : Int}
    (sender : (db.find .account senderId).isSome) (receiver : (db.find .account receiverId).isSome)
    (positive : 0 < amount) :
    (Statement.insert .transaction (ledgerRecord env senderId receiverId amount)).exec db =
      match misfit .transaction (ledgerRecord env senderId receiverId amount) with
      | some e => .error e
      | none =>
          if (db.find .transaction env.newId).isSome then .error (mysqlError 1062)
          else .ok (1, db.record (ledgerRecord env senderId receiverId amount)) := by
  have noMissing : missingReference db .transaction
      (store .transaction (ledgerRecord env senderId receiverId amount)) = false := by
    have hs := db.find_congr .account (key_rstrip senderId)
    have hr := db.find_congr .account (key_rstrip receiverId)
    simp only [missingReference, foreignKeys, store, ledgerRecord, List.any_cons, List.any_nil,
      Option.any_some, Option.map_some, hs, hr]
    simpa using And.intro sender receiver
  have clash : (db .transaction).any (clashes .transaction
      (store .transaction (ledgerRecord env senderId receiverId amount))) =
        (db.find .transaction env.newId).isSome := by
    rw [Bool.eq_iff_iff, Db.find, Keyed.lookup_isSome, List.any_eq_true]
    simp only [clashes, uniques, List.any_nil, Bool.or_false, decide_eq_true_eq, rowKey_store]
    rfl
  simp only [Statement.exec]
  cases misfit .transaction (ledgerRecord env senderId receiverId amount) with
  | some e => rfl
  | none =>
      unfold verify
      rw [clash, noMissing]
      have checked : checks .transaction
          (store .transaction (ledgerRecord env senderId receiverId amount)) = true := by
        exact decide_eq_true positive
      rw [checked]
      cases (db.find .transaction env.newId).isSome <;> simp [Db.record]

/-! ## The operation -/

theorem withBalance_other (db : Db) (r : Account) (balance : Int) {t : Table} (ne : t ≠ .account) :
    db.withBalance r balance t = db t :=
  Db.set_other _ _ ne

def Db.transferred (db : Db) (sender receiver : Account) (txn : Transaction) : Db :=
  ((db.withBalance sender (sender.balance - txn.amount)).withBalance receiver
    (receiver.balance + txn.amount)).record txn

/-- How `move` ends, by the two rows and the ledger record. -/
def Db.settle (db : Db) (sender receiver : Account) (txn : Transaction) :
    Except Exn (Transaction × Db) :=
  if sender.balance < txn.amount then .error (.app .businessRule "Insufficient funds")
  else if receiver.balance + txn.amount < (10 ^ 15 : Int) then
    match misfit .transaction txn with
    | some e => .error (.driver e)
    | none =>
        if (db.find .transaction txn.transactionId).isSome then .error (.driver (mysqlError 1062))
        else .ok (txn, db.transferred sender receiver txn)
  else .error (.driver (mysqlError 1264))

theorem settle_ok {db db' : Db} {sender receiver : Account} {txn txn' : Transaction}
    (h : db.settle sender receiver txn = .ok (txn', db')) :
    txn.amount ≤ sender.balance ∧ receiver.balance + txn.amount < (10 ^ 15 : Int) ∧
      misfit .transaction txn = none ∧ db.find .transaction txn.transactionId = none ∧
      txn' = txn ∧ db' = db.transferred sender receiver txn := by
  unfold Db.settle at h
  split at h
  · cases h
  split at h
  · split at h
    · cases h
    · split at h
      · cases h
      · cases h
        exact ⟨Int.not_lt.mp ‹_›, ‹_›, ‹_›, Option.not_isSome_iff_eq_none.mp ‹_›, rfl, rfl⟩
  · cases h

section
variable {db : Db} {env : Env} {actor : Actor} {senderId receiverId : String} {amount : Int}

theorem move_run (valid : db.Valid) {sender receiver : Account}
    (hs : db.find .account senderId = some sender)
    (hr : (db.withBalance sender (sender.balance - amount)).find .account receiverId = some receiver)
    (positive : 0 < amount) :
    (move env senderId receiverId amount).run db =
      db.settle sender receiver (ledgerRecord env senderId receiverId amount) := by
  have txnAmount : (ledgerRecord env senderId receiverId amount).amount = amount := rfl
  have txnId : (ledgerRecord env senderId receiverId amount).transactionId = env.newId := rfl
  have debit := exec_debit valid hs positive
  simp only [move, Accounts.debit, Accounts.credit, Transactions.insert, updateRow, insertRow,
    Sql.execute_bind, Sql.done_bind, Sql.run, debit, Db.settle, txnAmount, txnId]
  by_cases poor : sender.balance < amount
  · simp [poor, Int.not_le.mpr poor, Sql.throw, Sql.run]
  · rw [if_pos (Int.not_lt.mp poor)] at debit ⊢
    have valid' := exec_valid valid debit
    have credit := exec_credit valid' hr positive
    simp only [poor, if_false, ne_eq, not_true_eq_false, Sql.run, credit]
    by_cases fits : receiver.balance + amount < (10 ^ 15 : Int)
    · have senderKept : ((db.withBalance sender (sender.balance - amount)).find .account
          senderId).isSome := by
        rw [withBalance_find_isSome hs, hs]
        rfl
      have ledger := exec_ledger ((db.withBalance sender (sender.balance - amount)).withBalance
        receiver (receiver.balance + amount)) env (by rwa [withBalance_find_isSome hr])
        (by rw [withBalance_find_isSome hr, hr]; rfl) positive
      have same : ((db.withBalance sender (sender.balance - amount)).withBalance receiver
          (receiver.balance + amount)).find .transaction env.newId =
            db.find .transaction env.newId := by
        simp only [Db.find, withBalance_other _ _ _ (show Table.transaction ≠ .account by decide)]
      rw [same] at ledger
      simp only [fits, if_true, ledger]
      cases misfit .transaction (ledgerRecord env senderId receiverId amount) with
      | some e => rfl
      | none =>
          cases (db.find .transaction env.newId).isSome <;> simp [Sql.run, Db.transferred, txnAmount]
    · simp only [fits, if_false]

theorem transferBody_run (ne : senderId ≠ receiverId) :
    (transferBody env actor senderId receiverId amount).run db =
      match authorize actor (db.find .account senderId) (db.find .account receiverId) with
      | .error e => .error e
      | .ok () => (move env senderId receiverId amount).run db := by
  have rows : (transferBody env actor senderId receiverId amount).run db =
      (Sql.ofExcept (authorize actor (db.find .account senderId) (db.find .account receiverId)) >>=
        fun _ => move env senderId receiverId amount).run db := by
    by_cases le : senderId ≤ receiverId
    · simp [transferBody, Accounts.lock, le, ne.symm, Sql.run]
    · simp [transferBody, Accounts.lock, le, ne, Sql.run]
  rw [rows]
  cases authorize actor (db.find .account senderId) (db.find .account receiverId) with
  | error e => rfl
  | ok _ => rfl

theorem transfer_run (amount : Decimal) :
    (transfer env actor senderId receiverId amount).run db =
      match quantize amount with
      | .error e => (.error e, db)
      | .ok cents =>
          if cents ≤ 0 then
            (.error (.app .businessRule "Transfer amount must be greater than zero"), db)
          else if senderId = receiverId then
            (.error (.app .businessRule "Sender and receiver accounts must differ"), db)
          else
            match (transferBody env actor senderId receiverId cents).run db with
            | .ok (txn, db') => (.ok txn, db')
            | .error e => (.error e, db) := by
  unfold transfer
  cases quantize amount with
  | error e => rfl
  | ok cents =>
      simp only [Service.ofExcept, Service.done_bind]
      split
      · rfl
      · split
        · rfl
        · simp only [unitOfWork, Service.run, id]
          split <;> rename_i h <;> simp only [h]

omit [Collation] in
theorem authorize_ok {sender receiver : Option Account}
    (h : authorize actor sender receiver = .ok ()) :
    ∃ s r, sender = some s ∧ receiver = some r ∧
      (actor.role = .admin ∨ actor.customerId = some s.customerId) := by
  unfold authorize at h
  split at h
  · cases h
  · cases h
  · split at h
    · cases h
    · exact ⟨_, _, rfl, rfl, by tauto⟩

theorem receiver_found {sender receiver : Account} (hs : db.find .account senderId = some sender)
    (hr : db.find .account receiverId = some receiver) (balance : Int) :
    ∃ receiver', (db.withBalance sender balance).find .account receiverId = some receiver' := by
  rw [← Option.isSome_iff_exists, withBalance_find_isSome hs, hr]
  rfl

structure TransferOk (db : Db) (env : Env) (actor : Actor) (senderId receiverId : String)
    (cents : Int) (sender receiver : Account) : Prop where
  positive : 0 < cents
  differ : senderId ≠ receiverId
  senderFound : db.find .account senderId = some sender
  owner : actor.role = .admin ∨ actor.customerId = some sender.customerId
  funds : cents ≤ sender.balance
  receiverFound : (db.withBalance sender (sender.balance - cents)).find .account receiverId =
    some receiver
  range : receiver.balance + cents < 10 ^ 15
  fits : misfit .transaction (ledgerRecord env senderId receiverId cents) = none
  fresh : db.find .transaction env.newId = none

theorem transfer_ok (valid : db.Valid) {amount : Decimal} {txn : Transaction} {db' : Db}
    (h : (transfer env actor senderId receiverId amount).run db = (.ok txn, db')) :
    ∃ cents sender receiver, quantize amount = .ok cents ∧
      TransferOk db env actor senderId receiverId cents sender receiver ∧
      txn = ledgerRecord env senderId receiverId cents ∧
      db' = db.transferred sender receiver txn := by
  rw [transfer_run] at h
  split at h
  · cases h
  rename_i cents rounded
  split at h
  · cases h
  rename_i positive
  split at h
  · cases h
  rename_i differ
  rw [transferBody_run differ] at h
  cases access : authorize actor (db.find .account senderId) (db.find .account receiverId) with
  | error e => simp [access] at h
  | ok _ =>
      obtain ⟨sender, receiver, hs, hr, owner⟩ := authorize_ok access
      obtain ⟨receiver', hr'⟩ := receiver_found hs hr (sender.balance - cents)
      simp only [access, move_run valid hs hr' (Int.not_le.mp positive)] at h
      split at h
      · rename_i txn' db'' run
        cases h
        obtain ⟨funds, range, fits, fresh, rfl, rfl⟩ := settle_ok run
        exact ⟨cents, sender, receiver', rounded,
          ⟨Int.not_le.mp positive, differ, hs, owner, funds, hr', range, fits, fresh⟩, rfl, rfl⟩
      · cases h

theorem transfer_error {amount : Decimal} {e : Exn} {db' : Db}
    (h : (transfer env actor senderId receiverId amount).run db = (.error e, db')) : db' = db := by
  rw [transfer_run] at h
  split at h
  · cases h; rfl
  split at h
  · cases h; rfl
  split at h
  · cases h; rfl
  split at h
  · cases h
  · cases h; rfl

end

end Corebank
