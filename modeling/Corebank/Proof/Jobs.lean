import Corebank.Concurrency
import Corebank.Proof.Conservation
import Corebank.Proof.Updates

/-! # A job alone is its operation -/

namespace Corebank
open Library Library.TwoPhase TransactionService

section
variable [Collation]

/-! ## One UPDATE -/

section
variable {db : Db} (valid : db.Valid) {id : String} {r : Account}
  (found : db.find .account id = some r)
include valid found

theorem updateAccount_balance {change : AccountChange} {balance : Int}
    (selected : Change.selects .account change r = true)
    (applied : Change.apply .account change r = { r with balance := balance }) :
    updateAccount change r =
      if 10 ^ 15 ≤ balance.natAbs then .error (.driver (mysqlError 1264))
      else if balance = r.balance then .ok none
      else if balance < 0 then .error (.driver (mysqlError 3819))
      else .ok (some { r with balance := balance }) := by
  simp only [updateAccount, selected, applied, Bool.not_true, Bool.false_eq_true, if_false]
  rw [misfit_withBalance valid found, store_withBalance valid found, decimalMisfit]
  have same : ({ r with balance := balance } : Account) = r ↔ balance = r.balance := by
    constructor
    · intro h
      rw [← h]
    · rintro rfl
      rfl
  by_cases fits : balance.natAbs < 10 ^ 15
  · simp only [fits, if_true, Nat.not_le.mpr fits, if_false, same]
    by_cases e : balance = r.balance
    · simp [e]
    · by_cases negative : balance < 0
      · simp [e, negative, checks]
      · simp [e, negative, checks, Int.not_lt.mp negative]
  · simp only [fits, if_false, Nat.not_lt.mp fits, if_true]

theorem updateAccount_debit {amount : Int} (positive : 0 < amount) :
    updateAccount (.debit amount) r =
      if amount ≤ r.balance then .ok (some { r with balance := r.balance - amount })
      else .ok none := by
  obtain ⟨nonneg, small⟩ := balance_range valid found
  by_cases enough : amount ≤ r.balance
  · rw [updateAccount_balance valid found (by simpa [Change.selects] using enough) rfl,
      if_neg (by omega), if_neg (by omega), if_neg (by omega), if_pos enough]
  · simp [updateAccount, Change.selects, enough]

theorem updateAccount_credit {amount : Int} (positive : 0 < amount) :
    updateAccount (.credit amount) r =
      if r.balance + amount < (10 ^ 15 : Int) then
        .ok (some { r with balance := r.balance + amount })
      else .error (.driver (mysqlError 1264)) := by
  obtain ⟨nonneg, small⟩ := balance_range valid found
  rw [updateAccount_balance valid found rfl rfl]
  by_cases fits : r.balance + amount < (10 ^ 15 : Int)
  · rw [if_neg (by omega), if_neg (by omega), if_neg (by omega), if_pos fits]
  · rw [if_pos (by omega), if_neg fits]

end

/-! ## `transfer` -/

variable {db : Db} {env : Env} {actor : Actor} {senderId receiverId : String} {amount : Int}

theorem accounts_transferred (db : Db) (sender receiver : Account) (txn : Transaction) :
    (db.transferred sender receiver txn).accounts =
      ⟨Keyed.replace (rowKey .account) { receiver with balance := receiver.balance + txn.amount }
        (Keyed.replace (rowKey .account) { sender with balance := sender.balance - txn.amount }
          (db .account)), db .transaction ++ [store .transaction txn]⟩ := by
  simp [Db.accounts, Db.transferred, Db.record, Db.withBalance]

theorem moveSteps_run (valid : db.Valid) {sender receiver : Account}
    (hs : db.find .account senderId = some sender)
    (hr : (db.withBalance sender (sender.balance - amount)).find .account receiverId = some receiver)
    (positive : 0 < amount) (fresh : db.find .transaction env.newId = none) :
    (moveSteps env senderId receiverId amount).run accountSchema db.accounts =
      match db.settle sender receiver (ledgerRecord env senderId receiverId amount) with
      | .ok (txn, db') => .ok (.row .transaction (some txn), db'.accounts)
      | .error e => .error e := by
  have debit := updateAccount_debit valid hs positive
  have txnAmount : (ledgerRecord env senderId receiverId amount).amount = amount := rfl
  have txnId : (ledgerRecord env senderId receiverId amount).transactionId = env.newId := rfl
  have senderRow : Keyed.lookup accountSchema.key (key senderId) db.accounts.rows = some sender := hs
  simp only [moveSteps, Prog.run, senderRow, Db.settle, txnAmount, txnId, fresh]
  simp only [accountSchema] at debit ⊢
  by_cases poor : sender.balance < amount
  · simp [debit, poor, Int.not_le.mpr poor, Prog.run]
  · rw [if_pos (Int.not_lt.mp poor)] at debit
    have exec := exec_debit valid hs positive
    rw [if_pos (Int.not_lt.mp poor)] at exec
    have valid' := exec_valid valid exec
    have credit := updateAccount_credit valid' hr positive
    have receiverRow : Keyed.lookup (rowKey .account) (key receiverId)
        (Keyed.replace (rowKey .account) { sender with balance := sender.balance - amount }
          db.accounts.rows) = some receiver := by
      have rows := hr
      rwa [Db.find, Db.withBalance, Db.set_same] at rows
    simp only [debit, poor, if_false, ne_eq, not_true_eq_false, Prog.run, receiverRow, credit,
      ledgerSteps]
    by_cases fits : receiver.balance + amount < (10 ^ 15 : Int)
    · simp only [fits, if_true]
      cases misfit .transaction (ledgerRecord env senderId receiverId amount) with
      | some e => rfl
      | none =>
          simp only [Prog.run, Option.isSome_none, Bool.false_eq_true, if_false,
            accounts_transferred, txnAmount]
          rfl
    · simp only [fits, if_false]

theorem transferSteps_run (differ : senderId ≠ receiverId) :
    (transferSteps env actor senderId receiverId amount).run accountSchema db.accounts =
      match authorize actor (db.find .account senderId) (db.find .account receiverId) with
      | .error e => .error e
      | .ok () => (moveSteps env senderId receiverId amount).run accountSchema db.accounts := by
  have row (id : String) :
      Keyed.lookup accountSchema.key (key id) db.accounts.rows = db.find .account id := rfl
  by_cases le : senderId ≤ receiverId
  · simp only [transferSteps, le, if_true, Prog.run, row, differ.symm, if_false]
    cases authorize actor (db.find .account senderId) (db.find .account receiverId) with
    | error e => rfl
    | ok _ => rfl
  · simp only [transferSteps, le, if_true, Prog.run, row, differ, if_false]
    cases authorize actor (db.find .account senderId) (db.find .account receiverId) with
    | error e => rfl
    | ok _ => rfl

variable [Werkzeug]

theorem transferJob_run (valid : db.Valid) (fresh : db.find .transaction env.newId = none)
    (amount : Decimal) :
    (transferJob env actor senderId receiverId amount).run accountSchema db.accounts =
      ((((Operation.transfer actor senderId receiverId amount).serve env).run db).1,
        (((Operation.transfer actor senderId receiverId amount).serve env).run db).2.accounts) := by
  rw [Operation.serve, respond_run, transfer_run, transferJob]
  cases quantize amount with
  | error e => rfl
  | ok cents =>
      simp only
      split
      · rfl
      rename_i positive
      split
      · rfl
      rename_i differ
      have body : (transferSteps env actor senderId receiverId cents).run accountSchema db.accounts =
          match (transferBody env actor senderId receiverId cents).run db with
          | .ok (txn, db') => .ok (.row .transaction (some txn), db'.accounts)
          | .error e => .error e := by
        rw [transferSteps_run differ, transferBody_run differ]
        cases access : authorize actor (db.find .account senderId) (db.find .account receiverId) with
        | error e => rfl
        | ok _ =>
            obtain ⟨sender, receiver, hs, hr, -⟩ := authorize_ok access
            obtain ⟨receiver', hr'⟩ := receiver_found hs hr (sender.balance - cents)
            simp only [moveSteps_run valid hs hr' (Int.not_le.mp positive) fresh,
              move_run valid hs hr' (Int.not_le.mp positive)]
      cases run : (transferBody env actor senderId receiverId cents).run db with
      | error e =>
          rw [run] at body
          exact Job.run_error body
      | ok result =>
          rw [run] at body
          exact Job.run_ok body

/-! ## `set_balance` -/

omit [Werkzeug] in
theorem accounts_withBalance (db : Db) (r : Account) (balance : Int) :
    (db.withBalance r balance).accounts =
      ⟨Keyed.replace (rowKey .account) { r with balance := balance } (db .account),
        db .transaction⟩ := by
  simp [Db.accounts, Db.withBalance]

/-- The errors of the UPDATE are of no class that `integrity_guard` looks at. -/
theorem setBalanceJob_run (valid : db.Valid) (accountId : String) (balance : Decimal) :
    (setBalanceJob accountId balance).run accountSchema db.accounts =
      ((((Operation.setBalance accountId balance).serve env).run db).1,
        (((Operation.setBalance accountId balance).serve env).run db).2.accounts) := by
  have reads (db : Db) : (Accounts.get accountId).run db =
      .ok ((db.find .account accountId).map fun r => r, db) := by
    simp [Accounts.get, getRow, Sql.run]
  have raw (errno : Nat) (other : errorMap errno ≠ .integrity) :
      integrityGuard (.driver (mysqlError errno)) = .driver (mysqlError errno) :=
    integrityGuard_other _ other
  rw [Operation.serve, respond_run, AccountService.setBalance, setBalanceJob]
  cases quantize balance with
  | error e => rfl
  | ok cents =>
      simp only [Service.ofExcept, Service.done_bind, Accounts.setBalance]
      rw [updateThenGet_run reads]
      cases found : db.find .account accountId with
      | none =>
          have row : Keyed.lookup accountSchema.key (key accountId) db.accounts.rows = none := found
          rw [exec_missing rfl found]
          simp only [Job.run, Prog.run, row, if_true]
          rfl
      | some r =>
          have row : Keyed.lookup accountSchema.key (key accountId) db.accounts.rows = some r := found
          have selected : Change.selects .account (.setBalance cents) r = true := rfl
          have update := updateAccount_balance valid found selected rfl
          rw [exec_balance valid found selected rfl]
          simp only [Job.run, Prog.run, row]
          simp only [accountSchema] at update ⊢
          by_cases large : 10 ^ 15 ≤ cents.natAbs
          · rw [if_pos large] at update ⊢
            simp only [update, raw 1264 (by decide)]
            rfl
          rw [if_neg large] at update ⊢
          by_cases same : cents = r.balance
          · rw [if_pos same] at update ⊢
            simp only [update, Prog.run, if_true]
            rfl
          rw [if_neg same] at update ⊢
          by_cases negative : cents < 0
          · rw [if_pos negative] at update ⊢
            simp only [update, raw 3819 (by decide)]
            rfl
          · rw [if_neg negative] at update ⊢
            simp only [update, one_ne_zero, if_false, Prog.run, accounts_withBalance, Option.map_id']
            rw [Db.find, Db.withBalance, Db.set_same]
            rfl

end

end Corebank
