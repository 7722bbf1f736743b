import Corebank.Proof.Transfer

/-! # Where money and ledger rows can go -/

namespace Corebank
open Library

section
variable [Collation]

def Db.totalBalance (db : Db) : Int := ((db .account).map Account.balance).sum

def KeepsLedger (db db' : Db) : Prop :=
  ∀ t ∈ db .transaction, ∀ t' ∈ db' .transaction, rowKey .transaction t' = rowKey .transaction t →
    t' = t

theorem keepsLedger_of_mem {db db' : Db} (valid : db.Valid)
    (h : ∀ t' ∈ db' .transaction, t' ∈ db .transaction) : KeepsLedger db db' :=
  fun _ mem _ mem' same => Keyed.eq_of_key (valid.ids .transaction) (h _ mem') mem same

/-! ## Statements that move no money and write no ledger row -/

def Quiet : Statement → Prop
  | .insert .account row => row.balance = 0
  | .update .account _ _ | .delete .account _ | .insert .transaction _ => False
  | _ => True

def Undisturbed (db db' : Db) : Prop :=
  db'.totalBalance = db.totalBalance ∧ ∀ t ∈ db' .transaction, t ∈ db .transaction

omit [Collation] in
theorem undisturbed_of_eq {db db' : Db} (accounts : db' .account = db .account)
    (ledger : ∀ t ∈ db' .transaction, t ∈ db .transaction) : Undisturbed db db' :=
  ⟨by rw [Db.totalBalance, accounts, Db.totalBalance], ledger⟩

omit [Collation] in
theorem undisturbed_set {db : Db} {t : Table} (rows : List (Row t)) (account : t ≠ .account)
    (ledger : t ≠ .transaction) : Undisturbed db (db.set t rows) :=
  undisturbed_of_eq (Db.set_other _ _ account.symm) (by simp [Db.set_other _ _ ledger.symm])

theorem quiet_step (s : Statement) (quiet : Quiet s) {db db' : Db} {n : Nat}
    (h : s.exec db = .ok (n, db')) : Undisturbed db db' := by
  cases s with
  | insert t row =>
      obtain ⟨-, -, -, rfl⟩ := exec_insert h
      by_cases account : t = .account
      · subst account
        have zero : (store .account row).balance = 0 := quiet
        exact ⟨by simp [Db.totalBalance, zero], by simp [Db.set_other]⟩
      · refine undisturbed_set _ account ?_
        rintro rfl
        exact quiet
  | update t id change =>
      rcases exec_update h with ⟨-, rfl, -⟩ | ⟨r, -, -, -, -, -, -, rfl⟩
      · exact undisturbed_of_eq rfl fun _ mem => mem
      · refine undisturbed_set _ ?_ ?_
        · rintro rfl
          exact quiet
        · rintro rfl
          cases change
  | delete t id =>
      rcases exec_delete h with ⟨-, rfl, -⟩ | ⟨r, -, -, -, rfl⟩
      · exact undisturbed_of_eq rfl fun _ mem => mem
      have account : t ≠ .account := by
        rintro rfl
        exact quiet
      apply undisturbed_of_eq
      · rw [Db.set_other _ _ account.symm]
        exact (List.map_congr_left fun a _ => nullify_other t id (by decide) a).trans
          (List.map_id _)
      · intro txn mem
        by_cases ledger : t = .transaction
        · subst ledger
          rw [Db.set_same, Keyed.mem_remove] at mem
          exact mem.1
        · rw [Db.set_other _ _ (Ne.symm ledger), List.mem_map] at mem
          obtain ⟨txn, mem, rfl⟩ := mem
          rwa [nullify_transaction, if_neg fun both => account both.1]

theorem quiet_run {α : Type} {ok : Statement → Prop} {op : Service α} (issues : op.Issues ok)
    (quiet : ∀ s, ok s → Quiet s) (db : Db) : Undisturbed db (op.run db).2 :=
  Service.run_rel Undisturbed (fun _ => undisturbed_of_eq rfl fun _ => id)
    (fun first second => ⟨second.1.trans first.1, fun t mem => first.2 t (second.2 t mem)⟩)
    (fun s ok _ _ _ h => quiet_step s (quiet s ok) h) issues db

/-! ## Operations that touch one of them -/

theorem totalBalance_withBalance {db : Db} (valid : db.Valid) {id : String} {r : Account}
    (found : db.find .account id = some r) (balance : Int) :
    (db.withBalance r balance).totalBalance = db.totalBalance - r.balance + balance := by
  have same : rowKey .account { r with balance := balance } = key id :=
    (Db.find_key found : rowKey .account r = key id)
  simp only [Db.totalBalance, Db.withBalance, Db.set_same]
  exact Keyed.sum_replace (valid.ids .account) Account.balance (by rw [same]; exact found)

theorem transferred_money {db : Db} (valid : db.Valid) {env : Env} {actor : Actor}
    {senderId receiverId : String} {cents : Int} {sender receiver : Account}
    (ok : TransferOk db env actor senderId receiverId cents sender receiver) :
    (db.transferred sender receiver
      (TransactionService.ledgerRecord env senderId receiverId cents)).totalBalance =
        db.totalBalance := by
  have debit := exec_debit valid ok.senderFound ok.positive
  rw [if_pos ok.funds] at debit
  have first := totalBalance_withBalance valid ok.senderFound (sender.balance - cents)
  have second := totalBalance_withBalance (exec_valid valid debit) ok.receiverFound
    (receiver.balance + cents)
  have record (db : Db) (txn : Transaction) : (db.record txn).totalBalance = db.totalBalance := by
    rw [Db.totalBalance, Db.record, Db.set_other _ _ (by decide), Db.totalBalance]
  rw [Db.transferred, record]
  simp only [TransactionService.ledgerRecord]
  omega

theorem transferred_ledger (db : Db) (sender receiver : Account) (txn : Transaction) :
    db.transferred sender receiver txn .transaction =
      db .transaction ++ [store .transaction txn] := by
  rw [Db.transferred, Db.record, Db.set_same, withBalance_other _ _ _ (by decide),
    withBalance_other _ _ _ (by decide)]

theorem transferred_keeps {db : Db} (valid : db.Valid) {env : Env} {actor : Actor}
    {senderId receiverId : String} {cents : Int} {sender receiver : Account}
    (ok : TransferOk db env actor senderId receiverId cents sender receiver) :
    KeepsLedger db (db.transferred sender receiver
      (TransactionService.ledgerRecord env senderId receiverId cents)) := by
  intro t mem t' mem' same
  rw [transferred_ledger, List.mem_append, List.mem_singleton] at mem'
  rcases mem' with mem' | rfl
  · exact Keyed.eq_of_key (valid.ids .transaction) mem' mem same
  · rw [rowKey_store] at same
    exact absurd same.symm (Keyed.lookup_eq_none.mp ok.fresh t mem)

/-- An account that goes takes its balance along, and its id leaves the receivers of the ledger. -/
structure Closed (db db' : Db) (id : String) (r : Account) : Prop where
  found : db.find .account id = some r
  noCard : ∀ c ∈ db .card, key c.accountId ≠ key id
  sentNothing : ∀ t ∈ db .transaction, key t.fromAccountId ≠ key id
  accounts : db' .account = Keyed.remove (rowKey .account) (key id) (db .account)
  money : db'.totalBalance = db.totalBalance - r.balance
  ledger : db' .transaction = (db .transaction).map fun t =>
    if t.toAccountId.any (fun v => key v = key id) then { t with toAccountId := none } else t

theorem exec_deleteAccount {db db' : Db} (valid : db.Valid) {id : String} {n : Nat}
    (h : (Statement.delete .account id).exec db = .ok (n, db')) :
    n = 0 ∧ db' = db ∧ db.find .account id = none ∨ n = 1 ∧ ∃ r, Closed db db' id r := by
  rcases exec_delete h with ⟨rfl, rfl, missing⟩ | ⟨r, found, free, rfl, rfl⟩
  · exact Or.inl ⟨rfl, rfl, missing⟩
  refine Or.inr ⟨rfl, r, found, ?_, ?_, Db.set_same _ _ _, ?_, ?_⟩
  · intro c mem
    exact restricted_eq_false .card free List.mem_cons_self rfl rfl mem rfl
  · intro t mem
    exact restricted_eq_false .transaction free List.mem_cons_self rfl rfl mem rfl
  · simp only [Db.totalBalance, Db.set_same]
    exact Keyed.sum_remove (valid.ids .account) Account.balance found
  · rw [Db.set_other _ _ (by decide)]
    refine List.map_congr_left fun t _ => ?_
    rw [nullify_transaction]
    simp

variable [Werkzeug]

theorem deleteAccount_run (env : Env) {db : Db} (valid : db.Valid) (id : String) :
    (∃ r db', ((Operation.deleteAccount id).serve env).run db = (.ok .empty, db') ∧
      Closed db db' id r) ∨
    ∃ e, ((Operation.deleteAccount id).serve env).run db = (.error e, db) := by
  simp only [Operation.serve, respond, AccountService.delete, deleteOrMissing, guarded,
    Accounts.delete, deleteRow]
  cases h : (Statement.delete .account id).exec db with
  | error e => exact Or.inr ⟨_, by simp [Service.run, Sql.run, h]; rfl⟩
  | ok result =>
      obtain ⟨n, db'⟩ := result
      rcases exec_deleteAccount valid h with ⟨rfl, rfl, -⟩ | ⟨rfl, r, closed⟩
      · exact Or.inr ⟨_, by simp [Service.run, Sql.run, h, Sql.throw]; rfl⟩
      · exact Or.inl ⟨r, db', by simp [Service.run, Sql.run, h], closed⟩

omit [Collation] in
theorem writes_quiet (op : Operation) (env : Env) (notSet : ∀ id balance, op ≠ .setBalance id balance)
    (notClose : ∀ id, op ≠ .deleteAccount id)
    (notTransfer : ∀ actor s r amount, op ≠ .transfer actor s r amount) :
    ∀ s ∈ op.writes env, Quiet s := by
  cases op with
  | setBalance id balance => exact absurd rfl (notSet id balance)
  | deleteAccount id => exact absurd rfl (notClose id)
  | transfer actor s r amount => exact absurd rfl (notTransfer actor s r amount)
  | _ => simp [Operation.writes, Quiet, AccountService.record]

/-! ## Every operation -/

theorem operation_money (env : Env) {db : Db} (reached : Reachable db) :
    (∀ op : Operation, (∀ id balance, op ≠ .setBalance id balance) →
      (∀ id, op ≠ .deleteAccount id) → ((op.serve env).run db).1.isOk →
        ((op.serve env).run db).2.totalBalance = db.totalBalance ∧
          KeepsLedger db ((op.serve env).run db).2) ∧
    ∀ id, (∃ r db', ((Operation.deleteAccount id).serve env).run db = (.ok .empty, db') ∧
        Closed db db' id r) ∨
      ∃ e, ((Operation.deleteAccount id).serve env).run db = (.error e, db) := by
  refine ⟨fun op notSet notClose succeeds => ?_, deleteAccount_run env reached.valid⟩
  by_cases notTransfer : ∀ actor s r amount, op ≠ .transfer actor s r amount
  · have undisturbed := quiet_run (operation_issues op env)
      (writes_quiet op env notSet notClose notTransfer) db
    exact ⟨undisturbed.1, keepsLedger_of_mem reached.valid undisturbed.2⟩
  · push Not at notTransfer
    obtain ⟨actor, s, r, amount, rfl⟩ := notTransfer
    rw [Operation.serve, respond_run] at succeeds ⊢
    cases run : (TransactionService.transfer env actor s r amount).run db with
    | mk outcome db' =>
        rw [run] at succeeds
        cases outcome with
        | error e => cases succeeds
        | ok txn =>
            obtain ⟨cents, sender, receiver, -, ok, rfl, rfl⟩ := transfer_ok reached.valid run
            exact ⟨transferred_money reached.valid ok, transferred_keeps reached.valid ok⟩

end

attribute [local instance] foldCase clearText

def payment (id : String) : Operation × Env :=
  (.transfer ann "a-1" "b-1" ⟨40, 0⟩, noon id)

def paid : Db := replay [payment "t-1"] opened

theorem operation_money_paid :
    (replay [payment "t-2"] paid).totalBalance = paid.totalBalance ∧
      KeepsLedger paid (replay [payment "t-2"] paid) :=
  (operation_money (payment "t-2").2 (reachable_opened.replay _)).1 (payment "t-2").1
    (by simp [payment]) (by simp [payment]) (by decide +kernel)

/-- Closing Bob's account takes 40.00 out of the bank, and the receiver out of the ledger. -/
theorem delete_loses_money : Reachable paid ∧
    ((AccountService.delete "b-1").run paid).1 = .ok () ∧ paid.totalBalance = 10000 ∧
    ((AccountService.delete "b-1").run paid).2.totalBalance = 6000 ∧
    (paid .transaction).map Transaction.toAccountId = [some "b-1"] ∧
    (((AccountService.delete "b-1").run paid).2 .transaction).map Transaction.toAccountId =
      [none] := by
  refine ⟨reachable_opened.replay _, ?_⟩
  decide +kernel

end Corebank
