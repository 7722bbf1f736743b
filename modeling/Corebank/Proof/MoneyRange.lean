import Corebank.Proof.TransferOutcome
import Corebank.Proof.Updates

/-! # Where money arithmetic leaves its column -/

namespace Corebank
open Library TransactionService

section
variable [Collation]

/-! ## The statements of a run -/

/-- The write statements a program issues, each with the state it meets. -/
def Sql.issued {α : Type} : Sql α → Db → List (Statement × Db)
  | .done _, _ | .raise _, _ => []
  | .fetch next, db => (next db).issued db
  | .lock t id next, db => (next (db.find t id)).issued db
  | .execute s next, db =>
      (s, db) ::
        match s.exec db with
        | .ok (n, db') => (next n).issued db'
        | .error _ => []

def Service.issued {α : Type} : Service α → Db → List (Statement × Db)
  | .done _, _ | .raise _, _ => []
  | .unitOfWork _ body next, db =>
      body.issued db ++
        match body.run db with
        | .ok (b, db') => (next b).issued db'
        | .error _ => []
  | .readOnly body next, db =>
      body.issued db ++
        match body.run db with
        | .ok (b, _) => (next b).issued db
        | .error _ => []

/-- The balances a statement computes for rows of `account`. -/
def Statement.balances : Statement → Db → List Int
  | .insert .account row, _ => [row.balance]
  | .update .account id change, db =>
      (((db.find .account id).filter (change.selects .account)).map fun r =>
        (change.apply .account r).balance).toList
  | _, _ => []

/-- The operation ends in a result or an `AppError`, and no statement of it computes a balance
outside `DECIMAL(15,2)` or below zero. -/
def Service.InRange {α : Type} (op : Service α) (db : Db) : Prop :=
  ((∃ a, (op.run db).1 = .ok a) ∨ ∃ error message, (op.run db).1 = .error (.app error message)) ∧
    ∀ issued ∈ op.issued db, ∀ balance ∈ issued.1.balances issued.2,
      0 ≤ balance ∧ balance < (10 ^ 15 : Int)

/-! ## When it stays inside -/

/-- What a transfer that gets past its conditions needs besides. -/
structure TransferStorable (db : Db) (env : Env) (senderId receiverId : String) (amount : Int) :
    Prop where
  receiver : key senderId = key receiverId ∨
    ∀ r, db.find .account receiverId = some r → r.balance + amount < (10 ^ 15 : Int)
  fits : misfit .transaction (ledgerRecord env senderId receiverId amount) = none
  fresh : db.find .transaction env.newId = none

theorem move_issued {db db' : Db} {env : Env} {senderId receiverId : String} {amount : Int}
    (debit : (Statement.update .account senderId (.debit amount)).exec db = .ok (1, db')) :
    (move env senderId receiverId amount).issued db =
      (.update .account senderId (.debit amount), db) ::
        (.update .account receiverId (.credit amount), db') ::
        match (Statement.update .account receiverId (.credit amount)).exec db' with
        | .ok (_, db'') => [(.insert .transaction (ledgerRecord env senderId receiverId amount), db'')]
        | .error _ => [] := by
  simp only [move, Accounts.debit, Accounts.credit, Transactions.insert, updateRow, insertRow,
    Sql.execute_bind, Sql.done_bind, Sql.issued, debit, ne_eq, not_true_eq_false, if_false]
  cases (Statement.update .account receiverId (.credit amount)).exec db' with
  | error e => rfl
  | ok result =>
      simp only [List.cons.injEq, true_and]
      cases (Statement.insert .transaction
        (ledgerRecord env senderId receiverId amount)).exec result.2 <;> rfl

theorem transferBody_issued {db : Db} {env : Env} {actor : Actor} {senderId receiverId : String}
    {amount : Int} (ne : senderId ≠ receiverId) :
    (transferBody env actor senderId receiverId amount).issued db =
      match authorize actor (db.find .account senderId) (db.find .account receiverId) with
      | .error _ => []
      | .ok () => (move env senderId receiverId amount).issued db := by
  have rows : (transferBody env actor senderId receiverId amount).issued db =
      (Sql.ofExcept (authorize actor (db.find .account senderId) (db.find .account receiverId)) >>=
        fun _ => move env senderId receiverId amount).issued db := by
    by_cases le : senderId ≤ receiverId
    · simp [transferBody, Accounts.lock, le, ne.symm, Sql.issued]
    · simp [transferBody, Accounts.lock, le, ne, Sql.issued]
  rw [rows]
  cases authorize actor (db.find .account senderId) (db.find .account receiverId) with
  | error e => rfl
  | ok _ => rfl

theorem transfer_issued {db : Db} {env : Env} {actor : Actor} {senderId receiverId : String}
    {amount : Decimal} {a : Int} (rounded : quantize amount = .ok a) (positive : 0 < a)
    (differ : senderId ≠ receiverId) :
    (transfer env actor senderId receiverId amount).issued db =
      (transferBody env actor senderId receiverId a).issued db := by
  rw [transfer, rounded]
  simp only [Service.ofExcept, Service.done_bind, Int.not_le.mpr positive, differ, if_false,
    unitOfWork, Service.issued]
  cases (transferBody env actor senderId receiverId a).run db <;> exact List.append_nil _

theorem balances_update {db : Db} {id : String} {r : Account} {change : AccountChange}
    (found : db.find .account id = some r) (selected : Change.selects .account change r = true) :
    (Statement.update .account id change).balances db = [(Change.apply .account change r).balance] := by
  simp [Statement.balances, found, selected]

theorem debited {db : Db} (valid : db.Valid) {senderId : String} {a : Int} {sender : Account}
    (hs : db.find .account senderId = some sender) (positive : 0 < a) (funds : a ≤ sender.balance) :
    (Statement.update .account senderId (.debit a)).exec db =
      .ok (1, db.withBalance sender (sender.balance - a)) := by
  rw [exec_debit valid hs positive, if_pos funds]

theorem transfer_balances {db : Db} (valid : db.Valid) (env : Env) (actor : Actor)
    (senderId receiverId : String) {amount : Decimal} {a : Int} (rounded : quantize amount = .ok a)
    (positive : 0 < a) :
    ∀ issued ∈ (transfer env actor senderId receiverId amount).issued db,
      ∀ balance ∈ issued.1.balances issued.2, 0 ≤ balance ∧ balance < (10 ^ 15 : Int) ∨
        ∃ sender receiver,
          firstFailure (transferConditions db actor senderId receiverId a) = none ∧
          db.find .account senderId = some sender ∧
          (db.withBalance sender (sender.balance - a)).find .account receiverId = some receiver ∧
          balance = receiver.balance + a := by
  by_cases differ : senderId = receiverId
  · rw [transfer, rounded]
    simp [Service.ofExcept, Int.not_le.mpr positive, differ, raise, Service.issued]
  rw [transfer_issued rounded positive differ, transferBody_issued differ]
  cases access : authorize actor (db.find .account senderId) (db.find .account receiverId) with
  | error e => simp
  | ok _ =>
      obtain ⟨sender, receiver, hs, hr, owner⟩ := authorize_ok access
      obtain ⟨receiver', hr'⟩ := receiver_found hs hr (sender.balance - a)
      by_cases funds : a ≤ sender.balance
      · rw [move_issued (debited valid hs positive funds)]
        have met : firstFailure (transferConditions db actor senderId receiverId a) = none := by
          simpa [firstFailure, transferConditions, positive, differ, hs, hr, funds] using owner
        have small := (balance_range valid hs).2
        intro issued mem balance computed
        rcases List.mem_cons.mp mem with rfl | mem
        · rw [balances_update hs (by simpa [Change.selects] using funds)] at computed
          rw [List.mem_singleton.mp computed]
          exact Or.inl ⟨by simp [Change.apply]; omega, by simp [Change.apply]; omega⟩
        rcases List.mem_cons.mp mem with rfl | mem
        · rw [balances_update hr' rfl] at computed
          exact Or.inr ⟨sender, receiver', met, hs, hr', List.mem_singleton.mp computed⟩
        · cases credit : (Statement.update .account receiverId (.credit a)).exec
            (db.withBalance sender (sender.balance - a)) with
          | error e => simp [credit] at mem
          | ok result =>
              simp only [credit, List.mem_singleton] at mem
              subst mem
              cases computed
      · have debit := exec_debit valid hs positive
        rw [if_neg funds] at debit
        have first : (move env senderId receiverId a).issued db =
            [(.update .account senderId (.debit a), db)] := by
          simp [move, Accounts.debit, updateRow, Sql.issued, debit, Sql.throw]
        intro issued mem balance computed
        simp only [first, List.mem_singleton] at mem
        subst mem
        simp [Statement.balances, hs, Change.selects, funds] at computed

theorem settle_ne_app {db : Db} {sender receiver : Account} {txn : Transaction}
    (funds : txn.amount ≤ sender.balance) {error : AppError} {message : String} :
    db.settle sender receiver txn ≠ .error (.app error message) := by
  rw [Db.settle, if_neg (Int.not_lt.mpr funds)]
  split
  · split
    · simp
    · split <;> simp
  · simp

theorem credit_range {db : Db} (valid : db.Valid) {senderId receiverId : String} {a : Int}
    {sender receiver receiver' : Account} (hs : db.find .account senderId = some sender)
    (hr : db.find .account receiverId = some receiver)
    (hr' : (db.withBalance sender (sender.balance - a)).find .account receiverId = some receiver') :
    (receiver'.balance + a < (10 ^ 15 : Int)) ↔ key senderId = key receiverId ∨
      ∀ r, db.find .account receiverId = some r → r.balance + a < (10 ^ 15 : Int) := by
  rw [withBalance_find hs] at hr'
  by_cases same : key receiverId = key senderId
  · rw [if_pos same] at hr'
    cases hr'
    have small := (balance_range valid hs).2
    simpa [same] using small
  · rw [if_neg same, hr] at hr'
    cases hr'
    simp [hr, Ne.symm same]

theorem transfer_inRange_iff {db : Db} (valid : db.Valid) (env : Env) (actor : Actor)
    (senderId receiverId : String) {amount : Decimal} {a : Int} (rounded : quantize amount = .ok a)
    (positive : 0 < a) :
    (transfer env actor senderId receiverId amount).InRange db ↔
      (firstFailure (transferConditions db actor senderId receiverId a) = none →
        TransferStorable db env senderId receiverId a) := by
  have balances := transfer_balances valid env actor senderId receiverId rounded positive
  obtain ⟨error, message, first, run⟩ | ⟨met, -, differ, sender, receiver, receiver', hs, hr,
    owner, funds, hr', run⟩ := transfer_checked valid env actor senderId receiverId rounded
  · rw [first]
    refine ⟨nofun, fun _ => ⟨Or.inr ⟨error, message, by rw [run]⟩, ?_⟩⟩
    intro issued mem balance computed
    rcases balances issued mem balance computed with inside | ⟨_, _, met, _⟩
    · exact inside
    · rw [first] at met
      cases met
  have range := credit_range valid hs hr hr'
  rw [met]
  constructor
  · rintro ⟨ends, -⟩ -
    cases settled : db.settle sender receiver' (ledgerRecord env senderId receiverId a) with
    | ok result =>
        obtain ⟨-, small, fits, fresh, -⟩ := settle_ok settled
        exact ⟨range.mp small, fits, fresh⟩
    | error e =>
        rw [settled] at run
        rw [run] at ends
        rcases ends with ⟨_, ⟨⟩⟩ | ⟨error, message, ⟨⟩⟩
        exact absurd settled (settle_ne_app funds)
  · intro storable
    obtain ⟨room, fits, fresh⟩ := storable rfl
    have small := range.mpr room
    rw [settle_funds funds small fits fresh] at run
    refine ⟨Or.inl ⟨_, by rw [run]⟩, ?_⟩
    intro issued mem balance computed
    rcases balances issued mem balance computed with inside | ⟨sender', r, -, hs', hr'', rfl⟩
    · exact inside
    · obtain rfl : sender = sender' := Option.some.inj (hs.symm.trans hs')
      obtain rfl : receiver' = r := Option.some.inj (hr'.symm.trans hr'')
      have nonneg := (balance_range (exec_valid valid (debited valid hs positive funds)) hr').1
      omega

theorem setBalance_issued {db : Db} {id : String} {balance : Decimal} {a : Int}
    (rounded : quantize balance = .ok a) :
    (AccountService.setBalance id balance).issued db =
      [(.update .account id (.setBalance a), db)] := by
  simp only [AccountService.setBalance, rounded, Service.ofExcept, Service.done_bind,
    updateThenGet, Accounts.setBalance, updateRow, Sql.execute_bind, Sql.done_bind, guarded,
    Service.issued, Sql.issued, Sql.run]
  cases (Statement.update .account id (.setBalance a)).exec db with
  | error e => rfl
  | ok result =>
      by_cases unchanged : result.1 = 0
      · simp [unchanged, Sql.throw, Sql.issued, Sql.run]
      · simp [unchanged, Accounts.get, getRow, Sql.issued, Sql.run]

theorem setBalance_run (db : Db) (id : String) {balance : Decimal} {a : Int}
    (rounded : quantize balance = .ok a) :
    ((AccountService.setBalance id balance).run db).1 =
      match (Statement.update .account id (.setBalance a)).exec db with
      | .error e => .error (integrityGuard (.driver e))
      | .ok (n, db') =>
          if n = 0 then .error (.app .notFound "Account not found")
          else .ok (db'.find .account id) := by
  have reads (db : Db) : (Accounts.get id).run db = .ok ((db.find .account id).map (fun r => r), db) := by
    simp [Accounts.get, getRow, Sql.run]
  simp only [AccountService.setBalance, rounded, Service.ofExcept, Service.done_bind,
    Accounts.setBalance]
  rw [updateThenGet_run reads]
  cases (Statement.update .account id (.setBalance a)).exec db with
  | error e => rfl
  | ok result =>
      by_cases unchanged : result.1 = 0
      · simp [unchanged]
      · simp [unchanged]

theorem setBalance_inRange_iff {db : Db} (valid : db.Valid) (id : String) {balance : Decimal}
    {a : Int} (rounded : quantize balance = .ok a) :
    (AccountService.setBalance id balance).InRange db ↔
      ((db.find .account id).isSome → 0 ≤ a ∧ a < (10 ^ 15 : Int)) := by
  have run := setBalance_run db id rounded
  unfold Service.InRange
  rw [setBalance_issued rounded, run]
  cases found : db.find .account id with
  | none =>
      have missing : (Statement.update .account id (.setBalance a)).exec db = .ok (0, db) := by
        simp [Statement.exec, Change.assigns, found]
      simp [missing, Statement.balances, found]
  | some r =>
      have computed := balances_update found (show Change.selects .account (.setBalance a) r = true from rfl)
      have exec : (Statement.update .account id (.setBalance a)).exec db = _ :=
        exec_balance valid found rfl rfl
      simp only [List.forall_mem_singleton, computed]
      constructor
      · intro h _
        exact h.2
      · intro h
        obtain ⟨nonneg, small⟩ := h rfl
        refine ⟨?_, nonneg, small⟩
        rw [exec, if_neg (by omega)]
        by_cases same : a = r.balance
        · rw [if_pos same]
          exact Or.inr ⟨_, _, rfl⟩
        · rw [if_neg same, if_neg (by omega)]
          exact Or.inl ⟨_, rfl⟩

theorem money_inRange_iff {db : Db} [Werkzeug] (reached : Reachable db) (env : Env) :
    (∀ actor senderId receiverId amount a, quantize amount = .ok a → 0 < a →
      ((transfer env actor senderId receiverId amount).InRange db ↔
        (firstFailure (transferConditions db actor senderId receiverId a) = none →
          TransferStorable db env senderId receiverId a))) ∧
    ∀ accountId balance a, quantize balance = .ok a →
      ((AccountService.setBalance accountId balance).InRange db ↔
        ((db.find .account accountId).isSome → 0 ≤ a ∧ a < (10 ^ 15 : Int))) :=
  ⟨fun actor senderId receiverId _ _ rounded positive =>
      transfer_inRange_iff reached.valid env actor senderId receiverId rounded positive,
    fun accountId _ _ rounded => setBalance_inRange_iff reached.valid accountId rounded⟩

end

/-! ## A full account -/

section
attribute [local instance] foldCase clearText

theorem money_inRange_opened : (transfer (noon "t-1") ann "a-1" "b-1" ⟨25, 0⟩).InRange opened ↔
    (firstFailure (transferConditions opened ann "a-1" "b-1" 2500) = none →
      TransferStorable opened (noon "t-1") "a-1" "b-1" 2500) :=
  (money_inRange_iff reachable_opened (noon "t-1")).1 ann "a-1" "b-1" ⟨25, 0⟩ 2500 rfl (by decide)

/-- The receiver holds the largest balance of the column. -/
def brimful : Db := replay [(.setBalance "b-1" ⟨999999999999999, -2⟩, noon "")] opened

/-- The credit dies of MySQL's error 1264, which reaches the caller as it is. -/
theorem credit_overflows : Reachable brimful ∧
    quantize ⟨1, 0⟩ = .ok 100 ∧ ¬(transfer (noon "t-1") ann "a-1" "b-1" ⟨1, 0⟩).InRange brimful ∧
    ((transfer (noon "t-1") ann "a-1" "b-1" ⟨1, 0⟩).run brimful).1 =
      .error (.driver (mysqlError 1264)) := by
  have run : ((transfer (noon "t-1") ann "a-1" "b-1" ⟨1, 0⟩).run brimful).1 =
      .error (.driver (mysqlError 1264)) := by decide +kernel
  refine ⟨reachable_opened.replay _, rfl, ?_, run⟩
  rintro ⟨ends, -⟩
  rw [run] at ends
  rcases ends with ⟨_, ⟨⟩⟩ | ⟨_, _, ⟨⟩⟩

end

end Corebank
