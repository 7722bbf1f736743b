import Corebank.Proof.Demo
import Corebank.Proof.SerialTransfers
import Corebank.Proof.TransferOutcome

/-! # The atomic storm has clean rejections only -/

namespace Corebank
open Library Library.TwoPhase TransactionService

/-- `ADMIN` of the demo. -/
def demoAdmin : Actor := ⟨"admin", .admin, none⟩

/-- `transaction_service.transfer(ADMIN, s, r, a)`. -/
def Withdrawal.call (t : Withdrawal) (env : Env) : TransferCall :=
  ⟨demoAdmin, t.sender, t.receiver, .ofCents t.amount, env⟩

section
variable [Collation] {db : Db} {t : Withdrawal} {env : Env}

/-- Where a withdrawal is as the demo makes it, between two accounts by their own ids. -/
structure Proper (db : Db) (t : Withdrawal) : Prop extends Good db t where
  differ : t.sender ≠ t.receiver
  senderSpelled : db.Spelled .account t.sender
  receiverSpelled : db.Spelled .account t.receiver

def CleanOutcome (outcome : Except Exn Response) : Prop :=
  (∃ txn, outcome = .ok (.row .transaction (some txn))) ∨
    outcome = .error (.app .businessRule "Insufficient funds")

omit [Collation] in
theorem quantize_ofCents {c : Int} (small : c.natAbs < 10 ^ 28) : quantize (.ofCents c) = .ok c := by
  have cents : (Decimal.ofCents c).toCents = c := by simp [Decimal.ofCents, Decimal.toCents]
  rw [quantize, cents, if_pos small]

/-- The money of the bank fits one account, so a credit does too. -/
theorem transfer_fits (valid : db.Valid) {senderId receiverId : String} {sender receiver : Account}
    {amount : Int} (hs : db.find .account senderId = some sender)
    (hr : (db.withBalance sender (sender.balance - amount)).find .account receiverId = some receiver)
    (positive : 0 < amount) (funds : amount ≤ sender.balance)
    (bounded : db.totalBalance < (10 ^ 15 : Int)) : receiver.balance + amount < (10 ^ 15 : Int) := by
  have small := (balance_range valid hs).2
  have validAfter : (db.withBalance sender (sender.balance - amount)).Valid :=
    valid_withBalance valid hs (by omega) (by omega) (by omega)
  have stored := balance_le_total validAfter hr
  have total := totalBalance_withBalance valid hs (sender.balance - amount)
  omega

variable [Werkzeug]

theorem serve_clean (valid : db.Valid) (proper : Proper db t) (usable : env.Usable db .transaction)
    (bounded : db.totalBalance < (10 ^ 15 : Int)) (small : t.amount.natAbs < 10 ^ 28) :
    CleanOutcome ((t.call env).serve db).1 := by
  obtain ⟨sender, hs⟩ := Option.isSome_iff_exists.mp proper.sender
  obtain ⟨receiver, hr⟩ := Option.isSome_iff_exists.mp proper.receiver
  obtain ⟨receiver', hr'⟩ := receiver_found hs hr (sender.balance - t.amount)
  rw [TransferCall.serve, TransferCall.request]
  simp only [Operation.serve, respond_run, Withdrawal.call, transfer_run, quantize_ofCents small]
  rw [if_neg (Int.not_le.mpr proper.positive), if_neg proper.differ, transferBody_run proper.differ,
    hs, hr, authorize_of, if_pos (Or.inl (by rfl : demoAdmin.role = .admin))]
  simp only [move_run valid hs hr' proper.positive]
  by_cases poor : sender.balance < t.amount
  · have rejected : db.settle sender receiver' (ledgerRecord env t.sender t.receiver t.amount) =
        .error (.app .businessRule "Insufficient funds") := settle_poor poor
    rw [rejected]
    exact Or.inr rfl
  · have funds := Int.not_lt.mp poor
    have fits := ledgerRecord_fits valid hs hr proper.senderSpelled proper.receiverSpelled usable
      proper.positive funds
    have settled : db.settle sender receiver' (ledgerRecord env t.sender t.receiver t.amount) =
        .ok (ledgerRecord env t.sender t.receiver t.amount,
          db.transferred sender receiver' (ledgerRecord env t.sender t.receiver t.amount)) :=
      settle_funds funds (transfer_fits valid hs hr' proper.positive funds bounded) fits usable.unused
    rw [settled]
    exact Or.inl ⟨_, rfl⟩

/-! ## What transfers leave of the accounts -/

omit [Werkzeug] in
theorem record_find (db : Db) (txn : Transaction) (id : String) :
    (db.record txn).find .account id = db.find .account id := by
  rw [Db.record, Db.find, Db.set_other _ _ (by decide), Db.find]

theorem serve_proper (call : TransferCall) (valid : db.Valid) (proper : Proper db t) :
    Proper (call.serve db).2 t := by
  rcases serve_cases call valid with ⟨e, run⟩ | ⟨cents, sender, receiver, ok, run⟩ <;> rw [run]
  · exact proper
  · have isSome (id : String) : ((db.transferred sender receiver
        (ledgerRecord call.env call.senderId call.receiverId cents)).find .account id).isSome =
          (db.find .account id).isSome := by
      have found := withBalance_find_isSome ok.receiverFound (receiver.balance + cents) id
      rw [Db.transferred, record_find]
      exact found.trans (withBalance_find_isSome ok.senderFound _ id)
    have spelled {id : String} (spelled : db.Spelled .account id) : (db.transferred sender receiver
        (ledgerRecord call.env call.senderId call.receiverId cents)).Spelled .account id := by
      intro r found
      rw [Db.transferred, record_find] at found
      exact spelled_withBalance ok.receiverFound _ (spelled_withBalance ok.senderFound _ spelled) r found
    exact ⟨⟨proper.positive, (isSome _).trans proper.sender, (isSome _).trans proper.receiver⟩,
      proper.differ, spelled proper.senderSpelled, spelled proper.receiverSpelled⟩

variable {ι : Type}

theorem serially_proper {calls : ι → TransferCall} (valid : db.Valid) (proper : Proper db t)
    (order : List ι) : Proper (serially calls order db) t := by
  induction order using List.reverseRecOn with
  | nil => exact proper
  | append_singleton order i ih =>
      rw [serially_concat]
      exact serve_proper (calls i) (serially_valid valid order) ih

/-! ## Any interleaving -/

variable [DecidableEq ι] [Fintype ι] {withdrawals : ι → Withdrawal} {env : ι → Env}

/-- What a call ends with it ends with after some of the others alone. -/
theorem result_serve {calls : ι → TransferCall} (valid : db.Valid) (fresh : FreshIds db calls) {n : Nat}
    {m : Bank ι} (reached : Machine.Reachable accountSchema (fun i => (calls i).job) false
      (start n db.accounts) m) {i : ι} {outcome : Except Exn Response}
    (ended : (m.phase i).result = some outcome) :
    ∃ before, (serially calls before db).find .transaction (calls i).env.newId = none ∧
      ((calls i).serve (serially calls before db)).1 = outcome := by
  have serial := Reachable.serial (fun i => job_locking (calls i)) (valid.ids .account) reached
  have mem : i ∈ m.order := (serial.ended i).mpr (by rw [ended]; rfl)
  obtain ⟨before, later, split⟩ := List.append_of_mem mem
  have apart := List.nodup_append.mp (split ▸ serial.nodup)
  have notYet : i ∉ before := fun mem => apart.2.2 i mem i List.mem_cons_self rfl
  obtain ⟨same, validBefore, unused⟩ := after_jobs valid fresh apart.1
  refine ⟨before, unused i notYet, ?_⟩
  have result := serial.results before i later split
  rw [ended, same] at result
  rw [Option.some.inj result]
  exact (congrArg Prod.fst (transferJob_run validBefore (unused i notYet) (calls i).amount)).symm

/-- Whatever the interleaving, a transfer of the storm succeeds or is rejected for its funds: no error
of the database is left to see. -/
theorem atomic_storm (valid : db.Valid) (bounded : db.totalBalance < (10 ^ 15 : Int))
    (proper : ∀ i, Proper db (withdrawals i)) (small : ∀ i, (withdrawals i).amount.natAbs < 10 ^ 28)
    (usable : ∀ i, (env i).Usable db .transaction)
    (distinct : ∀ i j, key (env i).newId = key (env j).newId → i = j) {n : Nat} {m : Bank ι}
    (reached : Machine.Reachable accountSchema (fun i => ((withdrawals i).call (env i)).job) false
      (start n db.accounts) m) (i : ι) (outcome : Except Exn Response)
    (ended : (m.phase i).result = some outcome) : CleanOutcome outcome := by
  have fresh : FreshIds db fun i => (withdrawals i).call (env i) :=
    ⟨fun i => (usable i).unused, distinct⟩
  obtain ⟨before, unused, rfl⟩ := result_serve valid fresh reached ended
  have money : (serially (fun i => (withdrawals i).call (env i)) before db).totalBalance =
      db.totalBalance := serially_money valid before
  have usableNow : (env i).Usable (serially _ before db) .transaction :=
    ⟨unused, (usable i).short, (usable i).kept, (usable i).moment⟩
  exact serve_clean (serially_valid valid before) (serially_proper valid (proper i) before) usableNow
    (money ▸ bounded) (small i)

end

/-! ## Two workers and one account -/

attribute [local instance] foldCase clearText

def drained : Withdrawal := ⟨"a-1", "b-1", 6000⟩

def ledgerEnv : Bool → Env
  | false => noon "t-1"
  | true => noon "t-2"

def contended : Option (Bank Bool) :=
  (start 2 opened.accounts : Bank Bool).follow accountSchema
    (fun i => (drained.call (ledgerEnv i)).job)
    (List.replicate 3 false ++ List.replicate 2 true ++ List.replicate 5 false ++ List.replicate 6 true)

theorem drained_proper : Proper opened drained :=
  ⟨⟨by decide, by decide +kernel, by decide +kernel⟩, by decide, spelled_of_all (by decide +kernel),
    spelled_of_all (by decide +kernel)⟩

theorem atomic_storm_contended : ∃ m outcome, contended = some m ∧
    (m.phase true).result = some outcome ∧ CleanOutcome outcome := by
  have ends : (contended.bind fun m => (m.phase true).result).isSome := by decide +kernel
  obtain ⟨outcome, result⟩ := Option.isSome_iff_exists.mp ends
  obtain ⟨m, run, ended⟩ := Option.bind_eq_some_iff.mp result
  have usable : ∀ i, (ledgerEnv i).Usable opened .transaction := fun i =>
    ⟨by revert i; decide +kernel, by revert i; decide +kernel, by revert i; decide +kernel,
      by revert i; decide +kernel⟩
  exact ⟨m, outcome, run, ended, atomic_storm reachable_opened.valid (by decide +kernel)
    (fun _ => drained_proper) (fun _ => by decide) usable (by decide +kernel)
    (Machine.Reachable.start.follow _ _ run) true outcome ended⟩

end Corebank
