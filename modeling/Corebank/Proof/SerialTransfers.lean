import Corebank.Proof.Jobs
import Corebank.Library.Interleaving
import Corebank.Library.RowInvariant

/-! # Concurrent transfers end as transfers one at a time -/

namespace Corebank
open Library Library.TwoPhase TransactionService

section
variable [Collation] [Werkzeug] {db : Db} {actor : Actor}

/-! ## One call after the other -/

/-- `new_id` gives every call an id that no ledger row has. -/
structure FreshIds {ι : Type} (db : Db) (calls : ι → TransferCall) : Prop where
  unused : ∀ i, db.find .transaction (calls i).env.newId = none
  distinct : ∀ i j, key (calls i).env.newId = key (calls j).env.newId → i = j

def serially {ι : Type} (calls : ι → TransferCall) (order : List ι) (db : Db) : Db :=
  replay (order.map fun i => (calls i).request) db

def TransferCall.serve (call : TransferCall) (db : Db) : Except Exn Response × Db :=
  (call.request.1.serve call.request.2).run db

theorem serially_concat {ι : Type} (calls : ι → TransferCall) (order : List ι) (i : ι) (db : Db) :
    serially calls (order ++ [i]) db = ((calls i).serve (serially calls order db)).2 := by
  simp [serially, replay, TransferCall.serve]

theorem serve_cases (call : TransferCall) (valid : db.Valid) :
    (∃ e, call.serve db = (.error e, db)) ∨
    ∃ cents sender receiver,
      TransferOk db call.env call.actor call.senderId call.receiverId cents sender receiver ∧
      call.serve db =
        (.ok (.row .transaction (some (ledgerRecord call.env call.senderId call.receiverId cents))),
          db.transferred sender receiver
            (ledgerRecord call.env call.senderId call.receiverId cents)) := by
  rw [TransferCall.serve, TransferCall.request]
  simp only [Operation.serve, respond_run]
  cases run : (transfer call.env call.actor call.senderId call.receiverId call.amount).run db with
  | mk outcome db' =>
      cases outcome with
      | error e =>
          obtain rfl := transfer_error run
          exact Or.inl ⟨e, rfl⟩
      | ok txn =>
          obtain ⟨cents, sender, receiver, -, ok, rfl, rfl⟩ := transfer_ok valid run
          exact Or.inr ⟨cents, sender, receiver, ok, rfl⟩

theorem serve_fresh (call : TransferCall) (valid : db.Valid) {id : String}
    (unused : db.find .transaction id = none) (ne : key id ≠ key call.env.newId) :
    (call.serve db).2.find .transaction id = none := by
  rcases serve_cases call valid with ⟨e, run⟩ | ⟨cents, sender, receiver, ok, run⟩ <;> rw [run]
  · exact unused
  · simp only [Db.find, transferred_ledger, Keyed.lookup_append]
    rw [Db.find] at unused
    rw [unused, Option.none_or, Keyed.lookup_eq_none]
    intro row mem same
    rw [List.mem_singleton.mp mem, rowKey_store] at same
    exact ne same.symm

theorem serve_money (call : TransferCall) (valid : db.Valid) :
    (call.serve db).2.totalBalance = db.totalBalance := by
  rcases serve_cases call valid with ⟨e, run⟩ | ⟨cents, sender, receiver, ok, run⟩ <;> rw [run]
  exact transferred_money valid ok

/-- The ledger row of a call that succeeded. -/
def sent : Except Exn Response → Option Transaction
  | .ok (.row .transaction (some txn)) => some (store .transaction txn)
  | _ => none

theorem serve_ledger (call : TransferCall) (valid : db.Valid) :
    (call.serve db).2 .transaction = db .transaction ++ (sent (call.serve db).1).toList := by
  rcases serve_cases call valid with ⟨e, run⟩ | ⟨cents, sender, receiver, ok, run⟩ <;> rw [run]
  · exact (List.append_nil _).symm
  · exact transferred_ledger db sender receiver _

/-! ## Why a transfer is refused -/

def Refusal : Exn → Prop
  | .app _ _ | .invalidOperation => True
  | .driver e => e ∈ [1406, 1264, 1292, 1062].map mysqlError
  | _ => False

omit [Collation] [Werkzeug] in
theorem authorize_refusal {sender receiver : Option Account} {e : Exn}
    (h : authorize actor sender receiver = .error e) : Refusal e := by
  unfold authorize at h
  split at h
  · cases h
    trivial
  · cases h
    trivial
  · split at h
    · cases h
      trivial
    · cases h

omit [Werkzeug] in
theorem settle_refusal {sender receiver : Account} {txn : Transaction} {e : Exn}
    (h : db.settle sender receiver txn = .error e) : Refusal e := by
  unfold Db.settle at h
  split at h
  · cases h
    trivial
  split at h
  · split at h
    · rename_i column found
      cases h
      have columns : ∀ e ∈ [mysqlError 1406, mysqlError 1264, mysqlError 1292],
          e ∈ [1406, 1264, 1292, 1062].map mysqlError := by decide
      exact columns column (misfit_columnError .transaction txn column found)
    · split at h
      · cases h
        simp [Refusal]
      · cases h
  · cases h
    simp [Refusal]

theorem serve_refusal (call : TransferCall) (valid : db.Valid) {e : Exn}
    (h : (call.serve db).1 = .error e) : Refusal e := by
  rw [TransferCall.serve, TransferCall.request] at h
  simp only [Operation.serve, respond_run, transfer_run] at h
  cases rounded : quantize call.amount with
  | error e' =>
      rw [rounded] at h
      cases h
      unfold quantize at rounded
      split at rounded <;> cases rounded
      trivial
  | ok cents =>
      simp only [rounded] at h
      split at h
      · cases h
        trivial
      rename_i positive
      split at h
      · cases h
        trivial
      rename_i differ
      rw [transferBody_run differ] at h
      cases access : authorize call.actor (db.find .account call.senderId)
          (db.find .account call.receiverId) with
      | error e' =>
          simp only [access, Except.map] at h
          cases h
          exact authorize_refusal access
      | ok _ =>
          obtain ⟨sender, receiver, hs, hr, -⟩ := authorize_ok access
          obtain ⟨receiver', hr'⟩ := receiver_found hs hr (sender.balance - cents)
          simp only [access, move_run valid hs hr' (Int.not_le.mp positive)] at h
          cases settled : db.settle sender receiver'
              (ledgerRecord call.env call.senderId call.receiverId cents) with
          | ok result =>
              simp only [settled, Except.map] at h
              cases h
          | error e' =>
              simp only [settled, Except.map] at h
              cases h
              exact settle_refusal settled

/-! ## Any interleaving -/

variable {ι : Type} [DecidableEq ι] [Fintype ι] {calls : ι → TransferCall}

omit [DecidableEq ι] [Fintype ι] in
theorem after_jobs (valid : db.Valid) (fresh : FreshIds db calls) {order : List ι}
    (nodup : order.Nodup) :
    after accountSchema (fun i => (calls i).job) order db.accounts =
      (serially calls order db).accounts ∧
    (serially calls order db).Valid ∧
    ∀ i, i ∉ order → (serially calls order db).find .transaction (calls i).env.newId = none := by
  induction order using List.reverseRecOn with
  | nil => exact ⟨rfl, valid, fun i _ => fresh.unused i⟩
  | append_singleton order i ih =>
      have split := List.nodup_append.mp nodup
      obtain ⟨same, validBefore, unused⟩ := ih split.1
      have notYet : i ∉ order := fun mem => split.2.2 i mem i List.mem_cons_self rfl
      rw [serially_concat]
      refine ⟨?_, Service.run_valid _ validBefore, fun j notIn => ?_⟩
      · have run : (calls i).job.run accountSchema (serially calls order db).accounts =
            (((calls i).serve (serially calls order db)).1,
              ((calls i).serve (serially calls order db)).2.accounts) :=
          transferJob_run validBefore (unused i notYet) (calls i).amount
        rw [after_concat, same]
        exact congrArg Prod.snd run
      · rw [List.mem_append, List.mem_singleton, not_or] at notIn
        exact serve_fresh (calls i) validBefore (unused j notIn.1) fun clash =>
          notIn.2 (fresh.distinct j i clash)

omit [DecidableEq ι] [Fintype ι] in
theorem serially_valid (valid : db.Valid) (order : List ι) : (serially calls order db).Valid := by
  induction order using List.reverseRecOn with
  | nil => exact valid
  | append_singleton order i ih =>
      rw [serially_concat]
      exact Service.run_valid _ ih

omit [DecidableEq ι] [Fintype ι] in
theorem serially_money (valid : db.Valid) (order : List ι) :
    (serially calls order db).totalBalance = db.totalBalance := by
  induction order using List.reverseRecOn with
  | nil => rfl
  | append_singleton order i ih =>
      rw [serially_concat, serve_money (calls i) (serially_valid valid order), ih]

omit [DecidableEq ι] [Fintype ι] in
theorem serially_ledger (valid : db.Valid) {order : List ι}
    {result : ι → Option (Except Exn Response)}
    (results : ∀ before i later, order = before ++ i :: later →
      result i = some ((calls i).serve (serially calls before db)).1) :
    serially calls order db .transaction =
      db .transaction ++ order.filterMap fun i => (result i).bind sent := by
  induction order using List.reverseRecOn with
  | nil => exact (List.append_nil _).symm
  | append_singleton order i ih =>
      have before := ih fun before j later eq => results before j (later ++ [i]) (by rw [eq]; simp)
      rw [serially_concat, serve_ledger (calls i) (serially_valid valid order), before,
        List.filterMap_append, List.append_assoc]
      congr 2
      rw [List.filterMap_cons, results order i [] rfl, Option.bind_some]
      cases sent ((calls i).serve (serially calls order db)).1 with
      | none => rfl
      | some txn => rfl

/-- A state of the bank is that of its finished calls one at a time, in the order they finished. -/
structure SerialRun (db : Db) (calls : ι → TransferCall) (m : Bank ι) : Prop where
  ended : ∀ i, i ∈ m.order ↔ (m.phase i).result.isSome
  once : m.order.Nodup
  committed : m.committed = (serially calls m.order db).accounts
  results : ∀ before i later, m.order = before ++ i :: later →
    (m.phase i).result = some ((calls i).serve (serially calls before db)).1
  money : (m.committed.rows.map Account.balance).sum = db.totalBalance
  nonneg : ∀ a ∈ m.committed.rows, 0 ≤ a.balance
  uncommitted : ∀ i, ∀ a ∈ (m.phase i).own, 0 ≤ a.balance
  check : ∀ i, (m.phase i).raised ≠ some (.driver (mysqlError 3819))
  ledger : m.committed.log =
    db .transaction ++ m.order.filterMap fun i => (m.phase i).result.bind sent

omit [Werkzeug] [DecidableEq ι] [Fintype ι] in
theorem transferSteps_locking (env : Env) (actor : Actor) (senderId receiverId : String)
    (amount : Int) : (transferSteps env actor senderId receiverId amount).Locking := by
  intro first second
  simp only
  split
  · trivial
  · intro debited
    simp only
    split
    · trivial
    · intro credited
      simp only [ledgerSteps]
      split <;> trivial

omit [Werkzeug] in
theorem job_locking (call : TransferCall) : call.job.Locking := by
  unfold TransferCall.job transferJob
  split
  · trivial
  · split
    · trivial
    · split
      · trivial
      · exact ⟨rfl, transferSteps_locking _ _ _ _ _⟩

omit [Werkzeug] in
theorem keeps_nonneg (p : AccountProg) : p.Keeps accountSchema fun a => 0 ≤ a.balance := by
  induction p with
  | done r => trivial
  | raise e => trivial
  | select next ih => exact ih
  | lock k next ih => exact ih
  | update k change next ih =>
      refine ⟨fun a a' _ h => ?_, ih⟩
      have updated : updateAccount change a = .ok (some a') := h
      exact of_decide_eq_true (updateAccount_ok updated).2
  | append entry next ih => exact ih

theorem transfers_serializable (valid : db.Valid) (fresh : FreshIds db calls) {n : Nat}
    {m : Bank ι}
    (reached : Machine.Reachable accountSchema (fun i => (calls i).job) false
      (start n db.accounts) m) : SerialRun db calls m := by
  have serial := Reachable.serial (fun i => job_locking (calls i)) (valid.ids .account) reached
  have rows_nonneg : ∀ a ∈ db.accounts.rows, 0 ≤ a.balance := fun a mem => by
    simpa [checks] using valid.checks .account a mem
  have keeps (i : ι) : (calls i).job.Keeps accountSchema fun a => 0 ≤ a.balance := by
    cases (calls i).job with
    | refused e => trivial
    | block kind body => exact keeps_nonneg body
  have all := Reachable.all keeps rows_nonneg reached
  obtain ⟨same, validNow, unused⟩ := after_jobs valid fresh serial.nodup
  have committed : m.committed = (serially calls m.order db).accounts := serial.committed.trans same
  have alone (before : List ι) (i : ι) (nodup : before.Nodup) (notYet : i ∉ before) :
      ((calls i).job.run accountSchema
        (after accountSchema (fun i => (calls i).job) before db.accounts)).1 =
        ((calls i).serve (serially calls before db)).1 := by
    obtain ⟨same, validBefore, unused⟩ := after_jobs valid fresh nodup
    rw [same]
    exact congrArg Prod.fst (transferJob_run validBefore (unused i notYet) (calls i).amount)
  have results (before : List ι) (i : ι) (later : List ι) (eq : m.order = before ++ i :: later) :
      (m.phase i).result = some ((calls i).serve (serially calls before db)).1 := by
    have split := List.nodup_append.mp (eq ▸ serial.nodup)
    rw [serial.results before i later eq,
      alone before i split.1 fun mem => split.2.2 i mem i List.mem_cons_self rfl]
  refine ⟨serial.ended, serial.nodup, committed, results, ?_, all.committed, all.own, ?_, ?_⟩
  · rw [committed]
    exact serially_money valid m.order
  · intro i raised
    obtain ⟨before, nodup, notYet, run⟩ := serial.raised raised
    rw [alone before i nodup notYet] at run
    have refusal := serve_refusal (calls i) (serially_valid valid before) run
    revert refusal
    simp only [Refusal]
    decide
  · rw [committed]
    exact serially_ledger valid results

end

attribute [local instance] foldCase clearText

/-- Ann pays Bob, who can pay her back only once her payment is committed. -/
def thereAndBack : Fin 2 → TransferCall
  | 0 => ⟨ann, "a-1", "b-1", ⟨40, 0⟩, noon "t-1"⟩
  | 1 => ⟨bob, "b-1", "a-1", ⟨5, 0⟩, noon "t-2"⟩

def interleaved : Option (Bank (Fin 2)) :=
  (start 2 opened.accounts : Bank (Fin 2)).follow accountSchema (fun i => (thereAndBack i).job)
    [0, 0, 0, 1, 1, 0, 0, 0, 0, 0, 1, 1, 1, 0, 1, 1, 1, 1]

theorem transfers_serializable_thereAndBack : ∃ m, interleaved = some m ∧
    SerialRun opened thereAndBack m ∧ m.order = [0, 1] ∧
    m.committed.rows.map Account.balance = [6500, 3500] := by
  have ends : (interleaved.map fun m => (m.order, m.committed.rows.map Account.balance)) =
      some ([0, 1], [6500, 3500]) := by decide +kernel
  obtain ⟨m, run, eq⟩ := Option.map_eq_some_iff.mp ends
  have fresh : FreshIds opened thereAndBack := ⟨by decide +kernel, by decide +kernel⟩
  exact ⟨m, run, transfers_serializable reachable_opened.valid fresh
    (Machine.Reachable.start.follow _ _ run), congrArg Prod.fst eq, congrArg Prod.snd eq⟩

end Corebank
