import Corebank.AccountCalls
import Corebank.Proof.Listings
import Corebank.Proof.ReadIsolation
import Corebank.Proof.SerialTransfers
import Corebank.Proof.WriteIsolation

/-! # Requests that run at the same time answer as requests one at a time -/

namespace Corebank
open Library Library.TwoPhase TransactionService

section
variable [Collation] {db : Db}

/-! ## Reads of the two tables -/

omit [Collation] in
@[simp] theorem accountTables_account (s : Store Account Transaction) :
    accountTables s .account = s.rows := by
  rw [accountTables, Db.set_other _ _ (by decide), Db.set_same]

omit [Collation] in
@[simp] theorem accountTables_transaction (s : Store Account Transaction) :
    accountTables s .transaction = s.log := by
  rw [accountTables, Db.set_same]

theorem find_account (db : Db) (id : String) :
    (accountTables db.accounts).find .account id = db.find .account id := by
  rw [Db.find, accountTables_account]
  rfl

theorem find_transaction (db : Db) (id : String) :
    (accountTables db.accounts).find .transaction id = db.find .transaction id := by
  rw [Db.find, accountTables_transaction]
  rfl

/-- A read that the account rows and the ledger answer. -/
structure OnAccounts (read : Service Response) : Prop where
  stays : ∀ db, (read.run db).2 = db
  answers : ∀ db, (read.run (accountTables db.accounts)).1 = (read.run db).1

theorem onAccounts_respond {α : Type} {op : Service α} (f : α → Response)
    (reads : op.Issues fun _ => False)
    (answers : ∀ db, (op.run (accountTables db.accounts)).1 = (op.run db).1) :
    OnAccounts (respond f op) where
  stays := reads_run (issues_respond _ reads)
  answers db := by rw [respond_run, respond_run, answers]

theorem readJob_run {read : Service Response} (on : OnAccounts read) (db : Db) :
    (readJob read).run accountSchema db.accounts = ((read.run db).1, (read.run db).2.accounts) := by
  rw [on.stays db, ← on.answers db, readJob]
  simp only [Job.run, Prog.run]
  cases (read.run (accountTables db.accounts)).1 with
  | ok r => rfl
  | error e => rfl

variable {actor : Actor}

theorem onAccounts_listAccounts :
    OnAccounts (respond (.rows .account) (AccountService.listForActor actor)) := by
  have reads : (AccountService.listForActor actor).Issues fun _ => False := issues_readOnly _
  refine onAccounts_respond _ reads fun db => ?_
  rw [listForActor_run, listForActor_run, accountTables_account]
  rfl

theorem onAccounts_getAccount (id : String) :
    OnAccounts (respond (.row .account ∘ some) (AccountService.get id actor)) := by
  apply onAccounts_respond _
  · exact Service.Issues.bind (issues_fetchRow _ _) fun a =>
      Service.Issues.bind (issues_ofExcept _) fun _ => trivial
  · intro db
    have run (db : Db) := fetchOwned_run (t := .account) id "Account not found" Account.customerId
      actor db
    have same := find_account db id
    simp only [AccountService.get, Accounts.get, run, same]

theorem onAccounts_listTransactions :
    OnAccounts (respond (.rows .transaction) TransactionService.listAll) := by
  have reads : TransactionService.listAll.Issues fun _ => False := issues_readOnly _
  refine onAccounts_respond _ reads fun db => ?_
  simp only [TransactionService.listAll, listRows, Transactions.listAll, readOnly, Service.run,
    Sql.run, accountTables_transaction]
  rfl

theorem ownSide_tables (db : Db) : ownSide actor (accountTables db.accounts) = ownSide actor db := by
  funext id
  cases id with
  | none => rfl
  | some id => simp only [ownSide, Option.any_some, find_account]

theorem onAccounts_getTransaction (id : String) :
    OnAccounts (respond (.row .transaction ∘ some) (TransactionService.get id actor)) := by
  have reads : (TransactionService.get id actor).Issues fun _ => False := issues_readOnly _
  refine onAccounts_respond _ reads fun db => ?_
  by_cases admin : actor.role = .admin
  · simp only [TransactionService.get, Transactions.get, getRow, readOnly, Service.run,
      Sql.fetch_bind, Sql.done_bind, Sql.run, admin, if_true, find_transaction]
    cases db.find .transaction id with
    | none => rfl
    | some txn => rfl
  · rw [getTransaction_run admin, getTransaction_run admin, find_transaction, ownSide_tables]

theorem onAccounts_accountTransactions (id : String) :
    OnAccounts (respond (.rows .transaction) (TransactionService.listByAccount id actor)) := by
  have reads : (TransactionService.listByAccount id actor).Issues fun _ => False := issues_readOnly _
  refine onAccounts_respond _ reads fun db => ?_
  rw [listByAccount_run, listByAccount_run, find_account, accountTables_transaction]
  rfl

/-! ## One request -/

variable [Werkzeug] [Marshmallow]

theorem request_run (request : AccountRequest) (valid : db.Valid)
    (fresh : db.find .transaction request.env.newId = none) :
    request.job.run accountSchema db.accounts =
      ((request.serve db).1, (request.serve db).2.accounts) := by
  obtain ⟨actor, call, env⟩ := request
  cases call with
  | listAccounts => exact readJob_run onAccounts_listAccounts db
  | getAccount id => exact readJob_run (onAccounts_getAccount id) db
  | getTransaction id => exact readJob_run (onAccounts_getTransaction id) db
  | accountTransactions id => exact readJob_run (onAccounts_accountTransactions id) db
  | listTransactions =>
      by_cases admin : actor.role = .admin
      · simp only [AccountRequest.job, AccountRequest.serve, AccountCall.api, ApiCall.serve, adminJob,
          adminRequired, admin, if_true]
        exact readJob_run onAccounts_listTransactions db
      · simp only [AccountRequest.job, AccountRequest.serve, AccountCall.api, ApiCall.serve, adminJob,
          adminRequired, admin, if_false]
        rfl
  | setBalance id body =>
      by_cases admin : actor.role = .admin
      · simp only [AccountRequest.job, AccountRequest.serve, AccountCall.api, ApiCall.serve, adminJob,
          adminRequired, admin, if_true]
        cases body with
        | none => rfl
        | some cents => exact @setBalanceJob_run _ db env _ valid id (Decimal.ofCents cents)
      · simp only [AccountRequest.job, AccountRequest.serve, AccountCall.api, ApiCall.serve, adminJob,
          adminRequired, admin, if_false]
        rfl
  | transfer body =>
      simp only [AccountRequest.job, AccountRequest.serve, AccountCall.api, ApiCall.serve]
      cases body with
      | none => rfl
      | some data =>
          by_cases admitted : data.admitted = true
          · simp only [argumentsJob, arguments, admitted, if_true]
            exact transferJob_run valid fresh (Decimal.ofCents data.amount)
          · simp only [argumentsJob, arguments, admitted]
            rfl

omit [Werkzeug] [Marshmallow] in
theorem readJob_covered (read : Service Response) : (readJob read).Covered accountSchema := by
  intro s
  simp only
  split <;> trivial

omit [Werkzeug] [Marshmallow] in
theorem setBalanceJob_covered (id : String) (balance : Decimal) :
    (setBalanceJob id balance).Covered accountSchema := by
  unfold setBalanceJob
  split
  · trivial
  · refine .update (fun n => ?_) ?_
    · split
      · exact .raise
      · refine .select (fun s s' same => ?_) fun s => .done
        have row := same (key id) (Set.mem_insert _ _)
        simp only [accountSchema] at row
        rw [row]
    · exact .raise

omit [Werkzeug] [Marshmallow] in
theorem transferJob_covered (env : Env) (actor : Actor) (senderId receiverId : String)
    (amount : Decimal) : (transferJob env actor senderId receiverId amount).Covered accountSchema := by
  unfold transferJob
  split
  · trivial
  · split
    · trivial
    · split
      · trivial
      · exact (transferSteps_locking _ _ _ _ _).covered _

omit [Werkzeug] [Marshmallow] in
theorem request_covered (request : AccountRequest) : request.job.Covered accountSchema := by
  obtain ⟨actor, call, env⟩ := request
  cases call with
  | listAccounts | getAccount | getTransaction | accountTransactions => exact readJob_covered _
  | listTransactions =>
      simp only [AccountRequest.job, adminJob]
      split
      · exact readJob_covered _
      · trivial
  | setBalance id body =>
      simp only [AccountRequest.job, adminJob]
      split
      · cases body with
        | none => trivial
        | some cents => exact setBalanceJob_covered _ _
      · trivial
  | transfer body =>
      cases body with
      | none => trivial
      | some data =>
          simp only [AccountRequest.job, argumentsJob]
          split
          · exact transferJob_covered _ _ _ _ _
          · trivial


/-- What a request does to the bank. -/
theorem request_cases (request : AccountRequest) (db : Db) :
    (request.serve db).2 = db ∨
    (∃ id cents, request.call = .setBalance id (some cents) ∧
      request.serve db =
        ((Operation.setBalance id (Decimal.ofCents cents)).serve request.env).run db) ∨
    ∃ call : TransferCall, call.env = request.env ∧ request.serve db = call.serve db := by
  obtain ⟨actor, call, env⟩ := request
  cases call with
  | listAccounts => exact Or.inl (onAccounts_listAccounts.stays db)
  | getAccount id => exact Or.inl ((onAccounts_getAccount id).stays db)
  | getTransaction id => exact Or.inl ((onAccounts_getTransaction id).stays db)
  | accountTransactions id => exact Or.inl ((onAccounts_accountTransactions id).stays db)
  | listTransactions =>
      refine Or.inl ?_
      simp only [AccountRequest.serve, AccountCall.api, ApiCall.serve, adminRequired]
      split
      · exact onAccounts_listTransactions.stays db
      · rfl
  | setBalance id body =>
      by_cases admin : actor.role = .admin
      · cases body with
        | none =>
            refine Or.inl ?_
            simp only [AccountRequest.serve, AccountCall.api, ApiCall.serve, adminRequired, admin,
              if_true]
            rfl
        | some cents =>
            refine Or.inr (Or.inl ⟨id, cents, rfl, ?_⟩)
            simp only [AccountRequest.serve, AccountCall.api, ApiCall.serve, adminRequired, admin,
              if_true]
            rfl
      · refine Or.inl ?_
        simp only [AccountRequest.serve, AccountCall.api, ApiCall.serve, adminRequired, admin, if_false]
        rfl
  | transfer body =>
      cases body with
      | none => exact Or.inl rfl
      | some data =>
          by_cases admitted : data.admitted = true
          · refine Or.inr (Or.inr ⟨⟨actor, data.senderAccountId, data.receiverAccountId,
              Decimal.ofCents data.amount, env⟩, rfl, ?_⟩)
            simp only [AccountRequest.serve, AccountCall.api, ApiCall.serve, arguments, admitted, if_true]
            rfl
          · refine Or.inl ?_
            simp only [AccountRequest.serve, AccountCall.api, ApiCall.serve, arguments, admitted]
            rfl

omit [Marshmallow] in
theorem setBalance_ledger (id : String) (balance : Decimal) (env : Env) (db : Db) :
    (((Operation.setBalance id balance).serve env).run db).2 .transaction = db .transaction := by
  refine Service.run_rel (fun db db' => db' .transaction = db .transaction) (fun _ => rfl)
    (fun first second => second.trans first) (fun s written db n db' run => ?_)
    (operation_issues (.setBalance id balance) env) db
  rw [Operation.writes] at written
  cases rounded : quantize balance with
  | error e =>
      rw [rounded] at written
      cases written
  | ok cents =>
      rw [rounded] at written
      obtain rfl := List.mem_singleton.mp written
      rcases exec_update run with ⟨-, rfl, -⟩ | ⟨r, -, -, -, -, -, -, rfl⟩
      · rfl
      · exact Db.set_other _ _ (by decide)

theorem request_unused (request : AccountRequest) (valid : db.Valid) {id : String}
    (unused : db.find .transaction id = none) (ne : key id ≠ key request.env.newId) :
    (request.serve db).2.find .transaction id = none := by
  rcases request_cases request db with same | ⟨account, cents, -, same⟩ | ⟨call, env, same⟩
  · rwa [same]
  · rw [same, Db.find, setBalance_ledger]
    exact unused
  · rw [same]
    exact serve_fresh call valid unused (env ▸ ne)

/-! ## Any interleaving -/

variable {ι : Type} {requests : ι → AccountRequest}

structure FreshRequests (db : Db) (requests : ι → AccountRequest) : Prop where
  unused : ∀ i, db.find .transaction (requests i).env.newId = none
  distinct : ∀ i j, key (requests i).env.newId = key (requests j).env.newId → i = j

theorem served_concat (requests : ι → AccountRequest) (order : List ι) (i : ι) (db : Db) :
    served requests (order ++ [i]) db = ((requests i).serve (served requests order db)).2 := by
  simp [served]

theorem served_valid (valid : db.Valid) (order : List ι) : (served requests order db).Valid := by
  induction order using List.reverseRecOn with
  | nil => exact valid
  | append_singleton order i ih =>
      rw [served_concat]
      exact Service.run_valid _ ih

theorem after_requests (valid : db.Valid) (fresh : FreshRequests db requests) {order : List ι}
    (nodup : order.Nodup) :
    after accountSchema (fun i => (requests i).job) order db.accounts =
      (served requests order db).accounts ∧
    ∀ i, i ∉ order → (served requests order db).find .transaction (requests i).env.newId = none := by
  induction order using List.reverseRecOn with
  | nil => exact ⟨rfl, fun i _ => fresh.unused i⟩
  | append_singleton order i ih =>
      have split := List.nodup_append.mp nodup
      obtain ⟨same, unused⟩ := ih split.1
      have notYet : i ∉ order := fun mem => split.2.2 i mem i List.mem_cons_self rfl
      have validBefore : (served requests order db).Valid := served_valid valid order
      rw [served_concat]
      refine ⟨?_, fun j notIn => ?_⟩
      · rw [after_concat, same]
        exact congrArg Prod.snd (request_run (requests i) validBefore (unused i notYet))
      · rw [List.mem_append, List.mem_singleton, not_or] at notIn
        exact request_unused (requests i) validBefore (unused j notIn.1) fun clash =>
          notIn.2 (fresh.distinct j i clash)

theorem alone (valid : db.Valid) (fresh : FreshRequests db requests) {before : List ι} {i : ι}
    (nodup : before.Nodup) (notYet : i ∉ before) :
    ((requests i).job.run accountSchema
      (after accountSchema (fun i => (requests i).job) before db.accounts)).1 =
      ((requests i).serve (served requests before db)).1 := by
  obtain ⟨same, unused⟩ := after_requests valid fresh nodup
  rw [same]
  exact congrArg Prod.fst (request_run (requests i) (served_valid valid before) (unused i notYet))

variable [DecidableEq ι] [Fintype ι]

/-- A state of the bank is that of its committed requests one at a time, in the order they
committed, and every success is the answer after some of them. -/
structure Serialized (db : Db) (requests : ι → AccountRequest) (m : Bank ι) : Prop where
  once : (commits requests m).Nodup
  committed : m.committed = (served requests (commits requests m) db).accounts
  writes : ∀ before i later, commits requests m = before ++ i :: later →
    (m.phase i).result = some ((requests i).serve (served requests before db)).1
  reads : ∀ i r, (m.phase i).result = some (.ok r) → ∃ before, before <+: commits requests m ∧
    ((requests i).serve (served requests before db)).1 = .ok r

theorem requests_serialize (valid : db.Valid) (fresh : FreshRequests db requests) {n : Nat}
    {faults : Bool} {m : Bank ι}
    (reached : Machine.Reachable accountSchema (fun i => (requests i).job) faults
      (start n db.accounts) m) : Serialized db requests m := by
  have mixed := (mixed_start (valid.ids .account)).reachable
    (fun i => request_covered (requests i)) reached
  have once : (commits requests m).Nodup := mixed.nodup.filter _
  refine ⟨once, ?_, fun before i later eq => ?_, fun i r result => ?_⟩
  · exact mixed.committed.trans (after_requests valid fresh once).1
  · have split := List.nodup_append.mp (eq ▸ once)
    rw [(mixed.results before i later eq).2, alone valid fresh split.1 fun mem =>
      split.2.2 i mem i List.mem_cons_self rfl]
  · obtain ⟨before, -, done, notYet, run⟩ := mixed.answered result
    rw [alone valid fresh (once.sublist done.sublist) notYet] at run
    exact ⟨before, done, run⟩

/-- What had committed when a request arrived its answer takes into account. -/
theorem requests_in_time (valid : db.Valid) (fresh : FreshRequests db requests) {n : Nat}
    {faults : Bool} {m m' : Bank ι}
    (reached : Machine.Reachable accountSchema (fun i => (requests i).job) faults
      (start n db.accounts) m) {i : ι} (waiting : m.phase i = .waiting)
    (later : Machine.Reachable accountSchema (fun i => (requests i).job) faults m m')
    {r : Response} (answered : (m'.phase i).result = some (.ok r)) :
    ∃ before, commits requests m <+: before ∧ before <+: commits requests m' ∧
      ((requests i).serve (served requests before db)).1 = .ok r := by
  have covered (i : ι) := request_covered (requests i)
  have mixed := (((mixed_start (valid.ids .account)).reachable covered reached).sees
    waiting).reachable covered later
  have once : (commits requests m').Nodup := mixed.nodup.filter _
  obtain ⟨before, early, done, notYet, run⟩ := mixed.answered answered
  rw [Function.update_self] at early
  rw [alone valid fresh (once.sublist done.sublist) notYet] at run
  exact ⟨before, early, done, run⟩

omit [DecidableEq ι] [Fintype ι] in
theorem served_money (valid : db.Valid)
    (noOverride : ∀ i id body, (requests i).call ≠ .setBalance id body) (order : List ι) :
    (served requests order db).totalBalance = db.totalBalance := by
  induction order using List.reverseRecOn with
  | nil => rfl
  | append_singleton order i ih =>
      rw [served_concat, ← ih]
      rcases request_cases (requests i) (served requests order db) with
        same | ⟨id, cents, override, -⟩ | ⟨call, -, same⟩
      · rw [same]
      · exact absurd override (noOverride i id (some cents))
      · rw [same]
        exact serve_money call (served_valid valid order)

/-- No listing of all accounts shows a transfer half done. -/
theorem listing_total (valid : db.Valid) (fresh : FreshRequests db requests)
    (noOverride : ∀ i id body, (requests i).call ≠ .setBalance id body) {n : Nat} {faults : Bool}
    {m : Bank ι}
    (reached : Machine.Reachable accountSchema (fun i => (requests i).job) faults
      (start n db.accounts) m)
    {i : ι} (listing : (requests i).call = .listAccounts) (admin : (requests i).actor.role = .admin)
    {r : Response} (answered : (m.phase i).result = some (.ok r)) :
    ∃ rows : List Account, r = .rows .account rows ∧ (∀ a ∈ rows, 0 ≤ a.balance) ∧
      (rows.map Account.balance).sum = db.totalBalance := by
  obtain ⟨before, -, run⟩ := (requests_serialize valid fresh reached).reads i r answered
  have validBefore : (served requests before db).Valid := served_valid valid before
  refine ⟨served requests before db .account, ?_, fun a mem => ?_, ?_⟩
  · rw [AccountRequest.serve, listing] at run
    simp only [AccountCall.api, ApiCall.serve, respond_run, listForActor_run, admin, if_true] at run
    cases run
    rfl
  · have check := validBefore.checks .account a mem
    simpa [checks] using check
  · exact served_money valid noOverride before

end

attribute [local instance] foldCase clearText plainEmail

def auditor : Actor := ⟨"u-0", .admin, none⟩

/-- Ann pays Bob; an administrator lists the accounts, and Bob looks at his own. -/
def audited : Fin 3 → AccountRequest
  | 0 => ⟨ann, .transfer (some ⟨"a-1", "b-1", 4000⟩), noon "t-1"⟩
  | 1 => ⟨auditor, .listAccounts, noon "r-1"⟩
  | 2 => ⟨bob, .getAccount "b-1", noon "r-2"⟩

def auditedRun (schedule : List (Fin 3)) : Option (Bank (Fin 3)) :=
  (start 3 opened.accounts : Bank (Fin 3)).follow accountSchema (fun i => (audited i).job) schedule

/-- The balances in an answer. -/
def shownBalances : Option (Except Exn Response) → List Int
  | some (.ok (.rows .account rows)) => rows.map Account.balance
  | some (.ok (.row .account (some a))) => [a.balance]
  | _ => []

def waits : Phase String Account AccountChange Transaction Exn Response → Bool
  | .waiting => true
  | _ => false

theorem waits_iff {p : Phase String Account AccountChange Transaction Exn Response} :
    waits p = true ↔ p = .waiting := by
  cases p <;> simp [waits]

theorem shown_ok {result : Option (Except Exn Response)} (shown : shownBalances result ≠ []) :
    ∃ r, result = some (.ok r) := by
  cases result with
  | none => exact absurd rfl shown
  | some result =>
      cases result with
      | ok r => exact ⟨r, rfl⟩
      | error e => exact absurd rfl shown

/-- The listing is taken between the debit and the credit. -/
def paidAndListed : List (Fin 3) := [0, 0, 0, 0, 0, 1, 1, 1, 1, 0, 0, 0, 0]

theorem audited_fresh : FreshRequests opened audited := ⟨by decide +kernel, by decide +kernel⟩

theorem audited_reached {schedule : List (Fin 3)} {m : Bank (Fin 3)}
    (run : auditedRun schedule = some m) :
    Machine.Reachable accountSchema (fun i => (audited i).job) true (start 3 opened.accounts) m :=
  Machine.Reachable.start.follow _ _ run

theorem requests_serialize_audited : ∃ m, auditedRun paidAndListed = some m ∧
    Serialized opened audited m ∧ commits audited m = [0] := by
  have ends : (auditedRun paidAndListed).map (commits audited) = some [0] := by decide +kernel
  obtain ⟨m, run, landed⟩ := Option.map_eq_some_iff.mp ends
  exact ⟨m, run, requests_serialize reachable_opened.valid audited_fresh (audited_reached run), landed⟩

theorem requests_in_time_audited : ∃ m, auditedRun paidAndListed = some m ∧
    ∃ m' r, m.follow accountSchema (fun i => (audited i).job) [2, 2, 2, 2] = some m' ∧
      (m'.phase 2).result = some (.ok r) ∧
      ∃ before, commits audited m <+: before ∧ before <+: commits audited m' ∧
        ((audited 2).serve (served audited before opened)).1 = .ok r := by
  have ends : (auditedRun paidAndListed).bind (fun m => if waits (m.phase 2) then
      (m.follow accountSchema (fun i => (audited i).job) [2, 2, 2, 2]).map fun m' =>
        shownBalances (m'.phase 2).result else none) = some [4000] := by decide +kernel
  obtain ⟨m, run, next⟩ := Option.bind_eq_some_iff.mp ends
  obtain ⟨waiting, next⟩ := Option.ite_none_right_eq_some.mp next
  obtain ⟨m', follow, shown⟩ := Option.map_eq_some_iff.mp next
  obtain ⟨r, answered⟩ := shown_ok (by rw [shown]; decide)
  exact ⟨m, run, m', r, follow, answered, requests_in_time reachable_opened.valid audited_fresh
    (audited_reached run) (waits_iff.mp waiting) (Machine.Reachable.start.follow _ _ follow) answered⟩

theorem audited_no_override : ∀ i id body, (audited i).call ≠ .setBalance id body
  | 0, _, _ => nofun
  | 1, _, _ => nofun
  | 2, _, _ => nofun

theorem listing_total_audited : ∃ m, auditedRun paidAndListed = some m ∧
    ∃ rows : List Account, (m.phase 1).result = some (.ok (.rows .account rows)) ∧
      (∀ a ∈ rows, 0 ≤ a.balance) ∧ (rows.map Account.balance).sum = opened.totalBalance := by
  have ends : (auditedRun paidAndListed).map (fun m => shownBalances (m.phase 1).result) =
      some [10000, 0] := by decide +kernel
  obtain ⟨m, run, shown⟩ := Option.map_eq_some_iff.mp ends
  obtain ⟨r, answered⟩ := shown_ok (by rw [shown]; decide)
  obtain ⟨rows, rfl, total⟩ := listing_total reachable_opened.valid audited_fresh audited_no_override
    (audited_reached run) rfl rfl answered
  exact ⟨m, run, rows, answered, total⟩

end Corebank
