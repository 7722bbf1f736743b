import Corebank.Proof.Ledger
import Corebank.Proof.SerialTransfers
import Corebank.Proof.ReadIsolation
import Corebank.Library.History

/-!
# The ledger of an account replayed

A transfer reads the clock while it holds the rows of both accounts, so the ledger rows of an
account are stamped in the order they took effect, up to the whole seconds that are stored.
-/

namespace Corebank
open Library Library.TwoPhase TransactionService

section
variable [Collation] {ι : Type} [DecidableEq ι] [Fintype ι]

/-! ## Runs -/

def restOf : AccountPhase → Option AccountProg
  | .running _ work => some work.rest
  | _ => none

/-- A step at `now`. A call reads the clock between its credit and its INSERT, and the balance of
the account is set only while no ledger row names it. -/
def stepAt (id : String) (calls : ι → Call × Env) (m : Bank ι) (i : ι) (now : Int) :
    Option (Bank ι) :=
  let clock := (calls i).2.utcnow.micros
  if (restOf (m.phase i)).any (AccountProg.overrides id) && entriesOf id m.committed.log ≠ [] then none
  else if (restOf (m.phase i)).any AccountProg.inserts && now < clock then none
  else
    (m.step accountSchema (fun i => (calls i).1.job (calls i).2) i).filter fun m' =>
      !(restOf (m'.phase i)).any AccountProg.inserts || now ≤ clock

/-- The balance before the first ledger row. -/
def openingOf (id : String) (s : Store Account Transaction) (opening : Int) : Int :=
  if entriesOf id s.log = [] then
    ((Keyed.lookup (rowKey .account) (key id) s.rows).map Account.balance).getD opening
  else opening

/-- Runs over an account no ledger row names, with the time and the opening balance they came to. -/
inductive LedgerRun (db : Db) (id : String) (calls : ι → Call × Env) (n : Nat) :
    Bank ι → Int → Int → Prop where
  | start (now : Int) {a : Account} (account : db.find .account id = some a)
      (unused : entriesOf id (db .transaction) = []) :
      LedgerRun db id calls n (TwoPhase.start n db.accounts) now a.balance
  | next {m m' : Bank ι} {now now' opening : Int} (i : ι)
      (reached : LedgerRun db id calls n m now opening) (later : now ≤ now')
      (taken : stepAt id calls m i now' = some m') :
      LedgerRun db id calls n m' now' (openingOf id m'.committed opening)
  | fault {m m' : Bank ι} {now opening : Int} (i : ι) (e : Exn)
      (reached : LedgerRun db id calls n m now opening) (raised : m.fault i e = some m') :
      LedgerRun db id calls n m' now opening

theorem stepAt_ok {id : String} {calls : ι → Call × Env} {m m' : Bank ι} {i : ι} {now : Int}
    (h : stepAt id calls m i now = some m') :
    m.step accountSchema (fun i => (calls i).1.job (calls i).2) i = some m' ∧
      ((restOf (m.phase i)).any (AccountProg.overrides id) = true → entriesOf id m.committed.log = []) ∧
      ((restOf (m.phase i)).any AccountProg.inserts = true → (calls i).2.utcnow.micros ≤ now) ∧
      ((restOf (m'.phase i)).any AccountProg.inserts = true → now ≤ (calls i).2.utcnow.micros) := by
  unfold stepAt at h
  dsimp only at h
  split at h
  · cases h
  rename_i overridden
  split at h
  · cases h
  rename_i early
  obtain ⟨step, late⟩ := Option.filter_eq_some_iff.mp h
  refine ⟨step, fun overrides => ?_, fun inserts => ?_, fun inserts => ?_⟩
  · simpa [overrides] using overridden
  · simpa [inserts] using early
  · simpa [inserts] using late

theorem LedgerRun.reachable {db : Db} {id : String} {calls : ι → Call × Env} {n : Nat} {m : Bank ι}
    {now opening : Int} (reached : LedgerRun db id calls n m now opening) :
    Machine.Reachable accountSchema (fun i => (calls i).1.job (calls i).2) true
      (TwoPhase.start n db.accounts) m := by
  induction reached with
  | start => exact .start
  | next i _ _ taken ih => exact ih.step i (stepAt_ok taken).1
  | fault i e _ raised ih => exact ih.fault i e rfl raised

variable {id : String}

/-! ## The books of the account -/

def PhaseStands (id : String) (clock : DateTime) (balance : Int) (log : List Transaction)
    (now : Int) : AccountPhase → Prop
  | .opened body => Posts id clock none [] body
  | .running .unitOfWork work => Stands id clock balance log now work
  | _ => True

/-- The ledger rows of the account, as committed, account for its balance. -/
structure Balanced (id : String) (s : Store Account Transaction) (now opening : Int) : Prop where
  account : ∃ a, Keyed.lookup (rowKey .account) (key id) s.rows = some a ∧
    a.balance = History.replay (net id) opening (entriesOf id s.log)
  funded : History.Funded stamp (net id) opening (entriesOf id s.log)
  past : ∀ t ∈ entriesOf id s.log, stamp t ≤ (dateTime ⟨now, none⟩).micros

structure Book (id : String) (calls : ι → Call × Env) (m : Bank ι) (now opening : Int) : Prop where
  balanced : Balanced id m.committed now opening
  sessions : ∀ a, Keyed.lookup (rowKey .account) (key id) m.committed.rows = some a →
    ∀ i, PhaseStands id (calls i).2.utcnow a.balance m.committed.log now (m.phase i)

section
variable {calls : ι → Call × Env} {m m' : Bank ι} {i : ι} {clock : DateTime}
  {balance balance' now now' opening : Int} {log log' : List Transaction}
  {s : Store Account Transaction} {own : List Account} {pending : List Transaction} {r : Response}

theorem PhaseStands.mono {p : AccountPhase} (stands : PhaseStands id clock balance log now p)
    (later : now ≤ now') (same : Keyed.lookup (rowKey .account) (key id) p.own ≠ none →
      balance' = balance ∧ entriesOf id log' = entriesOf id log) :
    PhaseStands id clock balance' log' now' p := by
  cases p with
  | running kind work =>
      cases kind with
      | unitOfWork => exact Stands.mono stands later same
      | readOnly => trivial
  | opened body => exact stands
  | waiting | failed | closing | finished => trivial

theorem Balanced.later (balanced : Balanced id s now opening) (later : now ≤ now') :
    Balanced id s now' opening :=
  ⟨balanced.account, balanced.funded, fun t mem =>
    Int.le_trans (balanced.past t mem) (dateTime_mono later)⟩

theorem Balanced.openingOf_eq (balanced : Balanced id s now opening) :
    openingOf id s opening = opening := by
  unfold openingOf
  split
  · rename_i untouched
    obtain ⟨a, account, balance⟩ := balanced.account
    rw [account, Option.map_some, Option.getD_some, balance, untouched]
    rfl
  · rfl

theorem Carries.committed {a : Account} {moved : Option Int}
    (owns : Carries id a.balance own moved) :
    ((Keyed.lookup (rowKey .account) (key id) own).getD a).balance = a.balance + moved.getD 0 := by
  cases owns with
  | foreign absent =>
      rw [absent]
      exact (Int.add_zero _).symm
  | mine held moves =>
      rw [held]
      exact moves

theorem lookup_committed (own : List Account) (pending : List Transaction) {a : Account}
    (account : Keyed.lookup (rowKey .account) (key id) s.rows = some a) :
    Keyed.lookup (rowKey .account) (key id) (view accountSchema own pending s).rows =
      some ((Keyed.lookup (rowKey .account) (key id) own).getD a) :=
  (lookup_view (S := accountSchema) (key id) own pending s).trans (congrArg _ account)

theorem Balanced.untouched (balanced : Balanced id s now opening) {a b : Account}
    (account : Keyed.lookup (rowKey .account) (key id) s.rows = some a)
    (after : Keyed.lookup (rowKey .account) (key id) (view accountSchema own pending s).rows = some b)
    (silent : entriesOf id pending = []) (same : b.balance = a.balance) :
    Balanced id (view accountSchema own pending s) now opening := by
  obtain ⟨a', account', balance⟩ := balanced.account
  cases account.symm.trans account'
  have entries : entriesOf id (view accountSchema own pending s).log = entriesOf id s.log := by
    rw [view, entriesOf_append, silent, List.append_nil]
  exact ⟨⟨b, after, by rw [entries, same, balance]⟩, by rw [entries]; exact balanced.funded,
    by rw [entries]; exact balanced.past⟩

theorem Balanced.concat (balanced : Balanced id s now opening) {a b : Account} {t : Transaction}
    (account : Keyed.lookup (rowKey .account) (key id) s.rows = some a)
    (after : Keyed.lookup (rowKey .account) (key id) (view accountSchema own pending s).rows = some b)
    (single : entriesOf id pending = [t]) (moves : b.balance = a.balance + net id t)
    (nonneg : 0 ≤ b.balance) (latest : ∀ u ∈ entriesOf id s.log, stamp u ≤ stamp t)
    (before : stamp t ≤ (dateTime ⟨now, none⟩).micros) :
    Balanced id (view accountSchema own pending s) now opening := by
  obtain ⟨a', account', replayed⟩ := balanced.account
  cases account.symm.trans account'
  have entries : entriesOf id (view accountSchema own pending s).log = entriesOf id s.log ++ [t] := by
    rw [view, entriesOf_append, single]
  have total : b.balance = History.replay (net id) opening (entriesOf id s.log ++ [t]) := by
    rw [History.replay_append, ← replayed, moves]
    exact congrArg _ (Int.add_zero _).symm
  refine ⟨⟨b, after, by rw [entries, total]⟩, ?_, ?_⟩
  · rw [entries]
    exact balanced.funded.concat latest (total ▸ nonneg)
  · rw [entries]
    intro u mem
    rcases List.mem_append.mp mem with mem | last
    · exact balanced.past u mem
    · rw [List.mem_singleton.mp last]
      exact before

theorem Balanced.set {b : Account}
    (after : Keyed.lookup (rowKey .account) (key id) (view accountSchema own pending s).rows = some b)
    (untouched : entriesOf id s.log = []) (silent : entriesOf id pending = [])
    (nonneg : 0 ≤ b.balance) :
    Balanced id (view accountSchema own pending s) now
      (openingOf id (view accountSchema own pending s) opening) := by
  have entries : entriesOf id (view accountSchema own pending s).log = [] := by
    rw [view, entriesOf_append, untouched, silent]
    rfl
  rw [openingOf, if_pos entries, after, Option.map_some, Option.getD_some]
  refine ⟨⟨b, after, by rw [entries]; rfl⟩, ?_, by rw [entries]; simp⟩
  rw [entries]
  exact History.funded_nil nonneg

theorem Balanced.commit (balanced : Balanced id s now opening) {a : Account}
    (account : Keyed.lookup (rowKey .account) (key id) s.rows = some a)
    (stands : Stands id clock a.balance s.log now ⟨own, pending, .done r⟩)
    (nonneg : ∀ b ∈ own, 0 ≤ b.balance) :
    Balanced id (view accountSchema own pending s) now
      (openingOf id (view accountSchema own pending s) opening) := by
  have after := lookup_committed own pending account
  cases stands with
  | setting setting =>
      obtain ⟨held, untouched, silent, -⟩ := setting
      obtain ⟨b, found⟩ := Option.ne_none_iff_exists'.mp held
      rw [found, Option.getD_some] at after
      exact Balanced.set after untouched silent (nonneg b (Keyed.lookup_mem found))
  | writing moved writing =>
      obtain ⟨owns, posts, settled, written⟩ := writing
      have balance := owns.committed
      cases posts with
      | done same =>
          rw [← same] at balance
          rcases written with silent | ⟨touched, t, single, stamped, before⟩
          · rw [silent, List.map_nil, List.sum_nil, Int.add_zero] at balance
            have still := balanced.untouched account after silent balance
            rwa [still.openingOf_eq]
          · rw [single, List.map_singleton, List.sum_singleton] at balance
            have latest := settled touched (Or.inr (by rw [single]; exact List.cons_ne_nil _ _))
            cases owns with
            | foreign => cases touched
            | mine held moves =>
                rw [held, Option.getD_some] at after balance
                have still := balanced.concat account after single balance
                  (nonneg _ (Keyed.lookup_mem held)) (stamped ▸ latest)
                  (stamped ▸ dateTime_mono before)
                rwa [still.openingOf_eq]

theorem Stands.silent {work : AccountWork} (stands : Stands id clock balance log now work)
    (absent : Keyed.lookup (rowKey .account) (key id) work.own = none) :
    entriesOf id work.pending = [] := by
  cases stands with
  | setting setting => exact setting.silent
  | writing moved writing =>
      rcases writing.written with silent | ⟨touched, -⟩
      · exact silent
      · cases writing.own with
        | foreign => cases touched
        | mine held => cases held.symm.trans absent

omit [Fintype ι] in
theorem Book.goto (book : Book id calls m now opening) (later : now ≤ now') {p : AccountPhase}
    (phases : m'.phase = Function.update m.phase i p) (committed : m'.committed = m.committed)
    (stands : ∀ a, Keyed.lookup (rowKey .account) (key id) m.committed.rows = some a →
      PhaseStands id (calls i).2.utcnow a.balance m.committed.log now' p) :
    Book id calls m' now' (openingOf id m'.committed opening) := by
  have balanced := book.balanced.later later
  rw [committed, balanced.openingOf_eq]
  refine ⟨committed ▸ balanced, fun a account => ?_⟩
  rw [committed] at account
  rw [committed, phases]
  exact (Function.forall_update_iff m.phase fun j =>
    PhaseStands id (calls j).2.utcnow a.balance m.committed.log now').mpr
      ⟨stands a account, fun j _ => (book.sessions a account j).mono later fun _ => ⟨rfl, rfl⟩⟩

omit [Fintype ι] in
theorem Book.commit (book : Book id calls m now opening) (later : now ≤ now')
    (locked : Locked accountSchema m) (nonneg : ∀ b ∈ (m.phase i).own, 0 ≤ b.balance)
    (phase : m.phase i = .running .unitOfWork ⟨own, pending, .done r⟩) :
    Book id calls ((m.commit accountSchema ⟨own, pending, .done r⟩).finish i (.closing (.ok r))) now'
      (openingOf id (view accountSchema own pending m.committed) opening) := by
  have balanced := book.balanced.later later
  obtain ⟨a, account, -⟩ := balanced.account
  have stands := book.sessions a account i
  rw [phase] at stands nonneg
  have stands : Stands id (calls i).2.utcnow a.balance m.committed.log now'
      ⟨own, pending, .done r⟩ := Stands.mono stands later fun _ => ⟨rfl, rfl⟩
  have balanced' := balanced.commit account stands nonneg
  refine ⟨balanced', fun b account' => ?_⟩
  rw [(m.commit accountSchema _).phase_finish]
  refine (Function.forall_update_iff m.phase fun j => PhaseStands id (calls j).2.utcnow b.balance
    (view accountSchema own pending m.committed).log now').mpr ⟨trivial, fun j other => ?_⟩
  refine (book.sessions a account j).mono later fun held => ?_
  -- session `j` has the row of the account, so session `i` has not
  have absent : Keyed.lookup (rowKey .account) (key id) own = none := by
    obtain ⟨c, found⟩ := Option.ne_none_iff_exists'.mp held
    have mem : key id ∈ (m.phase j).own.map accountSchema.key :=
      List.mem_map.mpr ⟨c, Keyed.lookup_mem found, Keyed.lookup_key found⟩
    have exclusive := locked.exclusive j i other (key id) mem
    rwa [phase] at exclusive
  have after := lookup_committed own pending account
  rw [absent, Option.getD_none] at after
  cases after.symm.trans account'
  refine ⟨rfl, ?_⟩
  have entries := entriesOf_append id m.committed.log pending
  rw [stands.silent absent, List.append_nil] at entries
  exact entries

theorem Book.step (book : Book id calls m now opening) (later : now ≤ now')
    (locked : Locked accountSchema m) (nonneg : ∀ j, ∀ b ∈ (m.phase j).own, 0 ≤ b.balance)
    (taken : stepAt id calls m i now' = some m') :
    Book id calls m' now' (openingOf id m'.committed opening) := by
  obtain ⟨step, overrides, read, arrives⟩ := stepAt_ok taken
  have sessions := fun a account => book.sessions a account i
  cases Machine.step_cases _ _ step with
  | refuse phase job => exact book.goto later (m.phase_finish i _) rfl fun _ _ => trivial
  | @borrow kind body phase job free =>
      refine book.goto later (m.phase_borrow i _) rfl fun _ _ => ?_
      cases kind with
      | unitOfWork => exact posts_job job
      | readOnly => trivial
  | @begin body phase =>
      refine book.goto later (m.phase_goto i _) rfl fun a account => ?_
      have posts := sessions a account
      rw [phase] at posts
      exact .begun posts
  | commit phase => exact book.commit later locked (nonneg i) phase
  | read phase => exact book.goto later (m.phase_finish i _) rfl fun _ _ => trivial
  | fail phase => exact book.goto later (m.phase_goto i _) rfl fun _ _ => trivial
  | failRead phase => exact book.goto later (m.phase_finish i _) rfl fun _ _ => trivial
  | @work kind work work' phase advance =>
      refine book.goto later (m.phase_goto i _) rfl fun a account => ?_
      cases kind with
      | readOnly => trivial
      | unitOfWork =>
          have stands := sessions a account
          rw [phase] at stands overrides read
          rw [m.phase_goto, Function.update_self] at arrives
          have stands : Stands id (calls i).2.utcnow a.balance m.committed.log now' work :=
            Stands.mono stands later fun _ => ⟨rfl, rfl⟩
          exact stands.step account (book.balanced.later later).past overrides read arrives advance
  | rollback phase => exact book.goto later (m.phase_finish i _) rfl fun _ _ => trivial
  | giveBack phase => exact book.goto later (m.phase_giveBack i _) rfl fun _ _ => trivial

omit [Fintype ι] in
theorem Book.fault {e : Exn} (book : Book id calls m now opening) (raised : m.fault i e = some m') :
    Book id calls m' now opening := by
  have kept {p : AccountPhase} (phases : m'.phase = Function.update m.phase i p)
      (committed : m'.committed = m.committed)
      (stands : ∀ balance, PhaseStands id (calls i).2.utcnow balance m.committed.log now p) :
      Book id calls m' now opening := by
    have book' := book.goto (Int.le_refl now) phases committed fun a _ => stands a.balance
    rwa [committed, book.balanced.openingOf_eq] at book'
  cases Machine.fault_cases raised with
  | connect phase => exact kept (m.phase_finish i _) rfl fun _ => trivial
  | begin phase => exact kept (m.phase_goto i _) rfl fun _ => trivial
  | work phase => exact kept (m.phase_goto i _) rfl fun _ => trivial
  | read phase => exact kept (m.phase_finish i _) rfl fun _ => trivial

end

variable {db : Db} {calls : ι → Call × Env} {n : Nat} {m : Bank ι} {now opening : Int}

theorem LedgerRun.book (valid : db.Valid) (reached : LedgerRun db id calls n m now opening) :
    Book id calls m now opening := by
  have rows_nonneg : ∀ a ∈ db.accounts.rows, 0 ≤ a.balance := fun a mem => by
    simpa [checks] using valid.checks .account a mem
  have keeps (i : ι) : ((calls i).1.job (calls i).2).Keeps accountSchema fun a => 0 ≤ a.balance := by
    cases (calls i).1.job (calls i).2 with
    | refused e => trivial
    | block kind body => exact keeps_nonneg body
  induction reached with
  | @start now a account unused =>
      refine ⟨⟨⟨a, account, ?_⟩, ?_, ?_⟩, fun _ _ _ => trivial⟩
      · rw [TwoPhase.start, Db.accounts, unused]
        rfl
      · rw [TwoPhase.start, Db.accounts, unused]
        exact History.funded_nil (rows_nonneg a (Keyed.lookup_mem account))
      · rw [TwoPhase.start, Db.accounts, unused]
        simp
  | next i reached later taken ih =>
      have locked := Reachable.locked (valid.ids .account) reached.reachable
      have all := Reachable.all keeps rows_nonneg reached.reachable
      exact ih.step later locked all.own taken
  | fault i e reached raised ih => exact ih.fault raised

/-! ## Listings replayed -/

theorem LedgerRun.created {db db' : Db} (valid : db.Valid) {env : Env} {customerId branchId : String}
    {accountType : AccountType} {a : Account}
    (run : (AccountService.create env customerId accountType branchId).run db = (.ok a, db'))
    (calls : ι → Call × Env) (n : Nat) (now : Int) :
    LedgerRun db' env.newId calls n (TwoPhase.start n db'.accounts) now 0 := by
  rw [AccountService.create, createRow_run] at run
  split at run
  · cases run
  rename_i count inserted exec
  cases run
  obtain ⟨-, verified, -, rfl⟩ := exec_insert exec
  obtain ⟨-, distinct, -⟩ := verify_eq_none.mp verified
  have fresh : db.find .account env.newId = none := by
    refine Keyed.lookup_eq_none.mpr fun r mem same => ?_
    have other := (clashes_eq_false (distinct r mem)).1
    rw [rowKey_store] at other
    exact other same
  have found : Db.find (db.set .account (db .account ++
      [store .account (AccountService.record env customerId accountType branchId)])) .account
      env.newId = some (store .account (AccountService.record env customerId accountType branchId)) := by
    have last : rowKey .account (store .account
        (AccountService.record env customerId accountType branchId)) = key env.newId := rowKey_store _ _
    rw [Db.find] at fresh
    rw [Db.find, Db.set_same, Keyed.lookup_append, fresh]
    simp [Keyed.lookup, last]
  refine .start now found ?_
  rw [Db.set_other _ _ (by decide)]
  refine List.filter_eq_nil_iff.mpr fun t mem names => ?_
  have known (v : String) {fk : ForeignKey .transaction} (here : fk ∈ foreignKeys .transaction)
      (parent : fk.parent = .account) (ref : fk.column t = some v) : key v ≠ key env.newId := by
    intro same
    have exists' := valid.references .transaction t mem fk here v ref
    rw [parent, Db.find_congr db .account same, fresh] at exists'
    cases exists'
  rw [Transactions.names, Bool.or_eq_true] at names
  rcases names with sent | received
  · exact known t.fromAccountId (List.mem_cons_self) rfl rfl (of_decide_eq_true sent)
  · rw [Option.any_eq_true] at received
    obtain ⟨v, receiver, same⟩ := received
    exact known v (List.mem_cons_of_mem _ List.mem_cons_self) rfl receiver (of_decide_eq_true same)

omit [DecidableEq ι] [Fintype ι] in
theorem listByAccount_listing {db : Db} {actor : Actor} {rows : List Transaction}
    (listed : ((TransactionService.listByAccount id actor).run db).1 = .ok rows) :
    History.Listing stamp (entriesOf id (db .transaction)) rows := by
  rw [listByAccount_run] at listed
  split at listed
  · cases listed
  · cases passed : ensureOwnerOrAdmin actor _ with
    | error e =>
        rw [passed] at listed
        cases listed
    | ok _ =>
        rw [passed] at listed
        cases listed
        exact ⟨List.mergeSort_perm _ _, List.pairwise_map.mp (newestFirst_sorted _)⟩

/-- Replayed from the last row to the first, a listing of the account ends at its balance. It is not
below zero between two stored times, nor anywhere in the listing that has the rows in the order in
which the transfers took effect, the last one first. -/
structure Replays (id : String) (s : Store Account Transaction) (opening : Int) : Prop where
  ends : ∀ rows, History.Listing stamp (entriesOf id s.log) rows →
    ∃ a, Keyed.lookup (rowKey .account) (key id) s.rows = some a ∧
      History.replay (net id) opening rows = a.balance
  between : ∀ newer older, History.Listing stamp (entriesOf id s.log) (newer ++ older) →
    (∀ t ∈ older, ∀ u ∈ newer, stamp t ≠ stamp u) → 0 ≤ History.replay (net id) opening older
  effective : History.Listing stamp (entriesOf id s.log) (entriesOf id s.log).reverse
  ordered : ∀ newer older, (entriesOf id s.log).reverse = newer ++ older →
    0 ≤ History.replay (net id) opening older

theorem ledger_replays (valid : db.Valid) (reached : LedgerRun db id calls n m now opening) :
    Replays id m.committed opening := by
  obtain ⟨⟨a, account, balance⟩, funded, -⟩ := (reached.book valid).balanced
  refine ⟨fun rows listing => ⟨a, account, ?_⟩, fun newer older listing apart => ?_,
    funded.listing, fun newer older split => funded.replay_reverse split⟩
  · rw [balance]
    exact History.replay_perm listing.entries
  · exact funded.replay_cut listing apart

def ledgerStep (id : String) (calls : ι → Call × Env) (p : Bank ι × Int × Int) (q : ι × Int) :
    Option (Bank ι × Int × Int) :=
  if p.2.1 ≤ q.2 then
    (stepAt id calls p.1 q.1 q.2).map fun m' => (m', q.2, openingOf id m'.committed p.2.2)
  else none

theorem LedgerRun.follow {schedule : List (ι × Int)} {p p' : Bank ι × Int × Int}
    (reached : LedgerRun db id calls n p.1 p.2.1 p.2.2)
    (followed : schedule.foldlM (ledgerStep id calls) p = some p') :
    LedgerRun db id calls n p'.1 p'.2.1 p'.2.2 := by
  refine Keyed.foldlM_keeps (P := fun p => LedgerRun db id calls n p.1 p.2.1 p.2.2)
    (fun p q p' reached taken => ?_) reached followed
  unfold ledgerStep at taken
  split at taken
  · rename_i later
    obtain ⟨m', step, rfl⟩ := Option.map_eq_some_iff.mp taken
    exact reached.next q.1 later step
  · cases taken

end

attribute [local instance] foldCase clearText

/-- Bob pays back what Ann paid him the same second. -/
def backAndForth : Fin 2 → Call × Env
  | 0 => (.transfer ann "a-1" "b-1" ⟨40, 0⟩, noon "t-1")
  | 1 => (.transfer bob "b-1" "a-1" ⟨5, 0⟩, noon "t-2")

def atNoon (schedule : List (Fin 2)) : Option (Bank (Fin 2) × Int × Int) :=
  (schedule.map fun i => (i, (noon "").utcnow.micros)).foldlM (ledgerStep "b-1" backAndForth)
    (TwoPhase.start 2 opened.accounts, 0, 0)

theorem backAndForth_run : ∃ m now, LedgerRun opened "b-1" backAndForth 2 m now 0 ∧
    (entriesOf "b-1" m.committed.log).map (net "b-1") = [4000, -500] ∧
    (entriesOf "b-1" m.committed.log).Pairwise fun t u => stamp u ≤ stamp t := by
  have account : (opened.find .account "b-1").map Account.balance = some 0 := by decide +kernel
  have unused : entriesOf "b-1" (opened .transaction) = [] := by decide +kernel
  obtain ⟨a, found, balance⟩ := Option.map_eq_some_iff.mp account
  have begun : LedgerRun opened "b-1" backAndForth 2 (TwoPhase.start 2 opened.accounts) 0 a.balance :=
    .start 0 found unused
  rw [balance] at begun
  have run : (atNoon [0, 0, 0, 1, 1, 0, 0, 0, 0, 0, 1, 1, 1, 0, 1, 1, 1, 1]).map (fun p =>
      (p.2.2, (entriesOf "b-1" p.1.committed.log).map (net "b-1"),
        decide ((entriesOf "b-1" p.1.committed.log).Pairwise fun t u => stamp u ≤ stamp t))) =
      some (0, [4000, -500], true) := by
    decide +kernel
  obtain ⟨⟨m, now, opening⟩, followed, facts⟩ := Option.map_eq_some_iff.mp run
  have zero : opening = 0 := congrArg Prod.fst facts
  have reached : LedgerRun opened "b-1" backAndForth 2 m now opening :=
    LedgerRun.follow begun followed
  rw [zero] at reached
  exact ⟨m, now, reached, congrArg (fun q => q.2.1) facts,
    of_decide_eq_true (congrArg (fun q => q.2.2) facts)⟩

theorem ledger_replays_backAndForth : ∃ m now, LedgerRun opened "b-1" backAndForth 2 m now 0 ∧
    (entriesOf "b-1" m.committed.log).map (net "b-1") = [4000, -500] ∧
    Replays "b-1" m.committed 0 := by
  obtain ⟨m, now, reached, entries, -⟩ := backAndForth_run
  exact ⟨m, now, reached, entries, ledger_replays reachable_opened.valid reached⟩

/-- Both rows have one stored time, and the query may return them in the order they were written. -/
theorem ledger_dips : ∃ m now, LedgerRun opened "b-1" backAndForth 2 m now 0 ∧
    ∃ newer older, History.Listing stamp (entriesOf "b-1" m.committed.log) (newer ++ older) ∧
      History.replay (net "b-1") 0 older < 0 := by
  obtain ⟨m, now, reached, entries, sorted⟩ := backAndForth_run
  refine ⟨m, now, reached, (entriesOf "b-1" m.committed.log).take 1,
    (entriesOf "b-1" m.committed.log).drop 1, ?_, ?_⟩
  · rw [List.take_append_drop]
    exact ⟨List.Perm.refl _, sorted⟩
  · rw [History.replay_eq_sum, List.map_drop, entries]
    exact Int.negSucc_lt_zero 499

end Corebank
