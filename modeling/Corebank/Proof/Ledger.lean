import Corebank.Concurrency
import Corebank.Library.Interleaving

/-!
# Ledger rows and the balances they account for

What a call does to one account and what it writes about it in the ledger, while it holds the row of
the account.
-/

namespace Corebank
open Library Library.TwoPhase TransactionService

section
variable [Collation]

/-- What a ledger row does to the balance of an account. -/
def net (id : String) (t : Transaction) : Int :=
  (if t.toAccountId.any fun receiver => key receiver = key id then t.amount else 0) -
    if key t.fromAccountId = key id then t.amount else 0

def stamp (t : Transaction) : Int := t.transactionTimestamp.micros

def entriesOf (id : String) (log : List Transaction) : List Transaction :=
  log.filter (Transactions.names id)

abbrev AccountWork := Work String Account AccountChange Transaction Exn Response

abbrev AccountPhase := Phase String Account AccountChange Transaction Exn Response

def AccountProg.inserts : AccountProg → Bool
  | .append _ _ => true
  | _ => false

def AccountProg.overrides (id : String) : AccountProg → Bool
  | .update k (.setBalance _) _ => k = key id
  | _ => false

/-! ## Programs that write down what they move -/

/-- The rest of a block writes a ledger row for what it moves: `moved` is the amount so far, if the
block changed the balance of the account at all. -/
inductive Posts (id : String) (clock : DateTime) :
    Option Int → List Transaction → AccountProg → Prop where
  | done {moved pending r} (same : ((entriesOf id pending).map (net id)).sum = moved.getD 0) :
      Posts id clock moved pending (.done r)
  | raise {moved pending e} : Posts id clock moved pending (.raise e)
  | select {moved pending next} (rest : ∀ s, Posts id clock moved pending (next s)) :
      Posts id clock moved pending (.select next)
  | lock {moved pending k next} (rest : ∀ v, Posts id clock moved pending (next v)) :
      Posts id clock moved pending (.lock k next)
  | other {moved pending k change next} (ne : k ≠ key id)
      (rest : ∀ n, Posts id clock moved pending (next n)) :
      Posts id clock moved pending (.update k change next)
  | debit {moved pending amount next} (kept : Posts id clock moved pending (next 0))
      (rest : Posts id clock (some (moved.getD 0 - amount)) pending (next 1)) :
      Posts id clock moved pending (.update (key id) (.debit amount) next)
  | credit {moved pending amount next} (positive : 0 < amount)
      (rest : Posts id clock (some (moved.getD 0 + amount)) pending (next 1)) :
      Posts id clock moved pending (.update (key id) (.credit amount) next)
  | setBalance {moved pending balance next} (silent : entriesOf id pending = [])
      (rest : ∀ n, readsOnly (next n)) :
      Posts id clock moved pending (.update (key id) (.setBalance balance) next)
  | append {moved pending entry next}
      (named : Transactions.names id entry = true → moved.isSome = true ∧
        entriesOf id pending = [] ∧ stamp entry = (dateTime clock).micros)
      (rest : Posts id clock moved (pending ++ [entry]) next) :
      Posts id clock moved pending (.append entry next)

variable {id : String} {env : Env} {senderId receiverId : String} {amount : Int}

theorem entriesOf_append (id : String) (log more : List Transaction) :
    entriesOf id (log ++ more) = entriesOf id log ++ entriesOf id more :=
  List.filter_append log more

theorem net_record : net id (store .transaction (ledgerRecord env senderId receiverId amount)) =
    (if key receiverId = key id then amount else 0) - if key senderId = key id then amount else 0 := by
  simp [net, store, ledgerRecord, key_rstrip]

theorem names_record :
    Transactions.names id (store .transaction (ledgerRecord env senderId receiverId amount)) = true ↔
      key senderId = key id ∨ key receiverId = key id := by
  simp [Transactions.names, store, ledgerRecord, key_rstrip]

theorem posts_ledger {moved : Option Int}
    (same : net id (store .transaction (ledgerRecord env senderId receiverId amount)) = moved.getD 0)
    (named : key senderId = key id ∨ key receiverId = key id → moved.isSome = true) :
    Posts id env.utcnow moved [] (ledgerSteps (ledgerRecord env senderId receiverId amount)) := by
  unfold ledgerSteps
  split
  · exact .raise
  · refine .append (fun names => ⟨named (names_record.mp names), rfl, rfl⟩) (.done ?_)
    rw [List.nil_append, ← same, entriesOf]
    cases names : Transactions.names id
        (store .transaction (ledgerRecord env senderId receiverId amount)) with
    | true => simp [names]
    | false =>
        have unnamed := mt names_record.mpr (by rw [names]; exact Bool.false_ne_true)
        rw [not_or] at unnamed
        simp [names, net_record, unnamed]

theorem posts_credit (id : String) (env : Env) (senderId receiverId : String) (positive : 0 < amount) :
    Posts id env.utcnow (if key senderId = key id then some (-amount) else none) []
      (.update (key receiverId) (.credit amount) fun _ =>
        ledgerSteps (ledgerRecord env senderId receiverId amount)) := by
  by_cases received : key receiverId = key id
  · rw [received]
    refine .credit positive (posts_ledger ?_ fun _ => rfl)
    rw [net_record, if_pos received]
    split
    · simp
    · simp
  · refine .other received fun n => posts_ledger ?_ fun named => ?_
    · rw [net_record, if_neg received]
      split
      · simp
      · simp
    · rw [if_pos (named.resolve_right received)]
      rfl

theorem posts_move (positive : 0 < amount) :
    Posts id env.utcnow none [] (moveSteps env senderId receiverId amount) := by
  have credit := posts_credit id env senderId receiverId positive
  unfold moveSteps
  by_cases sent : key senderId = key id
  · rw [if_pos sent] at credit
    rw [sent]
    refine .debit .raise ?_
    simpa using credit
  · rw [if_neg sent] at credit
    refine .other sent fun n => ?_
    split
    · exact .raise
    · exact credit

theorem posts_transfer {actor : Actor} (positive : 0 < amount) :
    Posts id env.utcnow none [] (transferSteps env actor senderId receiverId amount) := by
  refine .lock fun lockedFirst => .lock fun lockedSecond => ?_
  dsimp only
  split
  · exact .raise
  · exact posts_move positive

theorem posts_job {call : Call} {body : AccountProg}
    (job : call.job env = .block .unitOfWork body) : Posts id env.utcnow none [] body := by
  cases call with
  | transfer actor senderId receiverId amount =>
      simp only [Call.job, transferJob] at job
      split at job
      · cases job
      · split at job
        · cases job
        · rename_i positive
          split at job
          · cases job
          · cases job
            exact posts_transfer (Int.not_le.mp positive)
  | setBalance accountId balance =>
      simp only [Call.job, setBalanceJob] at job
      split at job
      · cases job
      · cases job
        by_cases own : key accountId = key id
        · rw [own]
          refine .setBalance rfl fun n => ?_
          split
          · trivial
          · exact fun _ => trivial
        · refine .other own fun n => ?_
          split
          · exact .raise
          · exact .select fun _ => .done rfl
  | readOnly body => cases job

/-! ## Where a session stands -/

/-- The row of the account as the session has it. -/
inductive Carries (id : String) (balance : Int) (own : List Account) : Option Int → Prop where
  | foreign (absent : Keyed.lookup (rowKey .account) (key id) own = none) : Carries id balance own none
  | mine {a : Account} {moved : Option Int}
      (held : Keyed.lookup (rowKey .account) (key id) own = some a)
      (moves : a.balance = balance + moved.getD 0) : Carries id balance own moved

/-- At most one ledger row of the account is written, with the clock read before now. -/
def Written (id : String) (clock : DateTime) (now : Int) (moved : Option Int)
    (pending : List Transaction) : Prop :=
  entriesOf id pending = [] ∨ moved.isSome = true ∧
    ∃ t, entriesOf id pending = [t] ∧ stamp t = (dateTime clock).micros ∧ clock.micros ≤ now

structure Writing (id : String) (clock : DateTime) (balance : Int) (log : List Transaction)
    (now : Int) (moved : Option Int) (work : AccountWork) : Prop where
  own : Carries id balance work.own moved
  posts : Posts id clock moved work.pending work.rest
  settled : moved.isSome = true →
    AccountProg.inserts work.rest = true ∨ entriesOf id work.pending ≠ [] →
      ∀ t ∈ entriesOf id log, stamp t ≤ (dateTime clock).micros
  written : Written id clock now moved work.pending

/-- The balance was set before the first ledger row. -/
structure Setting (id : String) (log : List Transaction) (work : AccountWork) : Prop where
  held : Keyed.lookup (rowKey .account) (key id) work.own ≠ none
  untouched : entriesOf id log = []
  silent : entriesOf id work.pending = []
  reads : readsOnly work.rest

inductive Stands (id : String) (clock : DateTime) (balance : Int) (log : List Transaction)
    (now : Int) (work : AccountWork) : Prop where
  | writing (moved : Option Int) (writing : Writing id clock balance log now moved work)
  | setting (setting : Setting id log work)

section
variable {clock : DateTime} {balance balance' now now' : Int} {log log' : List Transaction}
  {moved moved' : Option Int} {own own' : List Account} {pending : List Transaction}
  {rest rest' : AccountProg} {work work' : AccountWork}

theorem Carries.same (owns : Carries id balance own moved)
    (same : Keyed.lookup (rowKey .account) (key id) own' =
      Keyed.lookup (rowKey .account) (key id) own) : Carries id balance own' moved := by
  cases owns with
  | foreign absent => exact .foreign (same.trans absent)
  | mine held moves => exact .mine (same.trans held) moves

theorem Carries.acquired {s : Store Account Transaction} {a : Account}
    (account : Keyed.lookup (rowKey .account) (key id) s.rows = some a)
    (owns : Carries id a.balance own moved) :
    ∃ b, (acquire accountSchema s (key id) own).1 = some b ∧
      b.balance = a.balance + moved.getD 0 := by
  rcases acquire_cases (S := accountSchema) s (key id) own with
    ⟨b, mine, eq⟩ | ⟨b, fresh, found, eq⟩ | ⟨-, missing, -⟩
  · rw [eq]
    cases owns with
    | foreign absent => cases mine.symm.trans absent
    | mine held moves =>
        cases mine.symm.trans held
        exact ⟨b, rfl, moves⟩
  · rw [eq]
    cases found.symm.trans account
    cases owns with
    | foreign => exact ⟨a, rfl, by simp⟩
    | mine held => cases fresh.symm.trans held
  · cases missing.symm.trans account

theorem Carries.acquire {s : Store Account Transaction} {a : Account}
    (account : Keyed.lookup (rowKey .account) (key id) s.rows = some a) (k : String)
    (owns : Carries id a.balance own moved) :
    Carries id a.balance (acquire accountSchema s k own).2 moved := by
  by_cases mine : k = key id
  · subst mine
    obtain ⟨b, read, moves⟩ := owns.acquired account
    exact .mine ((lookup_acquire_self (S := accountSchema) s (key id) own).trans read) moves
  · exact owns.same (lookup_acquire_of_ne (S := accountSchema) s (Ne.symm mine) own)

theorem Stands.begun {body : AccountProg} (posts : Posts id clock none [] body) :
    Stands id clock balance log now ⟨[], [], body⟩ := by
  refine .writing none ⟨.foreign rfl, posts, fun touched => ?_, Or.inl rfl⟩
  cases touched

theorem Stands.mono (stands : Stands id clock balance log now work) (later : now ≤ now')
    (same : Keyed.lookup (rowKey .account) (key id) work.own ≠ none →
      balance' = balance ∧ entriesOf id log' = entriesOf id log) :
    Stands id clock balance' log' now' work := by
  cases stands with
  | writing moved writing =>
      obtain ⟨own, posts, settled, written⟩ := writing
      have written' : Written id clock now' moved work.pending := by
        rcases written with silent | ⟨touched, t, eq, stamped, before⟩
        · exact Or.inl silent
        · exact Or.inr ⟨touched, t, eq, stamped, Int.le_trans before later⟩
      cases own with
      | foreign absent =>
          refine .writing _ ⟨.foreign absent, posts, fun touched => ?_, written'⟩
          cases touched
      | mine held moves =>
          obtain ⟨rfl, kept⟩ := same (by rw [held]; exact Option.some_ne_none _)
          exact .writing _ ⟨.mine held moves, posts, by rwa [kept], written'⟩
  | setting setting =>
      obtain ⟨held, untouched, silent, reads⟩ := setting
      exact .setting ⟨held, (same held).2.trans untouched, silent, reads⟩

theorem Writing.goto (writing : Writing id clock balance log now moved ⟨own, pending, rest⟩)
    (past : ∀ t ∈ entriesOf id log, stamp t ≤ (dateTime ⟨now, none⟩).micros)
    (owns : Carries id balance own' moved') (still : moved.isSome = true → moved'.isSome = true)
    (posts : Posts id clock moved' pending rest')
    (arrives : AccountProg.inserts rest' = true → now ≤ clock.micros) :
    Writing id clock balance log now moved' ⟨own', pending, rest'⟩ where
  own := owns
  posts := posts
  settled _ reason := by
    intro t mem
    rcases reason with inserts | entries
    · exact Int.le_trans (past t mem) (dateTime_mono (arrives inserts))
    · rcases writing.written with silent | ⟨touched, -⟩
      · exact absurd silent entries
      · exact writing.settled touched (Or.inr entries) t mem
  written := writing.written.imp_right fun ⟨touched, entry⟩ => ⟨still touched, entry⟩

theorem Writing.append {entry : Transaction} {next : AccountProg}
    (writing : Writing id clock balance log now moved ⟨own, pending, .append entry next⟩)
    (read : clock.micros ≤ now) :
    Writing id clock balance log now moved ⟨own, pending ++ [entry], next⟩ := by
  obtain ⟨owns, posts, settled, written⟩ := writing
  cases posts with
  | append named rest =>
      cases names : Transactions.names id entry with
      | true =>
          obtain ⟨touched, silent, stamped⟩ := named names
          have single : entriesOf id (pending ++ [entry]) = [entry] := by
            rw [entriesOf_append, silent, entriesOf, List.filter_cons_of_pos names]
            rfl
          exact ⟨owns, rest, fun _ _ => settled touched (Or.inl rfl),
            Or.inr ⟨touched, entry, single, stamped, read⟩⟩
      | false =>
          have same : entriesOf id (pending ++ [entry]) = entriesOf id pending := by
            rw [entriesOf_append, entriesOf, entriesOf,
              List.filter_cons_of_neg (by rw [names]; exact Bool.false_ne_true), List.filter_nil,
              List.append_nil]
          exact ⟨owns, rest, fun touched _ => settled touched (Or.inl rfl),
            by simpa only [Written, same] using written⟩

omit [Collation] in
theorem credit_changes {a : Account} (positive : 0 < amount) :
    updateAccount (.credit amount) a ≠ .ok none := by
  intro kept
  unfold updateAccount at kept
  split at kept
  · rename_i refused
    cases refused
  split at kept
  · cases kept
  dsimp only at kept
  split at kept
  · rename_i same
    have balance : a.balance + amount = a.balance := congrArg Account.balance same
    omega
  · split at kept
    · cases kept
    · cases kept

omit [Collation] in
theorem debit_moves {a b : Account} (changed : updateAccount (.debit amount) a = .ok (some b)) :
    b.balance = a.balance + -amount := by
  rw [(updateAccount_ok changed).1]
  exact Int.sub_eq_add_neg

omit [Collation] in
theorem credit_moves {a b : Account} (changed : updateAccount (.credit amount) a = .ok (some b)) :
    b.balance = a.balance + amount := by
  rw [(updateAccount_ok changed).1]
  rfl

theorem updateAccount_key {change : AccountChange} {a b : Account}
    (changed : updateAccount change a = .ok (some b)) :
    rowKey .account b = rowKey .account a := by
  rw [(updateAccount_ok changed).1, rowKey_store, rowKey_apply]

theorem lookup_updated {s : Store Account Transaction} {a b : Account} {k : String}
    {change : AccountChange} (found : (TwoPhase.acquire accountSchema s k own).1 = some a)
    (changed : updateAccount change a = .ok (some b)) (j : String) :
    Keyed.lookup (rowKey .account) j
        (Keyed.replace (rowKey .account) b (TwoPhase.acquire accountSchema s k own).2) =
      if j = k then some b else Keyed.lookup (rowKey .account) j own := by
  have held : Keyed.lookup (rowKey .account) k (TwoPhase.acquire accountSchema s k own).2 = some a :=
    (lookup_acquire_self (S := accountSchema) s k own).trans found
  have same : rowKey .account b = k := (updateAccount_key changed).trans (Keyed.lookup_key held)
  by_cases mine : j = k
  · rw [if_pos mine, mine, ← same]
    refine Keyed.lookup_replace_self ?_
    rw [same, held]
    rfl
  · rw [if_neg mine, Keyed.lookup_replace_of_ne (by rwa [same])]
    exact lookup_acquire_of_ne (S := accountSchema) s mine own

section
variable {s : Store Account Transaction} {a : Account}
  (account : Keyed.lookup (rowKey .account) (key id) s.rows = some a)
  (past : ∀ t ∈ entriesOf id s.log, stamp t ≤ (dateTime ⟨now, none⟩).micros)
  (arrives : AccountProg.inserts rest' = true → now ≤ clock.micros)
  {next : Nat → AccountProg}
include account past arrives

theorem Writing.other {k : String} {change : AccountChange}
    (writing : Writing id clock a.balance s.log now moved ⟨own, pending, .update k change next⟩)
    (ne : k ≠ key id) (posts : ∀ n, Posts id clock moved pending (next n))
    (updated : Updated accountSchema change next (TwoPhase.acquire accountSchema s k own).1
      (TwoPhase.acquire accountSchema s k own).2 own' rest') :
    Writing id clock a.balance s.log now moved ⟨own', pending, rest'⟩ := by
  have owns : Carries id a.balance own moved := writing.own
  have acquired := owns.acquire account k
  cases updated with
  | missing | kept => exact writing.goto past acquired (fun h => h) (posts 0) arrives
  | @changed b b' found applied =>
      have changed : updateAccount change b = .ok (some b') := applied
      have same := (lookup_updated found changed (key id)).trans (if_neg (Ne.symm ne))
      exact writing.goto past (owns.same same) (fun h => h) (posts 1) arrives
  | failed => exact writing.goto past acquired (fun h => h) .raise arrives

theorem Writing.moves {change : AccountChange} {delta : Int}
    (writing : Writing id clock a.balance s.log now moved
      ⟨own, pending, .update (key id) change next⟩)
    (effect : ∀ b b', updateAccount change b = .ok (some b') → b'.balance = b.balance + delta)
    (kept : (∃ b, updateAccount change b = .ok none) → Posts id clock moved pending (next 0))
    (posts : Posts id clock (some (moved.getD 0 + delta)) pending (next 1))
    (updated : Updated accountSchema change next (TwoPhase.acquire accountSchema s (key id) own).1
      (TwoPhase.acquire accountSchema s (key id) own).2 own' rest') :
    ∃ moved', Writing id clock a.balance s.log now moved' ⟨own', pending, rest'⟩ := by
  have owns : Carries id a.balance own moved := writing.own
  have acquired := owns.acquire account (key id)
  obtain ⟨b, reads, moves⟩ := owns.acquired account
  cases updated with
  | missing absent => cases reads.symm.trans absent
  | @kept b' found applied =>
      exact ⟨moved, writing.goto past acquired (fun h => h) (kept ⟨b', applied⟩) arrives⟩
  | @changed c c' found applied =>
      obtain rfl : b = c := Option.some.inj (reads.symm.trans found)
      have changed : updateAccount change b = .ok (some c') := applied
      have held := (lookup_updated found changed (key id)).trans (if_pos rfl)
      have balance : c'.balance = a.balance + (some (moved.getD 0 + delta)).getD 0 := by
        rw [effect b c' changed, moves, Option.getD_some]
        omega
      exact ⟨_, writing.goto past (.mine held balance) (fun _ => rfl) posts arrives⟩
  | failed => exact ⟨moved, writing.goto past acquired (fun h => h) .raise arrives⟩

end

theorem Stands.step {s : Store Account Transaction} {a : Account} {available : String → Bool}
    (account : Keyed.lookup (rowKey .account) (key id) s.rows = some a)
    (past : ∀ t ∈ entriesOf id s.log, stamp t ≤ (dateTime ⟨now, none⟩).micros)
    (stands : Stands id clock a.balance s.log now work)
    (overrides : AccountProg.overrides id work.rest = true → entriesOf id s.log = [])
    (read : AccountProg.inserts work.rest = true → clock.micros ≤ now)
    (arrives : AccountProg.inserts work'.rest = true → now ≤ clock.micros)
    (advance : work.step accountSchema s available = some work') :
    Stands id clock a.balance s.log now work' := by
  obtain ⟨own, pending, rest⟩ := work
  cases stands with
  | setting setting =>
      obtain ⟨held, untouched, silent, reads⟩ := setting
      cases rest with
      | select next =>
          cases advance
          exact .setting ⟨held, untouched, silent, reads _⟩
      | done | raise => cases advance
      | lock | update | append => exact reads.elim
  | writing moved writing =>
      have owns := writing.own
      cases writing.posts with
      | done | raise => cases advance
      | select posts =>
          cases advance
          exact .writing moved (writing.goto past owns (fun h => h) (posts _) arrives)
      | append named posts =>
          cases advance
          exact .writing moved (writing.append (read rfl))
      | @lock _ _ k next posts =>
          obtain ⟨-, rfl⟩ := Work.step_lock advance
          have acquired := owns.acquire account k
          exact .writing moved (writing.goto past acquired (fun h => h) (posts _) arrives)
      | other ne posts =>
          obtain ⟨-, own', rest', rfl, updated⟩ := Work.step_update advance
          exact .writing moved (writing.other account past arrives ne posts updated)
      | debit kept posts =>
          obtain ⟨-, own', rest', rfl, updated⟩ := Work.step_update advance
          rw [Int.sub_eq_add_neg] at posts
          obtain ⟨moved', writing'⟩ := writing.moves account past arrives
            (fun b b' => debit_moves) (fun _ => kept) posts updated
          exact .writing moved' writing'
      | credit positive posts =>
          obtain ⟨-, own', rest', rfl, updated⟩ := Work.step_update advance
          obtain ⟨moved', writing'⟩ := writing.moves account past arrives
            (fun b b' => credit_moves) (fun ⟨b, kept⟩ => absurd kept (credit_changes positive)) posts updated
          exact .writing moved' writing'
      | setBalance silent rest =>
          obtain ⟨-, own', rest', rfl, updated⟩ := Work.step_update advance
          have untouched := overrides (decide_eq_true rfl)
          obtain ⟨b, reads, -⟩ := owns.acquired account
          have acquired := (lookup_acquire_self (S := accountSchema) s (key id) own).trans reads
          have held : Keyed.lookup accountSchema.key (key id) own' ≠ none := by
            rw [Ne, lookup_none_iff, updated.keys, ← lookup_none_iff, acquired]
            exact Option.some_ne_none b
          have reading : readsOnly rest' := by
            cases updated with
            | missing | kept | changed => exact rest _
            | failed => trivial
          exact .setting ⟨held, untouched, silent, reading⟩

end

end

end Corebank
