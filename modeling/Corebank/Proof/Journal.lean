import Corebank.Journal
import Corebank.Proof.Atomicity
import Corebank.Proof.Conservation
import Corebank.Proof.Credentials
import Corebank.Proof.Updates

/-! # The answers tell every balance -/

namespace Corebank
open Library TransactionService

section
variable [Collation] {db db' : Db}

/-- The accounts as a book: who owns each, and what is in it. -/
def bookOf (db : Db) : Book.Accounts String String := fun k =>
  (Keyed.lookup (rowKey .account) k (db .account)).map fun a => ⟨key a.customerId, a.balance⟩

theorem bookOf_account (same : db' .account = db .account) : bookOf db' = bookOf db := by
  funext k
  rw [bookOf, same]
  rfl

theorem bookOf_find {id : String} {a : Account} (found : db.find .account id = some a) :
    bookOf db (key id) = some ⟨key a.customerId, a.balance⟩ :=
  congrArg (Option.map _) found

/-! ## What a call does to the book -/

omit [Collation] in
theorem post_of {b : Book.Accounts String String} {e : JournalEntry} (admitted : e.admitted b = true) :
    Book.postAll b [e] = some fun k => e.touch k (b k) := by
  rw [Book.postAll, List.foldlM_cons, Book.post, if_pos admitted]
  rfl

theorem bookOf_withBalance {id : String} {a : Account} (found : db.find .account id = some a)
    (amount : Int) (k : String) : bookOf (db.withBalance a amount) k =
      if key id = k then (bookOf db k).map ({ · with balance := amount }) else bookOf db k := by
  have own : rowKey .account { a with balance := amount } = key id :=
    (Db.find_key found : rowKey .account a = key id)
  split
  · rename_i here
    subst here
    rw [bookOf_find found, bookOf, Db.withBalance, Db.set_same, ← own]
    rw [Keyed.lookup_replace_self (by rw [own]; exact Option.isSome_of_eq_some found)]
    rfl
  · rename_i there
    rw [bookOf, Db.withBalance, Db.set_same, Keyed.lookup_replace_of_ne (own ▸ Ne.symm there)]
    rfl

theorem bookOf_add {id : String} {a : Account} (found : db.find .account id = some a)
    (amount : Int) (k : String) : bookOf (db.withBalance a (a.balance + amount)) k =
      if key id = k then (bookOf db k).map (·.add amount) else bookOf db k := by
  rw [bookOf_withBalance found]
  split
  · rename_i here
    rw [← here, bookOf_find found]
    rfl
  · rfl

theorem opened_posts {record : Account} {n : Nat} (empty : record.balance = 0)
    (exec : (Statement.insert .account record).exec db = .ok (n, db')) :
    Book.postAll (bookOf db) [.opened (key record.accountId) (key record.customerId)] =
      some (bookOf db') := by
  obtain ⟨-, verified, -, rfl⟩ := exec_insert exec
  have own : rowKey .account (store .account record) = key record.accountId := rowKey_store _ _
  have fresh : Keyed.lookup (rowKey .account) (key record.accountId) (db .account) = none := by
    rw [Keyed.lookup_eq_none]
    intro o mem same
    have clash := (verify_eq_none.mp verified).2.1 o mem
    simp [clashes, own, same] at clash
  rw [post_of (by simp [Book.Entry.admitted, bookOf, fresh])]
  apply congrArg some
  funext k
  rw [bookOf, bookOf, Db.set_same, Keyed.lookup_append, Book.Entry.touch]
  split
  · rename_i here
    subst here
    have found : Keyed.lookup (rowKey .account) (key record.accountId) [store .account record] =
        some (store .account record) := by simp [Keyed.lookup, own]
    have owner : key (store .account record).customerId = key record.customerId := key_rstrip _
    have balance : (store .account record).balance = 0 := empty
    rw [fresh, Option.none_or, found, Option.map_some, owner, balance]
  · rename_i there
    have other : Keyed.lookup (rowKey .account) k [store .account record] = none := by
      rw [Keyed.lookup_eq_none]
      intro o mem
      rw [List.mem_singleton.mp mem, own]
      exact there
    rw [other, Option.or_none]

theorem closed_posts {id : String} {r : Account} (closed : Closed db db' id r) :
    Book.postAll (bookOf db) [.closed (key id)] = some (bookOf db') := by
  rw [post_of (by simp [Book.Entry.admitted, bookOf_find closed.found])]
  apply congrArg some
  funext k
  rw [bookOf, bookOf, closed.accounts, Book.Entry.touch]
  split
  · rename_i here
    subst here
    have gone : Keyed.lookup (rowKey .account) (key id)
        (Keyed.remove (rowKey .account) (key id) (db .account)) = none := by
      rw [Keyed.lookup_eq_none]
      intro o mem
      exact (Keyed.mem_remove.mp mem).2
    rw [gone]
    rfl
  · rename_i there
    rw [Keyed.lookup_remove_of_ne (Ne.symm there)]

theorem adjusted_posts {id : String} {a : Account} {amount : Int} (nonneg : 0 ≤ amount)
    (found : db.find .account id = some a) :
    Book.postAll (bookOf db) [.adjusted (key id) amount] = some (bookOf (db.withBalance a amount)) := by
  rw [post_of (by simp [Book.Entry.admitted, bookOf_find found, nonneg])]
  apply congrArg some
  funext k
  exact (bookOf_withBalance found amount k).symm

theorem paid_posts {env : Env} {actor : Actor} {senderId receiverId : String} {cents : Int}
    {sender receiver : Account}
    (ok : TransferOk db env actor senderId receiverId cents sender receiver) (txn : Transaction)
    (amount : txn.amount = cents) :
    Book.postAll (bookOf db) [.paid (key senderId) (key receiverId) cents] =
      some (bookOf (db.transferred sender receiver txn)) := by
  have funds : Book.Entry.admitted (bookOf db) (.paid (key senderId) (key receiverId) cents) = true := by
    have receives : (bookOf db (key receiverId)).isSome := by
      have found := Option.isSome_of_eq_some ok.receiverFound
      rw [withBalance_find_isSome ok.senderFound] at found
      obtain ⟨r, found⟩ := Option.isSome_iff_exists.mp found
      rw [bookOf_find found]
      rfl
    simp [Book.Entry.admitted, bookOf_find ok.senderFound, ok.positive, ok.funds, receives]
  rw [post_of funds]
  apply congrArg some
  funext k
  have ledger : bookOf (db.transferred sender receiver txn) =
      bookOf ((db.withBalance sender (sender.balance - cents)).withBalance receiver
        (receiver.balance + cents)) := by
    subst amount
    apply bookOf_account
    rw [Db.transferred, Db.record, Db.set_other _ _ (by decide)]
  rw [ledger, bookOf_add ok.receiverFound, sub_eq_add_neg, bookOf_add ok.senderFound]
  rfl

/-! ## One call -/

variable [Werkzeug]

theorem opened_call (env : Env) (customerId : String) (accountType : AccountType) (branchId : String)
    {r : Response}
    (run : ((Operation.createAccount customerId accountType branchId).serve env).run db = (.ok r, db')) :
    Book.postAll (bookOf db) [.opened (key env.newId) (key customerId)] = some (bookOf db') := by
  obtain ⟨a, -, created⟩ := respond_ok run
  obtain ⟨-, n, exec⟩ := createRow_ok created
  exact opened_posts rfl exec

theorem closed_call (valid : db.Valid) (env : Env) (id : String) {r : Response}
    (run : ((Operation.deleteAccount id).serve env).run db = (.ok r, db')) :
    Book.postAll (bookOf db) [.closed (key id)] = some (bookOf db') := by
  rcases deleteAccount_run env valid id with ⟨a, after, deleted, closed⟩ | ⟨e, refused⟩
  · rw [deleted] at run
    cases run
    exact closed_posts closed
  · rw [refused] at run
    cases run

theorem adjusted_call (valid : db.Valid) (env : Env) (id : String) (balance : Decimal) {r : Response}
    (run : ((Operation.setBalance id balance).serve env).run db = (.ok r, db')) :
    ∃ amount, quantize balance = .ok amount ∧
      Book.postAll (bookOf db) [.adjusted (key id) amount] = some (bookOf db') := by
  obtain ⟨a, -, set⟩ := respond_ok run
  rw [AccountService.setBalance] at set
  cases rounded : quantize balance with
  | error e =>
      rw [rounded] at set
      cases set
  | ok amount =>
      refine ⟨amount, rfl, ?_⟩
      have reads (db : Db) : (Accounts.get id).run db =
          .ok ((db.find .account id).map fun r => r, db) := by
        simp [Accounts.get, getRow, Sql.run]
      simp only [rounded, Service.ofExcept, Service.done_bind, Accounts.setBalance] at set
      rw [updateThenGet_run reads] at set
      cases found : db.find .account id with
      | none =>
          rw [exec_missing rfl found] at set
          cases set
      | some a =>
          rw [exec_balance valid found rfl rfl] at set
          by_cases large : 10 ^ 15 ≤ amount.natAbs
          · rw [if_pos large] at set
            cases set
          by_cases same : amount = a.balance
          · rw [if_neg large, if_pos same] at set
            simp at set
          by_cases negative : amount < 0
          · rw [if_neg large, if_neg same, if_pos negative] at set
            cases set
          · rw [if_neg large, if_neg same, if_neg negative] at set
            simp only [one_ne_zero, if_false] at set
            cases set
            exact adjusted_posts (Int.not_lt.mp negative) found

theorem paid_call (valid : db.Valid) (env : Env) (actor : Actor) (senderId receiverId : String)
    (amount : Decimal) {r : Response}
    (run : ((Operation.transfer actor senderId receiverId amount).serve env).run db = (.ok r, db')) :
    ∃ cents, quantize amount = .ok cents ∧
      Book.postAll (bookOf db) [.paid (key senderId) (key receiverId) cents] = some (bookOf db') := by
  obtain ⟨txn, -, transferred⟩ := respond_ok run
  obtain ⟨cents, sender, receiver, rounded, ok, rfl, rfl⟩ := transfer_ok valid transferred
  exact ⟨cents, rounded, paid_posts ok _ rfl⟩

omit [Werkzeug] in
/-- `Service.run_rel` for calls whose steps may fail. -/
theorem Service.runWith_rel {α : Type} {ok : Statement → Prop} (rel : Db → Db → Prop)
    (refl : ∀ db, rel db db) (trans : ∀ {db db' db''}, rel db db' → rel db' db'' → rel db db'')
    (step : ∀ s, ok s → ∀ {db n db'}, s.exec db = .ok (n, db') → rel db db') {op : Service α}
    (issues : op.Issues ok) (plan : Plan) (db : Db) : rel db (op.runWith plan db).2 := by
  induction op generalizing plan db with
  | done a => exact refl db
  | raise e => exact refl db
  | unitOfWork guard body next ih =>
      simp only [Service.runWith]
      split
      · exact refl db
      split
      · exact refl db
      split
      · exact refl db
      · rename_i inside
        split
        · exact refl db
        · exact trans (Sql.run_rel rel refl trans step issues.1 (Sql.runWith_ok inside))
            (ih _ (issues.2 _) _ _)
  | readOnly body next ih =>
      simp only [Service.runWith]
      split
      · exact refl db
      split
      · exact refl db
      · exact ih _ (issues _) _ db

/-- A call that issues no statement on accounts leaves the book as it is. -/
theorem spared_call (x : Incident) (spares : ∀ s ∈ x.op.writes x.env, s.Spares .account) (db : Db) :
    bookOf (x.serve db).2 = bookOf db :=
  bookOf_account <| Service.runWith_rel (fun db db' => db' .account = db .account) (fun _ => rfl)
    (fun first second => second.trans first)
    (fun s issued _ _ _ exec => exec_spares (by decide) (spares s issued) exec)
    (operation_issues x.op x.env) x.plan db

theorem incident_posts (valid : db.Valid) (x : Incident) :
    Book.postAll (bookOf db) (x.entries (x.serve db).1) = some (bookOf (x.serve db).2) := by
  -- a call that is no entry leaves the book alone, and so does one that fails
  have spared (none : x.op.entry x.env = none) (spares : ∀ s ∈ x.op.writes x.env, s.Spares .account) :
      Book.postAll (bookOf db) (x.entries (x.serve db).1) = some (bookOf (x.serve db).2) := by
    rw [spared_call x spares]
    cases (x.serve db).1 with
    | ok r =>
        rw [Incident.entries, none]
        rfl
    | error e => rfl
  have entered (notCard : ∀ data, x.op ≠ .createCard data)
      (succeeds : ∀ {r db'}, (x.op.serve x.env).run db = (.ok r, db') →
        Book.postAll (bookOf db) (x.op.entry x.env).toList = some (bookOf db')) :
      Book.postAll (bookOf db) (x.entries (x.serve db).1) = some (bookOf (x.serve db).2) := by
    cases served : x.serve db with
    | mk answer db' =>
        cases answer with
        | ok r => exact succeeds (Service.runWith_ok served)
        | error e =>
            obtain rfl := (operation_commitsLast x.op x.env notCard).runWith_error served
            rfl
  obtain ⟨op, env, plan⟩ := x
  cases op with
  | createAccount customerId accountType branchId =>
      exact entered nofun fun run => opened_call env customerId accountType branchId run
  | deleteAccount id => exact entered nofun fun run => closed_call valid env id run
  | setBalance id balance =>
      refine entered nofun fun run => ?_
      obtain ⟨amount, rounded, posted⟩ := adjusted_call valid env id balance run
      rw [Operation.entry, rounded]
      exact posted
  | transfer actor senderId receiverId amount =>
      refine entered nofun fun run => ?_
      obtain ⟨cents, rounded, posted⟩ := paid_call valid env actor senderId receiverId amount run
      rw [Operation.entry, rounded]
      exact posted
  | _ => exact spared rfl (by simp [Operation.writes, Statement.Spares])

/-! ## Whole runs -/

theorem Incident.valid (x : Incident) (valid : db.Valid) : (x.serve db).2.Valid :=
  Service.runWith_rel (fun db db' => db.Valid → db'.Valid) (fun _ => id) (fun f g => g ∘ f)
    (fun _ (_ : True) _ _ _ h valid => exec_valid valid h)
    (Service.issues_of_forall (fun _ => trivial) _) x.plan db valid

theorem journal_posts (valid : db.Valid) (calls : List Incident) :
    Book.postAll (bookOf db) (journal calls db) = some (bookOf (outcome calls db)) := by
  induction calls generalizing db with
  | nil => rfl
  | cons x calls ih => exact Book.postAll_append (incident_posts valid x) (ih (x.valid valid))

omit [Werkzeug] in
theorem total_bookOf (valid : db.Valid) {ks : Finset String}
    (covers : ∀ a ∈ db .account, rowKey .account a ∈ ks) :
    Book.total ks (bookOf db) = db.totalBalance := by
  have listed : ((db .account).map (rowKey .account)).toFinset ⊆ ks := by
    intro k named
    obtain ⟨a, mem, rfl⟩ := List.mem_map.mp (List.mem_toFinset.mp named)
    exact covers a mem
  have absent : ∀ k ∈ ks, k ∉ ((db .account).map (rowKey .account)).toFinset →
      Book.balance (bookOf db k) = 0 := by
    intro k _ unlisted
    have missing : Keyed.lookup (rowKey .account) k (db .account) = none := by
      rw [Keyed.lookup_eq_none]
      intro a mem same
      exact unlisted (List.mem_toFinset.mpr (same ▸ List.mem_map_of_mem mem))
    rw [bookOf, missing]
    rfl
  rw [Book.total, ← Finset.sum_subset listed absent, List.sum_toFinset _ (valid.ids .account),
    List.map_map, Db.totalBalance]
  congr 1
  refine List.map_congr_left fun a mem => ?_
  rw [Function.comp_apply, bookOf, Keyed.lookup_of_mem (valid.ids .account) mem]
  rfl

theorem outcome_valid (valid : db.Valid) (calls : List Incident) : (outcome calls db).Valid := by
  induction calls generalizing db with
  | nil => exact valid
  | cons x calls ih => exact ih (x.valid valid)

/-- Who sees the calls and which of them succeeded knows every account and every balance, and what
money came into the bank and went out of it. -/
theorem journal_explains (valid : db.Valid) (calls : List Incident) :
    Book.postAll (bookOf db) (journal calls db) = some (bookOf (outcome calls db)) ∧
    (∀ k, bookOf (outcome calls db) k =
      ((journal calls db).filter (Book.Entry.names k)).foldl (Book.Entry.touch k) (bookOf db k)) ∧
    (outcome calls db).totalBalance =
      db.totalBalance + Book.supply (bookOf db) (journal calls db) := by
  have posted := journal_posts valid calls
  refine ⟨posted, Book.postAll_at posted, ?_⟩
  let ks := ((db .account).map (rowKey .account) ++ (outcome calls db .account).map (rowKey .account) ++
    (journal calls db).flatMap Book.Entry.keys).toFinset
  have before : Book.total ks (bookOf db) = db.totalBalance :=
    total_bookOf valid fun a mem => List.mem_toFinset.mpr
      (List.mem_append_left _ (List.mem_append_left _ (List.mem_map_of_mem mem)))
  have after : Book.total ks (bookOf (outcome calls db)) = (outcome calls db).totalBalance :=
    total_bookOf (outcome_valid valid calls) fun a mem => List.mem_toFinset.mpr
      (List.mem_append_left _ (List.mem_append_right _ (List.mem_map_of_mem mem)))
  rw [← before, ← after]
  exact Book.postAll_total (fun e mem k named => List.mem_toFinset.mpr
    (List.mem_append_right _ (List.mem_flatMap.mpr ⟨e, mem, named⟩))) posted

/-- An account is there, and its owner's, until it is closed. -/
theorem owner_for_life (valid : db.Valid) (calls : List Incident) {id : String} {a : Account}
    (found : db.find .account id = some a) (open_ : .closed (key id) ∉ journal calls db) :
    ∃ a', (outcome calls db).find .account id = some a' ∧ key a'.customerId = key a.customerId := by
  obtain ⟨last, held, owner⟩ := Book.postAll_owner (journal_posts valid calls) (bookOf_find found) open_
  obtain ⟨a', found', rfl⟩ := Option.map_eq_some_iff.mp held
  exact ⟨a', found', owner⟩

end

attribute [local instance] foldCase clearText

/-- Ann pays Bob, loses her connection at a second payment, and an administrator takes back 10.00. -/
def busyDay : List Incident :=
  [⟨.transfer ann "a-1" "b-1" ⟨40, 0⟩, noon "t-1", []⟩,
    ⟨.transfer ann "a-1" "b-1" ⟨20, 0⟩, noon "t-2",
      List.replicate 4 none ++ [some (.driver (mysqlError 2013))]⟩,
    ⟨.setBalance "b-1" ⟨30, 0⟩, noon "", []⟩]

theorem journal_explains_busyDay :
    Book.postAll (bookOf opened) (journal busyDay opened) = some (bookOf (outcome busyDay opened)) ∧
    journal busyDay opened = [.paid "a-1" "b-1" 4000, .adjusted "b-1" 3000] ∧
    (outcome busyDay opened).totalBalance =
      opened.totalBalance + Book.supply (bookOf opened) (journal busyDay opened) := by
  obtain ⟨posted, -, total⟩ := journal_explains reachable_opened.valid busyDay
  exact ⟨posted, by decide +kernel, total⟩

theorem owner_for_life_busyDay : ∃ b b', opened.find .account "b-1" = some b ∧
    (outcome busyDay opened).find .account "b-1" = some b' ∧ key b'.customerId = key b.customerId := by
  have found : (opened.find .account "b-1").isSome := by decide +kernel
  obtain ⟨b, found⟩ := Option.isSome_iff_exists.mp found
  obtain ⟨b', found', owner⟩ := owner_for_life reachable_opened.valid busyDay found (by decide +kernel)
  exact ⟨b, b', found, found', owner⟩

end Corebank
