import Corebank.Proof.Ownership
import Mathlib.Data.List.Sort

/-!
# What calls without the ADMIN role can read

Two databases that hold the same rows for a customer answer each of its GET requests alike.
-/

namespace Corebank
open Library

section
variable [Collation]

def Visible (c : Option String) (db : Db) : (t : Table) → Row t → Prop
  | .customer, r => Owns c r.customerId
  | .account, r => Owns c r.customerId
  | .loan, r => Owns c r.customerId
  | .creditScore, r => Owns c r.customerId
  | .customerSupport, r => Owns c r.customerId
  | .card, r => OwnsAccount c db r.accountId
  | .transaction, r => OwnsAccount c db r.fromAccountId ∨ ∃ id ∈ r.toAccountId, OwnsAccount c db id
  | _, _ => False

instance (c : Option String) (db : Db) : (t : Table) → (r : Row t) → Decidable (Visible c db t r)
  | .customer, r => inferInstanceAs (Decidable (Owns c r.customerId))
  | .account, r => inferInstanceAs (Decidable (Owns c r.customerId))
  | .loan, r => inferInstanceAs (Decidable (Owns c r.customerId))
  | .creditScore, r => inferInstanceAs (Decidable (Owns c r.customerId))
  | .customerSupport, r => inferInstanceAs (Decidable (Owns c r.customerId))
  | .card, r => inferInstanceAs (Decidable (OwnsAccount c db r.accountId))
  | .transaction, r => inferInstanceAs (Decidable (OwnsAccount c db r.fromAccountId ∨
      ∃ id ∈ r.toAccountId, OwnsAccount c db id))
  | .user, _ | .branch, _ | .loanPayment, _ | .employee, _ => inferInstanceAs (Decidable False)

def Agree (c : Option String) (db db' : Db) : Prop :=
  ∀ t r, r ∈ db t ∧ Visible c db t r ↔ r ∈ db' t ∧ Visible c db' t r

/-- The same rows, in an order that only leaves open what the SELECT leaves open. -/
inductive Response.SameRows : Response → Response → Prop
  | same (r : Response) : SameRows r r
  | accounts {rows rows' : List Account} (perm : rows.Perm rows') :
      SameRows (.rows .account rows) (.rows .account rows')
  | ledger {rows rows' : List Transaction} (perm : rows.Perm rows')
      (newestFirst : rows.map (·.transactionTimestamp.micros) =
        rows'.map (·.transactionTimestamp.micros)) :
      SameRows (.rows .transaction rows) (.rows .transaction rows')

def Refused (e : Exn) : Prop := e.statusCode = 403 ∨ e.statusCode = 404

def Alike : Except Exn Response → Except Exn Response → Prop
  | .ok r, .ok r' => r.SameRows r'
  | .error e, .error e' => Refused e ∧ Refused e'
  | _, _ => False

/-! ## Reads that give only rows the caller may see -/

theorem Agree.symm {c : Option String} {db db' : Db} (agree : Agree c db db') : Agree c db' db :=
  fun t r => (agree t r).symm

theorem Agree.find {c : Option String} {db db' : Db} (agree : Agree c db db') (valid : db'.Valid)
    {t : Table} {id : String} {r : Row t} (found : db.find t id = some r)
    (visible : Visible c db t r) : db'.find t id = some r :=
  valid.find_of_mem ((agree t r).mp ⟨Db.find_mem found, visible⟩).1 (Db.find_key found).symm

/-- What one database answers, every database that agrees with it answers. -/
structure Confined (c : Option String) (op : Service Response) : Prop where
  carries : ∀ {db db' : Db}, db.Valid → db'.Valid → Agree c db db' → ∀ {r}, (op.run db).1 = .ok r →
    ∃ r', (op.run db').1 = .ok r' ∧ r.SameRows r'
  refuses : ∀ {db : Db} {e}, (op.run db).1 = .error e → Refused e

theorem Confined.alike {c : Option String} {op : Service Response} (confined : Confined c op)
    {db db' : Db} (valid : db.Valid) (valid' : db'.Valid) (agree : Agree c db db') :
    Alike (op.run db).1 (op.run db').1 := by
  cases first : (op.run db).1 with
  | ok r =>
      obtain ⟨r', second, same⟩ := confined.carries valid valid' agree first
      rw [second]
      exact same
  | error e =>
      cases second : (op.run db').1 with
      | ok r' =>
          obtain ⟨r, answered, -⟩ := confined.carries valid' valid agree.symm second
          rw [first] at answered
          cases answered
      | error e' => exact ⟨confined.refuses first, confined.refuses second⟩

theorem confined_single {α : Type} {c : Option String} {op : Service α} (f : α → Response)
    (carries : ∀ {db db' : Db}, db.Valid → db'.Valid → Agree c db db' → ∀ {a},
      (op.run db).1 = .ok a → (op.run db').1 = .ok a)
    (refuses : ∀ {db : Db} {e}, (op.run db).1 = .error e → Refused e) :
    Confined c (respond f op) where
  carries {db db'} valid valid' agree r answered := by
    rw [respond_run] at answered ⊢
    cases run : (op.run db).1 with
    | error e => rw [run] at answered; cases answered
    | ok a =>
        rw [run] at answered
        cases answered
        rw [carries valid valid' agree run]
        exact ⟨f a, rfl, .same _⟩
  refuses {db e} refused := by
    rw [respond_run] at refused
    cases run : (op.run db).1 with
    | error e' =>
        rw [run] at refused
        cases refused
        exact refuses run
    | ok a => rw [run] at refused; cases refused

theorem confined_adminRequired {c : Option String} {actor : Actor} (notAdmin : actor.role ≠ .admin)
    (op : Service Response) : Confined c (adminRequired actor op) where
  carries _ _ _ _ answered := by
    rw [adminRequired_run notAdmin] at answered
    cases answered
  refuses refused := by
    rw [adminRequired_run notAdmin] at refused
    cases refused
    exact Or.inl rfl

/-! ## The services -/

theorem fetchRow_run {t : Table} (id missing : String) (db : Db) :
    ((fetchRow (getRow t id) missing).run db).1 = match db.find t id with
      | none => .error (.app .notFound missing)
      | some r => .ok r := by
  simp only [fetchRow, getRow, readOnly, Service.readOnly_bind, Service.done_bind, Service.run,
    Sql.run]
  cases db.find t id with
  | none => rfl
  | some r => rfl

theorem fetchOwned_run {t : Table} (id missing : String) (owner : Row t → String) (actor : Actor)
    (db : Db) : ((fetchOwned (getRow t id) missing owner actor).run db).1 =
      match db.find t id with
      | none => .error (.app .notFound missing)
      | some r => (ensureOwnerOrAdmin actor (some (owner r))).map fun _ => r := by
  have fetched := fetchRow_run (t := t) id missing db
  rw [fetchOwned, Service.run_bind]
  cases run : (fetchRow (getRow t id) missing).run db with
  | mk outcome db' =>
      rw [run] at fetched
      simp only at fetched
      subst fetched
      cases db.find t id with
      | none => rfl
      | some r =>
          simp only
          cases ensureOwnerOrAdmin actor (some (owner r)) with
          | ok _ => rfl
          | error e => rfl

variable {actor : Actor} (notAdmin : actor.role ≠ .admin)

omit [Collation] in
theorem checked_error {α : Type} {id : Option String} {f : Unit → α} {e : Exn}
    (refused : (ensureOwnerOrAdmin actor id).map f = .error e) : Refused e := by
  cases passed : ensureOwnerOrAdmin actor id with
  | ok _ =>
      rw [passed] at refused
      cases refused
  | error e' =>
      rw [passed] at refused
      cases refused
      exact Or.inl (ensureOwner_error passed)

include notAdmin

theorem checked_ok {α : Type} {id : String} {f : Unit → α} {a : α}
    (answered : (ensureOwnerOrAdmin actor (some id)).map f = .ok a) : Owns actor.customerId id := by
  cases passed : ensureOwnerOrAdmin actor (some id) with
  | ok _ => exact owns_of_token rfl (ensureOwner_ok notAdmin passed)
  | error e =>
      rw [passed] at answered
      cases answered

theorem confined_fetchOwned {t : Table} (id missing : String) (owner : Row t → String)
    (visible : ∀ db r, Owns actor.customerId (owner r) → Visible actor.customerId db t r)
    (f : Row t → Response) :
    Confined actor.customerId (respond f (fetchOwned (getRow t id) missing owner actor)) := by
  apply confined_single
  · intro db db' _ valid' agree r answered
    rw [fetchOwned_run] at answered ⊢
    cases found : db.find t id with
    | none => rw [found] at answered; cases answered
    | some r' =>
        rw [found] at answered
        rw [agree.find valid' found (visible db r' (checked_ok notAdmin answered))]
        exact answered
  · intro db e refused
    rw [fetchOwned_run] at refused
    cases found : db.find t id with
    | none =>
        rw [found] at refused
        cases refused
        exact Or.inr rfl
    | some r =>
        rw [found] at refused
        exact checked_error refused

omit notAdmin in
theorem getCustomer_run (id : String) (db : Db) : ((CustomerService.get id actor).run db).1 =
    match ensureOwnerOrAdmin actor (some id), db.find .customer id with
    | .error e, _ => .error e
    | .ok _, none => .error (.app .notFound "Customer not found")
    | .ok _, some r => .ok r := by
  have fetched := fetchRow_run (t := .customer) id "Customer not found" db
  rw [CustomerService.get]
  cases ensureOwnerOrAdmin actor (some id) with
  | error e => rfl
  | ok _ =>
      refine fetched.trans ?_
      cases db.find .customer id with
      | none => rfl
      | some r => rfl

theorem confined_getCustomer (id : String) :
    Confined actor.customerId
      (respond (.row .customer ∘ some) (CustomerService.get id actor)) := by
  apply confined_single
  · intro db db' _ valid' agree r answered
    rw [getCustomer_run] at answered ⊢
    split at answered
    · cases answered
    · cases answered
    · rename_i passed found
      have own : Owns actor.customerId id := owns_of_token rfl (ensureOwner_ok notAdmin passed)
      have visible : Visible actor.customerId db .customer _ :=
        (owns_congr (Db.find_key found)).mpr own
      rw [passed, agree.find valid' found visible]
      exact answered
  · intro db e refused
    rw [getCustomer_run] at refused
    split at refused
    · cases refused
      exact Or.inl (ensureOwner_error ‹_›)
    · cases refused
      exact Or.inr rfl
    · cases refused

omit notAdmin in
theorem getCard_run (id : String) (db : Db) : ((CardService.get id actor).run db).1 =
    match db.find .card id with
    | none => .error (.app .notFound "Card not found")
    | some card =>
        match db.find .account card.accountId with
        | none => .error (.app .notFound "Card not found")
        | some a =>
            (ensureOwnerOrAdmin actor (some a.customerId)).map fun _ => some card.safeColumns := by
  simp only [CardService.get, readOnly, Service.run, Sql.run_bind, ensureOwned_run, Cards.get,
    Sql.run]
  cases found : db.find .card id with
  | none => rfl
  | some card =>
      simp only [Option.bind_some]
      cases db.find .account card.accountId with
      | none => rfl
      | some a =>
          simp only
          cases ensureOwnerOrAdmin actor (some a.customerId) with
          | error e => rfl
          | ok _ =>
              simp only [found]
              rfl

theorem confined_getCard (id : String) :
    Confined actor.customerId (respond .card (CardService.get id actor)) := by
  apply confined_single
  · intro db db' _ valid' agree r answered
    rw [getCard_run] at answered ⊢
    split at answered
    · cases answered
    rename_i card found
    split at answered
    · cases answered
    rename_i a account
    have own := checked_ok notAdmin answered
    have visible : Visible actor.customerId db .card card := ⟨a, account, own⟩
    simp only [agree.find valid' found visible, agree.find (t := .account) valid' account own]
    exact answered
  · intro db e refused
    rw [getCard_run] at refused
    split at refused
    · cases refused
      exact Or.inr rfl
    split at refused
    · cases refused
      exact Or.inr rfl
    exact checked_error refused

/-! ## The ledger -/

def ownSide (actor : Actor) (db : Db) (id : Option String) : Bool :=
  id.any fun id => id ≠ "" && (db.find .account id).any fun a => some a.customerId = actor.customerId

omit notAdmin in
theorem ensureActorSees_run (sides : List (Option String)) (db : Db) :
    (TransactionService.ensureActorSees actor sides).run db =
      if sides.any (ownSide actor db) then .ok ((), db)
      else .error (.app .forbidden "You do not have access to this transaction") := by
  induction sides with
  | nil => rfl
  | cons side sides ih =>
      cases side with
      | none => simpa [TransactionService.ensureActorSees, ownSide] using ih
      | some id =>
          rw [TransactionService.ensureActorSees]
          by_cases empty : id = ""
          · simpa [empty, ownSide] using ih
          · simp only [empty, if_false, Accounts.get, getRow, Sql.fetch_bind, Sql.done_bind, Sql.run]
            by_cases own : (db.find .account id).any fun a => some a.customerId = actor.customerId
            · simp [own, ownSide, empty, Sql.run]
            · simpa [own, ownSide, empty] using ih

omit notAdmin in
theorem ownSide_owns {db : Db} {id : String} (own : ownSide actor db (some id) = true) :
    ∃ a, db.find .account id = some a ∧ Owns actor.customerId a.customerId := by
  simp only [ownSide, Option.any_some, Bool.and_eq_true] at own
  cases found : db.find .account id with
  | none => simp [found] at own
  | some a =>
      have named : some a.customerId = actor.customerId := by simpa [found] using own.2
      exact ⟨a, rfl, owns_of_token rfl named.symm⟩

omit notAdmin in
theorem ownSide_agree {db db' : Db} (valid' : db'.Valid) (agree : Agree actor.customerId db db')
    {id : Option String} (own : ownSide actor db id = true) : ownSide actor db' id = true := by
  cases id with
  | none => cases own
  | some id =>
      obtain ⟨a, found, owns⟩ := ownSide_owns own
      have found' := agree.find (t := .account) valid' found owns
      simp only [ownSide, Option.any_some, found, found'] at own ⊢
      exact own

theorem getTransaction_run (id : String) (db : Db) :
    ((TransactionService.get id actor).run db).1 =
      match db.find .transaction id with
      | none => .error (.app .notFound "Transaction not found")
      | some txn =>
          if [some txn.fromAccountId, txn.toAccountId].any (ownSide actor db) then .ok txn
          else .error (.app .forbidden "You do not have access to this transaction") := by
  simp only [TransactionService.get, Transactions.get, getRow, readOnly, Service.run, Sql.fetch_bind,
    Sql.done_bind, Sql.run]
  cases db.find .transaction id with
  | none => rfl
  | some txn =>
      simp only [notAdmin, if_false, Sql.run_bind, ensureActorSees_run]
      cases [some txn.fromAccountId, txn.toAccountId].any (ownSide actor db) with
      | true => rfl
      | false => rfl

theorem confined_getTransaction (id : String) :
    Confined actor.customerId
      (respond (.row .transaction ∘ some) (TransactionService.get id actor)) := by
  apply confined_single
  · intro db db' _ valid' agree r answered
    rw [getTransaction_run notAdmin] at answered ⊢
    split at answered
    · cases answered
    rename_i txn found
    split at answered
    · rename_i sees
      obtain ⟨side, mem, own⟩ := List.any_eq_true.mp sees
      have visible : Visible actor.customerId db .transaction txn := by
        rcases List.mem_pair.mp mem with rfl | rfl
        · obtain ⟨a, account, owns⟩ := ownSide_owns own
          exact Or.inl ⟨a, account, owns⟩
        · cases receiver : txn.toAccountId with
          | none => rw [receiver] at own; cases own
          | some receiverId =>
              rw [receiver] at own
              obtain ⟨a, account, owns⟩ := ownSide_owns own
              exact Or.inr ⟨receiverId, receiver, a, account, owns⟩
      rw [agree.find valid' found visible]
      have sees' : [some txn.fromAccountId, txn.toAccountId].any (ownSide actor db') = true :=
        List.any_eq_true.mpr ⟨side, mem, ownSide_agree valid' agree own⟩
      simp only [sees', if_true]
      exact answered
    · cases answered
  · intro db e refused
    rw [getTransaction_run notAdmin] at refused
    split at refused
    · cases refused
      exact Or.inr rfl
    · split at refused
      · cases refused
      · cases refused
        exact Or.inl rfl

/-! ## Lists -/

omit notAdmin in
theorem perm_filter {c : Option String} {db db' : Db} (valid : db.Valid) (valid' : db'.Valid)
    (agree : Agree c db db') {t : Table} (p : Row t → Bool)
    (visible : ∀ r ∈ db t, p r = true → Visible c db t r)
    (visible' : ∀ r ∈ db' t, p r = true → Visible c db' t r) :
    ((db t).filter p).Perm ((db' t).filter p) := by
  have sub {rows : List (Row t)} (nodup : (rows.map (rowKey t)).Nodup) :
      ((rows.filter p).map (rowKey t)).Nodup :=
    nodup.sublist (List.filter_sublist.map _)
  refine Keyed.perm_of_mem_iff (sub (valid.ids t)) (sub (valid'.ids t)) fun r => ?_
  rw [List.mem_filter, List.mem_filter]
  constructor
  · rintro ⟨mem, chosen⟩
    exact ⟨((agree t r).mp ⟨mem, visible r mem chosen⟩).1, chosen⟩
  · rintro ⟨mem, chosen⟩
    exact ⟨((agree t r).mpr ⟨mem, visible' r mem chosen⟩).1, chosen⟩

theorem confined_listAccounts : Confined actor.customerId
    (respond (.rows .account) (AccountService.listForActor actor)) := by
  let mine (a : Account) : Bool := actor.customerId.any fun c => key a.customerId = key c
  have run (db : Db) : (respond (.rows .account) (AccountService.listForActor actor)).run db =
      (.ok (.rows .account ((db .account).filter mine)), db) := by
    rw [respond_run, AccountService.listForActor, if_neg notAdmin]
    rfl
  have visible (db : Db) (a : Row .account) (chosen : mine a = true) :
      Visible actor.customerId db .account a := by
    cases named : actor.customerId with
    | none => simp [mine, named] at chosen
    | some c =>
        have same : key a.customerId = key c := by simpa [mine, named] using chosen
        exact congrArg some same.symm
  constructor
  · intro db db' valid valid' agree r answered
    rw [run] at answered
    cases answered
    refine ⟨_, congrArg Prod.fst (run db'), .accounts ?_⟩
    exact perm_filter valid valid' agree mine (fun a _ => visible db a) fun a _ => visible db' a
  · intro db e refused
    rw [run] at refused
    cases refused

omit notAdmin [Collation] in
theorem newestFirst_perm {rows rows' : List Transaction} (perm : rows.Perm rows') :
    (Transactions.newestFirst rows).Perm (Transactions.newestFirst rows') :=
  ((List.mergeSort_perm rows _).trans perm).trans (List.mergeSort_perm rows' _).symm

omit notAdmin [Collation] in
theorem newestFirst_sorted (rows : List Transaction) :
    ((Transactions.newestFirst rows).map (·.transactionTimestamp.micros)).Pairwise (· ≥ ·) := by
  rw [List.pairwise_map]
  have sorted : (Transactions.newestFirst rows).Pairwise fun t u =>
      decide (u.transactionTimestamp.micros ≤ t.transactionTimestamp.micros) := List.pairwise_mergeSort
    (fun a b c hab hbc => by simp only [decide_eq_true_eq] at *; omega)
    (fun a b => by simp only [Bool.or_eq_true, decide_eq_true_eq]; omega) rows
  exact sorted.imp fun h => of_decide_eq_true h

omit notAdmin [Collation] in
theorem newestFirst_order {rows rows' : List Transaction} (perm : rows.Perm rows') :
    (Transactions.newestFirst rows).map (·.transactionTimestamp.micros) =
      (Transactions.newestFirst rows').map (·.transactionTimestamp.micros) :=
  ((newestFirst_perm perm).map _).eq_of_pairwise (fun _ _ _ _ h h' => le_antisymm h' h)
    (newestFirst_sorted rows) (newestFirst_sorted rows')

omit notAdmin in
theorem listByAccount_run (id : String) (db : Db) :
    ((TransactionService.listByAccount id actor).run db).1 =
      match db.find .account id with
      | none => .error (.app .notFound "Account not found")
      | some a => (ensureOwnerOrAdmin actor (some a.customerId)).map fun _ =>
          Transactions.newestFirst ((db .transaction).filter (Transactions.names id)) := by
  simp only [TransactionService.listByAccount, Accounts.get, getRow, readOnly, Service.run,
    Sql.fetch_bind, Sql.done_bind, Sql.run]
  cases db.find .account id with
  | none => rfl
  | some a =>
      simp only
      cases ensureOwnerOrAdmin actor (some a.customerId) with
      | error e => rfl
      | ok _ => rfl

omit notAdmin in
theorem names_visible {c : Option String} {db : Db} {id : String} (own : OwnsAccount c db id)
    (t : Row .transaction) (named : Transactions.names id t = true) :
    Visible c db .transaction t := by
  rw [Transactions.names, Bool.or_eq_true] at named
  rcases named with sent | received
  · exact Or.inl ((ownsAccount_congr (of_decide_eq_true sent)).mpr own)
  · cases receiver : t.toAccountId with
    | none => simp [receiver] at received
    | some receiverId =>
        have same : key receiverId = key id := by simpa [receiver] using received
        exact Or.inr ⟨receiverId, receiver, (ownsAccount_congr same).mpr own⟩

theorem confined_accountTransactions (id : String) : Confined actor.customerId
    (respond (.rows .transaction) (TransactionService.listByAccount id actor)) := by
  constructor
  · intro db db' valid valid' agree r answered
    rw [respond_run, listByAccount_run] at answered ⊢
    split at answered
    · cases answered
    rename_i a found
    cases passed : ensureOwnerOrAdmin actor (some a.customerId) with
    | error e => simp [passed, Except.map] at answered
    | ok _ =>
        have own : Owns actor.customerId a.customerId :=
          owns_of_token rfl (ensureOwner_ok notAdmin passed)
        have found' := agree.find (t := .account) valid' found own
        have perm := perm_filter valid valid' agree (t := .transaction) (Transactions.names id)
          (fun t _ => names_visible ⟨a, found, own⟩ t)
          fun t _ => names_visible ⟨a, found', own⟩ t
        rw [passed] at answered
        cases answered
        simp only [found', passed]
        exact ⟨_, rfl, .ledger (newestFirst_perm perm) (newestFirst_order perm)⟩
  · intro db e refused
    rw [respond_run, listByAccount_run] at refused
    split at refused
    · cases refused
      exact Or.inr rfl
    · rename_i a _
      cases passed : ensureOwnerOrAdmin actor (some a.customerId) with
      | ok _ =>
          rw [passed] at refused
          cases refused
      | error e' =>
          rw [passed] at refused
          cases refused
          exact Or.inl (ensureOwner_error passed)

/-! ## Every read -/

omit notAdmin in
theorem confined_answer {c : Option String} (r : Response) {op : Service Response}
    (run : ∀ db, (op.run db).1 = .ok r) : Confined c op where
  carries {db db'} _ _ _ r' answered := by
    rw [run] at answered
    cases answered
    exact ⟨r, run db', .same r⟩
  refuses {db e} refused := by
    rw [run] at refused
    cases refused

variable [Werkzeug] [Marshmallow]

theorem read_confined (call : ApiCall) (read : call.isRead = true) (env : Env) :
    Confined actor.customerId (call.serve env actor) := by
  cases call with
  | health => exact confined_answer .health fun _ => rfl
  | ready => exact confined_answer .health fun _ => rfl
  | me => exact confined_answer (.identity actor) fun _ => rfl
  | getCustomer id => exact confined_getCustomer notAdmin id
  | listAccounts => exact confined_listAccounts notAdmin
  | getAccount id => exact confined_fetchOwned (t := .account) notAdmin id _ _ (fun _ _ own => own) _
  | getLoan id => exact confined_fetchOwned (t := .loan) notAdmin id _ _ (fun _ _ own => own) _
  | getCreditScore id =>
      exact confined_fetchOwned (t := .creditScore) notAdmin id _ _ (fun _ _ own => own) _
  | getTicket id =>
      exact confined_fetchOwned (t := .customerSupport) notAdmin id _ _ (fun _ _ own => own) _
  | getCard id => exact confined_getCard notAdmin id
  | getTransaction id => exact confined_getTransaction notAdmin id
  | accountTransactions id => exact confined_accountTransactions notAdmin id
  | listUsers | getUser _ | listCustomers | listCards | listBranches | branchConditions _
  | getBranch _ | listEmployees | getEmployee _ | listLoans | listLoanPayments
  | loanPaymentsByLoan _ | getLoanPayment _ | listTransactions | highValue _ | listCreditScores
  | listTickets | topResolvers => exact confined_adminRequired notAdmin _
  | _ => cases read

end

section
variable [Collation] [Werkzeug] [Marshmallow]

theorem read_env (call : ApiCall) (read : call.isRead = true) (env env' : Env) (actor : Actor) :
    call.serve env actor = call.serve env' actor := by
  cases call <;> first | (cases read; done) | rfl

theorem read_isolation {actor : Actor} (notAdmin : actor.role ≠ .admin) {db db' : Db}
    (reached : Reachable db) (reached' : Reachable db') (agree : Agree actor.customerId db db')
    (call : ApiCall) (read : call.isRead = true) (env env' : Env) :
    Alike ((call.serve env actor).run db).1 ((call.serve env' actor).run db').1 := by
  rw [read_env call read env' env]
  exact (read_confined notAdmin call read env).alike reached.valid reached'.valid agree

omit [Werkzeug] [Marshmallow] in
theorem agree_of_filter {c : Option String} {db db' : Db}
    (same : ∀ t ∈ Table.all, (db t).filter (Visible c db t) = (db' t).filter (Visible c db' t)) :
    Agree c db db' := by
  intro t r
  have iff : r ∈ (db t).filter (Visible c db t) ↔ r ∈ (db' t).filter (Visible c db' t) := by
    rw [same t (Table.mem_all t)]
  simpa only [List.mem_filter, decide_eq_true_eq] using iff

end

attribute [local instance] foldCase clearText plainEmail

/-- Bob is richer, which Ann cannot tell. -/
def enriched : Db := replay [(.setBalance "b-1" ⟨700, 0⟩, noon "")] opened

theorem read_isolation_ann :
    Alike (((ApiCall.getAccount "b-1").serve (noon "") ann).run opened).1
      (((ApiCall.getAccount "b-1").serve (noon "") ann).run enriched).1 ∧
    Alike ((ApiCall.listAccounts.serve (noon "") ann).run opened).1
      ((ApiCall.listAccounts.serve (noon "") ann).run enriched).1 ∧
    opened .account ≠ enriched .account := by
  have agree : Agree ann.customerId opened enriched := agree_of_filter (by decide +kernel)
  have reached : Reachable enriched := reachable_opened.replay _
  exact ⟨read_isolation (by decide) reachable_opened reached agree _ rfl _ _,
    read_isolation (by decide) reachable_opened reached agree _ rfl _ _, by decide +kernel⟩

end Corebank
