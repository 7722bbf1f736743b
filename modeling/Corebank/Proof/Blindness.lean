import Corebank.Proof.Secrets
import Corebank.Proof.WriteIsolation

/-! # No call but login tells a secret -/

namespace Corebank
open Library

section
variable [Collation] {α β γ : Type}

/-! ## Programs that do not see secrets -/

def Sql.BlindAt (p : Sql α) (db db' : Db) : Prop := AlikeOutcome (p.run db) (p.run db')

structure Sql.Blind (p : Sql α) : Prop where
  run : ∀ {db db' : Db}, DifferInSecrets db db' → p.BlindAt db db'

def Service.BlindAt (op : Service α) (db db' : Db) : Prop :=
  (op.run db).1 = (op.run db').1 ∧ DifferInSecrets (op.run db).2 (op.run db').2

structure Service.Blind (op : Service α) : Prop where
  run : ∀ {db db' : Db}, DifferInSecrets db db' → op.BlindAt db db'

theorem Sql.blind_done (a : α) : (Sql.done a).Blind := ⟨fun low => .ok a low⟩

theorem Sql.blind_raise (e : Exn) : (Sql.raise e : Sql α).Blind := ⟨fun _ => .error e⟩

theorem Sql.blind_fetch {f : Db → α} (same : ∀ {db db'}, DifferInSecrets db db' → f db = f db') :
    (Sql.fetch fun db => .done (f db)).Blind := by
  refine ⟨fun {db db'} low => ?_⟩
  simp only [Sql.BlindAt, Sql.run, same low]
  exact .ok _ low

theorem Sql.blind_execute {db db' : Db} (low : DifferInSecrets db db') {s : Statement}
    (safe : s.SafeAt db db') {next : Nat → Sql α} (rest : ∀ n, (next n).Blind) :
    (Sql.execute s next).BlindAt db db' := by
  rcases (exec_alike low safe).split with ⟨n, d, d', first, second, low⟩ | ⟨e, first, second⟩
  · simp only [Sql.BlindAt, Sql.run, first, second]
    exact (rest n).run low
  · simp only [Sql.BlindAt, Sql.run, first, second]
    exact .error _

theorem Sql.blind_bind {p : Sql α} {f : α → Sql β} {db db' : Db} (first : p.BlindAt db db')
    (rest : ∀ a, (f a).Blind) : (p >>= f).BlindAt db db' := by
  rw [Sql.BlindAt, Sql.run_bind, Sql.run_bind]
  rcases first.split with ⟨a, d, d', one, two, low⟩ | ⟨e, one, two⟩
  · simp only [one, two]
    exact (rest a).run low
  · simp only [one, two]
    exact .error e

theorem Service.blind_bind {op : Service α} {f : α → Service β} {db db' : Db}
    (first : op.BlindAt db db') (rest : ∀ a, (f a).Blind) : (op >>= f).BlindAt db db' := by
  unfold Service.BlindAt at first ⊢
  rw [Service.run_bind, Service.run_bind]
  rcases one : op.run db with ⟨outcome, d⟩
  rcases two : op.run db' with ⟨outcome', d'⟩
  rw [one, two] at first
  obtain ⟨rfl, low⟩ := first
  cases outcome with
  | error e => exact ⟨rfl, low⟩
  | ok a => exact (rest a).run low

theorem Service.Blind.bind {op : Service α} {f : α → Service β} (first : op.Blind)
    (rest : ∀ a, (f a).Blind) : (op >>= f).Blind :=
  ⟨fun low => Service.blind_bind (first.run low) rest⟩

theorem Sql.Blind.bind {p : Sql α} {f : α → Sql β} (first : p.Blind) (rest : ∀ a, (f a).Blind) :
    (p >>= f).Blind :=
  ⟨fun low => Sql.blind_bind (first.run low) rest⟩

theorem Service.blind_done (a : α) : (Service.done a).Blind := ⟨fun low => ⟨rfl, low⟩⟩

theorem Service.blind_raise (e : Exn) : (Service.raise e : Service α).Blind :=
  ⟨fun low => ⟨rfl, low⟩⟩

theorem blind_unitOfWork {body : Sql β} {guard : Exn → Exn} {next : β → Service α} {db db' : Db}
    (low : DifferInSecrets db db') (inside : body.BlindAt db db') (rest : ∀ b, (next b).Blind) :
    (Service.unitOfWork guard body next).BlindAt db db' := by
  rcases inside.split with ⟨b, d, d', one, two, low'⟩ | ⟨e, one, two⟩
  · simp only [Service.BlindAt, Service.run, one, two]
    exact (rest b).run low'
  · simp only [Service.BlindAt, Service.run, one, two, true_and]
    exact low

theorem blind_readOnly {body : Sql α} (inside : body.Blind) : (readOnly body).Blind := by
  refine ⟨fun {db db'} low => ?_⟩
  rcases (inside.run low).split with ⟨b, d, d', one, two, -⟩ | ⟨e, one, two⟩
  · simp only [Service.BlindAt, readOnly, Service.run, one, two, true_and]
    exact low
  · simp only [Service.BlindAt, readOnly, Service.run, one, two, true_and]
    exact low

/-! ## The shared shapes -/

theorem blind_ofExcept (x : Except Exn α) : (Service.ofExcept x).Blind := by
  cases x with
  | ok a => exact Service.blind_done a
  | error e => exact Service.blind_raise e

theorem Sql.blind_ofExcept (x : Except Exn α) : (Sql.ofExcept x).Blind := by
  cases x with
  | ok a => exact Sql.blind_done a
  | error e => exact Sql.blind_raise e

section
variable {db db' : Db} (low : DifferInSecrets db db')
include low

theorem blind_createRow {t : Table} {record : Row t} (safe : (Statement.insert t record).SafeAt db db') :
    (createRow t record).BlindAt db db' :=
  Service.blind_bind (blind_unitOfWork low (Sql.blind_execute low safe fun _ => Sql.blind_done _)
    fun _ => Service.blind_done _) fun _ => Service.blind_done _

theorem blind_updateThenGet {t : Table} {id missing : String} {change : Change t}
    {get : Sql (Option β)} (safe : (Statement.update t id change).SafeAt db db')
    (reads : get.Blind) : (updateThenGet (updateRow t id change) get missing).BlindAt db db' := by
  refine blind_unitOfWork low (Sql.blind_bind (Sql.blind_execute low safe fun _ => Sql.blind_done _)
    fun n => ?_) fun _ => Service.blind_done _
  split
  · exact Sql.blind_raise _
  · exact reads

theorem blind_deleteOrMissing {guard : Exn → Exn} (t : Table) (id missing : String) :
    (deleteOrMissing (fun body => .unitOfWork guard body .done) (deleteRow t id) missing).BlindAt
      db db' := by
  refine blind_unitOfWork low (Sql.blind_bind (Sql.blind_execute (s := .delete t id) low trivial
    fun _ => Sql.blind_done _) fun n => ?_) fun _ => Service.blind_done _
  split
  · exact Sql.blind_raise _
  · exact Sql.blind_done _

end

theorem blind_fetchRow {get : Sql (Option β)} (reads : get.Blind) (missing : String) :
    (fetchRow get missing).Blind := by
  refine (blind_readOnly reads).bind fun row => ?_
  cases row with
  | none => exact Service.blind_raise _
  | some row => exact Service.blind_done _

theorem blind_fetchOwned {get : Sql (Option β)} (reads : get.Blind) (missing : String)
    (owner : β → String) (actor : Actor) : (fetchOwned get missing owner actor).Blind :=
  (blind_fetchRow reads missing).bind fun _ => (blind_ofExcept _).bind fun _ => Service.blind_done _

/-! ## The reads -/

theorem blind_allRows {t : Table} (plain : t.hasSecrets = false) : (allRows t).Blind :=
  Sql.blind_fetch fun low => low.rows plain

theorem blind_getRow {t : Table} (plain : t.hasSecrets = false) (id : String) :
    (getRow t id).Blind :=
  Sql.blind_fetch fun low => by rw [Db.find, low.rows plain, Db.find]

theorem blind_users : Users.listAll.Blind := by
  refine Sql.blind_fetch fun {db db'} low => ?_
  have view : User.publicColumns = User.publicColumns ∘ hide .user := rfl
  have rows : (db .user).map (hide .user) = (db' .user).map (hide .user) := congrFun low.same .user
  rw [view, ← List.map_map, rows, List.map_map]

theorem blind_transactions : Transactions.listAll.Blind :=
  Sql.blind_fetch fun low => by rw [low.rows (t := .transaction) rfl]

theorem blind_user (userId : String) : (Users.get userId).Blind := by
  refine Sql.blind_fetch fun {db db'} low => ?_
  have view : User.publicColumns = User.publicColumns ∘ hide .user := rfl
  rw [view, ← Option.map_map, low.find, Option.map_map]

def Card.maskedColumns (c : Card) : SafeCard :=
  ⟨c.cardId, c.accountId, c.cardType, "************" ++ c.cardNumber, c.expirationDate, c.status⟩

omit [Collation] in
theorem safeColumns_hide {c : Card} (long : c.cardNumber.length = 16) :
    c.safeColumns = (hide .card c).maskedColumns := by
  rw [Card.safeColumns, right, long]
  rfl

theorem blind_cards : Cards.listAll.Blind := by
  refine Sql.blind_fetch fun {db db'} low => ?_
  have masked {db : Db} (long : SixteenLong db) :
      (db .card).map Card.safeColumns = (db.hidden .card).map Card.maskedColumns := by
    rw [Db.hidden, List.map_map]
    exact List.map_congr_left fun c mem => safeColumns_hide (long c mem)
  rw [masked low.numbers, masked low.numbers', low.same]

theorem blind_card (cardId : String) : (Cards.get cardId).Blind := by
  refine Sql.blind_fetch fun {db db'} low => ?_
  have masked {db : Db} (long : SixteenLong db) : (db.find .card cardId).map Card.safeColumns =
      (db.hidden.find .card cardId).map Card.maskedColumns := by
    rw [hidden_find, Option.map_map]
    cases found : db.find .card cardId with
    | none => rfl
    | some c => exact congrArg some (safeColumns_hide (long c (Db.find_mem found)))
  rw [masked low.numbers, masked low.numbers', low.same]

theorem blind_ownedCard (cardId : String) : (Cards.getWithAccount cardId).Blind := by
  refine Sql.blind_fetch fun {db db'} low => ?_
  have owned (db : Db) : ((db.find .card cardId).bind fun c =>
      (db.find .account c.accountId).map fun a =>
        (⟨c.cardId, c.accountId, a.customerId, c.status⟩ : OwnedCard)) =
      (db.hidden.find .card cardId).bind fun c => (db.hidden.find .account c.accountId).map fun a =>
        ⟨c.cardId, c.accountId, a.customerId, c.status⟩ := by
    rw [hidden_find]
    cases db.find .card cardId with
    | none => rfl
    | some c =>
        simp only [Option.map_some, Option.bind_some, hidden_find, Option.map_map]
        rfl
  rw [owned db, owned db', low.same]

theorem blind_lock {t : Table} (plain : t.hasSecrets = false) (id : String) :
    (Sql.lock t id .done).Blind := by
  refine ⟨fun {db db'} low => ?_⟩
  have same : db.find t id = db'.find t id := by rw [Db.find, low.rows plain, Db.find]
  simp only [Sql.BlindAt, Sql.run, same]
  exact .ok _ low

theorem blind_ensureOwned (cardId : String) (actor : Actor) :
    (CardService.ensureOwned cardId actor).Blind := by
  refine (blind_ownedCard cardId).bind fun owned => ?_
  cases owned with
  | none => exact Sql.blind_raise _
  | some owned => exact Sql.blind_ofExcept _

theorem blind_ensureActorSees (actor : Actor) (sides : List (Option String)) :
    (TransactionService.ensureActorSees actor sides).Blind := by
  induction sides with
  | nil => exact Sql.blind_raise _
  | cons side sides ih =>
      cases side with
      | none => exact ih
      | some id =>
          rw [TransactionService.ensureActorSees]
          split
          · exact ih
          · refine (blind_getRow (t := .account) rfl id).bind fun account => ?_
            split
            · exact Sql.blind_done _
            · exact ih

theorem blind_getTransaction (id : String) (actor : Actor) :
    (TransactionService.get id actor).Blind := by
  refine blind_readOnly ((blind_getRow (t := .transaction) rfl id).bind fun txn => ?_)
  cases txn with
  | none => exact Sql.blind_raise _
  | some txn =>
      dsimp only
      split
      · exact Sql.blind_done _
      · exact (blind_ensureActorSees actor _).bind fun _ => Sql.blind_done _

theorem blind_listByAccount (id : String) (actor : Actor) :
    (TransactionService.listByAccount id actor).Blind := by
  refine blind_readOnly ((blind_getRow (t := .account) rfl id).bind fun account => ?_)
  cases account with
  | none => exact Sql.blind_raise _
  | some account =>
      refine (Sql.blind_ofExcept _).bind fun _ => Sql.blind_fetch fun low => ?_
      rw [low.rows (t := .transaction) rfl]

theorem blind_listByLoan (id : String) : (LoanPaymentService.listByLoan id).Blind := by
  refine blind_readOnly ((blind_getRow (t := .loan) rfl id).bind fun loan => ?_)
  cases loan with
  | none => exact Sql.blind_raise _
  | some loan =>
      refine Sql.blind_fetch fun low => ?_
      rw [low.rows (t := .loanPayment) rfl]

theorem blind_listForActor (actor : Actor) : (AccountService.listForActor actor).Blind := by
  refine blind_readOnly ?_
  split
  · exact blind_allRows rfl
  · refine Sql.blind_fetch fun low => ?_
    rw [low.rows (t := .account) rfl]

theorem blind_withConditions (minEmployees minAccounts : Int) :
    (Branches.withConditions minEmployees minAccounts).Blind := by
  refine Sql.blind_fetch fun low => ?_
  simp only [Branches.conditionRows, low.rows (t := .branch) rfl,
    low.rows (t := .employee) rfl, low.rows (t := .account) rfl]

theorem blind_highTransactions (minimum : Decimal) :
    (Transactions.customersWithHighTransactions minimum).Blind := by
  refine Sql.blind_fetch fun low => ?_
  simp only [Transactions.customerRows, low.rows (t := .customer) rfl,
    low.rows (t := .account) rfl,
    low.rows (t := .transaction) rfl]

theorem blind_topResolvers : SupportTickets.topResolvers.Blind := by
  refine Sql.blind_fetch fun {db db'} low => ?_
  have same : SupportTickets.resolvedTickets db = SupportTickets.resolvedTickets db' := by
    simp only [SupportTickets.resolvedTickets, low.rows (t := .employee) rfl,
      low.rows (t := .customerSupport) rfl]
  rw [same]

end

/-! ## Operations -/

section
variable [Collation] [Werkzeug] {db db' : Db} (low : DifferInSecrets db db')

def Operation.createsCard : Operation → Bool
  | .createCard _ => true
  | _ => false

def Operation.newPassword : Operation → Option String
  | .updateUser _ fields => fields.password
  | _ => none

/-- A new hash is one that no user has. -/
def FreshHash (db : Db) (env : Env) (password : Option String) : Prop :=
  ∀ p, password = some p → StoresOther db (generatePasswordHash env.salt p)

omit [Werkzeug] in
theorem blind_respond {α : Type} {op : Service α} (f : α → Response) (blind : op.BlindAt db db') :
    (respond f op).BlindAt db db' :=
  Service.blind_bind blind fun _ => Service.blind_done _

omit [Werkzeug] in
theorem blind_move (env : Env) (senderId receiverId : String) (amount : Int) :
    (TransactionService.move env senderId receiverId amount).Blind := by
  have debit : (Accounts.debit senderId amount).Blind := ⟨fun low => Sql.blind_execute
    (s := .update .account senderId (.debit amount)) low trivial fun _ => Sql.blind_done _⟩
  have credit : (Accounts.credit receiverId amount).Blind := ⟨fun low => Sql.blind_execute
    (s := .update .account receiverId (.credit amount)) low trivial fun _ => Sql.blind_done _⟩
  refine debit.bind fun debited => ?_
  split
  · exact Sql.blind_raise _
  · refine credit.bind fun _ => ?_
    exact ⟨fun low => Sql.blind_execute (s := .insert .transaction _) low trivial fun _ =>
      Sql.blind_done _⟩

include low

omit [Werkzeug] in
theorem blind_transfer (env : Env) (actor : Actor) (senderId receiverId : String)
    (amount : Decimal) :
    (TransactionService.transfer env actor senderId receiverId amount).BlindAt db db' := by
  rw [TransactionService.transfer]
  cases quantize amount with
  | error e => exact (Service.blind_raise e).run low
  | ok cents =>
      simp only [Service.ofExcept, Service.done_bind]
      split
      · exact (Service.blind_raise _).run low
      split
      · exact (Service.blind_raise _).run low
      have locks (id : String) : (Accounts.lock id).Blind := blind_lock (t := .account) rfl id
      exact blind_unitOfWork low (Sql.blind_bind ((locks _).run low) fun _ => (locks _).bind fun _ =>
        (Sql.blind_ofExcept _).bind fun _ => blind_move env senderId receiverId cents)
        fun _ => Service.blind_done _

theorem blind_operation (op : Operation) (env : Env) (noCard : op.createsCard = false)
    (fresh : FreshHash db env op.newPassword) (fresh' : FreshHash db' env op.newPassword) :
    (op.serve env).BlindAt db db' := by
  have get (t : Table) (plain : t.hasSecrets = false) (id : String) :=
    blind_getRow plain id
  cases op with
  | createCustomer | createBranch | createAccount | createLoan | createLoanPayment
  | createEmployee | createTicket | createCreditScore =>
      exact blind_respond _ (blind_createRow low trivial)
  | createUser data =>
      exact blind_respond _ (Service.blind_bind (blind_createRow low trivial) fun _ =>
        Service.blind_done _)
  | createCard data => cases noCard
  | deleteCustomer | deleteUser | deleteBranch | deleteAccount | deleteLoan | deleteLoanPayment
  | deleteEmployee | deleteCard | deleteTicket | deleteCreditScore | deleteTransaction =>
      exact blind_respond _ (blind_deleteOrMissing low _ _ _)
  | updateCustomer customerId fields actor =>
      exact blind_respond _ (Service.blind_bind ((blind_ofExcept _).run low) fun _ =>
        ⟨fun low => blind_updateThenGet low trivial (get .customer rfl _)⟩)
  | updateUser userId fields =>
      refine blind_respond _ (blind_updateThenGet low ?_ (blind_user userId))
      intro hash given
      obtain ⟨p, sent, rfl⟩ := Option.map_eq_some_iff.mp given
      exact ⟨fresh p sent, fresh' p sent⟩
  | updateBranch =>
      exact blind_respond _ (blind_updateThenGet low trivial (get .branch rfl _))
  | updateEmployee =>
      exact blind_respond _ (blind_updateThenGet low trivial (get .employee rfl _))
  | updateCreditScore =>
      exact blind_respond _ (blind_updateThenGet low trivial (get .creditScore rfl _))
  | setLoanStatus =>
      exact blind_respond _ (blind_updateThenGet low trivial (get .loan rfl _))
  | setTicketStatus =>
      exact blind_respond _
        (blind_updateThenGet low trivial (get .customerSupport rfl _))
  | setBalance accountId balance =>
      refine blind_respond _ ?_
      rw [AccountService.setBalance]
      cases quantize balance with
      | error e => exact (Service.blind_raise e).run low
      | ok cents => exact blind_updateThenGet low trivial (get .account rfl _)
  | setCardStatus cardId status actor =>
      refine blind_respond _ (blind_unitOfWork low (Sql.blind_bind
        ((blind_ensureOwned cardId actor).run low) fun _ => ?_) fun _ => Service.blind_done _)
      exact ⟨fun low => Sql.blind_execute (s := .update .card cardId status) low trivial fun _ =>
        blind_card cardId⟩
  | transfer actor senderId receiverId amount =>
      exact blind_respond _ (blind_transfer low env actor senderId receiverId amount)

/-! ## Endpoints -/

omit low [Werkzeug] in
theorem blind_adminRequired {α : Type} (actor : Actor) {op : Service α} (low : DifferInSecrets db db')
    (blind : op.BlindAt db db') : (adminRequired actor op).BlindAt db db' := by
  rw [adminRequired]
  split
  · exact blind
  · exact (Service.blind_raise _).run low

end

section
variable [Collation] [Werkzeug] [Marshmallow] {db db' : Db} (low : DifferInSecrets db db')
include low

omit [Werkzeug] [Marshmallow] in
theorem blind_arguments {α β : Type} {admitted : α → Bool} {body : Option α} {view : α → Service β}
    (blind : ∀ data, body = some data → (view data).BlindAt db db') :
    (arguments admitted body view).BlindAt db db' := by
  cases body with
  | none => exact (Service.blind_raise _).run low
  | some data =>
      simp only [arguments]
      split
      · exact blind data rfl
      · exact (Service.blind_raise _).run low

omit [Werkzeug] [Marshmallow] in
theorem blind_someFields {β : Type} {t : Table} {fields : Change t} {view : Service β}
    (blind : view.BlindAt db db') : (someFields t fields view).BlindAt db db' := by
  rw [someFields]
  split
  · exact blind
  · exact (Service.blind_raise _).run low

def ApiCall.newPassword : ApiCall → Option String
  | .updateUser _ (some fields) => fields.password
  | _ => none

def ApiCall.NoLoginNoCard : ApiCall → Prop
  | .login _ | .createCard _ => False
  | _ => True

omit [Marshmallow] in
theorem blind_quiet (op : Operation) (env : Env) (noCard : op.createsCard = false)
    (quiet : op.newPassword = none) : (op.serve env).BlindAt db db' := by
  have fresh (db : Db) : FreshHash db env op.newPassword := by
    intro p given
    rw [quiet] at given
    cases given
  exact blind_operation low op env noCard (fresh db) (fresh db')

omit [Marshmallow] in
theorem blind_fileTicket (env : Env) (actor : Actor) (data : TicketData) :
    (fileTicket env actor data).BlindAt db db' := by
  simp only [fileTicket]
  split
  · exact (Service.blind_raise _).run low
  · split
    · exact (Service.blind_raise _).run low
    · exact blind_quiet low _ env rfl rfl

theorem blind_serve (call : ApiCall) (env : Env) (actor : Actor) (quiet : call.NoLoginNoCard)
    (fresh : FreshHash db env call.newPassword) (fresh' : FreshHash db' env call.newPassword) :
    (call.serve env actor).BlindAt db db' := by
  have listed (t : Table) (plain : t.hasSecrets = false) :
      (adminRequired actor (respond (.rows t) (readOnly (allRows t)))).BlindAt db db' :=
    blind_adminRequired actor low
      (blind_respond _ ((blind_readOnly (blind_allRows plain)).run low))
  have got (t : Table) (plain : t.hasSecrets = false) (id missing : String) :
      (adminRequired actor (respond (.row t ∘ some) (fetchRow (getRow t id) missing))).BlindAt db db' :=
    blind_adminRequired actor low
      (blind_respond _ ((blind_fetchRow (blind_getRow plain id) missing).run low))
  have owned (t : Table) (plain : t.hasSecrets = false) (id missing : String)
      (owner : Row t → String) :
      (respond (.row t ∘ some) (fetchOwned (getRow t id) missing owner actor)).BlindAt db db' :=
    blind_respond _ ((blind_fetchOwned (blind_getRow plain id) missing owner actor).run low)
  have write (op : Operation) (noCard : op.createsCard = false)
      (noPassword : op.newPassword = none) : (op.serve env).BlindAt db db' :=
    blind_quiet low op env noCard noPassword
  have admin {op : Service Response} (blind : op.BlindAt db db') :
      (adminRequired actor op).BlindAt db db' := blind_adminRequired actor low blind
  cases call with
  | health | me => exact (Service.blind_done _).run low
  | ready => exact blind_respond _ ((blind_readOnly (Sql.blind_done _)).run low)
  | login | createCard => exact quiet.elim
  | listUsers => exact admin (blind_respond _ ((blind_readOnly blind_users).run low))
  | getUser userId =>
      exact admin (blind_respond _ ((blind_fetchRow (blind_user userId) _).run low))
  | updateUser userId body =>
      refine admin (blind_arguments low fun fields sent => blind_someFields low ?_)
      subst sent
      exact blind_operation low _ env rfl fresh fresh'
  | listCards => exact admin (blind_respond _ ((blind_readOnly blind_cards).run low))
  | listAccounts => exact blind_respond _ ((blind_listForActor actor).run low)
  | listCustomers => exact listed .customer rfl
  | listBranches => exact listed .branch rfl
  | listEmployees => exact listed .employee rfl
  | listLoans => exact listed .loan rfl
  | listLoanPayments => exact listed .loanPayment rfl
  | listTransactions => exact admin (blind_respond _ ((blind_readOnly blind_transactions).run low))
  | listCreditScores => exact listed .creditScore rfl
  | listTickets => exact listed .customerSupport rfl
  | createUser | createCustomer | createAccount | setBalance | createBranch | createEmployee
  | createLoan | setLoanStatus | createLoanPayment | createCreditScore | setTicketStatus =>
      exact admin (blind_arguments low fun _ _ => write _ rfl rfl)
  | setCardStatus | transfer => exact blind_arguments low fun _ _ => write _ rfl rfl
  | updateCustomer =>
      exact blind_arguments low fun _ _ => blind_someFields low (write _ rfl rfl)
  | updateBranch | updateEmployee | updateCreditScore =>
      exact admin (blind_arguments low fun _ _ => blind_someFields low (write _ rfl rfl))
  | deleteUser | deleteCustomer | deleteAccount | deleteCard | deleteBranch | deleteEmployee
  | deleteLoan | deleteLoanPayment | deleteTransaction | deleteCreditScore | deleteTicket =>
      exact admin (write _ rfl rfl)
  | createTicket => exact blind_arguments low fun data _ => blind_fileTicket low env actor data
  | getCustomer customerId =>
      exact blind_respond _ (((blind_ofExcept _).bind fun _ => blind_fetchRow
        (blind_getRow (t := .customer) rfl customerId) _).run low)
  | getAccount accountId => exact owned .account rfl accountId _ _
  | getLoan loanId => exact owned .loan rfl loanId _ _
  | getCreditScore creditScoreId => exact owned .creditScore rfl creditScoreId _ _
  | getTicket ticketId => exact owned .customerSupport rfl ticketId _ _
  | getBranch branchId => exact got .branch rfl branchId _
  | getEmployee employeeId => exact got .employee rfl employeeId _
  | getLoanPayment loanPaymentId => exact got .loanPayment rfl loanPaymentId _
  | getCard cardId =>
      exact blind_respond _ ((blind_readOnly
        ((blind_ensureOwned cardId actor).bind fun _ => blind_card cardId)).run low)
  | branchConditions args =>
      exact admin (blind_arguments low fun args _ => blind_respond _
        ((blind_readOnly (blind_withConditions _ _)).run low))
  | loanPaymentsByLoan loanId => exact admin (blind_respond _ ((blind_listByLoan loanId).run low))
  | getTransaction id => exact blind_respond _ ((blind_getTransaction id actor).run low)
  | accountTransactions id => exact blind_respond _ ((blind_listByAccount id actor).run low)
  | highValue minimum =>
      exact admin (blind_respond _ ((blind_readOnly (blind_highTransactions minimum)).run low))
  | topResolvers => exact admin (blind_respond _ ((blind_readOnly blind_topResolvers).run low))

omit low in
/-- The answers of a sequence of calls, and the state after it. -/
def answers : List Request → Db → List (Except Exn Response) × Db
  | [], db => ([], db)
  | (actor, call, env) :: requests, db =>
      let (first, db) := (call.serve env actor).run db
      let (rest, db) := answers requests db
      (first :: rest, db)

omit low in
/-- No call of the run stores a password hash that some user has already. -/
def FreshHashes : List Request → Db → Prop
  | [], _ => True
  | (actor, call, env) :: requests, db =>
      FreshHash db env call.newPassword ∧ FreshHashes requests ((call.serve env actor).run db).2

theorem secrets_stay (requests : List Request)
    (quiet : ∀ request ∈ requests, request.2.1.NoLoginNoCard) (fresh : FreshHashes requests db)
    (fresh' : FreshHashes requests db') :
    (answers requests db).1 = (answers requests db').1 ∧
      DifferInSecrets (answers requests db).2 (answers requests db').2 := by
  induction requests generalizing db db' with
  | nil => exact ⟨rfl, low⟩
  | cons request requests ih =>
      obtain ⟨actor, call, env⟩ := request
      obtain ⟨one, quiet⟩ := List.forall_mem_cons.mp quiet
      obtain ⟨same, low⟩ := blind_serve low call env actor one fresh.1 fresh'.1
      obtain ⟨later, low⟩ := ih low quiet fresh.2 fresh'.2
      simp only [answers]
      exact ⟨by rw [same, later], low⟩

end

attribute [local instance] foldCase clearText plainEmail

/-- Ann's login and one card of her account. -/
def withSecrets (salt cardNumber cvv : String) : Db :=
  replay [(.createUser ⟨"ann", "secret", .user, some "ann"⟩, ⟨"u-1", (noon "").utcnow, salt⟩),
    (.createCard ⟨"a-1", .debit, cardNumber, 800000, cvv, .active⟩, noon "c-1")] opened

def carefulRequests : List Request :=
  let admin : Actor := ⟨"u-0", .admin, none⟩
  [(admin, .listCards, noon ""), (ann, .getCard "c-1", noon ""), (bob, .getCard "c-1", noon ""),
    (ann, .setCardStatus "c-1" (some .blocked), noon ""),
    (admin, .updateUser "u-1" (some ⟨none, some "better secret", none, none⟩), noon ""),
    (admin, .listUsers, noon ""), (admin, .deleteCard "c-1", noon "")]

theorem secrets_stay_ann :
    withSecrets "x" "4000111122223333" "123" ≠ withSecrets "y" "5999888877773333" "456" ∧
    (answers carefulRequests (withSecrets "x" "4000111122223333" "123")).1 =
      (answers carefulRequests (withSecrets "y" "5999888877773333" "456")).1 ∧
    DifferInSecrets (answers carefulRequests (withSecrets "x" "4000111122223333" "123")).2
      (answers carefulRequests (withSecrets "y" "5999888877773333" "456")).2 := by
  have differ : DifferInSecrets (withSecrets "x" "4000111122223333" "123")
      (withSecrets "y" "5999888877773333" "456") := by
    have same : ∀ t ∈ Table.all, (withSecrets "x" "4000111122223333" "123").hidden t =
        (withSecrets "y" "5999888877773333" "456").hidden t := by decide +kernel
    refine ⟨(reachable_opened.replay _).valid, (reachable_opened.replay _).valid, ?_, ?_,
      funext fun t => same t (Table.mem_all t)⟩
    · unfold SixteenLong
      decide +kernel
    · unfold SixteenLong
      decide +kernel
  have fresh (db : Db) (new : StoresOther (answer (carefulRequests.take 4) db) "$better secret") :
      FreshHashes carefulRequests db := by
    have quiet (db : Db) : FreshHash db (noon "") none := by
      intro p given
      cases given
    refine ⟨quiet _, quiet _, quiet _, quiet _, ?_, quiet _, quiet _, trivial⟩
    intro p given
    cases given
    exact new
  refine ⟨?_, secrets_stay differ carefulRequests ?_ (fresh _ ?_) (fresh _ ?_)⟩
  · intro same
    have cards := congrArg (fun db => (db .card).map Card.cvv) same
    revert cards
    decide +kernel
  · simp [carefulRequests, ApiCall.NoLoginNoCard]
  · unfold StoresOther
    decide +kernel
  · unfold StoresOther
    decide +kernel

end Corebank
