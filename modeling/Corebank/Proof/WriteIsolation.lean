import Corebank.Proof.Ownership
import Corebank.Proof.Conservation
import Mathlib.Data.Option.Basic

/-!
# What calls without the ADMIN role can change

Only four endpoints open to customers write; each may touch its caller's rows alone.
-/

namespace Corebank
open Library

section
variable [Collation]

def AccountKept (c : Option String) (a a' : Account) : Prop :=
  a' = { a with balance := a'.balance } ∧ (¬ Owns c a.customerId → a.balance ≤ a'.balance)

structure Isolated (c : Option String) (db db' : Db) : Prop where
  accounts : ∀ id, Option.Rel (AccountKept c) (db.find .account id) (db'.find .account id)
  customers : ∀ r : Customer, ¬ Owns c r.customerId → (r ∈ db' .customer ↔ r ∈ db .customer)
  kept : ∀ t ∈ [.user, .branch, .employee, .loan, .loanPayment, .creditScore], db' t = db t
  cards : ∀ r : Card, ¬ OwnsAccount c db r.accountId → (r ∈ db' .card ↔ r ∈ db .card)
  tickets : ∃ filed, db' .customerSupport = db .customerSupport ++ filed ∧
    ∀ r ∈ filed, Owns c r.customerId
  ledger : ∃ sent, db' .transaction = db .transaction ++ sent ∧
    ∀ t ∈ sent, OwnsAccount c db t.fromAccountId
  deleted : ∀ t, ∀ r ∈ db t, ∃ r' ∈ db' t, rowKey t r' = rowKey t r
  money : db'.totalBalance = db.totalBalance

/-! ## Isolation composes -/

variable {c : Option String} {db db' db'' : Db}

theorem accountKept_refl (a : Account) : AccountKept c a a := ⟨rfl, fun _ => le_rfl⟩

theorem AccountKept.trans {a a' a'' : Account} (first : AccountKept c a a')
    (second : AccountKept c a' a'') : AccountKept c a a'' := by
  obtain ⟨same, grows⟩ := first
  obtain ⟨same', grows'⟩ := second
  have owner : a'.customerId = a.customerId := by rw [same]
  refine ⟨by rw [same', same], fun foreign => ?_⟩
  exact (grows foreign).trans (grows' (by rwa [owner]))

theorem Isolated.refl (c : Option String) (db : Db) : Isolated c db db where
  accounts id := by
    cases db.find .account id with
    | none => exact .none
    | some a => exact .some (accountKept_refl a)
  customers _ _ := Iff.rfl
  kept _ _ := rfl
  cards _ _ := Iff.rfl
  tickets := ⟨[], by simp, by simp⟩
  ledger := ⟨[], by simp, by simp⟩
  deleted _ r mem := ⟨r, mem, rfl⟩
  money := rfl

theorem Isolated.ownsAccount (h : Isolated c db db') (id : String) :
    OwnsAccount c db' id ↔ OwnsAccount c db id := by
  have rel := h.accounts id
  unfold OwnsAccount
  cases found : db.find .account id with
  | none =>
      cases found' : db'.find .account id with
      | none => rfl
      | some a' => rw [found, found'] at rel; cases rel
  | some a =>
      cases found' : db'.find .account id with
      | none => rw [found, found'] at rel; cases rel
      | some a' =>
          rw [found, found'] at rel
          cases rel with
          | some kept =>
              have owner : a'.customerId = a.customerId := by rw [kept.1]
              simp [owner]

theorem Isolated.trans (first : Isolated c db db') (second : Isolated c db' db'') :
    Isolated c db db'' where
  accounts id := by
    have rel := first.accounts id
    have rel' := second.accounts id
    revert rel rel'
    generalize db.find .account id = o
    generalize db'.find .account id = o'
    generalize db''.find .account id = o''
    rintro (kept | _) (kept' | _)
    · exact .some (kept.trans kept')
    · exact .none
  customers r foreign := (second.customers r foreign).trans (first.customers r foreign)
  kept t mem := (second.kept t mem).trans (first.kept t mem)
  cards r foreign :=
    (second.cards r (by rwa [first.ownsAccount])).trans (first.cards r foreign)
  tickets := by
    obtain ⟨filed, same, own⟩ := first.tickets
    obtain ⟨filed', same', own'⟩ := second.tickets
    refine ⟨filed ++ filed', by rw [same', same, List.append_assoc], fun r mem => ?_⟩
    exact (List.mem_append.mp mem).elim (own r) (own' r)
  ledger := by
    obtain ⟨sent, same, own⟩ := first.ledger
    obtain ⟨sent', same', own'⟩ := second.ledger
    refine ⟨sent ++ sent', by rw [same', same, List.append_assoc], fun t mem => ?_⟩
    exact (List.mem_append.mp mem).elim (own t) fun mem => (first.ownsAccount _).mp (own' t mem)
  deleted t r mem := by
    obtain ⟨r', mem', same⟩ := first.deleted t r mem
    obtain ⟨r'', mem'', same'⟩ := second.deleted t r' mem'
    exact ⟨r'', mem'', same'.trans same⟩
  money := second.money.trans first.money

/-! ## Statements on the caller's own rows -/

theorem find_set_other {t t' : Table} (ne : t' ≠ t) (rows : List (Row t)) (id : String) :
    (db.set t rows).find t' id = db.find t' id := by
  rw [Db.find, Db.set_other _ _ ne, Db.find]

theorem keys_replace {t : Table} (r' : Row t) {r : Row t} (mem : r ∈ db t) :
    ∃ s ∈ Keyed.replace (rowKey t) r' (db t), rowKey t s = rowKey t r := by
  have key : rowKey t r ∈ (Keyed.replace (rowKey t) r' (db t)).map (rowKey t) := by
    rw [Keyed.map_key_replace]
    exact List.mem_map_of_mem mem
  exact List.mem_map.mp key

theorem mem_replace_iff {t : Table} {rows : List (Row t)} {r' r : Row t} (ne : r ≠ r')
    (other : r ∈ rows → rowKey t r ≠ rowKey t r') :
    r ∈ Keyed.replace (rowKey t) r' rows ↔ r ∈ rows := by
  constructor
  · intro mem
    exact (Keyed.mem_replace mem).resolve_left ne |>.1
  · intro mem
    exact Keyed.mem_replace_of_ne mem (other mem)

/-- A write to one table, which need only say what it does to the rows its table is asked about. -/
theorem isolated_set {t : Table} {rows : List (Row t)}
    (t_mem : t ∈ [.customer, .card, .customerSupport])
    (customers : t = .customer → ∀ r : Customer, ¬ Owns c r.customerId →
      (r ∈ db.set t rows .customer ↔ r ∈ db .customer))
    (cards : t = .card → ∀ r : Card, ¬ OwnsAccount c db r.accountId →
      (r ∈ db.set t rows .card ↔ r ∈ db .card))
    (tickets : t = .customerSupport → ∃ filed,
      db.set t rows .customerSupport = db .customerSupport ++ filed ∧
        ∀ r ∈ filed, Owns c r.customerId)
    (deleted : ∀ r ∈ db t, ∃ r' ∈ rows, rowKey t r' = rowKey t r) :
    Isolated c db (db.set t rows) := by
  have untouched (t' : Table) (ne : t' ≠ t) : db.set t rows t' = db t' := Db.set_other _ _ ne
  have elsewhere (t' : Table) (not_mem : t' ∉ [.customer, .card, .customerSupport]) : t' ≠ t :=
    fun same => not_mem (same ▸ t_mem)
  have same := Isolated.refl c db
  constructor
  case accounts =>
    intro id
    rw [find_set_other (elsewhere .account (by decide))]
    exact same.accounts id
  case customers =>
    by_cases here : t = .customer
    · exact customers here
    · rw [untouched _ (Ne.symm here)]
      exact same.customers
  case kept =>
    intro t' mem
    refine untouched t' (elsewhere t' ?_)
    revert t'
    decide
  case cards =>
    by_cases here : t = .card
    · exact cards here
    · rw [untouched _ (Ne.symm here)]
      exact same.cards
  case tickets =>
    by_cases here : t = .customerSupport
    · exact tickets here
    · rw [untouched _ (Ne.symm here)]
      exact same.tickets
  case ledger =>
    rw [untouched _ (elsewhere .transaction (by decide))]
    exact same.ledger
  case deleted =>
    intro t' r mem
    by_cases here : t' = t
    · subst here
      rw [Db.set_same]
      exact deleted r mem
    · rw [untouched t' here]
      exact same.deleted t' r mem
  case money => rw [Db.totalBalance, untouched _ (elsewhere .account (by decide)), Db.totalBalance]

theorem updateCustomer_isolated {id : String} (own : Owns c id) {fields : CustomerFields} {n : Nat}
    (h : (Statement.update .customer id fields).exec db = .ok (n, db')) : Isolated c db db' := by
  rcases exec_update h with ⟨-, rfl, -⟩ | ⟨r, found, -, -, -, -, -, rfl⟩
  · exact Isolated.refl c _
  have key_id : key (store .customer (Change.apply .customer fields r)).customerId = key id := by
    have same := rowKey_store .customer (Change.apply .customer fields r)
    rw [rowKey_apply, Db.find_key found] at same
    exact same
  refine isolated_set (by simp) (fun _ r foreign => ?_) nofun nofun fun r mem => keys_replace _ mem
  rw [Db.set_same]
  refine mem_replace_iff ?_ fun _ same => foreign ?_
  · rintro rfl
    exact foreign ((owns_congr key_id).mpr own)
  · exact (owns_congr (same.trans key_id)).mpr own

theorem setCardStatus_isolated {id : String} {card : Card} (found : db.find .card id = some card)
    (own : OwnsAccount c db card.accountId) (valid : db.Valid) {status : CardStatus} {n : Nat}
    (h : (Statement.update .card id status).exec db = .ok (n, db')) : Isolated c db db' := by
  rcases exec_update h with ⟨-, rfl, -⟩ | ⟨r, found', -, -, -, -, -, rfl⟩
  · exact Isolated.refl c _
  obtain rfl : r = card := Option.some.inj (found'.symm.trans found)
  refine isolated_set (by simp) nofun (fun _ r' foreign => ?_) nofun fun r mem => keys_replace _ mem
  rw [Db.set_same]
  refine mem_replace_iff ?_ fun mem same => foreign ?_
  · rintro rfl
    exact foreign ((ownsAccount_congr (key_rstrip _)).mpr own)
  · rw [rowKey_store, rowKey_apply] at same
    rwa [Keyed.eq_of_key (valid.ids .card) mem (Db.find_mem found) same]

theorem createTicket_isolated {row : Ticket} (own : Owns c row.customerId) {n : Nat}
    (h : (Statement.insert .customerSupport row).exec db = .ok (n, db')) : Isolated c db db' := by
  obtain ⟨-, -, -, rfl⟩ := exec_insert h
  refine isolated_set (by simp) nofun nofun (fun _ => ?_) fun r mem =>
    ⟨r, List.mem_append_left _ mem, rfl⟩
  refine ⟨[store .customerSupport row], Db.set_same _ _ _, fun r mem => ?_⟩
  rw [List.mem_singleton.mp mem]
  exact (owns_congr (key_rstrip _)).mpr own

/-! ## Transfers -/

theorem find_transferred {sender receiver : Account} {txn : Transaction} {senderId receiverId : String}
    (senderFound : db.find .account senderId = some sender)
    (receiverFound : (db.withBalance sender (sender.balance - txn.amount)).find .account receiverId =
      some receiver) (id : String) :
    (db.transferred sender receiver txn).find .account id =
      if key id = key receiverId then some { receiver with balance := receiver.balance + txn.amount }
      else if key id = key senderId then
        some { sender with balance := sender.balance - txn.amount }
      else db.find .account id := by
  rw [Db.transferred, Db.record, find_set_other (by decide), withBalance_find receiverFound,
    withBalance_find senderFound]

theorem transferred_accounts {env : Env} {actor : Actor} {senderId receiverId : String} {cents : Int}
    {sender receiver : Account} (ok : TransferOk db env actor senderId receiverId cents sender receiver)
    (own : Owns c sender.customerId) (id : String) :
    Option.Rel (AccountKept c) (db.find .account id)
      ((db.transferred sender receiver
        (TransactionService.ledgerRecord env senderId receiverId cents)).find .account id) := by
  have amount : (TransactionService.ledgerRecord env senderId receiverId cents).amount = cents := rfl
  have positive := ok.positive
  have received := ok.receiverFound
  rw [withBalance_find ok.senderFound] at received
  rw [find_transferred ok.senderFound ok.receiverFound, amount]
  by_cases toReceiver : key id = key receiverId
  · rw [if_pos toReceiver, db.find_congr .account toReceiver]
    by_cases oneRow : key receiverId = key senderId
    · rw [if_pos oneRow] at received
      rw [db.find_congr .account oneRow, ok.senderFound]
      cases received
      exact .some ⟨rfl, fun foreign => absurd own foreign⟩
    · rw [if_neg oneRow] at received
      rw [received]
      exact .some ⟨rfl, fun _ => by simp only; omega⟩
  · rw [if_neg toReceiver]
    by_cases toSender : key id = key senderId
    · rw [if_pos toSender, db.find_congr .account toSender, ok.senderFound]
      exact .some ⟨rfl, fun foreign => absurd own foreign⟩
    · rw [if_neg toSender]
      exact (Isolated.refl c db).accounts id

theorem transferred_isolated (valid : db.Valid) {env : Env} {actor : Actor}
    {senderId receiverId : String} {cents : Int} {sender receiver : Account}
    (ok : TransferOk db env actor senderId receiverId cents sender receiver)
    (own : Owns c sender.customerId) :
    Isolated c db (db.transferred sender receiver
      (TransactionService.ledgerRecord env senderId receiverId cents)) := by
  have untouched (t : Table) (account : t ≠ .account) (ledger : t ≠ .transaction) :
      db.transferred sender receiver
        (TransactionService.ledgerRecord env senderId receiverId cents) t = db t := by
    rw [Db.transferred, Db.record, Db.set_other _ _ ledger, withBalance_other _ _ _ account,
      withBalance_other _ _ _ account]
  have same := Isolated.refl c db
  constructor
  case accounts => exact transferred_accounts ok own
  case customers =>
    rw [untouched _ (by decide) (by decide)]
    exact same.customers
  case kept =>
    intro t mem
    have : t ≠ .account ∧ t ≠ .transaction := by
      revert t
      decide
    exact untouched t this.1 this.2
  case cards =>
    rw [untouched _ (by decide) (by decide)]
    exact same.cards
  case tickets =>
    rw [untouched _ (by decide) (by decide)]
    exact same.tickets
  case ledger =>
    refine ⟨_, transferred_ledger db sender receiver _, fun t mem => ?_⟩
    rw [List.mem_singleton.mp mem]
    exact (ownsAccount_congr (key_rstrip _)).mpr ⟨sender, ok.senderFound, own⟩
  case deleted =>
    intro t r mem
    by_cases account : t = .account
    · subst account
      have here : db.find .account r.accountId = some r := valid.find_of_mem mem rfl
      have kept := transferred_accounts ok own r.accountId
      rw [here] at kept
      cases found : (db.transferred sender receiver
          (TransactionService.ledgerRecord env senderId receiverId cents)).find .account
            r.accountId with
      | none => rw [found] at kept; cases kept
      | some r' => exact ⟨r', Db.find_mem found, Db.find_key found⟩
    by_cases ledger : t = .transaction
    · subst ledger
      refine ⟨r, ?_, rfl⟩
      rw [transferred_ledger]
      exact List.mem_append_left _ mem
    · exact ⟨r, by rwa [untouched t account ledger], rfl⟩
  case money => exact transferred_money valid ok

/-! ## Calls -/

theorem reads_run {α : Type} {op : Service α} (reads : op.Issues fun _ => False) (db : Db) :
    (op.run db).2 = db :=
  Service.run_rel (fun db db' => db' = db) (fun _ => rfl) (fun first second => second.trans first)
    (fun _ never _ _ _ _ => never.elim) reads db

omit [Collation] in
theorem issues_readOnly {α : Type} {ok : Statement → Prop} (body : Sql α) :
    (readOnly body).Issues ok :=
  fun _ => trivial

omit [Collation] in
theorem issues_fetchRow {α : Type} {ok : Statement → Prop} (get : Sql (Option α)) (missing : String) :
    (fetchRow get missing).Issues ok := by
  refine Service.Issues.bind (issues_readOnly get) fun row => ?_
  cases row with
  | none => trivial
  | some row => trivial

omit [Collation] in
theorem issues_fetchOwned {α : Type} {ok : Statement → Prop} (get : Sql (Option α))
    (missing : String) (owner : α → String) (actor : Actor) :
    (fetchOwned get missing owner actor).Issues ok :=
  Service.Issues.bind (issues_fetchRow get missing) fun _ =>
    Service.Issues.bind (issues_ofExcept _) fun _ => trivial

theorem arguments_run {α β : Type} {rel : Db → Db → Prop} {db : Db} {admitted : α → Bool}
    {body : Option α} {view : α → Service β} (refl : rel db db)
    (h : ∀ data, admitted data → rel db ((view data).run db).2) :
    rel db ((arguments admitted body view).run db).2 := by
  unfold arguments
  split
  · split
    · exact h _ ‹_›
    · exact refl
  · exact refl

variable [Werkzeug] {actor : Actor} (notAdmin : actor.role ≠ .admin)
  (token : actor.customerId.map key = c.map key) (env : Env)
include notAdmin token

theorem serve_updateCustomer (id : String) (fields : CustomerFields) :
    Isolated c db (((Operation.updateCustomer id fields actor).serve env).run db).2 := by
  rw [Operation.serve, respond_run, CustomerService.update, Service.run_bind]
  cases passed : ensureOwnerOrAdmin actor (some id) with
  | error e => exact Isolated.refl c db
  | ok _ =>
      have own := owns_of_token token (ensureOwner_ok notAdmin passed)
      have issues : (updateThenGet (Customers.update id fields) (Customers.get id)
          "Customer not found").Issues (· = Statement.update .customer id fields) :=
        issues_updateThenGet _ ⟨rfl, fun _ => trivial⟩ fun _ => trivial
      refine Service.run_rel (Isolated c) (Isolated.refl c) Isolated.trans ?_ issues db
      rintro s rfl db n db' h
      exact updateCustomer_isolated own h

theorem serve_setCardStatus (valid : db.Valid) (id : String) (status : CardStatus) :
    Isolated c db (((Operation.setCardStatus id status actor).serve env).run db).2 := by
  rw [Operation.serve, respond_run]
  simp only [CardService.setStatus, guarded, Service.run, Sql.run_bind, ensureOwned_run]
  cases found : (db.find .card id).bind fun card => db.find .account card.accountId with
  | none => exact Isolated.refl c db
  | some account =>
      obtain ⟨card, cardFound, accountFound⟩ := Option.bind_eq_some_iff.mp found
      simp only
      cases passed : ensureOwnerOrAdmin actor (some account.customerId) with
      | error e => exact Isolated.refl c db
      | ok _ =>
          have own : OwnsAccount c db card.accountId :=
            ⟨account, accountFound, owns_of_token token (ensureOwner_ok notAdmin passed)⟩
          simp only [Cards.setStatus, updateRow, Sql.run]
          cases written : (Statement.update .card id status).exec db with
          | error e => exact Isolated.refl c db
          | ok result => exact setCardStatus_isolated cardFound own valid written

theorem serve_transfer (valid : db.Valid) (senderId receiverId : String) (amount : Decimal) :
    Isolated c db
      (((Operation.transfer actor senderId receiverId amount).serve env).run db).2 := by
  rw [Operation.serve, respond_run]
  cases run : (TransactionService.transfer env actor senderId receiverId amount).run db with
  | mk outcome db' =>
      cases outcome with
      | error e =>
          obtain rfl := transfer_error run
          exact Isolated.refl c _
      | ok txn =>
          obtain ⟨cents, sender, receiver, -, ok, rfl, rfl⟩ := transfer_ok valid run
          exact transferred_isolated valid ok (owns_of_token token (ok.owner.resolve_left notAdmin))

theorem serve_createTicket (data : TicketData) :
    Isolated c db ((fileTicket env actor data).run db).2 := by
  unfold fileTicket
  simp only [notAdmin, if_false]
  cases named : actor.customerId with
  | none => exact Isolated.refl c db
  | some customerId =>
      simp only
      split
      · exact Isolated.refl c db
      · refine Service.run_rel (Isolated c) (Isolated.refl c) Isolated.trans ?_
          (operation_issues (.createTicket customerId data.employeeId data.issueDescription) env) db
        intro s mem db n db' h
        rw [List.mem_singleton.mp mem] at h
        exact createTicket_isolated (owns_of_token token named) h

variable [Marshmallow]

theorem serve_isolated (valid : db.Valid) (call : ApiCall) :
    Isolated c db ((call.serve env actor).run db).2 := by
  have unchanged {op : Service Response} (reads : op.Issues fun _ => False) :
      Isolated c db (op.run db).2 := by
    rw [reads_run reads]
    exact Isolated.refl c db
  have adminOnly (op : Service Response) : Isolated c db ((adminRequired actor op).run db).2 := by
    rw [adminRequired_run notAdmin]
    exact Isolated.refl c db
  cases call with
  | health | me => exact unchanged trivial
  | ready | listAccounts | getCard | getTransaction | accountTransactions =>
      exact unchanged (issues_respond _ (issues_readOnly _))
  | login body =>
      refine arguments_run (Isolated.refl c db) fun data _ =>
        unchanged (issues_respond _ (Service.Issues.bind (issues_readOnly _) fun user => ?_))
      cases user with
      | none => trivial
      | some user =>
          simp only
          split <;> trivial
  | getCustomer customerId =>
      exact unchanged (issues_respond _ (Service.Issues.bind (issues_ofExcept _) fun _ =>
        issues_fetchRow _ _))
  | getAccount | getLoan | getCreditScore | getTicket =>
      exact unchanged (issues_respond _ (issues_fetchOwned _ _ _ _))
  | updateCustomer customerId body =>
      refine arguments_run (Isolated.refl c db) fun fields _ => ?_
      unfold someFields
      split
      · exact serve_updateCustomer notAdmin token env customerId fields
      · exact Isolated.refl c db
  | setCardStatus cardId body =>
      exact arguments_run (Isolated.refl c db) fun status _ =>
        serve_setCardStatus notAdmin token env valid cardId status
  | transfer body =>
      exact arguments_run (Isolated.refl c db) fun data _ =>
        serve_transfer notAdmin token env valid _ _ _
  | createTicket body =>
      exact arguments_run (Isolated.refl c db) fun data _ => serve_createTicket notAdmin token env data
  | _ => exact adminOnly _

end

section
variable [Collation] [Werkzeug] [Marshmallow]

abbrev Request := Actor × ApiCall × Env

def answer (requests : List Request) (db : Db) : Db :=
  requests.foldl (fun db request => ((request.2.1.serve request.2.2 request.1).run db).2) db

theorem write_isolation (c : Option String) (requests : List Request)
    (tokens : ∀ request ∈ requests, request.1.role ≠ .admin ∧
      request.1.customerId.map key = c.map key) {db : Db} (valid : db.Valid) :
    Isolated c db (answer requests db) := by
  induction requests generalizing db with
  | nil => exact Isolated.refl c db
  | cons request requests ih =>
      obtain ⟨⟨notAdmin, token⟩, tokens⟩ := List.forall_mem_cons.mp tokens
      have first := serve_isolated notAdmin token request.2.2 valid request.2.1
      exact first.trans (ih tokens (Service.run_valid _ valid))

end

attribute [local instance] foldCase clearText plainEmail

def annsRequests : List Request :=
  [(ann, .updateCustomer "ann" (some ⟨some "Anna", none, none, none, none, none, none, none, none⟩),
      noon ""),
    (ann, .transfer (some ⟨"b-1", "a-1", 100⟩), noon "t-1"),
    (ann, .transfer (some ⟨"A-1", "b-1", 4000⟩), noon "t-2"),
    (ann, .createTicket (some ⟨none, "nobody", "Help"⟩), noon "s-1"),
    (ann, .deleteCustomer "bob", noon "")]

theorem write_isolation_ann : Isolated (some "ANN") opened (answer annsRequests opened) ∧
    (answer annsRequests opened .customer).map Customer.firstName = ["Anna", "Bob"] ∧
    (answer annsRequests opened .account).map Account.balance = [6000, 4000] ∧
    (answer annsRequests opened .transaction).length = 1 :=
  ⟨write_isolation (some "ANN") annsRequests (by decide +kernel) reachable_opened.valid,
    by decide +kernel⟩

end Corebank
