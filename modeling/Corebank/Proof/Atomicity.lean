import Corebank.Operations

/-! # All or nothing -/

namespace Corebank

section
variable [Collation]

/-- A call that raises leaves the committed state alone, and one that returns commits what the
undisturbed call commits. -/
def AllOrNothing {α : Type} (op : Service α) (plan : Plan) (db : Db) : Prop :=
  match op.runWith plan db with
  | (.error _, db') => db' = db
  | (.ok a, db') => op.run db = (.ok a, db')

/-! ## Calls that return -/

theorem Sql.runWith_ok {α : Type} {p : Sql α} {plan plan' : Plan} {db db' : Db} {a : α}
    (h : p.runWith plan db = (.ok (a, db'), plan')) : p.run db = .ok (a, db') := by
  induction p generalizing plan db with
  | done b =>
      cases h
      rfl
  | raise e => cases h
  | fetch next ih =>
      simp only [Sql.runWith] at h
      split at h
      · cases h
      · exact ih _ h
  | lock t id next ih =>
      simp only [Sql.runWith] at h
      split at h
      · cases h
      · exact ih _ h
  | execute s next ih =>
      simp only [Sql.runWith] at h
      split at h
      · cases h
      · split at h
        · rename_i exec
          simp only [Sql.run, exec]
          exact ih _ h
        · cases h

theorem Service.runWith_ok {α : Type} {op : Service α} {plan : Plan} {db db' : Db} {a : α}
    (h : op.runWith plan db = (.ok a, db')) : op.run db = (.ok a, db') := by
  induction op generalizing plan db with
  | done b => exact h
  | raise e => cases h
  | unitOfWork guard body next ih =>
      simp only [Service.runWith] at h
      split at h
      · cases h
      split at h
      · cases h
      split at h
      · cases h
      · rename_i b db'' rest inside
        split at h
        · cases h
        · simp only [Service.run, Sql.runWith_ok inside]
          exact ih _ h
  | readOnly body next ih =>
      simp only [Service.runWith] at h
      split at h
      · cases h
      split at h
      · cases h
      · rename_i inside
        simp only [Service.run, Sql.runWith_ok inside]
        exact ih _ h

theorem allOrNothing_iff {α : Type} {op : Service α} {plan : Plan} {db : Db} :
    AllOrNothing op plan db ↔ ∀ e db', op.runWith plan db = (.error e, db') → db' = db := by
  unfold AllOrNothing
  constructor
  · intro h e db' failed
    rwa [failed] at h
  · intro h
    split
    · exact h _ _ ‹_›
    · exact Service.runWith_ok ‹_›

/-! ## Calls that raise -/

def Service.CommitsLast {α : Type} : Service α → Prop
  | .done _ | .raise _ => True
  | .unitOfWork _ _ next => ∀ b, ∃ a, next b = .done a
  | .readOnly _ next => ∀ b, (next b).CommitsLast

theorem Service.CommitsLast.runWith_error {α : Type} {op : Service α} (last : op.CommitsLast)
    {plan : Plan} {db db' : Db} {e : Exn} (h : op.runWith plan db = (.error e, db')) : db' = db := by
  induction op generalizing plan db with
  | done a => cases h
  | raise e =>
      cases h
      rfl
  | unitOfWork guard body next ih =>
      simp only [Service.runWith] at h
      split at h
      · cases h; rfl
      split at h
      · cases h; rfl
      split at h
      · cases h; rfl
      split at h
      · cases h; rfl
      · rename_i b _ _ _ _ _
        obtain ⟨a, finished⟩ := last b
        rw [finished] at h
        cases h
  | readOnly body next ih =>
      simp only [Service.runWith] at h
      split at h
      · cases h; rfl
      split at h
      · cases h; rfl
      · exact ih _ (last _) h

theorem Service.CommitsLast.allOrNothing {α : Type} {op : Service α} (last : op.CommitsLast)
    (plan : Plan) (db : Db) : AllOrNothing op plan db :=
  allOrNothing_iff.mpr fun _ _ => last.runWith_error

/-! ## The operations -/

omit [Collation] in
theorem Service.CommitsLast.respond {α : Type} {op : Service α} (last : op.CommitsLast)
    (f : α → Response) : (respond f op).CommitsLast := by
  induction op with
  | done a => trivial
  | raise e => trivial
  | unitOfWork guard body next ih =>
      intro b
      obtain ⟨a, finished⟩ := last b
      refine ⟨f a, ?_⟩
      show (next b >>= fun a => pure (f a)) = _
      rw [finished]
      rfl
  | readOnly body next ih => exact fun b => ih b (last b)

omit [Collation] in
theorem commitsLast_ofExcept {α β : Type} (x : Except Exn α) {next : α → Service β}
    (last : ∀ a, (next a).CommitsLast) : (Service.ofExcept x >>= next).CommitsLast := by
  cases x with
  | error e => trivial
  | ok a => exact last a

variable [Werkzeug]

theorem operation_commitsLast (op : Operation) (env : Env)
    (notCard : ∀ data, op ≠ .createCard data) : (op.serve env).CommitsLast := by
  have created {t : Table} (record : Row t) : (createRow t record).CommitsLast :=
    fun _ => ⟨record, rfl⟩
  have block {α : Type} (guard : Exn → Exn) (body : Sql α) :
      (Service.unitOfWork guard body .done).CommitsLast := fun b => ⟨b, rfl⟩
  cases op with
  | createCard data => exact absurd rfl (notCard data)
  | createCustomer | createBranch | createAccount | createLoan | createLoanPayment | createEmployee
  | createTicket | createCreditScore => exact (created _).respond _
  | createUser data =>
      have last : (UserService.create env data).CommitsLast := fun _ => ⟨_, rfl⟩
      exact last.respond _
  | updateCustomer customerId fields actor =>
      exact (commitsLast_ofExcept _ fun _ => block _ _).respond _
  | setBalance accountId balance => exact (commitsLast_ofExcept _ fun _ => block _ _).respond _
  | transfer actor senderId receiverId amount =>
      refine (commitsLast_ofExcept _ fun cents => ?_).respond _
      split
      · trivial
      · split
        · trivial
        · exact block _ _
  | _ => exact (block _ _).respond _

/-- The card is committed, and then the connection or the SELECT that would read it back fails. -/
structure ReadBackLost (env : Env) (data : CardData) (plan : Plan) (db : Db) : Prop where
  borrowed : fault plan = none
  begun : fault (plan.drop 1) = none
  executed : fault (plan.drop 2) = none
  committed : fault (plan.drop 3) = none
  fits : misfit .card (CardService.record env data) = none
  accepted : verify db .card (store .card (CardService.record env data)) (db .card) = none
  lost : fault (plan.drop 4) ≠ none ∨ fault (plan.drop 5) ≠ none

theorem createCard_allOrNothing_iff (env : Env) (data : CardData) (plan : Plan) (db : Db) :
    AllOrNothing ((Operation.createCard data).serve env) plan db ↔
      ¬ReadBackLost env data plan db := by
  rw [allOrNothing_iff]
  simp only [Operation.serve, respond, CardService.create, guarded, readOnly, Cards.insert,
    insertRow, Cards.get, Service.unitOfWork_bind, Service.readOnly_bind, Service.done_bind,
    Service.runWith, Sql.runWith, ← List.drop_one, List.drop_drop, Nat.reduceAdd]
  constructor
  · intro h lost
    have inserted := exec_insert_ok lost.fits lost.accepted
    simp only [lost.borrowed, lost.begun, lost.executed, lost.committed, inserted, List.drop_drop,
      Nat.reduceAdd] at h
    have changed : db.set .card (db .card ++ [store .card (CardService.record env data)]) ≠ db := by
      intro same
      have length := congrArg (fun db' : Db => (db' .card).length) same
      simp at length
    cases reconnected : fault (plan.drop 4) with
    | some e =>
        simp only [reconnected] at h
        exact changed (h e _ rfl)
    | none =>
        cases selected : fault (plan.drop 5) with
        | some e =>
            simp only [reconnected, selected] at h
            exact changed (h e _ rfl)
        | none => exact lost.lost.elim (absurd reconnected) (absurd selected)
  · intro kept e db' failed
    cases borrowed : fault plan with
    | some e => simp_all
    | none =>
    cases begun : fault (plan.drop 1) with
    | some e => simp_all
    | none =>
    cases executed : fault (plan.drop 2) with
    | some e => simp_all
    | none =>
    cases exec : (Statement.insert .card (CardService.record env data)).exec db with
    | error e => simp_all
    | ok result =>
    cases committed : fault (plan.drop 3) with
    | some e => simp_all
    | none =>
        obtain ⟨n, after⟩ := result
        obtain ⟨fits, accepted, -, rfl⟩ := exec_insert exec
        simp only [borrowed, begun, executed, exec, committed, List.drop_drop, Nat.reduceAdd] at failed
        cases reconnected : fault (plan.drop 4) with
        | some e => exact absurd ⟨borrowed, begun, executed, committed, fits, accepted,
            Or.inl (by simp [reconnected])⟩ kept
        | none =>
            cases selected : fault (plan.drop 5) with
            | some e => exact absurd ⟨borrowed, begun, executed, committed, fits, accepted,
                Or.inr (by simp [selected])⟩ kept
            | none =>
                simp only [reconnected, selected] at failed
                cases failed

theorem operation_atomic_iff (op : Operation) (env : Env) (plan : Plan) (db : Db) :
    AllOrNothing (op.serve env) plan db ↔
      ¬∃ data, op = .createCard data ∧ ReadBackLost env data plan db := by
  by_cases card : ∃ data, op = .createCard data
  · obtain ⟨data, rfl⟩ := card
    rw [createCard_allOrNothing_iff]
    simp
  · refine iff_of_true ?_ fun ⟨data, created, _⟩ => card ⟨data, created⟩
    exact (operation_commitsLast op env fun data created => card ⟨data, created⟩).allOrNothing plan db

end

attribute [local instance] foldCase clearText

def newCard : CardData :=
  { accountId := "a-1", cardType := .debit, cardNumber := "4000111122223333",
    expirationDate := 800000, cvv := "123", status := .active }

theorem createCard_raises_committed : Reachable opened ∧
    ¬AllOrNothing ((Operation.createCard newCard).serve (noon "c-1"))
      [none, none, none, none, some (.driver (mysqlError 2013))] opened := by
  refine ⟨reachable_opened, ?_⟩
  rw [createCard_allOrNothing_iff, not_not]
  exact ⟨rfl, rfl, rfl, rfl, by decide +kernel, by decide +kernel, Or.inl (by decide)⟩

end Corebank
