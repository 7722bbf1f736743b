import Corebank.Library.Layers
import Corebank.Proof.Updates

/-! # Creates are undone by deletes in reverse order -/

namespace Corebank
open Library Library.Layers

/-! ## Creates and deletes -/

def Operation.created : Operation → Option Table
  | .createCustomer _ => some .customer
  | .createUser _ => some .user
  | .createBranch _ => some .branch
  | .createAccount _ _ _ => some .account
  | .createLoan _ => some .loan
  | .createLoanPayment _ => some .loanPayment
  | .createEmployee _ => some .employee
  | .createCard _ => some .card
  | .createTicket _ _ _ => some .customerSupport
  | .createCreditScore _ => some .creditScore
  | _ => none

def deleteOf : Table → String → Operation
  | .customer => .deleteCustomer
  | .user => .deleteUser
  | .branch => .deleteBranch
  | .account => .deleteAccount
  | .loan => .deleteLoan
  | .loanPayment => .deleteLoanPayment
  | .employee => .deleteEmployee
  | .card => .deleteCard
  | .transaction => .deleteTransaction
  | .customerSupport => .deleteTicket
  | .creditScore => .deleteCreditScore

structure Creation where
  operation : Operation
  env : Env
  table : Table
  creates : operation.created = some table

namespace Creation

def call (c : Creation) : Operation × Env := (c.operation, c.env)

def undo (c : Creation) : Operation × Env := (deleteOf c.table c.env.newId, c.env)

end Creation

variable [Collation]

inductive StatusChange : Table → String → Operation → Prop
  | card {id id' : String} (names : key id' = key id) (status : CardStatus) (actor : Actor) :
      StatusChange .card id (.setCardStatus id' status actor)
  | loan {id id' : String} (names : key id' = key id) (status : LoanStatus) :
      StatusChange .loan id (.setLoanStatus id' status)
  | ticket {id id' : String} (names : key id' = key id) (status : TicketStatus) :
      StatusChange .customerSupport id (.setTicketStatus id' status)

section
variable [Werkzeug]

def performCall (db : Db) (call : Operation × Env) : Option Db :=
  match (call.1.serve call.2).run db with
  | (.ok _, db') => some db'
  | (.error _, _) => none

/-- The calls one after the other, as long as they succeed. -/
def performCalls (calls : List (Operation × Env)) (db : Db) : Option Db := calls.foldlM performCall db

end

/-! ## A row laid on a state -/

/-- Every reference names a row. -/
def Db.Closed (db : Db) : Prop :=
  ∀ t, ∀ r ∈ db t, ∀ fk ∈ foreignKeys t, ∀ id, fk.column r = some id → (db.find fk.parent id).isSome

/-- `db'` is `db` with one more row, the last of its table. -/
structure Adds (t : Table) (id : String) (db db' : Db) : Prop where
  closed : db.Closed
  fresh : ∀ r ∈ db t, rowKey t r ≠ key id
  row : ∃ r, rowKey t r = key id ∧ db' = db.set t (db t ++ [r])

theorem exec_insert_adds {db db' : Db} (valid : db.Valid) {t : Table} {row : Row t} {n : Nat}
    (h : (Statement.insert t row).exec db = .ok (n, db')) : Adds t (rowId t row) db db' := by
  obtain ⟨-, verified, -, rfl⟩ := exec_insert h
  obtain ⟨-, noClash, -⟩ := verify_eq_none.mp verified
  refine ⟨valid.references, fun o mem same => ?_, store t row, rowKey_store t row, rfl⟩
  exact (clashes_eq_false (noClash o mem)).1 (same.trans (rowKey_store t row).symm)

section
variable {db db' : Db} {t : Table} {id : String} (adds : Adds t id db db')
include adds

theorem Adds.not_referred {child : Table} {r : Row child} (mem : r ∈ db child) {fk : ForeignKey child}
    (foreign : fk ∈ foreignKeys child) (parent : fk.parent = t) {v : String}
    (ref : fk.column r = some v) : key v ≠ key id := by
  intro same
  have found := adds.closed child r mem fk foreign v ref
  subst parent
  obtain ⟨p, hp, names⟩ := Keyed.lookup_isSome.mp found
  exact adds.fresh p hp (names.trans same)

theorem Adds.other {child : Table} (ne : child ≠ t) : db' child = db child := by
  obtain ⟨r, -, rfl⟩ := adds.row
  exact Db.set_other _ _ ne

theorem Adds.free : restricted db' t id = false := by
  rw [restricted, List.any_eq_false]
  intro child _
  rw [Bool.not_eq_true, List.any_eq_false]
  intro fk foreign blocks
  simp only [Bool.and_eq_true, decide_eq_true_eq, List.any_eq_true, Option.any_eq_true] at blocks
  obtain ⟨⟨parent, -⟩, r, mem, v, ref, same⟩ := blocks
  have ne : child ≠ t := fun e => foreignKeys_parent_ne child fk foreign (parent.trans e.symm)
  rw [adds.other ne] at mem
  exact adds.not_referred mem foreign parent ref same

theorem Adds.nullify {child : Table} {r : Row child} (mem : r ∈ db child) :
    nullify t id child r = r := by
  by_cases e : child = .transaction
  · subst e
    rw [nullify_transaction, if_neg]
    rintro ⟨rfl, refers⟩
    obtain ⟨v, ref, same⟩ := (Option.any_eq_true _ _).mp refers
    exact adds.not_referred mem (List.mem_cons_of_mem _ List.mem_cons_self) rfl ref
      (of_decide_eq_true same)
  · exact nullify_other t id e r

theorem Adds.exec_delete : (Statement.delete t id).exec db' = .ok (1, db) := by
  have free := adds.free
  obtain ⟨r, names, rfl⟩ := adds.row
  have found : ((db.set t (db t ++ [r])).find t id).isSome := by
    rw [Db.find, Db.set_same, Keyed.lookup_isSome]
    exact ⟨r, by simp, names⟩
  have left : Keyed.remove (rowKey t) (key id) (db t ++ [r]) = db t := by
    rw [Keyed.remove, List.filter_append, List.filter_cons_of_neg (by simpa using names),
      List.filter_nil, List.append_nil]
    exact Keyed.remove_of_absent adds.fresh
  obtain ⟨s, found⟩ := Option.isSome_iff_exists.mp found
  simp only [Statement.exec, found, free, Bool.false_eq_true, if_false, Db.set_same, left]
  congr 2
  funext child
  by_cases e : child = t
  · subst e
    rw [Db.set_same]
  · rw [Db.set_other _ _ e, Db.set_other _ _ e]
    conv_rhs => rw [← List.map_id (db child)]
    exact List.map_congr_left fun r mem => adds.nullify mem

end

/-! ## A row changed -/

/-- A change of `t` that leaves every reference to the parent it names. -/
def KeepsReferences (t : Table) (change : Change t) : Prop :=
  ∀ fk ∈ foreignKeys t, ∀ r,
    (fk.column (store t (change.apply t r))).map key = (fk.column r).map key

def touch (t : Table) (id : String) (change : Change t) (r : Row t) : Row t :=
  if rowKey t r = key id then store t (change.apply t r) else r

def Db.touched (t : Table) (id : String) (change : Change t) (db : Db) : Db :=
  db.set t ((db t).map (touch t id change))

@[simp] theorem rowKey_touch (t : Table) (id : String) (change : Change t) (r : Row t) :
    rowKey t (touch t id change r) = rowKey t r := by
  unfold touch
  split <;> simp

theorem exec_update_touched {db db' : Db} (valid : db.Valid) {t : Table} {id : String}
    {change : Change t} {n : Nat} (h : (Statement.update t id change).exec db = .ok (n, db')) :
    db' = db ∨ db' = db.touched t id change := by
  rcases exec_update h with ⟨-, same, -⟩ | ⟨r, found, -, -, -, -, -, rfl⟩
  · exact Or.inl same
  · refine Or.inr ?_
    rw [Db.touched, Keyed.replace]
    congr 1
    refine List.map_congr_left fun s mem => ?_
    rw [rowKey_store, rowKey_apply, Db.find_key found, touch]
    split
    · rename_i same
      rw [Keyed.eq_of_key (valid.ids t) mem (Db.find_mem found) (same.trans (Db.find_key found).symm)]
    · rfl

section
variable {t : Table} {change : Change t} (keeps : KeepsReferences t change) (id : String)

theorem Db.find_touched (db : Db) (t' : Table) (v : String) :
    ((db.touched t id change).find t' v).isSome = (db.find t' v).isSome := by
  have keys : ((db.touched t id change) t').map (rowKey t') = (db t').map (rowKey t') := by
    by_cases e : t' = t
    · subst e
      rw [Db.touched, Db.set_same, List.map_map]
      exact List.map_congr_left fun r _ => rowKey_touch _ _ _ r
    · rw [Db.touched, Db.set_other _ _ e]
  exact Bool.eq_iff_iff.mpr ⟨Db.find_isSome_of_keys (by simp [keys]),
    Db.find_isSome_of_keys (by simp [keys])⟩

include keeps

theorem touch_references {fk : ForeignKey t} (foreign : fk ∈ foreignKeys t) (r : Row t) :
    (fk.column (touch t id change r)).map key = (fk.column r).map key := by
  unfold touch
  split
  · exact keeps fk foreign r
  · rfl

theorem Db.Closed.touched {db : Db} (closed : db.Closed) : (db.touched t id change).Closed := by
  intro t' r mem fk foreign v ref
  rw [Db.find_touched]
  by_cases e : t' = t
  · subst e
    rw [Db.touched, Db.set_same, List.mem_map] at mem
    obtain ⟨s, mem, rfl⟩ := mem
    have same := touch_references keeps id foreign s
    rw [ref, Option.map_some, eq_comm, Option.map_eq_some_iff] at same
    obtain ⟨w, before, same⟩ := same
    rw [db.find_congr fk.parent same.symm]
    exact closed t' s mem fk foreign w before
  · rw [Db.touched, Db.set_other _ _ e] at mem
    exact closed t' r mem fk foreign v ref

theorem Adds.above {t' : Table} {id' : String} {db db' : Db} (adds : Adds t' id' db db') :
    Adds t' id' (db.touched t id change) (db'.touched t id change) := by
  obtain ⟨closed, fresh, r, names, rfl⟩ := adds
  by_cases e : t' = t
  · subst e
    refine ⟨closed.touched keeps id, ?_, touch t' id change r, by simpa using names, ?_⟩
    · simpa [Db.touched] using fresh
    · simp [Db.touched, Db.set]
  · refine ⟨closed.touched keeps id, ?_, r, names, ?_⟩
    · simpa [Db.touched, Db.set_other _ _ e] using fresh
    · rw [Db.touched, Db.touched, Db.set_other _ _ (Ne.symm e), Db.set_other _ _ e]
      exact Function.update_comm e _ _ _

omit keeps in
theorem Adds.top {db db' : Db} (adds : Adds t id db db') :
    Adds t id db (db'.touched t id change) := by
  obtain ⟨closed, fresh, r, names, rfl⟩ := adds
  refine ⟨closed, fresh, touch t id change r, by simpa using names, ?_⟩
  have below : (db t).map (touch t id change) = db t := by
    conv_rhs => rw [← List.map_id (db t)]
    exact List.map_congr_left fun s mem => if_neg (fresh s mem)
  simp [Db.touched, Db.set, below]

end

/-! ## The operations -/

theorem keepsReferences_status {t : Table} {change : Change t}
    (status : t = .card ∨ t = .loan ∨ t = .customerSupport) : KeepsReferences t change := by
  rcases status with rfl | rfl | rfl <;> intro fk foreign r <;>
    simp only [foreignKeys, List.mem_cons, List.not_mem_nil, or_false] at foreign
  · subst foreign
    simp [store, Change.apply, key_rstrip]
  · subst foreign
    simp [store, Change.apply, key_rstrip]
  · rcases foreign with rfl | rfl <;> simp [store, Change.apply, key_rstrip]

theorem createRow_adds {db db' : Db} (valid : db.Valid) {t : Table} {record : Row t} {a : Row t}
    (run : (createRow t record).run db = (.ok a, db')) : Adds t (rowId t record) db db' := by
  obtain ⟨-, n, h⟩ := createRow_ok run
  exact exec_insert_adds valid h

theorem createCard_adds {env : Env} {data : CardData} {db db' : Db} (valid : db.Valid)
    {a : Option SafeCard} (run : (CardService.create env data).run db = (.ok a, db')) :
    Adds .card env.newId db db' := by
  obtain ⟨n, h, -⟩ := createCard_ok run
  exact exec_insert_adds valid h

variable [Werkzeug]

theorem createUser_adds {env : Env} {data : UserData} {db db' : Db} (valid : db.Valid)
    {a : PublicUser} (run : (UserService.create env data).run db = (.ok a, db')) :
    Adds .user env.newId db db' := by
  rw [UserService.create, Service.run_bind] at run
  split at run
  · rename_i r after inserted
    cases run
    exact createRow_adds valid inserted
  · cases run

theorem StatusChange.writes {t : Table} {id : String} {op : Operation} (on : StatusChange t id op)
    (env : Env) : ∃ id' change, key id' = key id ∧ KeepsReferences t change ∧
      op.writes env = [.update t id' change] := by
  cases on with
  | card names status actor => exact ⟨_, _, names, keepsReferences_status (by simp), rfl⟩
  | loan names status => exact ⟨_, _, names, keepsReferences_status (by simp), rfl⟩
  | ticket names status => exact ⟨_, _, names, keepsReferences_status (by simp), rfl⟩

/-- The creations `cs`, the last one first, added their rows to `base`. -/
def Created (base : Db) (cs : List Creation) (db : Db) : Prop :=
  Over (fun c => Adds c.table c.env.newId) base cs db

omit [Werkzeug] in
theorem Created.touched {base db : Db} {cs : List Creation} (laid : Created base cs db) {c : Creation}
    (mem : c ∈ cs) {id : String} (names : key id = key c.env.newId) {change : Change c.table}
    (keeps : KeepsReferences c.table change) : Created base cs (db.touched c.table id change) := by
  have same (db : Db) : db.touched c.table id change = db.touched c.table c.env.newId change := by
    have rows : touch c.table id change = touch c.table c.env.newId change := by
      funext r
      rw [touch, touch, names]
    rw [Db.touched, rows, Db.touched]
  have layers : Over (fun c => Adds c.table c.env.newId) base cs db := laid
  rw [same]
  refine Over.change ?_ ?_ layers mem
  · exact fun _ _ => Adds.top c.env.newId
  · exact fun _ _ _ => Adds.above keeps c.env.newId

theorem Created.changed {base db : Db} {cs : List Creation} (laid : Created base cs db)
    (valid : db.Valid) {c : Creation} (mem : c ∈ cs) {op : Operation}
    (on : StatusChange c.table c.env.newId op) (env : Env) :
    Created base cs ((op.serve env).run db).2 := by
  obtain ⟨id, change, names, keeps, writes⟩ := on.writes env
  have step (s : Statement) (listed : s ∈ op.writes env) {db db' : Db} {n : Nat}
      (h : s.exec db = .ok (n, db')) (layered : db.Valid ∧ Created base cs db) :
      db'.Valid ∧ Created base cs db' := by
    refine ⟨exec_valid layered.1 h, ?_⟩
    rw [writes, List.mem_singleton] at listed
    subst listed
    rcases exec_update_touched layered.1 h with rfl | rfl
    · exact layered.2
    · exact layered.2.touched mem names keeps
  exact (Service.run_rel
    (fun db db' => db.Valid ∧ Created base cs db → db'.Valid ∧ Created base cs db')
    (fun _ layered => layered) (fun f g layered => g (f layered))
    (fun s listed _ _ _ => step s listed) (operation_issues op env) db ⟨valid, laid⟩).2

theorem Created.replay {base db : Db} {cs : List Creation} {changes : List (Operation × Env)}
    (on : ∀ call ∈ changes, ∃ c ∈ cs, StatusChange c.table c.env.newId call.1)
    (laid : Created base cs db) (valid : db.Valid) : Created base cs (replay changes db) := by
  induction changes generalizing db with
  | nil => exact laid
  | cons call changes ih =>
      obtain ⟨⟨c, mem, status⟩, rest⟩ := List.forall_mem_cons.mp on
      exact ih rest (laid.changed valid mem status call.2) (Service.run_valid _ valid)

theorem performCall_ok {db db' : Db} {call : Operation × Env}
    (performed : performCall db call = some db') :
    ∃ a, (call.1.serve call.2).run db = (.ok a, db') := by
  unfold performCall at performed
  split at performed
  · rename_i a after run
    cases performed
    exact ⟨a, run⟩
  · cases performed

theorem Creation.adds (c : Creation) {db db' : Db} (valid : db.Valid)
    (performed : performCall db c.call = some db') : Adds c.table c.env.newId db db' := by
  obtain ⟨a, run⟩ := performCall_ok performed
  obtain ⟨op, env, t, creates⟩ := c
  change Adds t env.newId db db'
  cases op
  case createCustomer | createBranch | createAccount | createLoan | createLoanPayment
    | createEmployee | createTicket | createCreditScore =>
      cases creates
      obtain ⟨b, -, run⟩ := respond_ok run
      exact createRow_adds valid run
  case createUser data =>
      cases creates
      obtain ⟨b, -, run⟩ := respond_ok run
      exact createUser_adds valid run
  case createCard data =>
      cases creates
      obtain ⟨b, -, run⟩ := respond_ok run
      exact createCard_adds valid run
  all_goals cases creates

theorem Creation.valid (c : Creation) {db db' : Db} (valid : db.Valid)
    (performed : performCall db c.call = some db') : db'.Valid := by
  obtain ⟨a, run⟩ := performCall_ok performed
  have kept := Service.run_valid (c.call.1.serve c.call.2) valid
  rwa [run] at kept

theorem deleteOf_undoes {t : Table} {id : String} (stored : t ≠ .transaction) {db db' : Db}
    (adds : Adds t id db db') (env : Env) : performCall db' (deleteOf t id, env) = some db := by
  have run (missing : String) : ((respond (fun _ => .empty)
      (deleteOrMissing guarded (deleteRow t id) missing)).run db') = (.ok .empty, db) := by
    rw [respond_run, deleteOrMissing_run, adds.exec_delete]
    rfl
  have served : ((deleteOf t id).serve env).run db' = (.ok .empty, db) := by
    cases t with
    | transaction => exact absurd rfl stored
    | _ => exact run _
  simp only [performCall, served]

theorem Creation.undone (c : Creation) {db db' : Db} (adds : Adds c.table c.env.newId db db') :
    performCall db' c.undo = some db := by
  refine deleteOf_undoes (fun e => ?_) adds c.env
  have creates := c.creates
  rw [e] at creates
  cases op : c.operation <;> rw [op] at creates <;> cases creates

/-- Deleting the created rows, the last one first, restores the state. -/
theorem creates_undone {db db' : Db} (reached : Reachable db) {creations : List Creation}
    (created : performCalls (creations.map Creation.call) db = some db')
    {changes : List (Operation × Env)}
    (on : ∀ call ∈ changes, ∃ c ∈ creations, StatusChange c.table c.env.newId call.1) :
    performCalls (creations.reverse.map Creation.undo) (replay changes db') = some db := by
  have step (c : Creation) (s s' : Db) (valid : s.Valid) (performed : performCall s c.call = some s') :
      Adds c.table c.env.newId s s' ∧ s'.Valid :=
    ⟨c.adds valid performed, c.valid valid performed⟩
  rw [performCalls, List.foldlM_map] at created
  obtain ⟨laid, valid⟩ := Over.build step reached.valid .base created
  rw [List.append_nil] at laid
  have after : Created db creations.reverse (replay changes db') := by
    refine Created.replay (fun call mem => ?_) laid valid
    obtain ⟨c, made, status⟩ := on call mem
    exact ⟨c, List.mem_reverse.mpr made, status⟩
  rw [performCalls, List.foldlM_map]
  exact after.undo fun c _ _ adds => c.undone adds

def cardCreations : List Creation :=
  [⟨.createAccount "ann" .savings "north", noon "a-2", .account, rfl⟩,
    ⟨.createCard ⟨"a-2", .debit, "4000", 800000, "123", .active⟩, noon "card", .card, rfl⟩]

omit [Collation] [Werkzeug] in
theorem creates_undone_card : ∃ db',
    @performCalls foldCase clearText (cardCreations.map Creation.call) opened = some db' ∧
      @performCalls foldCase clearText (cardCreations.reverse.map Creation.undo)
        (@replay foldCase clearText [(.setCardStatus "card" .blocked ann, noon "")] db') =
          some opened := by
  have made : (@performCalls foldCase clearText (cardCreations.map Creation.call) opened).isSome := by
    decide +kernel
  have created := (Option.some_get made).symm
  refine ⟨_, created, @creates_undone foldCase clearText _ _ reachable_opened _ created _ ?_⟩
  intro call mem
  rw [List.mem_singleton] at mem
  subst mem
  exact ⟨_, List.mem_cons_of_mem _ List.mem_cons_self,
    @StatusChange.card foldCase "card" "card" rfl .blocked ann⟩

end Corebank
