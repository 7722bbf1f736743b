import Corebank.Sessions
import Corebank.Library.Isolation
import Corebank.Proof.Updates
import Corebank.Proof.Ownership

/-!
# A call on its own

The programs of `Corebank.Sessions` answer and leave what the services do when nothing runs beside
them.
-/

namespace Corebank
open Library Library.Snapshot

section
variable [Collation] {db : Db} {t : Table}

/-! ## Statements on one table -/

theorem exec_admitRow (db : Db) (plain : uniques t = []) (row : Row t) :
    let taken := (Keyed.lookup (rowKey t) (rowKey t row) (db t)).isSome
    (∃ e, admitRow db t row taken = .error (refusedBy e) ∧
      (Statement.insert t row).exec db = .error e) ∨
    ∃ r, admitRow db t row taken = .ok r ∧
      (Statement.insert t row).exec db = .ok (1, db.set t (db t ++ [r])) := by
  have clash : (db t).any (clashes t (store t row)) =
      (Keyed.lookup (rowKey t) (rowKey t row) (db t)).isSome := by
    rw [Bool.eq_iff_iff, List.any_eq_true, Keyed.lookup_isSome]
    simp [clashes, plain]
  cases fits : misfit t row with
  | some e => exact Or.inl ⟨e, by simp only [admitRow, fits], by simp only [Statement.exec, fits]⟩
  | none =>
      simp only [Statement.exec, admitRow, fits, verify, clash]
      cases checks t (store t row) with
      | false => exact Or.inl ⟨_, rfl, rfl⟩
      | true =>
          cases (Keyed.lookup (rowKey t) (rowKey t row) (db t)).isSome with
          | true => exact Or.inl ⟨_, rfl, rfl⟩
          | false =>
              cases missingReference db t (store t row) with
              | true => exact Or.inl ⟨_, rfl, rfl⟩
              | false => exact Or.inr ⟨_, rfl, rfl⟩

theorem exec_changeRow (valid : db.Valid) {change : Change t} (assigns : change.assigns t = true)
    (selects : ∀ r, change.selects t r = true)
    (columns : ∀ r, store t r = r → ∀ column ∈ uniques t,
      column (store t (change.apply t r)) = column r)
    (references : ∀ r, store t r = r → ∀ fk ∈ foreignKeys t,
      fk.column (store t (change.apply t r)) = fk.column r)
    {id : String} {r : Row t} (found : db.find t id = some r) :
    (∃ e, changeRow t change r = .error (refusedBy e) ∧
      (Statement.update t id change).exec db = .error e) ∨
    (changeRow t change r = .ok none ∧ (Statement.update t id change).exec db = .ok (0, db)) ∨
    ∃ r', changeRow t change r = .ok (some r') ∧
      (Statement.update t id change).exec db = .ok (1, db.updated t r') := by
  simp only [Statement.exec, assigns, found, selects, changeRow, Bool.not_true, Bool.false_eq_true,
    if_false]
  cases misfit t (change.apply t r) with
  | some e => exact Or.inl ⟨e, rfl, rfl⟩
  | none =>
      by_cases kept : store t (change.apply t r) = r
      · simp only [kept, if_true]
        exact Or.inr (Or.inl ⟨trivial, trivial⟩)
      · have accepted : checks t (store t (change.apply t r)) = true →
            verify db t (store t (change.apply t r))
              (db.others t (store t (change.apply t r))) = none := by
          have stored := (valid.fits t r (Db.find_mem found)).2
          refine verify_kept valid (Db.find_mem found) ?_ (columns r stored) (references r stored)
          rw [rowKey_store, rowKey_apply]
        cases checked : checks t (store t (change.apply t r)) with
        | true =>
            simp only [kept, accepted checked, Bool.not_true, Bool.false_eq_true, if_false]
            exact Or.inr (Or.inr ⟨_, rfl, rfl⟩)
        | false =>
            simp only [kept, verify, checked, Bool.not_false, if_true, if_false]
            exact Or.inl ⟨_, rfl, rfl⟩

theorem nullify_leaf (leaf : ∀ child, ∀ fk ∈ foreignKeys child, fk.parent ≠ t) (id : String)
    (child : Table) (r : Row child) : nullify t id child r = r := by
  by_cases ledger : child = .transaction
  · subst ledger
    have other : .account ≠ t := leaf .transaction _ List.mem_cons_self
    rw [nullify_transaction, if_neg fun refers => other refers.1.symm]
  · exact nullify_other t id ledger r

theorem restricted_leaf (leaf : ∀ child, ∀ fk ∈ foreignKeys child, fk.parent ≠ t) (id : String) :
    restricted db t id = false := by
  rw [restricted, List.any_eq_false]
  intro child _ refers
  obtain ⟨fk, mem, refers⟩ := List.any_eq_true.mp refers
  simp [leaf child fk mem] at refers

theorem exec_deleteLeaf (leaf : ∀ child, ∀ fk ∈ foreignKeys child, fk.parent ≠ t) (id : String) :
    (Statement.delete t id).exec db =
      if (db.find t id).isSome then .ok (1, db.set t (Keyed.remove (rowKey t) (key id) (db t)))
      else .ok (0, db) := by
  have same : (fun child => (db child).map (nullify t id child)) = db := by
    funext child
    exact List.map_id'' (nullify_leaf leaf id child) (db child)
  cases found : db.find t id with
  | none => simp [Statement.exec, found]
  | some r => simp [Statement.exec, found, restricted_leaf leaf, same]

/-! ## The shared shapes -/

def RowProg.serves (body : RowProg t) (db : Db) : Except Exn Response × Db :=
  let ended := body.outcome (rowSchema t db) (db t) (db t)
  (ended.1, db.set t ended.2)

omit [Collation] in
theorem set_rows (db : Db) (t : Table) : db.set t (db t) = db := Function.update_eq_self t db

theorem put_found {id : String} {r r' : Row t} (same : rowKey t r' = key id)
    (found : db.find t id = some r) :
    (Write.put r').apply (rowSchema t db) (db t) = Keyed.replace (rowKey t) r' (db t) := by
  have stays : (Keyed.lookup (rowKey t) (rowKey t r') (db t)).isSome = true := by
    rw [same]
    exact Option.isSome_of_eq_some found
  exact if_pos stays

theorem createRow_serves (plain : uniques t = []) (record : Row t) :
    (respond (fun r => .row t (some r)) (createRow t record)).run db =
      RowProg.serves (insertSteps t record) db := by
  have newKey : (rowSchema t db).newKey = rowKey t := rfl
  rw [respond_run, createRow_run]
  simp only [RowProg.serves, insertSteps, Prog.outcome, Prog.run, Stmt.exec, rowSchema_key,
    rowSchema_insert, Stmt.key, newKey]
  rcases exec_admitRow db plain record with ⟨e, admitted, exec⟩ | ⟨r, admitted, exec⟩
  · simp only [admitted, exec, Except.map, set_rows]
    rfl
  · obtain ⟨-, free, -, stored⟩ := admitRow_ok admitted
    have absent : Keyed.lookup (rowKey t) (rowKey t r) (db t) = none := by
      rw [stored, rowKey_store]
      exact Option.not_isSome_iff_eq_none.mp (by rw [free]; decide)
    simp only [admitted, exec, Except.map, Write.apply, rowSchema_key, absent, Option.isSome_none]
    rfl

theorem delete_serves (leaf : ∀ child, ∀ fk ∈ foreignKeys child, fk.parent ≠ t) (id missing : String) :
    (respond (fun _ => .empty) (deleteOrMissing guarded (deleteRow t id) missing)).run db =
      RowProg.serves (deleteSteps t id missing) db := by
  rw [respond_run, deleteOrMissing_run, exec_deleteLeaf leaf]
  simp only [RowProg.serves, deleteSteps, Prog.outcome, Prog.run, Stmt.key, rowSchema_key]
  have found : Keyed.lookup (rowKey t) (key id) (db t) = db.find t id := rfl
  rw [found]
  cases db.find t id with
  | none => simp [Stmt.exec, Prog.run, Except.map, set_rows]
  | some r => simp [Stmt.exec, Prog.run, Except.map, Write.apply]

theorem update_serves (valid : db.Valid) {change : Change t} (assigns : change.assigns t = true)
    (selects : ∀ r, change.selects t r = true)
    (columns : ∀ r, store t r = r → ∀ column ∈ uniques t,
      column (store t (change.apply t r)) = column r)
    (references : ∀ r, store t r = r → ∀ fk ∈ foreignKeys t,
      fk.column (store t (change.apply t r)) = fk.column r)
    (id missing : String) :
    (respond (.row t) (updateThenGet (updateRow t id change) (getRow t id) missing)).run db =
      RowProg.serves (updateSteps t id change missing) db := by
  have reads (db : Db) : (getRow t id).run db = .ok ((db.find t id).map fun r => r, db) := by
    simp [getRow, Sql.run]
  have current : Keyed.lookup (rowKey t) (key id) (db t) = db.find t id := rfl
  rw [respond_run, updateThenGet_run reads]
  simp only [RowProg.serves, updateSteps, Prog.outcome, Prog.run, Stmt.key, rowSchema_key, current]
  cases found : db.find t id with
  | none =>
      rw [exec_missing assigns found]
      simp [Stmt.exec, Prog.run, Except.map, set_rows]
  | some r =>
      rcases exec_changeRow valid assigns selects columns references found with
        ⟨e, changed, exec⟩ | ⟨changed, exec⟩ | ⟨r', changed, exec⟩
      · simp only [exec, Stmt.exec, rowSchema_update, changed, Except.map, set_rows]
        rfl
      · simp [exec, Stmt.exec, changed, Prog.run, Except.map, set_rows]
      · have same : rowKey t r' = key id := (changeRow_key changed).trans (Db.find_key found)
        have write := put_found same found
        simp [exec, Stmt.exec, changed, Prog.run, Except.map, write, Db.updated, Db.find]

theorem changeRow_card {c : Card} (valid : db.Valid) {cardId : String}
    (found : db.find .card cardId = some c) (status : CardStatus) :
    (changeRow .card status c = .ok none ∧
      (Statement.update .card cardId status).exec db = .ok (0, db)) ∨
    ∃ c', changeRow .card status c = .ok (some c') ∧
      (Statement.update .card cardId status).exec db = .ok (1, db.updated .card c') := by
  have exec := exec_cardStatus valid found status
  have columns (r : Card) (stored : store .card r = r) : ∀ column ∈ uniques .card,
      column (store .card (Change.apply .card status r)) = column r := by
    intro column mem
    obtain rfl := List.mem_singleton.mp mem
    rw [store, Card.mk.injEq] at stored
    exact stored.2.2.2.1
  have references (r : Card) (stored : store .card r = r) : ∀ fk ∈ foreignKeys .card,
      fk.column (store .card (Change.apply .card status r)) = fk.column r := by
    intro fk mem
    obtain rfl := List.mem_singleton.mp mem
    rw [store, Card.mk.injEq] at stored
    exact congrArg some stored.2.1
  rcases exec_changeRow valid rfl (fun _ => rfl) columns references found with
    ⟨e, -, refused⟩ | done | done
  · rw [refused] at exec
    split at exec <;> cases exec
  · exact Or.inl done
  · exact Or.inr done

theorem ensureOwned_cases (cardId : String) (actor : Actor) (db : Db) :
    (∃ error message, (CardService.ensureOwned cardId actor).run db = .error (.app error message)) ∨
    ∃ c, db.find .card cardId = some c ∧
      (CardService.ensureOwned cardId actor).run db = .ok ((), db) := by
  rw [ensureOwned_run]
  cases found : db.find .card cardId with
  | none => exact Or.inl ⟨_, _, rfl⟩
  | some c =>
      rw [Option.bind_some]
      cases db.find .account c.accountId with
      | none => exact Or.inl ⟨_, _, rfl⟩
      | some a =>
          cases passed : ensureOwnerOrAdmin actor (some a.customerId) with
          | ok _ => exact Or.inr ⟨c, rfl, by simp only [passed]⟩
          | error e =>
              have refusal : ∃ error message, e = .app error message := by
                unfold ensureOwnerOrAdmin at passed
                split at passed
                · cases passed
                split at passed
                · cases passed
                  exact ⟨_, _, rfl⟩
                · cases passed
              obtain ⟨error, message, rfl⟩ := refusal
              exact Or.inl ⟨error, message, by simp only [passed]⟩

theorem cardStatus_serves (valid : db.Valid) (cardId : String) (status : CardStatus) (actor : Actor) :
    (respond .card (CardService.setStatus cardId status actor)).run db =
      RowProg.serves (cardStatusSteps db cardId status actor) db := by
  have current : Keyed.lookup (rowKey .card) (key cardId) (db .card) = db.find .card cardId := rfl
  rw [respond_run]
  simp only [CardService.setStatus, guarded, Service.run, Sql.run_bind, RowProg.serves,
    cardStatusSteps, Prog.outcome, Prog.run, set_rows]
  rcases ensureOwned_cases cardId actor db with ⟨error, message, refused⟩ | ⟨c, found, owned⟩
  · rw [refused]
    simp only [Prog.run, Except.map, set_rows]
    rfl
  · rw [owned]
    simp only [Cards.setStatus, updateRow, Sql.run, Cards.get, showCard, Prog.run, Stmt.key,
      rowSchema_key, current, found]
    rcases changeRow_card valid found status with ⟨changed, exec⟩ | ⟨c', changed, exec⟩
    · simp only [exec, Stmt.exec, rowSchema_update, changed, Except.map, Option.map_none, set_rows,
        found]
    · have same : rowKey .card c' = key cardId := (changeRow_key changed).trans (Db.find_key found)
      have write : (Write.put c').apply (rowSchema .card db) (db .card) =
          Keyed.replace (rowKey .card) c' (db .card) := put_found same found
      simp only [exec, Stmt.exec, rowSchema_update, changed, Except.map, Option.map_some, write,
        Db.updated, Db.find, Db.set_same]

/-! ## The calls -/

omit [Collation] in
theorem leaf_card : ∀ child, ∀ fk ∈ foreignKeys child, fk.parent ≠ .card := by
  intro child
  cases child <;> simp [foreignKeys]

omit [Collation] in
theorem leaf_ticket : ∀ child, ∀ fk ∈ foreignKeys child, fk.parent ≠ .customerSupport := by
  intro child
  cases child <;> simp [foreignKeys]

theorem cardCall_serves [Werkzeug] (valid : db.Valid) (call : CardCall) (env : Env) :
    (call.operation.serve env).run db = RowProg.serves (call.steps db) db := by
  cases call with
  | setStatus cardId status actor => exact cardStatus_serves valid cardId status actor
  | delete cardId => exact delete_serves leaf_card cardId _

theorem ticketCall_serves [Werkzeug] (valid : db.Valid) (call : TicketCall) (env : Env) :
    (call.operation.serve env).run db = RowProg.serves (call.steps env) db := by
  cases call with
  | create customerId employeeId issueDescription => exact createRow_serves rfl _
  | setStatus ticketId status =>
      refine update_serves valid rfl (fun _ => rfl) (by simp [uniques]) ?_ ticketId _
      intro r stored fk mem
      rw [store, Ticket.mk.injEq] at stored
      simp only [foreignKeys, List.mem_cons, List.not_mem_nil, or_false] at mem
      rcases mem with rfl | rfl
      · exact congrArg some stored.2.1
      · exact congrArg some stored.2.2.1
  | delete ticketId => exact delete_serves leaf_ticket ticketId _

theorem serves_alone {ι : Type} [Fintype ι] [DecidableEq ι] (bodies : ι → RowProg t) (i : ι) :
    ∃ m, (Snapshot.start (db t)).begin i (bodies i) = some m ∧
      Relation.ReflTransGen (fun m m' => m.step (rowSchema t db) i = some m') m
        (m.finish i (RowProg.serves (bodies i) db).1 ((RowProg.serves (bodies i) db).2 t)) := by
  refine ⟨_, rfl, ?_⟩
  have alone := runs_alone (S := rowSchema t db) (bodies i) 
    (phases_goto (m := Snapshot.start (db t)) (i := i) (.running ⟨none, [], [], bodies i⟩)) ?_ rfl
  · simp only [RowProg.serves, Db.set_same]
    exact alone
  · intro j other
    rw [phases_goto_other _ other]
    rfl

end

end Corebank
