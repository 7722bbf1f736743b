import Corebank.Operations

/-! # Existence decided by the number of changed rows -/

namespace Corebank
open Library

section
variable [Collation]

/-! ## The law -/

/-- `NotFoundError` is raised exactly when the row is missing, and a request that went through
goes through again with the same answer. -/
def UpdateLaw {α : Type} (first second : Service α) (db : Db) (missing : Prop) : Prop :=
  ((∃ message, (first.run db).1 = .error (.app .notFound message)) ↔ missing) ∧
  ∀ a, (first.run db).1 = .ok a → (second.run (first.run db).2).1 = .ok a

theorem updateLaw_respond {α : Type} {f : α → Response} (injective : ∀ a b, f a = f b → a = b)
    {first second : Service α} {db : Db} {missing : Prop} :
    UpdateLaw (respond f first) (respond f second) db missing ↔
      UpdateLaw first second db missing := by
  simp only [UpdateLaw, respond_run]
  refine and_congr ?_ ?_
  · cases (first.run db).1 <;> simp [Except.map]
  · cases (first.run db).1 with
    | error e => simp [Except.map]
    | ok a =>
        cases (second.run (first.run db).2).1 with
        | error e => simp [Except.map]
        | ok b =>
            simp only [Except.map, Except.ok.injEq, forall_eq']
            exact ⟨fun h => injective _ _ h, fun h => by rw [h]⟩

theorem updateLaw_refused {α : Type} {e : Exn} (other : ∀ message, e ≠ .app .notFound message)
    {second : Service α} {db : Db} {missing : Prop} :
    UpdateLaw (.raise e) second db missing ↔ ¬missing := by
  simp [UpdateLaw, Service.run, other]

/-! ## What an UPDATE and its read-back answer -/

def updated (t : Table) (change : Change t) (r : Row t) : Row t := store t (change.apply t r)

def Rejected (db : Db) (t : Table) (change : Change t) (r : Row t) : Prop :=
  misfit t (change.apply t r) ≠ none ∨
    updated t change r ≠ r ∧
      verify db t (updated t change r) (db.others t (updated t change r)) ≠ none

def Db.updated (db : Db) (t : Table) (r : Row t) : Db :=
  db.set t (Keyed.replace (rowKey t) r (db t))

omit [Collation] in
theorem integrityGuard_notFound (e : DriverError) (message : String) :
    integrityGuard (.driver e) ≠ .app .notFound message := by
  unfold integrityGuard
  dsimp only
  repeat' split
  all_goals simp

section
variable {t : Table} {id : String} {change : Change t} {db : Db} (assigns : change.assigns t = true)
include assigns

theorem exec_missing (missing : db.find t id = none) :
    (Statement.update t id change).exec db = .ok (0, db) := by
  simp [Statement.exec, assigns, missing]

variable {r : Row t} (found : db.find t id = some r) (selects : change.selects t r = true)
include found selects

theorem exec_rejected (rejected : Rejected db t change r) :
    ∃ e, (Statement.update t id change).exec db = .error e := by
  simp only [Statement.exec, assigns, found, selects, Bool.not_true, Bool.false_eq_true, if_false]
  cases fits : misfit t (change.apply t r) with
  | some e => exact ⟨e, rfl⟩
  | none =>
      obtain ⟨changed, refused⟩ := rejected.resolve_left (· fits)
      obtain ⟨e, refused⟩ := Option.ne_none_iff_exists'.mp refused
      unfold updated at changed refused
      exact ⟨e, by simp [changed, refused]⟩

theorem exec_unchanged (accepted : ¬Rejected db t change r) (same : updated t change r = r) :
    (Statement.update t id change).exec db = .ok (0, db) := by
  have fits : misfit t (change.apply t r) = none := by
    by_contra misfits
    exact accepted (Or.inl misfits)
  unfold updated at same
  simp [Statement.exec, assigns, found, selects, fits, same]

theorem exec_changed (accepted : ¬Rejected db t change r) (changed : updated t change r ≠ r) :
    (Statement.update t id change).exec db = .ok (1, db.updated t (updated t change r)) := by
  have fits : misfit t (change.apply t r) = none := by
    by_contra misfits
    exact accepted (Or.inl misfits)
  have verified : verify db t (updated t change r) (db.others t (updated t change r)) = none := by
    by_contra refused
    exact accepted (Or.inr ⟨changed, refused⟩)
  unfold updated at changed verified
  simp [Statement.exec, assigns, found, selects, fits, changed, verified, Db.updated, updated]

end

theorem verify_kept {db : Db} (valid : db.Valid) {t : Table} {r r' : Row t} (mem : r ∈ db t)
    (ids : rowKey t r' = rowKey t r) (columns : ∀ column ∈ uniques t, column r' = column r)
    (references : ∀ fk ∈ foreignKeys t, fk.column r' = fk.column r) (checked : checks t r' = true) :
    verify db t r' (db.others t r') = none := by
  refine verify_eq_none.mpr ⟨checked, fun o other => ?_, ?_⟩
  · obtain ⟨ho, ne⟩ := List.mem_filter.mp other
    have apart : rowKey t o ≠ rowKey t r := by simpa [ids] using ne
    simp only [clashes, ids, apart, decide_false, Bool.false_or, List.any_eq_false, decide_eq_true_eq]
    intro column unique same
    rw [columns column unique] at same
    exact apart (congrArg (rowKey t)
      (List.inj_on_of_nodup_map (valid.uniques t column unique) ho mem same))
  · simp only [missingReference, List.any_eq_false]
    intro fk foreign missing
    rw [references fk foreign] at missing
    cases referred : fk.column r with
    | none => simp [referred] at missing
    | some id =>
        have found := valid.references t r mem fk foreign id referred
        simp [referred, Option.isSome_iff_ne_none.mp found] at missing

theorem exec_cardStatus {db : Db} (valid : db.Valid) {id : String} {r : Card}
    (found : db.find .card id = some r) (status : CardStatus) :
    (Statement.update .card id status).exec db =
      if r.status = status then .ok (0, db)
      else .ok (1, db.updated .card { r with status := status }) := by
  obtain ⟨fits, stored⟩ := valid.fits .card r (Db.find_mem found)
  have row : updated .card status r = { r with status := status } := by
    calc updated .card status r = { store .card r with status := status } := rfl
      _ = { r with status := status } := by rw [stored]
  have same : updated .card status r = r ↔ r.status = status := by
    rw [row]
    constructor
    · intro h
      rw [← h]
    · rintro rfl
      rfl
  have accepted : ¬Rejected db .card status r := by
    rintro (misfits | ⟨-, refused⟩)
    · exact misfits fits
    · rw [row] at refused
      exact refused (verify_kept valid (Db.find_mem found) rfl (by simp [uniques]) (by simp [foreignKeys])
        rfl)
  by_cases kept : r.status = status
  · rw [if_pos kept]
    exact exec_unchanged rfl found rfl accepted (same.mpr kept)
  · rw [if_neg kept, ← row]
    exact exec_changed rfl found rfl accepted (mt same.mp kept)

theorem find_updated {db : Db} {t : Table} {id : String} {r : Row t} (found : db.find t id = some r)
    (change : Change t) :
    (db.updated t (updated t change r)).find t id = some (updated t change r) := by
  have same : rowKey t (updated t change r) = key id := by
    rw [updated, rowKey_store, rowKey_apply]
    exact Db.find_key found
  rw [Db.find, Db.updated, Db.set_same, ← same]
  exact Keyed.lookup_replace_self (by rw [same]; exact Option.isSome_of_eq_some found)

theorem createRow_run {t : Table} {record : Row t} {db : Db} :
    (createRow t record).run db =
      match (Statement.insert t record).exec db with
      | .error e => (.error (integrityGuard (.driver e)), db)
      | .ok (_, db') => (.ok record, db') := by
  simp only [createRow, guarded, insertRow, Service.unitOfWork_bind, Service.done_bind,
    Service.pure_eq, Service.run, Sql.run]
  cases (Statement.insert t record).exec db <;> rfl

theorem createRow_ok {t : Table} {record a : Row t} {db db' : Db}
    (run : (createRow t record).run db = (.ok a, db')) :
    a = record ∧ ∃ n, (Statement.insert t record).exec db = .ok (n, db') := by
  rw [createRow_run] at run
  split at run
  · cases run
  · rename_i h
    cases run
    exact ⟨rfl, _, h⟩

theorem respond_ok {α : Type} {f : α → Response} {op : Service α} {db db' : Db} {a : Response}
    (run : (respond f op).run db = (.ok a, db')) : ∃ b, a = f b ∧ op.run db = (.ok b, db') := by
  rw [respond_run] at run
  cases h : op.run db with
  | mk result after =>
      rw [h] at run
      cases result with
      | error e => cases run
      | ok b =>
          cases run
          exact ⟨b, rfl, rfl⟩

theorem createCard_ok {env : Env} {data : CardData} {db db' : Db} {c : Option SafeCard}
    (run : (CardService.create env data).run db = (.ok c, db')) :
    ∃ n, (Statement.insert .card (CardService.record env data)).exec db = .ok (n, db') ∧
      c = (db'.find .card env.newId).map Card.safeColumns := by
  simp only [CardService.create, guarded, readOnly, Cards.insert, insertRow,
    Service.unitOfWork_bind, Service.done_bind, Service.run, Sql.run] at run
  cases h : (Statement.insert .card (CardService.record env data)).exec db with
  | error e =>
      rw [h] at run
      cases run
  | ok result =>
      rw [h] at run
      cases run
      exact ⟨_, rfl, rfl⟩

theorem deleteOrMissing_run {t : Table} {id missing : String} {db : Db} :
    (deleteOrMissing guarded (deleteRow t id) missing).run db =
      match (Statement.delete t id).exec db with
      | .error e => (.error (integrityGuard (.driver e)), db)
      | .ok (n, db') =>
          if n = 0 then (.error (.app .notFound missing), db) else (.ok (), db') := by
  simp only [deleteOrMissing, guarded, deleteRow, Sql.execute_bind, Sql.done_bind, Service.run, Sql.run]
  cases (Statement.delete t id).exec db with
  | error e => rfl
  | ok result =>
      obtain ⟨n, db'⟩ := result
      by_cases zero : n = 0
      · simp [zero, Sql.throw, Sql.run, integrityGuard]
      · simp [zero, Sql.run]

section
variable {t : Table} {id missing : String} {β : Type} {get : Sql (Option β)} {view : Row t → β}
  (reads : ∀ db, get.run db = .ok ((db.find t id).map view, db)) {change : Change t} {db : Db}
include reads

theorem updateThenGet_run :
    (updateThenGet (updateRow t id change) get missing).run db =
      match (Statement.update t id change).exec db with
      | .error e => (.error (integrityGuard (.driver e)), db)
      | .ok (n, db') =>
          if n = 0 then (.error (.app .notFound missing), db)
          else (.ok ((db'.find t id).map view), db') := by
  simp only [updateThenGet, guarded, updateRow, Sql.execute_bind, Sql.done_bind, Service.run, Sql.run]
  cases (Statement.update t id change).exec db with
  | error e => rfl
  | ok result =>
      obtain ⟨n, db'⟩ := result
      by_cases zero : n = 0
      · simp [zero, Sql.throw, Sql.run, integrityGuard]
      · simp [zero, reads]

structure Repeats (db : Db) (view : Row t → β) (change again : Change t) (r : Row t) : Prop where
  changed : updated t change r ≠ r
  accepted : ¬Rejected (db.updated t (updated t change r)) t again (updated t change r)
  differs : updated t again (updated t change r) ≠ updated t change r
  alike : view (updated t again (updated t change r)) = view (updated t change r)

theorem updateThenGet_law {again : Change t} (assigns : change.assigns t = true)
    (assignsAgain : again.assigns t = true) (selects : ∀ r, change.selects t r = true)
    (selectsAgain : ∀ r, again.selects t r = true) :
    UpdateLaw (updateThenGet (updateRow t id change) get missing)
        (updateThenGet (updateRow t id again) get missing) db (db.find t id = none) ↔
      ∀ r, db.find t id = some r → Rejected db t change r ∨ Repeats db view change again r := by
  unfold UpdateLaw
  rw [updateThenGet_run reads]
  cases found : db.find t id with
  | none => simp [exec_missing assigns found]
  | some r =>
      by_cases rejected : Rejected db t change r
      · obtain ⟨e, refused⟩ := exec_rejected assigns found (selects r) rejected
        simp [refused, rejected, integrityGuard_notFound]
      by_cases same : updated t change r = r
      · have repeats : ¬Repeats db view change again r := fun repeats => repeats.changed same
        simp [exec_unchanged assigns found (selects r) rejected same, rejected, repeats]
      · have read := find_updated found change
        have repeats : Repeats db view change again r ↔
            ((updateThenGet (updateRow t id again) get missing).run
              (db.updated t (updated t change r))).1 = .ok (some (view (updated t change r))) := by
          rw [updateThenGet_run reads]
          by_cases refused : Rejected (db.updated t (updated t change r)) t again
            (updated t change r)
          · obtain ⟨e, failed⟩ := exec_rejected assignsAgain read (selectsAgain _) refused
            exact iff_of_false (fun repeats => repeats.accepted refused) (by simp [failed])
          by_cases settled : updated t again (updated t change r) = updated t change r
          · refine iff_of_false (fun repeats => repeats.differs settled) ?_
            simp [exec_unchanged assignsAgain read (selectsAgain _) refused settled]
          · rw [exec_changed assignsAgain read (selectsAgain _) refused settled]
            simp only [one_ne_zero, if_false, find_updated read again, Option.map_some,
              Except.ok.injEq, Option.some.injEq]
            exact ⟨fun repeats => repeats.alike, fun alike => ⟨same, refused, settled, alike⟩⟩
        simp [exec_changed assigns found (selects r) rejected same, read, rejected, repeats]

theorem updateThenGet_law_empty {second : Service (Option β)} (empty : change.assigns t = false) :
    UpdateLaw (updateThenGet (updateRow t id change) get missing) second db
      (db.find t id = none) ↔ (db.find t id).isSome := by
  unfold UpdateLaw
  rw [updateThenGet_run reads]
  simp [Statement.exec, empty, integrityGuard_notFound, Option.isSome_iff_ne_none]

end

theorem not_repeats_row {t : Table} {db : Db} {change again : Change t} {r : Row t} :
    ¬Repeats db id change again r :=
  fun repeats => repeats.differs repeats.alike

/-! ## Users

A password is hashed with a salt of the call's own, so a second request changes the row. -/

variable [Werkzeug]

structure PasswordRenewed (env env' : Env) (fields : UserFields) (r : User) (password : String) :
    Prop where
  sent : fields.password = some password
  changed : updated .user (UserService.hashed env fields) r ≠ r
  fresh : varchar 255 (generatePasswordHash env'.salt password) ≠
    varchar 255 (generatePasswordHash env.salt password)
  fits : varcharMisfit 255 (generatePasswordHash env'.salt password) = none

omit [Collation] in
theorem user_updated_again (env env' : Env) (fields : UserFields) (r : User) :
    updated .user (UserService.hashed env' fields) (updated .user (UserService.hashed env fields) r) =
      { updated .user (UserService.hashed env fields) r with
        password := varchar 255 ((fields.password.map (generatePasswordHash env'.salt)).getD
          (varchar 255 ((fields.password.map (generatePasswordHash env.salt)).getD r.password))) } := by
  have again {α : Type} {f : α → α} (idem : ∀ a, f (f a) = f a) (o : Option α) (x : α) :
      f (o.getD (f (o.getD x))) = f (o.getD x) := by
    cases o <;> simp [idem]
  have strip : ∀ o : Option String, (o.map rstrip).map rstrip = o.map rstrip := by
    intro o
    cases o <;> simp [rstrip_idem]
  have role : fields.role.getD (fields.role.getD r.role) = fields.role.getD r.role := by
    cases fields.role <;> rfl
  simp only [updated, store, Change.apply, UserService.hashed, rstrip_idem, again (varchar_idem 100),
    again strip, role]

omit [Collation] in
theorem user_misfit_again {env env' : Env} {fields : UserFields} {r : User}
    (fits : misfit .user (Change.apply .user (UserService.hashed env fields) r) = none) :
    misfit .user (Change.apply .user (UserService.hashed env' fields)
      (updated .user (UserService.hashed env fields) r)) = none ↔
      ∀ password, fields.password = some password →
        varcharMisfit 255 (generatePasswordHash env'.salt password) = none := by
  have owner : ((r.customerId.map rstrip).bind (charMisfit 36)) = r.customerId.bind (charMisfit 36) := by
    cases r.customerId <;> simp [charMisfit_rstrip]
  simp only [misfit, List.findSome?_eq_none_iff, List.forall_mem_cons, id_eq, Change.apply,
    UserService.hashed, updated, store, charMisfit_rstrip] at fits ⊢
  cases username : fields.username <;> cases password : fields.password <;>
    cases customer : fields.customerId <;>
    simp_all [varcharMisfit_varchar]

omit [Werkzeug] in
theorem user_verify_again (db : Db) (r : User) (password : String) :
    verify (db.updated .user r) .user { r with password := password }
        ((db.updated .user r).others .user { r with password := password }) =
      verify db .user r (db.others .user r) := by
  have others : (db.updated .user r).others .user { r with password := password } =
      db.others .user r := by
    simp only [Db.others, Db.updated, Db.set_same]
    exact Keyed.filter_replace r (db .user)
  have references : missingReference (db.updated .user r) .user { r with password := password } =
      missingReference db .user r := by
    simp [missingReference, foreignKeys, Db.find, Db.updated, Db.set_other]
  have clash : clashes .user { r with password := password } = clashes .user r := rfl
  have checked : checks .user { r with password := password } = checks .user r := rfl
  rw [verify, verify, others, references, clash, checked]

theorem user_repeats {db : Db} {env env' : Env} {fields : UserFields} {r : User}
    (accepted : ¬Rejected db .user (UserService.hashed env fields) r) :
    Repeats (t := .user) db User.publicColumns (UserService.hashed env fields)
        (UserService.hashed env' fields) r ↔
      ∃ password, PasswordRenewed env env' fields r password := by
  have fits : misfit .user (Change.apply .user (UserService.hashed env fields) r) = none := by
    by_contra misfits
    exact accepted (Or.inl misfits)
  have again := user_updated_again env env' fields r
  have refit := @user_misfit_again _ env env' fields r fits
  have stored : (updated .user (UserService.hashed env fields) r).password =
      varchar 255 ((fields.password.map (generatePasswordHash env.salt)).getD r.password) := rfl
  constructor
  · rintro ⟨changed, accepted', differs, -⟩
    rw [again] at differs
    cases sent : fields.password with
    | none =>
        refine absurd ?_ differs
        rw [sent, Option.map_none, Option.getD_none] at stored ⊢
        rw [Option.map_none, Option.getD_none, varchar_idem, ← stored]
    | some password =>
        refine ⟨password, sent, changed, fun same => differs ?_, ?_⟩
        · rw [sent, Option.map_some, Option.getD_some] at stored ⊢
          rw [same, ← stored]
        · by_contra unfit
          exact accepted' (Or.inl fun refitted => unfit (refit.mp refitted password sent))
  · rintro ⟨password, sent, changed, fresh, storable⟩
    refine ⟨changed, ?_, ?_, ?_⟩
    · rintro (misfits | ⟨-, refused⟩)
      · refine misfits (refit.mpr fun sent' h => ?_)
        rw [sent] at h
        cases h
        exact storable
      · rw [again, user_verify_again] at refused
        exact accepted (Or.inr ⟨changed, refused⟩)
    · rw [again]
      intro same
      have same := congrArg User.password same
      rw [sent, Option.map_some, Option.getD_some] at stored same
      exact fresh (same.trans stored)
    · rw [again]
      rfl

/-! ## The update operations -/

def Operation.target : Operation → Option (Table × String)
  | .setBalance id _ => some (.account, id)
  | .setLoanStatus id _ => some (.loan, id)
  | .setTicketStatus id _ => some (.customerSupport, id)
  | .updateCustomer id _ _ => some (.customer, id)
  | .updateBranch id _ => some (.branch, id)
  | .updateEmployee id _ => some (.employee, id)
  | .updateUser id _ => some (.user, id)
  | .updateCreditScore id _ => some (.creditScore, id)
  | _ => none

def Operation.KeepsUpdateLaw (op : Operation) (env env' : Env) (db : Db) : Prop :=
  ∀ t id, op.target = some (t, id) →
    UpdateLaw (op.serve env) (op.serve env') db (db.find t id = none)

/-- A request that assigns something finds no row, or one the database refuses to change to it;
one that assigns nothing finds a row. -/
def Settled (db : Db) (t : Table) (id : String) (change : Change t) : Prop :=
  if change.assigns t then ∀ r, db.find t id = some r → Rejected db t change r
  else (db.find t id).isSome

def UserSettled (env env' : Env) (db : Db) (id : String) (fields : UserFields) : Prop :=
  if Change.assigns .user (UserService.hashed env fields) then
    ∀ r, db.find .user id = some r → Rejected db .user (UserService.hashed env fields) r ∨
      ∃ password, PasswordRenewed env env' fields r password
  else (db.find .user id).isSome

def Operation.Settles (env env' : Env) (db : Db) : Operation → Prop
  | .setBalance id balance =>
      match quantize balance with
      | .ok cents => Settled db .account id (.setBalance cents)
      | .error _ => (db.find .account id).isSome
  | .setLoanStatus id status => Settled db .loan id status
  | .setTicketStatus id status =>
      Settled db .customerSupport id ⟨status, if status = .resolved then some env.utcnow else none⟩
  | .updateCustomer id fields actor =>
      match ensureOwnerOrAdmin actor (some id) with
      | .ok () => Settled db .customer id fields
      | .error _ => (db.find .customer id).isSome
  | .updateBranch id fields => Settled db .branch id fields
  | .updateEmployee id fields => Settled db .employee id fields
  | .updateUser id fields => UserSettled env env' db id fields
  | .updateCreditScore id fields => Settled db .creditScore id fields
  | _ => True

omit [Werkzeug] in
theorem getRow_law {t : Table} {id missing : String} {change again : Change t} {db : Db}
    (alike : again.assigns t = change.assigns t) (selects : ∀ r, change.selects t r = true)
    (selectsAgain : ∀ r, again.selects t r = true) :
    UpdateLaw (updateThenGet (updateRow t id change) (getRow t id) missing)
        (updateThenGet (updateRow t id again) (getRow t id) missing) db (db.find t id = none) ↔
      Settled db t id change := by
  have reads (db : Db) : (getRow t id).run db = .ok ((db.find t id).map fun r => r, db) := by
    simp [getRow, Sql.run]
  unfold Settled
  split
  · rename_i assigns
    rw [updateThenGet_law reads assigns (alike.trans assigns) selects selectsAgain]
    exact forall₂_congr fun r _ => or_iff_left not_repeats_row
  · rename_i empty
    exact updateThenGet_law_empty reads (by simpa using empty)

theorem userUpdate_law (env env' : Env) (id : String) (fields : UserFields) (db : Db) :
    UpdateLaw (UserService.update env id fields) (UserService.update env' id fields) db
        (db.find .user id = none) ↔ UserSettled env env' db id fields := by
  have reads (db : Db) : (Users.get id).run db =
      .ok ((db.find .user id).map User.publicColumns, db) := rfl
  have alike : Change.assigns .user (UserService.hashed env' fields) =
      Change.assigns .user (UserService.hashed env fields) := by
    rw [Bool.eq_iff_iff]
    cases sent : fields.password <;> simp [Change.assigns, UserService.hashed, sent]
  unfold UserSettled
  split
  · rename_i assigns
    refine (updateThenGet_law reads assigns (alike.trans assigns) (fun _ => rfl) fun _ => rfl).trans
      (forall₂_congr fun r _ => ?_)
    by_cases rejected : Rejected db .user (UserService.hashed env fields) r
    · simp [rejected]
    · rw [user_repeats rejected]
  · rename_i empty
    exact updateThenGet_law_empty reads (Bool.not_eq_true _ ▸ empty)

theorem keepsUpdateLaw_iff (op : Operation) (env env' : Env) (db : Db) :
    op.KeepsUpdateLaw env env' db ↔ op.Settles env env' db := by
  have row {t : Table} (a b : Option (Row t)) (h : Response.row t a = .row t b) : a = b := by
    cases h
    rfl
  have missing (t : Table) (id : String) : ¬db.find t id = none ↔ (db.find t id).isSome := by
    rw [Option.isSome_iff_ne_none]
  have single {t : Table} {id : String} {law : Table → String → Prop} :
      (∀ t' id', some (t, id) = some (t', id') → law t' id') ↔ law t id := by
    simp
  unfold Operation.KeepsUpdateLaw
  cases op with
  | setLoanStatus | setTicketStatus | updateBranch | updateEmployee | updateCreditScore =>
      refine single.trans ((updateLaw_respond row).trans (getRow_law ?_ (fun _ => rfl) fun _ => rfl))
      rfl
  | updateUser id fields =>
      refine single.trans ((updateLaw_respond ?_).trans (userUpdate_law env env' id fields db))
      exact fun a b h => Response.user.inj h
  | setBalance id balance =>
      refine single.trans ?_
      simp only [Operation.serve, AccountService.setBalance, Operation.Settles]
      rw [updateLaw_respond row]
      cases rounded : quantize balance with
      | error e =>
          refine (updateLaw_refused fun message h => ?_).trans (missing .account id)
          subst h
          unfold quantize at rounded
          split at rounded <;> cases rounded
      | ok cents => exact getRow_law rfl (fun _ => rfl) fun _ => rfl
  | updateCustomer id fields actor =>
      refine single.trans ?_
      simp only [Operation.serve, CustomerService.update, Operation.Settles]
      rw [updateLaw_respond row]
      cases access : ensureOwnerOrAdmin actor (some id) with
      | error e =>
          refine (updateLaw_refused fun message h => ?_).trans (missing .customer id)
          subst h
          unfold ensureOwnerOrAdmin at access
          split at access
          · cases access
          · split at access <;> cases access
      | ok _ => exact getRow_law rfl (fun _ => rfl) fun _ => rfl
  | _ => simp [Operation.target, Operation.Settles]

end

attribute [local instance] foldCase clearText

/-- Setting the balance an account has already is answered with 404. -/
theorem unchanged_balance_not_found : Reachable opened ∧ (opened.find .account "a-1").isSome ∧
    ((AccountService.setBalance "a-1" ⟨100, 0⟩).run opened).1 =
      .error (.app .notFound "Account not found") ∧
    ¬(Operation.setBalance "a-1" ⟨100, 0⟩).KeepsUpdateLaw (noon "") (noon "") opened := by
  have answer : ((AccountService.setBalance "a-1" ⟨100, 0⟩).run opened).1 =
      .error (.app .notFound "Account not found") := by
    decide +kernel
  have found : (opened.find .account "a-1").isSome := by decide +kernel
  refine ⟨reachable_opened, found, answer, fun law => ?_⟩
  have missing := (law .account "a-1" rfl).1.mp ⟨"Account not found", by
    rw [Operation.serve, respond_run, answer]
    rfl⟩
  rw [missing] at found
  cases found

end Corebank
