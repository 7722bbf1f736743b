import Corebank.Proof.Updates
import Mathlib.Data.List.Forall2

/-! # Login and the book of credentials -/

namespace Corebank
open Library

/-! ## The book -/

/-- A user as the calls last described it: the clear password, the customer as it was sent. -/
structure Entry where
  userId : String
  username : String
  password : String
  role : Role
  customerId : Option String
  deriving DecidableEq, Repr

def Entry.amended (e : Entry) (fields : UserFields) : Entry :=
  { e with
    username := fields.username.getD e.username, password := fields.password.getD e.password,
    role := fields.role.getD e.role, customerId := fields.customerId.getD e.customerId }

section
variable [Collation]

def Entry.opens (e : Entry) (username password : String) : Bool :=
  key e.username = key username && e.password = password

def Entry.claims (e : Entry) : Actor := ⟨rstrip e.userId, e.role, e.customerId.map rstrip⟩

/-- What a call that succeeded writes into the book. -/
def enter (env : Env) (book : List Entry) : Operation → List Entry
  | .createUser data =>
      book ++ [⟨env.newId, data.username, data.password, data.role, data.customerId⟩]
  | .updateUser userId fields =>
      book.map fun e => if key e.userId = key userId then e.amended fields else e
  | .deleteUser userId => book.filter fun e => key e.userId ≠ key userId
  | _ => book

variable [Werkzeug]

def bookAfter : List (Operation × Env) → Db → List Entry → List Entry
  | [], _, book => book
  | call :: calls, db, book =>
      let ran := (call.1.serve call.2).run db
      bookAfter calls ran.2 (if ran.1.isOk then enter call.2 book call.1 else book)

/-! ## The user table and the book -/

omit [Collation] in
/-- What is assumed of `werkzeug.security`; a hash ends in a hexadecimal digit. -/
structure PasswordHashing : Prop where
  exact : ∀ salt p q, checkPasswordHash (generatePasswordHash salt p) q = true ↔ p = q
  trimmed : ∀ salt p, rstrip (generatePasswordHash salt p) = generatePasswordHash salt p

structure Describes (r : User) (e : Entry) : Prop where
  userId : r.userId = rstrip e.userId
  username : key r.username = key e.username
  password : ∀ q, checkPasswordHash r.password q = true ↔ e.password = q
  role : r.role = e.role
  customerId : r.customerId = e.customerId.map rstrip

def Booked (db : Db) (book : List Entry) : Prop := List.Forall₂ Describes (db .user) book

omit [Collation] [Werkzeug] in
theorem rstrip_varchar {n : Nat} {s : String} (fits : varcharMisfit n s = none) :
    rstrip (varchar n s) = rstrip s := by
  have spaces : ∀ c ∈ (s.toList.drop n).reverse, decide (c = ' ') = true := by
    unfold varcharMisfit at fits
    split at fits
    · rename_i all
      simpa using all
    · cases fits
  have split : s.toList.reverse = (s.toList.drop n).reverse ++ (s.toList.take n).reverse := by
    rw [← List.reverse_append, List.take_append_drop]
  rw [rstrip, rstrip, split, List.dropWhile_append_of_pos spaces, varchar, String.toList_ofList]

omit [Werkzeug] in
theorem key_varchar {n : Nat} {s : String} (fits : varcharMisfit n s = none) :
    key (varchar n s) = key s := by
  rw [← key_rstrip, rstrip_varchar fits, key_rstrip]

omit [Collation] [Werkzeug] in
theorem varchar_trimmed {n : Nat} {s : String} (fits : varcharMisfit n s = none)
    (trimmed : rstrip s = s) : varchar n s = s := by
  have kept : rstrip (varchar n s) = s := (rstrip_varchar fits).trans trimmed
  have shorter : s.toList.length ≤ (s.toList.take n).length := by
    have lengths := congrArg (fun s => s.toList.length) kept
    simp only [rstrip, varchar, String.toList_ofList, List.length_reverse] at lengths
    rw [← lengths, ← @List.length_reverse _ (s.toList.take n)]
    exact (List.dropWhile_sublist _).length_le
  rw [varchar, List.take_of_length_le (by rw [List.length_take] at shorter; omega),
    String.ofList_toList]

/-! ## What the user statements do to it -/

section
variable {db db' : Db} {book : List Entry} {n : Nat}

omit [Collation] [Werkzeug] in
theorem user_columns {r : User} (fits : misfit .user r = none) :
    varcharMisfit 100 r.username = none ∧ varcharMisfit 255 r.password = none := by
  simp only [misfit, List.findSome?_eq_none_iff, List.forall_mem_cons, id_eq] at fits
  exact ⟨fits.2.1, fits.2.2.1⟩

theorem insert_describes (hashing : PasswordHashing) {env : Env} {data : UserData}
    (fits : misfit .user (UserService.record env data) = none) :
    Describes (store .user (UserService.record env data))
      ⟨env.newId, data.username, data.password, data.role, data.customerId⟩ := by
  obtain ⟨username, password⟩ := user_columns fits
  refine ⟨rfl, key_varchar username, fun q => ?_, rfl, rfl⟩
  have kept : (store .user (UserService.record env data)).password =
      generatePasswordHash env.salt data.password := varchar_trimmed password (hashing.trimmed _ _)
  rw [kept]
  exact hashing.exact env.salt data.password q

theorem amend_describes (hashing : PasswordHashing) {env : Env} {r : User} {e : Entry}
    (same : Describes r e) (stored : store .user r = r) {fields : UserFields}
    (fits : misfit .user (Change.apply .user (UserService.hashed env fields) r) = none) :
    Describes (store .user (Change.apply .user (UserService.hashed env fields) r))
      (e.amended fields) := by
  obtain ⟨username, password⟩ := user_columns fits
  have columns : varchar 255 r.password = r.password ∧ r.customerId.map rstrip = r.customerId := by
    rw [store, User.mk.injEq] at stored
    exact ⟨stored.2.2.1, stored.2.2.2.2⟩
  refine ⟨?_, (key_varchar username).trans ?_, fun q => ?_, ?_, ?_⟩
  · rw [Entry.amended, ← rstrip_idem, ← same.userId]
    rfl
  · cases named : fields.username with
    | none => simpa [Change.apply, UserService.hashed, Entry.amended, named] using same.username
    | some name => simp [Change.apply, UserService.hashed, Entry.amended, named]
  · cases secret : fields.password with
    | none =>
        have kept : (store .user (Change.apply .user (UserService.hashed env fields) r)).password =
            r.password := by
          simp [store, Change.apply, UserService.hashed, secret, columns.1]
        rw [kept]
        simpa [Entry.amended, secret] using same.password q
    | some p =>
        have hash : (Change.apply .user (UserService.hashed env fields) r).password =
            generatePasswordHash env.salt p := by
          simp [Change.apply, UserService.hashed, secret]
        have kept : (store .user (Change.apply .user (UserService.hashed env fields) r)).password =
            generatePasswordHash env.salt p := by
          rw [hash] at password
          rw [store, hash, varchar_trimmed password (hashing.trimmed _ _)]
        rw [kept]
        simpa [Entry.amended, secret] using hashing.exact env.salt p q
  · cases given : fields.role with
    | none => simpa [store, Change.apply, UserService.hashed, Entry.amended, given] using same.role
    | some role => simp [store, Change.apply, UserService.hashed, Entry.amended, given]
  · cases given : fields.customerId with
    | none =>
        have kept := columns.2.trans same.customerId
        simpa [store, Change.apply, UserService.hashed, Entry.amended, given] using kept
    | some c => simp [store, Change.apply, UserService.hashed, Entry.amended, given]

theorem describes_key {r : User} {e : Entry} (same : Describes r e) :
    rowKey .user r = key e.userId := by
  rw [rowKey, rowId, same.userId, key_rstrip]

/-! ## Calls -/

def Statement.Spares (t : Table) : Statement → Prop
  | .insert t' _ | .update t' _ _ | .delete t' _ => t ≠ t'

omit [Werkzeug] in
theorem exec_spares {s : Statement} {t : Table} (notLedger : t ≠ .transaction) (spares : s.Spares t)
    (h : s.exec db = .ok (n, db')) : db' t = db t := by
  cases s with
  | insert t' row =>
      obtain ⟨-, -, -, rfl⟩ := exec_insert h
      exact Db.set_other _ _ spares
  | update t' id change =>
      rcases exec_update h with ⟨-, rfl, -⟩ | ⟨r, -, -, -, -, -, -, rfl⟩
      · rfl
      · exact Db.set_other _ _ spares
  | delete t' id =>
      rcases exec_delete h with ⟨-, rfl, -⟩ | ⟨r, -, -, -, rfl⟩
      · rfl
      · rw [Db.set_other _ _ spares]
        exact (List.map_congr_left fun r _ => nullify_other t' id notLedger r).trans (List.map_id _)

omit [Werkzeug] in
theorem spares_run {α : Type} {t : Table} (notLedger : t ≠ .transaction) {op : Service α}
    {ok : Statement → Prop} (issues : op.Issues ok) (spares : ∀ s, ok s → s.Spares t) (db : Db) :
    (op.run db).2 t = db t :=
  Service.run_rel (fun db db' => db' t = db t) (fun _ => rfl) (fun first second => second.trans first)
    (fun s issued _ _ _ h => exec_spares notLedger (spares s issued) h) issues db

theorem booked_insert (hashing : PasswordHashing) (booked : Booked db book) {env : Env}
    {data : UserData}
    (h : (Statement.insert .user (UserService.record env data)).exec db = .ok (n, db')) :
    Booked db' (enter env book (.createUser data)) := by
  obtain ⟨fits, -, -, rfl⟩ := exec_insert h
  rw [Booked, Db.set_same]
  exact List.rel_append booked (.cons (insert_describes hashing fits) .nil)

theorem booked_update (hashing : PasswordHashing) (valid : db.Valid) (booked : Booked db book)
    {env : Env} {id : String} {fields : UserFields}
    (h : (Statement.update .user id (UserService.hashed env fields)).exec db = .ok (n, db'))
    (changed : n ≠ 0) : Booked db' (enter env book (.updateUser id fields)) := by
  rcases exec_update h with ⟨zero, -⟩ | ⟨r, found, -, fits, -, -, -, rfl⟩
  · exact absurd zero changed
  have rows : List.Forall₂ (fun r e => r ∈ db .user ∧ Describes r e) (db .user) book :=
    List.forall₂_and_left _ _ |>.mpr ⟨fun _ mem => mem, booked⟩
  rw [Booked, Db.set_same, Keyed.replace, rowKey_store, rowKey_apply, Db.find_key found]
  refine List.rel_map (fun row e same => ?_) rows
  obtain ⟨mem, same⟩ := same
  by_cases own : rowKey .user row = key id
  · have row_eq : db.find .user id = some row := valid.find_of_mem mem own.symm
    obtain rfl : r = row := Option.some.inj (found.symm.trans row_eq)
    rw [if_pos own, if_pos (describes_key same ▸ own)]
    exact amend_describes hashing same (valid.fits .user r mem).2 fits
  · rw [if_neg own, if_neg (describes_key same ▸ own)]
    exact same

theorem booked_delete (booked : Booked db book) (env : Env) {id : String}
    (h : (Statement.delete .user id).exec db = .ok (n, db')) (changed : n ≠ 0) :
    Booked db' (enter env book (.deleteUser id)) := by
  rcases exec_delete h with ⟨zero, -⟩ | ⟨r, -, -, -, rfl⟩
  · exact absurd zero changed
  rw [Booked, Db.set_same, Keyed.remove]
  refine List.rel_filter (fun row e same => ?_) booked
  simp only [describes_key same]

end

def Operation.isUserCall : Operation → Bool
  | .createUser _ | .updateUser _ _ | .deleteUser _ => true
  | _ => false

omit [Collation] in
theorem writes_spare_users {op : Operation} {env : Env} (other : op.isUserCall = false) :
    ∀ s ∈ op.writes env, s.Spares .user := by
  cases op with
  | createUser | updateUser | deleteUser => cases other
  | setBalance accountId balance =>
      simp only [Operation.writes]
      cases quantize balance <;> simp [Statement.Spares]
  | transfer actor senderId receiverId amount =>
      simp only [Operation.writes]
      cases quantize amount <;> simp [Statement.Spares]
  | _ => simp [Operation.writes, Statement.Spares]

omit [Werkzeug] in
theorem enter_other {op : Operation} (other : op.isUserCall = false) (env : Env)
    (book : List Entry) : enter env book op = book := by
  cases op <;> first | rfl | cases other

theorem call_booked (hashing : PasswordHashing) {db : Db} (valid : db.Valid) {book : List Entry}
    (booked : Booked db book) (op : Operation) (env : Env) :
    Booked ((op.serve env).run db).2
      (if ((op.serve env).run db).1.isOk then enter env book op else book) := by
  cases user : op.isUserCall with
  | false =>
      rw [enter_other user, ite_self, Booked, spares_run (by decide) (operation_issues op env) (writes_spare_users user)]
      exact booked
  | true =>
      cases op with
      | createUser data =>
          have run : (createRow .user (UserService.record env data)).run db = _ := createRow_run
          simp only [Operation.serve, respond_run, UserService.create, Service.run_bind, run]
          cases h : (Statement.insert .user (UserService.record env data)).exec db with
          | error e => exact booked
          | ok result => exact booked_insert hashing booked h
      | updateUser userId fields =>
          have reads (db : Db) : (Users.get userId).run db =
              .ok ((db.find .user userId).map User.publicColumns, db) := rfl
          have run : (updateThenGet (updateRow .user userId (UserService.hashed env fields))
              (Users.get userId) "User not found").run db = _ := updateThenGet_run (t := .user) reads
          simp only [Operation.serve, respond_run, UserService.update, Users.update, run]
          cases h : (Statement.update .user userId (UserService.hashed env fields)).exec db with
          | error e => exact booked
          | ok result =>
              by_cases zero : result.1 = 0
              · simp only [zero, if_true]
                exact booked
              · simp only [zero, if_false]
                exact booked_update hashing valid booked h zero
      | deleteUser userId =>
          simp only [Operation.serve, respond_run, UserService.delete, Users.delete,
            deleteOrMissing_run]
          cases h : (Statement.delete .user userId).exec db with
          | error e => exact booked
          | ok result =>
              by_cases zero : result.1 = 0
              · simp only [zero, if_true]
                exact booked
              · simp only [zero, if_false]
                exact booked_delete booked env h zero
      | _ => cases user

theorem replay_booked (hashing : PasswordHashing) {db : Db} (valid : db.Valid) {book : List Entry}
    (booked : Booked db book) (calls : List (Operation × Env)) :
    Booked (replay calls db) (bookAfter calls db book) ∧ (replay calls db).Valid := by
  induction calls generalizing db book with
  | nil => exact ⟨booked, valid⟩
  | cons call calls ih =>
      exact ih (Service.run_valid _ valid) (call_booked hashing valid booked call.1 call.2)

/-! ## Login -/

omit [Collation] [Werkzeug] in
theorem exists_related {α β : Type} {rel : α → β → Prop} {xs : List α} {ys : List β}
    (all : List.Forall₂ rel xs ys) {y : β} (mem : y ∈ ys) : ∃ x ∈ xs, rel x y := by
  induction all with
  | nil => cases mem
  | cons related _ ih =>
      rcases List.mem_cons.mp mem with rfl | mem
      · exact ⟨_, List.mem_cons_self, related⟩
      · obtain ⟨x, mem, related⟩ := ih mem
        exact ⟨x, List.mem_cons_of_mem _ mem, related⟩

theorem authenticate_run (username password : String) (db : Db) :
    ((AuthService.authenticate username password).run db).1 =
      match (db .user).find? fun u => key u.username = key username with
      | none => .error (.app .auth "Invalid credentials")
      | some user =>
          if checkPasswordHash user.password password then
            .ok ⟨user.userId, user.role, user.customerId⟩
          else .error (.app .auth "Invalid credentials") := by
  simp only [AuthService.authenticate, readOnly, Users.getByUsername, Service.readOnly_bind,
    Service.done_bind, Service.run, Sql.run]
  cases (db .user).find? fun u => key u.username = key username with
  | none => rfl
  | some user =>
      by_cases right : checkPasswordHash user.password password = true
      · simp [right, Service.run]
      · simp [right, raise, Service.run]

theorem authenticate_book (hashing : PasswordHashing) {db : Db} (valid : db.Valid)
    (noUsers : db .user = []) (calls : List (Operation × Env)) (username password : String) :
    (∀ e ∈ bookAfter calls db [], e.opens username password →
      ((AuthService.authenticate username password).run (replay calls db)).1 = .ok e.claims) ∧
    ((∀ e ∈ bookAfter calls db [], e.opens username password = false) →
      ((AuthService.authenticate username password).run (replay calls db)).1 =
        .error (.app .auth "Invalid credentials")) := by
  obtain ⟨booked, valid'⟩ := replay_booked hashing valid (by rw [Booked, noUsers]; exact .nil) calls
  generalize bookAfter calls db [] = book at *
  rw [authenticate_run]
  constructor
  · intro e mem opens
    obtain ⟨r, row, same⟩ := exists_related booked mem
    simp only [Entry.opens, Bool.and_eq_true, decide_eq_true_eq] at opens
    have found : (replay calls db .user).find? (fun u => key u.username = key username) = some r := by
      rw [← opens.1, ← same.username]
      exact Keyed.lookup_of_mem (valid'.uniques .user User.username (by simp [uniques])) row
    have right : checkPasswordHash r.password password = true := (same.password password).mpr opens.2
    simp only [found, right, if_true, Entry.claims, same.userId, same.role, same.customerId]
  · intro closed
    cases found : (replay calls db .user).find? fun u => key u.username = key username with
    | none => rfl
    | some r =>
        obtain ⟨e, mem, same⟩ := exists_related booked.flip (List.mem_of_find?_eq_some found)
        have named : key r.username = key username := by simpa using List.find?_some found
        have wrong : ¬checkPasswordHash r.password password = true := by
          intro right
          have opens : e.opens username password = true := by
            simp [Entry.opens, ← same.username, named, (same.password password).mp right]
          rw [closed e mem] at opens
          cases opens
        simp only [wrong, if_false, Bool.false_eq_true]

end

/-! ## A run -/

section
attribute [local instance] foldCase

/-- Hashes that end in a dollar sign. -/
@[reducible] def dollar : Werkzeug where
  generatePasswordHash _ password := String.ofList (password.toList ++ ['$'])
  checkPasswordHash hash password := hash.toList = password.toList ++ ['$']

attribute [local instance] dollar

theorem dollar_hashing : PasswordHashing where
  exact _ p q := by
    have same : p.toList = q.toList ↔ p = q := String.toList_inj
    simp [checkPasswordHash, generatePasswordHash, same]
  trimmed _ p := by simp [rstrip, generatePasswordHash]

def annSignsUp : List (Operation × Env) :=
  [(.createUser ⟨"ann", "secret", .user, some "ann "⟩, noon "u-1"),
    (.updateUser "u-1" ⟨some "Ann", none, none, none⟩, noon ""),
    (.updateUser "u-1" ⟨none, some "hush", none, none⟩, noon "")]

theorem opened_valid : opened.Valid := @Reachable.valid foldCase clearText _ reachable_opened

theorem authenticate_book_ann :
    ((AuthService.authenticate "ANN" "hush").run (replay annSignsUp opened)).1 =
        .ok ⟨"u-1", .user, some "ann"⟩ ∧
      ((AuthService.authenticate "ann" "secret").run (replay annSignsUp opened)).1 =
        .error (.app .auth "Invalid credentials") := by
  have noUsers : opened .user = [] := by decide +kernel
  exact ⟨(authenticate_book dollar_hashing opened_valid noUsers annSignsUp "ANN" "hush").1
      ⟨"u-1", "Ann", "hush", .user, some "ann "⟩ (by decide +kernel) (by decide +kernel),
    (authenticate_book dollar_hashing opened_valid noUsers annSignsUp "ann" "secret").2 (by decide +kernel)⟩

/-- The customer comes back without the space it was sent with. -/
theorem customer_trimmed : PasswordHashing ∧ opened.Valid ∧ opened .user = [] ∧
    (∀ call ∈ annSignsUp, call.1.isUserCall = true) ∧
    ∃ e ∈ bookAfter annSignsUp opened [], e.opens "ann" "hush" = true ∧
      e.customerId = some "ann " ∧
      ((AuthService.authenticate "ann" "hush").run (replay annSignsUp opened)).1 =
        .ok ⟨"u-1", .user, some "ann"⟩ ∧
      ((AuthService.authenticate "ann" "hush").run (replay annSignsUp opened)).1 ≠
        .ok ⟨e.userId, e.role, e.customerId⟩ :=
  ⟨dollar_hashing, opened_valid, by decide +kernel, by decide, ⟨"u-1", "Ann", "hush", .user, some "ann "⟩,
    by decide +kernel, by decide +kernel, rfl, by decide +kernel, by decide +kernel⟩

end

end Corebank
