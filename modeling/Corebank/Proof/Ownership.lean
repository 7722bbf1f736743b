import Corebank.Api

/-! # Whose row it is, and what the checks on a non-admin call say about it -/

namespace Corebank
open Library

variable [Collation]

/-- The customer `c` of a token, if it names one, is the customer `id`. -/
def Owns (c : Option String) (id : String) : Prop := c.map key = some (key id)

instance (c : Option String) (id : String) : Decidable (Owns c id) :=
  inferInstanceAs (Decidable (_ = _))

def OwnsAccount (c : Option String) (db : Db) (id : String) : Prop :=
  ∃ a ∈ db.find .account id, Owns c a.customerId

instance (c : Option String) (db : Db) (id : String) : Decidable (OwnsAccount c db id) :=
  inferInstanceAs (Decidable (∃ a ∈ db.find .account id, Owns c a.customerId))

theorem owns_congr {c : Option String} {id id' : String} (h : key id = key id') :
    Owns c id ↔ Owns c id' := by
  rw [Owns, h, Owns]

theorem ownsAccount_congr {c : Option String} {db : Db} {id id' : String} (h : key id = key id') :
    OwnsAccount c db id ↔ OwnsAccount c db id' := by
  rw [OwnsAccount, db.find_congr .account h, OwnsAccount]

theorem owns_of_token {actor : Actor} {c : Option String}
    (token : actor.customerId.map key = c.map key) {id : String}
    (own : actor.customerId = some id) : Owns c id := by
  rw [Owns, ← token, own]
  rfl

omit [Collation] in
theorem ensureOwner_ok {actor : Actor} (notAdmin : actor.role ≠ .admin) {id : Option String}
    (passed : ensureOwnerOrAdmin actor id = .ok ()) : actor.customerId = id :=
  (ensureOwnerOrAdmin_ok passed).resolve_left notAdmin

omit [Collation] in
theorem ensureOwner_error {actor : Actor} {id : Option String} {e : Exn}
    (refused : ensureOwnerOrAdmin actor id = .error e) : e.statusCode = 403 := by
  unfold ensureOwnerOrAdmin at refused
  split at refused
  · cases refused
  · split at refused
    · cases refused
      rfl
    · cases refused

theorem adminRequired_run {α : Type} {actor : Actor} (notAdmin : actor.role ≠ .admin)
    (op : Service α) (db : Db) : (adminRequired actor op).run db =
      (.error (.app .forbidden "Administrator access required"), db) := by
  rw [adminRequired, if_neg notAdmin]
  rfl

theorem adminRequired_ok {α : Type} {actor : Actor} {op : Service α} {db db' : Db} {a : α}
    (run : (adminRequired actor op).run db = (.ok a, db')) : op.run db = (.ok a, db') := by
  by_cases admin : actor.role = .admin
  · rwa [adminRequired, if_pos admin] at run
  · rw [adminRequired_run admin] at run
    cases run

theorem arguments_ok {α β : Type} {admitted : α → Bool} {body : Option α} {view : α → Service β}
    {db db' : Db} {b : β} (run : (arguments admitted body view).run db = (.ok b, db')) :
    ∃ data, body = some data ∧ (view data).run db = (.ok b, db') := by
  cases body with
  | none => cases run
  | some data =>
      simp only [arguments] at run
      split at run
      · exact ⟨data, rfl, run⟩
      · cases run

theorem Sql.run_bind {α β : Type} (p : Sql α) (f : α → Sql β) (db : Db) :
    (p >>= f).run db = match p.run db with
      | .ok (a, db') => (f a).run db'
      | .error e => .error e := by
  induction p generalizing db with
  | done a => rfl
  | raise e => rfl
  | fetch next ih => exact ih db db
  | lock t id next ih => exact ih _ db
  | execute s next ih =>
      simp only [Sql.execute_bind, Sql.run]
      cases s.exec db with
      | ok result => exact ih _ _
      | error e => rfl

theorem ensureOwned_run (cardId : String) (actor : Actor) (db : Db) :
    (CardService.ensureOwned cardId actor).run db =
      match (db.find .card cardId).bind fun c => db.find .account c.accountId with
      | none => .error (.app .notFound "Card not found")
      | some a =>
          match ensureOwnerOrAdmin actor (some a.customerId) with
          | .ok () => .ok ((), db)
          | .error e => .error e := by
  simp only [CardService.ensureOwned, Cards.getWithAccount, Sql.fetch_bind, Sql.done_bind, Sql.run]
  cases db.find .card cardId with
  | none => rfl
  | some c =>
      simp only [Option.bind_some]
      cases db.find .account c.accountId with
      | none => rfl
      | some a =>
          simp only [Option.map_some]
          cases ensureOwnerOrAdmin actor (some a.customerId) with
          | error e => rfl
          | ok _ => rfl

end Corebank
