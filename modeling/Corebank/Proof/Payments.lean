import Mathlib.Data.List.Permutation
import Corebank.Library.OrderBy
import Corebank.Proof.Updates
import Corebank.Proof.Ownership

/-! # The payments of a loan in the order they were made -/

namespace Corebank
open Library.OrderBy

/-- The instant a `datetime` stands for, in microseconds of UTC. A naive one is in UTC. -/
def DateTime.instant (d : DateTime) : Int := d.micros - d.offset.getD 0 * 60000000

structure Payment where
  env : Env
  actor : Actor
  data : LoanPaymentData

namespace Payment

def record (p : Payment) : LoanPayment := LoanPaymentService.record p.env p.data

def instant (p : Payment) : Int := p.record.paymentDate.instant

def wallClock (p : Payment) : Int := p.record.paymentDate.micros

def stored (p : Payment) : LoanPayment := store .loanPayment p.record

end Payment

section
variable [Collation]

def paidTo (loanId : String) (payments : List Payment) : List Payment :=
  payments.filter fun p => key p.data.loanId = key loanId

/-- The answers the query may give: it leaves the order of equal dates open. -/
def Lists (db : Db) (loanId : String) : List LoanPayment → Prop :=
  Orders (fun r => r.paymentDate.micros) ((db .loanPayment).filter fun r => key r.loanId = key loanId)

/-- Each payment once, in the order of the instants they were made at. -/
def Chronological (payments : List Payment) (rows : List LoanPayment) : Prop :=
  ∃ paid : List Payment, paid.Perm payments ∧ paid.Pairwise (fun p q => p.instant < q.instant) ∧
    rows = paid.map Payment.stored

section
variable [Werkzeug] [Marshmallow]

def Payment.post (p : Payment) : Service Response :=
  (ApiCall.createLoanPayment (some p.data)).serve p.env p.actor

/-- The requests one after the other, all of them answered with the payment created. -/
def postAll (payments : List Payment) (db : Db) : Option Db :=
  payments.foldlM (fun db p =>
    match p.post.run db with
    | (.ok _, db') => some db'
    | (.error _, _) => none) db

/-! ## What is stored -/

theorem post_ok {p : Payment} {db db' : Db} {a : Response} (run : p.post.run db = (.ok a, db')) :
    ∃ n, (Statement.insert .loanPayment p.record).exec db = .ok (n, db') := by
  obtain ⟨data, same, run⟩ := arguments_ok (adminRequired_ok run)
  cases same
  obtain ⟨b, -, run⟩ := respond_ok run
  exact (createRow_ok run).2

/-- `db'` has the payments after those of `db`. -/
structure Posted (payments : List Payment) (db db' : Db) : Prop where
  valid : db'.Valid
  rows : db' .loanPayment = db .loanPayment ++ payments.map Payment.stored
  other : ∀ t, t ≠ .loanPayment → db' t = db t

theorem postAll_posted {payments : List Payment} {db db' : Db} (valid : db.Valid)
    (posted : postAll payments db = some db') : Posted payments db db' := by
  induction payments generalizing db with
  | nil =>
      cases posted
      exact ⟨valid, by simp, fun _ _ => rfl⟩
  | cons p payments ih =>
      rw [postAll, List.foldlM_cons, Option.bind_eq_bind, Option.bind_eq_some_iff] at posted
      obtain ⟨between, first, posted⟩ := posted
      split at first
      · rename_i a after run
        cases first
        obtain ⟨n, inserted⟩ := post_ok run
        obtain ⟨final, rows, other⟩ := ih (insert_valid valid inserted) posted
        obtain ⟨-, -, -, rfl⟩ := exec_insert inserted
        refine ⟨final, ?_, fun t ne => ?_⟩
        · rw [rows, Db.set_same, List.append_assoc, List.singleton_append, List.map_cons,
            Payment.stored]
        · rw [other t ne, Db.set_other _ _ ne]
      · cases first

end

theorem paidTo_rows {payments : List Payment} {db db' : Db} (posted : Posted payments db db')
    {loanId : String} (unpaid : ∀ r ∈ db .loanPayment, key r.loanId ≠ key loanId) :
    ((db' .loanPayment).filter fun r => key r.loanId = key loanId) =
      (paidTo loanId payments).map Payment.stored := by
  have none : ((db .loanPayment).filter fun r => key r.loanId = key loanId) = [] := by
    rw [List.filter_eq_nil_iff]
    simpa using unpaid
  have loan (p : Payment) : key p.stored.loanId = key p.data.loanId := key_rstrip _
  rw [posted.rows, List.filter_append, none, List.nil_append, List.filter_map, paidTo]
  simp only [Function.comp_def, loan]

theorem Posted.find_loan {payments : List Payment} {db db' : Db} (posted : Posted payments db db')
    (loanId : String) : db'.find .loan loanId = db.find .loan loanId := by
  rw [Db.find, posted.other .loan (by decide), Db.find]

theorem Posted.stored_injective {payments : List Payment} {db db' : Db}
    (posted : Posted payments db db') {p q : Payment} (hp : p ∈ payments) (hq : q ∈ payments)
    (h : p.stored = q.stored) : p = q := by
  have nodup := posted.valid.ids .loanPayment
  rw [posted.rows, List.map_append, List.map_map] at nodup
  exact List.inj_on_of_nodup_map (List.nodup_append.mp nodup).2.1 hp hq (congrArg (rowKey .loanPayment) h)

/-! ## The listing -/

theorem listByLoan_run {db : Db} {loanId : String} {loan : Loan}
    (found : db.find .loan loanId = some loan) :
    ∃ rows, ((LoanPaymentService.listByLoan loanId).run db).1 = .ok rows ∧ Lists db loanId rows := by
  refine ⟨_, ?_, orders_mergeSort _ _⟩
  simp only [LoanPaymentService.listByLoan, readOnly, Loans.get, getRow, LoanPayments.listByLoan,
    Sql.fetch_bind, Sql.done_bind, Service.run, Sql.run, found]

omit [Collation] in
theorem stored_wallClock {p : Payment} (whole : p.instant % 1000000 = 0) :
    p.stored.paymentDate.micros = p.wallClock := by
  rw [Payment.instant, DateTime.instant] at whole
  change (p.record.paymentDate.micros + 500000) / 1000000 * 1000000 = p.record.paymentDate.micros
  omega

section
variable {payments : List Payment} {db db' : Db} (posted : Posted payments db db') {loanId : String}
  (unpaid : ∀ r ∈ db .loanPayment, key r.loanId ≠ key loanId)
  (whole : ∀ p ∈ paidTo loanId payments, p.instant % 1000000 = 0)
include posted unpaid whole

theorem lists_iff {rows : List LoanPayment} : Lists db' loanId rows ↔
    ∃ paid, Orders Payment.wallClock (paidTo loanId payments) paid ∧
      rows = paid.map Payment.stored := by
  have same (p : Payment) (mem : p ∈ paidTo loanId payments) := stored_wallClock (whole p mem)
  rw [Lists, paidTo_rows posted unpaid, orders_map_iff]
  constructor
  · rintro ⟨paid, orders, rfl⟩
    exact ⟨paid, orders.congr same, rfl⟩
  · rintro ⟨paid, orders, rfl⟩
    exact ⟨paid, orders.congr fun p mem => (same p mem).symm, rfl⟩

theorem lists_chronological_iff :
    (∀ rows, Lists db' loanId rows → Chronological (paidTo loanId payments) rows) ↔
      ∀ paid, Orders Payment.wallClock (paidTo loanId payments) paid →
        paid.Pairwise fun p q => p.instant < q.instant := by
  constructor
  · intro chronological paid orders
    have listed : Lists db' loanId (paid.map Payment.stored) :=
      (lists_iff posted unpaid whole).mpr ⟨paid, orders, rfl⟩
    obtain ⟨paid', perm, rising, same⟩ := chronological _ listed
    have made {ps : List Payment} (perm : ps.Perm (paidTo loanId payments)) {p : Payment}
        (mem : p ∈ ps) : p ∈ payments :=
      List.mem_of_mem_filter (perm.subset mem)
    -- the ids tell the stored payments apart
    have equal : paid = paid' := eq_of_map_eq (fun p hp q hq =>
      posted.stored_injective (made orders.perm hp) (made perm hq)) same
    rwa [equal]
  · intro rising rows listed
    obtain ⟨paid, orders, rfl⟩ := (lists_iff posted unpaid whole).mp listed
    exact ⟨paid, orders.perm, rising paid orders, rfl⟩

end

/-- A loan's payments are listed in the order they were made exactly when no earlier one shows
the same or a later time on its own clock. -/
theorem listByLoan_chronological_iff [Werkzeug] [Marshmallow] {db db' : Db} (valid : db.Valid)
    {loanId : String} {loan : Loan} (found : db.find .loan loanId = some loan)
    (unpaid : ∀ r ∈ db .loanPayment, key r.loanId ≠ key loanId) {payments : List Payment}
    (posted : postAll payments db = some db')
    (whole : ∀ p ∈ paidTo loanId payments, p.instant % 1000000 = 0)
    (distinct : (paidTo loanId payments).Pairwise fun p q => p.instant ≠ q.instant) :
    (∃ rows, ((LoanPaymentService.listByLoan loanId).run db').1 = .ok rows ∧ Lists db' loanId rows) ∧
      ((∀ rows, Lists db' loanId rows → Chronological (paidTo loanId payments) rows) ↔
        ∀ p ∈ paidTo loanId payments, ∀ q ∈ paidTo loanId payments,
          p.instant < q.instant → p.wallClock < q.wallClock) := by
  have all := postAll_posted valid posted
  constructor
  · exact listByLoan_run ((all.find_loan loanId).trans found)
  · exact (lists_chronological_iff all unpaid whole).trans (orders_increasing_iff distinct)

end

/-! ## A client ahead of UTC -/

attribute [local instance] foldCase clearText plainEmail

def lent : Db :=
  replay [(.createLoan ⟨"ann", .home, 1000000, 425, 700000, 710000, none⟩, noon "loan")] opened

/-- A payment recorded at noon of UTC, with the date the client sends. -/
def noonPayment (id : String) (date : Option DateTime) : Payment :=
  ⟨noon id, ⟨"u-0", .admin, none⟩, ⟨"loan", 50000, none, date⟩⟩

def hour : Int := 3600000000

/-- An hour earlier, sent by a client two hours ahead of UTC. -/
def sentFromEast : Payment := noonPayment "p-1" (some ⟨(noon "").utcnow.micros + hour, some 120⟩)

theorem lent_loan : (lent.find .loan "loan").isSome := by decide +kernel

theorem lent_valid : lent.Valid := (reachable_opened.replay _).valid

theorem postAll_lent : (postAll [sentFromEast, noonPayment "p-2" none] lent).isSome := by
  decide +kernel

theorem listByLoan_chronological_east :
    ∃ db, postAll [sentFromEast, noonPayment "p-2" none] lent = some db ∧
      ¬∀ rows, Lists db "loan" rows → Chronological [sentFromEast, noonPayment "p-2" none] rows := by
  have posted := (Option.some_get postAll_lent).symm
  have law := listByLoan_chronological_iff lent_valid (Option.some_get lent_loan).symm
    (by decide +kernel) posted (by decide +kernel) (by decide +kernel)
  refine ⟨_, posted, fun chronological => ?_⟩
  have before := law.2.mp chronological sentFromEast
    (List.mem_filter.mpr ⟨List.mem_cons_self, by decide +kernel⟩) (noonPayment "p-2" none)
    (List.mem_filter.mpr ⟨List.mem_cons_of_mem _ List.mem_cons_self, by decide +kernel⟩)
    (by decide +kernel)
  revert before
  decide +kernel

theorem sent_from_east_late : Reachable lent ∧ sentFromEast.instant < (noonPayment "p-2" none).instant ∧
    ∃ db rows, postAll [sentFromEast, noonPayment "p-2" none] lent = some db ∧
      ((LoanPaymentService.listByLoan "loan").run db).1 = .ok rows ∧
      rows.map LoanPayment.loanPaymentId = ["p-2", "p-1"] ∧
      ¬Chronological [sentFromEast, noonPayment "p-2" none] rows := by
  have done := (Option.some_get postAll_lent).symm
  have posted := postAll_posted lent_valid done
  obtain ⟨rows, listed, orders⟩ :=
    listByLoan_run ((posted.find_loan "loan").trans (Option.some_get lent_loan).symm)
  rw [lists_iff posted (by decide +kernel) (by decide +kernel)] at orders
  obtain ⟨paid, ⟨perm, sorted⟩, rfl⟩ := orders
  have late : paid = [noonPayment "p-2" none, sentFromEast] := by
    rcases List.perm_pair.mp perm with rfl | rfl
    · exact absurd sorted (by decide +kernel)
    · rfl
  subst late
  refine ⟨reachable_opened.replay _, by decide +kernel, _, _, done, listed, by decide +kernel, ?_⟩
  rintro ⟨paid, perm, rising, same⟩
  rcases List.perm_pair.mp perm with rfl | rfl
  · exact absurd same (by decide +kernel)
  · exact absurd rising (by decide +kernel)

end Corebank
