import Corebank.Demo
import Corebank.Proof.Conservation
import Mathlib.Algebra.Order.BigOperators.Group.Finset
import Mathlib.Algebra.Order.BigOperators.Group.List

/-! # What a storm leaves of the money -/

namespace Corebank
open Library Library.Threads

section
variable [Collation] {ι : Type} [DecidableEq ι] {i : ι} {s s' : StormState ι} {t : Withdrawal}
  {failure : Option Exn}

/-! ## One UPDATE -/

section
variable {id : String} {r : Account} {c : Int}

theorem exec_add {db : Db} (valid : db.Valid) (found : db.find .account id = some r) (c : Int) :
    (Statement.update .account id (.credit c)).exec db =
      if 10 ^ 15 ≤ (r.balance + c).natAbs then .error (mysqlError 1264)
      else if r.balance + c = r.balance then .ok (0, db)
      else if r.balance + c < 0 then .error (mysqlError 3819)
      else .ok (1, db.withBalance r (r.balance + c)) :=
  exec_balance valid found rfl rfl

theorem update_add (valid : s.db.Valid) (found : s.db.find .account id = some r) (c : Int) :
    s.update i id (.credit c) =
      if (s.locks (key id)).all (· = i) then
        some (s.lock i id,
          if 10 ^ 15 ≤ (r.balance + c).natAbs then .error (.driver (mysqlError 1264))
          else if r.balance + c < 0 then .error (.driver (mysqlError 3819))
          else .ok (some { r with balance := r.balance + c }))
      else none := by
  obtain ⟨nonneg, -⟩ := balance_range valid found
  simp only [StormState.update, found]
  rw [exec_add valid found]
  congr 1
  by_cases large : 10 ^ 15 ≤ (r.balance + c).natAbs
  · rw [if_pos large, if_pos large]
  rw [if_neg large, if_neg large]
  by_cases same : r.balance + c = r.balance
  · rw [if_pos same, if_neg (by omega), same]
    simp only [found]
  rw [if_neg same]
  by_cases negative : r.balance + c < 0
  · rw [if_pos negative, if_pos negative]
  · rw [if_neg negative, if_neg negative]
    simp only [withBalance_find found, if_true]

theorem update_ok {own : Option Account} (valid : s.db.Valid) (found : s.db.find .account id = some r)
    (h : s.update i id (.credit c) = some (s', .ok own)) :
    (s.locks (key id)).all (· = i) ∧ s' = s.lock i id ∧
      own = some { r with balance := r.balance + c } ∧ 0 ≤ r.balance + c ∧
      r.balance + c < (10 ^ 15 : Int) := by
  rw [update_add valid found] at h
  split at h
  · rename_i free
    obtain ⟨rfl, result⟩ := Prod.mk.inj (Option.some.inj h)
    split at result
    · cases result
    split at result
    · cases result
    · cases result
      exact ⟨free, rfl, rfl, by omega, by omega⟩
  · cases h

theorem update_error {e : Exn} (valid : s.db.Valid) (found : s.db.find .account id = some r)
    (h : s.update i id (.credit c) = some (s', .error e)) :
    (s.locks (key id)).all (· = i) ∧ s' = s.lock i id ∧
      (e = .driver (mysqlError 1264) ∧ 10 ^ 15 ≤ (r.balance + c).natAbs ∨
        e = .driver (mysqlError 3819) ∧ r.balance + c < 0) := by
  rw [update_add valid found] at h
  split at h
  · rename_i free
    obtain ⟨rfl, result⟩ := Prod.mk.inj (Option.some.inj h)
    split at result
    · cases result
      exact ⟨free, rfl, Or.inl ⟨rfl, ‹_›⟩⟩
    split at result
    · cases result
      exact ⟨free, rfl, Or.inr ⟨rfl, ‹_›⟩⟩
    · cases result
  · cases h

theorem valid_withBalance {db : Db} (valid : db.Valid) (found : db.find .account id = some r)
    {balance : Int} (nonneg : 0 ≤ balance) (small : balance < (10 ^ 15 : Int))
    (changed : balance ≠ r.balance) : (db.withBalance r balance).Valid := by
  have exec := exec_add valid found (balance - r.balance)
  rw [show r.balance + (balance - r.balance) = balance by omega, if_neg (by omega), if_neg changed,
    if_neg (by omega)] at exec
  exact exec_valid valid exec

end

/-! ## What the steps of one worker leave to the others -/

structure Spares (i : ι) (s s' : StormState ι) : Prop where
  valid : s'.db.Valid
  accounts : ∀ id, (s'.db.find .account id).isSome = (s.db.find .account id).isSome
  locked : ∀ j, j ≠ i → ∀ id, s.locks (key id) = some j →
    s'.locks (key id) = some j ∧ s'.db.find .account id = s.db.find .account id
  debits : ∀ k, s.debits k ≤ s'.debits k
  rows : ∀ id r, s.db.find .account id = some r → s'.debits (key id) = s.debits (key id) →
    ∃ r', s'.db.find .account id = some r' ∧ r.balance ≤ r'.balance

omit [DecidableEq ι] in
theorem spares_same (valid : s.db.Valid) (db : s'.db = s.db) (debits : s'.debits = s.debits)
    (locks : ∀ j, j ≠ i → ∀ id, s.locks (key id) = some j → s'.locks (key id) = some j) :
    Spares i s s' where
  valid := db ▸ valid
  accounts id := by rw [db]
  locked j ne id held := ⟨locks j ne id held, by rw [db]⟩
  debits k := by rw [debits]
  rows id r found _ := ⟨r, by rw [db]; exact found, Int.le_refl _⟩

theorem spares_lock (valid : s.db.Valid) {id : String} (free : (s.locks (key id)).all (· = i)) :
    Spares i s (s.lock i id) := by
  refine spares_same valid rfl rfl fun j ne id' held => ?_
  simp only [StormState.lock]
  rw [Function.update_of_ne, held]
  intro same
  rw [← same, held] at free
  exact ne (of_decide_eq_true free)

omit [Collation] in
theorem release_other {j : ι} (ne : j ≠ i) {k : String} (held : s.locks k = some j) :
    (s.release i).locks k = some j := by
  simp [StormState.release, held, ne]

/-- Transaction `i` has locked the account `id`, and added `c` to it in its own version. -/
structure Writes (i : ι) (s : StormState ι) (own : Option Account) (id : String) (c : Int) : Prop where
  locked : s.locks (key id) = some i
  row : ∃ r, s.db.find .account id = some r ∧ own = some { r with balance := r.balance + c } ∧
    0 ≤ r.balance + c ∧ r.balance + c < (10 ^ 15 : Int)

section
variable {own : Option Account} {id : String} {c : Int}

omit [DecidableEq ι] in
theorem Writes.spared {j : ι} (writes : Writes j s own id c) (ne : j ≠ i) (spares : Spares i s s') :
    Writes j s' own id c := by
  obtain ⟨locked, kept⟩ := spares.locked j ne id writes.locked
  exact ⟨locked, kept ▸ writes.row⟩

theorem Writes.commit_money (writes : Writes i s own id c) (valid : s.db.Valid) :
    (s.commit i own).db.totalBalance = s.db.totalBalance + c := by
  obtain ⟨r, found, rfl, -, -⟩ := writes.row
  have money := totalBalance_withBalance valid found (r.balance + c)
  show (s.db.withBalance r (r.balance + c)).totalBalance = _
  omega

theorem Writes.commit_find (writes : Writes i s own id c) (id' : String) :
    (s.commit i own).db.find .account id' =
      if key id' = key id then own else s.db.find .account id' := by
  obtain ⟨r, found, rfl, -, -⟩ := writes.row
  exact withBalance_find found (r.balance + c) id'

/-- A commit changes the row that was locked, and takes from it only what is counted. -/
theorem Writes.spares (writes : Writes i s own id c) (valid : s.db.Valid) (changed : c ≠ 0)
    (db : s'.db = (s.commit i own).db) (locks : s'.locks = (s.commit i own).locks)
    (debits : ∀ k, s.debits k ≤ s'.debits k)
    (counted : c < 0 → s'.debits (key id) ≠ s.debits (key id)) : Spares i s s' := by
  obtain ⟨r, found, same, nonneg, small⟩ := writes.row
  have find (id' : String) : s'.db.find .account id' =
      if key id' = key id then own else s.db.find .account id' := by
    rw [db, writes.commit_find]
  refine ⟨?_, fun id' => ?_, fun j ne id' held => ?_, debits, fun id' r' found' steady => ?_⟩
  · rw [db, same]
    exact valid_withBalance valid found nonneg small (by omega)
  · rw [find]
    split
    · rename_i eq
      rw [s.db.find_congr .account eq, found, same]
      rfl
    · rfl
  · refine ⟨by rw [locks, same]; exact release_other ne held, ?_⟩
    rw [find, if_neg]
    intro eq
    rw [eq, writes.locked] at held
    exact ne (Option.some.inj held).symm
  · rw [find]
    split
    · rename_i eq
      rw [s.db.find_congr .account eq, found] at found'
      cases found'
      refine ⟨_, same, ?_⟩
      have more : ¬ c < 0 := fun less => counted less (by rw [← eq]; exact steady)
      show r.balance ≤ r.balance + c
      omega
    · exact ⟨r', found', Int.le_refl _⟩

end

/-! ## One step of a call -/

/-- What a call has debited and not credited. -/
def NaiveLine.owed (t : Withdrawal) : NaiveLine → Int
  | .credit | .commitCredit _ => t.amount
  | .retry leg _ | .reconnect leg _ => leg.missing t
  | .close _ missing => missing
  | _ => 0

/-- The UPDATE that stands at a line. -/
def NaiveLine.leg : NaiveLine → Option Leg
  | .debit _ _ => some .debit
  | .credit => some .credit
  | .retry leg _ => some leg
  | _ => none

omit [Collation] in
@[simp] theorem owed_commit (leg : Leg) (own : Option Account) :
    (leg.commit own).owed t = leg.missing t := by
  cases leg <;> rfl

omit [Collation] in
@[simp] theorem owed_fail (leg : Leg) (e : Exn) : (leg.fail t e).owed t = leg.missing t := rfl

omit [Collation] in
@[simp] theorem owed_executed (leg : Leg) (result : Except Exn (Option Account)) :
    (leg.executed t result).owed t = leg.missing t := by
  cases result with
  | ok own => exact owed_commit leg own
  | error e =>
      simp only [Leg.executed]
      split <;> rfl

omit [Collation] in
theorem owed_leg {line : NaiveLine} {leg : Leg} (here : line.leg = some leg) :
    line.owed t = leg.missing t := by
  cases line <;> cases here <;> rfl

inductive NaiveTurn (failure : Option Exn) (i : ι) (s : StormState ι) (t : Withdrawal) :
    NaiveLine → StormState ι → NaiveLine ⊕ Except Exn Unit → Prop where
  | refused {e : Exn} (fails : failure = some e) : NaiveTurn failure i s t .connect s (.inr (.error e))
  | connect (free : s.free ≠ 0) :
      NaiveTurn failure i s t .connect { s with free := s.free - 1 } (.inl .select)
  | raise {line : NaiveLine} {e : Exn} (fails : failure ≠ none) (connected : line ≠ .connect)
      (busy : ∀ outcome missing, line ≠ .close outcome missing) :
      NaiveTurn failure i s t line s (.inl (.close (.error e) (line.owed t)))
  | unknown (missing : s.db.find .account t.sender = none) :
      NaiveTurn failure i s t .select s (.inl (.close (.error (.other "TypeError")) 0))
  | reject {r : Account} (found : s.db.find .account t.sender = some r) (poor : r.balance < t.amount) :
      NaiveTurn failure i s t .select s
        (.inl (.close (.error (.app .businessRule "Insufficient funds")) 0))
  | read {r : Account} (found : s.db.find .account t.sender = some r) (enough : t.amount ≤ r.balance) :
      NaiveTurn failure i s t .select s (.inl (.debit r.balance (s.debits (key t.sender))))
  | update {line : NaiveLine} {leg : Leg} {s' : StormState ι} {own : Option Account}
      (here : line.leg = some leg) (updated : s.execute i t leg = some (s', .ok own)) :
      NaiveTurn failure i s t line s' (.inl (leg.commit own))
  | overdraw {balance : Int} {since : Nat} {s' : StormState ι} {e : Exn}
      (updated : s.execute i t .debit = some (s', .error e)) :
      NaiveTurn failure i s t (.debit balance since) s' (.inl (Leg.debit.executed t (.error e)))
  | overflow {s' : StormState ι} {e : Exn} (updated : s.execute i t .credit = some (s', .error e)) :
      NaiveTurn failure i s t .credit s' (.inl (Leg.credit.executed t (.error e)))
  | again {leg : Leg} {s' : StormState ι} {e e' : Exn}
      (updated : s.execute i t leg = some (s', .error e')) :
      NaiveTurn failure i s t (.retry leg e) s' (.inl (.reconnect leg e))
  | retryFails {leg : Leg} {e : Exn} (fails : failure ≠ none) :
      NaiveTurn failure i s t (.retry leg e) s (.inl (.reconnect leg e))
  | reconnect {leg : Leg} {e : Exn} {s' : StormState ι} {line' : NaiveLine}
      (tried : reconnected i s t leg e = some (s', line')) :
      NaiveTurn failure i s t (.reconnect leg e) s' (.inl line')
  | commitDebit {own : Option Account} :
      NaiveTurn failure i s t (.commitDebit own) ((s.commit i own).countDebit t.sender) (.inl .credit)
  | commitCredit {own : Option Account} :
      NaiveTurn failure i s t (.commitCredit own) (s.commit i own) (.inl (.close (.ok ()) 0))
  | close {outcome : Except Exn Unit} {missing : Int} :
      NaiveTurn failure i s t (.close outcome missing) { s.release i with free := s.free + 1 }
        (.inr outcome)

theorem naiveStep_cases {line : NaiveLine} {next : StormState ι × (NaiveLine ⊕ Except Exn Unit)}
    (h : naiveStep failure i s t line = some next) : NaiveTurn failure i s t line next.1 next.2 := by
  cases line with
  | connect =>
      simp only [naiveStep] at h
      split at h
      · cases h
        exact .refused rfl
      · split at h
        · cases h
        · cases h
          exact .connect ‹_›
  | select =>
      simp only [naiveStep] at h
      split at h
      · cases h
        exact .raise nofun nofun nofun
      · cases h
        exact .unknown ‹_›
      · split at h <;> cases h
        · exact .reject ‹_› ‹_›
        · exact .read ‹_› (Int.not_lt.mp ‹_›)
  | debit balance since =>
      simp only [naiveStep] at h
      split at h
      · cases h
        exact .raise nofun nofun nofun
      · obtain ⟨⟨s', result⟩, updated, rfl⟩ := Option.map_eq_some_iff.mp h
        cases result with
        | ok own => exact .update rfl updated
        | error e => exact .overdraw updated
  | commitDebit own =>
      simp only [naiveStep] at h
      split at h <;> cases h
      · exact .raise nofun nofun nofun
      · exact .commitDebit
  | credit =>
      simp only [naiveStep] at h
      split at h
      · cases h
        exact .raise nofun nofun nofun
      · obtain ⟨⟨s', result⟩, updated, rfl⟩ := Option.map_eq_some_iff.mp h
        cases result with
        | ok own => exact .update rfl updated
        | error e => exact .overflow updated
  | commitCredit own =>
      simp only [naiveStep] at h
      split at h <;> cases h
      · exact .raise nofun nofun nofun
      · exact .commitCredit
  | retry leg e =>
      simp only [naiveStep] at h
      split at h
      · cases h
        exact .retryFails nofun
      · obtain ⟨⟨s', result⟩, updated, rfl⟩ := Option.map_eq_some_iff.mp h
        cases result with
        | ok own => exact .update rfl updated
        | error e => exact .again updated
  | reconnect leg e =>
      simp only [naiveStep] at h
      split at h
      · cases h
        exact .raise nofun nofun nofun
      · obtain ⟨⟨s', line'⟩, tried, rfl⟩ := Option.map_eq_some_iff.mp h
        exact .reconnect tried
  | close outcome missing =>
      cases h
      exact .close

/-! ## What a worker knows -/

/-- Money moves between accounts that are there. -/
structure Good (db : Db) (t : Withdrawal) : Prop where
  positive : 0 < t.amount
  sender : (db.find .account t.sender).isSome
  receiver : (db.find .account t.receiver).isSome

omit [DecidableEq ι] in
theorem Good.account {db : Db} (good : Good db t) (leg : Leg) :
    ∃ r, db.find .account (leg.account t) = some r := by
  rw [← Option.isSome_iff_exists]
  cases leg with
  | debit => exact good.sender
  | credit => exact good.receiver

/-- Unless the account was debited since, it still has what was read. -/
structure HasRead (s : StormState ι) (t : Withdrawal) (balance : Int) (since : Nat) : Prop where
  enough : t.amount ≤ balance
  small : balance < (10 ^ 15 : Int)
  past : since ≤ s.debits (key t.sender)
  fresh : s.debits (key t.sender) = since →
    ∃ r, s.db.find .account t.sender = some r ∧ balance ≤ r.balance

/-- Transaction `i` has locked an account that would be overdrawn. -/
structure Overdrawn (i : ι) (s : StormState ι) (t : Withdrawal) (leg : Leg) (e : Exn) : Prop where
  locked : s.locks (key (leg.account t)) = some i
  check : e = .driver (mysqlError 3819)
  row : ∃ r, s.db.find .account (leg.account t) = some r ∧ r.balance + leg.change t < 0

def NaiveKnown (i : ι) (s : StormState ι) (t : Withdrawal) : NaiveLine → Prop
  | .debit balance since => HasRead s t balance since
  | .commitDebit own => Writes i s own t.sender (-t.amount)
  | .commitCredit own => Writes i s own t.receiver t.amount
  | .retry leg e | .reconnect leg e => Overdrawn i s t leg e
  | _ => True

omit [DecidableEq ι] in
theorem known_commit {leg : Leg} {own : Option Account}
    (writes : Writes i s own (leg.account t) (leg.change t)) : NaiveKnown i s t (leg.commit own) := by
  cases leg with
  | debit => exact writes
  | credit => exact writes

omit [DecidableEq ι] in
theorem Overdrawn.spared {j : ι} {leg : Leg} {e : Exn} (overdrawn : Overdrawn j s t leg e) (ne : j ≠ i)
    (spares : Spares i s s') : Overdrawn j s' t leg e := by
  obtain ⟨locked, kept⟩ := spares.locked j ne _ overdrawn.locked
  exact ⟨locked, overdrawn.check, kept ▸ overdrawn.row⟩

omit [DecidableEq ι] in
theorem NaiveKnown.spared {j : ι} {line : NaiveLine} (known : NaiveKnown j s t line) (ne : j ≠ i)
    (spares : Spares i s s') : NaiveKnown j s' t line := by
  cases line with
  | debit balance since =>
      obtain ⟨enough, small, past, fresh⟩ := known
      refine ⟨enough, small, past.trans (spares.debits _), fun same => ?_⟩
      have steady := spares.debits (key t.sender)
      obtain ⟨r, found, kept⟩ := fresh (by omega)
      obtain ⟨r', found', more⟩ := spares.rows _ r found (by omega)
      exact ⟨r', found', kept.trans more⟩
  | commitDebit own => exact Writes.spared known ne spares
  | commitCredit own => exact Writes.spared known ne spares
  | retry leg e => exact Overdrawn.spared known ne spares
  | reconnect leg e => exact Overdrawn.spared known ne spares
  | _ => trivial

omit [DecidableEq ι] in
theorem lock_writes {id : String} {r : Account} {c : Int} (found : s.db.find .account id = some r)
    (nonneg : 0 ≤ r.balance + c) (small : r.balance + c < (10 ^ 15 : Int)) :
    Writes i (s.lock i id) (some { r with balance := r.balance + c }) id c :=
  ⟨by simp [StormState.lock], r, found, rfl, nonneg, small⟩

theorem execute_ok {leg : Leg} {own : Option Account} (valid : s.db.Valid) (good : Good s.db t)
    (h : s.execute i t leg = some (s', .ok own)) :
    (s.locks (key (leg.account t))).all (· = i) ∧ s' = s.lock i (leg.account t) ∧
      Writes i s' own (leg.account t) (leg.change t) := by
  obtain ⟨r, found⟩ := good.account leg
  obtain ⟨free, rfl, rfl, nonneg, small⟩ := update_ok valid found h
  exact ⟨free, rfl, lock_writes found nonneg small⟩

theorem execute_error {leg : Leg} {e : Exn} (valid : s.db.Valid) (good : Good s.db t)
    (h : s.execute i t leg = some (s', .error e)) :
    (s.locks (key (leg.account t))).all (· = i) ∧ s' = s.lock i (leg.account t) ∧
      (e = .driver (mysqlError 1264) ∨ Overdrawn i s' t leg e) := by
  obtain ⟨r, found⟩ := good.account leg
  obtain ⟨free, rfl, ⟨large, -⟩ | ⟨check, negative⟩⟩ := update_error valid found h
  · exact ⟨free, rfl, Or.inl large⟩
  · exact ⟨free, rfl, Or.inr ⟨by simp [StormState.lock], check, r, found, negative⟩⟩

/-- Nobody but the worker itself stands in the way of its last try. -/
theorem Overdrawn.reconnected {leg : Leg} {e : Exn} (overdrawn : Overdrawn i s t leg e) :
    reconnected i s t leg e = some (s, leg.fail t e) :=
  if_pos overdrawn.locked

theorem NaiveTurn.spares {line : NaiveLine} {next : NaiveLine ⊕ Except Exn Unit}
    (turn : NaiveTurn failure i s t line s' next) (valid : s.db.Valid) (good : Good s.db t)
    (known : NaiveKnown i s t line) : Spares i s s' := by
  have same : Spares i s s := spares_same valid rfl rfl fun _ _ _ held => held
  have positive := good.positive
  cases turn with
  | refused | raise | unknown | reject | read | retryFails => exact same
  | connect => exact spares_same valid rfl rfl fun _ _ _ held => held
  | update here updated =>
      obtain ⟨free, rfl, -⟩ := execute_ok valid good updated
      exact spares_lock valid free
  | overdraw updated | overflow updated | again updated =>
      obtain ⟨free, rfl, -⟩ := execute_error valid good updated
      exact spares_lock valid free
  | reconnect tried =>
      cases (Overdrawn.reconnected known).symm.trans tried
      exact same
  | commitDebit =>
      refine Writes.spares known valid (by omega) rfl rfl (fun k => ?_) fun _ => ?_
      · simp only [StormState.countDebit, StormState.commit, StormState.release, StormState.write,
          Function.update_apply]
        split
        · rename_i same
          rw [same]
          exact Nat.le_succ _
        · exact Nat.le_refl _
      · simp [StormState.countDebit, StormState.commit, StormState.release, StormState.write]
  | commitCredit =>
      exact Writes.spares known valid positive.ne' rfl rfl (fun _ => Nat.le_refl _)
        fun negative => absurd positive (Int.not_lt.mpr negative.le)
  | close => exact spares_same valid rfl rfl fun _ ne _ held => release_other ne held

omit [DecidableEq ι] in
theorem known_executed {leg : Leg} {e : Exn}
    (refused : e = .driver (mysqlError 1264) ∨ Overdrawn i s t leg e) :
    NaiveKnown i s t (leg.executed t (.error e)) := by
  rcases refused with rfl | overdrawn
  · trivial
  · obtain rfl := overdrawn.check
    exact overdrawn

theorem NaiveTurn.known {line line' : NaiveLine}
    (turn : NaiveTurn failure i s t line s' (.inl line')) (valid : s.db.Valid) (good : Good s.db t)
    (known : NaiveKnown i s t line) : NaiveKnown i s' t line' := by
  cases turn with
  | read found enough =>
      exact ⟨enough, (balance_range valid found).2, Nat.le_refl _, fun _ => ⟨_, found, Int.le_refl _⟩⟩
  | update here updated => exact known_commit (execute_ok valid good updated).2.2
  | overdraw updated | overflow updated =>
      exact known_executed (execute_error valid good updated).2.2
  | again updated =>
      obtain ⟨-, rfl, -⟩ := execute_error valid good updated
      exact ⟨by simp [StormState.lock], known.check, known.row⟩
  | retryFails => exact known
  | reconnect tried =>
      cases (Overdrawn.reconnected known).symm.trans tried
      trivial
  | _ => trivial

/-- A step passes on what is in flight. -/
theorem NaiveTurn.money {line : NaiveLine} {next : NaiveLine ⊕ Except Exn Unit}
    (turn : NaiveTurn failure i s t line s' next) (valid : s.db.Valid) (good : Good s.db t)
    (known : NaiveKnown i s t line) :
    s'.db.totalBalance + next.elim (NaiveLine.owed t) (fun _ => line.missing) =
      s.db.totalBalance + line.owed t := by
  cases turn with
  | update here updated =>
      obtain ⟨-, rfl, -⟩ := execute_ok valid good updated
      rw [Sum.elim_inl, owed_commit, owed_leg here]
      rfl
  | overdraw updated | overflow updated =>
      obtain ⟨-, rfl, -⟩ := execute_error valid good updated
      rw [Sum.elim_inl, owed_executed]
      rfl
  | again updated =>
      obtain ⟨-, rfl, -⟩ := execute_error valid good updated
      rfl
  | reconnect tried =>
      cases (Overdrawn.reconnected known).symm.trans tried
      rfl
  | commitDebit =>
      have money := Writes.commit_money known valid
      simp only [Sum.elim_inl, NaiveLine.owed, StormState.countDebit, money]
      omega
  | commitCredit =>
      have money := Writes.commit_money known valid
      simp only [Sum.elim_inl, NaiveLine.owed, money]
      omega
  | _ => rfl

/-! ## One step of a worker -/

inductive StormTurn (failure : Option Exn) (i : ι) (s : StormState ι) (w : Worker) :
    StormState ι → Worker → Prop where
  | idle (line : w.line = .next) (todo : w.todo = []) : StormTurn failure i s w s (w.goto .acquire)
  | begin {t : Withdrawal} {rest : List Withdrawal} (line : w.line = .next) (todo : w.todo = t :: rest) :
      StormTurn failure i s w s { w with todo := rest, line := .call t .connect }
  | call {t : Withdrawal} {line line' : NaiveLine} {s' : StormState ι} (at_call : w.line = .call t line)
      (turn : NaiveTurn failure i s t line s' (.inl line')) :
      StormTurn failure i s w s' (w.goto (.call t line'))
  | ended {t : Withdrawal} {line : NaiveLine} {s' : StormState ι} {outcome : Except Exn Unit}
      (at_call : w.line = .call t line) (turn : NaiveTurn failure i s t line s' (.inr outcome)) :
      StormTurn failure i s w s' (w.ended line.missing outcome)
  | acquire (line : w.line = .acquire) (free : s.mutex = none) :
      StormTurn failure i s w { s with mutex := some i } (w.goto (.load Tally.all))
  | release (line : w.line = .load []) :
      StormTurn failure i s w { s with mutex := none } (w.goto .finished)
  | load {key : Tally} {keys : List Tally} (line : w.line = .load (key :: keys)) :
      StormTurn failure i s w s (w.goto (.store key (s.counters key + w.tally key) keys))
  | store {key : Tally} {value : Nat} {keys : List Tally} (line : w.line = .store key value keys) :
      StormTurn failure i s w { s with counters := Function.update s.counters key value }
        (w.goto (.load keys))

variable {w w' : Worker}

theorem stormStep_cases {next : StormState ι × Worker} (h : stormStep failure i s w = some next) :
    StormTurn failure i s w next.1 next.2 := by
  unfold stormStep at h
  split at h
  · split at h <;> cases h
    · exact .idle ‹_› ‹_›
    · exact .begin ‹_› ‹_›
  · rename_i t line at_call
    obtain ⟨⟨s', next'⟩, moved, rfl⟩ := Option.map_eq_some_iff.mp h
    have turn := naiveStep_cases moved
    cases next' with
    | inl line' => exact .call at_call turn
    | inr outcome => exact .ended at_call turn
  · split at h <;> cases h
    exact .acquire ‹_› ‹_›
  · cases h
    exact .release ‹_›
  · cases h
    exact .load ‹_›
  · cases h
    exact .store ‹_›
  · cases h
  · cases h

omit [Collation] in
/-- The end of a call is counted, unless it is the end of the worker. -/
theorem ended_cases (w : Worker) (missing : Int) (outcome : Except Exn Unit) :
    (∃ key, w.ended missing outcome = w.count key missing) ∨
      ∃ e, outcome = .error e ∧
        w.ended missing outcome = { w with line := .crashed e, lost := w.lost + missing } := by
  unfold Worker.ended
  split
  · exact Or.inl ⟨_, rfl⟩
  · exact Or.inl ⟨_, rfl⟩
  · split
    · exact Or.inl ⟨_, rfl⟩
    · exact Or.inr ⟨_, rfl, rfl⟩
  · exact Or.inr ⟨_, rfl, rfl⟩

structure StormKnown (start : Db) (i : ι) (s : StormState ι) (w : Worker) : Prop where
  valid : s.db.Valid
  accounts : ∀ id, (s.db.find .account id).isSome = (start.find .account id).isSome
  todo : ∀ t ∈ w.todo, Good start t
  call : ∀ t line, w.line = .call t line → Good start t ∧ NaiveKnown i s t line ∧ 0 ≤ line.owed t
  lost : 0 ≤ w.lost

omit [DecidableEq ι] in
theorem StormKnown.good {start : Db} (known : StormKnown start i s w) (good : Good start t) :
    Good s.db t where
  positive := good.positive
  sender := (known.accounts _).trans good.sender
  receiver := (known.accounts _).trans good.receiver

theorem StormTurn.spares {start : Db} (turn : StormTurn failure i s w s' w')
    (known : StormKnown start i s w) : Spares i s s' := by
  cases turn with
  | call at_call turn | ended at_call turn =>
      obtain ⟨good, line, -⟩ := known.call _ _ at_call
      exact turn.spares known.valid (known.good good) line
  | _ => exact spares_same known.valid rfl rfl fun _ _ _ held => held

omit [Collation] in
theorem Leg.missing_nonneg (positive : 0 < t.amount) (leg : Leg) : 0 ≤ leg.missing t := by
  cases leg with
  | debit => exact Int.le_refl 0
  | credit => exact positive.le

theorem reconnected_cases {leg : Leg} {e : Exn} {line' : NaiveLine}
    (tried : reconnected i s t leg e = some (s', line')) :
    (s' = s ∨ ∃ result, (s.release i).execute i t leg = some (s', result)) ∧
      ((∃ own, line' = leg.commit own) ∨ ∃ e', line' = leg.fail t e') := by
  unfold reconnected at tried
  split at tried
  · cases tried
    exact ⟨Or.inl rfl, Or.inr ⟨e, rfl⟩⟩
  · obtain ⟨⟨s₁, result⟩, executed, same⟩ := Option.map_eq_some_iff.mp tried
    cases result with
    | ok own =>
        cases same
        exact ⟨Or.inr ⟨_, executed⟩, Or.inl ⟨own, rfl⟩⟩
    | error e' =>
        simp only at same
        split at same <;> cases same
        · exact ⟨Or.inl rfl, Or.inr ⟨e, rfl⟩⟩
        · exact ⟨Or.inr ⟨_, executed⟩, Or.inr ⟨e', rfl⟩⟩

theorem NaiveTurn.owed_nonneg {line line' : NaiveLine}
    (turn : NaiveTurn failure i s t line s' (.inl line')) (positive : 0 < t.amount)
    (owed : 0 ≤ line.owed t) : 0 ≤ line'.owed t := by
  cases turn with
  | raise => exact owed
  | commitDebit => exact positive.le
  | update | overdraw | overflow =>
      simp only [owed_commit, owed_executed]
      exact Leg.missing_nonneg positive _
  | again | retryFails => exact Leg.missing_nonneg positive _
  | reconnect tried =>
      obtain ⟨-, ⟨own, rfl⟩ | ⟨e', rfl⟩⟩ := reconnected_cases tried <;>
        simp only [owed_commit, owed_fail]
      · exact Leg.missing_nonneg positive _
      · exact Leg.missing_nonneg positive _
  | _ => exact Int.le_refl 0

theorem NaiveTurn.missing_nonneg {line : NaiveLine} {outcome : Except Exn Unit}
    (turn : NaiveTurn failure i s t line s' (.inr outcome)) (owed : 0 ≤ line.owed t) :
    0 ≤ line.missing := by
  cases turn with
  | refused => exact Int.le_refl 0
  | close => exact owed

theorem StormTurn.known {start : Db} (turn : StormTurn failure i s w s' w')
    (known : StormKnown start i s w) : StormKnown start i s' w' := by
  have spares := turn.spares known
  have accounts (id : String) := (spares.accounts id).trans (known.accounts id)
  cases turn with
  | begin line todo =>
      obtain ⟨good, rest⟩ := List.forall_mem_cons.mp (todo ▸ known.todo)
      refine ⟨spares.valid, accounts, rest, fun t line eq => ?_, known.lost⟩
      cases eq
      exact ⟨good, trivial, Int.le_refl 0⟩
  | call at_call turn =>
      obtain ⟨good, line, owed⟩ := known.call _ _ at_call
      refine ⟨spares.valid, accounts, known.todo, fun t line' eq => ?_, known.lost⟩
      cases eq
      exact ⟨good, turn.known known.valid (known.good good) line, turn.owed_nonneg good.positive owed⟩
  | @ended t line s' outcome at_call turn =>
      obtain ⟨-, -, owed⟩ := known.call _ _ at_call
      have lost := Int.add_nonneg known.lost (turn.missing_nonneg owed)
      rcases ended_cases w line.missing outcome with ⟨key, eq⟩ | ⟨e, -, eq⟩ <;> rw [eq]
      · exact ⟨spares.valid, accounts, known.todo, fun _ _ => nofun, lost⟩
      · exact ⟨spares.valid, accounts, known.todo, fun _ _ => nofun, lost⟩
  | _ => exact ⟨spares.valid, accounts, known.todo, fun _ _ => nofun, known.lost⟩

omit [DecidableEq ι] in
theorem StormKnown.spared {start : Db} {j : ι} {u : Worker} (known : StormKnown start j s u)
    (ne : j ≠ i) (spares : Spares i s s') : StormKnown start j s' u where
  valid := spares.valid
  accounts id := (spares.accounts id).trans (known.accounts id)
  todo := known.todo
  call t line at_call := by
    obtain ⟨good, line, owed⟩ := known.call t line at_call
    exact ⟨good, line.spared ne spares, owed⟩
  lost := known.lost

/-! ## Whole storms -/

section
variable {failures : Bool} {n : Nat} {db : Db} {calls : ι → List Withdrawal}
  {c : Configuration ι (StormState ι) Worker}

theorem stormOutline (valid : db.Valid) (good : ∀ i, ∀ t ∈ calls i, Good db t) :
    Outline (storm failures) (stormStart n db calls) fun i s w => StormKnown db i s w where
  start i := ⟨valid, fun _ => rfl, good i, fun _ _ => nofun, Int.le_refl 0⟩
  own _ known moved := (stormStep_cases moved).known known
  stable _ ne mine known moved := known.spared ne ((stormStep_cases moved).spares mine)

/-- What a worker has taken from accounts and not put on others. -/
def Worker.outstanding (w : Worker) : Int :=
  w.lost + match w.line with
    | .call t line => line.owed t
    | _ => 0

omit [Collation] in
theorem ended_outstanding (w : Worker) (missing : Int) (outcome : Except Exn Unit) :
    (w.ended missing outcome).outstanding = w.lost + missing := by
  rcases ended_cases w missing outcome with ⟨key, eq⟩ | ⟨e, -, eq⟩ <;>
    simp [eq, Worker.outstanding, Worker.count]

theorem StormTurn.money {start : Db} (turn : StormTurn failure i s w s' w')
    (known : StormKnown start i s w) :
    s'.db.totalBalance + w'.outstanding = s.db.totalBalance + w.outstanding := by
  cases turn with
  | call at_call turn =>
      obtain ⟨good, line, -⟩ := known.call _ _ at_call
      have money := turn.money known.valid (known.good good) line
      simp only [Sum.elim_inl] at money
      simp only [Worker.outstanding, Worker.goto, at_call]
      omega
  | ended at_call turn =>
      obtain ⟨good, line, -⟩ := known.call _ _ at_call
      have money := turn.money known.valid (known.good good) line
      simp only [Sum.elim_inr] at money
      rw [ended_outstanding]
      simp only [Worker.outstanding, at_call]
      omega
  | idle line | begin line | acquire line | release line | load line | store line =>
      simp [Worker.outstanding, Worker.goto, line, NaiveLine.owed]

variable [Fintype ι]

theorem StormRun.money (valid : db.Valid) (good : ∀ i, ∀ t ∈ calls i, Good db t)
    (run : StormRun failures n db calls c) :
    c.shared.db.totalBalance + ∑ i, (c.point i).outstanding = db.totalBalance := by
  induction run with
  | start => simp [stormStart, Worker.outstanding]
  | @move c e i next past moved ih =>
      have known := (stormOutline valid good).holds past i
      have passed := (stormStep_cases moved).money known
      have total := total_move (fun s : StormState ι => s.db.totalBalance) Worker.outstanding passed
      exact total.trans ih

/-! ## Storms without failures -/

omit [DecidableEq ι] [Fintype ι] in
theorem StormKnown.outstanding_nonneg {start : Db} (known : StormKnown start i s w) :
    0 ≤ w.outstanding := by
  unfold Worker.outstanding
  split
  · exact Int.add_nonneg known.lost (known.call _ _ ‹_›).2.2
  · exact Int.add_nonneg known.lost (Int.le_refl 0)

/-- What a call ends with when nothing fails by itself. -/
def Expected (outcome : Except Exn Unit) : Prop :=
  outcome ∈ [.ok (), .error (.app .businessRule "Insufficient funds"), .error (.driver (mysqlError 3819))]

omit [Fintype ι] in
/-- A debit that is refused was raced by another. -/
theorem overdraw_raced {balance : Int} {since : Nat} {e : Exn} (valid : s.db.Valid)
    (good : Good s.db t) (read : HasRead s t balance since)
    (updated : s.update i t.sender (.credit (-t.amount)) = some (s', .error e)) :
    e = .driver (mysqlError 3819) ∧ since < s.debits (key t.sender) := by
  obtain ⟨r, found⟩ := Option.isSome_iff_exists.mp good.sender
  obtain ⟨nonneg, small⟩ := balance_range valid found
  have positive := good.positive
  obtain ⟨enough, below, past, fresh⟩ := read
  obtain ⟨-, -, ⟨-, large⟩ | ⟨rfl, negative⟩⟩ := update_error valid found updated
  · omega
  · refine ⟨rfl, lt_of_le_of_ne past fun same => ?_⟩
    obtain ⟨r', found', kept⟩ := fresh same.symm
    rw [found] at found'
    cases found'
    omega

theorem balance_le_total {db : Db} (valid : db.Valid) {id : String} {r : Account}
    (found : db.find .account id = some r) : r.balance ≤ db.totalBalance := by
  refine List.single_le_sum (fun x mem => ?_) _ (List.mem_map_of_mem (Db.find_mem found))
  obtain ⟨a, here, rfl⟩ := List.mem_map.mp mem
  simpa [checks] using valid.checks .account a here

/-- While what is outstanding is counted, no account has too much. -/
theorem StormRun.fits (valid : db.Valid) (good : ∀ i, ∀ t ∈ calls i, Good db t)
    (bounded : db.totalBalance < (10 ^ 15 : Int)) (run : StormRun failures n db calls c) {r : Account}
    (at_credit : (c.point i).line = .call t .credit)
    (found : c.shared.db.find .account t.receiver = some r) : r.balance + t.amount < (10 ^ 15 : Int) := by
  have known := (stormOutline valid good).holds run
  have money := StormRun.money valid good run
  have stored := balance_le_total (known i).valid found
  have mine : t.amount ≤ (c.point i).outstanding := by
    have lost := (known i).lost
    simp only [Worker.outstanding, at_credit, NaiveLine.owed]
    omega
  have all : (c.point i).outstanding ≤ ∑ j, (c.point j).outstanding :=
    Finset.single_le_sum (fun j _ => (known j).outstanding_nonneg) (Finset.mem_univ i)
  omega

/-- Nothing is lost, and no worker ends early. -/
structure Unbroken (w : Worker) : Prop where
  lost : w.lost = 0
  alive : ∀ e, w.line ≠ .crashed e
  close : ∀ t outcome missing, w.line = .call t (.close outcome missing) →
    missing = 0 ∧ Expected outcome

omit [Collation] [DecidableEq ι] [Fintype ι] in
theorem Unbroken.goto {line : StormLine} (unbroken : Unbroken w) (alive : ∀ e, line ≠ .crashed e)
    (close : ∀ t outcome missing, line = .call t (.close outcome missing) →
      missing = 0 ∧ Expected outcome) : Unbroken (w.goto line) :=
  ⟨unbroken.lost, alive, close⟩

omit [Collation] [DecidableEq ι] [Fintype ι] in
theorem Unbroken.ended {outcome : Except Exn Unit} (unbroken : Unbroken w)
    (expected : Expected outcome) : Unbroken (w.ended 0 outcome) := by
  have lost := unbroken.lost
  simp only [Expected, List.mem_cons, List.not_mem_nil, or_false] at expected
  rcases expected with rfl | rfl | rfl <;>
    exact ⟨by simp [Worker.ended, Worker.count, mysqlError, errorMap, lost],
      by simp [Worker.ended, Worker.count, mysqlError, errorMap],
      by simp [Worker.ended, Worker.count, mysqlError, errorMap]⟩

omit [DecidableEq ι] [Fintype ι] in
/-- What is credited cannot be overdrawn. -/
theorem Overdrawn.debit {leg : Leg} {e : Exn} (overdrawn : Overdrawn i s t leg e)
    (valid : s.db.Valid) (positive : 0 < t.amount) : leg = .debit := by
  obtain ⟨r, found, negative⟩ := overdrawn.row
  obtain ⟨nonneg, -⟩ := balance_range valid found
  cases leg with
  | debit => rfl
  | credit =>
      simp only [Leg.change] at negative
      omega

omit [Fintype ι] in
theorem NaiveTurn.unbroken {line : NaiveLine} {next : NaiveLine ⊕ Except Exn Unit}
    {outcome : Except Exn Unit} {missing : Int} (turn : NaiveTurn none i s t line s' next)
    (closes : next = .inl (.close outcome missing)) (valid : s.db.Valid) (good : Good s.db t)
    (known : NaiveKnown i s t line)
    (fits : ∀ r, line = .credit → s.db.find .account t.receiver = some r →
      r.balance + t.amount < (10 ^ 15 : Int)) : missing = 0 ∧ Expected outcome := by
  have positive := good.positive
  cases turn with
  | raise fails => exact absurd rfl fails
  | unknown missing =>
      have sender := good.sender
      rw [missing] at sender
      cases sender
  | reject =>
      cases closes
      exact ⟨rfl, by simp [Expected]⟩
  | @update line leg s' own here updated => cases leg <;> cases closes
  | overdraw updated =>
      -- a refused debit is tried again
      obtain ⟨rfl, -⟩ := overdraw_raced valid good known updated
      cases closes
  | overflow updated =>
      obtain ⟨r, found⟩ := good.account .credit
      obtain ⟨nonneg, -⟩ := balance_range valid found
      have small := fits r rfl found
      obtain ⟨-, -, ⟨-, large⟩ | ⟨-, negative⟩⟩ := update_error valid found updated
      · simp only [Leg.change] at large
        omega
      · simp only [Leg.change] at negative
        omega
  | reconnect tried =>
      cases (Overdrawn.reconnected known).symm.trans tried
      cases Overdrawn.debit known valid positive
      cases closes
      exact ⟨rfl, by simp [Expected, known.check]⟩
  | commitCredit =>
      cases closes
      exact ⟨rfl, by simp [Expected]⟩
  | _ => cases closes

omit [Fintype ι] in
theorem StormTurn.unbroken {start : Db} (turn : StormTurn none i s w s' w')
    (known : StormKnown start i s w) (unbroken : Unbroken w)
    (fits : ∀ t, w.line = .call t .credit → ∀ r, s.db.find .account t.receiver = some r →
      r.balance + t.amount < (10 ^ 15 : Int)) : Unbroken w' := by
  cases turn with
  | call at_call turn =>
      obtain ⟨good, line, -⟩ := known.call _ _ at_call
      refine unbroken.goto nofun fun t' outcome missing eq => ?_
      cases eq
      exact turn.unbroken rfl known.valid (known.good good) line fun r at_credit =>
        fits _ (at_credit ▸ at_call) r
  | ended at_call turn =>
      cases turn with
      | refused fails => cases fails
      | close =>
          obtain ⟨rfl, expected⟩ := unbroken.close _ _ _ at_call
          exact unbroken.ended expected
  | begin => exact ⟨unbroken.lost, nofun, nofun⟩
  | _ => exact unbroken.goto nofun nofun

theorem unbrokenOutline (valid : db.Valid) (good : ∀ i, ∀ t ∈ calls i, Good db t)
    (bounded : db.totalBalance < (10 ^ 15 : Int)) :
    Outline (storm false) (stormStart n db calls) fun _ _ w => Unbroken w where
  start i := ⟨rfl, nofun, nofun⟩
  stable _ _ _ unbroken _ := unbroken
  own {c e i next} run unbroken moved := by
    have known := (stormOutline valid good).holds run i
    exact (stormStep_cases moved).unbroken known unbroken fun t at_credit r =>
      StormRun.fits valid good bounded run at_credit

def StormLine.isFinished : StormLine → Bool
  | .finished => true
  | _ => false

omit [Collation] [DecidableEq ι] [Fintype ι] in
theorem StormLine.isFinished_iff {line : StormLine} : line.isFinished = true ↔ line = .finished := by
  cases line <;> simp [StormLine.isFinished]

/-! ## The money of a storm -/

/-- What has left an account is on another one, or on its way, or lost with a call that failed. -/
structure StormMoney (db : Db) (c : Configuration ι (StormState ι) Worker) : Prop where
  valid : c.shared.db.Valid
  total : c.shared.db.totalBalance + ∑ i, (c.point i).outstanding = db.totalBalance
  nonneg : ∀ a ∈ c.shared.db .account, 0 ≤ a.balance
  lost : ∀ i, 0 ≤ (c.point i).lost

theorem storm_money (valid : db.Valid) (good : ∀ i, ∀ t ∈ calls i, Good db t)
    (run : StormRun failures n db calls c) : StormMoney db c := by
  have known := (stormOutline valid good).holds run
  have now : c.shared.db.Valid := by
    cases run with
    | start => exact valid
    | move e i past moved => exact (known i).valid
  refine ⟨now, StormRun.money valid good run, fun a mem => ?_, fun i => (known i).lost⟩
  simpa [checks] using now.checks .account a mem

/-- When nothing fails by itself, no money is lost, and the only driver error is that of the CHECK
on a debit another one was committed before, after the balance was read. -/
theorem storm_conserves (valid : db.Valid) (good : ∀ i, ∀ t ∈ calls i, Good db t)
    (bounded : db.totalBalance < (10 ^ 15 : Int)) (run : StormRun false n db calls c) :
    (∀ i, Unbroken (c.point i)) ∧
    ((∀ i, (c.point i).line = .finished) → c.shared.db.totalBalance = db.totalBalance) ∧
    ∀ i t balance since s' e, (c.point i).line = .call t (.debit balance since) →
      c.shared.update i t.sender (.credit (-t.amount)) = some (s', .error e) →
      e = .driver (mysqlError 3819) ∧ since < c.shared.debits (key t.sender) := by
  have known := (stormOutline valid good).holds run
  have unbroken := (unbrokenOutline valid good bounded).holds run
  refine ⟨unbroken, fun finished => ?_, fun i t balance since s' e at_debit updated => ?_⟩
  · have money := StormRun.money valid good run
    have none (i : ι) : (c.point i).outstanding = 0 := by
      simp [Worker.outstanding, finished i, (unbroken i).lost]
    simpa [none] using money
  · obtain ⟨fine, line, -⟩ := (known i).call _ _ at_debit
    exact overdraw_raced (known i).valid ((known i).good fine) line updated

end

end

/-! ## Two workers and one account -/

attribute [local instance] foldCase clearText

/-- Both withdraw 60.00 from the 100.00 of Ann. -/
def contending : Bool → List Withdrawal := fun _ => [⟨"a-1", "b-1", 6000⟩]

theorem contending_good : ∀ i, ∀ t ∈ contending i, Good opened t := by
  intro i t mem
  cases List.mem_singleton.mp mem
  exact ⟨by decide, by decide +kernel, by decide +kernel⟩

def plainly (schedule : List Bool) : List (Bool × Option Exn) := schedule.map fun i => (i, none)

/-- Both have read the balance when the first debits, and the second is stopped by the CHECK, three
times. -/
def bothRead : List Bool :=
  List.replicate 3 false ++ List.replicate 3 true ++ List.replicate 5 false ++ List.replicate 4 true

def merged : List Bool := List.replicate 9 false ++ List.replicate 9 true

theorem storm_conserves_contending : ∃ c,
    follow (storm false) (plainly (bothRead ++ merged)) (stormStart 2 opened contending) = some c ∧
    Tally.all.map c.shared.counters = [1, 0, 1] ∧ c.shared.db.totalBalance = opened.totalBalance := by
  have ends : (follow (storm false) (plainly (bothRead ++ merged)) (stormStart 2 opened contending)).any
      (fun c => Tally.all.map c.shared.counters = [1, 0, 1] ∧
        ∀ i, (c.point i).line.isFinished = true) = true := by decide +kernel
  obtain ⟨c, run, ok⟩ := (Option.any_eq_true _ _).mp ends
  obtain ⟨counted, finished⟩ := of_decide_eq_true ok
  have conserves := storm_conserves reachable_opened.valid contending_good (by decide +kernel)
    (Execution.start.follow run)
  exact ⟨c, run, counted, conserves.2.1 fun i => StormLine.isFinished_iff.mp (finished i)⟩

def connectionLost : List (Bool × Option Exn) :=
  [(false, some (.driver (mysqlError 2013))), (false, none)]

/-- The connection of the first is lost before the credit, and 60.00 with it. -/
theorem storm_money_contending : ∃ c,
    follow (storm true) (plainly (List.replicate 5 false) ++ connectionLost)
      (stormStart 2 opened contending) = some c ∧
    (c.point false).lost = 6000 ∧ c.shared.db.totalBalance = 4000 ∧ StormMoney opened c := by
  have ends : (follow (storm true)
      (plainly (List.replicate 5 false) ++ connectionLost)
      (stormStart 2 opened contending)).any (fun c =>
        (c.point false).lost = 6000 ∧ c.shared.db.totalBalance = 4000) = true := by decide +kernel
  obtain ⟨c, run, ok⟩ := (Option.any_eq_true _ _).mp ends
  obtain ⟨lost, total⟩ := of_decide_eq_true ok
  exact ⟨c, run, lost, total,
    storm_money reachable_opened.valid contending_good (Execution.start.follow run)⟩

end Corebank
