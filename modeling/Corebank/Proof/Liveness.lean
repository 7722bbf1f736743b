import Corebank.Concurrency
import Corebank.Proof.Transfer
import Corebank.Library.Progress

/-! # No deadlock and no lost connection -/

namespace Corebank
open Library Library.TwoPhase TransactionService

section
variable [Collation]

/-! ## The calls lock rows in the order of their ids -/

variable (rank : String → String) {actor : Actor} {senderId receiverId : String}

omit [Collation] in
theorem ledgerSteps_ascending (record : Transaction) (held : Set String) :
    (ledgerSteps record).Ascending rank held := by
  unfold ledgerSteps
  split
  · exact .raise
  · exact .append .done

theorem moveSteps_ascending (env : Env) (amount : Int) {held : Set String}
    (sender : key senderId ∈ held) (receiver : key receiverId ∈ held) :
    (moveSteps env senderId receiverId amount).Ascending rank held := by
  refine .update (Or.inl sender) (fun n => ?_) ?_
  · split
    · exact .raise
    · exact .update (Or.inl (Set.mem_insert_of_mem _ receiver))
        (fun _ => ledgerSteps_ascending rank _ _) (ledgerSteps_ascending rank _ _)
  · rw [if_pos (by decide)]
    exact .raise

theorem transferSteps_ascending (env : Env) (amount : Int) (differ : senderId ≠ receiverId)
    (sender : rank (key senderId) = senderId) (receiver : rank (key receiverId) = receiverId) :
    (transferSteps env actor senderId receiverId amount).Ascending rank ∅ := by
  -- the first id is the only row held when the second is locked
  have above {first second : String} (lt : first < second) (hf : rank (key first) = first)
      (hs : rank (key second) = second) :
      ∀ h ∈ insert (key first) (∅ : Set String), rank h < rank (key second) := by
    intro h mem
    rw [Set.mem_insert_iff, or_iff_left (Set.notMem_empty h)] at mem
    rw [mem, hf, hs]
    exact lt
  by_cases le : senderId ≤ receiverId
  · simp only [transferSteps, le, if_true, differ.symm, if_false]
    refine .lock (Or.inr (by simp))
      (fun s => .lock (Or.inr (above (lt_of_le_of_ne le differ) sender receiver)) (fun r => ?_) ?_)
      (.lock (Or.inr (by simp)) (fun r => ?_) ?_)
    · cases authorize actor (some s) (some r) with
      | error e => exact .raise
      | ok _ => exact moveSteps_ascending rank env amount (by simp) (by simp)
    · exact .raise
    · exact .raise
    · exact .raise
  · simp only [transferSteps, le, if_true, differ, if_false]
    refine .lock (Or.inr (by simp))
      (fun r => .lock (Or.inr (above (lt_of_not_ge le) receiver sender)) (fun s => ?_) ?_)
      (.lock (Or.inr (by simp)) (fun s => ?_) ?_)
    · cases authorize actor (some s) (some r) with
      | error e => exact .raise
      | ok _ => exact moveSteps_ascending rank env amount (by simp) (by simp)
    · exact .raise
    · exact .raise
    · exact .raise

omit [Collation] in
theorem readsOnly_ascending {body : AccountProg} (reads : readsOnly body) (held : Set String) :
    body.Ascending rank held := by
  induction body with
  | done r => exact .done
  | raise e => exact .raise
  | select next ih => exact .select fun s => ih s (reads s)
  | lock k next ih => exact reads.elim
  | update k change next ih => exact reads.elim
  | append entry next ih => exact reads.elim

theorem job_ascending (env : Env) (call : Call) (spelled : ∀ id ∈ call.ids, rank (key id) = id) :
    (call.job env).Ascending rank := by
  cases call with
  | transfer actor senderId receiverId amount =>
      simp only [Call.job, transferJob]
      split
      · trivial
      · split
        · trivial
        · split
          · trivial
          · rename_i differ
            exact transferSteps_ascending rank env _ differ
              (spelled _ List.mem_cons_self) (spelled _ (by simp [Call.ids]))
  | setBalance accountId balance =>
      simp only [Call.job, setBalanceJob]
      split
      · trivial
      · refine .update (Or.inr (by simp)) (fun n => ?_) .raise
        split
        · exact .raise
        · exact .select fun _ => .done
  | readOnly body => exact readsOnly_ascending rank body.property ∅

/-! ## Every reachable state -/

variable {ι : Type} [DecidableEq ι] [Fintype ι]

/-- The ids the calls name are row keys: two that compare equal are one string. -/
def ExactIds (calls : ι → Call) : Prop :=
  ∀ i j, ∀ id ∈ (calls i).ids, ∀ id' ∈ (calls j).ids, key id = key id' → id = id'

omit [DecidableEq ι] [Fintype ι] in
theorem exact_rank {calls : ι → Call} (exact : ExactIds calls) :
    ∃ rank : String → String, ∀ i, ∀ id ∈ (calls i).ids, rank (key id) = id := by
  let named := { id : String // ∃ i, id ∈ (calls i).ids }
  let keyOf (id : named) : String := key id.val
  have injective : Function.Injective keyOf := by
    rintro ⟨id, i, mem⟩ ⟨id', j, mem'⟩ same
    exact Subtype.ext (exact i j id mem id' mem' same)
  exact ⟨Function.extend keyOf Subtype.val id, fun i id mem =>
    injective.extend_apply Subtype.val _ (⟨id, i, mem⟩ : named)⟩

/-- A state in which no connection is lost and somebody can go on. -/
structure Live (n : Nat) (jobs : ι → AccountJob) (m : Bank ι) : Prop where
  oneConnection : ∀ i, (m.sessions i).borrowed =
    (m.sessions i).returned + if (m.phase i).inside then 1 else 0
  borrowedOnce : ∀ i, (m.sessions i).borrowed ≤ 1
  connections : n - m.free = inUse m.phase
  pool : m.free ≤ n
  progress : (∃ i, (m.phase i).isFinished = false) →
    ∃ i, (m.phase i).isFinished = false ∧ (m.step accountSchema jobs i).isSome

theorem calls_live {calls : ι → Call} (exact : ExactIds calls) (env : ι → Env) {n : Nat}
    (pool : 1 ≤ n) {db : Db} (valid : db.Valid) {m : Bank ι}
    (reached : Machine.Reachable accountSchema (fun i => (calls i).job (env i)) true
      (start n db.accounts) m) : Live n (fun i => (calls i).job (env i)) m := by
  obtain ⟨rank, spelled⟩ := exact_rank exact
  have locked := Reachable.locked (valid.ids .account) reached
  have accounted := Reachable.accounted reached
  have ordered := Reachable.ascending rank (fun i => job_ascending rank (env i) (calls i) (spelled i))
    reached
  have counts := accounted.pool
  refine ⟨fun i => ?_, fun i => ?_, by omega, by omega, ?_⟩
  · have counted := accounted.counted i
    have phase : (m.sessions i).phase = m.phase i := rfl
    cases at_phase : m.phase i <;>
      simp only [Session.Counted, phase, at_phase, Phase.inside] at counted ⊢ <;> simp [counted]
  · have counted := accounted.counted i
    have phase : (m.sessions i).phase = m.phase i := rfl
    cases at_phase : m.phase i <;> simp only [Session.Counted, phase, at_phase] at counted <;> omega
  · rintro ⟨i, unfinished⟩
    exact progress rank locked ordered accounted pool unfinished

end

attribute [local instance] foldCase clearText

def crossing : Fin 3 → Call
  | 0 => .transfer ann "a-1" "b-1" ⟨40, 0⟩
  | 1 => .transfer bob "b-1" "a-1" ⟨5, 0⟩
  | 2 => .setBalance "b-1" ⟨10, 0⟩

theorem crossing_exact : ExactIds crossing := by
  have spelled : ∀ i, ∀ id ∈ (crossing i).ids, id = "a-1" ∨ id = "b-1" := by decide
  intro i j id mem id' mem' same
  rcases spelled i id mem with rfl | rfl <;> rcases spelled j id' mem' with rfl | rfl
  · rfl
  · exact absurd same (by decide)
  · exact absurd same (by decide)
  · rfl

/-- Ann's transfer holds both rows, Bob's waits for the first, and loses its connection there. -/
theorem calls_live_crossing : ∃ m m', (start 2 opened.accounts : Bank (Fin 3)).follow accountSchema
      (fun i => (crossing i).job (noon "t")) [0, 0, 1, 1, 0, 0] = some m ∧
    m.step accountSchema (fun i => (crossing i).job (noon "t")) 1 = none ∧
    m.fault 1 (.driver (mysqlError 2013)) = some m' ∧
    Live 2 (fun i => (crossing i).job (noon "t")) m' := by
  have ends : ((start 2 opened.accounts : Bank (Fin 3)).follow accountSchema
      (fun i => (crossing i).job (noon "t")) [0, 0, 1, 1, 0, 0]).any (fun m =>
        (m.step accountSchema (fun i => (crossing i).job (noon "t")) 1).isNone &&
          (m.fault 1 (.driver (mysqlError 2013))).isSome) = true := by decide +kernel
  obtain ⟨m, run, waits⟩ := (Option.any_eq_true _ _).mp ends
  simp only [Bool.and_eq_true, Option.isNone_iff_eq_none] at waits
  obtain ⟨m', faulted⟩ := Option.isSome_iff_exists.mp waits.2
  refine ⟨m, m', run, waits.1, faulted, ?_⟩
  have reached : Machine.Reachable accountSchema (fun i => (crossing i).job (noon "t")) true
      (start 2 opened.accounts) m := .follow _ _ .start run
  exact calls_live crossing_exact _ (by decide) reachable_opened.valid (.fault 1 _ rfl reached faulted)

end Corebank
