import Corebank.Sessions
import Corebank.Library.Isolation
import Corebank.Proof.Updates

/-!
# The status of a card under concurrent calls

`set_status` reads a card, updates it and reads it again. What it answers is right when its UPDATE
found the card as its reads show it.
-/

namespace Corebank
open Library Library.Snapshot

section
variable [Collation] {ι : Type} [Fintype ι] [DecidableEq ι]

/-- The runs of calls on cards whose steps are all `allowed`. -/
inductive CardRun (db : Db) (calls : ι → CardCall) (allowed : RowMachine ι .card → ι → Bool) :
    RowMachine ι .card → Prop where
  | start : CardRun db calls allowed (Snapshot.start (db .card))
  | next {m m' : RowMachine ι .card} (i : ι) (reached : CardRun db calls allowed m)
      (permitted : allowed m i = true)
      (taken : m.next (rowSchema .card db) (fun i => (calls i).steps db) i = some m') :
      CardRun db calls allowed m'
  | fault {m m' : RowMachine ι .card} (i : ι) (e : Exn) (reached : CardRun db calls allowed m)
      (raised : m.fault i e = some m') : CardRun db calls allowed m'

theorem CardRun.follow {db : Db} {calls : ι → CardCall} {allowed : RowMachine ι .card → ι → Bool}
    {schedule : List ι} {m m' : RowMachine ι .card} (reached : CardRun db calls allowed m)
    (followed : m.follow (rowSchema .card db) (fun i => (calls i).steps db) allowed schedule =
      some m') : CardRun db calls allowed m' := by
  refine Keyed.foldlM_keeps (fun m i m' reached taken => ?_) reached followed
  split at taken
  · exact reached.next i ‹_› taken
  · cases taken

/-- An UPDATE comes to a card that still exists, and that has the requested status only if the
snapshot says so too. -/
def undisturbed (m : RowMachine ι .card) (i : ι) : Bool :=
  match m.phases i with
  | .running ⟨some snapshot, _, _, .execute (.update k status) _⟩ =>
      (Keyed.lookup (rowKey .card) k m.committed).any fun c =>
        c.status ≠ status || (Keyed.lookup (rowKey .card) k snapshot).any (·.status = status)
  | _ => true

def HasStatus (cardId : String) (status : CardStatus) (cards : List Card) : Prop :=
  ∃ c, Keyed.lookup (rowKey .card) (key cardId) cards = some c ∧ c.status = status

/-- A card returned is a card the call committed, both with the requested status; a call that raises
changes nothing. -/
def AnswersStatus (cardId : String) (status : CardStatus) :
    Phase String Card Card CardStatus Exn Response → Prop
  | .finished (.ok r) _ after =>
      HasStatus cardId status after ∧ ∃ s : SafeCard, r = .card (some s) ∧ s.status = status
  | .finished (.error _) before after => after = before
  | _ => True

/-! ## Where a call of `set_status` stands -/

inductive StatusAt (db : Db) (cardId : String) (status : CardStatus) (actor : Actor)
    (committed : List Card) : Work String Card Card CardStatus Exn Response → Prop where
  | begun : StatusAt db cardId status actor committed
      ⟨none, [], [], cardStatusSteps db cardId status actor⟩
  | owned (snapshot : List Card) : StatusAt db cardId status actor committed
      ⟨some snapshot, [], [], .execute (.update (key cardId) status) fun _ => showCard cardId⟩
  | updated {snapshot : List Card} {writes : List (Write String Card)} {locks : List String}
      (locked : key cardId ∈ locks)
      (current : HasStatus cardId status (applied (rowSchema .card db) writes committed))
      (seen : HasStatus cardId status (applied (rowSchema .card db) writes snapshot)) :
      StatusAt db cardId status actor committed ⟨some snapshot, writes, locks, showCard cardId⟩
  | shown {snapshot : List Card} {writes : List (Write String Card)} {locks : List String}
      {s : SafeCard} (locked : key cardId ∈ locks)
      (current : HasStatus cardId status (applied (rowSchema .card db) writes committed))
      (seen : s.status = status) :
      StatusAt db cardId status actor committed ⟨some snapshot, writes, locks, .done (.card (some s))⟩
  | refused {snapshot : Option (List Card)} {writes : List (Write String Card)}
      {locks : List String} {e : Exn} :
      StatusAt db cardId status actor committed ⟨snapshot, writes, locks, .raise e⟩

def StatusCall (db : Db) (cardId : String) (status : CardStatus) (actor : Actor)
    (committed : List Card) : Phase String Card Card CardStatus Exn Response → Prop
  | .idle => True
  | .running work => StatusAt db cardId status actor committed work
  | .finished result before after => AnswersStatus cardId status (.finished result before after)

section
variable {db : Db} {cardId : String} {status : CardStatus} {actor : Actor}
  {m m' : RowMachine ι .card} {i : ι}

omit [Fintype ι] [DecidableEq ι] in
theorem hasStatus_applied {committed committed' : List Card} (writes : List (Write String Card))
    (same : Keyed.lookup (rowKey .card) (key cardId) committed' =
      Keyed.lookup (rowKey .card) (key cardId) committed)
    (current : HasStatus cardId status (applied (rowSchema .card db) writes committed)) :
    HasStatus cardId status (applied (rowSchema .card db) writes committed') := by
  obtain ⟨c, found, hasStatus⟩ := current
  exact ⟨c, (lookup_applied_congr (S := rowSchema .card db) writes same).trans found, hasStatus⟩

omit [Fintype ι] in
theorem statusCall_other (exclusive : Exclusive (rowSchema .card db) m)
    (move : Move (rowSchema .card db) m i m') {j : ι} (ne : j ≠ i)
    (stands : StatusCall db cardId status actor m.committed (m.phases j)) :
    StatusCall db cardId status actor m'.committed (m'.phases j) := by
  rw [move.other ne]
  rcases phase : m.phases j with _ | work | ⟨result, before, after⟩
  · trivial
  · rw [phase] at stands
    have stays (mem : key cardId ∈ work.locks) := exclusive.stays move ne (k := key cardId)
      (by rw [phase]; exact mem)
    cases stands with
    | begun => exact .begun
    | owned snapshot => exact .owned snapshot
    | updated locked current seen =>
        exact .updated locked (hasStatus_applied _ (stays locked) current) seen
    | shown locked current seen =>
        exact .shown locked (hasStatus_applied _ (stays locked) current) seen
    | refused => exact .refused
  · rwa [phase] at stands

omit [Collation] [Fintype ι] [DecidableEq ι] in
theorem changeRow_status {c c' : Card} (h : changeRow .card status c = .ok (some c')) :
    c'.status = status := by
  rcases changeRow_ok h with ⟨none, -⟩ | changed
  · cases none
  · cases changed
    rfl

omit [Collation] [Fintype ι] [DecidableEq ι] in
theorem changeRow_kept {c : Card} (h : changeRow .card status c = .ok none) : c.status = status := by
  rcases changeRow_ok h with ⟨-, kept⟩ | changed
  · exact (congrArg Card.status kept).symm
  · cases changed

theorem statusAt_update {committed snapshot : List Card} {c : Card}
    (found : Keyed.lookup (rowKey .card) (key cardId) committed = some c)
    (sees : c.status = status → HasStatus cardId status snapshot) :
    StatusAt db cardId status actor committed (Work.execute (rowSchema .card db) committed
      (some snapshot) [] [] (.update (key cardId) status) fun _ => showCard cardId) := by
  have current : Keyed.lookup (rowSchema .card db).key (key cardId)
      (applied (rowSchema .card db) [] committed) = some c := found
  simp only [Work.execute, Stmt.key, current, Stmt.exec, Option.isSome_some, if_true,
    rowSchema_update]
  rcases changed : changeRow .card status c with e | c'
  · exact .refused
  · cases c' with
    | none =>
        have kept := changeRow_kept changed
        exact .updated (List.mem_singleton_self _) ⟨c, found, kept⟩ (sees kept)
    | some c' =>
        have same : rowKey .card c' = key cardId :=
          (changeRow_key changed).trans (Keyed.lookup_key found)
        have written (cards : List Card) :
            HasStatus cardId status (applied (rowSchema .card db) [.put c'] cards) := by
          refine ⟨c', ?_, changeRow_status changed⟩
          exact (lookup_apply (S := rowSchema .card db) (.put c') cards _).trans (if_pos same.symm)
        exact .updated (List.mem_singleton_self _) (written _) (written _)

omit [Fintype ι] in
theorem statusCall_own (allowed : undisturbed m i = true) (move : Move (rowSchema .card db) m i m')
    (stands : StatusCall db cardId status actor m.committed (m.phases i)) :
    StatusCall db cardId status actor m'.committed (m'.phases i) := by
  cases move with
  | commit phase =>
      rw [phase] at stands
      rw [phases_finish]
      cases stands with
      | shown locked current seen => exact ⟨current, _, rfl, seen⟩
  | rollback => 
      rw [phases_finish]
      rfl
  | read phase =>
      rw [phase] at stands
      rw [phases_goto]
      cases stands with
      | begun =>
          rw [Option.getD_none]
          cases owned : (CardService.ensureOwned cardId actor).run
              (db.set .card (applied (rowSchema .card db) [] m.committed)) with
          | error e =>
              simp only [owned]
              exact .refused
          | ok _ =>
              simp only [owned]
              exact .owned _
      | updated locked current seen =>
          obtain ⟨s, found, seen⟩ := seen
          rw [Option.getD_some]
          simp only [found, Option.map_some]
          exact .shown locked current seen
  | execute phase free =>
      rw [phase] at stands
      rw [phases_goto]
      cases stands with
      | owned snapshot =>
          simp only [undisturbed, phase, Option.any_eq_true, Bool.or_eq_true, decide_eq_true_eq]
            at allowed
          obtain ⟨c, found, sees⟩ := allowed
          exact statusAt_update found fun kept => sees.resolve_left fun other => other kept

omit [Fintype ι] in
theorem statusCall_begin {call : CardCall} (asked : call = .setStatus cardId status actor)
    (h : m.begin i (call.steps db) = some m') :
    StatusCall db cardId status actor m'.committed (m'.phases i) := by
  obtain ⟨-, rfl⟩ := begin_cases h
  rw [phases_goto, asked]
  exact .begun

end

theorem statusCall_reached {db : Db} {calls : ι → CardCall} {m : RowMachine ι .card} {i : ι}
    {cardId : String} {status : CardStatus} {actor : Actor}
    (reached : CardRun db calls (fun m j => j ≠ i || undisturbed m j) m)
    (asked : calls i = .setStatus cardId status actor) :
    Exclusive (rowSchema .card db) m ∧
      StatusCall db cardId status actor m.committed (m.phases i) := by
  induction reached with
  | start => exact ⟨exclusive_start _, trivial⟩
  | @next m m' j reached allowed taken ih =>
      obtain ⟨exclusive, stands⟩ := ih
      unfold Machine.next at taken
      split at taken
      · refine ⟨exclusive.begin taken, ?_⟩
        by_cases mine : j = i
        · subst mine
          exact statusCall_begin asked taken
        · obtain ⟨-, rfl⟩ := begin_cases taken
          rw [phases_goto_other _ (Ne.symm mine)]
          exact stands
      · have move := step_moves taken
        refine ⟨exclusive.move move, ?_⟩
        by_cases mine : j = i
        · subst mine
          exact statusCall_own (by simpa using allowed) move stands
        · exact statusCall_other exclusive move (Ne.symm mine) stands
  | @fault m m' j e reached raised ih =>
      obtain ⟨exclusive, stands⟩ := ih
      have move := fault_moves (S := rowSchema .card db) raised
      refine ⟨exclusive.move move, ?_⟩
      by_cases mine : j = i
      · subst mine
        obtain ⟨-, rfl⟩ := fault_cases raised
        rw [phases_finish]
        rfl
      · exact statusCall_other exclusive move (Ne.symm mine) stands

theorem setStatus_answers {db : Db} {calls : ι → CardCall} {m : RowMachine ι .card} {i : ι}
    {cardId : String} {status : CardStatus} {actor : Actor}
    (reached : CardRun db calls (fun m j => j ≠ i || undisturbed m j) m)
    (asked : calls i = .setStatus cardId status actor) :
    AnswersStatus cardId status (m.phases i) := by
  obtain ⟨-, stands⟩ := statusCall_reached reached asked
  cases phase : m.phases i with
  | idle | running => trivial
  | finished result before after =>
      rw [phase] at stands
      exact stands

end

section
variable [Collation]

def shownStatus : Phase String Card Card CardStatus Exn Response → Option CardStatus
  | .finished (.ok (.card (some s))) _ _ => some s.status
  | _ => none

theorem shownStatus_of_answers {cardId : String} {status shown : CardStatus}
    {phase : Phase String Card Card CardStatus Exn Response}
    (answers : AnswersStatus cardId status phase) (shows : shownStatus phase = some shown) :
    shown = status := by
  unfold shownStatus at shows
  split at shows
  · obtain ⟨-, s, same, hasStatus⟩ := answers
    cases same
    cases shows
    exact hasStatus
  · cases shows

end

attribute [local instance] foldCase clearText

def carded : Db :=
  replay [(.createCard ⟨"a-1", .debit, "4000111122223333", 800000, "123", .active⟩, noon "c-1")]
    opened

/-- The status another call sets meanwhile is not the requested one. -/
def blocking : Fin 2 → CardCall
  | 0 => .setStatus "c-1" .blocked ann
  | 1 => .setStatus "C-1" .expired ann

def cardStatuses (m : RowMachine (Fin 2) .card) : List CardStatus := m.committed.map Card.status

theorem setStatus_answers_blocking : ∃ m, CardRun carded blocking (fun m j => j ≠ 0 || undisturbed m j) m ∧
    cardStatuses m = [.blocked] ∧ AnswersStatus "c-1" .blocked (m.phases 0) := by
  have run : (((Snapshot.start (carded .card) : RowMachine (Fin 2) .card).follow (rowSchema .card carded)
      (fun i => (blocking i).steps carded) (fun m j => j ≠ 0 || undisturbed m j)
      [0, 0, 1, 1, 1, 1, 1, 0, 0, 0]).map cardStatuses) = some [.blocked] := by
    decide +kernel
  obtain ⟨m, followed, statuses⟩ := Option.map_eq_some_iff.mp run
  have reached := CardRun.start.follow followed
  exact ⟨m, reached, statuses, setStatus_answers reached rfl⟩

def deleting : Fin 2 → CardCall
  | 0 => .setStatus "c-1" .blocked ann
  | 1 => .delete "c-1"

def blockingTwice : Fin 2 → CardCall
  | 0 => .setStatus "c-1" .blocked ann
  | 1 => .setStatus "c-1" .blocked ann

/-- Between the first read and the UPDATE of call 0, call 1 commits: the card is deleted, or has the
requested status already. -/
theorem setStatus_overtaken :
    (∃ m, CardRun carded deleting (fun _ _ => true) m ∧ cardStatuses m = [] ∧
      shownStatus (m.phases 0) = some .active ∧ ¬AnswersStatus "c-1" .blocked (m.phases 0)) ∧
    (∃ m, CardRun carded blockingTwice (fun _ _ => true) m ∧ cardStatuses m = [.blocked] ∧
      shownStatus (m.phases 0) = some .active ∧ ¬AnswersStatus "c-1" .blocked (m.phases 0)) := by
  have overtaken {calls : Fin 2 → CardCall} {schedule : List (Fin 2)} {statuses : List CardStatus}
      (run : ((Snapshot.start (carded .card) : RowMachine (Fin 2) .card).follow
        (rowSchema .card carded) (fun i => (calls i).steps carded) (fun _ _ => true) schedule).map
        (fun m => (cardStatuses m, shownStatus (m.phases 0))) = some (statuses, some .active)) :
      ∃ m, CardRun carded calls (fun _ _ => true) m ∧ cardStatuses m = statuses ∧
        shownStatus (m.phases 0) = some .active ∧ ¬AnswersStatus "c-1" .blocked (m.phases 0) := by
    obtain ⟨m, followed, seen⟩ := Option.map_eq_some_iff.mp run
    obtain ⟨committed, shown⟩ := Prod.mk.inj seen
    refine ⟨m, CardRun.start.follow followed, committed, shown, fun answers => ?_⟩
    cases shownStatus_of_answers answers shown
  exact ⟨@overtaken deleting [0, 0, 1, 1, 1, 0, 0, 0] _ (by decide +kernel),
    @overtaken blockingTwice [0, 0, 1, 1, 1, 1, 1, 0, 0, 0] _ (by decide +kernel)⟩

end Corebank
