import Corebank.Sessions
import Corebank.Library.Isolation
import Corebank.Proof.Reports

/-!
# Tickets under concurrent calls

Status and resolved date are set together, from the clock as the call began, so every version of a
ticket has both or neither, and no ticket is resolved before it is created.
-/

namespace Corebank
open Library Library.Snapshot

section
variable [Collation] {ι : Type} [Fintype ι] [DecidableEq ι]

abbrev TicketPhase := Phase String Ticket Ticket TicketChange Exn Response

/-! ## Runs -/

def returns (id : String) : TicketCall → TicketPhase → Bool
  | .create _ _ _, .finished (.ok (.row .customerSupport (some ticket))) _ _ => ticket.ticketId = id
  | _, _ => false

/-- The status is set of tickets only that a call has created and returned. -/
def known (calls : ι → TicketCall × Env) (m : RowMachine ι .customerSupport) : TicketCall → Bool
  | .setStatus ticketId _ => decide (∃ j, returns ticketId (calls j).1 (m.phases j) = true)
  | _ => true

/-- The next step of call `i`, with the last reading of the clock. -/
def deskStep (db : Db) (calls : ι → TicketCall × Env) (m : RowMachine ι .customerSupport) (now : Int)
    (i : ι) : Option (RowMachine ι .customerSupport × Int) :=
  let (call, env) := calls i
  match m.phases i with
  | .idle =>
      if now ≤ env.utcnow.micros ∧ known calls m call = true then
        (m.begin i (call.steps env)).map fun m' => (m', env.utcnow.micros)
      else none
  | _ => (m.step (rowSchema .customerSupport db) i).map fun m' => (m', now)

inductive DeskRun (db : Db) (calls : ι → TicketCall × Env) : RowMachine ι .customerSupport → Int → Prop where
  | start (now : Int) : DeskRun db calls (Snapshot.start (db .customerSupport)) now
  | next {m m' : RowMachine ι .customerSupport} {now now' : Int} (i : ι)
      (reached : DeskRun db calls m now) (taken : deskStep db calls m now i = some (m', now')) :
      DeskRun db calls m' now'
  | fault {m m' : RowMachine ι .customerSupport} {now : Int} (i : ι) (e : Exn)
      (reached : DeskRun db calls m now) (raised : m.fault i e = some m') : DeskRun db calls m' now

theorem DeskRun.follow {db : Db} {calls : ι → TicketCall × Env} {schedule : List ι}
    {m m' : RowMachine ι .customerSupport} {now now' : Int} (reached : DeskRun db calls m now)
    (followed : schedule.foldlM (fun p i => deskStep db calls p.1 p.2 i) (m, now) =
      some (m', now')) : DeskRun db calls m' now' :=
  Keyed.foldlM_keeps (P := fun p => DeskRun db calls p.1 p.2)
    (fun _ i _ reached taken => reached.next i taken) reached followed

def TicketCall.creates : TicketCall → Bool
  | .create _ _ _ => true
  | _ => false

def FreshTickets (calls : ι → TicketCall × Env) : Prop :=
  ∀ i j, (calls i).1.creates = true → (calls j).1.creates = true →
    key (calls i).2.newId = key (calls j).2.newId → i = j

/-! ## What every version of a ticket keeps -/

structure DatesAgree (t : Ticket) : Prop where
  resolved : t.resolvedDate.isSome = true ↔ t.status = .resolved
  ordered : ∀ d, t.resolvedDate = some d → t.createdDate.micros ≤ d.micros

/-- A ticket comes from one of the calls and has its creation date from it. -/
structure Filed (calls : ι → TicketCall × Env) (t : Ticket) : Prop where
  agree : DatesAgree t
  origin : ∃ j, (calls j).1.creates = true ∧ rowKey .customerSupport t = key (calls j).2.newId ∧
    t.createdDate = dateTime (calls j).2.utcnow

/-- A call that sets a status comes after the creation of its ticket. -/
def MayExecute (calls : ι → TicketCall × Env) (i : ι) : Stmt String Ticket TicketChange → Prop
  | .insert row => (calls i).1.creates = true ∧ row.ticketId = (calls i).2.newId ∧
      row.createdDate = (calls i).2.utcnow ∧ row.status = .open ∧ row.resolvedDate = none
  | .update k change =>
      (∃ j, (calls j).1.creates = true ∧ key (calls j).2.newId = k ∧
        (calls j).2.utcnow.micros ≤ (calls i).2.utcnow.micros) ∧
      change.resolvedDate = if change.status = .resolved then some (calls i).2.utcnow else none
  | .delete _ => True

def MayAnswer (calls : ι → TicketCall × Env) (i : ι) : Response → Prop
  | .row .customerSupport (some ticket) =>
      (calls i).1.creates = true → ticket.ticketId = (calls i).2.newId
  | _ => True

section
variable {db : Db} {calls : ι → TicketCall × Env}

omit [Fintype ι] [DecidableEq ι] in
theorem filed_insert {i : ι} {row t : Ticket} {taken : Bool}
    (may : MayExecute calls i (.insert row))
    (admitted : admitRow db .customerSupport row taken = .ok t) : Filed calls t := by
  obtain ⟨creates, id, created, isOpen, unresolved⟩ := may
  obtain ⟨-, -, -, rfl⟩ := admitRow_ok admitted
  refine ⟨⟨?_, ?_⟩, i, creates, ?_, ?_⟩
  · simp [store, isOpen, unresolved]
  · simp [store, unresolved]
  · rw [rowKey_store, ← id]
    rfl
  · rw [← created]
    rfl

omit [Fintype ι] [DecidableEq ι] in
theorem filed_update (fresh : FreshTickets calls) {i : ι} {k : String} {change : TicketChange}
    {t t' : Ticket} (may : MayExecute calls i (.update k change)) (filed : Filed calls t)
    (same : rowKey .customerSupport t = k)
    (changed : changeRow .customerSupport change t = .ok (some t')) : Filed calls t' := by
  obtain ⟨⟨j, creates, id, before⟩, resolvedDate⟩ := may
  obtain ⟨j', creates', id', created⟩ := filed.origin
  obtain rfl : j = j' := fresh j j' creates creates' (id.trans (same.symm.trans id'))
  have keeps := changeRow_key changed
  rcases changeRow_ok changed with ⟨none, -⟩ | stored
  · cases none
  cases stored
  have stamp : (dateTime t.createdDate) = t.createdDate := by rw [created, dateTime_idem]
  refine ⟨⟨?_, ?_⟩, j, creates, keeps.trans id', stamp.trans created⟩
  · simp only [store, Change.apply, Option.isSome_map, resolvedDate]
    split <;> simp_all
  · intro d set
    simp only [store, Change.apply, resolvedDate] at set
    split at set
    · cases set
      have order := dateTime_mono before
      rw [← created, ← stamp] at order
      exact order
    · cases set

omit [Fintype ι] [DecidableEq ι] in
theorem filed_keeps (fresh : FreshTickets calls) (i : ι) (s : Stmt String Ticket TicketChange)
    (current : Option Ticket) (t : Ticket) (may : MayExecute calls i s)
    (filed : ∀ u, current = some u → Filed calls u ∧
      rowKey .customerSupport u = s.key (rowSchema .customerSupport db))
    (made : s.exec (rowSchema .customerSupport db) current = .ok (some (.put t))) :
    Filed calls t := by
  cases s with
  | insert row =>
      obtain ⟨_, same, admitted⟩ := Stmt.exec_insert made
      cases same
      rw [rowSchema_insert] at admitted
      exact filed_insert may admitted
  | update k change =>
      obtain ⟨u, _, same, found, changed⟩ := Stmt.exec_update made
      cases same
      obtain ⟨filed, keyed⟩ := filed u found
      rw [rowSchema_update] at changed
      exact filed_update fresh may filed keyed changed
  | delete k =>
      cases current with
      | none => cases made
      | some u => cases made

omit [Fintype ι] [DecidableEq ι] in
theorem steps_within {i : ι}
    (created : ∀ id status, (calls i).1 = .setStatus id status → ∃ j, (calls j).1.creates = true ∧
      key (calls j).2.newId = key id ∧ (calls j).2.utcnow.micros ≤ (calls i).2.utcnow.micros) :
    Prog.Within (MayExecute calls i) (MayAnswer calls i)
      ((calls i).1.steps (calls i).2) := by
  have writes {call : TicketCall} (same : (calls i).1 = call) (other : call.creates = false)
      (r : Response) : MayAnswer calls i r := by
    unfold MayAnswer
    split
    · intro creates
      rw [same, other] at creates
      cases creates
    · trivial
  cases call : (calls i).1 with
  | create customerId employeeId issueDescription =>
      exact ⟨⟨by rw [call]; rfl, rfl, rfl, rfl, rfl⟩, fun _ _ => rfl⟩
  | setStatus ticketId status =>
      refine ⟨⟨created ticketId status call, rfl⟩, fun n => ?_⟩
      dsimp only
      split
      · trivial
      · exact fun _ => writes call rfl _
  | delete ticketId =>
      refine ⟨trivial, fun n => ?_⟩
      dsimp only
      split
      · trivial
      · exact writes call rfl _

/-- Every version of a ticket is one a call filed, and a call has begun only by `now`. -/
structure Desk (calls : ι → TicketCall × Env) (m : RowMachine ι .customerSupport) (now : Int) : Prop where
  rows : Rows (Filed calls) (MayExecute calls) (MayAnswer calls) m
  begun : ∀ i, m.phases i = .idle ∨ (calls i).2.utcnow.micros ≤ now

omit [Fintype ι] [DecidableEq ι] in
theorem returns_created {m : RowMachine ι .customerSupport} {now : Int} (desk : Desk calls m now) {j : ι}
    {id : String} (returned : returns id (calls j).1 (m.phases j) = true) :
    (calls j).1.creates = true ∧ key (calls j).2.newId = key id ∧
      (calls j).2.utcnow.micros ≤ now := by
  unfold returns at returned
  split at returned
  · rename_i ticket _ _ call phase
    have creates : (calls j).1.creates = true := by
      rw [call]
      rfl
    have answered : ticket.ticketId = (calls j).2.newId :=
      desk.rows.answered j _ _ _ phase creates
    refine ⟨creates, ?_, ?_⟩
    · rw [← answered, of_decide_eq_true returned]
    · rcases desk.begun j with idle | before
      · rw [phase] at idle
        cases idle
      · exact before
  · cases returned

theorem desk_next (fresh : FreshTickets calls) {m m' : RowMachine ι .customerSupport} {now now' : Int}
    {i : ι} (desk : Desk calls m now) (taken : deskStep db calls m now i = some (m', now')) :
    Desk calls m' now' := by
  unfold deskStep at taken
  dsimp only at taken
  split at taken
  · split at taken
    · rename_i idle allowed
      obtain ⟨clock, knows⟩ := allowed
      obtain ⟨_, begins, same⟩ := Option.map_eq_some_iff.mp taken
      cases same
      refine ⟨desk.rows.begin (steps_within ?_) begins, ?_⟩
      · intro id status call
        rw [call] at knows
        obtain ⟨j, returned⟩ := of_decide_eq_true knows
        obtain ⟨creates, id, before⟩ := returns_created desk returned
        exact ⟨j, creates, id, Int.le_trans before clock⟩
      · intro j
        obtain ⟨-, rfl⟩ := begin_cases begins
        by_cases mine : j = i
        · subst mine
          exact Or.inr (Int.le_refl _)
        · rw [phases_goto_other _ mine]
          exact (desk.begun j).imp_right fun before => Int.le_trans before clock
    · cases taken
  · rename_i busy
    obtain ⟨_, steps, same⟩ := Option.map_eq_some_iff.mp taken
    cases same
    have move := step_moves steps
    refine ⟨desk.rows.move (filed_keeps fresh) move, ?_⟩
    intro j
    by_cases mine : j = i
    · subst mine
      exact Or.inr ((desk.begun j).resolve_left busy)
    · rw [move.other mine]
      exact desk.begun j

theorem desk_reached (empty : db .customerSupport = []) (fresh : FreshTickets calls)
    {m : RowMachine ι .customerSupport} {now : Int} (reached : DeskRun db calls m now) :
    Desk calls m now := by
  induction reached with
  | start now =>
      rw [empty]
      exact ⟨rows_start fun _ => nofun, fun _ => Or.inl rfl⟩
  | next i _ taken ih => exact desk_next fresh ih taken
  | @fault m m' now i e _ raised ih =>
      have move := fault_moves (S := rowSchema .customerSupport db) raised
      refine ⟨ih.rows.move (filed_keeps fresh) move, fun j => ?_⟩
      by_cases mine : j = i
      · subst mine
        obtain ⟨⟨work, phase⟩, -⟩ := fault_cases raised
        rcases ih.begun j with idle | before
        · rw [phase] at idle
          cases idle
        · exact Or.inr before
      · rw [move.other mine]
        exact ih.begun j

end

/-! ## The report -/

def dated (tickets : List Ticket) (e : Employee) : Nat :=
  (tickets.filter fun t => key e.employeeId = key t.employeeId && t.resolvedDate.isSome).length

omit [Fintype ι] [DecidableEq ι] in
theorem resolvedBy_dated {tickets : List Ticket} (agree : ∀ t ∈ tickets, DatesAgree t) (e : Employee) :
    (resolvedBy tickets e).length = dated tickets e := by
  rw [resolvedBy, dated]
  congr 1
  apply List.filter_congr
  intro t mem
  have resolved := (agree t mem).resolved
  by_cases done : t.status = .resolved
  · simp [done, resolved.mpr done]
  · simp [done, Option.not_isSome_iff_eq_none.mp (mt resolved.mp done)]

theorem tickets_resolved {db : Db} (valid : db.Valid) (empty : db .customerSupport = [])
    {calls : ι → TicketCall × Env} (fresh : FreshTickets calls)
    {m : RowMachine ι .customerSupport} {now : Int} (reached : DeskRun db calls m now) :
    (∀ t ∈ m.committed, DatesAgree t) ∧
      ∃ rows, (SupportService.topResolvers.run (db.set .customerSupport m.committed)).1 = .ok rows ∧
        rows.Perm ((db .employee).filterMap (topOf (db .employee) (dated m.committed))) := by
  have agree : ∀ t ∈ m.committed, DatesAgree t := fun t mem =>
    ((desk_reached empty fresh reached).rows.committed t mem).agree
  refine ⟨agree, _, ?_, List.Perm.refl _⟩
  have employees : db.set .customerSupport m.committed .employee = db .employee :=
    Db.set_other _ _ (by decide)
  have ids : ((db.set .customerSupport m.committed .employee).map (rowKey .employee)).Nodup := by
    rw [employees]
    exact valid.ids .employee
  have counts : (fun e => (resolvedBy (db.set .customerSupport m.committed .customerSupport) e).length) =
      dated m.committed := by
    funext e
    rw [Db.set_same]
    exact resolvedBy_dated agree e
  rw [SupportService.topResolvers, readOnly, Service.run, topResolvers_run ids, counts, employees]
  rfl

end

attribute [local instance] foldCase clearText

def staffed : Db :=
  let employee (name : String) : EmployeeData :=
    { branchId := "north", firstName := name, lastName := name, position := "Clerk",
      hireDate := ⟨62000000000000000, none⟩, phoneNumber := name, email := name }
  replay [(.createEmployee (employee "Eve"), noon "e-1"),
    (.createEmployee (employee "Fay"), noon "e-2")] opened

def desk : Fin 4 → TicketCall × Env
  | 0 => (.create "ann" "e-1" "Help", noon "s-1")
  | 1 => (.create "bob" "e-2" "Help", noon "s-2")
  | 2 => (.setStatus "s-1" .resolved, ⟨"", ⟨63000000000700000, none⟩, ""⟩)
  | 3 => (.setStatus "s-2" .resolved, ⟨"", ⟨63000000000800000, none⟩, ""⟩)

theorem tickets_resolved_staffed : ∃ m now, DeskRun staffed desk m now ∧
    (m.committed.map fun t => (t.ticketId, t.resolvedDate.isSome)) = [("s-1", true), ("s-2", true)] ∧
    (∀ t ∈ m.committed, DatesAgree t) ∧
    ∃ rows, (SupportService.topResolvers.run (staffed.set .customerSupport m.committed)).1 = .ok rows ∧
      rows.Perm ((staffed .employee).filterMap (topOf (staffed .employee) (dated m.committed))) := by
  have run : (([0, 1, 1, 0, 0, 1, 2, 3, 3, 2, 2, 3, 3, 2] : List (Fin 4)).foldlM
      (fun p i => deskStep staffed desk p.1 p.2 i)
      (Snapshot.start (staffed .customerSupport), (0 : Int))).map (fun p =>
        p.1.committed.map fun t => (t.ticketId, t.resolvedDate.isSome)) =
      some [("s-1", true), ("s-2", true)] := by
    decide +kernel
  obtain ⟨⟨m, now⟩, followed, tickets⟩ := Option.map_eq_some_iff.mp run
  have reached : DeskRun staffed desk m now := (DeskRun.start 0).follow followed
  refine ⟨m, now, reached, tickets, tickets_resolved (reachable_opened.replay _).valid ?_ ?_ reached⟩
  · decide +kernel
  · intro i j
    revert i j
    decide +kernel

end Corebank
