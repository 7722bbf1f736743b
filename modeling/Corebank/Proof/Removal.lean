import Corebank.Library.Removal
import Corebank.Proof.Undo

/-! # Which rows can be deleted, and what their deletion leaves -/

namespace Corebank
open Library Library.Removal

/-! ## Rows that refer to each other -/

/-- A row, by its table and the key of its id. -/
abbrev Mark := Table × String

section
variable [Collation]

def markOf (t : Table) (r : Row t) : Mark := (t, rowKey t r)

def Db.marks (db : Db) : Set Mark := {m | ∃ r ∈ db m.1, rowKey m.1 r = m.2}

/-- The row `h` refers to the row `m`, by a key that restricts the deletion of `m`. -/
def Db.Holds (db : Db) (h m : Mark) : Prop :=
  ∃ r ∈ db h.1, rowKey h.1 r = h.2 ∧ ∃ fk ∈ foreignKeys h.1, fk.onDelete = none ∧ fk.parent = m.1 ∧
    ∃ v, fk.column r = some v ∧ key v = m.2

/-- The row without its references to rows that are gone, where the key sets them to NULL. -/
def forget (gone : List Mark) (t : Table) (r : Row t) : Row t :=
  (foreignKeys t).foldl (fun r fk =>
    match fk.onDelete with
    | some clear => if (fk.column r).any fun v => (fk.parent, key v) ∈ gone then clear r else r
    | none => r) r

def Db.withoutRows (gone : List Mark) (db : Db) : Db := fun t =>
  ((db t).filter fun r => markOf t r ∉ gone).map (forget gone t)

section
variable {gone more : List Mark}

theorem forget_other {t : Table} (ne : t ≠ .transaction) (r : Row t) : forget gone t r = r := by
  cases t <;> first | rfl | exact absurd rfl ne

theorem forget_transaction (r : Transaction) : forget gone .transaction r =
    if r.toAccountId.any (fun v => (Table.account, key v) ∈ gone) then { r with toAccountId := none }
    else r := rfl

@[simp] theorem rowKey_forget (t : Table) (r : Row t) :
    rowKey t (forget gone t r) = rowKey t r := by
  by_cases e : t = .transaction
  · subst e
    rw [forget_transaction]
    split <;> rfl
  · rw [forget_other e]

theorem restrict_forget {t : Table} {fk : ForeignKey t} (foreign : fk ∈ foreignKeys t)
    (restrict : fk.onDelete = none) (r : Row t) : fk.column (forget gone t r) = fk.column r := by
  by_cases e : t = .transaction
  · subst e
    simp only [foreignKeys, List.mem_cons, List.not_mem_nil, or_false] at foreign
    rcases foreign with rfl | rfl
    · rw [forget_transaction]
      split <;> rfl
    · cases restrict
  · rw [forget_other e]

theorem forget_forget (t : Table) (r : Row t) :
    forget more t (forget gone t r) = forget (gone ++ more) t r := by
  by_cases e : t = .transaction
  · subst e
    simp only [forget_transaction]
    cases receiver : Transaction.toAccountId r with
    | none => simp [receiver]
    | some v =>
        by_cases first : (Table.account, key v) ∈ gone <;>
          by_cases second : (Table.account, key v) ∈ more <;> simp [receiver, first, second]
  · rw [forget_other e, forget_other e, forget_other e]

theorem forget_nil (t : Table) (r : Row t) : forget [] t r = r := by
  by_cases e : t = .transaction
  · subst e
    rw [forget_transaction]
    simp
  · exact forget_other e r

theorem Db.withoutRows_nil (db : Db) : db.withoutRows [] = db := by
  funext t
  have rows : (db t).map (forget [] t) = db t := by
    conv_rhs => rw [← List.map_id (db t)]
    exact List.map_congr_left fun r _ => forget_nil t r
  simpa [Db.withoutRows] using rows

theorem Db.withoutRows_twice (db : Db) :
    (db.withoutRows gone).withoutRows more = db.withoutRows (gone ++ more) := by
  funext t
  have kept (r : Row t) : markOf t (forget gone t r) = markOf t r := by
    rw [markOf, rowKey_forget, markOf]
  simp only [Db.withoutRows, List.filter_map, List.filter_filter, List.map_map]
  have same : forget more t ∘ forget gone t = forget (gone ++ more) t := funext (forget_forget t)
  rw [same]
  congr 1
  refine List.filter_congr fun r _ => ?_
  simp [kept, Bool.and_comm]

theorem Db.mem_withoutRows {db : Db} {t : Table} {r : Row t} (mem : r ∈ db.withoutRows gone t) :
    ∃ o ∈ db t, markOf t o ∉ gone ∧ r = forget gone t o := by
  obtain ⟨o, listed, rfl⟩ := List.mem_map.mp mem
  obtain ⟨listed, stays⟩ := List.mem_filter.mp listed
  exact ⟨o, listed, of_decide_eq_true stays, rfl⟩

theorem Db.withoutRows_mem {db : Db} {t : Table} {r : Row t} (mem : r ∈ db t)
    (stays : markOf t r ∉ gone) :
    forget gone t r ∈ db.withoutRows gone t :=
  List.mem_map_of_mem (List.mem_filter.mpr ⟨mem, decide_eq_true stays⟩)

theorem Db.marks_withoutRows (db : Db) (m : Mark) : (db.withoutRows [m]).marks = db.marks \ {m} := by
  ext k
  constructor
  · rintro ⟨r, mem, names⟩
    obtain ⟨o, listed, stays, rfl⟩ := Db.mem_withoutRows mem
    rw [rowKey_forget] at names
    refine ⟨⟨o, listed, names⟩, fun same => stays (List.mem_singleton.mpr ?_)⟩
    exact (congrArg (k.1, ·) names).trans same
  · rintro ⟨⟨r, mem, names⟩, ne⟩
    have stays : markOf k.1 r ∉ [m] := fun same =>
      ne ((congrArg (k.1, ·) names.symm).trans (List.mem_singleton.mp same))
    exact ⟨_, Db.withoutRows_mem mem stays, (rowKey_forget k.1 r).trans names⟩

/-- What refers to a row refers to it until it goes itself. -/
theorem Db.holds_withoutRows {db : Db} {m h : Mark} (ne : h ≠ m) (k : Mark) :
    (db.withoutRows [m]).Holds h k ↔ db.Holds h k := by
  constructor
  · rintro ⟨r, mem, names, fk, foreign, restrict, refers⟩
    obtain ⟨o, listed, -, rfl⟩ := Db.mem_withoutRows mem
    rw [rowKey_forget] at names
    rw [restrict_forget foreign restrict] at refers
    exact ⟨o, listed, names, fk, foreign, restrict, refers⟩
  · rintro ⟨r, mem, names, fk, foreign, restrict, refers⟩
    have stays : markOf h.1 r ∉ [m] := fun same =>
      ne ((congrArg (h.1, ·) names.symm).trans (List.mem_singleton.mp same))
    have kept : fk.column (forget [m] h.1 r) = fk.column r := restrict_forget foreign restrict r
    rw [← kept] at refers
    refine ⟨_, Db.withoutRows_mem mem stays, ?_, fk, foreign, restrict, refers⟩
    exact (rowKey_forget h.1 r).trans names

end

/-! ## One delete -/

structure Removal where
  table : Table
  id : String
  env : Env

def Removal.call (x : Removal) : Operation × Env := (deleteOf x.table x.id, x.env)

def Removal.mark (x : Removal) : Mark := (x.table, key x.id)

theorem find_marks {db : Db} {t : Table} {id : String} :
    (db.find t id).isSome ↔ (t, key id) ∈ db.marks := Keyed.lookup_isSome

theorem restricted_holds {db : Db} {t : Table} {id : String} :
    restricted db t id = true ↔ ∃ h ∈ db.marks, db.Holds h (t, key id) := by
  simp only [restricted, List.any_eq_true, Bool.and_eq_true, decide_eq_true_eq,
    Option.isNone_iff_eq_none, Option.any_eq_true]
  constructor
  · rintro ⟨child, -, fk, foreign, ⟨parent, restrict⟩, r, mem, refers⟩
    exact ⟨markOf child r, ⟨r, mem, rfl⟩, r, mem, rfl, fk, foreign, restrict, parent, refers⟩
  · rintro ⟨h, -, r, mem, -, fk, foreign, restrict, parent, refers⟩
    exact ⟨h.1, Table.mem_all h.1, fk, foreign, ⟨parent, restrict⟩, r, mem, refers⟩

theorem nullify_forget (t : Table) (id : String) (child : Table) (r : Row child) :
    nullify t id child r = forget [(t, key id)] child r := by
  by_cases e : child = .transaction
  · subst e
    rw [nullify_transaction, forget_transaction]
    congr 1
    cases Transaction.toAccountId r <;> simp [@eq_comm _ t]
  · rw [nullify_other t id e, forget_other e]

/-- No row of the table refers to another of it. -/
theorem forget_self (t : Table) (k : String) (r : Row t) : forget [(t, k)] t r = r := by
  by_cases e : t = .transaction
  · subst e
    rw [forget_transaction, if_neg]
    simp
  · exact forget_other e r

theorem exec_delete_withoutRows (db : Db) (t : Table) (id : String) :
    (Statement.delete t id).exec db =
      if (db.find t id).isNone then .ok (0, db)
      else if restricted db t id then .error (mysqlError 1451)
      else .ok (1, db.withoutRows [(t, key id)]) := by
  have left : Db.set (fun child => (db child).map (nullify t id child)) t
      (Keyed.remove (rowKey t) (key id) (db t)) = db.withoutRows [(t, key id)] := by
    funext child
    by_cases e : child = t
    · subst e
      rw [Db.set_same, Db.withoutRows, funext (forget_self child (key id)), List.map_id', Keyed.remove]
      simp [markOf]
    · have all : (db child).filter (fun r => markOf child r ∉ [(t, key id)]) = db child :=
        List.filter_eq_self.mpr fun r _ => by simp [markOf, e]
      rw [Db.set_other _ _ e, Db.withoutRows, all]
      exact List.map_congr_left fun r _ => nullify_forget t id child r
  cases found : db.find t id with
  | none => simp [Statement.exec, found]
  | some r => simp [Statement.exec, found, left]

variable [Werkzeug] {db db' : Db}

theorem performCall_removal (x : Removal) : performCall db x.call =
    if (db.find x.table x.id).isSome ∧ restricted db x.table x.id = false then
      some (db.withoutRows [x.mark]) else none := by
  obtain ⟨t, id, env⟩ := x
  have run (guard : Exn → Exn) (missing : String) :
      ((respond (fun _ => .empty)
        (deleteOrMissing (.unitOfWork guard · .done) (deleteRow t id) missing)).run db) =
      if (db.find t id).isNone then (.error (guard (.app .notFound missing)), db)
      else if restricted db t id then (.error (guard (.driver (mysqlError 1451))), db)
      else (.ok .empty, db.withoutRows [(t, key id)]) := by
    simp only [respond_run, deleteOrMissing, deleteRow, Sql.execute_bind, Sql.done_bind, Service.run,
      Sql.run, exec_delete_withoutRows]
    cases db.find t id with
    | none => rfl
    | some r => cases restricted db t id <;> rfl
  have served : ∃ (guard : Exn → Exn) (missing : String), ((deleteOf t id).serve env).run db =
      if (db.find t id).isNone then (.error (guard (.app .notFound missing)), db)
      else if restricted db t id then (.error (guard (.driver (mysqlError 1451))), db)
      else (.ok .empty, db.withoutRows [(t, key id)]) := by
    cases t with
    | transaction => exact ⟨_, _, run _ _⟩
    | _ => exact ⟨_, _, run _ _⟩
  obtain ⟨guard, missing, served⟩ := served
  simp only [performCall, Removal.call, served]
  cases db.find t id with
  | none => rfl
  | some r => cases restricted db t id <;> rfl

theorem performCall_removal_iff (x : Removal) : performCall db x.call = some db' ↔
    x.mark ∈ db.marks ∧ (∀ h ∈ db.marks, ¬ db.Holds h x.mark) ∧ db' = db.withoutRows [x.mark] := by
  have free : restricted db x.table x.id = false ↔ ∀ h ∈ db.marks, ¬ db.Holds h x.mark := by
    rw [← Bool.not_eq_true, restricted_holds]
    simp [Removal.mark]
  rw [performCall_removal, Option.ite_none_right_eq_some, find_marks, free, and_assoc,
    Option.some.injEq, @eq_comm _ db', Removal.mark]

/-! ## A list of deletes -/

theorem performCalls_removals (removals : List Removal) :
    performCalls (removals.map Removal.call) db = some db' ↔
      Removable db.Holds db.marks (removals.map Removal.mark) ∧
        db' = db.withoutRows (removals.map Removal.mark) := by
  induction removals generalizing db with
  | nil =>
      rw [List.map_nil, List.map_nil, Db.withoutRows_nil]
      exact ⟨fun same => ⟨trivial, (Option.some.inj same).symm⟩, fun same => congrArg some same.2.symm⟩
  | cons x removals ih =>
      -- Once the row is gone, the others stand to each other as before.
      have rest : Removable (db.withoutRows [x.mark]).Holds (db.withoutRows [x.mark]).marks
          (removals.map Removal.mark) ↔
          Removable db.Holds (db.marks \ {x.mark}) (removals.map Removal.mark) := by
        rw [Db.marks_withoutRows]
        exact Removable.congr fun h mem m => Db.holds_withoutRows mem.2 m
      rw [List.map_cons, List.map_cons, performCalls, List.foldlM_cons, Option.bind_eq_bind,
        Option.bind_eq_some_iff, Removable]
      constructor
      · rintro ⟨after, first, others⟩
        obtain ⟨there, free, rfl⟩ := (performCall_removal_iff x).mp first
        obtain ⟨removable, rfl⟩ := ih.mp others
        exact ⟨⟨there, free, rest.mp removable⟩, Db.withoutRows_twice db⟩
      · rintro ⟨⟨there, free, removable⟩, rfl⟩
        refine ⟨_, (performCall_removal_iff x).mpr ⟨there, free, rfl⟩, ih.mpr ⟨rest.mpr removable, ?_⟩⟩
        exact (Db.withoutRows_twice db : (db.withoutRows [x.mark]).withoutRows _ = _).symm

/-- Deletes succeed one after the other when each names a row that is there, no row twice, and
comes after the deletes of all rows that refer to it; what they leave depends on the rows alone. -/
theorem removals_iff (db db' : Db) (removals : List Removal) :
    performCalls (removals.map Removal.call) db = some db' ↔
      HoldersFirst db.Holds db.marks (removals.map Removal.mark) ∧
        db' = db.withoutRows (removals.map Removal.mark) := by
  rw [performCalls_removals, removable_iff]

/-! ## Sets of rows that can be deleted -/

/-- A table ranks above those that refer to it. -/
def level : Table → Nat
  | .customer | .branch => 2
  | .account | .loan | .employee => 1
  | _ => 0

def childrenFirst : List Table :=
  [.user, .loanPayment, .card, .transaction, .customerSupport, .creditScore, .account, .loan,
    .employee, .customer, .branch]

omit [Collation] [Werkzeug] in
theorem childrenFirst_sorted : childrenFirst.Pairwise fun t t' => level t ≤ level t' := by decide

omit [Collation] [Werkzeug] in
theorem mem_childrenFirst (t : Table) : t ∈ childrenFirst := by cases t <;> decide

omit [Collation] [Werkzeug] in
theorem childrenFirst_nodup : childrenFirst.Nodup := by decide

omit [Collation] [Werkzeug] in
theorem level_parent (t : Table) : ∀ fk ∈ foreignKeys t, level t < level fk.parent := by
  cases t <;> simp [foreignKeys, level]

omit [Werkzeug] in
theorem Db.Holds.level {h m : Mark} (holds : db.Holds h m) : level h.1 < level m.1 := by
  obtain ⟨-, -, -, fk, foreign, -, parent, -⟩ := holds
  exact parent ▸ level_parent h.1 fk foreign

/-- The deletes of some of the rows, table by table. -/
def Db.removals (db : Db) (doomed : Mark → Bool) (env : Env) : List Removal :=
  childrenFirst.flatMap fun t =>
    ((db t).filter fun r => doomed (markOf t r)).map fun r => ⟨t, rowId t r, env⟩

omit [Werkzeug] in
theorem Db.removals_marks (db : Db) (doomed : Mark → Bool) (env : Env) :
    (db.removals doomed env).map Removal.mark =
      childrenFirst.flatMap fun t => ((db t).filter fun r => doomed (markOf t r)).map (markOf t) := by
  rw [Db.removals, List.map_flatMap]
  congr 1
  funext t
  rw [List.map_map]
  rfl

omit [Werkzeug] in
theorem Db.mem_removals (db : Db) (doomed : Mark → Bool) (env : Env) (m : Mark) :
    m ∈ (db.removals doomed env).map Removal.mark ↔ m ∈ db.marks ∧ doomed m = true := by
  rw [Db.removals_marks, List.mem_flatMap]
  constructor
  · rintro ⟨t, -, mem⟩
    obtain ⟨r, listed, rfl⟩ := List.mem_map.mp mem
    obtain ⟨there, dies⟩ := List.mem_filter.mp listed
    exact ⟨⟨r, there, rfl⟩, dies⟩
  · rintro ⟨⟨r, mem, names⟩, dies⟩
    have same : markOf m.1 r = m := congrArg (m.1, ·) names
    refine ⟨m.1, mem_childrenFirst m.1, List.mem_map.mpr ⟨r, List.mem_filter.mpr ⟨mem, ?_⟩, same⟩⟩
    rwa [same]

omit [Werkzeug] in
theorem Db.removals_sorted (db : Db) (doomed : Mark → Bool) (env : Env) :
    ((db.removals doomed env).map Removal.mark).Pairwise fun m m' =>
      Corebank.level m.1 ≤ Corebank.level m'.1 := by
  rw [Db.removals_marks]
  refine List.pairwise_flatMap.mpr ⟨fun t _ => ?_, childrenFirst_sorted.imp fun le => ?_⟩
  · refine List.pairwise_of_forall_mem_list fun m mem m' mem' => ?_
    obtain ⟨r, -, rfl⟩ := List.mem_map.mp mem
    obtain ⟨r', -, rfl⟩ := List.mem_map.mp mem'
    exact le_rfl
  · intro m mem m' mem'
    obtain ⟨r, -, rfl⟩ := List.mem_map.mp mem
    obtain ⟨r', -, rfl⟩ := List.mem_map.mp mem'
    exact le

omit [Werkzeug] in
theorem Db.Valid.removals_distinct (valid : db.Valid) (doomed : Mark → Bool) (env : Env) :
    ((db.removals doomed env).map Removal.mark).Nodup := by
  rw [Db.removals_marks]
  refine List.nodup_flatMap.mpr ⟨fun t _ => ?_, childrenFirst_nodup.imp fun ne m mem mem' => ?_⟩
  · have keys : (((db t).filter fun r => doomed (markOf t r)).map (rowKey t)).Nodup :=
      (valid.ids t).sublist (List.filter_sublist.map _)
    have marks := keys.map (Prod.mk_right_injective t)
    rwa [List.map_map] at marks
  · obtain ⟨r, -, rfl⟩ := List.mem_map.mp mem
    obtain ⟨r', -, same⟩ := List.mem_map.mp mem'
    exact ne (congrArg Prod.fst same).symm

/-- A set of rows can be deleted, in some order, exactly when it has every row that refers to one
of it by a key that restricts its deletion. -/
theorem removable_iff_closed (valid : db.Valid) (doomed : Mark → Bool) :
    (∃ removals : List Removal, (performCalls (removals.map Removal.call) db).isSome ∧
      ∀ m, m ∈ removals.map Removal.mark ↔ m ∈ db.marks ∧ doomed m = true) ↔
    ∀ m ∈ db.marks, doomed m = true → ∀ h, db.Holds h m → doomed h = true := by
  have there {h m : Mark} (holds : db.Holds h m) : h ∈ db.marks := by
    obtain ⟨r, mem, names, -⟩ := holds
    exact ⟨r, mem, names⟩
  constructor
  · rintro ⟨removals, performed, listed⟩ m mem dies h holds
    obtain ⟨db', performed⟩ := Option.isSome_iff_exists.mp performed
    have order := ((removals_iff db db' removals).mp performed).1
    exact ((listed h).mp (order.closed ((listed m).mpr ⟨mem, dies⟩) (there holds) holds)).2
  · intro closed
    let env : Env := ⟨"", ⟨0, none⟩, ""⟩
    have order : HoldersFirst db.Holds db.marks ((db.removals doomed env).map Removal.mark) := by
      refine HoldersFirst.of_rank (fun m => level m.1) (fun _ _ => Db.Holds.level)
        (db.removals_sorted doomed env) (valid.removals_distinct doomed env) ?_ ?_
      · exact fun m mem => ((db.mem_removals doomed env m).mp mem).1
      · intro m mem h present holds
        obtain ⟨mem, dies⟩ := (db.mem_removals doomed env m).mp mem
        exact (db.mem_removals doomed env h).mpr ⟨present, closed m mem dies h holds⟩
    refine ⟨db.removals doomed env, ?_, db.mem_removals doomed env⟩
    rw [(removals_iff db _ _).mpr ⟨order, rfl⟩]
    rfl

end

attribute [local instance] foldCase clearText

/-- The bank can be emptied; Ann cannot go without her account. -/
theorem removable_iff_closed_opened :
    (∃ removals : List Removal, (performCalls (removals.map Removal.call) opened).isSome ∧
      ∀ m, m ∈ removals.map Removal.mark ↔ m ∈ opened.marks ∧ true = true) ∧
    ¬ ∃ removals : List Removal, (performCalls (removals.map Removal.call) opened).isSome ∧
      ∀ m, m ∈ removals.map Removal.mark ↔
        m ∈ opened.marks ∧ decide (m = (.customer, key "ann")) = true := by
  have valid := reachable_opened.valid
  constructor
  · exact (removable_iff_closed valid fun _ => true).mpr fun _ _ _ _ _ => rfl
  · intro removable
    have closed :=
      (removable_iff_closed valid fun m => decide (m = (.customer, key "ann"))).mp removable
    have there : (.customer, key "ann") ∈ opened.marks := find_marks.mp (by decide +kernel)
    have refused : restricted opened .customer "ann" = true := by decide +kernel
    obtain ⟨h, -, held⟩ := restricted_holds.mp refused
    have same := of_decide_eq_true (closed _ there (by simp) h held)
    have lower := held.level
    rw [same] at lower
    exact absurd lower (lt_irrefl _)

end Corebank
