import Corebank.Seeds
import Corebank.Library.Resume
import Corebank.Proof.Integrity

/-! # Loading the seeds again -/

namespace Corebank
open Library Library.Resume

variable [Collation]

/-! ## One row -/

def Db.Refuses (db : Db) (row : (t : Table) × Row t) : Prop :=
  checks row.1 (store row.1 row.2) = false ∨
    (∃ o ∈ db row.1, clashes row.1 (store row.1 row.2) o) ∨
      missingReference db row.1 (store row.1 row.2)

theorem refuses_iff {db : Db} {row : (t : Table) × Row t} :
    db.Refuses row ↔ verify db row.1 (store row.1 row.2) (db row.1) ≠ none := by
  rw [Ne, verify_eq_none, Db.Refuses, not_and_or, not_and_or, Bool.not_eq_true, Bool.not_eq_false,
    not_forall]
  simp only [not_forall, Bool.not_eq_false, exists_prop]

theorem insertIgnoring_refused {db : Db} {row : (t : Table) × Row t} (refused : db.Refuses row) :
    insertIgnoring row db = db := by
  obtain ⟨e, failed⟩ := Option.ne_none_iff_exists'.mp (refuses_iff.mp refused)
  rw [insertIgnoring, failed]

theorem insertIgnoring_admitted {db : Db} {row : (t : Table) × Row t} (admitted : ¬ db.Refuses row) :
    insertIgnoring row db = db.set row.1 (db row.1 ++ [store row.1 row.2]) := by
  rw [refuses_iff, not_not] at admitted
  rw [insertIgnoring, admitted]

theorem insertIgnoring_rows (row : (t : Table) × Row t) (db : Db) (t : Table) :
    db t <+: insertIgnoring row db t := by
  by_cases refused : db.Refuses row
  · rw [insertIgnoring_refused refused]
  · rw [insertIgnoring_admitted refused]
    by_cases e : t = row.1
    · subst e
      rw [Db.set_same]
      exact List.prefix_append _ _
    · rw [Db.set_other _ _ e]

theorem insertIgnoring_other (row : (t : Table) × Row t) (db : Db) {t : Table} (ne : t ≠ row.1) :
    insertIgnoring row db t = db t := by
  by_cases refused : db.Refuses row
  · rw [insertIgnoring_refused refused]
  · rw [insertIgnoring_admitted refused, Db.set_other _ _ ne]

def parents (t : Table) : List Table := (foreignKeys t).map ForeignKey.parent

omit [Collation] in
theorem not_mem_parents (t : Table) : t ∉ parents t := by
  intro mem
  obtain ⟨fk, mem, parent⟩ := List.mem_map.mp mem
  exact foreignKeys_parent_ne t fk mem parent

/-- A row stays refused as long as no parent of its table gains rows. -/
theorem Db.Refuses.stays {db db' : Db} {row : (t : Table) × Row t} (refused : db.Refuses row)
    (rows : ∀ t, db t <+: db' t) (same : ∀ t ∈ parents row.1, db' t = db t) : db'.Refuses row := by
  rcases refused with unchecked | ⟨o, mem, clash⟩ | missing
  · exact Or.inl unchecked
  · exact Or.inr (Or.inl ⟨o, (rows row.1).subset mem, clash⟩)
  · refine Or.inr (Or.inr ?_)
    rw [missingReference, List.any_eq_true] at missing ⊢
    obtain ⟨fk, mem, missing⟩ := missing
    have parent := same fk.parent (List.mem_map_of_mem mem)
    exact ⟨fk, mem, by simpa only [Db.find, parent] using missing⟩

theorem refused_of_settled {db : Db} {row : (t : Table) × Row t}
    (settled : insertIgnoring row db = db) : db.Refuses row := by
  by_contra admitted
  rw [insertIgnoring_admitted admitted] at settled
  have := congrArg (fun db : Db => (db row.1).length) settled
  simp at this

theorem insertIgnoring_again (row : (t : Table) × Row t) (db : Db) :
    (insertIgnoring row db).Refuses row := by
  by_cases refused : db.Refuses row
  · rwa [insertIgnoring_refused refused]
  · rw [insertIgnoring_admitted refused]
    refine Or.inr (Or.inl ⟨store row.1 row.2, by simp, ?_⟩)
    simp [clashes]

/-! ## The whole script -/

def InsertIgnore.script (s : InsertIgnore) : List ((t : Table) × Row t) :=
  s.rows.map fun row => ⟨s.table, row⟩

def seedRows (n : Nat) : List ((t : Table) × Row t) :=
  (seeds.take n).flatMap InsertIgnore.script

omit [Collation] in
theorem seeds_checked : ∀ s ∈ seeds, ∀ row ∈ s.rows, checks s.table (store s.table row) = true := by
  decide +kernel

/-- A row of the file is skipped when a key clashes or a reference is missing, and only then. -/
theorem insertIgnoring_seed {s : InsertIgnore} (listed : s ∈ seeds) {row : Row s.table}
    (mem : row ∈ s.rows) (db : Db) : insertIgnoring ⟨s.table, row⟩ db =
      if (∃ o ∈ db s.table, clashes s.table (store s.table row) o) ∨
        missingReference db s.table (store s.table row) then db
      else db.set s.table (db s.table ++ [store s.table row]) := by
  split
  · rename_i skipped
    exact insertIgnoring_refused (Or.inr skipped)
  · rename_i taken
    refine insertIgnoring_admitted fun refused => ?_
    rcases refused with unchecked | skipped
    · rw [seeds_checked s listed row mem] at unchecked
      cases unchecked
    · exact taken skipped

theorem foldl_exec (script : List InsertIgnore) (db : Db) :
    script.foldl (fun db s => s.exec db) db =
      (script.flatMap InsertIgnore.script).foldl (fun db row => insertIgnoring row db) db := by
  induction script generalizing db with
  | nil => rfl
  | cons s script ih =>
      rw [List.foldl_cons, ih, List.flatMap_cons, List.foldl_append, InsertIgnore.script,
        List.foldl_map, InsertIgnore.exec]

theorem stoppedLoad_eq (n : Nat) (db : Db) :
    stoppedLoad n db = (seedRows n).foldl (fun db row => insertIgnoring row db) db :=
  foldl_exec _ db

theorem loadSeeds_eq (db : Db) :
    loadSeeds db = (seeds.flatMap InsertIgnore.script).foldl
      (fun db row => insertIgnoring row db) db :=
  foldl_exec _ db

omit [Collation] in
/-- Every parent table of the script comes before its children. -/
theorem seeds_parents_first :
    seeds.Pairwise fun s later => later.table ∉ parents s.table := by
  decide

omit [Collation] in
theorem seedRows_parents_first : (seeds.flatMap InsertIgnore.script).Pairwise
    fun row later => later.1 ∉ parents row.1 := by
  have table (s : InsertIgnore) (row : (t : Table) × Row t) (mem : row ∈ s.script) :
      row.1 = s.table := by
    obtain ⟨r, -, rfl⟩ := List.mem_map.mp mem
    rfl
  refine List.pairwise_flatMap.mpr ⟨fun s _ => ?_, seeds_parents_first.imp fun first => ?_⟩
  · refine List.pairwise_of_forall_mem_list fun row mem later mem' => ?_
    rw [table s row mem, table s later mem']
    exact not_mem_parents s.table
  · intro row mem later mem'
    rwa [table _ row mem, table _ later mem']

theorem seedRows_resumable : Resumable (fun row db => some (insertIgnoring row db))
    (seeds.flatMap InsertIgnore.script) where
  again row _ db db' once := by
    cases Option.some.inj once
    rw [insertIgnoring_refused (insertIgnoring_again row db)]
  stays := by
    refine seedRows_parents_first.imp fun {row later} first db db' settled once => ?_
    cases Option.some.inj once
    have refused := refused_of_settled (Option.some.inj settled)
    have stays := refused.stays (insertIgnoring_rows later db) fun t mem =>
      insertIgnoring_other later db fun e => first (e ▸ mem)
    rw [insertIgnoring_refused stays]

omit [Collation] in
theorem seedRows_front (n : Nat) :
    ∃ m, seedRows n = (seeds.flatMap InsertIgnore.script).take m := by
  refine ⟨(seedRows n).length, ?_⟩
  have split : seeds.flatMap InsertIgnore.script =
      seedRows n ++ (seeds.drop n).flatMap InsertIgnore.script := by
    rw [seedRows, ← List.flatMap_append, List.take_append_drop]
  rw [split, List.take_left]

theorem loadSeeds_stoppedLoad (n : Nat) (db : Db) : loadSeeds (stoppedLoad n db) = loadSeeds db := by
  obtain ⟨m, front⟩ := seedRows_front n
  rw [loadSeeds_eq, loadSeeds_eq, stoppedLoad_eq, front]
  exact seedRows_resumable.complete m db

theorem loadSeeds_stoppedLoads (stops : List Nat) (db : Db) :
    loadSeeds (stoppedLoads stops db) = loadSeeds db := by
  induction stops generalizing db with
  | nil => rfl
  | cons n stops ih =>
      rw [stoppedLoads, List.foldl_cons]
      exact (ih (stoppedLoad n db)).trans (loadSeeds_stoppedLoad n db)

theorem stoppedLoad_all (db : Db) : stoppedLoad seeds.length db = loadSeeds db := by
  rw [stoppedLoad, List.take_length, loadSeeds]

theorem loadSeeds_again (db : Db) : loadSeeds (loadSeeds db) = loadSeeds db := by
  rw [← stoppedLoad_all db, loadSeeds_stoppedLoad, stoppedLoad_all]

theorem foldl_rows (rows : List ((t : Table) × Row t)) (db : Db) (t : Table) :
    db t <+: rows.foldl (fun db row => insertIgnoring row db) db t := by
  induction rows generalizing db with
  | nil => exact List.prefix_rfl
  | cons row rows ih => exact (insertIgnoring_rows row db t).trans (ih (insertIgnoring row db))

theorem stoppedLoads_rows (stops : List Nat) (db : Db) (t : Table) :
    db t <+: stoppedLoads stops db t := by
  induction stops generalizing db with
  | nil => exact List.prefix_rfl
  | cons n stops ih =>
      have first : db t <+: stoppedLoad n db t := by
        rw [stoppedLoad_eq]
        exact foldl_rows _ db t
      exact first.trans (ih (stoppedLoad n db))

/-- Loading the seeds may be stopped and started again, and adds rows only. -/
theorem seeds_resume (stops : List Nat) (db : Db) :
    loadSeeds (stoppedLoads stops db) = loadSeeds db ∧ loadSeeds (loadSeeds db) = loadSeeds db ∧
      ∀ t, db t <+: stoppedLoads stops db t ∧ db t <+: loadSeeds db t := by
  refine ⟨loadSeeds_stoppedLoads stops db, loadSeeds_again db, fun t => ⟨?_, ?_⟩⟩
  · exact stoppedLoads_rows stops db t
  · rw [loadSeeds_eq]
    exact foldl_rows _ db t

end Corebank
