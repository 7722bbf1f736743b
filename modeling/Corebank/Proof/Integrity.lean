import Corebank.Session

/-! # The schema's constraints hold in every state statements reach -/

namespace Corebank
open Library

variable [Collation]

/-- What the schema of migration 001 guarantees of a state. -/
structure Db.Valid (db : Db) : Prop where
  ids : ∀ t, ((db t).map (rowKey t)).Nodup
  uniques : ∀ t, ∀ column ∈ uniques t, ((db t).map fun r => key (column r)).Nodup
  references : ∀ t, ∀ r ∈ db t, ∀ fk ∈ foreignKeys t, ∀ id, fk.column r = some id →
    (db.find fk.parent id).isSome
  checks : ∀ t, ∀ r ∈ db t, checks t r
  fits : ∀ t, ∀ r ∈ db t, misfit t r = none ∧ store t r = r

theorem Db.empty_valid : Db.empty.Valid where
  ids _ := List.nodup_nil
  uniques _ _ _ := List.nodup_nil
  references _ _ mem := by cases mem
  checks _ _ mem := by cases mem
  fits _ _ mem := by cases mem

/-! ## Rows found by id -/

theorem Db.find_mem {db : Db} {t : Table} {id : String} {r : Row t} (h : db.find t id = some r) :
    r ∈ db t :=
  Keyed.lookup_mem h

theorem Db.find_key {db : Db} {t : Table} {id : String} {r : Row t} (h : db.find t id = some r) :
    rowKey t r = key id :=
  Keyed.lookup_key h

theorem Db.Valid.find_of_mem {db : Db} (valid : db.Valid) {t : Table} {r : Row t} {id : String}
    (mem : r ∈ db t) (h : key id = rowKey t r) : db.find t id = some r := by
  rw [Db.find, h]
  exact Keyed.lookup_of_mem (valid.ids t) mem

theorem Db.find_isSome_of_keys {db db' : Db} {t : Table} {id : String}
    (h : ∀ k, k ∈ (db t).map (rowKey t) → k ∈ (db' t).map (rowKey t))
    (found : (db.find t id).isSome) : (db'.find t id).isSome := by
  simp only [Db.find, Keyed.lookup_isSome] at found ⊢
  simpa using h (key id) (by simpa using found)

/-! ## What the constraint checks say -/

theorem verify_eq_none {db : Db} {t : Table} {r : Row t} {others : List (Row t)} :
    verify db t r others = none ↔ Corebank.checks t r = true ∧ (∀ o ∈ others, clashes t r o = false) ∧
      missingReference db t r = false := by
  unfold verify
  cases Corebank.checks t r <;> cases h : others.any (clashes t r) <;>
    cases missingReference db t r <;> simp_all

theorem clashes_eq_false {t : Table} {r o : Row t} (h : clashes t r o = false) :
    rowKey t o ≠ rowKey t r ∧ ∀ column ∈ Corebank.uniques t, key (column o) ≠ key (column r) := by
  simpa [clashes] using h

theorem missingReference_eq_false {db : Db} {t : Table} {r : Row t}
    (h : missingReference db t r = false) {fk : ForeignKey t} (mem : fk ∈ foreignKeys t)
    {id : String} (ref : fk.column r = some id) : (db.find fk.parent id).isSome := by
  have := List.any_eq_false.mp h fk mem
  simpa [ref, Option.isSome_iff_ne_none] using this

omit [Collation] in
theorem foreignKeys_parent_ne (t : Table) : ∀ fk ∈ foreignKeys t, fk.parent ≠ t := by
  cases t <;> simp [foreignKeys]

omit [Collation] in
theorem foreignKeys_restrict {child : Table} (ne : child ≠ .transaction) :
    ∀ fk ∈ foreignKeys child, fk.onDelete = none := by
  cases child <;> simp [foreignKeys] at ne ⊢

theorem restricted_eq_false {db : Db} {t : Table} {id : String} (child : Table)
    (h : restricted db t id = false) {fk : ForeignKey child} (mem : fk ∈ foreignKeys child)
    (parent : fk.parent = t) (restrict : fk.onDelete = none) {r : Row child} (hr : r ∈ db child)
    {v : String} (ref : fk.column r = some v) : key v ≠ key id := by
  have := List.any_eq_false.mp h child (Table.mem_all child)
  rw [Bool.not_eq_true, List.any_eq_false] at this
  have := this fk mem
  simp only [parent, restrict, Option.isNone_none, decide_true, Bool.true_and, List.any_eq_true,
    not_exists, not_and] at this
  simpa [ref] using this r hr

/-! ## SET NULL -/

theorem nullify_other (t : Table) (id : String) {child : Table} (ne : child ≠ .transaction)
    (r : Row child) : nullify t id child r = r := by
  cases child <;> first | rfl | exact absurd rfl ne

theorem nullify_transaction (t : Table) (id : String) (r : Transaction) :
    nullify t id .transaction r =
      if t = .account ∧ r.toAccountId.any (fun v => key v = key id) then
        { r with toAccountId := none } else r := by
  cases t <;> simp [nullify, foreignKeys]

section
variable (t : Table) (id : String) (child : Table) (r : Row child)

@[simp] theorem rowId_nullify : rowId child (nullify t id child r) = rowId child r := by
  by_cases h : child = .transaction
  · subst h
    rw [nullify_transaction]
    split <;> rfl
  · rw [nullify_other t id h]

@[simp] theorem rowKey_nullify : rowKey child (nullify t id child r) = rowKey child r := by
  rw [rowKey, rowId_nullify, rowKey]

theorem unique_nullify (column : Row child → String) (mem : column ∈ uniques child) :
    column (nullify t id child r) = column r := by
  by_cases h : child = .transaction
  · subst h
    cases mem
  · rw [nullify_other t id h]

theorem checks_nullify : checks child (nullify t id child r) = checks child r := by
  by_cases h : child = .transaction
  · subst h
    rw [nullify_transaction]
    split <;> rfl
  · rw [nullify_other t id h]

theorem fits_nullify (fits : misfit child r = none ∧ store child r = r) :
    misfit child (nullify t id child r) = none ∧
      store child (nullify t id child r) = nullify t id child r := by
  by_cases h : child = .transaction
  · subst h
    rw [nullify_transaction]
    split
    · simp only [misfit, store, List.findSome?_eq_none_iff, List.forall_mem_cons, id_eq] at fits ⊢
      obtain ⟨⟨transaction, sender, -, rest⟩, kept⟩ := fits
      refine ⟨⟨transaction, sender, rfl, rest⟩, ?_⟩
      rw [Transaction.mk.injEq] at kept ⊢
      exact ⟨kept.1, kept.2.1, rfl, kept.2.2.2⟩
    · exact fits
  · rw [nullify_other t id h]
    exact fits

theorem column_nullify {fk : ForeignKey child} (mem : fk ∈ foreignKeys child) {v : String}
    (ref : fk.column (nullify t id child r) = some v) :
    fk.column r = some v ∧ (fk.parent = t → fk.onDelete.isSome → key v ≠ key id) := by
  by_cases h : child = .transaction
  · subst h
    rw [nullify_transaction] at ref
    simp only [foreignKeys, List.mem_cons, List.not_mem_nil, or_false] at mem
    rcases mem with rfl | rfl
    · refine ⟨?_, by simp⟩
      split at ref <;> exact ref
    · split at ref
      · cases ref
      · rename_i kept
        refine ⟨ref, fun parent _ e => kept ⟨parent.symm, ?_⟩⟩
        simpa [show r.toAccountId = some v from ref] using e
  · rw [nullify_other t id h] at ref
    exact ⟨ref, fun _ cleared => absurd (foreignKeys_restrict h fk mem) (by
      intro restrict
      rw [restrict] at cleared
      cases cleared)⟩

end

/-! ## Statements -/

section
variable {db db' : Db} {n : Nat}

theorem exec_insert {t : Table} {row : Row t} (h : (Statement.insert t row).exec db = .ok (n, db')) :
    misfit t row = none ∧ verify db t (store t row) (db t) = none ∧ n = 1 ∧
      db' = db.set t (db t ++ [store t row]) := by
  simp only [Statement.exec] at h
  split at h
  · cases h
  · split at h
    · cases h
    · cases h
      exact ⟨‹_›, ‹_›, rfl, rfl⟩

theorem exec_insert_ok {t : Table} {row : Row t} (fits : misfit t row = none)
    (accepted : verify db t (store t row) (db t) = none) :
    (Statement.insert t row).exec db = .ok (1, db.set t (db t ++ [store t row])) := by
  simp only [Statement.exec, fits, accepted]

theorem exec_update {t : Table} {id : String} {change : Change t}
    (h : (Statement.update t id change).exec db = .ok (n, db')) :
    (n = 0 ∧ db' = db ∧ ∀ r, db.find t id = some r →
      change.selects t r = false ∨ store t (change.apply t r) = r) ∨
    ∃ r, db.find t id = some r ∧ change.selects t r = true ∧ misfit t (change.apply t r) = none ∧
      store t (change.apply t r) ≠ r ∧
      verify db t (store t (change.apply t r)) (db.others t (store t (change.apply t r))) = none ∧
      n = 1 ∧ db' = db.set t (Keyed.replace (rowKey t) (store t (change.apply t r)) (db t)) := by
  simp only [Statement.exec] at h
  split at h
  · cases h
  · split at h
    · cases h
      exact Or.inl ⟨rfl, rfl, by simp_all⟩
    · rename_i r found
      split at h
      · cases h
        exact Or.inl ⟨rfl, rfl, by simp_all⟩
      · split at h
        · cases h
        · split at h
          · cases h
            exact Or.inl ⟨rfl, rfl, by simp_all⟩
          · split at h
            · cases h
            · cases h
              exact Or.inr ⟨r, found, by simp_all, ‹_›, ‹_›, ‹_›, rfl, rfl⟩

theorem exec_delete {t : Table} {id : String} (h : (Statement.delete t id).exec db = .ok (n, db')) :
    (n = 0 ∧ db' = db ∧ db.find t id = none) ∨
    ∃ r, db.find t id = some r ∧ restricted db t id = false ∧ n = 1 ∧
      db' = Db.set (fun child => (db child).map (nullify t id child)) t
        (Keyed.remove (rowKey t) (key id) (db t)) := by
  simp only [Statement.exec] at h
  split at h
  · cases h
    exact Or.inl ⟨rfl, rfl, ‹_›⟩
  · rename_i r found
    split at h
    · cases h
    · cases h
      exact Or.inr ⟨r, found, by simp_all, rfl, rfl⟩

theorem insert_valid (valid : db.Valid) {t : Table} {row : Row t}
    (h : (Statement.insert t row).exec db = .ok (n, db')) : db'.Valid := by
  obtain ⟨fits, verified, -, rfl⟩ := exec_insert h
  obtain ⟨checked, noClash, noMissing⟩ := verify_eq_none.mp verified
  have kept (t' : Table) (id : String) (found : (db.find t' id).isSome) :
      ((db.set t (db t ++ [store t row])).find t' id).isSome := by
    refine Db.find_isSome_of_keys (fun k hk => ?_) found
    by_cases e : t' = t
    · subst e
      rw [Db.set_same, List.map_append]
      exact List.mem_append_left _ hk
    · rwa [Db.set_other _ _ e]
  constructor
  · intro t'
    by_cases e : t' = t
    · subst e
      rw [Db.set_same, List.map_append, List.nodup_append]
      refine ⟨valid.ids _, List.nodup_singleton _, ?_⟩
      simp only [List.map_cons, List.map_nil, List.mem_singleton, List.mem_map]
      rintro _ ⟨o, ho, rfl⟩ _ rfl
      exact (clashes_eq_false (noClash o ho)).1
    · rw [Db.set_other _ _ e]
      exact valid.ids t'
  · intro t' column mem
    by_cases e : t' = t
    · subst e
      rw [Db.set_same, List.map_append, List.nodup_append]
      refine ⟨valid.uniques _ column mem, List.nodup_singleton _, ?_⟩
      simp only [List.map_cons, List.map_nil, List.mem_singleton, List.mem_map]
      rintro _ ⟨o, ho, rfl⟩ _ rfl
      exact (clashes_eq_false (noClash o ho)).2 column mem
    · rw [Db.set_other _ _ e]
      exact valid.uniques t' column mem
  · intro t' r hr fk mem id ref
    apply kept
    by_cases e : t' = t
    · subst e
      rw [Db.set_same, List.mem_append, List.mem_singleton] at hr
      rcases hr with hr | rfl
      · exact valid.references _ r hr fk mem id ref
      · exact missingReference_eq_false noMissing mem ref
    · rw [Db.set_other _ _ e] at hr
      exact valid.references t' r hr fk mem id ref
  · intro t' r hr
    by_cases e : t' = t
    · subst e
      rw [Db.set_same, List.mem_append, List.mem_singleton] at hr
      rcases hr with hr | rfl
      · exact valid.checks _ r hr
      · exact checked
    · rw [Db.set_other _ _ e] at hr
      exact valid.checks t' r hr
  · intro t' r hr
    by_cases e : t' = t
    · subst e
      rw [Db.set_same, List.mem_append, List.mem_singleton] at hr
      rcases hr with hr | rfl
      · exact valid.fits _ r hr
      · exact ⟨misfit_store _ row fits, store_idem _ row⟩
    · rw [Db.set_other _ _ e] at hr
      exact valid.fits t' r hr

theorem update_valid (valid : db.Valid) {t : Table} {id : String} {change : Change t}
    (h : (Statement.update t id change).exec db = .ok (n, db')) : db'.Valid := by
  rcases exec_update h with ⟨-, rfl, -⟩ | ⟨r, found, -, fits, -, verified, -, rfl⟩
  · exact valid
  obtain ⟨checked, noClash, noMissing⟩ := verify_eq_none.mp verified
  have noClash (o : Row t) (ho : o ∈ db t)
      (ne : rowKey t o ≠ rowKey t (store t (change.apply t r))) := by
    exact noClash o (List.mem_filter.mpr ⟨ho, by simpa using ne⟩)
  generalize hr' : store t (change.apply t r) = r' at *
  have kept (t' : Table) (id : String) (found : (db.find t' id).isSome) :
      ((db.set t (Keyed.replace (rowKey t) r' (db t))).find t' id).isSome := by
    refine Db.find_isSome_of_keys (fun k hk => ?_) found
    by_cases e : t' = t
    · subst e
      rwa [Db.set_same, Keyed.map_key_replace]
    · rwa [Db.set_other _ _ e]
  constructor
  · intro t'
    by_cases e : t' = t
    · subst e
      rw [Db.set_same, Keyed.map_key_replace]
      exact valid.ids _
    · rw [Db.set_other _ _ e]
      exact valid.ids t'
  · intro t' column mem
    by_cases e : t' = t
    · subst e
      rw [Db.set_same]
      exact Keyed.nodup_map_replace (fun r => key (column r)) (valid.ids _)
        (valid.uniques _ column mem) fun y hy ne => (clashes_eq_false (noClash y hy ne)).2 column mem
    · rw [Db.set_other _ _ e]
      exact valid.uniques t' column mem
  · intro t' s hs fk mem id ref
    apply kept
    by_cases e : t' = t
    · subst e
      rw [Db.set_same] at hs
      rcases Keyed.mem_replace hs with rfl | ⟨hs, -⟩
      · exact missingReference_eq_false noMissing mem ref
      · exact valid.references _ s hs fk mem id ref
    · rw [Db.set_other _ _ e] at hs
      exact valid.references t' s hs fk mem id ref
  · intro t' s hs
    by_cases e : t' = t
    · subst e
      rw [Db.set_same] at hs
      rcases Keyed.mem_replace hs with rfl | ⟨hs, -⟩
      · exact checked
      · exact valid.checks _ s hs
    · rw [Db.set_other _ _ e] at hs
      exact valid.checks t' s hs
  · intro t' s hs
    by_cases e : t' = t
    · subst e
      rw [Db.set_same] at hs
      rcases Keyed.mem_replace hs with rfl | ⟨hs, -⟩
      · rw [← hr']
        exact ⟨misfit_store _ _ fits, store_idem _ _⟩
      · exact valid.fits _ s hs
    · rw [Db.set_other _ _ e] at hs
      exact valid.fits t' s hs

theorem delete_valid (valid : db.Valid) {t : Table} {id : String}
    (h : (Statement.delete t id).exec db = .ok (n, db')) : db'.Valid := by
  rcases exec_delete h with ⟨-, rfl, -⟩ | ⟨r, found, free, -, rfl⟩
  · exact valid
  have keys (t' : Table) : ((db t').map (nullify t id t')).map (rowKey t') =
      (db t').map (rowKey t') := by
    simp [List.map_map, Function.comp_def]
  constructor
  · intro t'
    by_cases e : t' = t
    · subst e
      rw [Db.set_same]
      exact (valid.ids _).sublist (Keyed.map_key_remove_sublist _ _)
    · rw [Db.set_other _ _ e, keys]
      exact valid.ids t'
  · intro t' column mem
    by_cases e : t' = t
    · subst e
      rw [Db.set_same]
      exact (valid.uniques _ column mem).sublist (List.filter_sublist.map _)
    · rw [Db.set_other _ _ e, List.map_map]
      have same : (fun r => key (column r)) ∘ nullify t id t' = fun r => key (column r) := by
        funext r
        simp only [Function.comp_apply, unique_nullify t id t' r column mem]
      rw [same]
      exact valid.uniques t' column mem
  · intro t' s hs fk mem v ref
    -- the parent of a remaining reference is not the row deleted
    have target : (db.find fk.parent v).isSome ∧ (fk.parent = t → key v ≠ key id) := by
      by_cases e : t' = t
      · subst e
        rw [Db.set_same, Keyed.mem_remove] at hs
        exact ⟨valid.references _ s hs.1 fk mem v ref,
          fun parent => absurd parent (foreignKeys_parent_ne _ fk mem)⟩
      · rw [Db.set_other _ _ e, List.mem_map] at hs
        obtain ⟨s, hs, rfl⟩ := hs
        obtain ⟨ref, cleared⟩ := column_nullify t id t' s mem ref
        refine ⟨valid.references t' s hs fk mem v ref, fun parent => ?_⟩
        cases action : fk.onDelete with
        | none => exact restricted_eq_false _ free mem parent action hs ref
        | some clear => exact cleared parent (by simp [action])
    obtain ⟨found, ne⟩ := target
    by_cases e : fk.parent = t
    · subst e
      simp only [Db.find, Db.set_same]
      rwa [Keyed.lookup_remove_of_ne (ne rfl)]
    · refine Db.find_isSome_of_keys (fun k hk => ?_) found
      rwa [Db.set_other _ _ e, keys]
  · intro t' s hs
    by_cases e : t' = t
    · subst e
      rw [Db.set_same, Keyed.mem_remove] at hs
      exact valid.checks _ s hs.1
    · rw [Db.set_other _ _ e, List.mem_map] at hs
      obtain ⟨s, hs, rfl⟩ := hs
      rw [checks_nullify]
      exact valid.checks t' s hs
  · intro t' s hs
    by_cases e : t' = t
    · subst e
      rw [Db.set_same, Keyed.mem_remove] at hs
      exact valid.fits _ s hs.1
    · rw [Db.set_other _ _ e, List.mem_map] at hs
      obtain ⟨s, hs, rfl⟩ := hs
      exact fits_nullify t id t' s (valid.fits t' s hs)

theorem exec_valid (valid : db.Valid) {s : Statement} (h : s.exec db = .ok (n, db')) :
    db'.Valid := by
  cases s with
  | insert t row => exact insert_valid valid h
  | update t id change => exact update_valid valid h
  | delete t id => exact delete_valid valid h

end

/-! ## What statements fail with -/

def ColumnError (o : Option DriverError) : Prop :=
  ∀ e, o = some e → e ∈ [mysqlError 1406, mysqlError 1264, mysqlError 1292]

omit [Collation] in
theorem columnError_ite {p : Prop} [Decidable p] {errno : Nat} (listed : errno ∈ [1406, 1264, 1292]) :
    ColumnError (if p then none else some (mysqlError errno)) := by
  intro e h
  split at h
  · cases h
  · cases h
    exact List.mem_map_of_mem (f := mysqlError) listed

omit [Collation] in
theorem columnError_bind {α : Type} {f : α → Option DriverError} (h : ∀ a, ColumnError (f a))
    (o : Option α) : ColumnError (o.bind f) := by
  cases o with
  | none =>
      intro e h
      cases h
  | some a => exact h a

omit [Collation] in
theorem columnError_findSome {columns : List (Option DriverError)}
    (h : ∀ o ∈ columns, ColumnError o) : ColumnError (columns.findSome? id) := by
  intro e found
  obtain ⟨o, mem, rfl : o = _⟩ := List.exists_of_findSome?_eq_some found
  exact h _ mem e rfl

omit [Collation] in
theorem misfit_columnError (t : Table) (r : Row t) : ColumnError (misfit t r) := by
  have char (n : Nat) (s : String) : ColumnError (charMisfit n s) := columnError_ite (by decide)
  have varchar (n : Nat) (s : String) : ColumnError (varcharMisfit n s) :=
    columnError_ite (by decide)
  have text (s : String) : ColumnError (textMisfit s) := columnError_ite (by decide)
  have decimal (n : Nat) (c : Int) : ColumnError (decimalMisfit n c) := columnError_ite (by decide)
  have dateTime (d : DateTime) : ColumnError (dateTimeMisfit d) := columnError_ite (by decide)
  cases t <;> refine columnError_findSome ?_ <;>
    simp only [List.forall_mem_cons, List.not_mem_nil, false_imp_iff, implies_true, and_true, char,
      varchar, text, decimal, dateTime, columnError_bind]

theorem verify_error {db : Db} {t : Table} {r : Row t} {others : List (Row t)} {e : DriverError}
    (h : verify db t r others = some e) :
    e = mysqlError 3819 ∧ Corebank.checks t r = false ∨ e = mysqlError 1062 ∨ e = mysqlError 1452 := by
  unfold verify at h
  split at h
  · cases h
    exact Or.inl ⟨rfl, by simp_all⟩
  split at h
  · cases h
    exact Or.inr (Or.inl rfl)
  split at h
  · cases h
    exact Or.inr (Or.inr rfl)
  · cases h

def Statement.BreaksCheck (db : Db) : Statement → Prop
  | .insert t row => misfit t row = none ∧ Corebank.checks t (store t row) = false
  | .update t id change => ∃ r, db.find t id = some r ∧ misfit t (change.apply t r) = none ∧
      Corebank.checks t (store t (change.apply t r)) = false
  | .delete _ _ => False

theorem exec_error {s : Statement} {db : Db} {e : DriverError} (h : s.exec db = .error e) :
    e ∈ [1064, 1406, 1264, 1292, 1062, 1452, 1451].map mysqlError ∨
      e = mysqlError 3819 ∧ s.BreaksCheck db := by
  have column {t : Table} {r : Row t} (h : misfit t r = some e) :
      e ∈ [1064, 1406, 1264, 1292, 1062, 1452, 1451].map mysqlError := by
    have := misfit_columnError t r e h
    simp only [List.map_cons, List.mem_cons] at this ⊢
    tauto
  have constraint {t : Table} {r : Row t} {others : List (Row t)}
      (h : verify db t r others = some e) :
      e ∈ [1064, 1406, 1264, 1292, 1062, 1452, 1451].map mysqlError ∨
        e = mysqlError 3819 ∧ Corebank.checks t r = false := by
    rcases verify_error h with h | rfl | rfl
    · exact Or.inr h
    · exact Or.inl (by simp)
    · exact Or.inl (by simp)
  cases s with
  | insert t row =>
      simp only [Statement.exec] at h
      split at h
      · cases h
        exact Or.inl (column ‹_›)
      · split at h
        · cases h
          exact (constraint ‹_›).imp_right fun broken => ⟨broken.1, ‹_›, broken.2⟩
        · cases h
  | update t id change =>
      simp only [Statement.exec] at h
      split at h
      · cases h
        exact Or.inl (by simp)
      split at h
      · cases h
      rename_i r found
      split at h
      · cases h
      split at h
      · cases h
        exact Or.inl (column ‹_›)
      split at h
      · cases h
      split at h
      · cases h
        exact (constraint ‹_›).imp_right fun broken => ⟨broken.1, r, found, ‹_›, broken.2⟩
      · cases h
  | delete t id =>
      simp only [Statement.exec] at h
      split at h
      · cases h
      split at h
      · cases h
        exact Or.inl (by simp)
      · cases h

/-! ## Programs -/

def Sql.Issues {α : Type} (ok : Statement → Prop) : Sql α → Prop
  | .done _ | .raise _ => True
  | .fetch next => ∀ db, (next db).Issues ok
  | .lock _ _ next => ∀ r, (next r).Issues ok
  | .execute s next => ok s ∧ ∀ n, (next n).Issues ok

def Service.Issues {α : Type} (ok : Statement → Prop) : Service α → Prop
  | .done _ | .raise _ => True
  | .unitOfWork _ body next => body.Issues ok ∧ ∀ b, (next b).Issues ok
  | .readOnly _ next => ∀ b, (next b).Issues ok

section
variable {α β : Type} {ok : Statement → Prop}

omit [Collation] in
theorem Sql.Issues.bind {p : Sql α} {f : α → Sql β} (hp : p.Issues ok) (hf : ∀ a, (f a).Issues ok) :
    (p >>= f).Issues ok := by
  induction p with
  | done a => exact hf a
  | raise e => trivial
  | fetch next ih => exact fun db => ih db (hp db)
  | lock t id next ih => exact fun r => ih r (hp r)
  | execute s next ih => exact ⟨hp.1, fun n => ih n (hp.2 n)⟩

omit [Collation] in
theorem Service.Issues.bind {op : Service α} {f : α → Service β} (hop : op.Issues ok)
    (hf : ∀ a, (f a).Issues ok) : (op >>= f).Issues ok := by
  induction op with
  | done a => exact hf a
  | raise e => trivial
  | unitOfWork guard body next ih => exact ⟨hop.1, fun b => ih b (hop.2 b)⟩
  | readOnly body next ih => exact fun b => ih b (hop b)

omit [Collation] in
theorem Sql.issues_of_forall (h : ∀ s, ok s) (p : Sql α) : p.Issues ok := by
  induction p with
  | done a => trivial
  | raise e => trivial
  | fetch next ih => exact ih
  | lock t id next ih => exact ih
  | execute s next ih => exact ⟨h s, ih⟩

omit [Collation] in
theorem Service.issues_of_forall (h : ∀ s, ok s) (op : Service α) : op.Issues ok := by
  induction op with
  | done a => trivial
  | raise e => trivial
  | unitOfWork guard body next ih => exact ⟨Sql.issues_of_forall h body, ih⟩
  | readOnly body next ih => exact ih

/-- A relation that the program's statements respect relates the ends of its runs. -/
theorem Sql.run_rel (rel : Db → Db → Prop) (refl : ∀ db, rel db db)
    (trans : ∀ {db db' db''}, rel db db' → rel db' db'' → rel db db'')
    (step : ∀ s, ok s → ∀ {db n db'}, s.exec db = .ok (n, db') → rel db db')
    {p : Sql α} (issues : p.Issues ok) {db db' : Db} {a : α} (h : p.run db = .ok (a, db')) :
    rel db db' := by
  induction p generalizing db with
  | done b =>
      cases h
      exact refl _
  | raise e => cases h
  | fetch next ih => exact ih db (issues db) h
  | lock t id next ih => exact ih _ (issues _) h
  | execute s next ih =>
      simp only [Sql.run] at h
      split at h
      · exact trans (step s issues.1 ‹_›) (ih _ (issues.2 _) h)
      · cases h

theorem Service.run_rel (rel : Db → Db → Prop) (refl : ∀ db, rel db db)
    (trans : ∀ {db db' db''}, rel db db' → rel db' db'' → rel db db'')
    (step : ∀ s, ok s → ∀ {db n db'}, s.exec db = .ok (n, db') → rel db db')
    {op : Service α} (issues : op.Issues ok) (db : Db) : rel db (op.run db).2 := by
  induction op generalizing db with
  | done a => exact refl db
  | raise e => exact refl db
  | unitOfWork guard body next ih =>
      simp only [Service.run]
      split
      · exact trans (Sql.run_rel rel refl trans step issues.1 ‹_›) (ih _ (issues.2 _) _)
      · exact refl db
  | readOnly body next ih =>
      simp only [Service.run]
      split
      · exact ih _ (issues _) db
      · exact refl db

end

theorem Service.run_valid {α : Type} (op : Service α) {db : Db} (valid : db.Valid) :
    (op.run db).2.Valid :=
  Service.run_rel (fun db db' => db.Valid → db'.Valid) (fun _ => id) (fun f g => g ∘ f)
    (fun _ (_ : True) _ _ _ h valid => exec_valid valid h)
    (Service.issues_of_forall (fun _ => trivial) op) db valid

end Corebank
