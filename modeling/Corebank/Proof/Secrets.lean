import Corebank.Proof.Credentials

/-! # Two states that differ in secrets only -/

namespace Corebank
open Library

section
variable [Collation]

/-- A row without its secrets: no password hash, no CVV, of the number the last four of sixteen
characters. -/
def hide : (t : Table) → Row t → Row t
  | .user, r => { r with password := "" }
  | .card, r => { r with cardNumber := String.ofList (r.cardNumber.toList.drop 12), cvv := "" }
  | _, r => r

def Table.hasSecrets : Table → Bool
  | .user | .card => true
  | _ => false

def Db.hidden (db : Db) : Db := fun t => (db t).map (hide t)

def SixteenLong (db : Db) : Prop := ∀ c ∈ db .card, c.cardNumber.length = 16

structure DifferInSecrets (db db' : Db) : Prop where
  valid : db.Valid
  valid' : db'.Valid
  numbers : SixteenLong db
  numbers' : SixteenLong db'
  same : db.hidden = db'.hidden

/-! ## What hiding leaves -/

section
variable (t : Table) (r : Row t)

omit [Collation] in
@[simp] theorem rowId_hide : rowId t (hide t r) = rowId t r := by
  cases t <;> rfl

@[simp] theorem rowKey_hide : rowKey t (hide t r) = rowKey t r := by
  rw [rowKey, rowId_hide, rowKey]

omit [Collation] in
theorem checks_hide : checks t (hide t r) = checks t r := by
  cases t <;> rfl

omit [Collation] in
theorem column_hide {fk : ForeignKey t} (mem : fk ∈ foreignKeys t) :
    fk.column (hide t r) = fk.column r := by
  cases t <;> simp only [foreignKeys, List.mem_cons, List.not_mem_nil, or_false] at mem
  all_goals first | rfl | (rcases mem with rfl | rfl; all_goals rfl)

omit [Collation] in
theorem unique_hide (notCard : t ≠ .card) {column : Row t → String} (mem : column ∈ uniques t) :
    column (hide t r) = column r := by
  cases t <;> simp only [uniques, List.mem_cons, List.not_mem_nil, or_false] at mem
  all_goals first | rfl | exact absurd rfl notCard | (subst mem; rfl)

omit [Collation] in
theorem hide_other (plain : t.hasSecrets = false) : hide t r = r := by
  cases t <;> first | rfl | cases plain

end

omit [Collation] in
theorem hidden_other (db : Db) {t : Table} (plain : t.hasSecrets = false) :
    db.hidden t = db t :=
  (List.map_congr_left fun r _ => hide_other t r plain).trans (List.map_id _)

theorem hidden_find (db : Db) (t : Table) (id : String) :
    db.hidden.find t id = (db.find t id).map (hide t) := by
  rw [Db.find, Db.find, Db.hidden, Keyed.lookup, Keyed.lookup, List.find?_map]
  simp only [Function.comp_def, rowKey_hide]

theorem hidden_missingReference (db : Db) (t : Table) (r : Row t) :
    missingReference db.hidden t r = missingReference db t r := by
  simp [missingReference, hidden_find]

theorem hidden_restricted (db : Db) (t : Table) (id : String) :
    restricted db.hidden t id = restricted db t id := by
  have rows {child : Table} {fk : ForeignKey child} (mem : fk ∈ foreignKeys child) :
      ((db.hidden child).any fun r => (fk.column r).any fun v => key v = key id) =
        (db child).any fun r => (fk.column r).any fun v => key v = key id := by
    simp [Db.hidden, List.any_map, Function.comp_def, column_hide _ _ mem]
  unfold restricted
  congr 1
  funext child
  rw [Bool.eq_iff_iff, List.any_eq_true, List.any_eq_true]
  exact exists_congr fun fk => and_congr_right fun mem => by rw [rows mem]

section
variable {t : Table} (notCard : t ≠ .card)
include notCard

theorem clashes_hide (r o : Row t) : clashes t (hide t r) (hide t o) = clashes t r o := by
  rw [clashes, clashes, rowKey_hide, rowKey_hide]
  congr 1
  rw [Bool.eq_iff_iff, List.any_eq_true, List.any_eq_true]
  exact exists_congr fun column => and_congr_right fun mem => by
    rw [unique_hide t r notCard mem, unique_hide t o notCard mem]

theorem hidden_verify (db : Db) (r : Row t) (others : List (Row t)) :
    verify db.hidden t (hide t r) (others.map (hide t)) = verify db t r others := by
  have clash : (others.map (hide t)).any (clashes t (hide t r)) = others.any (clashes t r) := by
    simp [List.any_map, Function.comp_def, clashes_hide notCard]
  have missing : missingReference db.hidden t (hide t r) = missingReference db t r := by
    rw [hidden_missingReference, missingReference, missingReference, Bool.eq_iff_iff,
      List.any_eq_true, List.any_eq_true]
    exact exists_congr fun fk => and_congr_right fun mem => by rw [column_hide t r mem]
  rw [verify, verify, checks_hide, clash, missing]

end

omit [Collation] in
theorem hidden_set (db : Db) (t : Table) (rows : List (Row t)) :
    (db.set t rows).hidden = db.hidden.set t (rows.map (hide t)) := by
  funext t'
  by_cases e : t' = t
  · subst e
    simp [Db.hidden]
  · simp [Db.hidden, Db.set_other, e]

theorem hidden_replace {t : Table} (x : Row t) (rows : List (Row t)) :
    (Keyed.replace (rowKey t) x rows).map (hide t) =
      Keyed.replace (rowKey t) (hide t x) (rows.map (hide t)) := by
  simp only [Keyed.replace, List.map_map]
  apply List.map_congr_left
  intro y _
  by_cases e : rowKey t y = rowKey t x <;> simp [e]

theorem hidden_others (db : Db) {t : Table} (r : Row t) :
    (db.others t r).map (hide t) = db.hidden.others t (hide t r) := by
  simp [Db.others, Db.hidden, List.filter_map, Function.comp_def]

def Db.without (db : Db) (t : Table) (id : String) : Db :=
  Db.set (fun child => (db child).map (nullify t id child)) t
    (Keyed.remove (rowKey t) (key id) (db t))

theorem hidden_without (db : Db) (t : Table) (id : String) :
    (db.without t id).hidden = db.hidden.without t id := by
  have swap {child : Table} (r : Row child) :
      hide child (nullify t id child r) = nullify t id child (hide child r) := by
    by_cases ledger : child = .transaction
    · subst ledger
      rfl
    · rw [nullify_other t id ledger, nullify_other t id ledger]
  rw [Db.without, hidden_set, Db.without]
  congr 1
  · funext child
    simp [Db.hidden, swap]
  · simp [Keyed.remove, Db.hidden, List.filter_map, Function.comp_def]

/-! ## Statements -/

/-- The same result, and states that still differ in secrets only. -/
inductive AlikeOutcome {ε α : Type} : Except ε (α × Db) → Except ε (α × Db) → Prop
  | ok (a : α) {db db' : Db} (low : DifferInSecrets db db') : AlikeOutcome (.ok (a, db)) (.ok (a, db'))
  | error (e : ε) : AlikeOutcome (.error e) (.error e)

theorem AlikeOutcome.split {ε α : Type} {x y : Except ε (α × Db)} (alike : AlikeOutcome x y) :
    (∃ a d d', x = .ok (a, d) ∧ y = .ok (a, d') ∧ DifferInSecrets d d') ∨
      ∃ e, x = .error e ∧ y = .error e := by
  cases alike with
  | ok a low => exact Or.inl ⟨a, _, _, rfl, rfl, low⟩
  | error e => exact Or.inr ⟨e, rfl, rfl⟩

def StoresOther (db : Db) (hash : String) : Prop := ∀ u ∈ db .user, u.password ≠ varchar 255 hash

/-- Statements of every call but the creation of a card; a new hash is one no row has. -/
def Statement.SafeAt (db db' : Db) : Statement → Prop
  | .insert .card _ => False
  | .update .user _ fields => ∀ hash, fields.password = some hash → StoresOther db hash ∧ StoresOther db' hash
  | _ => True

def Statement.makesCard : Statement → Bool
  | .insert .card _ => true
  | _ => false

theorem exec_sixteenLong {s : Statement} (noCard : s.makesCard = false) {db db' : Db} {n : Nat}
    (h : s.exec db = .ok (n, db')) (numbers : SixteenLong db) : SixteenLong db' := by
  cases s with
  | insert t row =>
      obtain ⟨-, -, -, rfl⟩ := exec_insert h
      have notCard : .card ≠ t := by
        intro card
        subst card
        cases noCard
      rwa [SixteenLong, Db.set_other _ _ notCard]
  | update t id change =>
      rcases exec_update h with ⟨-, rfl, -⟩ | ⟨r, found, -, -, -, -, -, rfl⟩
      · exact numbers
      by_cases card : .card = t
      · subst card
        intro c mem
        rw [Db.set_same] at mem
        rcases Keyed.mem_replace mem with rfl | ⟨mem, -⟩
        · have long : r.cardNumber.length = 16 := numbers r (Db.find_mem found)
          simp [store, Change.apply, varchar, String.length_toList, long]
        · exact numbers c mem
      · rwa [SixteenLong, Db.set_other _ _ card]
  | delete t id =>
      rcases exec_delete h with ⟨-, rfl, -⟩ | ⟨r, -, -, -, rfl⟩
      · exact numbers
      by_cases card : .card = t
      · subst card
        intro c mem
        rw [Db.set_same, Keyed.mem_remove] at mem
        exact numbers c mem.1
      · rw [SixteenLong, Db.set_other _ _ card]
        intro c mem
        obtain ⟨c, found, rfl⟩ := List.mem_map.mp mem
        exact numbers c found

theorem valid_password {db : Db} (valid : db.Valid) {u : User} (mem : u ∈ db .user) :
    varcharMisfit 255 u.password = none ∧ varchar 255 u.password = u.password := by
  obtain ⟨fits, stored⟩ := valid.fits .user u mem
  rw [store, User.mk.injEq] at stored
  exact ⟨(user_columns fits).2, stored.2.2.1⟩

section
variable {db db' : Db} (low : DifferInSecrets db db')
include low

theorem DifferInSecrets.after {s : Statement} (noCard : s.makesCard = false) {n : Nat}
    {d d' : Db} (first : s.exec db = .ok (n, d)) (second : s.exec db' = .ok (n, d'))
    (same : d.hidden = d'.hidden) : AlikeOutcome (s.exec db) (s.exec db') := by
  rw [first, second]
  exact .ok n ⟨exec_valid low.valid first, exec_valid low.valid' second,
    exec_sixteenLong noCard first low.numbers, exec_sixteenLong noCard second low.numbers', same⟩

theorem DifferInSecrets.rows {t : Table} (plain : t.hasSecrets = false) : db t = db' t := by
  rw [← hidden_other db plain, low.same, hidden_other db' plain]

theorem DifferInSecrets.find (t : Table) (id : String) :
    (db.find t id).map (hide t) = (db'.find t id).map (hide t) := by
  rw [← hidden_find, low.same, hidden_find]

theorem insert_alike {t : Table} (notCard : t ≠ .card) (row : Row t) :
    AlikeOutcome ((Statement.insert t row).exec db) ((Statement.insert t row).exec db') := by
  have verified : verify db t (store t row) (db t) = verify db' t (store t row) (db' t) := by
    rw [← hidden_verify notCard db, ← hidden_verify notCard db', ← Db.hidden, low.same]
    rfl
  have noCard : (Statement.insert t row).makesCard = false := by
    cases t <;> first | rfl | exact absurd rfl notCard
  cases fits : misfit t row with
  | some e =>
      simp only [Statement.exec, fits]
      exact .error e
  | none =>
      cases accepted : verify db t (store t row) (db t) with
      | some e =>
          simp only [Statement.exec, fits, ← verified, accepted]
          exact .error e
      | none =>
          refine low.after noCard (exec_insert_ok fits accepted)
            (exec_insert_ok fits (verified ▸ accepted)) ?_
          rw [hidden_set, hidden_set, List.map_append, List.map_append]
          have rows : (db t).map (hide t) = (db' t).map (hide t) := congrFun low.same t
          rw [rows, low.same]

theorem delete_alike (t : Table) (id : String) :
    AlikeOutcome ((Statement.delete t id).exec db) ((Statement.delete t id).exec db') := by
  have found : (db.find t id).isSome = (db'.find t id).isSome := by
    have same := congrArg Option.isSome (low.find t id)
    simpa using same
  have restricts : restricted db t id = restricted db' t id := by
    rw [← hidden_restricted, low.same, hidden_restricted]
  cases h : db.find t id with
  | none =>
      have h' : db'.find t id = none := by simpa [h] using found
      simp only [Statement.exec, h, h']
      exact .ok 0 low
  | some r =>
      obtain ⟨r', h'⟩ := Option.isSome_iff_exists.mp (found ▸ Option.isSome_of_eq_some h)
      cases free : restricted db t id with
      | true =>
          simp only [Statement.exec, h, h', ← restricts, free, if_true]
          exact .error _
      | false =>
          have free' : restricted db' t id = false := restricts ▸ free
          have first : (Statement.delete t id).exec db = .ok (1, db.without t id) := by
            simp only [Statement.exec, h, free, Bool.false_eq_true, if_false, Db.without]
          have second : (Statement.delete t id).exec db' = .ok (1, db'.without t id) := by
            simp only [Statement.exec, h', free', Bool.false_eq_true, if_false, Db.without]
          refine low.after rfl first second ?_
          rw [hidden_without, hidden_without, low.same]

/-- An UPDATE goes alike for two rows when it goes alike in what it looks at. -/
structure UpdatesAlike {t : Table} (change : Change t) (r r' : Row t) : Prop where
  selects : change.selects t r = change.selects t r'
  misfit : misfit t (change.apply t r) = misfit t (change.apply t r')
  unchanged : store t (change.apply t r) = r ↔ store t (change.apply t r') = r'
  hidden : hide t (store t (change.apply t r)) = hide t (store t (change.apply t r'))

theorem update_alike_of {t : Table} (notCard : t ≠ .card) {id : String} {change : Change t}
    (alike : ∀ r r', db.find t id = some r → db'.find t id = some r' → hide t r = hide t r' →
      UpdatesAlike change r r') :
    AlikeOutcome ((Statement.update t id change).exec db) ((Statement.update t id change).exec db') := by
  have found := low.find t id
  cases assigns : change.assigns t with
  | false =>
      simp only [Statement.exec, assigns, Bool.not_false, if_true]
      exact .error _
  | true =>
  cases h : db.find t id with
  | none =>
      have h' : db'.find t id = none := by simpa [h, eq_comm] using found
      rw [exec_missing assigns h, exec_missing assigns h']
      exact .ok 0 low
  | some r =>
  obtain ⟨r', h', hiddenRow⟩ : ∃ r', db'.find t id = some r' ∧ hide t r' = hide t r := by
    rw [h, Option.map_some, eq_comm, Option.map_eq_some_iff] at found
    exact found
  obtain ⟨selects, misfits, unchanged, hidden⟩ := alike r r' h h' hiddenRow.symm
  have verified : verify db t (store t (change.apply t r)) (db.others t (store t (change.apply t r))) =
      verify db' t (store t (change.apply t r')) (db'.others t (store t (change.apply t r'))) := by
    rw [← hidden_verify notCard db, ← hidden_verify notCard db', hidden_others, hidden_others, hidden,
      low.same]
  cases chosen : change.selects t r with
  | false =>
      simp only [Statement.exec, assigns, h, h', ← selects, chosen, Bool.not_true, Bool.not_false,
        Bool.false_eq_true, if_true, if_false]
      exact .ok 0 low
  | true =>
  cases fits : Corebank.misfit t (change.apply t r) with
  | some e =>
      simp only [Statement.exec, assigns, h, h', ← selects, chosen, ← misfits, fits, Bool.not_true,
        Bool.false_eq_true, if_false]
      exact .error e
  | none =>
  by_cases kept : store t (change.apply t r) = r
  · simp only [Statement.exec, assigns, h, h', ← selects, chosen, ← misfits, fits, kept,
      unchanged.mp kept, Bool.not_true, Bool.false_eq_true, if_true, if_false]
    exact .ok 0 low
  have kept' := mt unchanged.mpr kept
  cases accepted : verify db t (store t (change.apply t r))
      (db.others t (store t (change.apply t r))) with
  | some e =>
      simp only [Statement.exec, assigns, h, h', ← selects, chosen, ← misfits, fits, kept, kept',
        ← verified, accepted, Bool.not_true, Bool.false_eq_true, if_false]
      exact .error e
  | none =>
      have first : (Statement.update t id change).exec db =
          .ok (1, db.updated t (updated t change r)) := by
        simp only [Statement.exec, assigns, h, chosen, fits, kept, accepted, Bool.not_true,
          Bool.false_eq_true, if_false, Db.updated, updated]
      have second : (Statement.update t id change).exec db' =
          .ok (1, db'.updated t (updated t change r')) := by
        simp only [Statement.exec, assigns, h', ← selects, chosen, ← misfits, fits, kept', ← verified,
          accepted, Bool.not_true, Bool.false_eq_true, if_false, Db.updated, updated]
      refine low.after rfl first second ?_
      have rows : (db t).map (hide t) = (db' t).map (hide t) := congrFun low.same t
      rw [Db.updated, Db.updated, hidden_set, hidden_set, hidden_replace, hidden_replace, updated,
        updated, hidden, rows, low.same]

theorem update_alike_other {t : Table} (plain : t.hasSecrets = false) (id : String)
    (change : Change t) :
    AlikeOutcome ((Statement.update t id change).exec db)
      ((Statement.update t id change).exec db') := by
  have notCard : t ≠ .card := by
    intro card
    subst card
    cases plain
  refine update_alike_of low notCard fun r r' _ _ same => ?_
  rw [hide_other t r plain, hide_other t r' plain] at same
  subst same
  exact ⟨rfl, rfl, Iff.rfl, rfl⟩

theorem update_alike_user (id : String) (fields : UserFields)
    (fresh : ∀ hash, fields.password = some hash → StoresOther db hash ∧ StoresOther db' hash) :
    AlikeOutcome ((Statement.update .user id fields).exec db)
      ((Statement.update .user id fields).exec db') := by
  refine update_alike_of low (by decide) fun r r' h h' same => ?_
  have stored := valid_password low.valid (Db.find_mem h)
  have stored' := valid_password low.valid' (Db.find_mem h')
  have other (hash : String) (given : fields.password = some hash) :
      varchar 255 hash ≠ r.password ∧ varchar 255 hash ≠ r'.password :=
    ⟨((fresh hash given).1 r (Db.find_mem h)).symm, ((fresh hash given).2 r' (Db.find_mem h')).symm⟩
  obtain ⟨userId, username, password, role, customerId⟩ := r
  obtain ⟨userId', username', password', role', customerId'⟩ := r'
  simp only [hide, User.mk.injEq] at same
  obtain ⟨rfl, rfl, -, rfl, rfl⟩ := same
  simp only at stored stored' other
  refine ⟨rfl, ?_, ?_, rfl⟩
  · cases given : fields.password with
    | none => simp only [misfit, Change.apply, given, Option.getD_none, stored.1, stored'.1]
    | some hash => simp only [misfit, Change.apply, given, Option.getD_some]
  · cases given : fields.password with
    | none =>
        simp only [store, Change.apply, given, Option.getD_none, stored.2, stored'.2, User.mk.injEq,
          true_and]
    | some hash =>
        simp only [store, Change.apply, given, Option.getD_some, User.mk.injEq, other hash given,
          false_and, and_false]

/-! ### The status of a card -/

theorem update_alike_card (id : String) (status : CardStatus) :
    AlikeOutcome ((Statement.update .card id status).exec db)
      ((Statement.update .card id status).exec db') := by
  have found := low.find .card id
  cases h : db.find .card id with
  | none =>
      have h' : db'.find .card id = none := by simpa [h, eq_comm] using found
      rw [exec_missing rfl h, exec_missing rfl h']
      exact .ok 0 low
  | some r =>
      obtain ⟨r', h', same⟩ : ∃ r', db'.find .card id = some r' ∧ hide .card r' = hide .card r := by
        rw [h, Option.map_some, eq_comm, Option.map_eq_some_iff] at found
        exact found
      have sameStatus : r'.status = r.status :=
        (congrArg Card.status same : (hide .card r').status = (hide .card r).status)
      by_cases kept : r.status = status
      · rw [exec_cardStatus low.valid h status, exec_cardStatus low.valid' h' status, if_pos kept,
          if_pos (sameStatus.trans kept)]
        exact .ok 0 low
      · have first := exec_cardStatus low.valid h status
        have second := exec_cardStatus low.valid' h' status
        rw [if_neg kept] at first
        rw [if_neg (sameStatus ▸ kept)] at second
        refine low.after rfl first second ?_
        have rows : (db .card).map (hide .card) = (db' .card).map (hide .card) :=
          congrFun low.same .card
        have hidden : hide .card { r with status := status } = hide .card { r' with status := status } :=
          congrArg (fun c : Card => { c with status := status }) same.symm
        rw [Db.updated, Db.updated, hidden_set, hidden_set, hidden_replace, hidden_replace, hidden,
          rows, low.same]

theorem exec_alike {s : Statement} (safe : s.SafeAt db db') :
    AlikeOutcome (s.exec db) (s.exec db') := by
  cases s with
  | insert t row =>
      refine insert_alike low (fun card => ?_) row
      subst card
      exact safe
  | update t id change =>
      cases t with
      | user => exact update_alike_user low id change safe
      | card => exact update_alike_card low id change
      | _ => exact update_alike_other low rfl id change
  | delete t id => exact delete_alike low t id

end

end

end Corebank
