import Corebank.Library.TwoPhase

/-!
# Interleaved runs are serial runs

Rows locked to the end of the transaction make every interleaving of units of work end as the run
of one call after the other, in the order in which they came to their end.
-/

namespace Corebank.Library.TwoPhase
open Keyed

variable {K V Δ L E R ι : Type} [DecidableEq K] (S : Schema K V Δ E)

/-! ## What a session sees -/

/-- Stores with the same keys that hold the same rows `ks`. -/
structure Agrees (ks : List K) (s s' : Store V L) : Prop where
  keys : s'.rows.map S.key = s.rows.map S.key
  rows : ∀ k ∈ ks, lookup S.key k s'.rows = lookup S.key k s.rows

theorem agrees_refl (ks : List K) (s : Store V L) : Agrees S ks s s := ⟨rfl, fun _ _ => rfl⟩

variable {S}

theorem Agrees.trans {ks : List K} {s s' s'' : Store V L} (h : Agrees S ks s s')
    (h' : Agrees S ks s' s'') : Agrees S ks s s'' :=
  ⟨h'.keys.trans h.keys, fun k mem => (h'.rows k mem).trans (h.rows k mem)⟩

theorem Agrees.mono {ks ks' : List K} {s s' : Store V L} (h : Agrees S ks s s')
    (sub : ∀ k ∈ ks', k ∈ ks) : Agrees S ks' s s' :=
  ⟨h.keys, fun k mem => h.rows k (sub k mem)⟩

theorem key_getD (own : List V) (v : V) :
    S.key ((lookup S.key (S.key v) own).getD v) = S.key v := by
  cases found : lookup S.key (S.key v) own with
  | none => rfl
  | some w => exact lookup_key found

theorem keys_view (own : List V) (pending : List L) (s : Store V L) :
    (view S own pending s).rows.map S.key = s.rows.map S.key := by
  simp only [view, List.map_map]
  exact List.map_congr_left fun v _ => key_getD own v

theorem lookup_view (k : K) (own : List V) (pending : List L) (s : Store V L) :
    lookup S.key k (view S own pending s).rows =
      (lookup S.key k s.rows).map fun v => (lookup S.key k own).getD v := by
  have same : (fun v => decide (S.key v = k)) ∘ (fun v => (lookup S.key (S.key v) own).getD v) =
      fun v => decide (S.key v = k) := by
    funext v
    simp only [Function.comp_apply, key_getD]
  rw [view, lookup, List.find?_map, same]
  cases found : lookup S.key k s.rows with
  | none =>
      rw [lookup] at found
      rw [found]
      rfl
  | some v =>
      have key_v : S.key v = k := lookup_key found
      rw [lookup] at found
      rw [found, Option.map_some, Option.map_some, key_v]

theorem view_nil (s : Store V L) : view S [] [] s = s := by
  ext1
  · simp [view, lookup]
  · simp [view]

theorem view_cons {own : List V} {pending : List L} {s : Store V L}
    (nodup : (s.rows.map S.key).Nodup) {v : V} (found : lookup S.key (S.key v) s.rows = some v)
    (fresh : lookup S.key (S.key v) own = none) :
    view S (v :: own) pending s = view S own pending s := by
  ext1
  · refine List.map_congr_left fun u mem => ?_
    by_cases same : S.key v = S.key u
    · obtain rfl : u = v := eq_of_key nodup mem (lookup_mem found) same.symm
      rw [fresh]
      simp [lookup]
    · simp [lookup, same]
  · rfl

theorem view_replace {own : List V} {pending : List L} {s : Store V L} {v' : V}
    (mine : (lookup S.key (S.key v') own).isSome) :
    view S (replace S.key v' own) pending s =
      { view S own pending s with rows := replace S.key v' (view S own pending s).rows } := by
  ext1
  · simp only [view, replace, List.map_map]
    refine List.map_congr_left fun u _ => ?_
    simp only [Function.comp_apply, key_getD]
    by_cases same : S.key u = S.key v'
    · rw [if_pos same, same]
      exact congrArg (·.getD u) (lookup_replace_self mine)
    · rw [if_neg same]
      exact congrArg (·.getD u) (lookup_replace_of_ne same)
  · rfl

/-! ## One statement -/

structure Holds (s : Store V L) (own : List V) : Prop where
  rows : (s.rows.map S.key).Nodup
  nodup : (own.map S.key).Nodup
  known : ∀ v ∈ own, S.key v ∈ s.rows.map S.key

theorem acquire_cases (s : Store V L) (k : K) (own : List V) :
    (∃ v, lookup S.key k own = some v ∧ acquire S s k own = (some v, own)) ∨
    (∃ v, lookup S.key k own = none ∧ lookup S.key k s.rows = some v ∧
      acquire S s k own = (some v, v :: own)) ∨
    lookup S.key k own = none ∧ lookup S.key k s.rows = none ∧
      acquire S s k own = (none, own) := by
  unfold acquire
  cases mine : lookup S.key k own with
  | some v => exact Or.inl ⟨v, rfl, rfl⟩
  | none =>
      cases found : lookup S.key k s.rows with
      | some v => exact Or.inr (Or.inl ⟨v, rfl, rfl, rfl⟩)
      | none => exact Or.inr (Or.inr ⟨rfl, rfl, rfl⟩)

theorem lookup_acquire_self (s : Store V L) (k : K) (own : List V) :
    lookup S.key k (acquire S s k own).2 = (acquire S s k own).1 := by
  rcases acquire_cases (S := S) s k own with
    ⟨v, mine, eq⟩ | ⟨v, -, found, eq⟩ | ⟨mine, -, eq⟩ <;> rw [eq]
  · exact mine
  · simp [lookup, lookup_key found]
  · exact mine

theorem lookup_acquire_of_ne (s : Store V L) {k k' : K} (ne : k' ≠ k) (own : List V) :
    lookup S.key k' (acquire S s k own).2 = lookup S.key k' own := by
  rcases acquire_cases (S := S) s k own with
    ⟨v, -, eq⟩ | ⟨v, -, found, eq⟩ | ⟨-, -, eq⟩ <;> rw [eq]
  have other : S.key v ≠ k' := fun same => ne (same.symm.trans (lookup_key found))
  simp [lookup, other]

def Grows (committed : Store V L) (available : K → Bool) (ks ks' : List K) : Prop :=
  ks' = ks ∨ ∃ k, ks' = k :: ks ∧ k ∉ ks ∧ k ∈ committed.rows.map S.key ∧ available k = true

theorem acquire_grows (committed : Store V L) (available : K → Bool) (k : K) (own : List V)
    (free : available k = true) :
    Grows (S := S) committed available (own.map S.key) ((acquire S committed k own).2.map S.key) := by
  rcases acquire_cases (S := S) committed k own with
    ⟨v, -, eq⟩ | ⟨v, fresh, found, eq⟩ | ⟨-, -, eq⟩ <;> rw [eq]
  · exact Or.inl rfl
  · refine Or.inr ⟨k, ?_, ?_, ?_, free⟩
    · rw [List.map_cons, lookup_key found]
    · intro mem
      obtain ⟨w, mem, same⟩ := List.mem_map.mp mem
      exact lookup_eq_none.mp fresh w mem same
    · exact lookup_key found ▸ List.mem_map_of_mem (lookup_mem found)
  · exact Or.inl rfl

theorem Updated.keys {change : Δ} {next : Nat → Prog K V Δ L E R} {read : Option V}
    {own own' : List V} {rest : Prog K V Δ L E R}
    (updated : Updated S change next read own own' rest) : own'.map S.key = own.map S.key := by
  cases updated with
  | changed => exact map_key_replace _ _
  | _ => rfl

theorem Work.step_grows {committed : Store V L} {available : K → Bool}
    {work work' : Work K V Δ L E R} (h : work.step S committed available = some work') :
    Grows (S := S) committed available (work.own.map S.key) (work'.own.map S.key) := by
  obtain ⟨own, pending, rest⟩ := work
  cases rest with
  | done r => cases h
  | raise e => cases h
  | select next =>
      cases h
      exact Or.inl rfl
  | append entry next =>
      cases h
      exact Or.inl rfl
  | lock k next =>
      obtain ⟨free, rfl⟩ := Work.step_lock h
      exact acquire_grows committed available k own free
  | update k change next =>
      obtain ⟨free, own', rest, rfl, updated⟩ := Work.step_update h
      rw [updated.keys]
      exact acquire_grows committed available k own free

omit [DecidableEq K] in
theorem Holds.grows {committed : Store V L} {available : K → Bool} {own own' : List V}
    (holds : Holds (S := S) committed own)
    (grows : Grows (S := S) committed available (own.map S.key) (own'.map S.key)) :
    Holds (S := S) committed own' := by
  have known : ∀ k ∈ own.map S.key, k ∈ committed.rows.map S.key := by
    intro k mem
    obtain ⟨v, held, rfl⟩ := List.mem_map.mp mem
    exact holds.known v held
  rcases grows with same | ⟨k, same, fresh, found, -⟩
  · exact ⟨holds.rows, same ▸ holds.nodup, fun v mem =>
      known _ (same ▸ List.mem_map_of_mem mem)⟩
  · refine ⟨holds.rows, same ▸ List.nodup_cons.mpr ⟨fresh, holds.nodup⟩, fun v mem => ?_⟩
    have mem : S.key v ∈ k :: own.map S.key := same ▸ List.mem_map_of_mem mem
    rcases List.mem_cons.mp mem with eq | mem
    · exact eq ▸ found
    · exact known _ mem

theorem acquire_view {committed s : Store V L} {k : K} {own : List V} (pending : List L)
    (holds : Holds (S := S) committed own)
    (agrees : Agrees S ((acquire S committed k own).2.map S.key) committed s) :
    lookup S.key k (view S own pending s).rows = (acquire S committed k own).1 ∧
      view S (acquire S committed k own).2 pending s = view S own pending s := by
  have nodup : (s.rows.map S.key).Nodup := agrees.keys ▸ holds.rows
  rcases acquire_cases (S := S) committed k own with
    ⟨v, mine, eq⟩ | ⟨v, fresh, found, eq⟩ | ⟨fresh, missing, eq⟩ <;> rw [eq] at agrees ⊢
  · have known : k ∈ s.rows.map S.key := by
      rw [agrees.keys, ← lookup_key mine]
      exact holds.known v (lookup_mem mine)
    obtain ⟨u, mem, same⟩ := List.mem_map.mp known
    refine ⟨?_, rfl⟩
    rw [lookup_view, mine, ← same, lookup_of_mem nodup mem]
    rfl
  · have key_v : S.key v = k := lookup_key found
    have found' : lookup S.key k s.rows = some v := by
      rw [agrees.rows k (by rw [List.map_cons, key_v]; exact List.mem_cons_self), found]
    constructor
    · rw [lookup_view, found', fresh]
      rfl
    · subst key_v
      exact view_cons nodup found' fresh
  · have missing' : lookup S.key k s.rows = none := by
      rw [lookup_eq_none] at missing ⊢
      intro u mem same
      have known : k ∈ committed.rows.map S.key := agrees.keys ▸ same ▸ List.mem_map_of_mem mem
      obtain ⟨w, mem, same⟩ := List.mem_map.mp known
      exact missing w mem same
    refine ⟨?_, rfl⟩
    rw [lookup_view, missing']
    rfl

/-- Programs without a plain SELECT, which no lock protects. -/
def Prog.Locking : Prog K V Δ L E R → Prop
  | .done _ | .raise _ => True
  | .select _ => False
  | .lock _ next => ∀ v, (next v).Locking
  | .update _ _ next => ∀ n, (next n).Locking
  | .append _ next => next.Locking

theorem Work.step_locking {committed : Store V L} {available : K → Bool}
    {work work' : Work K V Δ L E R} (locking : work.rest.Locking)
    (h : work.step S committed available = some work') : work'.rest.Locking := by
  obtain ⟨own, pending, rest⟩ := work
  cases rest with
  | done r => cases h
  | raise e => cases h
  | select next => exact locking.elim
  | append entry next =>
      cases h
      exact locking
  | lock k next =>
      obtain ⟨-, rfl⟩ := Work.step_lock h
      exact locking _
  | update k change next =>
      obtain ⟨-, own', rest, rfl, updated⟩ := Work.step_update h
      cases updated with
      | missing | kept | changed => exact locking _
      | failed => trivial

/-- A statement does to the view of any agreeing store what it does alone. -/
theorem Work.step_run_of_ne {committed s : Store V L} {available : K → Bool}
    {work work' : Work K V Δ L E R} (other : ∀ next, work.rest ≠ .select next)
    (holds : Holds (S := S) committed work.own)
    (h : work.step S committed available = some work')
    (agrees : Agrees S (work'.own.map S.key) committed s) :
    work.rest.run S (view S work.own work.pending s) =
      work'.rest.run S (view S work'.own work'.pending s) := by
  obtain ⟨own, pending, rest⟩ := work
  cases rest with
  | done r => cases h
  | raise e => cases h
  | select next => exact absurd rfl (other next)
  | append entry next =>
      cases h
      simp only [Prog.run, view, List.append_assoc]
  | lock k next =>
      obtain ⟨-, rfl⟩ := Work.step_lock h
      obtain ⟨read, same⟩ := acquire_view pending holds agrees
      simp only [Prog.run]
      rw [read, same]
  | update k change next =>
      obtain ⟨-, own', rest, rfl, updated⟩ := Work.step_update h
      simp only [updated.keys] at agrees
      obtain ⟨read, same⟩ := acquire_view pending holds agrees
      simp only [Prog.run]
      rw [read]
      cases updated with
      | missing absent => rw [absent, same]
      | kept found applied =>
          rw [found, same]
          simp only [applied]
      | @changed v v' found applied =>
          have held := (lookup_acquire_self (S := S) committed k own).trans found
          have mine : (lookup S.key (S.key v') (acquire S committed k own).2).isSome := by
            rw [S.key_apply applied, lookup_key held, held]
            rfl
          rw [found, view_replace mine, same]
          simp only [applied]
      | failed found applied =>
          rw [found]
          simp only [applied, Prog.run]

theorem Work.step_run {committed s : Store V L} {available : K → Bool}
    {work work' : Work K V Δ L E R} (locking : work.rest.Locking)
    (holds : Holds (S := S) committed work.own)
    (h : work.step S committed available = some work')
    (agrees : Agrees S (work'.own.map S.key) committed s) :
    work.rest.run S (view S work.own work.pending s) =
      work'.rest.run S (view S work'.own work'.pending s) := by
  refine Work.step_run_of_ne (fun next eq => ?_) holds h agrees
  rw [eq] at locking
  exact locking

end Corebank.Library.TwoPhase
