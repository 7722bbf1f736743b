import Mathlib.Data.List.Sort
import Mathlib.Data.Set.Basic

/-!
# Removing what nothing holds

Things that hold each other, removed one at a time: a thing may go once all that hold it are gone.
-/

namespace Corebank.Library.Removal

variable {M : Type} {holds holds' : M → M → Prop} {present : Set M} {order : List M}

/-- Each of the list is there, and held by nothing that is there, when its turn comes. -/
def Removable (holds : M → M → Prop) : Set M → List M → Prop
  | _, [] => True
  | present, m :: order =>
      m ∈ present ∧ (∀ h ∈ present, ¬ holds h m) ∧ Removable holds (present \ {m}) order

theorem Removable.congr (same : ∀ h ∈ present, ∀ m, holds h m ↔ holds' h m) :
    Removable holds present order ↔ Removable holds' present order := by
  induction order generalizing present with
  | nil => exact Iff.rfl
  | cons m order ih =>
      have free : (∀ h ∈ present, ¬ holds h m) ↔ ∀ h ∈ present, ¬ holds' h m :=
        forall₂_congr fun h mem => not_congr (same h mem m)
      have rest : Removable holds (present \ {m}) order ↔ Removable holds' (present \ {m}) order :=
        ih fun h mem => same h mem.1
      rw [Removable, Removable, free, rest]

structure HoldersFirst (holds : M → M → Prop) (present : Set M) (order : List M) : Prop where
  there : ∀ m ∈ order, m ∈ present
  distinct : order.Nodup
  first : ∀ before m after, order = before ++ m :: after → ∀ h ∈ present, holds h m → h ∈ before

theorem HoldersFirst.head {m : M} (first : HoldersFirst holds present (m :: order)) :
    m ∈ present ∧ ∀ h ∈ present, ¬ holds h m := by
  refine ⟨first.there m List.mem_cons_self, fun h mem held => ?_⟩
  cases first.first [] m order rfl h mem held

theorem HoldersFirst.tail {m : M} (first : HoldersFirst holds present (m :: order)) :
    HoldersFirst holds (present \ {m}) order := by
  obtain ⟨unlisted, distinct⟩ := List.nodup_cons.mp first.distinct
  refine ⟨fun m' mem => ⟨first.there m' (List.mem_cons_of_mem m mem), ?_⟩, distinct, ?_⟩
  · rintro rfl
    exact unlisted mem
  · intro before m' after split h mem held
    have listed := first.first (m :: before) m' after (by rw [split]; rfl) h mem.1 held
    exact (List.mem_cons.mp listed).resolve_left mem.2

theorem HoldersFirst.cons {m : M} (there : m ∈ present) (free : ∀ h ∈ present, ¬ holds h m)
    (first : HoldersFirst holds (present \ {m}) order) : HoldersFirst holds present (m :: order) := by
  have unlisted : m ∉ order := fun mem => (first.there m mem).2 rfl
  refine ⟨?_, List.nodup_cons.mpr ⟨unlisted, first.distinct⟩, ?_⟩
  · exact List.forall_mem_cons.mpr ⟨there, fun m' mem => (first.there m' mem).1⟩
  · intro before m' after split h mem held
    cases before with
    | nil =>
        cases split
        exact absurd held (free h mem)
    | cons b before =>
        cases split
        by_cases e : h = m
        · exact e ▸ List.mem_cons_self
        · exact List.mem_cons_of_mem m (first.first before m' after rfl h ⟨mem, e⟩ held)

/-- The things of a list can be removed in its order when none is listed twice and each comes
after all that hold it. -/
theorem removable_iff : Removable holds present order ↔ HoldersFirst holds present order := by
  induction order generalizing present with
  | nil =>
      refine ⟨fun _ => ⟨by simp, List.nodup_nil, ?_⟩, fun _ => trivial⟩
      intro before m after split
      cases before <;> cases split
  | cons m order ih =>
      rw [Removable, ih]
      constructor
      · rintro ⟨there, free, first⟩
        exact first.cons there free
      · intro first
        exact ⟨first.head.1, first.head.2, first.tail⟩

theorem HoldersFirst.closed (first : HoldersFirst holds present order) {h m : M}
    (mem : m ∈ order) (there : h ∈ present) (held : holds h m) : h ∈ order := by
  obtain ⟨before, after, split⟩ := List.append_of_mem mem
  exact split ▸ List.mem_append_left _ (first.first before m after split h there held)

/-- Where holders rank below what they hold, a list by rank that lacks no holder is in order. -/
theorem HoldersFirst.of_rank (rank : M → Nat) (below : ∀ h m, holds h m → rank h < rank m)
    (sorted : order.Pairwise fun m m' => rank m ≤ rank m') (distinct : order.Nodup)
    (there : ∀ m ∈ order, m ∈ present)
    (closed : ∀ m ∈ order, ∀ h ∈ present, holds h m → h ∈ order) :
    HoldersFirst holds present order := by
  refine ⟨there, distinct, fun before m after split h mem held => ?_⟩
  subst split
  have listed := closed m (by simp) h mem held
  rcases List.mem_append.mp listed with earlier | later
  · exact earlier
  · have lower := below h m held
    have ranked := (List.pairwise_cons.mp (List.pairwise_append.mp sorted).2.1).1
    rcases List.mem_cons.mp later with rfl | later
    · exact absurd lower (lt_irrefl _)
    · exact absurd (ranked h later) (not_le_of_gt lower)

end Corebank.Library.Removal
