import Mathlib.Algebra.BigOperators.Group.List.Basic
import Mathlib.Data.List.Infix
import Mathlib.Order.Defs.PartialOrder

/-!
# Logs replayed from a listing

A log keeps its entries in the order they took effect. A listing has them newest first, by a time
that several entries may share.
-/

namespace Corebank.Library.History

variable {α τ M : Type*} {time : α → τ}

/-- Entries of one time come in any order. -/
structure Listing [LE τ] (time : α → τ) (log rows : List α) : Prop where
  entries : rows.Perm log
  newestFirst : rows.Pairwise fun newer older => time older ≤ time newer

section
variable [AddCommMonoid M] {net : α → M} {opening : M}

/-- What the entries make of `opening`, from the last to the first. -/
def replay (net : α → M) (opening : M) (rows : List α) : M :=
  rows.foldr (fun entry total => total + net entry) opening

theorem replay_eq_sum (rows : List α) : replay net opening rows = opening + (rows.map net).sum := by
  induction rows with
  | nil => simp [replay]
  | cons entry rows ih =>
      rw [replay] at ih
      rw [replay, List.foldr_cons, ih, List.map_cons, List.sum_cons, add_comm (net entry), add_assoc]

theorem replay_perm {rows rows' : List α} (perm : rows.Perm rows') :
    replay net opening rows = replay net opening rows' := by
  rw [replay_eq_sum, replay_eq_sum, (perm.map net).sum_eq]

theorem replay_append (rows more : List α) :
    replay net opening (rows ++ more) = replay net opening rows + (more.map net).sum := by
  rw [replay_eq_sum, replay_eq_sum, List.map_append, List.sum_append, add_assoc]

/-! ## Logs that never fall below zero -/

variable [LE τ] [LE M]

/-- A log whose times do not decrease and whose running total is never below zero. -/
structure Funded (time : α → τ) (net : α → M) (opening : M) (log : List α) : Prop where
  times : log.Pairwise fun older newer => time older ≤ time newer
  nonneg : ∀ older, older <+: log → 0 ≤ replay net opening older

theorem funded_nil (nonneg : 0 ≤ opening) : Funded time net opening [] where
  times := List.Pairwise.nil
  nonneg older before := by
    rw [List.prefix_nil.mp before]
    exact nonneg

theorem Funded.concat {log : List α} (funded : Funded time net opening log) {entry : α}
    (latest : ∀ t ∈ log, time t ≤ time entry) (nonneg : 0 ≤ replay net opening (log ++ [entry])) :
    Funded time net opening (log ++ [entry]) where
  times := by
    refine List.pairwise_append.mpr ⟨funded.times, List.pairwise_singleton _ _, fun t mem u last => ?_⟩
    rw [List.mem_singleton.mp last]
    exact latest t mem
  nonneg older before := by
    rcases List.prefix_concat_iff.mp before with rfl | before
    · exact nonneg
    · exact funded.nonneg older before

theorem Funded.listing {log : List α} (funded : Funded time net opening log) :
    Listing time log log.reverse :=
  ⟨List.reverse_perm log, List.pairwise_reverse.mpr funded.times⟩

theorem Funded.replay_reverse {log : List α} (funded : Funded time net opening log)
    {newer older : List α} (split : log.reverse = newer ++ older) : 0 ≤ replay net opening older := by
  rw [← replay_perm (List.reverse_perm older)]
  refine funded.nonneg _ ⟨newer.reverse, ?_⟩
  rw [← List.reverse_append, ← split, List.reverse_reverse]

end

/-! ## Listings cut between two times -/

theorem filter_prefix [LE τ] {log : List α} (times : log.Pairwise fun older newer => time older ≤ time newer)
    {p : α → Bool} (earlier : ∀ t u, time t ≤ time u → p u = true → p t = true) :
    log.filter p <+: log := by
  induction log with
  | nil => exact List.nil_prefix
  | cons t log ih =>
      obtain ⟨first, rest⟩ := List.pairwise_cons.mp times
      cases kept : p t with
      | true =>
          rw [List.filter_cons_of_pos kept]
          exact (List.prefix_cons_inj t).mpr (ih rest)
      | false =>
          have none : (t :: log).filter p = [] := by
            refine List.filter_eq_nil_iff.mpr fun u mem later => ?_
            rcases List.mem_cons.mp mem with rfl | mem
            · rw [kept] at later
              cases later
            · rw [earlier t u (first u mem) later] at kept
              cases kept
          rw [none]
          exact List.nil_prefix

/-- Between two times every listing has the entries that took effect first below the cut. -/
theorem Listing.cut [PartialOrder τ] [DecidableLE τ] {log newer older : List α} (listing : Listing time log (newer ++ older))
    (times : log.Pairwise fun older newer => time older ≤ time newer)
    (apart : ∀ t ∈ older, ∀ u ∈ newer, time t ≠ time u) :
    ∃ first, first <+: log ∧ older.Perm first := by
  let p (t : α) : Bool := older.any fun u => time t ≤ time u
  have below : ∀ t u, time t ≤ time u → p u = true → p t = true := by
    intro t u le kept
    obtain ⟨v, mem, le'⟩ := List.any_eq_true.mp kept
    exact List.any_eq_true.mpr ⟨v, mem, decide_eq_true (le.trans (of_decide_eq_true le'))⟩
  have gone : newer.filter p = [] := by
    refine List.filter_eq_nil_iff.mpr fun u mem kept => ?_
    obtain ⟨t, mem', le⟩ := List.any_eq_true.mp kept
    have order : time t ≤ time u := (List.pairwise_append.mp listing.newestFirst).2.2 u mem t mem'
    exact apart t mem' u mem (le_antisymm order (of_decide_eq_true le))
  have stays : older.filter p = older :=
    List.filter_eq_self.mpr fun t mem => List.any_eq_true.mpr ⟨t, mem, decide_eq_true le_rfl⟩
  refine ⟨log.filter p, filter_prefix times below, ?_⟩
  have perm := listing.entries.filter p
  rwa [List.filter_append, gone, stays, List.nil_append] at perm

theorem Funded.replay_cut [PartialOrder τ] [DecidableLE τ] [AddCommMonoid M] [LE M] {net : α → M} {opening : M}
    {log newer older : List α} (funded : Funded time net opening log)
    (listing : Listing time log (newer ++ older))
    (apart : ∀ t ∈ older, ∀ u ∈ newer, time t ≠ time u) : 0 ≤ replay net opening older := by
  obtain ⟨first, before, perm⟩ := listing.cut funded.times apart
  rw [replay_perm perm]
  exact funded.nonneg first before

end Corebank.Library.History
