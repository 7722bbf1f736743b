import Mathlib.Algebra.BigOperators.Group.Finset.Piecewise
import Mathlib.Algebra.Ring.Int.Defs
import Mathlib.Logic.Function.Basic

/-!
# Accounts kept from a journal

A book of accounts, and the entries that may be posted to it.
-/

namespace Corebank.Library.Book

structure Holding (O : Type) where
  owner : O
  balance : Int
  deriving DecidableEq

inductive Entry (K O : Type) where
  | opened (k : K) (owner : O)
  | closed (k : K)
  | adjusted (k : K) (balance : Int)
  | paid (sender receiver : K) (amount : Int)
  deriving DecidableEq

abbrev Accounts (K O : Type) := K → Option (Holding O)

variable {K O : Type} [DecidableEq K]

def Holding.add (h : Holding O) (amount : Int) : Holding O := { h with balance := h.balance + amount }

def balance (h : Option (Holding O)) : Int := (h.map Holding.balance).getD 0

namespace Entry

def keys : Entry K O → List K
  | .opened k _ | .closed k | .adjusted k _ => [k]
  | .paid sender receiver _ => [sender, receiver]

def names (k : K) (e : Entry K O) : Bool := k ∈ e.keys

/-- What an entry does to the account `k`. -/
def touch (k : K) (h : Option (Holding O)) : Entry K O → Option (Holding O)
  | .opened k' owner => if k' = k then some ⟨owner, 0⟩ else h
  | .closed k' => if k' = k then none else h
  | .adjusted k' amount => if k' = k then h.map ({ · with balance := amount }) else h
  | .paid sender receiver amount =>
      let debited := if sender = k then h.map (·.add (-amount)) else h
      if receiver = k then debited.map (·.add amount) else debited

def admitted (b : Accounts K O) : Entry K O → Bool
  | .opened k _ => (b k).isNone
  | .closed k => (b k).isSome
  | .adjusted k amount => (b k).isSome && 0 ≤ amount
  | .paid sender receiver amount =>
      0 < amount && (b sender).any (amount ≤ ·.balance) && (b receiver).isSome

/-- The money an entry brings into the book. -/
def issued (b : Accounts K O) : Entry K O → Int
  | .opened _ _ | .paid _ _ _ => 0
  | .closed k => -balance (b k)
  | .adjusted k amount => amount - balance (b k)

end Entry

def post (b : Accounts K O) (e : Entry K O) : Option (Accounts K O) :=
  if e.admitted b then some fun k => e.touch k (b k) else none

def postAll (b : Accounts K O) (journal : List (Entry K O)) : Option (Accounts K O) :=
  journal.foldlM post b

def supply : Accounts K O → List (Entry K O) → Int
  | _, [] => 0
  | b, e :: journal => e.issued b + supply (fun k => e.touch k (b k)) journal

variable {b b' : Accounts K O} {e : Entry K O} {journal : List (Entry K O)}

theorem post_some (h : post b e = some b') :
    e.admitted b = true ∧ b' = fun k => e.touch k (b k) := by
  unfold post at h
  split at h
  · exact ⟨‹_›, (Option.some.inj h).symm⟩
  · cases h

theorem postAll_cons (h : postAll b (e :: journal) = some b') :
    ∃ next, post b e = some next ∧ postAll next journal = some b' := by
  rw [postAll, List.foldlM_cons] at h
  exact Option.bind_eq_some_iff.mp h

theorem postAll_append {more : List (Entry K O)} {next : Accounts K O}
    (first : postAll b journal = some next) (second : postAll next more = some b') :
    postAll b (journal ++ more) = some b' := by
  rw [postAll, List.foldlM_append]
  exact Option.bind_eq_some_iff.mpr ⟨next, first, second⟩

/-! ## One account -/

theorem touch_other {k : K} {h : Option (Holding O)} (other : e.names k = false) :
    e.touch k h = h := by
  rw [Entry.names, decide_eq_false_iff_not] at other
  cases e with
  | opened k' owner | adjusted k' amount =>
      have apart : k' ≠ k := fun same => other (List.mem_singleton.mpr same.symm)
      rw [Entry.touch, if_neg apart]
  | closed k' =>
      have apart : k' ≠ k := fun same => other (List.mem_singleton.mpr same.symm)
      rw [Entry.touch, if_neg apart]
  | paid sender receiver amount =>
      simp only [Entry.keys, List.mem_cons, List.not_mem_nil, or_false, not_or] at other
      simp only [Entry.touch, Ne.symm other.1, Ne.symm other.2, if_false]

/-- The entries that name an account say all that becomes of it. -/
theorem postAll_at (h : postAll b journal = some b') (k : K) :
    b' k = (journal.filter (Entry.names k)).foldl (Entry.touch k) (b k) := by
  induction journal generalizing b with
  | nil =>
      cases h
      rfl
  | cons e journal ih =>
      obtain ⟨next, first, rest⟩ := postAll_cons h
      obtain ⟨-, rfl⟩ := post_some first
      rw [ih rest, List.filter_cons]
      cases named : e.names k with
      | true => rfl
      | false =>
          rw [if_neg Bool.false_ne_true]
          simp only [touch_other named]

/-- An account that is not closed keeps its owner. -/
theorem touch_owner {k : K} {first : Holding O} (held : b k = some first)
    (admitted : e.admitted b = true) (open_ : e ≠ .closed k) :
    ∃ last, e.touch k (b k) = some last ∧ last.owner = first.owner := by
  rw [held]
  cases e with
  | opened k' owner =>
      have apart : k' ≠ k := by
        rintro rfl
        rw [Entry.admitted, held] at admitted
        cases admitted
      exact ⟨first, by rw [Entry.touch, if_neg apart], rfl⟩
  | closed k' =>
      have apart : k' ≠ k := by
        rintro rfl
        exact open_ rfl
      exact ⟨first, by rw [Entry.touch, if_neg apart], rfl⟩
  | adjusted k' amount =>
      simp only [Entry.touch]
      split
      · exact ⟨_, rfl, rfl⟩
      · exact ⟨first, rfl, rfl⟩
  | paid sender receiver amount =>
      simp only [Entry.touch]
      split <;> split <;> exact ⟨_, rfl, rfl⟩

theorem postAll_owner {k : K} {first : Holding O} (h : postAll b journal = some b')
    (held : b k = some first) (open_ : .closed k ∉ journal) :
    ∃ last, b' k = some last ∧ last.owner = first.owner := by
  induction journal generalizing b first with
  | nil =>
      cases h
      exact ⟨first, held, rfl⟩
  | cons e journal ih =>
      obtain ⟨next, posted, rest⟩ := postAll_cons h
      obtain ⟨admitted, rfl⟩ := post_some posted
      obtain ⟨now, held', owner⟩ := touch_owner held admitted fun same =>
        open_ (same ▸ List.mem_cons_self)
      obtain ⟨last, held'', owner'⟩ := ih rest held' fun mem => open_ (List.mem_cons_of_mem _ mem)
      exact ⟨last, held'', owner'.trans owner⟩

/-! ## The money in the book -/

def total (ks : Finset K) (b : Accounts K O) : Int := ∑ k ∈ ks, balance (b k)

/-- What an entry adds to the balance of the account `k`. -/
def Entry.change (b : Accounts K O) (k : K) : Entry K O → Int
  | .opened _ _ => 0
  | .closed k' => if k' = k then -balance (b k') else 0
  | .adjusted k' amount => if k' = k then amount - balance (b k') else 0
  | .paid sender receiver amount =>
      (if sender = k then -amount else 0) + if receiver = k then amount else 0

theorem balance_add {h : Option (Holding O)} (held : h.isSome) (amount : Int) :
    balance (h.map (·.add amount)) = balance h + amount := by
  obtain ⟨h, rfl⟩ := Option.isSome_iff_exists.mp held
  rfl

theorem balance_touch (admitted : e.admitted b = true) (k : K) :
    balance (e.touch k (b k)) = balance (b k) + e.change b k := by
  cases e with
  | opened k' owner =>
      simp only [Entry.touch, Entry.change]
      split
      · rename_i here
        have absent : b k = none := Option.isNone_iff_eq_none.mp (here ▸ admitted)
        simp [absent, balance]
      · simp
  | closed k' =>
      simp only [Entry.touch, Entry.change]
      split
      · rename_i here
        simp [here, balance]
      · simp
  | adjusted k' amount =>
      rw [Entry.admitted, Bool.and_eq_true, Option.isSome_iff_exists] at admitted
      obtain ⟨⟨h, held⟩, -⟩ := admitted
      simp only [Entry.touch, Entry.change]
      split
      · rename_i here
        rw [here] at held ⊢
        simp [held, balance]
      · simp
  | paid sender receiver amount =>
      simp only [Entry.admitted, Bool.and_eq_true] at admitted
      obtain ⟨⟨-, funds⟩, receives⟩ := admitted
      obtain ⟨h, held, -⟩ := (Option.any_eq_true _ _).mp funds
      simp only [Entry.touch, Entry.change]
      by_cases sends : sender = k
      · subst sends
        rw [if_pos rfl, if_pos rfl]
        split
        · rw [balance_add (by simp [held]), balance_add (by simp [held])]
          omega
        · rw [balance_add (by simp [held]), add_zero]
      · rw [if_neg sends, if_neg sends, zero_add]
        split
        · rename_i there
          rw [balance_add (there ▸ receives)]
        · rw [add_zero]

theorem sum_change {ks : Finset K} (covers : ∀ k ∈ e.keys, k ∈ ks) :
    ∑ k ∈ ks, e.change b k = e.issued b := by
  cases e with
  | opened k owner => simp [Entry.change, Entry.issued]
  | closed k =>
      have mem : k ∈ ks := covers k (List.mem_singleton_self k)
      simp [Entry.change, Entry.issued, Finset.sum_ite_eq, mem]
  | adjusted k amount =>
      have mem : k ∈ ks := covers k (List.mem_singleton_self k)
      simp [Entry.change, Entry.issued, Finset.sum_ite_eq, mem]
  | paid sender receiver amount =>
      have sends : sender ∈ ks := covers sender List.mem_cons_self
      have receives : receiver ∈ ks := covers receiver (by simp [Entry.keys])
      simp [Entry.change, Entry.issued, Finset.sum_add_distrib, Finset.sum_ite_eq, sends, receives]

theorem post_total {ks : Finset K} (covers : ∀ k ∈ e.keys, k ∈ ks)
    (h : post b e = some b') : total ks b' = total ks b + e.issued b := by
  obtain ⟨admitted, rfl⟩ := post_some h
  simp only [total, balance_touch admitted, Finset.sum_add_distrib, sum_change covers]

theorem postAll_total {ks : Finset K} (covers : ∀ e ∈ journal, ∀ k ∈ e.keys, k ∈ ks)
    (h : postAll b journal = some b') : total ks b' = total ks b + supply b journal := by
  induction journal generalizing b with
  | nil =>
      cases h
      simp [supply]
  | cons e journal ih =>
      obtain ⟨next, first, rest⟩ := postAll_cons h
      rw [ih (fun e mem => covers e (List.mem_cons_of_mem _ mem)) rest,
        post_total (covers e List.mem_cons_self) first, supply, (post_some first).2]
      omega

end Corebank.Library.Book
