/-
MmorpgServer.Lib.Enumeration — iteration over unordered containers.

A hash container is iterated in an order that its contents do not
determine. `Enumeration` is one possible order: a function listing every
finite set without repetition. A model that takes its enumerations as a
parameter holds for every order the container may have.

`flatMap_single` is what proofs about a loop over a container use: when
only one element makes the loop body produce anything, the loop produces
exactly that element's output, once, or nothing.
-/
import Mathlib.Data.Finset.Basic
import Mathlib.Data.List.Sort
import Mathlib.Data.Multiset.Basic

namespace MmorpgServer.Lib

universe u v

/-- One iteration order for every finite set over `α`. -/
structure Enumeration (α : Type u) where
  list : Finset α → List α
  nodup : ∀ s, (list s).Nodup
  mem_iff : ∀ s a, a ∈ list s ↔ a ∈ s

section

variable {α : Type u} {β : Type v}

/-- A loop over a duplicate-free list whose body is silent off `a`
produces the output of `a` once, or nothing. -/
theorem flatMap_single_of_nodup [DecidableEq α] {L : List α} (hL : L.Nodup)
    (g : α → List β) (a : α) (hg : ∀ x ∈ L, x ≠ a → g x = []) :
    L.flatMap g = if a ∈ L then g a else [] := by
  induction L with
  | nil => simp
  | cons x L ih =>
    have ih' := ih (List.nodup_cons.mp hL).2 fun y hy => hg y (List.mem_cons_of_mem _ hy)
    rw [List.flatMap_cons, ih']
    by_cases hx : x = a
    · subst hx
      simp [(List.nodup_cons.mp hL).1]
    · rw [hg x List.mem_cons_self hx]
      simp [Ne.symm hx]

/-- The same for the enumeration of a set. -/
theorem Enumeration.flatMap_single [DecidableEq α] (E : Enumeration α) (s : Finset α)
    (g : α → List β) (a : α) (hg : ∀ x ∈ s, x ≠ a → g x = []) :
    (E.list s).flatMap g = if a ∈ s then g a else [] := by
  rw [flatMap_single_of_nodup (E.nodup s) g a fun x hx => hg x ((E.mem_iff s x).mp hx)]
  simp [E.mem_iff]

/-- The other way round. -/
def Enumeration.reverse (E : Enumeration α) : Enumeration α where
  list s := (E.list s).reverse
  nodup s := List.nodup_reverse.mpr (E.nodup s)
  mem_iff s a := List.mem_reverse.trans (E.mem_iff s a)

@[simp] theorem Enumeration.list_empty (E : Enumeration α) : E.list ∅ = [] :=
  List.eq_nil_iff_forall_not_mem.mpr fun a ha => by simpa using (E.mem_iff ∅ a).mp ha

end

/-! ## A computable order -/

section

variable {α : Type u} {κ : Type v} [LinearOrder κ]

/-- Sorting by a key, on lists: the same for lists that are permutations
of one another, since the key separates the elements. -/
theorem insertionSort_perm_eq (key : α → κ) (hkey : Function.Injective key) {l l' : List α}
    (h : l.Perm l') :
    l.insertionSort (fun a b => key a ≤ key b) = l'.insertionSort (fun a b => key a ≤ key b) := by
  have htotal : Std.Total (fun a b : α => key a ≤ key b) := ⟨fun a b => le_total _ _⟩
  have htrans : IsTrans α (fun a b => key a ≤ key b) := ⟨fun _ _ _ => le_trans⟩
  have hsorted := List.pairwise_insertionSort (fun a b : α => key a ≤ key b) l
  refine List.Perm.eq_of_pairwise ?_ hsorted (List.pairwise_insertionSort _ l') ?_
  · intro a b _ _ hab hba
    exact hkey (le_antisymm hab hba)
  · exact ((List.perm_insertionSort _ l).trans h).trans (List.perm_insertionSort _ l').symm

/-- The enumeration in increasing order of an injective key. -/
def Enumeration.byKey (key : α → κ) (hkey : Function.Injective key) : Enumeration α where
  list s := Quot.liftOn s.val (fun l => l.insertionSort fun a b => key a ≤ key b)
    fun _ _ h => insertionSort_perm_eq key hkey h
  nodup s := by
    obtain ⟨⟨l⟩, hl⟩ := s
    exact (List.perm_insertionSort _ l).nodup_iff.mpr hl
  mem_iff s a := by
    obtain ⟨⟨l⟩, hl⟩ := s
    exact (List.perm_insertionSort _ l).mem_iff

/-- The increasing enumeration of a linear order. -/
def Enumeration.increasing : Enumeration κ := Enumeration.byKey id Function.injective_id

example : (Enumeration.increasing : Enumeration Nat).list {3, 1, 2} = [1, 2, 3] := by decide

end

end MmorpgServer.Lib
