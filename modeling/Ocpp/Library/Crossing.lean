import Mathlib.Algebra.Ring.Parity
import Mathlib.Data.List.Chain

/-!
# Crossings

The samples of a signal at which it changes to the other side of a band. The sides alternate, so that their number
tells whether the signal ends on the side it began on.
-/

namespace Ocpp.Library

variable {α : Type*} (band : α → Bool)

def crossings : α → List α → List α
  | _, [] => []
  | v, w :: rest => if band v = band w then crossings w rest else w :: crossings w rest

variable (v : α) (vs : List α)

theorem crossings_alternate : List.IsChain (· ≠ ·) (band v :: (crossings band v vs).map band) := by
  induction vs generalizing v with
  | nil => exact List.isChain_singleton _
  | cons w rest ih =>
      rw [crossings]
      split_ifs with same
      · rw [same]
        exact ih w
      · rw [List.map_cons]
        exact List.isChain_cons_cons.mpr ⟨same, ih w⟩

theorem crossings_last : ((crossings band v vs).map band).getLastD (band v) = band (vs.getLastD v) := by
  induction vs generalizing v with
  | nil => rfl
  | cons w rest ih =>
      rw [crossings, List.getLastD_cons, ← ih]
      split_ifs with same
      · rw [same]
      · rw [List.map_cons, List.getLastD_cons]

theorem odd_length_of_alternating {b : Bool} {bs : List Bool} (alternating : List.IsChain (· ≠ ·) (b :: bs)) :
    Odd bs.length ↔ b ≠ bs.getLastD b := by
  induction bs generalizing b with
  | nil => simp
  | cons c rest ih =>
      obtain ⟨other, later⟩ := List.isChain_cons_cons.mp alternating
      have flipped : b = !c := Bool.eq_not_of_ne other
      rw [List.length_cons, Nat.odd_add_one, ih later, List.getLastD_cons, flipped]
      generalize rest.getLastD c = last
      cases c <;> cases last <;> simp

theorem odd_crossings : Odd (crossings band v vs).length ↔ band v ≠ band (vs.getLastD v) := by
  rw [← crossings_last band v vs, ← odd_length_of_alternating (crossings_alternate band v vs), List.length_map]

end Ocpp.Library
