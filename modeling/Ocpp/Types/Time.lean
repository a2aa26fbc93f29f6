import Mathlib.Data.Int.Order.Basic
import Mathlib.Order.Lattice

/-!
# Instants

`DateTime<Utc>` and the two operations of `chrono` the charging schedules rest on: adding whole
seconds to an instant, and the whole seconds between two instants, truncated toward zero. Leap
seconds, which `chrono` only represents, are not on the line of instants.
-/

namespace Ocpp

/-- An instant, in nanoseconds since the Unix epoch. -/
structure DateTime where
  nanos : Int
  deriving DecidableEq, Repr

namespace DateTime

theorem nanos_injective : Function.Injective nanos := by
  rintro ⟨a⟩ ⟨b⟩ same
  exact congrArg mk same

instance : LinearOrder DateTime := LinearOrder.lift' nanos nanos_injective

def addSeconds (instant : DateTime) (s : Int) : DateTime :=
  ⟨instant.nanos + s * 1000000000⟩

def numSeconds (a b : DateTime) : Int :=
  (a.nanos - b.nanos).tdiv 1000000000

def WholeSeconds (a b : DateTime) : Prop :=
  1000000000 ∣ a.nanos - b.nanos

instance (a b : DateTime) : Decidable (WholeSeconds a b) :=
  inferInstanceAs (Decidable (_ ∣ _))

theorem lt_iff {a b : DateTime} : a < b ↔ a.nanos < b.nanos := Iff.rfl

theorem le_iff {a b : DateTime} : a ≤ b ↔ a.nanos ≤ b.nanos := Iff.rfl

theorem wholeSeconds_self (a : DateTime) : a.WholeSeconds a := by
  simp [WholeSeconds]

/-- A clock that ticks once a second from `start` runs in step with the whole seconds since an
anchor, except after an anchor that lies between two of its ticks. -/
theorem numSeconds_addSeconds (start anchor : DateTime) (t : Int) (nonneg : 0 ≤ t)
    (aligned : anchor.WholeSeconds start ∨ anchor ≤ start ∨ start.addSeconds t ≤ anchor) :
    (start.addSeconds t).numSeconds anchor = t - anchor.numSeconds start := by
  simp only [WholeSeconds, le_iff, addSeconds] at aligned
  have sign : Int.sign 1000000000 = 1 := rfl
  simp only [numSeconds, addSeconds, Int.tdiv_eq_ediv, sign]
  split_ifs <;> omega

theorem numSeconds_addSeconds_self (start : DateTime) (t : Int) :
    (start.addSeconds t).numSeconds start = t := by
  have apart : start.nanos + t * 1000000000 - start.nanos = t * 1000000000 := by omega
  rw [numSeconds, addSeconds, apart, Int.mul_tdiv_cancel _ (by decide)]

theorem addSeconds_pred_lt (start : DateTime) (t : Int) :
    start.addSeconds (t - 1) < start.addSeconds t := by
  simp only [lt_iff, addSeconds]
  omega

theorem addSeconds_lt_iff (start edge : DateTime) (t : Int)
    (unsplit : ¬(start.addSeconds (t - 1) < edge ∧ edge < start.addSeconds t))
    (missed : edge.numSeconds start ≠ t) :
    start.addSeconds t < edge ↔ start.addSeconds (t - 1) < edge := by
  refine ⟨(addSeconds_pred_lt start t).trans, fun after => ?_⟩
  rcases lt_trichotomy (start.addSeconds t) edge with later | rfl | inside
  · exact later
  · exact absurd (numSeconds_addSeconds_self start t) missed
  · exact absurd ⟨after, inside⟩ unsplit

theorem lt_addSeconds_iff (start edge : DateTime) (t : Int) (positive : 0 < t)
    (missed : edge.numSeconds start + 1 ≠ t) :
    edge < start.addSeconds t ↔ edge < start.addSeconds (t - 1) := by
  refine ⟨fun after => ?_, fun after => after.trans (addSeconds_pred_lt start t)⟩
  by_contra before
  apply missed
  have sign : Int.sign 1000000000 = 1 := rfl
  simp only [not_lt, lt_iff, addSeconds] at before after
  simp only [numSeconds, Int.tdiv_eq_ediv, sign]
  split_ifs <;> omega

end DateTime

/-- The RFC 3339 text form of instants: `DateTime::parse_from_rfc3339` and `to_rfc3339` of
`chrono`. -/
structure Rfc3339 where
  parse : String → Option DateTime
  print : DateTime → String

end Ocpp
