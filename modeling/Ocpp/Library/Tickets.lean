import Mathlib.Algebra.Ring.Nat
import Mathlib.Data.List.Nodup
import Mathlib.Data.List.Perm.Basic
import Mathlib.Data.List.Range
import Mathlib.Logic.Function.Basic

/-!
# Tickets

Consecutive numbers that any number of holders draw from one dispenser and hand in later. The 32-bit numbers that a
counter gives for the tickets repeat only after `2 ^ 32` of them.
-/

namespace Ocpp.Library

structure Tickets (τ : Type*) where
  next : ℕ
  holds : τ → List ℕ
  used : List ℕ

namespace Tickets

variable {τ : Type*}

def new : Tickets τ :=
  ⟨0, fun _ => [], []⟩

section Steps

variable [DecidableEq τ] (tickets : Tickets τ) (t : τ)

def draw : Tickets τ :=
  { tickets with
    next := tickets.next + 1
    holds := Function.update tickets.holds t (tickets.holds t ++ [tickets.next]) }

def use : Tickets τ :=
  { tickets with
    holds := Function.update tickets.holds t []
    used := tickets.used ++ tickets.holds t }

end Steps

/-- Every ticket that has been drawn is used or with one holder, and not both. -/
structure Sound (tickets : Tickets τ) : Prop where
  accounted : ∀ n, n < tickets.next ↔ n ∈ tickets.used ∨ ∃ t, n ∈ tickets.holds t
  once : tickets.used.Nodup
  increasing : ∀ t, (tickets.holds t).Pairwise (· < ·)
  apart : ∀ t t' n, n ∈ tickets.holds t → n ∈ tickets.holds t' → t = t'
  out : ∀ t n, n ∈ tickets.holds t → n ∉ tickets.used

theorem sound_new : (new : Tickets τ).Sound where
  accounted := by simp [new]
  once := List.nodup_nil
  increasing _ := .nil
  apart := by simp [new]
  out := by simp [new]

theorem Sound.held_below {tickets : Tickets τ} (sound : tickets.Sound) {t : τ} {n : ℕ} (held : n ∈ tickets.holds t) :
    n < tickets.next :=
  (sound.accounted n).mpr (.inr ⟨t, held⟩)

theorem Sound.used_below {tickets : Tickets τ} (sound : tickets.Sound) {n : ℕ} (used : n ∈ tickets.used) :
    n < tickets.next :=
  (sound.accounted n).mpr (.inl used)

theorem mem_draw [DecidableEq τ] {tickets : Tickets τ} {t t' : τ} {n : ℕ} : n ∈ (tickets.draw t).holds t' ↔
    n ∈ tickets.holds t' ∨ t' = t ∧ n = tickets.next := by
  by_cases same : t' = t
  · subst same
    simp [draw]
  · simp [draw, same]

theorem mem_use [DecidableEq τ] {tickets : Tickets τ} {t t' : τ} {n : ℕ} : n ∈ (tickets.use t).holds t' ↔
    t' ≠ t ∧ n ∈ tickets.holds t' := by
  by_cases same : t' = t
  · subst same
    simp [use]
  · simp [use, same]

namespace Sound

variable [DecidableEq τ] {tickets : Tickets τ} (sound : tickets.Sound) (t : τ)
include sound

theorem draw : (tickets.draw t).Sound where
  accounted := by
    intro n
    have before := sound.accounted n
    simp only [mem_draw]
    constructor
    · intro below
      obtain below | rfl := Nat.lt_succ_iff_lt_or_eq.mp below
      · exact (before.mp below).imp_right fun ⟨t', held⟩ => ⟨t', .inl held⟩
      · exact .inr ⟨t, .inr ⟨rfl, rfl⟩⟩
    · rintro (used | ⟨t', held | ⟨-, rfl⟩⟩)
      · exact Nat.lt_succ_of_lt (sound.used_below used)
      · exact Nat.lt_succ_of_lt (sound.held_below held)
      · exact Nat.lt_succ_self _
  once := sound.once
  increasing := by
    intro t'
    by_cases same : t' = t
    · subst same
      simp only [Tickets.draw, Function.update_self, List.pairwise_append, List.pairwise_singleton,
        List.mem_singleton, forall_eq]
      exact ⟨sound.increasing t', trivial, fun n held => sound.held_below held⟩
    · simpa [Tickets.draw, same] using sound.increasing t'
  apart := by
    intro t₁ t₂ n first second
    obtain held | ⟨rfl, fresh⟩ := mem_draw.mp first
    · obtain held' | ⟨rfl, fresh⟩ := mem_draw.mp second
      · exact sound.apart t₁ t₂ n held held'
      · exact absurd (fresh ▸ sound.held_below held) (Nat.lt_irrefl _)
    · obtain held' | ⟨rfl, -⟩ := mem_draw.mp second
      · exact absurd (fresh ▸ sound.held_below held') (Nat.lt_irrefl _)
      · rfl
  out := by
    intro t' n held
    obtain held | ⟨-, rfl⟩ := mem_draw.mp held
    · exact sound.out t' n held
    · exact fun used => absurd (sound.used_below used) (Nat.lt_irrefl _)

theorem use : (tickets.use t).Sound where
  accounted := by
    intro n
    change n < tickets.next ↔ n ∈ tickets.used ++ tickets.holds t ∨ _
    simp only [sound.accounted, mem_use, List.mem_append]
    constructor
    · rintro (used | ⟨t', held⟩)
      · exact .inl (.inl used)
      · by_cases same : t' = t
        · exact .inl (.inr (same ▸ held))
        · exact .inr ⟨t', same, held⟩
    · rintro ((used | held) | ⟨t', -, held⟩)
      · exact .inl used
      · exact .inr ⟨t, held⟩
      · exact .inr ⟨t', held⟩
  once := by
    rw [Tickets.use, List.nodup_append]
    refine ⟨sound.once, (sound.increasing t).imp fun less => Nat.ne_of_lt less, ?_⟩
    rintro n used _ held rfl
    exact sound.out t n held used
  increasing := by
    intro t'
    by_cases same : t' = t
    · simp [Tickets.use, same]
    · simpa [Tickets.use, same] using sound.increasing t'
  apart := by
    intro t₁ t₂ n first second
    exact sound.apart t₁ t₂ n (mem_use.mp first).2 (mem_use.mp second).2
  out := by
    intro t' n held
    obtain ⟨other, held⟩ := mem_use.mp held
    rw [Tickets.use, List.mem_append, not_or]
    exact ⟨sound.out t' n held, fun own => other (sound.apart t' t n held own)⟩

end Sound

/-! ## The numbers on the tickets -/

/-- What `fetch_add(1)` gives for a ticket. -/
def number (start : Int32) (n : ℕ) : Int32 :=
  start + Int32.ofNat n

theorem number_zero (start : Int32) : number start 0 = start :=
  Int32.add_zero start

theorem number_succ (start : Int32) (n : ℕ) : number start n + 1 = number start (n + 1) := by
  rw [number, number, Int32.ofNat_add, Int32.add_assoc]
  rfl

theorem number_inj {start : Int32} {n m bound : ℕ} (few : bound ≤ 2 ^ 32) (below : n < bound) (below' : m < bound)
    (same : number start n = number start m) : n = m := by
  have bits := congrArg Int32.toBitVec ((Int32.add_right_inj start).mp same)
  have naturals := congrArg BitVec.toNat bits
  simp only [Int32.toBitVec_ofNat', BitVec.toNat_ofNat] at naturals
  omega

theorem numbers_nodup {start : Int32} {ns : List ℕ} {bound : ℕ} (few : bound ≤ 2 ^ 32) (distinct : ns.Nodup)
    (below : ∀ n ∈ ns, n < bound) : (ns.map (number start)).Nodup :=
  distinct.map_on fun n member m member' => number_inj few (below n member) (below m member')

/-- The numbers that were drawn from the counter are each used once or with one holder, and there are no others. -/
structure Gapless (start : Int32) (drawn : ℕ) (used : List Int32) (holds : τ → List Int32) : Prop where
  distinct : used.Nodup
  held : ∀ t, (holds t).Nodup ∧ ∀ x ∈ holds t, x ∉ used ∧ ∀ t', x ∈ holds t' → t' = t
  complete : ∀ x, (x ∈ used ∨ ∃ t, x ∈ holds t) ↔ ∃ n < drawn, number start n = x
  settled : (∀ t, holds t = []) → used.Perm ((List.range drawn).map (number start))

theorem Sound.gapless {tickets : Tickets τ} (sound : tickets.Sound) (start : Int32) (few : tickets.next ≤ 2 ^ 32) :
    Gapless start tickets.next (tickets.used.map (number start)) (fun t => (tickets.holds t).map (number start)) where
  distinct := numbers_nodup few sound.once fun n => sound.used_below
  held := by
    intro t
    constructor
    · exact numbers_nodup few ((sound.increasing t).imp Nat.ne_of_lt) fun n => sound.held_below
    · intro x member
      obtain ⟨n, held, rfl⟩ := List.mem_map.mp member
      constructor
      · rw [List.mem_map]
        rintro ⟨m, used, same⟩
        obtain rfl := number_inj few (sound.used_below used) (sound.held_below held) same
        exact sound.out t m held used
      · intro t' member'
        obtain ⟨m, held', same⟩ := List.mem_map.mp member'
        obtain rfl := number_inj few (sound.held_below held') (sound.held_below held) same
        exact sound.apart t' t m held' held
  complete := by
    intro x
    simp only [sound.accounted, List.mem_map]
    constructor
    · rintro (⟨n, used, rfl⟩ | ⟨t, n, held, rfl⟩)
      · exact ⟨n, .inl used, rfl⟩
      · exact ⟨n, .inr ⟨t, held⟩, rfl⟩
    · rintro ⟨n, used | ⟨t, held⟩, rfl⟩
      · exact .inl ⟨n, used, rfl⟩
      · exact .inr ⟨t, n, held, rfl⟩
  settled := by
    intro none_
    apply List.Perm.map
    rw [List.perm_ext_iff_of_nodup sound.once List.nodup_range]
    intro n
    rw [List.mem_range, sound.accounted]
    simp [List.map_eq_nil_iff.mp (none_ _)]

/-- The counter has given out some numbers, which are used or held, and gives `next` out next. -/
def Counter (start : Int32) (drawn : ℕ) (next : Int32) (holds : τ → List Int32) (used : List Int32) : Prop :=
  ∃ tickets : Tickets τ, tickets.Sound ∧ tickets.next = drawn ∧ next = number start drawn ∧
    holds = (fun t => (tickets.holds t).map (number start)) ∧ used = tickets.used.map (number start)

theorem counter_new (start : Int32) : Counter start 0 start (fun _ : τ => []) [] :=
  ⟨new, sound_new, rfl, (number_zero start).symm, rfl, rfl⟩

namespace Counter

variable {start : Int32} {drawn : ℕ} {next : Int32} {holds : τ → List Int32} {used : List Int32}

theorem gapless (counter : Counter start drawn next holds used) (few : drawn ≤ 2 ^ 32) :
    Gapless start drawn used holds := by
  obtain ⟨tickets, sound, rfl, -, rfl, rfl⟩ := counter
  exact sound.gapless start few

variable [DecidableEq τ]

theorem draw (counter : Counter start drawn next holds used) (t : τ) :
    Counter start (drawn + 1) (next + 1) (Function.update holds t (holds t ++ [next])) used := by
  obtain ⟨tickets, sound, rfl, rfl, rfl, rfl⟩ := counter
  refine ⟨tickets.draw t, sound.draw t, rfl, number_succ start _, ?_, rfl⟩
  funext t'
  by_cases same : t' = t
  · subst same
    simp [Tickets.draw]
  · simp [Tickets.draw, same]

theorem use (counter : Counter start drawn next holds used) (t : τ) :
    Counter start drawn next (Function.update holds t []) (used ++ holds t) := by
  obtain ⟨tickets, sound, rfl, rfl, rfl, rfl⟩ := counter
  refine ⟨tickets.use t, sound.use t, rfl, rfl, ?_, ?_⟩
  · funext t'
    by_cases same : t' = t
    · subst same
      simp [Tickets.use]
    · simp [Tickets.use, same]
  · simp [Tickets.use]

end Counter

end Tickets

end Ocpp.Library
