import Ocpp.ChargePoint.TransactionManager

/-!
# Finished transactions

In which runs of the transaction manager a finished transaction is final and the energy of the history adds up.
-/

namespace Ocpp.ChargePoint
open Library

namespace TransactionData

/-- The newest reading, or else the one at the start. -/
def reading (data : TransactionData) : Int32 :=
  match data.latestMeterValue with
  | some latest => latest.energyWh
  | none => data.meterStart

def used (data : TransactionData) : Int :=
  data.reading.toInt - data.meterStart.toInt

/-- From the start to the stop. -/
def balance (data : TransactionData) : Int :=
  data.meterStop.elim 0 fun meterStop => meterStop.toInt - data.meterStart.toInt

structure Outcome where
  state : Connector.TransactionState
  stopReason : Option StopReason
  meterStop : Option Int32
  energyConsumed : Int32
deriving DecidableEq

def outcome (data : TransactionData) : Outcome :=
  ⟨data.state, data.stopReason, data.meterStop, data.energyConsumed⟩

/-- A finished transaction is not failed, unless it has failed for the same reason, its newest reading stays the same,
and an unfinished one is stopped only if its energy fits an `i32`. -/
def Allows (data : TransactionData) : Mutator → Prop
  | .start | .suspend | .resume => True
  | .stop _ _ => ¬data.isFinished → I32.Fits data.used
  | .fail reason _ =>
      data.state ≠ .stopped ∧ (data.state = .failed → data.stopReason = some (.ofString reason))
  | .updateMeterReading energyWh _ => data.isFinished → energyWh = data.reading

instance (data : TransactionData) : (mutator : Mutator) → Decidable (data.Allows mutator)
  | .start | .suspend | .resume => inferInstanceAs (Decidable True)
  | .stop _ _ => inferInstanceAs (Decidable (¬data.isFinished → I32.Fits data.used))
  | .fail reason _ => inferInstanceAs (Decidable
      (data.state ≠ .stopped ∧ (data.state = .failed → data.stopReason = some (.ofString reason))))
  | .updateMeterReading energyWh _ => inferInstanceAs (Decidable (data.isFinished → energyWh = data.reading))

/-- A stopped transaction has stopped at its newest reading, and its energy fits. -/
def Settled (data : TransactionData) : Prop :=
  data.state = .stopped → data.meterStop = some data.reading ∧ I32.Fits data.used

structure Evolves (data data' : TransactionData) : Prop where
  transactionId : data'.transactionId = data.transactionId
  settled : data.Settled → data'.Settled
  final : data.isFinished → data'.isFinished ∧ data'.outcome = data.outcome

variable {data : TransactionData}

theorem isFinished_iff : data.isFinished ↔ data.state = .stopped ∨ data.state = .failed := by
  simp [isFinished]

theorem energyConsumed_eq : data.energyConsumed = data.reading - data.meterStart := by
  rw [energyConsumed, reading]
  cases data.latestMeterValue with
  | some latest => rfl
  | none => exact (Int32.sub_self data.meterStart).symm

theorem reading_addMeterValue (meterValue : MeterValue) : (data.addMeterValue meterValue).reading = meterValue.energyWh := by
  rw [reading, latestMeterValue, addMeterValue, getLast?_pushRecent]

theorem Settled.energy (settled : data.Settled) (stopped : data.state = .stopped) :
    data.energyConsumed.toInt = data.used := by
  rw [energyConsumed_eq]
  exact I32.toInt_sub (settled stopped).2

theorem Settled.balance_eq (settled : data.Settled) (stopped : data.state = .stopped) : data.balance = data.used := by
  rw [balance, (settled stopped).1]
  rfl

theorem used_stop (reason : String) (now : DateTime) : (data.stop reason now).used = data.used := by
  rw [stop]
  split_ifs <;> rfl

theorem state_stop {reason : String} {now : DateTime} (unfailed : data.state ≠ .failed) :
    (data.stop reason now).state = .stopped := by
  rw [stop]
  split_ifs with finished
  · exact finished.resolve_right unfailed
  · rfl

theorem settled_of_unfinished (unfinished : ¬data.isFinished) : data.Settled :=
  fun stopped => absurd (isFinished_iff.mpr (.inl stopped)) unfinished

theorem evolves_refl (data : TransactionData) : data.Evolves data :=
  ⟨rfl, id, fun finished => ⟨finished, rfl⟩⟩

theorem evolves_of_running {state : Connector.TransactionState} (unfinished : ¬data.isFinished)
    (running : state ≠ .stopped) : data.Evolves { data with state } :=
  ⟨rfl, fun _ stopped => absurd stopped running, fun finished => absurd finished unfinished⟩

/-- `start`, `suspend` and `resume` refuse every state but one. -/
theorem guarded_evolves {required next : Connector.TransactionState} {message : String} (unstopped : required ≠ .stopped)
    (unfailed : required ≠ .failed) (running : next ≠ .stopped) : data.Evolves
      ((if data.state ≠ required then .error message else .ok { data with state := next } : Except String _).toOption.getD
        data) := by
  split_ifs with refused
  · exact evolves_refl data
  · refine evolves_of_running ?_ running
    rw [isFinished_iff, not_not.mp refused]
    exact not_or.mpr ⟨unstopped, unfailed⟩

theorem stop_evolves {reason : String} {now : DateTime} (fits : ¬data.isFinished → I32.Fits data.used) :
    data.Evolves (data.stop reason now) := by
  rw [stop]
  split_ifs with finished
  · exact evolves_refl data
  · rw [← isFinished_iff] at finished
    exact ⟨rfl, fun _ _ => ⟨rfl, fits finished⟩, fun contrary => absurd contrary finished⟩

theorem fail_evolves {reason : String} {now : DateTime} (unstopped : data.state ≠ .stopped)
    (same : data.state = .failed → data.stopReason = some (.ofString reason)) : data.Evolves (data.fail reason now) := by
  refine ⟨rfl, nofun, fun finished => ⟨rfl, ?_⟩⟩
  have failed := (isFinished_iff.mp finished).resolve_left unstopped
  simp only [outcome, failed, same failed]
  rfl

theorem updateMeterReading_evolves {energyWh : Int32} {now : DateTime}
    (same : data.isFinished → energyWh = data.reading) : data.Evolves (data.updateMeterReading energyWh now) := by
  have read : (data.updateMeterReading energyWh now).reading = energyWh := reading_addMeterValue _
  refine ⟨rfl, fun settled stopped => ?_, fun finished => ⟨finished, ?_⟩⟩
  · have kept : (data.updateMeterReading energyWh now).reading = data.reading :=
      read.trans (same (isFinished_iff.mpr (.inl stopped)))
    rw [used, kept]
    exact settled stopped
  · have energy : (data.updateMeterReading energyWh now).energyConsumed = data.energyConsumed := by
      rw [energyConsumed_eq, energyConsumed_eq, read, same finished]
      rfl
    rw [outcome, energy]
    rfl

theorem mutate_evolves {mutator : Mutator} (allows : data.Allows mutator) : data.Evolves (data.mutate mutator) := by
  cases mutator with
  | start => exact guarded_evolves nofun nofun nofun
  | suspend => exact guarded_evolves nofun nofun nofun
  | resume => exact guarded_evolves nofun nofun nofun
  | stop reason now => exact stop_evolves allows
  | fail reason now => exact fail_evolves allows.1 allows.2
  | updateMeterReading energyWh now => exact updateMeterReading_evolves allows

end TransactionData

/-! ## What a step does -/

namespace TransactionManager

def Holds (manager : TransactionManager) (data : TransactionData) : Prop :=
  (∃ connectorId, manager.transactions.lookup connectorId = some data) ∨ data ∈ manager.history

/-- The next id is in range, a failed transaction is not stopped, the energy of a stopped one and the sums of the
history with it fit an `i32`, and of every other call what the transaction allows. -/
def Orderly (manager : TransactionManager) : Operation → Prop
  | .createTransaction connectorId _ _ _ _ =>
      manager.transactions.lookup connectorId = none → I32.Fits (manager.nextTransactionId.toInt + 1)
  | .stopTransaction connectorId _ _ => ∀ data ∈ manager.transactions.lookup connectorId,
      data.state ≠ .failed ∧ I32.Fits data.used ∧
        I32.SumsFit (pushRecent manager.maxHistorySize (manager.history.map (·.used)) data.used)
  | .getTransactionMut connectorId mutator => ∀ data ∈ manager.transactions.lookup connectorId, data.Allows mutator

instance (manager : TransactionManager) : (operation : Operation) → Decidable (manager.Orderly operation)
  | .createTransaction connectorId _ _ _ _ => inferInstanceAs (Decidable
      (manager.transactions.lookup connectorId = none → I32.Fits (manager.nextTransactionId.toInt + 1)))
  | .stopTransaction connectorId _ _ => inferInstanceAs (Decidable (∀ data ∈ manager.transactions.lookup connectorId,
      data.state ≠ .failed ∧ I32.Fits data.used ∧
        I32.SumsFit (pushRecent manager.maxHistorySize (manager.history.map (·.used)) data.used)))
  | .getTransactionMut connectorId mutator => inferInstanceAs (Decidable
      (∀ data ∈ manager.transactions.lookup connectorId, data.Allows mutator))

def opened (manager : TransactionManager) (connectorId : Nat) (data : TransactionData) : TransactionManager :=
  { manager with
    transactions := manager.transactions.insert connectorId data
    nextTransactionId := manager.nextTransactionId + 1 }

def updated (manager : TransactionManager) (connectorId : Nat) (data : TransactionData) : TransactionManager :=
  { manager with transactions := manager.transactions.insert connectorId data }

def closed (manager : TransactionManager) (connectorId : Nat) (data : TransactionData) : TransactionManager :=
  { manager with
    transactions := manager.transactions.erase connectorId
    history := pushRecent manager.maxHistorySize manager.history data }

inductive Moves (s : TransactionManager) : TransactionManager → Prop
  | stays : Moves s s
  | opens {connectorId : Nat} {data : TransactionData} (free : s.transactions.lookup connectorId = none)
      (named : data.transactionId = s.nextTransactionId) (unfinished : ¬data.isFinished)
      (next : (s.opened connectorId data).nextTransactionId.toInt = s.nextTransactionId.toInt + 1) :
      Moves s (s.opened connectorId data)
  | evolves {connectorId : Nat} {data data' : TransactionData} (held : s.transactions.lookup connectorId = some data)
      (evolved : data.Evolves data') : Moves s (s.updated connectorId data')
  | closes {connectorId : Nat} {data data' : TransactionData} (held : s.transactions.lookup connectorId = some data)
      (evolved : data.Evolves data') (stopped : data'.state = .stopped)
      (sums : I32.SumsFit (pushRecent s.maxHistorySize (s.history.map (·.used)) data'.used)) :
      Moves s (s.closed connectorId data')

variable {s t : TransactionManager} {operation : Operation} {data : TransactionData}

theorem step_moves (orderly : s.Orderly operation) (stepped : step s operation = some t) : Moves s t := by
  cases operation with
  | createTransaction connectorId idTag meterStart reservationId now =>
      obtain rfl := Option.some.inj stepped
      rw [createTransaction]
      split_ifs with active
      · exact .stays
      · have free := Option.not_isSome_iff_eq_none.mp active
        exact .opens free rfl nofun (I32.toInt_add (orderly free))
  | stopTransaction connectorId reason now =>
      obtain rfl := Option.some.inj stepped
      rw [stopTransaction]
      cases held : s.transactions.lookup connectorId with
      | none => exact .stays
      | some data =>
          obtain ⟨unfailed, fits, sums⟩ := orderly data held
          exact .closes held (TransactionData.stop_evolves fun _ => fits) (TransactionData.state_stop unfailed)
            (by rwa [TransactionData.used_stop])
  | getTransactionMut connectorId mutator =>
      obtain rfl := Option.some.inj stepped
      rw [mutateTransaction]
      cases held : s.transactions.lookup connectorId with
      | none => exact .stays
      | some data => exact .evolves held (TransactionData.mutate_evolves (orderly data held))

theorem Moves.next_le (moves : Moves s t) : s.nextTransactionId.toInt ≤ t.nextTransactionId.toInt := by
  cases moves with
  | stays => exact le_rfl
  | opens free named unfinished next =>
      rw [next]
      omega
  | evolves held evolved => exact le_rfl
  | closes held evolved stopped sums => exact le_rfl

/-- What is held after a step is new, or it has evolved from what was held before. -/
theorem Moves.holds (moves : Moves s t) (holds : t.Holds data) :
    (∃ before, s.Holds before ∧ before.Evolves data) ∨
      data.transactionId = s.nextTransactionId ∧ ¬data.isFinished ∧
        s.nextTransactionId.toInt < t.nextTransactionId.toInt := by
  have same (holds : s.Holds data) : ∃ before, s.Holds before ∧ before.Evolves data :=
    ⟨data, holds, TransactionData.evolves_refl data⟩
  cases moves with
  | stays => exact .inl (same holds)
  | opens free named unfinished next =>
      obtain ⟨connectorId, found⟩ | past := holds
      · obtain ⟨-, rfl⟩ | ⟨-, found⟩ := HashMap.lookup_insert_eq_some.mp found
        · refine .inr ⟨named, unfinished, ?_⟩
          rw [next]
          omega
        · exact .inl (same (.inl ⟨connectorId, found⟩))
      · exact .inl (same (.inr past))
  | evolves held evolved =>
      obtain ⟨connectorId, found⟩ | past := holds
      · obtain ⟨-, rfl⟩ | ⟨-, found⟩ := HashMap.lookup_insert_eq_some.mp found
        · exact .inl ⟨_, .inl ⟨_, held⟩, evolved⟩
        · exact .inl (same (.inl ⟨connectorId, found⟩))
      · exact .inl (same (.inr past))
  | closes held evolved stopped sums =>
      obtain ⟨connectorId, found⟩ | past := holds
      · exact .inl (same (.inl ⟨connectorId, HashMap.lookup_of_erase found⟩))
      · obtain past | rfl := mem_pushRecent past
        · exact .inl (same (.inr past))
        · exact .inl ⟨_, .inl ⟨_, held⟩, evolved⟩

/-! ## What holds in every state -/

structure Sound (manager : TransactionManager) : Prop where
  settled : ∀ data, manager.Holds data → data.Settled
  stopped : ∀ data ∈ manager.history, data.state = .stopped
  sums : I32.SumsFit (manager.history.map (·.used))
  fresh : ∀ data, manager.Holds data → data.transactionId.toInt < manager.nextTransactionId.toInt
  active : ∀ connectorId connectorId' data data', manager.transactions.lookup connectorId = some data →
    manager.transactions.lookup connectorId' = some data' → data.transactionId = data'.transactionId →
    connectorId = connectorId'
  apart : ∀ connectorId data, manager.transactions.lookup connectorId = some data →
    ∀ past ∈ manager.history, data.transactionId ≠ past.transactionId
  distinct : ∀ past ∈ manager.history, ∀ past' ∈ manager.history, past.transactionId = past'.transactionId → past = past'

theorem not_holds_new : ¬new.Holds data := by
  rintro (⟨connectorId, found⟩ | past)
  · exact Option.some_ne_none data (found.symm.trans (AList.lookup_empty connectorId))
  · exact List.not_mem_nil past

theorem sound_new : new.Sound where
  settled _ holds := absurd holds not_holds_new
  stopped _ past := absurd (.inr past) not_holds_new
  sums := I32.sumsFit_nil
  fresh _ holds := absurd holds not_holds_new
  active _ _ _ _ found := absurd (.inl ⟨_, found⟩) not_holds_new
  apart _ _ found := absurd (.inl ⟨_, found⟩) not_holds_new
  distinct _ past := absurd (.inr past) not_holds_new

theorem Sound.unique {data' : TransactionData} (sound : s.Sound) (holds : s.Holds data) (holds' : s.Holds data')
    (same : data.transactionId = data'.transactionId) : data = data' := by
  obtain ⟨connectorId, found⟩ | past := holds
  · obtain ⟨connectorId', found'⟩ | past' := holds'
    · obtain rfl := sound.active connectorId connectorId' data data' found found' same
      exact Option.some.inj (found.symm.trans found')
    · exact absurd same (sound.apart connectorId data found data' past')
  · obtain ⟨connectorId', found'⟩ | past' := holds'
    · exact absurd same.symm (sound.apart connectorId' data' found' data past)
    · exact sound.distinct data past data' past' same

theorem Sound.settled_step (sound : s.Sound) (moves : Moves s t) (holds : t.Holds data) : data.Settled := by
  obtain ⟨before, held, evolved⟩ | ⟨-, unfinished, -⟩ := moves.holds holds
  · exact evolved.settled (sound.settled before held)
  · exact TransactionData.settled_of_unfinished unfinished

theorem Sound.fresh_step (sound : s.Sound) (moves : Moves s t) (holds : t.Holds data) :
    data.transactionId.toInt < t.nextTransactionId.toInt := by
  obtain ⟨before, held, evolved⟩ | ⟨named, -, later⟩ := moves.holds holds
  · rw [evolved.transactionId]
    exact (sound.fresh before held).trans_le moves.next_le
  · rwa [named]

theorem Sound.opens {connectorId : Nat} (sound : s.Sound) (named : data.transactionId = s.nextTransactionId)
    (settled : ∀ data', (opened s connectorId data).Holds data' → data'.Settled)
    (fresh : ∀ data', (opened s connectorId data).Holds data' →
      data'.transactionId.toInt < (s.nextTransactionId + 1).toInt) : (opened s connectorId data).Sound := by
  -- the new id is above that of every other transaction
  have unused : ∀ data', s.Holds data' → data.transactionId ≠ data'.transactionId := by
    intro data' holds same
    exact absurd (sound.fresh data' holds) (by rw [← named, same]; exact lt_irrefl _)
  refine ⟨settled, sound.stopped, sound.sums, fresh, ?_, ?_, sound.distinct⟩
  · intro place place' first second found found' same
    obtain ⟨here, rfl⟩ | ⟨-, earlier⟩ := HashMap.lookup_insert_eq_some.mp found
    · obtain ⟨here', rfl⟩ | ⟨-, earlier'⟩ := HashMap.lookup_insert_eq_some.mp found'
      · exact here.trans here'.symm
      · exact absurd same (unused second (.inl ⟨place', earlier'⟩))
    · obtain ⟨here', rfl⟩ | ⟨-, earlier'⟩ := HashMap.lookup_insert_eq_some.mp found'
      · exact absurd same.symm (unused first (.inl ⟨place, earlier⟩))
      · exact sound.active place place' first second earlier earlier' same
  · intro place first found past member
    obtain ⟨-, rfl⟩ | ⟨-, earlier⟩ := HashMap.lookup_insert_eq_some.mp found
    · exact unused past (.inr member)
    · exact sound.apart place first earlier past member

theorem Sound.evolves {connectorId : Nat} {data' : TransactionData} (sound : s.Sound)
    (held : s.transactions.lookup connectorId = some data) (evolved : data.Evolves data')
    (settled : ∀ later, (updated s connectorId data').Holds later → later.Settled)
    (fresh : ∀ later, (updated s connectorId data').Holds later →
      later.transactionId.toInt < s.nextTransactionId.toInt) : (updated s connectorId data').Sound := by
  have traced : ∀ {place later}, (s.transactions.insert connectorId data').lookup place = some later →
      ∃ origin, s.transactions.lookup place = some origin ∧ later.transactionId = origin.transactionId := by
    intro place later found
    obtain ⟨rfl, rfl⟩ | ⟨-, earlier⟩ := HashMap.lookup_insert_eq_some.mp found
    · exact ⟨data, held, evolved.transactionId⟩
    · exact ⟨later, earlier, rfl⟩
  refine ⟨settled, sound.stopped, sound.sums, fresh, ?_, ?_, sound.distinct⟩
  · intro place place' first second found found' same
    obtain ⟨origin, earlier, named⟩ := traced found
    obtain ⟨origin', earlier', named'⟩ := traced found'
    rw [named, named'] at same
    exact sound.active place place' origin origin' earlier earlier' same
  · intro place first found past member
    obtain ⟨origin, earlier, named⟩ := traced found
    rw [named]
    exact sound.apart place origin earlier past member

theorem Sound.closes {connectorId : Nat} {data' : TransactionData} (sound : s.Sound)
    (held : s.transactions.lookup connectorId = some data) (evolved : data.Evolves data')
    (stopped : data'.state = .stopped)
    (sums : I32.SumsFit (pushRecent s.maxHistorySize (s.history.map (·.used)) data'.used))
    (settled : ∀ later, (closed s connectorId data').Holds later → later.Settled)
    (fresh : ∀ later, (closed s connectorId data').Holds later →
      later.transactionId.toInt < s.nextTransactionId.toInt) : (closed s connectorId data').Sound := by
  have unpast : ∀ past ∈ s.history, data'.transactionId ≠ past.transactionId := by
    rw [evolved.transactionId]
    exact sound.apart connectorId data held
  refine ⟨settled, ?_, ?_, fresh, ?_, ?_, ?_⟩
  · intro past member
    obtain earlier | rfl := mem_pushRecent member
    · exact sound.stopped past earlier
    · exact stopped
  · rw [closed, map_pushRecent]
    exact sums
  · intro place place' first second found found'
    exact sound.active place place' first second (HashMap.lookup_of_erase found) (HashMap.lookup_of_erase found')
  · intro place first found past member same
    obtain ⟨elsewhere, running⟩ := HashMap.lookup_erase_eq_some.mp found
    obtain earlier | rfl := mem_pushRecent member
    · exact sound.apart place first running past earlier same
    · exact elsewhere (sound.active place connectorId first data running held (same.trans evolved.transactionId))
  · intro past member past' member' same
    obtain earlier | rfl := mem_pushRecent member
    · obtain earlier' | rfl := mem_pushRecent member'
      · exact sound.distinct past earlier past' earlier' same
      · exact absurd same.symm (unpast past earlier)
    · obtain earlier' | rfl := mem_pushRecent member'
      · exact absurd same (unpast past' earlier')
      · rfl

theorem Sound.step (sound : s.Sound) (moves : Moves s t) : t.Sound := by
  have settled := fun data (holds : t.Holds data) => sound.settled_step moves holds
  have fresh := fun data (holds : t.Holds data) => sound.fresh_step moves holds
  cases moves with
  | stays => exact sound
  | opens free named unfinished next => exact sound.opens named settled fresh
  | evolves held evolved => exact sound.evolves held evolved settled fresh
  | closes held evolved stopped sums => exact sound.closes held evolved stopped sums settled fresh

/-! ## Energy -/

structure Balanced (manager : TransactionManager) : Prop where
  entries : ∀ data ∈ manager.history, ∃ meterStop, data.meterStop = some meterStop ∧
    data.energyConsumed.toInt = meterStop.toInt - data.meterStart.toInt
  sums : ∀ earlier, earlier <+: manager.history →
    (I32.sum (earlier.map (·.energyConsumed))).toInt = (earlier.map (·.balance)).sum
  total : manager.statistics.totalEnergyWh.toInt = (manager.history.map (·.balance)).sum

theorem Sound.balanced (sound : s.Sound) : s.Balanced := by
  have settled : ∀ data ∈ s.history, data.Settled := fun data past => sound.settled data (.inr past)
  have energy : ∀ data ∈ s.history, data.energyConsumed.toInt = data.used :=
    fun data past => (settled data past).energy (sound.stopped data past)
  have balance : ∀ data ∈ s.history, data.balance = data.used :=
    fun data past => (settled data past).balance_eq (sound.stopped data past)
  have sums : ∀ earlier, earlier <+: s.history →
      (I32.sum (earlier.map (·.energyConsumed))).toInt = (earlier.map (·.balance)).sum := by
    intro earlier initial
    have exact_ : (earlier.map (·.energyConsumed)).map Int32.toInt = earlier.map (·.used) := by
      rw [List.map_map]
      exact List.map_congr_left fun data member => energy data (initial.mem member)
    have fit : I32.SumsFit (earlier.map (·.used)) := sound.sums.initial (initial.map _)
    rw [I32.toInt_sum (exact_ ▸ fit), exact_]
    exact congrArg List.sum (List.map_congr_left fun data member => (balance data (initial.mem member)).symm)
  refine ⟨?_, sums, sums s.history (List.prefix_refl _)⟩
  intro data past
  exact ⟨data.reading, (settled data past (sound.stopped data past)).1, energy data past⟩

/-! ## Runs -/

theorem step_sound (s : TransactionManager) (operation : Operation) (t : TransactionManager) (sound : s.Sound)
    (orderly : s.Orderly operation) (stepped : step s operation = some t) : t.Sound :=
  sound.step (step_moves orderly stepped)

/-- The id has been given out, and what is held under it is finished with this outcome. -/
def Final (transactionId : Int32) (outcome : TransactionData.Outcome) (manager : TransactionManager) : Prop :=
  transactionId.toInt < manager.nextTransactionId.toInt ∧
    ∀ data, manager.Holds data → data.transactionId = transactionId → data.isFinished ∧ data.outcome = outcome

theorem Sound.final (sound : s.Sound) (holds : s.Holds data) (finished : data.isFinished) :
    s.Final data.transactionId data.outcome := by
  refine ⟨sound.fresh data holds, fun data' holds' same => ?_⟩
  rw [sound.unique holds' holds same]
  exact ⟨finished, rfl⟩

theorem Final.step {transactionId : Int32} {outcome : TransactionData.Outcome} (final : s.Final transactionId outcome)
    (moves : Moves s t) : t.Final transactionId outcome := by
  refine ⟨final.1.trans_le moves.next_le, fun data holds same => ?_⟩
  obtain ⟨before, held, evolved⟩ | ⟨named, -, -⟩ := moves.holds holds
  · obtain ⟨finished, ended⟩ := final.2 before held (evolved.transactionId.symm.trans same)
    obtain ⟨finished', kept⟩ := evolved.final finished
    exact ⟨finished', kept.trans ended⟩
  · exact absurd final.1 (by rw [← same, named]; exact lt_irrefl _)

theorem issued_step {transactionId : Int32} (orderly : s.Orderly operation) (stepped : step s operation = some t)
    (given : issued s operation = some transactionId) :
    transactionId = s.nextTransactionId ∧ transactionId.toInt < t.nextTransactionId.toInt := by
  cases operation with
  | createTransaction connectorId idTag meterStart reservationId now =>
      obtain rfl := Option.some.inj stepped
      rw [issued, createTransaction] at given
      rw [createTransaction]
      split_ifs at given ⊢ with active
      · cases given
      · obtain rfl := Option.some.inj given
        refine ⟨rfl, ?_⟩
        have next : (s.nextTransactionId + 1).toInt = s.nextTransactionId.toInt + 1 :=
          I32.toInt_add (orderly (Option.not_isSome_iff_eq_none.mp active))
        exact (Int.lt_succ _).trans_eq next.symm
  | stopTransaction connectorId reason now => cases given
  | getTransactionMut connectorId mutator => cases given

/-- Every id given out in a run is above the ones before it. -/
theorem issued_ascending {operations : List Operation} (orderly : Along step Orderly s operations) :
    (collect step issued s operations).Pairwise (·.toInt < ·.toInt) ∧
      ∀ transactionId ∈ collect step issued s operations, s.nextTransactionId.toInt ≤ transactionId.toInt := by
  induction operations generalizing s with
  | nil => exact ⟨.nil, nofun⟩
  | cons operation operations ih =>
      obtain ⟨t, stepped⟩ : ∃ t, step s operation = some t := by cases operation <;> exact ⟨_, rfl⟩
      obtain ⟨ascending, above⟩ := ih (orderly.2 t stepped)
      have later := (step_moves orderly.1 stepped).next_le
      rw [collect_cons stepped]
      cases given : issued s operation with
      | none => exact ⟨ascending, fun id member => later.trans (above id member)⟩
      | some transactionId =>
          obtain ⟨rfl, below⟩ := issued_step orderly.1 stepped given
          refine ⟨List.pairwise_cons.mpr ⟨fun id member => below.trans_le (above id member), ascending⟩, ?_⟩
          exact List.forall_mem_cons.mpr ⟨le_rfl, fun id member => later.trans (above id member)⟩

theorem issued_nodup {operations : List Operation} (orderly : Along step Orderly s operations) :
    (collect step issued s operations).Nodup :=
  (issued_ascending orderly).1.imp fun below same => below.ne (congrArg Int32.toInt same)

/-- In a run of orderly steps every new transaction gets an id of its own, a finished transaction keeps its outcome
in every later state, and in every state the energy of the history adds up. -/
theorem transactions_balance {operations : List Operation} (orderly : Along step Orderly new operations)
    (ran : run step new operations = some s) :
    (collect step issued new operations).Nodup ∧
      (∀ before after t data data', operations = before ++ after → run step new before = some t → t.Holds data →
        data.isFinished → s.Holds data' → data'.transactionId = data.transactionId → data'.outcome = data.outcome) ∧
      s.Balanced := by
  refine ⟨issued_nodup orderly, ?_, (run_invariant step_sound sound_new orderly ran).balanced⟩
  rintro before after t data data' rfl early holds finished holds' same
  obtain ⟨first, rest⟩ := Along.append.mp orderly
  have sound := run_invariant step_sound sound_new first early
  rw [run_append, early, Option.bind_some] at ran
  have final := run_invariant (fun s operation t final orderly stepped => Final.step final (step_moves orderly stepped))
    (sound.final holds finished) (rest t early) ran
  exact (final.2 data' holds' same).2

def hundred : List Operation :=
  [.createTransaction 1 "TAG" 0 none ⟨0⟩, .getTransactionMut 1 .start,
    .getTransactionMut 1 (.updateMeterReading 100 ⟨1⟩), .stopTransaction 1 "Local" ⟨2⟩]

theorem hundred_balanced : ∃ s, run step new hundred = some s ∧ s.Balanced ∧ s.statistics.totalEnergyWh = 100 := by
  have orderly : Along step Orderly new hundred :=
    .of_check (fun _ => True) (fun s operation => decide (s.Orderly operation))
      (fun _ _ _ checked => of_decide_eq_true checked) (fun _ _ _ _ _ _ => trivial) trivial (by decide +kernel)
  exact ⟨_, rfl, (transactions_balance orderly rfl).2.2, by decide +kernel⟩

/-- A reading after the stop takes the energy away from `meter_stop`. -/
theorem reading_after_stop : ∃ s, run step new [.createTransaction 1 "TAG" 0 none ⟨0⟩,
    .getTransactionMut 1 (.stop "Local" ⟨1⟩), .getTransactionMut 1 (.updateMeterReading 100 ⟨2⟩),
    .stopTransaction 1 "Local" ⟨3⟩] = some s ∧ ¬s.Balanced := by
  refine ⟨_, rfl, fun balanced => ?_⟩
  have total := balanced.total
  revert total
  decide +kernel

end TransactionManager

end Ocpp.ChargePoint
