import Ocpp.Library.Outbox
import Ocpp.Library.Transition
import Ocpp.ChargePoint.SingleFlight

/-!
# Diagnostics uploads and firmware updates of 1.6J

`GetDiagnostics`, `UpdateFirmware` and `TriggerMessage` queue commands, and the consumer of `lib.rs` runs them one at a
time: an upload or an update announces its steps, and a trigger has the last status announced again. The time a step
takes is left open.
-/

namespace Ocpp.ChargePoint
open Library
open SingleFlight (FirmwareUpdateOutcome)

inductive DiagnosticsStatus
  | idle
  | uploaded
  | uploadFailed
  | uploading
deriving DecidableEq

inductive FirmwareStatus
  | downloaded
  | downloadFailed
  | downloading
  | idle
  | installationFailed
  | installing
  | installed
  | downloadScheduled
  | downloadPaused
  | installRebooting
  | installScheduled
  | installVerificationFailed
  | invalidSignature
  | signatureVerified
deriving DecidableEq

inductive MessageTrigger
  | bootNotification
  | diagnosticsStatusNotification
  | firmwareStatusNotification
  | heartbeat
  | meterValues
  | statusNotification
  | logStatusNotification
  | signChargePointCertificate
deriving DecidableEq

inductive TriggerMessageStatus
  | accepted
  | rejected
  | notImplemented
deriving DecidableEq

def triggerMessageSupported : MessageTrigger → Bool
  | .bootNotification | .heartbeat | .statusNotification | .meterValues | .diagnosticsStatusNotification
  | .firmwareStatusNotification => true
  | .logStatusNotification | .signChargePointCertificate => false

namespace Maintenance

structure Config where
  diagnosticsUploadShouldFail : Bool
  firmwareUpdateOutcome : FirmwareUpdateOutcome

inductive RemoteCommand
  | getDiagnostics
  | updateFirmware
  | triggerMessage (requestedMessage : MessageTrigger) (connectorId : Option Int)
deriving DecidableEq

inductive Service
  | diagnostics
  | firmware
deriving DecidableEq

/-- A CALL of the consumer. What the other triggers have sent is left to one mark. -/
inductive Report
  | diagnostics (status : DiagnosticsStatus)
  | firmware (status : FirmwareStatus)
  | triggered (message : MessageTrigger) (connectorId : Option Int)
deriving DecidableEq

def Report.service : Report → Option Service
  | .diagnostics _ => some .diagnostics
  | .firmware _ => some .firmware
  | .triggered _ _ => none

/-! ## The consumer -/

inductive Instruction
  | write (report : Report)
  | call (report : Report)
  | callCurrent (service : Service)
deriving DecidableEq

/-- `set_diagnostics_status` and `set_firmware_status`. -/
def setStatus (report : Report) : List Instruction :=
  [.write report, .call report]

variable (config : Config)

def runDiagnosticsUpload : List Instruction :=
  let terminal := if config.diagnosticsUploadShouldFail then .uploadFailed else .uploaded
  setStatus (.diagnostics .uploading) ++ setStatus (.diagnostics terminal)

def runFirmwareUpdate : List Instruction :=
  setStatus (.firmware .downloading) ++
    if config.firmwareUpdateOutcome = .downloadFailed then setStatus (.firmware .downloadFailed)
    else
      let terminal :=
        if config.firmwareUpdateOutcome = .installationFailed then .installationFailed else .installed
      setStatus (.firmware .downloaded) ++ setStatus (.firmware .installing) ++ setStatus (.firmware terminal)

def sendTriggeredMessage (message : MessageTrigger) (connectorId : Option Int) : List Instruction :=
  match message with
  | .bootNotification | .heartbeat | .statusNotification | .meterValues => [.call (.triggered message connectorId)]
  | .diagnosticsStatusNotification => [.callCurrent .diagnostics]
  | .firmwareStatusNotification => [.callCurrent .firmware]
  | .logStatusNotification | .signChargePointCertificate => []

def instructions : RemoteCommand → List Instruction
  | .getDiagnostics => runDiagnosticsUpload config
  | .updateFirmware => runFirmwareUpdate config
  | .triggerMessage requestedMessage connectorId => sendTriggeredMessage requestedMessage connectorId

end Maintenance

/-- The station, what it has called, and the commands it has queued and taken so far. -/
structure Maintenance where
  diagnosticsStatus : DiagnosticsStatus
  firmwareStatus : FirmwareStatus
  commands : List Maintenance.RemoteCommand
  consuming : Bool
  script : List Maintenance.Instruction
  reports : List Maintenance.Report
  queued : List Maintenance.RemoteCommand
  taken : List Maintenance.RemoteCommand

namespace Maintenance

def new : Maintenance where
  diagnosticsStatus := .idle
  firmwareStatus := .idle
  commands := []
  consuming := true
  script := []
  reports := []
  queued := []
  taken := []

def current (s : Maintenance) : Service → Report
  | .diagnostics => .diagnostics s.diagnosticsStatus
  | .firmware => .firmware s.firmwareStatus

def write (s : Maintenance) : Report → Maintenance
  | .diagnostics status => { s with diagnosticsStatus := status }
  | .firmware status => { s with firmwareStatus := status }
  | .triggered _ _ => s

def enqueue (s : Maintenance) (command : RemoteCommand) : Bool × Maintenance :=
  if s.consuming then (true, { s with commands := s.commands ++ [command], queued := s.queued ++ [command] })
  else (false, s)

/-- `now` is the time as `%Y%m%dT%H%M%SZ`. -/
def getDiagnostics (s : Maintenance) (now : String) : Option String × Maintenance :=
  let (sent, s) := s.enqueue .getDiagnostics
  (if sent then some ("diagnostics-" ++ now ++ ".tar.gz") else none, s)

def updateFirmware (s : Maintenance) : Maintenance :=
  (s.enqueue .updateFirmware).2

def triggerMessage (s : Maintenance) (requestedMessage : MessageTrigger) (connectorId : Option Int) :
    TriggerMessageStatus × Maintenance :=
  if triggerMessageSupported requestedMessage then
    let (sent, s) := s.enqueue (.triggerMessage requestedMessage connectorId)
    (if sent then .accepted else .rejected, s)
  else (.notImplemented, s)

inductive Action
  | getDiagnostics (now : String)
  | updateFirmware
  | triggerMessage (requestedMessage : MessageTrigger) (connectorId : Option Int)
  | dequeue
  | perform
  | stop

variable (config : Config)

def step (s : Maintenance) : Action → Option Maintenance
  | .getDiagnostics now => some (s.getDiagnostics now).2
  | .updateFirmware => some s.updateFirmware
  | .triggerMessage requestedMessage connectorId => some (s.triggerMessage requestedMessage connectorId).2
  | .dequeue =>
      match s.script, s.commands with
      | [], command :: rest =>
          if s.consuming then
            some { s with script := instructions config command, commands := rest, taken := s.taken ++ [command] }
          else none
      | _, _ => none
  | .perform =>
      match s.script with
      | [] => none
      | .write report :: rest => some { s.write report with script := rest }
      | .call report :: rest => some { s with script := rest, reports := s.reports ++ [report] }
      | .callCurrent service :: rest =>
          some { s with script := rest, reports := s.reports ++ [s.current service] }
  | .stop => some { s with script := [], commands := [], consuming := false }

/-! ## What the commands ask for -/

def uploaded : DiagnosticsStatus :=
  if config.diagnosticsUploadShouldFail then .uploadFailed else .uploaded

def updated : FirmwareStatus :=
  match config.firmwareUpdateOutcome with
  | .succeed => .installed
  | .downloadFailed => .downloadFailed
  | .installationFailed => .installationFailed

/-- The status a service rests in after some commands. -/
def resting (commands : List RemoteCommand) : Service → Report
  | .diagnostics => .diagnostics (if .getDiagnostics ∈ commands then uploaded config else .idle)
  | .firmware => .firmware (if .updateFirmware ∈ commands then updated config else .idle)

def duty (before : List RemoteCommand) : RemoteCommand → List Report
  | .getDiagnostics => [.diagnostics .uploading, .diagnostics (uploaded config)]
  | .updateFirmware =>
      if config.firmwareUpdateOutcome = .downloadFailed then [.firmware .downloading, .firmware .downloadFailed]
      else [.firmware .downloading, .firmware .downloaded, .firmware .installing, .firmware (updated config)]
  | .triggerMessage .diagnosticsStatusNotification _ => [resting config before .diagnostics]
  | .triggerMessage .firmwareStatusNotification _ => [resting config before .firmware]
  | .triggerMessage message connectorId =>
      if triggerMessageSupported message then [.triggered message connectorId] else []

/-- The command that the answer of a handler says is queued; the answer to an `UpdateFirmware` is empty. -/
def granted (s : Maintenance) : Action → Option RemoteCommand
  | .getDiagnostics now => if (s.getDiagnostics now).1.isSome then some .getDiagnostics else none
  | .updateFirmware => if s.consuming then some .updateFirmware else none
  | .triggerMessage requestedMessage connectorId =>
      if (s.triggerMessage requestedMessage connectorId).1 = .accepted then
        some (.triggerMessage requestedMessage connectorId)
      else none
  | .dequeue | .perform | .stop => none

/-! ## The consumer keeps to its duty -/

def Instruction.saying (s : Maintenance) : Instruction → List Report
  | .write _ => []
  | .call report => [report]
  | .callCurrent service => [s.current service]

def outbox (s : Maintenance) : Outbox RemoteCommand Report where
  taken := s.taken
  waiting := s.commands
  left := s.script.flatMap (Instruction.saying s)
  sent := s.reports
  running := s.consuming

/-- The status of the service after an instruction. -/
def Instruction.settle (service : Service) (report : Report) : Instruction → Report
  | .write written => if written.service = some service then written else report
  | .call _ | .callCurrent _ => report

/-- The script leads each service to the status it rests in, and a status is announced again by a script of its own. -/
structure Underway (s : Maintenance) : Prop where
  settled : s.consuming → ∀ service,
    s.script.foldl (Instruction.settle service) (s.current service) = resting config s.taken service
  repeating : ∀ service, .callCurrent service ∈ s.script → s.script = [.callCurrent service]
  follows : Outbox.Follows (duty config) s.queued s.outbox

variable {config} {s t : Maintenance}

theorem current_write (s : Maintenance) (report : Report) (service : Service) :
    (s.write report).current service = Instruction.settle service (s.current service) (.write report) := by
  cases report <;> cases service <;> rfl

theorem resting_trigger (before : List RemoteCommand) (requestedMessage : MessageTrigger) (connectorId : Option Int) :
    resting config (before ++ [.triggerMessage requestedMessage connectorId]) = resting config before := by
  funext service
  cases service <;> simp [resting]

theorem instructions_settled (before : List RemoteCommand) (command : RemoteCommand) (service : Service) :
    (instructions config command).foldl (Instruction.settle service) (resting config before service) =
      resting config (before ++ [command]) service := by
  cases command with
  | getDiagnostics =>
      cases service <;>
        simp [instructions, runDiagnosticsUpload, setStatus, Instruction.settle, Report.service, resting, uploaded]
  | updateFirmware =>
      cases outcome : config.firmwareUpdateOutcome <;> cases service <;>
        simp [instructions, runFirmwareUpdate, outcome, setStatus, Instruction.settle, Report.service, resting, updated]
  | triggerMessage requestedMessage connectorId =>
      rw [resting_trigger]
      cases requestedMessage <;> rfl

theorem instructions_repeating (command : RemoteCommand) (service : Service)
    (again : .callCurrent service ∈ instructions config command) :
    instructions config command = [.callCurrent service] := by
  cases command with
  | getDiagnostics => simp [instructions, runDiagnosticsUpload, setStatus] at again
  | updateFirmware =>
      simp only [instructions, runFirmwareUpdate] at again
      split_ifs at again <;> simp [setStatus] at again
  | triggerMessage requestedMessage connectorId =>
      cases requestedMessage <;> simp_all [instructions, sendTriggeredMessage]

theorem instructions_duty (command : RemoteCommand)
    (rested : ∀ service, s.current service = resting config s.taken service) :
    (instructions config command).flatMap (Instruction.saying s) = duty config s.taken command := by
  cases command with
  | getDiagnostics => rfl
  | updateFirmware =>
      cases outcome : config.firmwareUpdateOutcome <;>
        simp [instructions, runFirmwareUpdate, outcome, setStatus, Instruction.saying, duty, updated]
  | triggerMessage requestedMessage connectorId =>
      cases requestedMessage with
      | diagnosticsStatusNotification => exact congrArg (fun report => [report]) (rested .diagnostics)
      | firmwareStatusNotification => exact congrArg (fun report => [report]) (rested .firmware)
      | _ => rfl

theorem saying_write (report : Report) {script : List Instruction} (none_ : ∀ service, .callCurrent service ∉ script) :
    script.flatMap (Instruction.saying (s.write report)) = script.flatMap (Instruction.saying s) := by
  induction script with
  | nil => rfl
  | cons instruction rest ih =>
      rw [List.flatMap_cons, List.flatMap_cons, ih fun service later => none_ service (List.mem_cons_of_mem _ later)]
      cases instruction with
      | callCurrent service => exact absurd (List.mem_cons_self ..) (none_ service)
      | write _ | call _ => rfl

theorem underway_new : Underway config new where
  settled := fun _ service => by cases service <;> rfl
  repeating := fun _ again => absurd again List.not_mem_nil
  follows := Outbox.follows_new

namespace Underway

theorem enqueue (underway : Underway config s) (command : RemoteCommand) : Underway config (s.enqueue command).2 := by
  unfold Maintenance.enqueue
  split_ifs with consuming
  · refine ⟨underway.settled, underway.repeating, ?_⟩
    have follows := underway.follows.enqueue consuming command
    rwa [Outbox.enqueue, if_pos (show s.outbox.running from consuming)] at follows
  · exact underway

theorem dequeue (underway : Underway config s) {command : RemoteCommand} {rest : List RemoteCommand}
    (idle : s.script = []) (next : s.commands = command :: rest) (consuming : s.consuming) :
    Underway config
      { s with script := instructions config command, commands := rest, taken := s.taken ++ [command] } := by
  have rested : ∀ service, s.current service = resting config s.taken service := by
    intro service
    have settled := underway.settled consuming service
    rwa [idle] at settled
  refine ⟨fun _ service => ?_, instructions_repeating command, ?_⟩
  · show (instructions config command).foldl (Instruction.settle service) (s.current service) = _
    rw [rested, instructions_settled]
  · refine underway.follows.take consuming ?_
    rw [Outbox.take, outbox, idle, next]
    exact congrArg some (congrArg (fun left => Outbox.mk _ _ left _ _) (instructions_duty command rested).symm)

theorem not_again (underway : Underway config s) {instruction : Instruction} {rest : List Instruction}
    (next : s.script = instruction :: rest) (service : Service) : .callCurrent service ∉ rest := by
  intro later
  have alone := underway.repeating service (next ▸ List.mem_cons_of_mem _ later)
  rw [next, List.cons.injEq] at alone
  rw [alone.2] at later
  cases later

theorem write (underway : Underway config s) {report : Report} {rest : List Instruction}
    (next : s.script = .write report :: rest) : Underway config { s.write report with script := rest } := by
  have none_ := underway.not_again next
  refine ⟨fun consuming service => ?_, fun service later => absurd later (none_ service), ?_⟩
  · have settled := underway.settled (by cases report <;> exact consuming) service
    rw [next, List.foldl_cons, ← current_write] at settled
    cases report <;> exact settled
  · have left : rest.flatMap (Instruction.saying { s.write report with script := rest }) =
        s.script.flatMap (Instruction.saying s) := by
      rw [next]
      exact saying_write report none_
    have same : ({ s.write report with script := rest } : Maintenance).outbox = s.outbox := by
      unfold outbox
      rw [left]
      cases report <;> rfl
    rw [same]
    cases report <;> exact underway.follows

theorem call (underway : Underway config s) {instruction : Instruction} {rest : List Instruction} {report : Report}
    (next : s.script = instruction :: rest) (kept : ∀ service report, instruction.settle service report = report)
    (announces : instruction.saying s = [report]) :
    Underway config { s with script := rest, reports := s.reports ++ [report] } := by
  refine ⟨fun consuming service => ?_, fun service later => absurd later (underway.not_again next service), ?_⟩
  · have settled := underway.settled consuming service
    rw [next, List.foldl_cons, kept] at settled
    exact settled
  · apply underway.follows.send
    have left : s.outbox.left = report :: rest.flatMap (Instruction.saying s) := by
      show s.script.flatMap (Instruction.saying s) = _
      rw [next, List.flatMap_cons, announces]
      rfl
    rw [Outbox.send, left]
    rfl

theorem stop (underway : Underway config s) :
    Underway config { s with script := [], commands := [], consuming := false } where
  settled := fun consuming => absurd consuming Bool.false_ne_true
  repeating := fun _ again => absurd again List.not_mem_nil
  follows := underway.follows.stop

theorem step (underway : Underway config s) {action : Action} (stepped : step config s action = some t) :
    Underway config t := by
  cases action with
  | getDiagnostics now =>
      obtain rfl := Option.some.inj stepped
      exact underway.enqueue _
  | updateFirmware =>
      obtain rfl := Option.some.inj stepped
      exact underway.enqueue _
  | triggerMessage requestedMessage connectorId =>
      obtain rfl := Option.some.inj stepped
      rw [triggerMessage]
      split_ifs
      · exact underway.enqueue _
      · exact underway
  | dequeue =>
      simp only [Maintenance.step] at stepped
      split at stepped
      next command rest idle next =>
        split_ifs at stepped with consuming
        obtain rfl := Option.some.inj stepped
        exact underway.dequeue idle next consuming
      next => cases stepped
  | perform =>
      simp only [Maintenance.step] at stepped
      split at stepped
      next => cases stepped
      next report rest next =>
        obtain rfl := Option.some.inj stepped
        exact underway.write next
      next report rest next =>
        obtain rfl := Option.some.inj stepped
        exact underway.call next (fun _ _ => rfl) rfl
      next service rest next =>
        obtain rfl := Option.some.inj stepped
        exact underway.call next (fun _ _ => rfl) rfl
  | stop =>
      obtain rfl := Option.some.inj stepped
      exact underway.stop

end Underway

/-! ## Runs -/

theorem step_queued {action : Action} (stepped : step config s action = some t) :
    t.queued = s.queued ++ (s.granted action).toList := by
  cases action with
  | getDiagnostics now =>
      obtain rfl := Option.some.inj stepped
      by_cases consuming : s.consuming <;> simp [getDiagnostics, enqueue, granted, consuming]
  | updateFirmware =>
      obtain rfl := Option.some.inj stepped
      by_cases consuming : s.consuming <;> simp [updateFirmware, enqueue, granted, consuming]
  | triggerMessage requestedMessage connectorId =>
      obtain rfl := Option.some.inj stepped
      by_cases supported : triggerMessageSupported requestedMessage <;> by_cases consuming : s.consuming <;>
        simp [triggerMessage, enqueue, granted, supported, consuming]
  | dequeue =>
      simp only [step] at stepped
      split at stepped
      next =>
        split_ifs at stepped
        obtain rfl := Option.some.inj stepped
        exact (List.append_nil _).symm
      next => cases stepped
  | perform =>
      simp only [step] at stepped
      split at stepped
      next => cases stepped
      next report rest next =>
        obtain rfl := Option.some.inj stepped
        cases report <;> exact (List.append_nil _).symm
      all_goals
        obtain rfl := Option.some.inj stepped
        exact (List.append_nil _).symm
  | stop =>
      obtain rfl := Option.some.inj stepped
      exact (List.append_nil _).symm

/-- The consumer gets from one state to the other by its own steps. -/
def Consumes (config : Config) (s t : Maintenance) : Prop :=
  ∃ actions, (∀ action ∈ actions, action = .dequeue ∨ action = .perform) ∧ run (step config) s actions = some t

theorem Consumes.trans {u : Maintenance} (first : Consumes config s t) (second : Consumes config t u) :
    Consumes config s u := by
  obtain ⟨actions, own, ran⟩ := first
  obtain ⟨more, own', ran'⟩ := second
  refine ⟨actions ++ more, fun action member => ?_, by rw [run_append, ran, Option.bind_some, ran']⟩
  exact (List.mem_append.mp member).elim (own action) (own' action)

theorem consumes_step {action : Action} (own : action = .dequeue ∨ action = .perform)
    (stepped : step config s action = some t) : Consumes config s t :=
  ⟨[action], by simpa using own, by rw [run_cons stepped, run]⟩

theorem perform_next (config : Config) {instruction : Instruction} {rest : List Instruction}
    (next : s.script = instruction :: rest) : ∃ t, step config s .perform = some t ∧ t.script = rest ∧
      t.commands = s.commands ∧ t.consuming = s.consuming ∧ t.queued = s.queued := by
  simp only [step, next]
  cases instruction with
  | write report => cases report <;> exact ⟨_, rfl, rfl, rfl, rfl, rfl⟩
  | call report => exact ⟨_, rfl, rfl, rfl, rfl, rfl⟩
  | callCurrent service => exact ⟨_, rfl, rfl, rfl, rfl, rfl⟩

theorem dequeue_next (config : Config) {command : RemoteCommand} {rest : List RemoteCommand} (idle : s.script = [])
    (next : s.commands = command :: rest) (consuming : s.consuming) : ∃ t, step config s .dequeue = some t ∧
      t.commands = rest ∧ t.consuming = s.consuming ∧ t.queued = s.queued := by
  simp only [step, idle, next, if_pos consuming]
  exact ⟨_, rfl, rfl, rfl, rfl⟩

theorem consumes_script (config : Config) (s : Maintenance) : ∃ t, Consumes config s t ∧ t.script = [] ∧
    t.commands = s.commands ∧ t.consuming = s.consuming ∧ t.queued = s.queued := by
  induction script : s.script generalizing s with
  | nil => exact ⟨s, ⟨[], by simp, rfl⟩, script, rfl, rfl, rfl⟩
  | cons instruction rest ih =>
      obtain ⟨u, stepped, left, commands, consuming, queued⟩ := perform_next config script
      obtain ⟨t, consumes, done, commands', consuming', queued'⟩ := ih u left
      exact ⟨t, (consumes_step (.inr rfl) stepped).trans consumes, done, commands'.trans commands,
        consuming'.trans consuming, queued'.trans queued⟩

theorem consumes_commands (config : Config) (consuming : s.consuming) : ∃ t, Consumes config s t ∧ t.script = [] ∧
    t.commands = [] ∧ t.consuming ∧ t.queued = s.queued := by
  obtain ⟨u, performed, idle, same, running, queued⟩ := consumes_script config s
  induction waiting : s.commands generalizing s u with
  | nil => exact ⟨u, performed, idle, same.trans waiting, running.trans consuming, queued⟩
  | cons command rest ih =>
      obtain ⟨v, stepped, left, running', queued'⟩ :=
        dequeue_next config idle (same.trans waiting) (running.trans consuming)
      obtain ⟨w, performed', idle', same', running'', queued''⟩ := consumes_script config v
      have still : v.consuming := running'.trans (running.trans consuming)
      obtain ⟨t, consumes, done, none_, ended, all⟩ := ih still w performed' idle' same' running'' queued'' left
      exact ⟨t, (performed.trans (consumes_step (.inl rfl) stepped)).trans consumes, done, none_, ended,
        all.trans (queued'.trans queued)⟩

/-- The commands that were granted are reported as it is the consumer's duty, or a first part of them: all of them once
the consumer has nothing left to do, which it gets to by itself. -/
structure Reported (config : Config) (actions : List Action) (s : Maintenance) : Prop where
  granted : s.queued = collect (step config) granted new actions
  initial : s.reports <+: Outbox.replay (duty config) [] s.queued
  complete : s.consuming → s.script = [] → s.commands = [] → s.reports = Outbox.replay (duty config) [] s.queued
  consumes : s.consuming → ∃ t, Consumes config s t ∧ t.reports = Outbox.replay (duty config) [] s.queued

theorem Underway.complete (underway : Underway config s) (consuming : s.consuming) (idle : s.script = [])
    (none_ : s.commands = []) : s.reports = Outbox.replay (duty config) [] s.queued := by
  apply underway.follows.drained consuming none_
  show s.script.flatMap (Instruction.saying s) = []
  rw [idle, List.flatMap_nil]

theorem underway_run {start : Maintenance} (underway : Underway config start) {actions : List Action}
    (ran : run (step config) start actions = some s) : Underway config s :=
  run_invariant (fun _ _ _ underway _ stepped => underway.step stepped) underway (.always start actions) ran

/-- In every run the CSMS is told what it has been granted, in that order, and a status that it triggers is the one the
service rests in: it never is a step of an update or an upload. -/
theorem commands_reported {actions : List Action} (ran : run (step config) new actions = some s) :
    Reported config actions s := by
  have underway := underway_run underway_new ran
  refine ⟨?_, underway.follows.sent_initial, underway.complete, fun consuming => ?_⟩
  · exact run_collect Maintenance.queued (fun _ _ _ => step_queued) ran
  · obtain ⟨t, consumes, done, none_, ended, queued⟩ := consumes_commands config consuming
    obtain ⟨more, own, ranOn⟩ := consumes
    refine ⟨t, ⟨more, own, ranOn⟩, ?_⟩
    rw [(underway_run underway ranOn).complete ended done none_, queued]

def twoUpdates : List Action :=
  [.triggerMessage .firmwareStatusNotification none, .updateFirmware, .dequeue, .perform, .dequeue, .perform,
    .triggerMessage .firmwareStatusNotification (some 1), .perform, .triggerMessage .logStatusNotification none]

def failing : Config :=
  ⟨false, .downloadFailed⟩

theorem twoUpdates_reported : ∃ s, run (step failing) new twoUpdates = some s ∧
    Outbox.replay (duty failing) [] s.queued = [.firmware .idle, .firmware .downloading, .firmware .downloadFailed,
      .firmware .downloadFailed] ∧ Reported failing twoUpdates s :=
  ⟨_, rfl, by decide, commands_reported rfl⟩

end Maintenance

end Ocpp.ChargePoint
