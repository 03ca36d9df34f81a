import Mathlib.Data.Int.Notation
import Mathlib.Tactic.Common
import Jianmen.Library.Text

/-!
# System settings

One row of the database holds the desired settings, under a revision that every update counts up.
A process takes the row it finds when it starts as its effective settings.  An update that changes
only fields a running process can take over is handed to the registered appliers, and the effective
settings follow it; any other update waits for the next start.
-/

namespace Jianmen.Settings

/-! ## Settings and their fields -/

structure SystemSettings where
  databaseGatewayMode : String
  databaseGatewayClientTLSMode : String
  loginCaptchaEnabled : Bool
  webRDPEnabled : Bool
  webRDPConnectTimeoutSeconds : ℤ
  webRDPAllowUnrecorded : Bool
  recordingEnabled : Bool
  recordingRecordInput : Bool
  recordingRecordCommands : Bool
  recordingRetentionDays : ℤ
  recordingMaxReplayBytes : ℤ
  recordingCleanupBatchSize : ℤ
  databaseMaxClientMessageBytes : ℤ
  recordingSSHRedactionEnabled : Bool
  databaseAuditRedactionEnabled : Bool
  databaseAuditPreviewBytes : ℤ
  deriving DecidableEq, Inhabited

inductive Field where
  | databaseGatewayMode
  | databaseGatewayClientTLSMode
  | loginCaptchaEnabled
  | webRDPEnabled
  | webRDPConnectTimeoutSeconds
  | webRDPAllowUnrecorded
  | recordingEnabled
  | recordingRecordInput
  | recordingRecordCommands
  | recordingRetentionDays
  | recordingMaxReplayBytes
  | recordingCleanupBatchSize
  | databaseMaxClientMessageBytes
  | recordingSSHRedactionEnabled
  | databaseAuditRedactionEnabled
  | databaseAuditPreviewBytes
  deriving DecidableEq

namespace Field

def name : Field → String
  | databaseGatewayMode => "database_gateway_mode"
  | databaseGatewayClientTLSMode => "database_gateway_client_tls_mode"
  | loginCaptchaEnabled => "login_captcha_enabled"
  | webRDPEnabled => "web_rdp_enabled"
  | webRDPConnectTimeoutSeconds => "web_rdp_connect_timeout_seconds"
  | webRDPAllowUnrecorded => "web_rdp_allow_unrecorded"
  | recordingEnabled => "recording_enabled"
  | recordingRecordInput => "recording_record_input"
  | recordingRecordCommands => "recording_record_commands"
  | recordingRetentionDays => "recording_retention_days"
  | recordingMaxReplayBytes => "recording_max_replay_bytes"
  | recordingCleanupBatchSize => "recording_cleanup_batch_size"
  | databaseMaxClientMessageBytes => "database_max_client_message_bytes"
  | recordingSSHRedactionEnabled => "recording_ssh_redaction_enabled"
  | databaseAuditRedactionEnabled => "database_audit_redaction_enabled"
  | databaseAuditPreviewBytes => "database_audit_preview_bytes"

/-- Whether the field differs. -/
def changed (before after : SystemSettings) : Field → Bool
  | databaseGatewayMode => before.databaseGatewayMode != after.databaseGatewayMode
  | databaseGatewayClientTLSMode =>
    before.databaseGatewayClientTLSMode != after.databaseGatewayClientTLSMode
  | loginCaptchaEnabled => before.loginCaptchaEnabled != after.loginCaptchaEnabled
  | webRDPEnabled => before.webRDPEnabled != after.webRDPEnabled
  | webRDPConnectTimeoutSeconds =>
    before.webRDPConnectTimeoutSeconds != after.webRDPConnectTimeoutSeconds
  | webRDPAllowUnrecorded => before.webRDPAllowUnrecorded != after.webRDPAllowUnrecorded
  | recordingEnabled => before.recordingEnabled != after.recordingEnabled
  | recordingRecordInput => before.recordingRecordInput != after.recordingRecordInput
  | recordingRecordCommands => before.recordingRecordCommands != after.recordingRecordCommands
  | recordingRetentionDays => before.recordingRetentionDays != after.recordingRetentionDays
  | recordingMaxReplayBytes => before.recordingMaxReplayBytes != after.recordingMaxReplayBytes
  | recordingCleanupBatchSize =>
    before.recordingCleanupBatchSize != after.recordingCleanupBatchSize
  | databaseMaxClientMessageBytes =>
    before.databaseMaxClientMessageBytes != after.databaseMaxClientMessageBytes
  | recordingSSHRedactionEnabled =>
    before.recordingSSHRedactionEnabled != after.recordingSSHRedactionEnabled
  | databaseAuditRedactionEnabled =>
    before.databaseAuditRedactionEnabled != after.databaseAuditRedactionEnabled
  | databaseAuditPreviewBytes =>
    before.databaseAuditPreviewBytes != after.databaseAuditPreviewBytes

end Field

def systemSettingFieldNames : List Field :=
  [.databaseGatewayMode, .databaseGatewayClientTLSMode, .loginCaptchaEnabled, .webRDPEnabled,
    .webRDPConnectTimeoutSeconds, .webRDPAllowUnrecorded, .recordingEnabled,
    .recordingRecordInput, .recordingRecordCommands, .recordingRetentionDays,
    .recordingMaxReplayBytes, .recordingCleanupBatchSize, .databaseMaxClientMessageBytes,
    .recordingSSHRedactionEnabled, .databaseAuditRedactionEnabled, .databaseAuditPreviewBytes]

/-- The fields whose change a running process takes over. -/
def hotReloadableSystemSettingFields : List Field :=
  [.loginCaptchaEnabled]

def systemSettingFieldsHotReloadable (fields : List Field) : Bool :=
  !fields.isEmpty && fields.all fun field => hotReloadableSystemSettingFields.contains field

def changedSystemSettingFields (before after : SystemSettings) : List Field :=
  systemSettingFieldNames.filter (Field.changed before after)

/-! ## Values -/

def databaseGatewayModeUnified : String := "unified"
def databaseGatewayModeIndependent : String := "independent"
def databaseGatewayClientTLSModeRequired : String := "required"
def databaseGatewayClientTLSModeOptional : String := "optional"
def minDatabaseMaxClientMessageBytes : ℤ := 64 * 1024
def maxDatabaseMaxClientMessageBytes : ℤ := 256 * 1024 * 1024
def defaultDatabaseAuditPreviewBytes : ℤ := 65536
def minDatabaseAuditPreviewBytes : ℤ := 4096
def maxDatabaseAuditPreviewBytes : ℤ := 1048576

def replayQuotaTightened (before after : ℤ) : Bool :=
  (before == 0 && decide (0 < after)) ||
    (decide (0 < before) && decide (0 < after) && decide (after < before))

/-- Whether the change of the field has to be confirmed. -/
def Field.risky (before after : SystemSettings) : Field → Bool
  | databaseGatewayClientTLSMode =>
    before.databaseGatewayClientTLSMode == databaseGatewayClientTLSModeRequired &&
      after.databaseGatewayClientTLSMode == databaseGatewayClientTLSModeOptional
  | loginCaptchaEnabled => before.loginCaptchaEnabled && !after.loginCaptchaEnabled
  | webRDPAllowUnrecorded => !before.webRDPAllowUnrecorded && after.webRDPAllowUnrecorded
  | recordingEnabled => before.recordingEnabled && !after.recordingEnabled
  | recordingRecordInput => !before.recordingRecordInput && after.recordingRecordInput
  | recordingRecordCommands => before.recordingRecordCommands && !after.recordingRecordCommands
  | recordingRetentionDays => decide (after.recordingRetentionDays < before.recordingRetentionDays)
  | recordingMaxReplayBytes =>
    replayQuotaTightened before.recordingMaxReplayBytes after.recordingMaxReplayBytes
  | databaseMaxClientMessageBytes =>
    before.databaseMaxClientMessageBytes != after.databaseMaxClientMessageBytes
  | recordingSSHRedactionEnabled =>
    before.recordingSSHRedactionEnabled && !after.recordingSSHRedactionEnabled
  | databaseAuditRedactionEnabled =>
    before.databaseAuditRedactionEnabled && !after.databaseAuditRedactionEnabled
  | databaseAuditPreviewBytes =>
    decide (before.databaseAuditPreviewBytes < after.databaseAuditPreviewBytes)
  | databaseGatewayMode | webRDPEnabled | webRDPConnectTimeoutSeconds
  | recordingCleanupBatchSize => false

def riskySystemSettingFields (before after : SystemSettings) : List Field :=
  systemSettingFieldNames.filter (Field.risky before after)

/-- A preview size of zero stands for the default one. -/
def SystemSettings.withPreview (settings : SystemSettings) : SystemSettings :=
  { settings with
    databaseAuditPreviewBytes :=
      if settings.databaseAuditPreviewBytes = 0 then defaultDatabaseAuditPreviewBytes
      else settings.databaseAuditPreviewBytes }

/-- What is wrong with the settings, if anything is. -/
def validateSystemSettings (settings : SystemSettings) : Option String :=
  let settings := settings.withPreview
  if settings.databaseGatewayMode ≠ databaseGatewayModeUnified ∧
      settings.databaseGatewayMode ≠ databaseGatewayModeIndependent then
    some "database gateway mode must be \"unified\" or \"independent\""
  else if settings.databaseGatewayClientTLSMode ≠ databaseGatewayClientTLSModeRequired ∧
      settings.databaseGatewayClientTLSMode ≠ databaseGatewayClientTLSModeOptional then
    some "database gateway client TLS mode must be \"required\" or \"optional\""
  else if settings.webRDPConnectTimeoutSeconds < 1 ∨
      300 < settings.webRDPConnectTimeoutSeconds then
    some "web RDP connect timeout must be between 1 and 300 seconds"
  else if settings.recordingRetentionDays < 1 ∨ 3650 < settings.recordingRetentionDays then
    some "recording retention must be between 1 and 3650 days"
  else if settings.recordingMaxReplayBytes < 0 then
    some "recording replay byte quota must not be negative"
  else if settings.recordingCleanupBatchSize < 1 ∨ 1000 < settings.recordingCleanupBatchSize then
    some "recording cleanup batch size must be between 1 and 1000"
  else if settings.databaseMaxClientMessageBytes < minDatabaseMaxClientMessageBytes ∨
      maxDatabaseMaxClientMessageBytes < settings.databaseMaxClientMessageBytes then
    some "database client message size must be between 65536 and 268435456 bytes"
  else if settings.databaseAuditPreviewBytes < minDatabaseAuditPreviewBytes ∨
      maxDatabaseAuditPreviewBytes < settings.databaseAuditPreviewBytes then
    some "database audit preview bytes must be between 4096 and 1048576"
  else none

/-! ## The row -/

/-- The row of the database; `settings` are its columns. -/
structure SystemSetting where
  settings : SystemSettings
  revision : ℤ
  appliedRevision : ℤ
  updatedBy : String
  deriving DecidableEq

def systemSettingsFromModel (row : SystemSetting) : SystemSettings :=
  let mode := trimSpace row.settings.databaseGatewayMode
  let clientTLSMode := trimSpace row.settings.databaseGatewayClientTLSMode
  { row.settings.withPreview with
    databaseGatewayMode := if mode = "" then databaseGatewayModeUnified else mode
    databaseGatewayClientTLSMode :=
      if clientTLSMode = "" then databaseGatewayClientTLSModeOptional else clientTLSMode }

/-- The first row; a row that is there already is kept. -/
def initializeSystemSetting (row : Option SystemSetting) (settings : SystemSettings)
    (updatedBy : String) : SystemSetting :=
  row.getD { settings := settings, revision := 1, appliedRevision := 0, updatedBy := updatedBy }

/-- The row with new columns, if it still has the expected revision. -/
def updateSystemSetting (row : SystemSetting) (expectedRevision : ℤ) (settings : SystemSettings)
    (updatedBy : String) : Option SystemSetting :=
  if row.revision = expectedRevision then
    some
      { row with
        settings :=
          { settings with
            databaseGatewayMode := trimSpace settings.databaseGatewayMode
            databaseGatewayClientTLSMode := trimSpace settings.databaseGatewayClientTLSMode }
        revision := expectedRevision + 1
        updatedBy := trimSpace updatedBy }
  else none

/-- The row marked as applied, if it still has the revision. -/
def markSystemSettingApplied (row : SystemSetting) (revision : ℤ) : Option SystemSetting :=
  if row.revision = revision then some { row with appliedRevision := revision } else none

/-! ## The service -/

/-- An applier takes settings over; it says whether it could. -/
abbrev SystemSettingsHotReloadApplier := SystemSettings → Bool

structure SystemSettingsService where
  availableDatabaseGatewayModes : List String
  effective : SystemSettings := default
  effectiveRevision : ℤ := 0
  bootstrapped : Bool := false
  appliers : List SystemSettingsHotReloadApplier := []

structure SystemSettingsUpdate where
  settings : SystemSettings
  expectedRevision : ℤ
  confirmRisk : Bool
  actor : String

structure SystemSettingsState where
  desired : SystemSettings
  effective : SystemSettings
  revision : ℤ
  effectiveRevision : ℤ
  pendingRestart : Bool
  updatedBy : String
  deriving DecidableEq

inductive SystemSettingsError where
  | invalid (detail : String)
  | riskConfirmationRequired (fields : String)
  | revisionConflict (detail : String)
  | notBootstrapped
  | repository (detail : String)
  | applier
  deriving DecidableEq

namespace SystemSettingsService

/-- What is wrong with the settings, if anything is; the mode must be configured, too. -/
def validateSystemSettings (service : SystemSettingsService) (settings : SystemSettings) :
    Option String :=
  match Settings.validateSystemSettings settings with
  | some detail => some detail
  | none =>
    if service.availableDatabaseGatewayModes.contains settings.databaseGatewayMode then none
    else
      let mode := settings.databaseGatewayMode
      some (s!"database gateway mode \"{mode}\" is not configured and " ++
        "cannot become effective after restart")

def stateFromModel (service : SystemSettingsService) (row : SystemSetting) :
    Except SystemSettingsError SystemSettingsState :=
  if !service.bootstrapped then .error .notBootstrapped
  else
    .ok
      { desired := systemSettingsFromModel row
        effective := service.effective
        revision := row.revision
        effectiveRevision := service.effectiveRevision
        pendingRestart := row.revision != service.effectiveRevision
        updatedBy := row.updatedBy }

end SystemSettingsService

/-- Hand the settings to the appliers until one fails: how often they were handed out, and whether
all appliers took them over. -/
def applyHotReload (settings : SystemSettings) :
    List SystemSettingsHotReloadApplier → List SystemSettings × Bool
  | [] => ([], true)
  | applier :: appliers =>
    if applier settings then
      let later := applyHotReload settings appliers
      (settings :: later.1, later.2)
    else ([settings], false)

/-! ## The process -/

/-- A transaction of the database commits, fails, or commits and its answer is lost. -/
inductive Answer where
  | committed
  | failed
  | lost
  deriving DecidableEq

/-- What the database answers the statements of an update. -/
structure Answers where
  loads : Bool := true
  persists : Answer := .committed
  marks : Answer := .committed
  deriving DecidableEq

/-- A process and the row.  `handed` is a trace: the settings handed to the appliers. -/
structure Process where
  service : SystemSettingsService
  row : Option SystemSetting
  handed : List SystemSettings := []

namespace Process

/-- Start a process: the row it finds, or the baseline as the first row, becomes effective. -/
def bootstrap (modes : List String) (appliers : List SystemSettingsHotReloadApplier)
    (row : Option SystemSetting) (baseline : SystemSettings) :
    Except SystemSettingsError Process :=
  let service : SystemSettingsService :=
    { availableDatabaseGatewayModes := modes, appliers := appliers }
  match service.validateSystemSettings baseline with
  | some detail => .error (.invalid detail)
  | none =>
    let row := initializeSystemSetting row baseline "system"
    let prepared := systemSettingsFromModel row
    if row.revision < 1 then .error (.invalid "persisted revision must be positive")
    else
      match service.validateSystemSettings prepared with
      | some detail => .error (.invalid detail)
      | none =>
        .ok
          { service :=
              { service with
                effective := prepared
                effectiveRevision := row.revision
                bootstrapped := true }
            row := some { row with appliedRevision := row.revision } }

def getState (p : Process) : Except SystemSettingsError SystemSettingsState :=
  match p.row with
  | none => .error .notBootstrapped
  | some row => p.service.stateFromModel row

/-- After the row was persisted, hand the settings out and mark them as applied. -/
def hotReload (p : Process) (row : SystemSetting) (settings : SystemSettings) (marks : Answer) :
    Process × Except SystemSettingsError SystemSettingsState :=
  let tried := applyHotReload settings p.service.appliers
  let p := { p with handed := p.handed ++ tried.1 }
  if !tried.2 then (p, .error .applier)
  else
    match marks, markSystemSettingApplied row row.revision with
    | .failed, _ => (p, .error (.repository "mark hot-reloaded system settings applied"))
    | .lost, applied =>
      ({ p with row := applied.or p.row },
        .error (.repository "mark hot-reloaded system settings applied"))
    | .committed, none =>
      let revision := row.revision
      (p, .error (.revisionConflict s!"revision {revision} changed during hot reload"))
    | .committed, some applied =>
      let service :=
        { p.service with effective := settings, effectiveRevision := row.revision }
      ({ p with row := some applied, service := service }, service.stateFromModel row)

/-- Persist changed settings, and hand them out if the running process can take them over. -/
def persist (p : Process) (answers : Answers) (row : SystemSetting) (fields : List Field)
    (update : SystemSettingsUpdate) : Process × Except SystemSettingsError SystemSettingsState :=
  match answers.persists, updateSystemSetting row update.expectedRevision update.settings
      update.actor with
  | .failed, _ => (p, .error (.repository "persist system settings"))
  | .lost, persisted =>
    ({ p with row := persisted.or p.row }, .error (.repository "persist system settings"))
  | .committed, none => (p, .error (.revisionConflict ""))
  | .committed, some persisted =>
    let p := { p with row := some persisted }
    if systemSettingFieldsHotReloadable fields ∧ 0 < p.service.appliers.length then
      p.hotReload persisted update.settings answers.marks
    else (p, p.service.stateFromModel persisted)

def update (p : Process) (answers : Answers) (update : SystemSettingsUpdate) :
    Process × Except SystemSettingsError SystemSettingsState :=
  let update := { update with settings := update.settings.withPreview }
  if !p.service.bootstrapped then (p, .error .notBootstrapped)
  else
    match p.service.validateSystemSettings update.settings with
    | some detail => (p, .error (.invalid detail))
    | none =>
      if update.expectedRevision < 1 then
        (p, .error (.invalid "expected revision must be positive"))
      else if !answers.loads then (p, .error (.repository "load current system settings"))
      else
        match p.row with
        | none => (p, .error .notBootstrapped)
        | some row =>
          let expected := update.expectedRevision
          let current := row.revision
          let before := systemSettingsFromModel row
          let fields := changedSystemSettingFields before update.settings
          let risky := riskySystemSettingFields before update.settings
          if current ≠ expected then
            (p, .error (.revisionConflict s!"expected {expected}, current {current}"))
          else if fields.isEmpty then (p, p.service.stateFromModel row)
          else if !risky.isEmpty ∧ !update.confirmRisk then
            (p, .error (.riskConfirmationRequired (", ".intercalate (risky.map Field.name))))
          else p.persist answers row fields update

/-- Make one update, with what the database answers. -/
def step (p : Process) (call : Answers × SystemSettingsUpdate) : Option Process :=
  some (p.update call.1 call.2).1

/-- What the process really runs with: the values it started with, and for the captcha the last one
handed to the appliers. -/
def running (started : SystemSettings) (p : Process) : SystemSettings :=
  { started with
    loginCaptchaEnabled :=
      (p.handed.getLast?.map SystemSettings.loginCaptchaEnabled).getD
        started.loginCaptchaEnabled }

end Process
end Jianmen.Settings
