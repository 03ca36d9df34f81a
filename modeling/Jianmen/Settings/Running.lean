import Jianmen.Library.Actions
import Jianmen.Settings.Service

/-!
# What the settings page reports

Once an update was handed out, all of its settings count as effective, whatever fields it changed.
They are those the process runs with as long as an update of the captcha alone finds no other
change waiting for a restart.
-/

namespace Jianmen.Settings

open List

/-! ## Validated settings -/

private theorem unrefused {refused : Prop} [Decidable refused] {detail : String}
    {checks : Option String} (valid : (if refused then some detail else checks) = none) :
    ¬refused ∧ checks = none := by
  split at valid
  · cases valid
  · next passed => exact ⟨passed, valid⟩

variable {settings : SystemSettings} {call : Answers × SystemSettingsUpdate}
  {before after : SystemSettings}

/-- Validated settings have known modes. -/
theorem validateSystemSettings_modes (valid : validateSystemSettings settings = none) :
    (settings.databaseGatewayMode = databaseGatewayModeUnified ∨
        settings.databaseGatewayMode = databaseGatewayModeIndependent) ∧
      (settings.databaseGatewayClientTLSMode = databaseGatewayClientTLSModeRequired ∨
        settings.databaseGatewayClientTLSMode = databaseGatewayClientTLSModeOptional) := by
  obtain ⟨mode, valid⟩ := unrefused valid
  obtain ⟨clientTLSMode, -⟩ := unrefused valid
  exact ⟨or_iff_not_and_not.mpr mode, or_iff_not_and_not.mpr clientTLSMode⟩

theorem SystemSettingsService.validated {service : SystemSettingsService}
    (valid : service.validateSystemSettings settings = none) :
    Settings.validateSystemSettings settings = none := by
  simp only [SystemSettingsService.validateSystemSettings] at valid
  split at valid
  · cases valid
  · assumption

theorem withPreview_idem (settings : SystemSettings) :
    settings.withPreview.withPreview = settings.withPreview := by
  by_cases zero : settings.databaseAuditPreviewBytes = 0
  · simp [SystemSettings.withPreview, zero]
  · simp [SystemSettings.withPreview, zero]

/-- A known mode is read back as it was stored. -/
theorem mode_read (fallback mode : String)
    (known : mode = databaseGatewayModeUnified ∨ mode = databaseGatewayModeIndependent ∨
      mode = databaseGatewayClientTLSModeRequired ∨ mode = databaseGatewayClientTLSModeOptional) :
    (if trimSpace (trimSpace mode) = "" then fallback else trimSpace (trimSpace mode)) = mode := by
  obtain rfl | rfl | rfl | rfl := known
  all_goals rfl

/-- What an update writes is what is read from the row afterwards. -/
theorem updateSystemSetting_read {row persisted : SystemSetting} {expectedRevision : ℤ}
    {updatedBy : String} (valid : validateSystemSettings settings = none)
    (filled : settings.withPreview = settings)
    (updated : updateSystemSetting row expectedRevision settings updatedBy = some persisted) :
    systemSettingsFromModel persisted = settings ∧ persisted.revision = row.revision + 1 := by
  obtain ⟨mode, clientTLSMode⟩ := validateSystemSettings_modes valid
  have gateway := mode_read databaseGatewayModeUnified settings.databaseGatewayMode
    (mode.imp_right Or.inl)
  have client := mode_read databaseGatewayClientTLSModeOptional
    settings.databaseGatewayClientTLSMode (.inr (.inr clientTLSMode))
  have preview := congrArg SystemSettings.databaseAuditPreviewBytes filled
  simp only [SystemSettings.withPreview] at preview
  unfold updateSystemSetting at updated
  split at updated
  · rename_i current
    cases updated
    refine ⟨?_, by rw [current]⟩
    simp [systemSettingsFromModel, SystemSettings.withPreview, gateway, client, preview]
  · cases updated

/-! ## Updates of the captcha alone -/

/-- The settings with another captcha. -/
def SystemSettings.withCaptcha (settings : SystemSettings) (enabled : Bool) : SystemSettings :=
  { settings with loginCaptchaEnabled := enabled }

/-- Only the captcha differs, and it does. -/
def HotOnly (before after : SystemSettings) : Prop :=
  systemSettingFieldsHotReloadable (changedSystemSettingFields before after) = true

instance (before after : SystemSettings) : Decidable (HotOnly before after) :=
  inferInstanceAs (Decidable (_ = true))

theorem HotOnly.unchanged (hot : HotOnly before after)
    {field : Field} (other : field ≠ .loginCaptchaEnabled) :
    Field.changed before after field = false := by
  by_contra differs
  have listed : field ∈ changedSystemSettingFields before after := by
    refine mem_filter.mpr ⟨?_, by simpa using differs⟩
    cases field <;> decide
  have taken := all_eq_true.mp (Bool.and_eq_true_iff.mp hot).2 field listed
  exact other (by simpa [hotReloadableSystemSettingFields] using taken)

/-- An update that changes reloadable fields only is the old settings with another captcha. -/
theorem HotOnly.withCaptcha (hot : HotOnly before after) :
    after = before.withCaptcha after.loginCaptchaEnabled := by
  have same : ∀ {field : Field}, field ≠ .loginCaptchaEnabled →
      Field.changed before after field = false := hot.unchanged
  simp only [SystemSettings.withCaptcha]
  have mode := @same .databaseGatewayMode nofun
  have clientTLSMode := @same .databaseGatewayClientTLSMode nofun
  have enabled := @same .webRDPEnabled nofun
  have timeout := @same .webRDPConnectTimeoutSeconds nofun
  have unrecorded := @same .webRDPAllowUnrecorded nofun
  have recording := @same .recordingEnabled nofun
  have input := @same .recordingRecordInput nofun
  have commands := @same .recordingRecordCommands nofun
  have retention := @same .recordingRetentionDays nofun
  have replay := @same .recordingMaxReplayBytes nofun
  have batch := @same .recordingCleanupBatchSize nofun
  have message := @same .databaseMaxClientMessageBytes nofun
  have shell := @same .recordingSSHRedactionEnabled nofun
  have audit := @same .databaseAuditRedactionEnabled nofun
  have preview := @same .databaseAuditPreviewBytes nofun
  simp only [Field.changed, bne_eq_false_iff_eq] at *
  simp [*]

/-! ## What an update does -/

theorem applyHotReload_succeeds {appliers : List SystemSettingsHotReloadApplier}
    (succeed : ∀ applier ∈ appliers, ∀ settings, applier settings)
    (settings : SystemSettings) :
    applyHotReload settings appliers = (appliers.map fun _ => settings, true) := by
  induction appliers with
  | nil => rfl
  | cons applier appliers ih =>
    have takes := succeed applier mem_cons_self settings
    have later := ih fun other member => succeed other (mem_cons_of_mem _ member)
    simp [applyHotReload, takes, later]

namespace Process

variable {p p' : Process} {started : SystemSettings}

/-- What an update with succeeding appliers does: nothing, storing new settings, handing them out
without marking them, or making them effective. -/
inductive Moves (p : Process) (call : Answers × SystemSettingsUpdate) : Process → Prop where
  | kept : Moves p call p
  | stored {row persisted : SystemSetting} (present : p.row = some row)
      (later : persisted.revision = row.revision + 1) :
      Moves p call { p with row := some persisted }
  | handed {row persisted : SystemSetting} {handed : List SystemSettings}
      (present : p.row = some row)
      (hot : HotOnly (systemSettingsFromModel row) call.2.settings.withPreview)
      (unmarked : call.1.marks ≠ .committed) :
      Moves p call { p with row := some persisted, handed := handed }
  | reloaded {row applied : SystemSetting} (present : p.row = some row)
      (hot : HotOnly (systemSettingsFromModel row) call.2.settings.withPreview)
      (read : systemSettingsFromModel applied = call.2.settings.withPreview)
      (registered : p.service.appliers ≠ []) :
      Moves p call
        { p with
          row := some applied
          handed := p.handed ++ p.service.appliers.map fun _ => call.2.settings.withPreview
          service :=
            { p.service with
              effective := call.2.settings.withPreview
              effectiveRevision := applied.revision } }

section

variable (succeed : ∀ applier ∈ p.service.appliers, ∀ settings, applier settings = true)
  {row : SystemSetting}
include succeed

theorem hotReload_moves {persisted : SystemSetting} (present : p.row = some row)
    (hot : HotOnly (systemSettingsFromModel row) call.2.settings.withPreview)
    (read : systemSettingsFromModel persisted = call.2.settings.withPreview)
    (registered : p.service.appliers ≠ []) :
    Moves p call (hotReload { p with row := some persisted } persisted call.2.settings.withPreview
      call.1.marks).1 := by
  have marked : markSystemSettingApplied persisted persisted.revision =
      some { persisted with appliedRevision := persisted.revision } := if_pos rfl
  simp only [hotReload, applyHotReload_succeeds succeed, marked]
  cases marks : call.1.marks with
  | failed => exact .handed present hot (by simp [marks])
  | lost => exact .handed present hot (by simp [marks])
  | committed =>
    exact @Moves.reloaded p call row { persisted with appliedRevision := persisted.revision }
      present hot read registered

theorem persist_moves (present : p.row = some row)
    (valid : validateSystemSettings call.2.settings.withPreview = none) :
    Moves p call (p.persist call.1 row
      (changedSystemSettingFields (systemSettingsFromModel row) call.2.settings.withPreview)
      { call.2 with settings := call.2.settings.withPreview }).1 := by
  simp only [persist]
  cases updated : updateSystemSetting row call.2.expectedRevision call.2.settings.withPreview
      call.2.actor with
  | none =>
    cases call.1.persists with
    | failed => exact .kept
    | lost => exact .kept
    | committed => exact .kept
  | some =>
    obtain ⟨read, later⟩ := updateSystemSetting_read valid (withPreview_idem _) updated
    cases call.1.persists with
    | failed => exact .kept
    | lost => exact .stored present later
    | committed =>
      dsimp only
      split
      · rename_i reloadable
        exact hotReload_moves succeed present reloadable.1 read (ne_nil_of_length_pos reloadable.2)
      · exact .stored present later

theorem update_moves (call : Answers × SystemSettingsUpdate) :
    Moves p call (p.update call.1 call.2).1 := by
  simp only [update]
  split
  · exact .kept
  split
  · exact .kept
  rename_i valid
  split
  · exact .kept
  split
  · exact .kept
  split
  · exact .kept
  rename_i present
  split
  · exact .kept
  split
  · exact .kept
  split
  · exact .kept
  · exact persist_moves succeed present (SystemSettingsService.validated valid)

end

/-! ## Whole runs -/

/-- An update of the captcha alone finds the other desired settings in effect, and marking it as
applied does not fail. -/
def Permits (p : Process) (call : Answers × SystemSettingsUpdate) : Prop :=
  ∀ row ∈ p.row, HotOnly (systemSettingsFromModel row) call.2.settings.withPreview →
    call.1.marks = .committed ∧
      (systemSettingsFromModel row).withCaptcha p.service.effective.loginCaptchaEnabled =
        p.service.effective

instance (p : Process) (call : Answers × SystemSettingsUpdate) : Decidable (p.Permits call) :=
  inferInstanceAs (Decidable (∀ row ∈ p.row, _ → _))

/-- What is reported is what runs. -/
structure Reports (started : SystemSettings) (p : Process) : Prop where
  succeed : ∀ applier ∈ p.service.appliers, ∀ settings, applier settings = true
  bootstrapped : p.service.bootstrapped = true
  effective : p.service.effective = p.running started
  row : ∃ row, p.row = some row ∧ p.service.effectiveRevision ≤ row.revision ∧
    (row.revision = p.service.effectiveRevision →
      systemSettingsFromModel row = p.service.effective)

/-- Settings handed to at least one applier are the last ones handed out. -/
theorem running_handed (registered : p.service.appliers ≠ []) (settings : SystemSettings)
    (service : SystemSettingsService) (row : Option SystemSetting) :
    running started
        { service := service
          row := row
          handed := p.handed ++ p.service.appliers.map fun _ => settings } =
      started.withCaptcha settings.loginCaptchaEnabled := by
  have last : (p.handed ++ p.service.appliers.map fun _ => settings).getLast? = some settings := by
    rw [getLast?_append, getLast?_map, getLast?_eq_some_getLast registered]
    rfl
  simp only [running, last]
  rfl

theorem running_withCaptcha (enabled : Bool) :
    (p.running started).withCaptcha enabled = started.withCaptcha enabled := rfl

theorem Reports.moves (reports : Reports started p) (permits : p.Permits call)
    (moves : Moves p call p') : Reports started p' := by
  obtain ⟨_, stored, _, _⟩ := reports.row
  cases moves with
  | kept => exact reports
  | @stored row persisted present later =>
    cases present.symm.trans stored
    refine ⟨reports.succeed, reports.bootstrapped, reports.effective, persisted, rfl, ?_, ?_⟩
    · change p.service.effectiveRevision ≤ persisted.revision
      omega
    · intro same
      change persisted.revision = p.service.effectiveRevision at same
      omega
  | @handed row persisted handed present hot unmarked =>
    exact absurd (permits row present hot).1 unmarked
  | @reloaded row applied present hot read registered =>
    refine ⟨reports.succeed, reports.bootstrapped, ?_, applied, rfl, Int.le_refl _, fun _ => read⟩
    have others := (permits row present hot).2
    rw [running_handed registered]
    calc call.2.settings.withPreview
        = (systemSettingsFromModel row).withCaptcha
            call.2.settings.withPreview.loginCaptchaEnabled := hot.withCaptcha
      _ = p.service.effective.withCaptcha
            call.2.settings.withPreview.loginCaptchaEnabled := by rw [← others]; rfl
      _ = started.withCaptcha call.2.settings.withPreview.loginCaptchaEnabled := by
            rw [reports.effective, running_withCaptcha]

theorem bootstrap_reports {modes : List String} {appliers : List SystemSettingsHotReloadApplier}
    {row : Option SystemSetting} {baseline : SystemSettings}
    (succeed : ∀ applier ∈ appliers, ∀ settings, applier settings = true)
    (starts : bootstrap modes appliers row baseline = .ok p) :
    Reports p.service.effective p := by
  simp only [bootstrap] at starts
  repeat' split at starts
  all_goals cases starts
  exact ⟨succeed, rfl, rfl, _, rfl, Int.le_refl _, fun _ => rfl⟩

/-- After every run of updates whose captcha changes find nothing else waiting, the settings
reported as effective are those the process runs with, and no restart is pending only if these are
the desired ones. -/
theorem getState_reports_running {modes : List String}
    {appliers : List SystemSettingsHotReloadApplier} {row : Option SystemSetting}
    {baseline : SystemSettings} {final : Process}
    (succeed : ∀ applier ∈ appliers, ∀ settings, applier settings = true)
    (starts : bootstrap modes appliers row baseline = .ok p)
    {calls : List (Answers × SystemSettingsUpdate)}
    (permitted : Actions.Permitted step Permits p calls)
    (execution : Actions.run step p calls = some final) :
    ∃ state, final.getState = .ok state ∧
      state.effective = final.running p.service.effective ∧
      (state.pendingRestart = false → state.desired = final.running p.service.effective) := by
  have reports : Reports p.service.effective final := by
    refine Actions.run_invariant ?_ (bootstrap_reports succeed starts) permitted execution
    intro before call after holds permits taken
    cases taken
    exact holds.moves permits (update_moves holds.succeed call)
  obtain ⟨row, stored, -, agrees⟩ := reports.row
  have read : final.getState = .ok
      { desired := systemSettingsFromModel row
        effective := final.service.effective
        revision := row.revision
        effectiveRevision := final.service.effectiveRevision
        pendingRestart := row.revision != final.service.effectiveRevision
        updatedBy := row.updatedBy } := by
    simp [getState, stored, SystemSettingsService.stateFromModel, reports.bootstrapped]
  refine ⟨_, read, reports.effective, fun idle => ?_⟩
  exact (agrees (by simpa using idle)).trans reports.effective

/-! ## Two runs -/

/-- Settings to start from. -/
def sampleSettings : SystemSettings where
  databaseGatewayMode := databaseGatewayModeUnified
  databaseGatewayClientTLSMode := databaseGatewayClientTLSModeOptional
  loginCaptchaEnabled := false
  webRDPEnabled := true
  webRDPConnectTimeoutSeconds := 30
  webRDPAllowUnrecorded := false
  recordingEnabled := true
  recordingRecordInput := false
  recordingRecordCommands := true
  recordingRetentionDays := 90
  recordingMaxReplayBytes := 0
  recordingCleanupBatchSize := 100
  databaseMaxClientMessageBytes := 10485760
  recordingSSHRedactionEnabled := true
  databaseAuditRedactionEnabled := true
  databaseAuditPreviewBytes := 65536

/-- A process that started with these settings, with the applier of the captcha. -/
def sampleProcess : Process where
  service :=
    { availableDatabaseGatewayModes := [databaseGatewayModeUnified]
      effective := sampleSettings
      effectiveRevision := 1
      bootstrapped := true
      appliers := [fun _ => true] }
  row := some
    { settings := sampleSettings, revision := 1, appliedRevision := 1, updatedBy := "system" }

theorem sampleProcess_starts :
    bootstrap [databaseGatewayModeUnified] [fun _ => true] none sampleSettings =
      .ok sampleProcess := rfl

/-- An update of the settings at a revision. -/
def sampleUpdate (settings : SystemSettings) (revision : ℤ) : Answers × SystemSettingsUpdate :=
  ({}, { settings := settings, expectedRevision := revision, confirmRisk := false, actor := "root" })

/-- The remote desktop is switched off. -/
def desktopOff : SystemSettings := { sampleSettings with webRDPEnabled := false }

theorem getState_reports_running_captchaFirst : ∃ final state, Actions.run step sampleProcess
        [sampleUpdate (sampleSettings.withCaptcha true) 1,
          sampleUpdate (desktopOff.withCaptcha true) 2] = some final ∧
      final.getState = .ok state ∧ state.effective = final.running sampleSettings ∧
      (state.pendingRestart = false → state.desired = final.running sampleSettings) := by
  obtain ⟨final, execution⟩ := Option.isSome_iff_exists.mp (show (Actions.run step sampleProcess
      [sampleUpdate (sampleSettings.withCaptcha true) 1,
        sampleUpdate (desktopOff.withCaptcha true) 2]).isSome from rfl)
  obtain ⟨state, read, effective, desired⟩ := getState_reports_running (by simp)
    sampleProcess_starts (by decide +kernel) execution
  exact ⟨final, state, execution, read, effective, desired⟩

/-- The remote desktop is switched off, which needs a restart; then the captcha is switched on,
which does not.  The remote desktop still runs, but it is reported as switched off and no restart as
pending. -/
theorem effective_not_running : ∃ final state, Actions.run step sampleProcess
        [sampleUpdate desktopOff 1, sampleUpdate (desktopOff.withCaptcha true) 2] = some final ∧
      final.getState = .ok state ∧ state.pendingRestart = false ∧
      state.effective.webRDPEnabled = false ∧
      (final.running sampleProcess.service.effective).webRDPEnabled = true ∧
      state.desired ≠ final.running sampleProcess.service.effective :=
  ⟨_, _, rfl, rfl, rfl, rfl, rfl, by decide⟩

end Process
end Jianmen.Settings
