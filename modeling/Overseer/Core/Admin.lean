import Overseer.Core.Coordinator
import Overseer.Library.Text

/-! # Executing an admin change plan

`execute_admin_change_plan` of `admin.py` and the audit event of its result. The commands are
run by a runner that is given one step after another; it may raise.
-/
namespace Overseer.Core
open Overseer.Library

inductive AdminChangeKind where
  | userServiceRestart | aptInstall | aptUpdate | aptUpgrade | firmwareUpdate | flatpakInstall | npmGlobalInstall
  | dockerComposeUpdate | storageMountTest | firewallAllowTcp | firewallDenyTcp | blockIp
  deriving DecidableEq

def AdminChangeKind.value : AdminChangeKind → String
  | .userServiceRestart => "user_service_restart"
  | .aptInstall => "apt_install"
  | .aptUpdate => "apt_update"
  | .aptUpgrade => "apt_upgrade"
  | .firmwareUpdate => "firmware_update"
  | .flatpakInstall => "flatpak_install"
  | .npmGlobalInstall => "npm_global_install"
  | .dockerComposeUpdate => "docker_compose_update"
  | .storageMountTest => "storage_mount_test"
  | .firewallAllowTcp => "firewall_allow_tcp"
  | .firewallDenyTcp => "firewall_deny_tcp"
  | .blockIp => "block_ip"

inductive AdminExecutionStatus where
  | completed | blocked | failed
  deriving DecidableEq

def AdminExecutionStatus.value : AdminExecutionStatus → String
  | .completed => "completed"
  | .blocked => "blocked"
  | .failed => "failed"

inductive AdminAdapterStatus where
  | enabled | disabled | unsupported
  deriving DecidableEq

structure AdminCommandStep where
  title : String
  command : List String
  reason : String

structure AdminCommandResult where
  title : String
  command : List String
  exitCode : ℤ
  stdout : String := ""
  stderr : String := ""

structure AdminExecutionResult where
  id : String
  planId : String
  status : AdminExecutionStatus
  summary : String
  commandResults : List AdminCommandResult
  verificationResults : List AdminCommandResult := []
  rollbackResults : List AdminCommandResult := []

structure AdminExecutionCapability where
  kind : AdminChangeKind
  adapterName : String
  status : AdminAdapterStatus
  summary : String

def AdminExecutionCapability.canExecuteLive (c : AdminExecutionCapability) : Bool := c.status = .enabled

structure AdminChangePlan where
  id : String
  kind : AdminChangeKind
  ownerDomain : OwnerDomain
  riskLevel : RiskLevel
  approvalLevel : ApprovalLevel
  target : String
  reason : String
  currentState : String
  proposedState : String
  steps : List AdminCommandStep
  rollbackSteps : List AdminCommandStep
  risks : List String
  verificationSteps : List AdminCommandStep
  approved : Bool := false
  canceled : Bool := false
  archived : Bool := false

namespace Admin

def missingAdminChangeFields (plan : AdminChangePlan) : List String :=
  (if isBlank plan.currentState then ["current_state"] else []) ++ (if isBlank plan.proposedState then ["proposed_state"] else []) ++
    (if isBlank plan.reason then ["reason"] else []) ++ (if plan.steps.isEmpty then ["steps"] else []) ++
    (if plan.rollbackSteps.isEmpty then ["rollback_steps"] else []) ++ (if plan.risks.isEmpty then ["risks"] else []) ++
    (if plan.verificationSteps.isEmpty then ["verification_steps"] else [])

def requiresExplicitApproval (plan : AdminChangePlan) : Bool :=
  !plan.canceled && (plan.approvalLevel ≠ .none || plan.riskLevel ≠ .low)

def canExecute (plan : AdminChangePlan) : Bool :=
  !plan.archived && !plan.canceled && (plan.approved || !requiresExplicitApproval plan) &&
    (missingAdminChangeFields plan).isEmpty

def defaultCapability : AdminChangeKind → AdminExecutionCapability
  | .userServiceRestart => ⟨.userServiceRestart,"user-systemd-service",.enabled,
      "approved user service restart execution is enabled"⟩
  | .aptInstall => ⟨.aptInstall,"apt-package-install",.disabled,
      "live apt installs require a specific high-risk package adapter approval plan before enablement"⟩
  | .aptUpdate => ⟨.aptUpdate,"apt-package-index-refresh",.disabled,
      "live apt package index refresh requires a specific package-maintenance adapter approval plan before enablement"⟩
  | .aptUpgrade => ⟨.aptUpgrade,"apt-package-upgrade",.disabled,
      "live apt upgrades require a specific high-risk package-maintenance adapter approval plan before enablement"⟩
  | .firmwareUpdate => ⟨.firmwareUpdate,"fwupd-firmware-update",.disabled,
      "live firmware updates require explicit adapter enablement because they mutate boot-trust state and usually require a reboot"⟩
  | .flatpakInstall => ⟨.flatpakInstall,"flatpak-install",.disabled,
      "live flatpak installs require a specific package-provider adapter approval plan before enablement"⟩
  | .npmGlobalInstall => ⟨.npmGlobalInstall,"npm-global-install",.disabled,
      "live npm global installs require a specific package-provider adapter approval plan before enablement"⟩
  | .dockerComposeUpdate => ⟨.dockerComposeUpdate,"docker-compose-update",.disabled,
      "live Docker Compose updates require explicit adapter enablement because they can restart services and mutate volumes"⟩
  | .storageMountTest => ⟨.storageMountTest,"storage-mount-test",.disabled,
      "live storage mount tests require explicit adapter enablement because they mount network storage and can expose backup paths"⟩
  | .firewallAllowTcp => ⟨.firewallAllowTcp,"ufw-firewall-allow",.disabled,
      "live firewall allow rules require a specific high-risk firewall adapter approval plan before enablement"⟩
  | .firewallDenyTcp => ⟨.firewallDenyTcp,"host-firewall-deny",.disabled,
      "live firewall deny rules require a specific high-risk firewall adapter approval plan before enablement"⟩
  | .blockIp => ⟨.blockIp,"ufw-source-block",.disabled,
      "live source blocks require a specific high-risk firewall adapter approval plan before enablement"⟩

def adminExecutionCapabilityFor (kind : AdminChangeKind) (enabledAdapterKinds : List AdminChangeKind) : AdminExecutionCapability :=
  let capability := defaultCapability kind
  if capability.status = .disabled ∧ kind ∈ enabledAdapterKinds then
    { capability with
      status := .enabled
      summary := "approved live " ++ capability.adapterName ++ " execution is enabled" }
  else capability

def unsupportedAptPackagePrefixes : List String := ["flatpak:","npm:","pip:","pipx:","snap:"]

/-- `str.lower` as far as a prefix of ASCII letters can tell: the Kelvin sign becomes a k. -/
def lowerChar (c : Char) : Char := if c.toNat = 8490 then 'k' else c.toLower

def unsupportedPackageProvider (parts : List String) : Option String :=
  parts.findSome? fun part => (unsupportedAptPackagePrefixes.find? fun p =>
    p.toList.isPrefixOf (part.toList.map lowerChar)).map fun p => String.ofList p.toList.dropLast

def unsupportedAptProviderForPlan (plan : AdminChangePlan) : Option String :=
  if plan.kind ∈ [AdminChangeKind.aptInstall,.aptUpgrade] then
    unsupportedPackageProvider ((plan.steps ++ plan.rollbackSteps ++ plan.verificationSteps).flatMap (·.command))
  else none

/-! ### Running commands -/

/-- What the runner makes of a step after the steps it was given before in the same call. -/
abbrev AdminCommandRunner := List AdminCommandStep → AdminCommandStep → Option AdminCommandResult

/-- Run steps until one fails: the steps given so far, the results, and the failed one. -/
def runUntilFailure (runner : AdminCommandRunner) (given : List AdminCommandStep) (results : List AdminCommandResult) :
    List AdminCommandStep → Option (List AdminCommandStep × List AdminCommandResult × Option AdminCommandResult)
  | [] => some (given,results,none)
  | step :: rest => do
    let result ← runner given step
    if result.exitCode ≠ 0 then return (given ++ [step],results ++ [result],some result)
    else runUntilFailure runner (given ++ [step]) (results ++ [result]) rest

/-- Run every step. -/
def runAll (runner : AdminCommandRunner) (given : List AdminCommandStep) : List AdminCommandStep → Option (List AdminCommandResult)
  | [] => some []
  | step :: rest => do
    let result ← runner given step
    return result :: (← runAll runner (given ++ [step]) rest)

/-- The result of a call on the plan. -/
def resultOf (plan : AdminChangePlan) (status : AdminExecutionStatus) (summary : String)
    (commandResults verificationResults rollbackResults : List AdminCommandResult) : AdminExecutionResult where
  id := "admin.exec." ++ plan.id ++ "." ++ status.value
  planId := plan.id
  status := status
  summary := summary
  commandResults := commandResults
  verificationResults := verificationResults
  rollbackResults := rollbackResults

/-- `none` is an exception of the runner. -/
def executeAdminChangePlan (plan : AdminChangePlan) (runner : AdminCommandRunner) (enabledAdapterKinds : List AdminChangeKind) :
    Option AdminExecutionResult := do
  let capability := adminExecutionCapabilityFor plan.kind enabledAdapterKinds
  if !capability.canExecuteLive then
    return resultOf plan .blocked ("live adapter unavailable for " ++ plan.kind.value ++ ": " ++ capability.summary) [] [] []
  if !canExecute plan then return resultOf plan .blocked "admin change plan is not approved or is incomplete" [] [] []
  match unsupportedAptProviderForPlan plan with
  | some provider => return resultOf plan .blocked ("unsupported package provider '" ++ provider ++ "' for " ++ plan.kind.value ++
      "; stage a provider-specific admin adapter instead of apt") [] [] []
  | none =>
    let (given,commandResults,failed) ← runUntilFailure runner [] [] plan.steps
    match failed with
    | some result =>
      let rollbackResults ← runAll runner given plan.rollbackSteps
      return resultOf plan .failed ("admin change failed during step: " ++ result.title ++ "; rollback steps attempted")
        commandResults [] rollbackResults
    | none =>
      let (given,verificationResults,failed) ← runUntilFailure runner given [] plan.verificationSteps
      match failed with
      | some result =>
        let rollbackResults ← runAll runner given plan.rollbackSteps
        return resultOf plan .failed ("admin change verification failed during step: " ++ result.title ++ "; rollback steps attempted")
          commandResults verificationResults rollbackResults
      | none =>
        -- no command has failed here; the source looks again
        match commandResults.find? fun result => result.exitCode ≠ 0 with
        | some result =>
          let rollbackResults ← runAll runner given plan.rollbackSteps
          return resultOf plan .failed ("admin change failed during step: " ++ result.title ++ "; rollback steps attempted")
            commandResults [] rollbackResults
        | none => return resultOf plan .completed "admin change completed and verified" commandResults verificationResults []

def auditEventFromAdminExecution (plan : AdminChangePlan) (result : AdminExecutionResult) : AuditEvent where
  id := "audit." ++ result.id
  eventType := if result.status = .completed then .executed else .blocked
  ownerDomain := plan.ownerDomain
  subjectId := plan.id
  summary := result.summary
  riskLevel := plan.riskLevel
  evidenceIds := [result.id]

/-- Every result is one of the plan. -/
theorem executeAdminChangePlan_id {plan : AdminChangePlan} {runner : AdminCommandRunner} {enabled : List AdminChangeKind}
    {result : AdminExecutionResult} (h : executeAdminChangePlan plan runner enabled = some result) :
    result.id = "admin.exec." ++ plan.id ++ "." ++ result.status.value := by
  have hof : ∀ status summary a b c, resultOf plan status summary a b c = result →
      result.id = "admin.exec." ++ plan.id ++ "." ++ result.status.value := by
    rintro status summary a b c rfl
    rfl
  unfold executeAdminChangePlan at h
  dsimp only at h
  split at h
  · exact hof _ _ _ _ _ (Option.some.inj h)
  split at h
  · exact hof _ _ _ _ _ (Option.some.inj h)
  split at h
  · exact hof _ _ _ _ _ (Option.some.inj h)
  obtain ⟨⟨given,commandResults,failed⟩,-,h⟩ := Option.bind_eq_some_iff.mp h
  dsimp only at h
  split at h
  · obtain ⟨_,-,h⟩ := Option.bind_eq_some_iff.mp h
    exact hof _ _ _ _ _ (Option.some.inj h)
  obtain ⟨⟨given,verificationResults,failed⟩,-,h⟩ := Option.bind_eq_some_iff.mp h
  dsimp only at h
  split at h
  · obtain ⟨_,-,h⟩ := Option.bind_eq_some_iff.mp h
    exact hof _ _ _ _ _ (Option.some.inj h)
  split at h
  · obtain ⟨_,-,h⟩ := Option.bind_eq_some_iff.mp h
    exact hof _ _ _ _ _ (Option.some.inj h)
  · exact hof _ _ _ _ _ (Option.some.inj h)

end Admin
end Overseer.Core
