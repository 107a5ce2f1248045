/-
Module: Integr8s.Services.RuntimeSettings
Purpose: The loader of the effective system settings with its cache, and the
  admin service that updates and resets them.
Trusted boundary: human-reviewed spec
Main exports: RuntimeSettingsLoader.getEffectiveSettings,
  RuntimeSettingsLoader.languageLimits,
  AdminSettingsService.updateSystemSettings,
  AdminSettingsService.resetSystemSettings, AdminSettingsCall
-/
import Integr8s.Domain.Quantities
import Integr8s.Domain.Runtimes
import Integr8s.Infrastructure.AdminSettingsStore

namespace Integr8s

namespace AdminSettingsRepository

def getSystemSettings (defaults : SystemSettings) :
    AdminSettingsProgram SystemSettings := do
  match ← askSettings (.findOrInsert defaults) with
  | none => pure defaults
  | some config => pure config

def updateSystemSettings (settings : SystemSettings) :
    AdminSettingsProgram SystemSettings := do
  askSettings (.upsert settings)
  askSettings (.insertAudit .systemSettingsUpdated)
  pure settings

/-- Delete the settings document, when there is one. -/
def deleteSettings : AdminSettingsProgram Unit := do
  match ← askSettings .findOne with
  | none => pure ()
  | some document => askSettings (.delete document.id)

def resetSystemSettings : AdminSettingsProgram SystemSettings := do
  deleteSettings
  askSettings (.insertAudit .systemSettingsReset)
  pure {}

end AdminSettingsRepository

namespace RuntimeSettingsLoader

/-- Load the settings from the database, or fall back on the defaults, and
cache them. -/
def loadSettings (settings : Settings) :
    AdminSettingsProgram SystemSettings := do
  let result ← (AdminSettingsRepository.getSystemSettings
    settings.tomlDefaults).attempt fun error =>
      if error.isPyMongoError || error == .validationError then
        pure settings.tomlDefaults
      else Coroutine.raise error
  askSettings (.storeCache result)
  pure result

def getEffectiveSettings (settings : Settings) :
    AdminSettingsProgram SystemSettings := do
  match ← askSettings .checkCache with
  | some cached => pure cached
  | none => loadSettings settings

/-- The limits of a language: the effective ones, the deployment's where they
are unset, raised to the language's minimum. -/
def languageLimits (settings : Settings) (effective : SystemSettings)
    (language : String) : Except PyException LanguageLimitsDomain := do
  let podConfig := podRuntimeConfig language
  let cpuLimit ← atLeast (valueOr effective.cpuLimit settings.k8sPodCpuLimit)
    podConfig.minCpu
  let memoryLimit ← atLeast
    (valueOr effective.memoryLimit settings.k8sPodMemoryLimit)
    podConfig.minMemory
  pure
    { cpuLimit := cpuLimit
      memoryLimit := memoryLimit
      executionTimeout := podConfig.timeoutFor effective.maxTimeoutSeconds }

def invalidateCache : AdminSettingsProgram Unit :=
  askSettings .invalidateCache

end RuntimeSettingsLoader

namespace AdminSettingsService

def updateSystemSettings (settings : SystemSettings) :
    AdminSettingsProgram SystemSettings := do
  let updated ← AdminSettingsRepository.updateSystemSettings settings
  RuntimeSettingsLoader.invalidateCache
  pure updated

def resetSystemSettings (settings : Settings) :
    AdminSettingsProgram SystemSettings := do
  let _ ← AdminSettingsRepository.resetSystemSettings
  RuntimeSettingsLoader.invalidateCache
  RuntimeSettingsLoader.getEffectiveSettings settings

end AdminSettingsService

/-- One call of the settings services. -/
inductive AdminSettingsCall where
  | getEffectiveSettings
  | updateSystemSettings (settings : SystemSettings)
  | resetSystemSettings
deriving DecidableEq, Repr

def AdminSettingsCall.run (settings : Settings) :
    AdminSettingsCall → AdminSettingsProgram SystemSettings
  | getEffectiveSettings =>
      RuntimeSettingsLoader.getEffectiveSettings settings
  | updateSystemSettings newSettings =>
      AdminSettingsService.updateSystemSettings newSettings
  | resetSystemSettings =>
      AdminSettingsService.resetSystemSettings settings

/-- Any number of calls in a process that starts with this document. -/
def AdminSettingsCall.start (settings : Settings)
    (document : Option SystemSettingsDocument)
    (calls : Caller → AdminSettingsCall) : AdminSettingsState where
  shared :=
    { document := document
      versions := fun _ => document.map SystemSettingsDocument.config }
  running caller := some ((calls caller).run settings)

end Integr8s
