/-
Module: Integr8s.Domain.Settings
Purpose: The settings of a deployment, as far as the modelled services read
  them, and those that its admins change.
Trusted boundary: human-reviewed spec
Main exports: SystemSettings, SystemSettings.LoginLimits, Settings,
  Settings.shipped, Settings.tomlDefaults
-/
import Mathlib.Init

namespace Integr8s

/-- Flat system-wide settings for execution and security. -/
structure SystemSettings where
  maxTimeoutSeconds : Int := 300
  memoryLimit : String := "512Mi"
  cpuLimit : String := "2000m"
  maxConcurrentExecutions : Nat := 10
  maxExecutionsPerUser : Nat := 100
  passwordMinLength : Nat := 8
  sessionTimeoutMinutes : Nat := 60
  maxLoginAttempts : Nat := 5
  lockoutDurationMinutes : Nat := 15
deriving DecidableEq, Repr

/-- The login limits that the admin API and the deployment admit. -/
structure SystemSettings.LoginLimits (settings : SystemSettings) : Prop where
  attempts : 3 ≤ settings.maxLoginAttempts ∧ settings.maxLoginAttempts ≤ 10
  lockout : 5 ≤ settings.lockoutDurationMinutes ∧
    settings.lockoutDurationMinutes ≤ 60

/-- The settings of a deployment. -/
structure Settings where
  accessTokenExpireMinutes : Nat := 1440
  k8sNamespace : String := "integr8scode"
  k8sPodCpuLimit : String := "1000m"
  k8sPodMemoryLimit : String := "128Mi"
  k8sPodCpuRequest : String := "1000m"
  k8sPodMemoryRequest : String := "128Mi"
  k8sPodExecutionTimeout : Int := 300
deriving DecidableEq, Repr

/-- The settings of `config.toml`. -/
def Settings.shipped : Settings where
  accessTokenExpireMinutes := 1440
  k8sPodCpuLimit := "1000m"
  k8sPodMemoryLimit := "128Mi"
  k8sPodCpuRequest := "200m"
  k8sPodMemoryRequest := "128Mi"
  k8sPodExecutionTimeout := 5

/-- `_build_toml_defaults`. -/
def Settings.tomlDefaults (settings : Settings) : SystemSettings where
  maxTimeoutSeconds := settings.k8sPodExecutionTimeout
  memoryLimit := settings.k8sPodMemoryLimit
  cpuLimit := settings.k8sPodCpuLimit
  sessionTimeoutMinutes := settings.accessTokenExpireMinutes

end Integr8s
