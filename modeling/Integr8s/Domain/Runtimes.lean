/-
Module: Integr8s.Domain.Runtimes
Purpose: What the runtime registry says about the languages, their versions
  and their pods.
Trusted boundary: human-reviewed spec
Main exports: PodRuntimeConfig, PodRuntimeConfig.timeoutFor,
  podRuntimeConfigs, LanguageLimitsDomain, RuntimeConfig, runtimeRegistry
-/
import Mathlib.Order.Defs.LinearOrder
import Mathlib.Data.Int.Order.Basic

namespace Integr8s

/-- What the pods of a language get besides the configured limits. -/
structure PodRuntimeConfig where
  env : List (String × String) := []
  tmpSize : String := "10Mi"
  minCpu : String := "0"
  minMemory : String := "0"
  minTimeoutSeconds : Int := 0
deriving DecidableEq, Repr

/-- The pod's deadline: the configured timeout, raised to this language's
minimum. -/
def PodRuntimeConfig.timeoutFor (config : PodRuntimeConfig)
    (configured : Int) : Int :=
  max configured config.minTimeoutSeconds

/-- `POD_RUNTIME_CONFIGS`. -/
def podRuntimeConfigs : List (String × PodRuntimeConfig) :=
  [("python", {}), ("node", {}), ("ruby", {}), ("bash", {}),
    ("go",
      { env := [("HOME", "/tmp"), ("GOCACHE", "/tmp/go-cache")]
        tmpSize := "64Mi"
        minCpu := "1000m"
        minMemory := "320Mi"
        minTimeoutSeconds := 30 })]

/-- The configuration of a language, the default one where the registry has
none. -/
def podRuntimeConfig (language : String) : PodRuntimeConfig :=
  (podRuntimeConfigs.lookup language).getD {}

/-- Only Go has a configuration of its own. -/
theorem podRuntimeConfig_eq (language : String) :
    podRuntimeConfig language =
      if language = "go" then podRuntimeConfig "go" else {} := by
  split
  · next go => rw [go]
  · next other =>
      unfold podRuntimeConfig podRuntimeConfigs
      simp only [List.lookup_cons, List.lookup_nil]
      repeat' split
      all_goals simp_all

/-- The limits that a pod of a language gets. -/
structure LanguageLimitsDomain where
  cpuLimit : String
  memoryLimit : String
  executionTimeout : Int
deriving DecidableEq, Repr

/-- The image of a language's version, and the command that its container
runs. -/
structure RuntimeConfig where
  image : String
  fileName : String
  command : List String
deriving DecidableEq, Repr

structure LanguageSpec where
  versions : List String
  image : String → String
  fileExt : String
  interpreter : List String

/-- `LANGUAGE_SPECS`. -/
def languageSpecs : List (String × LanguageSpec) :=
  [("python",
      { versions := ["3.14", "3.13", "3.12", "3.11"]
        image := fun version => "python:" ++ version ++ "-slim"
        fileExt := "py"
        interpreter := ["python"] }),
    ("node",
      { versions := ["26", "24", "22"]
        image := fun version => "node:" ++ version ++ "-alpine"
        fileExt := "js"
        interpreter := ["node"] }),
    ("ruby",
      { versions := ["4.0", "3.4", "3.3"]
        image := fun version => "ruby:" ++ version ++ "-alpine"
        fileExt := "rb"
        interpreter := ["ruby"] }),
    ("bash",
      { versions := ["5.3"]
        image := fun version => "bash:" ++ version
        fileExt := "sh"
        interpreter := ["bash"] }),
    ("go",
      { versions := ["1.27", "1.26"]
        image := fun version => "golang:" ++ version ++ "-alpine"
        fileExt := "go"
        interpreter :=
          ["sh", "-c",
            "go build -o /tmp/main -ldflags=\"-s -w\" " ++
              "-gcflags=all=-dwarf=false \"$0\" && exec /tmp/main"] })]

/-- `RUNTIME_REGISTRY`: the runtime of a language's version, when it is
offered. -/
def runtimeRegistry (language version : String) : Option RuntimeConfig :=
  (languageSpecs.lookup language).bind fun spec =>
    if version ∈ spec.versions then
      let fileName := "main." ++ spec.fileExt
      some
        { image := spec.image version
          fileName := fileName
          command := spec.interpreter ++ ["/scripts/" ++ fileName] }
    else none

end Integr8s
