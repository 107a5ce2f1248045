/-
Module: Integr8s.Domain.Pods
Purpose: The pods that the cluster reports: their metadata, their specification
  and the states of their containers.
Trusted boundary: human-reviewed spec
Main exports: Pod, ObjectMeta, Container, PodSpec, PodStatus, ContainerStatus, ContainerState,
  WatchEventType, PodEvent
-/
import Integr8s.Domain.Events

namespace Integr8s

structure ContainerStateTerminated where
  exitCode : Int32
  reason : Option String := none
  message : Option String := none
deriving DecidableEq, Repr

structure ContainerStateWaiting where
  reason : Option String := none
  message : Option String := none
deriving DecidableEq, Repr

structure ContainerState where
  running : Bool := false
  terminated : Option ContainerStateTerminated := none
  waiting : Option ContainerStateWaiting := none
deriving DecidableEq, Repr

structure ContainerStatus where
  name : String
  ready : Bool := false
  restartCount : Int32 := 0
  state : Option ContainerState := none
deriving DecidableEq, Repr

structure PodCondition where
  type : String
  status : String
deriving DecidableEq, Repr

structure PodStatus where
  phase : String
  reason : Option String := none
  message : Option String := none
  conditions : List PodCondition := []
  containerStatuses : List ContainerStatus := []
deriving DecidableEq, Repr

/-- What a container asks for, and what it may use at most. -/
structure ResourceRequirements where
  cpuRequest : String
  memoryRequest : String
  cpuLimit : String
  memoryLimit : String
deriving DecidableEq, Repr

structure Container where
  name : String
  image : String
  command : List String
  resources : ResourceRequirements
  env : List (String × String) := []
deriving DecidableEq, Repr

/-- The volume that is mounted as `/tmp` is given by its size. -/
structure PodSpec where
  nodeName : Option String := none
  containers : List Container := []
  activeDeadlineSeconds : Option Int := none
  tmpSizeLimit : Option String := none
deriving DecidableEq, Repr

structure ObjectMeta where
  name : PodName
  «namespace» : Option String := none
  labels : List (String × String) := []
  annotations : List (String × String) := []
deriving DecidableEq, Repr

/-- A pod as the API server reports it. -/
structure Pod where
  metadata : Option ObjectMeta := none
  spec : PodSpec := {}
  status : Option PodStatus := none
deriving DecidableEq, Repr

/-- Kubernetes watch event types. -/
inductive WatchEventType where
  | added
  | modified
  | deleted
deriving DecidableEq, Repr

/-- What the watch reports: a pod as it was, and what happened to it. -/
structure PodEvent where
  eventType : WatchEventType
  pod : Pod
deriving DecidableEq, Repr

end Integr8s
