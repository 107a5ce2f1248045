/-
Module: Integr8s.Infrastructure.Cluster
Purpose: The executor pods of the cluster, and what the API server does for
  the worker and the pod monitor.
Trusted boundary: human-reviewed spec
Main exports: Cluster, ClusterCommand, ClusterReply, Cluster.createPod,
  Cluster.deletePod, Cluster.perform
-/
import Integr8s.Domain.Exceptions
import Integr8s.Domain.Pods
import Integr8s.Lib.Collection
import Integr8s.Lib.PythonBytes
import Mathlib.Data.String.Basic

namespace Integr8s

/-- The pods that exist, by their names.  Besides, what no command reads: the
names of the pods that were created, newest first. -/
structure Cluster where
  pods : Collection PodName Pod := fun _ => none
  created : List PodName := []

/-- What the worker and the pod monitor await.  `report` is the next event of
the watch. -/
inductive ClusterCommand where
  | readEntrypoint
  | createConfigMap (name : String) (data : List (String × String))
  | createPod (name : PodName) (pod : Pod)
  | setConfigMapOwner (name : String) (owner : PodName)
  | deletePod (name : PodName)
  | readPodLog (name : PodName) (podNamespace : String) (limitBytes : Nat)
  | report (event : PodEvent)

abbrev ClusterReply : ClusterCommand → Type
  | .readEntrypoint => Option String
  | .createConfigMap .. => Unit
  | .createPod .. => Unit
  | .setConfigMapOwner .. => Unit
  | .deletePod _ => Unit
  | .readPodLog .. => PyBytes
  | .report _ => Unit

namespace Cluster

/-- Whether the API server can answer a command with this error.  Only a name
that is taken, or missing, is answered so. -/
def mayRaise : ClusterCommand → PyException → Bool
  | .createPod .., error => error != .apiException 409
  | .deletePod _, error => error != .apiException 404
  | .report _, _ => false
  | _, _ => true

/-- Create a pod; a name that is taken is a conflict. -/
def createPod (cluster : Cluster) (name : PodName) (pod : Pod) :
    Except PyException Unit × Cluster :=
  match cluster.pods name with
  | some _ => (.error (.apiException 409), cluster)
  | none =>
      (.ok (),
        { pods := cluster.pods.insert name pod
          created := name :: cluster.created })

/-- Delete a pod at once. -/
def deletePod (cluster : Cluster) (name : PodName) :
    Except PyException Unit × Cluster :=
  match cluster.pods name with
  | none => (.error (.apiException 404), cluster)
  | some _ => (.ok (), { cluster with pods := cluster.pods.delete name })

/-- A command that goes through, or that the API server refuses.  The
entrypoint's file and the log of a pod are what they are. -/
def perform (file : Option String) (podLog : PyBytes) (cluster : Cluster) :
    (command : ClusterCommand) →
      Except PyException (ClusterReply command) × Cluster
  | .readEntrypoint => (.ok file, cluster)
  | .createConfigMap .. => (.ok (), cluster)
  | .createPod name pod => cluster.createPod name pod
  | .setConfigMapOwner .. => (.ok (), cluster)
  | .deletePod name => cluster.deletePod name
  | .readPodLog _ _ limitBytes => (.ok (podLog.take limitBytes), cluster)
  | .report _ => (.ok (), cluster)

end Cluster

end Integr8s
