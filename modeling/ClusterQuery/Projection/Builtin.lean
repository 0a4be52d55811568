import ClusterQuery.Text.Ascii

/-!
The kinds that are known without asking the cluster: the names that their resource answers to and the columns
that are shown of it. All begin with the name, in namespaces with the namespace before it, and end with the
time of creation.
-/

namespace ClusterQuery

/-- A column of a table: its title and the expression that fills it. -/
structure TableField where
  title : String
  expression : String
deriving DecidableEq, Inhabited

/-- A known kind. -/
structure KnownKind where
  name : String
  /-- The names of its resource, in lower case. -/
  resources : List String
  namespaced : Bool := true
  /-- The columns of its own. -/
  fields : List (String × String) := []

namespace KnownKind

/-- The columns of the kind. -/
def columns (k : KnownKind) : List TableField :=
  let leading := if k.namespaced then [("NAMESPACE", "namespace"), ("NAME", "name")] else [("NAME", "name")]
  (leading ++ k.fields ++ [("CREATED", "created")]).map fun (title, expression) => ⟨title, expression⟩

end KnownKind

/-- The known kinds. -/
def builtinKinds : List KnownKind :=
  [{ name := "Pod", resources := ["pods", "pod", "po"],
     fields := [("STATUS", "status.phase"), ("RESTARTS", "sum(status.containerStatuses[*].restartCount)"),
       ("NODE", "spec.nodeName")] },
   { name := "Deployment", resources := ["deployments", "deployment", "deploy"],
     fields := [("REPLICAS", "status.replicas"), ("READY", "status.readyReplicas"),
       ("AVAILABLE", "status.availableReplicas")] },
   { name := "StatefulSet", resources := ["statefulsets", "statefulset", "sts"],
     fields := [("REPLICAS", "status.replicas"), ("READY", "status.readyReplicas")] },
   { name := "DaemonSet", resources := ["daemonsets", "daemonset", "ds"],
     fields := [("DESIRED", "status.desiredNumberScheduled"), ("CURRENT", "status.currentNumberScheduled"),
       ("READY", "status.numberReady")] },
   { name := "Service", resources := ["services", "service", "svc"],
     fields := [("TYPE", "spec.type"), ("CLUSTER_IP", "spec.clusterIP"), ("PORTS", "spec.ports[*].port")] },
   { name := "Ingress", resources := ["ingresses", "ingress", "ing"],
     fields := [("CLASS", "spec.ingressClassName"), ("HOSTS", "spec.rules[*].host")] },
   { name := "Job", resources := ["jobs", "job"],
     fields := [("COMPLETIONS", "spec.completions"), ("SUCCEEDED", "status.succeeded")] },
   { name := "CronJob", resources := ["cronjobs", "cronjob", "cj"],
     fields := [("SCHEDULE", "spec.schedule"), ("SUSPEND", "spec.suspend"),
       ("LAST_SCHEDULE", "status.lastScheduleTime")] },
   { name := "ConfigMap", resources := ["configmaps", "configmap", "cm"] },
   { name := "Secret", resources := ["secrets", "secret"], fields := [("TYPE", "type")] },
   { name := "PersistentVolumeClaim", resources := ["persistentvolumeclaims", "persistentvolumeclaim", "pvc"],
     fields := [("STATUS", "status.phase"), ("VOLUME", "spec.volumeName"), ("CAPACITY", "status.capacity.storage"),
       ("STORAGECLASS", "spec.storageClassName")] },
   { name := "Node", resources := ["nodes", "node", "no"], namespaced := false,
     fields := [("VERSION", "status.nodeInfo.kubeletVersion"), ("OS_IMAGE", "status.nodeInfo.osImage")] },
   { name := "Namespace", resources := ["namespaces", "namespace", "ns"], namespaced := false,
     fields := [("STATUS", "status.phase")] },
   { name := "VirtualMachine", resources := ["virtualmachines", "virtualmachine", "vm", "vms"],
     fields := [("RUNNING", "spec.running"), ("READY", "status.ready")] },
   { name := "VirtualMachineInstance",
     resources := ["virtualmachineinstances", "virtualmachineinstance", "vmi", "vmis"],
     fields := [("PHASE", "status.phase"), ("NODE", "status.nodeName")] },
   { name := "VirtualMachineInstanceReplicaSet",
     resources := ["virtualmachineinstancereplicasets", "virtualmachineinstancereplicaset", "vmirs", "vmirss"],
     fields := [("REPLICAS", "spec.replicas"), ("READY", "status.readyReplicas")] },
   { name := "VirtualMachineInstanceMigration",
     resources := ["virtualmachineinstancemigrations", "virtualmachineinstancemigration", "vmim", "vmims"],
     fields := [("VM", "spec.vmiName"), ("PHASE", "status.phase")] },
   { name := "DataVolume", resources := ["datavolumes", "datavolume", "dv", "dvs"],
     fields := [("PHASE", "status.phase"), ("PROGRESS", "status.progress"),
       ("STORAGECLASS", "spec.pvc.storageClassName")] },
   { name := "CDI", resources := ["cdis", "cdi"], namespaced := false, fields := [("PHASE", "status.phase")] },
   { name := "CDIConfig", resources := ["cdiconfigs", "cdiconfig"], namespaced := false,
     fields := [("SCRATCH_CLASS", "spec.scratchSpaceStorageClass"),
       ("UPLOAD_URL", "spec.uploadProxyURLOverride")] },
   { name := "Provider", resources := ["providers", "provider"],
     fields := [("TYPE", "spec.type"), ("URL", "spec.url")] },
   { name := "Plan", resources := ["plans", "plan"],
     fields := [("SOURCE", "spec.provider.source.name"), ("DESTINATION", "spec.provider.destination.name")] },
   { name := "Migration", resources := ["migrations", "migration"],
     fields := [("PLAN", "spec.plan.name"), ("PHASE", "status.phase")] }]

/-- The columns of a known kind. -/
def builtinColumns? (kind : String) : Option (List TableField) :=
  (builtinKinds.find? fun k => k.name == kind).map KnownKind.columns

/-- The columns of kinds that nothing else describes. -/
def fallbackColumns : List TableField :=
  [⟨"NAMESPACE", "namespace"⟩, ⟨"NAME", "name"⟩, ⟨"PHASE", "status.phase"⟩,
    ⟨"CREATION_TIME(RFC3339)", "created"⟩]

/-- The known kind of a resource, by any name of it in any case. -/
def kindOfResource? (resource : String) : Option String :=
  (builtinKinds.find? fun k => k.resources.contains (lowerName resource)).map KnownKind.name

end ClusterQuery
