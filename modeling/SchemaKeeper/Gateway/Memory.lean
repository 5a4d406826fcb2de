import SchemaKeeper.Gateway.Cluster
import SchemaKeeper.Reconciliation

/-!
Connecting to a cluster held in memory: every connection leads to the same
cluster, or connecting fails in a way that was set beforehand.
-/

namespace SchemaKeeper

structure Memory where
  cluster : Cluster
  /-- How connecting fails, if it is to fail. -/
  failure : Option ConnectError

namespace Memory

def ofCluster (cluster : Cluster) : Memory :=
  ⟨cluster, none⟩

/-- A call goes to the cluster even while connecting fails. -/
def answer (c : Call) (memory : Memory) : Except RemoteError c.Answer × Memory :=
  let (found, cluster) := memory.cluster.answer c
  (found, { memory with cluster })

def connector : Connector Memory where
  Gateway := Unit
  connect _ memory :=
    match memory.failure with
    | some failure => (.error failure, memory)
    | none => (.ok (), memory)
  answer _ c memory := memory.answer c

end Memory

end SchemaKeeper
