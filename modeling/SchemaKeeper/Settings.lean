import SchemaKeeper.Compatibility
import SchemaKeeper.Connection
import SchemaKeeper.Object

/-!
Settings: how convergence is paced, how clusters are contacted, which
connections there are and which objects are desired.
-/

namespace SchemaKeeper

/-- How convergence is paced; times are in seconds. -/
structure Runtime where
  operationTimeout : UInt64
  retryInterval : UInt64
  errorInterval : UInt64
  /-- The marker put on every object that is taken care of. -/
  finalizerName : String
  /-- How deep mapping trees are compared. -/
  maxMappingDepth : UInt64
  deriving DecidableEq, Repr

def Runtime.standard : Runtime where
  operationTimeout := 10
  retryInterval := 30
  errorInterval := 300
  finalizerName := "finalizer.elastic.essx.io"
  maxMappingDepth := Compatibility.defaultCeiling.toUInt64

instance : Inhabited Runtime :=
  ⟨Runtime.standard⟩

structure Tls where
  insecureSkipVerify : Bool
  deriving DecidableEq, Repr, Inhabited

def Tls.standard : Tls :=
  ⟨false⟩

structure Settings where
  runtime : Runtime
  tls : Tls
  /-- Web addresses under the names that objects refer to. -/
  connections : Table String
  objects : List Entry
  deriving DecidableEq, Repr

def Settings.standard : Settings :=
  ⟨.standard, .standard, .empty, []⟩

instance : Inhabited Settings :=
  ⟨Settings.standard⟩

end SchemaKeeper
