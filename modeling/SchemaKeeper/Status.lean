/-!
Verdicts on convergence: the state an object is in, the HTTP status code the
verdict rests on, and a message.
-/

namespace SchemaKeeper

inductive State where
  /-- The cluster holds what is desired. -/
  | created
  /-- Trouble that may pass; look again soon. -/
  | retry
  /-- Trouble that stays until somebody changes the desired object. -/
  | error
  deriving DecidableEq, Repr, Inhabited

def State.label : State → String
  | .created => "Created"
  | .retry => "Retry"
  | .error => "Error"

structure Status where
  state : State
  /-- Absent when no answer from a cluster stands behind the verdict. -/
  code : Option UInt16
  message : String
  deriving DecidableEq, Repr, Inhabited

namespace Status

def created (code : Option UInt16) (message : String) : Status :=
  ⟨.created, code, message⟩

def retry (message : String) : Status :=
  ⟨.retry, none, message⟩

def error (message : String) : Status :=
  ⟨.error, none, message⟩

def leadingDigit (n : Nat) : Nat :=
  if n < 10 then n else leadingDigit (n / 10)

/-- Codes that begin with 2 are success, with 4 a refusal; all else may pass. -/
def stateOf (code : UInt16) : State :=
  match leadingDigit code.toNat with
  | 2 => .created
  | 4 => .error
  | _ => .retry

def classify (code : UInt16) (message : String) : Status :=
  ⟨stateOf code, some code, message⟩

def isSuccess (code : UInt16) : Bool :=
  stateOf code == .created

/--
Whether a new verdict replaces the recorded one: when the state changed, or
when the message changed and the recorded state is not `created`.
-/
def supersedes (next : Status) : Option Status → Bool
  | none => true
  | some prior =>
      prior.state != next.state || (prior.state != .created && prior.message != next.message)

end Status

end SchemaKeeper
