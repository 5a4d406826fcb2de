import SchemaKeeper.Rounds
import SchemaKeeper.Text.Grid

/-!
What a run shows: a grid with one row for each object, and lines for names that
nothing is known by.
-/

namespace SchemaKeeper.Command

open Text (Grid)

def nextCheck : Option UInt64 → String
  | some seconds => s!"in {seconds.toNat}s"
  | none => "-"

/-- An object without a status on record is pending. -/
def statusCells : Option Status → List String
  | none => ["Pending", "", ""]
  | some status =>
      [status.state.label, (status.code.map fun code => toString code.toNat).getD "",
        status.message]

def reportRow (report : Rounds.Report) : List String :=
  [report.kind.label, report.name] ++ statusCells report.status ++
    [report.marker.label, nextCheck report.recheck]

def reportGrid (reports : List Rounds.Report) : Grid where
  header := ["Kind", "Name", "State", "Code", "Message", "Marker", "Next check"]
  rows := reports.map reportRow

def verdictRow (verdict : Rounds.Verdict) : List String :=
  [verdict.kind.label, verdict.name,
    (verdict.refused.map Rounds.Refusal.message).getD "✅ admitted"]

def verdictGrid (verdicts : List Rounds.Verdict) : Grid where
  header := ["Kind", "Name", "Verdict"]
  rows := verdicts.map verdictRow

def missingLine (name : String) : String :=
  s!"🤷 `{name}` is not in the config or the state file"

def lines (items : List String) : String :=
  String.join (items.map (· ++ "\n"))

def applyText (reports : List Rounds.Report) : String :=
  lines [(reportGrid reports).render]

def deleteText (reports : List Rounds.Report) (missing : List String) : String :=
  lines ((reportGrid reports).render :: missing.map missingLine)

def validateText (verdicts : List Rounds.Verdict) : String :=
  lines [(verdictGrid verdicts).render]

end SchemaKeeper.Command
