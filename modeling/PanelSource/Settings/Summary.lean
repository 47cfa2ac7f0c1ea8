import PanelSource.Text.Quoted

/- Lines that tell which settings are in force. -/
namespace PanelSource

/-- A message and named fields, each with its text as it is shown. -/
structure SummaryLine where
  message : String
  fields : List (String × String) := []
  deriving DecidableEq, Repr, Inhabited

def SummaryLine.text (l : SummaryLine) : String :=
  l.message ++ String.join (l.fields.map fun f => " " ++ f.1 ++ "=" ++ f.2)

end PanelSource
