import TokenDesk.Run.Failure
import TokenDesk.Summary.Csv

/-!
# Summarizing reports

One run turns the report log of a network into comma-separated lines.
-/

set_option autoImplicit false

namespace TokenDesk.Summary

/-- Writes the summary of entries to a file. -/
def write {σ : Type} (entries : List Json) (path : String) : Run σ Failure Unit :=
  (Run.change fun disk f => f.writeOn disk path (Text.octets (csv (entries.map row)))).mapError
    (.summary path)

/-- Summarizes the report log of a network and tells how many rows there are. -/
def run {σ : Type} (w : Workspace) (network path : String) : Run σ Failure Nat := do
  let entries ← (Run.look (w.rawReportLog network).load).mapError .log
  write entries path
  return entries.length

end TokenDesk.Summary
