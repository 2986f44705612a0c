import CallProfile.Failure
import CallProfile.Report.Csv
import CallProfile.Report.Document
import CallProfile.Report.Reading

namespace CallProfile.Report

variable {m : Type → Type} [Monad m]

def saveCsv (files : Files m) (path : String) (report : Report) : ExceptT Failure m Unit := do
  let table ← attempting [.renderCsv] .profile report.csv
  attempting [.writeFile path] .file (← files.write path table.toUTF8)

def save (files : Files m) (path : String) (report : Report) : ExceptT Failure m Unit := do
  attempting [.createFile path] .file (← files.write path report.toJson.toUTF8)

/-- The report of a file. A directory can be opened and only fails to be read. -/
def load (files : Files m) (path : String) : ExceptT Failure m Report := do
  match ← files.read path with
  | .error .isDirectory => throw ⟨[.parseReport path], .file .isDirectory⟩
  | .error error => throw ⟨[.openReport path], .file error⟩
  | .ok content => attempting [.parseReport path] .json (ofBytes content)

end CallProfile.Report
