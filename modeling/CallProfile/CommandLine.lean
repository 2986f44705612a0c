import CallProfile.CommandLine.Arguments
import CallProfile.CommandLine.Style
import CallProfile.Counter.Usage
import CallProfile.Report.Diff
import CallProfile.Report.File
import CallProfile.Report.Merge
import CallProfile.Report.Table
import CallProfile.Text.Padding

namespace CallProfile.CommandLine

structure Outcome where
  code : Nat
  output : String
  messages : String
deriving DecidableEq

structure Host (m : Type → Type) where
  files : Files m
  usage : m Usage
  styled : Bool

namespace Host

variable {m : Type → Type} (host : Host m)

def message (style : Style) (mark : String) (text : String) : String :=
  style.apply host.styled mark ++ " " ++ text ++ "\n"

def success (text : String) : Outcome := ⟨0, "", host.message .green "✓" text⟩

def failure (text : String) : Outcome := ⟨1, "", host.message .red "✗" text⟩

def warning (text : String) : String := host.message .yellow "⚠" text

def heading (text : String) : String := Style.bold.apply host.styled ("=== " ++ text ++ " ===") ++ "\n"

def change (microseconds : Float) (text : String) : String :=
  if 0.0 < microseconds then Style.red.apply host.styled text
  else if microseconds < 0.0 then Style.green.apply host.styled text
  else text

end Host

def microseconds (seconds : Float) : Float := seconds * 1000000.0

def onePlace (x : Float) : String := Decimal.Fixed.text ⟨1, false⟩ x

def onePlaceSigned (x : Float) : String := Decimal.Fixed.text ⟨1, true⟩ x

def diffSummary (diff : ReportDiff) : String :=
  "  Baseline: " ++ Decimal.natural diff.baselineCalls ++ " calls, " ++
    onePlace (microseconds diff.baselineSeconds) ++ "us | Comparison: " ++
    Decimal.natural diff.comparisonCalls ++ " calls, " ++ onePlace (microseconds diff.comparisonSeconds) ++ "us\n"

def diffLine (counts times : String × String) (change percent device name : String) : String :=
  "  " ++ " ".intercalate [Text.padLeft 8 counts.1, Text.padLeft 8 counts.2, Text.padLeft 12 times.1,
    Text.padLeft 12 times.2, change, percent] ++ "  " ++ Text.padRight 8 device ++ " " ++ name ++ "\n"

def diffHeader : String :=
  diffLine ("B.COUNT", "C.COUNT") ("B.TIME(us)", "C.TIME(us)") (Text.padLeft 12 "DELTA(us)")
    (Text.padLeft 8 "%") "DEVICE" "CALL"

variable {m : Type → Type}

def diffRow (host : Host m) (group : CallDiff) : String :=
  let delta := microseconds group.deltaSeconds
  diffLine (Decimal.natural group.baseline.count, Decimal.natural group.comparison.count)
    (onePlace (microseconds group.baseline.seconds), onePlace (microseconds group.comparison.seconds))
    (host.change delta (Text.padLeft 12 (onePlaceSigned delta)))
    (Text.padLeft 7 (onePlaceSigned group.deltaPercent) ++ "%") group.key.device.text group.key.name

def diffText (host : Host m) (diff : ReportDiff) (top : Nat) : String :=
  if diff.calls.isEmpty then "No calls in either report.\n"
  else
    let more := if top < diff.calls.length then
        "  ... " ++ Decimal.natural (diff.calls.length - top) ++ " more\n"
      else ""
    host.heading "Call Diff" ++ diffSummary diff ++ "\n" ++ diffHeader ++
      String.join ((diff.calls.take top).map (diffRow host)) ++ more

def tableOutcome (host : Host m) (path : String) (report : Report) (aggregate : Bool) : Outcome :=
  if report.calls.isEmpty then ⟨0, "", host.warning "Report contains no calls"⟩
  else
    let truncated := report.calls.countP CallRecord.isTruncated
    let messages := if 0 < truncated then
        host.warning (Decimal.natural truncated ++ " call(s) were truncated at finalize")
      else ""
    match report.table aggregate with
    | .ok text => ⟨0, host.heading path ++ text, messages⟩
    | .error panic => ⟨101, host.heading path, panic.message ++ "\n"⟩

def counterLine (name value : String) : String :=
  "  " ++ Text.padRight 24 name ++ " " ++ Text.padLeft 16 value ++ "\n"

def countersText (host : Host m) (device : Device) (names : List String) (values : List Count) : String :=
  host.heading (Usage.backendName ++ " counters on " ++ device.text) ++ counterLine "COUNTER" "CURRENT" ++
    String.join ((names.zip values).map fun entry => counterLine entry.1 (Decimal.natural entry.2.toNat))

variable [Monad m]

def mergeFiles (host : Host m) (paths : List String) : ExceptT Failure m Report :=
  paths.foldlM
    (fun merged path => do
      let report ← Report.load host.files path
      attempting [.mergeReport path] (fun clash => .profile (.incompatibleMetric clash)) (merged.merge report))
    .empty

def showCounters (host : Host m) (text : String) : ExceptT Failure m Outcome := do
  let device ← attempting [.parseDevice text] .device (Device.parse text)
  let names := Usage.available device
  if names.isEmpty then
    return ⟨0, "", host.warning
      ("Backend `" ++ Usage.backendName ++ "` exposes no counters on " ++ device.text)⟩
  else
    let values ← attempting [.readCounters device] .counter ((← host.usage).read device names)
    return ⟨0, countersText host device names values, ""⟩

def runCommand (host : Host m) : Command → ExceptT Failure m Outcome
  | .csv path none => do
    let report ← Report.load host.files path
    return ⟨0, ← attempting [.renderCsv] .profile report.csv, ""⟩
  | .csv path (some output) => do
    let report ← Report.load host.files path
    report.saveCsv host.files output
    return host.success ("Wrote " ++ Decimal.natural report.calls.length ++ " calls to " ++ output)
  | .table path aggregate => do
    return tableOutcome host path (← Report.load host.files path) aggregate
  | .merge paths output => do
    let merged ← mergeFiles host paths
    merged.save host.files output
    return host.success ("Merged " ++ Decimal.natural paths.length ++ " reports (" ++
      Decimal.natural merged.calls.length ++ " calls) into " ++ output)
  | .diff baseline comparison top => do
    let before ← Report.load host.files baseline
    let after ← Report.load host.files comparison
    return ⟨0, diffText host (before.diff after) top, ""⟩
  | .counters device => showCounters host device

def programName : String := "callscope"

def versionText : String := programName ++ " 0.1.0\n"

def usageText : String :=
  "Usage: " ++ programName ++ " [OPTIONS] <COMMAND>\n\nCommands:\n" ++
    String.join (Subcommand.all.map fun subcommand =>
      "  " ++ Text.padRight 8 subcommand.name ++ "  " ++ subcommand.summary ++ "\n")

def run (host : Host m) (arguments : List String) : m Outcome := do
  match request? arguments with
  | none => return ⟨2, "", usageText⟩
  | some .help => return ⟨0, usageText, ""⟩
  | some .version => return ⟨0, versionText, ""⟩
  | some (.run command) =>
    match ← (runCommand host command).run with
    | .ok outcome => return outcome
    | .error failure => return host.failure failure.message

end CallProfile.CommandLine
