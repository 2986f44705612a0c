import CallProfile.Report
import CallProfile.Metric.Text
import CallProfile.ProfileError

namespace CallProfile

namespace Csv

def isSpecial (c : Char) : Bool := c = ',' || c = '"' || c = '\n' || c = '\r'

def doubleQuotes : List Char → List Char
  | [] => []
  | c :: rest => if c = '"' then '"' :: '"' :: doubleQuotes rest else c :: doubleQuotes rest

def field (content : List Char) : List Char :=
  if content.any isSpecial then '"' :: doubleQuotes content ++ ['"'] else content

/-- Fields with commas between them. A record of a single empty field is written as two quotes. -/
def record (fields : List String) : List Char :=
  if fields = [""] then ['"', '"', '\n']
  else [','].intercalate (fields.map fun content => field content.toList) ++ ['\n']

structure Uneven where
  fields : Nat
  expected : Nat
deriving DecidableEq

def Uneven.message (uneven : Uneven) : String :=
  "CSV error: found record with " ++ Decimal.natural uneven.fields ++ " fields, but the previous record has " ++
    Decimal.natural uneven.expected ++ " fields"

def text (records : List (List String)) : Except Uneven String :=
  let expected := (records.headD []).length
  match records.find? (·.length ≠ expected) with
  | some record => .error ⟨record.length, expected⟩
  | none => .ok (.ofList (records.flatMap record))

end Csv

namespace Report

def fixedColumns : List String := ["Name", "Device", "Depth"]

/-- The column of a metric, named so that it is not taken for a fixed one. -/
def metricColumn (name : String) : String :=
  if fixedColumns.contains name then "metric:" ++ name else name

def csvHeader (report : Report) : List String := fixedColumns ++ report.metricNames.map metricColumn

def csvRow (names : List String) (call : CallRecord) : List String :=
  [call.name, call.device.text, Decimal.natural call.depth.toNat] ++
    names.map fun name => ((call.metric? name).map Metric.plainText).getD ""

def csvRecords (report : Report) : List (List String) :=
  report.csvHeader :: report.calls.map (csvRow report.metricNames)

def csv (report : Report) : Except ProfileError String :=
  (Csv.text report.csvRecords).mapError fun uneven => .exportFailed uneven.message

end Report

end CallProfile
