import CallProfile.Decimal.Natural

namespace CallProfile.CommandLine

inductive Command where
  | csv (report : String) (output : Option String)
  | table (report : String) (aggregate : Bool)
  | merge (reports : List String) (output : String)
  | diff (baseline comparison : String) (top : Nat)
  | counters (device : String)
deriving DecidableEq

inductive Request where
  | run (command : Command)
  | help
  | version
deriving DecidableEq

inductive OptionName where
  | verbose | help | version | output | noAggregate | top | device
deriving DecidableEq

namespace OptionName

def long : OptionName → String
  | verbose => "verbose"
  | help => "help"
  | version => "version"
  | output => "output"
  | noAggregate => "no-aggregate"
  | top => "top"
  | device => "device"

def short? : OptionName → Option Char
  | verbose => some 'v'
  | help => some 'h'
  | version => some 'V'
  | output => some 'o'
  | noAggregate => none
  | top => some 'n'
  | device => some 'd'

def isValued : OptionName → Bool
  | output | top | device => true
  | verbose | help | version | noAggregate => false

end OptionName

inductive Subcommand where
  | csv | table | merge | diff | counters
deriving DecidableEq

namespace Subcommand

def all : List Subcommand := [csv, table, merge, diff, counters]

def name : Subcommand → String
  | csv => "csv"
  | table => "table"
  | merge => "merge"
  | diff => "diff"
  | counters => "counters"

def named? (name : String) : Option Subcommand := all.find? fun subcommand => subcommand.name = name

def summary : Subcommand → String
  | csv => "Export a report as CSV"
  | table => "Print a report as a table"
  | merge => "Merge several reports into one"
  | diff => "Compare two reports"
  | counters => "List the counters that can be read"

end Subcommand

structure Shape where
  options : List OptionName
  mostFiles : Option Nat
  fewestTogether : Nat

def topShape : Shape := ⟨[.verbose, .help, .version], some 0, 1⟩

def Subcommand.shape : Subcommand → Shape
  | csv => ⟨[.verbose, .help, .output], some 1, 1⟩
  | table => ⟨[.verbose, .help, .noAggregate], some 1, 1⟩
  | merge => ⟨[.verbose, .help, .output], none, 2⟩
  | diff => ⟨[.verbose, .help, .top], some 2, 1⟩
  | counters => ⟨[.verbose, .help, .device], some 0, 1⟩

namespace Shape

def findShort? (shape : Shape) (letter : Char) : Option OptionName :=
  shape.options.find? fun option => option.short? = some letter

def findLong? (shape : Shape) (name : String) : Option OptionName :=
  shape.options.find? fun option => option.long = name

end Shape

inductive Argument where
  | plain (text : String)
  | separator
  | long (name : String) (value : Option String)
  | short (letters : List Char)
deriving DecidableEq

def splitEquals : List Char → List Char × Option (List Char)
  | [] => ([], none)
  | '=' :: rest => ([], some rest)
  | c :: rest => (c :: (splitEquals rest).1, (splitEquals rest).2)

def Argument.ofText (text : String) : Argument :=
  match text.toList with
  | ['-', '-'] => separator
  | '-' :: '-' :: rest => long (.ofList (splitEquals rest).1) ((splitEquals rest).2.map .ofList)
  | '-' :: c :: rest => short (c :: rest)
  | _ => plain text

inductive Stop where
  | usage
  | help
  | version
deriving DecidableEq

structure Reading where
  flags : List OptionName
  values : List (OptionName × String)
  files : List String
  together : List String
  awaiting : Option OptionName
  literal : Bool

namespace Reading

def empty : Reading := ⟨[], [], [], [], none, false⟩

def number? (text : String) : Option Nat :=
  let run := match text.toList with
    | '+' :: run => run
    | run => run
  (Decimal.natural? run).bind fun number => if number < UInt64.size then some number else none

def accepts : OptionName → String → Bool
  | .output, text => text ≠ ""
  | .top, text => (number? text).isSome
  | _, _ => true

/-- Ends the files that stand together, and refuses an option that still lacks its value. -/
def settle (shape : Shape) (reading : Reading) : Except Stop Reading :=
  if reading.awaiting.isSome then .error .usage
  else if reading.together.isEmpty then .ok reading
  else if reading.together.length < shape.fewestTogether then .error .usage
  else .ok { reading with files := reading.files ++ reading.together, together := [] }

def setFlag (shape : Shape) (reading : Reading) (option : OptionName) : Except Stop Reading := do
  let reading ← reading.settle shape
  match option with
  | .help => throw .help
  | .version => throw .version
  | option => if reading.flags.contains option then throw .usage else return { reading with flags := option :: reading.flags }

def setValue (shape : Shape) (reading : Reading) (option : OptionName) (value : String) : Except Stop Reading := do
  let reading ← reading.settle shape
  if !accepts option value ∨ (reading.values.lookup option).isSome then throw .usage
  else return { reading with values := (option, value) :: reading.values }

def await (shape : Shape) (reading : Reading) (option : OptionName) : Except Stop Reading := do
  return { (← reading.settle shape) with awaiting := some option }

/-- Takes options of one letter each, of which the last may have a value. -/
def addShort (shape : Shape) (reading : Reading) : List Char → Except Stop Reading
  | [] => .ok reading
  | letter :: rest =>
    match shape.findShort? letter with
    | none => .error .usage
    | some option =>
      if option.isValued then
        match rest with
        | [] => await shape reading option
        | '=' :: value => setValue shape reading option (.ofList value)
        | value => setValue shape reading option (.ofList value)
      else do
        let reading ← setFlag shape reading option
        addShort shape reading rest

def addLong (shape : Shape) (reading : Reading) (name : String) (value : Option String) :
    Except Stop Reading :=
  match shape.findLong? name, value with
  | none, _ => .error .usage
  | some option, some value =>
    if option.isValued then setValue shape reading option value else .error .usage
  | some option, none =>
    if option.isValued then await shape reading option else setFlag shape reading option

def addFile (shape : Shape) (reading : Reading) (path : String) : Except Stop Reading :=
  let count := reading.files.length + reading.together.length
  if reading.awaiting.isSome ∨ path = "" then .error .usage
  else match shape.mostFiles with
    | none => .ok { reading with together := reading.together ++ [path] }
    | some most => if count < most then .ok { reading with files := reading.files ++ [path] } else .error .usage

def add (shape : Shape) (reading : Reading) (text : String) : Except Stop Reading :=
  if reading.literal then addFile shape reading text
  else match Argument.ofText text, reading.awaiting with
    | .plain text, some option => setValue shape { reading with awaiting := none } option text
    | .plain text, none => addFile shape reading text
    | .separator, _ => .ok { reading with literal := true }
    | .long name value, _ => addLong shape reading name value
    | .short letters, _ => addShort shape reading letters

def addAll (shape : Shape) (reading : Reading) (arguments : List String) : Except Stop Reading := do
  (← arguments.foldlM (add shape) reading).settle shape

def value? (reading : Reading) (option : OptionName) : Option String := reading.values.lookup option

def defaultTop : Nat := 20

def defaultDevice : String := "cpu:0"

def command? (reading : Reading) (subcommand : Subcommand) : Option Command :=
  match subcommand, reading.files with
  | .csv, [report] => some (.csv report (reading.value? .output))
  | .table, [report] => some (.table report (!reading.flags.contains .noAggregate))
  | .merge, [] => none
  | .merge, reports => (reading.value? .output).map (.merge reports)
  | .diff, [baseline, comparison] =>
    some (.diff baseline comparison (((reading.value? .top).bind number?).getD defaultTop))
  | .counters, [] => some (.counters ((reading.value? .device).getD defaultDevice))
  | _, _ => none

end Reading

def readCommand (subcommand : Subcommand) (arguments : List String) : Except Stop Command := do
  let reading ← Reading.addAll subcommand.shape .empty arguments
  match reading.command? subcommand with
  | some command => return command
  | none => throw .usage

def helpName : String := "help"

def isTopic : List String → Bool
  | [] => true
  | [name] => name = helpName || (Subcommand.named? name).isSome
  | _ => false

def readFrom (reading : Reading) : List String → Except Stop Command
  | [] => .error .usage
  | text :: rest =>
    match Argument.ofText text with
    | .plain name =>
      match Subcommand.named? name with
      | some subcommand => readCommand subcommand rest
      | none => .error (if name = helpName ∧ isTopic rest then .help else .usage)
    | .separator => .error .usage
    | _ => do readFrom (← reading.add topShape text) rest

def request? (arguments : List String) : Option Request :=
  match readFrom .empty arguments with
  | .ok command => some (.run command)
  | .error .help => some .help
  | .error .version => some .version
  | .error .usage => none

end CallProfile.CommandLine
