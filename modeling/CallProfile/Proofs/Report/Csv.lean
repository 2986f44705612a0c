import Mathlib.Data.List.Nodup
import CallProfile.Proofs.SortedMap
import CallProfile.Report.Csv

namespace CallProfile

namespace Csv

/-- Where a reader stands in a field: before it, within it, or behind a quote that may have closed it. -/
inductive Place where
  | start
  | bare
  | quoted
  | closed
deriving DecidableEq

structure Remainder where
  content : List Char
  fields : List (List Char)
  records : List (List (List Char))

namespace Remainder

def last : Remainder := ⟨[], [], []⟩

def behind (read : List Char) (remainder : Remainder) : Remainder :=
  { remainder with content := read ++ remainder.content }

def afterComma (remainder : Remainder) : Remainder := ⟨[], remainder.content :: remainder.fields, remainder.records⟩

def afterLine (remainder : Remainder) : Remainder :=
  ⟨[], [], (remainder.content :: remainder.fields) :: remainder.records⟩

@[simp] theorem behind_nil : behind [] = id := by
  funext remainder
  rfl

@[simp] theorem behind_behind (front back : List Char) (remainder : Remainder) :
    (remainder.behind back).behind front = remainder.behind (front ++ back) := by
  simp [behind]

end Remainder

/-- Reads a text from a place on. A carriage return belongs to a line feed, and quotes enclose whole fields. -/
def scan : Place → List Char → Option Remainder
  | place, [] => if place = .quoted then none else some .last
  | place, c :: text =>
    if place = .quoted then if c = '"' then scan .closed text else (scan .quoted text).map (.behind [c])
    else if c = ',' then (scan .start text).map .afterComma
    else if c = '\n' then if text.isEmpty then some .last else (scan .start text).map .afterLine
    else if c = '\r' then if text.head? = some '\n' then scan place text else none
    else if c = '"' then
      if place = .start then scan .quoted text
      else if place = .closed then (scan .quoted text).map (.behind ['"'])
      else none
    else if place = .closed then none
    else (scan .bare text).map (.behind [c])

def recordsOf (text : List Char) : Option (List (List (List Char))) :=
  if text.isEmpty then some [] else (scan .start text).map fun remainder => remainder.afterLine.records

/-- The records of a text, or nothing if it is no such text. -/
def read (text : String) : Option (List (List String)) :=
  (recordsOf text.toList).map fun records => records.map (·.map .ofList)

def EndsField (text : List Char) : Prop := ∃ rest, text = ',' :: rest ∨ text = '\n' :: rest

theorem scan_of_endsField {text : List Char} (ends : EndsField text) {place : Place} (outside : place ≠ .quoted) :
    scan place text = scan .bare text := by
  obtain ⟨rest, rfl | rfl⟩ := ends <;> simp [scan, outside]

theorem scan_plainChar {c : Char} (plain : isSpecial c = false) {place : Place}
    (before : place = .start ∨ place = .bare) (text : List Char) : scan place (c :: text) = (scan .bare text).map (.behind [c]) := by
  simp only [isSpecial, Bool.or_eq_false_iff, decide_eq_false_iff_not] at plain
  obtain ⟨⟨⟨comma, quote⟩, line⟩, feed⟩ := plain
  rcases before with rfl | rfl <;> simp [scan, comma, quote, line, feed]

theorem scan_plain {content : List Char} (plain : content.any isSpecial = false) (text : List Char) :
    scan .bare (content ++ text) = (scan .bare text).map (.behind content) := by
  induction content with
  | nil => simp
  | cons c rest ih =>
    obtain ⟨here, others⟩ := Bool.or_eq_false_iff.mp plain
    rw [List.cons_append, scan_plainChar here (.inr rfl), ih others, Option.map_map]
    simp [Function.comp_def]

theorem scan_doubleQuotes (content text : List Char) :
    scan .quoted (doubleQuotes content ++ '"' :: text) = (scan .closed text).map (.behind content) := by
  induction content with
  | nil => simp [doubleQuotes, scan]
  | cons c rest ih =>
    rw [doubleQuotes]
    by_cases quote : c = '"'
    · subst quote
      have doubled : scan .quoted ('"' :: '"' :: (doubleQuotes rest ++ '"' :: text)) =
          (scan .quoted (doubleQuotes rest ++ '"' :: text)).map (.behind ['"']) := by
        simp [scan]
      rw [if_pos rfl, List.cons_append, List.cons_append, doubled, ih, Option.map_map]
      simp [Function.comp_def]
    · rw [if_neg quote, List.cons_append, scan, if_pos rfl, if_neg quote, ih, Option.map_map]
      simp [Function.comp_def]

theorem scan_field (content : List Char) {text : List Char} (ends : EndsField text) :
    scan .start (field content ++ text) = (scan .bare text).map (.behind content) := by
  rw [field]
  cases special : content.any isSpecial with
  | true =>
    have opened : scan .start ('"' :: (doubleQuotes content ++ '"' :: text)) =
        scan .quoted (doubleQuotes content ++ '"' :: text) := by
      simp [scan]
    simp only [if_true, List.cons_append, List.append_assoc, List.nil_append]
    rw [opened, scan_doubleQuotes, scan_of_endsField ends (by nofun)]
  | false =>
    simp only [Bool.false_eq_true, if_false]
    cases content with
    | nil =>
      rw [List.nil_append, scan_of_endsField ends (by nofun)]
      simp
    | cons c rest =>
      obtain ⟨here, others⟩ := Bool.or_eq_false_iff.mp special
      rw [List.cons_append, scan_plainChar here (.inl rfl), scan_plain others, Option.map_map]
      simp [Function.comp_def]

theorem scan_line (text : List Char) :
    scan .bare ('\n' :: text) = (recordsOf text).map fun records => ⟨[], [], records⟩ := by
  rw [recordsOf]
  by_cases empty : text.isEmpty
  · simp [scan, empty, Remainder.last]
  · simp only [scan, empty, reduceCtorEq, if_false, if_true, Char.reduceEq, Bool.false_eq_true, Option.map_map]
    rfl

theorem scan_fields (first : List Char) (rest : List (List Char)) (text : List Char) :
    scan .start ([','].intercalate ((first :: rest).map field) ++ '\n' :: text) =
      (recordsOf text).map fun records => ⟨first, rest, records⟩ := by
  induction rest generalizing first with
  | nil =>
    rw [List.map_singleton, List.intercalate_singleton, scan_field first ⟨text, .inr rfl⟩, scan_line]
    simp [Function.comp_def, Remainder.behind]
  | cons second others ih =>
    have parts : [','].intercalate ((first :: second :: others).map field) ++ '\n' :: text =
        field first ++ ',' :: ([','].intercalate ((second :: others).map field) ++ '\n' :: text) := by
      rw [List.map_cons, List.map_cons, List.intercalate_cons_cons]
      simp
    have comma (later : List Char) : scan .bare (',' :: later) = (scan .start later).map .afterComma := by
      simp [scan]
    rw [parts, scan_field first ⟨_, .inl rfl⟩, comma, ih second]
    simp [Function.comp_def, Remainder.behind, Remainder.afterComma]

theorem recordsOf_record {fields : List String} (some : fields ≠ []) (text : List Char) :
    recordsOf (record fields ++ text) = (recordsOf text).map ((fields.map (·.toList)) :: ·) := by
  obtain ⟨first, rest, rfl⟩ := List.exists_cons_of_ne_nil some
  rw [record]
  by_cases alone : first :: rest = [""]
  · cases alone
    have closed : scan .start ('"' :: '"' :: '\n' :: text) = scan .closed ('\n' :: text) := by simp [scan]
    rw [if_pos rfl, recordsOf]
    simp only [List.cons_append, List.nil_append, List.isEmpty_cons, Bool.false_eq_true, if_false]
    rw [closed, scan_of_endsField ⟨text, .inr rfl⟩ (by nofun), scan_line]
    simp [Function.comp_def, Remainder.afterLine]
  · have written : [','].intercalate ((first :: rest).map fun content => field content.toList) ++ ['\n'] ++ text =
        [','].intercalate ((first.toList :: rest.map (·.toList)).map field) ++ '\n' :: text := by
      simp [Function.comp_def]
    rw [if_neg alone, written, recordsOf, if_neg (by simp), scan_fields]
    simp [Function.comp_def, Remainder.afterLine]

theorem recordsOf_flatMap {records : List (List String)} (some : ∀ fields ∈ records, fields ≠ []) :
    recordsOf (records.flatMap record) = .some (records.map (·.map (·.toList))) := by
  induction records with
  | nil => rfl
  | cons fields rest ih =>
    rw [List.flatMap_cons, recordsOf_record (some fields List.mem_cons_self),
      ih fun other member => some other (List.mem_cons_of_mem _ member)]
    rfl

theorem text_of_even {records : List (List String)} {width : Nat}
    (even : ∀ fields ∈ records, fields.length = width) : text records = .ok (.ofList (records.flatMap record)) := by
  have alike : records.find? (·.length ≠ (records.headD []).length) = none := by
    rw [List.find?_eq_none]
    intro fields member
    cases records with
    | nil => cases member
    | cons first rest => simp [even fields member, even first List.mem_cons_self]
  rw [text]
  simp only [alike]

theorem read_text {records : List (List String)} (some : ∀ fields ∈ records, fields ≠ []) :
    read (.ofList (records.flatMap record)) = .some records := by
  rw [read, String.toList_ofList, recordsOf_flatMap some]
  simp [Function.comp_def]

end Csv

namespace Report

theorem mem_metricNames_iff (report : Report) (name : String) :
    name ∈ report.metricNames ↔ ∃ call ∈ report.calls, call.metrics.contains name := by
  rw [metricNames, SortedMap.ofList, SortedMap.mem_keys_iff, SortedMap.get?_insertAll_map]
  simp only [SortedMap.get?_empty, SortedMap.contains_iff_mem_keys]
  split
  next listed => simpa using listed
  next absent => simpa using absent

theorem metricNames_ascending (report : Report) :
    report.metricNames.Pairwise (fun before after => compare before after = .lt) :=
  List.pairwise_map.mpr (SortedMap.ascending _)

theorem length_of_mem_csvRecords {report : Report} {fields : List String} (member : fields ∈ report.csvRecords) :
    fields.length = 3 + report.metricNames.length := by
  rw [csvRecords] at member
  rcases List.mem_cons.mp member with rfl | member
  · rw [csvHeader, List.length_append, List.length_map]
    rfl
  · obtain ⟨call, -, rfl⟩ := List.mem_map.mp member
    rw [csvRow, List.length_append, List.length_map]
    rfl

/--
A report is always written, and what is read back are the cells that it was made of: the columns in the order
of their metrics, and for each call a value in every column, which is empty where the call has none.
-/
theorem csv_reads_back (report : Report) :
    (∃ text records, report.csv = .ok text ∧ Csv.read text = some records ∧
        records = (["Name", "Device", "Depth"] ++ report.metricNames.map metricColumn) ::
          report.calls.map (fun call =>
            [call.name, call.device.text, Decimal.natural call.depth.toNat] ++
              report.metricNames.map fun name => ((call.metric? name).map Metric.plainText).getD "") ∧
        records.length = 1 + report.calls.length ∧
        ∀ fields ∈ records, fields.length = 3 + report.metricNames.length) ∧
      report.metricNames.Pairwise (fun before after => compare before after = .lt) ∧
      ∀ name, name ∈ report.metricNames ↔ ∃ call ∈ report.calls, call.metrics.contains name := by
  have even : ∀ fields ∈ report.csvRecords, fields.length = 3 + report.metricNames.length :=
    fun fields member => length_of_mem_csvRecords member
  have some : ∀ fields ∈ report.csvRecords, fields ≠ [] := by
    intro fields member empty
    have length := even fields member
    rw [empty, List.length_nil] at length
    omega
  have written : report.csv = .ok (.ofList (report.csvRecords.flatMap Csv.record)) := by
    rw [csv, Csv.text_of_even even]
    rfl
  have counted : report.csvRecords.length = 1 + report.calls.length := by
    rw [csvRecords, List.length_cons, List.length_map]
    omega
  exact ⟨⟨_, report.csvRecords, written, Csv.read_text some, rfl, counted, even⟩, report.metricNames_ascending,
    report.mem_metricNames_iff⟩

def Carries (report : Report) (name : String) : Prop := ∃ call ∈ report.calls, call.metrics.contains name

theorem metricColumn_of_fixed {name : String} (fixed : name ∈ fixedColumns) : metricColumn name = "metric:" ++ name :=
  if_pos (List.contains_iff_mem.mpr fixed)

theorem metricColumn_of_free {name : String} (free : name ∉ fixedColumns) : metricColumn name = name :=
  if_neg fun fixed => free (List.contains_iff_mem.mp fixed)

theorem prefixed_not_fixed (name : String) : "metric:" ++ name ∉ fixedColumns := by
  intro fixed
  have first : ∀ column ∈ fixedColumns, column.toList.head? ≠ some 'm' := by decide
  apply first _ fixed
  simp

theorem metricColumn_not_fixed (name : String) : metricColumn name ∉ fixedColumns := by
  by_cases fixed : name ∈ fixedColumns
  · rw [metricColumn_of_fixed fixed]
    exact prefixed_not_fixed name
  · rwa [metricColumn_of_free fixed]

theorem metricColumn_prefixed {column : String} (fixed : column ∈ fixedColumns) :
    metricColumn ("metric:" ++ column) = metricColumn column := by
  rw [metricColumn_of_free (prefixed_not_fixed column), metricColumn_of_fixed fixed]

theorem eq_of_metricColumn_eq {first second : String} (same : metricColumn first = metricColumn second)
    (apart : ∀ column ∈ fixedColumns, ¬ (first = column ∧ second = "metric:" ++ column) ∧
      ¬ (second = column ∧ first = "metric:" ++ column)) : first = second := by
  by_cases fixed : first ∈ fixedColumns
  · rw [metricColumn_of_fixed fixed] at same
    by_cases fixed' : second ∈ fixedColumns
    · rw [metricColumn_of_fixed fixed'] at same
      exact String.append_right_inj _ |>.mp same
    · rw [metricColumn_of_free fixed'] at same
      exact absurd ⟨rfl, same.symm⟩ (apart first fixed).1
  · rw [metricColumn_of_free fixed] at same
    by_cases fixed' : second ∈ fixedColumns
    · rw [metricColumn_of_fixed fixed'] at same
      exact absurd ⟨rfl, same⟩ (apart second fixed').2
    · rw [metricColumn_of_free fixed'] at same
      exact same

theorem nodup_metricColumn_iff (report : Report) :
    (report.metricNames.map metricColumn).Nodup ↔
      ∀ column ∈ fixedColumns, report.Carries column → ¬ report.Carries ("metric:" ++ column) := by
  have names : report.metricNames.Nodup := SortedMap.nodup_keys _
  have carried (name : String) : report.Carries name ↔ name ∈ report.metricNames := (report.mem_metricNames_iff name).symm
  rw [List.nodup_map_iff_inj_on names]
  simp only [carried]
  constructor
  · intro injective column fixed plain prefixed
    have same := injective _ prefixed _ plain (metricColumn_prefixed fixed)
    refine prefixed_not_fixed column ?_
    rw [same]
    exact fixed
  · intro apart first listed second listed' same
    refine eq_of_metricColumn_eq same fun column fixed => ⟨?_, ?_⟩
    · rintro ⟨rfl, rfl⟩
      exact apart first fixed listed listed'
    · rintro ⟨rfl, rfl⟩
      exact apart second fixed listed' listed

theorem read_csv (report : Report) : ∃ text, report.csv = .ok text ∧ Csv.read text = some report.csvRecords := by
  have even : ∀ fields ∈ report.csvRecords, fields.length = 3 + report.metricNames.length :=
    fun fields member => length_of_mem_csvRecords member
  have some : ∀ fields ∈ report.csvRecords, fields ≠ [] := by
    rintro _ member rfl
    have length := even [] member
    rw [List.length_nil] at length
    omega
  refine ⟨_, ?_, Csv.read_text some⟩
  rw [csv, Csv.text_of_even even]
  rfl

/--
The columns of a written report have different names, unless some calls have a metric of the name of a fixed column
and also one of the name that is put in its place.
-/
theorem header_nodup_iff (report : Report) :
    ∃ text header rows, report.csv = .ok text ∧ Csv.read text = some (header :: rows) ∧
      header = fixedColumns ++ report.metricNames.map metricColumn ∧
      (header.Nodup ↔ ∀ column ∈ fixedColumns, report.Carries column → ¬ report.Carries ("metric:" ++ column)) := by
  obtain ⟨text, written, read⟩ := report.read_csv
  refine ⟨text, report.csvHeader, _, written, read, rfl, ?_⟩
  have fixed : fixedColumns.Nodup := by decide
  have foreign : ∀ column ∈ fixedColumns, ∀ other ∈ report.metricNames.map metricColumn, column ≠ other := by
    rintro _ listed _ member rfl
    obtain ⟨name, -, same⟩ := List.mem_map.mp member
    exact metricColumn_not_fixed name (same ▸ listed)
  rw [csvHeader, List.nodup_append, ← nodup_metricColumn_iff]
  exact ⟨fun parts => parts.2.1, fun names => ⟨fixed, names, foreign⟩⟩

def likeRenamed : Report :=
  ⟨[⟨"op", .cpu 0, 1, .ofList [("Name", .count 1), ("metric:Name", .count 2)]⟩], .empty⟩

/-- A metric that bears the name put in place of another one shares its column. -/
theorem header_repeats_renamed :
    ∃ text rows, likeRenamed.csv = .ok text ∧
      Csv.read text = some (["Name", "Device", "Depth", "metric:Name", "metric:Name"] :: rows) ∧
      ¬ ["Name", "Device", "Depth", "metric:Name", "metric:Name"].Nodup := by
  obtain ⟨text, written, read⟩ := likeRenamed.read_csv
  exact ⟨text, _, written, read, by decide⟩

end Report

end CallProfile
