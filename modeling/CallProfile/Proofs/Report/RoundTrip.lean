import CallProfile.Proofs.Report.WellFormed
import CallProfile.Proofs.SortedMap
import CallProfile.Report.Document

namespace CallProfile

open Json (Document written)
open Json.Reader

variable {level room : Nat} {before after : List Json.Symbol}

theorem Device.reads_ofText {device : Device} (canonical : device.IsCanonical) :
    Reads (ofText device.text) before device before := by
  rw [ofText, parse_text canonical]
  exact reads_pure

theorem Device.undoes_read {device : Device} (canonical : device.IsCanonical) :
    Undoes read (device.document.pretty level) device := fun gap after blank stop =>
  (undoes_text "a string" device.text gap after blank stop).bind (reads_ofText canonical)

theorem Count.ofNat_toNat (count : Count) : Count.ofNat count.toNat = count := by
  have bound := count.toNat_le_limit
  rw [Count.ofNat, Nat.min_eq_left bound, UInt64.ofNat_toNat]

namespace Metric

theorem undoes_content {metric : Metric} (finite : metric.IsFinite) :
    Undoes (readContent metric.variant) (metric.content.pretty level) metric := by
  intro gap after blank stop
  have read (number : Count) (make : Count → Metric) :
      Reads (do return make (Count.ofNat (← natural64))) (gap ++ (written (Decimal.digits number.toNat) ++ after))
        (make number) after := by
    have reads := (undoes_natural64 number.toNat_lt_size gap after blank stop).map fun number =>
      make (Count.ofNat number)
    rwa [Count.ofNat_toNat] at reads
  have readFloat {x : Double} (finite : x.isFinite) (make : Double → Metric) :
      Reads (do return make (← real)) (gap ++ (written (Json.real x.toFloat) ++ after)) (make x) after := by
    have reads := (undoes_real finite gap after blank stop).map fun x : Float => make x
    rwa [Double.ofFloat_toFloat (Double.not_isNaN_of_isFinite finite)] at reads
  cases metric with
  | duration seconds => exact readFloat (finite seconds rfl) duration
  | count number => exact read number count
  | percent share => exact readFloat (finite share rfl) percent
  | bytes number => exact read number bytes
  | ratio share => exact readFloat (finite share rfl) ratio
  | text content => exact (undoes_text _ content gap after blank stop).map text

theorem Variant.reads_ofText (variant : Variant) : Reads (ofText variant.name) before variant before := by
  have known : all.find? (fun other => other.name = variant.name) = some variant := by cases variant <;> decide
  simp only [ofText, known]
  exact reads_pure

theorem reads_tag (variant : Variant) (room : Nat) :
    Reads (readTag room) (.char ' ' :: (written (Json.quote variant.name) ++ after)) variant after := by
  have blank : Blank [.char ' '] := by simp [Blank, Json.Symbol.isSpace]
  have name : Reads Variant.read (written (Json.quote variant.name) ++ after) variant after := by
    rw [written_quote]
    refine Reads.placed ((reads_lookPastSpace_cons blank_nil (by decide)).bind ?_)
    exact Reads.past ((reads_textBody variant.name).bind (Variant.reads_ofText variant))
  rw [written_quote] at name ⊢
  exact (reads_lookPastSpace_cons blank (by decide)).bind name

theorem reads_field_tag {first : Bool}
    (more : Reads (moreEntries first) before true (written (Json.quote "type") ++ after)) :
    Reads (field first) before (some .tag) after :=
  Reads.withSteps (more.bind ((reads_key "type").bind reads_pure))

theorem reads_field_content {first : Bool}
    (more : Reads (moreEntries first) before true (written (Json.quote "value") ++ after)) :
    Reads (field first) before (some .content) after := by
  refine Reads.withSteps (more.bind ((reads_key "value").bind ?_))
  exact reads_pure

theorem reads_endOfFields (level : Nat) :
    Reads endOfFields (written (Document.newline level) ++ .char '}' :: after) () (.char '}' :: after) := by
  have ended : Reads (field false) (written (Document.newline level) ++ .char '}' :: after) none (.char '}' :: after) :=
    Reads.withSteps ((reads_moreEntries_end (blank_newline level) false).bind reads_pure)
  refine ended.bind ?_
  exact reads_pure

theorem undoes_read {metric : Metric} (finite : metric.IsFinite) :
    Undoes (read (room + 1)) (metric.document.pretty level) metric := by
  refine Reads.record rfl fun after => ?_
  rw [Document.written_entriesText_cons, Document.written_prettyEntries_cons]
  refine (reads_field_tag (reads_moreEntries_first (blank_newline (level + 1)) "type")).bind ?_
  refine reads_colon.bind ((reads_tag metric.variant room).bind ?_)
  refine (reads_field_content (reads_moreEntries_next (blank_newline (level + 1)) "value")).bind ?_
  refine reads_colon.bind (((undoes_content finite).behind_space (stops_newline level)).bind ?_)
  exact (reads_endOfFields level).bind reads_pure

end Metric

theorem MetricMap.undoes_read {metrics : MetricMap} (finite : IsFinite metrics) :
    Undoes (read (room + 2)) ((document metrics).pretty level) metrics := by
  refine Reads.record rfl fun after => ?_
  have enters (entries : List (String × Metric)) (finite : ∀ entry ∈ entries, entry.2.IsFinite) (read : MetricMap) :
      Enters (fun name (metrics : MetricMap) => do colon; return metrics.insert name (← Metric.read (room + 1)))
        (level + 1) (entries.map fun entry => (entry.1, entry.2.document)) read (read.insertAll entries) := by
    induction entries generalizing read with
    | nil => exact .nil
    | cons entry rest ih =>
      refine .cons (fun after stop => ?_) (ih (fun other member => finite other (List.mem_cons_of_mem _ member)) _)
      exact reads_colon.bind (((Metric.undoes_read (finite entry List.mem_cons_self)).behind_space stop).map _)
  have all := enters metrics.entries finite SortedMap.empty
  rw [SortedMap.insertAll_entries] at all
  exact all.reads

theorem DeviceTotals.undoes_read {totals : DeviceTotals} (formed : totals.IsWellFormed) :
    Undoes (read (room + 3)) ((document totals).pretty level) totals := by
  refine Reads.record rfl fun after => ?_
  have enters (entries : List (Device × MetricMap))
      (formed : ∀ entry ∈ entries, entry.1.IsCanonical ∧ MetricMap.IsFinite entry.2) (read : DeviceTotals) :
      Enters (fun name (totals : DeviceTotals) => do
          let device ← Device.ofText name
          colon
          return totals.insert device (← MetricMap.read (room + 2)))
        (level + 1) (entries.map fun entry => (entry.1.text, MetricMap.document entry.2)) read
        (read.insertAll entries) := by
    induction entries generalizing read with
    | nil => exact .nil
    | cons entry rest ih =>
      obtain ⟨canonical, finite⟩ := formed entry List.mem_cons_self
      refine .cons (fun after stop => ?_) (ih (fun other member => formed other (List.mem_cons_of_mem _ member)) _)
      refine (Device.reads_ofText canonical).bind (reads_colon.bind ?_)
      exact ((MetricMap.undoes_read finite).behind_space stop).map _
  have all := enters totals.entries formed SortedMap.empty
  rw [SortedMap.insertAll_entries] at all
  exact all.reads

theorem CallRecord.undoes_read {call : CallRecord} (formed : call.IsWellFormed) :
    Undoes (read (room + 3)) (call.document.pretty level) call := by
  refine Reads.record rfl fun after => ?_
  have depth : Undoes readDepth (Decimal.digits call.depth.toNat) call.depth := by
    intro gap after blank stop
    have reads := (undoes_natural32 call.depth.toNat_lt_size gap after blank stop).map UInt32.ofNat
    rwa [UInt32.ofNat_toNat] at reads
  have enters : Enters (readField (room + 2)) (level + 1)
      [("name", .text call.name), ("device", call.device.document), ("depth", .natural call.depth.toNat),
        ("metrics", MetricMap.document call.metrics)]
      {} ⟨some call.name, some call.device, some call.depth, some call.metrics⟩ := by
    refine .cons (fun after stop => (reads_once (undoes_text _ call.name) _ stop).map _) ?_
    refine .cons (fun after stop => (reads_once (Device.undoes_read formed.device) _ stop).map _) ?_
    refine .cons (fun after stop => (reads_once depth _ stop).map _) ?_
    exact .cons (fun after stop => (reads_once (MetricMap.undoes_read formed.metrics) _ stop).map _) .nil
  refine enters.reads.bind ?_
  exact reads_pure.bind (reads_pure.bind (reads_pure.bind (reads_pure.bind reads_pure)))

namespace Report

theorem undoes_read {report : Report} (formed : report.IsWellFormed) :
    Undoes (read (room + 5)) (report.document.pretty level) report := by
  refine Reads.record rfl fun after => ?_
  have calls : Undoes (Json.Reader.list CallRecord.read (room + 4))
      ((Document.list (report.calls.map CallRecord.document)).pretty (level + 1)) report.calls :=
    undoes_list fun call member => CallRecord.undoes_read (formed.calls call member)
  have enters : Enters (readField (room + 4)) (level + 1)
      [("calls", .list (report.calls.map CallRecord.document)),
        ("device_metrics", DeviceTotals.document report.deviceMetrics)]
      {} ⟨some report.calls, some report.deviceMetrics⟩ := by
    refine .cons (fun after stop => (reads_once calls _ stop).map _) ?_
    exact .cons (fun after stop => (reads_once (DeviceTotals.undoes_read formed.deviceMetrics) _ stop).map _) .nil
  refine enters.reads.bind ?_
  exact reads_pure.bind (reads_pure.bind reads_pure)

theorem reads_toJson {report : Report} (formed : report.IsWellFormed) :
    Reads (read Json.nestingLimit) (Json.symbols report.toJson) report [] := by
  have whole := @undoes_read 0 122 report formed [] [] blank_nil stops_nil
  rw [List.nil_append, List.append_nil] at whole
  rwa [Json.symbols, toJson, Document.prettyText, String.toList_ofList]

theorem ofJson_toJson {report : Report} (formed : report.IsWellFormed) : ofJson report.toJson = .ok report :=
  (reads_toJson formed).run blank_nil .text

theorem ofBytes_toJson {report : Report} (formed : report.IsWellFormed) :
    ofBytes report.toJson.toUTF8 = .ok report := by
  have text : String.fromUTF8? report.toJson.toUTF8 = some report.toJson := dif_pos report.toJson.isValidUTF8
  rw [ofBytes, Json.symbolsOfBytes, text]
  exact (reads_toJson formed).run blank_nil .stream

/--
JSON keeps exactly the well-formed reports. A report equals what is read from its JSON text just if it is
well-formed, and then nothing at all is lost; every text that is read at all gives such a report.
-/
theorem json_is_lossless :
    (∀ report : Report, (∃ read, ofJson report.toJson = .ok read ∧ read == report) ↔ report.IsWellFormed) ∧
      (∀ report : Report, report.IsWellFormed → ofJson report.toJson = .ok report) ∧
      ∀ text read, ofJson text = .ok read → read.IsWellFormed ∧ ofJson read.toJson = .ok read := by
  refine ⟨fun report => ⟨?_, fun formed => ?_⟩, fun report => ofJson_toJson, fun text read accepted => ?_⟩
  · rintro ⟨read, accepted, same⟩
    exact isWellFormed_of_beq same (isWellFormed_of_ofJson accepted)
  · exact ⟨report, ofJson_toJson formed, beq_self formed⟩
  · have formed := isWellFormed_of_ofJson accepted
    exact ⟨formed, ofJson_toJson formed⟩

end Report

end CallProfile
