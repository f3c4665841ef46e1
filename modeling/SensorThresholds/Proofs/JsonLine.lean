import SensorThresholds.Proofs.JsonReading
import SensorThresholds.Proofs.LimitedOutput
import SensorThresholds.Proofs.ReportText

/-!
The line of JSON of a report. It is one line, whatever characters stand in the texts of the report,
and what is read there is the report, with every double bit for bit.
-/

namespace SensorThresholds

theorem Threshold.key_injective {t u : Threshold} (same : t.key = u.key) : t = u := by
  cases t <;> cases u <;> first | rfl | exact absurd same (by decide)

namespace Written

/-- Null where there is no value, and else a number to which the value is the nearest double. -/
def HoldsValue (w : Written) : Option Double → Prop
  | none => w = .null
  | some v => ∃ l : Literal, w = .number l ∧ l.nearest = v

/-- The name of a threshold and its value. -/
def HoldsEntry (w : Written) (entry : Threshold × Option Double) : Prop :=
  ∃ value : Written, w = .object [("name", .string entry.1.key), ("value", value)] ∧
    value.HoldsValue entry.2

/-- A report with all that is in it, its members in their order. -/
def Holds (w : Written) (r : Report) : Prop :=
  ∃ (modifier : Literal) (entries : List Written),
    w = .object
      [("metric_property", .string r.property), ("reading_units", r.units.elim .null .string),
        ("unit_modifier", .number modifier), ("decimal", .bool r.decimal),
        ("thresholds", .array entries)] ∧
      modifier.integer? = some r.modifier ∧ List.Forall₂ HoldsEntry entries r.values

theorem HoldsValue.unique {w : Written} {value other : Option Double} (first : w.HoldsValue value)
    (second : w.HoldsValue other) : value = other := by
  cases value with
  | none =>
      obtain rfl := first
      cases other with
      | none => rfl
      | some v =>
          obtain ⟨l, ⟨⟩, -⟩ := second
  | some v =>
      obtain ⟨l, rfl, rfl⟩ := first
      cases other with
      | none => cases second
      | some v =>
          obtain ⟨l, ⟨⟩, rfl⟩ := second
          rfl

theorem HoldsEntry.unique {w : Written} {entry other : Threshold × Option Double}
    (first : w.HoldsEntry entry) (second : w.HoldsEntry other) : entry = other := by
  obtain ⟨t, v⟩ := entry
  obtain ⟨u, x⟩ := other
  obtain ⟨value, rfl, held⟩ := first
  obtain ⟨value, same, held'⟩ := second
  simp only [Json.object.injEq, List.cons.injEq, Prod.mk.injEq, Json.string.injEq, true_and,
    and_true] at same
  obtain ⟨key, rfl⟩ := same
  obtain rfl : t = u := Threshold.key_injective key
  obtain rfl : v = x := held.unique held'
  rfl

/-- No two reports are read in the same line. -/
theorem Holds.unique {w : Written} {r other : Report} (first : w.Holds r) (second : w.Holds other) :
    r = other := by
  obtain ⟨property, units, modifier, decimal, values⟩ := r
  obtain ⟨property', units', modifier', decimal', values'⟩ := other
  obtain ⟨l, entries, rfl, whole, each⟩ := first
  obtain ⟨l', entries', same, whole', each'⟩ := second
  simp only [Json.object.injEq, List.cons.injEq, Prod.mk.injEq, Json.string.injEq,
    Json.number.injEq, Json.bool.injEq, Json.array.injEq, true_and, and_true] at same
  obtain ⟨rfl, measured, rfl, rfl, rfl⟩ := same
  obtain rfl : units = units' := by
    cases units <;> cases units' <;> simp_all
  obtain rfl : modifier = modifier' := Option.some.inj (whole.symm.trans whole')
  obtain rfl : values = values' :=
    List.right_unique_forall₂' (R := HoldsEntry) (fun _ _ _ => HoldsEntry.unique) each each'
  rfl

end Written

namespace Report

open Document

variable {r : Report}

theorem holdsEntry_written {lit : Number → Literal}
    (denotes : ∀ n : Number, n.isFinite = true → (lit n).Denotes n)
    {entry : Threshold × Option Double} (finite : ∀ v, entry.2 = some v → v.isFinite = true) :
    ((valueDocument entry).written lit).HoldsEntry entry := by
  obtain ⟨t, _ | v⟩ := entry
  · exact ⟨.null, rfl, rfl⟩
  · exact ⟨.number (lit (.float v)), rfl, _, rfl, denotes (.float v) (finite v rfl)⟩

theorem holds_written {lit : Number → Literal}
    (denotes : ∀ n : Number, n.isFinite = true → (lit n).Denotes n)
    (finite : ∀ entry ∈ r.values, ∀ v, entry.2 = some v → v.isFinite = true) :
    (r.document.written lit).Holds r := by
  refine ⟨lit (.integer r.modifier), r.values.map fun entry => (valueDocument entry).written lit,
    ?_, denotes (.integer r.modifier) rfl, ?_⟩
  · cases units : r.units <;>
      simp [document, written, writtenMembers, writtenItems_eq_map, units, Function.comp_def]
  · rw [List.forall₂_map_left_iff, List.forall₂_same]
    exact fun entry member => holdsEntry_written denotes (finite entry member)

theorem isFinite_of_mem_numbers
    (finite : ∀ entry ∈ r.values, ∀ v, entry.2 = some v → v.isFinite = true) {n : Number}
    (member : n ∈ r.document.numbers) : n.isFinite = true := by
  have unmeasured : (r.units.elim .null .string : Document).numbers = [] := by
    cases r.units <;> rfl
  simp only [document, numbers, memberNumbers, unmeasured, List.nil_append, List.append_nil,
    List.mem_append, List.mem_singleton, mem_itemNumbers, List.mem_map] at member
  rcases member with rfl | ⟨_, ⟨⟨t, v⟩, entry, rfl⟩, value⟩
  · rfl
  · cases v with
    | none => cases value
    | some v =>
        obtain rfl : n = .float v := List.mem_singleton.mp value
        exact finite (t, some v) entry v rfl

theorem depth_document (r : Report) : r.document.depth ≤ Written.depthLimit := by
  have flat : (r.units.elim .null .string : Document).depth = 0 := by
    cases r.units <;> rfl
  have entries : itemDepth (r.values.map valueDocument) ≤ 1 := by
    refine itemDepth_le fun v member => ?_
    obtain ⟨⟨t, _ | x⟩, -, rfl⟩ := List.mem_map.mp member <;> exact le_refl 1
  simp only [document, depth, memberDepth, flat, Written.depthLimit]
  omega

/-- The text has no line breaks. -/
theorem json_one_line (r : Report) : ∀ c ∈ r.json.toList, c ≠ '\n' ∧ c ≠ '\r' := by
  intro c member
  rw [json, text, String.toList_ofList] at member
  have printable := r.document.plain_chars c member
  refine ⟨?_, ?_⟩
  all_goals
    rintro rfl
    exact absurd printable (by decide)

theorem exists_line_holds
    (finite : ∀ entry ∈ r.values, ∀ v, entry.2 = some v → v.isFinite = true) :
    ∃ line, Written.read? (r.json ++ "\n") = some line ∧ line.Holds r := by
  have blank : ∀ c ∈ ['\n'], Token.isBlank c = true := List.forall_mem_singleton.mpr rfl
  have newline : String.ofList ['\n'] = "\n" := by decide +kernel
  obtain ⟨lit, denotes, read⟩ := exists_reading (fun _ => isFinite_of_mem_numbers finite)
    r.depth_document blank
  rw [newline] at read
  exact ⟨_, read, holds_written denotes finite⟩

end Report

theorem Sink.json_report_of_ok {r : Report} {w : Writer}
    (ended : (Sink.json.report r w).result = .ok ()) :
    (Sink.json.report r w).trace = [.write (Utf8.encode (r.json ++ "\n")), .flush] := by
  obtain ⟨_, line, flushed⟩ := Traced.bind_result_eq_ok_iff.mp ended
  refine (Traced.trace_bind_of_ok line).trans ?_
  rw [Writer.flush_of_ok flushed]
  exact congrArg (· ++ _) (Writer.put_of_ok (Utf8.encode_line_ne_nil r.json) line)

namespace Report

variable {property : String} {attributes : Attributes} {report : Report}

theorem isFinite_of_ofAttributes (made : ofAttributes property attributes = .ok report) :
    ∀ entry ∈ report.values, ∀ v, entry.2 = some v → v.isFinite = true := by
  intro entry member v value
  rw [(values_of_ofAttributes made).1] at member
  obtain ⟨t, -, rfl⟩ := List.mem_map.mp member
  exact isFinite_of_shown value

/-- A call that succeeds writes one line, and in it the report is read back: all its texts, and
every double bit for bit. Different reports are different bytes. -/
theorem json_line_reads_back (made : ofAttributes property attributes = .ok report) :
    (Sink.json.report report .unlimited).result = .ok () ∧
      (∀ w, (Sink.json.report report w).result = .ok () →
        (Sink.json.report report w).trace =
          [.write (Utf8.encode (report.json ++ "\n")), .flush]) ∧
      (∀ c ∈ report.json.toList, c ≠ '\n' ∧ c ≠ '\r') ∧
      (∃ line, Written.read? (report.json ++ "\n") = some line ∧ line.Holds report) ∧
      report.values.map Prod.fst = Threshold.all ∧
      ∀ property' attributes' other, ofAttributes property' attributes' = .ok other →
        Utf8.encode (other.json ++ "\n") = Utf8.encode (report.json ++ "\n") → other = report := by
  have read := exists_line_holds (isFinite_of_ofAttributes made)
  have ended := (OutputFormat.json.sink_reliable.report report .unlimited rfl).1
  refine ⟨ended, fun _ => Sink.json_report_of_ok, report.json_one_line, read, ?_, ?_⟩
  · rw [(values_of_ofAttributes made).1]
    rfl
  · intro property' attributes' other made' same
    obtain ⟨line, found, holds⟩ := read
    obtain ⟨line', found', holds'⟩ := exists_line_holds (isFinite_of_ofAttributes made')
    rw [Utf8.encode_injective same, found] at found'
    obtain rfl := Option.some.inj found'
    exact holds'.unique holds

theorem json_line_reads_back_fan :
    ∃ report line, ofAttributes "/fan\n\"1\"" fan = .ok report ∧
      Written.read? (report.json ++ "\n") = some line ∧ line.Holds report ∧
      line.get? "metric_property" = some (.string "/fan\n\"1\"") := by
  have made := ofAttributes_ok "/fan\n\"1\"" inRange_fan
  obtain ⟨-, -, -, ⟨line, read, holds⟩, -⟩ := json_line_reads_back made
  refine ⟨_, line, made, read, holds, ?_⟩
  obtain ⟨modifier, entries, rfl, -⟩ := holds
  rfl

end Report
end SensorThresholds
