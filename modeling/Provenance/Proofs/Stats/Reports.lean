import Provenance.Proofs.Stats.Clients
import Provenance.Proofs.Text.Lines

/-! # Reports of a table

    The iterator, the rows, the text and the JSON of a table go through its slots
    each on its own.  They show the same names, each once, with the same
    microseconds (`ReportsAgree`).

    The text has no escapes, and a name may hold blanks, digits and even `us`.  A
    line can be read all the same, from its end (`readRow_text`): its last mark is
    the one that was written last, and no digit of a number is a blank. -/

namespace Provenance

namespace StatsEntry

/-- A row as a line of a report, without the newline. -/
def line (e : StatsEntry) : String := s!"{e.name} {e.micros} us"

/-- Read a line from its end: the mark of microseconds, then the number after the
    last blank, then the name. -/
def ofLine? (line : String) : Option StatsEntry := do
  let (front, rest) ← Text.cutLast " us".toList line.toList
  guard (rest = [])
  let (name, digits) ← Text.cutLast [' '] front
  let micros ← Text.number? digits
  return ⟨String.ofList name, micros⟩

theorem toList_line (e : StatsEntry) :
    e.line.toList
      = e.name.toList ++ ([' '] ++ Nat.toDigits 10 e.micros) ++ (" us".toList ++ []) := by
  have hdigits : (toString e.micros).toList = Nat.toDigits 10 e.micros :=
    String.toList_ofList
  show (e.name ++ " " ++ toString e.micros ++ " us").toList = _
  rw [String.toList_append, String.toList_append, String.toList_append, hdigits,
    List.append_nil, List.append_assoc e.name.toList]
  rfl

/-- Every row is read back from its line. -/
theorem ofLine?_line (e : StatsEntry) : ofLine? e.line = some e := by
  have hmark : Text.cutLast " us".toList e.line.toList
      = some (e.name.toList ++ ([' '] ++ Nat.toDigits 10 e.micros), []) := by
    rw [toList_line]
    exact Text.cutLast_append (by decide) _
  have hblank : Text.cutLast [' '] (e.name.toList ++ ([' '] ++ Nat.toDigits 10 e.micros))
      = some (e.name.toList, Nat.toDigits 10 e.micros) := by
    refine Text.cutLast_append ?_ _
    exact Text.cutLast_eq_none (Text.not_mem_toDigits rfl _)
  rw [ofLine?, hmark]
  show (Text.cutLast [' '] _ >>= _) = _
  rw [hblank]
  show (Text.number? _ >>= _) = _
  rw [Text.number?_toDigits]
  show some (StatsEntry.mk (String.ofList e.name.toList) e.micros) = some e
  rw [String.ofList_toList]

theorem newline_not_mem_line {e : StatsEntry} (h : '\n' ∉ e.name.toList) :
    '\n' ∉ e.line.toList := by
  rw [toList_line]
  simp [h, Text.not_mem_toDigits]

/-- Rows are read back from their lines, all together. -/
theorem mapM_ofLine? (rows : List StatsEntry) :
    (rows.map line).mapM ofLine? = some rows := by
  induction rows with
  | nil => rfl
  | cons e rest ih =>
      rw [List.map_cons, List.mapM_cons, ofLine?_line, ih]
      rfl

end StatsEntry

namespace StatsTable

variable {t : StatsTable} {c : Chart}

/-- The names in the order of their slots. -/
theorem toList_eq_slots (t : StatsTable) :
    t.toList = ((List.range t.capacity).filterMap t.slot?).map fun s =>
      (s.key, s.value) := by
  have hslots : t.slots.toList = (List.range t.capacity).map t.slot? := by
    refine List.ext_getElem ?_ ?_
    · rw [List.length_map, List.length_range]
      rfl
    · intro i hi hi'
      rw [List.getElem_map, List.getElem_range, slot?, Array.getElem_toList]
      rw [Array.getElem?_eq_getElem]
      rfl
  rw [toList, hslots, List.filterMap_map]
  rfl

theorem text_eq (t : StatsTable) :
    t.text = String.join ((t.entries.map StatsEntry.line).map fun l => l ++ "\n") := by
  have hline : ∀ e : StatsEntry, Overhead.line e.name e.micros = e.line ++ "\n" := by
    intro e
    show e.name ++ " " ++ toString e.micros ++ (" us" ++ "\n") = _
    rw [← String.append_assoc]
    rfl
  rw [text, List.map_map]
  exact congrArg String.join (List.map_congr_left fun e _ => hline e)

/-- The sum of the durations in nanoseconds. -/
def nanosSum (t : StatsTable) : Nat := (t.toList.map fun e => e.2.nanos).sum

theorem totalNanos_eq (t : StatsTable) :
    Duration.totalNanos (t.toList.map Prod.snd) = t.nanosSum := by
  rw [Duration.totalNanos_eq_sum, List.map_map]
  rfl

/-- What the reports of a table show. -/
structure ReportsAgree (t : StatsTable) : Prop where
  /-- The iterator goes through the slots from the first to the last. -/
  slotOrder : t.toList = ((List.range t.capacity).filterMap t.slot?).map fun s =>
    (s.key, s.value)
  once : (t.toList.map Prod.fst).Nodup
  /-- It shows what is found by name. -/
  shown_iff : ∀ key d, (key, d) ∈ t.toList ↔ t.get? key = some d
  /-- The rows are in the same order, with whole microseconds in one word. -/
  entries_eq : t.entries = t.toList.map fun e =>
    ⟨e.1, min (e.2.nanos / 1000) (2 ^ 64 - 1)⟩
  /-- The text has a line for each row. -/
  text_eq : t.text = String.join (t.entries.map fun e => s!"{e.name} {e.micros} us\n")
  /-- The JSON has a field for each row, by ascending names. -/
  json_eq : ∃ rows : List StatsEntry,
    t.json = .object (rows.map fun e => (e.name, .count e.micros)) ∧
      rows.Perm t.entries ∧ rows.Pairwise fun e e' => e.name < e'.name
  /-- The total is the exact sum, where that is a duration. -/
  total_eq : ∀ h : t.nanosSum ≤ Duration.limit,
    (total t : Ending StatsTable StatsError Duration) = ⟨.value ⟨t.nanosSum, h⟩, t, []⟩
  total_halts : Duration.limit < t.nanosSum →
    (total t : Ending StatsTable StatsError Duration) = ⟨.fault .durationSum, t, []⟩
  /-- The text can be read back, if no name goes over a line. -/
  recovered : (∀ e ∈ t.entries, '\n' ∉ e.name.toList) →
    (Text.lines t.text).mapM StatsEntry.ofLine? = some t.entries

/-- The rows by name ascend strictly, since no name comes twice. -/
theorem Charts.pairwise_byName_lt (h : Charts t c) :
    t.byName.Pairwise fun e e' => e.name < e'.name := by
  rw [h.byName_eq, List.pairwise_map]
  exact t.names.sortedLT_sort.pairwise

theorem Charts.reportsAgree (h : Charts t c) : t.ReportsAgree where
  slotOrder := t.toList_eq_slots
  once := ((h.perm.map Prod.fst).nodup_iff).mpr h.distinct
  shown_iff key d := by
    rw [h.get?_eq, Chart.get?_eq_some_iff h.distinct, h.perm.mem_iff]
  entries_eq := rfl
  text_eq := rfl
  json_eq := ⟨t.byName, rfl, List.mergeSort_perm _ _, h.pairwise_byName_lt⟩
  total_eq hsum := by
    have hspans : Duration.totalNanos (t.toList.map Prod.snd) ≤ Duration.limit := by
      rw [totalNanos_eq]
      exact hsum
    have hvalue : (⟨_, hspans⟩ : Duration) = ⟨t.nanosSum, hsum⟩ :=
      Duration.ext t.totalNanos_eq
    rw [total, Duration.sum?, dif_pos hspans, hvalue]
  total_halts hsum := by
    rw [total, Duration.sum?, dif_neg]
    · rfl
    · rw [totalNanos_eq]
      exact Nat.not_le.mpr hsum
  recovered hplain := by
    have hlines : ∀ l ∈ t.entries.map StatsEntry.line, '\n' ∉ l.toList := by
      intro l hl
      obtain ⟨e, he, rfl⟩ := List.mem_map.mp hl
      exact StatsEntry.newline_not_mem_line (hplain e he)
    rw [t.text_eq, Text.lines_join hlines]
    exact StatsEntry.mapM_ofLine? t.entries

/-- The reports of a table agree, whatever was done with it, and nothing is lost in
    its text. -/
theorem reports_agree (h : t.Reachable) : t.ReportsAgree := by
  obtain ⟨c, hc⟩ := h.charts
  exact hc.reportsAgree

/-- Names that look like parts of a line, and the longest duration there is. -/
theorem reports_agree_of_odd_names :
    ∃ t, ofCapacity Memory.addressSpace 4 .fixed = .ok t ∧
      (Text.lines (t.runAll [(Memory.addressSpace, .set "7 us" (.ofNanos 1999)),
        (Memory.addressSpace, .set "" (.ofNanos Duration.limit)),
        (Memory.addressSpace, .set "12 " .zero)]).2.text).mapM StatsEntry.ofLine?
        = some [⟨"", 2 ^ 64 - 1⟩, ⟨"12 ", 0⟩, ⟨"7 us", 1⟩] := by
  obtain ⟨t, ht⟩ : ∃ t, ofCapacity Memory.addressSpace 4 .fixed = .ok t := ⟨_, rfl⟩
  refine ⟨t, ht, ?_⟩
  have hreports := reports_agree (t := (t.runAll
    [(Memory.addressSpace, .set "7 us" (.ofNanos 1999)),
      (Memory.addressSpace, .set "" (.ofNanos Duration.limit)),
      (Memory.addressSpace, .set "12 " .zero)]).2) ⟨_, _, _, t, _, ht, rfl⟩
  refine (hreports.recovered ?_).trans ?_
  · cases ht
    decide
  · cases ht
    decide

end StatsTable

end Provenance
