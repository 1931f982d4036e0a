import DiagnosticRelay.LineGrammar.Rule
import DiagnosticRelay.Proofs.LineGrammar.Location
import DiagnosticRelay.Proofs.Number.Decimal
import DiagnosticRelay.Proofs.Text.Newline
import DiagnosticRelay.Proofs.Text.Trim
import DiagnosticRelay.StructuredReport

/-!
# Text and structured output agree

A checker can report a finding as a line or as a record.  An `Entry` is a finding before it is put
in either form: a path as the checker writes it, a line and a column, a severity word in any case,
and a message.  `Entry.line` and `Entry.record` are the two forms, and `diagnostics_agree` says that
both readers take the same diagnostic out of them.

Not every entry has a line that means it.  `Entry.IsPlain` are the conditions: the path and the
message fit on one line, the message has no blanks at its ends, the coordinates have no more digits
than are converted, and the path holds no place of its own, behind which the line would be cut too
early.  A path may hold colons, digits, words and stack frames otherwise, and so may the message.

An empty message needs some care: then a blank is the last code point of the line, the line grammar
takes that blank for the message, and trimming removes it.
-/

namespace DiagnosticRelay

/-! ## Messages without blanks at their ends -/

namespace LineGrammar

/-- Behind a word, a colon and one blank a message is found as it is, up to blanks at its ends. -/
theorem exists_messageAfterToken? {message : Text} (hline : lineFeed ∉ message)
    (htrimmed : message.IsTrimmed) :
    ∃ found, messageAfterToken? (.char ':' :: .char ' ' :: message) = some found ∧
      Text.trim found = message := by
  have hcolon : (.char ':' :: .char ' ' :: message : Text).dropWhile CodePoint.isBlank
      = .char ':' :: .char ' ' :: message := rfl
  have hrest : lineFeed ∉ (.char ':' :: .char ' ' :: message : Text) := by
    simpa [lineFeed] using hline
  obtain ⟨found, hfound, htrim⟩ :=
    exists_messageAfterToken?_of_ne_nil (List.cons_ne_nil _ _) hrest
  refine ⟨found, hfound, ?_⟩
  rw [htrim, messageOf_eq, hcolon, if_neg (by simp), dropColon, ← trim_dropWhile_isBlank,
    List.dropWhile_cons_of_pos (by decide), trim_dropWhile_isBlank, Text.trim_of_isTrimmed htrimmed]

theorem isRun_ofNat (n : Nat) : IsRun (Decimal.ofNat n) := by
  rw [Decimal.ofNat_eq]
  constructor
  · rw [ne_eq, List.map_eq_nil_iff]
    exact Decimal.digitsOf_ne_nil n
  · intro c hc
    obtain ⟨d, hd, rfl⟩ := List.mem_map.mp hc
    exact CodePoint.isDecimal_ofDigit (Decimal.lt_of_mem_digitsOf hd)

end LineGrammar

/-! ## Entries -/

/-- A finding as a checker writes it down. -/
structure Entry where
  path : Text
  row : Nat
  column : Nat
  token : Text
  message : Text

namespace Entry

open LineGrammar

/-- The line `path:row:column: token: message`. -/
def line (entry : Entry) : Text :=
  entry.path ++ .char ':' :: (Decimal.ofNat entry.row ++ .char ':' :: (Decimal.ofNat entry.column ++
    .char ':' :: .char ' ' :: (entry.token ++ .char ':' :: .char ' ' :: entry.message)))

/-- The record with the same fields. -/
def record (entry : Entry) : Members :=
  [(text "file", .str entry.path), (text "line", .int entry.row),
    (text "column", .int entry.column), (text "severity", .str entry.token),
    (text "message", .str entry.message)]

/-- The diagnostic of an entry, for a checker that ran in a directory. -/
def diagnostic (directory : Text) (entry : Entry) : Diagnostic where
  file := Path.resolve .posix directory entry.path
  message := entry.message
  severity := Severity.ofToken entry.token
  range := some ⟨⟨entry.row, entry.column⟩, none⟩

/-- The entries that have a line of their own. -/
structure IsPlain (entry : Entry) : Prop where
  path_ne_nil : entry.path ≠ []
  path_line : lineFeed ∉ entry.path
  path_place : ¬HasPlace entry.path
  row_lt : entry.row < 10 ^ Decimal.digitLimit
  column_lt : entry.column < 10 ^ Decimal.digitLimit
  token_name : ∃ severity : Severity, Text.lower entry.token = severity.name
  message_line : lineFeed ∉ entry.message
  message_trimmed : entry.message.IsTrimmed

/-! ## Lines of entries -/

theorem coordinate_leadingDigits {n : Nat} (h : n < 10 ^ Decimal.digitLimit) :
    LineRule.coordinate (Decimal.leadingDigits (Decimal.ofNat n)) = .ok n := by
  rw [LineRule.coordinate, Decimal.leadingDigits_ofNat, Decimal.readDigits_digitsOf h]

/-- The first rule finds the entry in its line. -/
theorem first_line {entry : Entry} (h : entry.IsPlain) (directory : Text) :
    LineRule.first directory entry.line
      = .ok (some (.locationWithColumn, entry.diagnostic directory)) := by
  obtain ⟨severity, htoken⟩ := h.token_name
  obtain ⟨found, hfound, htrim⟩ := exists_messageAfterToken? h.message_line h.message_trimmed
  have hcut := location?_true_eq_some h.path_ne_nil h.path_line h.path_place
    (isRun_ofNat entry.row) (isRun_ofNat entry.column) htoken hfound
  have hlocation : LineRule.ofLocation directory
      ⟨entry.path, Decimal.leadingDigits (Decimal.ofNat entry.row),
        some (Decimal.leadingDigits (Decimal.ofNat entry.column)), entry.token, found⟩
      = .ok (entry.diagnostic directory) := by
    simp only [LineRule.ofLocation, coordinate_leadingDigits h.row_lt,
      coordinate_leadingDigits h.column_lt, htrim]
    rfl
  rw [LineRule.first, LineRule.all, LineRule.firstOf, LineRule.apply, line, hcut]
  simp only [hlocation]
  rfl

theorem ofLines_line {entries : List Entry} (h : ∀ entry ∈ entries, entry.IsPlain)
    (directory : Text) :
    TextReport.ofLines directory (entries.map line) = .ok (entries.map (diagnostic directory)) := by
  induction entries with
  | nil => rfl
  | cons entry entries ih =>
    rw [List.map_cons, TextReport.ofLines, first_line (h entry (List.mem_cons_self ..)),
      ih fun other hother => h other (List.mem_cons_of_mem _ hother)]
    rfl

theorem lineFeed_not_mem_line {entry : Entry} (h : entry.IsPlain) : lineFeed ∉ entry.line := by
  have hrun (n : Nat) : lineFeed ∉ Decimal.ofNat n := fun hmem =>
    absurd ((isRun_ofNat n).decimal lineFeed hmem) (by decide)
  have htoken : lineFeed ∉ entry.token := by
    intro hmem
    obtain ⟨severity, hname⟩ := h.token_name
    have hlower : lineFeed.lower ∈ severity.name := hname ▸ List.mem_map_of_mem hmem
    revert hlower
    cases severity <;> decide
  have hmark : lineFeed ≠ .char ':' ∧ lineFeed ≠ .char ' ' := by decide
  simp only [line, List.mem_append, List.mem_cons, not_or, hmark, h.path_line, hrun, htoken,
    h.message_line, not_false_eq_true, and_self]

/-- The last code point of a line is that of the message, or else a blank. -/
theorem getLast?_line {entry : Entry} (h : entry.IsPlain) :
    entry.line.getLast? ≠ some (.char '\r') := by
  have hlast : entry.line.getLast? = some (entry.message.getLast?.getD (.char ' ')) := by
    simp [line, List.getLast?_append, List.getLast?_cons]
  rw [hlast]
  cases hmessage : entry.message.getLast? with
  | none => decide
  | some c =>
    rintro ⟨⟩
    exact absurd (h.message_trimmed.last _ hmessage) (by decide)

theorem splitLines_join_line {entries : List Entry} (hne : entries ≠ [])
    (h : ∀ entry ∈ entries, entry.IsPlain) :
    Text.splitLines (Text.join [lineFeed] (entries.map line)) = entries.map line := by
  refine Text.splitLines_join (mt List.map_eq_nil_iff.mp hne) ?_ ?_
  · intro t ht
    obtain ⟨entry, hentry, rfl⟩ := List.mem_map.mp ht
    exact lineFeed_not_mem_line (h entry hentry)
  · intro t ht
    obtain ⟨entry, hentry, rfl⟩ := List.mem_map.mp ht
    exact getLast?_line (h entry hentry)

/-- The lines are read one by one, and each gives its entry. -/
theorem diagnostics_join_line {entries : List Entry} (h : ∀ entry ∈ entries, entry.IsPlain)
    (directory : Text) :
    TextReport.diagnostics directory (Text.join [lineFeed] (entries.map line))
      = .ok (entries.map (diagnostic directory)) := by
  cases entries with
  | nil => rfl
  | cons entry others =>
    rw [TextReport.diagnostics, splitLines_join_line (List.cons_ne_nil entry others) h]
    exact ofLines_line h directory

/-! ## Records of entries -/

/-- A record is read field by field. -/
theorem diagnosticOf_record {entry : Entry} (h : entry.path ≠ []) (directory : Text) :
    StructuredReport.diagnosticOf directory entry.record
      = .ok (some (entry.diagnostic directory)) := by
  obtain ⟨path, row, column, token, message⟩ := entry
  obtain ⟨c, path, rfl⟩ := List.exists_cons_of_ne_nil h
  rfl

theorem records_record (entries : List Entry) :
    StructuredReport.records (.list (entries.map fun entry => .object entry.record))
      = entries.map record :=
  Value.objects_map_object record entries

theorem ofRecords_record {entries : List Entry} (h : ∀ entry ∈ entries, entry.path ≠ [])
    (directory : Text) :
    StructuredReport.ofRecords directory (entries.map record)
      = .ok (entries.map (diagnostic directory)) := by
  induction entries with
  | nil => rfl
  | cons entry entries ih =>
    rw [List.map_cons, StructuredReport.ofRecords,
      diagnosticOf_record (h entry (List.mem_cons_self ..)),
      ih fun other hother => h other (List.mem_cons_of_mem _ hother)]
    rfl

/-- **Text and structured output agree.** -/
theorem diagnostics_agree (directory : Text) (entries : List Entry)
    (h : ∀ entry ∈ entries, entry.IsPlain) :
    TextReport.diagnostics directory (Text.join [lineFeed] (entries.map line))
        = .ok (entries.map (diagnostic directory)) ∧
      StructuredReport.ofValue directory (.list (entries.map fun entry => .object entry.record))
        = .ok (entries.map (diagnostic directory)) := by
  constructor
  · exact diagnostics_join_line h directory
  · rw [StructuredReport.ofValue, records_record]
    exact ofRecords_record (fun entry hentry => (h entry hentry).path_ne_nil) directory

/-- Two entries whose lines invite a wrong cut: a path that ends like a line number, with an empty
message, and a path and a message that look like other lines. -/
theorem diagnostics_agree_colons :
    let entries : List Entry := [⟨text "a:12.c:7", 3, 4, text "eRRor", []⟩,
      ⟨text "../at b.c:9", 1, 0, text "Note", text "c.c:1:2: error: x"⟩]
    let found : List Diagnostic := [
      { file := text "/p/a:12.c:7", severity := .error, range := some ⟨⟨3, 4⟩, none⟩ },
      { file := text "/at b.c:9", message := text "c.c:1:2: error: x", severity := .note,
        range := some ⟨⟨1, 0⟩, none⟩ }]
    (∀ entry ∈ entries, entry.IsPlain) ∧
      TextReport.diagnostics (text "/p") (Text.join [lineFeed] (entries.map line)) = .ok found ∧
      StructuredReport.ofValue (text "/p") (.list (entries.map fun entry => .object entry.record))
        = .ok found := by
  intro entries found
  have hsmall (n : Nat) (h : n < 10) : n < 10 ^ Decimal.digitLimit :=
    h.trans_le (Nat.le_self_pow (by decide) 10)
  have hplain : ∀ entry ∈ entries, entry.IsPlain := by
    rw [List.forall_mem_cons, List.forall_mem_singleton]
    constructor
    · refine ⟨by decide, by decide, mt HasPlace.three_le_count (by decide), hsmall 3 (by decide),
        hsmall 4 (by decide), ⟨.error, by decide⟩, by decide, ⟨?_, ?_⟩⟩ <;> rintro c ⟨⟩
    · refine ⟨by decide, by decide, mt HasPlace.three_le_count (by decide), hsmall 1 (by decide),
        hsmall 0 (by decide), ⟨.note, by decide⟩, by decide, ⟨?_, ?_⟩⟩ <;>
        rintro c ⟨⟩ <;> decide
  exact ⟨hplain, diagnostics_agree (text "/p") entries hplain⟩

end Entry

end DiagnosticRelay
