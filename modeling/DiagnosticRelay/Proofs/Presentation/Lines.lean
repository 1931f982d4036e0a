import DiagnosticRelay.Presentation
import DiagnosticRelay.Proofs.CapturedOutput.Agreement
import DiagnosticRelay.Proofs.Grouping.Buckets
import DiagnosticRelay.Proofs.LineGrammar.Severity
import DiagnosticRelay.Proofs.Path.Display
import DiagnosticRelay.Proofs.Value.Written

/-!
# Lines in, lines out

A finding comes in as a line `path:row:column: token: message` and is shown as a line
`path:row:column severity message`.  In between everything about it changes and changes back: the
path is resolved and cut back to the directory, the coordinates are counted from zero and
from one again, and the findings are put into the groups of their files.  `lines_of_lines` says that
nothing remains of these steps but the arrangement: the lines of a file come together, where its
first line stood, in their order.

Two conditions are added to those under which a line means its entry.  `Entry.IsShowable` asks
for a path that is relative and in normal form, since any other is shown in another form, for
coordinates that are at least one, since a zero is shown as one, and for a path and a message
without the five controls that are not printed.
-/

namespace DiagnosticRelay

namespace Presentation

/-- Read file by file, the groups are the arrangement of what was grouped. -/
theorem listing_buckets (keyed : List (Text × HostDiagnostic)) :
    listing (Grouped.buckets keyed) = arrange Prod.fst keyed := by
  rw [listing, Grouped.buckets, List.flatMap_map, arrange]
  refine List.flatMap_congr fun file _ => ?_
  rw [List.map_map]
  refine (List.map_congr_left fun entry hentry => ?_).trans (List.map_id _)
  rw [← beq_iff_eq.mp (List.mem_filter.mp hentry).2]
  rfl

end Presentation

namespace Console

theorem plain_of_not_isDropped {t : Text} (h : ∀ c ∈ t, isDropped c = false) : plain t = t := by
  rw [plain, List.filter_eq_self]
  intro c hc
  rw [h c hc]
  rfl

end Console

/-- A coordinate that is counted from zero and then from one again. -/
theorem zeroBased_add_one {n : Nat} (h : 1 ≤ n) : zeroBased n + 1 = n := by
  rw [zeroBased]
  omega

namespace Entry

open LineGrammar

/-- The line `path:row:column severity message` that a reader in the directory of the checker is
shown. -/
def shown (entry : Entry) : Text :=
  Text.join (text ":") [entry.path, Decimal.ofNat entry.row, Decimal.ofNat entry.column]
    ++ text " " ++ Text.lower entry.token ++ .char ' ' :: entry.message

/-- The entries that are shown as they were written. -/
structure IsShowable (entry : Entry) : Prop where
  path_normal : Path.Posix.IsRelativeNormal entry.path
  path_printed : ∀ c ∈ entry.path, Console.isDropped c = false
  row_pos : 1 ≤ entry.row
  column_pos : 1 ≤ entry.column
  message_printed : ∀ c ∈ entry.message, Console.isDropped c = false

/-- The diagnostic of an entry as it is handed to a host. -/
def toHost (directory : Text) (source : Option Text) (entry : Entry) : HostDiagnostic where
  range := .ofRange? (entry.diagnostic directory).range
  message := entry.message
  severity := Severity.ofToken entry.token
  source := source

/-- There is no code that could be too long. -/
theorem toHost_diagnostic (directory : Text) (source : Option Text) (entry : Entry) :
    (entry.diagnostic directory).toHost source = .ok (entry.toHost directory source) := rfl

variable {directory : Text} (hdirectory : Path.Posix.IsNormal directory)

section Line

variable {entry : Entry} (hplain : entry.IsPlain) (hshow : entry.IsShowable)

/-- A coordinate is counted from one again as it was read, and can be written because it could be
read. -/
theorem display_coordinate {n : Nat} (hshort : n < 10 ^ Decimal.digitLimit) (hpos : 1 ≤ n) :
    (Value.int (zeroBased n + 1)).display = .ok (Decimal.ofNat n) := by
  rw [zeroBased_add_one hpos]
  exact Value.display_int hshort

include hdirectory hplain hshow in
theorem location_toHost (source : Option Text) :
    Presentation.location (some directory) (Path.resolve .posix directory entry.path)
        (entry.toHost directory source)
      = .ok (Text.join (text ":")
        [entry.path, Decimal.ofNat entry.row, Decimal.ofNat entry.column]) := by
  have hstart : (entry.toHost directory source).range.start
      = ⟨zeroBased entry.row, zeroBased entry.column⟩ := rfl
  rw [Presentation.location]
  simp only [hstart, display_coordinate hplain.row_lt hshow.row_pos,
    display_coordinate hplain.column_lt hshow.column_pos,
    Path.displayFrom_resolve hdirectory hshow.path_normal]
  rfl

include hshow in
/-- Nothing of the place is dropped when it is printed. -/
theorem plain_location :
    Console.plain (Text.join (text ":")
        [entry.path, Decimal.ofNat entry.row, Decimal.ofNat entry.column])
      = Text.join (text ":")
        [entry.path, Decimal.ofNat entry.row, Decimal.ofNat entry.column] := by
  have hdigits (n : Nat) : ∀ c ∈ Decimal.ofNat n, Console.isDropped c = false := by
    intro c hc
    by_contra hdropped
    have hdecimal := (isRun_ofNat n).decimal c hc
    simp only [Console.isDropped, Bool.not_eq_false, Bool.or_eq_true, beq_iff_eq] at hdropped
    rcases hdropped with (((rfl | rfl) | rfl) | rfl) | rfl <;> revert hdecimal <;> decide
  refine Console.plain_of_not_isDropped fun c hc => ?_
  simp only [Text.join, List.mem_append] at hc
  rcases hc with (hc | hc) | (hc | hc) | hc
  · exact hshow.path_printed c hc
  · rw [List.mem_singleton.mp hc]
    decide
  · exact hdigits entry.row c hc
  · rw [List.mem_singleton.mp hc]
    decide
  · exact hdigits entry.column c hc

include hdirectory hplain hshow in
/-- A finding is shown as it was written, but for the severity, which loses its colons and its
capitals. -/
theorem line_toHost (source : Option Text) (colour : Bool) :
    (Presentation.line (some directory) colour (Path.resolve .posix directory entry.path)
        (entry.toHost directory source)).map StyledLine.plain = .ok entry.shown := by
  obtain ⟨severity, htoken⟩ := hplain.token_name
  have hseverity : (entry.toHost directory source).severity = severity :=
    Severity.ofToken_of_lower htoken
  have hname : Console.plain severity.name = severity.name := by cases severity <;> decide
  have hmessage : Console.plain (.char ' ' :: entry.message) = .char ' ' :: entry.message := by
    refine Console.plain_of_not_isDropped fun c hc => ?_
    rcases List.mem_cons.mp hc with rfl | hc
    · decide
    · exact hshow.message_printed c hc
  have hspace : Console.plain (text " ") = text " " := by decide
  rw [Presentation.line, location_toHost hdirectory hplain hshow]
  show Except.ok (Console.plain (Text.join _ _) ++ Console.plain (text " ")
    ++ Console.plain (entry.toHost directory source).severity.name
    ++ Console.plain (.char ' ' :: entry.message)) = _
  rw [plain_location hshow, hseverity, hname, hmessage, hspace, shown, htoken]

end Line

include hdirectory in
/-- The findings with the files that they are grouped under. -/
theorem keyed_diagnostic (source : Option Text) (entries : List Entry) :
    Grouped.keyed source (entries.map (diagnostic directory))
      = .ok (entries.map fun entry =>
        (Path.resolve .posix directory entry.path, entry.toHost directory source)) := by
  have habsolute := Path.Posix.isAbsolute_of_isNormal hdirectory
  have hnormal (entry : Entry) :
      Path.Posix.IsNormal (Path.resolve .posix directory entry.path) :=
    Path.Posix.isNormal_normalize
      (Path.Posix.isAbsolute_join (Path.Posix.isAbsolute_normalize habsolute) _)
  have hnamed : (entries.map (diagnostic directory)).filter (fun diagnostic =>
      !diagnostic.file.isEmpty) = entries.map (diagnostic directory) := by
    rw [List.filter_eq_self]
    intro diagnostic hmem
    obtain ⟨entry, -, rfl⟩ := List.mem_map.mp hmem
    obtain ⟨rest, hrest⟩ := Path.Posix.exists_cons_of_isAbsolute
      (Path.Posix.isAbsolute_of_isNormal (hnormal entry))
    show (!(Path.resolve .posix directory entry.path).isEmpty) = true
    rw [hrest]
    rfl
  rw [Grouped.keyed, hnamed, List.mapM_map]
  refine mapM_eq_ok_map fun entry _ => ?_
  have hkey : Path.canonical .posix (entry.diagnostic directory).file
      = Path.resolve .posix directory entry.path :=
    Path.Posix.normalize_of_isNormal (hnormal entry)
  rw [Function.comp_apply, toHost_diagnostic, hkey]
  rfl

include hdirectory in
/-- **Lines in, lines out.**  What is read from lines, grouped, and shown to a reader in the
directory of the checker is the lines again, one for each, with the lines of a path together
where the first of them stood. -/
theorem lines_of_lines (source : Option Text) (colour : Bool) (entries : List Entry)
    (hplain : ∀ entry ∈ entries, entry.IsPlain) (hshow : ∀ entry ∈ entries, entry.IsShowable) :
    ∃ found grouped,
      TextReport.diagnostics directory (Text.join [lineFeed] (entries.map line)) = .ok found ∧
      Grouped.ofDiagnostics source found = .ok grouped ∧
      ((Presentation.listing grouped).mapM fun entry =>
          (Presentation.line (some directory) colour entry.1 entry.2).map StyledLine.plain)
        = .ok ((arrange path entries).map shown) ∧
      (arrange path entries).Perm entries := by
  have hkeys : arrange (fun entry => Path.resolve .posix directory entry.path) entries
      = arrange path entries :=
    arrange_congr _ _ entries fun a ha b hb =>
      Path.resolve_inj hdirectory (hshow a ha).path_normal (hshow b hb).path_normal
  refine ⟨entries.map (diagnostic directory), _, diagnostics_join_line hplain directory,
    by rw [Grouped.ofDiagnostics_eq_buckets, keyed_diagnostic hdirectory, Except.map], ?_,
    arrange_perm path entries⟩
  rw [Presentation.listing_buckets, arrange_map, List.mapM_map, hkeys]
  refine mapM_eq_ok_map fun entry hentry => ?_
  have hmem := (arrange_perm path entries).mem_iff.mp hentry
  exact line_toHost hdirectory (hplain entry hmem) (hshow entry hmem) source colour

/-- Three findings in two files: the third goes before the second, whose path ends like a line
number and whose message is empty. -/
theorem lines_of_lines_interleaved :
    let entries : List Entry := [⟨text "src/b.c", 2, 1, text "eRRor", text "one"⟩,
      ⟨text "a:1", 1, 9, text "Note", []⟩, ⟨text "src/b.c", 1, 3, text "info", text "c: two"⟩]
    Path.Posix.IsNormal (text "//p") ∧ (∀ entry ∈ entries, entry.IsPlain) ∧
      (∀ entry ∈ entries, entry.IsShowable) ∧
      ∃ found grouped,
        TextReport.diagnostics (text "//p") (Text.join [lineFeed] (entries.map line)) = .ok found ∧
        Grouped.ofDiagnostics none found = .ok grouped ∧
        ((Presentation.listing grouped).mapM fun entry =>
            (Presentation.line (some (text "//p")) true entry.1 entry.2).map StyledLine.plain)
          = .ok [text "src/b.c:2:1 error one", text "src/b.c:1:3 info c: two",
            text "a:1:1:9 note "] := by
  intro entries
  have hnormal : Path.Posix.IsNormal (text "//p") :=
    Path.Posix.isNormal_iff.mpr ⟨text "//", [text "p"], rfl, Or.inr rfl, by
      rw [List.forall_mem_singleton]
      exact ⟨by decide, by decide, by decide, by decide⟩⟩
  have hsmall (n : Nat) (h : n < 10) : n < 10 ^ Decimal.digitLimit :=
    h.trans_le (Nat.le_self_pow (by decide) 10)
  have hplain : ∀ entry ∈ entries, entry.IsPlain := by
    rw [List.forall_mem_cons, List.forall_mem_cons, List.forall_mem_singleton]
    refine ⟨?_, ?_, ?_⟩
    · refine ⟨by decide, by decide, mt HasPlace.three_le_count (by decide), hsmall 2 (by decide),
        hsmall 1 (by decide), ⟨.error, by decide⟩, by decide, ⟨?_, ?_⟩⟩ <;> rintro c ⟨⟩ <;> decide
    · refine ⟨by decide, by decide, mt HasPlace.three_le_count (by decide), hsmall 1 (by decide),
        hsmall 9 (by decide), ⟨.note, by decide⟩, by decide, ⟨?_, ?_⟩⟩ <;> rintro c ⟨⟩
    · refine ⟨by decide, by decide, mt HasPlace.three_le_count (by decide), hsmall 1 (by decide),
        hsmall 3 (by decide), ⟨.info, by decide⟩, by decide, ⟨?_, ?_⟩⟩ <;> rintro c ⟨⟩ <;> decide
  have hshow : ∀ entry ∈ entries, entry.IsShowable := by
    rw [List.forall_mem_cons, List.forall_mem_cons, List.forall_mem_singleton]
    refine ⟨?_, ?_, ?_⟩ <;> exact ⟨by decide, by decide, by decide, by decide, by decide⟩
  obtain ⟨found, grouped, hfound, hgrouped, hlines, -⟩ :=
    lines_of_lines hnormal none true entries hplain hshow
  have hshown : (arrange path entries).map shown = [text "src/b.c:2:1 error one",
      text "src/b.c:1:3 info c: two", text "a:1:1:9 note "] := by
    decide +kernel
  exact ⟨hnormal, hplain, hshow, found, grouped, hfound, hgrouped,
    hlines.trans (congrArg Except.ok hshown)⟩

end Entry

end DiagnosticRelay
