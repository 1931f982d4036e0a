import DiagnosticRelay.Proofs.LineGrammar.Overlong
import DiagnosticRelay.Proofs.LineGrammar.Word
import Mathlib.Order.Minimal

/-!
# Where a location rule cuts a line

A location rule tries ever longer paths and takes the first one behind which the rest of the line
has the form of a place, a severity word and a message.  A `LocationCut` is a cut of a line of this
form, by whatever path, and `apply_location` says that the rule accepts exactly the lines that have
a cut, and reads them by the cut with the shortest path.

* `afterPath?_eq_some_iff` cuts the rest of a line behind its path.
* `eq_of_length_path` says that the path fixes everything else: a run of digits is bounded by the
  colon behind it, the blanks by the word behind them, and no two words begin alike.
* `location?_eq_some_iff` adds the search for the path.

## Places in a path

`location?_true_eq_some` cuts a line behind a path that is known.  A path may hold a colon and
digits, even at its end; but a shorter path would leave two coordinates and a colon that lie inside
the path, or reach into the true ones, and then a digit follows where a word should begin.  So it
is enough that the path holds no place of its own.
-/

namespace DiagnosticRelay

/-- A line of the form `path:row:column:`, blanks, a severity word and a rest, or of this form
without the column. -/
structure LocationCut where
  path : Text
  row : Text
  column : Option Text
  blanks : Text
  token : Text
  rest : Text

namespace LocationCut

open LineGrammar

/-- A column with the colon before it, if there is one. -/
def columnText : Option Text → Text
  | some column => .char ':' :: column
  | none => []

/-- What follows the path. -/
def behindPath (cut : LocationCut) : Text :=
  .char ':' :: (cut.row ++ (columnText cut.column ++
    .char ':' :: (cut.blanks ++ (cut.token ++ cut.rest))))

/-- The line that is cut. -/
def line (cut : LocationCut) : Text := cut.path ++ cut.behindPath

/-- The parts behind the path are what they should be. -/
structure IsFormed (hasColumn : Bool) (cut : LocationCut) : Prop where
  row : IsRun cut.row
  column_isSome : cut.column.isSome = hasColumn
  column : ∀ column ∈ cut.column, IsRun column
  blanks : ∀ c ∈ cut.blanks, c.isBlank = true
  token : ∃ severity : Severity, cut.token.Spells severity.name

/-- A cut of a given line. -/
structure IsOf (hasColumn : Bool) (line : Text) (cut : LocationCut) : Prop where
  line_eq : cut.line = line
  path_ne_nil : cut.path ≠ []
  formed : cut.IsFormed hasColumn
  rest_ne_nil : cut.rest ≠ []

/-- A cut of a given line by the shortest path. -/
structure IsShortestOf (hasColumn : Bool) (line : Text) (cut : LocationCut) : Prop where
  isOf : cut.IsOf hasColumn line
  shortest : ∀ other : LocationCut, other.IsOf hasColumn line →
    cut.path.length ≤ other.path.length

/-- The diagnostic of a cut, for a checker that ran in a directory. -/
def diagnostic (directory : Text) (cut : LocationCut) : Diagnostic where
  file := Path.resolve .posix directory cut.path
  message := messageOf cut.rest
  severity := Severity.ofToken cut.token
  range := some ⟨⟨Decimal.numberOf cut.row, (cut.column.map fun column =>
    (Decimal.numberOf column : Int)).getD 1⟩, none⟩

/-- The runs of digits that a cut is read with. -/
def runs (cut : LocationCut) : List Text := cut.row :: cut.column.toList

/-- The location of a cut whose message has been found. -/
def location (cut : LocationCut) (message : Text) : Location :=
  ⟨cut.path, Decimal.leadingDigits cut.row, cut.column.map Decimal.leadingDigits, cut.token,
    message⟩

variable {hasColumn : Bool} {cut other : LocationCut} {t : Text} {found : Location}

/-! ## The rest of a line behind its path -/

/-- What follows the blanks is neither blank nor a digit. -/
theorem IsFormed.head?_token (h : cut.IsFormed hasColumn) :
    ∀ c ∈ (cut.token ++ cut.rest).head?, c.isBlank = false ∧ c.isDecimal = false := by
  obtain ⟨severity, hspells⟩ := h.token
  obtain ⟨c, letters, hcons, hc⟩ := exists_cons_of_spells hspells
  rw [hcons]
  rintro d ⟨⟩
  exact isBlank_of_matchesLetter_initial hc

/-- No digit follows the last colon. -/
theorem IsFormed.stopsRun (h : cut.IsFormed hasColumn) :
    StopsRun (cut.blanks ++ (cut.token ++ cut.rest)) := by
  have hblanks := h.blanks
  have htoken := h.head?_token
  cases hcut : cut.blanks with
  | nil =>
    intro c tail heq
    rw [show cut.token ++ cut.rest = c :: tail from heq] at htoken
    exact (htoken c rfl).2
  | cons c blanks =>
    rw [hcut] at hblanks
    exact stopsRun_cons
      (CodePoint.isDecimal_of_isBlank (hblanks c (List.mem_cons_self ..))) _

theorem IsFormed.dropWhile_isBlank (h : cut.IsFormed hasColumn) :
    (cut.blanks ++ (cut.token ++ cut.rest)).dropWhile CodePoint.isBlank
      = cut.token ++ cut.rest := by
  obtain ⟨severity, hspells⟩ := h.token
  obtain ⟨c, letters, hcons, hc⟩ := exists_cons_of_spells hspells
  rw [List.dropWhile_append_of_pos h.blanks, hcons, List.cons_append,
    List.dropWhile_cons_of_neg (by simp [(isBlank_of_matchesLetter_initial hc).1])]

theorem stopsRun_columnText (column : Option Text) (tail : Text) :
    StopsRun (columnText column ++ .char ':' :: tail) := by
  cases column with
  | none => exact stopsRun_colon tail
  | some column => exact stopsRun_colon _

/-- Columns can be told from what follows them, if that begins with a colon. -/
theorem columnText_append_inj {column other : Option Text} {tail more : Text}
    (hsome : column.isSome = other.isSome) (hcolumn : ∀ run ∈ column, IsRun run)
    (hother : ∀ run ∈ other, IsRun run)
    (h : columnText column ++ .char ':' :: tail = columnText other ++ .char ':' :: more) :
    column = other ∧ tail = more := by
  cases column with
  | none =>
    rw [eq_comm, Option.isSome_none, Option.isSome_eq_false_iff, Option.isNone_iff_eq_none] at hsome
    subst hsome
    exact ⟨rfl, (List.cons.inj h).2⟩
  | some run =>
    obtain ⟨run', rfl⟩ := Option.isSome_iff_exists.mp hsome.symm
    obtain ⟨rfl, htail⟩ := Text.append_inj_of_head? (hcolumn run rfl).decimal
      (hother run' rfl).decimal (stopsRun_colon tail).head? (stopsRun_colon more).head?
      (List.cons.inj h).2
    exact ⟨rfl, (List.cons.inj htail).2⟩

/-- A coordinate that may be left out, and what follows it. -/
def takeColumn? (hasColumn : Bool) (t : Text) : Option (Option (List Nat) × Text) :=
  if hasColumn then (takeColonDigits? t).map fun found => (some found.1, found.2)
  else some (none, t)

theorem afterPath?_eq (hasColumn : Bool) (t : Text) :
    afterPath? hasColumn t
      = (takeColonDigits? t).bind fun row => (takeColumn? hasColumn row.2).bind fun column =>
          match column.2 with
          | .char ':' :: tail => (tokenAndMessage? (tail.dropWhile CodePoint.isBlank)).bind
              fun found => some ⟨[], row.1, column.1, found.1, found.2⟩
          | _ => none := by
  cases hasColumn <;> rfl

/-- The column behind a row, if there should be one, with a colon behind it. -/
theorem takeColumn?_eq_some_iff {digits : Option (List Nat)} {tail : Text} :
    takeColumn? hasColumn t = some (digits, .char ':' :: tail) ↔
      ∃ column : Option Text, column.isSome = hasColumn ∧ (∀ run ∈ column, IsRun run) ∧
        t = columnText column ++ .char ':' :: tail ∧
        digits = column.map Decimal.leadingDigits := by
  rw [takeColumn?]
  cases hasColumn with
  | false =>
    rw [if_neg Bool.false_ne_true]
    constructor
    · rintro ⟨⟩
      exact ⟨none, rfl, by simp, rfl, rfl⟩
    · rintro ⟨column, hcolumn, -, rfl, rfl⟩
      rw [Option.isSome_eq_false_iff, Option.isNone_iff_eq_none] at hcolumn
      rw [hcolumn]
      rfl
  | true =>
    rw [if_pos rfl, Option.map_eq_some_iff]
    constructor
    · rintro ⟨⟨digits, rest⟩, hfound, heq⟩
      cases heq
      obtain ⟨run, rfl, hrun, -, rfl⟩ := takeColonDigits?_eq_some_iff.mp hfound
      exact ⟨some run, rfl, by simpa using hrun, rfl, rfl⟩
    · rintro ⟨column, hcolumn, hruns, rfl, rfl⟩
      obtain ⟨run, rfl⟩ := Option.isSome_iff_exists.mp hcolumn
      exact ⟨_, takeColonDigits?_eq_some_iff.mpr
        ⟨run, rfl, hruns run rfl, stopsRun_colon tail, rfl⟩, rfl⟩

theorem afterPath?_of_isFormed {message : Text} (h : cut.IsFormed hasColumn)
    (hmessage : messageAfterToken? cut.rest = some message) :
    afterPath? hasColumn cut.behindPath = some { cut.location message with path := [] } := by
  obtain ⟨severity, hspells⟩ := h.token
  have hfound : tokenAndMessage? (cut.token ++ cut.rest) = some (cut.token, message) :=
    tokenAndMessage?_eq_some_iff.mpr ⟨severity, cut.rest, rfl, hspells, hmessage⟩
  rw [afterPath?_eq, behindPath,
    takeColonDigits?_eq_some_iff.mpr ⟨cut.row, rfl, h.row, stopsRun_columnText _ _, rfl⟩,
    Option.bind_some,
    takeColumn?_eq_some_iff.mpr ⟨cut.column, h.column_isSome, h.column, rfl, rfl⟩]
  simp only [Option.bind_some, h.dropWhile_isBlank, hfound]
  rfl

/-- **The rest of a line behind its path** is cut into coordinates, a word and a message. -/
theorem afterPath?_eq_some_iff (path : Text) :
    afterPath? hasColumn t = some found ↔
      ∃ cut : LocationCut, cut.path = path ∧ cut.IsFormed hasColumn ∧ t = cut.behindPath ∧
        ∃ message, messageAfterToken? cut.rest = some message ∧
          found = { cut.location message with path := [] } := by
  constructor
  · intro h
    rw [afterPath?_eq] at h
    obtain ⟨⟨_, afterRow⟩, hfirst, h⟩ := Option.bind_eq_some_iff.mp h
    obtain ⟨⟨_, afterColumn⟩, hcolumn, h⟩ := Option.bind_eq_some_iff.mp h
    simp only at h
    split at h
    · next tail =>
      obtain ⟨⟨token, message⟩, htoken, h⟩ := Option.bind_eq_some_iff.mp h
      cases h
      obtain ⟨row, rfl, hrow, -, rfl⟩ := takeColonDigits?_eq_some_iff.mp hfirst
      obtain ⟨column, hsome, hruns, rfl, rfl⟩ := takeColumn?_eq_some_iff.mp hcolumn
      obtain ⟨severity, rest, hdrop, hspells, hmessage⟩ := tokenAndMessage?_eq_some_iff.mp htoken
      refine ⟨⟨path, row, column, tail.takeWhile CodePoint.isBlank, token, rest⟩, rfl,
        ⟨hrow, hsome, hruns, fun c hc => List.all_eq_true.mp List.all_takeWhile c hc,
          severity, hspells⟩, ?_, message, hmessage, rfl⟩
      rw [behindPath, ← hdrop, List.takeWhile_append_dropWhile]
    · cases h
  · rintro ⟨cut, -, h, rfl, message, hmessage, rfl⟩
    exact afterPath?_of_isFormed h hmessage

/-! ## The path fixes the cut -/

/-- Two cuts of a line with paths of the same length are the same cut. -/
theorem eq_of_length_path {line : Text} (h : cut.IsOf hasColumn line)
    (hother : other.IsOf hasColumn line) (hlength : cut.path.length = other.path.length) :
    cut = other := by
  obtain ⟨path, row, column, blanks, token, rest⟩ := cut
  obtain ⟨path', row', column', blanks', token', rest'⟩ := other
  have hformed := h.formed
  have hformed' := hother.formed
  obtain ⟨rfl, hbehind⟩ := List.append_inj (h.line_eq.trans hother.line_eq.symm) hlength
  obtain ⟨rfl, hrow⟩ := Text.append_inj_of_head? hformed.row.decimal hformed'.row.decimal
    (stopsRun_columnText _ _).head? (stopsRun_columnText _ _).head? (List.cons.inj hbehind).2
  obtain ⟨rfl, hcolumn⟩ := columnText_append_inj
    (hformed.column_isSome.trans hformed'.column_isSome.symm) hformed.column hformed'.column hrow
  obtain ⟨rfl, htoken⟩ := Text.append_inj_of_head? hformed.blanks hformed'.blanks
    (fun c hc => (hformed.head?_token c hc).1) (fun c hc => (hformed'.head?_token c hc).1) hcolumn
  obtain ⟨severity, hspells⟩ := hformed.token
  obtain ⟨severity', hspells'⟩ := hformed'.token
  obtain ⟨-, rfl, rfl⟩ := spells_append_inj hspells hspells' htoken
  rfl

/-! ## The shortest path -/

theorem location?_eq_some_iff {line : Text} :
    location? hasColumn line = some found ↔
      ∃ cut : LocationCut, cut.line = line ∧ cut.path ≠ [] ∧ lineFeed ∉ cut.path ∧
        cut.IsFormed hasColumn ∧
        (∀ shorter longer, line = shorter ++ longer → shorter ≠ [] →
          shorter.length < cut.path.length → afterPath? hasColumn longer = none) ∧
        ∃ message, messageAfterToken? cut.rest = some message ∧
          found = cut.location message := by
  rw [location?_eq, Option.map_eq_some_iff]
  constructor
  · rintro ⟨⟨path, found⟩, hfound, rfl⟩
    obtain ⟨rest, hpath⟩ := findPath?_eq_some_iff.mp hfound
    obtain ⟨cut, rfl, hformed, rfl, message, hmessage, rfl⟩ :=
      (afterPath?_eq_some_iff path).mp hpath.reads
    exact ⟨cut, hpath.split.symm, hpath.path_ne_nil, hpath.path_line, hformed, hpath.first,
      message, hmessage, rfl⟩
  · rintro ⟨cut, rfl, hpath, hline, hformed, hfirst, message, hmessage, rfl⟩
    exact ⟨(cut.path, _), findPath?_eq_some_iff.mpr ⟨cut.behindPath, rfl, hpath,
      List.cons_ne_nil _ _, hline, afterPath?_of_isFormed hformed hmessage, hfirst⟩, rfl⟩

theorem IsOf.lineFeed_not_mem {line : Text} (h : cut.IsOf hasColumn line)
    (hline : lineFeed ∉ line) : lineFeed ∉ cut.path ∧ lineFeed ∉ cut.rest := by
  rw [← h.line_eq, LocationCut.line, behindPath] at hline
  simp only [List.mem_append, List.mem_cons, not_or] at hline
  exact ⟨hline.1, hline.2.2.2.2.2.2.2⟩

/-- A rest that is cut into parts with a message has something for the message. -/
theorem rest_ne_nil_of_message {message : Text}
    (h : messageAfterToken? cut.rest = some message) : cut.rest ≠ [] := by
  intro hnil
  rw [hnil] at h
  cases h

/-- A location that is found comes from a cut. -/
theorem exists_isOf_of_location? {line : Text} (h : location? hasColumn line = some found) :
    ∃ cut : LocationCut, cut.IsOf hasColumn line := by
  obtain ⟨cut, hline, hpath, -, hformed, -, message, hmessage, -⟩ := location?_eq_some_iff.mp h
  exact ⟨cut, hline, hpath, hformed, rest_ne_nil_of_message hmessage⟩

/-- The location that is found is that of the cut with the shortest path. -/
theorem IsShortestOf.exists_location? {line : Text} (hcut : cut.IsShortestOf hasColumn line)
    (hline : lineFeed ∉ line) :
    ∃ message, Text.trim message = messageOf cut.rest ∧
      location? hasColumn line = some (cut.location message) := by
  have h := hcut.isOf
  obtain ⟨hpath, hrest⟩ := h.lineFeed_not_mem hline
  obtain ⟨message, hmessage, htrim⟩ := exists_messageAfterToken?_of_ne_nil h.rest_ne_nil hrest
  refine ⟨message, htrim, location?_eq_some_iff.mpr
    ⟨cut, h.line_eq, h.path_ne_nil, hpath, h.formed, ?_, message, hmessage, rfl⟩⟩
  rintro shorter longer rfl hne hlength
  rw [Option.eq_none_iff_forall_ne_some]
  intro _ hfound
  obtain ⟨other, rfl, hformed, rfl, _, hother, -⟩ := (afterPath?_eq_some_iff shorter).mp hfound
  have hle := hcut.shortest other ⟨rfl, hne, hformed, rest_ne_nil_of_message hother⟩
  omega

theorem IsOf.exists_isShortestOf {line : Text} (h : cut.IsOf hasColumn line) :
    ∃ first : LocationCut, first.IsShortestOf hasColumn line := by
  obtain ⟨first, hfirst, hmin⟩ := exists_minimalFor_of_wellFoundedLT
    (fun cut : LocationCut => cut.IsOf hasColumn line) (fun cut => cut.path.length) ⟨cut, h⟩
  exact ⟨first, hfirst, fun other hother => (Nat.le_total _ _).elim id (hmin hother)⟩

end LocationCut

namespace LineGrammar

/-! ## Places in a path -/

/-- Two runs of digits with a colon before, between and behind them, anywhere in a text. -/
def HasPlace (t : Text) : Prop :=
  ∃ before row column after,
    t = before ++ .char ':' :: (row ++ .char ':' :: (column ++ .char ':' :: after)) ∧
      IsRun row ∧ IsRun column

theorem HasPlace.append {t : Text} (h : HasPlace t) (before : Text) : HasPlace (before ++ t) := by
  obtain ⟨start, row, column, after, rfl, hrow, hcolumn⟩ := h
  exact ⟨before ++ start, row, column, after, (List.append_assoc ..).symm, hrow, hcolumn⟩

theorem HasPlace.three_le_count {t : Text} (h : HasPlace t) : 3 ≤ t.count (.char ':') := by
  obtain ⟨before, row, column, after, rfl, -, -⟩ := h
  simp only [List.count_append, List.count_cons_self]
  omega

/-- A rest that is cut has two coordinates with a colon behind them, and no digit follows it. -/
theorem place_of_afterPath?_true {t : Text} {location : Location}
    (h : afterPath? true t = some location) :
    ∃ row column rest, t = .char ':' :: (row ++ .char ':' :: (column ++ .char ':' :: rest)) ∧
      IsRun row ∧ IsRun column ∧ StopsRun rest := by
  obtain ⟨cut, -, hformed, rfl, -⟩ := (LocationCut.afterPath?_eq_some_iff []).mp h
  obtain ⟨column, hcolumn⟩ := Option.isSome_iff_exists.mp hformed.column_isSome
  refine ⟨cut.row, column, cut.blanks ++ (cut.token ++ cut.rest), ?_, hformed.row,
    hformed.column column hcolumn, hformed.stopsRun⟩
  rw [LocationCut.behindPath, hcolumn]
  rfl

/-- What begins inside a path without places is not cut. -/
theorem afterPath?_append_eq_none {path row column rest : Text} (hne : path ≠ [])
    (hplace : ¬HasPlace path) (hrow : IsRun row) (hcolumn : IsRun column) :
    afterPath? true (path ++ .char ':' :: (row ++ .char ':' :: (column ++ rest))) = none := by
  rw [Option.eq_none_iff_forall_ne_some]
  intro location h
  obtain ⟨first, second, after, heq, hfirst, hsecond, hafter⟩ := place_of_afterPath?_true h
  obtain ⟨c, path, rfl⟩ := List.exists_cons_of_ne_nil hne
  obtain ⟨rfl, htail⟩ := List.cons.inj heq
  rcases run_colon_cases hfirst.decimal htail.symm with ⟨-, hrest⟩ | ⟨more, rfl, hrest⟩
  · -- the second run is the row, and the column follows it
    rcases run_colon_cases hsecond.decimal hrest with ⟨-, rfl⟩ | ⟨more, hmore, -⟩
    · exact hcolumn.not_stopsRun_append rest hafter
    · exact hrow.ne_append_colon hmore
  · -- the second run lies in the path, and either the row follows it or a colon of the path
    rcases run_colon_cases hsecond.decimal hrest with ⟨-, rfl⟩ | ⟨others, rfl, -⟩
    · exact hrow.not_stopsRun_append _ hafter
    · exact hplace ⟨[], first, second, others, rfl, hfirst, hsecond⟩

/-- **A line with a path, a place, a word and a message is cut into them**, if the path holds no
place of its own. -/
theorem location?_true_eq_some {path row column token message rest : Text} {severity : Severity}
    (hpath : path ≠ []) (hline : lineFeed ∉ path) (hplace : ¬HasPlace path) (hrow : IsRun row)
    (hcolumn : IsRun column) (htoken : Text.lower token = severity.name)
    (hmessage : messageAfterToken? rest = some message) :
    location? true (path ++ .char ':' :: (row ++ .char ':' :: (column ++ .char ':' :: .char ' ' ::
        (token ++ rest))))
      = some ⟨path, Decimal.leadingDigits row, some (Decimal.leadingDigits column), token,
          message⟩ := by
  refine LocationCut.location?_eq_some_iff.mpr
    ⟨⟨path, row, some column, [.char ' '], token, rest⟩, rfl, hpath, hline,
      ⟨hrow, rfl, ?_, ?_, severity, Text.spells_of_lower htoken⟩, ?_, message, hmessage, rfl⟩
  · rintro run ⟨⟩
    exact hcolumn
  · exact List.forall_mem_singleton.mpr (by decide)
  · -- a shorter path leaves a rest that begins inside the path
    rintro shorter longer heq - hlength
    rcases List.append_eq_append_iff.mp heq with ⟨more, rfl, -⟩ | ⟨second, rfl, rfl⟩
    · exact absurd hlength (Nat.not_lt.mpr (List.prefix_append path more).length_le)
    · refine afterPath?_append_eq_none ?_ (mt (HasPlace.append · shorter) hplace) hrow hcolumn
      rintro rfl
      exact absurd hlength (by rw [List.append_nil]; exact Nat.lt_irrefl _)

end LineGrammar

namespace LocationCut

open LineGrammar

variable {hasColumn : Bool} {cut : LocationCut}

/-! ## The rules -/

theorem hasLongRun_location_iff {message : Text} (h : cut.IsFormed hasColumn) :
    LineRule.HasLongRun ((cut.location message).row :: (cut.location message).column.toList) ↔
      ∃ run ∈ cut.runs, Decimal.digitLimit < run.length := by
  obtain ⟨path, row, column, blanks, token, rest⟩ := cut
  have hrow := Decimal.length_leadingDigits_of_isDecimal h.row.decimal
  cases column with
  | none => simp [LineRule.HasLongRun, location, runs, hrow]
  | some column =>
    have hcolumn := Decimal.length_leadingDigits_of_isDecimal (h.column column rfl).decimal
    simp [LineRule.HasLongRun, location, runs, hrow, hcolumn]

/-- A cut is read with its numbers if none of its runs has too many digits, and with the message that
was found for it. -/
theorem ofLocation_eq_ok_iff (directory : Text) {message : Text} {diagnostic : Diagnostic}
    (h : cut.IsFormed hasColumn) :
    LineRule.ofLocation directory (cut.location message) = .ok diagnostic ↔
      (∀ run ∈ cut.runs, run.length ≤ Decimal.digitLimit) ∧
        diagnostic = { cut.diagnostic directory with message := Text.trim message } := by
  have hread (hruns : ∀ run ∈ cut.runs, run.length ≤ Decimal.digitLimit) :
      LineRule.ofLocation directory (cut.location message)
        = .ok { cut.diagnostic directory with message := Text.trim message } := by
    obtain ⟨path, row, column, blanks, token, rest⟩ := cut
    obtain ⟨hrow, hcolumn⟩ := List.forall_mem_cons.mp hruns
    have hfirst := LineRule.coordinate_eq h.row
    rw [if_pos hrow] at hfirst
    cases column with
    | none =>
      simp only [LineRule.ofLocation, location, hfirst]
      rfl
    | some column =>
      have hsecond := LineRule.coordinate_eq (h.column column rfl)
      rw [if_pos (hcolumn column (List.mem_singleton_self column))] at hsecond
      simp only [LineRule.ofLocation, location, Option.map_some, hfirst, hsecond]
      rfl
  constructor
  · intro hok
    have hshort := (LineRule.ofLocation_overflows directory _).ok_iff.mp ⟨_, hok⟩
    rw [hasLongRun_location_iff h] at hshort
    have hruns : ∀ run ∈ cut.runs, run.length ≤ Decimal.digitLimit := by
      simpa only [not_exists, not_and, Nat.not_lt] using hshort
    exact ⟨hruns, Except.ok.inj (hok.symm.trans (hread hruns))⟩
  · rintro ⟨hruns, rfl⟩
    exact hread hruns

theorem ofLocation_location (directory : Text) {message : Text} (h : cut.IsFormed hasColumn)
    (hmessage : Text.trim message = messageOf cut.rest)
    (hruns : ∀ run ∈ cut.runs, run.length ≤ Decimal.digitLimit) :
    LineRule.ofLocation directory (cut.location message) = .ok (cut.diagnostic directory) := by
  rw [ofLocation_eq_ok_iff directory h, hmessage]
  exact ⟨hruns, rfl⟩

end LocationCut

/-- The rule for locations with or without a column. -/
def LineRule.location (hasColumn : Bool) : LineRule :=
  if hasColumn then .locationWithColumn else .locationWithoutColumn

namespace LocationCut

open LineGrammar

theorem runs?_location (hasColumn : Bool) (line : Text) :
    (LineRule.location hasColumn).runs? line
      = (location? hasColumn line).map fun found => found.row :: found.column.toList := by
  cases hasColumn <;> rfl

theorem apply_of_location? (directory : Text) {line : Text} {found : Location}
    {diagnostic : Diagnostic} (h : location? hasColumn line = some found)
    (hread : LineRule.ofLocation directory found = .ok diagnostic) :
    (LineRule.location hasColumn).apply directory line = .ok (some diagnostic) := by
  cases hasColumn <;>
    simp only [LineRule.location, LineRule.apply, if_true, Bool.false_eq_true, if_false, h, hread,
      Except.map]

/-- There is a location in exactly the lines that can be cut. -/
theorem isSome_location?_iff {line : Text} (hline : lineFeed ∉ line) :
    (location? hasColumn line).isSome = true ↔ ∃ cut : LocationCut, cut.IsOf hasColumn line := by
  constructor
  · intro h
    obtain ⟨found, hfound⟩ := Option.isSome_iff_exists.mp h
    exact exists_isOf_of_location? hfound
  · rintro ⟨cut, hcut⟩
    obtain ⟨first, hfirst⟩ := hcut.exists_isShortestOf
    obtain ⟨message, -, hfound⟩ := hfirst.exists_location? hline
    rw [hfound, Option.isSome_some]

/-- The cut by which a rule reads a line, and the message that it finds in it. -/
structure IsReadOf (hasColumn : Bool) (line : Text) (cut : LocationCut) (message : Text) : Prop where
  isOf : cut.IsOf hasColumn line
  found : location? hasColumn line = some (cut.location message)
  reads : messageAfterToken? cut.rest = some message

/-- What a rule finds in a line, it finds by a cut. -/
theorem exists_isReadOf_of_apply {directory line : Text} {diagnostic : Diagnostic}
    (h : (LineRule.location hasColumn).apply directory line = .ok (some diagnostic)) :
    ∃ cut message, IsReadOf hasColumn line cut message ∧
      (∀ run ∈ cut.runs, run.length ≤ Decimal.digitLimit) ∧
      diagnostic = { cut.diagnostic directory with message := Text.trim message } := by
  have hfound : ∃ found, location? hasColumn line = some found ∧
      LineRule.ofLocation directory found = .ok diagnostic := by
    cases hlocation : location? hasColumn line with
    | none =>
      cases hasColumn <;>
        simp [LineRule.location, LineRule.apply, hlocation] at h
    | some found =>
      refine ⟨found, rfl, ?_⟩
      cases hasColumn <;>
        simpa [LineRule.location, LineRule.apply, hlocation, map_eq_ok] using h
  obtain ⟨found, hlocation, hread⟩ := hfound
  obtain ⟨cut, hline, hpath, -, hformed, -, message, hmessage, rfl⟩ :=
    location?_eq_some_iff.mp hlocation
  exact ⟨cut, message, ⟨⟨hline, hpath, hformed, rest_ne_nil_of_message hmessage⟩, hlocation,
    hmessage⟩, (ofLocation_eq_ok_iff directory hformed).mp hread⟩

/-- Where no line feed is in the way, a line is read by the cut with the shortest path. -/
theorem IsReadOf.isShortestOf {line message : Text} (h : IsReadOf hasColumn line cut message)
    (hline : lineFeed ∉ line) : cut.IsShortestOf hasColumn line := by
  obtain ⟨first, hfirst⟩ := h.isOf.exists_isShortestOf
  obtain ⟨other, -, hfound⟩ := hfirst.exists_location? hline
  have hpath := congrArg Location.path (Option.some.inj (h.found.symm.trans hfound))
  rwa [eq_of_length_path h.isOf hfirst.isOf (congrArg List.length hpath)]

/-- **A location rule accepts exactly the lines that can be cut, and reads them by the cut with the
shortest path**, which is the only cut with a path of its length.  It fails on a line that it
accepts only where a run has more digits than are read. -/
theorem apply_location (directory : Text) (hasColumn : Bool) {line : Text}
    (hline : lineFeed ∉ line) :
    ((LineRule.location hasColumn).apply directory line ≠ .ok none ↔
      ∃ cut : LocationCut, cut.IsOf hasColumn line) ∧
    (∀ cut : LocationCut, cut.IsOf hasColumn line →
      ∃ first : LocationCut, first.IsShortestOf hasColumn line) ∧
    (∀ cut other : LocationCut, cut.IsOf hasColumn line → other.IsOf hasColumn line →
      cut.path.length = other.path.length → cut = other) ∧
    ∀ cut : LocationCut, cut.IsShortestOf hasColumn line →
      ((∀ run ∈ cut.runs, run.length ≤ Decimal.digitLimit) →
        (LineRule.location hasColumn).apply directory line
          = .ok (some (cut.diagnostic directory))) ∧
      ((∃ fault, (LineRule.location hasColumn).apply directory line = .error fault) ↔
        ∃ run ∈ cut.runs, Decimal.digitLimit < run.length) := by
  refine ⟨?_, fun cut hcut => hcut.exists_isShortestOf,
    fun cut other h hother => eq_of_length_path h hother, fun cut hcut => ?_⟩
  · rw [LineRule.apply_ne_none_iff, runs?_location, Option.isSome_map, isSome_location?_iff hline]
  · have hformed := hcut.isOf.formed
    obtain ⟨message, htrim, hfound⟩ := hcut.exists_location? hline
    refine ⟨fun hruns =>
      apply_of_location? directory hfound (ofLocation_location directory hformed htrim hruns), ?_⟩
    rw [LineRule.apply_error_iff directory (by rw [runs?_location, hfound]; rfl)]
    exact hasLongRun_location_iff hformed

/-- A line that is cut behind the first of its two locations. -/
theorem apply_location_nested :
    lineFeed ∉ text "a:1:2: error: b:3:4: note: c" ∧
    (LineRule.location true).apply (text "/w") (text "a:1:2: error: b:3:4: note: c")
      = .ok (some {
          file := text "/w/a"
          message := text "b:3:4: note: c"
          severity := .error
          range := some ⟨⟨1, 2⟩, none⟩ }) := by
  have hline : lineFeed ∉ text "a:1:2: error: b:3:4: note: c" := by decide
  have hcut : LocationCut.IsOf true (text "a:1:2: error: b:3:4: note: c")
      ⟨text "a", text "1", some (text "2"), text " ", text "error", text ": b:3:4: note: c"⟩ := by
    refine ⟨by decide, by decide, ⟨⟨by decide, by decide⟩, rfl, ?_, by decide, .error, ?_⟩,
      by decide⟩
    · rintro run ⟨⟩
      exact ⟨by decide, by decide⟩
    · exact Text.spells_of_lower (by decide)
  -- a path of one code point is the shortest, because paths are not empty
  have hshortest : LocationCut.IsShortestOf true _ _ := ⟨hcut, fun other hother =>
    List.length_pos_iff.mpr hother.path_ne_nil⟩
  exact ⟨hline, ((apply_location (text "/w") true hline).2.2.2 _ hshortest).1 (by decide)⟩

end LocationCut

end DiagnosticRelay
