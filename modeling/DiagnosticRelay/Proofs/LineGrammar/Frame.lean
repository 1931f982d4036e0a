import DiagnosticRelay.Proofs.LineGrammar.Overlong
import DiagnosticRelay.Proofs.LineGrammar.Word

/-!
# Where the stack-frame rule cuts a line

A `FrameCut` is a cut of a line into a frame and what stands on its two sides.  A line may have many
cuts: the word `at` may stand in several places, the blanks behind it may be part of the path, and
behind a path the search for a place could go on.  `IsPreferredOf` puts the choices in order: the
leftmost word, then as many blanks as possible, then the shortest path, then the longest column.

`apply_stackFrame` says that the rule accepts exactly the lines that have a cut, and reads them by
the one preferred cut.

The proof has two halves.  A search that succeeds gives a cut, and each of the searches inside it
has passed over the places before the one that it stopped at (`IsFound`); so the cut is preferred,
provided that each search would have stopped at another cut.  That is the second half: whatever has
a cut is found (`frameAt?_ne_none`, `findPath?_place_ne_none`).
-/

namespace DiagnosticRelay

/-- A line with a stack frame in it: the word `at`, blanks, a path, and two runs of digits with a
colon before each. -/
structure FrameCut where
  before : Text
  word : Text
  blanks : Text
  path : Text
  row : Text
  column : Text
  after : Text

namespace FrameCut

open LineGrammar

/-- The line from the colon behind the path on. -/
def place (cut : FrameCut) : Text :=
  .char ':' :: (cut.row ++ .char ':' :: (cut.column ++ cut.after))

/-- The line from the path on. -/
def behindBlanks (cut : FrameCut) : Text := cut.path ++ cut.place

/-- The line from the blanks on. -/
def behindWord (cut : FrameCut) : Text := cut.blanks ++ cut.behindBlanks

/-- The line that is cut. -/
def line (cut : FrameCut) : Text := cut.before ++ (cut.word ++ cut.behindWord)

/-- A cut of a given line. -/
structure IsOf (line : Text) (cut : FrameCut) : Prop where
  line_eq : cut.line = line
  word : cut.word.Spells (text "at")
  blanks_ne_nil : cut.blanks ≠ []
  blanks : ∀ c ∈ cut.blanks, c.isBlank = true
  path_ne_nil : cut.path ≠ []
  row : IsRun cut.row
  column : IsRun cut.column

/-- The cut of a line that comes before all others. -/
structure IsPreferredOf (line : Text) (cut : FrameCut) : Prop where
  isOf : cut.IsOf line
  leftmost : ∀ other : FrameCut, other.IsOf line → cut.before.length ≤ other.before.length
  longest_blanks : ∀ other : FrameCut, other.IsOf line →
    other.before.length = cut.before.length → other.blanks.length ≤ cut.blanks.length
  shortest_path : ∀ other : FrameCut, other.IsOf line →
    other.before.length = cut.before.length → other.blanks.length = cut.blanks.length →
    cut.path.length ≤ other.path.length
  longest_column : ∀ other : FrameCut, other.IsOf line →
    other.before.length = cut.before.length → other.blanks.length = cut.blanks.length →
    other.path.length = cut.path.length → other.column.length ≤ cut.column.length

/-- The parts of a cut that are kept. -/
def frame (cut : FrameCut) : Frame :=
  ⟨cut.before, cut.path, Decimal.leadingDigits cut.row, Decimal.leadingDigits cut.column, cut.after⟩

/-- The diagnostic of a cut, for a checker that ran in a directory. -/
def diagnostic (directory : Text) (cut : FrameCut) : Diagnostic where
  file := Path.resolve .posix directory cut.path
  message := Text.trim (cut.before ++ cut.after)
  severity := .note
  range := some ⟨⟨Decimal.numberOf cut.row, Decimal.numberOf cut.column⟩, none⟩

variable {cut other : FrameCut} {line : Text}

/-! ## Cuts that share their first parts -/

/-- Cuts with the same length before the word go on alike. -/
theorem IsOf.behindWord_eq (h : cut.IsOf line) (hother : other.IsOf line)
    (hbefore : other.before.length = cut.before.length) :
    other.before = cut.before ∧ other.word = cut.word ∧ other.behindWord = cut.behindWord := by
  obtain ⟨heq, hword⟩ := List.append_inj (hother.line_eq.trans h.line_eq.symm) hbefore
  exact ⟨heq, List.append_inj hword (hother.word.length_eq.trans h.word.length_eq.symm)⟩

theorem IsOf.behindBlanks_eq (h : cut.IsOf line) (hother : other.IsOf line)
    (hbefore : other.before.length = cut.before.length)
    (hblanks : other.blanks.length = cut.blanks.length) :
    other.blanks = cut.blanks ∧ other.behindBlanks = cut.behindBlanks :=
  List.append_inj (h.behindWord_eq hother hbefore).2.2 hblanks

/-- The row is bounded by two colons, and so only the column is left to choose. -/
theorem IsOf.row_eq (h : cut.IsOf line) (hother : other.IsOf line)
    (hbefore : other.before.length = cut.before.length)
    (hblanks : other.blanks.length = cut.blanks.length)
    (hpath : other.path.length = cut.path.length) :
    other.path = cut.path ∧ other.row = cut.row ∧
      other.column ++ other.after = cut.column ++ cut.after := by
  obtain ⟨heq, hplace⟩ := List.append_inj (h.behindBlanks_eq hother hbefore hblanks).2 hpath
  obtain ⟨hrow, hcolumn⟩ := Text.append_inj_of_head? hother.row.decimal h.row.decimal
    (stopsRun_colon _).head? (stopsRun_colon _).head? (List.cons.inj hplace).2
  exact ⟨heq, hrow, (List.cons.inj hcolumn).2⟩

/-- There is only one preferred cut. -/
theorem IsPreferredOf.eq (h : cut.IsPreferredOf line) (hother : other.IsPreferredOf line) :
    other = cut := by
  have hbefore := Nat.le_antisymm (hother.leftmost cut h.isOf) (h.leftmost other hother.isOf)
  have hblanks := Nat.le_antisymm (h.longest_blanks other hother.isOf hbefore)
    (hother.longest_blanks cut h.isOf hbefore.symm)
  have hpath := Nat.le_antisymm
    (hother.shortest_path cut h.isOf hbefore.symm hblanks.symm)
    (h.shortest_path other hother.isOf hbefore hblanks)
  have hcolumn := Nat.le_antisymm
    (h.longest_column other hother.isOf hbefore hblanks hpath)
    (hother.longest_column cut h.isOf hbefore.symm hblanks.symm hpath.symm)
  obtain ⟨hbefore, hword, -⟩ := h.isOf.behindWord_eq hother.isOf hbefore
  obtain ⟨hpath, hrow, hrest⟩ := h.isOf.row_eq hother.isOf (congrArg _ hbefore) hblanks hpath
  obtain ⟨hcolumn, hafter⟩ := List.append_inj hrest hcolumn
  obtain ⟨hblanks, -⟩ := h.isOf.behindBlanks_eq hother.isOf (congrArg _ hbefore) hblanks
  cases cut
  cases other
  simp only at hbefore hword hblanks hpath hrow hcolumn hafter
  rw [hbefore, hword, hblanks, hpath, hrow, hcolumn, hafter]

/-! ## Whatever has a cut is found -/

theorem IsOf.lineFeed_not_mem_path (h : cut.IsOf line) (hline : lineFeed ∉ line) :
    lineFeed ∉ cut.path := by
  rw [← h.line_eq, FrameCut.line, behindWord, behindBlanks] at hline
  simp only [List.mem_append, not_or] at hline
  exact hline.2.2.2.1

theorem findPath?_place_ne_none (h : cut.IsOf line) (hline : lineFeed ∉ line) :
    findPath? takePlace? cut.behindBlanks ≠ none :=
  findPath?_ne_none h.path_ne_nil (List.cons_ne_nil _ _) (h.lineFeed_not_mem_path hline) rfl
    (takePlace?_ne_none h.row h.column cut.after)

/-- A frame at the head of a text is a word, blanks and what is found behind as many of them as
possible. -/
theorem frameAt?_eq_some_iff {t : Text} {found : Frame} :
    frameAt? t = some found ↔
      ∃ (word : Text) (c : CodePoint) (behind blanks rest path : Text) (first second : List Nat)
          (after : Text),
        t = word ++ c :: behind ∧ word.Spells (text "at") ∧ c.isBlank = true ∧
        IsLongestBlanks (findPath? takePlace?) behind blanks rest (path, first, second, after) ∧
        found = ⟨[], path, first, second, after⟩ := by
  have hread : extendFramePath? [] = findPath? takePlace? := funext extendFramePath?_eq
  simp only [frameAt?, hread, Option.bind_eq_bind, Option.bind_eq_some_iff]
  constructor
  · rintro ⟨afterWord, hword, ⟨path, first, second, after⟩, hfound, heq⟩
    obtain ⟨word, rfl, hspells⟩ := Text.dropLetters?_eq_some_iff.mp hword
    cases heq
    cases afterWord with
    | nil => cases hfound
    | cons c behind =>
      rw [dropLast_afterBlanks_cons] at hfound
      split at hfound
      · next hc =>
        obtain ⟨blanks, rest, hblanks⟩ := findSome?_afterBlanks_eq_some_iff.mp hfound
        exact ⟨word, c, behind, blanks, rest, path, first, second, after, rfl, hspells, hc,
          hblanks, rfl⟩
      · cases hfound
  · rintro ⟨word, c, behind, blanks, rest, path, first, second, after, rfl, hspells, hc, hblanks,
      rfl⟩
    refine ⟨c :: behind, Text.dropLetters?_eq_some_iff.mpr ⟨word, rfl, hspells⟩,
      (path, first, second, after), ?_, rfl⟩
    rw [dropLast_afterBlanks_cons, if_pos hc]
    exact findSome?_afterBlanks_eq_some_iff.mpr ⟨blanks, rest, hblanks⟩

/-- A frame is found at a word that belongs to a cut. -/
theorem frameAt?_ne_none (h : cut.IsOf line) (hline : lineFeed ∉ line) :
    frameAt? (cut.word ++ cut.behindWord) ≠ none := by
  obtain ⟨c, blanks, hcons⟩ := List.exists_cons_of_ne_nil h.blanks_ne_nil
  have hblanks := h.blanks
  rw [hcons] at hblanks
  obtain ⟨hc, hblanks⟩ := List.forall_mem_cons.mp hblanks
  obtain ⟨⟨path, first, second, after⟩, hfound⟩ := Option.ne_none_iff_exists'.mp
    (findSome?_afterBlanks_ne_none hblanks (findPath?_place_ne_none h hline))
  obtain ⟨taken, rest, htaken⟩ := findSome?_afterBlanks_eq_some_iff.mp hfound
  rw [behindWord, hcons, List.cons_append, frameAt?_eq_some_iff.mpr ⟨cut.word, c,
    blanks ++ cut.behindBlanks, taken, rest, path, first, second, after, rfl, h.word, hc, htaken,
    rfl⟩]
  exact Option.some_ne_none _

theorem frame?_ne_none (h : cut.IsOf line) (hline : lineFeed ∉ line) : frame? line ≠ none := by
  have hrest : cut.word ++ cut.behindWord ≠ [] := by
    intro hnil
    have hlength := h.word.length_eq
    rw [(List.append_eq_nil_iff.mp hnil).1] at hlength
    cases hlength
  rw [frame?_eq, ne_eq, Option.map_eq_none_iff]
  exact findSplit?_ne_none (fun _ _ => rfl) hrest h.line_eq.symm (frameAt?_ne_none h hline)

/-! ## Whatever is found is preferred -/

/-- What the searches for a frame leave behind: a cut, and that each of them failed wherever it
would have stopped before. -/
structure IsFound (line : Text) (cut : FrameCut) : Prop where
  isOf : cut.IsOf line
  first_word : ∀ shorter longer, line = shorter ++ longer → shorter.length < cut.before.length →
    frameAt? longer = none
  longest_blanks : ∀ more fewer, cut.behindWord = more ++ fewer →
    (∀ c ∈ more, c.isBlank = true) → cut.blanks.length < more.length →
    findPath? takePlace? fewer = none
  first_path : ∀ shorter longer, cut.behindBlanks = shorter ++ longer → shorter ≠ [] →
    shorter.length < cut.path.length → takePlace? longer = none
  stopsRun : StopsRun cut.after

/-- **A frame is that of the cut which the searches leave behind.** -/
theorem exists_isFound {frame : Frame} (hframe : frame? line = some frame) :
    ∃ cut : FrameCut, cut.IsFound line ∧ frame = cut.frame := by
  rw [frame?_eq, Option.map_eq_some_iff] at hframe
  obtain ⟨⟨before, found⟩, hfound, rfl⟩ := hframe
  obtain ⟨fromWord, hsplit⟩ := findSplit?_eq_some_iff.mp hfound
  obtain ⟨word, c, behind, blanks, rest, path, first, second, after, hword, hspells, hc, hblanks,
    rfl⟩ := frameAt?_eq_some_iff.mp hsplit.reads
  obtain ⟨place, hpath⟩ := findPath?_eq_some_iff.mp hblanks.reads
  obtain ⟨row, column, hplace, hrow, hcolumn, hafter, rfl, rfl⟩ :=
    takePlace?_eq_some_iff.mp hpath.reads
  have hrest : rest = path ++ .char ':' :: (row ++ .char ':' :: (column ++ after)) :=
    hpath.split.trans (congrArg (path ++ ·) hplace)
  have hbehind := hblanks.split
  subst hrest hbehind
  refine ⟨⟨before, word, c :: blanks, path, row, column, after⟩, ?_, rfl⟩
  exact {
    isOf := {
      line_eq := by
        rw [hsplit.split, hword]
        rfl
      word := hspells
      blanks_ne_nil := List.cons_ne_nil c blanks
      blanks := List.forall_mem_cons.mpr ⟨hc, hblanks.blank⟩
      path_ne_nil := hpath.path_ne_nil
      row := hrow
      column := hcolumn }
    first_word := hsplit.first
    longest_blanks := by
      -- the first blank is not part of the search, because a frame needs one
      rintro more fewer heq hmore hlength
      obtain ⟨d, more, rfl⟩ := List.exists_cons_of_length_pos (Nat.zero_lt_of_lt hlength)
      exact hblanks.longest more fewer (List.cons.inj heq).2 (List.forall_mem_cons.mp hmore).2
        (Nat.lt_of_succ_lt_succ hlength)
    first_path := hpath.first
    stopsRun := hafter }

/-- A search would have stopped at any other cut, and so there is none before. -/
theorem IsFound.isPreferredOf (h : cut.IsFound line) (hline : lineFeed ∉ line) :
    cut.IsPreferredOf line where
  isOf := h.isOf
  leftmost other hother := by
    by_contra hlt
    exact frameAt?_ne_none hother hline
      (h.first_word other.before _ hother.line_eq.symm (Nat.lt_of_not_le hlt))
  longest_blanks other hother hbefore := by
    by_contra hlt
    obtain ⟨-, -, hbehind⟩ := h.isOf.behindWord_eq hother hbefore
    exact findPath?_place_ne_none hother hline
      (h.longest_blanks other.blanks _ hbehind.symm hother.blanks (Nat.lt_of_not_le hlt))
  shortest_path other hother hbefore hblanks := by
    by_contra hlt
    obtain ⟨-, hbehind⟩ := h.isOf.behindBlanks_eq hother hbefore hblanks
    exact takePlace?_ne_none hother.row hother.column other.after
      (h.first_path other.path _ hbehind.symm hother.path_ne_nil (Nat.lt_of_not_le hlt))
  longest_column other hother hbefore hblanks hpath := by
    obtain ⟨-, -, hrest⟩ := h.isOf.row_eq hother hbefore hblanks hpath
    exact Text.length_le_of_append_eq h.stopsRun.head? hother.column.decimal hrest.symm

/-- **The frame of a line is that of its preferred cut.** -/
theorem exists_isPreferredOf {frame : Frame} (hframe : frame? line = some frame)
    (hline : lineFeed ∉ line) : ∃ cut : FrameCut, cut.IsPreferredOf line ∧ frame = cut.frame := by
  obtain ⟨cut, hcut, heq⟩ := exists_isFound hframe
  exact ⟨cut, hcut.isPreferredOf hline, heq⟩

/-- Where there is a cut, the frame of the preferred one is found. -/
theorem IsOf.exists_frame? (h : cut.IsOf line) (hline : lineFeed ∉ line) :
    ∃ first : FrameCut, first.IsPreferredOf line ∧ frame? line = some first.frame := by
  obtain ⟨frame, hframe⟩ := Option.ne_none_iff_exists'.mp (frame?_ne_none h hline)
  obtain ⟨first, hfirst, rfl⟩ := exists_isPreferredOf hframe hline
  exact ⟨first, hfirst, hframe⟩

theorem isSome_frame?_iff (hline : lineFeed ∉ line) :
    (frame? line).isSome = true ↔ ∃ cut : FrameCut, cut.IsOf line := by
  constructor
  · intro h
    obtain ⟨frame, hframe⟩ := Option.isSome_iff_exists.mp h
    obtain ⟨cut, hcut, -⟩ := exists_isPreferredOf hframe hline
    exact ⟨cut, hcut.isOf⟩
  · rintro ⟨cut, hcut⟩
    exact Option.isSome_iff_ne_none.mpr (frame?_ne_none hcut hline)

/-! ## The rule -/

theorem ofFrame_frame (directory : Text) (h : cut.IsOf line)
    (hrow : cut.row.length ≤ Decimal.digitLimit)
    (hcolumn : cut.column.length ≤ Decimal.digitLimit) :
    LineRule.ofFrame directory cut.frame = .ok (cut.diagnostic directory) := by
  have hfirst := LineRule.coordinate_eq h.row
  have hsecond := LineRule.coordinate_eq h.column
  rw [if_pos hrow] at hfirst
  rw [if_pos hcolumn] at hsecond
  simp only [LineRule.ofFrame, frame, hfirst, hsecond]
  rfl

theorem hasLongRun_frame_iff (h : cut.IsOf line) :
    LineRule.HasLongRun [cut.frame.row, cut.frame.column] ↔
      Decimal.digitLimit < cut.row.length ∨ Decimal.digitLimit < cut.column.length := by
  simp [LineRule.HasLongRun, frame, Decimal.length_leadingDigits_of_isDecimal h.row.decimal,
    Decimal.length_leadingDigits_of_isDecimal h.column.decimal]

/-- **The stack-frame rule accepts exactly the lines that can be cut, and reads them by the
preferred cut.**  What is left of the line without the frame is the message.  The rule fails on a
line that it accepts only where a run has more digits than are read. -/
theorem apply_stackFrame (directory : Text) {line : Text} (hline : lineFeed ∉ line) :
    (LineRule.stackFrame.apply directory line ≠ .ok none ↔ ∃ cut : FrameCut, cut.IsOf line) ∧
    (∀ cut : FrameCut, cut.IsOf line → ∃! first : FrameCut, first.IsPreferredOf line) ∧
    ∀ cut : FrameCut, cut.IsPreferredOf line →
      (cut.row.length ≤ Decimal.digitLimit → cut.column.length ≤ Decimal.digitLimit →
        LineRule.stackFrame.apply directory line = .ok (some (cut.diagnostic directory))) ∧
      ((∃ fault, LineRule.stackFrame.apply directory line = .error fault) ↔
        Decimal.digitLimit < cut.row.length ∨ Decimal.digitLimit < cut.column.length) := by
  refine ⟨?_, fun cut hcut => ?_, fun cut hcut => ?_⟩
  · rw [LineRule.apply_ne_none_iff, LineRule.runs?, Option.isSome_map, isSome_frame?_iff hline]
  · obtain ⟨first, hfirst, -⟩ := hcut.exists_frame? hline
    exact ⟨first, hfirst, fun other hother => hfirst.eq hother⟩
  · obtain ⟨first, hfirst, hframe⟩ := hcut.isOf.exists_frame? hline
    obtain rfl := hfirst.eq hcut
    refine ⟨fun hrow hcolumn => ?_, ?_⟩
    · have hread := ofFrame_frame directory hcut.isOf hrow hcolumn
      simp only [LineRule.apply, hframe, hread, Except.map]
    · rw [LineRule.apply_error_iff directory (by rw [LineRule.runs?, hframe]; rfl)]
      exact hasLongRun_frame_iff hcut.isOf

/-- A line with two frames, of which the second stays in the message. -/
theorem apply_stackFrame_twice :
    lineFeed ∉ text "At a:1:2, at b:3:4" ∧
    LineRule.stackFrame.apply (text "/w") (text "At a:1:2, at b:3:4")
      = .ok (some {
          file := text "/w/a"
          message := text ", at b:3:4"
          severity := .note
          range := some ⟨⟨1, 2⟩, none⟩ }) := by
  have hline : lineFeed ∉ text "At a:1:2, at b:3:4" := by decide
  have hcut : FrameCut.IsOf (text "At a:1:2, at b:3:4")
      ⟨[], text "At", text " ", text "a", text "1", text "2", text ", at b:3:4"⟩ :=
    { line_eq := by decide
      word := Text.spells_of_lower (by decide)
      blanks_ne_nil := by decide
      blanks := by decide
      path_ne_nil := by decide
      row := ⟨by decide, by decide⟩
      column := ⟨by decide, by decide⟩ }
  have hpreferred : FrameCut.IsPreferredOf _ _ :=
    { isOf := hcut
      leftmost := fun other _ => Nat.zero_le _
      longest_blanks := fun other hother hbefore =>
        Text.length_le_of_append_eq (by decide) hother.blanks
          (hcut.behindWord_eq hother hbefore).2.2.symm
      shortest_path := fun other hother _ _ => List.length_pos_iff.mpr hother.path_ne_nil
      longest_column := fun other hother hbefore hblanks hpath =>
        Text.length_le_of_append_eq (by decide) hother.column.decimal
          (hcut.row_eq hother hbefore hblanks hpath).2.2.symm }
  exact ⟨hline, ((apply_stackFrame (text "/w") hline).2.2 _ hpreferred).1 (by decide) (by decide)⟩

end FrameCut

end DiagnosticRelay
