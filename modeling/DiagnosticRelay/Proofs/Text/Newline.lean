import DiagnosticRelay.Text.Newline

/-!
# Lines put together are split again

A line feed ends a line wherever it stands, and a carriage return before it belongs to the ending.
So there are two endings, a line feed with or without a carriage return, and a text may mix them.

* `splitLines_append`: an ending separates what is before it from what is behind it.
* `splitLines_joinEnded`: lines with an ending at each junction are found again if no line holds a
  line feed and none ends with a carriage return, which a line feed would take away from it.
-/

namespace DiagnosticRelay

namespace Text

/-- A code point that begins no line ending joins the first line of the rest. -/
theorem splitLines_cons {c : CodePoint} {rest line : Text} {lines : List Text}
    (hfeed : c ≠ .char '\n') (hreturn : c = .char '\r' → rest.head? ≠ some (.char '\n'))
    (h : splitLines rest = line :: lines) : splitLines (c :: rest) = (c :: line) :: lines := by
  rw [splitLines, h]
  · exact hfeed
  · rintro tail rfl rfl
    exact hreturn rfl rfl

/-- A text without line feeds is one line. -/
theorem splitLines_of_not_mem {line : Text} (h : .char '\n' ∉ line) : splitLines line = [line] := by
  induction line with
  | nil => rfl
  | cons c line ih =>
    obtain ⟨hc, hline⟩ := List.ne_and_not_mem_of_not_mem_cons h
    refine splitLines_cons hc.symm ?_ (ih hline)
    intro _ hhead
    exact hline (List.mem_of_head? hhead)

/-! ## Endings -/

/-- What may stand between two lines. -/
inductive LineEnding where
  | lf
  | crlf
  deriving DecidableEq

namespace LineEnding

/-- The code points of an ending. -/
def toText : LineEnding → Text
  | .lf => [.char '\n']
  | .crlf => [.char '\r', .char '\n']

end LineEnding

theorem splitLines_ne_nil (t : Text) : splitLines t ≠ [] := by
  fun_induction splitLines t <;> simp_all

theorem splitLines_ending (ending : LineEnding) (rest : Text) :
    splitLines (ending.toText ++ rest) = [] :: splitLines rest := by
  cases ending <;> rfl

/-- **An ending separates the lines before it from the lines behind it**, unless it is a line feed
behind a carriage return, which would make one ending of the two. -/
theorem splitLines_append {t : Text} {ending : LineEnding}
    (h : ending = .lf → t.getLast? ≠ some (.char '\r')) (rest : Text) :
    splitLines (t ++ (ending.toText ++ rest)) = splitLines t ++ splitLines rest := by
  fun_induction splitLines t with
  | case1 => exact splitLines_ending ending rest
  | case2 t ih =>
    rw [List.cons_append, splitLines_lineFeed, ih, List.cons_append]
    intro hending hlast
    exact h hending (by rw [List.getLast?_cons, hlast]; rfl)
  | case3 t ih =>
    rw [List.cons_append, List.cons_append, splitLines, ih, List.cons_append]
    intro hending hlast
    exact h hending (by rw [List.getLast?_cons, List.getLast?_cons, hlast]; rfl)
  | case4 c t hfeed hreturn hnil ih => exact absurd hnil (splitLines_ne_nil t)
  | case5 c t hfeed hreturn line lines hlines ih =>
    have hrest := ih fun hending hlast =>
      h hending (by rw [List.getLast?_cons, hlast]; rfl)
    rw [hlines] at hrest
    refine splitLines_cons hfeed ?_ hrest
    rintro rfl hhead
    cases t with
    | nil =>
      -- the carriage return is the last code point before the ending
      cases ending with
      | lf => exact h rfl rfl
      | crlf => exact absurd (Option.some.inj hhead) (by decide)
    | cons d t =>
      obtain rfl := Option.some.inj hhead
      exact hreturn t rfl rfl

/-- A text that can stand between two endings. -/
structure IsLine (line : Text) : Prop where
  feed : .char '\n' ∉ line
  return_last : line.getLast? ≠ some (.char '\r')

/-- Some lines with an ending at each junction, which may be a different one each time; the
junctions are numbered from zero. -/
def joinEnded (ending : Nat → LineEnding) : List Text → Text
  | [] => []
  | [line] => line
  | line :: next :: lines =>
    line ++ ((ending 0).toText ++ joinEnded (fun i => ending (i + 1)) (next :: lines))

/-- **Lines put together are split again**, whatever the endings between them are. -/
theorem splitLines_joinEnded (ending : Nat → LineEnding) {lines : List Text} (hne : lines ≠ [])
    (h : ∀ line ∈ lines, IsLine line) : splitLines (joinEnded ending lines) = lines := by
  induction lines generalizing ending with
  | nil => exact absurd rfl hne
  | cons line lines ih =>
    have hline := h line (List.mem_cons_self ..)
    cases lines with
    | nil => exact splitLines_of_not_mem hline.feed
    | cons next lines =>
      rw [joinEnded, splitLines_append fun _ => hline.return_last,
        splitLines_of_not_mem hline.feed, List.singleton_append,
        ih _ (List.cons_ne_nil _ _) fun other hother => h other (List.mem_cons_of_mem _ hother)]

theorem join_lineFeed (lines : List Text) :
    join [.char '\n'] lines = joinEnded (fun _ => .lf) lines := by
  induction lines with
  | nil => rfl
  | cons line lines ih =>
    cases lines with
    | nil => rfl
    | cons next lines =>
      rw [join, ih, joinEnded, List.append_assoc]
      rfl

/-- Lines put together with line feeds are split again. -/
theorem splitLines_join {lines : List Text} (hne : lines ≠ [])
    (hfeed : ∀ line ∈ lines, .char '\n' ∉ line)
    (hreturn : ∀ line ∈ lines, line.getLast? ≠ some (.char '\r')) :
    splitLines (join [.char '\n'] lines) = lines := by
  rw [join_lineFeed]
  exact splitLines_joinEnded _ hne fun line hline => ⟨hfeed line hline, hreturn line hline⟩

end Text

end DiagnosticRelay
