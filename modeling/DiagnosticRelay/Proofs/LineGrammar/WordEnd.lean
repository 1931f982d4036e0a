import DiagnosticRelay.Proofs.LineGrammar.Location
import DiagnosticRelay.Proofs.Text.Trim

/-!
# What stands behind a severity word

The blanks and the colon behind a severity word may both be left out.  So the word need not end where
a level's name ends: a longer word that begins with one is taken for it, and what is left of the word
begins the message.

* `LocationCut.tail` is what is left of the word, up to the next blank or colon.  The name of the
  level is a whole word exactly if the tail is empty (`tail_eq_nil_iff`), and a tail that is not
  empty is found again at the head of the message (`exists_trim_eq_tail_append`).
* Nothing that stands behind the word has a part in where the line is cut
  (`IsShortestOf.withRest`).  Of two cuts of a line the one with the shorter path ends with its word
  inside the path of the other (`exists_path_eq_of_lt`), so every other cut that a line might have
  is one of the line with another rest as well.
-/

namespace DiagnosticRelay

/-- Whether a code point ends a word: a blank or a colon. -/
def CodePoint.endsWord (c : CodePoint) : Bool := c.isBlank || c == .char ':'

namespace Text

/-- What spells a word matches its letters. -/
theorem Spells.exists_of_mem {token word : Text} {c : CodePoint} (h : token.Spells word)
    (hc : c ∈ token) : ∃ letter ∈ word, c.matchesLetter letter = true := by
  induction h with
  | nil => cases hc
  | @cons d letter token word hd _ ih =>
    rcases List.mem_cons.mp hc with rfl | hc
    · exact ⟨letter, List.mem_cons_self .., hd⟩
    · obtain ⟨other, hmem, hother⟩ := ih hc
      exact ⟨other, List.mem_cons_of_mem _ hmem, hother⟩

end Text

namespace LineGrammar

/-! ## Messages -/

theorem wholeMessage?_eq_some {t message : Text} (h : wholeMessage? t = some message) :
    message = t.takeWhile (· != lineFeed) := by
  simp only [wholeMessage?] at h
  split at h
  · cases h
  · split at h
    · exact (Option.some.inj h).symm
    · cases h

/-- Where no blank and no colon follows a word, nothing is taken away before the message. -/
theorem messageAfterToken?_cons {c : CodePoint} (hc : c.endsWord = false) (rest : Text) :
    messageAfterToken? (c :: rest) = wholeMessage? (c :: rest) := by
  rw [CodePoint.endsWord, Bool.or_eq_false_iff, beq_eq_false_iff_ne] at hc
  have hblanks : afterBlanks (c :: rest) = [c :: rest] := by
    rw [afterBlanks_cons, hc.1, if_neg Bool.false_ne_true, List.nil_append]
  have hcolon : afterColon (c :: rest) = [c :: rest] := by
    unfold afterColon
    split
    · next heq => exact absurd (List.cons.inj heq).1 hc.2
    · rfl
  rw [messageAfterToken?, hblanks, List.findSome?_singleton, hcolon, List.findSome?_singleton,
    hblanks, List.findSome?_singleton]

end LineGrammar

namespace LocationCut

open LineGrammar

variable {hasColumn : Bool} {cut other : LocationCut} {line message : Text}

/-! ## The tail of the word -/

/-- What is left of a word that begins with the name of a level. -/
def tail (cut : LocationCut) : Text := cut.rest.takeWhile fun c => !c.endsWord

theorem endsWord_of_mem_tail {c : CodePoint} (h : c ∈ cut.tail) : c.endsWord = false := by
  have hall := List.all_eq_true.mp List.all_takeWhile c h
  simpa using hall

/-- The name of the level is a whole word exactly if a blank or a colon follows it. -/
theorem tail_eq_nil_iff (h : cut.rest ≠ []) :
    cut.tail = [] ↔ ∃ c ∈ cut.rest.head?, c.endsWord = true := by
  obtain ⟨c, rest, hcons⟩ := List.exists_cons_of_ne_nil h
  rw [tail, hcons, List.takeWhile_cons]
  cases hc : c.endsWord <;> simp [hc]

/-- A tail begins the message. -/
theorem exists_trim_eq_tail_append (hmessage : messageAfterToken? cut.rest = some message)
    (htail : cut.tail ≠ []) : ∃ more, Text.trim message = cut.tail ++ more := by
  have hrest := rest_ne_nil_of_message hmessage
  obtain ⟨c, rest, hcons⟩ := List.exists_cons_of_ne_nil hrest
  have hc : c.endsWord = false := by
    rw [ne_eq, tail_eq_nil_iff hrest, hcons] at htail
    simpa using htail
  have hsplit : cut.rest = cut.tail ++ cut.rest.dropWhile fun c => !c.endsWord :=
    List.takeWhile_append_dropWhile.symm
  have hline : ∀ c ∈ cut.tail, (c != lineFeed) = true := by
    intro c hmem
    rw [bne_iff_ne]
    rintro rfl
    exact absurd (endsWord_of_mem_tail hmem) (by decide)
  rw [hcons, messageAfterToken?_cons hc, ← hcons] at hmessage
  rw [wholeMessage?_eq_some hmessage, hsplit, List.takeWhile_append_of_pos hline]
  refine Text.exists_trim_append htail (fun c hmem => ?_) _
  have hword := endsWord_of_mem_tail hmem
  rw [CodePoint.endsWord, Bool.or_eq_false_iff] at hword
  exact hword.1

/-! ## Cuts do not overlap -/

/-- What a cut takes of its line before the rest. -/
def front (cut : LocationCut) : Text :=
  cut.path ++ .char ':' :: (cut.row ++ (columnText cut.column ++
    .char ':' :: (cut.blanks ++ cut.token)))

theorem line_eq_front_append (cut : LocationCut) : cut.line = cut.front ++ cut.rest := by
  simp only [line, behindPath, front, List.append_assoc, List.cons_append]

theorem line_withRest (cut : LocationCut) (rest : Text) :
    { cut with rest }.line = cut.front ++ rest :=
  line_eq_front_append { cut with rest }

theorem IsFormed.withRest (h : cut.IsFormed hasColumn) (rest : Text) :
    IsFormed hasColumn { cut with rest } :=
  ⟨h.row, h.column_isSome, h.column, h.blanks, h.token⟩

/-- There is no colon from the last one up to the end of the word. -/
theorem IsFormed.colon_not_mem (h : cut.IsFormed hasColumn) :
    CodePoint.char ':' ∉ cut.blanks ++ cut.token := by
  rw [List.mem_append, not_or]
  constructor
  · intro hmem
    exact absurd (h.blanks _ hmem) (by decide)
  · intro hmem
    obtain ⟨severity, hspells⟩ := h.token
    obtain ⟨letter, hletter, hmatches⟩ := hspells.exists_of_mem hmem
    revert letter
    cases severity <;> decide

/-- The coordinates of a cut lie before a colon that has a coordinate of another one behind it. -/
theorem IsFormed.exists_of_colon (h : cut.IsFormed hasColumn) (hother : other.IsFormed hasColumn)
    {between : Text} (heq : cut.behindPath = .char ':' :: (between ++ other.behindPath)) :
    ∃ more, between = cut.row ++ (columnText cut.column ++ .char ':' :: more) ∧
      cut.blanks ++ (cut.token ++ cut.rest) = more ++ other.behindPath := by
  have hstops := h.stopsRun
  have hrow := (List.cons.inj heq).2
  -- behind the last colon of a cut there is no digit, but behind the first colon of the other one
  have hlast {tail : Text} : cut.blanks ++ (cut.token ++ cut.rest) ≠ other.row ++ tail :=
    fun hcontra => hother.row.not_stopsRun_append _ (hcontra ▸ hstops)
  cases hcolumn : cut.column with
  | none =>
    rw [hcolumn] at hrow
    rcases run_colon_cases h.row.decimal hrow with ⟨-, hcontra⟩ | ⟨more, hbetween, hrest⟩
    · exact absurd hcontra hlast
    · exact ⟨more, hbetween, hrest⟩
  | some column =>
    rw [hcolumn] at hrow
    have hrun := h.column column hcolumn
    rcases run_colon_cases h.row.decimal hrow with ⟨-, hbehind⟩ | ⟨second, rfl, hbehind⟩
    · -- the column is the row of the other cut, which has a column behind it as well
      obtain ⟨column', hcolumn'⟩ := Option.isSome_iff_exists.mp
        (hother.column_isSome.trans (h.column_isSome.symm.trans (by rw [hcolumn]; rfl)))
      rw [hcolumn'] at hbehind
      rcases run_colon_cases hrun.decimal hbehind with ⟨-, hcontra⟩ | ⟨more, hcontra, -⟩
      · rw [hcontra] at hstops
        exact absurd hstops ((hother.column column' hcolumn').not_stopsRun_append _)
      · exact absurd hcontra hother.row.ne_append_colon
    · rcases run_colon_cases hrun.decimal hbehind with ⟨-, hcontra⟩ | ⟨more, rfl, hrest⟩
      · exact absurd hcontra hlast
      · exact ⟨more, rfl, hrest⟩

/-- **Of two cuts of a line, the one with the shorter path ends inside the path of the other.** -/
theorem exists_path_eq_of_lt (h : cut.IsFormed hasColumn) (hother : other.IsFormed hasColumn)
    (heq : cut.line = other.line) (hlt : cut.path.length < other.path.length) :
    ∃ more, other.path = cut.front ++ more := by
  rcases List.append_eq_append_iff.mp heq with ⟨path, hpath, hbehind⟩ | ⟨path, hpath, -⟩
  · obtain ⟨c, between, rfl⟩ : ∃ c between, path = c :: between := by
      refine List.exists_cons_of_ne_nil ?_
      rintro rfl
      rw [hpath, List.append_nil] at hlt
      exact Nat.lt_irrefl _ hlt
    obtain rfl : CodePoint.char ':' = c := (List.cons.inj hbehind).1
    obtain ⟨more, rfl, hrest⟩ := h.exists_of_colon hother hbehind
    -- the word has no colon, and so it ends before that of the other cut
    rw [← List.append_assoc] at hrest
    rcases List.append_eq_append_iff.mp hrest with ⟨rest, rfl, -⟩ | ⟨rest, hword, hcolon⟩
    · refine ⟨rest, ?_⟩
      rw [hpath]
      simp only [front, List.append_assoc, List.cons_append]
    · cases rest with
      | nil =>
        refine ⟨[], ?_⟩
        rw [hpath, List.append_nil, front, hword, List.append_nil]
      | cons d rest =>
        obtain rfl : CodePoint.char ':' = d := (List.cons.inj hcolon).1
        exact absurd (by rw [hword]; simp) h.colon_not_mem
  · rw [hpath, List.length_append] at hlt
    omega

/-- **What stands behind the word has no part in where a line is cut.** -/
theorem IsShortestOf.withRest (h : cut.IsShortestOf hasColumn line) {rest : Text}
    (hrest : rest ≠ []) :
    IsShortestOf hasColumn { cut with rest }.line { cut with rest } := by
  have hformed := h.isOf.formed.withRest rest
  refine ⟨⟨rfl, h.isOf.path_ne_nil, hformed, hrest⟩, fun other hother => ?_⟩
  by_contra hlt
  obtain ⟨more, hpath⟩ := exists_path_eq_of_lt hother.formed hformed hother.line_eq
    (Nat.not_le.mp hlt)
  -- the other cut ends before the word, and cuts the line with the old rest as well
  have hline : { other with rest := more ++ cut.behindPath }.line = line := by
    rw [line_withRest, ← h.isOf.line_eq, LocationCut.line, show cut.path = _ from hpath,
      List.append_assoc]
  have hle := h.shortest { other with rest := more ++ cut.behindPath }
    ⟨hline, hother.path_ne_nil, hother.formed.withRest _, by simp [behindPath]⟩
  exact hlt hle

/-- **A severity need not be a whole word.**  The name of the level on a line is followed by a blank
or a colon exactly if it has no tail; a tail begins the message; and the line is read as it is
whatever stands behind the name, but for the message. -/
theorem wordEnd_of_apply_location (directory : Text) (hasColumn : Bool) (line : Text)
    (diagnostic : Diagnostic)
    (h : (LineRule.location hasColumn).apply directory line = .ok (some diagnostic)) :
    ∃ (cut : LocationCut) (message : Text), cut.IsReadOf hasColumn line message ∧
      ((∃ c ∈ cut.rest.head?, c.endsWord = true) ↔ cut.tail = []) ∧
      (cut.tail ≠ [] → ∃ more, diagnostic.message = cut.tail ++ more) ∧
      ∀ rest : Text, rest ≠ [] → lineFeed ∉ line → lineFeed ∉ rest →
        (LineRule.location hasColumn).apply directory { cut with rest }.line
          = .ok (some { diagnostic with message := messageOf rest }) := by
  obtain ⟨cut, message, hread, hruns, rfl⟩ := exists_isReadOf_of_apply h
  refine ⟨cut, message, hread, (tail_eq_nil_iff hread.isOf.rest_ne_nil).symm,
    exists_trim_eq_tail_append hread.reads, fun rest hrest hline hrestLine => ?_⟩
  have hshortest := (hread.isShortestOf hline).withRest hrest
  have hfront : lineFeed ∉ cut.front := fun hmem =>
    hline (by rw [← hread.isOf.line_eq, line_eq_front_append]; exact List.mem_append_left _ hmem)
  have hlineRest : lineFeed ∉ { cut with rest }.line := by
    rw [line_withRest, List.mem_append, not_or]
    exact ⟨hfront, hrestLine⟩
  obtain ⟨found, htrim, hfound⟩ := hshortest.exists_location? hlineRest
  exact apply_of_location? directory hfound
    (ofLocation_location directory hshortest.isOf.formed htrim hruns)

/-- A line whose word is longer than the name of a level, and is reported without it. -/
theorem wordEnd_of_apply_location_errors :
    ∃ diagnostic : Diagnostic,
      (LineRule.location true).apply (text "/p") (text "a.x:1:2: errors found")
          = .ok (some diagnostic) ∧
      diagnostic.severity = .error ∧ diagnostic.message = text "s found" ∧
      ∃ (cut : LocationCut) (message : Text),
        cut.IsReadOf true (text "a.x:1:2: errors found") message ∧ cut.tail = text "s" ∧
        (LineRule.location true).apply (text "/p") { cut with rest := text " m" }.line
          = .ok (some { diagnostic with message := text "m" }) := by
  have happly : (LineRule.location true).apply (text "/p") (text "a.x:1:2: errors found")
      = .ok (some ⟨text "/p/a.x", text "s found", .error, none, some ⟨⟨1, 2⟩, none⟩⟩) := by decide
  obtain ⟨cut, message, hread, -, -, hrest⟩ := wordEnd_of_apply_location _ _ _ _ happly
  have hcut : LocationCut.IsOf true (text "a.x:1:2: errors found")
      ⟨text "a.x", text "1", some (text "2"), text " ", text "error", text "s found"⟩ := by
    refine ⟨by decide, by decide, ⟨⟨by decide, by decide⟩, rfl, ?_, by decide, .error, ?_⟩,
      by decide⟩
    · rintro run ⟨⟩
      exact ⟨by decide, by decide⟩
    · exact Text.spells_of_lower (by decide)
  have hpath : cut.path = text "a.x" := by
    have hfound : location? true (text "a.x:1:2: errors found")
        = some ⟨text "a.x", [1], some [2], text "error", text "s found"⟩ := by decide
    exact congrArg Location.path (Option.some.inj (hread.found.symm.trans hfound))
  obtain rfl := eq_of_length_path hread.isOf hcut (congrArg List.length hpath)
  exact ⟨_, happly, rfl, rfl, _, message, hread, by decide,
    hrest (text " m") (by decide) (by decide) (by decide)⟩

end LocationCut

end DiagnosticRelay
