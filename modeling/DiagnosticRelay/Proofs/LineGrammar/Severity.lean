import DiagnosticRelay.Proofs.LineGrammar.Location

/-!
# The severity of a word

Two notions of letter case meet at the severity word of a line.  The line grammar finds the word by
matching its letters in either case, and the level is then looked up by the lower case of what was
found.  The two agree on a letter unless it is one of the two letters beyond ASCII that match an `i`
(`lower_eq_iff_of_matchesLetter`): these have no lower case among the letters of the words.

So a word is looked up as the level whose name it spells if it is free of these two letters
(`Spells.lower_eq_iff`), and it is not found otherwise.  An `i` stands in two of the four names.  What
is not found is informational, which is right for one of them; the other one is `warning`
(`ofToken_of_spells`).
-/

namespace DiagnosticRelay

namespace CodePoint

/-- Where a letter matches, it has the right lower case unless it is one of the two. -/
theorem lower_eq_iff_of_matchesLetter {c letter : CodePoint} (hletter : letter.isOtherI = false)
    (h : c.matchesLetter letter = true) : c.lower = letter ↔ c.isOtherI = false := by
  constructor
  · rintro rfl
    by_contra hc
    rw [Bool.not_eq_false] at hc
    rw [lower_of_isOtherI hc, hc] at hletter
    cases hletter
  · intro hc
    rcases matchesLetter_iff.mp h with hlower | ⟨-, hother⟩
    · exact hlower
    · rw [hc] at hother
      cases hother

end CodePoint

namespace Text

/-- Whether a text has one of the two letters beyond ASCII that match an `i`. -/
def HasOtherI (t : Text) : Prop := ∃ c ∈ t, c.isOtherI = true

instance : DecidablePred HasOtherI := fun t => inferInstanceAs (Decidable (∃ c ∈ t, _))

variable {token word : Text}

/-- What spells a word has the word for its lower case unless it has one of the two letters. -/
theorem Spells.lower_eq_iff (hword : ¬word.HasOtherI) (h : token.Spells word) :
    lower token = word ↔ ¬token.HasOtherI := by
  induction h with
  | nil => exact iff_of_true rfl hword
  | @cons c letter token word hc _ ih =>
    simp only [HasOtherI, List.exists_mem_cons_iff, not_or, Bool.not_eq_true] at hword ih ⊢
    rw [lower, List.map_cons, List.cons.injEq, ← lower, ih hword.2,
      CodePoint.lower_eq_iff_of_matchesLetter hword.1 hc]

/-- The two letters match only an `i`. -/
theorem Spells.exists_of_hasOtherI (hword : ¬word.HasOtherI) (h : token.Spells word)
    (htoken : token.HasOtherI) : CodePoint.char 'i' ∈ word := by
  induction h with
  | nil => exact absurd htoken hword
  | @cons c letter token word hc _ ih =>
    simp only [HasOtherI, List.exists_mem_cons_iff, not_or] at hword ih htoken
    rcases htoken with htoken | htoken
    · rcases CodePoint.matchesLetter_iff.mp hc with hlower | ⟨rfl, -⟩
      · rw [CodePoint.lower_of_isOtherI htoken] at hlower
        exact absurd (hlower ▸ htoken) hword.1
      · exact List.mem_cons_self ..
    · exact List.mem_cons_of_mem _ (ih hword.2 htoken)

/-- The two letters stay when a text is folded to lower case. -/
theorem HasOtherI.lower (h : token.HasOtherI) : (lower token).HasOtherI := by
  obtain ⟨c, hmem, hc⟩ := h
  exact ⟨c, List.mem_map.mpr ⟨c, hmem, CodePoint.lower_of_isOtherI hc⟩, hc⟩

end Text

namespace Severity

open LineGrammar

theorem not_hasOtherI_name (level : Severity) : ¬level.name.HasOtherI := by
  cases level <;> decide

theorem ofToken_of_lower {token : Text} {level : Severity} (h : Text.lower token = level.name) :
    ofToken token = level := by
  rw [ofToken, h]
  cases level <;> decide

/-- A token with one of the two letters is not found. -/
theorem ofToken_of_hasOtherI {token : Text} (h : token.HasOtherI) : ofToken token = .info := by
  have hnone : ofName? (Text.lower token) = none := by
    rw [ofName?, List.find?_eq_none]
    intro level _
    rw [beq_iff_eq]
    intro hname
    exact not_hasOtherI_name level (hname ▸ h.lower)
  rw [ofToken, hnone, Option.getD_none]

/-- **A token that spells the name of a level is of this level**, unless the level is `warning` and
its `i` is one of the two letters beyond ASCII that match it; then the token is informational. -/
theorem ofToken_of_spells {token : Text} {level : Severity} (h : token.Spells level.name) :
    ofToken token = if level = .warning ∧ token.HasOtherI then .info else level := by
  by_cases htoken : token.HasOtherI
  · have hmem := h.exists_of_hasOtherI (not_hasOtherI_name level) htoken
    have hlevel : level = .warning ∨ level = .info := by
      revert hmem
      cases level <;> decide
    rw [ofToken_of_hasOtherI htoken]
    rcases hlevel with rfl | rfl
    · rw [if_pos ⟨rfl, htoken⟩]
    · rw [if_neg (by simp)]
  · rw [if_neg fun h => htoken h.2,
      ofToken_of_lower ((h.lower_eq_iff (not_hasOtherI_name level)).mpr htoken)]

/-- No token spells the names of two levels. -/
theorem eq_of_spells {token : Text} {level other : Severity} (h : token.Spells level.name)
    (hother : token.Spells other.name) : level = other :=
  (spells_append_inj h hother (List.append_nil token ▸ rfl : token ++ [] = token ++ [])).1

/-- **The severity of a line is the level whose name its word spells**, and so it is for whatever
else spells this name, but for one case: a `warning` whose `i` is one of the two letters beyond ASCII
that match it is informational. -/
theorem severity_of_apply_location (directory : Text) (hasColumn : Bool) (line : Text)
    (diagnostic : Diagnostic)
    (h : (LineRule.location hasColumn).apply directory line = .ok (some diagnostic)) :
    ∃ (cut : LocationCut) (message : Text) (level : Severity),
      cut.IsReadOf hasColumn line message ∧ cut.token.Spells level.name ∧
      (∀ other : Severity, cut.token.Spells other.name → other = level) ∧
      diagnostic.severity = ofToken cut.token ∧
      ∀ token : Text, token.Spells level.name →
        ofToken token = if level = .warning ∧ token.HasOtherI then .info else level := by
  obtain ⟨cut, message, hread, -, rfl⟩ := LocationCut.exists_isReadOf_of_apply h
  obtain ⟨level, hspells⟩ := hread.isOf.formed.token
  exact ⟨cut, message, level, hread, hspells, fun other hother => eq_of_spells hother hspells, rfl,
    fun token htoken => ofToken_of_spells htoken⟩

/-- A line whose word is matched as a warning and looked up as something unknown. -/
theorem severity_of_apply_location_dotless :
    ∃ diagnostic : Diagnostic,
      (LineRule.location true).apply (text "/p") (text "a.x:1:1: warn\u0131ng: m")
          = .ok (some diagnostic) ∧
      diagnostic.severity = .info ∧
      ∃ (cut : LocationCut) (message : Text),
        cut.IsReadOf true (text "a.x:1:1: warn\u0131ng: m") message ∧
        cut.token.Spells Severity.warning.name := by
  have happly : (LineRule.location true).apply (text "/p") (text "a.x:1:1: warn\u0131ng: m")
      = .ok (some ⟨text "/p/a.x", text "m", .info, none, some ⟨⟨1, 1⟩, none⟩⟩) := by decide
  obtain ⟨cut, message, level, hread, hspells, -⟩ := severity_of_apply_location _ _ _ _ happly
  have htoken : cut.token = text "warn\u0131ng" := by
    have hfound : LineGrammar.location? true (text "a.x:1:1: warn\u0131ng: m")
        = some ⟨text "a.x", [1], some [1], text "warn\u0131ng", text "m"⟩ := by decide
    exact congrArg LineGrammar.Location.token (Option.some.inj (hread.found.symm.trans hfound))
  -- the length of the word tells which level it spells
  have hlevel : level = .warning := by
    have hlength := hspells.length_eq
    rw [htoken] at hlength
    revert hlength
    cases level <;> decide
  exact ⟨_, happly, rfl, cut, message, hread, hlevel ▸ hspells⟩

end Severity

end DiagnosticRelay
