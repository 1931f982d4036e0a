import DiagnosticRelay.Proofs.LineGrammar.Run
import DiagnosticRelay.Proofs.LineGrammar.Search
import Mathlib.Data.List.DropRight
import Mathlib.Data.List.Forall2

/-!
# Words and messages of a line

Behind its coordinates a line has a severity word in any case, and a message.

* `Text.dropLetters?_eq_some_iff` says which texts spell a word: those that match it letter by
  letter.  `tokenAndMessage?_eq_some_iff` applies it to the four severity words.  No two of these
  begin with the same letter, in whatever case it is written, and so the order in which they are
  tried does not matter.
* `exists_messageAfterToken?_of_ne_nil` says what the message is, up to blanks at its ends: the rest
  of the line without the blanks at its head, a colon, and the blanks behind the colon
  (`messageOf`).  The line grammar wants at least one code point for the message, and gives a blank
  or the colon back to it if nothing else is left; trimming takes a blank away again, but not the
  colon.
-/

namespace DiagnosticRelay

namespace CodePoint

/-- Only the ASCII capitals have a lower case. -/
theorem lower_of_value {c : CodePoint} (h : c.value < 0x41 ∨ 0x5A < c.value) : c.lower = c := by
  cases c with
  | surrogate half => rfl
  | char c =>
    have hupper : ¬(c.val ≥ 'A'.val ∧ c.val ≤ 'Z'.val) := by
      rintro ⟨hlow, hhigh⟩
      have hlow : 65 ≤ c.toNat := UInt32.le_iff_toNat_le.mp hlow
      have hhigh : c.toNat ≤ 90 := UInt32.le_iff_toNat_le.mp hhigh
      rw [value_char] at h
      omega
    exact congrArg CodePoint.char (dif_neg hupper)

theorem lower_of_isDecimal {c : CodePoint} (h : c.isDecimal = true) : c.lower = c := by
  apply lower_of_value
  have hascii := value_of_isDecimal h
  omega

theorem lower_of_isBlank {c : CodePoint} (h : c.isBlank = true) : c.lower = c := by
  apply lower_of_value
  simp only [isBlank, isWhiteSpace, Bool.or_eq_true, Bool.and_eq_true, decide_eq_true_eq,
    beq_iff_eq] at h
  omega

/-- The two letters beyond ASCII that match an `i`: the dotted capital and the dotless small one. -/
def isOtherI (c : CodePoint) : Bool := c == .char '\u0130' || c == .char '\u0131'

theorem isOtherI_iff {c : CodePoint} :
    c.isOtherI = true ↔ c = .char '\u0130' ∨ c = .char '\u0131' := by
  rw [isOtherI, Bool.or_eq_true, beq_iff_eq, beq_iff_eq]

/-- They have no lower case here. -/
theorem lower_of_isOtherI {c : CodePoint} (h : c.isOtherI = true) : c.lower = c := by
  rcases isOtherI_iff.mp h with rfl | rfl <;> decide

theorem matchesLetter_iff {c letter : CodePoint} :
    c.matchesLetter letter = true ↔
      c.lower = letter ∨ letter = .char 'i' ∧ c.isOtherI = true := by
  rw [matchesLetter, Bool.or_eq_true, Bool.and_eq_true, beq_iff_eq, beq_iff_eq, isOtherI]

theorem isDecimal_of_isBlank {c : CodePoint} (h : c.isBlank = true) : c.isDecimal = false := by
  by_contra hdecimal
  rw [Bool.not_eq_false] at hdecimal
  rw [isBlank_of_isDecimal hdecimal] at h
  cases h

end CodePoint

namespace Text

/-- Text that matches a word of lower-case letters, letter by letter and in any case. -/
def Spells (token word : Text) : Prop :=
  List.Forall₂ (fun c letter => c.matchesLetter letter = true) token word

theorem Spells.length_eq {token word : Text} (h : Spells token word) :
    token.length = word.length :=
  List.Forall₂.length_eq h

theorem spells_of_lower {token word : Text} (h : lower token = word) : Spells token word := by
  subst h
  induction token with
  | nil => exact List.Forall₂.nil
  | cons c token ih =>
    refine List.Forall₂.cons ?_ ih
    rw [CodePoint.matchesLetter, beq_self_eq_true, Bool.true_or]

/-- A word is found at the head of a text exactly if something there spells it. -/
theorem dropLetters?_eq_some_iff {t rest word : Text} :
    dropLetters? t word = some rest ↔ ∃ token, t = token ++ rest ∧ Spells token word := by
  induction word generalizing t with
  | nil =>
    cases t with
    | nil =>
      constructor
      · rintro ⟨⟩
        exact ⟨[], rfl, List.Forall₂.nil⟩
      · rintro ⟨token, heq, hspells⟩
        cases hspells
        exact congrArg some heq
    | cons c t =>
      constructor
      · rintro ⟨⟩
        exact ⟨[], rfl, List.Forall₂.nil⟩
      · rintro ⟨token, heq, hspells⟩
        cases hspells
        exact congrArg some heq
  | cons letter word ih =>
    cases t with
    | nil =>
      refine ⟨fun h => (by cases h), ?_⟩
      rintro ⟨token, heq, hspells⟩
      cases hspells
      cases heq
    | cons c t =>
      rw [dropLetters?]
      constructor
      · intro h
        split at h
        · next hc =>
          obtain ⟨token, rfl, hspells⟩ := ih.mp h
          exact ⟨c :: token, rfl, List.Forall₂.cons hc hspells⟩
        · cases h
      · rintro ⟨token, heq, hspells⟩
        cases hspells with
        | cons hc hspells =>
          obtain ⟨rfl, rfl⟩ := List.cons.inj heq
          rw [if_pos hc]
          exact ih.mpr ⟨_, rfl, hspells⟩

end Text

namespace LineGrammar

/-! ## Severity words -/

/-- The initials of the words are letters, and no two words share one. -/
def initial : Severity → CodePoint
  | .error => .char 'e'
  | .warning => .char 'w'
  | .note => .char 'n'
  | .info => .char 'i'

theorem name_eq_cons (severity : Severity) : ∃ word, severity.name = initial severity :: word := by
  cases severity <;> exact ⟨_, rfl⟩

/-- An initial is matched by the letters that it is the lower case of, and one of them by two more
letters, which have no lower case here. -/
theorem matchesLetter_initial_cases {c : CodePoint} {severity : Severity}
    (h : c.matchesLetter (initial severity) = true) :
    c.lower = initial severity ∨
      severity = .info ∧ (c = .char '\u0130' ∨ c = .char '\u0131') := by
  refine (CodePoint.matchesLetter_iff.mp h).imp_right fun ⟨hinitial, hc⟩ =>
    ⟨?_, CodePoint.isOtherI_iff.mp hc⟩
  revert hinitial
  cases severity <;> decide

/-- No letter matches the initials of two words. -/
theorem matchesLetter_initial_inj {c : CodePoint} {severity other : Severity}
    (h : c.matchesLetter (initial severity) = true)
    (hother : c.matchesLetter (initial other) = true) : severity = other := by
  have hdotless {severity : Severity} (hc : c = .char '\u0130' ∨ c = .char '\u0131')
      (hlower : c.lower = initial severity) : False := by
    rcases hc with rfl | rfl <;> revert hlower <;> cases severity <;> decide
  rcases matchesLetter_initial_cases h with hlower | ⟨rfl, hc⟩ <;>
    rcases matchesLetter_initial_cases hother with hlower' | ⟨rfl, hc'⟩
  · rw [hlower] at hlower'
    revert hlower'
    cases severity <;> cases other <;> decide
  · exact (hdotless hc' hlower).elim
  · exact (hdotless hc hlower').elim
  · rfl

/-- An initial is neither blank nor a decimal digit. -/
theorem isBlank_of_matchesLetter_initial {c : CodePoint} {severity : Severity}
    (h : c.matchesLetter (initial severity) = true) :
    c.isBlank = false ∧ c.isDecimal = false := by
  rcases matchesLetter_initial_cases h with hlower | ⟨-, rfl | rfl⟩
  · constructor <;> by_contra hc <;> rw [Bool.not_eq_false] at hc
    · rw [CodePoint.lower_of_isBlank hc] at hlower
      subst hlower
      revert hc
      cases severity <;> decide
    · rw [CodePoint.lower_of_isDecimal hc] at hlower
      subst hlower
      revert hc
      cases severity <;> decide
  · decide
  · decide

/-- A text that spells a severity word begins with its initial. -/
theorem exists_cons_of_spells {token : Text} {severity : Severity}
    (h : token.Spells severity.name) :
    ∃ c letters, token = c :: letters ∧ c.matchesLetter (initial severity) = true := by
  obtain ⟨word, hword⟩ := name_eq_cons severity
  rw [hword] at h
  cases h with
  | cons hc _ => exact ⟨_, _, rfl, hc⟩

/-- What stands in a word's place spells only one word, and goes only as far as the word. -/
theorem spells_append_inj {token other rest tail : Text} {severity level : Severity}
    (h : token.Spells severity.name) (hother : other.Spells level.name)
    (heq : token ++ rest = other ++ tail) : severity = level ∧ token = other ∧ rest = tail := by
  obtain ⟨c, letters, rfl, hc⟩ := exists_cons_of_spells h
  obtain ⟨d, more, rfl, hd⟩ := exists_cons_of_spells hother
  obtain ⟨rfl, -⟩ := List.cons.inj heq
  obtain rfl := matchesLetter_initial_inj hc hd
  exact ⟨rfl, List.append_inj heq (h.length_eq.trans hother.length_eq.symm)⟩

/-- One of the words and a message, as they are tried. -/
theorem wordAndMessage_eq_some_iff {t : Text} {severity : Severity} {found : Text × Text} :
    (do
      let after ← Text.dropLetters? t severity.name
      let message ← messageAfterToken? after
      some (t.take severity.name.length, message)) = some found ↔
        ∃ rest, t = found.1 ++ rest ∧ found.1.Spells severity.name ∧
          messageAfterToken? rest = some found.2 := by
  obtain ⟨token, message⟩ := found
  simp only [Option.bind_eq_bind, Option.bind_eq_some_iff, Text.dropLetters?_eq_some_iff,
    Option.some.injEq, Prod.mk.injEq]
  constructor
  · rintro ⟨rest, ⟨found, rfl, hspells⟩, _, hmessage, rfl, rfl⟩
    rw [← hspells.length_eq, List.take_left]
    exact ⟨rest, rfl, hspells, hmessage⟩
  · rintro ⟨rest, rfl, hspells, hmessage⟩
    exact ⟨rest, ⟨token, rfl, hspells⟩, message, hmessage, by
      rw [← hspells.length_eq, List.take_left], rfl⟩

/-- **A severity word and a message.**  It does not matter which word is tried first. -/
theorem tokenAndMessage?_eq_some_iff {t : Text} {found : Text × Text} :
    tokenAndMessage? t = some found ↔
      ∃ severity rest, t = found.1 ++ rest ∧ found.1.Spells (Severity.name severity) ∧
        messageAfterToken? rest = some found.2 := by
  constructor
  · intro h
    obtain ⟨severity, -, hfound⟩ := List.exists_of_findSome?_eq_some h
    exact ⟨severity, wordAndMessage_eq_some_iff.mp hfound⟩
  · rintro ⟨severity, hword⟩
    obtain ⟨rest, ht, hspells, hmessage⟩ := hword
    have hmem : severity ∈ Severity.all := by cases severity <;> decide
    cases hfirst : tokenAndMessage? t with
    | none =>
      have hnone := List.findSome?_eq_none_iff.mp hfirst severity hmem
      rw [wordAndMessage_eq_some_iff.mpr ⟨rest, ht, hspells, hmessage⟩] at hnone
      cases hnone
    | some first =>
      -- the word that is found first is the only one
      obtain ⟨other, -, hother⟩ := List.exists_of_findSome?_eq_some hfirst
      obtain ⟨tail, ht', hspells', hmessage'⟩ := wordAndMessage_eq_some_iff.mp hother
      obtain ⟨-, htoken, rfl⟩ := spells_append_inj hspells hspells' (ht.symm.trans ht')
      rw [hmessage] at hmessage'
      exact congrArg some (Prod.ext htoken.symm (Option.some.inj hmessage').symm)

/-! ## Messages -/

theorem wholeMessage?_of_not_mem {t : Text} (hne : t ≠ []) (h : lineFeed ∉ t) :
    wholeMessage? t = some t := by
  have hall : t.takeWhile (· != lineFeed) = t := by
    rw [List.takeWhile_eq_self_iff]
    intro c hc
    rw [bne_iff_ne]
    rintro rfl
    exact h hc
  simp only [wholeMessage?, hall, List.drop_length, true_or, if_true]
  rw [if_neg (by rwa [List.isEmpty_iff])]

/-- A text without a colon at its head. -/
def dropColon : Text → Text
  | .char ':' :: rest => rest
  | t => t

/-- What remains of a text without the blanks at its head, one colon, and the blanks behind it. -/
def behindColon (rest : Text) : Text :=
  (dropColon (rest.dropWhile CodePoint.isBlank)).dropWhile CodePoint.isBlank

/-- The message of the text behind a severity word, without blanks at its ends.  If nothing remains
behind the colon, then the colon is the message if it is the last code point of the line. -/
def messageOf (rest : Text) : Text :=
  if behindColon rest ≠ [] then Text.trim (behindColon rest)
  else if rest.dropWhile CodePoint.isBlank = [.char ':'] then [.char ':']
  else []

theorem trim_dropWhile_isBlank (t : Text) :
    Text.trim (t.dropWhile CodePoint.isBlank) = Text.trim t := by
  rw [Text.trim, Text.trim, Text.trimBy, Text.trimBy, List.dropWhile_idempotent]

theorem messageOf_eq (rest : Text) :
    messageOf rest =
      if rest.dropWhile CodePoint.isBlank = [.char ':'] then [.char ':']
      else Text.trim (dropColon (rest.dropWhile CodePoint.isBlank)) := by
  have htrim := trim_dropWhile_isBlank (dropColon (rest.dropWhile CodePoint.isBlank))
  rw [messageOf, ← htrim, ← behindColon]
  by_cases hcolon : rest.dropWhile CodePoint.isBlank = [.char ':']
  · have hbehind : behindColon rest = [] := by rw [behindColon, hcolon]; rfl
    rw [if_pos hcolon, if_pos hcolon, if_neg (not_not_intro hbehind)]
  · rw [if_neg hcolon, if_neg hcolon]
    by_cases hbehind : behindColon rest = []
    · rw [if_neg (not_not_intro hbehind), hbehind, Text.trim_nil]
    · rw [if_pos hbehind]

/-- All blanks at the head of a text are taken, unless nothing follows them: then all but one. -/
theorem findSome?_afterBlanks_cases {read : Text → Option Text} {t : Text} (hne : t ≠ [])
    (hnil : read [] = none) (hread : ∀ u, u <:+ t → u ≠ [] → ∃ a, read u = some a) :
    (t.dropWhile CodePoint.isBlank ≠ [] ∧
      (afterBlanks t).findSome? read = read (t.dropWhile CodePoint.isBlank)) ∨
    (t.dropWhile CodePoint.isBlank = [] ∧
      ∃ c, c.isBlank = true ∧ [c] <:+ t ∧ (afterBlanks t).findSome? read = read [c]) := by
  by_cases hrest : t.dropWhile CodePoint.isBlank = []
  · -- there are blanks only, and the last of them is left
    have hblanks := List.dropWhile_eq_nil_iff.mp hrest
    obtain ⟨blanks, c, rfl⟩ := (List.eq_nil_or_concat t).resolve_left hne
    rw [List.concat_eq_append] at hblanks hread hrest ⊢
    obtain ⟨hinit, hc⟩ := List.forall_mem_append.mp hblanks
    have hlast : [c] <:+ blanks ++ [c] := List.suffix_append blanks [c]
    refine Or.inr ⟨hrest, c, hc c (List.mem_singleton_self c), hlast, ?_⟩
    obtain ⟨a, ha⟩ := hread [c] hlast (List.cons_ne_nil c [])
    rw [ha, findSome?_afterBlanks_eq_some_iff]
    refine ⟨blanks, [c], rfl, hinit, ha, fun more fewer heq _ hlength => ?_⟩
    have hlengths := congrArg List.length heq
    rw [List.length_append, List.length_append, List.length_singleton] at hlengths
    rw [List.length_eq_zero_iff.mp (by omega : fewer.length = 0), hnil]
  · refine Or.inl ⟨hrest, ?_⟩
    have hhead : ∀ c ∈ (t.dropWhile CodePoint.isBlank).head?, c.isBlank = false := by
      intro c hc
      have hhead := List.head?_dropWhile_not CodePoint.isBlank t
      rw [hc] at hhead
      simpa using hhead
    obtain ⟨a, ha⟩ := hread _ (List.dropWhile_suffix CodePoint.isBlank) hrest
    rw [ha, findSome?_afterBlanks_eq_some_iff]
    refine ⟨t.takeWhile CodePoint.isBlank, _, List.takeWhile_append_dropWhile.symm,
      fun c hc => List.all_eq_true.mp List.all_takeWhile c hc, ha, ?_⟩
    intro more fewer heq hmore hlength
    have hle := Text.length_le_of_append_eq hhead hmore
      (List.takeWhile_append_dropWhile.trans heq)
    exact absurd hlength (Nat.not_lt.mpr hle)

theorem trim_singleton {c : CodePoint} (h : c.isBlank = true) : Text.trim [c] = [] := by
  rw [← trim_dropWhile_isBlank, List.dropWhile_cons_of_pos h]
  rfl

/-- The message of a text behind the colon, without some of the blanks at its head. -/
def blanksMessage? (t : Text) : Option Text := (afterBlanks t).findSome? wholeMessage?

theorem exists_blanksMessage? {t : Text} (hne : t ≠ []) (hline : lineFeed ∉ t) :
    ∃ message, blanksMessage? t = some message ∧ Text.trim message = Text.trim t := by
  have hread : ∀ u, u <:+ t → u ≠ [] → wholeMessage? u = some u := fun u hu hne =>
    wholeMessage?_of_not_mem hne fun hmem => hline (hu.subset hmem)
  rcases findSome?_afterBlanks_cases hne rfl fun u hu hne => ⟨u, hread u hu hne⟩ with
    ⟨hrest, hfound⟩ | ⟨hrest, c, hc, hlast, hfound⟩
  · rw [blanksMessage?, hfound, hread _ (List.dropWhile_suffix _) hrest]
    exact ⟨_, rfl, trim_dropWhile_isBlank t⟩
  · rw [blanksMessage?, hfound, hread _ hlast (List.cons_ne_nil c [])]
    exact ⟨_, rfl, by rw [trim_singleton hc, ← trim_dropWhile_isBlank t, hrest, Text.trim_nil]⟩

/-- The message of a text, without a colon at its head if something follows the colon. -/
def colonMessage? (t : Text) : Option Text := (afterColon t).findSome? blanksMessage?

theorem dropColon_of_ne {t : Text} (h : ∀ rest, t ≠ .char ':' :: rest) : dropColon t = t := by
  unfold dropColon
  split
  · next rest => exact absurd rfl (h rest)
  · rfl

theorem exists_colonMessage? {t : Text} (hne : t ≠ []) (hline : lineFeed ∉ t) :
    ∃ message, colonMessage? t = some message ∧
      Text.trim message = if t = [.char ':'] then [.char ':'] else Text.trim (dropColon t) := by
  rw [colonMessage?]
  unfold afterColon
  split
  · next rest =>
    by_cases hrest : rest = []
    · subst hrest
      exact ⟨[.char ':'], by decide, by decide⟩
    · obtain ⟨message, hmessage, htrim⟩ := exists_blanksMessage? hrest
        fun hmem => hline (List.mem_cons_of_mem _ hmem)
      refine ⟨message, by rw [List.findSome?_cons, hmessage], ?_⟩
      rw [htrim, if_neg (by simpa using hrest), dropColon]
  · next hcolon =>
    obtain ⟨message, hmessage, htrim⟩ := exists_blanksMessage? hne hline
    refine ⟨message, by rw [List.findSome?_cons, hmessage], ?_⟩
    rw [htrim, if_neg (hcolon []), dropColon_of_ne hcolon]

/-- **The message behind a severity word**, up to blanks at its ends. -/
theorem exists_messageAfterToken?_of_ne_nil {rest : Text} (hne : rest ≠ [])
    (hline : lineFeed ∉ rest) :
    ∃ message, messageAfterToken? rest = some message ∧ Text.trim message = messageOf rest := by
  have hread {u : Text} (hu : u <:+ rest) (hne : u ≠ []) := exists_colonMessage? hne fun hmem =>
    hline (hu.subset hmem)
  have hfound : messageAfterToken? rest = (afterBlanks rest).findSome? colonMessage? := rfl
  rw [messageOf_eq, hfound]
  rcases findSome?_afterBlanks_cases hne rfl fun u hu hne => (hread hu hne).imp fun _ h => h.1 with
    ⟨hbehind, hfound⟩ | ⟨hbehind, c, hc, hlast, hfound⟩
  · rw [hfound]
    exact hread (List.dropWhile_suffix _) hbehind
  · -- a blank is no colon, and trimming leaves nothing of it
    obtain ⟨message, hmessage, htrim⟩ := hread hlast (List.cons_ne_nil c [])
    have hcolon (tail : Text) : [c] ≠ .char ':' :: tail := by
      rintro heq
      rw [(List.cons.inj heq).1] at hc
      exact absurd hc (by decide)
    rw [if_neg (hcolon []), dropColon_of_ne hcolon, trim_singleton hc] at htrim
    rw [hfound, hbehind]
    exact ⟨message, hmessage, htrim⟩

end LineGrammar

end DiagnosticRelay
