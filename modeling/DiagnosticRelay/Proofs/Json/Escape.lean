import DiagnosticRelay.Json.Reader
import DiagnosticRelay.Json.Writer
import DiagnosticRelay.Proofs.Text.Halves

/-!
# Strings that are written and read

A string is written code point by code point, and each of them is read back by itself: it stands for
itself, or has an escape of one letter, or is written by its UTF-16 units (`escape_cases`).  There
is one exception.  The reader joins two units that form a pair, and it cannot know whether they were
written for one code point or for two halves that stood together.  So what is read is the string
with its halves joined (`readString_escape`).

The reader looks ahead only after the first half of a pair.  `NoLowAhead` says of a text that what
is found there is no second half; it holds of everything that can follow such a half in a string,
the closing quote included, unless it is a second half (`noLowAhead_escape`).
-/

namespace DiagnosticRelay

namespace Json

open Text (hexDigit hexDigits)

/-! ## Units -/

theorem hexValue?_hexDigit : ∀ d < 16, (hexDigit d).hexValue? = some d := by decide

/-- Four hexadecimal digits are read back. -/
theorem hexFour?_hexDigit {n : Nat} (h : n < 0x10000) :
    hexFour? (hexDigit (n / 16 / 16 / 16 % 16)) (hexDigit (n / 16 / 16 % 16))
      (hexDigit (n / 16 % 16)) (hexDigit (n % 16)) = some n := by
  have hvalue (m : Nat) : (hexDigit (m % 16)).hexValue? = some (m % 16) :=
    hexValue?_hexDigit _ (Nat.mod_lt m (by decide))
  simp only [hexFour?, hvalue, Option.bind_eq_bind, Option.bind_some, Option.some.injEq]
  omega

theorem unitEscape_eq (unit : Nat) :
    unitEscape unit = .char '\\' :: .char 'u' :: hexDigits 4 unit := rfl

theorem hexDigits_four (n : Nat) : hexDigits 4 n = [hexDigit (n / 16 / 16 / 16 % 16),
    hexDigit (n / 16 / 16 % 16), hexDigit (n / 16 % 16), hexDigit (n % 16)] := rfl

/-- A unit that is no first half is read by itself. -/
theorem escapeAt_unit {n : Nat} (h : n < 0x10000) (hhigh : ¬(0xD800 ≤ n ∧ n < 0xDC00))
    {t : Text} (ht : t ≠ []) :
    escapeAt (.char 'u' :: (hexDigits 4 n ++ t)) = .ok (.ofValue n, 5) := by
  obtain ⟨next, after, rfl⟩ := List.exists_cons_of_ne_nil ht
  simp only [hexDigits_four, List.cons_append, List.nil_append, escapeAt, hexFour?_hexDigit h,
    if_neg hhigh]

/-- A first half and a second half are read together. -/
theorem escapeAt_pair {high low : Nat} (hhigh : 0xD800 ≤ high ∧ high < 0xDC00)
    (hlow : 0xDC00 ≤ low ∧ low < 0xE000) {t : Text} (ht : t ≠ []) :
    escapeAt (.char 'u' :: (hexDigits 4 high ++ (unitEscape low ++ t)))
      = .ok (.ofValue (joinPair high low), 11) := by
  obtain ⟨next, after, rfl⟩ := List.exists_cons_of_ne_nil ht
  simp only [unitEscape_eq, hexDigits_four, List.cons_append, List.nil_append, escapeAt,
    hexFour?_hexDigit (show high < 0x10000 by omega),
    hexFour?_hexDigit (show low < 0x10000 by omega), if_pos hhigh, if_pos hlow]

/-- A text that does not go on with the escape of a second half, nor with a broken one. -/
def NoLowAhead (t : Text) : Prop :=
  ∀ e f g h after, t = .char '\\' :: .char 'u' :: e :: f :: g :: h :: after →
    ∃ unit, hexFour? e f g h = some unit ∧ ¬(0xDC00 ≤ unit ∧ unit < 0xE000)

/-- A first half is read by itself where no second half follows. -/
theorem escapeAt_alone {n : Nat} (h : 0xD800 ≤ n ∧ n < 0xDC00) {t : Text} (ht : t ≠ [])
    (hahead : NoLowAhead t) :
    escapeAt (.char 'u' :: (hexDigits 4 n ++ t)) = .ok (.ofValue n, 5) := by
  obtain ⟨next, after, rfl⟩ := List.exists_cons_of_ne_nil ht
  simp only [hexDigits_four, List.cons_append, List.nil_append, escapeAt,
    hexFour?_hexDigit (show n < 0x10000 by omega), if_pos h]
  split
  · next e f g h x after =>
    obtain ⟨unit, hunit, hlow⟩ := hahead e f g h (x :: after) rfl
    simp only [hunit, if_neg hlow]
  · rfl

/-- The halves of a number beyond the first 65536. -/
theorem joinPair_halves {n : Nat} (hlarge : 0x10000 ≤ n) (hlt : n < 0x110000) :
    (0xD800 ≤ 0xD800 + (n - 0x10000) / 0x400 ∧ 0xD800 + (n - 0x10000) / 0x400 < 0xDC00) ∧
      (0xDC00 ≤ 0xDC00 + (n - 0x10000) % 0x400 ∧ 0xDC00 + (n - 0x10000) % 0x400 < 0xE000) ∧
      joinPair (0xD800 + (n - 0x10000) / 0x400) (0xDC00 + (n - 0x10000) % 0x400) = n := by
  refine ⟨by omega, by omega, ?_⟩
  unfold joinPair
  omega

/-! ## Code points -/

/-- The code points that are written by a letter. -/
def lettered : List CodePoint :=
  [.char '"', .char '\\', .char '\n', .char '\r', .char '\t', .char '\x0c', .char '\x08']

theorem escape_of_mem_lettered : ∀ c ∈ lettered,
    ∃ letter, escape c = [.char '\\', letter] ∧ simpleEscape? letter = some c := by
  simp only [lettered, List.forall_mem_cons]
  exact ⟨⟨.char '"', rfl, rfl⟩, ⟨.char '\\', rfl, rfl⟩, ⟨.char 'n', rfl, rfl⟩,
    ⟨.char 'r', rfl, rfl⟩, ⟨.char 't', rfl, rfl⟩, ⟨.char 'f', rfl, rfl⟩, ⟨.char 'b', rfl, rfl⟩,
    fun _ hmem => absurd hmem List.not_mem_nil⟩

theorem escape_of_not_mem_lettered {c : CodePoint} (h : c ∉ lettered) :
    escape c =
      if 0x20 ≤ c.value ∧ c.value < 0x7F then [c]
      else if c.value < 0x10000 then unitEscape c.value
      else unitEscape (0xD800 + (c.value - 0x10000) / 0x400) ++
        unitEscape (0xDC00 + (c.value - 0x10000) % 0x400) := by
  simp only [lettered, List.mem_cons, not_or] at h
  obtain ⟨hquote, hslash, hfeed, hreturn, htab, hform, hback, -⟩ := h
  rw [escape, if_neg hquote, if_neg hslash, if_neg hfeed, if_neg hreturn, if_neg htab,
    if_neg hform, if_neg hback]

/-- The ways to write a code point: as it is, by a letter, in one unit or in two. -/
theorem escape_cases (c : CodePoint) :
    (escape c = [c] ∧ c ≠ .char '"' ∧ c ≠ .char '\\' ∧ ¬c.value < 0x20) ∨
      (∃ letter, escape c = [.char '\\', letter] ∧ simpleEscape? letter = some c) ∨
      (escape c = unitEscape c.value ∧ c.value < 0x10000) ∨
      (∃ high low, escape c = unitEscape high ++ unitEscape low ∧
        (0xD800 ≤ high ∧ high < 0xDC00) ∧ (0xDC00 ≤ low ∧ low < 0xE000) ∧
        joinPair high low = c.value) := by
  by_cases hletter : c ∈ lettered
  · exact Or.inr (Or.inl (escape_of_mem_lettered c hletter))
  · have hne {d : CodePoint} (hd : d ∈ lettered) : c ≠ d := fun heq => hletter (heq ▸ hd)
    rw [escape_of_not_mem_lettered hletter]
    by_cases hprintable : 0x20 ≤ c.value ∧ c.value < 0x7F
    · rw [if_pos hprintable]
      exact Or.inl ⟨rfl, hne (by decide), hne (by decide), Nat.not_lt.mpr hprintable.1⟩
    · rw [if_neg hprintable]
      by_cases hunit : c.value < 0x10000
      · rw [if_pos hunit]
        exact Or.inr (Or.inr (Or.inl ⟨rfl, hunit⟩))
      · rw [if_neg hunit]
        exact Or.inr (Or.inr (Or.inr
          ⟨_, _, rfl, joinPair_halves (Nat.le_of_not_lt hunit) c.value_lt⟩))

/-- A half is written in one unit. -/
theorem escape_of_half {c : CodePoint} (h : 0xD800 ≤ c.value ∧ c.value < 0xE000) :
    escape c = unitEscape c.value := by
  have hsmall : ∀ d ∈ lettered, d.value < 0xD800 := by decide
  have hletter : c ∉ lettered := fun hmem => Nat.not_lt.mpr h.1 (hsmall c hmem)
  rw [escape_of_not_mem_lettered hletter, if_neg (by omega), if_pos (by omega)]

theorem escapeAt_letter {letter meaning : CodePoint} (h : simpleEscape? letter = some meaning)
    (rest : Text) : escapeAt (letter :: rest) = .ok (meaning, 1) := by
  unfold escapeAt
  split
  · next digits heq =>
    rw [(List.cons.inj heq).1] at h
    cases h
  · next c tail _ heq =>
    rw [← (List.cons.inj heq).1, h]
  · next heq => cases heq

theorem noLowAhead_quote (rest : Text) : NoLowAhead (.char '"' :: rest) := by
  intro e f g h after heq
  cases heq

theorem noLowAhead_unitEscape {n : Nat} (h : n < 0x10000) (hlow : ¬(0xDC00 ≤ n ∧ n < 0xE000))
    (rest : Text) : NoLowAhead (unitEscape n ++ rest) := by
  intro e f g h' after heq
  rw [unitEscape_eq, hexDigits_four] at heq
  simp only [List.cons_append, List.cons.injEq] at heq
  obtain ⟨-, -, rfl, rfl, rfl, rfl, -⟩ := heq
  exact ⟨n, hexFour?_hexDigit h, hlow⟩

/-- What is written for a code point that is no second half is not taken for one. -/
theorem noLowAhead_escape {c : CodePoint} (h : c.isLow = false) (rest : Text) :
    NoLowAhead (escape c ++ rest) := by
  have hlow : ¬(0xDC00 ≤ c.value ∧ c.value < 0xE000) := by
    rw [CodePoint.isLow] at h
    simpa using h
  rcases escape_cases c with ⟨hescape, -, hslash, -⟩ | ⟨letter, hescape, hletter⟩ |
    ⟨hescape, hsmall⟩ | ⟨high, low, hescape, hhigh, hlow, hvalue⟩
  · rw [hescape]
    rintro e f g h after heq
    exact absurd (List.cons.inj heq).1 hslash
  · rw [hescape]
    rintro e f g h after heq
    simp only [List.cons_append, List.cons.injEq] at heq
    rw [heq.2.1] at hletter
    cases hletter
  · rw [hescape]
    exact noLowAhead_unitEscape hsmall hlow rest
  · rw [hescape, List.append_assoc]
    exact noLowAhead_unitEscape (by omega) (by omega) _

/-! ## Strings -/

variable (opening : Text)

/-- Passing over what an escape has taken. -/
theorem readString_skip (taken t : Text) :
    readString opening taken.length (taken ++ t) = readString opening 0 t := by
  induction taken with
  | nil => rfl
  | cons c taken ih => exact ih

theorem readString_backslash {meaning : CodePoint} {body t : Text} (hbody : body ≠ [])
    (h : escapeAt (body ++ t) = .ok (meaning, body.length)) :
    readString opening 0 (.char '\\' :: (body ++ t))
      = (readString opening 0 t).map fun (s, after) => (meaning :: s, after) := by
  have hne : (body ++ t).isEmpty = false := by
    rw [List.isEmpty_eq_false_iff]
    exact List.append_ne_nil_of_left_ne_nil hbody t
  rw [readString, if_neg (by decide), if_pos rfl, if_neg (by simp [hne]), h]
  simp only [readString_skip]

/-- One code point is read back, unless it is a first half before a second one. -/
theorem readString_escape_append {c : CodePoint} {t : Text} (ht : t ≠ [])
    (hahead : c.isHigh = true → NoLowAhead t) :
    readString opening 0 (escape c ++ t)
      = (readString opening 0 t).map fun (s, after) => (c :: s, after) := by
  rcases escape_cases c with ⟨hescape, hquote, hslash, hcontrol⟩ | ⟨letter, hescape, hletter⟩ |
    ⟨hescape, hsmall⟩ | ⟨high, low, hescape, hhigh, hlow, hvalue⟩
  · rw [hescape, List.singleton_append, readString, if_neg hquote, if_neg hslash,
      if_neg hcontrol]
  · rw [hescape]
    exact readString_backslash opening (List.cons_ne_nil letter []) (escapeAt_letter hletter t)
  · have hunit : escapeAt (.char 'u' :: (hexDigits 4 c.value ++ t)) = .ok (c, 5) := by
      by_cases hhigh : 0xD800 ≤ c.value ∧ c.value < 0xDC00
      · rw [escapeAt_alone hhigh ht (hahead (by simpa [CodePoint.isHigh] using hhigh)),
          CodePoint.ofValue_value]
      · rw [escapeAt_unit hsmall hhigh ht, CodePoint.ofValue_value]
    rw [hescape, unitEscape_eq]
    exact readString_backslash opening (List.cons_ne_nil (.char 'u') (hexDigits 4 c.value)) hunit
  · have hpair : escapeAt (.char 'u' :: (hexDigits 4 high ++ unitEscape low) ++ t)
        = .ok (c, 11) := by
      rw [List.cons_append, List.append_assoc, escapeAt_pair hhigh hlow ht, hvalue,
        CodePoint.ofValue_value]
    rw [hescape, unitEscape_eq high]
    exact readString_backslash opening (List.cons_ne_nil _ _) hpair

/-- A first half and the second half after it are read back as one code point. -/
theorem readString_escape_pair {c d : CodePoint} {t : Text} (hc : c.isHigh = true)
    (hd : d.isLow = true) (ht : t ≠ []) :
    readString opening 0 (escape c ++ (escape d ++ t))
      = (readString opening 0 t).map fun (s, after) => (.joined c d :: s, after) := by
  rw [CodePoint.isHigh, Bool.and_eq_true, decide_eq_true_eq, decide_eq_true_eq] at hc
  rw [CodePoint.isLow, Bool.and_eq_true, decide_eq_true_eq, decide_eq_true_eq] at hd
  have hpair : escapeAt (.char 'u' :: (hexDigits 4 c.value ++ unitEscape d.value) ++ t)
      = .ok (.joined c d, 11) := by
    rw [List.cons_append, List.append_assoc, escapeAt_pair hc hd ht]
    rfl
  rw [escape_of_half (by omega), escape_of_half (by omega), unitEscape_eq c.value,
    ← List.append_assoc]
  exact readString_backslash opening (List.cons_ne_nil _ _) hpair

/-- **A string is read back with its halves joined.** -/
theorem readString_escape (s rest : Text) :
    readString opening 0 (s.flatMap escape ++ .char '"' :: rest)
      = .ok (Text.joinHalves s, rest) := by
  have hne (s : Text) : s.flatMap escape ++ .char '"' :: rest ≠ [] := by simp
  fun_induction Text.joinHalves s with
  | case1 c d s hpair ih =>
    rw [Bool.and_eq_true] at hpair
    rw [List.flatMap_cons, List.flatMap_cons, List.append_assoc, List.append_assoc,
      readString_escape_pair opening hpair.1 hpair.2 (hne s), ih]
    rfl
  | case2 c d s hpair ih =>
    rw [List.flatMap_cons, List.append_assoc, readString_escape_append opening (hne _), ih]
    · rfl
    · intro hhigh
      rw [hhigh, Bool.true_and, Bool.not_eq_true] at hpair
      rw [List.flatMap_cons, List.append_assoc]
      exact noLowAhead_escape hpair _
  | case3 s hshort =>
    cases s with
    | nil => rfl
    | cons c s =>
      cases s with
      | nil =>
        rw [List.flatMap_cons, List.append_assoc, readString_escape_append opening (hne _)]
        · rfl
        · exact fun _ => noLowAhead_quote rest
      | cons d s => exact absurd rfl (hshort c d s)

end Json

end DiagnosticRelay
