import DiagnosticRelay.CommandLine.Outcome
import DiagnosticRelay.Proofs.Fault.Overflow
import DiagnosticRelay.Proofs.Json.Escape
import DiagnosticRelay.Proofs.Json.Float

/-!
# Documents are ASCII

Whatever a value holds, its document is written in ASCII: code points beyond it, and halves of
surrogate pairs among them, stand there as escapes.  So a document that is written can always be
printed (`CommandLine.Outcome.write_document`).

The proof follows the writer.  A text is ASCII if its parts are, and the parts are punctuation,
words, digits and strings that are escaped code point by code point.
-/

namespace DiagnosticRelay

/-- A text of ASCII code points. -/
def Text.IsAscii (t : Text) : Prop := ∀ c ∈ t, c.value < 0x80

instance : DecidablePred Text.IsAscii := fun t =>
  inferInstanceAs (Decidable (∀ c ∈ t, c.value < 0x80))

namespace Text

theorem isAscii_nil : IsAscii [] := fun _ hc => absurd hc List.not_mem_nil

theorem isAscii_cons {c : CodePoint} {t : Text} (hc : c.value < 0x80) (h : t.IsAscii) :
    IsAscii (c :: t) :=
  List.forall_mem_cons.mpr ⟨hc, h⟩

theorem IsAscii.append {s t : Text} (hs : s.IsAscii) (ht : t.IsAscii) : IsAscii (s ++ t) :=
  List.forall_mem_append.mpr ⟨hs, ht⟩

theorem isAscii_map_ofDigit {digits : List Nat} (h : ∀ d ∈ digits, d < 10) :
    IsAscii (digits.map .ofDigit) := by
  intro c hc
  obtain ⟨d, hd, rfl⟩ := List.mem_map.mp hc
  have hlt := h d hd
  rw [CodePoint.value_ofDigit d hlt]
  omega

theorem value_hexDigit : ∀ d < 16, (hexDigit d).value < 0x80 := by decide

theorem isAscii_hexDigits (width n : Nat) : IsAscii (hexDigits width n) := by
  induction width generalizing n with
  | zero => exact isAscii_nil
  | succ width ih =>
    exact (ih _).append (isAscii_cons (value_hexDigit _ (Nat.mod_lt n (by decide))) isAscii_nil)

end Text

namespace Json

open Text (IsAscii isAscii_nil isAscii_cons isAscii_map_ofDigit)

/-! ## Scalars -/

theorem isAscii_unitEscape (unit : Nat) : IsAscii (unitEscape unit) :=
  IsAscii.append (by decide) (Text.isAscii_hexDigits 4 unit)

theorem isAscii_escape (c : CodePoint) : IsAscii (escape c) := by
  have hlettered : ∀ c ∈ lettered, IsAscii (escape c) := by decide
  by_cases hc : c ∈ lettered
  · exact hlettered c hc
  · rw [escape_of_not_mem_lettered hc]
    split
    · next hplain => exact isAscii_cons (by omega) isAscii_nil
    · split
      · exact isAscii_unitEscape _
      · exact (isAscii_unitEscape _).append (isAscii_unitEscape _)

theorem isAscii_writeString (s : Text) : IsAscii (writeString s) := by
  refine isAscii_cons (by decide) (IsAscii.append ?_ (by decide))
  intro d hd
  obtain ⟨c, -, hc⟩ := List.mem_flatMap.mp hd
  exact isAscii_escape c d hc

theorem isAscii_minus (negative : Bool) : IsAscii (minus negative) := by
  cases negative <;> decide

theorem isAscii_ofInt (z : Int) : IsAscii (Decimal.ofInt z) := by
  rw [ofInt_eq]
  exact (isAscii_minus _).append (isAscii_map_ofDigit (isDigits_digitsOf _).lt)

theorem IsTail.isAscii {tail : Text} (h : IsTail tail) : IsAscii tail := by
  have hsign {sign : Char} (hsign : sign = '+' ∨ sign = '-') :
      (CodePoint.char sign).value < 0x80 := by
    rcases hsign with rfl | rfl <;> decide
  cases h with
  | fraction h => exact isAscii_cons (by decide) (isAscii_map_ofDigit h.lt)
  | exponent hmark h =>
    exact isAscii_cons (by decide) (isAscii_cons (hsign hmark) (isAscii_map_ofDigit h.lt))
  | both hfraction hmark h =>
    exact isAscii_cons (by decide) ((isAscii_map_ofDigit hfraction.lt).append
      (isAscii_cons (by decide) (isAscii_cons (hsign hmark) (isAscii_map_ofDigit h.lt))))

theorem isAscii_writeFloat (x : Binary64) : IsAscii (writeFloat x) := by
  by_cases hx : x.isFinite = true
  · obtain ⟨negative, whole, tail, hwhole, htail, heq⟩ := exists_display_eq hx
    have hascii : IsAscii x.display := by
      rw [heq]
      exact (isAscii_minus _).append ((isAscii_map_ofDigit hwhole.lt).append htail.isAscii)
    cases x with
    | finite => exact hascii
    | nan | infinite => cases hx
  · rcases not_isFinite_cases (Bool.not_eq_true _ ▸ hx) with rfl | rfl | rfl <;> decide

/-! ## Values, items and members -/

theorem isAscii_breakAt (level : Nat) : IsAscii (breakAt level) := by
  refine isAscii_cons (by decide) fun c hc => ?_
  rw [List.eq_of_mem_replicate hc]
  decide

mutual

theorem isAscii_writeDocument : ∀ (level : Nat) (value : Value),
    IsAscii (writeDocument level value)
  | _, .null => (by decide : IsAscii (text "null"))
  | _, .bool true => (by decide : IsAscii (text "true"))
  | _, .bool false => (by decide : IsAscii (text "false"))
  | _, .int z => isAscii_ofInt z
  | _, .float x => isAscii_writeFloat x
  | _, .str s => isAscii_writeString s
  | _, .date shown => isAscii_writeString shown
  | _, .list [] => (by decide : IsAscii (text "[]"))
  | _, .object [] => (by decide : IsAscii [.char '\x7b', .char '\x7d'])
  | level, .list (item :: items) => by
    rw [writeDocument]
    exact isAscii_cons (by decide) ((((isAscii_breakAt _).append
      (isAscii_writeDocumentItems (level + 1) (item :: items))).append (isAscii_breakAt _)).append
      (by decide))
  | level, .object (member :: members) => by
    rw [writeDocument]
    exact isAscii_cons (by decide) ((((isAscii_breakAt _).append
      (isAscii_writeDocumentMembers (level + 1) (member :: members))).append
      (isAscii_breakAt _)).append (by decide))

theorem isAscii_writeDocumentItems : ∀ (level : Nat) (items : List Value),
    IsAscii (writeDocumentItems level items)
  | _, [] => isAscii_nil
  | level, [item] => isAscii_writeDocument level item
  | level, item :: next :: items => by
    rw [writeDocumentItems]
    exact (isAscii_writeDocument level item).append (isAscii_cons (by decide)
      ((isAscii_breakAt _).append (isAscii_writeDocumentItems level (next :: items))))

theorem isAscii_writeDocumentMembers : ∀ (level : Nat) (members : List (Text × Value)),
    IsAscii (writeDocumentMembers level members)
  | _, [] => isAscii_nil
  | level, [(key, value)] => by
    rw [writeDocumentMembers]
    exact ((isAscii_writeString key).append (by decide)).append (isAscii_writeDocument level value)
  | level, (key, value) :: next :: members => by
    rw [writeDocumentMembers]
    exact (((isAscii_writeString key).append (by decide)).append
      (isAscii_writeDocument level value)).append (isAscii_cons (by decide)
      ((isAscii_breakAt _).append (isAscii_writeDocumentMembers level (next :: members))))

end

theorem isAscii_document {value : Value} {written : Text} (h : document value = .ok written) :
    written.IsAscii := by
  rw [document, Value.written] at h
  split at h
  · cases h
    exact isAscii_writeDocument 0 value
  · cases h

end Json

/-! ## Printing -/

namespace CommandLine

theorem printFault?_of_isAscii {t : Text} (h : t.IsAscii) : printFault? t = none := by
  have hscalar : ∀ c ∈ t, c.isScalar = true := by
    intro c hc
    cases c with
    | char => rfl
    | surrogate half =>
      have hlow := h _ hc
      rw [CodePoint.value_surrogate] at hlow
      omega
  have hall : t.takeWhile CodePoint.isScalar = t := List.takeWhile_eq_self_iff.mpr hscalar
  rw [printFault?]
  simp only [hall, List.drop_length]

/-- What is ASCII is printed as it is. -/
theorem Outcome.print_of_isAscii {t : Text} (h : t.IsAscii) :
    ({} : Outcome).print t = { output := t } := by
  rw [print, printFault?_of_isAscii h]
  rfl

/-- A document that is written is printed, and the end of its last line with it. -/
theorem Outcome.write_document {value : Value} {printed : Text}
    (h : (Json.document value).map (· ++ text "\n") = .ok printed) :
    ({} : Outcome).write ((Json.document value).map (· ++ text "\n")) = { output := printed } := by
  obtain ⟨written, hwritten, rfl⟩ := map_eq_ok.mp h
  rw [h, write, print_of_isAscii ((Json.isAscii_document hwritten).append (by decide))]

end CommandLine

end DiagnosticRelay
