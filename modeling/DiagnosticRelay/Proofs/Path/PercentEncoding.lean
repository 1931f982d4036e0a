import DiagnosticRelay.Path.FileUri
import DiagnosticRelay.Proofs.Text.Pieces
import DiagnosticRelay.Proofs.Text.Utf8

/-!
# Percent-encodings of a text

A text can be percent-encoded in many ways: each of its scalar values is written as it is, unless it
is a percent sign, or as the escapes of its UTF-8 octets, and each hexadecimal digit of an escape
has two cases.  `IsEncoding` is that freedom.  Decoding has none, and `percentDecode?_of_isEncoding`
says that it leads back from every encoding.

The decoder does not work on scalar values.  It turns ASCII and escapes alike into octets, gathers
them in runs and decodes a run when it meets a code point beyond ASCII, so the octets of an
escaped `é` may share a run with the letters around it.  The proofs therefore follow the
runs: `ReadsAs` starts with any run of octets that comes from a text, and says that
this text is put before the result.
-/

namespace DiagnosticRelay

namespace Path

namespace FileUri

/-- The escapes of some octets: a percent sign and two hexadecimal digits of either case for
each. -/
inductive AreEscapes : List UInt8 → Text → Prop where
  | nil : AreEscapes [] []
  | cons {octet : UInt8} {octets : List UInt8} {high low : CodePoint} {escapes : Text}
      (hhigh : high.hexValue? = some (octet.toNat / 16))
      (hlow : low.hexValue? = some (octet.toNat % 16)) (hrest : AreEscapes octets escapes) :
      AreEscapes (octet :: octets) (.char '%' :: high :: low :: escapes)

/-- A text and a percent-encoding of it. -/
inductive IsEncoding : Text → Text → Prop where
  | nil : IsEncoding [] []
  | literal {c : Char} {t encoded : Text} (hc : c ≠ '%') (hrest : IsEncoding t encoded) :
      IsEncoding (.char c :: t) (.char c :: encoded)
  | escaped {c : Char} {t escapes encoded : Text} (hc : AreEscapes (Utf8.encodeChar c) escapes)
      (hrest : IsEncoding t encoded) : IsEncoding (.char c :: t) (escapes ++ encoded)

theorem contributions?_escape {high low : CodePoint} {a b : Nat} (hhigh : high.hexValue? = some a)
    (hlow : low.hexValue? = some b) (rest : Text) :
    contributions? 0 (.char '%' :: high :: low :: rest)
      = (contributions? 0 rest).map (.octet (.ofNat (16 * a + b)) :: ·) := by
  simp only [contributions?, if_true, hhigh, hlow]

theorem contributions?_escapes {octets : List UInt8} {escapes : Text}
    (h : AreEscapes octets escapes) (rest : Text) :
    contributions? 0 (escapes ++ rest)
      = (contributions? 0 rest).map (octets.map .octet ++ ·) := by
  induction h with
  | nil => cases h : contributions? 0 rest <;> simp [h]
  | @cons octet octets high low escapes hhigh hlow hrest ih =>
    have hoctet : UInt8.ofNat (16 * (octet.toNat / 16) + octet.toNat % 16) = octet := by
      rw [Nat.div_add_mod, UInt8.ofNat_toNat]
    simp only [List.cons_append, contributions?_escape hhigh hlow, hoctet, ih]
    cases contributions? 0 rest <;> rfl

theorem contributions?_ascii {c : CodePoint} (hc : c ≠ .char '%') (hascii : c.value < 0x80)
    (rest : Text) :
    contributions? 0 (c :: rest) = (contributions? 0 rest).map (.octet (.ofNat c.value) :: ·) := by
  rw [contributions?.eq_def]
  simp only
  rw [if_neg hc, if_pos hascii]

theorem contributions?_beyond {c : CodePoint} (hc : c ≠ .char '%') (hbeyond : ¬ c.value < 0x80)
    (rest : Text) :
    contributions? 0 (c :: rest) = (contributions? 0 rest).map (.literal c :: ·) := by
  rw [contributions?.eq_def]
  simp only
  rw [if_neg hc, if_neg hbeyond]

theorem closeRun?_eq_some_iff {run : List UInt8} {before : Text} :
    closeRun? run = some before ↔ Utf8.encode? before = some run.reverse := by
  rw [closeRun?, ← Utf8.decode_eq_ok_iff]
  cases Utf8.decode run.reverse <;> simp [Except.toOption]

theorem assemble?_octets (octets run : List UInt8) (rest : List Contribution) :
    assemble? run (octets.map .octet ++ rest) = assemble? (octets.reverse ++ run) rest := by
  induction octets generalizing run with
  | nil => rfl
  | cons octet octets ih =>
    rw [List.map_cons, List.cons_append, assemble?, ih, List.reverse_cons, List.append_assoc,
      List.singleton_append]

/-- A run of octets grows by the octets of a scalar value. -/
theorem encode?_run {run : List UInt8} {before : Text}
    (h : Utf8.encode? before = some run.reverse) (c : Char) :
    Utf8.encode? (before ++ [.char c])
      = some ((Utf8.encodeChar c).reverse ++ run).reverse := by
  have hlast : Utf8.encode? [.char c] = some (Utf8.encodeChar c) := by
    simp [Utf8.encode?]
  rw [Utf8.encode?_append h hlast, List.reverse_append, List.reverse_reverse]

/-- What a text contributes is put together to another text, behind the text of any run before
it. -/
def ReadsAs (encoded t : Text) : Prop :=
  ∃ parts, contributions? 0 encoded = some parts ∧
    ∀ run before, Utf8.encode? before = some run.reverse →
      assemble? run parts = some (before ++ t)

theorem readsAs_nil : ReadsAs [] [] := by
  refine ⟨[], rfl, fun run before hrun => ?_⟩
  rw [assemble?, closeRun?_eq_some_iff.mpr hrun, List.append_nil]

/-- A code point that is no percent sign stands for itself. -/
theorem ReadsAs.literal {c : CodePoint} {t encoded : Text} (hc : c ≠ .char '%')
    (h : ReadsAs encoded t) : ReadsAs (c :: encoded) (c :: t) := by
  obtain ⟨parts, hparts, hassemble⟩ := h
  by_cases hascii : c.value < 0x80
  · refine ⟨_, by rw [contributions?_ascii hc hascii, hparts]; rfl, fun run before hrun => ?_⟩
    cases c with
    | surrogate half =>
      rw [CodePoint.value_surrogate] at hascii
      omega
    | char c =>
      have hoctet : Utf8.encodeChar c = [.ofNat c.toNat] := if_pos hascii
      have hlonger := encode?_run hrun c
      rw [hoctet, List.reverse_singleton, List.singleton_append] at hlonger
      rw [CodePoint.value_char, assemble?, hassemble _ _ hlonger, List.append_assoc,
        List.singleton_append]
  · -- a code point beyond ASCII ends the run
    refine ⟨_, by rw [contributions?_beyond hc hascii, hparts]; rfl, fun run before hrun => ?_⟩
    rw [assemble?, closeRun?_eq_some_iff.mpr hrun, hassemble [] [] rfl]
    rfl

theorem ReadsAs.escaped {c : Char} {t escapes encoded : Text}
    (hc : AreEscapes (Utf8.encodeChar c) escapes) (h : ReadsAs encoded t) :
    ReadsAs (escapes ++ encoded) (.char c :: t) := by
  obtain ⟨parts, hparts, hassemble⟩ := h
  refine ⟨_, by rw [contributions?_escapes hc, hparts]; rfl, fun run before hrun => ?_⟩
  rw [assemble?_octets, hassemble _ _ (encode?_run hrun c), List.append_assoc,
    List.singleton_append]

theorem ReadsAs.percentDecode?_eq {t encoded : Text} (h : ReadsAs encoded t) :
    percentDecode? encoded = some t := by
  obtain ⟨parts, hparts, hassemble⟩ := h
  rw [percentDecode?, hparts, Option.bind_some, hassemble [] [] rfl, List.nil_append]

/-- **Every percent-encoding of a text is decoded to the text.** -/
theorem percentDecode?_of_isEncoding {t encoded : Text} (h : IsEncoding t encoded) :
    percentDecode? encoded = some t := by
  refine ReadsAs.percentDecode?_eq ?_
  induction h with
  | nil => exact readsAs_nil
  | literal hc _ ih => exact ih.literal (by simpa using hc)
  | escaped hc _ ih => exact ih.escaped hc

/-- A text without a percent sign stays as it is, also where it holds surrogate halves. -/
theorem percentDecode?_of_not_mem {t : Text} (h : .char '%' ∉ t) : percentDecode? t = some t := by
  refine ReadsAs.percentDecode?_eq ?_
  induction t with
  | nil => exact readsAs_nil
  | cons c t ih =>
    obtain ⟨hc, ht⟩ := List.ne_and_not_mem_of_not_mem_cons h
    exact (ih ht).literal hc.symm

/-- A text of scalar values without a percent sign is an encoding of itself. -/
theorem isEncoding_self {chars : List Char} (h : '%' ∉ chars) :
    IsEncoding (chars.map .char) (chars.map .char) := by
  induction chars with
  | nil => exact .nil
  | cons c chars ih =>
    obtain ⟨hc, hchars⟩ := List.ne_and_not_mem_of_not_mem_cons h
    exact .literal hc.symm (ih hchars)

theorem IsEncoding.append {s t first second : Text} (hs : IsEncoding s first)
    (ht : IsEncoding t second) : IsEncoding (s ++ t) (first ++ second) := by
  induction hs with
  | nil => exact ht
  | literal hc _ ih => exact .literal hc ih
  | escaped hc _ ih =>
    rw [List.append_assoc]
    exact .escaped hc ih

/-! ## References -/

theorem toPath_scheme (encoded : Text) :
    toPath .posix (scheme ++ encoded) = (percentDecode? encoded).getD encoded := by
  rw [toPath, Text.dropStart?_eq_some_iff.mpr rfl]

theorem toPath_scheme_append {t encoded : Text} (h : IsEncoding t encoded) :
    toPath .posix (scheme ++ encoded) = t := by
  rw [toPath_scheme, percentDecode?_of_isEncoding h, Option.getD_some]

theorem toPath_of_not_scheme {flavour : Flavour} {reference : Text}
    (h : ¬ ∃ rest, reference = scheme ++ rest) : toPath flavour reference = reference := by
  rw [toPath]
  cases hstart : Text.dropStart? reference scheme with
  | none => rfl
  | some rest => exact absurd ⟨rest, Text.dropStart?_eq_some_iff.mp hstart⟩ h

end FileUri

end Path

end DiagnosticRelay
