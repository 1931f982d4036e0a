import DiagnosticRelay.Proofs.Path.PercentEncoding

/-!
# What a reference is decoded to

A reference is decoded completely or not at all, and `toPath_exact` says when.  The condition is on
octets.  Each scalar value of the reference stands for the octets of its UTF-8 form and each escape
for the octet that it spells (`HasOctets`); if these octets are the UTF-8 form of a text, then this
text is the result, and else the reference stays as it was written.

The decoder never sees these octets together.  It decodes them in runs that end at every code point
beyond ASCII, and one run could fail, or end, where the octets as a whole go on.  That it does not
is shown in two directions.

* What is put together from the runs is the text of all octets
  (`exists_hasOctets_of_contributions?`).
* A reference whose octets are those of a text is one of the percent-encodings of this text
  (`IsDecoding.isEncoding`), and encodings are decoded.  For the octets that continue a scalar value
  begin none, so they can only come from escapes: where an escape begins a scalar value, further
  escapes complete it before anything else is written (`exists_areEscapes`).
-/

namespace DiagnosticRelay

namespace Path

namespace FileUri

/-- A text of scalar values and the octets that it spells: a percent sign with two hexadecimal
digits spells one octet, and any other scalar value those of its UTF-8 form. -/
inductive HasOctets : Text → List UInt8 → Prop where
  | nil : HasOctets [] []
  | literal {c : Char} {t : Text} {octets : List UInt8} (hc : c ≠ '%')
      (hrest : HasOctets t octets) : HasOctets (.char c :: t) (Utf8.encodeChar c ++ octets)
  | escape {high low : CodePoint} {a b : Nat} {t : Text} {octets : List UInt8}
      (hhigh : high.hexValue? = some a) (hlow : low.hexValue? = some b)
      (hrest : HasOctets t octets) : HasOctets (.char '%' :: high :: low :: t) (.ofNat (16 * a + b) :: octets)

/-- Every percent sign of a text is followed by two hexadecimal digits. -/
def IsEscaped (t : Text) : Prop :=
  ∀ before rest, t = before ++ .char '%' :: rest →
    ∃ high low after, rest = high :: low :: after ∧
      high.hexValue?.isSome = true ∧ low.hexValue?.isSome = true

/-- A text and what it decodes to: the text of the octets that it spells. -/
def IsDecoding (encoded t : Text) : Prop :=
  ∃ octets, HasOctets encoded octets ∧ Utf8.encode? t = some octets

/-! ## Escapes -/

theorem isEscaped_cons {c : CodePoint} {t : Text} (hc : c ≠ .char '%') :
    IsEscaped (c :: t) ↔ IsEscaped t := by
  constructor
  · intro h before rest ht
    exact h (c :: before) rest (by rw [ht, List.cons_append])
  · intro h before rest ht
    cases before with
    | nil => exact absurd (List.cons.inj ht).1 hc
    | cons d before => exact h before rest (List.cons.inj ht).2

theorem isEscaped_escape {high low : CodePoint} {t : Text} (hhigh : high.hexValue?.isSome = true)
    (hlow : low.hexValue?.isSome = true) :
    IsEscaped (.char '%' :: high :: low :: t) ↔ IsEscaped t := by
  have hdigit {c : CodePoint} (h : c.hexValue?.isSome = true) : c ≠ .char '%' := by
    rintro rfl
    cases h
  have hrest : IsEscaped (high :: low :: t) ↔ IsEscaped t := by
    rw [isEscaped_cons (hdigit hhigh), isEscaped_cons (hdigit hlow)]
  rw [← hrest]
  constructor
  · intro h before rest ht
    exact h (.char '%' :: before) rest (by rw [ht, List.cons_append])
  · intro h before rest ht
    cases before with
    | nil => exact ⟨high, low, t, (List.cons.inj ht).2.symm, hhigh, hlow⟩
    | cons d before => exact h before rest (List.cons.inj ht).2

theorem HasOctets.isEscaped {t : Text} {octets : List UInt8} (h : HasOctets t octets) :
    IsEscaped t := by
  induction h with
  | nil =>
    intro before rest h
    simp at h
  | literal hc _ ih => exact (isEscaped_cons (by simpa using hc)).mpr ih
  | escape hhigh hlow _ ih =>
    exact (isEscaped_escape (Option.isSome_of_eq_some hhigh) (Option.isSome_of_eq_some hlow)).mpr ih

theorem exists_hasOctets_of_isEscaped {chars : List Char} (h : IsEscaped (chars.map .char)) :
    ∃ octets, HasOctets (chars.map .char) octets := by
  match chars with
  | [] => exact ⟨[], .nil⟩
  | c :: rest =>
    by_cases hc : c = '%'
    · subst hc
      obtain ⟨high, low, after, hrest, hhigh, hlow⟩ := h [] (rest.map .char) rfl
      obtain ⟨c, others, rfl, rfl, hothers⟩ := List.map_eq_cons_iff.mp hrest
      obtain ⟨d, others, rfl, rfl, rfl⟩ := List.map_eq_cons_iff.mp hothers
      obtain ⟨octets, hoctets⟩ :=
        exists_hasOctets_of_isEscaped ((isEscaped_escape hhigh hlow).mp h)
      obtain ⟨a, ha⟩ := Option.isSome_iff_exists.mp hhigh
      obtain ⟨b, hb⟩ := Option.isSome_iff_exists.mp hlow
      exact ⟨_, .escape ha hb hoctets⟩
    · obtain ⟨octets, hoctets⟩ :=
        exists_hasOctets_of_isEscaped ((isEscaped_cons (by simpa using hc)).mp h)
      exact ⟨_, .literal hc hoctets⟩

/-- Whether a text spells octets at all is a matter of its percent signs. -/
theorem exists_hasOctets_iff (chars : List Char) :
    (∃ octets, HasOctets (chars.map .char) octets) ↔ IsEscaped (chars.map .char) :=
  ⟨fun ⟨_, h⟩ => h.isEscaped, exists_hasOctets_of_isEscaped⟩

/-! ## Decoding -/

theorem lt_of_hexValue?_eq_some {c : CodePoint} {n : Nat} (h : c.hexValue? = some n) : n < 16 := by
  rw [CodePoint.hexValue?] at h
  split at h
  · cases h; omega
  split at h
  · cases h; omega
  split at h
  · cases h; omega
  · cases h

theorem AreEscapes.cons_of_hexValue? {high low : CodePoint} {a b : Nat} {octets : List UInt8}
    {escapes : Text} (hhigh : high.hexValue? = some a) (hlow : low.hexValue? = some b)
    (h : AreEscapes octets escapes) :
    AreEscapes (.ofNat (16 * a + b) :: octets) (.char '%' :: high :: low :: escapes) := by
  have ha := lt_of_hexValue?_eq_some hhigh
  have hb := lt_of_hexValue?_eq_some hlow
  have hoctet : (UInt8.ofNat (16 * a + b)).toNat = 16 * a + b :=
    Utf8.toNat_ofNat_of_lt (by omega)
  refine .cons ?_ ?_ h
  · rw [hhigh, hoctet, show (16 * a + b) / 16 = a by omega]
  · rw [hlow, hoctet, show (16 * a + b) % 16 = b by omega]

theorem exists_escape_of_contributions? {chars : List Char} {parts : List Contribution}
    (h : contributions? 0 (.char '%' :: chars.map .char) = some parts) :
    ∃ high low after a b, chars = high :: low :: after ∧
      (CodePoint.char high).hexValue? = some a ∧ (CodePoint.char low).hexValue? = some b := by
  match chars with
  | [] => cases h
  | [_] => cases h
  | high :: low :: after =>
    simp only [List.map_cons, contributions?, if_true] at h
    split at h
    · next a b ha hb => exact ⟨high, low, after, a, b, rfl, ha, hb⟩
    · cases h

/-- Octets that continue a scalar value come from escapes, since no scalar value begins with one. -/
theorem exists_areEscapes {tail octets : List UInt8} {encoded : Text}
    (htail : ∀ octet ∈ tail, Utf8.isContinuation octet.toNat = true)
    (h : HasOctets encoded (tail ++ octets)) :
    ∃ escapes rest, encoded = escapes ++ rest ∧ AreEscapes tail escapes ∧
      HasOctets rest octets := by
  induction tail generalizing encoded with
  | nil => exact ⟨[], encoded, rfl, .nil, h⟩
  | cons octet tail ih =>
    rw [List.forall_mem_cons] at htail
    obtain ⟨hoctet, htail⟩ := htail
    rw [List.cons_append] at h
    generalize hall : octet :: (tail ++ octets) = all at h
    cases h with
    | nil => cases hall
    | @literal c _ _ _ _ =>
      obtain ⟨lead, rest, hc, hlead, -⟩ := Utf8.isContinuation_encodeChar c
      rw [hc, List.cons_append] at hall
      rw [(List.cons.inj hall).1, hlead] at hoctet
      cases hoctet
    | @escape high low a b _ _ hhigh hlow hrest =>
      obtain ⟨rfl, rfl⟩ := List.cons.inj hall
      obtain ⟨escapes, rest, rfl, hescapes, hrest⟩ := ih htail hrest
      exact ⟨_, rest, rfl, hescapes.cons_of_hexValue? hhigh hlow, hrest⟩

/-- What a text decodes to is encoded by that text: each scalar value is written as it is, or by
escapes alone. -/
theorem IsDecoding.isEncoding {encoded t : Text} (h : IsDecoding encoded t) :
    IsEncoding t encoded := by
  obtain ⟨octets, hoctets, ht⟩ := h
  induction t generalizing encoded octets with
  | nil =>
    rw [Utf8.encode?_nil, Option.some.injEq] at ht
    cases hoctets with
    | nil => exact .nil
    | @literal c =>
      obtain ⟨lead, tail, hc, -⟩ := Utf8.isContinuation_encodeChar c
      rw [hc] at ht
      cases ht
    | escape => cases ht
  | cons d t ih =>
    cases d with
    | surrogate half => cases ht
    | char d =>
      rw [Utf8.encode?, Option.map_eq_some_iff] at ht
      obtain ⟨after, ht, hall⟩ := ht
      obtain ⟨lead, tail, hd, -, htail⟩ := Utf8.isContinuation_encodeChar d
      cases hoctets with
      | nil =>
        rw [hd] at hall
        cases hall
      | literal hc hrest =>
        obtain ⟨rfl, rfl⟩ := Utf8.encodeChar_append_inj hall
        exact .literal hc (ih after hrest ht)
      | escape hhigh hlow hrest =>
        rw [hd, List.cons_append] at hall
        obtain ⟨rfl, rfl⟩ := List.cons.inj hall
        obtain ⟨escapes, rest, rfl, hescapes, hrest⟩ := exists_areEscapes htail hrest
        have hlead := hescapes.cons_of_hexValue? hhigh hlow
        rw [← hd] at hlead
        exact .escaped hlead (ih after hrest ht)

/-- What is put together from the contributions of a text is the text of the octets that it
spells. -/
theorem exists_hasOctets_of_contributions? {chars : List Char} {parts : List Contribution}
    (h : contributions? 0 (chars.map .char) = some parts) :
    ∃ octets, HasOctets (chars.map .char) octets ∧
      ∀ run t, assemble? run parts = some t → Utf8.encode? t = some (run.reverse ++ octets) := by
  match chars with
  | [] =>
    cases h
    refine ⟨[], .nil, fun run t ht => ?_⟩
    rw [List.append_nil]
    exact closeRun?_eq_some_iff.mp ht
  | c :: rest =>
    by_cases hc : c = '%'
    · subst hc
      obtain ⟨high, low, after, a, b, rfl, ha, hb⟩ := exists_escape_of_contributions? h
      rw [List.map_cons, List.map_cons, List.map_cons, contributions?_escape ha hb,
        Option.map_eq_some_iff] at h
      obtain ⟨parts, hparts, rfl⟩ := h
      obtain ⟨octets, hoctets, hassemble⟩ := exists_hasOctets_of_contributions? hparts
      refine ⟨_, .escape ha hb hoctets, fun run t ht => ?_⟩
      rw [hassemble _ _ ht, List.reverse_cons, List.append_assoc, List.singleton_append]
    · have hpoint : CodePoint.char c ≠ .char '%' := by simpa using hc
      by_cases hascii : c.toNat < 0x80
      · rw [List.map_cons, contributions?_ascii hpoint hascii, Option.map_eq_some_iff] at h
        obtain ⟨parts, hparts, rfl⟩ := h
        obtain ⟨octets, hoctets, hassemble⟩ := exists_hasOctets_of_contributions? hparts
        have hoctet : Utf8.encodeChar c = [.ofNat c.toNat] := if_pos hascii
        refine ⟨_, .literal hc hoctets, fun run t ht => ?_⟩
        rw [hassemble _ _ ht, hoctet, List.reverse_cons, List.append_assoc]
        rfl
      · rw [List.map_cons, contributions?_beyond hpoint hascii, Option.map_eq_some_iff] at h
        obtain ⟨parts, hparts, rfl⟩ := h
        obtain ⟨octets, hoctets, hassemble⟩ := exists_hasOctets_of_contributions? hparts
        refine ⟨_, .literal hc hoctets, fun run t ht => ?_⟩
        rw [assemble?] at ht
        simp only [Option.bind_eq_bind, Option.bind_eq_some_iff, Option.some.injEq] at ht
        obtain ⟨before, hbefore, after, hafter, rfl⟩ := ht
        have hliteral : Utf8.encode? (.char c :: after) = some (Utf8.encodeChar c ++ octets) := by
          rw [Utf8.encode?, hassemble [] after hafter]
          rfl
        exact Utf8.encode?_append (closeRun?_eq_some_iff.mp hbefore) hliteral

/-- **A text of scalar values is decoded exactly to the text of the octets that it spells.** -/
theorem percentDecode?_eq_some_iff {chars : List Char} {t : Text} :
    percentDecode? (chars.map .char) = some t ↔ IsDecoding (chars.map .char) t := by
  constructor
  · intro h
    rw [percentDecode?, Option.bind_eq_some_iff] at h
    obtain ⟨parts, hparts, ht⟩ := h
    obtain ⟨octets, hoctets, hassemble⟩ := exists_hasOctets_of_contributions? hparts
    exact ⟨octets, hoctets, hassemble [] t ht⟩
  · exact fun h => percentDecode?_of_isEncoding h.isEncoding

/-- **A reference is decoded completely or not at all.**  What stands behind the scheme is replaced
by the text of the octets that it spells if every percent sign in it begins an escape and these
octets are the UTF-8 form of a text, and else stays as it is.  So every percent-encoding of a text
leads back to the text, and a reference without the scheme is left alone. -/
theorem toPath_exact :
    (∀ chars : List Char,
      ((∃ octets, HasOctets (chars.map .char) octets) ↔ IsEscaped (chars.map .char)) ∧
      (∀ octets t, HasOctets (chars.map .char) octets → Utf8.encode? t = some octets →
        toPath .posix (scheme ++ chars.map .char) = t) ∧
      ((¬ ∃ octets t, HasOctets (chars.map .char) octets ∧ Utf8.encode? t = some octets) →
        toPath .posix (scheme ++ chars.map .char) = chars.map .char)) ∧
    (∀ t encoded, IsEncoding t encoded → toPath .posix (scheme ++ encoded) = t) ∧
    ∀ reference, (¬ ∃ rest, reference = scheme ++ rest) → toPath .posix reference = reference := by
  refine ⟨fun chars => ⟨exists_hasOctets_iff chars, ?_, ?_⟩, fun _ _ => toPath_scheme_append,
    fun _ => toPath_of_not_scheme⟩
  · intro octets t hoctets ht
    rw [toPath_scheme, percentDecode?_eq_some_iff.mpr ⟨octets, hoctets, ht⟩, Option.getD_some]
  · intro hnone
    rw [toPath_scheme]
    cases hdecode : percentDecode? (chars.map .char) with
    | none => rfl
    | some t =>
      obtain ⟨octets, hoctets, ht⟩ := percentDecode?_eq_some_iff.mp hdecode
      exact absurd ⟨octets, t, hoctets, ht⟩ hnone

/-- An escaped letter beside the same letter as it is, and a letter between two escapes that only
together would be one. -/
theorem toPath_exact_split :
    let whole := "/é%C3%a9".toList
    let split := "/%C3é%A9".toList
    (IsEscaped (whole.map .char) ∧ toPath .posix (scheme ++ whole.map .char) = text "/éé") ∧
      (IsEscaped (split.map .char) ∧
        toPath .posix (scheme ++ split.map .char) = split.map .char) ∧
      toPath .posix (scheme ++ text "%41") = text "A" ∧
      toPath .posix (text "/w/%41") = text "/w/%41" := by
  intro whole split
  obtain ⟨hchars, hencoding, hplain⟩ := toPath_exact
  obtain ⟨octets, hoctets, ht⟩ : IsDecoding (whole.map .char) (text "/éé") :=
    percentDecode?_eq_some_iff.mp (by decide +kernel)
  have hletter : AreEscapes (Utf8.encodeChar 'A') (text "%41") := .cons rfl rfl .nil
  refine ⟨⟨hoctets.isEscaped, (hchars whole).2.1 octets _ hoctets ht⟩, ⟨?_, (hchars split).2.2 ?_⟩,
    hencoding _ _ (.escaped hletter .nil), hplain _ ?_⟩
  · exact (exists_hasOctets_iff split).mp ⟨_, .literal (by decide) (.escape rfl rfl
      (.literal (by decide) (.escape rfl rfl .nil)))⟩
  · rintro ⟨octets, t, hoctets, ht⟩
    have hnone : percentDecode? (split.map .char) = none := by decide
    cases hnone.symm.trans (percentDecode?_eq_some_iff.mpr ⟨octets, hoctets, ht⟩)
  · rintro ⟨rest, hrest⟩
    cases hrest

end FileUri

end Path

end DiagnosticRelay
