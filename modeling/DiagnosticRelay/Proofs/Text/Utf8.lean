import DiagnosticRelay.Text.Utf8

/-!
# Reading back what was written in UTF-8

Octets are cut into pieces from the left, and where they come from a text of scalar values there is
no choice: each scalar value is one piece, as wide as it was written (`pieceAt_encodeChar`).  The
four widths are four statements about numbers, because the octets of a number are its digits to
base 64 with a mark on each, and the marks say how many of them there are.

The decoder recurses on the octets with a counter of those that are still to be passed over, so the
octets after the first of a piece are a matter of the counter alone (`decodeFrom_append`).  With
that, reading a text back is an induction on the text: `decode_of_encode?_eq_some`.

The decoder reads nothing else.  A piece that counts as a scalar value takes just the octets that
the value is written with (`encodeChar_of_pieceAt`), so there is neither a longer form of a value
nor a form of a surrogate, and decoding and encoding are inverse to each other:
`decode_eq_ok_iff`.  That the octets after the first of a value are never the first of another
(`isContinuation_encodeChar`) is what lets a reader find the values in a run again.
-/

namespace DiagnosticRelay

namespace Utf8

theorem toNat_ofNat_of_lt {n : Nat} (h : n < 256) : (UInt8.ofNat n).toNat = n := by
  rw [UInt8.toNat_ofNat']
  exact Nat.mod_eq_of_lt h

theorem isContinuation_add {n : Nat} (h : n < 64) : isContinuation (0x80 + n) = true := by
  simp only [isContinuation, Bool.and_eq_true, decide_eq_true_eq]
  omega

section Widths

variable {n : Nat} (rest : List UInt8)

theorem pieceAt_one (h : n < 0x80) : pieceAt (.ofNat n) rest = .scalar (Char.ofNat n) 1 := by
  simp only [pieceAt, toNat_ofNat_of_lt (show n < 256 by omega)]
  rw [if_pos h]

theorem pieceAt_two (hlow : 0x80 ≤ n) (hhigh : n < 0x800) :
    pieceAt (.ofNat (0xC0 + n / 64)) (.ofNat (0x80 + n % 64) :: rest)
      = .scalar (Char.ofNat n) 2 := by
  have hback : (0xC0 + n / 64 - 0xC0) * 64 + (0x80 + n % 64 - 0x80) = n := by omega
  simp only [pieceAt, toNat_ofNat_of_lt (show 0xC0 + n / 64 < 256 by omega),
    toNat_ofNat_of_lt (show 0x80 + n % 64 < 256 by omega)]
  rw [if_neg (by omega), if_neg (by omega), if_pos (by omega),
    if_pos (isContinuation_add (by omega)), hback]

theorem pieceAt_three (hlow : 0x800 ≤ n) (hhigh : n < 0x10000)
    (hscalar : n < 0xD800 ∨ 0xDFFF < n) :
    pieceAt (.ofNat (0xE0 + n / 4096))
        (.ofNat (0x80 + n / 64 % 64) :: .ofNat (0x80 + n % 64) :: rest)
      = .scalar (Char.ofNat n) 3 := by
  have hfits : fitsThree (0xE0 + n / 4096) (0x80 + n / 64 % 64) = true := by
    simp only [fitsThree, isContinuation, Bool.and_eq_true, Bool.or_eq_true, bne_iff_ne,
      decide_eq_true_eq]
    omega
  have hback : (0xE0 + n / 4096 - 0xE0) * 4096 + (0x80 + n / 64 % 64 - 0x80) * 64
      + (0x80 + n % 64 - 0x80) = n := by omega
  simp only [pieceAt, toNat_ofNat_of_lt (show 0xE0 + n / 4096 < 256 by omega),
    toNat_ofNat_of_lt (show 0x80 + n / 64 % 64 < 256 by omega),
    toNat_ofNat_of_lt (show 0x80 + n % 64 < 256 by omega)]
  rw [if_neg (by omega), if_neg (by omega), if_neg (by omega), if_pos (by omega), if_pos hfits,
    if_pos (isContinuation_add (by omega)), hback]

theorem pieceAt_four (hlow : 0x10000 ≤ n) (hhigh : n < 0x110000) :
    pieceAt (.ofNat (0xF0 + n / 262144))
        (.ofNat (0x80 + n / 4096 % 64) :: .ofNat (0x80 + n / 64 % 64) ::
          .ofNat (0x80 + n % 64) :: rest)
      = .scalar (Char.ofNat n) 4 := by
  have hfits : fitsFour (0xF0 + n / 262144) (0x80 + n / 4096 % 64) = true := by
    simp only [fitsFour, isContinuation, Bool.and_eq_true, Bool.or_eq_true, bne_iff_ne,
      decide_eq_true_eq]
    omega
  have hback : (0xF0 + n / 262144 - 0xF0) * 262144 + (0x80 + n / 4096 % 64 - 0x80) * 4096
      + (0x80 + n / 64 % 64 - 0x80) * 64 + (0x80 + n % 64 - 0x80) = n := by omega
  simp only [pieceAt, toNat_ofNat_of_lt (show 0xF0 + n / 262144 < 256 by omega),
    toNat_ofNat_of_lt (show 0x80 + n / 4096 % 64 < 256 by omega),
    toNat_ofNat_of_lt (show 0x80 + n / 64 % 64 < 256 by omega),
    toNat_ofNat_of_lt (show 0x80 + n % 64 < 256 by omega)]
  rw [if_neg (by omega), if_neg (by omega), if_neg (by omega), if_neg (by omega),
    if_pos (by omega), if_pos hfits, if_pos (isContinuation_add (by omega)),
    if_pos (isContinuation_add (by omega)), hback]

end Widths

/-- The octets of a scalar value are read as one piece, whatever follows them. -/
theorem pieceAt_encodeChar (c : Char) (rest : List UInt8) :
    ∃ lead tail, encodeChar c = lead :: tail ∧
      pieceAt lead (tail ++ rest) = .scalar c (tail.length + 1) := by
  have hvalid : c.toNat < 0xD800 ∨ (0xDFFF < c.toNat ∧ c.toNat < 0x110000) := c.valid
  have hback : Char.ofNat c.toNat = c := Char.ofNat_toNat c
  simp only [encodeChar]
  generalize c.toNat = n at hvalid hback
  subst hback
  split
  · next hone => exact ⟨_, _, rfl, pieceAt_one rest hone⟩
  · next hone =>
    split
    · next htwo => exact ⟨_, _, rfl, pieceAt_two rest (by omega) htwo⟩
    · next htwo =>
      split
      · next hthree => exact ⟨_, _, rfl, pieceAt_three rest (by omega) hthree (by omega)⟩
      · next hthree => exact ⟨_, _, rfl, pieceAt_four rest (by omega) (by omega)⟩

theorem encode?_append {s t : Text} {first second : List UInt8} (hs : encode? s = some first)
    (ht : encode? t = some second) : encode? (s ++ t) = some (first ++ second) := by
  induction s generalizing first with
  | nil =>
    rw [← Option.some.inj hs]
    exact ht
  | cons c s ih =>
    cases c with
    | surrogate half => cases hs
    | char c =>
      rw [encode?, Option.map_eq_some_iff] at hs
      obtain ⟨octets, hoctets, rfl⟩ := hs
      rw [List.cons_append, encode?, ih hoctets, Option.map_some, List.append_assoc]

/-- The octets after the first of a sequence are passed over. -/
theorem decodeFrom_append (place : Nat) (passed octets : List UInt8) :
    decodeFrom place passed.length (passed ++ octets)
      = decodeFrom (place + passed.length) 0 octets := by
  induction passed generalizing place with
  | nil => rfl
  | cons octet passed ih =>
    rw [List.length_cons, List.cons_append, decodeFrom, ih, Nat.add_assoc, Nat.add_comm 1]

theorem decodeFrom_encodeChar (place : Nat) (c : Char) (octets : List UInt8) :
    decodeFrom place 0 (encodeChar c ++ octets)
      = (decodeFrom (place + (encodeChar c).length) 0 octets).map (.char c :: ·) := by
  obtain ⟨lead, tail, hencode, hpiece⟩ := pieceAt_encodeChar c octets
  rw [hencode, List.cons_append, decodeFrom, hpiece]
  simp only [Nat.add_sub_cancel, decodeFrom_append, List.length_cons]
  rw [Nat.add_right_comm, Nat.add_assoc]

theorem decodeFrom_of_encode?_eq_some {t : Text} {octets : List UInt8}
    (h : encode? t = some octets) (place : Nat) : decodeFrom place 0 octets = .ok t := by
  induction t generalizing octets place with
  | nil =>
    rw [← Option.some.inj h]
    rfl
  | cons c t ih =>
    cases c with
    | surrogate half => cases h
    | char c =>
      rw [encode?, Option.map_eq_some_iff] at h
      obtain ⟨octets, hoctets, rfl⟩ := h
      rw [decodeFrom_encodeChar, ih hoctets]
      rfl

/-- **Decoding inverts encoding.** -/
theorem decode_of_encode?_eq_some {t : Text} {octets : List UInt8} (h : encode? t = some octets) :
    decode octets = .ok t :=
  decodeFrom_of_encode?_eq_some h 0

/-! ## What is read is what was written -/

section Sequences

variable {n : Nat}

theorem toNat_ofNat_of_isValidChar (h : n.isValidChar) : (Char.ofNat n).toNat = n := by
  rw [Char.ofNat, dif_pos h]
  rfl

theorem encodeChar_one (h : n < 0x80) : encodeChar (Char.ofNat n) = [.ofNat n] := by
  have hn : (Char.ofNat n).toNat = n := toNat_ofNat_of_isValidChar (Or.inl (by omega))
  simp only [encodeChar, hn, if_pos h]

theorem encodeChar_two (hlow : 0x80 ≤ n) (hhigh : n < 0x800) :
    encodeChar (Char.ofNat n) = [.ofNat (0xC0 + n / 64), .ofNat (0x80 + n % 64)] := by
  have hn : (Char.ofNat n).toNat = n := toNat_ofNat_of_isValidChar (Or.inl (by omega))
  simp only [encodeChar, hn]
  rw [if_neg (by omega), if_pos hhigh]

theorem encodeChar_three (hlow : 0x800 ≤ n) (hhigh : n < 0x10000)
    (hscalar : n < 0xD800 ∨ 0xDFFF < n) :
    encodeChar (Char.ofNat n)
      = [.ofNat (0xE0 + n / 4096), .ofNat (0x80 + n / 64 % 64), .ofNat (0x80 + n % 64)] := by
  have hn : (Char.ofNat n).toNat = n :=
    toNat_ofNat_of_isValidChar (hscalar.imp_right fun h => ⟨h, by omega⟩)
  simp only [encodeChar, hn]
  rw [if_neg (by omega), if_neg (by omega), if_pos hhigh]

theorem encodeChar_four (hlow : 0x10000 ≤ n) (hhigh : n < 0x110000) :
    encodeChar (Char.ofNat n)
      = [.ofNat (0xF0 + n / 262144), .ofNat (0x80 + n / 4096 % 64), .ofNat (0x80 + n / 64 % 64),
        .ofNat (0x80 + n % 64)] := by
  have hn : (Char.ofNat n).toNat = n :=
    toNat_ofNat_of_isValidChar (Or.inr ⟨by omega, hhigh⟩)
  simp only [encodeChar, hn]
  rw [if_neg (by omega), if_neg (by omega), if_neg (by omega)]

end Sequences

theorem ofNat_eq_of_eq_toNat (octet : UInt8) {n : Nat} (h : n = octet.toNat) :
    UInt8.ofNat n = octet := by
  rw [h, UInt8.ofNat_toNat]

theorem isContinuation_iff {octet : Nat} :
    isContinuation octet = true ↔ 0x80 ≤ octet ∧ octet < 0xC0 := by
  simp [isContinuation]

/-- Octets that are read as one scalar value are the octets of that value. -/
theorem encodeChar_of_pieceAt {lead : UInt8} {rest : List UInt8} {c : Char} {width : Nat}
    (h : pieceAt lead rest = .scalar c width) :
    ∃ tail after, rest = tail ++ after ∧ width = tail.length + 1 ∧
      encodeChar c = lead :: tail := by
  revert h
  -- a flaw is no scalar value, so only one case for each width is left
  fun_cases pieceAt lead rest <;> intro h <;> try contradiction
  case case1 hone =>
    obtain ⟨rfl, rfl⟩ := Piece.scalar.inj h
    exact ⟨[], rest, rfl, rfl, by rw [encodeChar_one hone, UInt8.ofNat_toNat]⟩
  case case4 hlow hhigh second after _ hsecond =>
    obtain ⟨rfl, rfl⟩ := Piece.scalar.inj h
    rw [isContinuation_iff] at hsecond
    refine ⟨[second], after, rfl, rfl, ?_⟩
    rw [encodeChar_two (by omega) (by omega), ofNat_eq_of_eq_toNat lead (by omega),
      ofNat_eq_of_eq_toNat second (by omega)]
  case case8 hlow _ hhigh second _ hsecond third after _ hthird =>
    obtain ⟨rfl, rfl⟩ := Piece.scalar.inj h
    simp only [fitsThree, Bool.and_eq_true, Bool.or_eq_true, bne_iff_ne, decide_eq_true_eq,
      isContinuation_iff] at hsecond hthird
    refine ⟨[second, third], after, rfl, rfl, ?_⟩
    rw [encodeChar_three (by omega) (by omega) (by omega),
      ofNat_eq_of_eq_toNat lead (by omega),
      ofNat_eq_of_eq_toNat second (by omega),
      ofNat_eq_of_eq_toNat third (by omega)]
  case case14 hlow _ _ hhigh second _ hsecond third _ hthird fourth after _ hfourth =>
    obtain ⟨rfl, rfl⟩ := Piece.scalar.inj h
    simp only [fitsFour, Bool.and_eq_true, Bool.or_eq_true, bne_iff_ne, decide_eq_true_eq,
      isContinuation_iff] at hsecond hthird hfourth
    refine ⟨[second, third, fourth], after, rfl, rfl, ?_⟩
    rw [encodeChar_four (by omega) (by omega),
      ofNat_eq_of_eq_toNat lead (by omega),
      ofNat_eq_of_eq_toNat second (by omega),
      ofNat_eq_of_eq_toNat third (by omega),
      ofNat_eq_of_eq_toNat fourth (by omega)]

/-- The octets after the first of a scalar value continue it, and the first continues nothing. -/
theorem isContinuation_encodeChar (c : Char) :
    ∃ lead tail, encodeChar c = lead :: tail ∧ isContinuation lead.toNat = false ∧
      ∀ octet ∈ tail, isContinuation octet.toNat = true := by
  have hvalid : c.toNat < 0x110000 := by
    rcases c.valid with h | ⟨-, h⟩
    · exact Nat.lt_trans h (by decide)
    · exact h
  simp only [encodeChar]
  generalize c.toNat = n at hvalid
  have hlead (lead : Nat) (h : lead < 0x80 ∨ 0xC0 ≤ lead) (hlt : lead < 256) :
      isContinuation (UInt8.ofNat lead).toNat = false := by
    rw [toNat_ofNat_of_lt hlt, Bool.eq_false_iff, ne_eq, isContinuation_iff]
    omega
  have htail (m : Nat) : isContinuation (UInt8.ofNat (0x80 + m % 64)).toNat = true := by
    rw [toNat_ofNat_of_lt (by omega)]
    exact isContinuation_add (by omega)
  split
  · exact ⟨_, _, rfl, hlead _ (by omega) (by omega), by simp⟩
  split
  · exact ⟨_, _, rfl, hlead _ (by omega) (by omega), by simpa using htail n⟩
  split
  · exact ⟨_, _, rfl, hlead _ (by omega) (by omega),
      by simpa using ⟨htail (n / 64), htail n⟩⟩
  · exact ⟨_, _, rfl, hlead _ (by omega) (by omega),
      by simpa using ⟨htail (n / 4096), htail (n / 64), htail n⟩⟩

/-- Two texts of octets that begin with a scalar value each begin with the same one. -/
theorem encodeChar_append_inj {c d : Char} {first second : List UInt8}
    (h : encodeChar c ++ first = encodeChar d ++ second) : c = d ∧ first = second := by
  obtain ⟨lead, tail, hc, hpiece⟩ := pieceAt_encodeChar c first
  obtain ⟨lead', tail', hd, hpiece'⟩ := pieceAt_encodeChar d second
  rw [hc, hd, List.cons_append, List.cons_append, List.cons.injEq] at h
  rw [h.1, h.2, hpiece'] at hpiece
  obtain ⟨rfl, -⟩ := Piece.scalar.inj hpiece
  obtain ⟨-, rfl⟩ := List.cons.inj (hc.symm.trans hd)
  exact ⟨rfl, List.append_cancel_left h.2⟩

/-- What is read is what was written, behind the octets that are passed over. -/
theorem encode?_eq_some_of_decodeFrom {octets : List UInt8} {t : Text} {place skip : Nat}
    (h : decodeFrom place skip octets = .ok t) : encode? t = some (octets.drop skip) := by
  fun_induction decodeFrom place skip octets generalizing t with
  | case1 =>
    cases h
    rw [List.drop_nil]
    rfl
  | case2 place skip octet rest ih => exact ih h
  | case3 place lead rest c width hpiece ih =>
    obtain ⟨tail, after, rfl, rfl, hencode⟩ := encodeChar_of_pieceAt hpiece
    rw [Nat.add_sub_cancel] at h ih
    cases hrest : decodeFrom (place + 1) tail.length (tail ++ after) with
    | error failure =>
      rw [hrest] at h
      cases h
    | ok t =>
      rw [hrest] at h
      cases h
      rw [encode?, ih hrest, List.drop_left, Option.map_some, hencode]
      rfl
  | case4 => cases h

/-- **Decoding and encoding are inverse to each other.** -/
theorem decode_eq_ok_iff {octets : List UInt8} {t : Text} :
    decode octets = .ok t ↔ encode? t = some octets :=
  ⟨encode?_eq_some_of_decodeFrom, decode_of_encode?_eq_some⟩

end Utf8

end DiagnosticRelay
