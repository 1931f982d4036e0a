import DiagnosticRelay.Proofs.Json.Escape
import DiagnosticRelay.Proofs.Json.Float
import DiagnosticRelay.Proofs.Text.Pieces
import DiagnosticRelay.Proofs.Value.Members
import DiagnosticRelay.Proofs.Value.Written

/-!
# Documents that are written and read

A document that is written over lines is read again.  `reread` says what comes of it: the halves in
texts are joined, a key that is there twice has its last value in its first place, a floating-point
number is the number that its decimal stands for, and a number that is not finite makes the reader
refuse the document.  Besides, integers have to be short enough to be converted, and containers may
not stand inside one another more deeply than the reader allows (`Value.IsReadable`).

Without floating-point numbers, dates and repeated keys (`Value.IsWritable`) what is read is the
value with the halves in its texts joined (`Value.joined`).  A value with an integer that is too
long is not written in the first place (`document_eq` says that the others are), and the digits of
such an integer are not read (`read_eq_tooManyDigits`).

The proof follows the writer: a value, the items of a list and the members of an object are three
statements that hold together, by recursion on the value.  Each says what the reader makes of
the written form in front of any text that may follow it, an answer or a refusal.  Fuel is measured
by the length of what is written: the reader spends two units on a code point at most.
-/

namespace DiagnosticRelay

/-! ## Values that are read back -/

namespace Value

mutual

/-- A value with the halves in its texts joined. -/
def joined : Value → Value
  | .str s => .str (Text.joinHalves s)
  | .list items => .list (joinedItems items)
  | .object members => .object (joinedMembers members)
  | value => value

/-- The items of a list, each joined. -/
def joinedItems : List Value → List Value
  | [] => []
  | item :: items => joined item :: joinedItems items

/-- The members of an object, each key and each value joined. -/
def joinedMembers : List (Text × Value) → List (Text × Value)
  | [] => []
  | (key, value) :: members => (Text.joinHalves key, joined value) :: joinedMembers members

end

mutual

/-- A value that a reader with so many levels left can follow, and whose integers are converted
again. -/
def IsReadable : Value → Nat → Prop
  | .int z, _ => z.natAbs < 10 ^ Decimal.digitLimit
  | .list items, depth => ∃ below, depth = below + 1 ∧ AreReadable items below
  | .object members, depth => ∃ below, depth = below + 1 ∧ AreReadableMembers members below
  | _, _ => True

/-- All items can be followed. -/
def AreReadable : List Value → Nat → Prop
  | [], _ => True
  | item :: items, depth => IsReadable item depth ∧ AreReadable items depth

/-- The values of all members can be followed. -/
def AreReadableMembers : List (Text × Value) → Nat → Prop
  | [], _ => True
  | (_, value) :: members, depth => IsReadable value depth ∧ AreReadableMembers members depth

end

mutual

/-- A value that is read back by a reader with so many levels left. -/
def IsWritable : Value → Nat → Prop
  | .int z, _ => z.natAbs < 10 ^ Decimal.digitLimit
  | .float _, _ => False
  | .date _, _ => False
  | .list items, depth => ∃ below, depth = below + 1 ∧ AreWritable items below
  | .object members, depth => ∃ below, depth = below + 1 ∧
      ((joinedMembers members).map Prod.fst).Nodup ∧ AreWritableMembers members below
  | _, _ => True

/-- All items are read back. -/
def AreWritable : List Value → Nat → Prop
  | [], _ => True
  | item :: items, depth => IsWritable item depth ∧ AreWritable items depth

/-- The values of all members are read back. -/
def AreWritableMembers : List (Text × Value) → Nat → Prop
  | [], _ => True
  | (_, value) :: members, depth => IsWritable value depth ∧ AreWritableMembers members depth

end

mutual

/-- What a reader can follow has short integers. -/
theorem isShort_of_isReadable :
    ∀ {value : Value} {depth : Nat}, value.IsReadable depth → value.isShort = true
  | .int _, _, h => isShort_int.mpr h
  | .list _, _, ⟨_, _, h⟩ => areShort_of_areReadable h
  | .object _, _, ⟨_, _, h⟩ => areShortMembers_of_areReadableMembers h
  | .null, _, _ | .bool _, _, _ | .float _, _, _ | .str _, _, _ | .date _, _, _ => rfl

theorem areShort_of_areReadable :
    ∀ {items : List Value} {depth : Nat}, AreReadable items depth → areShort items = true
  | [], _, _ => rfl
  | _ :: _, _, h =>
    Bool.and_eq_true_iff.mpr ⟨isShort_of_isReadable h.1, areShort_of_areReadable h.2⟩

theorem areShortMembers_of_areReadableMembers : ∀ {members : List (Text × Value)} {depth : Nat},
    AreReadableMembers members depth → areShortMembers members = true
  | [], _, _ => rfl
  | (_, _) :: _, _, h => Bool.and_eq_true_iff.mpr
      ⟨isShort_of_isReadable h.1, areShortMembers_of_areReadableMembers h.2⟩

end

end Value

namespace Json

variable {literals : Literals} {fuel depth : Nat} {t tail after : Text}

/-! ## What is read of a written value -/

mutual

/-- What the reader makes of a written value. -/
def reread (literals : Literals) : Value → Except Failure Value
  | .str s => .ok (.str (Text.joinHalves s))
  | .date shown => .ok (.str (Text.joinHalves shown))
  | .float x =>
    if x.isFinite then .ok (.float x.reread)
    else match literals with
      | .finite => .error (.nonFinite (writeFloat x))
      | .extended => .ok (.float x)
  | .list items => (rereadItems literals items).map .list
  | .object members =>
    (rereadMembers literals members).map fun members => .object (Members.ofList members)
  | value => .ok value

/-- What the reader makes of the items of a list. -/
def rereadItems (literals : Literals) : List Value → Except Failure (List Value)
  | [] => .ok []
  | item :: items =>
    (reread literals item).bind fun item => (rereadItems literals items).map (item :: ·)

/-- What the reader makes of the members of an object. -/
def rereadMembers (literals : Literals) :
    List (Text × Value) → Except Failure (List (Text × Value))
  | [] => .ok []
  | (key, value) :: members =>
    (reread literals value).bind fun value =>
      (rereadMembers literals members).map ((Text.joinHalves key, value) :: ·)

end

theorem reread_float (x : Binary64) : reread literals (.float x)
    = if x.isFinite then .ok (.float x.reread)
      else match literals with
        | .finite => .error (.nonFinite (writeFloat x))
        | .extended => .ok (.float x) := rfl

mutual

/-- A value that is read back can be followed, and is read with its halves joined. -/
theorem reread_of_isWritable : ∀ (value : Value) (depth : Nat), value.IsWritable depth →
    value.IsReadable depth ∧ reread literals value = .ok value.joined
  | .null, _, _ => ⟨trivial, rfl⟩
  | .bool _, _, _ => ⟨trivial, rfl⟩
  | .int _, _, h => ⟨h, rfl⟩
  | .str _, _, _ => ⟨trivial, rfl⟩
  | .float _, _, h => absurd h id
  | .date _, _, h => absurd h id
  | .list items, depth, ⟨below, hdepth, h⟩ => by
    obtain ⟨hreadable, hread⟩ := rereadItems_of_areWritable items below h
    exact ⟨⟨below, hdepth, hreadable⟩, by rw [reread, hread]; rfl⟩
  | .object members, depth, ⟨below, hdepth, hnodup, h⟩ => by
    obtain ⟨hreadable, hread⟩ := rereadMembers_of_areWritableMembers members below h
    refine ⟨⟨below, hdepth, hreadable⟩, ?_⟩
    rw [reread, hread, Value.joined]
    exact congrArg (fun read => Except.ok (Value.object read)) (Members.ofList_of_nodup hnodup)

/-- The items of a list, each as it is read. -/
theorem rereadItems_of_areWritable : ∀ (items : List Value) (depth : Nat),
    Value.AreWritable items depth →
      Value.AreReadable items depth ∧ rereadItems literals items = .ok (Value.joinedItems items)
  | [], _, _ => ⟨trivial, rfl⟩
  | item :: items, depth, ⟨hitem, hitems⟩ => by
    obtain ⟨hreadable, hread⟩ := reread_of_isWritable item depth hitem
    obtain ⟨hreadables, hreads⟩ := rereadItems_of_areWritable items depth hitems
    exact ⟨⟨hreadable, hreadables⟩, by rw [rereadItems, hread, hreads]; rfl⟩

/-- The members of an object, each as it is read. -/
theorem rereadMembers_of_areWritableMembers : ∀ (members : List (Text × Value)) (depth : Nat),
    Value.AreWritableMembers members depth → Value.AreReadableMembers members depth ∧
      rereadMembers literals members = .ok (Value.joinedMembers members)
  | [], _, _ => ⟨trivial, rfl⟩
  | (_, value) :: members, depth, ⟨hvalue, hmembers⟩ => by
    obtain ⟨hreadable, hread⟩ := reread_of_isWritable value depth hvalue
    obtain ⟨hreadables, hreads⟩ := rereadMembers_of_areWritableMembers members depth hmembers
    exact ⟨⟨hreadable, hreadables⟩, by rw [rereadMembers, hread, hreads]; rfl⟩

end

/-! ## Between the tokens -/

theorem skipSpace_cons {c : CodePoint} (h : isSpace c = false) (rest : Text) :
    skipSpace (c :: rest) = c :: rest := by
  rw [skipSpace, List.dropWhile_cons_of_neg (by simp [h])]

/-- A break is passed over. -/
theorem skipSpace_breakAt (level : Nat) (t : Text) :
    skipSpace (breakAt level ++ t) = skipSpace t := by
  have hspace : ∀ c ∈ breakAt level, isSpace c = true := by
    intro c hc
    rcases List.mem_cons.mp hc with rfl | hc
    · rfl
    · rw [List.eq_of_mem_replicate hc]
      rfl
  rw [skipSpace, List.dropWhile_append_of_pos hspace, skipSpace]

theorem endsToken_breakAt (level : Nat) (t : Text) : EndsToken (breakAt level ++ t) :=
  endsToken_lineFeed _

/-- A list whose first item stands behind a break. -/
theorem readValue_list_of_break {found : Except Failure (List Value)} {level : Nat}
    (hspace : skipSpace t = t) (hclose : t.head? ≠ some (.char ']'))
    (h : readItems literals fuel depth t = found.map fun items => (items, after)) :
    readValue literals (fuel + 1) (depth + 1) (.char '[' :: (breakAt level ++ t))
      = (found.map Value.list).map fun value => (value, after) := by
  rw [readValue, skipSpace_breakAt, hspace]
  simp only
  split
  · exact absurd rfl hclose
  · rw [h]
    cases found <;> rfl

/-- An object whose first member stands behind a break. -/
theorem readValue_object_of_break {found : Except Failure (List (Text × Value))} {level : Nat}
    (hspace : skipSpace t = t) (hclose : t.head? ≠ some (.char '\x7d'))
    (h : readMembers literals fuel depth t = found.map fun members => (members, after)) :
    readValue literals (fuel + 1) (depth + 1) (.char '\x7b' :: (breakAt level ++ t))
      = (found.map fun members => Value.object (Members.ofList members)).map
        fun value => (value, after) := by
  rw [readValue, skipSpace_breakAt, hspace]
  simp only
  split
  · exact absurd rfl hclose
  · rw [h]
    cases found <;> rfl

/-- An item before the closing bracket. -/
theorem readItems_of_close {found : Except Failure Value} {level : Nat}
    (h : readValue literals fuel depth t
      = found.map fun item => (item, breakAt level ++ .char ']' :: after)) :
    readItems literals (fuel + 1) depth t = found.map fun item => ([item], after) := by
  have hclose : skipSpace (.char ']' :: after) = .char ']' :: after := rfl
  rw [readItems, h]
  cases found with
  | error failure => rfl
  | ok item => simp only [Except.map, skipSpace_breakAt, hclose]

/-- An item before other items. -/
theorem readItems_of_comma {found : Except Failure Value} {others : Except Failure (List Value)}
    {level : Nat} {more : Text} (hspace : skipSpace more = more)
    (h : readValue literals fuel depth t
      = found.map fun item => (item, .char ',' :: (breakAt level ++ more)))
    (hmore : readItems literals fuel depth more = others.map fun items => (items, after)) :
    readItems literals (fuel + 1) depth t
      = (found.bind fun item => others.map (item :: ·)).map fun items => (items, after) := by
  have hcomma (rest : Text) : skipSpace (.char ',' :: rest) = .char ',' :: rest := rfl
  rw [readItems, h]
  cases found with
  | error failure => rfl
  | ok item =>
    simp only [Except.map, hcomma, skipSpace_breakAt, hspace, hmore]
    cases others <;> rfl

/-- A member before the closing brace. -/
theorem readMembers_of_close {key : Text} {found : Except Failure Value} {level : Nat}
    (hspace : skipSpace t = t)
    (h : readValue literals fuel depth t
      = found.map fun value => (value, breakAt level ++ .char '\x7d' :: after)) :
    readMembers literals (fuel + 1) depth (writeString key ++ (text ": " ++ t))
      = found.map fun value => ([(Text.joinHalves key, value)], after) := by
  have hclose : skipSpace (.char '\x7d' :: after) = .char '\x7d' :: after := rfl
  have hcolon : skipSpace (text ": " ++ t) = .char ':' :: .char ' ' :: t := rfl
  have hblank : skipSpace (.char ' ' :: t) = t := hspace
  rw [writeString, List.cons_append, List.append_assoc, List.singleton_append, readMembers,
    readString_escape]
  simp only [hcolon, hblank, h]
  cases found with
  | error failure => rfl
  | ok value => simp only [Except.map, skipSpace_breakAt, hclose]

/-- A member before other members. -/
theorem readMembers_of_comma {key : Text} {found : Except Failure Value}
    {others : Except Failure (List (Text × Value))} {level : Nat} {more : Text}
    (hspace : skipSpace t = t) (hmorespace : skipSpace more = more)
    (h : readValue literals fuel depth t
      = found.map fun value => (value, .char ',' :: (breakAt level ++ more)))
    (hmore : readMembers literals fuel depth more = others.map fun members => (members, after)) :
    readMembers literals (fuel + 1) depth (writeString key ++ (text ": " ++ t))
      = (found.bind fun value => others.map ((Text.joinHalves key, value) :: ·)).map
        fun members => (members, after) := by
  have hcomma (rest : Text) : skipSpace (.char ',' :: rest) = .char ',' :: rest := rfl
  have hcolon : skipSpace (text ": " ++ t) = .char ':' :: .char ' ' :: t := rfl
  have hblank : skipSpace (.char ' ' :: t) = t := hspace
  rw [writeString, List.cons_append, List.append_assoc, List.singleton_append, readMembers,
    readString_escape]
  simp only [hcolon, hblank, h]
  cases found with
  | error failure => rfl
  | ok value =>
    simp only [Except.map, hcomma, skipSpace_breakAt, hmorespace, hmore]
    cases others <;> rfl

/-! ## Values, items and members -/

/-- A code point that can begin a value: it is not blank, closes no list and marks no byte order. -/
def Opens (c : CodePoint) : Prop := isSpace c = false ∧ c ≠ .char ']' ∧ c ≠ .char '\uFEFF'

instance (c : CodePoint) : Decidable (Opens c) :=
  inferInstanceAs (Decidable (isSpace c = false ∧ c ≠ .char ']' ∧ c ≠ .char '\uFEFF'))

theorem opens_ofDigit : ∀ d < 10, Opens (.ofDigit d) := by decide

/-- A value that is neither a string nor a container is read as a scalar. -/
theorem readValue_scalar {c : CodePoint} (hquote : c ≠ .char '"') (hbracket : c ≠ .char '[')
    (hbrace : c ≠ .char '\x7b') (rest : Text) :
    readValue literals (fuel + 1) depth (c :: rest) = readScalar literals (c :: rest) := by
  rw [readValue]
  · exact fun _ h => hquote (List.cons.inj h).1
  · exact fun _ h => hbracket (List.cons.inj h).1
  · exact fun _ h => hbrace (List.cons.inj h).1

/-- A number begins with a code point that can begin a value, and is read as a scalar. -/
theorem exists_minus_append_eq {whole : List Nat} (h : IsDigits whole) (negative : Bool)
    (tail : Text) : ∃ c rest, minus negative ++ (whole.map .ofDigit ++ tail) = c :: rest ∧ Opens c ∧
      c ≠ .char '"' ∧ c ≠ .char '[' ∧ c ≠ .char '\x7b' := by
  obtain ⟨d, digits, rfl⟩ := List.exists_cons_of_ne_nil h.nonempty
  have hd : d < 10 := h.lt d (List.mem_cons_self ..)
  cases negative with
  | true => exact ⟨.char '-', _, rfl, by decide, by decide, by decide, by decide⟩
  | false =>
    exact ⟨.ofDigit d, _, rfl, opens_ofDigit d hd,
      ofDigit_ne hd (show (0x22 : Nat) ≠ 0x30 + d by omega),
      ofDigit_ne hd (show (0x5B : Nat) ≠ 0x30 + d by omega),
      ofDigit_ne hd (show (0x7B : Nat) ≠ 0x30 + d by omega)⟩

theorem exists_ofInt_eq (z : Int) : ∃ c rest, Decimal.ofInt z = c :: rest ∧ Opens c ∧
    c ≠ .char '"' ∧ c ≠ .char '[' ∧ c ≠ .char '\x7b' := by
  obtain ⟨c, rest, heq, h⟩ :=
    exists_minus_append_eq (isDigits_digitsOf z.natAbs) (decide (z < 0)) []
  rw [List.append_nil] at heq
  exact ⟨c, rest, (ofInt_eq z).trans heq, h⟩

theorem exists_writeFloat_eq (x : Binary64) : ∃ c rest, writeFloat x = c :: rest ∧ Opens c ∧
    c ≠ .char '"' ∧ c ≠ .char '[' ∧ c ≠ .char '\x7b' := by
  by_cases hx : x.isFinite = true
  · obtain ⟨negative, whole, tail, hwhole, -, heq⟩ := exists_display_eq hx
    obtain ⟨c, rest, hcons, h⟩ := exists_minus_append_eq hwhole.toIsDigits negative tail
    cases x with
    | finite => exact ⟨c, rest, heq.trans hcons, h⟩
    | nan | infinite => cases hx
  · rcases not_isFinite_cases (Bool.not_eq_true _ ▸ hx) with rfl | rfl | rfl <;>
      exact ⟨_, _, rfl, by decide, by decide, by decide, by decide⟩

/-- A written value begins with a code point that can begin one. -/
theorem exists_writeDocument_eq (value : Value) (level : Nat) :
    ∃ c rest, writeDocument level value = c :: rest ∧ Opens c := by
  cases value with
  | null => exact ⟨_, _, rfl, by decide⟩
  | bool b => cases b <;> exact ⟨_, _, rfl, by decide⟩
  | int z =>
    obtain ⟨c, rest, heq, hopens, -⟩ := exists_ofInt_eq z
    exact ⟨c, rest, heq, hopens⟩
  | float x =>
    obtain ⟨c, rest, heq, hopens, -⟩ := exists_writeFloat_eq x
    exact ⟨c, rest, heq, hopens⟩
  | str s => exact ⟨_, _, rfl, by decide⟩
  | list items => cases items <;> exact ⟨_, _, rfl, by decide⟩
  | object members => cases members <;> exact ⟨_, _, rfl, by decide⟩
  | date shown => exact ⟨_, _, rfl, by decide⟩

theorem exists_writeDocumentItems_eq {items : List Value} (hne : items ≠ []) (level : Nat) :
    ∃ c rest, writeDocumentItems level items = c :: rest ∧ Opens c := by
  obtain ⟨item, items, rfl⟩ := List.exists_cons_of_ne_nil hne
  obtain ⟨c, rest, heq, hopens⟩ := exists_writeDocument_eq item level
  cases items with
  | nil => exact ⟨c, rest, heq, hopens⟩
  | cons next items =>
    rw [writeDocumentItems, heq]
    exact ⟨c, _, rfl, hopens⟩

theorem exists_writeDocumentMembers_eq {members : List (Text × Value)} (hne : members ≠ [])
    (level : Nat) : ∃ rest, writeDocumentMembers level members = .char '"' :: rest := by
  obtain ⟨⟨key, value⟩, members, rfl⟩ := List.exists_cons_of_ne_nil hne
  cases members <;> exact ⟨_, rfl⟩

theorem readValue_ofInt {z : Int} (hz : z.natAbs < 10 ^ Decimal.digitLimit) {rest : Text}
    (h : EndsToken rest) :
    readValue literals (fuel + 1) depth (Decimal.ofInt z ++ rest) = .ok (.int z, rest) := by
  obtain ⟨c, more, heq, -, hquote, hbracket, hbrace⟩ := exists_ofInt_eq z
  rw [← readScalar_ofInt literals hz h, heq, List.cons_append]
  exact readValue_scalar hquote hbracket hbrace _

theorem readValue_writeFloat (x : Binary64) {rest : Text} (h : EndsToken rest) :
    readValue literals (fuel + 1) depth (writeFloat x ++ rest)
      = (reread literals (.float x)).map fun value => (value, rest) := by
  obtain ⟨c, more, heq, -, hquote, hbracket, hbrace⟩ := exists_writeFloat_eq x
  have hscalar : readValue literals (fuel + 1) depth (writeFloat x ++ rest)
      = readScalar literals (writeFloat x ++ rest) := by
    rw [heq, List.cons_append]
    exact readValue_scalar hquote hbracket hbrace _
  rw [hscalar, reread_float]
  by_cases hx : x.isFinite = true
  · rw [readScalar_writeFloat hx literals h, if_pos hx]
    rfl
  · rw [readScalar_of_not_isFinite (Bool.not_eq_true _ ▸ hx), if_neg hx]
    cases literals <;> rfl

theorem readScalar_null (rest : Text) :
    readScalar literals (text "null" ++ rest) = .ok (.null, rest) := by
  have hnull : Text.dropStart? (text "null" ++ rest) (text "null") = some rest :=
    Text.dropStart?_eq_some_iff.mpr rfl
  simp only [readScalar, hnull]

theorem readScalar_true (rest : Text) :
    readScalar literals (text "true" ++ rest) = .ok (.bool true, rest) := by
  have hnull : Text.dropStart? (text "true" ++ rest) (text "null") = none := rfl
  have htrue : Text.dropStart? (text "true" ++ rest) (text "true") = some rest :=
    Text.dropStart?_eq_some_iff.mpr rfl
  simp only [readScalar, hnull, htrue]

theorem readScalar_false (rest : Text) :
    readScalar literals (text "false" ++ rest) = .ok (.bool false, rest) := by
  have hnull : Text.dropStart? (text "false" ++ rest) (text "null") = none := rfl
  have htrue : Text.dropStart? (text "false" ++ rest) (text "true") = none := rfl
  have hfalse : Text.dropStart? (text "false" ++ rest) (text "false") = some rest :=
    Text.dropStart?_eq_some_iff.mpr rfl
  simp only [readScalar, hnull, htrue, hfalse]

theorem readValue_writeString (s rest : Text) :
    readValue literals (fuel + 1) depth (writeString s ++ rest)
      = .ok (.str (Text.joinHalves s), rest) := by
  rw [writeString, List.cons_append, List.append_assoc, List.singleton_append, readValue,
    readString_escape]
  rfl

mutual

/-- A value in front of a text that ends it. -/
theorem readValue_writeDocument : ∀ (value : Value) (level fuel depth : Nat) (rest : Text),
    value.IsReadable depth → EndsToken rest → 2 * (writeDocument level value).length ≤ fuel →
      readValue literals fuel depth (writeDocument level value ++ rest)
        = (reread literals value).map fun value => (value, rest)
  | .null, level, fuel + 1, depth, rest, _, _, _ =>
    (readValue_scalar (by decide) (by decide) (by decide) _).trans (readScalar_null rest)
  | .bool true, level, fuel + 1, depth, rest, _, _, _ =>
    (readValue_scalar (by decide) (by decide) (by decide) _).trans (readScalar_true rest)
  | .bool false, level, fuel + 1, depth, rest, _, _, _ =>
    (readValue_scalar (by decide) (by decide) (by decide) _).trans (readScalar_false rest)
  | .int z, level, fuel + 1, depth, rest, h, hrest, _ => readValue_ofInt h hrest
  | .float x, level, fuel + 1, depth, rest, _, hrest, _ => readValue_writeFloat x hrest
  | .str s, level, fuel + 1, depth, rest, _, _, _ => readValue_writeString s rest
  | .date shown, level, fuel + 1, depth, rest, _, _, _ => readValue_writeString shown rest
  | .list [], level, fuel + 1, depth + 1, rest, _, _, _ => rfl
  | .object [], level, fuel + 1, depth + 1, rest, _, _, _ => rfl
  | .list (item :: items), level, fuel + 1, depth, rest, h, hrest, hfuel => by
    obtain ⟨below, rfl, h⟩ := h
    have hne := List.cons_ne_nil item items
    obtain ⟨c, more, heq, hspace, hclose, -⟩ := exists_writeDocumentItems_eq hne (level + 1)
    have hlength : 2 * (writeDocumentItems (level + 1) (item :: items)).length + 1 ≤ fuel := by
      simp only [writeDocument, List.length_cons, List.length_append] at hfuel
      omega
    have hitems := readItems_writeDocument (item :: items) (level + 1) level fuel below rest hne h
      hlength
    rw [writeDocument, reread, List.cons_append, List.append_assoc, List.append_assoc,
      List.append_assoc, List.singleton_append]
    refine readValue_list_of_break ?_ ?_ hitems
    · rw [heq, List.cons_append, skipSpace_cons hspace]
    · rw [heq, List.cons_append, List.head?_cons, ne_eq, Option.some.injEq]
      exact hclose
  | .object (member :: members), level, fuel + 1, depth, rest, h, hrest, hfuel => by
    obtain ⟨below, rfl, h⟩ := h
    have hne := List.cons_ne_nil member members
    obtain ⟨more, heq⟩ := exists_writeDocumentMembers_eq hne (level + 1)
    have hlength :
        2 * (writeDocumentMembers (level + 1) (member :: members)).length + 1 ≤ fuel := by
      simp only [writeDocument, List.length_cons, List.length_append] at hfuel
      omega
    have hmembers := readMembers_writeDocument (member :: members) (level + 1) level fuel below rest
      hne h hlength
    rw [writeDocument, reread, List.cons_append, List.append_assoc, List.append_assoc,
      List.append_assoc, List.singleton_append]
    refine readValue_object_of_break ?_ ?_ hmembers
    · rw [heq, List.cons_append, skipSpace_cons (by rfl)]
    · rw [heq, List.cons_append, List.head?_cons]
      decide
  | .list [], _, _ + 1, 0, _, h, _, _ => by
    obtain ⟨below, hbelow, -⟩ := h
    cases hbelow
  | .object [], _, _ + 1, 0, _, h, _, _ => by
    obtain ⟨below, hbelow, -⟩ := h
    cases hbelow
  | value, level, 0, depth, rest, _, _, hfuel => by
    obtain ⟨c, more, heq, -⟩ := exists_writeDocument_eq value level
    rw [heq, List.length_cons] at hfuel
    omega

/-- Items in front of the bracket that closes their list. -/
theorem readItems_writeDocument : ∀ (items : List Value) (level outer fuel depth : Nat)
    (rest : Text), items ≠ [] → Value.AreReadable items depth →
      2 * (writeDocumentItems level items).length + 1 ≤ fuel →
      readItems literals fuel depth
          (writeDocumentItems level items ++ (breakAt outer ++ .char ']' :: rest))
        = (rereadItems literals items).map fun items => (items, rest)
  | [item], level, outer, fuel + 1, depth, rest, _, h, hfuel => by
    have hitem := readValue_writeDocument item level fuel depth
      (breakAt outer ++ .char ']' :: rest) h.1 (endsToken_breakAt outer _)
      (Nat.le_of_succ_le_succ hfuel)
    rw [writeDocumentItems, readItems_of_close hitem, rereadItems, rereadItems]
    cases reread literals item <;> rfl
  | item :: next :: items, level, outer, fuel + 1, depth, rest, _, h, hfuel => by
    have hne := List.cons_ne_nil next items
    obtain ⟨c, more, heq, hspace, -⟩ := exists_writeDocumentItems_eq hne level
    simp only [writeDocumentItems, List.length_cons, List.length_append] at hfuel
    have hmore := readItems_writeDocument (next :: items) level outer fuel depth rest hne h.2
      (by omega)
    rw [writeDocumentItems, List.append_assoc, List.cons_append, List.append_assoc, rereadItems]
    refine readItems_of_comma ?_ (readValue_writeDocument item level fuel depth _ h.1
      (endsToken_comma _) (by omega)) hmore
    rw [heq, List.cons_append, skipSpace_cons hspace]
  | _ :: _, _, _, 0, _, _, _, _, hfuel => by omega

/-- Members in front of the brace that closes their object. -/
theorem readMembers_writeDocument : ∀ (members : List (Text × Value))
    (level outer fuel depth : Nat) (rest : Text), members ≠ [] →
      Value.AreReadableMembers members depth →
      2 * (writeDocumentMembers level members).length + 1 ≤ fuel →
      readMembers literals fuel depth
          (writeDocumentMembers level members ++ (breakAt outer ++ .char '\x7d' :: rest))
        = (rereadMembers literals members).map fun members => (members, rest)
  | [(key, value)], level, outer, fuel + 1, depth, rest, _, h, hfuel => by
    obtain ⟨c, more, heq, hspace, -⟩ := exists_writeDocument_eq value level
    simp only [writeDocumentMembers, List.length_append] at hfuel
    have hvalue := readValue_writeDocument value level fuel depth
      (breakAt outer ++ .char '\x7d' :: rest) h.1 (endsToken_breakAt outer _) (by omega)
    rw [writeDocumentMembers, List.append_assoc, List.append_assoc,
      readMembers_of_close (by rw [heq, List.cons_append, skipSpace_cons hspace]) hvalue,
      rereadMembers, rereadMembers]
    cases reread literals value <;> rfl
  | (key, value) :: next :: members, level, outer, fuel + 1, depth, rest, _, h, hfuel => by
    have hne := List.cons_ne_nil next members
    obtain ⟨c, first, heq, hspace, -⟩ := exists_writeDocument_eq value level
    obtain ⟨more, hmoreeq⟩ := exists_writeDocumentMembers_eq hne level
    simp only [writeDocumentMembers, List.length_cons, List.length_append] at hfuel
    have hmore := readMembers_writeDocument (next :: members) level outer fuel depth rest hne h.2
      (by omega)
    rw [writeDocumentMembers, List.append_assoc, List.append_assoc, List.append_assoc,
      List.cons_append, List.append_assoc, rereadMembers]
    refine readMembers_of_comma ?_ ?_ (readValue_writeDocument value level fuel depth _ h.1
      (endsToken_comma _) (by omega)) hmore
    · rw [heq, List.cons_append, skipSpace_cons hspace]
    · rw [hmoreeq, List.cons_append, skipSpace_cons (by rfl)]
  | _ :: _, _, _, 0, _, _, _, _, hfuel => by omega

end

/-- A value that can be followed is written. -/
theorem document_eq {value : Value} {depth : Nat} (h : value.IsReadable depth) :
    document value = .ok (writeDocument 0 value) :=
  Value.written_of_isShort (Value.isShort_of_isReadable h) _

/-- **What is read of a document** is what the reader makes of its value, also where blanks follow
the document. -/
theorem read_writeDocument_append {value : Value} (h : value.IsReadable depthLimit) {rest : Text}
    (hends : EndsToken rest) (hblank : skipSpace rest = []) :
    read (writeDocument 0 value ++ rest) = reread .finite value := by
  obtain ⟨c, more, heq, hspace, -, hmark⟩ := exists_writeDocument_eq value 0
  have hstart : Text.startsWith (writeDocument 0 value ++ rest) [.char '\uFEFF'] = false := by
    rw [heq, List.cons_append, Text.startsWith, List.isPrefixOf_cons_cons,
      beq_eq_false_iff_ne.mpr hmark.symm, Bool.false_and]
  have hskip : skipSpace (writeDocument 0 value ++ rest) = writeDocument 0 value ++ rest := by
    rw [heq, List.cons_append, skipSpace_cons hspace]
  have hread : readValue .finite (2 * (writeDocument 0 value ++ rest).length + 2) depthLimit
      (writeDocument 0 value ++ rest) = (reread .finite value).map fun value => (value, rest) := by
    refine readValue_writeDocument value 0 _ depthLimit rest h hends ?_
    rw [List.length_append]
    omega
  rw [read, readWith, hstart, hskip, hread]
  cases reread .finite value with
  | error failure => rfl
  | ok value => simp [Except.map, hblank]

theorem read_writeDocument_eq_reread {value : Value} (h : value.IsReadable depthLimit) :
    read (writeDocument 0 value) = reread .finite value := by
  have hread := read_writeDocument_append h endsToken_nil rfl
  rwa [List.append_nil] at hread

/-- **A document is read back**, with the halves in its texts joined. -/
theorem read_writeDocument {value : Value} (h : value.IsWritable depthLimit) :
    read (writeDocument 0 value) = .ok value.joined := by
  obtain ⟨hreadable, hread⟩ := @reread_of_isWritable .finite value depthLimit h
  rw [read_writeDocument_eq_reread hreadable, hread]

/-- A number with more whole digits than are converted is refused, though it is JSON. -/
theorem read_eq_tooManyDigits {whole : List Nat} (h : IsWhole whole)
    (hlimit : Decimal.digitLimit < whole.length) (negative : Bool) :
    read (minus negative ++ whole.map .ofDigit) = .error (.tooManyDigits whole.length) := by
  have hends : EndsToken ([] : Text) := endsToken_nil
  obtain ⟨c, rest, heq, ⟨hspace, -, hmark⟩, hquote, hbracket, hbrace⟩ :=
    exists_minus_append_eq h.toIsDigits negative []
  have hscalar := readScalar_minus_append .finite h hends.stopsDigits negative
  have hvalue : Numeral.value ⟨negative, whole, none, none⟩
      = .error (.tooManyDigits whole.length) := by
    simp only [Numeral.value, Decimal.readDigits, if_neg (Nat.not_le.mpr hlimit)]
  have hstart : Text.startsWith (c :: rest) [.char '\uFEFF'] = false := by
    rw [Text.startsWith, List.isPrefixOf_cons_cons, beq_eq_false_iff_ne.mpr hmark.symm,
      Bool.false_and]
  rw [takeFraction_of_endsToken hends, takeExponent_of_endsToken hends, hvalue, heq] at hscalar
  have htext : minus negative ++ whole.map .ofDigit = c :: rest := by
    rw [← heq, List.append_nil]
  rw [htext, read, readWith, hstart, skipSpace_cons hspace,
    readValue_scalar hquote hbracket hbrace, hscalar]
  rfl

end Json

end DiagnosticRelay
