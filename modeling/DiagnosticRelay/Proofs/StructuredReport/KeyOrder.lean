import DiagnosticRelay.Proofs.Json.KeyOrder
import DiagnosticRelay.StructuredReport

/-!
# The order of keys in a record is immaterial

A checker may write the members of its objects in any order, and in another one the next time.
`diagnosticOf_of_reorders` says that this changes nothing about a record: whether it counts, and
every field of its diagnostic, stay the same when the members of any objects in it are put into
another order, at any depth.

A field can be safe from the order for three reasons, and each occurs.  The path of the file, the
coordinates and the range are read by looking up keys, and a lookup does not see the order
(`Reorders.get_members`).  A level is taken from the text of a value, which shows the order for a
list or an object, but then it begins with a bracket and is no level.  A code that is a list or an
object is written in full, but with its keys sorted (`Json.sortKeys_eq_of_reorders`).  Whether a
value can be written at all depends on its integers, which stay (`Reorders.isShort_eq`).

The message has no such reason: it is the plain text of whatever is there, so the order does show in
a message that is a list or an object.  The theorem is about the other messages.
-/

namespace DiagnosticRelay

open Value (Reorders)

/-! ## Coordinates -/

/-- A list or an object is no coordinate, so its order does not count. -/
theorem Value.toIntOr_of_reorders {value other : Value} (h : Reorders value other)
    (default : Int) : value.toIntOr default = other.toIntOr default := by
  cases h <;> rfl

theorem Position.ofValues_of_reorders {line column otherLine otherColumn : Value}
    (hline : Reorders line otherLine) (hcolumn : Reorders column otherColumn)
    (defaultLine defaultColumn : Int) :
    ofValues line column defaultLine defaultColumn
      = ofValues otherLine otherColumn defaultLine defaultColumn := by
  rw [ofValues, ofValues, Value.toIntOr_of_reorders hline, Value.toIntOr_of_reorders hcolumn]

namespace Range

/-- The range of an object, read by lookups alone. -/
theorem ofBounds_eq (bounds : Members) :
    ofBounds bounds =
      if (Members.get bounds (text "start")).isObject then do
        let start ← Position.ofValues
          (Members.get (Members.get bounds (text "start")).members (text "line"))
          (Members.get (Members.get bounds (text "start")).members (text "column"))
          defaultCoordinate defaultCoordinate
        if (Members.get bounds (text "end")).isObject then do
          let stop ← Position.ofValues
            (Members.get (Members.get bounds (text "end")).members (text "line"))
            (Members.get (Members.get bounds (text "end")).members (text "column"))
            start.line start.column
          return some ⟨start, some stop⟩
        else return some ⟨start, none⟩
      else .ok none := by
  rw [ofBounds]
  cases Members.get bounds (text "start") with
  | object start => cases Members.get bounds (text "end") <;> rfl
  | null | bool | int | float | str | list | date => rfl

theorem ofBounds_of_reorders {bounds other : Value} (h : Reorders bounds other)
    (hdistinct : bounds.IsDistinct) : ofBounds bounds.members = ofBounds other.members := by
  have hstart := h.get_members hdistinct (text "start")
  have hstop := h.get_members hdistinct (text "end")
  have hfirst := hstart.get_members (Value.isDistinct_get_members hdistinct (text "start"))
  have hlast := hstop.get_members (Value.isDistinct_get_members hdistinct (text "end"))
  rw [ofBounds_eq, ofBounds_eq, hstart.isObject_eq, hstop.isObject_eq]
  simp only [Position.ofValues_of_reorders (hfirst (text "line")) (hfirst (text "column")),
    Position.ofValues_of_reorders (hlast (text "line")) (hlast (text "column"))]

theorem ofRecord_of_reorders {record other : Value} (h : Reorders record other)
    (hdistinct : record.IsDistinct) : ofRecord record.members = ofRecord other.members := by
  have hline := h.get_members hdistinct (text "line")
  have hcolumn := h.get_members hdistinct (text "column")
  have hrange := h.get_members hdistinct (text "range")
  have hbounds : (Members.get record.members (text "range")).IsDistinct :=
    Value.isDistinct_get_members hdistinct (text "range")
  have hstart := hrange.get_members hbounds (text "start")
  simp only [ofRecord, ofPoint, hstart.isObject_eq, hline.isNull_eq, hcolumn.isNull_eq,
    ofBounds_of_reorders hrange hbounds, Position.ofValues_of_reorders hline hcolumn]

end Range

/-! ## Levels -/

namespace Severity

/-- A token that begins unlike every level is none. -/
theorem ofToken_cons {c : CodePoint} (h : ∀ severity : Severity, severity.name.head? ≠ some c.lower)
    (rest : Text) : ofToken (c :: rest) = .info := by
  have hnone : ofName? (Text.lower (c :: rest)) = none := by
    rw [ofName?, List.find?_eq_none]
    intro severity _ hname
    refine h severity ?_
    rw [beq_iff_eq.mp hname]
    rfl
  rw [ofToken, hnone]
  rfl

/-- A list or an object has no level of its own, whatever is in it; but it may be too long. -/
theorem ofValue_container {value : Value} {c : CodePoint} {rest : Text}
    (hdisplay : value.display = value.written Value.displayInside)
    (hnull : value ≠ .null) (hbegin : value.displayInside = c :: rest)
    (h : ∀ severity : Severity, severity.name.head? ≠ some c.lower) :
    ofValue value = if value.isShort then .ok .info else .error .integerTooLong := by
  rw [ofValue, hdisplay, Value.written]
  · split
    · rw [hbegin, Except.map, ofToken_cons h]
    · rfl
  · exact hnull

theorem ofValue_list (items : List Value) : ofValue (.list items)
    = if (Value.list items).isShort then .ok .info else .error .integerTooLong :=
  ofValue_container rfl Value.noConfusion rfl (by intro severity; cases severity <;> decide)

theorem ofValue_object (members : Members) : ofValue (.object members)
    = if (Value.object members).isShort then .ok .info else .error .integerTooLong :=
  ofValue_container rfl Value.noConfusion rfl (by intro severity; cases severity <;> decide)

theorem ofValue_of_reorders {value other : Value} (h : Reorders value other) :
    ofValue value = ofValue other := by
  have hshort := h.isShort_eq
  cases h with
  | same => rfl
  | list => rw [ofValue_list, ofValue_list, hshort]
  | object => rw [ofValue_object, ofValue_object, hshort]

end Severity

/-! ## Records -/

namespace StructuredReport

/-- A code that is a list or an object is written with its keys sorted. -/
theorem codeOf_of_reorders {value other : Value} (h : Reorders value other)
    (hdistinct : value.IsDistinct) : codeOf value = codeOf other := by
  have hsorted := Json.sortKeys_eq_of_reorders h hdistinct
  cases h with
  | same => rfl
  | list => rw [codeOf, codeOf, hsorted] <;> simp
  | object => rw [codeOf, codeOf, hsorted] <;> simp

/-- The value that a message is taken from: `message`, or `msg` where that is absent or null. -/
def effectiveMessage (record : Members) : Value :=
  if (Members.get record (text "message")).isNull then Members.get record (text "msg")
  else Members.get record (text "message")

theorem messageOf_eq (record : Members) :
    messageOf record = (effectiveMessage record).toText?.map (·.getD []) := by
  rw [messageOf, effectiveMessage]
  cases Members.get record (text "message") <;> rfl

theorem effectiveMessage_of_reorders {record other : Value} (h : Reorders record other)
    (hdistinct : record.IsDistinct) :
    Reorders (effectiveMessage record.members) (effectiveMessage other.members) := by
  rw [effectiveMessage, effectiveMessage, (h.get_members hdistinct (text "message")).isNull_eq]
  split
  · exact h.get_members hdistinct _
  · exact h.get_members hdistinct _

/-- **The order of keys is immaterial.**  A record whose message is neither a list nor an object
gives the same answer when the members of its objects are put into any order at any depth. -/
theorem diagnosticOf_of_reorders (directory : Text) {record other : Members}
    (h : Reorders (.object record) (.object other))
    (hdistinct : (Value.object record).IsDistinct)
    (hlist : ∀ items, effectiveMessage record ≠ .list items)
    (hobject : ∀ members, effectiveMessage record ≠ .object members) :
    diagnosticOf directory record = diagnosticOf directory other := by
  have hmessage : messageOf other = messageOf record := by
    have heffective : effectiveMessage other = effectiveMessage record :=
      (effectiveMessage_of_reorders h hdistinct).eq_of_not_container hlist hobject
    rw [messageOf_eq, messageOf_eq, heffective]
  have hrange : Range.ofRecord record = Range.ofRecord other :=
    Range.ofRecord_of_reorders h hdistinct
  have hseverity := Severity.ofValue_of_reorders (h.get_members hdistinct (text "severity"))
  have hcode := codeOf_of_reorders (h.get_members hdistinct (text "code"))
    (Value.isDistinct_get_members hdistinct (text "code"))
  have hfile := h.get_members hdistinct (text "file")
  simp only [Value.members_object] at hseverity hcode hfile
  simp only [diagnosticOf, hmessage, hrange, hseverity, hcode]
  -- the path is text, which is not reordered, and what is not text counts on neither side
  generalize Members.get record (text "file") = file at hfile ⊢
  generalize Members.get other (text "file") = otherFile at hfile ⊢
  cases hfile <;> rfl

/-- A record whose code, range and positions are objects, with the members of all of them the other
way round. -/
theorem diagnosticOf_of_reorders_reversed :
    let inner : Members := [(text "y", .int 1), (text "x", .null)]
    let code : Members := [(text "b", .list [.object inner]), (text "a", .str (text "z"))]
    let start : Members := [(text "line", .int 3), (text "column", .str (text "4x"))]
    let range : Members := [(text "start", .object start), (text "end", .null)]
    let record : Members := [(text "file", .str (text "a.c")), (text "message", .null),
      (text "msg", .bool true), (text "code", .object code), (text "range", .object range)]
    let other : Members := [(text "range", .object [(text "end", .null),
        (text "start", .object [(text "column", .str (text "4x")), (text "line", .int 3)])]),
      (text "code", .object [(text "a", .str (text "z")),
        (text "b", .list [.object [(text "x", .null), (text "y", .int 1)]])]),
      (text "msg", .bool true), (text "message", .null), (text "file", .str (text "a.c"))]
    Reorders (.object record) (.object other) ∧ (Value.object record).IsDistinct ∧
      (∀ items, effectiveMessage record ≠ .list items) ∧
      (∀ members, effectiveMessage record ≠ .object members) ∧
      diagnosticOf (text "/p") record = diagnosticOf (text "/p") other := by
  intro inner code start range record other
  have hinner : Reorders (.object inner) (.object [(text "x", .null), (text "y", .int 1)]) :=
    .object (List.reverse_perm inner).symm (.refl _)
  have hcode : Reorders (.object code) (.object [(text "a", .str (text "z")),
      (text "b", .list [.object [(text "x", .null), (text "y", .int 1)]])]) :=
    .object (List.reverse_perm code).symm
      (.cons _ (.same _) (.cons _ (.list (.cons hinner .nil)) .nil))
  have hstart : Reorders (.object start)
      (.object [(text "column", .str (text "4x")), (text "line", .int 3)]) :=
    .object (List.reverse_perm start).symm (.refl _)
  have hrange : Reorders (.object range) (.object [(text "end", .null),
      (text "start", .object [(text "column", .str (text "4x")), (text "line", .int 3)])]) :=
    .object (List.reverse_perm range).symm (.cons _ (.same _) (.cons _ hstart .nil))
  have hrecord : Reorders (.object record) (.object other) :=
    .object (List.reverse_perm record).symm (.cons _ hrange (.cons _ hcode (.refl _)))
  have hdistinct : (Value.object record).IsDistinct := by
    simp only [record, code, range, start, inner, Value.IsDistinct, Value.AreDistinctMembers,
      Value.AreDistinct, List.map_cons, List.map_nil, and_true, true_and]
    decide
  have hlist : ∀ items, effectiveMessage record ≠ .list items := fun _ => Value.noConfusion
  have hobject : ∀ members, effectiveMessage record ≠ .object members := fun _ => Value.noConfusion
  exact ⟨hrecord, hdistinct, hlist, hobject,
    diagnosticOf_of_reorders (text "/p") hrecord hdistinct hlist hobject⟩

end StructuredReport

end DiagnosticRelay
