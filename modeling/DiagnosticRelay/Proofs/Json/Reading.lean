import DiagnosticRelay.Json.Reader

/-!
# What the reader accepts

One law for each form that a value can take, in the shape in which a printer writes it: the form is
followed by any text, and the reader gives its value and leaves that text.  The laws for
containers ask for the value of what stands inside them, with one unit of fuel less.

Strings are taken here only without escapes.  A code point that is neither a quote nor a
backslash nor a control character stands for itself (`IsPlain`).
-/

namespace DiagnosticRelay

namespace Json

/-- A code point that stands for itself in a string. -/
def IsPlain (c : CodePoint) : Prop := c ≠ .char '"' ∧ c ≠ .char '\\' ∧ ¬ c.value < 0x20

instance (c : CodePoint) : Decidable (IsPlain c) :=
  inferInstanceAs (Decidable (c ≠ .char '"' ∧ c ≠ .char '\\' ∧ ¬ c.value < 0x20))

theorem readString_plain (opening : Text) {s : Text} (h : ∀ c ∈ s, IsPlain c) (rest : Text) :
    readString opening 0 (s ++ .char '"' :: rest) = .ok (s, rest) := by
  induction s with
  | nil => rfl
  | cons c s ih =>
    obtain ⟨hquote, hslash, hcontrol⟩ := h c (List.mem_cons_self ..)
    rw [List.cons_append, readString, if_neg hquote, if_neg hslash, if_neg hcontrol,
      ih fun d hd => h d (List.mem_cons_of_mem _ hd)]
    rfl

variable {literals : Literals} {fuel depth : Nat} {t rest : Text}

theorem readValue_plain {s : Text} (h : ∀ c ∈ s, IsPlain c) (rest : Text) :
    readValue literals (fuel + 1) depth (.char '"' :: (s ++ .char '"' :: rest))
      = .ok (.str s, rest) := by
  rw [readValue, readString_plain _ h]
  rfl

/-- A list with at least one item, the first of which follows the bracket at once. -/
theorem readValue_list {items : List Value} (hspace : skipSpace t = t)
    (hclose : t.head? ≠ some (.char ']'))
    (h : readItems literals fuel depth t = .ok (items, rest)) :
    readValue literals (fuel + 1) (depth + 1) (.char '[' :: t) = .ok (.list items, rest) := by
  rw [readValue, hspace]
  simp only
  split
  · next after => exact absurd rfl hclose
  · rw [h]
    rfl

/-- An object with at least one member, the first of which follows the brace at once. -/
theorem readValue_object {members : List (Text × Value)} (hspace : skipSpace t = t)
    (hclose : t.head? ≠ some (.char '\x7d'))
    (h : readMembers literals fuel depth t = .ok (members, rest)) :
    readValue literals (fuel + 1) (depth + 1) (.char '\x7b' :: t)
      = .ok (.object (Members.ofList members), rest) := by
  rw [readValue, hspace]
  simp only
  split
  · next after => exact absurd rfl hclose
  · rw [h]
    rfl

theorem readItems_last {item : Value}
    (h : readValue literals fuel depth t = .ok (item, .char ']' :: rest)) :
    readItems literals (fuel + 1) depth t = .ok ([item], rest) := by
  rw [readItems, h]
  rfl

/-- The last member of an object. -/
theorem readMembers_last {key : Text} {value : Value} (hkey : ∀ c ∈ key, IsPlain c)
    (hspace : skipSpace t = t)
    (h : readValue literals fuel depth t = .ok (value, .char '\x7d' :: rest)) :
    readMembers literals (fuel + 1) depth (.char '"' :: (key ++ .char '"' :: .char ':' :: t))
      = .ok ([(key, value)], rest) := by
  have hcolon : skipSpace (.char ':' :: t) = .char ':' :: t := rfl
  rw [readMembers, readString_plain _ hkey]
  simp only [hcolon, hspace, h]
  rfl

/-- A member of an object before another one. -/
theorem readMembers_next {key : Text} {value : Value} {next : Text}
    {members : List (Text × Value)} (hkey : ∀ c ∈ key, IsPlain c) (hspace : skipSpace t = t)
    (h : readValue literals fuel depth t = .ok (value, .char ',' :: next))
    (hnext : readMembers literals fuel depth (skipSpace next) = .ok (members, rest)) :
    readMembers literals (fuel + 1) depth (.char '"' :: (key ++ .char '"' :: .char ':' :: t))
      = .ok ((key, value) :: members, rest) := by
  have hcolon : skipSpace (.char ':' :: t) = .char ':' :: t := rfl
  have hcomma : skipSpace (.char ',' :: next) = .char ',' :: next := rfl
  rw [readMembers, readString_plain _ hkey]
  simp only [hcolon, hspace, h, hcomma, hnext]
  rfl

/-- A document that is one value. -/
theorem read_of_readValue {value : Value} (hspace : skipSpace t = t)
    (hmark : Text.startsWith t [.char '\uFEFF'] = false)
    (h : readValue .finite (2 * t.length + 2) depthLimit t = .ok (value, [])) :
    read t = .ok value := by
  rw [read, readWith, hmark, hspace, h]
  rfl

end Json

end DiagnosticRelay
