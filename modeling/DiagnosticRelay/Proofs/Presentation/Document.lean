import DiagnosticRelay.Presentation
import DiagnosticRelay.Proofs.Grouping.JoinedHalves
import DiagnosticRelay.Proofs.Json.Answer
import DiagnosticRelay.Proofs.Json.RoundTrip

/-!
# What a document of shown diagnostics conveys

Shown diagnostics are handed to other programs as one document, keyed by file.  `decode?` is what
such a program does: it reads the document as JSON and takes the files, and of each diagnostic the
four numbers, the severity by its level, the message, and the code and the source where they are
there.  Nothing is defaulted, so whatever the document lacks makes the decoding fail.

There is a document unless a coordinate has more digits than are written (`writtenWhen_document`).
`decode?_document` says what comes out of it, and `document_cases` when that is what went in.  One
thing can be lost: halves of surrogate pairs that stand together are joined.
-/

namespace DiagnosticRelay

/-! ## Short coordinates -/

/-- A position whose coordinates have no more digits than are converted. -/
structure HostPosition.IsShort (position : HostPosition) : Prop where
  line : DiagnosticRelay.IsShort position.line
  character : DiagnosticRelay.IsShort position.character

/-- The four coordinates have no more digits than are converted. -/
structure HostDiagnostic.IsShort (diagnostic : HostDiagnostic) : Prop where
  start : diagnostic.range.start.IsShort
  stop : diagnostic.range.stop.IsShort

/-- All coordinates have no more digits than are converted. -/
def Grouped.IsShort (entries : Grouped) : Prop :=
  ∀ entry ∈ entries, ∀ diagnostic ∈ entry.2, diagnostic.IsShort

namespace Presentation

/-! ## Decoding -/

/-- The severity of a level. -/
def severityOf? : Value → Option Severity
  | .int level => Severity.all.find? fun severity => (severity.protocolLevel : Int) == level
  | _ => none

/-- The text of a message. -/
def textOf? : Value → Option Text
  | .str s => some s
  | _ => none

/-- The label at a key that need not be there. -/
def labelOf? : Option Value → Option (Option Text)
  | none => some none
  | some value => (textOf? value).map some

/-- The position of an object. -/
def positionOf? (value : Value) : Option HostPosition :=
  match value.members.get (text "line"), value.members.get (text "character") with
  | .int line, .int character => some ⟨line, character⟩
  | _, _ => none

/-- The range of an object. -/
def rangeOf? (value : Value) : Option HostRange :=
  match positionOf? (value.members.get (text "start")), positionOf? (value.members.get (text "end"))
    with
  | some start, some stop => some ⟨start, stop⟩
  | _, _ => none

/-- The diagnostic of an object. -/
def diagnosticOf? (value : Value) : Option HostDiagnostic :=
  match rangeOf? (value.members.get (text "range")), textOf? (value.members.get (text "message")),
      severityOf? (value.members.get (text "severity")),
      labelOf? (value.members.get? (text "code")), labelOf? (value.members.get? (text "source"))
    with
  | some range, some message, some severity, some code, some source =>
    some ⟨range, message, severity, code, source⟩
  | _, _, _, _, _ => none

/-- The diagnostics of a list. -/
def bucketOf? : Value → Option (List HostDiagnostic)
  | .list items => items.mapM diagnosticOf?
  | _ => none

/-- The lists by file of an object. -/
def entriesOf? : Value → Option Grouped
  | .object members =>
    members.mapM fun member => (bucketOf? member.2).map fun bucket => (member.1, bucket)
  | _ => none

/-- The diagnostics by file that a document conveys. -/
def decode? (document : Text) : Option Grouped := (Json.read document).toOption.bind entriesOf?

/-! ### Decoding what was encoded -/

theorem mapM_map_eq_some {α β : Type} {encode : α → β} {decode : β → Option α}
    (h : ∀ a, decode (encode a) = some a) (items : List α) :
    (items.map encode).mapM decode = some items := by
  induction items with
  | nil => rfl
  | cons item items ih =>
    rw [List.map_cons, List.mapM_cons, h, ih]
    rfl

theorem severityOf?_protocolLevel (severity : Severity) :
    severityOf? (.int severity.protocolLevel) = some severity := by
  cases severity <;> rfl

/-- A diagnostic is decoded from its value. -/
theorem diagnosticOf?_protocolValue (diagnostic : HostDiagnostic) :
    diagnosticOf? (protocolValue diagnostic) = some diagnostic := by
  obtain ⟨range, message, severity, code, source⟩ := diagnostic
  have hseverity := severityOf?_protocolLevel severity
  have hcode : labelOf? ((protocolValue ⟨range, message, severity, code, source⟩).members.get?
      (text "code")) = some code := by
    cases code <;> cases source <;> rfl
  have hsource : labelOf? ((protocolValue ⟨range, message, severity, code, source⟩).members.get?
      (text "source")) = some source := by
    cases code <;> cases source <;> rfl
  have hlevel : (protocolValue ⟨range, message, severity, code, source⟩).members.get
      (text "severity") = .int severity.protocolLevel := rfl
  rw [diagnosticOf?, hcode, hsource, hlevel, hseverity]
  rfl

/-- A file and the values of its diagnostics. -/
def entryMember (entry : Text × List HostDiagnostic) : Text × Value :=
  (entry.1, .list (entry.2.map protocolValue))

theorem entriesOf?_object (entries : Grouped) :
    entriesOf? (.object (entries.map entryMember)) = some entries := by
  refine mapM_map_eq_some (fun entry => ?_) entries
  rw [entryMember, bucketOf?, mapM_map_eq_some diagnosticOf?_protocolValue]
  rfl

theorem insert_entryMember (entries : Grouped) (file : Text) (bucket : List HostDiagnostic) :
    Members.insert (entries.map entryMember) file (.list (bucket.map protocolValue))
      = (Collection.place entries file bucket).map entryMember := by
  induction entries with
  | nil => rfl
  | cons entry rest ih =>
    obtain ⟨key, held⟩ := entry
    rw [List.map_cons, entryMember, Members.insert, Collection.place]
    split
    · rfl
    · rw [ih]
      rfl

/-- Objects and lists by file are merged in the same way. -/
theorem ofList_entryMember (entries : Grouped) :
    Members.ofList (entries.map entryMember) = entries.merge.map entryMember := by
  have hupdate (merged : Grouped) : Members.update (merged.map entryMember)
      (entries.map entryMember)
        = (entries.foldl (fun merged entry => Collection.place merged entry.1 entry.2) merged).map
          entryMember := by
    induction entries generalizing merged with
    | nil => rfl
    | cons entry rest ih =>
      rw [List.foldl_cons, ← ih, List.map_cons, Members.update, List.foldl_cons]
      exact congrArg (fun members => Members.update members (rest.map entryMember))
        (insert_entryMember merged entry.1 entry.2)
  exact hupdate []

theorem documentValue_eq (entries : Grouped) :
    documentValue entries = .object (entries.merge.map entryMember) := by
  rw [documentValue, ← ofList_entryMember]
  rfl

/-! ## Writing -/

theorem isShort_positionValue {position : HostPosition} :
    (positionValue position).isShort = true ↔ position.IsShort := by
  rw [positionValue, Value.isShort, Value.areShortMembers, Value.areShortMembers,
    Value.areShortMembers, Bool.and_true, Bool.and_eq_true, Value.isShort_int, Value.isShort_int]
  exact ⟨fun h => ⟨h.1, h.2⟩, fun h => ⟨h.line, h.character⟩⟩

theorem isShort_protocolLevel (severity : Severity) : IsShort (severity.protocolLevel : Int) :=
  isShort_of_le (show 2 < Decimal.digitLimit by decide) (by cases severity <;> decide)

/-- Of the numbers of a diagnostic, the level is always short. -/
theorem isShort_protocolValue {diagnostic : HostDiagnostic} :
    (protocolValue diagnostic).isShort = true ↔ diagnostic.IsShort := by
  obtain ⟨⟨start, stop⟩, message, severity, code, source⟩ := diagnostic
  have hlevel : Decimal.isShort (severity.protocolLevel : Int) = true :=
    Decimal.isShort_iff.mpr (isShort_protocolLevel severity)
  have hvalue : (protocolValue ⟨⟨start, stop⟩, message, severity, code, source⟩).isShort
      = ((positionValue start).isShort && (positionValue stop).isShort) := by
    cases code <;> cases source <;>
      simp [protocolValue, Value.isShort, Value.areShortMembers, hlevel]
  rw [hvalue, Bool.and_eq_true, isShort_positionValue, isShort_positionValue]
  exact ⟨fun h => ⟨h.1, h.2⟩, fun h => ⟨h.start, h.stop⟩⟩

theorem isShort_object_entryMember (entries : Grouped) :
    (Value.object (entries.map entryMember)).isShort = true ↔ entries.IsShort := by
  rw [Value.isShort, Value.areShortMembers_iff, List.forall_mem_map, Grouped.IsShort]
  refine forall₂_congr fun entry _ => ?_
  rw [entryMember, Value.isShort, Value.areShort_iff, List.forall_mem_map]
  exact forall₂_congr fun diagnostic _ => isShort_protocolValue

/-- **A document is written exactly if** the coordinates that it shows are short. -/
theorem writtenWhen_document {entries : Grouped} (hdistinct : (entries.map Prod.fst).Nodup) :
    WrittenWhen (document entries) entries.IsShort := by
  refine (Value.writtenWhen_written _ _).congr ?_
  rw [documentValue_eq, Grouped.merge_of_nodup hdistinct, isShort_object_entryMember]

/-! ## Reading -/

theorem isWritable_positionValue {position : HostPosition} (h : position.IsShort) (depth : Nat) :
    (positionValue position).IsWritable (depth + 1) :=
  ⟨depth, rfl, show [text "line", text "character"].Nodup by decide, h.line, h.character, trivial⟩

/-- The value of a diagnostic with short coordinates can be written. -/
theorem isWritable_protocolValue {diagnostic : HostDiagnostic} (h : diagnostic.IsShort)
    (depth : Nat) : (protocolValue diagnostic).IsWritable (depth + 3) := by
  obtain ⟨⟨start, stop⟩, message, severity, code, source⟩ := diagnostic
  have hrange : (Value.object [(text "start", positionValue start),
      (text "end", positionValue stop)]).IsWritable (depth + 2) :=
    ⟨depth + 1, rfl, show [text "start", text "end"].Nodup by decide,
      isWritable_positionValue h.start depth, isWritable_positionValue h.stop depth, trivial⟩
  have hlevel : IsShort (severity.protocolLevel : Int) := isShort_protocolLevel severity
  refine ⟨depth + 2, rfl, ?_, ?_⟩
  · cases code <;> cases source
    · exact show [text "range", text "severity", text "message"].Nodup by decide
    · exact show [text "range", text "severity", text "message", text "source"].Nodup by decide
    · exact show [text "range", text "severity", text "message", text "code"].Nodup by decide
    · exact show [text "range", text "severity", text "message", text "code",
        text "source"].Nodup by decide
  · cases code <;> cases source
    · exact ⟨hrange, hlevel, trivial, trivial⟩
    · exact ⟨hrange, hlevel, trivial, trivial, trivial⟩
    · exact ⟨hrange, hlevel, trivial, trivial, trivial⟩
    · exact ⟨hrange, hlevel, trivial, trivial, trivial, trivial⟩

theorem joined_protocolValue (diagnostic : HostDiagnostic) :
    (protocolValue diagnostic).joined = protocolValue diagnostic.joined := by
  obtain ⟨range, message, severity, code, source⟩ := diagnostic
  cases code <;> cases source <;> rfl

theorem areWritable_protocolValue {bucket : List HostDiagnostic}
    (h : ∀ diagnostic ∈ bucket, diagnostic.IsShort) (depth : Nat) :
    Value.AreWritable (bucket.map protocolValue) (depth + 3) := by
  induction bucket with
  | nil => trivial
  | cons diagnostic rest ih =>
    obtain ⟨hfirst, hrest⟩ := List.forall_mem_cons.mp h
    exact ⟨isWritable_protocolValue hfirst depth, ih hrest⟩

theorem joinedItems_protocolValue (bucket : List HostDiagnostic) :
    Value.joinedItems (bucket.map protocolValue)
      = (bucket.map HostDiagnostic.joined).map protocolValue := by
  induction bucket with
  | nil => rfl
  | cons diagnostic rest ih =>
    rw [List.map_cons, Value.joinedItems, ih, joined_protocolValue]
    rfl

/-- The list of a file is read with its diagnostics joined. -/
theorem reread_bucket {bucket : List HostDiagnostic}
    (h : ∀ diagnostic ∈ bucket, diagnostic.IsShort) (depth : Nat) :
    (Value.list (bucket.map protocolValue)).IsReadable (depth + 4) ∧
      Json.reread .finite (.list (bucket.map protocolValue))
        = .ok (.list ((bucket.map HostDiagnostic.joined).map protocolValue)) := by
  have hwritable : (Value.list (bucket.map protocolValue)).IsWritable (depth + 4) :=
    ⟨depth + 3, rfl, areWritable_protocolValue h depth⟩
  obtain ⟨hreadable, hread⟩ := Json.reread_of_isWritable _ _ hwritable
  refine ⟨hreadable, hread.trans ?_⟩
  rw [Value.joined, joinedItems_protocolValue]

/-- The members of the document are read with their files and diagnostics joined. -/
theorem rereadMembers_entryMember {entries : Grouped} (h : entries.IsShort) (depth : Nat) :
    Value.AreReadableMembers (entries.map entryMember) (depth + 4) ∧
      Json.rereadMembers .finite (entries.map entryMember)
        = .ok (entries.joined.map entryMember) := by
  induction entries with
  | nil => exact ⟨trivial, rfl⟩
  | cons entry rest ih =>
    obtain ⟨hfirst, hrest⟩ := List.forall_mem_cons.mp h
    obtain ⟨hreadable, hread⟩ := reread_bucket hfirst depth
    obtain ⟨hreadables, hreads⟩ := ih hrest
    refine ⟨⟨hreadable, hreadables⟩, ?_⟩
    rw [List.map_cons, entryMember, Json.rereadMembers, hread, hreads]
    rfl

/-- **What a document conveys**: its lists by file, with the halves in all texts joined and files
merged that become one.  Blanks may follow the document. -/
theorem decode?_document {entries : Grouped} (hdistinct : (entries.map Prod.fst).Nodup)
    {printed : Text} (h : document entries = .ok printed) {rest : Text}
    (hends : Json.EndsToken rest) (hblank : Json.skipSpace rest = []) :
    decode? (printed ++ rest) = some (Grouped.merge entries.joined) := by
  have hshort : entries.IsShort := (writtenWhen_document hdistinct).ok_iff.mp ⟨printed, h⟩
  obtain ⟨hreadables, hreads⟩ := rereadMembers_entryMember hshort (Json.depthLimit - 5)
  have hvalue : documentValue entries = .object (entries.map entryMember) := by
    rw [documentValue_eq, Grouped.merge_of_nodup hdistinct]
  have hreadable : (documentValue entries).IsReadable Json.depthLimit := by
    rw [hvalue]
    exact ⟨_, rfl, hreadables⟩
  rw [document, Json.document_eq hreadable] at h
  obtain rfl := Except.ok.inj h
  have hread : Json.read (Json.writeDocument 0 (documentValue entries) ++ rest)
      = .ok (.object ((Grouped.merge entries.joined).map entryMember)) := by
    rw [Json.read_writeDocument_append hreadable hends hblank, hvalue, Json.reread,
      hreads, ← ofList_entryMember]
    rfl
  rw [decode?, hread]
  exact entriesOf?_object _

/-- **A document conveys what it was made of exactly if** no text has halves that are joined, and
there is a document exactly if no coordinate is too long. -/
theorem document_cases {entries : Grouped} (hdistinct : (entries.map Prod.fst).Nodup) :
    (entries.IsShort → ∃ written, document entries = .ok written ∧
      (decode? written = some entries ↔ ¬entries.HasPair)) ∧
    (¬entries.IsShort → document entries = .error .integerTooLong) := by
  refine ⟨fun hshort => ?_, (writtenWhen_document hdistinct).eq_error⟩
  obtain ⟨written, hwritten⟩ := (writtenWhen_document hdistinct).ok_iff.mpr hshort
  have hdecode := decode?_document hdistinct hwritten Json.endsToken_nil rfl
  rw [List.append_nil] at hdecode
  refine ⟨written, hwritten, ?_⟩
  rw [hdecode, Option.some.injEq, Grouped.merge_joined_eq_iff hdistinct]

end Presentation

end DiagnosticRelay
