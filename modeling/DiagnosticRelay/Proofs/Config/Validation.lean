import DiagnosticRelay.Config.Basic
import DiagnosticRelay.Proofs.Value.Members

/-!
# What a validation of a configuration depends on

Whether members describe a configuration, and what is wrong with them if they do not, is put
together from one verdict for each key and one on the keys that are not known
(`verdict_ofMembers`).  Each verdict looks at the members through `Members.get?` or at their keys,
so it is known what becomes of it when further members are written over them.

`verdict_update` is the step of the layered configuration: if the members so far describe a
configuration, then with further members over them the verdict is that on the further members alone.
-/

namespace DiagnosticRelay

namespace Validated

variable {α β : Type}

/-- The outcome of a validation without the value. -/
def verdict (x : Validated α) : Validated Unit := x.map fun _ => ()

/-- Two verdicts together, with the complaints of both. -/
def both : Validated Unit → Validated Unit → Validated Unit
  | .valid _, y => y
  | .invalid complaints, .valid _ => .invalid complaints
  | .invalid complaints, .invalid more => .invalid (complaints ++ more)

/-- Some verdicts together, with the complaints of all of them in order. -/
def all (verdicts : List (Validated Unit)) : Validated Unit := verdicts.foldl both (.valid ())

theorem verdict_eq_valid_iff {x : Validated α} : x.verdict = .valid () ↔ ∃ a, x = .valid a := by
  cases x <;> simp [verdict, map]

theorem verdict_eq_invalid_iff {x : Validated α} {complaints : List Complaint} :
    x.verdict = .invalid complaints ↔ x = .invalid complaints := by
  cases x <;> simp [verdict, map]

@[simp] theorem verdict_map (f : α → β) (x : Validated α) : (f <$> x).verdict = x.verdict := by
  cases x <;> rfl

@[simp] theorem verdict_seq (f : Validated (α → β)) (x : Validated α) :
    (f <*> x).verdict = both f.verdict x.verdict := by
  cases f <;> cases x <;> rfl

@[simp] theorem verdict_unit (x : Validated Unit) : x.verdict = x := by
  cases x <;> rfl

@[simp] theorem verdict_optional (members : Members) (key : Text) (default : α)
    (validate : Value → Validated α) :
    (optional members key default validate).verdict
      = optional members key () fun value => (validate value).verdict := by
  rw [optional, optional]
  cases Members.get? members key with
  | none => rfl
  | some value =>
    simp only
    cases validate value <;> rfl

/-- A function and its argument give a value if both are valid. -/
theorem seq_eq_valid_iff {f : Validated (α → β)} {x : Validated α} {b : β} :
    (f <*> x) = .valid b ↔ ∃ g a, f = .valid g ∧ x = .valid a ∧ g a = b := by
  cases f <;> cases x <;> simp [Seq.seq, ap]

theorem map_eq_valid_iff {f : α → β} {x : Validated α} {b : β} :
    (f <$> x) = .valid b ↔ ∃ a, x = .valid a ∧ f a = b := by
  cases x <;> simp [Functor.map, map]

theorem both_eq_valid_iff {x y : Validated Unit} :
    both x y = .valid () ↔ x = .valid () ∧ y = .valid () := by
  cases x <;> cases y <;> simp [both]

theorem foldl_both_eq_valid_iff {x : Validated Unit} {verdicts : List (Validated Unit)} :
    verdicts.foldl both x = .valid () ↔ x = .valid () ∧ ∀ y ∈ verdicts, y = .valid () := by
  induction verdicts generalizing x with
  | nil => simp
  | cons y verdicts ih =>
    rw [List.foldl_cons, ih, both_eq_valid_iff, List.forall_mem_cons, and_assoc]

theorem all_eq_valid_iff {verdicts : List (Validated Unit)} :
    all verdicts = .valid () ↔ ∀ y ∈ verdicts, y = .valid () := by
  rw [all, foldl_both_eq_valid_iff, and_iff_right rfl]

/-- The complaints of a verdict. -/
def complaints : Validated α → List Complaint
  | .valid _ => []
  | .invalid complaints => complaints

theorem complaints_both (x y : Validated Unit) :
    (both x y).complaints = x.complaints ++ y.complaints := by
  cases x <;> cases y <;> simp [both, complaints]

theorem complaints_all (verdicts : List (Validated Unit)) :
    (all verdicts).complaints = verdicts.flatMap complaints := by
  have hfold (x : Validated Unit) : (verdicts.foldl both x).complaints
      = x.complaints ++ verdicts.flatMap complaints := by
    induction verdicts generalizing x with
    | nil => simp
    | cons y verdicts ih =>
      rw [List.foldl_cons, ih, complaints_both, List.flatMap_cons, List.append_assoc]
  exact hfold (.valid ())

end Validated

namespace CheckConfig

open Validated

variable {members later : Members} {config : CheckConfig}

/-! ## Verdicts -/

/-- What is checked of the values at the known keys, in order. -/
def checks : List (Text × (Value → Validated Unit)) := [
  (text "binary", fun value => (binaryOf value).verdict),
  (text "check_args", fun value => (textsOf value).verdict),
  (text "enable_diagnostics", fun value => (truth value).verdict),
  (text "timeout", fun value => (timeoutOf value).verdict),
  (text "project_markers", fun value => (textsOf value).verdict),
  (text "source", fun value => (nullable string value).verdict)]

/-- The verdicts on members, in order. -/
def verdicts (members : Members) : List (Validated Unit) :=
  checks.map (fun check => optional members check.1 () check.2) ++ [unknownMembers members]

/-- **The verdict on members** is put together from verdicts on single keys. -/
theorem verdict_ofMembers (members : Members) :
    (ofMembers members).verdict = match malformedKey? members with
      | some kind => misfit kind
      | none => all (verdicts members) := by
  rw [ofMembers]
  cases malformedKey? members with
  | some kind => rfl
  | none =>
    simp only [verdict_seq, verdict_map, verdict_optional, verdict_unit]
    rfl

/-- Members that describe a configuration. -/
def IsValid (members : Members) : Prop := ∃ config, ofMembers members = .valid config

theorem isValid_iff :
    IsValid members ↔ malformedKey? members = none ∧ ∀ y ∈ verdicts members, y = .valid () := by
  rw [IsValid, ← verdict_eq_valid_iff, verdict_ofMembers]
  cases malformedKey? members with
  | some kind => simp [misfit]
  | none => simp [all_eq_valid_iff]

theorem has_of_mem_optional {field : Text} {default : Unit} {check : Value → Validated Unit}
    {complaint : Complaint}
    (h : complaint ∈ (optional members field default check).complaints) :
    ∀ key ∈ complaint.place.head?, members.has key = true := by
  rw [Validated.optional] at h
  split at h
  · next value hvalue =>
    cases hcheck : check value with
    | valid => rw [hcheck] at h; cases h
    | invalid complaints =>
      rw [hcheck] at h
      obtain ⟨_, -, rfl⟩ := List.mem_map.mp h
      rintro key ⟨⟩
      rw [Members.has_eq_isSome, hvalue]
      rfl
  · cases h

theorem has_of_mem_unknownMembers {complaint : Complaint}
    (h : complaint ∈ (unknownMembers members).complaints) :
    ∀ key ∈ complaint.place.head?, members.has key = true := by
  rw [unknownMembers] at h
  split at h
  · cases h
  · obtain ⟨member, hmember, rfl⟩ := List.mem_map.mp h
    rintro key ⟨⟩
    exact Members.has_iff_mem_keys.mpr (List.mem_map_of_mem (List.mem_of_mem_filter hmember))

/-- Every complaint names a key of the members, or concerns all of them. -/
theorem has_of_mem_complaints {complaints : List Complaint}
    (h : ofMembers members = .invalid complaints) :
    ∀ complaint ∈ complaints, ∀ key ∈ complaint.place.head?, members.has key = true := by
  rw [← verdict_eq_invalid_iff, verdict_ofMembers] at h
  split at h
  · cases h
    intro complaint hcomplaint key hkey
    rw [List.mem_singleton.mp hcomplaint] at hkey
    cases hkey
  · have hall : complaints = (verdicts members).flatMap Validated.complaints := by
      rw [← complaints_all, h, Validated.complaints]
    intro complaint hcomplaint key hkey
    rw [hall] at hcomplaint
    obtain ⟨verdict, hverdict, hcomplaint⟩ := List.mem_flatMap.mp hcomplaint
    rcases List.mem_append.mp hverdict with hverdict | hverdict
    · obtain ⟨check, -, rfl⟩ := List.mem_map.mp hverdict
      exact has_of_mem_optional hcomplaint key hkey
    · rw [List.mem_singleton.mp hverdict] at hcomplaint
      exact has_of_mem_unknownMembers hcomplaint key hkey

/-! ## Members over members -/

theorem malformedKey?_eq_none_iff :
    malformedKey? members = none ↔ ∀ key ∈ members.keys, key.all CodePoint.isScalar = true := by
  simp [malformedKey?]

theorem malformedKey?_cases (members : Members) :
    malformedKey? members = none ∨ malformedKey? members = some .stringUnicode := by
  rw [malformedKey?]
  split
  · exact Or.inl rfl
  · exact Or.inr rfl

theorem malformedKey?_update (h : malformedKey? members = none) (later : Members) :
    malformedKey? (members.update later) = malformedKey? later := by
  have hiff : malformedKey? (members.update later) = none ↔ malformedKey? later = none := by
    simp only [malformedKey?_eq_none_iff, Members.mem_keys_update] at h ⊢
    exact ⟨fun hall key hkey => hall key (Or.inr hkey), fun hlater key hkey =>
      hkey.elim (h key) (hlater key)⟩
  rcases malformedKey?_cases later with hlater | hlater
  · rw [hlater, hiff, hlater]
  · rw [hlater]
    exact (malformedKey?_cases _).resolve_left fun hnone => by
      rw [hiff.mp hnone] at hlater
      cases hlater

theorem unknownMembers_update (h : unknownMembers members = .valid ())
    (hlater : later.keys.Nodup) :
    unknownMembers (members.update later) = unknownMembers later := by
  have hmembers : members.filter (fun member => !keys.contains member.1) = [] := by
    rw [unknownMembers] at h
    split at h
    · next heq => exact heq
    · cases h
  have hnodup : (Members.keys (later.filter fun member => !keys.contains member.1)).Nodup :=
    hlater.sublist (List.filter_sublist.map Prod.fst)
  rw [unknownMembers, unknownMembers, Members.filter_update fun key => !keys.contains key,
    hmembers, ← Members.ofList, Members.ofList_of_nodup hnodup]

theorem optional_update {α : Type} {key : Text} {default : α} {validate : Value → Validated α}
    (h : optional members key default validate = .valid default) (hlater : later.keys.Nodup) :
    optional (members.update later) key default validate
      = optional later key default validate := by
  rw [Validated.optional, Validated.optional, Members.get?_update hlater]
  cases hget : Members.get? later key with
  | some value => rfl
  | none => exact h

/-- **With further members written over valid ones, the verdict is that on the further members.** -/
theorem verdict_update (h : IsValid members) (hlater : later.keys.Nodup) :
    (ofMembers (members.update later)).verdict = (ofMembers later).verdict := by
  obtain ⟨hkeys, hverdicts⟩ := isValid_iff.mp h
  obtain ⟨hchecks, hunknown⟩ := List.forall_mem_append.mp hverdicts
  have hverdicts : verdicts (members.update later) = verdicts later := by
    rw [verdicts, verdicts, unknownMembers_update (hunknown _ (List.mem_singleton_self _)) hlater]
    refine congrArg (· ++ _) (List.map_congr_left fun check hcheck => ?_)
    exact optional_update (hchecks _ (List.mem_map_of_mem hcheck)) hlater
  rw [verdict_ofMembers, verdict_ofMembers, malformedKey?_update hkeys, hverdicts]

/-! ## Fields -/

/-- Each field of a configuration is read at its key, or is the default. -/
structure Reads (members : Members) (config : CheckConfig) : Prop where
  binary : optional members (text "binary") default.binary binaryOf = .valid config.binary
  arguments : optional members (text "check_args") default.arguments textsOf
    = .valid config.arguments
  enabled : optional members (text "enable_diagnostics") default.enabled truth
    = .valid config.enabled
  timeout : optional members (text "timeout") default.timeout timeoutOf = .valid config.timeout
  markers : optional members (text "project_markers") default.markers textsOf
    = .valid config.markers
  source : optional members (text "source") default.source (nullable string)
    = .valid config.source

theorem reads_of_ofMembers (h : ofMembers members = .valid config) : Reads members config := by
  rw [ofMembers] at h
  split at h
  · cases h
  · simp only [seq_eq_valid_iff, map_eq_valid_iff] at h
    obtain ⟨_, _, ⟨_, ⟨_, source, ⟨_, markers, ⟨_, timeout, ⟨_, enabled, ⟨_, arguments,
      ⟨binary, hbinary, rfl⟩, harguments, rfl⟩, henabled, rfl⟩, htimeout, rfl⟩, hmarkers, rfl⟩,
      hsource, rfl⟩, rfl⟩, -, rfl⟩ := h
    exact ⟨hbinary, harguments, henabled, htimeout, hmarkers, hsource⟩

end CheckConfig

end DiagnosticRelay
