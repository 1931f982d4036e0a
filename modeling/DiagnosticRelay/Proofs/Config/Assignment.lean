import DiagnosticRelay.Proofs.Config.Layers
import DiagnosticRelay.Proofs.Number.NotANumber
import DiagnosticRelay.Proofs.Text.Trim
import Mathlib.Data.List.Induction

/-!
# What holds of a configuration through all assignments

A configuration is read from members, perhaps those of several layers, and then its fields are given
new values, some of which are rejected.  `Invariant` is what is true of it all the time: it names a
program without blanks around it, and its timeout is not below zero.

That is not to say that the timeout is at least zero, since NaN is not below zero either.  The
timeout comes from one value, the last that was accepted for it (`limitInForce?`), and it is NaN
exactly if that value counts as NaN.

* `assign_eq_valid_iff` says all that an accepted assignment can do, and `timeout_after` what any
  assignment does to the timeout.
* `hasProgram_assignAll` and `isGovernedBy_assignAll` are the runs.
-/

namespace DiagnosticRelay

namespace Validated

variable {α β : Type} {x : Validated α} {a : α}

theorem under_eq_valid_iff {place : Text} : under place x = .valid a ↔ x = .valid a := by
  cases x <;> simp [under]

theorem require_eq_valid_iff {check : α → Option Misfit} :
    x.require check = .valid a ↔ x = .valid a ∧ check a = none := by
  cases x with
  | invalid complaints => simp [require]
  | valid b =>
    rw [require, Validated.valid.injEq]
    split
    · next kind hkind =>
      refine iff_of_false (by simp [misfit]) ?_
      rintro ⟨rfl, hnone⟩
      rw [hkind] at hnone
      cases hnone
    · next hnone =>
      rw [Validated.valid.injEq]
      exact ⟨fun h => ⟨h, h ▸ hnone⟩, And.left⟩

theorem nullable_eq_valid_iff {validate : Value → Validated α} {value : Value} {held : Option α} :
    nullable validate value = .valid held ↔
      value = .null ∧ held = none ∨ value ≠ .null ∧ ∃ a, validate value = .valid a ∧ held = some a := by
  cases value with
  | null => simp [nullable, eq_comm]
  | bool | int | float | str | list | object | date =>
    simp only [nullable, reduceCtorEq, false_and, false_or, ne_eq, not_false_eq_true, true_and]
    exact map_eq_valid_iff.trans (exists_congr fun a => and_congr_right fun _ => eq_comm)

theorem toOption_eq_some_iff : x.toOption = some a ↔ x = .valid a := by
  cases x <;> simp [toOption]

end Validated

namespace CheckConfig

open Validated

variable {config next : CheckConfig} {members : Members} {field : Text} {value : Value}
  {assignments : List (Text × Value)}

/-! ## Single values -/

theorem isTrimmed_of_binaryOf {name : Text} (h : binaryOf value = .valid name) :
    name ≠ [] ∧ name.IsTrimmed := by
  obtain ⟨hname, hfull⟩ := require_eq_valid_iff.mp h
  obtain ⟨given, -, rfl⟩ := map_eq_valid_iff.mp hname
  refine ⟨fun hempty => ?_, Text.isTrimmed_trim given⟩
  rw [hempty] at hfull
  cases hfull

variable {limit : Option Binary64}

theorem isAtLeastZero_of_timeoutOf (h : timeoutOf value = .valid limit) :
    ∀ t ∈ limit, t = .nan ∨ t.IsAtLeastZero := by
  obtain ⟨-, hbelow⟩ := require_eq_valid_iff.mp h
  intro t ht
  rw [← Binary64.isBelowZero_eq_false_iff]
  rw [Option.mem_def.mp ht, Option.any_some] at hbelow
  split at hbelow
  · cases hbelow
  · next hnot => exact Bool.eq_false_iff.mpr hnot

/-- A timeout is NaN if the value that it was read from counts as NaN. -/
theorem eq_nan_iff_of_timeoutOf (h : timeoutOf value = .valid limit) :
    limit = some .nan ↔ value.IsNan := by
  obtain ⟨hlimit, -⟩ := require_eq_valid_iff.mp h
  rcases nullable_eq_valid_iff.mp hlimit with ⟨rfl, rfl⟩ | ⟨-, x, hx, rfl⟩
  · exact iff_of_false (by simp) id
  · rw [isNan_iff_of_number hx, Option.some_inj]

/-- A timeout is at least zero if the value that it was read from does not count as NaN. -/
theorem isAtLeastZero_iff_of_timeoutOf (h : timeoutOf value = .valid limit) :
    (∀ t ∈ limit, t.IsAtLeastZero) ↔ ¬value.IsNan := by
  rw [← eq_nan_iff_of_timeoutOf h]
  constructor
  · rintro hall rfl
    exact hall .nan rfl
  · intro hne t ht
    exact (isAtLeastZero_of_timeoutOf h t ht).resolve_left fun hnan => hne (hnan ▸ ht)

/-! ## One assignment -/

/-- What an accepted assignment can do: it gives the field that it names the value that was read, or
nothing happens because the name is private. -/
inductive Assigns (config : CheckConfig) (value : Value) : Text → CheckConfig → Prop
  | unchanged {field : Text} (h : isPrivate field = true) : Assigns config value field config
  | binary {x : Text} (h : binaryOf value = .valid x) :
    Assigns config value (text "binary") { config with binary := x }
  | arguments {x : List Text} (h : textsOf value = .valid x) :
    Assigns config value (text "check_args") { config with arguments := x }
  | enabled {x : Bool} (h : truth value = .valid x) :
    Assigns config value (text "enable_diagnostics") { config with enabled := x }
  | timeout {x : Option Binary64} (h : timeoutOf value = .valid x) :
    Assigns config value (text "timeout") { config with timeout := x }
  | markers {x : List Text} (h : textsOf value = .valid x) :
    Assigns config value (text "project_markers") { config with markers := x }
  | source {x : Option Text} (h : nullable string value = .valid x) :
    Assigns config value (text "source") { config with source := x }

/-- **What an accepted assignment does.** -/
theorem assign_eq_valid_iff :
    config.assign field value = .valid next ↔ Assigns config value field next := by
  constructor
  · intro h
    rw [assign, assigned] at h
    split at h
    · next hprivate =>
      cases h
      exact .unchanged hprivate
    · rw [under_eq_valid_iff] at h
      split_ifs at h with hbinary harguments henabled htimeout hmarkers hsource
      · obtain ⟨x, hx, rfl⟩ := map_eq_valid_iff.mp h
        exact hbinary ▸ .binary hx
      · obtain ⟨x, hx, rfl⟩ := map_eq_valid_iff.mp h
        exact harguments ▸ .arguments hx
      · obtain ⟨x, hx, rfl⟩ := map_eq_valid_iff.mp h
        exact henabled ▸ .enabled hx
      · obtain ⟨x, hx, rfl⟩ := map_eq_valid_iff.mp h
        exact htimeout ▸ .timeout hx
      · obtain ⟨x, hx, rfl⟩ := map_eq_valid_iff.mp h
        exact hmarkers ▸ .markers hx
      · obtain ⟨x, hx, rfl⟩ := map_eq_valid_iff.mp h
        exact hsource ▸ .source hx
      · cases h
  · intro h
    cases h with
    | unchanged h => exact if_pos h
    | binary h | arguments h | enabled h | timeout h | markers h | source h =>
      exact under_eq_valid_iff.mpr (map_eq_valid_iff.mpr ⟨_, h, rfl⟩)

/-- Gives a field a new value; a value that is rejected leaves the configuration as it was. -/
def after (config : CheckConfig) (field : Text) (value : Value) : CheckConfig :=
  (config.assign field value).toOption.getD config

theorem after_of_valid (h : config.assign field value = .valid next) :
    config.after field value = next := by
  rw [after, h]
  rfl

theorem after_of_invalid {complaints : List Complaint}
    (h : config.assign field value = .invalid complaints) : config.after field value = config := by
  rw [after, h]
  rfl

/-- The timeout after an assignment: the value that was read, if one was assigned and accepted. -/
theorem timeout_after (config : CheckConfig) (field : Text) (value : Value) :
    (config.after field value).timeout
      = if field = text "timeout" then (timeoutOf value).toOption.getD config.timeout
        else config.timeout := by
  cases h : config.assign field value with
  | valid next =>
    rw [after_of_valid h]
    cases assign_eq_valid_iff.mp h with
    | unchanged hprivate =>
      have hfield : field ≠ text "timeout" := by
        rintro rfl
        exact absurd hprivate (by decide)
      rw [if_neg hfield]
    | timeout hx =>
      rw [if_pos rfl, hx]
      rfl
    | binary | arguments | enabled | markers | source => exact (if_neg (by decide)).symm
  | invalid complaints =>
    rw [after_of_invalid h]
    split
    · next hfield =>
      cases hlimit : timeoutOf value with
      | invalid => rfl
      | valid limit =>
        have hvalid := assign_eq_valid_iff.mpr (.timeout hlimit : Assigns config value _ _)
        rw [← hfield, h] at hvalid
        cases hvalid
    · rfl

/-- A program is named, without blanks around its name. -/
structure HasProgram (config : CheckConfig) : Prop where
  ne_nil : config.binary ≠ []
  trimmed : config.binary.IsTrimmed

theorem hasProgram_after (h : config.HasProgram) (field : Text) (value : Value) :
    (config.after field value).HasProgram := by
  cases hassign : config.assign field value with
  | invalid complaints => rwa [after_of_invalid hassign]
  | valid next =>
    rw [after_of_valid hassign]
    cases assign_eq_valid_iff.mp hassign with
    | binary hx =>
      obtain ⟨hne, htrimmed⟩ := isTrimmed_of_binaryOf hx
      exact ⟨hne, htrimmed⟩
    | unchanged => exact h
    | arguments | enabled | timeout | markers | source => exact ⟨h.ne_nil, h.trimmed⟩

/-! ## All assignments -/

/-- Gives fields new values one after another. -/
def assignAll (config : CheckConfig) (assignments : List (Text × Value)) : CheckConfig :=
  assignments.foldl (fun config assignment => config.after assignment.1 assignment.2) config

theorem assignAll_append_singleton (config : CheckConfig) (assignments : List (Text × Value))
    (field : Text) (value : Value) :
    config.assignAll (assignments ++ [(field, value)])
      = (config.assignAll assignments).after field value :=
  List.foldl_concat ..

/-- A configuration that was read names a program. -/
theorem hasProgram_of_ofMembers (h : ofMembers members = .valid config) : config.HasProgram := by
  have hread := (reads_of_ofMembers h).binary
  rw [Validated.optional] at hread
  split at hread
  · obtain ⟨hne, htrimmed⟩ := isTrimmed_of_binaryOf (under_eq_valid_iff.mp hread)
    exact ⟨hne, htrimmed⟩
  · have hdefault : config.binary = text "vitc" := (Validated.valid.inj hread).symm
    refine ⟨?_, ?_, ?_⟩
    · rw [hdefault]
      decide
    · rw [hdefault]
      decide
    · rw [hdefault]
      decide

/-- **A program is named through all assignments.** -/
theorem hasProgram_assignAll (h : config.HasProgram) (assignments : List (Text × Value)) :
    (config.assignAll assignments).HasProgram := by
  induction assignments generalizing config with
  | nil => exact h
  | cons assignment rest ih => exact ih (hasProgram_after h assignment.1 assignment.2)

/-- The values that the timeout was to have, in order: the member, and then what was assigned. -/
def limits (members : Members) (assignments : List (Text × Value)) : List Value :=
  (Members.get? members (text "timeout")).toList ++
    assignments.filterMap fun assignment =>
      if assignment.1 = text "timeout" then some assignment.2 else none

/-- The last value that was accepted for the timeout. -/
def limitInForce? (members : Members) (assignments : List (Text × Value)) : Option Value :=
  (limits members assignments).reverse.find? fun value => (timeoutOf value).toOption.isSome

theorem limitInForce?_append_singleton (members : Members) (assignments : List (Text × Value))
    (field : Text) (value : Value) :
    limitInForce? members (assignments ++ [(field, value)])
      = if field = text "timeout" ∧ (timeoutOf value).toOption.isSome = true then some value
        else limitInForce? members assignments := by
  rw [limitInForce?, limits, List.filterMap_append, ← List.append_assoc, ← limits,
    List.reverse_append, limitInForce?]
  by_cases hfield : field = text "timeout"
  · by_cases haccepted : (timeoutOf value).toOption.isSome = true
    · simp [hfield, haccepted]
    · simp [hfield, haccepted]
  · simp [hfield]

/-- The timeout is the one that a value is read as, or the default if there is no value. -/
def IsGovernedBy (config : CheckConfig) : Option Value → Prop
  | some value => timeoutOf value = .valid config.timeout
  | none => config.timeout = default.timeout

theorem IsGovernedBy.of_timeout_eq {given : Option Value} (h : config.IsGovernedBy given)
    (htimeout : next.timeout = config.timeout) : next.IsGovernedBy given := by
  cases given with
  | none => exact htimeout.trans h
  | some value => exact h.trans (congrArg Validated.valid htimeout.symm)

theorem isGovernedBy_of_ofMembers (h : ofMembers members = .valid config) :
    config.IsGovernedBy (limitInForce? members []) := by
  have hread := (reads_of_ofMembers h).timeout
  rw [Validated.optional] at hread
  rw [limitInForce?, limits]
  split at hread
  · next value hvalue =>
    have htimeout := under_eq_valid_iff.mp hread
    rw [hvalue]
    simpa [IsGovernedBy, toOption_eq_some_iff.mpr htimeout] using htimeout
  · next hnone =>
    rw [hnone]
    exact (Validated.valid.inj hread).symm

/-- **The timeout is that of the value in force**, whatever was assigned. -/
theorem isGovernedBy_assignAll (h : ofMembers members = .valid config)
    (assignments : List (Text × Value)) :
    (config.assignAll assignments).IsGovernedBy (limitInForce? members assignments) := by
  induction assignments using List.reverseRecOn with
  | nil => exact isGovernedBy_of_ofMembers h
  | append_singleton assignments assignment ih =>
    obtain ⟨field, value⟩ := assignment
    rw [assignAll_append_singleton, limitInForce?_append_singleton]
    have hafter := timeout_after (config.assignAll assignments) field value
    by_cases hfield : field = text "timeout"
    · rw [if_pos hfield] at hafter
      cases hlimit : timeoutOf value with
      | valid limit =>
        rw [hlimit] at hafter
        rw [if_pos ⟨hfield, rfl⟩, IsGovernedBy, hafter, hlimit]
        rfl
      | invalid complaints =>
        rw [hlimit] at hafter
        rw [if_neg (fun h => Bool.noConfusion h.2)]
        exact ih.of_timeout_eq hafter
    · rw [if_neg hfield] at hafter
      rw [if_neg (fun h => hfield h.1)]
      exact ih.of_timeout_eq hafter

/-- What is true of a configuration that was read from members and then given new values. -/
structure Invariant (members : Members) (assignments : List (Text × Value)) (config : CheckConfig) :
    Prop where
  program : config.HasProgram
  /-- The timeout is at least zero, or it is NaN. -/
  timeout : ∀ t ∈ config.timeout, t = .nan ∨ t.IsAtLeastZero
  /-- It is at least zero exactly if the value in force does not count as NaN. -/
  isAtLeastZero_iff : (∀ t ∈ config.timeout, t.IsAtLeastZero) ↔
    ∀ value ∈ limitInForce? members assignments, ¬value.IsNan

theorem isAtLeastZero_defaultTimeout : defaultTimeout.IsAtLeastZero := by
  have hbelow : defaultTimeout.isBelowZero = false := by decide
  exact (Binary64.isBelowZero_eq_false_iff.mp hbelow).resolve_left (Binary64.ofInt_ne_nan 30)

theorem invariant_of_ofMembers (h : ofMembers members = .valid config)
    (assignments : List (Text × Value)) :
    Invariant members assignments (config.assignAll assignments) := by
  have hgoverned := isGovernedBy_assignAll h assignments
  have hprogram := hasProgram_assignAll (hasProgram_of_ofMembers h) assignments
  cases hforce : limitInForce? members assignments with
  | none =>
    rw [hforce] at hgoverned
    have htimeout : ∀ t ∈ (config.assignAll assignments).timeout, t.IsAtLeastZero := by
      intro t ht
      rw [show (config.assignAll assignments).timeout = some defaultTimeout from hgoverned] at ht
      exact Option.some.inj ht ▸ isAtLeastZero_defaultTimeout
    refine ⟨hprogram, fun t ht => Or.inr (htimeout t ht), iff_of_true htimeout ?_⟩
    rw [hforce]
    simp
  | some value =>
    rw [hforce] at hgoverned
    refine ⟨hprogram, isAtLeastZero_of_timeoutOf hgoverned, ?_⟩
    rw [hforce, isAtLeastZero_iff_of_timeoutOf hgoverned]
    simp

end CheckConfig

namespace ConfigLayers

open CheckConfig

/-- Layers that are valid one after another are merged. -/
theorem eq_merged_of_layered {keys result : Members} {stack : List (Text × Members)}
    (h : layered keys stack = .ok result) : result = merged keys stack := by
  induction stack generalizing keys with
  | nil => exact (Except.ok.inj h).symm
  | cons layer stack ih =>
    rw [layered] at h
    split at h
    · exact ih h
    · cases h

/-- The configuration of a project is read from the keys of all its layers. -/
theorem exists_layers_of_load {files : FileSystem} {root : NamedPath} {environment : Environment}
    {overrides : Members} {config : CheckConfig}
    (h : load files root environment overrides = .ok config) :
    ∃ stack, layers files root environment overrides = .ok stack ∧
      ofMembers (merged [] stack) = .valid config := by
  obtain ⟨stack, hstack, hmerged⟩ := bind_eq_ok.mp h
  obtain ⟨keys, hlayered, hconfig⟩ := bind_eq_ok.mp hmerged
  refine ⟨stack, hstack, ?_⟩
  rw [← eq_merged_of_layered hlayered]
  split at hconfig
  · next found hfound => rw [hfound, Except.ok.inj hconfig]
  · cases hconfig

end ConfigLayers

namespace CheckConfig

/-- **What holds of every configuration.**  However it was read, from members or from the layers of a
project, and whatever its fields are then given, with or without success, it names a program without
blanks around the name, and its timeout is at least zero if there is one, unless it is NaN; and
it is not NaN exactly if the last value that was accepted for it does not count as NaN. -/
theorem invariant_assignAll (config : CheckConfig) (assignments : List (Text × Value)) :
    (∀ members : Members, ofMembers members = .valid config →
      Invariant members assignments (config.assignAll assignments)) ∧
    ∀ (files : FileSystem) (root : NamedPath) (environment : ConfigLayers.Environment)
      (overrides : Members),
      ConfigLayers.load files root environment overrides = .ok config →
      ∃ stack, ConfigLayers.layers files root environment overrides = .ok stack ∧
        Invariant (ConfigLayers.merged [] stack) assignments (config.assignAll assignments) := by
  refine ⟨fun members h => invariant_of_ofMembers h assignments, ?_⟩
  intro files root environment overrides h
  obtain ⟨stack, hstack, hconfig⟩ := ConfigLayers.exists_layers_of_load h
  exact ⟨stack, hstack, invariant_of_ofMembers hconfig assignments⟩

/-- An environment with NaN as the timeout. -/
def undefinedLimit : ConfigLayers.Environment := [(text "CHECKDIAG_TIMEOUT", text "nan")]

/-- NaN is accepted as a timeout, from a member as from the environment, and it stays when a value
below zero is rejected. -/
theorem invariant_assignAll_nan :
    let config : CheckConfig := { default with timeout := some .nan }
    let assignments := [(text "timeout", .float (.infinite true)), (text "binary", .str (text " "))]
    ofMembers [(text "timeout", .float .nan)] = .valid config ∧
      ConfigLayers.load ConfigLayers.bareDirectory ConfigLayers.bareDirectory.home undefinedLimit []
        = .ok config ∧
      (config.assignAll assignments).HasProgram ∧
      ¬∀ t ∈ (config.assignAll assignments).timeout, t.IsAtLeastZero := by
  intro config assignments
  have hread : ofMembers [(text "timeout", .float .nan)] = .valid config := rfl
  have hload : ConfigLayers.load ConfigLayers.bareDirectory ConfigLayers.bareDirectory.home
      undefinedLimit [] = .ok config := rfl
  have hforce : limitInForce? [(text "timeout", .float .nan)] assignments
      = some (.float .nan) := rfl
  have hmembers := (invariant_assignAll config assignments).1 _ hread
  obtain ⟨stack, -, hlayers⟩ := (invariant_assignAll config assignments).2 _ _ _ _ hload
  refine ⟨hread, hload, hlayers.program, fun hall => ?_⟩
  exact hmembers.isAtLeastZero_iff.mp hall (.float .nan) hforce rfl

end CheckConfig

end DiagnosticRelay
