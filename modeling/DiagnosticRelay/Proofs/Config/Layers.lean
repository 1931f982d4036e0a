import DiagnosticRelay.Config.Layers
import DiagnosticRelay.Proofs.Config.Validation
import DiagnosticRelay.Proofs.Toml.Distinct

/-!
# Layers of a configuration

What is validated after each layer are all the keys so far.  Nevertheless a layer is blamed for its
own keys only, and with the complaints that it would get by itself: as long as no layer was blamed,
the keys so far are valid, and then the verdict with one more layer is that on the layer alone
(`CheckConfig.verdict_update`).  `load_law` puts this together with the reading of the layers and
with the values of the fields, each of which comes from the last layer that sets its key.

Writing one layer over another means a lookup only if no key is there twice.  The files and the
environment give no such layers (`nodup_of_mem_fragments`), and overrides are taken to have none.
-/

namespace DiagnosticRelay

namespace CheckConfig

open Validated

/-- A field is that of the last layer that sets its key, read by itself, and the default if there is
no such layer. -/
def Inherits {α : Type} (stack : List Members) (config : CheckConfig) (key : Text)
    (field : CheckConfig → α) : Prop :=
  match stack.reverse.find? fun layer => layer.has key with
  | some layer => ∃ own, ofMembers layer = .valid own ∧ field config = field own
  | none => field config = field default

/-- Each field of a configuration comes from the last layer that sets it. -/
structure IsLayered (stack : List Members) (config : CheckConfig) : Prop where
  binary : config.Inherits stack (text "binary") CheckConfig.binary
  arguments : config.Inherits stack (text "check_args") CheckConfig.arguments
  enabled : config.Inherits stack (text "enable_diagnostics") CheckConfig.enabled
  timeout : config.Inherits stack (text "timeout") CheckConfig.timeout
  markers : config.Inherits stack (text "project_markers") CheckConfig.markers
  source : config.Inherits stack (text "source") CheckConfig.source

/-! ## One layer more -/

variable {keys layer : Members} {complaints : List Complaint}

theorem isValid_nil : IsValid [] := ⟨default, rfl⟩

/-- Over valid keys a layer is valid or not by itself. -/
theorem isValid_update_iff (h : IsValid keys) (hlayer : layer.keys.Nodup) :
    IsValid (keys.update layer) ↔ IsValid layer := by
  rw [IsValid, IsValid, ← verdict_eq_valid_iff, ← verdict_eq_valid_iff, verdict_update h hlayer]

/-- Over valid keys a layer gets the complaints that it gets by itself. -/
theorem ofMembers_update_eq_invalid_iff (h : IsValid keys) (hlayer : layer.keys.Nodup) :
    ofMembers (keys.update layer) = .invalid complaints ↔
      ofMembers layer = .invalid complaints := by
  rw [← verdict_eq_invalid_iff, verdict_update h hlayer, verdict_eq_invalid_iff]

theorem exists_eq_invalid_of_not_isValid (h : ¬IsValid layer) :
    ∃ complaints, ofMembers layer = .invalid complaints := by
  cases hlayer : ofMembers layer with
  | valid config => exact absurd ⟨config, hlayer⟩ h
  | invalid complaints => exact ⟨complaints, rfl⟩

end CheckConfig

namespace ConfigLayers

open CheckConfig

variable {keys blamed : Members} {complaints : List Complaint} {name : Text}
  {before after stack : List (Text × Members)}

/-! ## All layers -/

/-- The keys of some layers written over others. -/
def merged (keys : Members) (stack : List (Text × Members)) : Members :=
  stack.foldl (fun keys layer => keys.update layer.2) keys

/-- Valid layers leave valid keys, and the layers after them are put on top of these. -/
theorem layered_append (h : IsValid keys) (hnodup : ∀ layer ∈ before, layer.2.keys.Nodup)
    (hvalid : ∀ layer ∈ before, IsValid layer.2) (after : List (Text × Members)) :
    IsValid (merged keys before) ∧
      layered keys (before ++ after) = layered (merged keys before) after := by
  induction before generalizing keys with
  | nil => exact ⟨h, rfl⟩
  | cons layer before ih =>
    obtain ⟨name, layer⟩ := layer
    obtain ⟨hlayer, hbefore⟩ := List.forall_mem_cons.mp hnodup
    obtain ⟨hfirst, hothers⟩ := List.forall_mem_cons.mp hvalid
    obtain ⟨config, hconfig⟩ := (isValid_update_iff h hlayer).mpr hfirst
    rw [List.cons_append, layered, hconfig]
    exact ih ⟨config, hconfig⟩ hbefore hothers

/-- **The first layer that is not valid by itself is blamed**, with its own complaints. -/
theorem layered_of_invalid (h : IsValid keys)
    (hnodup : ∀ layer ∈ before ++ (name, blamed) :: after, layer.2.keys.Nodup)
    (hvalid : ∀ layer ∈ before, IsValid layer.2)
    (hblamed : ofMembers blamed = .invalid complaints) :
    layered keys (before ++ (name, blamed) :: after) = .error (.invalid name complaints) := by
  obtain ⟨hbefore, hrest⟩ := List.forall_mem_append.mp hnodup
  obtain ⟨hmerged, hlayered⟩ := layered_append h hbefore hvalid ((name, blamed) :: after)
  have hinvalid := (ofMembers_update_eq_invalid_iff hmerged
    (hrest _ (List.mem_cons_self ..))).mpr hblamed
  rw [hlayered, layered, hinvalid]

/-- Where a layer is not valid, there is a first one. -/
theorem exists_first_invalid (h : ¬∀ layer ∈ stack, IsValid layer.2) :
    ∃ before name blamed after complaints, stack = before ++ (name, blamed) :: after ∧
      (∀ layer ∈ before, IsValid layer.2) ∧ ofMembers blamed = .invalid complaints := by
  induction stack with
  | nil => exact absurd (List.forall_mem_nil _) h
  | cons first stack ih =>
    by_cases hfirst : IsValid first.2
    · rw [List.forall_mem_cons, and_iff_right hfirst] at h
      obtain ⟨before, name, layer, after, complaints, rfl, hbefore, hlayer⟩ := ih h
      exact ⟨first :: before, name, layer, after, complaints, rfl,
        List.forall_mem_cons.mpr ⟨hfirst, hbefore⟩, hlayer⟩
    · obtain ⟨complaints, hlayer⟩ := exists_eq_invalid_of_not_isValid hfirst
      exact ⟨[], first.1, first.2, stack, complaints, rfl, List.forall_mem_nil _, hlayer⟩

/-! ## Fields -/

/-- What is found in the keys of all layers is what the last layer with the key has. -/
theorem get?_merged (h : ∀ layer ∈ stack, layer.2.keys.Nodup) (keys : Members) (key : Text) :
    Members.get? (merged keys stack) key
      = (((stack.map Prod.snd).reverse.find? fun layer => layer.has key).bind
          fun layer => Members.get? layer key).or (Members.get? keys key) := by
  induction stack generalizing keys with
  | nil => rfl
  | cons first stack ih =>
    obtain ⟨hfirst, hstack⟩ := List.forall_mem_cons.mp h
    rw [merged, List.foldl_cons, ← merged, ih hstack, Members.get?_update hfirst, List.map_cons,
      List.reverse_cons, List.find?_append]
    cases hfind : (stack.map Prod.snd).reverse.find? fun layer => layer.has key with
    | some layer =>
      have hhas := List.find?_some hfind
      rw [Members.has_eq_isSome] at hhas
      obtain ⟨value, hvalue⟩ := Option.isSome_iff_exists.mp hhas
      simp [hvalue]
    | none =>
      rw [List.find?_singleton, Members.has_eq_isSome]
      cases hget : Members.get? first.2 key <;> simp [hget]

variable {config : CheckConfig}

/-- A field that is read at a key comes from the last layer with the key. -/
theorem inherits_of_merged {α : Type} {key : Text} {field : CheckConfig → α}
    {validate : Value → Validated α}
    (hread : ∀ {members config}, ofMembers members = .valid config →
      Validated.optional members key (field default) validate = .valid (field config))
    (hnodup : ∀ layer ∈ stack, layer.2.keys.Nodup) (hvalid : ∀ layer ∈ stack, IsValid layer.2)
    (hmerged : ofMembers (merged [] stack) = .valid config) :
    config.Inherits (stack.map Prod.snd) key field := by
  have hconfig := hread hmerged
  rw [Validated.optional, get?_merged hnodup] at hconfig
  rw [Inherits]
  cases hfind : (stack.map Prod.snd).reverse.find? fun layer => layer.has key with
  | none =>
    rw [hfind] at hconfig
    exact (Validated.valid.inj hconfig).symm
  | some layer =>
    obtain ⟨named, hnamed, rfl⟩ :=
      List.mem_map.mp (List.mem_reverse.mp (List.mem_of_find?_eq_some hfind))
    obtain ⟨own, hown⟩ := hvalid named hnamed
    have hfield := hread hown
    have hhas := List.find?_some hfind
    rw [Members.has_eq_isSome] at hhas
    obtain ⟨value, hvalue⟩ := Option.isSome_iff_exists.mp hhas
    rw [hfind, Option.bind_some, hvalue, Option.some_or] at hconfig
    rw [Validated.optional, hvalue] at hfield
    exact ⟨own, hown, Validated.valid.inj (hconfig.symm.trans hfield)⟩

/-- **Each field comes from the last layer that sets it.** -/
theorem isLayered_of_merged (hnodup : ∀ layer ∈ stack, layer.2.keys.Nodup)
    (hvalid : ∀ layer ∈ stack, IsValid layer.2)
    (hmerged : ofMembers (merged [] stack) = .valid config) :
    config.IsLayered (stack.map Prod.snd) where
  binary := inherits_of_merged (fun h => (reads_of_ofMembers h).binary) hnodup hvalid hmerged
  arguments := inherits_of_merged (fun h => (reads_of_ofMembers h).arguments) hnodup hvalid hmerged
  enabled := inherits_of_merged (fun h => (reads_of_ofMembers h).enabled) hnodup hvalid hmerged
  timeout := inherits_of_merged (fun h => (reads_of_ofMembers h).timeout) hnodup hvalid hmerged
  markers := inherits_of_merged (fun h => (reads_of_ofMembers h).markers) hnodup hvalid hmerged
  source := inherits_of_merged (fun h => (reads_of_ofMembers h).source) hnodup hvalid hmerged

/-! ## Reading the layers -/

/-- The layers of a configuration by their names, the weakest first: the keys of each, or why it
cannot be read. -/
def fragments (files : FileSystem) (root : NamedPath) (environment : Environment)
    (overrides : Members) : List (Text × Except ConfigFailure Members) := [
  (projectDescription, projectSection files root),
  (ownFile, ownTable files root),
  (text "environment", fromEnvironment environment),
  (text "overrides", .ok (fromOverrides overrides))]

/-- The keys of all layers, or why the first of those that cannot be read cannot. -/
def gather (fragments : List (Text × Except ConfigFailure Members)) :
    Except ConfigFailure (List (Text × Members)) :=
  fragments.mapM fun fragment => fragment.2.map (Prod.mk fragment.1)

theorem gather_map_ok (stack : List (Text × Members)) :
    gather (stack.map fun layer => (layer.1, .ok layer.2)) = .ok stack := by
  induction stack with
  | nil => rfl
  | cons layer stack ih =>
    rw [gather] at ih ⊢
    rw [List.map_cons, List.mapM_cons, ih]
    rfl

theorem gather_of_error {before after : List (Text × Except ConfigFailure Members)}
    {failure : ConfigFailure} (h : ∀ fragment ∈ before, ∃ keys, fragment.2 = .ok keys) :
    gather (before ++ (name, .error failure) :: after) = .error failure := by
  induction before with
  | nil =>
    rw [List.nil_append, gather, List.mapM_cons]
    rfl
  | cons fragment before ih =>
    obtain ⟨⟨keys, hkeys⟩, hbefore⟩ := List.forall_mem_cons.mp h
    have ih := ih hbefore
    rw [gather] at ih ⊢
    rw [List.cons_append, List.mapM_cons, ih, hkeys]
    rfl

theorem layers_eq_gather (files : FileSystem) (root : NamedPath) (environment : Environment)
    (overrides : Members) :
    layers files root environment overrides
      = gather (fragments files root environment overrides) := by
  rw [layers, gather, fragments]
  cases projectSection files root with
  | error failure => rfl
  | ok described =>
    cases ownTable files root with
    | error failure => rfl
    | ok own =>
      cases fromEnvironment environment with
      | error failure => rfl
      | ok given => rfl

/-! ## No layer has a key twice -/

theorem areDistinctMembers_of_readTable {files : FileSystem} {path : NamedPath} {table : Members}
    (h : readTable files path = .ok table) : Value.AreDistinctMembers table := by
  unfold readTable at h
  split at h
  · cases h
  · cases h
    trivial
  · split at h
    · cases h
    · split at h
      · cases h
      · split at h
        · next hread =>
          cases h
          exact Toml.areDistinctMembers_of_read hread
        · cases h
        · cases h

theorem nodup_of_projectSection {files : FileSystem} {root : NamedPath}
    (h : projectSection files root = .ok keys) : keys.keys.Nodup := by
  obtain ⟨table, htable, h⟩ := bind_eq_ok.mp h
  have htool := Members.isDistinct_get (areDistinctMembers_of_readTable htable) (text "tool")
  split at h
  · next tools heq =>
    rw [heq] at htool
    split at h
    · cases h
      exact List.nodup_nil
    · next described hdescribed =>
      cases h
      exact (Value.areDistinctMembers_iff.mp (Members.isDistinct_get? htool hdescribed)).1
    · cases h
  · cases h
    exact List.nodup_nil

theorem nodup_of_fromEnvironment {environment : Environment}
    (h : fromEnvironment environment = .ok keys) : keys.keys.Nodup := by
  unfold fromEnvironment at h
  simp only at h
  split at h
  · cases h
    split
    · exact List.nodup_nil
    · exact List.nodup_singleton _
  · split at h
    · cases h
      split
      · exact List.nodup_singleton _
      · show [text "binary", text "timeout"].Nodup
        decide
    · cases h

theorem nodup_of_mem_fragments {files : FileSystem} {root : NamedPath} {environment : Environment}
    {overrides : Members} (hoverrides : overrides.keys.Nodup)
    (h : (name, .ok keys) ∈ fragments files root environment overrides) : keys.keys.Nodup := by
  simp only [fragments, List.mem_cons, Prod.mk.injEq, List.not_mem_nil, or_false] at h
  rcases h with ⟨-, h⟩ | ⟨-, h⟩ | ⟨-, h⟩ | ⟨-, h⟩
  · exact nodup_of_projectSection h.symm
  · exact (Value.areDistinctMembers_iff.mp (areDistinctMembers_of_readTable h.symm)).1
  · exact nodup_of_fromEnvironment h.symm
  · rw [Except.ok.inj h]
    exact hoverrides.sublist (List.filter_sublist.map Prod.fst)

/-! ## The configuration of a project -/

section

variable {files : FileSystem} {root : NamedPath} {environment : Environment} {overrides : Members}

theorem load_of_fragments
    (h : fragments files root environment overrides
      = stack.map fun layer => (layer.1, .ok layer.2)) :
    load files root environment overrides
      = layered [] stack >>= fun keys => match ofMembers keys with
        | .valid config => .ok config
        | .invalid complaints => .error (.invalid (text "overrides") complaints) := by
  rw [load, layers_eq_gather, h, gather_map_ok]
  rfl

theorem load_of_isValid
    (h : fragments files root environment overrides
      = stack.map fun layer => (layer.1, .ok layer.2))
    (hnodup : ∀ layer ∈ stack, layer.2.keys.Nodup) (hvalid : ∀ layer ∈ stack, IsValid layer.2) :
    ∃ config, load files root environment overrides = .ok config ∧
      config.IsLayered (stack.map Prod.snd) := by
  obtain ⟨⟨config, hconfig⟩, hlayered⟩ := layered_append isValid_nil hnodup hvalid []
  rw [List.append_nil] at hlayered
  refine ⟨config, ?_, isLayered_of_merged hnodup hvalid hconfig⟩
  rw [load_of_fragments h, hlayered, layered]
  simp [bind, Except.bind, hconfig]

/-- **The law of a layered configuration.**  If layers cannot be read, the first of them is
reported.  Otherwise there is a configuration exactly if every layer is valid by itself, and then
each field comes from the last layer that sets it.  If a layer is not valid, the first such layer is
blamed with the complaints that it gets by itself, which concern its own keys. -/
theorem load_law (files : FileSystem) (root : NamedPath) (environment : Environment)
    {overrides : Members} (hoverrides : overrides.keys.Nodup) :
    (∀ before name failure after,
      fragments files root environment overrides = before ++ (name, .error failure) :: after →
      (∀ fragment ∈ before, ∃ keys, fragment.2 = .ok keys) →
      load files root environment overrides = .error failure) ∧
    ∀ stack : List (Text × Members),
      fragments files root environment overrides
        = stack.map (fun layer => (layer.1, .ok layer.2)) →
      ((∃ config, load files root environment overrides = .ok config) ↔
        ∀ layer ∈ stack, IsValid layer.2) ∧
      (∀ config, load files root environment overrides = .ok config →
        config.IsLayered (stack.map Prod.snd)) ∧
      ∀ before name blamed after complaints, stack = before ++ (name, blamed) :: after →
        (∀ layer ∈ before, IsValid layer.2) → ofMembers blamed = .invalid complaints →
        load files root environment overrides = .error (.invalid name complaints) ∧
          ∀ complaint ∈ complaints, ∀ key ∈ complaint.place.head?, blamed.has key = true := by
  refine ⟨fun before name failure after hfragments hbefore => ?_, fun stack hstack => ?_⟩
  · rw [load, layers_eq_gather, hfragments, gather_of_error hbefore]
    rfl
  have hnodup : ∀ layer ∈ stack, layer.2.keys.Nodup := fun layer hlayer =>
    nodup_of_mem_fragments hoverrides (by rw [hstack]; exact List.mem_map_of_mem hlayer)
  have hblame : ∀ before name blamed after complaints, stack = before ++ (name, blamed) :: after →
      (∀ layer ∈ before, IsValid layer.2) → ofMembers blamed = .invalid complaints →
      load files root environment overrides = .error (.invalid name complaints) := by
    rintro before name blamed after complaints rfl hbefore hblamed
    rw [load_of_fragments hstack, layered_of_invalid isValid_nil hnodup hbefore hblamed]
    rfl
  have hvalid (config : CheckConfig)
      (hload : load files root environment overrides = .ok config) :
      ∀ layer ∈ stack, IsValid layer.2 := by
    by_contra hinvalid
    obtain ⟨before, name, blamed, after, complaints, hsplit, hbefore, hblamed⟩ :=
      exists_first_invalid hinvalid
    rw [hblame before name blamed after complaints hsplit hbefore hblamed] at hload
    cases hload
  refine ⟨⟨?_, fun hall => ?_⟩, fun config hload => ?_,
    fun before name blamed after complaints hsplit hbefore hblamed =>
      ⟨hblame before name blamed after complaints hsplit hbefore hblamed,
        has_of_mem_complaints hblamed⟩⟩
  · rintro ⟨config, hload⟩
    exact hvalid config hload
  · obtain ⟨config, hload, -⟩ := load_of_isValid hstack hnodup hall
    exact ⟨config, hload⟩
  · obtain ⟨found, hfound, hlayered⟩ := load_of_isValid hstack hnodup (hvalid config hload)
    rw [hfound] at hload
    cases hload
    exact hlayered

end

/-- An empty directory. -/
def bareDirectory : FileSystem := ⟨.directory [], .ofText (text "/")⟩

/-- An environment with a time limit below zero. -/
def pastLimit : Environment := [(text "CHECKDIAG_TIMEOUT", text "-1")]

/-- Overrides with another time limit. -/
def ownLimit : Members := [(text "timeout", .int 5)]

/-- The limit below zero is blamed on the environment, although the overrides set another one. -/
theorem load_law_environment :
    ownLimit.keys.Nodup ∧
    load bareDirectory bareDirectory.home pastLimit ownLimit
      = .error (.invalid (text "environment") [⟨[text "timeout"], .negativeTimeout⟩]) := by
  let limit : Binary64 := .finite true (2 ^ 52) (-52)
  have hlimit : Binary64.readAnyScript? (text "-1") = some limit := by decide +kernel
  have hgiven : fromEnvironment pastLimit = .ok [(text "timeout", .float limit)] := by
    have hsetting : setting pastLimit (text "CHECKDIAG_TIMEOUT") = text "-1" := by decide
    have hbinary : setting pastLimit (text "CHECKDIAG_BIN") = [] := by decide
    simp only [fromEnvironment, hsetting, hbinary, hlimit]
    rfl
  have hnodup : ownLimit.keys.Nodup := by decide
  have hstack : fragments bareDirectory bareDirectory.home pastLimit ownLimit
      = [(projectDescription, .ok []), (ownFile, .ok []),
          (text "environment", .ok [(text "timeout", .float limit)]),
          (text "overrides", .ok ownLimit)] := by
    rw [fragments, hgiven]
    rfl
  have hfiles : ∀ layer ∈ [(projectDescription, []), (ownFile, [])], IsValid layer.2 :=
    List.forall_mem_cons.mpr ⟨isValid_nil, List.forall_mem_singleton.mpr isValid_nil⟩
  have hlaw := load_law bareDirectory bareDirectory.home pastLimit hnodup
  obtain ⟨-, -, hblame⟩ := hlaw.2 [(projectDescription, []), (ownFile, []),
    (text "environment", [(text "timeout", .float limit)]), (text "overrides", ownLimit)] hstack
  exact ⟨hnodup, (hblame _ _ _ _ _ rfl hfiles rfl).1⟩

end ConfigLayers

end DiagnosticRelay
