import DiagnosticRelay.Proofs.Collection.Publication
import DiagnosticRelay.Proofs.Grouping.Buckets
import DiagnosticRelay.Proofs.Value.Written

/-!
# Grouping loses, doubles and reorders nothing

`Grouped.buckets` describes the groups of diagnostics by what is put into them.  Here they are
described from the outside, as a host meets them: a host goes through the files, or looks one of
them up with `Grouped.bucket`.

`Grouped.Holds` says that it finds every diagnostic that names a file, once, with its file, and in
order.  Two spellings of one path are one file: the files of a map are canonical paths, and each
stands where the first diagnostic with any of its spellings stood.

There is a map only if all these diagnostics can be shown, and that depends on nothing but the codes:
an integer with too many digits has no text (`Grouped.writtenWhen_ofDiagnostics`).

What a bucket holds is made of a filter of the diagnostics, and this is why grouping goes along with
concatenation, bucket by bucket, although it does not do so for the map as a whole: the files of the
second list that the first one has already are not put down again.
-/

namespace DiagnosticRelay

/-! ## Diagnostics that can be shown -/

namespace Diagnostic

/-- The code, if it is an integer, has no more digits than are written. -/
def HasShortCode (diagnostic : Diagnostic) : Prop :=
  ∀ z, diagnostic.code = some (.int z) → IsShort z

theorem hasShortCode_iff {diagnostic : Diagnostic} {code : Code}
    (h : diagnostic.code = some code) :
    diagnostic.HasShortCode ↔ code.value.isShort = true := by
  rw [HasShortCode, h]
  cases code with
  | int z =>
    rw [Code.value, Value.isShort_int]
    refine ⟨fun hshort => hshort z rfl, ?_⟩
    rintro hshort _ ⟨⟩
    exact hshort
  | str | float => exact iff_of_true nofun rfl

/-- **A diagnostic is shown unless its code is an integer with too many digits.** -/
theorem writtenWhen_toHost (diagnostic : Diagnostic) (source : Option Text) :
    WrittenWhen (diagnostic.toHost source) diagnostic.HasShortCode := by
  cases hcode : diagnostic.code with
  | none =>
    have hshort : diagnostic.HasShortCode := by
      rw [HasShortCode, hcode]
      nofun
    rw [toHost, hcode]
    exact (WrittenWhen.ok _).congr (iff_of_true trivial hshort)
  | some code =>
    have hshown : diagnostic.toHost source = code.value.display.map fun shown =>
        ⟨.ofRange? diagnostic.range, diagnostic.message, diagnostic.severity, some shown,
          source⟩ := by
      rw [toHost, hcode]
      simp only [Option.mapM_some, Code.display]
      cases code.value.display <;> rfl
    rw [hshown]
    exact ((Value.writtenWhen_display code.value).map _).congr (hasShortCode_iff hcode).symm

end Diagnostic

namespace Grouped

/-- The diagnostics of a file, none for a file that is not there. -/
def bucket (grouped : Grouped) (file : Text) : List HostDiagnostic :=
  (grouped.lookup file).getD []

theorem bucket_cons (key file : Text) (held : List HostDiagnostic) (rest : Grouped) :
    bucket ((key, held) :: rest) file = if file = key then held else bucket rest file := by
  rw [bucket, bucket, List.lookup_cons]
  by_cases hfile : file = key
  · simp [hfile]
  · simp [hfile, beq_eq_false_iff_ne.mpr hfile]

/-- A map that is given by its files and a list for each of them. -/
theorem bucket_map (files : List Text) (held : Text → List HostDiagnostic) (file : Text) :
    bucket (files.map fun key => (key, held key)) file
      = if file ∈ files then held file else [] := by
  induction files with
  | nil => rfl
  | cons key files ih =>
    rw [List.map_cons, bucket_cons, ih]
    by_cases hkey : file = key
    · simp [hkey]
    · simp [hkey]

theorem bucket_buckets (keyed : List (Text × HostDiagnostic)) (file : Text) :
    (buckets keyed).bucket file = (keyed.filter fun entry => entry.1 == file).map Prod.snd := by
  rw [buckets, bucket_map _ fun key => (keyed.filter fun entry => entry.1 == key).map Prod.snd]
  by_cases hfile : file ∈ keyed.map Prod.fst
  · rw [if_pos (List.mem_eraseDups.mpr hfile)]
  · rw [if_neg (mt List.mem_eraseDups.mp hfile), filter_key_eq_nil hfile, List.map_nil]

theorem snd_eq_bucket_of_mem {keyed : List (Text × HostDiagnostic)}
    {entry : Text × List HostDiagnostic} (h : entry ∈ buckets keyed) :
    entry.2 = (buckets keyed).bucket entry.1 := by
  rw [bucket_buckets]
  obtain ⟨file, -, rfl⟩ := List.mem_map.mp h
  rfl

/-- Read file by file, the groups are a rearrangement of what was grouped. -/
theorem total_buckets (keyed : List (Text × HostDiagnostic)) :
    (buckets keyed).total = keyed.length := by
  have hread : (buckets keyed).flatMap Prod.snd = (arrange Prod.fst keyed).map Prod.snd := by
    rw [buckets, List.flatMap_map, arrange, List.map_flatMap]
  rw [total, hread, List.length_map, (arrange_perm Prod.fst keyed).length_eq]

/-! ## The groups of diagnostics -/

/-- A map that holds the diagnostics of a list under a label: no file twice and none with an empty
list, the canonical paths of those that name a file in order of first appearance, and at each of
them its diagnostics, as they are shown, in order. -/
structure Holds (grouped : Grouped) (source : Option Text) (diagnostics : List Diagnostic) :
    Prop extends IsProper grouped where
  files : grouped.map Prod.fst =
    ((diagnostics.filter fun diagnostic => diagnostic.file ≠ []).map fun diagnostic =>
      Path.canonical .posix diagnostic.file).eraseDups
  entry_eq : ∀ entry ∈ grouped, entry.2 = grouped.bucket entry.1
  bucket_eq : ∀ file,
    (diagnostics.filter fun diagnostic =>
      diagnostic.file ≠ [] ∧ Path.canonical .posix diagnostic.file = file).mapM (·.toHost source)
        = .ok (grouped.bucket file)
  total_eq : grouped.total = diagnostics.countP fun diagnostic => diagnostic.file ≠ []

theorem filter_named (diagnostics : List Diagnostic) :
    (diagnostics.filter fun diagnostic => !diagnostic.file.isEmpty)
      = diagnostics.filter fun diagnostic => diagnostic.file ≠ [] := by
  refine List.filter_congr fun diagnostic _ => ?_
  rw [Bool.eq_iff_iff]
  simp

/-- What is grouped is one shown diagnostic for each that names a file. -/
theorem forall₂_of_keyed {source : Option Text} {diagnostics : List Diagnostic}
    {entries : List (Text × HostDiagnostic)} (h : keyed source diagnostics = .ok entries) :
    List.Forall₂ (fun diagnostic entry => Path.canonical .posix diagnostic.file = entry.1 ∧
        diagnostic.toHost source = .ok entry.2)
      (diagnostics.filter fun diagnostic => diagnostic.file ≠ []) entries := by
  rw [keyed, filter_named, mapM_eq_ok_iff] at h
  refine h.imp fun diagnostic entry hentry => ?_
  obtain ⟨shown, hshown, rfl⟩ := map_eq_ok.mp hentry
  exact ⟨rfl, hshown⟩

/-- **What grouping makes of diagnostics holds them.** -/
theorem holds_of_ofDiagnostics {source : Option Text} {diagnostics : List Diagnostic}
    {grouped : Grouped} (h : ofDiagnostics source diagnostics = .ok grouped) :
    grouped.Holds source diagnostics := by
  have hproper := Collection.isProper_ofDiagnostics h
  rw [ofDiagnostics_eq_buckets, map_eq_ok] at h
  obtain ⟨entries, hentries, rfl⟩ := h
  have hshown := forall₂_of_keyed hentries
  refine { hproper with files := ?_, entry_eq := ?_, bucket_eq := ?_, total_eq := ?_ }
  · have hfiles : (diagnostics.filter fun diagnostic => diagnostic.file ≠ []).map
        (fun diagnostic => Path.canonical .posix diagnostic.file) = entries.map Prod.fst := by
      rw [← List.forall₂_eq_eq_eq, List.forall₂_map_left_iff, List.forall₂_map_right_iff]
      exact hshown.imp fun _ _ hentry => hentry.1
    rw [map_fst_buckets, hfiles]
  · exact fun entry hentry => snd_eq_bucket_of_mem hentry
  · intro file
    have hfile : (diagnostics.filter fun diagnostic =>
          diagnostic.file ≠ [] ∧ Path.canonical .posix diagnostic.file = file)
        = (diagnostics.filter fun diagnostic => diagnostic.file ≠ []).filter
            fun diagnostic => Path.canonical .posix diagnostic.file == file := by
      rw [List.filter_filter]
      refine List.filter_congr fun diagnostic _ => ?_
      rw [Bool.eq_iff_iff]
      simp [and_comm]
    rw [hfile, bucket_buckets, mapM_eq_ok_iff, List.forall₂_map_right_iff]
    refine (List.rel_filter ?_ hshown).imp fun _ _ hentry => hentry.2
    intro diagnostic entry hentry
    simp only [hentry.1]
  · rw [total_buckets, ← hshown.length_eq, List.countP_eq_length_filter]

/-- **There is a map exactly if no code is an integer with too many digits.** -/
theorem writtenWhen_ofDiagnostics (source : Option Text) (diagnostics : List Diagnostic) :
    WrittenWhen (ofDiagnostics source diagnostics)
      (∀ diagnostic ∈ diagnostics, diagnostic.file ≠ [] → diagnostic.HasShortCode) := by
  have hkeyed : WrittenWhen (keyed source diagnostics)
      (∀ diagnostic ∈ diagnostics.filter fun diagnostic => diagnostic.file ≠ [],
        diagnostic.HasShortCode) := by
    rw [keyed, filter_named]
    exact WrittenWhen.mapM fun diagnostic _ => (diagnostic.writtenWhen_toHost source).map _
  rw [ofDiagnostics_eq_buckets]
  refine (hkeyed.map buckets).congr ?_
  simp [List.mem_filter]

/-- **Grouping loses, doubles and reorders nothing.**  It fails only on a code that is too long, and
every bucket of a concatenation is the concatenation of the buckets. -/
theorem ofDiagnostics_lossless (source : Option Text) :
    (∀ diagnostics : List Diagnostic,
      (∀ diagnostic ∈ diagnostics, diagnostic.file ≠ [] → diagnostic.HasShortCode) →
      ∃ grouped, ofDiagnostics source diagnostics = .ok grouped ∧
        grouped.Holds source diagnostics) ∧
    (∀ diagnostics : List Diagnostic,
      (∃ diagnostic ∈ diagnostics, diagnostic.file ≠ [] ∧ ¬diagnostic.HasShortCode) →
      ofDiagnostics source diagnostics = .error .integerTooLong) ∧
    ∀ (xs ys : List Diagnostic) (first second : Grouped),
      ofDiagnostics source xs = .ok first → ofDiagnostics source ys = .ok second →
      ∃ grouped, ofDiagnostics source (xs ++ ys) = .ok grouped ∧
        ∀ file, grouped.bucket file = first.bucket file ++ second.bucket file := by
  refine ⟨fun diagnostics h => ?_, fun diagnostics h => ?_,
    fun xs ys first second hfirst hsecond => ?_⟩
  · obtain ⟨grouped, hgrouped⟩ := (writtenWhen_ofDiagnostics source diagnostics).ok_iff.mpr h
    exact ⟨grouped, hgrouped, holds_of_ofDiagnostics hgrouped⟩
  · obtain ⟨diagnostic, hmem, hnamed, hlong⟩ := h
    exact (writtenWhen_ofDiagnostics source diagnostics).eq_error
      fun hall => hlong (hall diagnostic hmem hnamed)
  · have hxs := (writtenWhen_ofDiagnostics source xs).ok_iff.mp ⟨first, hfirst⟩
    have hys := (writtenWhen_ofDiagnostics source ys).ok_iff.mp ⟨second, hsecond⟩
    obtain ⟨grouped, hgrouped⟩ := (writtenWhen_ofDiagnostics source (xs ++ ys)).ok_iff.mpr
      fun diagnostic hmem => (List.mem_append.mp hmem).elim (hxs diagnostic) (hys diagnostic)
    refine ⟨grouped, hgrouped, fun file => ?_⟩
    have hbucket := (holds_of_ofDiagnostics hgrouped).bucket_eq file
    rw [List.filter_append, List.mapM_append, (holds_of_ofDiagnostics hfirst).bucket_eq,
      (holds_of_ofDiagnostics hsecond).bucket_eq] at hbucket
    exact (Except.ok.inj hbucket).symm

/-- A list on two files, the first of which comes back in another spelling.  The long code of the
diagnostic without a file does no harm. -/
def respelled : List Diagnostic := [
  { file := text "/p/b.c", code := some (.int 1) }, { file := text "/p/a.c", message := text "x" },
  { file := [], code := some (.int (10 ^ Decimal.digitLimit)) },
  { file := text "/p/./q/../b.c", message := text "y" }]

/-- A diagnostic whose code has one digit too many. -/
def overlong : Diagnostic :=
  { file := text "/a.c", code := some (.int (10 ^ Decimal.digitLimit)) }

theorem not_hasShortCode_overlong : ¬overlong.HasShortCode :=
  fun h => not_isShort_limit (h _ rfl)

/-- The list is grouped under two files, and grouped once more behind itself; with the long code
there is no map. -/
theorem ofDiagnostics_lossless_respelled :
    (∃ grouped, ofDiagnostics none respelled = .ok grouped ∧ grouped.Holds none respelled ∧
      grouped.map Prod.fst = [text "/p/b.c", text "/p/a.c"] ∧
      ∃ doubled, ofDiagnostics none (respelled ++ respelled) = .ok doubled ∧
        ∀ file, doubled.bucket file = grouped.bucket file ++ grouped.bucket file) ∧
    ofDiagnostics none (respelled ++ [overlong]) = .error .integerTooLong := by
  obtain ⟨hgroups, hfails, hconcat⟩ := ofDiagnostics_lossless none
  have hshort : ∀ diagnostic ∈ respelled, diagnostic.file ≠ [] → diagnostic.HasShortCode := by
    simp only [respelled, List.forall_mem_cons]
    refine ⟨?_, fun _ => nofun, fun h => absurd rfl h, fun _ => nofun,
      fun _ hmem => absurd hmem List.not_mem_nil⟩
    rintro - z ⟨⟩
    exact isShort_one
  have hlong : overlong ∈ respelled ++ [overlong] :=
    List.mem_append_right respelled (List.mem_singleton_self overlong)
  have hnamed : overlong.file ≠ [] := by decide
  obtain ⟨grouped, hgrouped, hholds⟩ := hgroups respelled hshort
  have hfiles : grouped.map Prod.fst = [text "/p/b.c", text "/p/a.c"] := by
    rw [hholds.files]
    decide
  exact ⟨⟨grouped, hgrouped, hholds, hfiles, hconcat _ _ _ _ hgrouped hgrouped⟩,
    hfails _ ⟨overlong, hlong, hnamed, not_hasShortCode_overlong⟩⟩

/-- Not every list is grouped: a code with one digit too many is enough. -/
theorem ofDiagnostics_overlong : ¬∃ grouped, ofDiagnostics none [overlong] = .ok grouped := by
  rw [(writtenWhen_ofDiagnostics none [overlong]).ok_iff]
  exact fun h => not_hasShortCode_overlong (h overlong (List.mem_singleton_self _) nofun)

end Grouped

end DiagnosticRelay
