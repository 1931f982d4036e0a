import DiagnosticRelay.Grouping
import DiagnosticRelay.Proofs.Fault.Traversal
import Mathlib.Data.List.Induction
import Mathlib.Data.List.Nodup

/-!
# Grouping keeps everything in order

Diagnostics are put into their groups one at a time: a diagnostic goes to the end of the list of its
file, and a file that has no list yet gets one at the end.  What comes of it can be said without the
steps.  The files are those of the diagnostics in order of first appearance, and the list of a file
holds its diagnostics in the order they came in.  `Grouped.buckets` is this description, and
`Grouped.foldl_add_eq_buckets` says that the steps lead to it.  Only showing a diagnostic can fail,
so grouping is to show all of them and then to put them into their groups
(`Grouped.ofDiagnostics_eq_buckets`).

Read file by file, such groups are a stable rearrangement of what was grouped.  `arrange` is that
rearrangement for any items and any key.  It depends on nothing but which items share a key
(`arrange_congr`), commutes with maps (`arrange_map`), and loses and doubles nothing
(`arrange_perm`).
-/

namespace DiagnosticRelay

variable {α β κ : Type} [BEq κ]

theorem nodup_eraseDups [LawfulBEq κ] : ∀ keys : List κ, keys.eraseDups.Nodup
  | [] => List.nodup_nil
  | key :: keys => by
    rw [List.eraseDups_cons, List.nodup_cons]
    refine ⟨fun hmem => ?_, nodup_eraseDups (keys.filter fun other => !other == key)⟩
    have hkept := (List.mem_filter.mp (List.mem_eraseDups.mp hmem)).2
    simp at hkept
termination_by keys => keys.length
decreasing_by exact Nat.lt_succ_of_le (List.length_filter_le ..)

/-! ## A stable rearrangement -/

/-- The items key by key, the keys in order of first appearance and the items of a key in their
order. -/
def arrange (key : α → κ) (items : List α) : List α :=
  (items.map key).eraseDups.flatMap fun k => items.filter fun item => key item == k

@[simp] theorem arrange_nil (key : α → κ) : arrange key [] = [] := rfl

theorem arrange_map (key : β → κ) (f : α → β) (items : List α) :
    arrange key (items.map f) = (arrange (fun item => key (f item)) items).map f := by
  rw [arrange, arrange, List.map_flatMap, List.map_map]
  exact List.flatMap_congr fun k _ => List.filter_map

variable [LawfulBEq κ]

/-- The items that share the key of the first one come first, and then the others as they would
be arranged without those. -/
theorem arrange_cons (key : α → κ) (item : α) (items : List α) :
    arrange key (item :: items)
      = item :: items.filter (key · == key item)
        ++ arrange key (items.filter fun other => !key other == key item) := by
  have hkeys : ((items.map key).filter fun k => !k == key item)
      = (items.filter fun other => !key other == key item).map key := List.filter_map
  have hfirst : (item :: items).filter (key · == key item)
      = item :: items.filter (key · == key item) :=
    List.filter_cons_of_pos (beq_self_eq_true (key item))
  rw [arrange, List.map_cons, List.eraseDups_cons, List.flatMap_cons, hfirst, hkeys, arrange]
  congr 1
  refine List.flatMap_congr fun k hk => ?_
  have hne : k ≠ key item := by
    obtain ⟨other, hother, rfl⟩ := List.mem_map.mp (List.mem_eraseDups.mp hk)
    simpa using (List.mem_filter.mp hother).2
  rw [List.filter_cons_of_neg (by simpa using hne.symm), List.filter_filter]
  refine List.filter_congr fun other _ => ?_
  by_cases hother : key other = k
  · simp [hother, hne]
  · simp [hother]

/-- Keys matter only by which items share one. -/
theorem arrange_congr {κ' : Type} [BEq κ'] [LawfulBEq κ'] (key : α → κ) (key' : α → κ') :
    ∀ items : List α, (∀ a ∈ items, ∀ b ∈ items, key a = key b ↔ key' a = key' b) →
      arrange key items = arrange key' items
  | [], _ => rfl
  | item :: items, h => by
    have hsame : ∀ other ∈ items, (key other == key item) = (key' other == key' item) := by
      intro other hother
      rw [Bool.eq_iff_iff, beq_iff_eq, beq_iff_eq]
      exact h other (List.mem_cons_of_mem _ hother) item (List.mem_cons_self ..)
    have hothers : (items.filter fun other => !key other == key item)
        = items.filter fun other => !key' other == key' item :=
      List.filter_congr fun other hother => congrArg (!·) (hsame other hother)
    rw [arrange_cons, arrange_cons, List.filter_congr hsame, hothers,
      arrange_congr key key' (items.filter fun other => !key' other == key' item)]
    intro a ha b hb
    exact h a (List.mem_cons_of_mem _ (List.mem_filter.mp ha).1)
      b (List.mem_cons_of_mem _ (List.mem_filter.mp hb).1)
termination_by items => items.length
decreasing_by exact Nat.lt_succ_of_le (List.length_filter_le ..)

theorem arrange_perm (key : α → κ) : ∀ items : List α, (arrange key items).Perm items
  | [] => .nil
  | item :: items => by
    rw [arrange_cons, List.cons_append]
    exact ((arrange_perm key (items.filter fun other => !key other == key item)).append_left _
      |>.trans (List.filter_append_perm (key · == key item) items)).cons item
termination_by items => items.length
decreasing_by exact Nat.lt_succ_of_le (List.length_filter_le ..)

/-! ## Groups -/

namespace Grouped

/-- The groups of diagnostics that come with their files. -/
def buckets (keyed : List (Text × HostDiagnostic)) : Grouped :=
  (keyed.map Prod.fst).eraseDups.map fun file =>
    (file, (keyed.filter fun entry => entry.1 == file).map Prod.snd)

/-- What is added to a list of lists by file: to the list of a file that has one, and else behind
all of them. -/
theorem add_map {files : List Text} (h : files.Nodup) (bucket : Text → List HostDiagnostic)
    (file : Text) (diagnostic : HostDiagnostic) :
    add (files.map fun key => (key, bucket key)) file diagnostic
      = (files.map fun key => (key, if key = file then bucket key ++ [diagnostic] else bucket key))
        ++ if file ∈ files then [] else [(file, [diagnostic])] := by
  induction files with
  | nil => rfl
  | cons key files ih =>
    obtain ⟨hnot, hnodup⟩ := List.nodup_cons.mp h
    rw [List.map_cons, List.map_cons, add]
    by_cases hkey : key = file
    · subst hkey
      have hrest : (files.map fun other =>
          (other, if other = key then bucket other ++ [diagnostic] else bucket other))
            = files.map fun other => (other, bucket other) := by
        refine List.map_congr_left fun other hother => ?_
        rw [if_neg (ne_of_mem_of_not_mem hother hnot)]
      rw [if_pos rfl, if_pos rfl, if_pos (List.mem_cons_self ..), hrest, List.append_nil]
    · have hmem : file ∈ key :: files ↔ file ∈ files := by
        rw [List.mem_cons, or_iff_right (Ne.symm hkey)]
      rw [if_neg hkey, if_neg hkey, ih hnodup, List.cons_append]
      simp only [hmem]

/-- Nothing is found under a file that nothing comes with. -/
theorem filter_key_eq_nil {keyed : List (Text × HostDiagnostic)} {file : Text}
    (h : file ∉ keyed.map Prod.fst) : (keyed.filter fun entry => entry.1 == file) = [] := by
  rw [List.filter_eq_nil_iff]
  intro entry hentry heq
  exact h (List.mem_map.mpr ⟨entry, hentry, beq_iff_eq.mp heq⟩)

theorem buckets_append_singleton (keyed : List (Text × HostDiagnostic)) (file : Text)
    (diagnostic : HostDiagnostic) :
    buckets (keyed ++ [(file, diagnostic)]) = (buckets keyed).add file diagnostic := by
  have hbucket (key : Text) :
      ((keyed ++ [(file, diagnostic)]).filter fun entry => entry.1 == key).map Prod.snd
        = if key = file then (keyed.filter fun entry => entry.1 == key).map Prod.snd ++ [diagnostic]
          else (keyed.filter fun entry => entry.1 == key).map Prod.snd := by
    rw [List.filter_append, List.map_append]
    by_cases hkey : key = file
    · simp [hkey]
    · simp [hkey, Ne.symm hkey]
  rw [buckets, buckets, add_map (nodup_eraseDups _) fun key =>
    (keyed.filter fun entry => entry.1 == key).map Prod.snd, List.map_append, List.eraseDups_append,
    List.map_append]
  simp only [hbucket, List.mem_eraseDups, List.map_cons, List.map_nil]
  congr 1
  by_cases hfile : file ∈ keyed.map Prod.fst
  · rw [if_pos hfile, List.removeAll, List.filter_cons_of_neg (by simpa using hfile)]
    rfl
  · rw [if_neg hfile, List.removeAll, List.filter_cons_of_pos (by simpa using hfile),
      List.filter_nil, List.eraseDups_cons]
    simp [filter_key_eq_nil hfile]

/-- **The groups of diagnostics that come with their files**: the files in order of first
appearance, each with its diagnostics in order. -/
theorem foldl_add_eq_buckets (keyed : List (Text × HostDiagnostic)) :
    keyed.foldl (fun grouped entry => add grouped entry.1 entry.2) [] = buckets keyed := by
  induction keyed using List.reverseRecOn with
  | nil => rfl
  | append_singleton keyed entry ih =>
    rw [List.foldl_append, List.foldl_cons, List.foldl_nil, ih, buckets_append_singleton]

theorem map_fst_buckets (keyed : List (Text × HostDiagnostic)) :
    (buckets keyed).map Prod.fst = (keyed.map Prod.fst).eraseDups := by
  rw [buckets, List.map_map]
  exact List.map_id _

/-- The diagnostics that are grouped, with the files they are grouped under. -/
def keyed (source : Option Text) (diagnostics : List Diagnostic) :
    Except Fault (List (Text × HostDiagnostic)) :=
  (diagnostics.filter fun diagnostic => !diagnostic.file.isEmpty).mapM fun diagnostic =>
    (diagnostic.toHost source).map (Prod.mk (Path.canonical .posix diagnostic.file))

/-- Grouping fails where showing a diagnostic fails, and else its steps lead to the groups. -/
theorem ofDiagnostics_eq_buckets (source : Option Text) (diagnostics : List Diagnostic) :
    ofDiagnostics source diagnostics = (keyed source diagnostics).map buckets := by
  have hstep : (fun (grouped : Grouped) (diagnostic : Diagnostic) => do
        let shown ← diagnostic.toHost source
        return grouped.add (Path.canonical .posix diagnostic.file) shown)
      = fun grouped diagnostic =>
        ((diagnostic.toHost source).map (Prod.mk (Path.canonical .posix diagnostic.file))).map
          fun entry => add grouped entry.1 entry.2 := by
    funext grouped diagnostic
    cases diagnostic.toHost source <;> rfl
  rw [ofDiagnostics, hstep, foldlM_eq_mapM, keyed]
  exact congrArg (Except.map · _) (funext foldl_add_eq_buckets)

end Grouped

end DiagnosticRelay
