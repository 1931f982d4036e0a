import DiagnosticRelay.Path.Posix
import DiagnosticRelay.Proofs.Text.Pieces

/-!
# The normal form of an absolute path

`Posix.normalize` works on a stack whose top is the head of a list, after the components that do
nothing have been taken out.  What it is meant to compute is simpler to say: walk through the
pieces between the slashes, from the first to the last, and keep a list of the directories
entered so far.  This is `evaluate`, and for an absolute path `normalize_eq` says that the normal
form is the root followed by what `evaluate` gives.

Everything else comes from that equation.

* `isNormal_normalize` and `normalize_of_isNormal`: the normal forms of absolute paths are exactly
  the texts that `IsNormal` describes letter by letter, and they stay as they are.
* `normalize_eq_iff`: two absolute paths have one normal form exactly if they evaluate to the same
  components and agree on whether they begin with two slashes.
* `normalize_join_normalize`: where a path is joined to a directory and normalised, the directory
  may be normalised before.

The second direction of the latter needs that root and components can be read off a
normal form again (`rootOf_normalize`, `evaluate_normalize`).  They can because no component is
empty or holds a slash, so the slashes of a normal form are those that were put there.
-/

namespace DiagnosticRelay

namespace Path

namespace Posix

/-! ## Roots -/

/-- A path that begins with two slashes and no third one. -/
def BeginsWithTwo (path : Text) : Prop :=
  ∃ rest, path = slash :: slash :: rest ∧ rest.head? ≠ some slash

theorem exists_cons_of_isAbsolute {path : Text} (h : isAbsolute path = true) :
    ∃ rest, path = slash :: rest := by
  cases path with
  | nil => exact absurd h (by simp [isAbsolute])
  | cons c rest => exact ⟨rest, by rw [beq_iff_eq.mp h]⟩

@[simp] theorem isAbsolute_cons_slash (rest : Text) : isAbsolute (slash :: rest) = true :=
  beq_self_eq_true slash

theorem takeWhile_slash_cons (rest : Text) :
    (slash :: rest).takeWhile (· == slash) = slash :: rest.takeWhile (· == slash) :=
  List.takeWhile_cons_of_pos (beq_self_eq_true slash)

theorem takeWhile_slash_of_head? {rest : Text} (h : rest.head? ≠ some slash) :
    rest.takeWhile (· == slash) = [] := by
  cases rest with
  | nil => rfl
  | cons c rest =>
    rw [List.takeWhile_cons_of_neg]
    rw [beq_iff_eq]
    rintro rfl
    exact h rfl

theorem rootOf_cons {rest : Text} (h : rest.head? ≠ some slash) :
    rootOf (slash :: rest) = [slash] := by
  rw [rootOf, takeWhile_slash_cons, takeWhile_slash_of_head? h]

theorem rootOf_cons_cons {rest : Text} (h : rest.head? ≠ some slash) :
    rootOf (slash :: slash :: rest) = [slash, slash] := by
  rw [rootOf, takeWhile_slash_cons, takeWhile_slash_cons, takeWhile_slash_of_head? h]

/-- Three slashes and more are the same as one. -/
theorem rootOf_cons_cons_cons (rest : Text) :
    rootOf (slash :: slash :: slash :: rest) = [slash] := by
  simp only [rootOf, takeWhile_slash_cons]

/-- The root of an absolute path. -/
theorem rootOf_cases {path : Text} (h : isAbsolute path = true) :
    (rootOf path = [slash, slash] ∧ BeginsWithTwo path) ∨
      (rootOf path = [slash] ∧ ¬ BeginsWithTwo path) := by
  obtain ⟨rest, rfl⟩ := exists_cons_of_isAbsolute h
  by_cases hone : rest.head? = some slash
  · obtain ⟨rest, rfl⟩ := List.head?_eq_some_iff.mp hone
    by_cases htwo : rest.head? = some slash
    · obtain ⟨rest, rfl⟩ := List.head?_eq_some_iff.mp htwo
      refine Or.inr ⟨rootOf_cons_cons_cons rest, ?_⟩
      rintro ⟨_, hrest, hhead⟩
      exact hhead (by rw [← List.tail_eq_of_cons_eq (List.tail_eq_of_cons_eq hrest)]; rfl)
    · exact Or.inl ⟨rootOf_cons_cons htwo, rest, rfl, htwo⟩
  · refine Or.inr ⟨rootOf_cons hone, ?_⟩
    rintro ⟨_, hrest, -⟩
    exact hone (by rw [List.tail_eq_of_cons_eq hrest]; rfl)

/-! ## Walking through the components -/

/-- One step of a walk: nothing for an empty piece and `.`, back for `..`, and else forward. -/
def enter (walked : List Text) (part : Text) : List Text :=
  if part = [] ∨ part = here then walked
  else if part = above then walked.dropLast
  else walked ++ [part]

/-- Where the pieces of a path lead from the root. -/
def evaluate (path : Text) : List Text := (Text.splitOn slash path).foldl enter []

/-- A piece that names an entry of a directory. -/
structure IsComponent (part : Text) : Prop where
  nonempty : part ≠ []
  ne_here : part ≠ here
  ne_above : part ≠ above
  slash_not_mem : slash ∉ part

theorem enter_of_isComponent {part : Text} (h : IsComponent part) (walked : List Text) :
    enter walked part = walked ++ [part] := by
  rw [enter, if_neg (not_or.mpr ⟨h.nonempty, h.ne_here⟩), if_neg h.ne_above]

theorem foldl_enter_of_isComponent {parts : List Text} (h : ∀ part ∈ parts, IsComponent part)
    (walked : List Text) : parts.foldl enter walked = walked ++ parts := by
  induction parts generalizing walked with
  | nil => rw [List.foldl_nil, List.append_nil]
  | cons part rest ih =>
    rw [List.foldl_cons, enter_of_isComponent (h part (List.mem_cons_self ..)),
      ih fun other hother => h other (List.mem_cons_of_mem _ hother), List.append_assoc,
      List.singleton_append]

/-- A walk only ever names entries. -/
theorem isComponent_of_mem_enter {walked : List Text} {part : Text}
    (h : ∀ entry ∈ walked, IsComponent entry) (hpart : slash ∉ part) :
    ∀ entry ∈ enter walked part, IsComponent entry := by
  rw [enter]
  split
  · exact h
  · next hskip =>
    obtain ⟨hempty, hhere⟩ := not_or.mp hskip
    split
    · exact fun entry hentry => h entry (List.dropLast_subset walked hentry)
    · next habove =>
      intro entry hentry
      rcases List.mem_append.mp hentry with hentry | hentry
      · exact h entry hentry
      · rw [List.mem_singleton.mp hentry]
        exact ⟨hempty, hhere, habove, hpart⟩

theorem isComponent_of_mem_foldl_enter {parts walked : List Text}
    (hparts : ∀ part ∈ parts, slash ∉ part) (hwalked : ∀ entry ∈ walked, IsComponent entry) :
    ∀ entry ∈ parts.foldl enter walked, IsComponent entry := by
  induction parts generalizing walked with
  | nil => exact hwalked
  | cons part rest ih =>
    rw [List.foldl_cons]
    exact ih (fun other hother => hparts other (List.mem_cons_of_mem _ hother))
      (isComponent_of_mem_enter hwalked (hparts part (List.mem_cons_self ..)))

theorem isComponent_of_mem_evaluate {path entry : Text} (h : entry ∈ evaluate path) :
    IsComponent entry :=
  isComponent_of_mem_foldl_enter (fun _ hpart => Text.not_mem_of_mem_splitOn hpart) (by simp)
    entry h

/-- A slash at the front does not matter. -/
@[simp] theorem evaluate_cons_slash (rest : Text) : evaluate (slash :: rest) = evaluate rest := by
  rw [evaluate, Text.splitOn_cons_self, List.foldl_cons]
  rfl

theorem evaluate_join {parts : List Text} (h : ∀ part ∈ parts, IsComponent part) :
    evaluate (Text.join [slash] parts) = parts := by
  by_cases hparts : parts = []
  · subst hparts
    rfl
  · rw [evaluate, Text.splitOn_join hparts fun part hpart => (h part hpart).slash_not_mem,
      foldl_enter_of_isComponent h, List.nil_append]

theorem head?_join {parts : List Text} (h : ∀ part ∈ parts, IsComponent part) :
    (Text.join [slash] parts).head? ≠ some slash := by
  cases parts with
  | nil => simp
  | cons part rest =>
    have hpart := h part (List.mem_cons_self ..)
    obtain ⟨c, tail, rfl⟩ := List.exists_cons_of_ne_nil hpart.nonempty
    have hc : c ≠ slash := fun hc => hpart.slash_not_mem (by rw [hc]; exact List.mem_cons_self ..)
    cases rest with
    | nil => simpa using hc
    | cons next rest => simpa [Text.join] using hc

/-! ## The stack of the normal form -/

/-- A component goes on the stack where a walk goes forward or back.  A stack with a root never
holds `..`, so the case that keeps one does not arise. -/
theorem reverse_push {stack : List Text} (h : above ∉ stack) {part : Text} (hempty : part ≠ [])
    (hhere : part ≠ here) :
    above ∉ push true stack part ∧ (push true stack part).reverse = enter stack.reverse part := by
  rw [enter, if_neg (not_or.mpr ⟨hempty, hhere⟩)]
  by_cases habove : part = above
  · rw [push.eq_def, if_pos habove, if_pos habove]
    cases stack with
    | nil => exact ⟨List.not_mem_nil, rfl⟩
    | cons top below =>
      rw [List.mem_cons, not_or] at h
      simp only [if_neg (Ne.symm h.1), List.reverse_cons, List.dropLast_concat]
      exact ⟨h.2, trivial⟩
  · rw [push.eq_def, if_neg habove, if_neg habove, List.reverse_cons, List.mem_cons, not_or]
    exact ⟨⟨Ne.symm habove, h⟩, rfl⟩

theorem reverse_foldl_push {stack : List Text} (h : above ∉ stack) (parts : List Text) :
    ((parts.filter fun part => part != [] && part != here).foldl (push true) stack).reverse
      = parts.foldl enter stack.reverse := by
  induction parts generalizing stack with
  | nil => rfl
  | cons part rest ih =>
    rw [List.filter_cons, List.foldl_cons]
    split
    · next hkept =>
      rw [Bool.and_eq_true, bne_iff_ne, bne_iff_ne] at hkept
      obtain ⟨hnot, henter⟩ := reverse_push h hkept.1 hkept.2
      rw [List.foldl_cons, ih hnot, henter]
    · next hskipped =>
      rw [Bool.not_eq_true, Bool.and_eq_false_iff, bne_eq_false_iff_eq, bne_eq_false_iff_eq]
        at hskipped
      rw [ih h, enter, if_pos hskipped]

/-- **The normal form of an absolute path** is its root and where it leads. -/
theorem normalize_eq {path : Text} (h : isAbsolute path = true) :
    normalize path = rootOf path ++ Text.join [slash] (evaluate path) := by
  have hroot : ∃ tail, rootOf path = slash :: tail := by
    rcases rootOf_cases h with ⟨hroot, -⟩ | ⟨hroot, -⟩
    · exact ⟨[slash], hroot⟩
    · exact ⟨[], hroot⟩
  obtain ⟨tail, hroot⟩ := hroot
  have hstack : (collapse true (components path)).reverse = evaluate path :=
    reverse_foldl_push List.not_mem_nil _
  simp only [normalize, hroot, List.isEmpty_cons, Bool.not_false, hstack, List.cons_append]

/-! ## Normal forms -/

/-- The root of an absolute path in normal form. -/
def IsRoot (root : Text) : Prop := root = [slash] ∨ root = [slash, slash]

/-- A path in normal form: one slash or exactly two, and behind them nothing or components with one
slash between each two and none at the end. -/
def IsNormal (path : Text) : Prop :=
  ∃ root rest, path = root ++ rest ∧ IsRoot root ∧
    rest.head? ≠ some slash ∧ rest.getLast? ≠ some slash ∧
    (rest ≠ [] → ∀ part ∈ Text.splitOn slash rest, part ≠ [] ∧ part ≠ here ∧ part ≠ above)

/-- A slash at the end leaves an empty piece behind it. -/
theorem nil_mem_splitOn_of_getLast? {rest : Text} (h : rest.getLast? = some slash) :
    [] ∈ Text.splitOn slash rest := by
  obtain ⟨before, rfl⟩ := List.getLast?_eq_some_iff.mp h
  rw [Text.splitOn_append_cons, Text.splitOn_nil]
  exact List.mem_append_right _ (List.mem_singleton.mpr rfl)

/-- A normal form is put together from a root and components. -/
theorem isNormal_iff {path : Text} : IsNormal path ↔
    ∃ root parts, path = root ++ Text.join [slash] parts ∧ IsRoot root ∧
      ∀ part ∈ parts, IsComponent part := by
  constructor
  · rintro ⟨root, rest, rfl, hroot, -, -, hparts⟩
    by_cases hrest : rest = []
    · exact ⟨root, [], by rw [hrest, Text.join_nil], hroot, by simp⟩
    · refine ⟨root, Text.splitOn slash rest, by rw [Text.join_splitOn], hroot, ?_⟩
      intro part hpart
      obtain ⟨hempty, hhere, habove⟩ := hparts hrest part hpart
      exact ⟨hempty, hhere, habove, Text.not_mem_of_mem_splitOn hpart⟩
  · rintro ⟨root, parts, rfl, hroot, hparts⟩
    refine ⟨root, Text.join [slash] parts, rfl, hroot, head?_join hparts, ?_⟩
    by_cases hempty : parts = []
    · subst hempty
      exact ⟨by simp, fun hne => absurd rfl hne⟩
    · have hsplit := Text.splitOn_join hempty fun part hpart => (hparts part hpart).slash_not_mem
      constructor
      · intro hlast
        have hnil := nil_mem_splitOn_of_getLast? hlast
        rw [hsplit] at hnil
        exact (hparts [] hnil).nonempty rfl
      · intro _ part hpart
        rw [hsplit] at hpart
        have hpart := hparts part hpart
        exact ⟨hpart.nonempty, hpart.ne_here, hpart.ne_above⟩

section ReadingBack

variable {root : Text} {parts : List Text}

theorem isAbsolute_root_append (h : IsRoot root) (rest : Text) :
    isAbsolute (root ++ rest) = true := by
  rcases h with rfl | rfl
  · exact isAbsolute_cons_slash rest
  · exact isAbsolute_cons_slash (slash :: rest)

theorem rootOf_root_append_join (h : IsRoot root) (hparts : ∀ part ∈ parts, IsComponent part) :
    rootOf (root ++ Text.join [slash] parts) = root := by
  rcases h with rfl | rfl
  · exact rootOf_cons (head?_join hparts)
  · exact rootOf_cons_cons (head?_join hparts)

theorem evaluate_root_append_join (h : IsRoot root) (hparts : ∀ part ∈ parts, IsComponent part) :
    evaluate (root ++ Text.join [slash] parts) = parts := by
  rcases h with rfl | rfl
  · rw [List.singleton_append, evaluate_cons_slash, evaluate_join hparts]
  · rw [List.cons_append, List.singleton_append, evaluate_cons_slash, evaluate_cons_slash,
      evaluate_join hparts]

end ReadingBack

theorem isAbsolute_of_isNormal {path : Text} (h : IsNormal path) : isAbsolute path = true := by
  obtain ⟨root, rest, rfl, hroot, -⟩ := h
  exact isAbsolute_root_append hroot rest

/-- **A normal form stays as it is.** -/
theorem normalize_of_isNormal {path : Text} (h : IsNormal path) : normalize path = path := by
  obtain ⟨root, parts, rfl, hroot, hparts⟩ := isNormal_iff.mp h
  rw [normalize_eq (isAbsolute_root_append hroot _), rootOf_root_append_join hroot hparts,
    evaluate_root_append_join hroot hparts]

section Absolute

variable {path : Text} (h : isAbsolute path = true)

include h

theorem isRoot_rootOf : IsRoot (rootOf path) :=
  (rootOf_cases h).elim (fun htwo => Or.inr htwo.1) fun hone => Or.inl hone.1

theorem isNormal_normalize : IsNormal (normalize path) :=
  isNormal_iff.mpr ⟨rootOf path, evaluate path, normalize_eq h, isRoot_rootOf h,
    fun _ hpart => isComponent_of_mem_evaluate hpart⟩

theorem isAbsolute_normalize : isAbsolute (normalize path) = true := by
  rw [normalize_eq h]
  exact isAbsolute_root_append (isRoot_rootOf h) _

theorem rootOf_normalize : rootOf (normalize path) = rootOf path := by
  rw [normalize_eq h]
  exact rootOf_root_append_join (isRoot_rootOf h) fun _ hpart => isComponent_of_mem_evaluate hpart

theorem evaluate_normalize : evaluate (normalize path) = evaluate path := by
  rw [normalize_eq h]
  exact evaluate_root_append_join (isRoot_rootOf h) fun _ hpart => isComponent_of_mem_evaluate hpart

end Absolute

/-- Roots agree where paths agree on beginning with two slashes. -/
theorem rootOf_eq_iff {path other : Text} (h : isAbsolute path = true)
    (hother : isAbsolute other = true) :
    rootOf path = rootOf other ↔ (BeginsWithTwo path ↔ BeginsWithTwo other) := by
  rcases rootOf_cases h with ⟨hroot, htwo⟩ | ⟨hroot, htwo⟩ <;>
    rcases rootOf_cases hother with ⟨hroot', htwo'⟩ | ⟨hroot', htwo'⟩ <;>
    simp [hroot, hroot', htwo, htwo']

/-- **Two absolute paths have one normal form exactly if they lead to the same place.** -/
theorem normalize_eq_iff {path other : Text} (h : isAbsolute path = true)
    (hother : isAbsolute other = true) :
    normalize path = normalize other ↔
      evaluate path = evaluate other ∧ (BeginsWithTwo path ↔ BeginsWithTwo other) := by
  rw [← rootOf_eq_iff h hother]
  constructor
  · intro heq
    constructor
    · rw [← evaluate_normalize h, heq, evaluate_normalize hother]
    · rw [← rootOf_normalize h, heq, rootOf_normalize hother]
  · rintro ⟨hevaluate, hroot⟩
    rw [normalize_eq h, normalize_eq hother, hevaluate, hroot]

/-! ## Joined paths -/

theorem join_of_isAbsolute (directory : Text) {path : Text} (h : isAbsolute path = true) :
    join directory path = path := by
  rw [join, if_pos h]

theorem isAbsolute_join {directory : Text} (h : isAbsolute directory = true) (path : Text) :
    isAbsolute (join directory path) = true := by
  obtain ⟨rest, rfl⟩ := exists_cons_of_isAbsolute h
  rw [join]
  split
  · next hpath => exact hpath
  · split <;> exact isAbsolute_cons_slash _

section Relative

variable {directory path : Text} (h : isAbsolute directory = true)
  (hpath : ¬ isAbsolute path = true)

include hpath

theorem head?_ne_slash_of_not_isAbsolute : path.head? ≠ some slash := by
  intro hhead
  obtain ⟨rest, rfl⟩ := List.head?_eq_some_iff.mp hhead
  exact hpath (isAbsolute_cons_slash rest)

include h

/-- A relative path is joined behind a slash, which is the last one of the directory or a new
one. -/
theorem join_cases :
    (∃ front, directory = front ++ [slash] ∧ join directory path = front ++ slash :: path) ∨
      (directory.getLast? ≠ some slash ∧ join directory path = directory ++ slash :: path) := by
  obtain ⟨rest, hrest⟩ := exists_cons_of_isAbsolute h
  have hnonempty : directory.isEmpty = false := by rw [hrest]; rfl
  rw [join, if_neg hpath, hnonempty, Bool.false_or]
  by_cases hlast : directory.getLast? = some slash
  · obtain ⟨front, hfront⟩ := List.getLast?_eq_some_iff.mp hlast
    rw [if_pos (beq_iff_eq.mpr hlast)]
    exact Or.inl ⟨front, hfront, by rw [hfront, List.append_assoc]; rfl⟩
  · rw [if_neg (by rwa [beq_iff_eq])]
    exact Or.inr ⟨hlast, rfl⟩

/-- A relative path is walked from where the directory leads. -/
theorem evaluate_join_of_not_isAbsolute :
    evaluate (join directory path)
      = (Text.splitOn slash path).foldl enter (evaluate directory) := by
  rcases join_cases h hpath with ⟨front, hfront, hjoin⟩ | ⟨-, hjoin⟩
  · rw [hjoin, hfront, evaluate, evaluate, Text.splitOn_append_cons, Text.splitOn_append_cons,
      List.foldl_append, List.foldl_append]
    rfl
  · rw [hjoin, evaluate, Text.splitOn_append_cons, List.foldl_append]
    rfl

theorem takeWhile_slash_join :
    (join directory path).takeWhile (· == slash) = directory.takeWhile (· == slash) := by
  have hhead := takeWhile_slash_of_head? (head?_ne_slash_of_not_isAbsolute hpath)
  rcases join_cases h hpath with ⟨front, hfront, hjoin⟩ | ⟨hlast, hjoin⟩
  · rw [hjoin, hfront, List.takeWhile_append, List.takeWhile_append, takeWhile_slash_cons, hhead]
    rfl
  · -- some code point of the directory is no slash, since the last one is not
    have hstops : (directory.takeWhile (· == slash)).length ≠ directory.length := by
      intro hall
      have hslashes : directory.all (· == slash) = true := by
        rw [← (List.takeWhile_prefix (· == slash)).eq_of_length hall]
        exact List.all_takeWhile
      obtain ⟨rest, hrest⟩ := exists_cons_of_isAbsolute h
      have hnonempty : directory ≠ [] := by simp [hrest]
      have hslash := List.all_eq_true.mp hslashes _ (List.getLast_mem hnonempty)
      exact hlast (by rw [List.getLast?_eq_some_getLast hnonempty, beq_iff_eq.mp hslash])
    rw [hjoin, List.takeWhile_append, if_neg hstops]

end Relative

/-- **A directory may be normalised before a path is joined to it.** -/
theorem normalize_join_normalize {directory : Text} (h : isAbsolute directory = true)
    (path : Text) :
    normalize (join (normalize directory) path) = normalize (join directory path) := by
  by_cases hpath : isAbsolute path = true
  · rw [join_of_isAbsolute _ hpath, join_of_isAbsolute _ hpath]
  · have hnormal := isAbsolute_normalize h
    have hroot : rootOf (join (normalize directory) path) = rootOf (join directory path) := by
      rw [rootOf, takeWhile_slash_join hnormal hpath, ← rootOf, rootOf_normalize h, rootOf, rootOf,
        takeWhile_slash_join h hpath]
    rw [normalize_eq (isAbsolute_join hnormal path), normalize_eq (isAbsolute_join h path), hroot,
      evaluate_join_of_not_isAbsolute hnormal hpath, evaluate_join_of_not_isAbsolute h hpath,
      evaluate_normalize h]

end Posix

end Path

end DiagnosticRelay
