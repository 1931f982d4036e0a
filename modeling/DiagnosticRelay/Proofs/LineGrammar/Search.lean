import DiagnosticRelay.LineGrammar.Frame
import Mathlib.Data.List.Infix

/-!
# The searches of the line grammar

Three searches find the place of a location or a frame in a line, and each of them tries the places
of a text from left to right with some reader: the end of a location's path, the beginning of a
frame, and the end of a frame's path.  They differ in what they keep, but not in what they find.

* `findSplit?` is the search itself, and `findSplit?_eq_some_iff` says what it finds: the shortest
  beginning of a text behind which the reader succeeds.
* `findPath?` is the search for the end of a path, which is not empty and holds no line feed.
* `location?_eq`, `extendFramePath?_eq` and `frame?_eq` say that the three searches are these.

A fourth search runs over the blanks behind a word, from the right:
`findSome?_afterBlanks_eq_some_iff` says that it takes as many of them as it can.
-/

namespace DiagnosticRelay

namespace LineGrammar

variable {α : Type}

/-! ## The shortest beginning -/

/-- The shortest beginning of a text behind which a reader succeeds, and what it reads there.  The
search does not go past a code point at which it has to stop. -/
def findSplit? (stop : CodePoint → Bool) (read : Text → Option α) : Text → Option (Text × α)
  | [] => none
  | c :: rest =>
    match read (c :: rest) with
    | some a => some ([], a)
    | none =>
      if stop c then none
      else (findSplit? stop read rest).map fun found => (c :: found.1, found.2)

/-- A beginning of a text that a search finds. -/
structure IsFirstSplit (stop : CodePoint → Bool) (read : Text → Option α) (t before rest : Text)
    (a : α) : Prop where
  split : t = before ++ rest
  rest_ne_nil : rest ≠ []
  passed : ∀ c ∈ before, stop c = false
  reads : read rest = some a
  first : ∀ shorter longer, t = shorter ++ longer → shorter.length < before.length →
    read longer = none

variable {stop : CodePoint → Bool} {read : Text → Option α}

/-- **A search finds the shortest beginning.** -/
theorem findSplit?_eq_some_iff {t before : Text} {a : α} :
    findSplit? stop read t = some (before, a) ↔
      ∃ rest, IsFirstSplit stop read t before rest a := by
  induction t generalizing before with
  | nil =>
    refine ⟨fun h => (by cases h), ?_⟩
    rintro ⟨rest, h⟩
    exact absurd (List.append_eq_nil_iff.mp h.split.symm).2 h.rest_ne_nil
  | cons c t ih =>
    rw [findSplit?]
    constructor
    · intro h
      split at h
      · next found hfound =>
        cases h
        exact ⟨c :: t, rfl, List.cons_ne_nil c t, List.forall_mem_nil _, hfound,
          fun shorter longer _ hlength => absurd hlength (Nat.not_lt_zero _)⟩
      · next hnone =>
        split at h
        · cases h
        · next hstop =>
          obtain ⟨⟨before, found⟩, hfound, heq⟩ := Option.map_eq_some_iff.mp h
          cases heq
          obtain ⟨rest, hsplit⟩ := ih.mp hfound
          refine ⟨rest, congrArg (c :: ·) hsplit.split, hsplit.rest_ne_nil,
            List.forall_mem_cons.mpr ⟨by simpa using hstop, hsplit.passed⟩, hsplit.reads, ?_⟩
          intro shorter longer heq hlength
          cases shorter with
          | nil => rwa [← List.nil_append longer, ← heq]
          | cons d shorter =>
            exact hsplit.first shorter longer (List.cons.inj heq).2
              (Nat.lt_of_succ_lt_succ hlength)
    · rintro ⟨rest, hsplit⟩
      cases before with
      | nil =>
        rw [show c :: t = rest from hsplit.split, hsplit.reads]
      | cons d before =>
        obtain ⟨rfl, htail⟩ := List.cons.inj hsplit.split
        have hstop := List.forall_mem_cons.mp hsplit.passed
        rw [hsplit.first [] (c :: t) rfl (Nat.zero_lt_succ _)]
        simp only [hstop.1, Bool.false_eq_true, if_false]
        rw [ih.mpr ⟨rest, htail, hsplit.rest_ne_nil, hstop.2, hsplit.reads, ?_⟩]
        · rfl
        · rintro shorter longer rfl hlength
          exact hsplit.first (c :: shorter) longer rfl (Nat.succ_lt_succ hlength)

/-- Where nothing stops it, a search finds something if there is something. -/
theorem findSplit?_ne_none {t before rest : Text} (hpassed : ∀ c ∈ before, stop c = false)
    (hrest : rest ≠ []) (h : t = before ++ rest) (hread : read rest ≠ none) :
    findSplit? stop read t ≠ none := by
  induction before generalizing t with
  | nil =>
    obtain ⟨c, tail, rfl⟩ := List.exists_cons_of_ne_nil hrest
    obtain ⟨a, ha⟩ := Option.ne_none_iff_exists'.mp hread
    rw [h, List.nil_append, findSplit?, ha]
    exact Option.some_ne_none _
  | cons c before ih =>
    obtain ⟨hc, hbefore⟩ := List.forall_mem_cons.mp hpassed
    rw [h, List.cons_append, findSplit?]
    split
    · exact Option.some_ne_none _
    · rw [hc, if_neg Bool.false_ne_true, ne_eq, Option.map_eq_none_iff]
      exact ih hbefore rfl

/-! ## Paths -/

/-- Whether a code point is the line feed, which no path holds. -/
def isLineFeed (c : CodePoint) : Bool := c == lineFeed

/-- The shortest path at the head of a text behind which a reader succeeds; a path is not empty. -/
def findPath? (read : Text → Option α) : Text → Option (Text × α)
  | [] => none
  | c :: rest =>
    if c = lineFeed then none
    else (findSplit? isLineFeed read rest).map fun found => (c :: found.1, found.2)

/-- A path that a search finds. -/
structure IsFirstPath (read : Text → Option α) (t path rest : Text) (a : α) : Prop where
  split : t = path ++ rest
  path_ne_nil : path ≠ []
  rest_ne_nil : rest ≠ []
  path_line : lineFeed ∉ path
  reads : read rest = some a
  first : ∀ shorter longer, t = shorter ++ longer → shorter ≠ [] →
    shorter.length < path.length → read longer = none

theorem forall_isLineFeed_iff {t : Text} :
    (∀ c ∈ t, isLineFeed c = false) ↔ lineFeed ∉ t := by
  simp only [isLineFeed, beq_eq_false_iff_ne, ne_eq]
  exact ⟨fun h hmem => h lineFeed hmem rfl, fun h c hc heq => h (heq ▸ hc)⟩

/-- **A search for a path finds the shortest one.** -/
theorem findPath?_eq_some_iff {t path : Text} {a : α} :
    findPath? read t = some (path, a) ↔ ∃ rest, IsFirstPath read t path rest a := by
  cases t with
  | nil =>
    refine ⟨fun h => (by cases h), ?_⟩
    rintro ⟨rest, h⟩
    exact absurd (List.append_eq_nil_iff.mp h.split.symm).1 h.path_ne_nil
  | cons c t =>
    rw [findPath?]
    constructor
    · intro h
      split at h
      · cases h
      · next hc =>
        obtain ⟨⟨before, found⟩, hfound, heq⟩ := Option.map_eq_some_iff.mp h
        cases heq
        obtain ⟨rest, hsplit⟩ := findSplit?_eq_some_iff.mp hfound
        refine ⟨rest, congrArg (c :: ·) hsplit.split, List.cons_ne_nil c before,
          hsplit.rest_ne_nil, ?_, hsplit.reads, ?_⟩
        · exact List.not_mem_cons_of_ne_of_not_mem (Ne.symm hc)
            (forall_isLineFeed_iff.mp hsplit.passed)
        · intro shorter longer heq hne hlength
          obtain ⟨d, shorter, rfl⟩ := List.exists_cons_of_ne_nil hne
          exact hsplit.first shorter longer (List.cons.inj heq).2 (Nat.lt_of_succ_lt_succ hlength)
    · rintro ⟨rest, hpath⟩
      obtain ⟨d, before, rfl⟩ := List.exists_cons_of_ne_nil hpath.path_ne_nil
      obtain ⟨rfl, htail⟩ := List.cons.inj hpath.split
      obtain ⟨hc, hbefore⟩ := List.ne_and_not_mem_of_not_mem_cons hpath.path_line
      rw [if_neg (Ne.symm hc), findSplit?_eq_some_iff.mpr
        ⟨rest, htail, hpath.rest_ne_nil, forall_isLineFeed_iff.mpr hbefore, hpath.reads, ?_⟩]
      · rfl
      · rintro shorter longer rfl hlength
        exact hpath.first (c :: shorter) longer rfl (List.cons_ne_nil c shorter)
          (Nat.succ_lt_succ hlength)

/-- A path is found if there is one. -/
theorem findPath?_ne_none {t path rest : Text} (hpath : path ≠ []) (hrest : rest ≠ [])
    (hline : lineFeed ∉ path) (h : t = path ++ rest) (hread : read rest ≠ none) :
    findPath? read t ≠ none := by
  obtain ⟨c, before, rfl⟩ := List.exists_cons_of_ne_nil hpath
  obtain ⟨hc, hbefore⟩ := List.ne_and_not_mem_of_not_mem_cons hline
  rw [h, List.cons_append, findPath?, if_neg (Ne.symm hc), ne_eq, Option.map_eq_none_iff]
  exact findSplit?_ne_none (forall_isLineFeed_iff.mpr hbefore) hrest rfl hread

/-! ## The searches of the rules -/

theorem extendPath?_eq {hasColumn : Bool} {path : Text} (hpath : path ≠ []) (t : Text) :
    extendPath? hasColumn path t
      = (findSplit? isLineFeed (afterPath? hasColumn) t).map fun found =>
          { found.2 with path := path.reverse ++ found.1 } := by
  induction t generalizing path with
  | nil => rfl
  | cons c t ih =>
    rw [extendPath?, findSplit?, if_neg (by rwa [List.isEmpty_iff])]
    cases afterPath? hasColumn (c :: t) with
    | some location => simp
    | none =>
      by_cases hc : c = lineFeed
      · simp [hc, isLineFeed]
      · simp [hc, isLineFeed, ih (List.cons_ne_nil c path), Function.comp_def]

/-- The search for a location is one for a path. -/
theorem location?_eq (hasColumn : Bool) (line : Text) :
    location? hasColumn line
      = (findPath? (afterPath? hasColumn) line).map fun found =>
          { found.2 with path := found.1 } := by
  cases line with
  | nil => rfl
  | cons c line =>
    rw [location?, extendPath?, findPath?, if_pos List.isEmpty_nil]
    by_cases hc : c = lineFeed
    · simp [hc]
    · simp [hc, extendPath?_eq (List.cons_ne_nil c []), Function.comp_def]

theorem extendFramePath?_eq_findSplit? {path : Text} (hpath : path ≠ []) (t : Text) :
    extendFramePath? path t
      = (findSplit? isLineFeed takePlace? t).map fun found =>
          (path.reverse ++ found.1, found.2) := by
  induction t generalizing path with
  | nil => rfl
  | cons c t ih =>
    rw [extendFramePath?, findSplit?, if_neg (by rwa [List.isEmpty_iff])]
    cases takePlace? (c :: t) with
    | some place => simp
    | none =>
      by_cases hc : c = lineFeed
      · simp [hc, isLineFeed]
      · simp [hc, isLineFeed, ih (List.cons_ne_nil c path), Function.comp_def]

/-- The search for the end of a frame is one for a path. -/
theorem extendFramePath?_eq (t : Text) : extendFramePath? [] t = findPath? takePlace? t := by
  cases t with
  | nil => rfl
  | cons c t =>
    rw [extendFramePath?, findPath?, if_pos List.isEmpty_nil]
    by_cases hc : c = lineFeed
    · simp [hc]
    · simp [hc, extendFramePath?_eq_findSplit? (List.cons_ne_nil c [])]

theorem findFrame?_eq (before t : Text) :
    findFrame? before t
      = (findSplit? (fun _ => false) frameAt? t).map fun found =>
          { found.2 with before := before.reverse ++ found.1 } := by
  induction t generalizing before with
  | nil => rfl
  | cons c t ih =>
    rw [findFrame?, findSplit?]
    cases frameAt? (c :: t) with
    | some frame => simp
    | none => simp [ih, Function.comp_def]

/-- The search for a frame is one for what stands before it. -/
theorem frame?_eq (line : Text) :
    frame? line
      = (findSplit? (fun _ => false) frameAt? line).map fun found =>
          { found.2 with before := found.1 } :=
  findFrame?_eq [] line

/-! ## Blanks -/

theorem afterBlanksOnto_eq (fewer : List Text) (t : Text) :
    afterBlanksOnto fewer t = afterBlanks t ++ fewer := by
  induction t generalizing fewer with
  | nil => rfl
  | cons c t ih =>
    rw [afterBlanks, afterBlanksOnto, afterBlanksOnto]
    split
    · rw [ih, ih [c :: t], List.append_assoc, List.singleton_append]
    · rfl

theorem afterBlanks_cons (c : CodePoint) (t : Text) :
    afterBlanks (c :: t) = (if c.isBlank then afterBlanks t else []) ++ [c :: t] := by
  rw [afterBlanks, afterBlanksOnto]
  split
  · exact afterBlanksOnto_eq [c :: t] t
  · rfl

/-- The last place is the one before all blanks, and without it at least one blank is taken. -/
theorem dropLast_afterBlanks_cons (c : CodePoint) (t : Text) :
    (afterBlanks (c :: t)).dropLast = if c.isBlank then afterBlanks t else [] := by
  rw [afterBlanks_cons, List.dropLast_concat]

theorem mem_afterBlanks {blanks rest : Text} (hblanks : ∀ c ∈ blanks, c.isBlank = true) :
    rest ∈ afterBlanks (blanks ++ rest) := by
  induction blanks with
  | nil =>
    cases rest with
    | nil => exact List.mem_singleton_self []
    | cons c rest =>
      rw [List.nil_append, afterBlanks_cons]
      exact List.mem_append_right _ (List.mem_singleton_self _)
  | cons c blanks ih =>
    obtain ⟨hc, hblanks⟩ := List.forall_mem_cons.mp hblanks
    rw [List.cons_append, afterBlanks_cons, if_pos hc]
    exact List.mem_append_left _ (ih hblanks)

theorem exists_blanks_of_mem_afterBlanks {t rest : Text} (h : rest ∈ afterBlanks t) :
    ∃ blanks, t = blanks ++ rest ∧ ∀ c ∈ blanks, c.isBlank = true := by
  induction t with
  | nil => exact ⟨[], (List.mem_singleton.mp h).symm, List.forall_mem_nil _⟩
  | cons c t ih =>
    rw [afterBlanks_cons, List.mem_append, List.mem_singleton] at h
    rcases h with hmem | rfl
    · split at hmem
      · next hc =>
        obtain ⟨blanks, rfl, hblanks⟩ := ih hmem
        exact ⟨c :: blanks, rfl, List.forall_mem_cons.mpr ⟨hc, hblanks⟩⟩
      · exact absurd hmem List.not_mem_nil
    · exact ⟨[], rfl, List.forall_mem_nil _⟩

/-- The blanks that a search takes. -/
structure IsLongestBlanks (read : Text → Option α) (t blanks rest : Text) (a : α) : Prop where
  split : t = blanks ++ rest
  blank : ∀ c ∈ blanks, c.isBlank = true
  reads : read rest = some a
  longest : ∀ more fewer, t = more ++ fewer → (∀ c ∈ more, c.isBlank = true) →
    blanks.length < more.length → read fewer = none

/-- **A search over blanks takes as many of them as it can.** -/
theorem findSome?_afterBlanks_eq_some_iff {t : Text} {a : α} :
    (afterBlanks t).findSome? read = some a ↔
      ∃ blanks rest, IsLongestBlanks read t blanks rest a := by
  induction t with
  | nil =>
    have hlist : afterBlanks [] = [[]] := rfl
    rw [hlist, List.findSome?_singleton]
    constructor
    · intro h
      refine ⟨[], [], rfl, List.forall_mem_nil _, h, fun more fewer heq _ hlength => ?_⟩
      rw [(List.append_eq_nil_iff.mp heq.symm).1] at hlength
      exact absurd hlength (Nat.lt_irrefl _)
    · rintro ⟨blanks, rest, h⟩
      rw [← (List.append_eq_nil_iff.mp h.split.symm).2]
      exact h.reads
  | cons c t ih =>
    rw [afterBlanks_cons, List.findSome?_append, Option.or_eq_some_iff, List.findSome?_singleton]
    constructor
    · rintro (h | ⟨hnone, h⟩)
      · -- the first blank is taken with those behind it
        split at h
        · next hc =>
          obtain ⟨blanks, rest, hblanks⟩ := ih.mp h
          refine ⟨c :: blanks, rest, congrArg (c :: ·) hblanks.split,
            List.forall_mem_cons.mpr ⟨hc, hblanks.blank⟩, hblanks.reads, ?_⟩
          intro more fewer heq hmore hlength
          obtain ⟨d, more, rfl⟩ := List.exists_cons_of_length_pos (Nat.zero_lt_of_lt hlength)
          exact hblanks.longest more fewer (List.cons.inj heq).2
            (List.forall_mem_cons.mp hmore).2 (Nat.lt_of_succ_lt_succ hlength)
        · cases h
      · refine ⟨[], c :: t, rfl, List.forall_mem_nil _, h, ?_⟩
        intro more fewer heq hmore hlength
        obtain ⟨d, more, rfl⟩ := List.exists_cons_of_length_pos hlength
        obtain ⟨hd, hblanks⟩ := List.forall_mem_cons.mp hmore
        obtain ⟨rfl, rfl⟩ := List.cons.inj heq
        rw [if_pos hd] at hnone
        exact List.findSome?_eq_none_iff.mp hnone fewer (mem_afterBlanks hblanks)
    · rintro ⟨blanks, rest, h⟩
      cases blanks with
      | nil =>
        refine Or.inr ⟨List.findSome?_eq_none_iff.mpr fun fewer hfewer => ?_, ?_⟩
        · split at hfewer
          · next hc =>
            obtain ⟨more, rfl, hmore⟩ := exists_blanks_of_mem_afterBlanks hfewer
            exact h.longest (c :: more) fewer rfl (List.forall_mem_cons.mpr ⟨hc, hmore⟩)
              (Nat.zero_lt_succ _)
          · exact absurd hfewer List.not_mem_nil
        · rw [show c :: t = rest from h.split]
          exact h.reads
      | cons d blanks =>
        obtain ⟨hd, hblanks⟩ := List.forall_mem_cons.mp h.blank
        obtain ⟨rfl, htail⟩ := List.cons.inj h.split
        rw [if_pos hd]
        refine Or.inl (ih.mpr ⟨blanks, rest, htail, hblanks, h.reads, ?_⟩)
        rintro more fewer rfl hmore hlength
        exact h.longest (c :: more) fewer rfl (List.forall_mem_cons.mpr ⟨hd, hmore⟩)
          (Nat.succ_lt_succ hlength)

/-- A search over blanks finds something if there is something behind some of them. -/
theorem findSome?_afterBlanks_ne_none {blanks rest : Text}
    (hblanks : ∀ c ∈ blanks, c.isBlank = true) (hread : read rest ≠ none) :
    (afterBlanks (blanks ++ rest)).findSome? read ≠ none := fun h =>
  hread (List.findSome?_eq_none_iff.mp h rest (mem_afterBlanks hblanks))

end LineGrammar

end DiagnosticRelay
