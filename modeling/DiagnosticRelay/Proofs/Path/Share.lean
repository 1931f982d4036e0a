import DiagnosticRelay.Proofs.Path.DriveLetter

/-!
# The drive of a share

A path that begins with two separators has a share for its drive: it ends at the second backslash
after the server, or at the end of the path if there are not so many backslashes
(`shareLength`).  The search starts behind the two separators, or behind the marker of a literal
path, which is recognised by the first eight code points.

The question that a normal form raises is what the drive becomes when something else is put
behind it.  `shareLength_cases` answers it: if the drive ends before the end of the path, it is
found again before every other continuation.  The search for backslashes sees nothing behind what
it finds (`findBackslash?_congr`).  The marker is the point that needs an argument, since the first
eight code points may reach beyond the drive; but two backslashes that cut the text off before the
eighth place leave too many backslashes for the marker on either side
(`lower_take_ne_shareMarker`).

The first section is about `backslashed`, which turns every slash into a backslash and leaves it to
the later ones that a path has only one kind of separator.
-/

namespace DiagnosticRelay

namespace Path

namespace Windows

/-! ## Backslashes -/

theorem slash_not_mem_backslashed (path : Text) : Posix.slash ∉ backslashed path := by
  intro h
  obtain ⟨c, -, hc⟩ := List.mem_map.mp h
  split at hc
  · cases hc
  · next hne => exact hne hc

theorem backslashed_of_not_mem {path : Text} (h : Posix.slash ∉ path) :
    backslashed path = path := by
  rw [backslashed, Text.replaceAll]
  refine (List.map_congr_left fun c hc => ?_).trans (List.map_id path)
  refine if_neg ?_
  rintro rfl
  exact h hc

/-- A code point with a backslash in the place of a slash. -/
def backslashedPoint (c : CodePoint) : CodePoint := if c = Posix.slash then backslash else c

theorem backslashed_cons (c : CodePoint) (path : Text) :
    backslashed (c :: path) = backslashedPoint c :: backslashed path := rfl

theorem isSeparator_backslashedPoint (c : CodePoint) :
    isSeparator (backslashedPoint c) = isSeparator c := by
  rw [backslashedPoint]
  split
  · next h =>
    rw [h]
    rfl
  · rfl

theorem backslashedPoint_of_isSeparator {c : CodePoint} (h : isSeparator c = true) :
    backslashedPoint c = backslash := by
  rw [backslashedPoint]
  split
  · rfl
  · next hne =>
    rw [isSeparator, Bool.or_eq_true, beq_iff_eq, beq_iff_eq] at h
    exact h.resolve_right hne

theorem slash_ne_backslashedPoint (c : CodePoint) : Posix.slash ≠ backslashedPoint c := by
  rw [backslashedPoint]
  split
  · decide
  · next h => exact Ne.symm h

theorem isRooted_backslashed (path : Text) : isRooted (backslashed path) = isRooted path := by
  cases path with
  | nil => rfl
  | cons c path => exact isSeparator_backslashedPoint c

/-! ## The drive of a share -/

theorem findBackslash?_eq_some_iff {t : Text} {start index : Nat} :
    findBackslash? t start = some index ↔
      start ≤ index ∧ t[index]? = some backslash ∧
        ∀ place, start ≤ place → place < index → t[place]? ≠ some backslash := by
  have hdrop (n : Nat) : (t.drop start)[n]? = t[start + n]? := List.getElem?_drop
  rw [findBackslash?, Option.map_eq_some_iff]
  constructor
  · rintro ⟨n, hn, rfl⟩
    obtain ⟨hlt, hfound, hbefore⟩ := List.findIdx?_eq_some_iff_getElem.mp hn
    refine ⟨Nat.le_add_right .., ?_, fun place hstart hplace hbackslash => ?_⟩
    · rw [← hdrop, List.getElem?_eq_getElem hlt, beq_iff_eq.mp hfound]
    · obtain ⟨k, rfl⟩ := Nat.exists_eq_add_of_le hstart
      have hk : k < n := by omega
      rw [← hdrop, List.getElem?_eq_getElem (Nat.lt_trans hk hlt), Option.some.injEq] at hbackslash
      exact hbefore k hk (beq_iff_eq.mpr hbackslash)
  · rintro ⟨hstart, hfound, hbefore⟩
    obtain ⟨n, rfl⟩ := Nat.exists_eq_add_of_le hstart
    rw [← hdrop] at hfound
    obtain ⟨hlt, hget⟩ := List.getElem?_eq_some_iff.mp hfound
    refine ⟨n, List.findIdx?_eq_some_iff_getElem.mpr ⟨hlt, beq_iff_eq.mpr hget, ?_⟩, rfl⟩
    intro k hk hbackslash
    refine hbefore (start + k) (Nat.le_add_right ..) (by omega) ?_
    rw [← hdrop, List.getElem?_eq_getElem (Nat.lt_trans hk hlt), beq_iff_eq.mp hbackslash]

/-- A search sees nothing behind what it finds. -/
theorem findBackslash?_congr {s t : Text} {start index : Nat}
    (hsame : ∀ place, place ≤ index → s[place]? = t[place]?)
    (h : findBackslash? t start = some index) : findBackslash? s start = some index := by
  rw [findBackslash?_eq_some_iff] at h ⊢
  obtain ⟨hstart, hfound, hbefore⟩ := h
  refine ⟨hstart, (hsame index (Nat.le_refl _)).trans hfound, fun place hplace hlt => ?_⟩
  rw [hsame place (Nat.le_of_lt hlt)]
  exact hbefore place hplace hlt

/-- The marker in front of the server of a literal path. -/
def shareMarker : Text := text "\\\\?\\unc\\"

/-- Two backslashes cut off a beginning that is not the marker. -/
theorem lower_take_ne_shareMarker {t : Text} {i j : Nat} (hi : 2 ≤ i) (hij : i < j) (hj : j < 7)
    (hfirst : t[i]? = some backslash) (hsecond : t[j]? = some backslash) :
    Text.lower (t.take 8) ≠ shareMarker := by
  intro h
  have hplace {n : Nat} (hn : n < 7) (hback : t[n]? = some backslash) :
      shareMarker[n]? = some backslash := by
    rw [← h, Text.lower, List.getElem?_map, List.getElem?_take_of_lt (by omega), hback]
    rfl
  have hnone : ∀ i j : Fin 7, 2 ≤ i → i < j → shareMarker[i.val]? = some backslash →
      shareMarker[j.val]? ≠ some backslash := by
    decide
  exact hnone ⟨i, by omega⟩ ⟨j, hj⟩ hi hij (hplace (by omega) hfirst) (hplace hj hsecond)

section Share

variable {t : Text} {i j : Nat} (hj : t[j]? = some backslash)

include hj

theorem getElem?_take_append (rest : Text) {place : Nat} (hplace : place ≤ j) :
    (t.take j ++ backslash :: rest)[place]? = t[place]? := by
  have hlt : j < t.length := (List.getElem?_eq_some_iff.mp hj).1
  have htake : (t.take j).length = j := List.length_take_of_le (Nat.le_of_lt hlt)
  rcases Nat.lt_or_eq_of_le hplace with hplace | rfl
  · rw [List.getElem?_append_left (by omega), List.getElem?_take_of_lt hplace]
  · rw [List.getElem?_append_right (by omega), htake, Nat.sub_self, hj]
    rfl

/-- What follows the second backslash after the server does not matter to the marker. -/
theorem lower_take_eq_shareMarker_iff (hi : 2 ≤ i) (hij : i < j) (hfirst : t[i]? = some backslash)
    (rest : Text) :
    Text.lower ((t.take j ++ backslash :: rest).take 8) = shareMarker ↔
      Text.lower (t.take 8) = shareMarker := by
  have hsame {place : Nat} (hplace : place ≤ j) := getElem?_take_append hj rest hplace
  by_cases hlong : 7 ≤ j
  · have htake : (t.take j ++ backslash :: rest).take 8 = t.take 8 := by
      refine List.ext_getElem? fun place => ?_
      by_cases hplace : place < 8
      · rw [List.getElem?_take_of_lt hplace, List.getElem?_take_of_lt hplace, hsame (by omega)]
      · rw [List.getElem?_take_eq_none (by omega), List.getElem?_take_eq_none (by omega)]
    rw [htake]
  · exact iff_of_false
      (lower_take_ne_shareMarker hi hij (by omega) ((hsame (by omega)).trans hfirst)
        ((hsame (Nat.le_refl j)).trans hj))
      (lower_take_ne_shareMarker hi hij (by omega) hfirst hj)

end Share

theorem shareLength_eq (t : Text) :
    shareLength t =
      match findBackslash? t (if Text.lower (t.take 8) = shareMarker then 8 else 2) with
      | none => t.length
      | some index =>
        match findBackslash? t (index + 1) with
        | none => t.length
        | some index => index := rfl

/-- A path to a share is all drive, or its drive ends before a backslash and is the drive of every
path that goes on from there. -/
theorem shareLength_cases (t : Text) :
    shareLength t = t.length ∨
      (2 ≤ shareLength t ∧ t[shareLength t]? = some backslash ∧
        ∀ rest, shareLength (t.take (shareLength t) ++ backslash :: rest) = shareLength t) := by
  cases hfirst : findBackslash? t (if Text.lower (t.take 8) = shareMarker then 8 else 2) with
  | none => exact Or.inl (by rw [shareLength_eq, hfirst])
  | some i =>
    cases hsecond : findBackslash? t (i + 1) with
    | none => exact Or.inl (by rw [shareLength_eq, hfirst]; simp only [hsecond])
    | some j =>
      have hlength : shareLength t = j := by
        rw [shareLength_eq, hfirst]
        simp only [hsecond]
      obtain ⟨hstart, hi, -⟩ := findBackslash?_eq_some_iff.mp hfirst
      obtain ⟨hij, hj, -⟩ := findBackslash?_eq_some_iff.mp hsecond
      have hi2 : 2 ≤ i := by
        split at hstart <;> omega
      rw [hlength]
      refine Or.inr ⟨by omega, hj, fun rest => ?_⟩
      have hmarker := lower_take_eq_shareMarker_iff hj hi2 hij hi rest
      have hplace {place : Nat} (h : place ≤ j) := getElem?_take_append hj rest h
      have hfirst' := findBackslash?_congr (fun _ h => hplace (Nat.le_trans h (by omega))) hfirst
      have hsecond' := findBackslash?_congr (fun _ h => hplace h) hsecond
      simp only [shareLength_eq, hmarker, hfirst', hsecond']

/-! ## Drives -/

theorem splitDrive_append (path : Text) : (splitDrive path).1 ++ (splitDrive path).2 = path := by
  rw [splitDrive.eq_def]
  split
  · split
    · rw [List.splitAt_eq]
      exact List.take_append_drop ..
    · split <;> rfl
  · rfl

theorem splitDrive_share {path : Text} (h : Posix.slash ∉ path) {rest : Text}
    (hpath : path = backslash :: backslash :: rest) :
    splitDrive path = (path.take (shareLength path), path.drop (shareLength path)) := by
  subst hpath
  rw [splitDrive.eq_def]
  simp only [isSeparator_backslash, Bool.and_self, if_true, backslashed_of_not_mem h,
    List.splitAt_eq]

/-- A path to a share is all drive, or its drive is found again before whatever stands in the place
of what follows it. -/
theorem splitDrive_share_cases {path rest : Text} (h : Posix.slash ∉ path)
    (hpath : path = backslash :: backslash :: rest) :
    splitDrive path = (path, []) ∨
      ∃ drive after, splitDrive path = (drive, backslash :: after) ∧
        (∃ front, drive = backslash :: backslash :: front) ∧ Posix.slash ∉ drive ∧
        Posix.slash ∉ after ∧ ∀ other, Posix.slash ∉ other →
          splitDrive (drive ++ backslash :: other) = (drive, backslash :: other) := by
  rw [splitDrive_share h hpath]
  rcases shareLength_cases path with hall | ⟨htwo, hback, hstable⟩
  · rw [hall, List.take_length, List.drop_length]
    exact Or.inl rfl
  · generalize shareLength path = n at htwo hback hstable
    obtain ⟨hlt, hget⟩ := List.getElem?_eq_some_iff.mp hback
    have hdrive : Posix.slash ∉ path.take n := fun hmem => h (List.mem_of_mem_take hmem)
    have hfront : path.take n = backslash :: backslash :: rest.take (n - 2) := by
      obtain ⟨m, rfl⟩ := Nat.exists_eq_add_of_le' htwo
      rw [hpath]
      rfl
    refine Or.inr ⟨path.take n, path.drop (n + 1), ?_, ⟨_, hfront⟩, hdrive,
      fun hmem => h (List.mem_of_mem_drop hmem), ?_⟩
    · rw [List.drop_eq_getElem_cons hlt, hget]
    · intro other hother
      have hlength : (path.take n).length = n := List.length_take_of_le (Nat.le_of_lt hlt)
      have hslash : Posix.slash ∉ path.take n ++ backslash :: other := by
        rw [List.mem_append, List.mem_cons, not_or, not_or]
        exact ⟨hdrive, by decide, hother⟩
      have hpath' : path.take n ++ backslash :: other
          = backslash :: backslash :: (rest.take (n - 2) ++ backslash :: other) := by
        rw [hfront]
        rfl
      rw [splitDrive_share hslash hpath', hstable other, List.take_left' hlength,
        List.drop_left' hlength]

end Windows

end Path

end DiagnosticRelay
