import DiagnosticRelay.Process
import DiagnosticRelay.Proofs.Path.Named

/-!
# Where a program comes from

The first word of a command is a path, and the number of its names decides how the program is
found.  `resolve_relative` gives the three cases for a relative path and a command with a directory.

* With more than one name, the path leads from the directory and from nowhere else.  Neither the
  search path nor the directory of this process matters, and there is a program at that place or
  none at all (`resolve_of_lt`).
* With one name, the program is the first one on the search path that has this name, and the
  directory of the command does not matter (`resolve_of_names_eq`).
* Without a name, there is no program (`resolve_of_names_eq_nil`).

Names are counted, not slashes.  A text without slashes is one name or none
(`NamedPath.names_of_slash_not_mem`), so a bare name is always looked up.  But `./sh` and `sh/` have
one name as well, and they are looked up just as `sh` is, even if the directory holds another
program of that name.

`IsFirstOnPath` says what it is to be found on the search path: a directory of the path, as it is
spelled there, joined with the name, and no program of that name in the directories before.
-/

namespace DiagnosticRelay

open DiagnosticRelay.Path (here)
open DiagnosticRelay.Path.Posix (slash)

namespace FileSystem

/-- An absolute path leads to the same node from every directory of the process. -/
theorem node_of_isAbsolute {fs other : FileSystem} (hroot : other.root = fs.root)
    {path : NamedPath} (h : path.isAbsolute = true) : other.node path = fs.node path := by
  rw [node, node, NamedPath.append_of_isAbsolute _ h, NamedPath.append_of_isAbsolute _ h, hroot]

theorem isProgram_of_isAbsolute {fs other : FileSystem} (hroot : other.root = fs.root)
    {path : NamedPath} (h : path.isAbsolute = true) : other.isProgram path = fs.isProgram path := by
  rw [isProgram, isProgram, node_of_isAbsolute hroot h]

end FileSystem

namespace Host

/-! ## The search path -/

/-- The first place on the search path where a name leads to a program. -/
def IsFirstOnPath (host : Host) (name place : Text) : Prop :=
  host.searchPath ≠ [] ∧ ∃ before directory after,
    Text.splitOn (.char ':') host.searchPath = before ++ directory :: after ∧
      place = Path.Posix.join directory name ∧ host.isProgramAt place = true ∧
      ∀ earlier ∈ before, host.isProgramAt (Path.Posix.join earlier name) = false

/-- A name is looked up in the directories of the search path in turn. -/
theorem find?_candidates_eq_some_iff (host : Host) {path : NamedPath} (h : path.names ≠ [])
    (place : Text) :
    (host.candidates path).find? host.isProgramAt = some place ↔
      host.IsFirstOnPath path.toText place := by
  rw [candidates, IsFirstOnPath]
  by_cases hempty : host.searchPath = []
  · simp [hempty]
  · have hsearched : (host.searchPath.isEmpty || path.names.isEmpty) = false := by
      simp [hempty, h]
    rw [hsearched, if_neg Bool.false_ne_true, List.find?_map, Option.map_eq_some_iff,
      and_iff_right hempty]
    constructor
    · rintro ⟨directory, hfound, rfl⟩
      obtain ⟨hprogram, before, after, hsplit, hbefore⟩ := List.find?_eq_some_iff_append.mp hfound
      exact ⟨before, directory, after, hsplit, rfl, hprogram, fun earlier hearlier =>
        (Bool.not_eq_true' _).mp (hbefore earlier hearlier)⟩
    · rintro ⟨before, directory, after, hsplit, rfl, hprogram, hbefore⟩
      exact ⟨directory, List.find?_eq_some_iff_append.mpr ⟨hprogram, before, after, hsplit,
        fun earlier hearlier => (Bool.not_eq_true' _).mpr (hbefore earlier hearlier)⟩, rfl⟩

/-! ## The place of a program -/

/-- A relative first word gives the program that it is located at. -/
theorem resolve_eq (host : Host) (command : Command) {head : Text} {rest : List Text}
    (hwords : command.words = head :: rest) (hhead : (NamedPath.ofText head).isAbsolute = false) :
    host.resolve command =
      ((host.locate? command.directory (NamedPath.ofText head)).map (· :: rest)).elim
        (.error (.unknownProgram head)) .ok := by
  rw [resolve, hwords]
  simp only [hhead, Bool.false_eq_true, if_false]
  cases host.locate? command.directory (NamedPath.ofText head) <;> rfl

theorem locate?_of_lt (host : Host) (directory : NamedPath) {path : NamedPath}
    (h : 1 < path.names.length) :
    host.locate? (some directory) path =
      if host.files.isProgram (directory.append path) then some (directory.append path).toText
      else none := by
  rw [locate?.eq_def, if_pos h]

theorem locate?_of_le (host : Host) (directory : Option NamedPath) {path : NamedPath}
    (h : path.names.length ≤ 1) :
    host.locate? directory path = (host.candidates path).find? host.isProgramAt := by
  rw [locate?.eq_def, if_neg (Nat.not_lt.mpr h)]

section Relative

variable (host : Host) (command : Command) {head : Text} {rest : List Text}
  (hwords : command.words = head :: rest) (hhead : (NamedPath.ofText head).isAbsolute = false)

include hwords hhead

/-- A path of more than one name leads from the directory of the command. -/
theorem resolve_of_lt {directory : NamedPath} (hdirectory : command.directory = some directory)
    (h : 1 < (NamedPath.ofText head).names.length) :
    host.resolve command =
      if host.files.isProgram (directory.append (NamedPath.ofText head)) then
        .ok ((directory.append (NamedPath.ofText head)).toText :: rest)
      else .error (.unknownProgram head) := by
  rw [resolve_eq host command hwords hhead, hdirectory, locate?_of_lt host directory h]
  split <;> rfl

/-- A path of one name is looked up on the search path by that name. -/
theorem resolve_of_names_eq {name : Text} (h : (NamedPath.ofText head).names = [name]) :
    (∀ words, host.resolve command = .ok words ↔
        ∃ place, host.IsFirstOnPath name place ∧ words = place :: rest) ∧
      ((∀ place, ¬ host.IsFirstOnPath name place) →
        host.resolve command = .error (.unknownProgram head)) := by
  have hlength : (NamedPath.ofText head).names.length ≤ 1 := by rw [h]; exact Nat.le_refl 1
  have hne : (NamedPath.ofText head).names ≠ [] := by rw [h]; exact List.cons_ne_nil name []
  have hfound := find?_candidates_eq_some_iff host hne
  rw [NamedPath.toText_ofText hhead h] at hfound
  rw [resolve_eq host command hwords hhead, locate?_of_le host _ hlength]
  cases hplace : (host.candidates (NamedPath.ofText head)).find? host.isProgramAt with
  | none =>
    have hnowhere (place : Text) : ¬ host.IsFirstOnPath name place := by
      rw [← hfound, hplace]
      nofun
    refine ⟨fun words => iff_of_false (by nofun) ?_, fun _ => rfl⟩
    rintro ⟨place, hfirst, -⟩
    exact hnowhere place hfirst
  | some place =>
    refine ⟨fun words => ?_, fun hnowhere => absurd ((hfound place).mp hplace) (hnowhere place)⟩
    simp only [← hfound, hplace, Option.map_some, Option.elim_some, Except.ok.injEq,
      Option.some.injEq, exists_eq_left', eq_comm]

/-- A path without a name is found nowhere. -/
theorem resolve_of_names_eq_nil (h : (NamedPath.ofText head).names = []) :
    host.resolve command = .error (.unknownProgram head) := by
  have hlength : (NamedPath.ofText head).names.length ≤ 1 := by rw [h]; exact Nat.zero_le 1
  have hcandidates : host.candidates (NamedPath.ofText head) = [] := by
    rw [candidates, h, List.isEmpty_nil, Bool.or_true, if_pos rfl]
  rw [resolve_eq host command hwords hhead, locate?_of_le host _ hlength, hcandidates]
  rfl

end Relative

/-- **Where the program of a relative first word comes from.**  From the directory of the command if
the word has more than one name, whatever the search path and whatever the directory of the process;
from the search path if it has one name, whatever the directory; and from nowhere without a name.
Without a slash there is at most one name, but there may be one name with slashes. -/
theorem resolve_relative (host : Host) (command : Command) {head : Text} {rest : List Text}
    {directory : NamedPath} (hwords : command.words = head :: rest)
    (hhead : (NamedPath.ofText head).isAbsolute = false)
    (hdirectory : command.directory = some directory) (habsolute : directory.isAbsolute = true) :
    let path := NamedPath.ofText head
    let seen := directory.append path
    (1 < path.names.length →
        host.resolve command =
          (if host.files.isProgram seen then .ok (seen.toText :: rest)
            else .error (.unknownProgram head)) ∧
        ∀ other : Host, other.files.root = host.files.root →
          other.resolve command = host.resolve command) ∧
      (∀ name, path.names = [name] → ∀ elsewhere : Option NamedPath,
        (∀ words, host.resolve { command with directory := elsewhere } = .ok words ↔
          ∃ place, host.IsFirstOnPath name place ∧ words = place :: rest) ∧
        ((∀ place, ¬ host.IsFirstOnPath name place) →
          host.resolve { command with directory := elsewhere } = .error (.unknownProgram head))) ∧
      (path.names = [] → host.resolve command = .error (.unknownProgram head)) ∧
      (slash ∉ head → path.names = [] ∨ path.names = [head]) := by
  intro path seen
  refine ⟨fun hlength => ?_, fun name hname elsewhere => ?_, ?_, NamedPath.names_of_slash_not_mem⟩
  · have hresolve (machine : Host) :=
      resolve_of_lt machine command hwords hhead hdirectory hlength
    refine ⟨hresolve host, fun other hroot => ?_⟩
    have hseen := NamedPath.isAbsolute_append habsolute path
    rw [hresolve other, hresolve host, FileSystem.isProgram_of_isAbsolute hroot hseen]
  · exact resolve_of_names_eq host { command with directory := elsewhere } hwords hhead hname
  · exact resolve_of_names_eq_nil host command hwords hhead

/-- A tree with the programs `/bin/sh` and `/p/sh`, and `/bin` as the search path. -/
def twoShells : Host where
  files := {
    root := ((Node.directory []).put [text "bin", text "sh"] (.program (text "sh"))).put
      [text "p", text "sh"] (.program (text "sh"))
    home := NamedPath.ofText (text "/") }
  searchPath := text "/bin"
  environment := []

/-- From `/p`, a name behind `./` is looked up on the search path, and the same program behind
`../p/` is not. -/
theorem resolve_relative_dotSlash :
    let directory := NamedPath.ofText (text "/p")
    twoShells.resolve { words := [text "./sh", text "-c"], directory := some directory }
        = .ok [text "/bin/sh", text "-c"] ∧
      twoShells.resolve { words := [text "../p/sh", text "-c"], directory := some directory }
        = .ok [text "/p/../p/sh", text "-c"] := by
  intro directory
  have habsolute : directory.isAbsolute = true := by decide
  have hfirst : twoShells.IsFirstOnPath (text "sh") (text "/bin/sh") :=
    ⟨by decide, [], text "/bin", [], by decide, by decide, by decide, by simp⟩
  obtain ⟨-, hname, -⟩ := resolve_relative twoShells
    { words := [text "./sh", text "-c"], directory := some directory } rfl (by decide) rfl habsolute
  obtain ⟨hnames, -⟩ := resolve_relative twoShells
    { words := [text "../p/sh", text "-c"], directory := some directory } rfl (by decide) rfl
    habsolute
  exact ⟨((hname (text "sh") (by decide) (some directory)).1 _).mpr ⟨_, hfirst, rfl⟩,
    (hnames (by decide)).1.trans (if_pos (by decide))⟩

end Host

end DiagnosticRelay
