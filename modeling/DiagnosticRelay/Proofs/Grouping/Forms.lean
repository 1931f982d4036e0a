import DiagnosticRelay.Proofs.Grouping.Key
import DiagnosticRelay.Proofs.Path.PercentEncoding

/-!
# One key for all forms of a reference

Checkers report one file in three forms: relative to the directory they ran in, by its absolute
path, or by a `file://` reference whose path is percent-encoded in one of many ways.  The key of
the file must not depend on the form, or the diagnostics of the file would be split.

The three forms take different ways through `resolve`.  A relative reference is joined to the
directory after the directory has been normalised, an absolute one is normalised as it is, and a
`file://` reference is decoded first.  `resolve_forms` says that they meet: normalising the
directory early changes nothing (`Posix.normalize_join_normalize`), and every encoding is decoded to
the path that it encodes (`FileUri.percentDecode?_of_isEncoding`).
-/

namespace DiagnosticRelay

namespace Path

/-- A path that is absolute is the key of its normal form, wherever the checker ran. -/
theorem resolve_of_toPath_eq {reference path : Text}
    (hpath : FileUri.toPath .posix reference = path) (h : Posix.isAbsolute path = true)
    (directory : Text) :
    resolve .posix directory reference = Posix.normalize path := by
  simp only [resolve, canonical, hpath, Posix.join_of_isAbsolute _ h]

/-- **One file, one key.**  A reference without a scheme, the absolute path that it stands for, and
every percent-encoding of that path behind `file://` have one key, wherever the last two are
reported from. -/
theorem resolve_forms (directory reference : Text) (hdirectory : Posix.isAbsolute directory = true)
    (hreference : ¬ ∃ rest, reference = FileUri.scheme ++ rest) :
    (∀ other, resolve .posix directory reference
      = resolve .posix other (Posix.join directory reference)) ∧
    ∀ encoded, FileUri.IsEncoding (Posix.join directory reference) encoded →
      ∀ other, resolve .posix directory reference
        = resolve .posix other (FileUri.scheme ++ encoded) := by
  have habsolute := Posix.isAbsolute_join hdirectory reference
  have hkey : resolve .posix directory reference
      = Posix.normalize (Posix.join directory reference) := by
    rw [← Posix.normalize_join_normalize hdirectory]
    simp only [resolve, canonical, FileUri.toPath_of_not_scheme hreference]
  constructor
  · intro other
    rw [hkey, resolve_of_toPath_eq (toPath_of_isAbsolute habsolute) habsolute]
  · intro encoded hencoded other
    rw [hkey, resolve_of_toPath_eq (FileUri.toPath_scheme_append hencoded) habsolute]

/-- A directory that is not in normal form, and a reference with a percent sign and letters
beyond ASCII, of which one is escaped and one is not. -/
theorem resolve_forms_escaped :
    let directory := text "/w/../p"
    let encoded := text "/w/../p/" ++ (text "%C3%a9" ++ (text "%25" ++ text "é"))
    FileUri.IsEncoding (Posix.join directory (text "é%é")) encoded ∧
      resolve .posix (text "/tmp") (FileUri.scheme ++ encoded) = text "/p/é%é" := by
  intro directory encoded
  have hletter : FileUri.AreEscapes (Utf8.encodeChar 'é') (text "%C3%a9") :=
    .cons rfl rfl (.cons rfl rfl .nil)
  have hpercent : FileUri.AreEscapes (Utf8.encodeChar '%') (text "%25") := .cons rfl rfl .nil
  have hplain : FileUri.IsEncoding (text "/w/../p/") (text "/w/../p/") :=
    FileUri.isEncoding_self (by decide)
  have hlast : FileUri.IsEncoding (text "é") (text "é") := FileUri.isEncoding_self (by decide)
  have hencoded : FileUri.IsEncoding (Posix.join directory (text "é%é")) encoded :=
    hplain.append (.escaped hletter (.escaped hpercent hlast))
  have hreference : ¬ ∃ rest, text "é%é" = FileUri.scheme ++ rest := by
    rintro ⟨rest, hrest⟩
    cases hrest
  exact ⟨hencoded, ((resolve_forms directory (text "é%é") rfl hreference).2 encoded hencoded
    (text "/tmp")).symm.trans (by decide)⟩

end Path

end DiagnosticRelay
