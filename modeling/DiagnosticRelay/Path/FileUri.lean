import DiagnosticRelay.Path.Windows
import DiagnosticRelay.Text.Utf8

/-!
# File references

A checker may name a file by a path or by a `file://` reference.  The scheme is cut
off and the rest is percent-decoded, completely or not at all: one malformed escape,
or escapes whose octets are not UTF-8, leave the rest as it was written.

Octets are decoded in runs.  An ASCII code point contributes its octet and an escape
contributes the octet that it spells; a code point beyond ASCII ends the run and stands for
itself.  Nothing is lost by that, because no well-formed sequence continues into the
octets of another code point.

On systems with drives, the slash before a drive letter belongs to the reference and not
to the path, and is removed after decoding.
-/

namespace DiagnosticRelay

namespace Path

/-- The two families of path rules. -/
inductive Flavour where
  | posix
  | windows
  deriving DecidableEq

namespace FileUri

/-- What a stretch of a reference contributes to the decoded text. -/
inductive Contribution where
  | octet (octet : UInt8)
  | literal (c : CodePoint)
  deriving DecidableEq

/-- The contributions of a text, unless an escape in it is malformed.

The first argument is the number of code points that belong to an escape already read. -/
def contributions? : Nat → Text → Option (List Contribution)
  | _, [] => some []
  | skip + 1, _ :: rest => contributions? skip rest
  | 0, c :: rest =>
    if c = .char '%' then
      match rest with
      | a :: b :: _ =>
        match a.hexValue?, b.hexValue? with
        | some high, some low =>
          (contributions? 2 rest).map (.octet (.ofNat (16 * high + low)) :: ·)
        | _, _ => none
      | _ => none
    else if c.value < 0x80 then (contributions? 0 rest).map (.octet (.ofNat c.value) :: ·)
    else (contributions? 0 rest).map (.literal c :: ·)

/-- The text of a run of octets, given backwards. -/
def closeRun? (run : List UInt8) : Option Text := (Utf8.decode run.reverse).toOption

/-- The text of a list of contributions after a run of octets, given backwards. -/
def assemble? : List UInt8 → List Contribution → Option Text
  | run, [] => closeRun? run
  | run, .octet octet :: rest => assemble? (octet :: run) rest
  | run, .literal c :: rest => do
    let before ← closeRun? run
    let after ← assemble? [] rest
    some (before ++ c :: after)

/-- The percent-decoding of a text, if all of it can be decoded. -/
def percentDecode? (t : Text) : Option Text := (contributions? 0 t).bind (assemble? [])

/-- The scheme of a file reference. -/
def scheme : Text := text "file://"

/-- Whether a path is a slash before a drive letter and its colon. -/
def isSlashedDrive (path : Text) : Bool :=
  match path with
  | .char '/' :: letter :: .char ':' :: _ => letter.isAsciiLetter
  | _ => false

/-- The path that a reference names. -/
def toPath (flavour : Flavour) (reference : Text) : Text :=
  match Text.dropStart? reference scheme with
  | none => reference
  | some stripped =>
    let decoded := (percentDecode? stripped).getD stripped
    match flavour with
    | .posix => decoded
    | .windows => if isSlashedDrive decoded then decoded.drop 1 else decoded

end FileUri

end Path

end DiagnosticRelay
