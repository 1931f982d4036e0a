import DiagnosticRelay.Shell.Evaluation

/-!
# Scripts as programs

The programs of this library's executable are scripts for the command interpreter, which are
started through the line that names the interpreter, the command interpreter itself, and the tools
that it knows.  `programs` is what they do when a host starts them.
-/

namespace DiagnosticRelay

namespace Shell

/-- What scripts, the command interpreter and its tools do when they are started. -/
def programs : Programs := fun files start => do
  let name := ofOctets start.program
  let run : Run := {
    files := files
    name := name
    arguments := []
    bindings := start.environment.map fun (key, content) =>
      { name := ofOctets key, value := some (ofOctets content), exported := true }
    directory := ⟨start.directory.root, Run.placeOf start.directory⟩
    limit := start.limit }
  let (run, ending) ← execute run name (start.arguments.map ofOctets)
  return ⟨toOctets run.stdout.reverse, toOctets run.stderr.reverse, ending⟩

end Shell

end DiagnosticRelay
