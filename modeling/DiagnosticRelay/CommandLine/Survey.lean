import DiagnosticRelay.CommandLine.Program
import DiagnosticRelay.Process

/-!
# What a command line looks at

A command is a function of a file tree, so before it can run on a real machine somebody
has to find out which parts of the machine's files it will ask for.  The survey lists
them: the file itself, the places where a project may be marked, the two
configuration files, and the places where the checker may lie.

What comes later in that list depends on what the earlier files hold.  A survey of a
tree in which the earlier files are still missing lists fewer paths, so it is
repeated with the fuller tree, three times in all: once for the markers, once for the
configuration that they lead to, and once for the checker that it names.
-/

namespace DiagnosticRelay

namespace CommandLine

namespace Survey

/-- The number of times that a survey is made. -/
def rounds : Nat := 3

/-- A path and everything above it, the nearest first. -/
def upwards (path : NamedPath) : List NamedPath :=
  (List.range (path.names.length + 1)).map fun n =>
    ⟨path.root, path.names.take (path.names.length - n)⟩

/-- The places where a project around a path may be marked. -/
def markerPlaces (markers : List Text) (path : NamedPath) : List NamedPath :=
  (upwards path).flatMap fun directory =>
    directory :: markers.map fun marker => directory.append (.ofText marker)

/-- The places where a program may lie that is started in a directory. -/
def programPlaces (host : Host) (directory : NamedPath) (program : Text) : List NamedPath :=
  let path := NamedPath.ofText program
  if path.isAbsolute then [path]
  else if 1 < path.names.length then [directory.append path]
  else (host.candidates path).map .ofText

/-- What a check looks at. -/
def checkPlaces (host : Host) (environment : ConfigLayers.Environment) (options : CheckOptions) :
    List NamedPath :=
  let files := host.files
  let target := files.home.append options.file
  let root := CheckCommand.projectRoot files options
  let configured := [ConfigLayers.within root ConfigLayers.projectDescription,
    ConfigLayers.within root ConfigLayers.ownFile]
  let ofConfig := match ConfigLayers.load files root environment options.overrides with
    | .error _ => []
    | .ok config =>
      let directory := ProjectRoot.workingDirectory files.probes files.home options.root
        config.markers target
      markerPlaces config.markers target
        ++ programPlaces host directory config.binary
  markerPlaces ProjectRoot.defaultMarkers target ++ root :: configured ++ ofConfig

/-- What a command line looks at, as far as the files known so far tell. -/
def places (host : Host) (environment : ConfigLayers.Environment) (words : List Text) :
    List NamedPath :=
  match Request.ofWords words with
  | .ok (.check options) => checkPlaces host environment options
  | .ok (.parse options) => [host.files.home.append (.ofText options.source)]
  | _ => []

end Survey

end CommandLine

end DiagnosticRelay
