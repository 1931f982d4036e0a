import DiagnosticRelay.Fault
import DiagnosticRelay.Path.Lexical
import DiagnosticRelay.ProjectRoot

/-!
# File trees

Whatever a check asks of the file system is asked of a file tree: a value that says
which directories there are, what their files hold and which of these may be run.  A
path is walked from the root or from the directory of the process; `..` leads to the
directory above, and the tree has no links, so there is only one.

A path can fail to lead anywhere in the ways known from operating systems.  Names and paths also
have a greatest length, measured in octets, and a path cannot hold the code point zero
or a surrogate half.  (Halves from U+DC80 to U+DCFF are the exception: they stand for
single octets that are not UTF-8.)
-/

namespace DiagnosticRelay

/-- A node of a file tree.  The programs of the host are known by their names alone. -/
inductive Node where
  | file (content : List UInt8) (executable : Bool)
  | program (name : Text)
  | directory (entries : List (Text × Node))
  deriving Inhabited

namespace Node

/-- Whether a node is a directory. -/
def isDirectory : Node → Bool
  | .directory _ => true
  | _ => false

/-- Whether a node is a file that can be run. -/
def isProgram : Node → Bool
  | .file _ executable => executable
  | .program _ => true
  | .directory _ => false

/-- The entry of a name. -/
def child? (entries : List (Text × Node)) (name : Text) : Option Node :=
  (entries.find? fun entry => entry.1 == name).map (·.2)

/-- Writes the entry of a name: in place if it is there, else at the end. -/
def putEntry : List (Text × Node) → Text → Node → List (Text × Node)
  | [], name, node => [(name, node)]
  | (key, old) :: rest, name, node =>
    if key = name then (key, node) :: rest else (key, old) :: putEntry rest name node

/-- A tree with a node at the end of a list of names; directories on the way are made. -/
def put (tree : Node) (names : List Text) (node : Node) : Node :=
  match names with
  | [] => match tree, node with
    | .directory entries, .directory [] => .directory entries
    | _, _ => node
  | name :: names =>
    let entries := match tree with
      | .directory entries => entries
      | _ => []
    .directory (putEntry entries name
      (put ((child? entries name).getD (.directory [])) names node))

end Node

/-- The octets of a text for the operating system; the half U+DC00 + n stands for the octet n. -/
def systemOctetsFrom (place : Nat) : Text → Except Fault (List UInt8)
  | [] => .ok []
  | .char c :: rest => (systemOctetsFrom (place + 1) rest).map (Utf8.encodeChar c ++ ·)
  | .surrogate half :: rest =>
    if 0x480 ≤ half.val ∧ half.val < 0x500 then
      (systemOctetsFrom (place + 1) rest).map (.ofNat (half.val - 0x400) :: ·)
    else
      let others := (rest.takeWhile fun c => match c with
        | .surrogate other => !(0x480 ≤ other.val && other.val < 0x500)
        | .char _ => false).length
      .error (.unencodable half place (others + 1))

/-- The octets of a text for the operating system. -/
def systemOctets (t : Text) : Except Fault (List UInt8) := systemOctetsFrom 0 t

/-- A file tree and the directory of the process in it. -/
structure FileSystem where
  root : Node
  home : NamedPath
  deriving Inhabited

namespace FileSystem

open DiagnosticRelay.Path

/-- The greatest number of octets in a name. -/
def nameLimit : Nat := 255

/-- The greatest number of octets in a path. -/
def pathLimit : Nat := 4095

/-- The number of octets of a name or a path. -/
def octetCount (t : Text) : Nat := (Utf8.encodeLoose t).length

/-- Walks names from a node; the second argument holds the directories above it. -/
def walk : Node → List Node → List Text → Except SystemError (Node × List Node)
  | node, above, [] => .ok (node, above)
  | node, above, name :: names =>
    match node with
    | .directory entries =>
      if name = Path.above then
        match above with
        | [] => walk node [] names
        | up :: rest => walk up rest names
      else if nameLimit < octetCount name then .error .nameTooLong
      else match Node.child? entries name with
        | some child => walk child (node :: above) names
        | none => .error .notFound
    | _ => .error .notDirectory

/-- The node that a path leads to, seen from the directory of the process. -/
def node (fs : FileSystem) (path : NamedPath) : Except Fault Node := do
  let shown := path.toText
  if shown.contains (.char '\x00') then .error .embeddedNul
  let octets ← systemOctets shown
  if pathLimit < octets.length then .error (.system .nameTooLong shown)
  match walk fs.root [] (fs.home.append path).names with
  | .ok (node, _) => .ok node
  | .error error => .error (.system error shown)

/-- The answer to a question about the node at a path.

Where there is no node, or the path cannot be one, the answer is no; other failures leave the
question open. -/
def ask (fs : FileSystem) (path : NamedPath) (question : Node → Bool) : Except Fault Bool :=
  match fs.node path with
  | .ok node => .ok (question node)
  | .error fault => match fault with
    | .system .notFound _ | .system .notDirectory _ => .ok false
    | .system _ _ => .error fault
    | _ => .ok false

/-- Whether there is a file at a path. -/
def isFile (fs : FileSystem) (path : NamedPath) : Except Fault Bool :=
  fs.ask path fun node => !node.isDirectory

/-- What the search for a project asks of a file tree. -/
def probes (fs : FileSystem) : Probes where
  isDirectory path := (fs.ask path Node.isDirectory).toOption
  isPresent path := (fs.ask path fun _ => true).toOption

/-- The octets of the file at a path. -/
def read (fs : FileSystem) (path : NamedPath) : Except Fault (List UInt8) := do
  match ← fs.node path with
  | .file content _ => .ok content
  | .program _ => .ok []
  | .directory _ => .error (.system .isDirectory path.toText)

/-- Whether a path leads to a file that can be run. -/
def isProgram (fs : FileSystem) (path : NamedPath) : Bool :=
  match fs.node path with
  | .ok node => node.isProgram
  | .error _ => false

end FileSystem

end DiagnosticRelay
