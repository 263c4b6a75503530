/-
One run of the command line tool on a tree of files: the input is preprocessed, together with the
files that it imports, and the result is shown or written.

* `Report`: how a run ends, what it shows, and the files after it;
* `Request.relative?`: the input, as a path below the root;
* `Request.run`, `run`: a run for a request, and for a command line.

Nothing is shown and no file is changed unless preprocessing succeeds.
-/
import ShaderPreprocessor.CommandLine.Request
import ShaderPreprocessor.Server

namespace ShaderPreprocessor.CommandLine

open Text

/-- The usage line. -/
def usage : String := "usage: aniline [-h] [-D NAME] [-I ROOT] [-o OUTPUT] [-v] input\n"

/-- The help text. -/
def helpText : String :=
  usage ++ "\nResolve shader defs and imports.\n\npositional arguments:\n  input\n\noptions:\n" ++
    "  -h, --help     show this help message and exit\n  -D NAME\n  -I ROOT\n  -o OUTPUT\n" ++
    "  -v, --verbose\n"

/-- How a run ends. -/
inductive Exit where
  /-- With a status. -/
  | status (code : Nat)
  /-- By a failure that is not reported. -/
  | escaped (failure : Failure)
  deriving DecidableEq, Repr

/-- What a run comes to. -/
structure Report where
  /-- How it ends. -/
  exit : Exit
  /-- The bytes it shows. -/
  stdout : List UInt8
  /-- What it says about its work. -/
  stderr : String
  /-- The files after it. -/
  files : FileTree
  /-- The files it opened or tried to open for reading, in order. -/
  opened : List Path
  /-- The file it wrote, and the bytes. -/
  written : Option (Path × List UInt8)

/-- Whether a failure is reported and ends a run with a status: the faults of files and all errors
of preprocessing. -/
def isReported : Failure → Bool
  | .endless => false
  | .process _ => true
  | .load e => e.isFileFault
  | .unregistered _ => false

/-- Whether an event is told. Errors always are. -/
def isTold (verbose : Bool) (event : Event) : Bool := verbose || event.level = .error

/-- The line that tells an event. -/
def eventLine (event : Event) : String :=
  event.level.name ++ " " ++ event.origin ++ ": " ++ event.message ++ "\n"

/-- The lines that tell events. -/
def eventLines (verbose : Bool) (events : List Event) : String :=
  String.join ((events.filter (isTold verbose)).map eventLine)

/-- The bytes of a result. -/
def resultBytes : Processed → List UInt8
  | .text _ content => encodeUtf8 content.toList
  | .spirv data => data

namespace Request

/-- The root of a request: as it says, or the directory of the input. -/
def rootPath (request : Request) : Path := request.root.getD request.input.parent

/-- The input as a path below the root, both taken without regard to what exists. -/
def relative? (home : List String) (request : Request) : Option String :=
  let input := request.input.resolve home
  let root := request.rootPath.resolve home
  if request.input.hasNul ∨ request.rootPath.hasNul then none
  else if root.isPrefixOf input then
    some (Path.toText ⟨.relative, input.drop root.length⟩)
  else none

/-- A run that ends without having opened anything. -/
def early (files : FileTree) (code : Nat) (stdout stderr : String) : Report :=
  ⟨.status code, encodeUtf8 stdout.toList, stderr, files, [], none⟩

/-- A result shown or written. -/
def deliver (files : FileTree) (output : Option Path) (data : List UInt8) (report : Report) :
    Report :=
  match output with
  | none => { report with stdout := data }
  | some path =>
    match files.write path data with
    | .ok files => { report with files, written := some (path, data) }
    | .error e => { report with exit := .escaped (.load (.access e)) }

/-- A run for a request. -/
def run (files : FileTree) (request : Request) : Report :=
  match request.relative? files.home with
  | none =>
    early files 1 ""
      (request.input.toText ++ " is not inside " ++ request.rootPath.toText ++ "\n")
  | some path =>
    let (s, result) :=
      (Session.start .fresh (.new request.rootPath {})).process files path request.defs
    let told := eventLines request.verbose s.events
    let report : Report := ⟨.status 0, [], told, files, s.opened, none⟩
    match result with
    | .ok processed => deliver files request.output (resultBytes processed) report
    | .error failure =>
      if isReported failure then
        { report with
          exit := .status 1
          stderr := told ++ request.input.toText ++ ": " ++ failure.message ++ "\n" }
      else { report with exit := .escaped failure }

end Request

/-- A run for a command line. -/
def run (files : FileTree) (arguments : List String) : Report :=
  match Request.ofArguments arguments with
  | .ok request => request.run files
  | .error .help => Request.early files 0 helpText ""
  | .error (.refused e) =>
    Request.early files 2 "" (usage ++ "aniline: error: " ++ e.message ++ "\n")

end ShaderPreprocessor.CommandLine
