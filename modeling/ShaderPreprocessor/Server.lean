/-
Servers load shader files below a root directory into a library of their own. A file is stored once
for each path it is asked for by, and is found by asset references with that path. With its
dependencies a file loads the files it imports, those their own, and so on, depth first, in the
order of the import lines; a file whose dependency fails is dropped again.

* `Session.loadFrom`: one file and all that follows from it, to a given nesting depth;
* `Session.loadAll`: several paths in order, up to the first failure;
* `FileTree.names`: the names that the files of a tree ask for;
* `Session.load`: a file loaded, to the depth that leaves out nothing. Nested loads are of
  different paths, and each of these but the first stands in some file;
* `Session.process`: a file preprocessed, after it is loaded.
-/
import ShaderPreprocessor.Library.Action

namespace ShaderPreprocessor

/-- A server: where and how it finds files, and what it has loaded. -/
structure Server where
  /-- The directory that paths are taken from. -/
  root : Path
  /-- How files become shaders. -/
  settings : Settings
  /-- The loaded shaders. -/
  library : Library
  /-- The handle of each loaded path. -/
  loaded : Table String Handle

namespace Server

/-- A server that has loaded nothing. -/
def new (root : Path) (settings : Settings) : Server := ⟨root, settings, .empty, .empty⟩

/-- The file that a path names. -/
def fullPath (server : Server) (path : String) : Path := server.root.join (.ofText path)

/-- The handle of a loaded path. -/
def handle? (server : Server) (path : String) : Option Handle := server.loaded.get? path

end Server

/-- The asset references among references, as paths. -/
def assetPaths (refs : List ImportRef) : List String :=
  refs.filterMap fun ref =>
    match ref with
    | .asset path => some path
    | .custom _ => none

/-- The names that stand in what a place of a tree holds. -/
def Settings.namesIn (settings : Settings) : Node → List String
  | .file data =>
    match settings.textOf data with
    | .ok text => assetPaths (importRefs text)
    | .error _ => []
  | .directory => []

/-- The names that stand in the files of a tree, read as text. -/
def FileTree.names (files : FileTree) (settings : Settings) : List String :=
  files.nodes.entries.flatMap fun entry => settings.namesIn entry.2

/-- A server at work, and the trace of its work. -/
structure Session where
  /-- The supply of handles. -/
  supply : Supply
  /-- The server. -/
  server : Server
  /-- What happened, in order. -/
  events : List Event
  /-- The files that were opened or could not be opened, in order. -/
  opened : List Path

namespace Session

/-- A server about to work. -/
def start (supply : Supply) (server : Server) : Session := ⟨supply, server, [], []⟩

/-- One event more. -/
def note (s : Session) (event : Event) : Session := { s with events := s.events ++ [event] }

/-- One file opened more, if its name tells what it is. -/
def noteOpened (s : Session) (path : Path) : Session :=
  if (s.server.settings.format? path).isSome then { s with opened := s.opened ++ [path] } else s

/-- A shader stored for a path under the next handle. -/
def register (s : Session) (path : String) (shader : Shader) : Session :=
  let h := s.supply.handle
  { s with
    supply := s.supply.advance
    server := { s.server with
      library := (s.server.library.add h shader).assign (.asset path) h
      loaded := s.server.loaded.insert path h } }

/-- The shader of a path dropped. -/
def unregister (s : Session) (path : String) (h : Handle) : Session :=
  { s with server := { s.server with
      library := s.server.library.remove h
      loaded := s.server.loaded.erase path } }

/-- Paths loaded in order, up to the first that fails. -/
def loadAll (load : String → Session → Session × Except Failure Handle) :
    List String → Session → Session × Except Failure Unit
  | [], s => (s, .ok ())
  | path :: paths, s =>
    match load path s with
    | (s, .ok _) => loadAll load paths s
    | (s, .error e) => (s, .error e)

/-- The session after the dependencies of a stored path: the path stays if they are loaded or the
fault is not in a file. -/
def settle (path : String) (h : Handle) :
    Session × Except Failure Unit → Session × Except Failure Handle
  | (s, .ok _) => (s, .ok h)
  | (s, .error (.load e)) => (if e.isFileFault then s.unregister path h else s, .error (.load e))
  | (s, .error e) => (s, .error e)

/-- A path loaded, and the files that follow from it, at most `depth` nested in one another. -/
def loadFrom (files : FileTree) :
    Nat → String → Option ImportRef → Session → Session × Except Failure Handle
  | 0, _, _, s => (s, .error .endless)
  | depth + 1, path, importPath, s =>
    match s.server.loaded.get? path with
    | some h => (s, .ok h)
    | none =>
      let full := s.server.fullPath path
      match s.server.settings.readShader files full with
      | .error e =>
        let s := s.noteOpened full
        (if e.isFileFault then s.note (.loadFailed full e) else s, .error (.load e))
      | .ok shader =>
        let shader := { shader with importPath := importPath }
        let h := s.supply.handle
        let s := ((s.noteOpened full).register path shader).note (.loaded path h)
        if s.server.settings.followImports then
          settle path h
            (loadAll (fun path => loadFrom files depth path none) (assetPaths shader.imports) s)
        else (s, .ok h)

/-- A nesting depth that no load goes beyond: the paths loaded within one another are different,
and all but the first are names that stand in files. -/
def depthBound (settings : Settings) (files : FileTree) : Nat := (files.names settings).length + 2

/-- A path loaded with all that follows from it. -/
def load (files : FileTree) (path : String) (importPath : Option ImportRef) (s : Session) :
    Session × Except Failure Handle :=
  s.loadFrom files (depthBound s.server.settings files) path importPath

/-- A path preprocessed, after it is loaded. -/
def process (files : FileTree) (path : String) (defs : List String) (s : Session) :
    Session × Except Failure Processed :=
  match s.load files path none with
  | (s, .error e) => (s, .error e)
  | (s, .ok h) =>
    let result := s.server.library.process h defs
    ({ s with events := s.events ++ result.events }, result.outcome)

end Session

end ShaderPreprocessor
