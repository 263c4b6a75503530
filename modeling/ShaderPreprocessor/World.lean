/-
Several libraries and servers at work on the same files. They share one supply of handles and
nothing else.

* `World.Action`: what may happen: an operation on a library or on the library of a server, a
  request to a server, or a change of the files from outside;
* `World.act`: one action, and what it answers;
* `World.run`: the state after a list of actions.
-/
import ShaderPreprocessor.Server

namespace ShaderPreprocessor

/-- Libraries, servers, the supply of handles that they share, and the files. -/
structure World where
  /-- The supply of handles. -/
  supply : Supply
  /-- Libraries of their own. -/
  libraries : List Library
  /-- Servers, each with a library. -/
  servers : List Server
  /-- The files that servers read. -/
  files : FileTree

namespace World

/-- What may happen. -/
inductive Action where
  /-- An operation on a library. -/
  | library (index : Nat) (action : Library.Action)
  /-- An operation on the library of a server. -/
  | serverLibrary (index : Nat) (action : Library.Action)
  /-- A path loaded, with the reference that it is to be registered under. -/
  | load (index : Nat) (path : String) (importPath : Option ImportRef)
  /-- The handle of a path asked for. -/
  | handle (index : Nat) (path : String)
  /-- A path preprocessed, after it is loaded. -/
  | process (index : Nat) (path : String) (defs : List String)
  /-- A file written from outside. -/
  | write (path : Path) (data : List UInt8)
  /-- A file deleted from outside. -/
  | delete (path : Path)

/-- The world after a session of one of its servers. -/
def settle (world : World) (index : Nat) (s : Session) : World :=
  { world with supply := s.supply, servers := world.servers.set index s.server }

/-- The answer of a session. -/
def answer {α : Type} (reply : α → Reply) (r : Session × Except Failure α) : Answering :=
  ⟨r.1.events, r.2.map reply⟩

/-- One action: the world after it, and what it answers. Nothing happens to a library or server
that does not exist. -/
def act (world : World) : Action → World × Answering
  | .library index action =>
    match world.libraries[index]? with
    | none => (world, .pure .done)
    | some library =>
      let (supply, library, result) := library.act world.supply action
      ({ world with supply, libraries := world.libraries.set index library }, result)
  | .serverLibrary index action =>
    match world.servers[index]? with
    | none => (world, .pure .done)
    | some server =>
      let (supply, library, result) := server.library.act world.supply action
      let server := { server with library }
      ({ world with supply, servers := world.servers.set index server }, result)
  | .load index path importPath =>
    match world.servers[index]? with
    | none => (world, .pure .done)
    | some server =>
      let r := (Session.start world.supply server).load world.files path importPath
      (world.settle index r.1, answer .handle r)
  | .handle index path =>
    match world.servers[index]? with
    | none => (world, .pure .done)
    | some server => (world, .pure (.foundHandle (server.handle? path)))
  | .process index path defs =>
    match world.servers[index]? with
    | none => (world, .pure .done)
    | some server =>
      let r := (Session.start world.supply server).process world.files path defs
      (world.settle index r.1, answer .processed r)
  | .write path data =>
    ({ world with files := world.files.put (path.resolve world.files.home) data }, .pure .done)
  | .delete path =>
    ({ world with files := world.files.delete (path.resolve world.files.home) }, .pure .done)

/-- The world after a list of actions. -/
def run (world : World) (actions : List Action) : World :=
  actions.foldl (fun world action => (world.act action).1) world

end World

end ShaderPreprocessor
