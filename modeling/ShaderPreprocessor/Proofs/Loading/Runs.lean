/-
Runs of a world as one of its servers sees them.

* `World.Action.Serves`: the actions that leave the library of a server to its loads;
* `Server.Works`: what an action comes to for a server: nothing but handles issued elsewhere, or a
  traversal from one path;
* `World.act_works`: this is all that can happen to the server (the step);
* `World.run_linked`: after every run from a new server its tables are linked, and it reads files as
  it did (the run);
* `World.ofFiles`: a world to begin with;
* `World.tables_correspond_after_run`: what it means for the tables that they are linked.
-/
import ShaderPreprocessor.Proofs.Loading.Dependencies
import ShaderPreprocessor.Proofs.Loading.Termination
import ShaderPreprocessor.World

namespace ShaderPreprocessor

/-! ### Actions -/

/-- Operations that change nothing in a library. -/
def Library.Action.Reads : Library.Action → Prop
  | .add _ => False
  | .assign _ _ => False
  | .remove _ => False
  | .clear => False
  | _ => True

/-- Actions that change a server only by loading files, and register them under names of their own
if at all. Other libraries and servers, and the files, may change in any way. -/
def World.Action.Serves (i : ℕ) : World.Action → Prop
  | .serverLibrary j action => j = i → action.Reads
  | .load j _ importPath => j = i → ∀ ref, importPath = some ref → ref.IsCustom
  | _ => True

/-- An operation on a library only ever issues handles. -/
lemma Library.supply_le_act (supply : Supply) (library : Library) (action : Library.Action) :
    supply.next ≤ (library.act supply action).1.next := by
  cases action with
  | assign ref h =>
      rw [act]
      split <;> exact le_rfl
  | remove h =>
      rw [act]
      split <;> exact le_rfl
  | _ => simp [act, Supply.advance]

/-- An operation that reads leaves the library as it is. -/
lemma Library.act_of_reads (supply : Supply) (library : Library) {action : Library.Action}
    (hreads : action.Reads) : (library.act supply action).2.1 = library := by
  cases action <;> first | rfl | exact hreads.elim

/-! ### What happens to a server -/

/-- What an action comes to for a server. -/
inductive Server.Works (files : FileTree) (supply : Supply) (server : Server) :
    Supply → Server → Answering → Prop where
  /-- Nothing happens to the server. -/
  | rests {supply' : Supply} {answer : Answering} (hle : supply.next ≤ supply'.next) :
      Works files supply server supply' server answer
  /-- A path is loaded. If that fails, the answer is its failure, and the events are its events. -/
  | loads {path : String} {importPath : Option ImportRef} {s : Session}
      {r : Except LoadError Unit} {answer : Answering}
      (hcustom : ∀ ref, importPath = some ref → ref.IsCustom)
      (htraverse : Traverses files [⟨path, importPath⟩] (.start supply server) s r)
      (hfails : ∀ e, r = .error e → answer = ⟨s.events, .error (.load e)⟩) :
      Works files supply server s.supply s.server answer

namespace World

variable {world : World} {i : ℕ} {server : Server}

/-- Another server put in its place leaves a server as it is. -/
lemma getElem?_set_ne {j : ℕ} {other : Server} (hserver : world.servers[i]? = some server)
    (hne : j ≠ i) : (world.servers.set j other)[i]? = some server := by
  rw [List.getElem?_set_ne hne, hserver]

/-- A server put in its own place is found there. -/
lemma getElem?_set_self {other : Server} (hserver : world.servers[i]? = some server) :
    (world.servers.set i other)[i]? = some other := by
  obtain ⟨hlt, -⟩ := List.getElem?_eq_some_iff.1 hserver
  exact List.getElem?_set_self hlt

/-- Handles are only ever issued by loads. -/
lemma supply_le_load (files : FileTree) (path : String) (importPath : Option ImportRef)
    (s : Session) : s.supply.next ≤ (s.load files path importPath).1.supply.next := by
  obtain ⟨h, -, -, htraverse⟩ | ⟨e, -, htraverse⟩ := s.load_traverses files path importPath
  · exact htraverse.supply_le
  · exact htraverse.supply_le

/-- To preprocess a path changes the tables as to load it does. -/
lemma process_server_supply (files : FileTree) (path : String) (defs : List String)
    (s : Session) :
    (s.process files path defs).1.server = (s.load files path none).1.server ∧
      (s.process files path defs).1.supply = (s.load files path none).1.supply := by
  rw [Session.process]
  split
  · next hload => rw [hload]; exact ⟨rfl, rfl⟩
  · next hload => rw [hload]; exact ⟨rfl, rfl⟩

/-- Handles are only ever issued by actions. -/
lemma supply_le_act (world : World) (action : Action) :
    world.supply.next ≤ (world.act action).1.supply.next := by
  cases action with
  | library | serverLibrary =>
      rw [act]
      split
      · exact le_rfl
      · exact Library.supply_le_act _ _ _
  | load j path importPath =>
      rw [act]
      split
      · exact le_rfl
      · next server _ => exact supply_le_load _ _ _ (.start world.supply server)
  | process j path defs =>
      rw [act]
      split
      · exact le_rfl
      · next server _ =>
          have hle := supply_le_load world.files path none (.start world.supply server)
          rw [← (process_server_supply world.files path defs _).2] at hle
          exact hle
  | handle =>
      rw [act]
      split <;> exact le_rfl
  | write | delete => exact le_rfl

end World

/-- A single errand claims no more than it is to register. -/
lemma custom_of_claims (path : String) {importPath : Option ImportRef}
    (hcustom : ∀ ref, importPath = some ref → ref.IsCustom) :
    ∀ ref, Claims [⟨path, importPath⟩] ref → ref.IsCustom := by
  rintro ref ⟨errand, hmem, href⟩
  cases List.mem_singleton.1 hmem
  exact hcustom ref href

namespace Server.Works

/-- A load of a path. -/
lemma load (files : FileTree) (supply : Supply) (server : Server) (path : String)
    {importPath : Option ImportRef}
    (hcustom : ∀ ref, importPath = some ref → ref.IsCustom) :
    server.Works files supply ((Session.start supply server).load files path importPath).1.supply
      ((Session.start supply server).load files path importPath).1.server
      (World.answer .handle ((Session.start supply server).load files path importPath)) := by
  obtain ⟨h, -, -, htraverse⟩ | ⟨e, hresult, htraverse⟩ :=
    Session.load_traverses files path importPath (.start supply server)
  · exact .loads hcustom htraverse fun e he => by cases he
  · refine .loads hcustom htraverse fun e' he' => ?_
    cases he'
    rw [World.answer, hresult]
    rfl

/-- A path preprocessed after it is loaded. -/
lemma process (files : FileTree) (supply : Supply) (server : Server) (path : String)
    (defs : List String) :
    server.Works files supply ((Session.start supply server).process files path defs).1.supply
      ((Session.start supply server).process files path defs).1.server
      (World.answer .processed ((Session.start supply server).process files path defs)) := by
  obtain ⟨hserver, hsupply⟩ := World.process_server_supply files path defs (.start supply server)
  rw [hserver, hsupply]
  have hcustom : ∀ ref, (none : Option ImportRef) = some ref → ref.IsCustom :=
    fun ref href => by cases href
  obtain ⟨h, -, -, htraverse⟩ | ⟨e, hresult, htraverse⟩ :=
    Session.load_traverses files path none (.start supply server)
  · exact .loads hcustom htraverse fun e he => by cases he
  · refine .loads hcustom htraverse fun e' he' => ?_
    cases he'
    rw [World.answer, Session.process]
    split
    · next hload =>
        rw [hload] at hresult ⊢
        cases hresult
        rfl
    · next hload =>
        rw [hload] at hresult
        cases hresult

end Server.Works

namespace World

variable {world : World} {i : ℕ} {server : Server}

/-- A load is a session of the server, which the world is left with. -/
lemma act_load (hserver : world.servers[i]? = some server) (path : String)
    (importPath : Option ImportRef) :
    world.act (.load i path importPath) =
      (world.settle i ((Session.start world.supply server).load world.files path importPath).1,
        answer .handle
          ((Session.start world.supply server).load world.files path importPath)) := by
  rw [act, hserver]

/-- What an action comes to for a server that it serves. -/
lemma act_works {action : Action} (hserver : world.servers[i]? = some server)
    (hserves : action.Serves i) :
    ∃ server', (world.act action).1.servers[i]? = some server' ∧
      server.Works world.files world.supply (world.act action).1.supply server'
        (world.act action).2 := by
  have hrests (hsame : (world.act action).1.servers[i]? = some server) :
      ∃ server', (world.act action).1.servers[i]? = some server' ∧
        server.Works world.files world.supply (world.act action).1.supply server'
          (world.act action).2 :=
    ⟨server, hsame, .rests (supply_le_act world action)⟩
  cases action with
  | library | handle =>
      refine hrests ?_
      rw [act]
      split <;> exact hserver
  | serverLibrary j action =>
      refine hrests ?_
      rw [act]
      split
      · exact hserver
      · next other hother =>
          by_cases heq : j = i
          · subst heq
            rw [hserver] at hother
            cases hother
            dsimp only
            rw [Library.act_of_reads _ _ (hserves rfl)]
            exact getElem?_set_self hserver
          · exact getElem?_set_ne hserver heq
  | load j path importPath =>
      by_cases heq : j = i
      · subst heq
        rw [act_load hserver]
        exact ⟨_, getElem?_set_self hserver, .load _ _ _ path (hserves rfl)⟩
      · refine hrests ?_
        rw [act]
        split
        · exact hserver
        · exact getElem?_set_ne hserver heq
  | process j path defs =>
      by_cases heq : j = i
      · subst heq
        simp only [act, hserver]
        exact ⟨_, getElem?_set_self hserver, .process _ _ _ path defs⟩
      · refine hrests ?_
        rw [act]
        split
        · exact hserver
        · exact getElem?_set_ne hserver heq
  | write | delete => exact hrests hserver

end World

/-! ### Runs -/

namespace Server.Works

variable {files : FileTree} {supply supply' : Supply} {server server' : Server}
  {answer : Answering}

/-- What happens to a server leaves its tables linked, and keeps all but what names stand for. -/
lemma linked_and_keeps (h : server.Works files supply supply' server' answer)
    (hlinked : server.Linked supply) :
    server'.Linked supply' ∧ server.Keeps ImportRef.IsCustom server' := by
  cases h with
  | rests hle => exact ⟨hlinked.mono hle, .refl _ _⟩
  | @loads path importPath s r answer hcustom htraverse =>
      have hclaims := custom_of_claims path hcustom
      obtain ⟨hlinked', hkeeps⟩ := htraverse.linked_and_keeps hclaims hlinked
      exact ⟨hlinked', hkeeps.imp hclaims⟩

/-- What happens to a server leaves as it is how it reads files. -/
lemma settings_root (h : server.Works files supply supply' server' answer) :
    server'.settings = server.settings ∧ server'.root = server.root := by
  cases h with
  | rests => exact ⟨rfl, rfl⟩
  | loads _ htraverse => exact htraverse.settings_root

end Server.Works

namespace World

variable {world : World} {i : ℕ} {root : Path} {settings : Settings}

/-- One action more. -/
lemma run_snoc (world : World) (actions : List Action) (action : Action) :
    world.run (actions ++ [action]) = ((world.run actions).act action).1 := by
  rw [run, List.foldl_append, ← run]
  rfl

/-- A server that was new is linked after a run that serves it, and reads files as it did. -/
lemma run_linked {actions : List Action} (hnew : world.servers[i]? = some (.new root settings))
    (hserves : ∀ action ∈ actions, action.Serves i) :
    ∃ server, (world.run actions).servers[i]? = some server ∧
      server.Linked (world.run actions).supply ∧ server.settings = settings ∧
      server.root = root := by
  induction actions using List.reverseRecOn with
  | nil => exact ⟨_, hnew, .new _ _ _, rfl, rfl⟩
  | append_singleton actions action ih =>
      obtain ⟨server, hserver, hlinked, hsettings, hroot⟩ :=
        ih fun other hother => hserves other (List.mem_append_left _ hother)
      obtain ⟨server', hserver', hworks⟩ := act_works hserver (hserves action (by simp))
      rw [run_snoc]
      refine ⟨server', hserver', (hworks.linked_and_keeps hlinked).1, ?_, ?_⟩
      · rw [hworks.settings_root.1, hsettings]
      · rw [hworks.settings_root.2, hroot]

/-- The server that a run leads to is linked, and reads files as it did. -/
lemma linked_of_run {actions : List Action} {server : Server}
    (hnew : world.servers[i]? = some (.new root settings))
    (hserves : ∀ action ∈ actions, action.Serves i)
    (hserver : (world.run actions).servers[i]? = some server) :
    server.Linked (world.run actions).supply ∧ server.settings = settings ∧
      server.root = root := by
  obtain ⟨server', hserver', hlinked⟩ := run_linked hnew hserves
  rw [hserver] at hserver'
  cases hserver'
  exact hlinked

/-- A new server over some text files in its root directory. -/
def ofFiles (files : List (String × String)) : World where
  supply := .fresh
  libraries := []
  servers := [.new (.ofText "") {}]
  files := files.foldl (fun tree file => tree.put [file.1] (Text.encodeUtf8 file.2.toList))
    (.empty [])

/-- **How the tables of a server correspond.** After every run from a new server, loads that fail
and loads of other servers included, different paths have different handles, the stored handles are
those of the loaded paths, the registered asset references are the loaded paths, each for its own
handle, and every other registered name stands for the handle of a loaded path. -/
theorem tables_correspond_after_run {actions : List Action}
    (hnew : world.servers[i]? = some (.new root settings))
    (hserves : ∀ action ∈ actions, action.Serves i) :
    ∃ server, (world.run actions).servers[i]? = some server ∧
      (∀ path path' h, server.loaded.get? path = some h →
        server.loaded.get? path' = some h → path = path') ∧
      (∀ h, (∃ shader, server.library.shaders.get? h = some shader) ↔
        ∃ path, server.loaded.get? path = some h) ∧
      (∀ path h, server.loaded.get? path = some h →
        server.library.imports.get? (.asset path) = some h) ∧
      (∀ path h, server.library.imports.get? (.asset path) = some h →
        server.loaded.get? path = some h) ∧
      ∀ name h, server.library.imports.get? (.custom name) = some h →
        ∃ path, server.loaded.get? path = some h := by
  obtain ⟨server, hserver, hlinked, -⟩ := run_linked hnew hserves
  exact ⟨server, hserver, hlinked.distinct, hlinked.stored,
    fun path h => (hlinked.asset path h).2, fun path h => (hlinked.asset path h).1,
    hlinked.custom⟩

/-- Two new servers over the same files. The second file asks for the first one and for a file that
does not exist. -/
def sharedFiles : World :=
  { ofFiles [("x.wgsl", "x\n"), ("y.wgsl", "#import \"x.wgsl\"\n#import \"missing.wgsl\"\n")] with
    servers := [.new (.ofText "") {}, .new (.ofText "") {}] }

/-- The second file, loaded under a name, is dropped after the first one is stored for it. Of the
handles that the server was issued only the one of the first file is stored. -/
theorem tables_correspond_after_failure :
    ∃ server, (sharedFiles.run [.load 1 "x.wgsl" none,
        .load 0 "y.wgsl" (some (.custom "lib"))]).servers[0]? = some server ∧
      server.library.imports.get? (.asset "x.wgsl") = some ⟨2⟩ ∧
      server.library.imports.get? (.asset "y.wgsl") = none ∧
      ∀ h, (∃ shader, server.library.shaders.get? h = some shader) ↔
        ∃ path, server.loaded.get? path = some h := by
  have hnew : sharedFiles.servers[0]? = some (.new (.ofText "") {}) := rfl
  have hserves : ∀ action ∈ [Action.load 1 "x.wgsl" none,
      .load 0 "y.wgsl" (some (.custom "lib"))], action.Serves 0 := by
    simp [Action.Serves, ImportRef.IsCustom]
  have hloaded : ((sharedFiles.run [.load 1 "x.wgsl" none,
      .load 0 "y.wgsl" (some (.custom "lib"))]).servers[0]?.map fun server =>
        (server.loaded.get? "x.wgsl", server.loaded.get? "y.wgsl")) = some (some ⟨2⟩, none) := by
    decide +kernel
  obtain ⟨server, hserver, -, hstored, hasset, hloadedOf, -⟩ :=
    tables_correspond_after_run hnew hserves
  rw [hserver, Option.map_some, Option.some.injEq, Prod.mk.injEq] at hloaded
  refine ⟨server, hserver, hasset _ _ hloaded.1, ?_, hstored⟩
  refine Option.eq_none_iff_forall_ne_some.2 fun h hh => ?_
  have := hloadedOf _ _ hh
  rw [hloaded.2] at this
  cases this

end World

end ShaderPreprocessor
