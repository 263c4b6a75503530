/-
Where handles come from, and where they stand.

* `Supply.upTo`: the handles that are issued between two states of the supply;
* `Library.Draws`, `Server.Draws`, `Session.Draws`: what is stored or mentioned in the end was so
  before, or its handle was issued in between. `Library.act_draws` says so of an operation and
  `Traverses.draws` of a traversal, whatever of it is given up again;
* `World.Stores`, `World.Mentions`: a handle stands at a place of a world, or anywhere in it;
* `World.act_draws`: one action draws so from the supply, and stores new handles at one place at
  most. `World.issued_eq_upTo` and `World.stores_of_run` say it of a run;
* `World.Accounted`: all handles of a world were issued, and none has a shader at two places. A run
  keeps this;
* `World.handles_issued_once`: what this means for the handles of a run.
-/
import ShaderPreprocessor.Proofs.Library.History

namespace ShaderPreprocessor

open Session

/-! ### Handles between two states of the supply -/

namespace Supply

/-- The handles that are issued from one state of the supply up to a later one, in order. -/
def upTo (supply later : Supply) : List Handle :=
  (List.range' supply.next (later.next - supply.next)).map fun n : ℕ => ⟨n⟩

variable {supply supply' supply'' : Supply} {h : Handle}

lemma mem_upTo : h ∈ supply.upTo supply' ↔ supply.next ≤ h.value ∧ h.value < supply'.next := by
  obtain ⟨value⟩ := h
  simp only [upTo, List.mem_map, List.mem_range'_1, Handle.mk.injEq]
  constructor
  · rintro ⟨n, hn, rfl⟩
    omega
  · rintro ⟨hle, hlt⟩
    exact ⟨value.toNat, by omega, by omega⟩

@[simp] lemma upTo_self (supply : Supply) : supply.upTo supply = [] := by
  simp [upTo]

@[simp] lemma upTo_advance (supply : Supply) : supply.upTo supply.advance = [supply.handle] := by
  simp [upTo, advance, handle]

/-- Handles that are issued in two stretches are issued in one. -/
lemma upTo_append (hle : supply.next ≤ supply'.next) (hle' : supply'.next ≤ supply''.next) :
    supply.upTo supply' ++ supply'.upTo supply'' = supply.upTo supply'' := by
  have hlength : supply''.next - supply.next =
      (supply'.next - supply.next) + (supply''.next - supply'.next) := by omega
  have hstart : supply'.next = supply.next + 1 * (supply'.next - supply.next) := by omega
  rw [upTo, upTo, upTo, ← List.map_append, hlength, ← List.range'_append, ← hstart]

/-- Handles are issued in increasing order. -/
lemma upTo_pairwise (supply supply' : Supply) : (supply.upTo supply').Pairwise (· < ·) := by
  rw [upTo, List.pairwise_map]
  exact (List.pairwise_lt_range' 1).imp fun hlt => Int.ofNat_lt.2 hlt

/-- As many handles are issued between two states of the supply as the later one has more. -/
lemma length_upTo (supply supply' : Supply) :
    (supply.upTo supply').length = supply'.next - supply.next := by
  rw [upTo, List.length_map, List.length_range']

end Supply

/-! ### Libraries -/

namespace Library

/-- A handle is mentioned in a library: it has a shader, or a reference stands for it. -/
inductive Mentions (library : Library) (h : Handle) : Prop where
  /-- The handle has a shader. -/
  | stored {shader : Shader} (hstored : library.shaders.get? h = some shader)
  /-- A reference stands for the handle. -/
  | bound {ref : ImportRef} (hbound : library.imports.get? ref = some h)

/-- What stands in one library stood in another one, or has a handle that was issued between two
states of the supply. -/
structure Draws (supply supply' : Supply) (library library' : Library) : Prop where
  /-- New shaders have new handles. -/
  stored : ∀ h shader, library'.shaders.get? h = some shader →
    library.shaders.get? h = some shader ∨ h ∈ supply.upTo supply'
  /-- Handles that are mentioned were mentioned before, or are new. -/
  mentioned : ∀ h, library'.Mentions h → library.Mentions h ∨ h ∈ supply.upTo supply'

namespace Draws

variable {supply supply' supply'' : Supply} {library library' library'' : Library}

lemma refl (supply supply' : Supply) (library : Library) : library.Draws supply supply' library :=
  ⟨fun _ _ => .inl, fun _ => .inl⟩

/-- It is enough to look at the shaders and at the references. -/
lemma of_tables
    (hshaders : ∀ h shader, library'.shaders.get? h = some shader →
      library.shaders.get? h = some shader ∨ h ∈ supply.upTo supply')
    (himports : ∀ ref h, library'.imports.get? ref = some h →
      library.Mentions h ∨ h ∈ supply.upTo supply') : library.Draws supply supply' library' := by
  refine ⟨hshaders, fun h hmentions => ?_⟩
  cases hmentions with
  | stored hstored => exact (hshaders h _ hstored).imp_left .stored
  | bound hbound => exact himports _ h hbound

lemma trans (hle : supply.next ≤ supply'.next) (hle' : supply'.next ≤ supply''.next)
    (h : library.Draws supply supply' library') (h' : library'.Draws supply' supply'' library'') :
    library.Draws supply supply'' library'' := by
  have hmem : ∀ g, g ∈ supply.upTo supply' ∨ g ∈ supply'.upTo supply'' →
      g ∈ supply.upTo supply'' := fun g hg => by
    rw [← Supply.upTo_append hle hle', List.mem_append]
    exact hg
  constructor
  case stored =>
    intro g shader hg
    obtain hbefore | hnew := h'.stored g shader hg
    · exact (h.stored g shader hbefore).imp_right fun hnew => hmem g (.inl hnew)
    · exact .inr (hmem g (.inr hnew))
  case mentioned =>
    intro g hg
    obtain hbefore | hnew := h'.mentioned g hg
    · exact (h.mentioned g hbefore).imp_right fun hnew => hmem g (.inl hnew)
    · exact .inr (hmem g (.inr hnew))

/-- A shader stored under the next handle. -/
lemma add (supply : Supply) (library : Library) (shader : Shader) :
    library.Draws supply supply.advance (library.add supply.handle shader) := by
  refine of_tables (fun h other hother => ?_) fun ref h hh => ?_
  · rw [Library.add, Table.get?_insert] at hother
    split at hother
    · next heq => simp [heq]
    · exact .inl hother
  · cases hpath : shader.importPath with
    | none =>
        simp only [Library.add, hpath] at hh
        exact .inl (.bound hh)
    | some own =>
        simp only [Library.add, hpath, Table.get?_insert] at hh
        split at hh
        · cases hh
          simp
        · exact .inl (.bound hh)

/-- A reference made to stand for a stored shader. -/
lemma assign (supply supply' : Supply) {library : Library} (ref : ImportRef) {h : Handle}
    (hh : library.shaders.contains h) :
    library.Draws supply supply' (library.assign ref h) := by
  refine of_tables (fun _ _ => .inl) fun other g hg => ?_
  rw [Library.assign, Table.get?_insert] at hg
  split at hg
  · cases hg
    obtain ⟨shader, hshader⟩ := Option.isSome_iff_exists.1 hh
    exact .inl (.stored hshader)
  · exact .inl (.bound hg)

/-- A shader dropped. -/
lemma remove (supply supply' : Supply) (library : Library) (h : Handle) :
    library.Draws supply supply' (library.remove h) := by
  refine of_tables (fun g shader hg => ?_) fun ref g hg => ?_
  · rw [Library.remove, Table.get?_erase] at hg
    split at hg
    · cases hg
    · exact .inl hg
  · rw [Library.remove, Table.get?_filter, Option.filter_eq_some_iff] at hg
    exact .inl (.bound hg.1)

/-- Everything dropped. -/
lemma clear (supply supply' : Supply) (library : Library) :
    library.Draws supply supply' .empty :=
  of_tables (fun h shader hh => by simp [Library.empty] at hh)
    fun ref h hh => by simp [Library.empty] at hh

end Draws

/-- The handles that an operation issues, as its outcome tells of them. -/
def Action.issues : Action → Except Failure Reply → List Handle
  | .add _, .ok (.handle h) => [h]
  | .issue, .ok (.handle h) => [h]
  | _, _ => []

/-- An operation issues one handle at most. -/
lemma Action.issues_eq (action : Action) (outcome : Except Failure Reply) :
    action.issues outcome = [] ∨ ∃ h, action.issues outcome = [h] := by
  cases outcome with
  | error e => cases action <;> exact .inl rfl
  | ok reply => cases action <;> cases reply <;> first | exact .inl rfl | exact .inr ⟨_, rfl⟩

/-- An operation draws from the supply what its outcome tells of. -/
lemma act_draws (supply : Supply) (library : Library) (action : Action) :
    library.Draws supply (library.act supply action).1 (library.act supply action).2.1 ∧
      action.issues (library.act supply action).2.2.outcome =
        supply.upTo (library.act supply action).1 := by
  cases action with
  | add shader => exact ⟨.add supply library shader, (Supply.upTo_advance supply).symm⟩
  | issue => exact ⟨.refl _ _ library, (Supply.upTo_advance supply).symm⟩
  | assign ref h =>
      rw [act]
      split
      · next hh => exact ⟨.assign _ _ ref hh, (Supply.upTo_self supply).symm⟩
      · exact ⟨.refl _ _ library, (Supply.upTo_self supply).symm⟩
  | remove h =>
      rw [act]
      split
      · exact ⟨.remove _ _ library h, (Supply.upTo_self supply).symm⟩
      · exact ⟨.refl _ _ library, (Supply.upTo_self supply).symm⟩
  | clear => exact ⟨.clear _ _ library, (Supply.upTo_self supply).symm⟩
  | get | handleFor | contains | count | process =>
      exact ⟨.refl _ _ library, (Supply.upTo_self supply).symm⟩

/-- An operation takes as many handles from the supply as its outcome tells of. -/
lemma act_next (supply : Supply) (library : Library) (action : Action) :
    (library.act supply action).1.next =
      supply.next + (action.issues (library.act supply action).2.2.outcome).length := by
  have hle := supply_le_act supply library action
  rw [(act_draws supply library action).2, Supply.length_upTo]
  omega

end Library

/-! ### Servers and sessions -/

/-- What stands in one server stood in another one, or has a handle that was issued between two
states of the supply. -/
structure Server.Draws (supply supply' : Supply) (server server' : Server) : Prop where
  /-- This holds of the libraries. -/
  library : server.library.Draws supply supply' server'.library
  /-- Loaded paths have the handles they had, or new ones. -/
  loaded : ∀ path h, server'.loaded.get? path = some h →
    server.loaded.get? path = some h ∨ h ∈ supply.upTo supply'

lemma Server.Draws.refl (supply supply' : Supply) (server : Server) :
    server.Draws supply supply' server :=
  ⟨.refl _ _ _, fun _ _ => .inl⟩

/-- The handle that an event tells of as new. -/
def Event.issued? : Event → Option Handle
  | .loaded _ h => some h
  | .inlined _ => none
  | .loadFailed _ _ => none
  | .programFailed _ => none
  | .computeFailed _ => none

/-- One session goes over into another one that has drawn from the supply what it tells of. -/
structure Session.Draws (s s' : Session) : Prop where
  /-- Handles are only ever issued. -/
  le : s.supply.next ≤ s'.supply.next
  /-- Each of them is told of once, in order. -/
  told : s'.events.filterMap Event.issued? =
    s.events.filterMap Event.issued? ++ s.supply.upTo s'.supply
  /-- The server has drawn no others. -/
  server : s.server.Draws s.supply s'.supply s'.server

namespace Session.Draws

variable {s s' s'' : Session}

/-- A session that tells of no new handle and leaves the tables as they are. -/
lemma of_same (hsupply : s'.supply = s.supply) (hserver : s'.server = s.server)
    (htold : s'.events.filterMap Event.issued? = s.events.filterMap Event.issued?) :
    s.Draws s' := by
  refine ⟨by rw [hsupply], by rw [hsupply, htold]; simp, ?_⟩
  rw [hserver]
  exact .refl _ _ _

lemma trans (h : s.Draws s') (h' : s'.Draws s'') : s.Draws s'' where
  le := h.le.trans h'.le
  told := by rw [h'.told, h.told, List.append_assoc, Supply.upTo_append h.le h'.le]
  server := by
    refine ⟨h.server.library.trans h.le h'.le h'.server.library, fun path g hg => ?_⟩
    rw [← Supply.upTo_append h.le h'.le, List.mem_append]
    obtain hbefore | hnew := h'.server.loaded path g hg
    · exact (h.server.loaded path g hbefore).imp_right .inl
    · exact .inr (.inr hnew)

/-- A path entered under the next handle. -/
lemma enter (s : Session) (path : String) (shader : Shader) : s.Draws (s.enter path shader) where
  le := by simp [Supply.advance]
  told := by simp [Event.issued?]
  server := by
    rw [enter_supply]
    refine ⟨.of_tables (fun h other hother => ?_) fun ref h hh => ?_, fun other h hh => ?_⟩
    · rw [enter_shaders] at hother
      split at hother
      · next heq => simp [heq]
      · exact .inl hother
    · rw [enter_imports] at hh
      split at hh
      · cases hh
        simp
      · exact .inl (.bound hh)
    · rw [enter_loaded] at hh
      split at hh
      · cases hh
        simp
      · exact .inl hh

/-- A file that does not become a shader. -/
lemma refuse (s : Session) (path : String) (e : LoadError) : s.Draws (s.refuse path e) := by
  refine of_same (by simp) (by simp) ?_
  rw [Session.refuse]
  split <;> simp [Event.issued?]

/-- A path given up. -/
lemma giveUp (s : Session) (path : String) (h : Handle) (e : LoadError) :
    s.Draws (s.giveUp path h e) := by
  rw [Session.giveUp]
  split
  · refine ⟨le_rfl, by simp [unregister], .remove _ _ _ h, fun other g hg => ?_⟩
    rw [unregister_loaded] at hg
    split at hg
    · cases hg
    · exact .inl hg
  · exact of_same rfl rfl rfl

end Session.Draws

/-- A traversal draws from the supply what it tells of, whatever of it is given up again. -/
lemma Traverses.draws {files : FileTree} {errands : List Errand} {s s' : Session}
    {r : Except LoadError Unit} (h : Traverses files errands s s' r) : s.Draws s' := by
  induction h with
  | done s => exact .of_same rfl rfl rfl
  | known _ _ ih => exact ih
  | refused => exact .refuse _ _ _
  | entered _ _ _ _ ihdeps ihrest => exact ((Session.Draws.enter _ _ _).trans ihdeps).trans ihrest
  | givenUp _ _ _ ihdeps =>
      exact ((Session.Draws.enter _ _ _).trans ihdeps).trans (.giveUp _ _ _ _)

namespace Session

/-- A load draws from the supply what it tells of. -/
lemma load_draws (files : FileTree) (path : String) (importPath : Option ImportRef)
    (s : Session) : s.Draws (s.load files path importPath).1 := by
  obtain ⟨h, -, -, htraverse⟩ | ⟨e, -, htraverse⟩ := s.load_traverses files path importPath
  · exact htraverse.draws
  · exact htraverse.draws

/-- To preprocess a path draws what its load draws: preprocessing tells of imports only. -/
lemma process_draws (files : FileTree) (path : String) (defs : List String) (s : Session) :
    s.Draws (s.process files path defs).1 := by
  have hload := s.load_draws files path none
  rw [process]
  split
  · next heq => rwa [heq] at hload
  · next s₁ h heq =>
      rw [heq] at hload
      refine hload.trans (.of_same rfl rfl ?_)
      have hnone : (s₁.server.library.process h defs).events.filterMap Event.issued? = [] := by
        rw [Library.process]
        split
        · rfl
        · simp [Traced.mapError, Traced.mapEvents, Event.issued?]
      simp [hnone]

end Session

/-! ### Worlds -/

/-- Where shaders are stored: in a library, or in the library of a server. -/
inductive Place where
  /-- A library of its own. -/
  | library (index : ℕ)
  /-- The library of a server. -/
  | server (index : ℕ)

/-- The handles that an action issues, as its answer and its events tell of them. -/
def World.Action.issues : World.Action → Answering → List Handle
  | .library _ action, answer => action.issues answer.outcome
  | .serverLibrary _ action, answer => action.issues answer.outcome
  | _, answer => answer.events.filterMap Event.issued?

namespace World

variable {world world' : World} {i : ℕ} {place : Place} {g : Handle}

/-- The world before anything has happened: empty libraries, and servers that have loaded
nothing. -/
def start (libraries : ℕ) (servers : List (Path × Settings)) (files : FileTree) : World where
  supply := .fresh
  libraries := List.replicate libraries .empty
  servers := servers.map fun entry => .new entry.1 entry.2
  files := files

/-- The library at a place. -/
def library? (world : World) : Place → Option Library
  | .library i => world.libraries[i]?
  | .server i => world.servers[i]?.map Server.library

/-- A handle has a shader at a place. -/
def Stores (world : World) (place : Place) (h : Handle) : Prop :=
  ∃ library shader, world.library? place = some library ∧ library.shaders.get? h = some shader

/-- A handle is mentioned in a world: in a library at some place, or as that of a loaded path. -/
inductive Mentions (world : World) (h : Handle) : Prop where
  /-- A library mentions the handle. -/
  | library {place : Place} {library : Library} (hlibrary : world.library? place = some library)
      (hmentions : library.Mentions h)
  /-- A loaded path has the handle. -/
  | loaded {i : ℕ} {server : Server} {path : String} (hserver : world.servers[i]? = some server)
      (hloaded : server.loaded.get? path = some h)

/-- The handles that are issued during a run, in order. -/
def issued : World → List Action → List Handle
  | _, [] => []
  | world, action :: actions =>
    action.issues (world.act action).2 ++ (world.act action).1.issued actions

/-- One action more issues what its answer tells of. -/
lemma issued_snoc (world : World) (actions : List Action) (action : Action) :
    world.issued (actions ++ [action]) =
      world.issued actions ++ action.issues ((world.run actions).act action).2 := by
  induction actions generalizing world with
  | nil => simp [issued, run]
  | cons first actions ih =>
      rw [List.cons_append, issued, issued, ih, List.append_assoc]
      rfl

/-- One world goes over into another one in which new handles have shaders at one place at most, and
no others are mentioned that were not before. -/
structure Draws (world world' : World) : Prop where
  /-- Handles are only ever issued. -/
  le : world.supply.next ≤ world'.supply.next
  /-- New shaders have new handles, and stand at one place. -/
  stored : ∃ active, ∀ place h, world'.Stores place h →
    world.Stores place h ∨ place = active ∧ h ∈ world.supply.upTo world'.supply
  /-- Handles that are mentioned were mentioned before, or are new. -/
  mentioned : ∀ h, world'.Mentions h → world.Mentions h ∨ h ∈ world.supply.upTo world'.supply

namespace Draws

/-- Libraries and servers that stay as they are. -/
lemma of_same (hsupply : world'.supply = world.supply)
    (hlibraries : world'.libraries = world.libraries)
    (hservers : world'.servers = world.servers) : world.Draws world' := by
  have hlibrary : ∀ place, world'.library? place = world.library? place := by
    rintro (i | i)
    · rw [library?, hlibraries]; rfl
    · rw [library?, hservers]; rfl
  refine ⟨by rw [hsupply], ⟨.library 0, fun place h hstores => .inl ?_⟩, fun h hmentions => .inl ?_⟩
  · rwa [Stores, hlibrary] at hstores
  · cases hmentions with
    | library hlib hmentions => exact .library (by rwa [hlibrary] at hlib) hmentions
    | loaded hserver hloaded => exact .loaded (by rwa [hservers] at hserver) hloaded

/-- What changes at one place only, and draws there. -/
lemma of_place (active : Place) {library library' : Library}
    (hle : world.supply.next ≤ world'.supply.next)
    (hbefore : world.library? active = some library)
    (hafter : world'.library? active = some library')
    (hothers : ∀ other, other ≠ active → world'.library? other = world.library? other)
    (hdraws : library.Draws world.supply world'.supply library')
    (hloaded : ∀ (i : ℕ) (server' : Server) (path : String) (h : Handle),
      world'.servers[i]? = some server' → server'.loaded.get? path = some h →
        world.Mentions h ∨ h ∈ world.supply.upTo world'.supply) :
    world.Draws world' := by
  refine ⟨hle, ⟨active, ?_⟩, fun h hmentions => ?_⟩
  · rintro place h ⟨other, shader, hother, hshader⟩
    by_cases heq : place = active
    · subst heq
      rw [hafter] at hother
      cases hother
      obtain hold | hnew := hdraws.stored h shader hshader
      · exact .inl ⟨library, shader, hbefore, hold⟩
      · exact .inr ⟨rfl, hnew⟩
    · rw [hothers place heq] at hother
      exact .inl ⟨other, shader, hother, hshader⟩
  · cases hmentions with
    | @library place other hother hmentions =>
        by_cases heq : place = active
        · subst heq
          rw [hafter] at hother
          cases hother
          exact (hdraws.mentioned h hmentions).imp_left (.library hbefore)
        · rw [hothers place heq] at hother
          exact .inl (.library hother hmentions)
    | loaded hserver hpath => exact hloaded _ _ _ h hserver hpath

/-- A library put in its own place. -/
lemma set_library {library library' : Library} {supply : Supply}
    (hlibrary : world.libraries[i]? = some library) (hle : world.supply.next ≤ supply.next)
    (hdraws : library.Draws world.supply supply library') :
    world.Draws { world with supply, libraries := world.libraries.set i library' } := by
  obtain ⟨hlt, -⟩ := List.getElem?_eq_some_iff.1 hlibrary
  refine of_place (.library i) hle hlibrary (List.getElem?_set_self hlt) ?_ hdraws ?_
  · rintro (j | j) hne
    · exact List.getElem?_set_ne fun heq => hne (by rw [heq])
    · rfl
  · exact fun j server path h hserver hloaded => .inl (.loaded hserver hloaded)

/-- A server put in its own place. -/
lemma set_server {server server' : Server} {supply : Supply}
    (hserver : world.servers[i]? = some server) (hle : world.supply.next ≤ supply.next)
    (hdraws : server.Draws world.supply supply server') :
    world.Draws { world with supply, servers := world.servers.set i server' } := by
  have hself : (world.servers.set i server')[i]? = some server' := getElem?_set_self hserver
  have hbefore : world.library? (.server i) = some server.library := by
    rw [library?, hserver, Option.map_some]
  have hafter : library? { world with supply, servers := world.servers.set i server' } (.server i) =
      some server'.library := by
    rw [library?, hself, Option.map_some]
  refine of_place (.server i) hle hbefore hafter ?_ hdraws.library ?_
  · rintro (j | j) hne
    · rfl
    · have hji : i ≠ j := fun heq => hne (by rw [heq])
      simp only [library?, List.getElem?_set_ne hji]
  · intro j other path h hother hloaded
    by_cases heq : i = j
    · subst heq
      rw [hself] at hother
      cases hother
      exact (hdraws.loaded path h hloaded).imp_left (.loaded hserver)
    · exact .inl (.loaded (by rwa [List.getElem?_set_ne heq] at hother) hloaded)

end Draws

/-- An answer that says no more than that it is done tells of no handle. -/
lemma issues_done (action : Action) : action.issues (.pure .done) = [] := by
  cases action with
  | library j own | serverLibrary j own => cases own <;> rfl
  | _ => rfl

/-- An action draws from the supply what its answer and its events tell of. -/
lemma act_draws (world : World) (action : Action) :
    world.Draws (world.act action).1 ∧
      action.issues (world.act action).2 = world.supply.upTo (world.act action).1.supply := by
  have hidle : action.issues (.pure .done) = world.supply.upTo world.supply := by
    rw [issues_done, Supply.upTo_self]
  cases action with
  | library j own =>
      rw [act]
      split
      · exact ⟨.of_same rfl rfl rfl, hidle⟩
      · next library hlibrary =>
          obtain ⟨hdraws, hissues⟩ := library.act_draws world.supply own
          exact ⟨.set_library hlibrary (Library.supply_le_act _ _ _) hdraws, hissues⟩
  | serverLibrary j own =>
      rw [act]
      split
      · exact ⟨.of_same rfl rfl rfl, hidle⟩
      · next server hserver =>
          obtain ⟨hdraws, hissues⟩ := server.library.act_draws world.supply own
          exact ⟨.set_server hserver (Library.supply_le_act _ _ _) ⟨hdraws, fun _ _ => .inl⟩,
            hissues⟩
  | load j path importPath =>
      rw [act]
      split
      · exact ⟨.of_same rfl rfl rfl, hidle⟩
      · next server hserver =>
          have hdraws := (Session.start world.supply server).load_draws world.files path importPath
          exact ⟨.set_server hserver hdraws.le hdraws.server, hdraws.told⟩
  | process j path defs =>
      rw [act]
      split
      · exact ⟨.of_same rfl rfl rfl, hidle⟩
      · next server hserver =>
          have hdraws := (Session.start world.supply server).process_draws world.files path defs
          exact ⟨.set_server hserver hdraws.le hdraws.server, hdraws.told⟩
  | handle j path =>
      rw [act]
      split
      · exact ⟨.of_same rfl rfl rfl, hidle⟩
      · exact ⟨.of_same rfl rfl rfl, hidle⟩
  | write | delete => exact ⟨.of_same rfl rfl rfl, hidle⟩

/-! ### Runs -/

/-- A run issues the handles from the supply before it up to the supply after it. -/
lemma issued_eq_upTo (world : World) (actions : List Action) :
    world.supply.next ≤ (world.run actions).supply.next ∧
      world.issued actions = world.supply.upTo (world.run actions).supply := by
  induction actions using List.reverseRecOn with
  | nil => exact ⟨le_rfl, (Supply.upTo_self _).symm⟩
  | append_singleton actions action ih =>
      obtain ⟨hle, hissued⟩ := ih
      obtain ⟨hdraws, hissues⟩ := (world.run actions).act_draws action
      rw [run_snoc, issued_snoc, hissued, hissues]
      exact ⟨hle.trans hdraws.le, Supply.upTo_append hle hdraws.le⟩

/-- What is stored at a place after a run was stored there before, or has a handle that was issued
during the run. -/
lemma stores_of_run {actions : List Action} (h : (world.run actions).Stores place g) :
    world.Stores place g ∨ g ∈ world.issued actions := by
  induction actions using List.reverseRecOn with
  | nil => exact .inl h
  | append_singleton actions action ih =>
      obtain ⟨hdraws, hissues⟩ := (world.run actions).act_draws action
      rw [run_snoc] at h
      rw [issued_snoc, List.mem_append, hissues]
      obtain ⟨active, hstored⟩ := hdraws.stored
      obtain hbefore | ⟨-, hnew⟩ := hstored place g h
      · exact (ih hbefore).imp_right .inl
      · exact .inr (.inr hnew)

/-- All handles in a world were issued, and none of them has a shader at two places. -/
structure Accounted (world : World) : Prop where
  /-- What is mentioned was issued. -/
  issued : ∀ h, world.Mentions h → h ∈ Supply.fresh.upTo world.supply
  /-- What is stored at two places is stored at one. -/
  apart : ∀ place place' h, world.Stores place h → world.Stores place' h → place = place'

namespace Accounted

/-- What is stored is mentioned. -/
lemma mentions_of_stores (h : world.Stores place g) : world.Mentions g := by
  obtain ⟨library, shader, hlibrary, hshader⟩ := h
  exact .library hlibrary (.stored hshader)

/-- Before anything has happened nothing is mentioned. -/
lemma start (libraries : ℕ) (servers : List (Path × Settings)) (files : FileTree) :
    (start libraries servers files).Accounted := by
  have hserver : ∀ {i : ℕ} {server : Server},
      (World.start libraries servers files).servers[i]? = some server →
        server.library = .empty ∧ server.loaded = .empty := by
    intro i server hi
    rw [World.start, List.getElem?_map, Option.map_eq_some_iff] at hi
    obtain ⟨entry, -, rfl⟩ := hi
    exact ⟨rfl, rfl⟩
  have hlibrary : ∀ {place library},
      (World.start libraries servers files).library? place = some library → library = .empty := by
    rintro (i | i) library hi
    · exact List.eq_of_mem_replicate (List.mem_of_getElem? hi)
    · obtain ⟨server, hserver', rfl⟩ := Option.map_eq_some_iff.1 hi
      exact (hserver hserver').1
  have hnone : ∀ h, ¬ (World.start libraries servers files).Mentions h := by
    intro h hmentions
    cases hmentions with
    | library hi hmentions =>
        rw [hlibrary hi] at hmentions
        cases hmentions with
        | stored hstored => simp [Library.empty] at hstored
        | bound hbound => simp [Library.empty] at hbound
    | loaded hi hloaded => simp [(hserver hi).2] at hloaded
  exact ⟨fun h hmentions => absurd hmentions (hnone h),
    fun _ _ h hstores => absurd (mentions_of_stores hstores) (hnone h)⟩

/-- One action more. A new handle has a shader at the place of the action only, since no place had
one for it before. -/
lemma act (h : world.Accounted) (action : Action) : (world.act action).1.Accounted := by
  obtain ⟨hdraws, -⟩ := world.act_draws action
  have hbefore : ∀ {place g}, world.Stores place g →
      g ∉ world.supply.upTo (world.act action).1.supply := by
    intro place g hstores hnew
    have hold := h.issued g (mentions_of_stores hstores)
    rw [Supply.mem_upTo] at hold hnew
    omega
  obtain ⟨active, hstored⟩ := hdraws.stored
  refine ⟨fun g hg => ?_, fun place place' g hg hg' => ?_⟩
  · have hle : Supply.fresh.next ≤ world.supply.next := Nat.zero_le _
    rw [← Supply.upTo_append hle hdraws.le, List.mem_append]
    exact (hdraws.mentioned g hg).imp_left (h.issued g)
  · obtain hold | ⟨rfl, hnew⟩ := hstored place g hg
    · obtain hold' | ⟨-, hnew'⟩ := hstored place' g hg'
      · exact h.apart place place' g hold hold'
      · exact absurd hnew' (hbefore hold)
    · obtain hold' | ⟨rfl, -⟩ := hstored place' g hg'
      · exact absurd hnew (hbefore hold')
      · rfl

/-- A run. -/
lemma run (h : world.Accounted) (actions : List Action) : (world.run actions).Accounted := by
  induction actions using List.reverseRecOn with
  | nil => exact h
  | append_singleton actions action ih =>
      rw [run_snoc]
      exact ih.act action

end Accounted

/-- **Handles.** During every run of libraries and servers that share one supply the handles
0, 1, 2, ... are issued, in this order and each of them once. All handles that any library mentions
or any loaded path has were issued. No handle has a shader at two places, not even at different
times, and what has been issued and has no shader at a place never gets one there: dropped shaders,
and those of loads that fail, are not stored again. -/
theorem handles_issued_once (libraries : ℕ) (servers : List (Path × Settings)) (files : FileTree)
    (actions : List Action) :
    let world := World.start libraries servers files
    (world.issued actions =
      (List.range (world.run actions).supply.next).map fun n : ℕ => (⟨n⟩ : Handle)) ∧
    (∀ h, (world.run actions).Mentions h → h ∈ world.issued actions) ∧
    ∀ before after, actions = before ++ after → ∀ h place,
      (∀ place', (world.run before).Stores place h → (world.run actions).Stores place' h →
        place = place') ∧
      (h ∈ world.issued before → ¬ (world.run before).Stores place h →
        ¬ (world.run actions).Stores place h) := by
  intro world
  have hstart : world.Accounted := .start libraries servers files
  have hissued : ∀ actions, world.issued actions = Supply.fresh.upTo (world.run actions).supply :=
    fun actions => (world.issued_eq_upTo actions).2
  refine ⟨?_, fun h hmentions => ?_, ?_⟩
  · rw [hissued, Supply.upTo, List.range_eq_range']
    rfl
  · rw [hissued]
    exact (hstart.run actions).issued h hmentions
  · rintro before after rfl h place
    have hrun : world.run (before ++ after) = (world.run before).run after := by
      rw [run, List.foldl_append]
      rfl
    -- what is issued after a handle is stored or dropped are other handles
    have hother : h ∈ world.issued before → h ∉ (world.run before).issued after := by
      intro hbefore hafter
      rw [hissued] at hbefore
      rw [(issued_eq_upTo _ _).2] at hafter
      rw [Supply.mem_upTo] at hbefore hafter
      omega
    rw [hrun]
    refine ⟨fun place' hstores hstores' => ?_, fun hbefore hdropped hstores => ?_⟩
    · have haccounted := hstart.run before
      have hbefore : h ∈ world.issued before := by
        rw [hissued]
        exact haccounted.issued h (Accounted.mentions_of_stores hstores)
      have hstill := (stores_of_run hstores').resolve_right (hother hbefore)
      exact haccounted.apart place place' h hstores hstill
    · exact hdropped ((stores_of_run hstores).resolve_right (hother hbefore))

end World

end ShaderPreprocessor
