/-
What becomes of a file, said of all files that can be reached from it and not of a load.

* `Library.ofUnits`: shaders put together, each under the asset reference of its path.
  `Library.shader?_ofUnits` says what references lead to;
* `Server.Units`: the shaders of the files that can be reached from a path, each with its path;
* `Server.Expands`: all these files become shaders, and the one of the path comes to an outcome in
  the library of all of them. `Server.Expands.unique` says that there is one outcome at most;
* `Server.Units.not_endless`: the outcome is a result or an error of preprocessing, if no file
  can be reached from itself;
* `Session.process_new`: what a new server answers for a path is this outcome, or the reason why a
  file that can be reached becomes no shader.
-/
import ShaderPreprocessor.Proofs.Loading.Reordering

namespace ShaderPreprocessor

open Session Relation

/-! ### Shaders put together -/

namespace Library

/-- The library of shaders, each with the path that its asset reference names. The first one counts
for a path. -/
def ofUnits : List (String × Shader) → Library
  | [] => .empty
  | (path, shader) :: units => {
    shaders := (ofUnits units).shaders.insert ⟨units.length⟩ shader
    imports := (ofUnits units).imports.insert (.asset path) ⟨units.length⟩ }

variable {units : List (String × Shader)}

/-- The handles are numbers below the number of shaders. -/
lemma value_lt_of_ofUnits {ref : ImportRef} {h : Handle}
    (hh : (ofUnits units).imports.get? ref = some h) : h.value < units.length := by
  induction units with
  | nil => cases hh
  | cons unit units ih =>
      rw [ofUnits, Table.get?_insert] at hh
      rw [List.length_cons]
      split at hh
      · cases hh
        simp
      · have := ih hh
        omega

/-- An asset reference leads to the shader of its path, and a name of its own leads nowhere. -/
lemma shader?_ofUnits (units : List (String × Shader)) (ref : ImportRef) :
    (ofUnits units).shader? ref =
      match ref with
      | .asset path => Table.search path units
      | .custom _ => none := by
  induction units with
  | nil => cases ref <;> rfl
  | cons unit units ih =>
      obtain ⟨path, shader⟩ := unit
      rw [shader?, resolve?, ofUnits, Table.get?_insert]
      by_cases heq : .asset path = ref
      · subst heq
        rw [if_pos rfl, Option.bind_some, Table.get?_insert, if_pos rfl]
        simp [Table.search]
      · have hrest : (ofUnits units).shader? ref = _ := ih
        rw [if_neg heq]
        have hsame : ((ofUnits units).imports.get? ref).bind (fun h =>
            (((ofUnits units).shaders.insert ⟨units.length⟩ shader).get? h).map (h, ·)) =
              (ofUnits units).resolve? ref := by
          refine Option.bind_congr fun h hh => ?_
          -- the new handle is none of those that references stood for
          have hlt := value_lt_of_ofUnits hh
          rw [Table.get?_insert, if_neg fun hnew => by rw [← hnew] at hlt; simp at hlt]
        rw [hsame, ← shader?, ih]
        cases ref with
        | asset other =>
            have hne : ¬ path = other := fun h => heq (by rw [h])
            simp [Table.search, hne]
        | custom name => rfl

end Library

/-- Where one shader at most is listed for a key, a look-up finds it. -/
lemma Table.search_eq_some_iff_of_unique {κ α : Type} [DecidableEq κ] {k : κ} {a : α}
    {entries : List (κ × α)}
    (hunique : ∀ b b', (k, b) ∈ entries → (k, b') ∈ entries → b = b') :
    search k entries = some a ↔ (k, a) ∈ entries := by
  induction entries with
  | nil => simp [search]
  | cons entry entries ih =>
      obtain ⟨j, b⟩ := entry
      by_cases heq : j = k
      · subst heq
        rw [search, if_pos rfl, Option.some_inj]
        constructor
        · rintro rfl
          exact List.mem_cons_self
        · intro ha
          exact hunique b a List.mem_cons_self ha
      · have hrest := ih fun b b' hb hb' =>
          hunique b b' (List.mem_cons_of_mem _ hb) (List.mem_cons_of_mem _ hb')
        rw [search, if_neg heq, hrest, List.mem_cons]
        constructor
        · exact .inr
        · rintro (hhead | htail)
          · cases hhead
            exact absurd rfl heq
          · exact htail

/-! ### All files that can be reached -/

namespace Server

/-- Units are the shaders of the files that can be reached from a path, each with its path. -/
def Units (server : Server) (files : FileTree) (path : String) (units : List (String × Shader)) :
    Prop :=
  ∀ other shader, (other, shader) ∈ units ↔ server.Reaches files [path] other ∧
    server.settings.readShader files (server.fullPath other) = .ok shader

/-- All files that can be reached from a path become shaders, and the shader of the path comes to
an outcome in the library of all of them. -/
structure Expands (server : Server) (files : FileTree) (path : String) (defs : List String)
    (outcome : Except Stop Processed) : Prop where
  /-- All files become shaders. -/
  read : ∀ other, server.Reaches files [path] other →
    ∃ shader, server.settings.readShader files (server.fullPath other) = .ok shader
  /-- The shader of the path comes to the outcome. -/
  expands : ∃ units shader, server.Units files path units ∧ (path, shader) ∈ units ∧
    ((Library.ofUnits units).preprocess defs shader).outcome = outcome

variable {server : Server} {files : FileTree} {path : String} {units : List (String × Shader)}

lemma reaches_self (server : Server) (files : FileTree) (path : String) :
    server.Reaches files [path] path :=
  ⟨path, List.mem_singleton_self path, .refl⟩

/-- What a file asks for that can be reached can be reached. -/
lemma Reaches.tail {paths : List String} {next : String} (h : server.Reaches files paths path)
    (hasks : next ∈ server.asks files path) : server.Reaches files paths next := by
  obtain ⟨start, hstart, hpath⟩ := h
  exact ⟨start, hstart, hpath.tail hasks⟩

/-- In the library of units a reference leads to the shader of a file that can be reached. -/
lemma Units.shader?_eq_some_iff (h : server.Units files path units) {other : String}
    {shader : Shader} :
    (Library.ofUnits units).shader? (.asset other) = some shader ↔
      server.Reaches files [path] other ∧
        server.settings.readShader files (server.fullPath other) = .ok shader := by
  rw [Library.shader?_ofUnits, ← h]
  refine Table.search_eq_some_iff_of_unique fun s s' hs hs' => ?_
  have hread := ((h other s).1 hs).2
  rw [((h other s').1 hs').2] at hread
  cases hread
  rfl

/-- Units of the files that can be reached exist, if there are finitely many of these. -/
lemma exists_units {order : List String}
    (horder : ∀ other, other ∈ order ↔ server.Reaches files [path] other) :
    ∃ units, server.Units files path units := by
  refine ⟨order.filterMap fun other =>
    (server.settings.readShader files (server.fullPath other)).toOption.map (other, ·),
    fun other shader => ?_⟩
  rw [List.mem_filterMap, ← horder]
  constructor
  · rintro ⟨found, hmem, hfound⟩
    cases hread : server.settings.readShader files (server.fullPath found) with
    | error e =>
        rw [hread] at hfound
        cases hfound
    | ok shader =>
        rw [hread] at hfound
        cases hfound
        exact ⟨hmem, hread⟩
  · rintro ⟨hmem, hread⟩
    refine ⟨other, hmem, ?_⟩
    rw [hread]
    rfl

/-- A shader that another one imports is that of a file that the file of the other one asks for. -/
lemma Units.exists_asks (h : server.Units files path units) {other : String}
    {shader imported : Shader}
    (hread : server.settings.readShader files (server.fullPath other) = .ok shader)
    (himports : (Library.ofUnits units).Imports shader imported) :
    ∃ next ∈ server.asks files other,
      server.settings.readShader files (server.fullPath next) = .ok imported := by
  obtain ⟨ref, href, g, hresolve⟩ := himports
  have hshader : (Library.ofUnits units).shader? ref = some imported := by
    rw [Library.shader?, hresolve, Option.map_some]
  cases ref with
  | custom name =>
      rw [Library.shader?_ofUnits] at hshader
      cases hshader
  | asset next =>
      refine ⟨next, ?_, (h.shader?_eq_some_iff.1 hshader).2⟩
      rw [asks, hread]
      exact List.mem_filterMap.2 ⟨.asset next, href, rfl⟩

/-- A shader that is imported by way of others is that of a file that is asked for by way of
others. -/
lemma Units.exists_reachable (h : server.Units files path units) {other : String}
    {shader imported : Shader} (hreaches : server.Reaches files [path] other)
    (hread : server.settings.readShader files (server.fullPath other) = .ok shader)
    (himports : ReflTransGen (Library.ofUnits units).Imports shader imported) :
    ∃ next, ReflTransGen (fun p q => q ∈ server.asks files p) other next ∧
      server.Reaches files [path] next ∧
        server.settings.readShader files (server.fullPath next) = .ok imported := by
  induction himports with
  | refl => exact ⟨other, .refl, hreaches, hread⟩
  | tail _ hstep ih =>
      obtain ⟨between, hpath, hbetween, hread'⟩ := ih
      obtain ⟨next, hasks, hnext⟩ := h.exists_asks hread' hstep
      exact ⟨next, hpath.tail hasks, hbetween.tail hasks, hnext⟩

/-- If no file can be reached from itself, imports do not lead round in a cycle. Different files
may hold the same shader, but then they ask for the same. -/
lemma Units.not_endless (h : server.Units files path units) {shader : Shader}
    (hshader : (path, shader) ∈ units)
    (hacyclic : ∀ other, server.Reaches files [path] other →
      ¬ TransGen (fun p q => q ∈ server.asks files p) other other) (defs : List String) :
    ¬ ((Library.ofUnits units).preprocess defs shader).Endless := by
  intro hend
  obtain ⟨s, hpath, hcycle⟩ := (endless_iff_circles.1 hend).exists_cycle
  obtain ⟨hself, hread⟩ := (h path shader).1 hshader
  obtain ⟨other, -, hreaches, hother⟩ := h.exists_reachable hself hread hpath
  obtain ⟨imported, hstep, hback⟩ := TransGen.head'_iff.1 hcycle
  obtain ⟨next, hasks, hnext⟩ := h.exists_asks hother hstep
  obtain ⟨again, hround, hagain, hsame⟩ := h.exists_reachable (hreaches.tail hasks) hnext hback
  refine hacyclic again hagain (TransGen.head' ?_ hround)
  rwa [asks, hsame, ← hother]

/-- In all libraries of units references lead to the same shaders, so that there is one outcome at
most. -/
lemma Expands.unique {defs : List String} {outcome outcome' : Except Stop Processed}
    (h : server.Expands files path defs outcome) (h' : server.Expands files path defs outcome') :
    outcome = outcome' := by
  obtain ⟨units, shader, hunits, hshader, rfl⟩ := h.expands
  obtain ⟨units', shader', hunits', hshader', rfl⟩ := h'.expands
  obtain ⟨-, hread⟩ := (hunits path shader).1 hshader
  obtain ⟨-, hread'⟩ := (hunits' path shader').1 hshader'
  rw [hread] at hread'
  cases hread'
  refine preprocess_outcome_congr fun _ _ ref _ => ?_
  cases ref with
  | custom name => rw [Library.shader?_ofUnits, Library.shader?_ofUnits]
  | asset other =>
      refine Option.ext fun found => ?_
      rw [hunits.shader?_eq_some_iff, hunits'.shader?_eq_some_iff]

end Server

/-! ### What a new server answers -/

namespace Session

/-- What a new server answers for a path: the outcome that the file of the path comes to, or why
one of the files that can be reached becomes no shader. -/
lemma process_new (files : FileTree) (supply : Supply) (root : Path) {settings : Settings}
    (hfollow : settings.followImports = true) (path : String) (defs : List String) :
    (∃ outcome, (Server.new root settings).Expands files path defs outcome ∧
      ((Session.start supply (.new root settings)).process files path defs).2 =
        outcome.mapError .ofStop) ∨
    ∃ other e, (Server.new root settings).Reaches files [path] other ∧
      settings.readShader files ((Server.new root settings).fullPath other) = .error e ∧
      ((Session.start supply (.new root settings)).process files path defs).2 =
        .error (.load e) := by
  obtain ⟨h, hresult, hloaded, htraverse⟩ | ⟨e, hresult, htraverse⟩ :=
    (Session.start supply (.new root settings)).load_traverses files path none
  · left
    cases hload : (Session.start supply (.new root settings)).load files path none with
    | mk s r =>
        rw [hload] at hresult hloaded htraverse
        cases hresult
        have htraverse : Traverses files (unnamed [path]) (.start supply (.new root settings)) s
          (.ok ()) := htraverse
        have hok : ((Session.start supply (.new root settings)).loadEach files [path]).2 =
            .ok () := by
          rw [loadEach, loadAll, hload]
          rfl
        have hread := (loadEach_ok_iff hfollow).1 hok
        have hself := Server.reaches_self (.new root settings) files path
        obtain ⟨order, -, horder⟩ := htraverse.explores_new hfollow
        obtain ⟨units, hunits⟩ := Server.exists_units horder
        obtain ⟨shader, hshader⟩ := hread path hself
        refine ⟨_, ⟨hread, units, shader, hunits, (hunits path shader).2 ⟨hself, hshader⟩, rfl⟩, ?_⟩
        -- the library of the server and that of the units lead to the same shaders
        have hagrees : ∀ ref, (Library.ofUnits units).shader? ref =
            s.server.library.shader? ref := by
          intro ref
          rw [htraverse.library_shader?_eq hfollow]
          cases ref with
          | custom name => exact Library.shader?_ofUnits units _
          | asset other =>
              refine Option.ext fun found => ?_
              rw [hunits.shader?_eq_some_iff, htraverse.shader?_eq_some_iff hfollow]
              rfl
        have hstored := (htraverse.shader?_eq_some_iff hfollow).2 ⟨hself, hshader⟩
        rw [Server.shader?, hloaded, Option.bind_some] at hstored
        rw [Session.process, hload, preprocess_outcome_congr fun _ _ ref _ => hagrees ref]
        dsimp only
        rw [Library.process, hstored]
        rfl
  · right
    obtain ⟨other, hother, hunread⟩ :=
      htraverse.exists_unread rfl (.new root settings) ⟨rfl, rfl⟩
    refine ⟨other, e, hother, hunread, ?_⟩
    rw [Session.process]
    cases hload : (Session.start supply (.new root settings)).load files path none with
    | mk s r =>
        rw [hload] at hresult
        cases hresult
        rfl

end Session

end ShaderPreprocessor
