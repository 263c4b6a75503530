/-
Loads that look up whatever they change.

To register a reference, to drop a shader and to forget a loaded path each take for granted that
there is something to change. Here they do not.

* `Session.Breakdown`: a load that fails, or finds missing what it was to drop;
* `Session.enterGuarded`, `Session.dropGuarded`: a file stored and dropped by the operations of the
  library, which refuse a handle without a shader;
* `Session.loadGuarded`: a load made of these steps;
* `enterGuarded_eq`, `dropGuarded_eq`: nothing is missing when a file was just stored, or while its
  path is loaded;
* `loadGuarded_eq`: on linked tables nothing is ever missing. A file whose dependencies fail is
  still loaded when it is dropped, since a load drops nothing but what it has entered itself.
-/
import ShaderPreprocessor.Proofs.Loading.Runs

namespace ShaderPreprocessor

namespace Session

/-! ### Steps that look before they change -/

/-- Why a guarded load has no answer. -/
inductive Breakdown where
  /-- A failure, of the load or of the library. -/
  | failure (f : Failure)
  /-- A path that is to be forgotten is not loaded. -/
  | notLoaded (path : String)

/-- The session after the file of a path was read and stored, if the library takes the reference. -/
def enterGuarded (s : Session) (path : String) (shader : Shader) :
    Session × Except Breakdown Handle :=
  let h := s.supply.handle
  let added := s.server.library.act s.supply (.add shader)
  let assigned := added.2.1.act added.1 (.assign (.asset path) h)
  let s := { s.noteOpened (s.server.fullPath path) with
    supply := assigned.1
    server := { s.server with library := assigned.2.1 } }
  match assigned.2.2.outcome with
  | .error f => (s, .error (.failure f))
  | .ok _ =>
    ({ s with server := { s.server with loaded := s.server.loaded.insert path h } }.note
      (.loaded path h), .ok h)

/-- A path forgotten and its shader dropped, if they are there. -/
def dropGuarded (s : Session) (path : String) (h : Handle) : Session × Except Breakdown Unit :=
  if s.server.loaded.contains path then
    let removed := s.server.library.act s.supply (.remove h)
    ({ s with
      supply := removed.1
      server := { s.server with
        library := removed.2.1
        loaded := s.server.loaded.erase path } },
      (removed.2.2.outcome.mapError .failure).map fun _ => ())
  else (s, .error (.notLoaded path))

/-- Paths loaded in order, up to the first that breaks down. -/
def loadAllGuarded (load : String → Session → Session × Except Breakdown Handle) :
    List String → Session → Session × Except Breakdown Unit
  | [], s => (s, .ok ())
  | path :: paths, s =>
    match load path s with
    | (s, .ok _) => loadAllGuarded load paths s
    | (s, .error b) => (s, .error b)

/-- The session after the dependencies of a stored path. A fault in a file, and nothing else, makes
the path be dropped. -/
def settleGuarded (path : String) (h : Handle) :
    Session × Except Breakdown Unit → Session × Except Breakdown Handle
  | (s, .ok _) => (s, .ok h)
  | (s, .error (.failure (.load e))) =>
    if e.isFileFault then
      match s.dropGuarded path h with
      | (s, .ok _) => (s, .error (.failure (.load e)))
      | (s, .error b) => (s, .error b)
    else (s, .error (.failure (.load e)))
  | (s, .error b) => (s, .error b)

/-- A path loaded by guarded steps, and the files that follow from it, at most `depth` nested in one
another. -/
def loadGuardedFrom (files : FileTree) :
    ℕ → String → Option ImportRef → Session → Session × Except Breakdown Handle
  | 0, _, _, s => (s, .error (.failure .endless))
  | depth + 1, path, importPath, s =>
    match s.server.loaded.get? path with
    | some h => (s, .ok h)
    | none =>
      match s.read files path with
      | .error e => (s.refuse path e, .error (.failure (.load e)))
      | .ok shader =>
        match s.enterGuarded path { shader with importPath := importPath } with
        | (s', .error b) => (s', .error b)
        | (s', .ok h) =>
          settleGuarded path h
            (loadAllGuarded (fun path => loadGuardedFrom files depth path none)
              (s.dependencyPaths shader) s')

/-- A path loaded by guarded steps with all that follows from it. -/
def loadGuarded (files : FileTree) (path : String) (importPath : Option ImportRef) (s : Session) :
    Session × Except Breakdown Handle :=
  s.loadGuardedFrom files (depthBound s.server.settings files) path importPath

/-! ### Nothing is missing -/

/-- What a load comes to, as one that might have broken down. -/
def unbroken {α : Type} (result : Session × Except Failure α) : Session × Except Breakdown α :=
  (result.1, result.2.mapError .failure)

/-- The library takes the reference of a shader that was just stored. -/
lemma enterGuarded_eq (s : Session) (path : String) (shader : Shader) :
    s.enterGuarded path shader = (s.enter path shader, .ok s.supply.handle) := by
  have hstored : (s.server.library.add s.supply.handle shader).shaders.contains
      s.supply.handle = true := by
    simp [Library.add, Table.contains, Table.get?_insert]
  have hassigned : (s.server.library.act s.supply (.add shader)).2.1.act
      (s.server.library.act s.supply (.add shader)).1 (.assign (.asset path) s.supply.handle) =
        (s.supply.advance, (s.server.library.add s.supply.handle shader).assign (.asset path)
          s.supply.handle, .pure .done) := if_pos hstored
  simp only [enterGuarded, hassigned]
  simp [enter, register, note, Traced.pure]

/-- A path that is loaded under a handle with a shader is there to be dropped. -/
lemma dropGuarded_eq {s : Session} {path : String} {h g : Handle} {shader : Shader}
    (hloaded : s.server.loaded.get? path = some g)
    (hstored : s.server.library.shaders.get? h = some shader) :
    s.dropGuarded path h = (s.unregister path h, .ok ()) := by
  have hpath : s.server.loaded.contains path = true := by simp [Table.contains, hloaded]
  have hhandle : s.server.library.shaders.contains h = true := by simp [Table.contains, hstored]
  have hremoved : s.server.library.act s.supply (.remove h) =
      (s.supply, s.server.library.remove h, .pure .done) := if_pos hhandle
  rw [dropGuarded, if_pos hpath, hremoved]
  rfl

/-- A path whose dependencies fail is dropped as it would be without a look, if it is there. -/
lemma settleGuarded_eq {path : String} {h : Handle} {result : Session × Except Failure Unit}
    (hthere : ∀ e, result.2 = .error (.load e) → result.1.server.loaded.get? path = some h ∧
      ∃ shader, result.1.server.library.shaders.get? h = some shader) :
    settleGuarded path h (unbroken result) = unbroken (settle path h result) := by
  obtain ⟨s, f | u⟩ := result
  · cases f with
    | load e =>
        obtain ⟨hloaded, shader, hstored⟩ := hthere e rfl
        change (if e.isFileFault then _ else _) = unbroken (if e.isFileFault then _ else _, _)
        split
        · rw [dropGuarded_eq hloaded hstored]
          rfl
        · rfl
    | _ => rfl
  · rfl

variable {files : FileTree}

/-- Paths are loaded in order as they would be without a look, if each of them is. -/
lemma loadAllGuarded_eq {guarded : String → Session → Session × Except Breakdown Handle}
    {load : String → Session → Session × Except Failure Handle}
    (hload : ∀ path s, s.server.Linked s.supply → guarded path s = unbroken (load path s))
    (hfollows : ∀ path s, Follows files ⟨path, none⟩ s (load path s)) (paths : List String)
    {s : Session} (hlinked : s.server.Linked s.supply) :
    loadAllGuarded guarded paths s = unbroken (loadAll load paths s) := by
  induction paths generalizing s with
  | nil => rfl
  | cons path paths ih =>
      have hfollow := hfollows path s
      rw [loadAllGuarded, loadAll, hload path s hlinked]
      cases hresult : load path s with
      | mk s₁ r =>
          rw [hresult] at hfollow
          cases r with
          | error f => rfl
          | ok h =>
              have hclaims : ∀ ref, Claims [⟨path, none⟩] ref → ref.IsCustom :=
                custom_of_claims path (by simp)
              exact ih ((hfollow.ok h rfl).1.linked_and_keeps hclaims hlinked).1

/-- A bounded load on linked tables never misses what it is to change. -/
lemma loadGuardedFrom_eq (depth : ℕ) (path : String) {importPath : Option ImportRef}
    (hcustom : ∀ ref, importPath = some ref → ref.IsCustom) {s : Session}
    (hlinked : s.server.Linked s.supply) :
    loadGuardedFrom files depth path importPath s =
      unbroken (loadFrom files depth path importPath s) := by
  induction depth generalizing path importPath s with
  | zero => rfl
  | succ depth ih =>
      rw [loadGuardedFrom, loadFrom_succ]
      cases hpath : s.server.loaded.get? path with
      | some h => rfl
      | none =>
          cases hread : s.read files path with
          | error e => rfl
          | ok shader =>
              have hfollows := fun path s => follows_loadFrom files depth ⟨path, none⟩ s
              have henter :
                  (s.enter path { shader with importPath := importPath }).server.Linked _ :=
                hlinked.enter hpath hcustom
              dsimp only
              rw [enterGuarded_eq]
              dsimp only
              rw [loadAllGuarded_eq (fun path s => ih path (by simp)) hfollows _ henter]
              refine settleGuarded_eq fun e he => ?_
              -- the dependencies keep the path that they were loaded for, whatever they come to
              obtain ⟨e', -, hdeps⟩ := (followsAll_of_follows hfollows _ _).error _ he (by simp)
              obtain ⟨-, hkeeps⟩ :=
                Traverses.linked_and_keeps_dependencies hdeps henter fun _ => False
              exact ⟨hkeeps.loaded path _ (by rw [enter_loaded, if_pos rfl]), _,
                hkeeps.stored _ _ (by rw [enter_shaders, if_pos rfl])⟩

/-- A load on linked tables never misses what it is to change. -/
theorem loadGuarded_eq (path : String) {importPath : Option ImportRef}
    (hcustom : ∀ ref, importPath = some ref → ref.IsCustom) {s : Session}
    (hlinked : s.server.Linked s.supply) :
    s.loadGuarded files path importPath = unbroken (s.load files path importPath) :=
  loadGuardedFrom_eq _ path hcustom hlinked

end Session

end ShaderPreprocessor
