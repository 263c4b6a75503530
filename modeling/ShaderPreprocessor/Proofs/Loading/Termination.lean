/-
Loads end. A load goes one level deeper only by entering a path, and beyond the first level only by
entering a name that stands in a file and is not loaded; the loads of a level never drop a name as
long as they succeed.

* `Session.unloaded`: the names in files that are not loaded; to enter one leaves fewer of them
  (`card_unloaded_enter_lt`), and loads that succeed never leave more (`card_unloaded_le`);
* `loadFrom_ne_endless`: a bound above the number of names that are not loaded is not met;
* `load_ne_endless`: the bound of a load is never met;
* `load_traverses`: every load is a traversal, whether it succeeds or fails;
* `loadFrom_of_le`, `loadFrom_eq_load`: a bound that is not met is as good as any larger one.
-/
import ShaderPreprocessor.Proofs.Loading.FileNames
import ShaderPreprocessor.Proofs.Loading.Traversal

namespace ShaderPreprocessor

namespace Session

variable {files : FileTree} {settings : Settings} {s s' : Session}

/-- The names in files that are not loaded. -/
def unloaded (files : FileTree) (s : Session) : Finset String :=
  (files.names s.server.settings).toFinset.filter fun name => s.server.loaded.get? name = none

lemma mem_unloaded_iff {name : String} : name ∈ s.unloaded files ↔
    name ∈ files.names s.server.settings ∧ s.server.loaded.get? name = none := by
  rw [unloaded, Finset.mem_filter, List.mem_toFinset]

/-- There are at most as many unloaded names as names in the files. -/
lemma card_unloaded_le_length (files : FileTree) (s : Session) :
    (s.unloaded files).card ≤ (files.names s.server.settings).length := by
  calc (s.unloaded files).card
      ≤ (files.names s.server.settings).toFinset.card := Finset.card_filter_le _ _
    _ ≤ (files.names s.server.settings).length := List.toFinset_card_le _

/-- No name is unloaded after a path was entered that was not unloaded before. -/
lemma unloaded_enter_subset (path : String) (shader : Shader) :
    (s.enter path shader).unloaded files ⊆ s.unloaded files := by
  intro name hname
  rw [mem_unloaded_iff, enter_settings, enter_loaded] at hname
  refine mem_unloaded_iff.2 ⟨hname.1, ?_⟩
  have hnone := hname.2
  split at hnone
  · cases hnone
  · exact hnone

/-- To enter an unloaded name leaves fewer of them. -/
lemma card_unloaded_enter_lt {path : String} (shader : Shader) (hpath : path ∈ s.unloaded files) :
    ((s.enter path shader).unloaded files).card < (s.unloaded files).card := by
  refine Finset.card_lt_card (Finset.ssubset_iff_of_subset (unloaded_enter_subset path shader) |>.2
    ⟨path, hpath, fun hmem => ?_⟩)
  have hnone := (mem_unloaded_iff.1 hmem).2
  rw [enter_loaded, if_pos rfl] at hnone
  cases hnone

/-- Errands that succeed leave no more unloaded names than there were. -/
lemma card_unloaded_le {errands : List Errand} (h : Traverses files errands s s' (.ok ())) :
    (s'.unloaded files).card ≤ (s.unloaded files).card := by
  refine Finset.card_le_card fun name hname => ?_
  obtain ⟨hmem, hnone⟩ := mem_unloaded_iff.1 hname
  rw [h.settings_root.1] at hmem
  refine mem_unloaded_iff.2 ⟨hmem, Option.eq_none_iff_forall_ne_some.2 fun g hg => ?_⟩
  rw [h.loaded_of_ok rfl hg] at hnone
  cases hnone

/-- Several loads do not meet their bound if none of them does with as few unloaded names. -/
lemma loadAll_ne_endless {load : String → Session → Session × Except Failure Handle} {bound : ℕ}
    (hfollows : ∀ path s, Follows files ⟨path, none⟩ s (load path s))
    (hload : ∀ path s, path ∈ files.names s.server.settings → (s.unloaded files).card < bound →
      (load path s).2 ≠ .error .endless) (paths : List String) (s : Session)
    (hpaths : ∀ path ∈ paths, path ∈ files.names s.server.settings)
    (hbound : (s.unloaded files).card < bound) : (loadAll load paths s).2 ≠ .error .endless := by
  induction paths generalizing s with
  | nil =>
      intro h
      cases h
  | cons path paths ih =>
      have hfirst := hload path s (hpaths path List.mem_cons_self) hbound
      have hfollow := hfollows path s
      rw [loadAll]
      cases hresult : load path s with
      | mk s₁ r =>
          rw [hresult] at hfirst hfollow
          cases r with
          | error f =>
              intro h
              cases h
              exact hfirst rfl
          | ok h =>
              have htraverse := (hfollow.ok h rfl).1
              refine ih s₁ (fun other hother => ?_) ((card_unloaded_le htraverse).trans_lt hbound)
              rw [htraverse.settings_root.1]
              exact hpaths other (List.mem_cons_of_mem _ hother)

/-- A load that is passed on after its dependencies meets its bound only if they do. -/
lemma settle_ne_endless {path : String} {h : Handle} {result : Session × Except Failure Unit}
    (hne : result.2 ≠ .error .endless) : (settle path h result).2 ≠ .error .endless := by
  obtain ⟨s, r⟩ := result
  cases r with
  | ok u =>
      intro heq
      cases heq
  | error f =>
      cases f with
      | endless => exact absurd rfl hne
      | _ =>
          intro heq
          cases heq

/-- What a shader of a file asks for stands in the files. -/
lemma mem_names_of_dependency {path name : String} {shader shader' : Shader}
    (hread : s.read files path = .ok shader) (hname : name ∈ s.dependencyPaths shader) :
    name ∈ files.names (s.enter path shader').server.settings := by
  rw [dependencyPaths] at hname
  split at hname
  · rw [enter_settings]
    exact FileTree.mem_names hread hname
  · cases hname

/-- One step of a bounded load: it does not meet its bound if its dependencies do not. -/
lemma loadFrom_succ_ne_endless {depth : ℕ} {path : String} {importPath : Option ImportRef}
    (hdeps : ∀ shader, s.server.loaded.get? path = none → s.read files path = .ok shader →
      (loadAll (fun path => loadFrom files depth path none) (s.dependencyPaths shader)
        (s.enter path { shader with importPath := importPath })).2 ≠ .error .endless) :
    (loadFrom files (depth + 1) path importPath s).2 ≠ .error .endless := by
  rw [loadFrom_succ]
  split
  · intro heq
    cases heq
  · next hnew =>
      split
      · intro heq
        cases heq
      · next shader hread => exact settle_ne_endless (hdeps shader hnew hread)

/-- A bounded load of a name in the files does not meet a bound above the number of unloaded
names. -/
lemma loadFrom_ne_endless (depth : ℕ) (path : String) (importPath : Option ImportRef) (s : Session)
    (hpath : path ∈ files.names s.server.settings) (hdepth : (s.unloaded files).card < depth) :
    (loadFrom files depth path importPath s).2 ≠ .error .endless := by
  induction depth generalizing path importPath s with
  | zero => exact absurd hdepth (Nat.not_lt_zero _)
  | succ depth ih =>
      refine loadFrom_succ_ne_endless fun shader hnew hread => ?_
      refine loadAll_ne_endless (fun path s => follows_loadFrom files depth ⟨path, none⟩ s)
        (fun path s => ih path none s) _ _
        (fun name hname => mem_names_of_dependency hread hname) ?_
      -- the entered name is one of those that were not loaded
      have hlt := card_unloaded_enter_lt { shader with importPath := importPath }
        (mem_unloaded_iff.2 ⟨hpath, hnew⟩)
      omega

/-- The bound of a load is never met. -/
theorem load_ne_endless (files : FileTree) (path : String) (importPath : Option ImportRef)
    (s : Session) : (s.load files path importPath).2 ≠ .error .endless := by
  rw [load, depthBound]
  refine loadFrom_succ_ne_endless fun shader _ hread => ?_
  refine loadAll_ne_endless (fun path s => follows_loadFrom files _ ⟨path, none⟩ s)
    (fun path s => loadFrom_ne_endless _ path none s) _ _
    (fun name hname => mem_names_of_dependency hread hname) ?_
  have hle := card_unloaded_le_length files
    (s.enter path { shader with importPath := importPath })
  rw [enter_settings] at hle
  omega

/-- Every load is a traversal from its path. After a success the path has the handle that is
answered, and every failure is that of a file. -/
theorem load_traverses (files : FileTree) (path : String) (importPath : Option ImportRef)
    (s : Session) :
    (∃ h, (s.load files path importPath).2 = .ok h ∧
      (s.load files path importPath).1.server.loaded.get? path = some h ∧
      Traverses files [⟨path, importPath⟩] s (s.load files path importPath).1 (.ok ())) ∨
    (∃ e, (s.load files path importPath).2 = .error (.load e) ∧
      Traverses files [⟨path, importPath⟩] s (s.load files path importPath).1 (.error e)) := by
  have hfollows : Follows files ⟨path, importPath⟩ s (s.load files path importPath) :=
    follows_loadFrom files _ ⟨path, importPath⟩ s
  have hne := load_ne_endless files path importPath s
  cases hresult : (s.load files path importPath).2 with
  | ok h =>
      obtain ⟨htraverse, hloaded⟩ := hfollows.ok h hresult
      exact .inl ⟨h, rfl, hloaded, htraverse⟩
  | error f =>
      rw [hresult] at hne
      obtain ⟨e, rfl, htraverse⟩ := hfollows.error f hresult fun heq => hne (by rw [heq])
      exact .inr ⟨e, rfl, htraverse⟩

/-! ### Larger bounds -/

/-- If two ways to load differ only where the first one meets its bound, so do several loads. -/
lemma loadAll_congr {load load' : String → Session → Session × Except Failure Handle}
    (hload : ∀ path s, (load path s).2 ≠ .error .endless → load' path s = load path s)
    {paths : List String} (hne : (loadAll load paths s).2 ≠ .error .endless) :
    loadAll load' paths s = loadAll load paths s := by
  induction paths generalizing s with
  | nil => rfl
  | cons path paths ih =>
      rw [loadAll] at hne
      have hfirst : (load path s).2 ≠ .error .endless → load' path s = load path s :=
        hload path s
      rw [loadAll, loadAll]
      cases hresult : load path s with
      | mk s₁ r =>
          rw [hresult] at hne hfirst
          cases r with
          | error f =>
              rw [hfirst]
              rintro ⟨⟩
              exact hne rfl
          | ok h =>
              rw [hfirst (by simp)]
              exact ih hne

/-- Dependencies that meet the bound of a load make the load meet it. -/
lemma settle_endless {path : String} {h : Handle} {result : Session × Except Failure Unit}
    (hend : result.2 = .error .endless) : (settle path h result).2 = .error .endless := by
  obtain ⟨s, r⟩ := result
  cases hend
  rfl

/-- One level more makes no difference to a load that does not meet its bound. -/
lemma loadFrom_succ_of_ne {depth : ℕ} {path : String} {importPath : Option ImportRef}
    (hne : (loadFrom files depth path importPath s).2 ≠ .error .endless) :
    loadFrom files (depth + 1) path importPath s = loadFrom files depth path importPath s := by
  induction depth generalizing path importPath s with
  | zero => exact absurd rfl hne
  | succ depth ih =>
      rw [loadFrom_succ] at hne
      rw [loadFrom_succ, loadFrom_succ]
      cases hpath : s.server.loaded.get? path with
      | some h => rfl
      | none =>
          rw [hpath] at hne
          cases hread : s.read files path with
          | error e => rfl
          | ok shader =>
              rw [hread] at hne
              dsimp only at hne ⊢
              rw [loadAll_congr (fun path s => ih) fun hend => hne (settle_endless hend)]

/-- A load that does not meet its bound is the same under any larger one. -/
lemma loadFrom_of_le {depth depth' : ℕ} {path : String} {importPath : Option ImportRef}
    (hle : depth ≤ depth') (hne : (loadFrom files depth path importPath s).2 ≠ .error .endless) :
    loadFrom files depth' path importPath s = loadFrom files depth path importPath s := by
  induction depth', hle using Nat.le_induction with
  | base => rfl
  | succ depth' _ ih => rw [loadFrom_succ_of_ne (ih.symm ▸ hne), ih]

/-- The bound of a load is as good as any larger one. -/
lemma loadFrom_eq_load {depth : ℕ} (s : Session)
    (hdepth : depthBound s.server.settings files ≤ depth) (path : String)
    (importPath : Option ImportRef) :
    loadFrom files depth path importPath s = s.load files path importPath :=
  loadFrom_of_le hdepth (load_ne_endless files path importPath s)

end Session

end ShaderPreprocessor
