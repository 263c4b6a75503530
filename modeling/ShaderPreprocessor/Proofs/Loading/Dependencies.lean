/-
What becomes of the dependencies of loaded files.

* `Traverses.isFileFault_of_dependencies`: a dependency fails only by a fault in its file, and the
  file that asks for it is dropped then;
* `Traverses.loaded_of_mem`: errands that succeed leave all their paths loaded;
* `Session.Supports`: each dependency of a shader is loaded, or was announced before the shader in a
  load that failed;
* `Traverses.supports`: so they are for every shader that a traversal stores and keeps.
-/
import ShaderPreprocessor.Proofs.Loading.FileNames
import ShaderPreprocessor.Proofs.Loading.Registration

namespace ShaderPreprocessor

open Session Text

/-! ### Faults of files -/

/-- A shader that asks for anything was decoded, so that its encoding is known. -/
lemma Settings.exists_decoder {settings : Settings} {files : FileTree} {path : Path}
    {shader : Shader} {name : String} (hread : settings.readShader files path = .ok shader)
    (hname : name ∈ assetPaths shader.imports) : ∃ decode, settings.decoder = .ok decode := by
  obtain ⟨data, text, -, htext, -⟩ := exists_text_of_dependency hread hname
  obtain ⟨decode, -, hdecoder, -⟩ := textOf_eq_ok_iff.1 htext
  exact ⟨decode, hdecoder⟩

namespace Traverses

variable {files : FileTree} {errands : List Errand} {s s' s₁ : Session}
  {r : Except LoadError Unit}

/-- With a known encoding, errands fail only by a fault in a file. -/
lemma isFileFault {decode : List UInt8 → Except DecodeError (List Char)} {e : LoadError}
    (h : Traverses files errands s s' r) (hdecoder : s.server.settings.decoder = .ok decode)
    (hr : r = .error e) : e.isFileFault = true := by
  induction h with
  | done => cases hr
  | known _ _ ih => exact ih hdecoder hr
  | refused _ hread =>
      cases hr
      exact Settings.isFileFault_of_readShader hdecoder hread
  | entered _ _ hdeps _ _ ihrest =>
      rw [hdeps.settings_root.1, enter_settings] at ihrest
      exact ihrest hdecoder hr
  | givenUp _ _ _ ihdeps =>
      rw [enter_settings] at ihdeps
      exact ihdeps hdecoder hr

/-- What a file asks for fails only by a fault in a file. -/
lemma isFileFault_of_dependencies {path : String} {shader shader' : Shader} {e : LoadError}
    (hread : s.read files path = .ok shader)
    (h : Traverses files (s.dependencies shader) (s.enter path shader') s₁ (.error e)) :
    e.isFileFault = true := by
  cases hnames : s.dependencyPaths shader with
  | nil =>
      rw [dependencies, hnames] at h
      cases h
  | cons name names =>
      have hname : name ∈ s.dependencyPaths shader := by simp [hnames]
      rw [dependencyPaths] at hname
      split at hname
      · obtain ⟨decode, hdecoder⟩ := Settings.exists_decoder hread hname
        rw [← enter_settings s path shader'] at hdecoder
        exact h.isFileFault hdecoder rfl
      · cases hname

/-- Errands that succeed leave all their paths loaded. -/
lemma loaded_of_mem (h : Traverses files errands s s' r) (hr : r = .ok ()) {errand : Errand}
    (hmem : errand ∈ errands) : ∃ g, s'.server.loaded.get? errand.path = some g := by
  induction errands generalizing s with
  | nil => cases hmem
  | cons first rest ih =>
      subst hr
      cases hmem with
      | head => exact ⟨_, h.loaded_head⟩
      | tail _ hrest =>
          cases h with
          | known _ h => exact ih h hrest
          | entered _ _ _ h => exact ih h hrest

/-- No event is ever taken back. -/
lemma events_extend (h : Traverses files errands s s' r) : s.events <+: s'.events := by
  induction h with
  | done => exact List.prefix_rfl
  | known _ _ ih => exact ih
  | refused =>
      rw [refuse]
      split <;> simp
  | entered _ _ _ _ ihdeps ihrest =>
      exact (events_extend_enter _ _ _).trans (ihdeps.trans ihrest)
  | givenUp _ _ _ ihdeps =>
      rw [giveUp_events]
      exact (events_extend_enter _ _ _).trans ihdeps

end Traverses

/-! ### Dependencies -/

/-- Some later events tell that a path was loaded under a handle. -/
def Announces (events events' : List Event) (h : Handle) : Prop :=
  ∃ path later, events' = events ++ later ∧ .loaded path h ∈ later

namespace Announces

variable {events events' events'' : List Event} {h : Handle}

lemma of_earlier (hannounces : Announces events' events'' h) (hextend : events <+: events') :
    Announces events events'' h := by
  obtain ⟨path, later, rfl, hmem⟩ := hannounces
  obtain ⟨between, rfl⟩ := hextend
  exact ⟨path, between ++ later, List.append_assoc _ _ _, List.mem_append_right _ hmem⟩

lemma later (hannounces : Announces events events' h) (hextend : events' <+: events'') :
    Announces events events'' h := by
  obtain ⟨path, later, rfl, hmem⟩ := hannounces
  obtain ⟨more, rfl⟩ := hextend
  exact ⟨path, later ++ more, List.append_assoc _ _ _, List.mem_append_left _ hmem⟩

/-- What is announced after an event stands after it. -/
lemma sublist {event : Event} (hannounces : Announces (events ++ [event]) events' h) :
    ∃ path, [event, .loaded path h].Sublist events' := by
  obtain ⟨path, later, rfl, hmem⟩ := hannounces
  refine ⟨path, ?_⟩
  rw [List.append_assoc]
  refine List.Sublist.trans ?_ (List.sublist_append_right _ _)
  exact (List.singleton_sublist.2 hmem).cons_cons event

end Announces

/-- What a traversal that came to `r` leaves of a shader that it stored under a handle. -/
structure Session.Supports (s s' : Session) (r : Except LoadError Unit) (h : Handle)
    (shader : Shader) : Prop where
  /-- The handle was announced. -/
  announced : Announces s.events s'.events h
  /-- Each dependency is loaded, or was announced before the shader and a failure came after. -/
  dependency : ∀ name ∈ assetPaths shader.imports,
    (∃ g, s'.server.loaded.get? name = some g) ∨ (∃ e, r = .error e) ∧
      ∃ path g, [.loaded name g, .loaded path h].Sublist s'.events

namespace Session.Supports

variable {files : FileTree} {errands : List Errand} {s s₀ s₁ s' : Session} {h : Handle}
  {shader : Shader} {r : Except LoadError Unit}

/-- What is supported from a later session on is supported from an earlier one on. -/
lemma earlier (hsupports : s₁.Supports s' r h shader) (hextend : s.events <+: s₁.events) :
    s.Supports s' r h shader :=
  ⟨hsupports.announced.of_earlier hextend, hsupports.dependency⟩

/-- What is supported after the first errand is supported after all. -/
lemma later {claimed : ImportRef → Prop} (hsupports : s.Supports s₁ (.ok ()) h shader)
    (hrest : Traverses files errands s₁ s' r) (hkeeps : s₁.server.Keeps claimed s'.server) :
    s.Supports s' r h shader := by
  refine ⟨hsupports.announced.later hrest.events_extend, fun name hname => .inl ?_⟩
  obtain ⟨g, hg⟩ | ⟨⟨e, he⟩, -⟩ := hsupports.dependency name hname
  · exact ⟨g, hkeeps.loaded name g hg⟩
  · cases he

/-- The dependencies of a shader that was entered and is not given up are loaded. -/
lemma entered {errand : Errand} (hfollow : s.server.settings.followImports = true)
    (hdeps : Traverses files (s.dependencies shader)
      (s.enter errand.path { shader with importPath := errand.importPath }) s₁ (.ok ())) :
    s.Supports s₁ (.ok ()) s.supply.handle { shader with importPath := errand.importPath } := by
  constructor
  case announced =>
    obtain ⟨later, hlater⟩ := hdeps.events_extend
    rw [enter_events, List.append_assoc] at hlater
    exact ⟨errand.path, _, hlater.symm, List.mem_append_left _ List.mem_cons_self⟩
  case dependency =>
    intro name hname
    refine .inl (hdeps.loaded_of_mem rfl (List.mem_map.2 ⟨name, ?_, rfl⟩))
    rw [dependencyPaths, if_pos hfollow]
    exact hname

/-- What is supported after the dependencies of a path failed is supported after the path is
dropped. The path was announced before all of them. -/
lemma unregister {e : LoadError} {path : String} {read : Shader}
    (hsupports : (s.enter path read).Supports s₁ (.error e) h shader) :
    s.Supports (s₁.unregister path s.supply.handle) (.error e) h shader := by
  have hextend := events_extend_enter s path read
  refine ⟨hsupports.announced.of_earlier hextend, fun name hname => ?_⟩
  rw [unregister_loaded]
  by_cases heq : path = name
  · subst heq
    have hannounced := hsupports.announced
    rw [enter_events] at hannounced
    obtain ⟨other, hsublist⟩ := hannounced.sublist
    exact .inr ⟨⟨e, rfl⟩, other, s.supply.handle, hsublist⟩
  · rw [if_neg heq]
    exact hsupports.dependency name hname

end Session.Supports

/-- Of every shader that a traversal stores and keeps, each dependency is loaded in the end, or the
traversal fails and the dependency was announced before the shader. -/
lemma Traverses.supports {files : FileTree} {errands : List Errand} {s s' : Session}
    {r : Except LoadError Unit} (h : Traverses files errands s s' r)
    (hcustom : ∀ ref, Claims errands ref → ref.IsCustom)
    (hlinked : s.server.Linked s.supply) (hfollow : s.server.settings.followImports = true)
    {g : Handle} {shader : Shader} (hfree : s.server.library.shaders.get? g = none)
    (hstored : s'.server.library.shaders.get? g = some shader) :
    s.Supports s' r g shader := by
  induction h generalizing g shader with
  | done => rw [hfree] at hstored; cases hstored
  | known _ _ ih =>
      exact ih (fun ref hclaim => hcustom ref hclaim.tail) hlinked hfollow hfree hstored
  | refused => rw [refuse_server, hfree] at hstored; cases hstored
  | @entered errand errands s s₁ s' read r hnew hread hdeps hrest ihdeps ihrest =>
      obtain ⟨henter, -⟩ := enter_errand read hlinked hnew hcustom
      obtain ⟨hlinked₁, hkeeps₁⟩ := hdeps.linked_and_keeps_dependencies henter fun _ => False
      obtain ⟨-, hkeeps'⟩ :=
        hrest.linked_and_keeps (fun ref hclaim => hcustom ref hclaim.tail) hlinked₁
      have hextend :=
        events_extend_enter s errand.path { read with importPath := errand.importPath }
      cases hshader₁ : s₁.server.library.shaders.get? g with
      | none =>
          -- stored for a later errand
          refine Session.Supports.earlier ?_ (hextend.trans hdeps.events_extend)
          refine ihrest (fun ref hclaim => hcustom ref hclaim.tail) hlinked₁ ?_ hshader₁ hstored
          rw [hdeps.settings_root.1, enter_settings, hfollow]
      | some shader₁ =>
          have heq := hkeeps'.stored g shader₁ hshader₁
          rw [hstored] at heq
          cases heq
          refine Session.Supports.later ?_ hrest hkeeps'
          by_cases hown : s.supply.handle = g
          · -- the entered shader itself
            subst hown
            have hentered := hkeeps₁.stored _ _ (by rw [enter_shaders, if_pos rfl])
            rw [hshader₁] at hentered
            cases hentered
            exact Session.Supports.entered hfollow hdeps
          · -- stored for a dependency of the entered shader
            refine Session.Supports.earlier ?_ hextend
            refine ihdeps (custom_of_claims_dependencies s read) henter
              (by rw [enter_settings, hfollow]) ?_ hshader₁
            rw [enter_shaders, if_neg hown, hfree]
  | @givenUp errand errands s s₁ read e hnew hread hdeps ihdeps =>
      obtain ⟨henter, -⟩ := enter_errand read hlinked hnew hcustom
      rw [giveUp, if_pos (isFileFault_of_dependencies hread hdeps), unregister_shaders] at hstored
      rw [giveUp, if_pos (isFileFault_of_dependencies hread hdeps)]
      split at hstored
      · cases hstored
      · next hown =>
          have hsupports := ihdeps (custom_of_claims_dependencies s read) henter
            (by rw [enter_settings, hfollow]) (by rw [enter_shaders, if_neg hown, hfree]) hstored
          exact hsupports.unregister

end ShaderPreprocessor
