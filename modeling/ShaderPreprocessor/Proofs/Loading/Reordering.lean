/-
Loads in another order.

* `Session.loadEach`: paths loaded one after another;
* `Server.Reaches`: a path can be reached from some of them by what files ask for;
* `Traverses.exists_unread`: loads that fail have reached a file that does not become a shader;
* `Traverses.shader?_eq_some_iff`: loads on a new server that succeed leave the paths that can be
  reached, each with what its file is read as;
* `loadEach_ok_iff`: loads on a new server succeed exactly if all files that can be reached become
  shaders;
* `loadEach_perm`: in another order they come to the same, up to handles.
-/
import ShaderPreprocessor.Proofs.Expansion.Agreement
import ShaderPreprocessor.Proofs.Loading.Exploration
import ShaderPreprocessor.Proofs.Loading.Runs

namespace ShaderPreprocessor

open Session Relation

/-! ### One load after another -/

namespace Session

/-- Paths loaded one after another, up to the first that fails. -/
def loadEach (files : FileTree) (paths : List String) (s : Session) :
    Session × Except Failure Unit :=
  loadAll (fun path => load files path none) paths s

/-- Loads one after another are a traversal, whether they succeed or fail. -/
lemma loadEach_traverses (files : FileTree) (paths : List String) (s : Session) :
    ((s.loadEach files paths).2 = .ok () ∧
      Traverses files (unnamed paths) s (s.loadEach files paths).1 (.ok ())) ∨
    ∃ e, (s.loadEach files paths).2 = .error (.load e) ∧
      Traverses files (unnamed paths) s (s.loadEach files paths).1 (.error e) := by
  rw [loadEach]
  induction paths generalizing s with
  | nil => exact .inl ⟨rfl, .done s⟩
  | cons path paths ih =>
      rw [loadAll, unnamed, List.map_cons]
      obtain ⟨h, hresult, -, hfirst⟩ | ⟨e, hresult, hfirst⟩ := s.load_traverses files path none
      · cases hload : s.load files path none with
        | mk s₁ r =>
            rw [hload] at hresult hfirst
            cases hresult
            obtain ⟨hok, hrest⟩ | ⟨e, herror, hrest⟩ := ih s₁
            · exact .inl ⟨hok, hfirst.cons_ok hrest⟩
            · exact .inr ⟨e, herror, hfirst.cons_ok hrest⟩
      · cases hload : s.load files path none with
        | mk s₁ r =>
            rw [hload] at hresult hfirst
            cases hresult
            exact .inr ⟨e, rfl, hfirst.cons_error⟩

/-- Loads one after another that succeed are a traversal that succeeds. -/
lemma traverses_of_loadEach {files : FileTree} {paths : List String} {s : Session}
    (h : (s.loadEach files paths).2 = .ok ()) :
    Traverses files (unnamed paths) s (s.loadEach files paths).1 (.ok ()) := by
  obtain ⟨-, htraverse⟩ | ⟨e, herror, -⟩ := s.loadEach_traverses files paths
  · exact htraverse
  · rw [h] at herror
    cases herror

end Session

/-! ### What can be reached -/

/-- A path can be reached from some paths by what the files of a server ask for. -/
def Server.Reaches (server : Server) (files : FileTree) (paths : List String) (path : String) :
    Prop :=
  ∃ start ∈ paths, ReflTransGen (fun p q => q ∈ server.asks files p) start path

namespace Server.Reaches

variable {server : Server} {files : FileTree} {paths paths' : List String} {path start : String}

lemma mono (h : server.Reaches files paths path) (hsub : paths ⊆ paths') :
    server.Reaches files paths' path := by
  obtain ⟨start, hmem, hpath⟩ := h
  exact ⟨start, hsub hmem, hpath⟩

/-- What can be reached from what a path asks for can be reached from the path. -/
lemma of_asks (h : server.Reaches files (server.asks files start) path) :
    server.Reaches files [start] path := by
  obtain ⟨next, hmem, hpath⟩ := h
  exact ⟨start, List.mem_singleton_self _, .head hmem hpath⟩

end Server.Reaches

namespace Traverses

variable {files : FileTree} {errands : List Errand} {s s' : Session} {r : Except LoadError Unit}

/-- Loads that fail have reached a file that does not become a shader. -/
lemma exists_unread {e : LoadError} (h : Traverses files errands s s' r) (hr : r = .error e)
    (server : Server)
    (hserver : s.server.settings = server.settings ∧ s.server.root = server.root) :
    ∃ path, server.Reaches files (errands.map Errand.path) path ∧
      server.settings.readShader files (server.fullPath path) = .error e := by
  induction h with
  | done => cases hr
  | known _ _ ih =>
      obtain ⟨path, hreaches, hread⟩ := ih hr hserver
      exact ⟨path, hreaches.mono (List.subset_cons_self _ _), hread⟩
  | @refused errand errands s e' _ hread =>
      cases hr
      rw [Session.read, Server.fullPath, hserver.1, hserver.2] at hread
      exact ⟨errand.path, ⟨errand.path, List.mem_cons_self, .refl⟩, hread⟩
  | entered _ _ hdeps _ _ ihrest =>
      rw [hdeps.settings_root.1, hdeps.settings_root.2, enter_settings, enter_root] at ihrest
      obtain ⟨path, hreaches, hread⟩ := ihrest hr hserver
      exact ⟨path, hreaches.mono (List.subset_cons_self _ _), hread⟩
  | @givenUp errand errands s s₁ shader e' _ hread _ ihdeps =>
      rw [enter_settings, enter_root] at ihdeps
      obtain ⟨path, hreaches, hunread⟩ := ihdeps hr hserver
      refine ⟨path, ?_, hunread⟩
      have hsub : (s.dependencies shader).map Errand.path ⊆ server.asks files errand.path := by
        rw [Server.asks_of_read hserver hread, map_path_dependencies, dependencyPaths]
        split
        · exact List.Subset.refl _
        · exact List.nil_subset _
      exact (hreaches.mono hsub).of_asks.mono (by simp)

end Traverses

/-! ### Loads on a new server -/

/-- The shader that is stored for a path. -/
def Server.shader? (server : Server) (path : String) : Option Shader :=
  (server.loaded.get? path).bind server.library.shaders.get?

/-- Where tables are linked, an asset reference leads to the shader that is stored for its path. -/
lemma Server.Linked.library_shader?_asset {supply : Supply} {server : Server}
    (h : server.Linked supply) (path : String) :
    server.library.shader? (.asset path) = server.shader? path := by
  have himport : server.library.imports.get? (.asset path) = server.loaded.get? path :=
    Option.ext fun g => h.asset path g
  rw [Library.shader?, Library.resolve?, himport, Server.shader?]
  cases server.loaded.get? path with
  | none => rfl
  | some g =>
      rw [Option.bind_some, Option.bind_some, Option.map_map]
      exact Option.map_id'

section

variable {files : FileTree} {paths paths' : List String} {supply supply' : Supply} {root : Path}
  {settings : Settings} {s s' : Session}

/-- Loads on a new server that succeed enter what can be reached. -/
lemma Traverses.explores_new
    (h : Traverses files (unnamed paths) (.start supply (.new root settings)) s (.ok ()))
    (hfollow : settings.followImports = true) :
    ∃ order, (Session.start supply (.new root settings)).Explores files (unnamed paths) s order ∧
      ∀ path, path ∈ order ↔ (Server.new root settings).Reaches files paths path := by
  have hmissing : ∀ others, (Server.new root settings).missing others = others := by
    intro others
    exact List.filter_eq_self.2 fun _ _ => rfl
  obtain ⟨order, hexplores, hvisits⟩ :=
    h.explores rfl (fun ref hclaim => absurd hclaim (not_claims_unnamed paths ref))
      (.new supply root settings) (.refl _)
  refine ⟨order, hexplores, fun path => ?_⟩
  have hasks : (Server.new root settings).asksNew files = (Server.new root settings).asks files :=
    funext fun other => hmissing _
  change Visits ((Server.new root settings).pursued files) []
    ((Server.new root settings).missing _) order at hvisits
  rw [Server.pursued_of_follow hfollow, hasks, hmissing, map_path_unnamed] at hvisits
  exact hvisits.mem_iff_reachable

/-- The paths that they leave loaded are those that can be reached. -/
lemma Traverses.exists_loaded_iff
    (h : Traverses files (unnamed paths) (.start supply (.new root settings)) s (.ok ()))
    (hfollow : settings.followImports = true) {path : String} :
    (∃ g, s.server.loaded.get? path = some g) ↔
      (Server.new root settings).Reaches files paths path := by
  obtain ⟨order, hexplores, hmem⟩ := h.explores_new hfollow
  rw [← Option.isSome_iff_exists, ← not_iff_not, ← hmem, Option.not_isSome_iff_eq_none,
    hexplores.loaded_eq_none_iff]
  exact and_iff_right rfl

/-- What they leave stored for a path that can be reached is what its file is read as. -/
lemma Traverses.shader?_eq_some_iff
    (h : Traverses files (unnamed paths) (.start supply (.new root settings)) s (.ok ()))
    (hfollow : settings.followImports = true) {path : String} {shader : Shader} :
    s.server.shader? path = some shader ↔ (Server.new root settings).Reaches files paths path ∧
      settings.readShader files ((Server.new root settings).fullPath path) = .ok shader := by
  obtain ⟨order, hexplores, hmem⟩ := h.explores_new hfollow
  have hstored : path ∈ order → ∃ read,
      settings.readShader files ((Server.new root settings).fullPath path) = .ok read ∧
        s.server.shader? path = some read := by
    intro hpath
    obtain ⟨g, hg⟩ := (Supply.exists_mem_issue supply).2 hpath
    obtain ⟨read, importPath, hread, hstored, hclaims⟩ := hexplores.stored path g hg
    have hnone : importPath = none := Option.eq_none_iff_forall_ne_some.2 fun ref href =>
      not_claims_unnamed paths ref (hclaims ref href)
    refine ⟨read, hread, ?_⟩
    rw [Server.shader?, (hexplores.entered path g hg).2, Option.bind_some, hstored, hnone,
      ← Settings.importPath_of_readShader hread]
  rw [← hmem]
  constructor
  · intro hshader
    have hpath : path ∈ order := by
      by_contra hnot
      rw [Server.shader?, hexplores.others path hnot] at hshader
      cases hshader
    obtain ⟨read, hread, hsame⟩ := hstored hpath
    rw [hshader] at hsame
    cases hsame
    exact ⟨hpath, hread⟩
  · rintro ⟨hpath, hread⟩
    obtain ⟨read, hread', hsame⟩ := hstored hpath
    rw [hread] at hread'
    cases hread'
    exact hsame

/-- Loads on a new server succeed exactly if all files that can be reached become shaders. -/
lemma loadEach_ok_iff (hfollow : settings.followImports = true) :
    ((Session.start supply (.new root settings)).loadEach files paths).2 = .ok () ↔
      ∀ path, (Server.new root settings).Reaches files paths path →
        ∃ shader, settings.readShader files ((Server.new root settings).fullPath path) =
          .ok shader := by
  obtain ⟨hok, htraverse⟩ | ⟨e, herror, htraverse⟩ :=
    (Session.start supply (.new root settings)).loadEach_traverses files paths
  · refine ⟨fun _ path hpath => ?_, fun _ => hok⟩
    obtain ⟨order, hexplores, hmem⟩ := htraverse.explores_new hfollow
    obtain ⟨g, hg⟩ := (Supply.exists_mem_issue supply).2 ((hmem path).2 hpath)
    obtain ⟨shader, -, hread, -⟩ := hexplores.stored path g hg
    exact ⟨shader, hread⟩
  · rw [herror]
    refine ⟨fun h => (by cases h), fun hread => ?_⟩
    obtain ⟨path, hpath, hunread⟩ :=
      htraverse.exists_unread rfl (.new root settings) ⟨rfl, rfl⟩
    rw [map_path_unnamed] at hpath
    obtain ⟨shader, hshader⟩ := hread path hpath
    cases hshader.symm.trans hunread

/-- References lead to what is stored for paths, and a name of its own leads nowhere. -/
lemma Traverses.library_shader?_eq
    (h : Traverses files (unnamed paths) (.start supply (.new root settings)) s (.ok ()))
    (hfollow : settings.followImports = true) (ref : ImportRef) :
    s.server.library.shader? ref =
      match ref with
      | .asset path => s.server.shader? path
      | .custom _ => none := by
  have hlinked := (h.linked_and_keeps
    (fun ref hclaim => absurd hclaim (not_claims_unnamed paths ref)) (.new supply root settings)).1
  cases ref with
  | asset path => exact hlinked.library_shader?_asset path
  | custom name =>
      obtain ⟨order, hexplores, -⟩ := h.explores_new hfollow
      have hnone : s.server.library.imports.get? (.custom name) = none := by
        refine Option.eq_none_iff_forall_ne_some.2 fun g hg => ?_
        obtain hbefore | hclaim | ⟨path, -, hasset⟩ := hexplores.bound _ g hg
        · cases hbefore
        · exact not_claims_unnamed paths _ hclaim
        · cases hasset
      rw [Library.shader?, Library.resolve?, hnone]
      rfl

end

/-! ### Loads in two orders -/

/-- A path for which a shader is stored is preprocessed as the shader is. -/
lemma Session.process_outcome {files : FileTree} {s : Session} {path : String} {shader : Shader}
    (h : s.server.shader? path = some shader) (defs : List String) :
    (s.process files path defs).2 =
      (s.server.library.preprocess defs shader).outcome.mapError .ofStop := by
  obtain ⟨g, hloaded, hstored⟩ := Option.bind_eq_some_iff.1 h
  have hload : s.load files path none = (s, .ok g) := by
    rw [load, depthBound, loadFrom_succ, hloaded]
  rw [Session.process, hload]
  dsimp only
  rw [Library.process, hstored]
  rfl

/-- **Loads in another order.** If paths are loaded one after another on a new server and all loads
succeed, they do so in every other order on a new server, whatever handles have been issued before.
The same paths are loaded in the end, with the same shaders, and each of them is preprocessed to the
same result or fails for the same reason. -/
theorem loadEach_perm {files : FileTree} {root : Path} {settings : Settings}
    {paths paths' : List String} {supply : Supply} (supply' : Supply)
    (hfollow : settings.followImports = true) (hperm : paths.Perm paths')
    (hok : ((Session.start supply (.new root settings)).loadEach files paths).2 = .ok ()) :
    let s := ((Session.start supply (.new root settings)).loadEach files paths).1
    let result := (Session.start supply' (.new root settings)).loadEach files paths'
    let s' := result.1
    result.2 = .ok () ∧
    (∀ path, (∃ h, s.server.loaded.get? path = some h) ↔
      ∃ h', s'.server.loaded.get? path = some h') ∧
    ∀ path h h', s.server.loaded.get? path = some h → s'.server.loaded.get? path = some h' →
      (∃ shader, s.server.library.shaders.get? h = some shader ∧
        s'.server.library.shaders.get? h' = some shader) ∧
      ∀ defs, (s.process files path defs).2 = (s'.process files path defs).2 := by
  intro s result s'
  have hreaches : ∀ path, (Server.new root settings).Reaches files paths path ↔
      (Server.new root settings).Reaches files paths' path := fun path =>
    ⟨fun h => h.mono hperm.subset, fun h => h.mono hperm.symm.subset⟩
  have hok' : result.2 = .ok () :=
    (loadEach_ok_iff hfollow).2 fun path hpath =>
      (loadEach_ok_iff hfollow).1 hok path ((hreaches path).2 hpath)
  have htraverse := traverses_of_loadEach hok
  have htraverse' := traverses_of_loadEach hok'
  -- for every path and for every reference the same shader is stored on both sides
  have hpaths : ∀ path, s.server.shader? path = s'.server.shader? path := by
    intro path
    refine Option.ext fun shader => ?_
    rw [htraverse.shader?_eq_some_iff hfollow, htraverse'.shader?_eq_some_iff hfollow, hreaches]
  have hrefs : ∀ ref, s.server.library.shader? ref = s'.server.library.shader? ref := by
    intro ref
    rw [htraverse.library_shader?_eq hfollow, htraverse'.library_shader?_eq hfollow]
    cases ref with
    | asset path => exact hpaths path
    | custom name => rfl
  refine ⟨hok', fun path => ?_, fun path h h' hloaded hloaded' => ?_⟩
  · rw [htraverse.exists_loaded_iff hfollow, htraverse'.exists_loaded_iff hfollow, hreaches]
  · have hread := (htraverse.exists_loaded_iff hfollow).1 ⟨h, hloaded⟩
    obtain ⟨shader, hshader⟩ := (loadEach_ok_iff hfollow).1 hok path hread
    have hstored := (htraverse.shader?_eq_some_iff hfollow).2 ⟨hread, hshader⟩
    have hstored' := hpaths path ▸ hstored
    refine ⟨⟨shader, ?_, ?_⟩, fun defs => ?_⟩
    · rwa [Server.shader?, hloaded] at hstored
    · rwa [Server.shader?, hloaded'] at hstored'
    · rw [process_outcome hstored, process_outcome hstored',
        preprocess_outcome_congr fun _ _ ref _ => hrefs ref]

/-- A file that two others ask for, and that asks for a name of its own. One of the others ends in a
byte that would be no text in UTF-8. -/
def sharedDependency : FileTree :=
  (World.ofFiles [("a.wgsl", "#import \"b.wgsl\"\na\n"), ("b.wgsl", "b\n#import lib\n")]).files.put
    ["c.wgsl"] ("#import \"b.wgsl\"\n".toList.map (fun c => UInt8.ofNat c.toNat) ++ [0xA4])

/-- A byte in Latin-9. -/
def latin9 (b : UInt8) : Char :=
  match b.toNat with
  | 0xA4 => '€'
  | 0xA6 => 'Š'
  | 0xA8 => 'š'
  | 0xB4 => 'Ž'
  | 0xB8 => 'ž'
  | 0xBC => 'Œ'
  | 0xBD => 'œ'
  | 0xBE => 'Ÿ'
  | n => Char.ofNat n

/-- Text files are in Latin-9, for which the machine has a codec. -/
def inLatin9 : Settings where
  encoding := "ISO-8859-15"
  codecs :=
    { find? := fun name =>
        if name = "iso_8859_15" then some (.text fun data => .ok (data.map latin9)) else none
      locale := "utf-8" }

/-- The two others, loaded in both orders. The handles differ, and in both cases the first one fails
to be preprocessed for want of the name. -/
theorem loadEach_swapped :
    let s := (Session.start .fresh (.new (.ofText "") inLatin9)).loadEach sharedDependency
      ["a.wgsl", "c.wgsl"]
    let s' := (Session.start ⟨5⟩ (.new (.ofText "") inLatin9)).loadEach sharedDependency
      ["c.wgsl", "a.wgsl"]
    s.2 = .ok () ∧ s'.2 = .ok () ∧
      s.1.server.loaded.get? "a.wgsl" = some ⟨0⟩ ∧ s'.1.server.loaded.get? "a.wgsl" = some ⟨7⟩ ∧
      s'.1.server.shader? "c.wgsl" = some ⟨.text .wgsl "#import \"b.wgsl\"\n€", none⟩ ∧
      (s'.1.process sharedDependency "a.wgsl" []).2 =
        .error (.process (.unresolved (.custom "lib"))) := by
  have hok : ((Session.start .fresh (.new (.ofText "") inLatin9)).loadEach sharedDependency
      ["a.wgsl", "c.wgsl"]).2 = .ok () := by
    decide +kernel
  have hloaded : ((Session.start .fresh (.new (.ofText "") inLatin9)).loadEach sharedDependency
      ["a.wgsl", "c.wgsl"]).1.server.loaded.get? "a.wgsl" = some ⟨0⟩ := by
    decide +kernel
  have hloaded' : ((Session.start ⟨5⟩ (.new (.ofText "") inLatin9)).loadEach sharedDependency
      ["c.wgsl", "a.wgsl"]).1.server.loaded.get? "a.wgsl" = some ⟨7⟩ := by
    decide +kernel
  have hshader : ((Session.start ⟨5⟩ (.new (.ofText "") inLatin9)).loadEach sharedDependency
      ["c.wgsl", "a.wgsl"]).1.server.shader? "c.wgsl" =
        some ⟨.text .wgsl "#import \"b.wgsl\"\n€", none⟩ := by
    decide +kernel
  have hfails : (((Session.start .fresh (.new (.ofText "") inLatin9)).loadEach sharedDependency
      ["a.wgsl", "c.wgsl"]).1.process sharedDependency "a.wgsl" []).2 =
        .error (.process (.unresolved (.custom "lib"))) := by
    decide +kernel
  obtain ⟨hok', -, hsame⟩ := loadEach_perm ⟨5⟩ rfl (.swap "c.wgsl" "a.wgsl" []) hok
  refine ⟨hok, hok', hloaded, hloaded', hshader, ?_⟩
  rw [← (hsame _ _ _ hloaded hloaded').2, hfails]

end ShaderPreprocessor
