/-
Which files a load opens, and whether they lie below the root of the server.

* `Path.Inside`: a path lies inside a directory, both by their text;
* `Path.StaysBelow`: a relative path that nowhere leads above where it starts, such as one without
  double dots (`Path.staysBelow_of_no_dots`). Taken from a directory it lies inside
  (`Path.StaysBelow.inside_join`);
* `Session.Continues`: a session that has loaded what a server has, and more;
* `Server.Pursues`: the paths that a load of a path may come to;
* `Traverses.opened_pursued`: errands open no other files;
* `Traverses.exists_read_of_loaded`, `Traverses.loaded_of_pursued`: errands that succeed open all of
  these files;
* `load_inside_iff`: a load opens files outside the root only where imports lead there, and
  `load_leaves_root`: they may.
-/
import ShaderPreprocessor.Proofs.Loading.Exploration
import ShaderPreprocessor.Proofs.Loading.Runs

namespace ShaderPreprocessor

open Session Relation

/-! ### Paths inside a directory -/

namespace Path

/-- A path lies inside a directory, both taken without regard to what exists. -/
def Inside (home : List String) (root path : Path) : Prop :=
  root.resolve home <+: path.resolve home

instance (home : List String) (root path : Path) : Decidable (Inside home root path) :=
  inferInstanceAs (Decidable (_ <+: _))

/-- A relative path that nowhere leads above where it starts: up to any place in it, at most every
second component is a double dot. -/
def StaysBelow (path : Path) : Prop :=
  path.anchor = .relative ∧ ∀ front, front <+: path.parts → 2 * front.count ".." ≤ front.length

/-- A relative path without double dots stays below. -/
lemma staysBelow_of_no_dots {path : Path} (hrelative : path.anchor = .relative)
    (hdots : ".." ∉ path.parts) : path.StaysBelow := by
  refine ⟨hrelative, fun front hfront => ?_⟩
  rw [List.count_eq_zero_of_not_mem fun hmem => hdots (hfront.subset hmem)]
  exact Nat.zero_le _

/-- Components that nowhere lead above a place lead to a place below it. How far below goes by the
number of double dots among them. -/
lemma exists_below (place : List String) {parts : List String}
    (hstays : ∀ front, front <+: parts → 2 * front.count ".." ≤ front.length) :
    ∃ below, parts.foldl descend place = place ++ below ∧
      below.length + 2 * parts.count ".." = parts.length := by
  induction parts using List.reverseRecOn with
  | nil => exact ⟨[], by simp⟩
  | append_singleton parts part ih =>
      obtain ⟨below, hplace, hlength⟩ :=
        ih fun front hfront => hstays front (hfront.trans (List.prefix_append _ _))
      have hall := hstays _ List.prefix_rfl
      rw [List.count_append, List.length_append, List.length_singleton] at hall
      rw [List.foldl_append, hplace, List.foldl_cons, List.foldl_nil, descend, List.count_append,
        List.length_append, List.length_singleton]
      by_cases hpart : part = ".."
      · subst hpart
        rw [List.count_singleton_self] at hall ⊢
        have hne : below ≠ [] := fun hnil => by
          rw [hnil, List.length_nil] at hlength
          omega
        have hpos := List.length_pos_of_ne_nil hne
        refine ⟨below.dropLast, ?_, ?_⟩
        · rw [if_pos rfl, List.dropLast_append_of_ne_nil hne]
        · rw [List.length_dropLast]
          omega
      · refine ⟨below ++ [part], ?_, ?_⟩
        · rw [if_neg hpart, List.append_assoc]
        · rw [List.count_singleton, List.length_append, List.length_singleton]
          simp only [beq_iff_eq, hpart, if_false]
          omega

/-- Taken from a directory, a path that stays below lies inside. -/
lemma StaysBelow.inside_join {path : Path} (h : path.StaysBelow) (home : List String)
    (root : Path) : Inside home root (root.join path) := by
  obtain ⟨hrelative, hstays⟩ := h
  obtain ⟨below, hbelow, -⟩ := exists_below (root.resolve home) hstays
  refine ⟨below, ?_⟩
  rw [← hbelow, join_of_relative root hrelative, resolve, resolve, List.foldl_append]

end Path

/-! ### What a load may come to -/

/-- A session looks for files and reads them as a server does, and what it has not loaded the server
has not. -/
structure Session.Continues (base : Server) (s : Session) : Prop where
  /-- Files are looked for and read in the same way. -/
  settings_root : s.server.settings = base.settings ∧ s.server.root = base.root
  /-- Nothing is loaded less. -/
  unloaded : ∀ path, s.server.loaded.get? path = none → base.loaded.get? path = none

namespace Session.Continues

variable {base : Server} {files : FileTree} {errands : List Errand} {s s' : Session}

lemma refl (s : Session) : s.Continues s.server := ⟨⟨rfl, rfl⟩, fun _ hnone => hnone⟩

/-- The file of a path is the same one. -/
lemma fullPath_eq (h : s.Continues base) (path : String) :
    s.server.fullPath path = base.fullPath path := by
  rw [Server.fullPath, Server.fullPath, h.settings_root.2]

/-- A path more is entered. -/
lemma enter (h : s.Continues base) (path : String) (shader : Shader) :
    (s.enter path shader).Continues base := by
  refine ⟨by rw [enter_settings, enter_root]; exact h.settings_root, fun other hnone => ?_⟩
  rw [enter_loaded] at hnone
  split at hnone
  · cases hnone
  · exact h.unloaded other hnone

/-- Errands that succeed drop nothing. -/
lemma traverse (h : s.Continues base) (htraverse : Traverses files errands s s' (.ok ())) :
    s'.Continues base := by
  refine ⟨?_, fun path hnone => h.unloaded path ?_⟩
  · rw [htraverse.settings_root.1, htraverse.settings_root.2]
    exact h.settings_root
  · refine Option.eq_none_iff_forall_ne_some.2 fun g hg => ?_
    rw [htraverse.loaded_of_ok rfl hg] at hnone
    cases hnone

end Session.Continues

namespace Server

/-- A load of a path may come to another one: by imports, and without going by loaded paths. -/
def Pursues (server : Server) (files : FileTree) : String → String → Prop :=
  ReflTransGen fun path next => next ∈ server.pursued files path

variable {server : Server} {files : FileTree}

/-- What a file makes necessary is gone on to, if it is not loaded. -/
lemma mem_pursued_of_read {s : Session} {shader : Shader} {path : String} {errand : Errand}
    (h : s.server.settings = server.settings ∧ s.server.root = server.root)
    (hread : s.read files path = .ok shader) (hmem : errand ∈ s.dependencies shader)
    (hnew : server.loaded.get? errand.path = none) : errand.path ∈ server.pursued files path := by
  have hdependency : errand.path ∈ s.dependencyPaths shader := by
    rw [← map_path_dependencies]
    exact List.mem_map_of_mem hmem
  rw [pursued_of_read h hread]
  exact List.mem_filter.2 ⟨hdependency, by rw [hnew, Option.isNone_none]⟩

/-- What a file goes on to is among what it makes necessary. -/
lemma exists_dependency_of_pursued {s : Session} {shader : Shader} {path next : String}
    (h : s.server.settings = server.settings ∧ s.server.root = server.root)
    (hread : s.read files path = .ok shader) (hnext : next ∈ server.pursued files path) :
    ∃ errand ∈ s.dependencies shader, errand.path = next := by
  rw [pursued_of_read h hread] at hnext
  exact ⟨⟨next, none⟩, List.mem_map_of_mem (List.mem_filter.1 hnext).1, rfl⟩

/-- What is gone on to was not loaded. -/
lemma loaded_eq_none_of_pursued {path next : String} (h : next ∈ server.pursued files path) :
    server.loaded.get? next = none := by
  rw [pursued] at h
  split at h
  · exact Option.isNone_iff_eq_none.1 (List.mem_filter.1 h).2
  · cases h

end Server

/-! ### Which files are opened -/

namespace Session

variable {s : Session} {path file : Path}

/-- At most the one file more was opened. -/
lemma mem_noteOpened (h : file ∈ (s.noteOpened path).opened) : file ∈ s.opened ∨ file = path := by
  rw [noteOpened] at h
  split at h
  · exact (List.mem_append.1 h).imp_right List.mem_singleton.1
  · exact .inl h

lemma opened_refuse (s : Session) (path : String) (e : LoadError) :
    (s.refuse path e).opened = (s.noteOpened (s.server.fullPath path)).opened := by
  rw [refuse]
  split <;> rfl

lemma opened_giveUp (s : Session) (path : String) (h : Handle) (e : LoadError) :
    (s.giveUp path h e).opened = s.opened := by
  rw [giveUp]
  split <;> rfl

lemma opened_subset_noteOpened (s : Session) (path : Path) :
    s.opened ⊆ (s.noteOpened path).opened := by
  rw [noteOpened]
  split
  · exact List.subset_append_left _ _
  · exact List.Subset.refl _

end Session

namespace Traverses

variable {files : FileTree} {errands : List Errand} {s s' : Session} {r : Except LoadError Unit}

/-- A file that was opened before, or is that of a path that some errand may come to. -/
def Opens (base : Server) (files : FileTree) (errands : List Errand) (before : List Path)
    (file : Path) : Prop :=
  file ∈ before ∨ ∃ errand ∈ errands, base.loaded.get? errand.path = none ∧
    ∃ path, base.Pursues files errand.path path ∧ file = base.fullPath path

/-- What is opened for later errands is opened for all. -/
lemma Opens.tail {base : Server} {errand : Errand} {before : List Path} {file : Path}
    (h : Opens base files errands before file) :
    Opens base files (errand :: errands) before file :=
  h.imp_right fun ⟨other, hmem, hother⟩ => ⟨other, List.mem_cons_of_mem _ hmem, hother⟩

/-- What is opened for the dependencies of an errand is opened for the errand. -/
lemma Opens.of_dependencies {base : Server} {errand : Errand} {shader shader' : Shader}
    {file : Path} (hbase : s.Continues base) (hnew : s.server.loaded.get? errand.path = none)
    (hread : s.read files errand.path = .ok shader)
    (h : Opens base files (s.dependencies shader) (s.enter errand.path shader').opened file) :
    Opens base files (errand :: errands) s.opened file := by
  have hunloaded := hbase.unloaded _ hnew
  obtain hbefore | ⟨other, hmem, hother, path, hpath, hfile⟩ := h
  · refine (mem_noteOpened hbefore).imp_right fun hfile => ?_
    refine ⟨errand, List.mem_cons_self, hunloaded, errand.path, .refl, ?_⟩
    rw [hfile, hbase.fullPath_eq]
  · exact .inr ⟨errand, List.mem_cons_self, hunloaded, path,
      hpath.head (Server.mem_pursued_of_read hbase.settings_root hread hmem hother), hfile⟩

/-- Errands open the files of the paths that they may come to, and no others, whether they succeed
or fail. -/
lemma opened_pursued {base : Server} (h : Traverses files errands s s' r)
    (hbase : s.Continues base) {file : Path} (hfile : file ∈ s'.opened) :
    Opens base files errands s.opened file := by
  induction h with
  | done => exact .inl hfile
  | known _ _ ih => exact (ih hbase hfile).tail
  | refused hnew _ =>
      rw [opened_refuse] at hfile
      refine (mem_noteOpened hfile).imp_right fun hfile => ?_
      refine ⟨_, List.mem_cons_self, hbase.unloaded _ hnew, _, .refl, ?_⟩
      rw [hfile, hbase.fullPath_eq]
  | @entered errand errands s s₁ s' shader r hnew hread hdeps _ ihdeps ihrest =>
      have hentered := hbase.enter errand.path { shader with importPath := errand.importPath }
      obtain hbefore | hlater := ihrest (hentered.traverse hdeps) hfile
      · exact .of_dependencies hbase hnew hread (ihdeps hentered hbefore)
      · exact Opens.tail (.inr hlater)
  | givenUp hnew hread _ ihdeps =>
      rw [opened_giveUp] at hfile
      exact .of_dependencies hbase hnew hread (ihdeps (hbase.enter _ _) hfile)

/-- No opened file is forgotten. -/
lemma opened_subset (h : Traverses files errands s s' r) : s.opened ⊆ s'.opened := by
  induction h with
  | done => exact List.Subset.refl _
  | known _ _ ih => exact ih
  | refused =>
      rw [opened_refuse]
      exact opened_subset_noteOpened _ _
  | entered _ _ _ _ ihdeps ihrest =>
      exact List.Subset.trans (opened_subset_noteOpened _ _) (List.Subset.trans ihdeps ihrest)
  | givenUp _ _ _ ihdeps =>
      rw [opened_giveUp]
      exact List.Subset.trans (opened_subset_noteOpened _ _) ihdeps

/-- What errands have loaded that succeed was loaded before. Or else it was read, which opened its
file, and all that it makes necessary is loaded as well. -/
lemma exists_read_of_loaded {base : Server} (h : Traverses files errands s s' r) (hr : r = .ok ())
    (hbase : s.Continues base) {path : String} {g : Handle}
    (hloaded : s'.server.loaded.get? path = some g) (hnew : s.server.loaded.get? path = none) :
    ∃ (s₀ : Session) (shader : Shader), s₀.Continues base ∧ s₀.read files path = .ok shader ∧
      base.fullPath path ∈ s'.opened ∧
      ∀ errand ∈ s₀.dependencies shader, ∃ g', s'.server.loaded.get? errand.path = some g' := by
  induction h generalizing g with
  | done =>
      rw [hnew] at hloaded
      cases hloaded
  | known _ _ ih => exact ih hr hbase hloaded hnew
  | refused => cases hr
  | @entered errand errands s s₁ s' shader r _ hread hdeps hrest ihdeps ihrest =>
      have hentered := hbase.enter errand.path { shader with importPath := errand.importPath }
      by_cases hpath : errand.path = path
      · subst hpath
        refine ⟨s, shader, hbase, hread, hrest.opened_subset (hdeps.opened_subset ?_),
          fun dependency hmem => ?_⟩
        · rw [enter_opened, noteOpened, if_pos (Settings.isSome_format_of_readShader hread),
            hbase.fullPath_eq]
          exact List.mem_append_right _ List.mem_cons_self
        · obtain ⟨g', hg'⟩ := hdeps.loaded_of_mem rfl hmem
          exact ⟨g', hrest.loaded_of_ok hr hg'⟩
      · cases hloaded₁ : s₁.server.loaded.get? path with
        | none => exact ihrest hr (hentered.traverse hdeps) hloaded hloaded₁
        | some g₁ =>
            obtain ⟨s₀, own, hs₀, hown, hopened, hdependencies⟩ :=
              ihdeps rfl hentered hloaded₁ (by rw [enter_loaded, if_neg hpath, hnew])
            refine ⟨s₀, own, hs₀, hown, hrest.opened_subset hopened, fun dependency hmem => ?_⟩
            obtain ⟨g', hg'⟩ := hdependencies dependency hmem
            exact ⟨g', hrest.loaded_of_ok hr hg'⟩
  | givenUp => cases hr

/-- What a file goes on to that errands have loaded is loaded too, if they succeed. -/
lemma loaded_of_pursued {base : Server} (h : Traverses files errands s s' (.ok ()))
    (hbase : s.Continues base) {path next : String} {g : Handle}
    (hloaded : s'.server.loaded.get? path = some g) (hnew : s.server.loaded.get? path = none)
    (hnext : next ∈ base.pursued files path) : ∃ g', s'.server.loaded.get? next = some g' := by
  obtain ⟨s₀, shader, hs₀, hread, -, hdependencies⟩ :=
    h.exists_read_of_loaded rfl hbase hloaded hnew
  obtain ⟨dependency, hmem, rfl⟩ :=
    Server.exists_dependency_of_pursued hs₀.settings_root hread hnext
  exact hdependencies dependency hmem

end Traverses

/-! ### Loads -/

/-- **Which files a load opens.** Every file that a load opens is that of a path that it may come to
from its own by imports. A path that stays below where it starts names a file inside the root. So
the load of such a path opens no file outside the root if no import leads there; and a load that
succeeds, of a path that was not loaded, opens one exactly if an import leads there that it may come
to. -/
theorem load_inside_iff {path : String} (hpath : (Path.ofText path).StaysBelow) (files : FileTree)
    (supply : Supply) (server : Server) (importPath : Option ImportRef) :
    let result := (Session.start supply server).load files path importPath
    let inside := Path.Inside files.home server.root
    (∀ file ∈ result.1.opened,
      ∃ other, server.Pursues files path other ∧ file = server.fullPath other) ∧
    inside (server.fullPath path) ∧
    (∀ other, (Path.ofText other).StaysBelow → inside (server.fullPath other)) ∧
    ((∀ other, server.Pursues files path other → inside (server.fullPath other)) →
      ∀ file ∈ result.1.opened, inside file) ∧
    ((∃ h, result.2 = .ok h) → server.loaded.get? path = none →
      ((∀ file ∈ result.1.opened, inside file) ↔
        ∀ other, server.Pursues files path other → inside (server.fullPath other))) := by
  intro result inside
  have hopened : ∀ file ∈ result.1.opened,
      ∃ other, server.Pursues files path other ∧ file = server.fullPath other := by
    intro file hfile
    obtain ⟨r, htraverse⟩ : ∃ r, Traverses files [⟨path, importPath⟩]
        (Session.start supply server) result.1 r := by
      obtain ⟨h, -, -, htraverse⟩ | ⟨e, -, htraverse⟩ :=
        load_traverses files path importPath (Session.start supply server)
      · exact ⟨_, htraverse⟩
      · exact ⟨_, htraverse⟩
    obtain hbefore | ⟨errand, hmem, -, other, hother, heq⟩ :=
      htraverse.opened_pursued (.refl _) hfile
    · cases hbefore
    · cases List.mem_singleton.1 hmem
      exact ⟨other, hother, heq⟩
  have hall : (∀ other, server.Pursues files path other → inside (server.fullPath other)) →
      ∀ file ∈ result.1.opened, inside file := by
    intro hinside file hfile
    obtain ⟨other, hother, rfl⟩ := hopened file hfile
    exact hinside other hother
  refine ⟨hopened, hpath.inside_join _ _, fun other hother => hother.inside_join _ _, hall,
    fun ⟨h, hok⟩ hnew => ⟨fun hinside other hother => ?_, hall⟩⟩
  obtain ⟨g, -, hloaded, htraverse⟩ | ⟨e, herror, -⟩ :=
    load_traverses files path importPath (Session.start supply server)
  · -- all paths that the load may come to were not loaded before, and are loaded in the end
    have hreached : server.loaded.get? other = none ∧
        ∃ g', result.1.server.loaded.get? other = some g' := by
      induction hother with
      | refl => exact ⟨hnew, g, hloaded⟩
      | tail _ hnext ih =>
          obtain ⟨hbefore, g', hg'⟩ := ih
          exact ⟨Server.loaded_eq_none_of_pursued hnext,
            htraverse.loaded_of_pursued (.refl _) hg' hbefore hnext⟩
    obtain ⟨hbefore, g', hg'⟩ := hreached
    obtain ⟨-, -, -, -, hfile, -⟩ := htraverse.exists_read_of_loaded rfl (.refl _) hg' hbefore
    exact hinside _ hfile
  · cases hok.symm.trans herror

/-- A file in a directory that asks for one in a directory below by a way that turns back once, and
for one outside. -/
def sharedAndSecret : FileTree :=
  [(["assets", "a.wgsl"], "#import \"lib/../lib/b.wgsl\"\n"), (["assets", "lib", "b.wgsl"], "b\n"),
    (["assets", "c.wgsl"], "#import \"../secret.wgsl\"\n"), (["secret.wgsl"], "s\n")].foldl
      (fun tree file => tree.put file.1 (Text.encodeUtf8 file.2.toList)) (.empty [])

/-- The first one is loaded, and the one that it asks for, from below the root alone. So no import
leads outside. -/
theorem load_inside_root :
    (Session.load sharedAndSecret "a.wgsl" none
      (Session.start .fresh (.new (.ofText "assets") {}))).2 = .ok ⟨0⟩ ∧
    (Server.new (.ofText "assets") {}).Pursues sharedAndSecret "a.wgsl" "lib/../lib/b.wgsl" ∧
    ∀ other, (Server.new (.ofText "assets") {}).Pursues sharedAndSecret "a.wgsl" other →
      Path.Inside [] (.ofText "assets") ((Server.new (.ofText "assets") {}).fullPath other) := by
  have hpath : (Path.ofText "a.wgsl").StaysBelow :=
    Path.staysBelow_of_no_dots (by decide) (by decide)
  have hload :
      let result := Session.load sharedAndSecret "a.wgsl" none
        (Session.start .fresh (.new (.ofText "assets") {}))
      result.2 = .ok ⟨0⟩ ∧ ∀ file ∈ result.1.opened, Path.Inside [] (.ofText "assets") file := by
    decide +kernel
  have hnext : "lib/../lib/b.wgsl" ∈
      (Server.new (.ofText "assets") {}).pursued sharedAndSecret "a.wgsl" := by
    decide +kernel
  obtain ⟨-, -, -, -, hiff⟩ :=
    load_inside_iff hpath sharedAndSecret .fresh (.new (.ofText "assets") {}) none
  exact ⟨hload.1, .single hnext, (hiff ⟨_, hload.1⟩ rfl).1 hload.2⟩

/-- A load of the second one opens the file outside, although its own path is relative and without
double dots. -/
theorem load_leaves_root :
    (Path.ofText "c.wgsl").anchor = .relative ∧ ".." ∉ (Path.ofText "c.wgsl").parts ∧
    ∃ file ∈ (Session.load sharedAndSecret "c.wgsl" none
      (Session.start .fresh (.new (.ofText "assets") {}))).1.opened,
        ¬ Path.Inside sharedAndSecret.home (.ofText "assets") file := by
  decide +kernel

end ShaderPreprocessor
