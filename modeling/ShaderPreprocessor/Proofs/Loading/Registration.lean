/-
What a server has loaded, and what stays of it while it loads more.

* `Server.Linked`: the tables of a server agree. Loaded paths, stored handles and asset references
  correspond to one another, and every other reference stands for the handle of a loaded path;
* `Linked.enter`, `Linked.giveUp`: to store a new path and to drop a loaded one keeps them so;
* `Server.Keeps`: loaded paths, stored shaders and references of one server that another still has,
  but for references that are claimed anew;
* `Traverses.linked_and_keeps`: a traversal leaves linked tables linked and keeps all that was
  there, whether it succeeds or fails. What it drops it has entered itself.
-/
import ShaderPreprocessor.Proofs.Loading.Traversal

namespace ShaderPreprocessor

open Session

/-- A name of its own, and not a file. -/
def ImportRef.IsCustom (ref : ImportRef) : Prop := ∃ name, ref = .custom name

/-! ### Tables that agree -/

/-- The tables of a server agree with one another and with the supply of handles. -/
structure Server.Linked (supply : Supply) (server : Server) : Prop where
  /-- An asset reference stands for the handle of its path. -/
  asset : ∀ path h, server.library.imports.get? (.asset path) = some h ↔
    server.loaded.get? path = some h
  /-- Any other reference stands for the handle of some loaded path. -/
  custom : ∀ name h, server.library.imports.get? (.custom name) = some h →
    ∃ path, server.loaded.get? path = some h
  /-- The stored handles are those of the loaded paths. -/
  stored : ∀ h, (∃ shader, server.library.shaders.get? h = some shader) ↔
    ∃ path, server.loaded.get? path = some h
  /-- Different paths have different handles. -/
  distinct : ∀ path path' h, server.loaded.get? path = some h →
    server.loaded.get? path' = some h → path = path'
  /-- The handles have been issued. -/
  issued : ∀ path h, server.loaded.get? path = some h → h.value < supply.next

namespace Server.Linked

variable {supply supply' : Supply} {server : Server} {s : Session}

/-- A server that has loaded nothing is linked. -/
lemma new (supply : Supply) (root : Path) (settings : Settings) :
    (Server.new root settings).Linked supply := by
  constructor <;> simp [Server.new, Library.empty]

/-- Handles that are issued elsewhere make no difference. -/
lemma mono (h : server.Linked supply) (hle : supply.next ≤ supply'.next) :
    server.Linked supply' := by
  refine ⟨h.asset, h.custom, h.stored, h.distinct, fun path g hg => ?_⟩
  have := h.issued path g hg
  omega

/-- What a reference stands for is the handle of a loaded path. -/
lemma loaded_of_import (h : server.Linked supply) {ref : ImportRef} {g : Handle}
    (hg : server.library.imports.get? ref = some g) :
    ∃ path, server.loaded.get? path = some g := by
  cases ref with
  | asset path => exact ⟨path, (h.asset path g).1 hg⟩
  | custom name => exact h.custom name g hg

/-- The next handle is not the handle of a loaded path. -/
lemma ne_next (h : s.server.Linked s.supply) {path : String} {g : Handle}
    (hg : s.server.loaded.get? path = some g) : s.supply.handle ≠ g := by
  intro heq
  have := h.issued path g hg
  rw [← heq] at this
  exact lt_irrefl _ this

/-- The next handle is not the handle of a stored shader. -/
lemma next_ne (h : s.server.Linked s.supply) {g : Handle} {shader : Shader}
    (hg : s.server.library.shaders.get? g = some shader) : s.supply.handle ≠ g := by
  obtain ⟨path, hpath⟩ := (h.stored g).1 ⟨shader, hg⟩
  exact h.ne_next hpath

/-- A new path under the next handle keeps the tables linked, if the shader asks for no asset
reference. -/
lemma enter (h : s.server.Linked s.supply) {path : String} {shader : Shader}
    (hnew : s.server.loaded.get? path = none)
    (hcustom : ∀ ref, shader.importPath = some ref → ref.IsCustom) :
    (s.enter path shader).server.Linked (s.enter path shader).supply := by
  have hasset : ∀ other, shader.importPath ≠ some (.asset other) := fun other heq => by
    obtain ⟨name, hname⟩ := hcustom _ heq
    cases hname
  constructor
  case asset =>
    intro other g
    rw [enter_imports, enter_loaded]
    by_cases hother : path = other
    · simp [hother]
    · have hne : ImportRef.asset path ≠ .asset other := fun heq => hother (by injection heq)
      rw [if_neg (by simp [hne, hasset]), if_neg hother]
      exact h.asset other g
  case custom =>
    intro name g hg
    rw [enter_imports] at hg
    split at hg
    · cases hg
      exact ⟨path, by rw [enter_loaded, if_pos rfl]⟩
    · obtain ⟨other, hother⟩ := h.custom name g hg
      exact ⟨other, by rw [enter_loaded, if_neg (ne_of_get? hnew hother), hother]⟩
  case stored =>
    intro g
    simp only [enter_shaders, enter_loaded]
    by_cases hown : s.supply.handle = g
    · simp only [hown, if_true]
      exact ⟨fun _ => ⟨path, by simp⟩, fun _ => ⟨shader, rfl⟩⟩
    · rw [if_neg hown, h.stored g]
      constructor
      · rintro ⟨other, hother⟩
        exact ⟨other, by rw [if_neg (ne_of_get? hnew hother), hother]⟩
      · rintro ⟨other, hother⟩
        split at hother
        · exact absurd (Option.some.inj hother) hown
        · exact ⟨other, hother⟩
  case distinct =>
    intro p q g hp hq
    rw [enter_loaded] at hp hq
    split at hp <;> split at hq
    · next h1 h2 => rw [← h1, h2]
    · exact absurd (Option.some.inj hp) (h.ne_next hq)
    · exact absurd (Option.some.inj hq) (h.ne_next hp)
    · exact h.distinct p q g hp hq
  case issued =>
    intro other g hg
    rw [enter_supply]
    rw [enter_loaded] at hg
    split at hg
    · cases hg
      simp [Supply.handle, Supply.advance]
    · have := h.issued other g hg
      simp only [Supply.advance]
      omega

/-- To drop a loaded path keeps the tables linked. -/
lemma unregister (h : s.server.Linked supply) {path : String} {g : Handle}
    (hloaded : s.server.loaded.get? path = some g) :
    (s.unregister path g).server.Linked supply := by
  -- what is left are the paths other than the dropped one, and they have other handles
  have hleft : ∀ other g', (s.unregister path g).server.loaded.get? other = some g' ↔
      s.server.loaded.get? other = some g' ∧ g' ≠ g := by
    intro other g'
    rw [unregister_loaded]
    by_cases heq : path = other
    · subst heq
      simp only [if_true, hloaded, Option.some.injEq]
      exact ⟨fun hnone => (by cases hnone), fun hboth => absurd hboth.1.symm hboth.2⟩
    · rw [if_neg heq]
      refine ⟨fun hother => ⟨hother, fun hgg => heq ?_⟩, fun hother => hother.1⟩
      exact h.distinct path other g hloaded (hgg ▸ hother)
  constructor
  case asset =>
    intro other g'
    rw [unregister_imports, hleft, h.asset]
  case custom =>
    intro name g' hg'
    rw [unregister_imports] at hg'
    obtain ⟨other, hother⟩ := h.custom name g' hg'.1
    exact ⟨other, (hleft other g').2 ⟨hother, hg'.2⟩⟩
  case stored =>
    intro g'
    simp only [hleft, unregister_shaders]
    by_cases heq : g = g'
    · subst heq
      simp
    · rw [if_neg heq, h.stored g']
      constructor
      · rintro ⟨other, hother⟩
        exact ⟨other, hother, Ne.symm heq⟩
      · rintro ⟨other, hother, -⟩
        exact ⟨other, hother⟩
  case distinct =>
    intro p q g' hp hq
    exact h.distinct p q g' ((hleft p g').1 hp).1 ((hleft q g').1 hq).1
  case issued =>
    intro other g' hg'
    exact h.issued other g' ((hleft other g').1 hg').1

/-- To give up a loaded path keeps the tables linked. -/
lemma giveUp (h : s.server.Linked supply) {path : String} {g : Handle} (e : LoadError)
    (hloaded : s.server.loaded.get? path = some g) :
    (s.giveUp path g e).server.Linked supply := by
  rw [Session.giveUp]
  split
  · exact h.unregister hloaded
  · exact h

end Server.Linked

/-! ### What is kept -/

/-- All that one server has loaded, stored and registered is so in another one, but for references
that are claimed. -/
structure Server.Keeps (claimed : ImportRef → Prop) (server server' : Server) : Prop where
  /-- Loaded paths keep their handles. -/
  loaded : ∀ path h, server.loaded.get? path = some h → server'.loaded.get? path = some h
  /-- Stored handles keep their shaders. -/
  stored : ∀ h shader, server.library.shaders.get? h = some shader →
    server'.library.shaders.get? h = some shader
  /-- References that are not claimed keep what they stand for. -/
  bound : ∀ ref h, ¬ claimed ref → server.library.imports.get? ref = some h →
    server'.library.imports.get? ref = some h

namespace Server.Keeps

variable {claimed claimed' : ImportRef → Prop} {server server' server'' : Server}

lemma refl (claimed : ImportRef → Prop) (server : Server) : server.Keeps claimed server :=
  ⟨fun _ _ h => h, fun _ _ h => h, fun _ _ _ h => h⟩

lemma trans (h : server.Keeps claimed server') (h' : server'.Keeps claimed server'') :
    server.Keeps claimed server'' :=
  ⟨fun path g hg => h'.loaded path g (h.loaded path g hg),
    fun g shader hg => h'.stored g shader (h.stored g shader hg),
    fun ref g hfree hg => h'.bound ref g hfree (h.bound ref g hfree hg)⟩

/-- More may be claimed. -/
lemma imp (h : server.Keeps claimed server') (hclaimed : ∀ ref, claimed ref → claimed' ref) :
    server.Keeps claimed' server' :=
  ⟨h.loaded, h.stored, fun ref g hfree hg => h.bound ref g (mt (hclaimed ref) hfree) hg⟩

/-- What a reference leads to is kept if it is not claimed. -/
lemma resolve (h : server.Keeps claimed server') {ref : ImportRef} {g : Handle} {shader : Shader}
    (hfree : ¬ claimed ref) (hresolve : server.library.resolve? ref = some (g, shader)) :
    server'.library.resolve? ref = some (g, shader) := by
  obtain ⟨g', himport, hmap⟩ := Option.bind_eq_some_iff.1 hresolve
  obtain ⟨shader', hshader, heq⟩ := Option.map_eq_some_iff.1 hmap
  cases heq
  simp [Library.resolve?, h.bound ref g hfree himport, h.stored g shader hshader]

/-- A new path takes nothing away but the reference that its shader claims. -/
lemma enter {s : Session} {path : String} {shader : Shader} (hlinked : s.server.Linked s.supply)
    (hnew : s.server.loaded.get? path = none) :
    s.server.Keeps (fun ref => shader.importPath = some ref) (s.enter path shader).server := by
  constructor
  case loaded =>
    intro other g hg
    rw [enter_loaded, if_neg (ne_of_get? hnew hg), hg]
  case stored =>
    intro g shader' hg
    have hne := hlinked.next_ne hg
    rw [enter_shaders, if_neg hne, hg]
  case bound =>
    intro ref g hfree hg
    have hne : ImportRef.asset path ≠ ref := fun heq => by
      rw [← heq, hlinked.asset, hnew] at hg
      cases hg
    rw [enter_imports, if_neg (by simp [hne, hfree]), hg]

/-- To give up a path that was not loaded, under a handle that was not issued, takes nothing
away. -/
lemma giveUp {s s₁ : Session} {path : String} (h : s.server.Keeps claimed s₁.server)
    (hlinked : s.server.Linked s.supply) (hnew : s.server.loaded.get? path = none)
    (e : LoadError) : s.server.Keeps claimed (s₁.giveUp path s.supply.handle e).server := by
  rw [Session.giveUp]
  split
  · constructor
    case loaded =>
      intro other g hg
      rw [unregister_loaded, if_neg (ne_of_get? hnew hg), h.loaded other g hg]
    case stored =>
      intro g shader hg
      have hne := hlinked.next_ne hg
      rw [unregister_shaders, if_neg hne, h.stored g shader hg]
    case bound =>
      intro ref g hfree hg
      obtain ⟨other, hother⟩ := hlinked.loaded_of_import hg
      exact (unregister_imports _ _ _ _ _).2 ⟨h.bound ref g hfree hg, (hlinked.ne_next hother).symm⟩
  · exact h

end Server.Keeps

/-! ### Traversals -/

/-- A reference that some errand is to register. -/
def Claims (errands : List Errand) (ref : ImportRef) : Prop :=
  ∃ errand ∈ errands, errand.importPath = some ref

lemma not_claims_unnamed (paths : List String) (ref : ImportRef) :
    ¬ Claims (unnamed paths) ref := by
  rintro ⟨errand, hmem, hclaim⟩
  obtain ⟨path, -, rfl⟩ := List.mem_map.1 hmem
  cases hclaim

lemma not_claims_dependencies (s : Session) (shader : Shader) (ref : ImportRef) :
    ¬ Claims (s.dependencies shader) ref :=
  not_claims_unnamed _ ref

/-- The dependencies of a shader claim nothing, and so no file. -/
lemma custom_of_claims_dependencies (s : Session) (shader : Shader) (ref : ImportRef)
    (h : Claims (s.dependencies shader) ref) : ref.IsCustom :=
  absurd h (not_claims_dependencies s shader ref)

lemma Claims.tail {errand : Errand} {errands : List Errand} {ref : ImportRef}
    (h : Claims errands ref) : Claims (errand :: errands) ref := by
  obtain ⟨other, hmem, hclaim⟩ := h
  exact ⟨other, List.mem_cons_of_mem _ hmem, hclaim⟩

lemma claims_head {errand : Errand} {errands : List Errand} {ref : ImportRef}
    (h : errand.importPath = some ref) : Claims (errand :: errands) ref :=
  ⟨errand, List.mem_cons_self, h⟩

/-- A file entered for an errand leaves linked tables linked and keeps what is not claimed. -/
lemma enter_errand {errand : Errand} {errands : List Errand} {s : Session} (shader : Shader)
    (hlinked : s.server.Linked s.supply) (hnew : s.server.loaded.get? errand.path = none)
    (hcustom : ∀ ref, Claims (errand :: errands) ref → ref.IsCustom) :
    (s.enter errand.path { shader with importPath := errand.importPath }).server.Linked
        (s.enter errand.path { shader with importPath := errand.importPath }).supply ∧
      s.server.Keeps (Claims (errand :: errands))
        (s.enter errand.path { shader with importPath := errand.importPath }).server := by
  have hhead : ∀ ref, errand.importPath = some ref → Claims (errand :: errands) ref :=
    fun ref href => claims_head href
  exact ⟨hlinked.enter hnew fun ref href => hcustom ref (hhead ref href),
    (Server.Keeps.enter hlinked hnew).imp hhead⟩

namespace Traverses

variable {files : FileTree} {errands : List Errand} {s s' : Session} {r : Except LoadError Unit}

/-- Handles are only ever issued. -/
lemma supply_le (h : Traverses files errands s s' r) : s.supply.next ≤ s'.supply.next := by
  induction h with
  | done => exact le_rfl
  | known _ _ ih => exact ih
  | refused => simp
  | entered _ _ _ _ ihdeps ihrest =>
      simp only [enter_supply, Supply.advance] at ihdeps
      omega
  | givenUp _ _ _ ihdeps =>
      simp only [enter_supply, Supply.advance] at ihdeps
      rw [giveUp_supply]
      omega

/-- A traversal leaves linked tables linked and keeps what was there, if only references other than
asset references are claimed. -/
lemma linked_and_keeps (h : Traverses files errands s s' r)
    (hcustom : ∀ ref, Claims errands ref → ref.IsCustom)
    (hlinked : s.server.Linked s.supply) :
    s'.server.Linked s'.supply ∧ s.server.Keeps (Claims errands) s'.server := by
  induction h with
  | done s => exact ⟨hlinked, .refl _ _⟩
  | known _ _ ih =>
      obtain ⟨hlinked', hkeeps⟩ := ih (fun ref hclaim => hcustom ref hclaim.tail) hlinked
      exact ⟨hlinked', hkeeps.imp fun ref => Claims.tail⟩
  | refused =>
      rw [refuse_server, refuse_supply]
      exact ⟨hlinked, .refl _ _⟩
  | @entered errand errands s s₁ s' shader r hnew hread hdeps hrest ihdeps ihrest =>
      have hnone := not_claims_dependencies s shader
      obtain ⟨henter, hown⟩ := enter_errand shader hlinked hnew hcustom
      obtain ⟨hlinked₁, hkeeps₁⟩ := ihdeps (custom_of_claims_dependencies s shader) henter
      obtain ⟨hlinked', hkeeps'⟩ := ihrest (fun ref hclaim => hcustom ref hclaim.tail) hlinked₁
      have hboth := hown.trans (hkeeps₁.imp fun ref hclaim => absurd hclaim (hnone ref))
      exact ⟨hlinked', hboth.trans (hkeeps'.imp fun ref => Claims.tail)⟩
  | @givenUp errand errands s s₁ shader e hnew hread hdeps ihdeps =>
      have hnone := not_claims_dependencies s shader
      obtain ⟨henter, hown⟩ := enter_errand shader hlinked hnew hcustom
      obtain ⟨hlinked₁, hkeeps₁⟩ := ihdeps (custom_of_claims_dependencies s shader) henter
      have hboth := hown.trans (hkeeps₁.imp fun ref hclaim => absurd hclaim (hnone ref))
      -- the handle to be dropped is still the one under which the path was entered
      have hloaded := hkeeps₁.loaded errand.path s.supply.handle (by rw [enter_loaded, if_pos rfl])
      rw [giveUp_supply]
      exact ⟨hlinked₁.giveUp e hloaded, hboth.giveUp hlinked hnew e⟩

/-- Dependencies leave linked tables linked and take nothing away. -/
lemma linked_and_keeps_dependencies {s₀ s₁ : Session} {shader : Shader}
    (h : Traverses files (s.dependencies shader) s₀ s₁ r) (hlinked : s₀.server.Linked s₀.supply)
    (claimed : ImportRef → Prop) :
    s₁.server.Linked s₁.supply ∧ s₀.server.Keeps claimed s₁.server := by
  obtain ⟨hlinked₁, hkeeps⟩ := h.linked_and_keeps (custom_of_claims_dependencies s shader) hlinked
  exact ⟨hlinked₁, hkeeps.imp fun ref hclaim =>
    absurd hclaim (not_claims_dependencies s shader ref)⟩

/-- The references of an entered path still stand for its handle after its dependencies. -/
lemma bound_after_dependencies {errand : Errand} {s₁ : Session} {shader : Shader}
    (h : Traverses files (s.dependencies shader)
      (s.enter errand.path { shader with importPath := errand.importPath }) s₁ r)
    (hcustom : ∀ ref, errand.importPath = some ref → ref.IsCustom)
    (hlinked : s.server.Linked s.supply) (hnew : s.server.loaded.get? errand.path = none)
    {ref : ImportRef} (href : .asset errand.path = ref ∨ errand.importPath = some ref) :
    s₁.server.library.imports.get? ref = some s.supply.handle := by
  obtain ⟨-, hkeeps⟩ :=
    h.linked_and_keeps_dependencies (hlinked.enter hnew hcustom) fun _ => False
  -- dependencies are registered under no name of their own, so that they take nothing over
  refine hkeeps.bound ref _ id ?_
  rw [enter_imports, if_pos href]

end Traverses

end ShaderPreprocessor
