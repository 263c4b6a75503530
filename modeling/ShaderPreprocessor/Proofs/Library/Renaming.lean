/-
Libraries under other handles.

* `Renaming`: a renaming of handles that keeps their order, and so leads no two to one;
* `Renaming.Lists`: a renaming leads 0, 1, 2, ... to the handles of a list, in order. There is one
  for every increasing list (`Renaming.exists_lists`);
* `Table.mapKeys`, `Table.mapValues`: tables with other keys or values. Look-ups and changes go over
  into one another;
* `Library.rename`, `Action.rename`, `Reply.rename`, `Failure.rename`, `Call.rename`: a library, an
  operation and what it comes to, with all handles renamed;
* `Library.process_rename`: what a handle is preprocessed to does not depend on handles;
* `Library.act_rename`: an operation under other handles comes to the same under other handles, if
  the handle that it issues is the one to come.
-/
import ShaderPreprocessor.Proofs.Expansion.Agreement
import ShaderPreprocessor.Proofs.Library.Handles

namespace ShaderPreprocessor

/-! ### Renamings -/

/-- A renaming of handles that keeps their order. -/
structure Renaming where
  /-- The other name of a handle. -/
  apply : Handle → Handle
  /-- Later handles have later names. -/
  increasing : ∀ g h : Handle, g < h → apply g < apply h

namespace Renaming

instance : CoeFun Renaming fun _ => Handle → Handle := ⟨apply⟩

/-- Different handles have different names. -/
lemma injective (σ : Renaming) : Function.Injective σ := by
  intro g h heq
  obtain hlt | hvalue | hlt := lt_trichotomy g.value h.value
  · have hnames : (σ g).value < (σ h).value := σ.increasing g h hlt
    rw [heq] at hnames
    omega
  · exact congrArg Handle.mk hvalue
  · have hnames : (σ h).value < (σ g).value := σ.increasing h g hlt
    rw [heq] at hnames
    omega

/-- A renaming lists handles: it leads 0, 1, 2, ... to them, in order. -/
def Lists (σ : Renaming) (handles : List Handle) : Prop :=
  ∀ (k : ℕ) (h : Handle), handles[k]? = some h → σ ⟨k⟩ = h

variable {σ : Renaming} {handles handles' : List Handle} {h : Handle}

/-- What lists handles lists the first of them. -/
lemma Lists.left (hlists : σ.Lists (handles ++ handles')) : σ.Lists handles := by
  intro k h hk
  have hlt := (List.getElem?_eq_some_iff.1 hk).1
  exact hlists k h (by rw [List.getElem?_append_left hlt, hk])

/-- The handle after listed ones is led to by their number. -/
lemma Lists.next (hlists : σ.Lists (handles ++ [h])) : σ ⟨handles.length⟩ = h :=
  hlists handles.length h (by simp)

/-- Every listed handle is the name of another one. -/
lemma Lists.exists_apply (hlists : σ.Lists handles) (hmem : h ∈ handles) : ∃ g, σ g = h := by
  obtain ⟨k, hk⟩ := List.mem_iff_getElem?.1 hmem
  exact ⟨⟨k⟩, hlists k h hk⟩

/-- The name of a number: the handle of that number in a list, or one above a bound. -/
def nameOf (handles : List Handle) (bound k : ℕ) : Handle :=
  (handles[k]?).getD ⟨k + bound⟩

/-- The names of numbers increase if the handles do and stay below the bound. -/
lemma nameOf_lt {bound j k : ℕ} (hsorted : handles.Pairwise (· < ·))
    (hbelow : ∀ h ∈ handles, h.value < bound) (hlt : j < k) :
    nameOf handles bound j < nameOf handles bound k := by
  rw [nameOf, nameOf]
  by_cases hk : k < handles.length
  · have hj : j < handles.length := hlt.trans hk
    rw [List.getElem?_eq_getElem hj, List.getElem?_eq_getElem hk]
    exact List.pairwise_iff_getElem.1 hsorted j k hj hk hlt
  · rw [List.getElem?_eq_none (Nat.le_of_not_lt hk)]
    by_cases hj : j < handles.length
    · rw [List.getElem?_eq_getElem hj]
      have hvalue := hbelow _ (List.getElem_mem hj)
      change (handles[j]).value < (k : ℤ) + bound
      omega
    · rw [List.getElem?_eq_none (Nat.le_of_not_lt hj)]
      change (j : ℤ) + bound < (k : ℤ) + bound
      omega

/-- Increasing handles from 0 on can be listed. No number below 0 is renamed. -/
lemma exists_lists {bound : ℕ} (hsorted : handles.Pairwise (· < ·))
    (hbounds : ∀ h ∈ handles, 0 ≤ h.value ∧ h.value < bound) :
    ∃ σ : Renaming, σ.Lists handles := by
  have hname : ∀ k, 0 ≤ (nameOf handles bound k).value := by
    intro k
    rw [nameOf]
    cases hk : handles[k]? with
    | none =>
        change 0 ≤ (k : ℤ) + bound
        omega
    | some h => exact (hbounds h (List.mem_of_getElem? hk)).1
  refine ⟨⟨fun h => if 0 ≤ h.value then nameOf handles bound h.value.toNat else h, ?_⟩, ?_⟩
  · intro g h hlt
    have hvalue : g.value < h.value := hlt
    by_cases hg : 0 ≤ g.value
    · rw [if_pos hg, if_pos (hg.trans hvalue.le)]
      exact nameOf_lt hsorted (fun h hh => (hbounds h hh).2) (by omega)
    · rw [if_neg hg]
      split
      · have := hname h.value.toNat
        change g.value < (nameOf handles bound h.value.toNat).value
        omega
      · exact hlt
  · intro k h hk
    simp [nameOf, hk]

end Renaming

/-! ### Tables -/

namespace Table

variable {κ ι α β : Type}

/-- A table is determined by its entries. -/
lemma eq_of_entries {t t' : Table κ α} (h : t.entries = t'.entries) : t = t' := by
  cases t
  cases t'
  cases h
  rfl

/-- A table with its keys renamed. -/
def mapKeys (f : κ → ι) (hf : Function.Injective f) (t : Table κ α) : Table ι α where
  entries := t.entries.map fun entry => (f entry.1, entry.2)
  nodup := by
    have hkeys : (t.entries.map fun entry => (f entry.1, entry.2)).map Prod.fst =
        (t.entries.map Prod.fst).map f := by simp
    rw [hkeys]
    exact t.nodup.map hf

/-- A table with its values changed. -/
def mapValues (f : α → β) (t : Table κ α) : Table κ β where
  entries := t.entries.map fun entry => (entry.1, f entry.2)
  nodup := by
    have hkeys : (t.entries.map fun entry => (entry.1, f entry.2)).map Prod.fst =
        t.entries.map Prod.fst := by simp
    rw [hkeys]
    exact t.nodup

variable [DecidableEq κ] [DecidableEq ι]

/-- A renamed key is found where the key was. -/
@[simp] lemma get?_mapKeys (f : κ → ι) (hf : Function.Injective f) (t : Table κ α) (k : κ) :
    (t.mapKeys f hf).get? (f k) = t.get? k := by
  obtain ⟨entries, nodup⟩ := t
  simp only [get?, mapKeys]
  clear nodup
  induction entries with
  | nil => rfl
  | cons entry entries ih => simp only [List.map_cons, search, hf.eq_iff, ih]

/-- A key has its value, changed. -/
@[simp] lemma get?_mapValues (f : α → β) (t : Table κ α) (k : κ) :
    (t.mapValues f).get? k = (t.get? k).map f := by
  obtain ⟨entries, nodup⟩ := t
  simp only [get?, mapValues]
  clear nodup
  induction entries with
  | nil => rfl
  | cons entry entries ih =>
      simp only [List.map_cons, search, ih]
      split <;> rfl

/-- To drop the entry of a renamed key is to drop that of the key. -/
lemma mapKeys_erase (f : κ → ι) (hf : Function.Injective f) (t : Table κ α) (k : κ) :
    (t.erase k).mapKeys f hf = (t.mapKeys f hf).erase (f k) := by
  refine eq_of_entries ?_
  simp only [mapKeys, erase, filter, List.filter_map]
  congr 2
  funext entry
  simp [hf.eq_iff]

/-- To set the entry of a renamed key is to set that of the key. -/
lemma mapKeys_insert (f : κ → ι) (hf : Function.Injective f) (t : Table κ α) (k : κ) (a : α) :
    (t.insert k a).mapKeys f hf = (t.mapKeys f hf).insert (f k) a := by
  refine eq_of_entries ?_
  have herase := congrArg entries (mapKeys_erase f hf t k)
  simp only [mapKeys] at herase
  simp only [mapKeys, insert, List.map_cons, herase]

/-- To set an entry to a changed value is to change the value that it is set to. -/
lemma mapValues_insert (f : α → β) (t : Table κ α) (k : κ) (a : α) :
    (t.insert k a).mapValues f = (t.mapValues f).insert k (f a) := by
  refine eq_of_entries ?_
  simp only [mapValues, insert, erase, filter, List.map_cons, List.filter_map]
  rfl

omit [DecidableEq κ] in
/-- To test changed values is to test the values for what they are changed to. -/
lemma mapValues_filter (f : α → β) (t : Table κ α) {p : κ × α → Bool} {q : κ × β → Bool}
    (hpq : ∀ k a, p (k, a) = q (k, f a)) :
    (t.filter p).mapValues f = (t.mapValues f).filter q := by
  refine eq_of_entries ?_
  simp only [mapValues, filter, List.filter_map]
  congr 2
  funext entry
  exact hpq entry.1 entry.2

end Table

/-! ### Libraries, operations and answers -/

/-- An answer with its handles renamed. -/
def Reply.rename (f : Handle → Handle) : Reply → Reply
  | .handle h => .handle (f h)
  | .foundHandle h => .foundHandle (h.map f)
  | .done => .done
  | .foundShader shader => .foundShader shader
  | .truth b => .truth b
  | .count n => .count n
  | .processed shader => .processed shader

/-- A failure with its handle renamed, if it is about one. -/
def Failure.rename (f : Handle → Handle) : Failure → Failure
  | .unregistered h => .unregistered (f h)
  | .endless => .endless
  | .process error => .process error
  | .load error => .load error

namespace Library

/-- A library with its handles renamed. -/
def rename (σ : Renaming) (library : Library) : Library where
  shaders := library.shaders.mapKeys σ σ.injective
  imports := library.imports.mapValues σ

/-- The handles that are passed to an operation. -/
def Action.handles : Action → List Handle
  | .assign _ h => [h]
  | .get h => [h]
  | .remove h => [h]
  | .contains h => [h]
  | .process h _ => [h]
  | .add _ => []
  | .handleFor _ => []
  | .count => []
  | .clear => []
  | .issue => []

/-- An operation with its handles renamed. -/
def Action.rename (f : Handle → Handle) : Action → Action
  | .assign ref h => .assign ref (f h)
  | .get h => .get (f h)
  | .remove h => .remove (f h)
  | .contains h => .contains (f h)
  | .process h defs => .process (f h) defs
  | .add shader => .add shader
  | .handleFor ref => .handleFor ref
  | .count => .count
  | .clear => .clear
  | .issue => .issue

/-- What an operation comes to, with all handles renamed. -/
def renameOutcome (f : Handle → Handle) (outcome : Except Failure Reply) :
    Except Failure Reply :=
  (outcome.map (Reply.rename f)).mapError (Failure.rename f)

/-- A call with all handles renamed. -/
def Call.rename (f : Handle → Handle) (call : Call) : Call :=
  ⟨call.action.rename f, renameOutcome f call.outcome⟩

variable (σ : Renaming) (library : Library)

/-- An operation is a renamed one if all handles that are passed to it are names. -/
lemma Action.exists_rename {f : Handle → Handle} {action : Action}
    (h : ∀ g ∈ action.handles, ∃ g', f g' = g) : ∃ action' : Action, action'.rename f = action := by
  choose! back hback using h
  refine ⟨action.rename back, ?_⟩
  cases action with
  | assign ref g => exact congrArg (Action.assign ref) (hback g List.mem_cons_self)
  | get g | remove g | contains g => exact congrArg _ (hback g List.mem_cons_self)
  | process g defs => exact congrArg (Action.process · defs) (hback g List.mem_cons_self)
  | add | handleFor | count | clear | issue => rfl

/-- What an operation issues has its names if the operation and what it comes to have theirs. -/
lemma Action.issues_rename (f : Handle → Handle) (action : Action)
    (outcome : Except Failure Reply) :
    (action.rename f).issues (renameOutcome f outcome) = (action.issues outcome).map f := by
  cases outcome with
  | error e => cases action <;> rfl
  | ok reply => cases action <;> cases reply <;> rfl

/-! ### What is found under other handles -/

@[simp] lemma get?_shaders_rename (h : Handle) :
    (library.rename σ).shaders.get? (σ h) = library.shaders.get? h :=
  Table.get?_mapKeys σ σ.injective library.shaders h

@[simp] lemma get?_imports_rename (ref : ImportRef) :
    (library.rename σ).imports.get? ref = (library.imports.get? ref).map σ :=
  Table.get?_mapValues σ library.imports ref

@[simp] lemma contains_shaders_rename (h : Handle) :
    (library.rename σ).shaders.contains (σ h) = library.shaders.contains h := by
  rw [Table.contains, get?_shaders_rename, Table.contains]

@[simp] lemma size_shaders_rename :
    (library.rename σ).shaders.size = library.shaders.size :=
  List.length_map _

/-- References lead to the same shaders. -/
lemma shader?_rename (ref : ImportRef) :
    (library.rename σ).shader? ref = library.shader? ref := by
  simp only [shader?, resolve?, get?_imports_rename]
  cases library.imports.get? ref with
  | none => rfl
  | some h =>
      simp only [Option.map_some, Option.bind_some, get?_shaders_rename]
      cases library.shaders.get? h <;> rfl

/-- A handle is preprocessed to the same. -/
lemma process_rename (h : Handle) (defs : List String) :
    ((library.rename σ).process (σ h) defs).outcome =
      (library.process h defs).outcome.mapError (Failure.rename σ) := by
  have hpreprocess : ∀ shader, ((library.rename σ).preprocess defs shader).outcome =
      (library.preprocess defs shader).outcome := fun shader =>
    preprocess_outcome_congr fun _ _ ref _ => shader?_rename σ library ref
  have hstop : ∀ stop, (Failure.ofStop stop).rename σ = .ofStop stop := fun stop => by
    cases stop <;> rfl
  rw [process_outcome, process_outcome, get?_shaders_rename]
  cases library.shaders.get? h with
  | none => rfl
  | some shader =>
      dsimp only
      rw [hpreprocess]
      cases (library.preprocess defs shader).outcome with
      | ok result => rfl
      | error stop => exact congrArg Except.error (hstop stop).symm

/-! ### Changes under other handles -/

lemma rename_empty : empty.rename σ = empty := rfl

lemma rename_add (h : Handle) (shader : Shader) :
    (library.add h shader).rename σ = (library.rename σ).add (σ h) shader := by
  simp only [rename, add, Table.mapKeys_insert]
  cases shader.importPath with
  | none => rfl
  | some ref => simp only [Table.mapValues_insert]

lemma rename_assign (ref : ImportRef) (h : Handle) :
    (library.assign ref h).rename σ = (library.rename σ).assign ref (σ h) := by
  simp only [rename, assign, Table.mapValues_insert]

lemma rename_remove (h : Handle) :
    (library.remove h).rename σ = (library.rename σ).remove (σ h) := by
  have himports : (library.imports.filter fun entry => entry.2 ≠ h).mapValues σ =
      (library.imports.mapValues σ).filter fun entry => entry.2 ≠ σ h :=
    Table.mapValues_filter σ library.imports fun ref g => by simp [σ.injective.eq_iff]
  simp only [rename, remove, Table.mapKeys_erase, himports]

/-- An operation under other handles: the library and the outcome are the same under other handles,
if the handle that it issues is the name of the one that is issued otherwise. -/
lemma act_rename (supply supply' : Supply) (action : Action)
    (hissued : ∀ h ∈ (action.rename σ).issues
      ((library.rename σ).act supply (action.rename σ)).2.2.outcome, σ supply'.handle = h) :
    ((library.rename σ).act supply (action.rename σ)).2.1 =
        (library.act supply' action).2.1.rename σ ∧
      ((library.rename σ).act supply (action.rename σ)).2.2.outcome =
        renameOutcome σ (library.act supply' action).2.2.outcome := by
  cases action with
  | add shader =>
      have hnext : σ supply'.handle = supply.handle := hissued _ List.mem_cons_self
      simp only [Action.rename, act, rename_add, hnext]
      exact ⟨trivial, congrArg (Except.ok ∘ Reply.handle) hnext.symm⟩
  | issue =>
      have hnext : σ supply'.handle = supply.handle := hissued _ List.mem_cons_self
      exact ⟨rfl, congrArg (Except.ok ∘ Reply.handle) hnext.symm⟩
  | assign ref h =>
      simp only [Action.rename, act, contains_shaders_rename]
      split
      · exact ⟨(rename_assign σ library ref h).symm, rfl⟩
      · exact ⟨rfl, rfl⟩
  | remove h =>
      simp only [Action.rename, act, contains_shaders_rename]
      split
      · exact ⟨(rename_remove σ library h).symm, rfl⟩
      · exact ⟨rfl, rfl⟩
  | get h =>
      simp only [Action.rename, act, get?_shaders_rename]
      exact ⟨trivial, rfl⟩
  | handleFor ref =>
      simp only [Action.rename, act, get?_imports_rename]
      exact ⟨trivial, rfl⟩
  | contains h =>
      simp only [Action.rename, act, contains_shaders_rename]
      exact ⟨trivial, rfl⟩
  | count =>
      simp only [Action.rename, act, size_shaders_rename]
      exact ⟨trivial, rfl⟩
  | clear => exact ⟨rfl, rfl⟩
  | process h defs =>
      refine ⟨rfl, ?_⟩
      simp only [Action.rename, act, Traced.map, process_rename]
      cases (library.process h defs).outcome <;> rfl

end Library

end ShaderPreprocessor
