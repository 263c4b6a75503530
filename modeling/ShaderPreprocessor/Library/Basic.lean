/-
Libraries of shaders: the shaders stored by handle, and the handles that references stand for.

* `Library.resolve?`: the shader that a reference leads to;
* `Library.add`, `Library.assign`, `Library.remove`: the changes;
* `Library.Consistent`: every reference leads to a stored shader. `empty_consistent`,
  `add_consistent`, `assign_consistent` and `remove_consistent` say that the changes keep it.

A library put together from any two tables need not be consistent; a reference that leads nowhere
is an error only where it is used.
-/
import ShaderPreprocessor.Handle
import ShaderPreprocessor.Shader
import ShaderPreprocessor.Table

namespace ShaderPreprocessor

/-- Stored shaders, and what references stand for. -/
structure Library where
  /-- The stored shaders. -/
  shaders : Table Handle Shader
  /-- The handles that references stand for. -/
  imports : Table ImportRef Handle

namespace Library

/-- The library that stores nothing. -/
def empty : Library := ⟨.empty, .empty⟩

/-- The handle and the shader that a reference leads to. -/
def resolve? (library : Library) (ref : ImportRef) : Option (Handle × Shader) :=
  (library.imports.get? ref).bind fun h => (library.shaders.get? h).map fun shader => (h, shader)

/-- A shader stored under a handle, and the handle made what its import path stands for. -/
def add (library : Library) (h : Handle) (shader : Shader) : Library where
  shaders := library.shaders.insert h shader
  imports :=
    match shader.importPath with
    | some ref => library.imports.insert ref h
    | none => library.imports

/-- A reference made to stand for a handle. -/
def assign (library : Library) (ref : ImportRef) (h : Handle) : Library :=
  { library with imports := library.imports.insert ref h }

/-- A shader dropped, and every reference that stood for its handle. -/
def remove (library : Library) (h : Handle) : Library where
  shaders := library.shaders.erase h
  imports := library.imports.filter fun entry => entry.2 ≠ h

/-- Every reference stands for a stored shader. -/
def Consistent (library : Library) : Prop :=
  ∀ ref h, library.imports.get? ref = some h → library.shaders.contains h

/-- In a library that stores nothing no reference stands for anything. -/
theorem empty_consistent : empty.Consistent := by
  intro ref h href
  simp [empty] at href

/-- A shader more keeps every reference on a stored shader. -/
theorem add_consistent {library : Library} (hc : library.Consistent) (h : Handle)
    (shader : Shader) : (library.add h shader).Consistent := by
  intro ref g hg
  have hold : library.imports.get? ref = some g → (library.add h shader).shaders.contains g := by
    intro href
    have := hc ref g href
    by_cases heq : h = g <;> simp_all [add, Table.contains, Table.get?_insert]
  cases hpath : shader.importPath with
  | none =>
    simp only [add, hpath] at hg
    exact hold hg
  | some own =>
    simp only [add, hpath, Table.get?_insert] at hg
    split at hg
    · cases hg
      simp [add, Table.contains, Table.get?_insert]
    · exact hold hg

/-- A reference may be made to stand for any stored shader. -/
theorem assign_consistent {library : Library} (hc : library.Consistent) {h : Handle}
    (hh : library.shaders.contains h) (ref : ImportRef) : (library.assign ref h).Consistent := by
  intro ref' g hg
  simp only [assign, Table.get?_insert] at hg
  split at hg
  · cases hg
    exact hh
  · exact hc ref' g hg

/-- No reference to a dropped shader is left. -/
theorem remove_consistent {library : Library} (hc : library.Consistent) (h : Handle) :
    (library.remove h).Consistent := by
  intro ref g hg
  simp only [remove, Table.get?_filter, Option.filter_eq_some_iff] at hg
  have := hc ref g hg.1
  have hne : h ≠ g := fun heq => by simp [heq] at hg
  simpa [remove, Table.contains, Table.get?_erase, hne] using this

end Library

end ShaderPreprocessor
