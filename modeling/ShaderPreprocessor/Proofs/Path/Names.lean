/-
The last components of paths, which tell what files are.

* `Path.IsComponent`: a text that is one component of a path. `Path.ofText_component` and
  `Path.toText_component` read and write it as a path of its own;
* `Path.getLast?_ofText_toText`: the last component of a relative path is still the last one after
  the path was written and read again;
* `Path.join_parent`: a path is its last component taken from its directory;
* `Path.resolve_append`: a last component other than double dots stays the last one of a place;
* `Settings.format?_congr`: what a file is read as goes by its last component, and
  `Settings.exists_last_of_format?`: a path that is read as anything has one other than double
  dots.
-/
import ShaderPreprocessor.Proofs.Text.Splits
import ShaderPreprocessor.Settings

namespace ShaderPreprocessor

open Text

/-! ### Components -/

namespace Path

variable {part text : String} {front : List String} {path : Path}

/-- A text that is one component of a path. -/
structure IsComponent (part : String) : Prop where
  /-- There is no slash in it. -/
  noSlash : '/' ∉ part.toList
  /-- It is neither empty nor a dot. -/
  isPart : isPart part.toList = true

/-- The components of a path that was read are such. -/
lemma isComponent_of_mem (h : part ∈ (ofText text).parts) : IsComponent part := by
  obtain ⟨piece, hpiece, rfl⟩ := List.mem_map.1 h
  obtain ⟨hsplit, hpart⟩ := List.mem_filter.1 hpiece
  constructor
  · rw [String.toList_ofList]
    exact not_mem_of_mem_splitOn hsplit
  · rwa [String.toList_ofList]

/-- A text without slashes starts in the working directory. -/
lemma anchor_of_noSlash {text : List Char} (h : '/' ∉ text) : Anchor.ofText text = .relative := by
  unfold Anchor.ofText
  split
  · simp at h
  · simp at h
  · simp at h
  · rfl

/-- A component by itself is a path. -/
lemma ofText_component (h : IsComponent part) : ofText part = ⟨.relative, [part]⟩ := by
  rw [ofText, anchor_of_noSlash h.noSlash, List.splitOn_eq_singleton h.noSlash,
    List.filter_cons_of_pos h.isPart, List.filter_nil, List.map_cons, List.map_nil,
    String.ofList_toList]

/-- It is written as it stands. -/
lemma toText_component (part : String) : toText ⟨.relative, [part]⟩ = part := by
  rw [toText, if_neg (by simp)]
  simp [Anchor.toText]

/-- The last component of a relative path that was written is the last one that is read. -/
lemma getLast?_ofText_toText (h : IsComponent part) (front : List String) :
    (ofText (toText ⟨.relative, front ++ [part]⟩)).parts.getLast? = some part := by
  have hlast : ∀ pieces, (((pieces ++ part.toList.splitOn '/').filter isPart).map
      String.ofList).getLast? = some part := by
    intro pieces
    rw [List.splitOn_eq_singleton h.noSlash, List.filter_append, List.filter_cons_of_pos h.isPart,
      List.filter_nil, List.map_append, List.map_cons, List.map_nil, String.ofList_toList,
      List.getLast?_concat]
  have htext : (toText ⟨.relative, front ++ [part]⟩).toList =
      ['/'].intercalate (front.map String.toList ++ [part.toList]) := by
    rw [toText, if_neg (by simp)]
    simp [Anchor.toText]
  rw [ofText, htext]
  by_cases hfront : front = []
  · rw [hfront, List.map_nil, List.nil_append, List.intercalate_singleton]
    exact hlast []
  · rw [intercalate_append_singleton (by simpa using hfront), List.splitOn_append_cons_self]
    exact hlast _

/-- A last component other than double dots is the last one of the place. -/
lemma resolve_append (home : List String) (anchor : Anchor) (front : List String)
    (hpart : part ≠ "..") :
    resolve home ⟨anchor, front ++ [part]⟩ = resolve home ⟨anchor, front⟩ ++ [part] := by
  rw [resolve, List.foldl_append, List.foldl_cons, List.foldl_nil, descend, if_neg hpart]
  rfl

/-- A path taken from a directory ends in its own last component. -/
lemma getLast?_join (base : Path) (h : path.parts.getLast? = some part) :
    (base.join path).parts.getLast? = some part := by
  rw [Path.join]
  split
  · rw [List.getLast?_append, h, Option.some_or]
  · exact h

/-- A path is its last component taken from its directory. -/
lemma join_parent (h : IsComponent part) (hparts : path.parts = front ++ [part]) :
    path.parent.join (ofText part) = path := by
  obtain ⟨anchor, parts⟩ := path
  subst hparts
  rw [ofText_component h, join_of_relative _ rfl, parent]
  simp

end Path

/-! ### What names tell -/

namespace Settings

variable {path other : Path} {part : String}

/-- What a file is read as goes by its last component. -/
lemma format?_congr (settings : Settings) (h : path.parts.getLast? = other.parts.getLast?) :
    settings.format? path = settings.format? other := by
  have hname : path.name = other.name := by rw [Path.name, Path.name, h]
  rw [format?, format?, stage?, stage?, Path.suffix, Path.suffix, Path.suffixes, Path.suffixes,
    hname]

/-- A path that is read as anything under the usual settings has a last component, other than double
dots. -/
lemma exists_last_of_format? {format : FileFormat}
    (h : ({} : Settings).format? path = some format) :
    ∃ front last, path.parts = front ++ [last] ∧ last ≠ ".." := by
  rcases List.eq_nil_or_concat path.parts with hnil | ⟨front, last, hlast⟩
  · have hsame : path.parts.getLast? = (⟨.relative, []⟩ : Path).parts.getLast? := by rw [hnil]
    rw [format?_congr _ hsame] at h
    cases h
  · rw [List.concat_eq_append] at hlast
    refine ⟨front, last, hlast, ?_⟩
    rintro rfl
    have hsame : path.parts.getLast? = (⟨.relative, [".."]⟩ : Path).parts.getLast? := by
      rw [hlast, List.getLast?_concat]
      rfl
    rw [format?_congr _ hsame] at h
    cases h

end Settings

end ShaderPreprocessor
