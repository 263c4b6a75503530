/-
What a library holds, told by the calls that were made on it.

* `Library.Call`, `World.history`: the calls on a library during a run, each with what it came to;
* `Library.Since`: something was done, and has not been undone since;
* `Library.Stored`, `Library.Bound`: what the calls say of a handle, and of a reference;
* `Library.Recounts`: the tables of a library are what its calls say. `Recounts.act` is one call
  more, `World.run_recounts` a whole run;
* `World.library_told_by_history`: the answers of a library after a run.

A binding is lost when its reference is bound again or when the shader it leads to is dropped, not
when the shader that first brought it is. So its last call counts, and the drops of its handle.
-/
import ShaderPreprocessor.Proofs.Expansion.Faults
import ShaderPreprocessor.Proofs.Loading.Runs

namespace ShaderPreprocessor

namespace Library

/-! ### Calls -/

/-- A call of an operation on a library, and what it came to. -/
structure Call where
  /-- The operation. -/
  action : Action
  /-- Its answer, or why there is none. -/
  outcome : Except Failure Reply

namespace Call

/-- The handle that a call stored a shader under, and the shader. -/
def stored? : Call → Option (Handle × Shader)
  | ⟨.add shader, .ok (.handle h)⟩ => some (h, shader)
  | _ => none

/-- The reference that a call made stand for a handle, and the handle. -/
def bound? : Call → Option (ImportRef × Handle)
  | ⟨.add shader, .ok (.handle h)⟩ => shader.importPath.map fun ref => (ref, h)
  | ⟨.assign ref h, .ok .done⟩ => some (ref, h)
  | _ => none

/-- The shader of a handle is dropped by a call: alone, or with all others. -/
def Drops (h : Handle) : Call → Prop
  | ⟨.remove g, .ok .done⟩ => g = h
  | ⟨.clear, .ok .done⟩ => True
  | _ => False

end Call

/-- Something was done by a call, and nothing undid it since. -/
def Since (does undoes : Call → Prop) (history : List Call) : Prop :=
  ∃ before call after, history = before ++ call :: after ∧ does call ∧
    ∀ later ∈ after, ¬ undoes later

/-- A shader was stored under a handle, and not dropped since. -/
def Stored (history : List Call) (h : Handle) (shader : Shader) : Prop :=
  Since (fun call => call.stored? = some (h, shader)) (Call.Drops h) history

/-- A reference was last bound to a handle, and its shader was not dropped since. -/
def Bound (history : List Call) (ref : ImportRef) (h : Handle) : Prop :=
  Since (fun call => call.bound? = some (ref, h))
    (fun call => call.Drops h ∨ ∃ g, call.bound? = some (ref, g)) history

section Since

variable {does undoes : Call → Prop} {history : List Call} {call : Call} {ref : ImportRef}
  {h : Handle} {shader : Shader}

/-- Before the first call nothing was done. -/
lemma not_since_nil : ¬ Since does undoes [] := by
  rintro ⟨before, call, after, hsplit, -⟩
  exact List.append_ne_nil_of_right_ne_nil before (List.cons_ne_nil call after) hsplit.symm

/-- With one call more, something stands if that call did it, or if it stood and the call did not
undo it. -/
lemma since_snoc : Since does undoes (history ++ [call]) ↔
    does call ∨ Since does undoes history ∧ ¬ undoes call := by
  constructor
  · rintro ⟨before, done, after, hsplit, hdone, hafter⟩
    obtain rfl | ⟨after, last, rfl⟩ := after.eq_nil_or_concat
    · obtain ⟨-, hlast⟩ := List.append_inj' hsplit rfl
      cases hlast
      exact .inl hdone
    · rw [List.concat_eq_append, ← List.cons_append, ← List.append_assoc] at hsplit
      obtain ⟨hhistory, hlast⟩ := List.append_inj' hsplit rfl
      cases hlast
      exact .inr ⟨⟨before, done, after, hhistory, hdone, fun later hlater =>
        hafter later (by simp [hlater])⟩, hafter call (by simp)⟩
  · rintro (hdone | ⟨⟨before, done, after, rfl, hdone, hafter⟩, hcall⟩)
    · exact ⟨history, call, [], rfl, hdone, by simp⟩
    · refine ⟨before, done, after ++ [call], by simp, hdone, fun later hlater => ?_⟩
      obtain hlater | hlater := List.mem_append.1 hlater
      · exact hafter later hlater
      · cases List.mem_singleton.1 hlater
        exact hcall

/-- What is stored after one call more. -/
lemma stored_snoc : Stored (history ++ [call]) h shader ↔
    call.stored? = some (h, shader) ∨ Stored history h shader ∧ ¬ call.Drops h :=
  since_snoc

/-- What is bound after one call more. -/
lemma bound_snoc : Bound (history ++ [call]) ref h ↔
    call.bound? = some (ref, h) ∨
      Bound history ref h ∧ ¬ (call.Drops h ∨ ∃ g, call.bound? = some (ref, g)) :=
  since_snoc

end Since

/-! ### One call more -/

/-- The tables of a library are what its calls say. The handles of its shaders were issued, and its
references lead to its shaders. -/
structure Recounts (history : List Call) (supply : Supply) (library : Library) : Prop where
  /-- The shaders are those that were stored and not dropped. -/
  shaders : ∀ h shader, library.shaders.get? h = some shader ↔ Stored history h shader
  /-- The references stand for what they were last bound to, if that was not dropped. -/
  imports : ∀ ref h, library.imports.get? ref = some h ↔ Bound history ref h
  /-- The handles of the shaders were issued. -/
  issued : ∀ h shader, library.shaders.get? h = some shader → h.value < supply.next
  /-- Every reference stands for a stored shader. -/
  consistent : library.Consistent

namespace Recounts

variable {history : List Call} {supply supply' : Supply} {library : Library}

/-- A library on which no call was made holds nothing. -/
lemma empty (supply : Supply) : Recounts [] supply .empty where
  shaders _ _ := by simp [Library.empty, Stored, not_since_nil]
  imports _ _ := by simp [Library.empty, Bound, not_since_nil]
  issued _ _ h := by simp [Library.empty] at h
  consistent := empty_consistent

/-- More handles are issued elsewhere. -/
lemma mono (hr : Recounts history supply library) (hle : supply.next ≤ supply'.next) :
    Recounts history supply' library :=
  { hr with issued := fun h shader hh => by have := hr.issued h shader hh; omega }

/-- The next handle stands for no shader yet. -/
lemma not_stored_handle (hr : Recounts history supply library) (shader : Shader) :
    ¬ Stored history supply.handle shader := by
  intro hstored
  have := hr.issued _ _ ((hr.shaders _ _).2 hstored)
  simp [Supply.handle] at this

/-- A call that stores, binds and drops nothing leaves the library as it is. -/
lemma idle (hr : Recounts history supply library) {call : Call} (hstored : call.stored? = none)
    (hbound : call.bound? = none) (hdrops : ∀ h, ¬ call.Drops h) :
    Recounts (history ++ [call]) supply library where
  shaders h shader := by simp [stored_snoc, hstored, hdrops, hr.shaders]
  imports ref h := by simp [bound_snoc, hbound, hdrops, hr.imports]
  issued := hr.issued
  consistent := hr.consistent

/-- A call that binds a reference and drops nothing sets the entry of that reference. -/
lemma imports_insert (hr : Recounts history supply library) {call : Call} {own : ImportRef}
    {g : Handle} (hbound : call.bound? = some (own, g)) (hdrops : ∀ h, ¬ call.Drops h)
    (ref : ImportRef) (h : Handle) :
    (library.imports.insert own g).get? ref = some h ↔ Bound (history ++ [call]) ref h := by
  rw [Table.get?_insert, bound_snoc, hbound]
  by_cases heq : own = ref
  · simp [heq]
  · simp [heq, hdrops, hr.imports]

/-- A shader stored under the next handle. -/
lemma add (hr : Recounts history supply library) (shader : Shader) :
    Recounts (history ++ [⟨.add shader, .ok (.handle supply.handle)⟩]) supply.advance
      (library.add supply.handle shader) where
  shaders h other := by
    rw [Library.add, Table.get?_insert, stored_snoc]
    by_cases heq : supply.handle = h
    · subst heq
      simp [Call.stored?, hr.not_stored_handle]
    · simp [Call.stored?, Call.Drops, heq, hr.shaders]
  imports ref h := by
    cases hpath : shader.importPath with
    | none => simp [Library.add, hpath, bound_snoc, Call.bound?, Call.Drops, hr.imports]
    | some own =>
        simp only [Library.add, hpath]
        exact hr.imports_insert (by simp [Call.bound?, hpath]) (by simp [Call.Drops]) ref h
  issued h other hother := by
    rw [Library.add, Table.get?_insert] at hother
    split at hother
    · next heq => simp [← heq, Supply.handle, Supply.advance]
    · have := hr.issued h other hother
      simp only [Supply.advance]
      omega
  consistent := add_consistent hr.consistent _ _

/-- A reference bound to a stored shader. -/
lemma assign (hr : Recounts history supply library) (ref : ImportRef) {h : Handle}
    (hh : library.shaders.contains h) :
    Recounts (history ++ [⟨.assign ref h, .ok .done⟩]) supply (library.assign ref h) where
  shaders g shader := by
    simp [Library.assign, stored_snoc, Call.stored?, Call.Drops, hr.shaders]
  imports := hr.imports_insert rfl (by simp [Call.Drops])
  issued := hr.issued
  consistent := assign_consistent hr.consistent hh ref

/-- A shader dropped, with the references that stand for it. -/
lemma remove (hr : Recounts history supply library) (h : Handle) :
    Recounts (history ++ [⟨.remove h, .ok .done⟩]) supply (library.remove h) where
  shaders g shader := by
    rw [Library.remove, Table.get?_erase, stored_snoc, ← hr.shaders]
    by_cases heq : h = g <;> simp [heq, Call.stored?, Call.Drops]
  imports ref g := by
    rw [Library.remove, Table.get?_filter, Option.filter_eq_some_iff, bound_snoc, ← hr.imports]
    simp [Call.bound?, Call.Drops, @eq_comm _ g h]
  issued g shader hg := by
    rw [Library.remove, Table.get?_erase] at hg
    split at hg
    · cases hg
    · exact hr.issued g shader hg
  consistent := remove_consistent hr.consistent h

/-- Everything dropped. -/
lemma clear (history : List Call) (supply : Supply) :
    Recounts (history ++ [⟨.clear, .ok .done⟩]) supply .empty where
  shaders h shader := by simp [Library.empty, stored_snoc, Call.stored?, Call.Drops]
  imports ref h := by simp [Library.empty, bound_snoc, Call.bound?, Call.Drops]
  issued h shader hh := by simp [Library.empty] at hh
  consistent := empty_consistent

/-- One call more keeps the tables what the calls say. -/
lemma act (hr : Recounts history supply library) (action : Action) :
    Recounts (history ++ [⟨action, (library.act supply action).2.2.outcome⟩])
      (library.act supply action).1 (library.act supply action).2.1 := by
  cases action with
  | add shader => exact hr.add shader
  | assign ref h =>
      rw [Library.act]
      split
      · next hh => exact hr.assign ref hh
      · exact hr.idle rfl rfl fun _ => id
  | remove h =>
      rw [Library.act]
      split
      · exact hr.remove h
      · exact hr.idle rfl rfl fun _ => id
  | clear => exact .clear _ _
  | issue => exact (hr.idle rfl rfl fun _ => id).mono (Nat.le_succ _)
  | get | handleFor | contains | count | process => exact hr.idle rfl rfl fun _ => id

end Recounts

/-- An operation that fails changes nothing. -/
lemma act_of_error {supply : Supply} {library : Library} {action : Action} {e : Failure}
    (h : (library.act supply action).2.2.outcome = .error e) :
    (library.act supply action).1 = supply ∧ (library.act supply action).2.1 = library := by
  cases action with
  | add | clear | issue => cases h
  | assign ref g =>
      rw [act] at h ⊢
      split at h
      · cases h
      · next hg => simp [hg]
  | remove g =>
      rw [act] at h ⊢
      split at h
      · cases h
      · next hg => simp [hg]
  | get | handleFor | contains | count | process => exact ⟨rfl, rfl⟩

/-- To preprocess a handle fails if no shader is stored under it, and otherwise comes to what
becomes of the shader. -/
lemma process_outcome (library : Library) (h : Handle) (defs : List String) :
    (library.process h defs).outcome =
      match library.shaders.get? h with
      | none => .error (.unregistered h)
      | some shader => (library.preprocess defs shader).outcome.mapError .ofStop := by
  rw [process]
  cases library.shaders.get? h <;> rfl

/-- A reference that is reported when a stored shader is preprocessed leads to no shader. -/
lemma resolve?_eq_none_of_process {library : Library} {h : Handle} {defs : List String}
    {ref : ImportRef} (hprocess : (library.process h defs).outcome =
      .error (.process (.unresolved ref))) : library.resolve? ref = none := by
  rw [process_outcome] at hprocess
  cases hshader : library.shaders.get? h with
  | none =>
      rw [hshader] at hprocess
      cases hprocess
  | some shader =>
      rw [hshader] at hprocess
      obtain ⟨stop, hstop, hfailure⟩ := Traced.mapError_outcome_eq_error_iff.1 hprocess
      cases stop with
      | endless => cases hfailure
      | fault error =>
          cases hfailure
          exact resolve?_eq_none_of_unresolved hstop

/-- In a consistent library a reference that leads to no shader stands for nothing. -/
lemma Consistent.get?_eq_none {library : Library} (hc : library.Consistent) {ref : ImportRef}
    (h : library.resolve? ref = none) : library.imports.get? ref = none := by
  refine Option.eq_none_iff_forall_ne_some.2 fun g hg => ?_
  obtain ⟨shader, hshader⟩ := Option.isSome_iff_exists.1 (hc ref g hg)
  simp [resolve?, hg, hshader] at h

end Library

/-! ### Runs -/

namespace World

variable {world : World} {i : ℕ}

/-- What a library answers. -/
def reply (world : World) (i : ℕ) (action : Library.Action) : Except Failure Reply :=
  (world.act (.library i action)).2.outcome

/-- The call that an action makes on a library, if it does. -/
def call? (i : ℕ) (world : World) : Action → Option Library.Call
  | .library j action => if j = i then some ⟨action, world.reply i action⟩ else none
  | _ => none

/-- The calls on a library during a run, in order. -/
def history (i : ℕ) : World → List Action → List Library.Call
  | _, [] => []
  | world, action :: actions =>
    (world.call? i action).toList ++ (world.act action).1.history i actions

/-- One action more adds the call that it makes. -/
lemma history_snoc (i : ℕ) (world : World) (actions : List Action) (action : Action) :
    world.history i (actions ++ [action]) =
      world.history i actions ++ ((world.run actions).call? i action).toList := by
  induction actions generalizing world with
  | nil => simp [history, run]
  | cons first actions ih =>
      rw [List.cons_append, history, history, ih, List.append_assoc]
      rfl

/-- What a library answers is what its operation comes to. -/
lemma reply_eq {library : Library} (hlibrary : world.libraries[i]? = some library)
    (action : Library.Action) :
    world.reply i action = (library.act world.supply action).2.2.outcome := by
  simp [reply, act, hlibrary]

/-- An operation on a library that fails leaves everything as it is. -/
lemma act_eq_of_error {library : Library} (hlibrary : world.libraries[i]? = some library)
    {action : Library.Action} {e : Failure} (h : world.reply i action = .error e) :
    (world.act (.library i action)).1 = world := by
  rw [reply_eq hlibrary] at h
  obtain ⟨hsupply, hsame⟩ := Library.act_of_error h
  obtain ⟨hlt, hget⟩ := List.getElem?_eq_some_iff.1 hlibrary
  simp only [act, hlibrary, hsupply, hsame]
  rw [← hget, List.set_getElem_self]

/-- An action either is a call on a library, or leaves the library as it is. -/
lemma act_library {library : Library} (hlibrary : world.libraries[i]? = some library)
    (action : Action) :
    (∃ own, world.call? i action = some ⟨own, (library.act world.supply own).2.2.outcome⟩ ∧
        (world.act action).1.supply = (library.act world.supply own).1 ∧
        (world.act action).1.libraries[i]? = some (library.act world.supply own).2.1) ∨
      (world.call? i action = none ∧ (world.act action).1.libraries[i]? = some library) := by
  cases action with
  | library j own =>
      by_cases heq : j = i
      · subst heq
        obtain ⟨hlt, -⟩ := List.getElem?_eq_some_iff.1 hlibrary
        refine .inl ⟨own, by rw [call?, if_pos rfl, reply_eq hlibrary], ?_⟩
        simp only [act, hlibrary]
        exact ⟨trivial, List.getElem?_set_self hlt⟩
      · refine .inr ⟨by rw [call?, if_neg heq], ?_⟩
        rw [act]
        split
        · exact hlibrary
        · rw [List.getElem?_set_ne heq, hlibrary]
  | serverLibrary | load | handle | process =>
      refine .inr ⟨rfl, ?_⟩
      rw [act]
      split <;> exact hlibrary
  | write | delete => exact .inr ⟨rfl, hlibrary⟩

/-- A library that was empty is what its calls say after every run. -/
lemma run_recounts (hnew : world.libraries[i]? = some .empty) (actions : List Action) :
    ∃ library, (world.run actions).libraries[i]? = some library ∧
      Library.Recounts (world.history i actions) (world.run actions).supply library := by
  induction actions using List.reverseRecOn with
  | nil => exact ⟨.empty, hnew, .empty _⟩
  | append_singleton actions action ih =>
      obtain ⟨library, hlibrary, hr⟩ := ih
      rw [history_snoc, run_snoc]
      obtain ⟨own, hcall, hsupply, hnext⟩ | ⟨hcall, hnext⟩ := act_library hlibrary action
      · refine ⟨_, hnext, ?_⟩
        rw [hcall, hsupply]
        exact hr.act own
      · refine ⟨library, hnext, ?_⟩
        rw [hcall, Option.toList_none, List.append_nil]
        exact hr.mono (supply_le_act _ action)

/-- **What a library answers is told by its history.** After every run from an empty library,
whatever else happened meanwhile: a handle is contained iff its shader was stored and not dropped
since, and is then answered with that shader; a reference stands for a handle iff it was last bound
to that handle and the shader was not dropped since; the count is that of the stored handles. An
operation that fails leaves everything as it is. Every bound reference is bound to a stored shader,
and preprocessing reports a reference as unresolved only if it is not bound at all. -/
theorem library_told_by_history (hnew : world.libraries[i]? = some .empty)
    (actions : List Action) :
    (∀ h, ∃ b, (world.run actions).reply i (.contains h) = .ok (.truth b) ∧
      (b = true ↔ ∃ shader, Library.Stored (world.history i actions) h shader)) ∧
    (∀ h, ∃ found, (world.run actions).reply i (.get h) = .ok (.foundShader found) ∧
      ∀ shader, found = some shader ↔ Library.Stored (world.history i actions) h shader) ∧
    (∀ ref, ∃ found, (world.run actions).reply i (.handleFor ref) = .ok (.foundHandle found) ∧
      ∀ h, found = some h ↔ Library.Bound (world.history i actions) ref h) ∧
    (∃ hs : List Handle, (world.run actions).reply i .count = .ok (.count hs.length) ∧
      hs.Nodup ∧ ∀ h, h ∈ hs ↔ ∃ shader, Library.Stored (world.history i actions) h shader) ∧
    (∀ action e, (world.run actions).reply i action = .error e →
      ((world.run actions).act (.library i action)).1 = world.run actions) ∧
    (∀ ref h, Library.Bound (world.history i actions) ref h →
      ∃ shader, Library.Stored (world.history i actions) h shader) ∧
    ∀ h defs ref,
      (world.run actions).reply i (.process h defs) = .error (.process (.unresolved ref)) →
      ∀ g, ¬ Library.Bound (world.history i actions) ref g := by
  obtain ⟨library, hlibrary, hr⟩ := run_recounts hnew actions
  have hcontains : ∀ h, library.shaders.contains h = true ↔
      ∃ shader, Library.Stored (world.history i actions) h shader := by
    intro h
    rw [Table.contains, Option.isSome_iff_exists]
    exact exists_congr fun shader => hr.shaders h shader
  refine ⟨fun h => ⟨_, reply_eq hlibrary _, hcontains h⟩,
    fun h => ⟨_, reply_eq hlibrary _, hr.shaders h⟩,
    fun ref => ⟨_, reply_eq hlibrary _, hr.imports ref⟩,
    ⟨library.shaders.keys, ?_, library.shaders.nodup, fun h => ?_⟩,
    fun action e => act_eq_of_error hlibrary,
    fun ref h hbound => (hcontains h).1 (hr.consistent ref h ((hr.imports ref h).2 hbound)),
    fun h defs ref hprocess g hbound => ?_⟩
  · rw [reply_eq hlibrary, Table.keys, List.length_map]
    rfl
  · rw [Table.mem_keys_iff]
    exact exists_congr fun shader => hr.shaders h shader
  · rw [reply_eq hlibrary] at hprocess
    have hnone := hr.consistent.get?_eq_none
      (Library.resolve?_eq_none_of_process (Traced.map_outcome_eq_error_iff.1 hprocess))
    rw [← hr.imports, hnone] at hbound
    cases hbound

/-- Two empty libraries that share a supply of handles. -/
def twoLibraries : World := ⟨.fresh, [.empty, .empty], [], .empty []⟩

/-- A name bound anew and lost with its second shader, while the first shader is kept under another
name. The last drop fails. -/
def rebinding : List Action :=
  [.library 0 (.add ⟨.text .wgsl "a\n", some (.custom "lib")⟩),
    .library 1 (.add ⟨.text .wgsl "b\n", some (.custom "lib")⟩),
    .library 0 (.add ⟨.text .wgsl "#import lib\n", some (.custom "lib")⟩),
    .library 0 (.assign (.custom "first") ⟨0⟩),
    .library 0 (.add ⟨.text .wgsl "#import lib\n", none⟩),
    .library 0 (.remove ⟨2⟩),
    .library 0 (.remove ⟨2⟩)]

/-- After these actions the first shader is stored and bound to its second name, the first name is
bound to nothing, and to drop the dropped shader once more changes nothing. -/
theorem told_by_history_of_rebinding :
    Library.Stored (twoLibraries.history 0 rebinding) ⟨0⟩
        ⟨.text .wgsl "a\n", some (.custom "lib")⟩ ∧
      Library.Bound (twoLibraries.history 0 rebinding) (.custom "first") ⟨0⟩ ∧
      (∀ g, ¬ Library.Bound (twoLibraries.history 0 rebinding) (.custom "lib") g) ∧
      ((twoLibraries.run rebinding).act (.library 0 (.remove ⟨2⟩))).1 =
        twoLibraries.run rebinding := by
  have hnew : twoLibraries.libraries[0]? = some .empty := rfl
  have hget : (twoLibraries.run rebinding).reply 0 (.get ⟨0⟩) =
      .ok (.foundShader (some ⟨.text .wgsl "a\n", some (.custom "lib")⟩)) := rfl
  have hfor : (twoLibraries.run rebinding).reply 0 (.handleFor (.custom "first")) =
      .ok (.foundHandle (some ⟨0⟩)) := rfl
  have hremove : (twoLibraries.run rebinding).reply 0 (.remove ⟨2⟩) =
      .error (.unregistered ⟨2⟩) := rfl
  have hprocess : (twoLibraries.run rebinding).reply 0 (.process ⟨3⟩ []) =
      .error (.process (.unresolved (.custom "lib"))) := rfl
  obtain ⟨-, hshaders, himports, -, hfails, -, hunresolved⟩ :=
    library_told_by_history hnew rebinding
  refine ⟨?_, ?_, hunresolved _ _ _ hprocess, hfails _ _ hremove⟩
  · obtain ⟨found, hreply, hfound⟩ := hshaders ⟨0⟩
    rw [hget] at hreply
    cases hreply
    exact (hfound _).1 rfl
  · obtain ⟨found, hreply, hfound⟩ := himports (.custom "first")
    rw [hfor] at hreply
    cases hreply
    exact (hfound _).1 rfl

end World

end ShaderPreprocessor
