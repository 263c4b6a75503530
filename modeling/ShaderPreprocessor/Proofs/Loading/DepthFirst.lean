/-
Depth-first order, of anything that asks for other things.

* `DepthFirst`: how to tell from a list by itself that it is in depth-first order: each entry but
  the first is what the latest entry that still asks for something missing asks for first;
* `Visits`: the order in which a search enters things, with what it has seen before;
* `Visits.nodup`, `Visits.seen_of_mem`, `Visits.seen_of_asks`: nothing is entered twice, and nothing
  is left out;
* `Visits.mem_iff_reachable`: a search that has seen nothing before enters what can be reached;
* `Visits.placed`: where an entry stands among those before it, and from this `Visits.depthFirst`: a
  search for one thing enters what follows from it in depth-first order;
* `IsPreorder`: the list of all that can be reached from a start, in depth-first order. It is what a
  search enters (`Visits.isPreorder`), and there is only one (`IsPreorder.unique`).
-/
import Mathlib.Tactic

namespace ShaderPreprocessor

open Relation

variable {α : Type} {asks : α → List α}

/-- A list is in depth-first order: each entry but the first is asked for by the latest entry before
it that asks for anything missing so far, and is the first such thing that it asks for. -/
def DepthFirst (asks : α → List α) (order : List α) : Prop :=
  ∀ front a back, order = front ++ a :: back → front ≠ [] →
    ∃ earlier b later before after, front = earlier ++ b :: later ∧
      asks b = before ++ a :: after ∧ before ⊆ front ∧ ∀ c ∈ later, asks c ⊆ front

/-- The order in which things are entered that are looked for one after another: what was seen
before is passed over, and what a thing asks for is looked for before the rest. -/
inductive Visits (asks : α → List α) : List α → List α → List α → Prop where
  /-- Nothing is left to look for. -/
  | done (seen : List α) : Visits asks seen [] []
  /-- Seen before. -/
  | pass {seen sought order : List α} {a : α} (hseen : a ∈ seen)
      (hrest : Visits asks seen sought order) : Visits asks seen (a :: sought) order
  /-- Entered, with all that follows from it, before the rest. -/
  | enter {seen sought below order : List α} {a : α} (hnew : a ∉ seen)
      (hbelow : Visits asks (seen ++ [a]) (asks a) below)
      (hrest : Visits asks (seen ++ a :: below) sought order) :
      Visits asks seen (a :: sought) (a :: below ++ order)

namespace Visits

variable {seen sought order : List α}

/-- Nothing is entered that was seen before, and nothing twice. -/
lemma nodup (h : Visits asks seen sought order) : order.Nodup ∧ seen.Disjoint order := by
  induction h with
  | done => simp
  | pass _ _ ih => exact ih
  | enter hnew _ _ ihbelow ihrest =>
      obtain ⟨hnodup₁, hdisjoint₁⟩ := ihbelow
      obtain ⟨hnodup₂, hdisjoint₂⟩ := ihrest
      simp only [List.disjoint_append_left, List.singleton_disjoint] at hdisjoint₁
      simp only [List.disjoint_append_left] at hdisjoint₂
      refine ⟨List.Nodup.append (hnodup₁.cons hdisjoint₁.2) hnodup₂ hdisjoint₂.2, ?_⟩
      simp only [List.disjoint_append_right, List.disjoint_cons_right]
      exact ⟨⟨hnew, hdisjoint₁.1⟩, hdisjoint₂.1⟩

/-- What was looked for is seen in the end. -/
lemma seen_of_mem (h : Visits asks seen sought order) : sought ⊆ seen ++ order := by
  induction h with
  | done => simp
  | pass hseen _ ih => exact List.cons_subset.2 ⟨List.mem_append_left _ hseen, ih⟩
  | enter hnew _ _ _ ihrest =>
      refine List.cons_subset.2 ⟨by simp, ?_⟩
      rwa [List.append_assoc] at ihrest

/-- What an entered thing asks for is seen in the end. -/
lemma seen_of_asks (h : Visits asks seen sought order) {a : α} (ha : a ∈ order) :
    asks a ⊆ seen ++ order := by
  induction h with
  | done => cases ha
  | pass _ _ ih => exact ih ha
  | @enter seen sought below order b _ hbelow _ ihbelow ihrest =>
      have hmono : seen ++ [b] ++ below ⊆ seen ++ (b :: below ++ order) := by
        rw [List.append_assoc, List.singleton_append, ← List.append_assoc]
        exact List.subset_append_left _ _
      rcases List.mem_append.1 ha with ha | ha
      · rcases List.mem_cons.1 ha with rfl | ha
        · exact List.Subset.trans hbelow.seen_of_mem hmono
        · exact List.Subset.trans (ihbelow ha) hmono
      · have hrest := ihrest ha
        rwa [List.append_assoc] at hrest

/-- What is entered can be reached from what was looked for. -/
lemma reached (h : Visits asks seen sought order) {a : α} (ha : a ∈ order) :
    ∃ b ∈ sought, ReflTransGen (fun c d => d ∈ asks c) b a := by
  induction h with
  | done => cases ha
  | pass _ _ ih =>
      obtain ⟨b, hb, hpath⟩ := ih ha
      exact ⟨b, List.mem_cons_of_mem _ hb, hpath⟩
  | enter _ _ _ ihbelow ihrest =>
      rcases List.mem_append.1 ha with ha | ha
      · rcases List.mem_cons.1 ha with rfl | ha
        · exact ⟨a, List.mem_cons_self, .refl⟩
        · obtain ⟨b, hb, hpath⟩ := ihbelow ha
          exact ⟨_, List.mem_cons_self, .head hb hpath⟩
      · obtain ⟨b, hb, hpath⟩ := ihrest ha
        exact ⟨b, List.mem_cons_of_mem _ hb, hpath⟩

/-- A search that has seen nothing before enters exactly what can be reached. -/
lemma mem_iff_reachable (h : Visits asks [] sought order) {a : α} :
    a ∈ order ↔ ∃ b ∈ sought, ReflTransGen (fun c d => d ∈ asks c) b a := by
  constructor
  · exact h.reached
  · rintro ⟨b, hb, hpath⟩
    induction hpath with
    | refl => exact h.seen_of_mem hb
    | tail _ hstep ih => exact h.seen_of_asks ih hstep

/-! ### Where entries stand -/

/-- Where an entry stands, given what was seen before and what was entered before it. It is the
first new thing that was looked for, and nothing is missing that an entry before it asks for; or it
is the first thing missing that some entry asks for, and later entries ask for nothing that is
missing. -/
inductive Placed (asks : α → List α) (seen sought front : List α) (a : α) : Prop where
  /-- Looked for from the start. -/
  | sought {before after : List α} (heq : sought = before ++ a :: after)
      (hbefore : before ⊆ seen ++ front) (hfront : ∀ c ∈ front, asks c ⊆ seen ++ front) :
      Placed asks seen sought front a
  /-- Asked for by an entry. -/
  | asked {earlier later before after : List α} {b : α} (hfront : front = earlier ++ b :: later)
      (heq : asks b = before ++ a :: after) (hbefore : before ⊆ seen ++ front)
      (hlater : ∀ c ∈ later, asks c ⊆ seen ++ front) : Placed asks seen sought front a

/-- What stands below a thing stands after it. -/
lemma Placed.below {front : List α} {a b : α} (h : Placed asks (seen ++ [b]) (asks b) front a) :
    Placed asks seen sought (b :: front) a := by
  have hseen : seen ++ [b] ++ front = seen ++ b :: front := List.append_assoc _ _ _
  cases h with
  | sought heq hbefore hfront =>
      rw [hseen] at hbefore hfront
      exact .asked (List.nil_append _).symm heq hbefore hfront
  | @asked earlier later before after c hfront heq hbefore hlater =>
      rw [hseen] at hbefore hlater
      have hcons : b :: front = b :: earlier ++ c :: later := by rw [hfront, List.cons_append]
      exact .asked hcons heq hbefore hlater

/-- What stands among the rest stands after a thing that was looked for first, and all that is below
it. -/
lemma Placed.rest {below front : List α} {a b : α} (hbelow : Visits asks seen [b] (b :: below))
    (h : Placed asks (seen ++ b :: below) sought front a) :
    Placed asks seen (b :: sought) (b :: below ++ front) a := by
  cases h with
  | @sought before after heq hbefore hfront =>
      rw [List.append_assoc] at hbefore hfront
      have hcons : b :: sought = b :: before ++ a :: after := by rw [heq, List.cons_append]
      refine .sought hcons (List.cons_subset.2 ⟨by simp, hbefore⟩) fun c hc => ?_
      rcases List.mem_append.1 hc with hc | hc
      · refine List.Subset.trans (hbelow.seen_of_asks hc) ?_
        rw [← List.append_assoc]
        exact List.subset_append_left _ _
      · exact hfront c hc
  | @asked earlier later before after c hfront heq hbefore hlater =>
      rw [List.append_assoc] at hbefore hlater
      have hsplit : b :: below ++ front = (b :: below ++ earlier) ++ c :: later := by
        rw [hfront, List.append_assoc]
      exact .asked hsplit heq hbefore hlater

/-- Every entry is placed so. -/
lemma placed (h : Visits asks seen sought order) {front back : List α} {a : α}
    (horder : order = front ++ a :: back) : Placed asks seen sought front a := by
  induction h generalizing front back with
  | done => simp at horder
  | pass hseen _ ih =>
      cases ih horder with
      | sought heq hbefore hfront =>
          refine .sought (congrArg (_ :: ·) heq) (List.cons_subset.2 ⟨?_, hbefore⟩) hfront
          exact List.mem_append_left _ hseen
      | asked hfront heq hbefore hlater => exact .asked hfront heq hbefore hlater
  | @enter seen sought below order b hnew hbelow _ ihbelow ihrest =>
      have hfirst : Visits asks seen [b] (b :: below) := by
        simpa using Visits.enter hnew hbelow (.done _)
      cases front with
      | nil =>
          cases horder
          exact .sought (List.nil_append _).symm (List.nil_subset _) (by simp)
      | cons c front =>
          obtain ⟨rfl, hsplit⟩ := List.cons.inj horder
          -- the entry is among the rest or below the first thing
          obtain ⟨rest, rfl, hrest⟩ | ⟨rest, rfl, hrest⟩ := List.append_eq_append_iff.1 hsplit
          · exact (ihrest hrest).rest hfirst
          · obtain ⟨rfl, hnext⟩ | ⟨rest, rfl, -⟩ := List.cons_eq_append_iff.1 hrest
            · have hplaced : Placed asks _ _ [] a := ihrest hnext
              simpa using hplaced.rest hfirst
            · exact (ihbelow rfl).below

/-- A search for one thing starts with it. -/
lemma head_eq {start : α} (h : Visits asks [] [start] order) : order.head? = some start := by
  cases h with
  | pass hseen => cases hseen
  | enter => rfl

/-- A search for one thing enters what follows from it in depth-first order. -/
lemma depthFirst {start : α} (h : Visits asks [] [start] order) : DepthFirst asks order := by
  intro front a back horder hne
  cases h.placed horder with
  | sought heq hbefore hfront =>
      -- only the start was looked for, and it stands first and not again
      obtain rfl : start = a := by
        have hmem : a ∈ [start] := by simp [heq]
        exact (List.mem_singleton.1 hmem).symm
      have hhead := h.head_eq
      obtain ⟨c, front, rfl⟩ := List.exists_cons_of_ne_nil hne
      rw [horder, List.cons_append, List.head?_cons, Option.some.injEq] at hhead
      have hnodup := h.nodup.1
      simp [horder, hhead] at hnodup
  | asked hfront heq hbefore hlater => exact ⟨_, _, _, _, _, hfront, heq, hbefore, hlater⟩

end Visits

/-! ### Preorders -/

/-- The depth-first preorder of what can be reached from a start. -/
structure IsPreorder (asks : α → List α) (start : α) (order : List α) : Prop where
  /-- It begins with the start. -/
  head : order.head? = some start
  /-- Nothing stands in it twice. -/
  nodup : order.Nodup
  /-- What stands in it is what can be reached. -/
  mem : ∀ a, a ∈ order ↔ ReflTransGen (fun b c => c ∈ asks b) start a
  /-- It is in depth-first order. -/
  depthFirst : DepthFirst asks order

/-- A search for one thing that has seen nothing before goes by the preorder. -/
lemma Visits.isPreorder {start : α} {order : List α} (h : Visits asks [] [start] order) :
    IsPreorder asks start order where
  head := h.head_eq
  nodup := h.nodup.1
  mem a := by simp [h.mem_iff_reachable]
  depthFirst := h.depthFirst

/-- If a list is split at two entries, they are the same one, or each stands beyond the other. -/
lemma split_cases {front back front' back' : List α} {a a' : α}
    (h : front ++ a :: back = front' ++ a' :: back') :
    a = a' ∧ front = front' ∨ a' ∈ back ∧ a ∈ front' ∨ a ∈ back' ∧ a' ∈ front := by
  obtain ⟨rest, rfl, hrest⟩ | ⟨rest, rfl, hrest⟩ := List.append_eq_append_iff.1 h
  · obtain ⟨rfl, heq⟩ | ⟨rest, rfl, rfl⟩ := List.cons_eq_append_iff.1 hrest
    · cases heq
      exact .inl ⟨rfl, by simp⟩
    · exact .inr (.inl ⟨by simp, by simp⟩)
  · obtain ⟨rfl, heq⟩ | ⟨rest, rfl, rfl⟩ := List.cons_eq_append_iff.1 hrest
    · cases heq
      exact .inl ⟨rfl, by simp⟩
    · exact .inr (.inr ⟨by simp, by simp⟩)

/-- In depth-first order an entry is settled by those before it, if none stands twice. -/
lemma DepthFirst.next_unique {front back back' : List α} {a a' : α}
    (h : DepthFirst asks (front ++ a :: back)) (h' : DepthFirst asks (front ++ a' :: back'))
    (hnew : a ∉ front) (hnew' : a' ∉ front) (hne : front ≠ []) : a = a' := by
  obtain ⟨earlier, b, later, before, after, hfront, hasks, hbefore, hlater⟩ := h _ _ _ rfl hne
  obtain ⟨earlier', b', later', before', after', hfront', hasks', hbefore', hlater'⟩ :=
    h' _ _ _ rfl hne
  have ha : a ∈ asks b := by simp [hasks]
  have ha' : a' ∈ asks b' := by simp [hasks']
  rw [hfront] at hfront'
  obtain ⟨rfl, -⟩ | ⟨hb', -⟩ | ⟨hb, -⟩ := split_cases hfront'
  · -- the latest entry that asks for anything missing is the same, and so is what it asks for first
    rw [hasks] at hasks'
    obtain ⟨rfl, -⟩ | ⟨-, hmem⟩ | ⟨-, hmem⟩ := split_cases hasks'
    · rfl
    · exact absurd (hbefore' hmem) hnew
    · exact absurd (hbefore hmem) hnew'
  · exact absurd (hlater b' hb' ha') hnew'
  · exact absurd (hlater' b hb ha) hnew

/-- An entry beyond the front of a list in which nothing stands twice is not in the front. -/
lemma not_mem_front {front back : List α} {a : α} (hnodup : (front ++ a :: back).Nodup) :
    a ∉ front := fun hmem => List.disjoint_of_nodup_append hnodup hmem List.mem_cons_self

/-- Two lists with the same entries that are in depth-first order and begin alike are the same. -/
lemma DepthFirst.back_unique {front back back' : List α} (h : DepthFirst asks (front ++ back))
    (h' : DepthFirst asks (front ++ back')) (hnodup : (front ++ back).Nodup)
    (hnodup' : (front ++ back').Nodup) (hmem : ∀ a, a ∈ front ++ back ↔ a ∈ front ++ back')
    (hne : front ≠ []) : back = back' := by
  induction back generalizing front back' with
  | nil =>
      cases back' with
      | nil => rfl
      | cons a' back' =>
          have ha' : a' ∈ front := by simpa using (hmem a').2 (by simp)
          exact absurd ha' (not_mem_front hnodup')
  | cons a back ih =>
      cases back' with
      | nil =>
          have ha : a ∈ front := by simpa using (hmem a).1 (by simp)
          exact absurd ha (not_mem_front hnodup)
      | cons a' back' =>
          obtain rfl := h.next_unique h' (not_mem_front hnodup) (not_mem_front hnodup') hne
          rw [List.append_cons] at h h' hnodup hnodup'
          rw [ih h h' hnodup hnodup' (fun c => by simpa using hmem c) (by simp)]

/-- There is only one depth-first preorder. -/
theorem IsPreorder.unique {start : α} {order order' : List α} (h : IsPreorder asks start order)
    (h' : IsPreorder asks start order') : order = order' := by
  obtain ⟨back, rfl⟩ := List.head?_eq_some_iff.1 h.head
  obtain ⟨back', rfl⟩ := List.head?_eq_some_iff.1 h'.head
  have hfirst : DepthFirst asks ([start] ++ back) := h.depthFirst
  have hmem : ∀ a, a ∈ [start] ++ back ↔ a ∈ [start] ++ back' :=
    fun a => (h.mem a).trans (h'.mem a).symm
  rw [hfirst.back_unique h'.depthFirst h.nodup h'.nodup hmem (List.cons_ne_nil _ _)]

end ShaderPreprocessor
