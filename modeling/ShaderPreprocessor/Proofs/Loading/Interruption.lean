/-
Searches that are broken off at something.

* `ComesTo`: how a depth-first search comes to a goal, with what it has entered until then and the
  chain of those things among it that the goal is below. What was looked for before the goal is
  settled, all that follows from it included;
* `ComesTo.chain_sublist`, `ComesTo.exists_head`: the chain is part of what was entered, begins with
  something that was looked for, and leads to the goal from one thing to what it asks for;
* `Visits.unique`, `ComesTo.unique`: there is only one order, and one way to a goal;
* `ComesTo.order_eq`: a search that is not broken off enters the goal next. So what was entered
  before it is the beginning of the whole order;
* `exists_visits`: a search among finitely many things ends.
-/
import ShaderPreprocessor.Proofs.Loading.DepthFirst

namespace ShaderPreprocessor

variable {α : Type} {asks : α → List α}

/-- A search comes to a goal: `front` are the things that it enters before the goal, and `chain`
those of them that it has not finished with when it comes there. -/
inductive ComesTo (asks : α → List α) :
    List α → List α → List α → List α → α → Prop where
  /-- The goal is looked for next. -/
  | here {seen sought : List α} {goal : α} (hnew : goal ∉ seen) :
      ComesTo asks seen (goal :: sought) [] [] goal
  /-- Something else is, but was seen before. -/
  | pass {seen sought front chain : List α} {a goal : α} (hseen : a ∈ seen)
      (hrest : ComesTo asks seen sought front chain goal) :
      ComesTo asks seen (a :: sought) front chain goal
  /-- Something else is entered, and the goal is come to below it. -/
  | inside {seen sought front chain : List α} {a goal : α} (hnew : a ∉ seen)
      (hinside : ComesTo asks (seen ++ [a]) (asks a) front chain goal) :
      ComesTo asks seen (a :: sought) (a :: front) (a :: chain) goal
  /-- Something else is entered and finished with, and the goal is come to among the rest. -/
  | beyond {seen sought below front chain : List α} {a goal : α} (hnew : a ∉ seen)
      (hbelow : Visits asks (seen ++ [a]) (asks a) below)
      (hrest : ComesTo asks (seen ++ a :: below) sought front chain goal) :
      ComesTo asks seen (a :: sought) (a :: below ++ front) chain goal

namespace ComesTo

variable {seen sought front chain : List α} {goal : α}

/-- What is not finished with was entered, in the same order. -/
lemma chain_sublist (h : ComesTo asks seen sought front chain goal) : chain.Sublist front := by
  induction h with
  | here => exact List.nil_sublist _
  | pass _ _ ih => exact ih
  | @inside _ _ _ _ a _ _ _ ih => exact ih.cons_cons a
  | beyond _ _ _ ih => exact ih.trans (List.sublist_append_right _ _)

/-- The chain leads from something that was looked for to the goal. -/
lemma exists_head (h : ComesTo asks seen sought front chain goal) :
    ∃ a ∈ sought, (chain ++ [goal]).head? = some a ∧
      (chain ++ [goal]).IsChain fun b c => c ∈ asks b := by
  induction h with
  | here => exact ⟨_, List.mem_cons_self, rfl, List.isChain_singleton _⟩
  | pass _ _ ih =>
      obtain ⟨a, ha, hhead, hchain⟩ := ih
      exact ⟨a, List.mem_cons_of_mem _ ha, hhead, hchain⟩
  | @inside _ _ _ chain b goal _ _ ih =>
      obtain ⟨a, ha, hhead, hchain⟩ := ih
      refine ⟨b, List.mem_cons_self, rfl, List.isChain_cons.2 ⟨fun c hc => ?_, hchain⟩⟩
      have hfirst : (chain ++ [goal]).head? = some c := hc
      rw [hhead] at hfirst
      cases hfirst
      exact ha
  | beyond _ _ _ ih =>
      obtain ⟨a, ha, hhead, hchain⟩ := ih
      exact ⟨a, List.mem_cons_of_mem _ ha, hhead, hchain⟩

/-- The goal is new. -/
lemma goal_new (h : ComesTo asks seen sought front chain goal) : goal ∉ seen := by
  induction h with
  | here hnew => exact hnew
  | pass _ _ ih => exact ih
  | inside _ _ ih => exact fun hmem => ih (List.mem_append_left _ hmem)
  | beyond _ _ _ ih => exact fun hmem => ih (List.mem_append_left _ hmem)

end ComesTo

/-! ### One search, one order -/

/-- A search enters things in one order only. -/
lemma Visits.unique {seen sought order order' : List α} (h : Visits asks seen sought order)
    (h' : Visits asks seen sought order') : order = order' := by
  induction h generalizing order' with
  | done =>
      cases h'
      rfl
  | pass hseen _ ih =>
      cases h' with
      | pass _ hrest => exact ih hrest
      | enter hnew _ _ => exact absurd hseen hnew
  | enter hnew _ _ ihbelow ihrest =>
      cases h' with
      | pass hseen _ => exact absurd hseen hnew
      | enter _ hbelow hrest =>
          obtain rfl := ihbelow hbelow
          rw [ihrest hrest]

namespace ComesTo

variable {seen sought front front' chain chain' : List α} {goal : α}

/-- A search that is not broken off at the goal enters it next, after all that it has entered until
then. -/
lemma order_eq {order : List α} (h : ComesTo asks seen sought front chain goal)
    (h' : Visits asks seen sought order) : ∃ back, order = front ++ goal :: back := by
  induction h generalizing order with
  | here hnew =>
      cases h' with
      | pass hseen _ => exact absurd hseen hnew
      | enter => exact ⟨_, rfl⟩
  | pass hseen _ ih =>
      cases h' with
      | pass _ hrest => exact ih hrest
      | enter hnew _ _ => exact absurd hseen hnew
  | inside hnew _ ih =>
      cases h' with
      | pass hseen _ => exact absurd hseen hnew
      | @enter _ _ _ rest _ _ hbelow _ =>
          obtain ⟨back, rfl⟩ := ih hbelow
          exact ⟨back ++ rest, by simp⟩
  | beyond hnew hbelow _ ih =>
      cases h' with
      | pass hseen _ => exact absurd hseen hnew
      | enter _ hbelow' hrest =>
          obtain rfl := hbelow.unique hbelow'
          obtain ⟨back, rfl⟩ := ih hrest
          exact ⟨back, by simp⟩

/-- A search does not come to a goal below something and beyond it as well. -/
lemma not_mem_below {below : List α} {a : α} (hbelow : Visits asks (seen ++ [a]) (asks a) below)
    (hinside : ComesTo asks (seen ++ [a]) (asks a) front chain goal)
    (hrest : ComesTo asks (seen ++ a :: below) sought front' chain' goal) : False := by
  obtain ⟨back, rfl⟩ := hinside.order_eq hbelow
  exact hrest.goal_new (by simp)

/-- A search comes to a goal in one way only. -/
lemma unique (h : ComesTo asks seen sought front chain goal)
    (h' : ComesTo asks seen sought front' chain' goal) : front = front' ∧ chain = chain' := by
  induction h generalizing front' chain' with
  | here hnew =>
      cases h' with
      | here => exact ⟨rfl, rfl⟩
      | pass hseen _ => exact absurd hseen hnew
      | inside _ hinside => exact absurd (by simp) hinside.goal_new
      | beyond _ _ hrest => exact absurd (by simp) hrest.goal_new
  | pass hseen _ ih =>
      cases h' with
      | here hnew => exact absurd hseen hnew
      | pass _ hrest => exact ih hrest
      | inside hnew _ => exact absurd hseen hnew
      | beyond hnew _ _ => exact absurd hseen hnew
  | inside hnew hinside ih =>
      cases h' with
      | here => exact absurd (by simp) hinside.goal_new
      | pass hseen _ => exact absurd hseen hnew
      | inside _ hinside' =>
          obtain ⟨rfl, rfl⟩ := ih hinside'
          exact ⟨rfl, rfl⟩
      | beyond _ hbelow hrest => exact (not_mem_below hbelow hinside hrest).elim
  | beyond hnew hbelow hrest ih =>
      cases h' with
      | here => exact absurd (by simp) hrest.goal_new
      | pass hseen _ => exact absurd hseen hnew
      | inside _ hinside => exact (not_mem_below hbelow hinside hrest).elim
      | beyond _ hbelow' hrest' =>
          obtain rfl := hbelow.unique hbelow'
          obtain ⟨rfl, rfl⟩ := ih hrest'
          exact ⟨rfl, rfl⟩

end ComesTo

/-! ### Searches that end -/

section

variable [DecidableEq α] {things : Finset α}

/-- A search among finitely many things ends: whenever it enters one, fewer are left that it has not
seen. -/
lemma exists_visits (hclosed : ∀ a ∈ things, ∀ c ∈ asks a, c ∈ things) (seen sought : List α)
    (hsought : ∀ a ∈ sought, a ∈ things) : ∃ order, Visits asks seen sought order := by
  induction hleft : (things.filter (· ∉ seen)).card using Nat.strong_induction_on
    generalizing seen sought with
  | _ left ih =>
      induction sought with
      | nil => exact ⟨[], .done seen⟩
      | cons a sought ihrest =>
          obtain ⟨ha, hothers⟩ := List.forall_mem_cons.1 hsought
          by_cases hseen : a ∈ seen
          · obtain ⟨order, horder⟩ := ihrest hothers
            exact ⟨order, .pass hseen horder⟩
          · have hfewer : ∀ more, (things.filter (· ∉ seen ++ a :: more)).card < left := by
              intro more
              rw [← hleft]
              refine Finset.card_lt_card
                ((Finset.ssubset_iff_of_subset fun b hb => ?_).2 ⟨a, ?_, ?_⟩)
              · simp only [Finset.mem_filter, List.mem_append, not_or] at hb ⊢
                exact ⟨hb.1, hb.2.1⟩
              · exact Finset.mem_filter.2 ⟨ha, hseen⟩
              · simp
            obtain ⟨below, hbelow⟩ := ih _ (hfewer []) (seen ++ [a]) (asks a) (hclosed a ha) rfl
            obtain ⟨order, horder⟩ := ih _ (hfewer below) (seen ++ a :: below) sought hothers rfl
            exact ⟨_, .enter hseen hbelow horder⟩

end

end ShaderPreprocessor
