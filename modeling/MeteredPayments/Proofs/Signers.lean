import Mathlib
import MeteredPayments.Signer.Allowlist

/-!
# Accepted signers: the first binding and the last pair

Adding and removing signers keeps a bound signer's authorizer until it is removed, while building
the list from pairs keeps each signer's last pair (`allowlist_binding_laws`).
-/

namespace MeteredPayments

namespace Allowlist

variable {list : Allowlist} {signer other authorizer : Address}

/-! ## Lookups after each operation -/

@[simp] theorem authorizerOf_empty (signer : Address) : empty.authorizerOf signer = none := rfl

@[simp] theorem authorizerOf_bind :
    (list.bind signer authorizer).authorizerOf other =
      if other = signer then some authorizer else list.authorizerOf other :=
  lookup_replace list.bindings signer other authorizer

theorem contains_eq_isSome : list.contains signer = (list.authorizerOf signer).isSome := rfl

/-- Adding a signer that is bound answers `false` and changes nothing. -/
theorem add_of_bound (bound : list.authorizerOf signer ≠ none) :
    list.add signer authorizer = (false, list) := by
  have accepted : list.contains signer = true := by
    rw [contains_eq_isSome, Option.isSome_iff_ne_none]
    exact bound
  simp [add, accepted]

/-- Adding an unbound signer answers `true` and binds it. -/
theorem add_of_unbound (unbound : list.authorizerOf signer = none) :
    list.add signer authorizer = (true, list.bind signer authorizer) := by
  have accepted : list.contains signer = false := by
    rw [contains_eq_isSome, unbound]
    rfl
  simp [add, accepted]

theorem add_fst : (list.add signer authorizer).1 = true ↔ list.authorizerOf signer = none := by
  by_cases unbound : list.authorizerOf signer = none
  · simp [add_of_unbound unbound, unbound]
  · simp [add_of_bound unbound, unbound]

theorem remove_fst : (list.remove signer).1 = true ↔ list.authorizerOf signer ≠ none := by
  simp [remove, contains_eq_isSome, Option.isSome_iff_ne_none]

@[simp] theorem authorizerOf_remove :
    (list.remove signer).2.authorizerOf other =
      if other = signer then none else list.authorizerOf other :=
  lookup_filter_ne list.bindings signer other

/-! ## Building the list from pairs -/

/-- The list built from pairs binds each signer to the authorizer of its last pair. -/
theorem authorizerOf_ofPairs (pairs : List (Address × Address)) (signer : Address) :
    (ofPairs pairs).authorizerOf signer = pairs.reverse.lookup signer := by
  induction pairs using List.reverseRecOn with
  | nil => rfl
  | append_singleton pairs last induction =>
      obtain ⟨bound, authorizer⟩ := last
      have built : ofPairs (pairs ++ [(bound, authorizer)]) =
          (ofPairs pairs).bind bound authorizer := by
        simp [ofPairs, List.foldl_append]
      rw [built, authorizerOf_bind, induction, List.reverse_append]
      by_cases same : signer = bound
      · simp [same, List.lookup_cons_self]
      · simp [same, lookup_cons_of_ne _ same]

/-! ## Sequences of additions and removals -/

/-- One change of an allow-list. -/
inductive Change where
  | add (signer authorizer : Address)
  | remove (signer : Address)
deriving DecidableEq

/-- The list after a change; what the change answers is dropped. -/
def change (list : Allowlist) : Change → Allowlist
  | .add signer authorizer => (list.add signer authorizer).2
  | .remove signer => (list.remove signer).2

/-- The list after a sequence of changes, the first change first. -/
def changeAll (list : Allowlist) (changes : List Change) : Allowlist :=
  changes.foldl change list

/-- The additions of the pairs, in order. -/
def additions (pairs : List (Address × Address)) : List Change :=
  pairs.map fun (signer, authorizer) => .add signer authorizer

/-- A change other than the removal of a bound signer keeps its binding. -/
theorem change_keeps_binding (bound : list.authorizerOf signer = some authorizer)
    {step : Change} (kept : step ≠ .remove signer) :
    (list.change step).authorizerOf signer = some authorizer := by
  cases step with
  | add added addedAuthorizer =>
      by_cases unbound : list.authorizerOf added = none
      · have other_signer : signer ≠ added := by
          rintro rfl
          rw [bound] at unbound
          cases unbound
        simp [change, add_of_unbound unbound, other_signer, bound]
      · simp [change, add_of_bound unbound, bound]
  | remove removed =>
      have other_signer : signer ≠ removed := by
        rintro rfl
        exact kept rfl
      simp [change, other_signer, bound]

/-- Along a sequence of changes with no removal of a bound signer, the signer keeps its
binding. The induction is on the sequence, from any list. -/
theorem changeAll_keeps_binding (bound : list.authorizerOf signer = some authorizer)
    {changes : List Change} (kept : Change.remove signer ∉ changes) :
    (list.changeAll changes).authorizerOf signer = some authorizer := by
  induction changes generalizing list with
  | nil => exact bound
  | cons step rest induction =>
      have step_kept : step ≠ .remove signer := fun same => kept (same ▸ List.mem_cons_self)
      exact induction (change_keeps_binding bound step_kept)
        fun removed => kept (List.mem_cons_of_mem step removed)

/-- Adding pairs one by one keeps the bindings a list has, and binds each new signer to the
authorizer of its first pair. -/
theorem authorizerOf_changeAll_additions (list : Allowlist) (pairs : List (Address × Address))
    (signer : Address) :
    (list.changeAll (additions pairs)).authorizerOf signer =
      (list.authorizerOf signer).or (pairs.lookup signer) := by
  induction pairs generalizing list with
  | nil => simp [changeAll, additions]
  | cons pair rest induction =>
      obtain ⟨added, authorizer⟩ := pair
      have unfolded : list.changeAll (additions ((added, authorizer) :: rest)) =
          (list.change (.add added authorizer)).changeAll (additions rest) := rfl
      rw [unfolded, induction]
      by_cases same : signer = added
      · subst same
        rw [List.lookup_cons_self]
        by_cases unbound : list.authorizerOf signer = none
        · simp [change, add_of_unbound unbound, unbound]
        · -- a bound signer keeps its binding, whatever the later pairs say
          obtain ⟨held, bound⟩ := Option.ne_none_iff_exists'.mp unbound
          simp [change, add_of_bound unbound, bound]
      · rw [lookup_cons_of_ne _ same]
        by_cases unbound : list.authorizerOf added = none
        · simp [change, add_of_unbound unbound, same]
        · simp [change, add_of_bound unbound]

theorem authorizerOf_changeAll_adds (pairs : List (Address × Address)) (signer : Address) :
    (empty.changeAll (additions pairs)).authorizerOf signer = pairs.lookup signer := by
  rw [authorizerOf_changeAll_additions, authorizerOf_empty, Option.none_or]

/-! ## The laws -/

/-- The laws of adding, removing and building bindings from pairs. -/
theorem allowlist_binding_laws (pairs : List (Address × Address)) :
    ((∀ signer, (ofPairs pairs).authorizerOf signer =
        (empty.changeAll (additions pairs)).authorizerOf signer) ↔
      ∀ signer, pairs.reverse.lookup signer = pairs.lookup signer) ∧
    (∀ (list : Allowlist) signer authorizer,
      ((list.add signer authorizer).1 = true ↔ list.authorizerOf signer = none) ∧
      (list.authorizerOf signer = none → ∀ other,
        (list.add signer authorizer).2.authorizerOf other =
          if other = signer then some authorizer else list.authorizerOf other) ∧
      (list.authorizerOf signer ≠ none → (list.add signer authorizer).2 = list)) ∧
    (∀ (list : Allowlist) signer,
      ((list.remove signer).1 = true ↔ list.authorizerOf signer ≠ none) ∧
      ∀ other, (list.remove signer).2.authorizerOf other =
        if other = signer then none else list.authorizerOf other) ∧
    (∀ (list : Allowlist) changes signer authorizer,
      list.authorizerOf signer = some authorizer → Change.remove signer ∉ changes →
      (list.changeAll changes).authorizerOf signer = some authorizer) := by
  refine ⟨?_,
    fun list signer authorizer => ⟨add_fst, fun unbound other => ?_, fun bound => ?_⟩,
    fun list signer => ⟨remove_fst, fun other => authorizerOf_remove⟩,
    fun list changes signer authorizer bound kept => changeAll_keeps_binding bound kept⟩
  · -- the list built from pairs keeps the last pair, the additions keep the first
    simp only [authorizerOf_ofPairs, authorizerOf_changeAll_adds]
  · rw [add_of_unbound unbound, authorizerOf_bind]
  · rw [add_of_bound bound]

/-- One signer listed twice, first for one payer and then for another. -/
def repeatedSigner : List (Address × Address) :=
  [(Address.ofNat 1, Address.ofNat 2), (Address.ofNat 1, Address.ofNat 3)]

/-- The list built from `repeatedSigner` binds the signer to the second payer, adding the pairs one
by one binds it to the first. -/
theorem repeated_signer_keeps_its_last_pair :
    (ofPairs repeatedSigner).authorizerOf (Address.ofNat 1) = some (Address.ofNat 3) ∧
    (empty.changeAll (additions repeatedSigner)).authorizerOf (Address.ofNat 1) =
      some (Address.ofNat 2) ∧
    (ofPairs repeatedSigner).authorizerOf (Address.ofNat 1) ≠
      (empty.changeAll (additions repeatedSigner)).authorizerOf (Address.ofNat 1) := by
  decide

end Allowlist

end MeteredPayments
