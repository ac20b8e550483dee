/-
**The catalog of providers.**

A catalog is a list of sound providers with distinct ids, in the order given, and an index that
tells where each id stands. The index is made while the list is looked through, and a position that
it tells is always one of the list.

* `Catalog.Index.IsOf`: an index tells where the ids of providers stand, all of which are sound;
* `Catalog.enter`, `Catalog.isOf_of_enter`: a list is looked through, with the index made so far;
* `Catalog.ofList`: the catalog of a list, or the fault of the first position that has one;
* `Catalog.lookup`: the provider of an id.
-/

import PromptRelay.Hop.Failure
import PromptRelay.Provider.Basic

namespace PromptRelay

namespace Catalog

/-- The position of each id, the last one that was entered in front. -/
abbrev Index := List (String × Nat)

/-- The providers are sound, and the index tells where each id stands among them. -/
structure Index.IsOf (index : Index) (providers : List Provider) : Prop where
  sound : ∀ provider ∈ providers, provider.fault? = none
  agrees : ∀ id position, index.lookup id = some position ↔
    (providers.map Provider.id)[position]? = some id

/-- What stands in a list with one more entry at its end. -/
theorem getElem?_concat_eq_some_iff {ids : List String} {last id : String} {position : Nat} :
    (ids ++ [last])[position]? = some id ↔
      ids[position]? = some id ∨ (position = ids.length ∧ last = id) := by
  rcases Nat.lt_trichotomy position ids.length with below | rfl | beyond
  · rw [List.getElem?_append_left below]
    simp [Nat.ne_of_lt below]
  · rw [List.getElem?_concat_length]
    simp
  · have outside : (ids ++ [last]).length ≤ position := by
      rw [List.length_append, List.length_singleton]
      exact beyond
    rw [List.getElem?_eq_none outside, List.getElem?_eq_none (Nat.le_of_lt beyond)]
    simp [Nat.ne_of_gt beyond]

namespace Index.IsOf

variable {index : Index} {providers : List Provider}

theorem nil : IsOf [] [] where
  sound provider member := by cases member
  agrees id position := by simp

/-- A position that is told is one of the list. -/
theorem lt_length (isOf : index.IsOf providers) {id : String} {position : Nat}
    (told : index.lookup id = some position) : position < providers.length := by
  have here := (isOf.agrees id position).mp told
  obtain ⟨below, _⟩ := List.getElem?_eq_some_iff.mp here
  rwa [List.length_map] at below

/-- **A sound provider with a new id is entered** behind the others. -/
theorem concat (isOf : index.IsOf providers) {provider : Provider}
    (sound : provider.fault? = none) (new : index.lookup provider.id = none) :
    IsOf ((provider.id, providers.length) :: index) (providers ++ [provider]) where
  sound := by
    intro other member
    rcases List.mem_append.mp member with member | member
    · exact isOf.sound other member
    · rw [List.mem_singleton.mp member]
      exact sound
  agrees := by
    intro id position
    rw [List.map_append, List.map_singleton, getElem?_concat_eq_some_iff, List.length_map,
      ← isOf.agrees, List.lookup_cons]
    -- The new id has no entry yet, so the one that is put in front hides none.
    by_cases same : id = provider.id
    · subst same
      rw [beq_self_eq_true, new, Option.some.injEq]
      exact ⟨fun last => .inr ⟨last.symm, rfl⟩, fun there => by
        rcases there with told | ⟨last, _⟩
        · cases told
        · exact last.symm⟩
    · rw [beq_false_of_ne same]
      exact ⟨.inl, fun there => there.resolve_right fun last => same last.2.symm⟩

end Index.IsOf

/-- The index with the ids of further providers, or the fault of the first one that has a fault or
repeats an id. -/
def enter (index : Index) (position : Nat) : List Provider → Except ProviderFault Index
  | [] => .ok index
  | provider :: providers =>
    match provider.fault? with
    | some fault => .error fault
    | none =>
      if (index.lookup provider.id).isSome then .error (.duplicateId provider.id)
      else enter ((provider.id, position) :: index) (position + 1) providers

/-- **A list that is entered** to its end is indexed with what came before. -/
theorem isOf_of_enter {index full : Index} {earlier later : List Provider}
    (isOf : index.IsOf earlier) (entered : enter index earlier.length later = .ok full) :
    full.IsOf (earlier ++ later) := by
  induction later generalizing index earlier with
  | nil =>
    cases entered
    rwa [List.append_nil]
  | cons provider later hypothesis =>
    unfold enter at entered
    split at entered
    · cases entered
    · rename_i sound
      split at entered
      · cases entered
      · rename_i new
        have next := isOf.concat sound (Option.not_isSome_iff_eq_none.mp new)
        rw [List.append_cons]
        refine hypothesis next ?_
        rwa [List.length_append, List.length_singleton]

end Catalog

/-- Sound providers with distinct ids, and where each id stands. -/
structure Catalog where
  providers : List Provider
  index : Catalog.Index
  indexed : index.IsOf providers

namespace Catalog

/-- The catalog of a list, refused at the first position with a fault. -/
def ofList (providers : List Provider) : Except ProviderFault Catalog :=
  match entered : enter [] 0 providers with
  | .error fault => .error fault
  | .ok index => .ok { providers, index, indexed := isOf_of_enter .nil entered }

/-- The provider of an id, if there is one. -/
def find? (catalog : Catalog) (id : String) : Option Provider :=
  match told : catalog.index.lookup id with
  | some position => some (catalog.providers.get ⟨position, catalog.indexed.lt_length told⟩)
  | none => none

/-- The provider of an id. -/
def lookup (catalog : Catalog) (id : String) : Except HopError Provider :=
  match catalog.find? id with
  | some provider => .ok provider
  | none => .error (.providerUnknown id)

/-- The catalog has a provider of this id. -/
def contains (catalog : Catalog) (id : String) : Bool :=
  (catalog.index.lookup id).isSome

/-- The providers that one kind of backend serves. -/
def ofKind (catalog : Catalog) (kind : BackendKind) : List Provider :=
  catalog.providers.filter fun provider => provider.kind = kind

/-- The kinds of backend in use, in the order of first use. -/
def kinds (catalog : Catalog) : List BackendKind :=
  catalog.providers.foldl
    (fun kinds provider =>
      if provider.kind ∈ kinds then kinds else kinds ++ [provider.kind]) []

/-- The number of providers. -/
def size (catalog : Catalog) : Nat :=
  catalog.providers.length

end Catalog

end PromptRelay
