/-
**What a catalog knows.**

A list of providers is looked through once, and the index that this leaves agrees with the list for
every id. So a catalog is made of every list of sound providers with distinct ids, and an id is
looked up at the position that the index tells, where its only provider stands.

* `Catalog.IsFit`, `Catalog.Flaw`: lists that a catalog is made of, and what is wrong at the first
  position of any other;
* `Catalog.exists_enter`, `Catalog.exists_flaw_of_enter`: how a list is looked through;
* `Catalog.exists_ofList_iff`, `Catalog.ofList_eq_error_iff`: when a catalog is made, and else for
  which fault it is refused;
* `Catalog.find?_eq_some_iff`, `Catalog.contains_iff`: what is found by its id;
* `Catalog.FirstSeen`, `Catalog.firstSeen_kinds`: the kinds of a catalog, each where it occurs first;
* `Catalog.providers_indexed`: all of it for the catalog of a list.
-/

import Mathlib.Data.List.Nodup
import PromptRelay.Provider.Catalog

namespace PromptRelay

namespace Catalog

variable {index : Index} {earlier later providers : List Provider} {provider : Provider}

/-! ### Lists of providers -/

/-- The providers are sound and have distinct ids. -/
structure IsFit (providers : List Provider) : Prop where
  sound : ∀ provider ∈ providers, provider.fault? = none
  distinct : (providers.map Provider.id).Nodup

/-- A provider cannot stand behind earlier ones: it has a fault of its own, or else repeats an
id. -/
inductive Flaw (earlier : List Provider) (provider : Provider) : ProviderFault → Prop where
  | own {fault : ProviderFault} (found : provider.fault? = some fault) :
      Flaw earlier provider fault
  | repeated (sound : provider.fault? = none) (known : provider.id ∈ earlier.map Provider.id) :
      Flaw earlier provider (.duplicateId provider.id)

theorem Flaw.not_isFit {fault : ProviderFault} (flaw : Flaw earlier provider fault) :
    ¬ IsFit (earlier ++ provider :: later) := by
  intro fit
  cases flaw with
  | own found =>
    have sound := fit.sound provider (List.mem_append_right _ List.mem_cons_self)
    rw [found] at sound
    cases sound
  | repeated _ known =>
    have distinct := fit.distinct
    rw [List.map_append, List.map_cons, List.nodup_append] at distinct
    exact distinct.2.2 _ known _ List.mem_cons_self rfl

/-- An index knows the ids of its providers, and no others. -/
theorem Index.IsOf.isSome_iff (isOf : index.IsOf providers) {id : String} :
    (index.lookup id).isSome = true ↔ id ∈ providers.map Provider.id := by
  rw [Option.isSome_iff_exists, List.mem_iff_getElem?]
  exact exists_congr (isOf.agrees id)

/-- Two positions of one id are told by the same entry, so providers that are indexed are fit for a
catalog. -/
theorem Index.IsOf.isFit (isOf : index.IsOf providers) : IsFit providers where
  sound := isOf.sound
  distinct := by
    rw [List.nodup_iff_getElem?_ne_getElem?]
    intro first second before below same
    obtain ⟨id, there⟩ : ∃ id, (providers.map Provider.id)[second]? = some id :=
      ⟨_, List.getElem?_eq_getElem below⟩
    have toldSecond := (isOf.agrees id second).mpr there
    have toldFirst := (isOf.agrees id first).mpr (same.trans there)
    rw [toldSecond, Option.some.injEq] at toldFirst
    omega

/-! ### The pass through a list -/

/-- A provider with a flaw ends the pass. -/
theorem enter_of_flaw {fault : ProviderFault} {position : Nat} (isOf : index.IsOf earlier)
    (flaw : Flaw earlier provider fault) :
    enter index position (provider :: later) = .error fault := by
  unfold enter
  cases flaw with
  | own found => rw [found]
  | repeated sound known =>
    rw [sound]
    exact if_pos (isOf.isSome_iff.mpr known)

/-- A provider without a flaw is entered, and the pass goes on. -/
theorem enter_of_new {position : Nat} (isOf : index.IsOf earlier)
    (sound : provider.fault? = none) (new : provider.id ∉ earlier.map Provider.id) :
    enter index position (provider :: later) =
      enter ((provider.id, position) :: index) (position + 1) later := by
  rw [enter, sound]
  exact if_neg (mt isOf.isSome_iff.mp new)

/-- A pass that fails has met a flaw behind fit providers. -/
theorem exists_flaw_of_enter {fault : ProviderFault} (isOf : index.IsOf earlier)
    (failed : enter index earlier.length providers = .error fault) :
    ∃ before provider later, providers = before ++ provider :: later ∧
      IsFit (earlier ++ before) ∧ Flaw (earlier ++ before) provider fault := by
  induction providers generalizing index earlier with
  | nil => cases failed
  | cons first providers hypothesis =>
    by_cases flawed : ∃ cause, Flaw earlier first cause
    · obtain ⟨cause, flaw⟩ := flawed
      rw [enter_of_flaw isOf flaw] at failed
      cases failed
      refine ⟨[], first, providers, rfl, ?_⟩
      rw [List.append_nil]
      exact ⟨isOf.isFit, flaw⟩
    · have sound : first.fault? = none := by
        rw [Option.eq_none_iff_forall_not_mem]
        exact fun cause found => flawed ⟨cause, .own found⟩
      have new : first.id ∉ earlier.map Provider.id :=
        fun known => flawed ⟨_, .repeated sound known⟩
      have unknown : index.lookup first.id = none :=
        Option.not_isSome_iff_eq_none.mp (mt isOf.isSome_iff.mp new)
      rw [enter_of_new isOf sound new] at failed
      obtain ⟨before, provider, later, rfl, fit, flaw⟩ :=
        hypothesis (isOf.concat sound unknown) (by rwa [List.length_append])
      rw [← List.append_cons] at fit flaw
      exact ⟨first :: before, provider, later, rfl, fit, flaw⟩

/-- **A fit list** is looked through to its end. -/
theorem exists_enter (fit : IsFit providers) :
    ∃ full, enter [] 0 providers = .ok full ∧ full.IsOf providers := by
  cases entered : enter [] 0 providers with
  | ok full => exact ⟨full, rfl, isOf_of_enter .nil entered⟩
  | error fault =>
    obtain ⟨before, provider, later, rfl, _, flaw⟩ := exists_flaw_of_enter .nil entered
    exact absurd fit flaw.not_isFit

/-- A list is looked through piece by piece. -/
theorem enter_append {full : Index} {position : Nat}
    (entered : enter index position earlier = .ok full) :
    enter index position (earlier ++ later) = enter full (position + earlier.length) later := by
  induction earlier generalizing index position with
  | nil =>
    cases entered
    rfl
  | cons first earlier hypothesis =>
    rw [List.cons_append, List.length_cons, Nat.add_comm earlier.length, ← Nat.add_assoc]
    cases own : first.fault? with
    | some fault =>
      simp only [enter, own] at entered
      cases entered
    | none =>
      simp only [enter, own] at entered ⊢
      split at entered
      · cases entered
      · rename_i new
        rw [if_neg new]
        exact hypothesis entered

/-! ### Catalogs of lists -/

theorem ofList_eq_ok_iff {catalog : Catalog} :
    ofList providers = .ok catalog ↔
      enter [] 0 providers = .ok catalog.index ∧ catalog.providers = providers := by
  unfold ofList
  split
  · rename_i fault failed
    refine iff_of_false (fun made => by cases made) fun entered => ?_
    cases failed.symm.trans entered.1
  · rename_i index entered
    constructor
    · rintro ⟨rfl⟩
      exact ⟨entered, rfl⟩
    · obtain ⟨listed, full, indexed⟩ := catalog
      rintro ⟨same, rfl⟩
      cases entered.symm.trans same
      rfl

theorem ofList_eq_error_iff_enter {fault : ProviderFault} :
    ofList providers = .error fault ↔ enter [] 0 providers = .error fault := by
  unfold ofList
  split
  · rename_i cause failed
    rw [failed, Except.error.injEq, Except.error.injEq]
  · rename_i index entered
    refine iff_of_false (fun failed => by cases failed) fun failed => ?_
    cases entered.symm.trans failed

/-- **A catalog is made** of a list of sound providers with distinct ids. -/
theorem exists_ofList_iff : (∃ catalog, ofList providers = .ok catalog) ↔ IsFit providers := by
  constructor
  · rintro ⟨catalog, made⟩
    obtain ⟨_, rfl⟩ := ofList_eq_ok_iff.mp made
    exact catalog.indexed.isFit
  · intro fit
    obtain ⟨full, entered, isOf⟩ := exists_enter fit
    exact ⟨⟨providers, full, isOf⟩, ofList_eq_ok_iff.mpr ⟨entered, rfl⟩⟩

/-- **A list is refused** for the flaw at the first position that has one. -/
theorem ofList_eq_error_iff {fault : ProviderFault} :
    ofList providers = .error fault ↔ ∃ earlier provider later,
      providers = earlier ++ provider :: later ∧ IsFit earlier ∧ Flaw earlier provider fault := by
  rw [ofList_eq_error_iff_enter]
  constructor
  · exact exists_flaw_of_enter .nil
  · rintro ⟨earlier, provider, later, rfl, fit, flaw⟩
    obtain ⟨full, entered, isOf⟩ := exists_enter fit
    rw [enter_append entered]
    exact enter_of_flaw isOf flaw

/-! ### Providers by id -/

variable {catalog : Catalog} {id : String}

/-- **An id is looked up** at its position, where its provider stands. -/
theorem find?_eq_some_iff :
    catalog.find? id = some provider ↔ provider ∈ catalog.providers ∧ provider.id = id := by
  have agrees := catalog.indexed.agrees
  unfold find?
  split
  · rename_i position told
    have here := (agrees id position).mp told
    have below := catalog.indexed.lt_length told
    rw [List.getElem?_map, List.getElem?_eq_getElem below, Option.map_some,
      Option.some.injEq] at here
    rw [Option.some.injEq]
    constructor
    · rintro rfl
      exact ⟨List.get_mem _ _, here⟩
    · rintro ⟨member, same⟩
      -- The index tells this provider's position too, and tells one position an id.
      obtain ⟨other, there⟩ := List.mem_iff_getElem?.mp member
      have toldThere : catalog.index.lookup id = some other :=
        (agrees id other).mpr (by rw [List.getElem?_map, there, Option.map_some, same])
      rw [told, Option.some.injEq] at toldThere
      subst toldThere
      rw [List.getElem?_eq_getElem below] at there
      exact Option.some.inj there
  · rename_i unknown
    refine iff_of_false (fun found => by cases found) ?_
    rintro ⟨member, rfl⟩
    have known := catalog.indexed.isSome_iff.mpr (List.mem_map_of_mem member)
    rw [unknown] at known
    cases known

theorem id_of_find? (found : catalog.find? id = some provider) : provider.id = id :=
  (find?_eq_some_iff.mp found).2

theorem mem_of_find? (found : catalog.find? id = some provider) : provider ∈ catalog.providers :=
  (find?_eq_some_iff.mp found).1

/-- The ids that a catalog has a provider of. -/
theorem contains_iff : catalog.contains id = true ↔ id ∈ catalog.providers.map Provider.id :=
  catalog.indexed.isSome_iff

theorem not_contains_iff :
    (!catalog.contains id) = true ↔ id ∉ catalog.providers.map Provider.id := by
  rw [Bool.not_eq_true', ← Bool.not_eq_true, contains_iff]

theorem contains_iff_exists_find? :
    catalog.contains id = true ↔ ∃ provider, catalog.find? id = some provider := by
  simp only [contains_iff, List.mem_map, find?_eq_some_iff]

theorem lookup_eq_ok_iff :
    catalog.lookup id = .ok provider ↔ catalog.find? id = some provider := by
  unfold lookup
  cases catalog.find? id <;> simp

theorem lookup_eq_error_iff {error : HopError} :
    catalog.lookup id = .error error ↔
      catalog.contains id = false ∧ error = .providerUnknown id := by
  rw [← Bool.not_eq_true, contains_iff_exists_find?]
  unfold lookup
  cases catalog.find? id with
  | none => simp [eq_comm]
  | some provider => simp

/-! ### Kinds -/

/-- The kinds of providers, each of them once, in the order in which they occur first. -/
structure FirstSeen (providers : List Provider) (kinds : List BackendKind) : Prop where
  mem_iff : ∀ kind, kind ∈ kinds ↔ kind ∈ providers.map Provider.kind
  inOrder : kinds.Pairwise fun kind other =>
    (providers.map Provider.kind).idxOf kind < (providers.map Provider.kind).idxOf other

namespace FirstSeen

variable {kinds : List BackendKind}

theorem nodup (seen : FirstSeen providers kinds) : kinds.Nodup := by
  refine seen.inOrder.imp ?_
  rintro kind _ before rfl
  exact Nat.lt_irrefl _ before

/-- A kind that has been seen stands where it stood, whatever comes after it. -/
theorem idxOf_concat (seen : FirstSeen providers kinds) {kind : BackendKind}
    (member : kind ∈ kinds) :
    ((providers ++ [provider]).map Provider.kind).idxOf kind =
      (providers.map Provider.kind).idxOf kind := by
  rw [List.map_append, List.idxOf_append_of_mem ((seen.mem_iff kind).mp member)]

/-- **One more provider** has a kind that has been seen, or adds its own behind the others. -/
theorem concat (seen : FirstSeen providers kinds) :
    FirstSeen (providers ++ [provider])
      (if provider.kind ∈ kinds then kinds else kinds ++ [provider.kind]) := by
  have inOrder : kinds.Pairwise fun kind other =>
      ((providers ++ [provider]).map Provider.kind).idxOf kind <
        ((providers ++ [provider]).map Provider.kind).idxOf other := by
    refine seen.inOrder.imp_of_mem fun member memberOther before => ?_
    rwa [seen.idxOf_concat member, seen.idxOf_concat memberOther]
  by_cases known : provider.kind ∈ kinds
  · rw [if_pos known]
    refine ⟨fun kind => ?_, inOrder⟩
    rw [List.map_append, List.mem_append, ← seen.mem_iff, List.map_singleton,
      List.mem_singleton]
    exact ⟨.inl, fun member => member.elim id fun same => same ▸ known⟩
  · rw [if_neg known]
    refine ⟨fun kind => ?_, List.pairwise_append.mpr ⟨inOrder, List.pairwise_singleton _ _, ?_⟩⟩
    · rw [List.map_append, List.mem_append, List.mem_append, ← seen.mem_iff, List.map_singleton]
    · intro kind member other isLast
      rw [List.mem_singleton.mp isLast, seen.idxOf_concat member, List.map_append,
        List.idxOf_append_of_notMem (mt (seen.mem_iff _).mpr known)]
      exact Nat.lt_add_right _ (List.idxOf_lt_length_of_mem ((seen.mem_iff kind).mp member))

/-- The kinds are collected from provider to provider. -/
theorem foldl (seen : FirstSeen earlier kinds) :
    FirstSeen (earlier ++ later) (later.foldl (fun kinds provider =>
      if provider.kind ∈ kinds then kinds else kinds ++ [provider.kind]) kinds) := by
  induction later generalizing earlier kinds with
  | nil => rwa [List.append_nil]
  | cons provider later hypothesis =>
    rw [List.append_cons]
    exact hypothesis seen.concat

end FirstSeen

/-- **The kinds of a catalog** are those of its providers, in the order of first use. -/
theorem firstSeen_kinds (catalog : Catalog) : FirstSeen catalog.providers catalog.kinds :=
  have nothing : FirstSeen [] [] := ⟨fun _ => Iff.rfl, .nil⟩
  nothing.foldl

theorem kind_mem_kinds (member : provider ∈ catalog.providers) :
    provider.kind ∈ catalog.kinds :=
  (catalog.firstSeen_kinds.mem_iff _).mpr (List.mem_map_of_mem member)

theorem mem_ofKind_iff {kind : BackendKind} :
    provider ∈ catalog.ofKind kind ↔ provider ∈ catalog.providers ∧ kind = provider.kind := by
  unfold ofKind
  rw [List.mem_filter, decide_eq_true_eq, eq_comm]

/-! ### All of it -/

/-- **Catalogs agree with their lists.** A catalog is made exactly of a list of sound providers with
distinct ids. Any other list is refused for the first position at which a provider has a fault, or
has none but repeats an id. The catalog then lists the providers as they were given. It finds under
an id the one provider that has it, and tells of every other id that it is unknown. The kinds in use
are told once each in the order of their first use, and each provider stands under its own kind
alone, in the order of the list. -/
theorem providers_indexed (providers : List Provider) :
    ((∃ catalog, ofList providers = .ok catalog) ↔
      (∀ provider ∈ providers, provider.fault? = none) ∧ (providers.map Provider.id).Nodup) ∧
    (∀ fault, ofList providers = .error fault ↔ ∃ earlier provider later,
      providers = earlier ++ provider :: later ∧
      (∀ other ∈ earlier, other.fault? = none) ∧ (earlier.map Provider.id).Nodup ∧
      (provider.fault? = some fault ∨ provider.fault? = none ∧
        provider.id ∈ earlier.map Provider.id ∧ fault = .duplicateId provider.id)) ∧
    ∀ catalog, ofList providers = .ok catalog →
      catalog.providers = providers ∧
      (∀ id provider, catalog.lookup id = .ok provider ↔
        provider ∈ providers ∧ provider.id = id) ∧
      (∀ id, catalog.contains id = true ↔ ∃! provider, provider ∈ providers ∧ provider.id = id) ∧
      (∀ id error, catalog.lookup id = .error error ↔
        (¬ ∃ provider ∈ providers, provider.id = id) ∧ error = .providerUnknown id) ∧
      catalog.kinds.Nodup ∧
      (∀ kind, kind ∈ catalog.kinds ↔ ∃ provider ∈ providers, provider.kind = kind) ∧
      (catalog.kinds.Pairwise fun kind other =>
        (providers.map Provider.kind).idxOf kind < (providers.map Provider.kind).idxOf other) ∧
      (∀ provider ∈ providers, ∀ kind, provider ∈ catalog.ofKind kind ↔ kind = provider.kind) ∧
      ∀ kind, (catalog.ofKind kind).Sublist providers := by
  refine ⟨?_, fun fault => ?_, fun catalog made => ?_⟩
  · rw [exists_ofList_iff]
    exact ⟨fun fit => ⟨fit.sound, fit.distinct⟩, fun fit => ⟨fit.1, fit.2⟩⟩
  · rw [ofList_eq_error_iff]
    refine exists_congr fun earlier => exists_congr fun provider => exists_congr fun later => ?_
    constructor
    · rintro ⟨split, fit, flaw⟩
      refine ⟨split, fit.sound, fit.distinct, ?_⟩
      cases flaw with
      | own found => exact .inl found
      | repeated sound known => exact .inr ⟨sound, known, rfl⟩
    · rintro ⟨split, sound, distinct, found | ⟨own, known, rfl⟩⟩
      · exact ⟨split, ⟨sound, distinct⟩, .own found⟩
      · exact ⟨split, ⟨sound, distinct⟩, .repeated own known⟩
  · obtain ⟨_, rfl⟩ := ofList_eq_ok_iff.mp made
    have seen := catalog.firstSeen_kinds
    refine ⟨rfl, fun id provider => lookup_eq_ok_iff.trans find?_eq_some_iff, fun id => ?_,
      fun id error => ?_, seen.nodup, fun kind => (seen.mem_iff kind).trans List.mem_map,
      seen.inOrder, fun provider member kind => ?_, fun kind => List.filter_sublist⟩
    · simp only [contains_iff_exists_find?, ← find?_eq_some_iff]
      refine ⟨fun ⟨provider, found⟩ => ⟨provider, found, fun other there => ?_⟩,
        fun ⟨provider, found, _⟩ => ⟨provider, found⟩⟩
      exact Option.some.inj (there.symm.trans found)
    · rw [lookup_eq_error_iff, ← Bool.not_eq_true, contains_iff, List.mem_map]
    · rw [mem_ofKind_iff, and_iff_right member]

/-- Two providers of one kind, with one of another between them. -/
theorem providers_indexed_around :
    let llama : Provider := { id := "llama", displayName := "Llama", kind := .localServer }
    let gpt : Provider := { id := "gpt", displayName := "GPT", kind := .openAi }
    let mistral : Provider := { id := "mistral", displayName := "Mistral", kind := .localServer }
    ∃ catalog, ofList [llama, gpt, mistral] = .ok catalog ∧
      catalog.lookup "mistral" = .ok mistral ∧
      catalog.lookup "claude" = .error (.providerUnknown "claude") ∧
      BackendKind.anthropic ∉ catalog.kinds ∧ gpt ∉ catalog.ofKind .localServer := by
  intro llama gpt mistral
  obtain ⟨whenMade, _, known⟩ := providers_indexed [llama, gpt, mistral]
  obtain ⟨catalog, made⟩ := whenMade.mpr ⟨by decide +kernel, by decide⟩
  obtain ⟨_, found, _, unknown, _, kinds, _, alone, _⟩ := known catalog made
  refine ⟨catalog, made, (found _ _).mpr ⟨by simp, rfl⟩, (unknown _ _).mpr ⟨by decide, rfl⟩,
    mt (kinds _).mp (by decide), ?_⟩
  rw [alone gpt (by simp)]
  decide

end Catalog

end PromptRelay
