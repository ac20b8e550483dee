/-
**When a store says that it can serve a kind.**

Whether a kind can be served and what its credential is are read from the same mapping and the same
variable. A credential is handed out only where the kind is said to be served. The other way round
one case is left over: a key's variable that is set to a blank text counts as set for the one
question and as unset for the other.

* `EnvironmentStore.exists_credential_iff`, `EnvironmentStore.supports_iff`: either question in terms
  of the mapping and the variable;
* `EnvironmentStore.supports_of_credential`: whoever gets a credential was promised one;
* `EnvironmentStore.supports_agrees_iff`: both agree exactly where the key is not a blank text;
* `EnvironmentStore.supports_without_credential`: a promise that is not kept.
-/

import PromptRelay.Credential.Environment

namespace PromptRelay

namespace EnvironmentStore

variable {store : EnvironmentStore} {environment : Environment} {kind : BackendKind}

/-- The kind is mapped, and the variable of its key is set to a text. -/
inductive HasKey (store : EnvironmentStore) (environment : Environment) (kind : BackendKind)
    (key : String) : Prop where
  | mapped {mapping : EnvironmentMapping} (isMapped : store.mapping? kind = some mapping)
      (isSet : environment.get? mapping.keyVariable = some key) : HasKey store environment kind key

/-- A kind is said to be served when it is keyless, or its key is set to any text. -/
theorem supports_iff :
    store.supports environment kind = true ↔
      kind ∈ store.keyless ∨ ∃ key, store.HasKey environment kind key := by
  unfold supports
  by_cases keyless : kind ∈ store.keyless
  · simp [keyless]
  · rw [if_neg keyless, or_iff_right keyless]
    constructor
    · intro said
      split at said
      · cases said
      · rename_i mapping isMapped
        obtain ⟨key, isSet⟩ := Option.isSome_iff_exists.mp said
        exact ⟨key, .mapped isMapped isSet⟩
    · rintro ⟨key, ⟨isMapped, isSet⟩⟩
      rw [isMapped]
      exact Option.isSome_iff_exists.mpr ⟨key, isSet⟩

/-- **A credential is handed out** when the kind is keyless, or its key is set to a text that is not
blank. -/
theorem exists_credential_iff :
    (∃ credential, store.credential environment kind = .ok credential) ↔
      kind ∈ store.keyless ∨
        ∃ key, store.HasKey environment kind key ∧ Text.isBlank key = false := by
  unfold credential
  by_cases keyless : kind ∈ store.keyless
  · simp [keyless]
  · rw [if_neg keyless, or_iff_right keyless]
    constructor
    · rintro ⟨credential, handed⟩
      split at handed
      · cases handed
      · rename_i mapping isMapped
        split at handed
        · cases handed
        · rename_i key found
          obtain ⟨isSet, notBlank⟩ := Option.filter_eq_some_iff.mp found
          exact ⟨key, .mapped isMapped isSet, Bool.not_eq_true' _ ▸ notBlank⟩
    · rintro ⟨key, ⟨isMapped, isSet⟩, notBlank⟩
      rw [isMapped]
      dsimp only
      rw [isSet, Option.filter_some, notBlank]
      exact ⟨_, rfl⟩

/-- **Whoever gets a credential** was promised one. -/
theorem supports_of_credential {credential : Credential}
    (handed : store.credential environment kind = .ok credential) :
    store.supports environment kind = true := by
  rcases exists_credential_iff.mp ⟨credential, handed⟩ with keyless | ⟨key, hasKey, _⟩
  · exact supports_iff.mpr (.inl keyless)
  · exact supports_iff.mpr (.inr ⟨key, hasKey⟩)

/-- A variable has one value. -/
theorem HasKey.unique {key other : String} (hasKey : store.HasKey environment kind key)
    (hasOther : store.HasKey environment kind other) : key = other := by
  obtain ⟨isMapped, isSet⟩ := hasKey
  obtain ⟨otherMapped, otherSet⟩ := hasOther
  rw [isMapped, Option.some.injEq] at otherMapped
  subst otherMapped
  rw [isSet, Option.some.injEq] at otherSet
  exact otherSet

/-- **A store keeps its promise** exactly where the key of the kind is not a blank text: a kind is
then said to be served just when its credential is handed out. Where the kind is not keyless and its
key is blank, it is said to be served and has no credential. -/
theorem supports_agrees_iff (store : EnvironmentStore) (environment : Environment)
    (kind : BackendKind) :
    (store.supports environment kind = true ↔
        ∃ credential, store.credential environment kind = .ok credential) ↔
      ¬ (kind ∉ store.keyless ∧
        ∃ key, store.HasKey environment kind key ∧ Text.isBlank key = true) := by
  constructor
  · rintro agrees ⟨notKeyless, key, hasKey, blank⟩
    have handed := agrees.mp (supports_iff.mpr (.inr ⟨key, hasKey⟩))
    rcases exists_credential_iff.mp handed with keyless | ⟨other, hasOther, notBlank⟩
    · exact notKeyless keyless
    · rw [hasKey.unique hasOther, notBlank] at blank
      cases blank
  · intro notBlank
    refine ⟨fun said => ?_, fun ⟨_, handed⟩ => supports_of_credential handed⟩
    rw [exists_credential_iff]
    by_cases keyless : kind ∈ store.keyless
    · exact .inl keyless
    · obtain ⟨key, hasKey⟩ := (supports_iff.mp said).resolve_left keyless
      exact .inr ⟨key, hasKey, Bool.eq_false_iff.mpr fun blank =>
        notBlank ⟨keyless, key, hasKey, blank⟩⟩

/-- A key of one blank: the kind is said to be served, and there is no credential for it. -/
theorem supports_without_credential :
    let store : EnvironmentStore := withStandards {}
    let environment : Environment := ⟨[("OPENAI_API_KEY", " ")]⟩
    store.supports environment .openAi = true ∧
      ¬ ∃ credential, store.credential environment .openAi = .ok credential := by
  intro store environment
  have refused : store.credential environment .openAi =
      .error (.unset "OPENAI_API_KEY" .openAi) := rfl
  refine ⟨rfl, ?_⟩
  rintro ⟨credential, handed⟩
  rw [refused] at handed
  cases handed

end EnvironmentStore

end PromptRelay
