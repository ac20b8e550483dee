/-
**The public types as JSON.**

What a run is made of and what a caller sees of it is written as JSON and read back. The names of
the fields differ, those of views and responses being in camel case and the others in snake case,
and so does the writing of an absent text: a view leaves the field off, a record writes null. Reader
and writer agree all the same, field by field: `readsBack` follows the reader over what was written,
`assures` says what it makes of any sound value, and `isFaithful` adds that it looks at the names of
the type alone.

* `HopOutput.codec`, `HopRecord.codec`, `ChainMetadata.codec`, `Provider.codec`, `HopPattern.codec`,
  `HopView.codec`, `ChainResponse.codec`: how each type is written and read;
* `HopView.content_leavesOff`, `HopView.failureReason_leavesOff`, `ChainResponse.error_leavesOff`:
  the texts that are left off;
* `ChainResponse.ofJson_congr_hops`: views inside a response are read as views alone are;
* `public_types_faithful`: all this at once.
-/

import PromptRelay.Chain.Json
import PromptRelay.Pattern.Json
import PromptRelay.Proofs.Json.Codecs
import PromptRelay.Provider.Json

namespace PromptRelay

open Json

/-! ### Words -/

theorem FailureKind.readsBack :
    ReadsBack (.text <| word ·) (strict.choice choice) fun _ => True :=
  choice_readsBack fun kind => by cases kind <;> rfl

theorem RarityTier.readsBack :
    ReadsBack (.text <| word ·) (strict.choice choice) fun _ => True :=
  choice_readsBack fun tier => by cases tier <;> rfl

theorem BackendKind.readsBack :
    ReadsBack (.text <| word ·) (strict.choice choice) fun _ => True :=
  choice_readsBack fun kind => by cases kind <;> rfl

/-! ### Outputs -/

namespace HopOutput

/-- Outputs as JSON. -/
def codec : Codec HopOutput where
  toJson := toJson
  ofJson := ofJson
  names := ["content", "tokens_used", "cost"]
  wholes := [(.word32, tokens)]
  floats := [("cost", cost)]

theorem readsBack :
    ReadsBack toJson ofJson fun output => codec.Fits output ∧ codec.IsFinite output := by
  intro output result
  rw [ofJson, toJson, record_object_eq_ok_iff, form]
  simp only [Form.leads_seq_iff, Form.leads_map_iff]
  rw [text_readsBack.leads rfl, (whole_readsBack _).leads rfl, number_readsBack.leads rfl]
  simp [codec, Codec.Fits, Codec.IsFinite, and_assoc]

theorem assures : Assures ofJson fun output => codec.Fits output ∧ codec.IsFinite output := by
  refine assures_record fun value opened output opens sound => ?_
  simp only [form, Form.leads_seq_iff, Form.leads_map_iff, Form.leads_field_iff]
  rintro ⟨_, _, _, isTokens, _, isCost, rfl⟩
  have fits := (whole_assures _).field opens sound isTokens
  have finite := number_assures.field opens sound isCost
  simp [codec, Codec.Fits, Codec.IsFinite, fits, finite]

theorem isFaithful : codec.IsFaithful := by
  refine Codec.isFaithful "HopOutput" form (fun _ => rfl) readsBack assures
    (fun find? other? same => ?_) ?_
  · refine (((Form.agrees_field ?_).map _).seq (Form.agrees_field ?_)).seq (Form.agrees_field ?_)
    all_goals exact congrArg _ (same _ (by decide))
  · exact List.forall_mem_singleton.mpr fun _ => rfl

end HopOutput

/-! ### Records -/

namespace HopRecord

/-- Records as JSON. -/
def codec : Codec HopRecord where
  toJson := toJson
  ofJson := ofJson
  names := ["hop_index", "provider_id", "prompt", "response_content", "tokens_used", "cost",
    "duration_ms", "succeeded", "failure_reason", "failure_kind"]
  wholes := [(.size, index), (.word32, tokens), (.word64, duration)]
  floats := [("cost", cost)]

theorem readsBack :
    ReadsBack toJson ofJson fun hop => codec.Fits hop ∧ codec.IsFinite hop := by
  intro hop result
  rw [ofJson, toJson, record_object_eq_ok_iff, form]
  simp only [Form.leads_seq_iff, Form.leads_map_iff]
  rw [(whole_readsBack _).leads rfl, text_readsBack.leads rfl, text_readsBack.leads rfl,
    (text_readsBack.nullable fun _ => rfl).leads_optional rfl, (whole_readsBack _).leads rfl,
    number_readsBack.leads rfl, (whole_readsBack _).leads rfl, flag_readsBack.leads rfl,
    (text_readsBack.nullable fun _ => rfl).leads_optional rfl,
    (FailureKind.readsBack.nullable fun _ => rfl).leads_optional rfl]
  simp only [codec, Codec.Fits, Codec.IsFinite, List.forall_mem_cons]
  tauto

theorem assures : Assures ofJson fun hop => codec.Fits hop ∧ codec.IsFinite hop := by
  refine assures_record fun value opened hop opens sound => ?_
  simp only [form, Form.leads_seq_iff, Form.leads_map_iff, Form.leads_field_iff,
    Form.leads_optional_iff]
  rintro ⟨_, isIndex, _, _, _, _, _, _, _, isTokens, _, isCost, _, isDuration, _, _, _, _, _, _,
    rfl⟩
  have indexFits := (whole_assures _).field opens sound isIndex
  have tokensFit := (whole_assures _).field opens sound isTokens
  have durationFits := (whole_assures _).field opens sound isDuration
  have finite := number_assures.field opens sound isCost
  simp [codec, Codec.Fits, Codec.IsFinite, indexFits, tokensFit, durationFits, finite]

theorem isFaithful : codec.IsFaithful := by
  refine Codec.isFaithful "HopRecord" form (fun _ => rfl) readsBack assures
    (fun find? other? same => ?_) ?_
  · refine ((((((((((Form.agrees_field ?_).map _).seq (Form.agrees_field ?_)).seq
      (Form.agrees_field ?_)).seq (Form.agrees_optional ?_)).seq (Form.agrees_field ?_)).seq
      (Form.agrees_field ?_)).seq (Form.agrees_field ?_)).seq (Form.agrees_field ?_)).seq
      (Form.agrees_optional ?_)).seq (Form.agrees_optional ?_)
    all_goals exact congrArg _ (same _ (by decide))
  · exact List.forall_mem_singleton.mpr fun _ => rfl

end HopRecord

/-! ### Scores -/

namespace ChainMetadata

/-- Scores as JSON. -/
def codec : Codec ChainMetadata where
  toJson := toJson
  ofJson := ofJson
  names := ["quality_score", "diversity_score", "rarity_tier"]
  floats := [("quality_score", quality), ("diversity_score", diversity)]

theorem readsBack :
    ReadsBack toJson ofJson fun metadata => codec.Fits metadata ∧ codec.IsFinite metadata := by
  intro metadata result
  rw [ofJson, toJson, record_object_eq_ok_iff, form]
  simp only [Form.leads_seq_iff, Form.leads_map_iff]
  rw [number_readsBack.leads rfl, number_readsBack.leads rfl, RarityTier.readsBack.leads rfl]
  simp [codec, Codec.Fits, Codec.IsFinite, and_assoc]

theorem assures :
    Assures ofJson fun metadata => codec.Fits metadata ∧ codec.IsFinite metadata := by
  refine assures_record fun value opened metadata opens sound => ?_
  simp only [form, Form.leads_seq_iff, Form.leads_map_iff, Form.leads_field_iff]
  rintro ⟨_, isQuality, _, isDiversity, _, _, rfl⟩
  have qualityFinite := number_assures.field opens sound isQuality
  have diversityFinite := number_assures.field opens sound isDiversity
  simp [codec, Codec.Fits, Codec.IsFinite, qualityFinite, diversityFinite]

theorem isFaithful : codec.IsFaithful := by
  refine Codec.isFaithful "ChainMetadata" form (fun _ => rfl) readsBack assures
    (fun find? other? same => ?_) ?_
  · refine (((Form.agrees_field ?_).map _).seq (Form.agrees_field ?_)).seq (Form.agrees_field ?_)
    all_goals exact congrArg _ (same _ (by decide))
  · exact List.forall_mem_cons.mpr ⟨fun _ => rfl, List.forall_mem_singleton.mpr fun _ => rfl⟩

end ChainMetadata

/-! ### Providers -/

namespace Provider

/-- Providers as JSON. -/
def codec : Codec Provider where
  toJson := toJson
  ofJson := ofJson
  names := ["id", "display_name", "backend_kind", "cost_per_token", "max_tokens", "quality_score",
    "specialty", "model"]
  wholes := [(.word32, maxTokens)]
  floats := [("cost_per_token", costPerToken), ("quality_score", quality)]

theorem readsBack :
    ReadsBack toJson ofJson fun provider => codec.Fits provider ∧ codec.IsFinite provider := by
  intro provider result
  rw [ofJson, toJson, record_object_eq_ok_iff, form]
  simp only [Form.leads_seq_iff, Form.leads_map_iff]
  rw [text_readsBack.leads rfl, text_readsBack.leads rfl, BackendKind.readsBack.leads rfl,
    number_readsBack.leads rfl, (whole_readsBack _).leads rfl, number_readsBack.leads rfl,
    text_readsBack.leads_fieldOr rfl, (text_readsBack.nullable fun _ => rfl).leads_fieldOr rfl]
  simp only [codec, Codec.Fits, Codec.IsFinite, List.forall_mem_cons]
  tauto

theorem assures : Assures ofJson fun provider => codec.Fits provider ∧ codec.IsFinite provider := by
  refine assures_record fun value opened provider opens sound => ?_
  simp only [form, Form.leads_seq_iff, Form.leads_map_iff, Form.leads_field_iff,
    Form.leads_fieldOr_iff]
  rintro ⟨_, _, _, _, _, _, _, isCost, _, isTokens, _, isQuality, _, _, _, _, rfl⟩
  have costFinite := number_assures.field opens sound isCost
  have fits := (whole_assures _).field opens sound isTokens
  have qualityFinite := number_assures.field opens sound isQuality
  simp [codec, Codec.Fits, Codec.IsFinite, costFinite, fits, qualityFinite]

theorem isFaithful : codec.IsFaithful := by
  refine Codec.isFaithful "Provider" form (fun _ => rfl) readsBack assures
    (fun find? other? same => ?_) ?_
  · refine ((((((((Form.agrees_field ?_).map _).seq (Form.agrees_field ?_)).seq
      (Form.agrees_field ?_)).seq (Form.agrees_field ?_)).seq (Form.agrees_field ?_)).seq
      (Form.agrees_field ?_)).seq (Form.agrees_fieldOr ?_)).seq (Form.agrees_fieldOr ?_)
    all_goals exact congrArg _ (same _ (by decide))
  · exact List.forall_mem_cons.mpr ⟨fun _ => rfl, List.forall_mem_singleton.mpr fun _ => rfl⟩

end Provider

/-! ### Patterns -/

namespace HopPattern

/-- Patterns as JSON. -/
def codec : Codec HopPattern where
  toJson := toJson
  ofJson := ofJson
  names := ["name", "description", "providers"]

theorem readsBack :
    ReadsBack toJson ofJson fun pattern => codec.Fits pattern ∧ codec.IsFinite pattern := by
  intro pattern result
  rw [ofJson, toJson, record_object_eq_ok_iff, form]
  simp only [Form.leads_seq_iff, Form.leads_map_iff]
  rw [text_readsBack.leads rfl, text_readsBack.leads_fieldOr rfl, text_readsBack.list.leads rfl]
  simp [codec, Codec.Fits, Codec.IsFinite]

theorem isFaithful : codec.IsFaithful := by
  refine Codec.isFaithful "HopPattern" form (fun _ => rfl) readsBack ?_
    (fun find? other? same => ?_) ?_
  · exact fun _ _ _ _ => by simp [codec, Codec.Fits, Codec.IsFinite]
  · refine (((Form.agrees_field ?_).map _).seq (Form.agrees_fieldOr ?_)).seq (Form.agrees_field ?_)
    all_goals exact congrArg _ (same _ (by decide))
  · exact fun _ member => (List.not_mem_nil member).elim

end HopPattern

/-! ### Views -/

namespace HopView

/-- Views as JSON. -/
def codec : Codec HopView where
  toJson := toJson
  ofJson := ofJson
  names := ["hopIndex", "providerId", "responseContent", "tokensUsed", "cost", "durationMs",
    "succeeded", "failureReason"]
  wholes := [(.size, index), (.word32, tokens), (.word64, duration)]
  floats := [("cost", cost)]

theorem readsBack :
    ReadsBack toJson ofJson fun view => codec.Fits view ∧ codec.IsFinite view := by
  intro view result
  rw [ofJson, toJson, record_present_eq_ok_iff (by simp), form]
  simp only [Form.leads_seq_iff, Form.leads_map_iff]
  rw [(whole_readsBack _).leads rfl, text_readsBack.leads rfl,
    text_readsBack.leads_present (fun _ => rfl) rfl, (whole_readsBack _).leads rfl,
    number_readsBack.leads rfl, (whole_readsBack _).leads rfl, flag_readsBack.leads rfl,
    text_readsBack.leads_present (fun _ => rfl) rfl]
  simp only [codec, Codec.Fits, Codec.IsFinite, List.forall_mem_cons]
  tauto

theorem assures : Assures ofJson fun view => codec.Fits view ∧ codec.IsFinite view := by
  refine assures_record fun value opened view opens sound => ?_
  simp only [form, Form.leads_seq_iff, Form.leads_map_iff, Form.leads_field_iff,
    Form.leads_optional_iff]
  rintro ⟨_, isIndex, _, _, _, _, _, isTokens, _, isCost, _, isDuration, _, _, _, _, rfl⟩
  have indexFits := (whole_assures _).field opens sound isIndex
  have tokensFit := (whole_assures _).field opens sound isTokens
  have durationFits := (whole_assures _).field opens sound isDuration
  have finite := number_assures.field opens sound isCost
  simp [codec, Codec.Fits, Codec.IsFinite, indexFits, tokensFit, durationFits, finite]

theorem isFaithful : codec.IsFaithful := by
  refine Codec.isFaithful "HopView" form (fun _ => rfl) readsBack assures
    (fun find? other? same => ?_) ?_
  · refine ((((((((Form.agrees_field ?_).map _).seq (Form.agrees_field ?_)).seq
      (Form.agrees_optional ?_)).seq (Form.agrees_field ?_)).seq (Form.agrees_field ?_)).seq
      (Form.agrees_field ?_)).seq (Form.agrees_field ?_)).seq (Form.agrees_optional ?_)
    all_goals exact congrArg _ (same _ (by decide))
  · exact List.forall_mem_singleton.mpr fun _ => get?_present (by simp) _

theorem content_leavesOff : codec.LeavesOff "responseContent" content := by
  refine Codec.leavesOff "HopView" form 2 (fun _ => rfl) (fun _ => get?_present (by simp) _)
    fun find? view => ?_
  simp only [form, Form.leads_seq_iff, Form.leads_map_iff, Form.leads_field_iff,
    Form.leads_optional_iff]
  rintro ⟨_, _, _, _, _, isContent, _, _, _, _, _, _, _, _, _, _, rfl⟩
  exact isContent

theorem failureReason_leavesOff : codec.LeavesOff "failureReason" failureReason := by
  refine Codec.leavesOff "HopView" form 7 (fun _ => rfl) (fun _ => get?_present (by simp) _)
    fun find? view => ?_
  simp only [form, Form.leads_seq_iff, Form.leads_map_iff, Form.leads_field_iff,
    Form.leads_optional_iff]
  rintro ⟨_, _, _, _, _, _, _, _, _, _, _, _, _, _, _, isReason, rfl⟩
  exact isReason

end HopView

/-! ### Responses -/

namespace ChainResponse

/-- Responses as JSON. -/
def codec : Codec ChainResponse where
  toJson := toJson
  ofJson := ofJson
  names := ["success", "chainId", "response", "qualityScore", "diversityScore", "rarityTier",
    "hops", "totalCost", "durationMs", "error"]
  wholes := [(.word64, duration)]
  floats := [("qualityScore", quality), ("diversityScore", diversity), ("totalCost", totalCost)]
  innerFits response := ∀ view ∈ response.hops, HopView.codec.Fits view
  innerIsFinite response := ∀ view ∈ response.hops, HopView.codec.IsFinite view

theorem readsBack :
    ReadsBack toJson ofJson fun response => codec.Fits response ∧ codec.IsFinite response := by
  intro response result
  rw [ofJson, toJson, record_present_eq_ok_iff (by simp), form]
  simp only [Form.leads_seq_iff, Form.leads_map_iff]
  rw [flag_readsBack.leads rfl, text_readsBack.leads rfl, text_readsBack.leads rfl,
    number_readsBack.leads rfl, number_readsBack.leads rfl, RarityTier.readsBack.leads rfl,
    HopView.readsBack.list.leads rfl, number_readsBack.leads rfl, (whole_readsBack _).leads rfl,
    text_readsBack.leads_present (fun _ => rfl) rfl]
  simp only [codec, Codec.Fits, Codec.IsFinite, List.forall_mem_cons, forall_and]
  tauto

theorem assures :
    Assures ofJson fun response => codec.Fits response ∧ codec.IsFinite response := by
  refine assures_record fun value opened response opens sound => ?_
  simp only [form, Form.leads_seq_iff, Form.leads_map_iff, Form.leads_field_iff,
    Form.leads_optional_iff]
  rintro ⟨_, _, _, _, _, _, _, isQuality, _, isDiversity, _, _, hops, areHops, _, isCost, _,
    isDuration, _, _, rfl⟩
  have qualityFinite := number_assures.field opens sound isQuality
  have diversityFinite := number_assures.field opens sound isDiversity
  have hopsKept := HopView.assures.list.field opens sound areHops
  have costFinite := number_assures.field opens sound isCost
  have fits := (whole_assures _).field opens sound isDuration
  have hopsFit : ∀ view ∈ hops, HopView.codec.Fits view := fun view member =>
    (hopsKept view member).1
  have hopsFinite : ∀ view ∈ hops, HopView.codec.IsFinite view := fun view member =>
    (hopsKept view member).2
  exact ⟨⟨List.forall_mem_singleton.mpr fits, hopsFit⟩,
    ⟨by simp [codec, qualityFinite, diversityFinite, costFinite], hopsFinite⟩⟩

/-- The hops may be written in any way in which they are read alike. -/
theorem form_agrees {find? other? : String → Option Json}
    (same : ∀ name ∈ codec.names, name ≠ "hops" → find? name = other? name)
    (sameHops : (find? "hops").map (strict.list HopView.ofJson) =
      (other? "hops").map (strict.list HopView.ofJson)) : form.Agrees find? other? := by
  refine ((((((((((Form.agrees_field ?_).map _).seq (Form.agrees_field ?_)).seq
    (Form.agrees_field ?_)).seq (Form.agrees_field ?_)).seq (Form.agrees_field ?_)).seq
    (Form.agrees_field ?_)).seq (Form.agrees_field sameHops)).seq (Form.agrees_field ?_)).seq
    (Form.agrees_field ?_)).seq (Form.agrees_optional ?_)
  all_goals exact congrArg _ (same _ (by decide) (by decide))

theorem isFaithful : codec.IsFaithful := by
  refine Codec.isFaithful "ChainResponse" form (fun _ => rfl) readsBack assures
    (fun find? other? same => ?_) ?_
  · exact form_agrees (fun name known _ => same name known) (congrArg _ (same _ (by decide)))
  · exact List.forall_mem_cons.mpr ⟨fun _ => get?_present (by simp) _,
      List.forall_mem_cons.mpr ⟨fun _ => get?_present (by simp) _,
        List.forall_mem_singleton.mpr fun _ => get?_present (by simp) _⟩⟩

theorem error_leavesOff : codec.LeavesOff "error" error := by
  refine Codec.leavesOff "ChainResponse" form 9 (fun _ => rfl) (fun _ => get?_present (by simp) _)
    fun find? response => ?_
  simp only [form, Form.leads_seq_iff, Form.leads_map_iff, Form.leads_field_iff,
    Form.leads_optional_iff]
  rintro ⟨_, _, _, _, _, _, _, _, _, _, _, _, _, _, _, _, _, _, _, isError, rfl⟩
  exact isError

theorem get?_hops (response : ChainResponse) :
    response.toJson.get? "hops" = some (.list (response.hops.map HopView.toJson)) :=
  get?_present (by simp) _

/-- **Hops that are read alike** make responses that are read alike. -/
theorem ofJson_congr_hops {items others : List Json}
    (alike : List.Forall₂ (fun item other => HopView.ofJson item = HopView.ofJson other) items
      others) (before after : List (String × Json)) :
    ofJson (.object (before ++ ("hops", .list items) :: after)) =
      ofJson (.object (before ++ ("hops", .list others) :: after)) := by
  refine record_congr (form_agrees (fun name _ different => ?_) ?_)
  · rw [fieldOf?_insert different.symm, fieldOf?_insert different.symm]
  · rw [fieldOf?_append, fieldOf?_append]
    cases fieldOf? "hops" before with
    | some earlier => rfl
    | none => exact congrArg some (list_congr alike)

end ChainResponse

/-! ### All of them -/

/-- **The public types are faithful.** -/
theorem public_types_faithful :
    (ChainResponse.codec.IsFaithful ∧ HopView.codec.IsFaithful ∧ HopRecord.codec.IsFaithful ∧
      ChainMetadata.codec.IsFaithful ∧ HopOutput.codec.IsFaithful ∧ Provider.codec.IsFaithful ∧
      HopPattern.codec.IsFaithful) ∧
    (HopView.codec.LeavesOff "responseContent" HopView.content ∧
      HopView.codec.LeavesOff "failureReason" HopView.failureReason ∧
      ChainResponse.codec.LeavesOff "error" ChainResponse.error) ∧
    (∀ response : ChainResponse,
      response.toJson.get? "hops" = some (.list (response.hops.map HopView.toJson))) ∧
    ∀ items others before after,
      List.Forall₂ (fun item other => HopView.ofJson item = HopView.ofJson other) items others →
      ChainResponse.ofJson (.object (before ++ ("hops", .list items) :: after)) =
        ChainResponse.ofJson (.object (before ++ ("hops", .list others) :: after)) :=
  ⟨⟨ChainResponse.isFaithful, HopView.isFaithful, HopRecord.isFaithful, ChainMetadata.isFaithful,
      HopOutput.isFaithful, Provider.isFaithful, HopPattern.isFaithful⟩,
    ⟨HopView.content_leavesOff, HopView.failureReason_leavesOff, ChainResponse.error_leavesOff⟩,
    ChainResponse.get?_hops,
    fun _ _ before after alike => ChainResponse.ofJson_congr_hops alike before after⟩

/-- A response of one failed hop is read back; with a quality that is no number it is not. -/
theorem public_types_faithful_solo :
    let view : HopView := ⟨0, "atlas", none, 0, 0.0, 30, false, some "timed out"⟩
    let response : ChainResponse := ⟨false, "7", "Sorry.", 0.5, 1.0, .rare, [view], 0.25, 40, none⟩
    let spoilt : ChainResponse := { response with quality := 0.0 / 0.0 }
    ChainResponse.ofJson response.toJson = .ok response ∧
      ∃ fault, ChainResponse.ofJson spoilt.toJson = .error fault := by
  intro view response spoilt
  have viewFits : HopView.codec.Fits view :=
    ⟨by simp [HopView.codec, view, Width.greatest], trivial⟩
  have viewFinite : HopView.codec.IsFinite view :=
    ⟨List.forall_mem_singleton.mpr (by decide), trivial⟩
  have fits : ChainResponse.codec.Fits response :=
    ⟨by simp [ChainResponse.codec, response, Width.greatest],
      List.forall_mem_singleton.mpr viewFits⟩
  have finite : ChainResponse.codec.IsFinite response :=
    ⟨List.forall_mem_cons.mpr ⟨by decide, List.forall_mem_cons.mpr ⟨by decide,
      List.forall_mem_singleton.mpr (by decide)⟩⟩, List.forall_mem_singleton.mpr viewFinite⟩
  have notFinite : ¬ ChainResponse.codec.IsFinite spoilt := fun finite =>
    absurd (finite.1 _ List.mem_cons_self) (by decide)
  exact ⟨public_types_faithful.1.1.returns response fits finite,
    public_types_faithful.1.1.refuses spoilt notFinite⟩

end PromptRelay
