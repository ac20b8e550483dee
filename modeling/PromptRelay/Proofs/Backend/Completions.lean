/-
**Which answers of services are taken.**

Each of the three services answers in a form of its own. What an answer of this form tells is said
here apart from the reading: a content, and how many tokens were used. An answer is taken exactly
when it tells both and the content holds more than blanks; a count that does not fit 32 bits, or one
part of a wrong form among many, spoils it.

* `LocalServer.Tells`, `OpenAi.Tells`, `Anthropic.Tells`: what the answers of each service tell;
* `BackendKind.Tells`, `Service.read_eq_ok_iff`: the same for all, and that it is what is read;
* `BackendKind.Misfit`: a count that is none, or a part that is none;
* `Backend.interpret_eq_ok_iff`, `Backend.interpret_eq_error`: what is made of an answer;
* `Backend.replies_taken`: the same for what a client replies.
-/

import PromptRelay.Backend.Services
import PromptRelay.Proofs.Backend.Posting
import PromptRelay.Proofs.Json.Records

namespace PromptRelay

open Json

variable {World : Type}

/-! ### Counts -/

/-- The value is a number of tokens: a whole number of 32 bits. -/
def Json.IsCount (value : Json) (count : Nat) : Prop :=
  value = .integer count ∧ count ≤ 4294967295

/-- What stands for a number of tokens that is zero where it is left off. -/
inductive CountsFor : Option Json → Nat → Prop where
  | leftOff : CountsFor none 0
  | given {value : Json} {count : Nat} (isCount : value.IsCount count) : CountsFor (some value) count

theorem CountsFor.isCount {value : Json} {count : Nat} (counts : CountsFor (some value) count) :
    value.IsCount count := by
  cases counts with
  | given isCount => exact isCount

theorem readTokens_eq_ok_iff {value : Json} {count : Nat} :
    readTokens value = .ok count ↔ value.IsCount count :=
  whole_eq_ok_iff

/-- A count that may be left off is read. -/
theorem countOr_eq_ok_iff {answer : Json} {opened : Opened Json} (opens : answer.OpensAs opened)
    {name : String} {place count : Nat} :
    (Form.fieldOr name 0 readTokens opened place).1 = .ok count ↔
      CountsFor (answer.member? name place) count := by
  rw [Form.fieldOr_eq_ok_iff, opens.field?_eq]
  simp only [readTokens_eq_ok_iff]
  generalize answer.member? name place = found
  constructor
  · rintro (⟨rfl, rfl⟩ | ⟨value, rfl, isCount⟩)
    · exact .leftOff
    · exact .given isCount
  · intro counts
    cases counts with
    | leftOff => exact .inl ⟨rfl, rfl⟩
    | given isCount => exact .inr ⟨_, rfl, isCount⟩

/-! ### A model server of one's own -/

namespace LocalServer

/-- What an answer of a model server tells: its text, and the sum of the two counts. -/
structure Tells (answer : Json) (content : String) (tokens : Nat) : Prop where
  isRecord : answer.IsRecord 1 3
  tellsContent : answer.member? "response" 0 = some (.text content)
  tellsTokens : ∃ prompt generated, CountsFor (answer.member? "prompt_eval_count" 1) prompt ∧
    CountsFor (answer.member? "eval_count" 2) generated ∧
    tokens = min (prompt + generated) 4294967295

theorem read_eq_ok_iff {answer : Json} {content : String} {tokens : Nat} :
    Service.localServer.read answer = .ok ⟨some content, tokens⟩ ↔ Tells answer content tokens := by
  show strict.record "GenerateResponse" form answer = _ ↔ _
  refine record_eq_ok_iff Tells.isRecord fun opened opens => ?_
  unfold form
  simp only [Form.three_eq_ok_iff, Form.three_place, Form.field_place, Form.fieldOr_place,
    opens.text_eq_ok_iff, countOr_eq_ok_iff opens]
  constructor
  · rintro ⟨⟨text, prompt, generated, there, isPrompt, isGenerated, same⟩, shape⟩
    cases same
    exact ⟨opens.isRecord_of_member shape there, there, prompt, generated, isPrompt, isGenerated,
      rfl⟩
  · rintro ⟨shape, there, prompt, generated, isPrompt, isGenerated, rfl⟩
    exact ⟨⟨content, prompt, generated, there, isPrompt, isGenerated, rfl⟩, shape.of_least⟩

end LocalServer

/-! ### A chat completion service -/

namespace OpenAi

/-- What a message tells: its content, if it has one. -/
structure MessageTells (message : Json) (content : Option String) : Prop where
  isRecord : message.IsRecord 1 1
  tellsContent : Optionally (fun value text => value = .text text) (message.member? "content" 0)
    content

/-- What a choice tells: what its message does. -/
structure ChoiceTells (choice : Json) (content : Option String) : Prop where
  isRecord : choice.IsRecord 1 1
  tellsMessage : ∃ message, choice.member? "message" 0 = some message ∧
    MessageTells message content

/-- What token counts tell: the total, or else the sum of the other two. -/
structure UsageTells (usage : Json) (tokens : Nat) : Prop where
  isRecord : usage.IsRecord 3 3
  tellsTokens : ∃ prompt generated total, CountsFor (usage.member? "prompt_tokens" 0) prompt ∧
    CountsFor (usage.member? "completion_tokens" 1) generated ∧
    Optionally IsCount (usage.member? "total_tokens" 2) total ∧
    tokens = total.getD (min (prompt + generated) 4294967295)

/-- What an answer of a chat service tells: the content of its first choice, though each choice has
to be one, and the tokens of its counts, zero without them. -/
structure Tells (answer : Json) (content : String) (tokens : Nat) : Prop where
  isRecord : answer.IsRecord 2 2
  tellsContent : ∃ choices contents, answer.member? "choices" 0 = some (.list choices) ∧
    List.Forall₂ ChoiceTells choices contents ∧ contents.head? = some (some content)
  tellsTokens : ∃ counted, Optionally UsageTells (answer.member? "usage" 1) counted ∧
    tokens = counted.getD 0

theorem readMessage_eq_ok_iff {message : Json} {content : Option String} :
    readMessage message = .ok content ↔ MessageTells message content := by
  refine record_eq_ok_iff MessageTells.isRecord fun opened opens => ?_
  simp only [opens.optional_nullable_eq_ok_iff, Form.optional_place, text_eq_ok_iff]
  constructor
  · rintro ⟨⟨tells, mayLack⟩, shape⟩
    exact ⟨(opens.isRecord_succ_iff _).mpr ⟨shape, mayLack⟩, tells⟩
  · rintro ⟨shape, tells⟩
    obtain ⟨shape, mayLack⟩ := (opens.isRecord_succ_iff _).mp shape
    exact ⟨⟨tells, mayLack⟩, shape⟩

theorem readChoice_eq_ok_iff {choice : Json} {content : Option String} :
    readChoice choice = .ok content ↔ ChoiceTells choice content := by
  refine record_eq_ok_iff ChoiceTells.isRecord fun opened opens => ?_
  simp only [opens.field_eq_ok_iff, Form.field_place, readMessage_eq_ok_iff]
  constructor
  · rintro ⟨⟨message, there, tells⟩, shape⟩
    exact ⟨opens.isRecord_of_member shape there, message, there, tells⟩
  · rintro ⟨shape, message, there, tells⟩
    exact ⟨⟨message, there, tells⟩, shape.of_least⟩

theorem usage_eq_ok_iff {usage : Json} {counts : Usage} :
    strict.record "OpenAiUsage" usageForm usage = .ok counts ↔
      usage.IsRecord 3 3 ∧ CountsFor (usage.member? "prompt_tokens" 0) counts.promptTokens ∧
        CountsFor (usage.member? "completion_tokens" 1) counts.answerTokens ∧
        Optionally IsCount (usage.member? "total_tokens" 2) counts.totalTokens := by
  refine record_eq_ok_iff And.left fun opened opens => ?_
  unfold usageForm
  simp only [Form.three_eq_ok_iff, Form.three_place, Form.fieldOr_place, Form.optional_place,
    countOr_eq_ok_iff opens, opens.optional_nullable_eq_ok_iff, readTokens_eq_ok_iff]
  constructor
  · rintro ⟨⟨prompt, generated, total, isPrompt, isGenerated, ⟨isTotal, mayLack⟩, rfl⟩, shape⟩
    exact ⟨(opens.isRecord_succ_iff _).mpr ⟨shape, mayLack⟩, isPrompt, isGenerated, isTotal⟩
  · rintro ⟨shape, isPrompt, isGenerated, isTotal⟩
    obtain ⟨shape, mayLack⟩ := (opens.isRecord_succ_iff _).mp shape
    exact ⟨⟨_, _, _, isPrompt, isGenerated, ⟨isTotal, mayLack⟩, rfl⟩, shape⟩

theorem UsageTells.tokens_le {usage : Json} {tokens : Nat} (tells : UsageTells usage tokens) :
    tokens ≤ 4294967295 := by
  obtain ⟨_, _, total, _, _, isTotal, rfl⟩ := tells.tellsTokens
  cases total with
  | none => exact Nat.min_le_right _ _
  | some count =>
    obtain ⟨_, _, isCount⟩ := isTotal.exists_stands
    exact isCount.2

theorem usageTells_eq :
    UsageTells = fun usage tokens => ∃ counts : Usage,
      strict.record "OpenAiUsage" usageForm usage = .ok counts ∧ counts.tokens = tokens := by
  funext usage tokens
  simp only [usage_eq_ok_iff, eq_iff_iff]
  constructor
  · rintro ⟨shape, prompt, generated, total, isPrompt, isGenerated, isTotal, rfl⟩
    exact ⟨⟨prompt, generated, total⟩, ⟨shape, isPrompt, isGenerated, isTotal⟩, rfl⟩
  · rintro ⟨counts, ⟨shape, isPrompt, isGenerated, isTotal⟩, rfl⟩
    exact ⟨shape, _, _, _, isPrompt, isGenerated, isTotal, rfl⟩

theorem read_eq_ok_iff {answer : Json} {content : String} {tokens : Nat} :
    Service.openAi.read answer = .ok ⟨some content, tokens⟩ ↔ Tells answer content tokens := by
  show strict.record "OpenAiResponse" form answer = _ ↔ _
  refine record_eq_ok_iff Tells.isRecord fun opened opens => ?_
  unfold form
  simp only [Form.two_eq_ok_iff, Form.two_place, Form.field_place, Form.optional_place,
    opens.field_eq_ok_iff, opens.optional_nullable_eq_ok_iff, Format.list_eq_ok_iff,
    items_eq_ok_iff, readChoice_eq_ok_iff]
  constructor
  · rintro ⟨⟨contents, usage, ⟨_, there, choices, rfl, areChoices⟩, ⟨isUsage, mayLack⟩, same⟩, shape⟩
    obtain ⟨isFirst, isTokens⟩ := Completion.mk.inj same
    refine ⟨(opens.isRecord_succ_iff _).mpr ⟨shape, mayLack⟩,
      ⟨choices, contents, there, areChoices, ?_⟩, usage.map Usage.tokens, ?_, isTokens.symm⟩
    · exact Option.join_eq_some_iff.mp isFirst
    · rw [usageTells_eq]
      exact exists_optionally_map_iff.mp ⟨usage, isUsage, rfl⟩
  · rintro ⟨shape, ⟨choices, contents, there, areChoices, isFirst⟩, counted, isCounted, rfl⟩
    obtain ⟨shape, mayLack⟩ := (opens.isRecord_succ_iff _).mp shape
    rw [usageTells_eq] at isCounted
    obtain ⟨usage, isUsage, rfl⟩ := exists_optionally_map_iff.mpr isCounted
    refine ⟨⟨contents, usage, ⟨_, there, choices, rfl, areChoices⟩, ⟨isUsage, mayLack⟩, ?_⟩, shape⟩
    rw [isFirst]
    rfl

end OpenAi

/-! ### A messages service -/

namespace Anthropic

/-- What a part of an answer tells: its type, and its text if it has one. -/
structure BlockTells (value : Json) (block : Block) : Prop where
  isRecord : value.IsRecord 2 2
  tellsType : value.member? "type" 0 = some (.text block.type)
  tellsText : Optionally (fun value text => value = .text text) (value.member? "text" 1) block.text

/-- What token counts tell: their sum. -/
structure UsageTells (usage : Json) (tokens : Nat) : Prop where
  isRecord : usage.IsRecord 2 2
  tellsTokens : ∃ prompt generated input output, usage.member? "input_tokens" 0 = some input ∧
    input.IsCount prompt ∧ usage.member? "output_tokens" 1 = some output ∧
    output.IsCount generated ∧ tokens = min (prompt + generated) 4294967295

/-- What an answer of a messages service tells: the texts of those of its parts that are texts, one
behind the other, and the tokens of its counts, zero without them. -/
structure Tells (answer : Json) (content : String) (tokens : Nat) : Prop where
  isRecord : answer.IsRecord 2 2
  tellsContent : ∃ parts blocks, answer.member? "content" 0 = some (.list parts) ∧
    List.Forall₂ BlockTells parts blocks ∧
    content.toList = blocks.flatMap fun block =>
      if block.type = "text" then (block.text.getD "").toList else []
  tellsTokens : ∃ counted, Optionally UsageTells (answer.member? "usage" 1) counted ∧
    tokens = counted.getD 0

theorem block_eq_ok_iff {value : Json} {block : Block} :
    strict.record "ContentBlock" blockForm value = .ok block ↔ BlockTells value block := by
  refine record_eq_ok_iff BlockTells.isRecord fun opened opens => ?_
  unfold blockForm
  simp only [Form.two_eq_ok_iff, Form.two_place, Form.field_place, Form.optional_place,
    opens.text_eq_ok_iff, opens.optional_nullable_eq_ok_iff, text_eq_ok_iff]
  constructor
  · rintro ⟨⟨type, text, isType, ⟨isText, mayLack⟩, rfl⟩, shape⟩
    exact ⟨(opens.isRecord_succ_iff _).mpr ⟨shape, mayLack⟩, isType, isText⟩
  · rintro ⟨shape, isType, isText⟩
    obtain ⟨shape, mayLack⟩ := (opens.isRecord_succ_iff _).mp shape
    exact ⟨⟨_, _, isType, ⟨isText, mayLack⟩, rfl⟩, shape⟩

theorem usage_eq_ok_iff {usage : Json} {tokens : Nat} :
    strict.record "AnthropicUsage" usageForm usage = .ok tokens ↔ UsageTells usage tokens := by
  refine record_eq_ok_iff UsageTells.isRecord fun opened opens => ?_
  unfold usageForm
  simp only [Form.two_eq_ok_iff, Form.two_place, Form.field_place, opens.field_eq_ok_iff,
    readTokens_eq_ok_iff]
  constructor
  · rintro ⟨⟨prompt, generated, ⟨input, isInput, isPrompt⟩, ⟨output, isOutput, isGenerated⟩, rfl⟩,
      shape⟩
    exact ⟨opens.isRecord_of_member shape isOutput, prompt, generated, input, output, isInput,
      isPrompt, isOutput, isGenerated, rfl⟩
  · rintro ⟨shape, prompt, generated, input, output, isInput, isPrompt, isOutput, isGenerated, rfl⟩
    exact ⟨⟨prompt, generated, ⟨input, isInput, isPrompt⟩, ⟨output, isOutput, isGenerated⟩, rfl⟩,
      shape.of_least⟩

theorem UsageTells.tokens_le {usage : Json} {tokens : Nat} (tells : UsageTells usage tokens) :
    tokens ≤ 4294967295 := by
  obtain ⟨_, _, _, _, _, _, _, _, rfl⟩ := tells.tellsTokens
  exact Nat.min_le_right _ _

/-- The texts of the parts that are texts are put one behind the other. -/
theorem toList_textOf (blocks : List Block) :
    (textOf blocks).toList = blocks.flatMap fun block =>
      if block.type = "text" then (block.text.getD "").toList else [] := by
  unfold textOf
  rw [String.toList_join]
  induction blocks with
  | nil => rfl
  | cons block blocks hypothesis =>
    rw [List.flatMap_cons, ← hypothesis]
    by_cases isText : block.type = "text"
    · cases text : block.text <;> simp [isText, text]
    · simp [isText]

theorem read_eq_ok_iff {answer : Json} {content : String} {tokens : Nat} :
    Service.anthropic.read answer = .ok ⟨some content, tokens⟩ ↔ Tells answer content tokens := by
  show strict.record "AnthropicResponse" form answer = _ ↔ _
  refine record_eq_ok_iff Tells.isRecord fun opened opens => ?_
  unfold form
  simp only [Form.two_eq_ok_iff, Form.two_place, Form.field_place, Form.optional_place,
    opens.field_eq_ok_iff, opens.optional_nullable_eq_ok_iff, Format.list_eq_ok_iff,
    items_eq_ok_iff, block_eq_ok_iff, usage_eq_ok_iff]
  constructor
  · rintro ⟨⟨blocks, counted, ⟨_, there, parts, rfl, areBlocks⟩, ⟨isCounted, mayLack⟩, same⟩, shape⟩
    cases same
    exact ⟨(opens.isRecord_succ_iff _).mpr ⟨shape, mayLack⟩,
      ⟨parts, blocks, there, areBlocks, toList_textOf blocks⟩, counted, isCounted, rfl⟩
  · rintro ⟨shape, ⟨parts, blocks, there, areBlocks, isContent⟩, counted, isCounted, rfl⟩
    obtain ⟨shape, mayLack⟩ := (opens.isRecord_succ_iff _).mp shape
    refine ⟨⟨blocks, counted, ⟨_, there, parts, rfl, areBlocks⟩, ⟨isCounted, mayLack⟩, ?_⟩, shape⟩
    rw [← toList_textOf, String.toList_inj] at isContent
    rw [isContent]

end Anthropic

/-! ### The three services -/

namespace BackendKind

/-- What an answer of a kind of service tells: a content, and how many tokens were used. -/
inductive Tells : BackendKind → Json → String → Nat → Prop where
  | localServer {answer : Json} {content : String} {tokens : Nat}
      (tells : LocalServer.Tells answer content tokens) : Tells .localServer answer content tokens
  | openAi {answer : Json} {content : String} {tokens : Nat}
      (tells : OpenAi.Tells answer content tokens) : Tells .openAi answer content tokens
  | anthropic {answer : Json} {content : String} {tokens : Nat}
      (tells : Anthropic.Tells answer content tokens) : Tells .anthropic answer content tokens

/-- What an answer of a kind of service gives for one of the numbers of tokens that are looked at.
Null counts as given but for the total of a chat service. -/
inductive Gives : BackendKind → Json → Json → Prop where
  | evaluated {answer value : Json} (given : answer.member? "prompt_eval_count" 1 = some value) :
      Gives .localServer answer value
  | generated {answer value : Json} (given : answer.member? "eval_count" 2 = some value) :
      Gives .localServer answer value
  | prompt {answer usage value : Json} (counted : answer.member? "usage" 1 = some usage)
      (given : usage.member? "prompt_tokens" 0 = some value) : Gives .openAi answer value
  | completion {answer usage value : Json} (counted : answer.member? "usage" 1 = some usage)
      (given : usage.member? "completion_tokens" 1 = some value) : Gives .openAi answer value
  | total {answer usage value : Json} (counted : answer.member? "usage" 1 = some usage)
      (given : usage.member? "total_tokens" 2 = some value) (notNull : value ≠ .null) :
      Gives .openAi answer value
  | input {answer usage value : Json} (counted : answer.member? "usage" 1 = some usage)
      (given : usage.member? "input_tokens" 0 = some value) : Gives .anthropic answer value
  | output {answer usage value : Json} (counted : answer.member? "usage" 1 = some usage)
      (given : usage.member? "output_tokens" 1 = some value) : Gives .anthropic answer value

/-- Something in an answer is not what it should be: a number of tokens is none, or one of the
choices or of the parts is none, wherever it stands among them. -/
inductive Misfit : BackendKind → Json → Prop where
  | count {kind : BackendKind} {answer value : Json} (gives : kind.Gives answer value)
      (noCount : ∀ count, ¬ value.IsCount count) : Misfit kind answer
  | choice {answer : Json} {choices : List Json} {choice : Json}
      (listed : answer.member? "choices" 0 = some (.list choices)) (member : choice ∈ choices)
      (noChoice : ∀ content, ¬ OpenAi.ChoiceTells choice content) : Misfit .openAi answer
  | part {answer : Json} {parts : List Json} {part : Json}
      (listed : answer.member? "content" 0 = some (.list parts)) (member : part ∈ parts)
      (noPart : ∀ block, ¬ Anthropic.BlockTells part block) : Misfit .anthropic answer

variable {kind : BackendKind} {answer : Json} {content : String} {tokens : Nat}

theorem Tells.tokens_le (tells : kind.Tells answer content tokens) : tokens ≤ 4294967295 := by
  cases tells with
  | localServer tells =>
    obtain ⟨_, _, _, _, rfl⟩ := tells.tellsTokens
    exact Nat.min_le_right _ _
  | openAi tells =>
    obtain ⟨counted, isCounted, rfl⟩ := tells.tellsTokens
    cases counted with
    | none => exact Nat.zero_le _
    | some tokens =>
      obtain ⟨usage, _, usageTells⟩ := isCounted.exists_stands
      exact usageTells.tokens_le
  | anthropic tells =>
    obtain ⟨counted, isCounted, rfl⟩ := tells.tellsTokens
    cases counted with
    | none => exact Nat.zero_le _
    | some tokens =>
      obtain ⟨usage, _, usageTells⟩ := isCounted.exists_stands
      exact usageTells.tokens_le

/-- **What a told answer gives for a number of tokens** is one. -/
theorem Tells.isCount_of_gives (tells : kind.Tells answer content tokens) {value : Json}
    (gives : kind.Gives answer value) : ∃ count, value.IsCount count := by
  cases tells with
  | localServer tells =>
    obtain ⟨prompt, generated, isPrompt, isGenerated, _⟩ := tells.tellsTokens
    cases gives with
    | evaluated given => exact ⟨prompt, (given ▸ isPrompt).isCount⟩
    | generated given => exact ⟨generated, (given ▸ isGenerated).isCount⟩
  | openAi tells =>
    obtain ⟨counted, isCounted, _⟩ := tells.tellsTokens
    cases gives with
    | prompt told given =>
      obtain ⟨_, usage⟩ := isCounted.stands_of_member told given
      obtain ⟨prompt, _, _, isPrompt, _⟩ := usage.tellsTokens
      exact ⟨prompt, (given ▸ isPrompt).isCount⟩
    | completion told given =>
      obtain ⟨_, usage⟩ := isCounted.stands_of_member told given
      obtain ⟨_, generated, _, _, isGenerated, _⟩ := usage.tellsTokens
      exact ⟨generated, (given ▸ isGenerated).isCount⟩
    | total told given notNull =>
      obtain ⟨_, usage⟩ := isCounted.stands_of_member told given
      obtain ⟨_, _, _, _, _, isTotal, _⟩ := usage.tellsTokens
      exact (given ▸ isTotal).stands_of_ne_null notNull
  | anthropic tells =>
    obtain ⟨counted, isCounted, _⟩ := tells.tellsTokens
    cases gives with
    | input told given =>
      obtain ⟨_, usage⟩ := isCounted.stands_of_member told given
      obtain ⟨prompt, _, input, _, isInput, isPrompt, _⟩ := usage.tellsTokens
      rw [given] at isInput
      cases isInput
      exact ⟨prompt, isPrompt⟩
    | output told given =>
      obtain ⟨_, usage⟩ := isCounted.stands_of_member told given
      obtain ⟨_, generated, _, output, _, _, isOutput, isGenerated, _⟩ := usage.tellsTokens
      rw [given] at isOutput
      cases isOutput
      exact ⟨generated, isGenerated⟩

/-- **One thing that is not what it should be** is enough for an answer to tell nothing. -/
theorem Misfit.not_tells (misfit : kind.Misfit answer) : ¬ kind.Tells answer content tokens := by
  intro tells
  cases misfit with
  | count gives noCount =>
    obtain ⟨count, isCount⟩ := tells.isCount_of_gives gives
    exact noCount count isCount
  | choice listed member noChoice =>
    cases tells with
    | openAi tells =>
      obtain ⟨choices, contents, there, areChoices, _⟩ := tells.tellsContent
      rw [listed] at there
      cases there
      obtain ⟨content, isChoice⟩ := exists_of_forall₂ areChoices _ member
      exact noChoice content isChoice
  | part listed member noPart =>
    cases tells with
    | anthropic tells =>
      obtain ⟨parts, blocks, there, areBlocks, _⟩ := tells.tellsContent
      rw [listed] at there
      cases there
      obtain ⟨block, isBlock⟩ := exists_of_forall₂ areBlocks _ member
      exact noPart block isBlock

end BackendKind

theorem Service.read_eq_ok_iff {kind : BackendKind} {answer : Json} {content : String}
    {tokens : Nat} :
    (ofKind kind).read answer = .ok ⟨some content, tokens⟩ ↔ kind.Tells answer content tokens := by
  cases kind with
  | localServer =>
    exact LocalServer.read_eq_ok_iff.trans ⟨.localServer, fun tells => by cases tells; assumption⟩
  | openAi => exact OpenAi.read_eq_ok_iff.trans ⟨.openAi, fun tells => by cases tells; assumption⟩
  | anthropic =>
    exact Anthropic.read_eq_ok_iff.trans ⟨.anthropic, fun tells => by cases tells; assumption⟩

/-! ### What is made of an answer -/

namespace Backend

variable {backend : Backend} {provider : Provider} {answer : Json} {output : HopOutput}

/-- **An answer is taken** when it tells a content that holds more than blanks. -/
theorem interpret_eq_ok_iff :
    backend.interpret provider answer = .ok output ↔
      ∃ content tokens, backend.service.read answer = .ok ⟨some content, tokens⟩ ∧
        (∃ character ∈ content.toList, Text.isBlankChar character = false) ∧
        output = ⟨content, tokens, provider.costOf tokens⟩ := by
  simp only [← Text.isBlank_eq_false_iff]
  unfold interpret outputOf
  constructor
  · intro taken
    split at taken
    · cases taken
    · rename_i completion isRead
      split at taken
      · cases taken
      · rename_i content isContent
        obtain ⟨told, notBlank⟩ := Option.filter_eq_some_iff.mp isContent
        cases taken
        refine ⟨content, completion.tokens, ?_, ?_, rfl⟩
        · rw [isRead, ← told]
        · exact Bool.not_eq_true' _ ▸ notBlank
  · rintro ⟨content, tokens, isRead, notBlank, rfl⟩
    rw [isRead]
    dsimp only
    rw [Option.filter_some_pos (by rw [notBlank]; rfl)]

/-- Any other answer is a failure of its provider. -/
theorem interpret_eq_error {error : HopError}
    (refused : backend.interpret provider answer = .error error) :
    ∃ detail, error = .upstream provider.id detail := by
  unfold interpret outputOf at refused
  split at refused
  · cases refused
    exact ⟨_, rfl⟩
  · split at refused
    · cases refused
      exact ⟨_, rfl⟩
    · cases refused

/-- **Replies that are taken.** Where the request of a hop brings an answer, the hop has an output
exactly when the answer tells a content with more than blanks in it: this content, the tokens that
it tells, which fit 32 bits, and their cost. In every other case the hop fails, and the failure
names its provider; so it does wherever a number of tokens or one of the choices or parts is not what
it should be. -/
theorem replies_taken (kind : BackendKind) (baseUrl : Option String) (fallback : Bool)
    (credentials : Credentials) (seed : Nat) (post : HttpRequest → StateM World HttpReply)
    (call : ClientCall) (world : World) (request : HttpRequest) (answer : Json)
    (made : (ofKind kind baseUrl fallback).prepare credentials call = .ok request)
    (brought : (post request world).1.result = .ok answer) :
    let result := ((ofKind kind baseUrl fallback).client credentials seed post call world).1.result
    (∀ output, result = .ok output ↔ ∃ content tokens, kind.Tells answer content tokens ∧
      (∃ character ∈ content.toList, Text.isBlankChar character = false) ∧
      output = ⟨content, tokens, call.provider.costOf tokens⟩) ∧
    (∀ content tokens, kind.Tells answer content tokens → tokens ≤ 4294967295) ∧
    (∀ error, result = .error error → ∃ detail, error = .upstream call.provider.id detail) ∧
    (kind.Misfit answer → ∃ detail, result = .error (.upstream call.provider.id detail)) := by
  intro result
  have isMade : result = (ofKind kind baseUrl fallback).interpret call.provider answer := by
    show ((ofKind kind baseUrl fallback).client credentials seed post call world).1.result = _
    rw [client_of_made made]
    dsimp only
    rw [brought]
    rfl
  have taken : ∀ output, result = .ok output ↔ ∃ content tokens,
      kind.Tells answer content tokens ∧
      (∃ character ∈ content.toList, Text.isBlankChar character = false) ∧
      output = ⟨content, tokens, call.provider.costOf tokens⟩ := by
    intro output
    rw [isMade, interpret_eq_ok_iff]
    simp only [← Service.read_eq_ok_iff]
    rfl
  have refused : ∀ error, result = .error error →
      ∃ detail, error = .upstream call.provider.id detail := by
    rw [isMade]
    exact fun error => interpret_eq_error
  refine ⟨taken, fun content tokens => BackendKind.Tells.tokens_le, refused, fun misfit => ?_⟩
  cases isResult : result with
  | ok output =>
    obtain ⟨content, tokens, tells, _⟩ := (taken output).mp isResult
    exact absurd tells misfit.not_tells
  | error error =>
    obtain ⟨detail, rfl⟩ := refused error isResult
    exact ⟨detail, rfl⟩

/-- Two counts that together do not fit 32 bits are taken as the greatest number that does. -/
theorem replies_taken_saturated :
    let provider : Provider := { id := "gpt", displayName := "GPT", kind := .openAi }
    let usage : Json := .object
      [("completion_tokens", .integer 1000000000), ("prompt_tokens", .integer 4000000000)]
    let message : Json := .object [("content", .text " Hi")]
    let answer : Json := .object [("choices", .list [.object [("message", message)]]), ("usage", usage)]
    let hop := (ofKind .openAi none true).client (fun kind => .ok { kind, key := "key" }) 0
      (fun _ => (pure ⟨10, .ok answer⟩ : StateM Unit HttpReply)) ⟨provider, "Why?", 5000⟩ ()
    hop.1.result = .ok ⟨" Hi", 4294967295, provider.costOf 4294967295⟩ := by
  intro provider usage message answer hop
  have isMessage : OpenAi.MessageTells message (some " Hi") :=
    ⟨.named _, .given (fun same => by cases same) rfl⟩
  have isUsage : OpenAi.UsageTells usage 4294967295 :=
    ⟨.named _, 4000000000, 1000000000, none, .given ⟨rfl, by decide⟩, .given ⟨rfl, by decide⟩,
      .leftOff, rfl⟩
  have tells : OpenAi.Tells answer " Hi" 4294967295 :=
    ⟨.named _, ⟨_, _, rfl, .cons ⟨.named _, message, rfl, isMessage⟩ .nil, rfl⟩, some 4294967295,
      .given (show Json.object _ ≠ .null from fun same => by cases same) isUsage, rfl⟩
  exact ((replies_taken .openAi none true (fun kind => .ok { kind, key := "key" }) 0
    (fun _ => pure ⟨10, .ok answer⟩) ⟨provider, "Why?", 5000⟩ () _ answer rfl rfl).1 _).mpr
    ⟨" Hi", 4294967295, .openAi tells, ⟨'H', by decide, by decide⟩, rfl⟩

end Backend

end PromptRelay
