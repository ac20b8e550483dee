/-
**Listings of providers and patterns.**

A listing is a table or JSON. Columns of the table are padded by the number of characters; costs
have eight places and qualities two.

* `listProviders`: the providers of a catalog, all or those of one kind;
* `listPatterns`: the patterns and thresholds of a selector.
-/

import PromptRelay.Command.Basic
import PromptRelay.Json.Printer
import PromptRelay.Pattern.Json
import PromptRelay.Provider.Json

namespace PromptRelay

open Decimal

/-- A text with blanks behind it up to a width. -/
def padEnd (width : Nat) (text : String) : String :=
  text ++ String.ofList (List.replicate (width - text.length) ' ')

/-- A text with blanks before it up to a width. -/
def padStart (width : Nat) (text : String) : String :=
  String.ofList (List.replicate (width - text.length) ' ') ++ text

/-- A line of the table of providers. -/
def providerLine (id kind model cost quality specialty : String) : String :=
  padEnd 16 id ++ " " ++ padEnd 10 kind ++ " " ++ padEnd 28 model ++ " " ++ padStart 12 cost ++
    " " ++ padStart 8 quality ++ "  " ++ specialty ++ "\n"

/-- The line of a provider. -/
def Provider.line (provider : Provider) : String :=
  providerLine provider.id provider.kind.word provider.modelName
    (fixedPlaces 8 provider.costPerToken) (fixedPlaces 2 provider.quality) provider.specialty

/-- The table of providers. -/
def providerTable (providers : List Provider) : String :=
  providerLine "ID" "BACKEND" "MODEL" "COST/TOKEN" "QUALITY" "SPECIALTY" ++
    String.join (providers.map Provider.line)

/-- The providers of a catalog as the listing wants them. -/
def listProviders (listing : ProviderListing) (catalog : Catalog) : String :=
  let providers := match listing.kind with
    | some kind => catalog.ofKind kind
    | none => catalog.providers
  if listing.json then (Json.list (providers.map Provider.toJson)).pretty ++ "\n"
  else providerTable providers

/-- The lines of a pattern: its providers, and its description if it has one. -/
def HopPattern.lines (pattern : HopPattern) : String :=
  let route := String.intercalate " -> " pattern.providers
  let description :=
    if pattern.description.isEmpty then "" else s!"    {pattern.description}\n"
  s!"{pattern.name} ({pattern.hopCount} hops): {route}\n" ++ description

/-- What the thresholds mean. -/
def Thresholds.line (thresholds : Thresholds) : String :=
  s!"Inputs under {thresholds.shortMax} chars use the short preset, " ++
    s!"up to {thresholds.mediumMax} chars the medium preset, longer the long preset.\n"

/-- A JSON value whose objects have their fields in the order of keys. -/
def Json.sorted (fields : List (String × Json)) : Json :=
  .object (Json.sortFields fields)

/-- The JSON value of thresholds and patterns, fields in the order of their keys. -/
def Selector.listing (selector : Selector) : Json :=
  let thresholds := selector.thresholds
  let pattern (pattern : HopPattern) : Json :=
    .sorted [
      ("name", .text pattern.name),
      ("description", .text pattern.description),
      ("providers", .ofTexts pattern.providers)]
  .sorted [
    ("maxHops", .ofNat selector.patterns.maxHops),
    ("thresholds", .sorted [
      ("short_max_chars", .ofNat thresholds.shortMax),
      ("medium_max_chars", .ofNat thresholds.mediumMax)]),
    ("patterns", .list (selector.patterns.patterns.map pattern))]

/-- The patterns and thresholds of a selector as the listing wants them. -/
def listPatterns (listing : PatternListing) (selector : Selector) : String :=
  if listing.json then selector.listing.pretty ++ "\n"
  else
    selector.thresholds.line ++ "\n" ++
      String.join (selector.patterns.patterns.map HopPattern.lines)

end PromptRelay
