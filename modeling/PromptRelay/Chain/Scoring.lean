/-
**Quality, diversity and tier of a chain.**

Only successful hops count. Quality is the mean of their providers' qualities, diversity the share
of distinct providers among them.

* `score`: all three of a list of records.
-/

import PromptRelay.Chain.Basic
import PromptRelay.Provider.Catalog

namespace PromptRelay

/-- The quality of a provider, zero for one that the catalog does not have. -/
def Catalog.qualityOf (catalog : Catalog) (id : String) : Float :=
  match catalog.find? id with
  | some provider => provider.quality
  | none => 0.0

/-- The sum of floats from left to right. It starts from negative zero, which leaves every first
float as it is. -/
def sumFloats (values : List Float) : Float :=
  values.foldl (· + ·) (-0.0)

/-- The number of distinct members. -/
def distinctCount (values : List String) : Nat :=
  values.eraseDups.length

/-- The score of the successful hops among some records. -/
def score (hops : List HopRecord) (catalog : Catalog) : ChainMetadata :=
  let providers := (hops.filter HopRecord.succeeded).map HopRecord.provider
  let count := providers.length
  if count = 0 then {}
  else
    let quality := sumFloats (providers.map catalog.qualityOf) / Float.ofNat count
    let diversity := Float.ofNat (distinctCount providers) / Float.ofNat count
    { quality, diversity, tier := .classify count quality diversity }

end PromptRelay
