/-
**Setting the relay up.**

A configuration is checked as a whole before the first request: its settings, its providers, its
patterns, its presets, and that every kind of backend in use is served.

* `Relay.ofConfig`: the relay of a configuration, or the first thing that is wrong.
-/

import PromptRelay.Config.Basic
import PromptRelay.Relay.Basic
import PromptRelay.Run.Registry

namespace PromptRelay

/-- The clients of the three backends of a configuration, around what posts their requests. -/
def Config.registry {Effect : Type → Type} [Monad Effect] (config : Config)
    (credentials : Credentials) (seed : Nat) (post : HttpRequest → Effect HttpReply) :
    Registry Effect :=
  ⟨fun kind => some ((config.backend kind).client credentials seed post)⟩

/-- The relay of a configuration whose backends are served by a registry. -/
def Relay.ofConfig {Effect : Type → Type} (config : Config) (registry : Registry Effect) :
    Except SetupError Relay := do
  if let some fault := config.fault? then .error fault
  let catalog ← config.catalog
  let selector ← config.selector catalog
  if let some kind := registry.uncovered? catalog then .error (.uncovered kind)
  return { catalog, selector, usual := config.settings }

end PromptRelay
