import Holdout.Duration
import Holdout.Text.Quoted

/-!
# Settings of a loader

Where hosted datasets are read from, in pages of what size, and how a loader presents
itself.
-/

namespace Holdout

/-- The settings of a loader. -/
structure LoaderConfig where
  /-- The base address of the hub. -/
  hubEndpoint : String
  /-- The configuration of hosted datasets; the first one with the split unless it is given. -/
  hubConfig : Option String
  /-- Rows asked for at once. -/
  pageSize : Nat
  timeout : Duration
  userAgent : String
  deriving DecidableEq, Repr

namespace LoaderConfig

/-- A hub hands out no more rows than this at once. -/
def maxPageSize : Nat := 100

/-- The settings of a loader that was told nothing. -/
def standard : LoaderConfig where
  hubEndpoint := "https://datasets-server.huggingface.co"
  hubConfig := none
  pageSize := maxPageSize
  timeout := Duration.ofSeconds 300
  userAgent := "valset-source/0.1.0"

/-- Another hub. -/
def withHubEndpoint (config : LoaderConfig) (endpoint : String) : LoaderConfig :=
  { config with hubEndpoint := endpoint }

/-- A fixed configuration of hosted datasets. -/
def withHubConfig (config : LoaderConfig) (name : String) : LoaderConfig :=
  { config with hubConfig := some name }

/-- Pages of another size, as far as a hub allows it. -/
def withPageSize (config : LoaderConfig) (size : Nat) : LoaderConfig :=
  { config with pageSize := max 1 (min size maxPageSize) }

/-- Another limit to the time of a request. -/
def withTimeout (config : LoaderConfig) (timeout : Duration) : LoaderConfig :=
  { config with timeout := timeout }

/-- A text that may be absent, as it is shown for inspection. -/
def shownOption : Option String → String
  | none => "None"
  | some text => "Some(" ++ Text.quoted text ++ ")"

/-- A structure as it is shown for inspection: its name and its fields. -/
def shownFields (name : String) (fields : List String) : String :=
  name ++ " \x7b " ++ String.intercalate ", " fields ++ " \x7d"

/-- The settings as they are shown for inspection. -/
def shown (config : LoaderConfig) : String :=
  shownFields "LoaderConfig" [
    "hub_endpoint: " ++ Text.quoted config.hubEndpoint,
    "hub_config: " ++ shownOption config.hubConfig,
    "page_size: " ++ toString config.pageSize,
    "timeout: " ++ config.timeout.shown,
    "user_agent: " ++ Text.quoted config.userAgent]

end LoaderConfig

end Holdout
