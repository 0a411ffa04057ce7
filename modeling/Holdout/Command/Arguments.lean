import Holdout.Command.Grammar
import Holdout.Evaluation
import Holdout.Loader.Basic

/-!
# Commands

The commands and what they are told: print what a model takes and gives, print the first
records of a set, evaluate a classifier on a set, or classify an image.
-/

namespace Holdout

/-- Where and how data is fetched. -/
structure SourceArguments where
  locator : Option String
  hubEndpoint : String
  hubConfig : Option String
  /-- The limit to the time of a request, in seconds. -/
  timeout : Nat
  deriving DecidableEq, Repr

namespace SourceArguments

/-- The set read from where the arguments say. -/
def place (arguments : SourceArguments) (set : ValidationSet) : ValidationSet :=
  set.at? arguments.locator

/-- The settings of a loader that the arguments ask for. -/
def config (arguments : SourceArguments) : LoaderConfig :=
  let config := (LoaderConfig.standard.withHubEndpoint arguments.hubEndpoint).withTimeout
    (Duration.ofSeconds arguments.timeout)
  match arguments.hubConfig with
  | some name => config.withHubConfig name
  | none => config

/-- A loader from a disk and the web. -/
def loader (arguments : SourceArguments) (disk : Disk) : Loader :=
  ⟨Fetcher.ofDiskAndWeb disk, arguments.config⟩

end SourceArguments

/-- A command. -/
inductive Command
  /-- Print what a model takes and gives. -/
  | describe (model : String)
  /-- Print the first records of a set. -/
  | stream (set : ValidationSet) (count : Nat) (source : SourceArguments)
  /-- Evaluate a classifier on a set. -/
  | evaluate (model : String) (set : ValidationSet) (options : EvalOptions)
      (layout : Command.OutputLayout) (source : SourceArguments)
  /-- Classify one of some images. -/
  | classify (model labels : String) (images : List String)
  deriving DecidableEq, Repr

namespace Command

/-- The options that say where and how data is fetched. -/
def sourceOptions : List NamedArgument :=
  [⟨"locator", none, some .text⟩, ⟨"hub-endpoint", none, some .text⟩,
    ⟨"hub-config", none, some .text⟩, ⟨"timeout", none, some .count⟩]

/-- Read where and how data is fetched. -/
def readSource (given : Given) : SourceArguments where
  locator := given.value? "locator"
  hubEndpoint := (given.value? "hub-endpoint").getD LoaderConfig.standard.hubEndpoint
  hubConfig := given.value? "hub-config"
  timeout := ((given.value? "timeout").bind readCount?).getD 300

/-- Read a set; the images are the set unless another one is named. -/
def readSet (given : Given) : ValidationSet :=
  let kind := ((given.value? "dataset").bind SetKind.ofName?).getD .imageNet
  ⟨kind, kind.defaultLocator⟩

/-- The arguments of `api`. -/
def describeGrammar : Grammar := ⟨[], [⟨"file", .path, false⟩]⟩

/-- The arguments of `stream`. -/
def streamGrammar : Grammar :=
  ⟨⟨"count", some 'c', some .count⟩ :: sourceOptions, [⟨"dataset", .dataset, false⟩]⟩

/-- The arguments of `eval`. -/
def evaluateGrammar : Grammar :=
  ⟨[⟨"dataset", some 'd', some .dataset⟩, ⟨"limit", some 'l', some .count⟩,
    ⟨"skip-malformed", none, none⟩, ⟨"output", none, some .layout⟩] ++ sourceOptions,
    [⟨"file", .path, false⟩]⟩

/-- The arguments of `classify`. -/
def classifyGrammar : Grammar :=
  ⟨[], [⟨"file", .path, false⟩, ⟨"labels", .path, false⟩, ⟨"images", .path, true⟩]⟩

/-- Read the arguments of a command behind its name; none if there is no such command. -/
def readNamed? (name : String) (texts : List String) : Option (Except UsageError Command) :=
  match name with
  | "api" => some do
    let given ← describeGrammar.read texts
    return .describe ((given.value? "file").getD "")
  | "stream" => some do
    let given ← streamGrammar.read texts
    let source := readSource given
    return .stream (source.place (readSet given))
      (((given.value? "count").bind readCount?).getD 10) source
  | "eval" => some do
    let given ← evaluateGrammar.read texts
    let source := readSource given
    let options : EvalOptions :=
      ⟨(given.value? "limit").bind readCount?, given.has "skip-malformed"⟩
    return .evaluate ((given.value? "file").getD "") (source.place (readSet given)) options
      (((given.value? "output").bind OutputLayout.ofName?).getD .text) source
  | "classify" => some do
    let given ← classifyGrammar.read texts
    return .classify ((given.value? "file").getD "") ((given.value? "labels").getD "")
      (given.values "images")
  | _ => none

/-- The names of commands, with the one for help. -/
def names : List String := ["api", "stream", "eval", "classify", "help"]

/-- Read what follows the wish for help: at most the name of one command. -/
def readHelp : List String → UsageError
  | [] => .helpWanted
  | [name] => if names.contains name then .helpWanted else .invalidSubcommand
  | _ => .invalidSubcommand

/-- Read an option that comes before any command. -/
def readLeadingOption : List Char → UsageError
  | '-' :: name =>
    match Reading.cutAtEquals name with
    | ("help", none) => .helpWanted
    | ("help", some _) => .tooManyValues
    | _ => .unknownArgument
  | 'h' :: _ => .helpWanted
  | _ => .unknownArgument

/-- Read a command from its arguments. -/
def read (texts : List String) : Except UsageError Command :=
  match texts with
  | [] => .error .nothingGiven
  | ["--"] => .error .nothingGiven
  | "--" :: name :: _ =>
    .error (if names.contains name then .unknownArgument else .invalidSubcommand)
  | "help" :: rest => .error (readHelp rest)
  | name :: rest =>
    match name.toList with
    | '-' :: letter :: more => .error (readLeadingOption (letter :: more))
    | _ => (readNamed? name rest).getD (.error .invalidSubcommand)

end Command

end Holdout
