import Holdout.Text.Quoted

/-!
# Failures

Why something could not be done: a cause, and around it what was being done at the
time, from the outside in. `Failure.chain` gives the words, outermost first.

The errors of a dataset say in addition which promise was broken: a source that does
not open, a stream that has ended, a record without its fields, or a binding that is
not what the model takes.
-/

namespace Holdout

/-- A part whose own account of a failure is not repeated. -/
inductive Origin
  | json
  | io
  | url
  | image
  | http
  | engine
  deriving DecidableEq, Repr

/-- The sign that stands for the part's own account. -/
def Origin.tag : Origin → String
  | .json => "<json>"
  | .io => "<io>"
  | .url => "<url>"
  | .image => "<image>"
  | .http => "<http>"
  | .engine => "<other>"

/-- What was being done when something failed. -/
inductive Activity
  | openingHosted (dataset : String)
  | readingResponse (url : String)
  | readingEndpoint (base : String)
  | readingLocation (location : String)
  | openingPath (path : List UInt8)
  | readingDocument (location : String)
  | parsingDocument (location : String)
  | parsingValues
  | selecting (location : String)
  | streamingArchive (location : String)
  | readingEntry
  | readingMember (path : List UInt8)
  | requesting (url : String)
  | decodingImage
  | parsingModel
  | readingLabels (path : List UInt8)
  | readingFile (path : List UInt8)
  deriving DecidableEq, Repr

/-- The words for an activity that failed. -/
def Activity.message : Activity → String
  | .openingHosted dataset => "failed to open hosted dataset " ++ dataset
  | .readingResponse url => "unexpected response from " ++ url
  | .readingEndpoint base => "invalid hub endpoint " ++ base
  | .readingLocation location => "invalid URL " ++ location
  | .openingPath path => "failed to open " ++ Text.quotedBytes path
  | .readingDocument location => "failed to read " ++ location
  | .parsingDocument location => "failed to parse " ++ location
  | .parsingValues => "document is neither JSON nor JSON lines"
  | .selecting location => "in " ++ location
  | .streamingArchive location => "while streaming " ++ location
  | .readingEntry => "failed to read tar entry"
  | .readingMember path => "failed to read tar member " ++ Text.quotedBytes path
  | .requesting url => "request to " ++ url ++ " failed"
  | .decodingImage => "failed to decode image"
  | .parsingModel => "failed to parse ONNX model"
  | .readingLabels path => "failed to read labels " ++ Text.quotedBytes path
  | .readingFile path => "failed to read " ++ Text.quotedBytes path

/-- Why something could not be done. -/
inductive Failure
  /-- A failure inside a part that keeps its own account. -/
  | within (origin : Origin)
  /-- A failure that a caller's own function reports in its own words. -/
  | reported (text : String)
  | unregistered (location : String)
  | notLocal (location : String)
  | missingSplit (dataset split : String)
  | missingField (field : String)
  | noScores
  | missingInput (name : String)
  | surplusInputs (names : List String)
  | needsTokenizer (dataset : String)
  | noImages
  | noOutputs
  | classOutOfRange (index labels : Nat)
  | unknownDataset (name : String) (known : List String)
  /-- A part broke down over what it was given, which no one has an account of. -/
  | breakdown
  /-- A failure met while something was being done. -/
  | during (activity : Activity) (cause : Failure)
  deriving DecidableEq, Repr, Inhabited

namespace Failure

/-- The words of the failure and of its causes, outermost first. -/
def chain : Failure → List String
  | .within origin => [origin.tag]
  | .reported text => [text]
  | .unregistered location => ["no document registered for " ++ Text.quoted location]
  | .notLocal location => ["not a local file URL: " ++ location]
  | .missingSplit dataset split =>
    ["dataset " ++ Text.quoted dataset ++ " has no split " ++ Text.quoted split]
  | .missingField field => ["field " ++ Text.quoted field ++ " not found in document"]
  | .noScores => ["can't take argmax of an empty tensor"]
  | .missingInput name => ["binding has no value for model input " ++ Text.quoted name]
  | .surplusInputs names =>
    ["binding has values the model doesn't take: " ++ Text.quotedList names]
  | .needsTokenizer dataset =>
    [dataset ++ " needs a tokenizer; only image classification sets can be evaluated here"]
  | .noImages => ["no images to classify"]
  | .noOutputs => ["model has no outputs"]
  | .classOutOfRange index labels =>
    [s!"class {index} is out of range for {labels} labels"]
  | .unknownDataset name known =>
    ["unknown dataset " ++ Text.quoted name ++ ", expected one of " ++ Text.quotedList known]
  | .breakdown => ["the program broke down"]
  | .during activity cause => activity.message :: cause.chain

/-- The failure is a breakdown at heart. -/
def isBreakdown : Failure → Bool
  | .breakdown => true
  | .during _ cause => cause.isBreakdown
  | _ => false

/-- The outermost words. -/
def message (failure : Failure) : String := failure.chain.headD ""

end Failure

/-- A record that lacks what its dataset needs. -/
inductive Flaw
  | noImage (key : String) (found : List String)
  | unreadableLabel (key : String)
  | missingString (field : String)
  | missingArray (field : String)
  | notSample (kind : String)
  | notRow (kind : String)
  | notArticle (kind : String)
  deriving DecidableEq, Repr

/-- The reason given for setting a record apart. -/
def Flaw.message : Flaw → String
  | .noImage key found =>
    "sample " ++ Text.quoted key ++ " has no jpeg member, found " ++ Text.quotedList found
  | .unreadableLabel key => "sample " ++ Text.quoted key ++ " has an unreadable class label"
  | .missingString field => "missing string field " ++ Text.quoted field
  | .missingArray field => "missing array field " ++ Text.quoted field
  | .notSample kind => "expected a webdataset sample, got a " ++ kind
  | .notRow kind => "expected a row, got a " ++ kind
  | .notArticle kind => "expected an article row, got a " ++ kind

/-- A binding, or what it is made from, that is not what was asked for. -/
inductive Mismatch
  | names (expected produced : List String)
  | shape (name : String) (actual expected : List Nat)
  | notSingle (dataset : String) (inputs : List String)
  | recordKind (dataset kind : String)
  | needsImage (dataset kind : String)
  | needsText (dataset kind : String)
  deriving DecidableEq, Repr

/-- The words for a mismatch. -/
def Mismatch.message : Mismatch → String
  | .names expected produced =>
    "expected inputs " ++ Text.quotedList expected ++ " but preprocessing produced " ++
      Text.quotedList produced
  | .shape name actual expected =>
    "shape mismatch for input '" ++ name ++ "': " ++ Text.numberList actual ++ " != " ++
      Text.numberList expected
  | .notSingle dataset inputs =>
    dataset ++ " feeds a single input, got " ++ Text.quotedList inputs
  | .recordKind dataset kind => dataset ++ " can't transform a " ++ kind ++ " record"
  | .needsImage dataset kind => dataset ++ " needs an image preprocessor, got " ++ kind
  | .needsText dataset kind => dataset ++ " needs a text preprocessor, got " ++ kind

/-- What can go wrong while a dataset is streamed or transformed. -/
inductive DatasetError
  /-- The source could not be opened. -/
  | sourceUnavailable (locator : String) (cause : Failure)
  /-- The stream has no more records. -/
  | exhausted
  | contractMismatch (mismatch : Mismatch)
  | malformedRecord (dataset : String) (flaw : Flaw)
  | preprocess (cause : Failure)
  | stream (cause : Failure)
  deriving DecidableEq, Repr

namespace DatasetError

/-- The words for a dataset's error. -/
def message : DatasetError → String
  | .sourceUnavailable locator cause =>
    "failed to load dataset from " ++ Text.quoted locator ++ ": " ++ cause.message
  | .exhausted => "no more records in the stream"
  | .contractMismatch mismatch => "contract mismatch: " ++ mismatch.message
  | .malformedRecord dataset flaw => "malformed record in " ++ dataset ++ ": " ++ flaw.message
  | .preprocess cause => "preprocessing failed: " ++ cause.message
  | .stream cause => "failed reading from stream: " ++ cause.message

/-- The failure that the error passes on. -/
def cause? : DatasetError → Option Failure
  | .sourceUnavailable _ cause => some cause
  | .preprocess cause => some cause
  | .stream cause => some cause
  | _ => none

end DatasetError

end Holdout
