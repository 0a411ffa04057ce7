/-!
# JSON tokens

Bytes are cut into tokens one byte at a time. Strings and numbers are kept as they are
written, so that a part of a document that nobody reads is held to the grammar alone.
A number or a word must be followed by white space, the end, or a byte that can begin
another token.
-/

namespace Holdout
namespace Json

/-- The smallest parts of a JSON text. -/
inductive Token
  | openArray
  | closeArray
  | openObject
  | closeObject
  | comma
  | colon
  | null
  | boolean (value : Bool)
  /-- A number as it is written. -/
  | number (written : List UInt8)
  /-- A string as it is written between its quotes. -/
  | string (written : List UInt8)
  deriving DecidableEq, Repr

/-- Where a number stands while it is read. -/
inductive NumberPhase
  | minus
  | zero
  | whole
  | point
  | fraction
  | mark
  | sign
  | exponent
  deriving DecidableEq, Repr

/-- Where the reading of tokens stands; the bytes of a token under way are held in reverse. -/
inductive ScanState
  | between
  | word (token : Token) (remaining : List UInt8)
  | number (phase : NumberPhase) (written : List UInt8)
  | string (written : List UInt8)
  | escape (written : List UInt8)
  | codeUnit (remaining : Nat) (written : List UInt8)
  deriving DecidableEq, Repr

/-- White space between tokens. -/
def isSpace (byte : UInt8) : Bool := byte == 32 || byte == 10 || byte == 13 || byte == 9

/-- A decimal digit. -/
def isDigit (byte : UInt8) : Bool := 48 ≤ byte && byte ≤ 57

/-- The value of a hexadecimal digit. -/
def hexValue? (byte : UInt8) : Option Nat :=
  if isDigit byte then some (byte.toNat - 48)
  else if 97 ≤ byte && byte ≤ 102 then some (byte.toNat - 87)
  else if 65 ≤ byte && byte ≤ 70 then some (byte.toNat - 55)
  else none

/-- The token that a single byte makes. -/
def mark? (byte : UInt8) : Option Token :=
  if byte == 91 then some .openArray
  else if byte == 93 then some .closeArray
  else if byte == 123 then some .openObject
  else if byte == 125 then some .closeObject
  else if byte == 44 then some .comma
  else if byte == 58 then some .colon
  else none

/-- A byte between tokens. -/
def beginToken (byte : UInt8) : Option (List Token × ScanState) :=
  if isSpace byte then some ([], .between)
  else match mark? byte with
    | some token => some ([token], .between)
    | none =>
      if byte == 34 then some ([], .string [])
      else if byte == 45 then some ([], .number .minus [byte])
      else if byte == 48 then some ([], .number .zero [byte])
      else if isDigit byte then some ([], .number .whole [byte])
      else if byte == 116 then some ([], .word (.boolean true) "rue".toUTF8.toList)
      else if byte == 102 then some ([], .word (.boolean false) "alse".toUTF8.toList)
      else if byte == 110 then some ([], .word .null "ull".toUTF8.toList)
      else none

/-- A byte that may directly follow a number or a word. -/
def isBoundary (byte : UInt8) : Bool := isSpace byte || (mark? byte).isSome || byte == 34

/-- The byte after a finished number or word. -/
def endToken (token : Token) (byte : UInt8) : Option (List Token × ScanState) :=
  if isBoundary byte then
    (beginToken byte).map fun (tokens, state) => (token :: tokens, state)
  else none

/-- The phase that a byte leads to within a number. -/
def NumberPhase.next? (phase : NumberPhase) (byte : UInt8) : Option NumberPhase :=
  match phase with
  | .minus => if byte == 48 then some .zero else if isDigit byte then some .whole else none
  | .zero =>
    if byte == 46 then some .point else if byte == 101 || byte == 69 then some .mark else none
  | .whole =>
    if isDigit byte then some .whole
    else if byte == 46 then some .point
    else if byte == 101 || byte == 69 then some .mark
    else none
  | .point => if isDigit byte then some .fraction else none
  | .fraction =>
    if isDigit byte then some .fraction
    else if byte == 101 || byte == 69 then some .mark
    else none
  | .mark =>
    if byte == 43 || byte == 45 then some .sign
    else if isDigit byte then some .exponent
    else none
  | .sign => if isDigit byte then some .exponent else none
  | .exponent => if isDigit byte then some .exponent else none

/-- A number may end in this phase. -/
def NumberPhase.isComplete : NumberPhase → Bool
  | .zero => true
  | .whole => true
  | .fraction => true
  | .exponent => true
  | _ => false

/-- A byte that makes an escape together with the backslash before it. -/
def isEscaped (byte : UInt8) : Bool :=
  byte == 34 || byte == 92 || byte == 47 || byte == 98 || byte == 102 || byte == 110 ||
    byte == 114 || byte == 116

/-- Read one more byte: the tokens it ends, and where the reading stands then. -/
def scanByte (state : ScanState) (byte : UInt8) : Option (List Token × ScanState) :=
  match state with
  | .between => beginToken byte
  | .word token [] => endToken token byte
  | .word token (expected :: rest) =>
    if byte == expected then some ([], .word token rest) else none
  | .number phase written =>
    match phase.next? byte with
    | some phase => some ([], .number phase (byte :: written))
    | none => if phase.isComplete then endToken (.number written.reverse) byte else none
  | .string written =>
    if byte == 34 then some ([.string written.reverse], .between)
    else if byte == 92 then some ([], .escape (byte :: written))
    else if byte < 32 then none
    else some ([], .string (byte :: written))
  | .escape written =>
    if isEscaped byte then some ([], .string (byte :: written))
    else if byte == 117 then some ([], .codeUnit 4 (byte :: written))
    else none
  | .codeUnit remaining written =>
    if (hexValue? byte).isSome then
      if remaining ≤ 1 then some ([], .string (byte :: written))
      else some ([], .codeUnit (remaining - 1) (byte :: written))
    else none

/-- The tokens that the end of the text ends. -/
def scanEnd : ScanState → Option (List Token)
  | .between => some []
  | .word token [] => some [token]
  | .number phase written =>
    if phase.isComplete then some [.number written.reverse] else none
  | _ => none

/-- Read the rest of a text; the tokens before it are given in reverse. -/
def scanFrom (state : ScanState) (before : List Token) : List UInt8 → Option (List Token)
  | [] => (scanEnd state).map fun last => before.reverse ++ last
  | byte :: rest =>
    match scanByte state byte with
    | some (tokens, state) => scanFrom state (tokens.reverse ++ before) rest
    | none => none

/-- The tokens of a text. -/
def scan? (text : List UInt8) : Option (List Token) := scanFrom .between [] text

end Json
end Holdout
