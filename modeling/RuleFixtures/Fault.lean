import RuleFixtures.Json.Display
import RuleFixtures.Platform
import RuleFixtures.Query.Kind
import RuleFixtures.Text.Utf8
import RuleFixtures.Time.DurationText

/-!
Everything that can go wrong.

* `Failure` lists the causes that a run reports to its user, each with a message and details.
* `ShapeFault`, `RangeFault`, `FileFault`, `ReadFault`, `AddressFault`, `HeaderFault` and
  `MarkupFault` list what documents, numbers, files, addresses, headers and console texts can do
  wrong.
* `Fault` collects them; `Fault.kind` and `Fault.message` are the two parts of its line.
-/

namespace RuleFixtures

/-! ### Failures of a run -/

/-- What is asked of the backend. -/
inductive Operation where
  | rules
  | query (expr : String)
  | queryRange (expr : String)
  deriving DecidableEq

/-- The start of the messages of an operation that failed. -/
def Operation.failureText : Operation → String
  | .rules => "failed to get rules"
  | .query expr => "query " ++ Text.quoted expr ++ " failed"
  | .queryRange expr => "range query " ++ Text.quoted expr ++ " failed"

/-- The categories of failures. -/
inductive Category where
  | general
  | configuration
  | fetch
  | expression
  | query
  deriving DecidableEq

/-- The name of a category. -/
def Category.name : Category → String
  | .general => "PromTestGenError"
  | .configuration => "ConfigurationError"
  | .fetch => "FetchError"
  | .expression => "ExpressionParseError"
  | .query => "QueryError"

/-- Failing to load the rules is a category of its own. -/
def Operation.category : Operation → Category
  | .rules => .fetch
  | _ => .query

/-- What an answer of the backend can lack. -/
inductive AnswerProblem where
  /-- No answer came, for the reason given. -/
  | unreachable (reason : String)
  /-- The status of the answer says that the request failed. -/
  | badStatus (status : Nat) (reason : String)
  | notJson
  | notObject
  /-- The backend reports a failure in its answer. -/
  | reported (error : String)
  deriving DecidableEq

/-- What becomes of an answer without data: it has a problem, or its document is nested too deep. -/
inductive AnswerFault where
  | problem (problem : AnswerProblem)
  | tooDeep (inObject : Bool)
  deriving DecidableEq

/-- The message of a problem. -/
def AnswerProblem.text : AnswerProblem → String
  | .unreachable reason => reason
  | .badStatus _ reason => reason
  | .notJson => "invalid JSON response"
  | .notObject => "unexpected response body"
  | .reported error => "Prometheus API error: " ++ error

/-- A failure that is reported to the user. -/
inductive Failure where
  | missingUrl
  | refusedScheme (scheme url : String)
  | missingHost (url : String)
  /-- The reader of expressions objects, for the reason given. -/
  | unreadableExpression (expr reason : String)
  | answer (operation : Operation) (url : String) (problem : AnswerProblem)
  | undecodable (operation : Operation) (reason : String)
  | unexpectedResult (kind : ResultKind) (expr : String)
  /-- The rule has no sample in the lookback window. -/
  | noSamples (rule : Json) (lookback : Duration)
  /-- A failure told by a backend or a command in its own words. -/
  | told (category : Category) (message : String) (details : List (String × Json))
  deriving DecidableEq

namespace Failure

/-- The category of a failure. -/
def category : Failure → Category
  | .missingUrl => .configuration
  | .refusedScheme _ _ => .configuration
  | .missingHost _ => .configuration
  | .unreadableExpression _ _ => .expression
  | .answer operation _ _ => operation.category
  | .undecodable operation _ => operation.category
  | .unexpectedResult _ _ => .query
  | .noSamples _ _ => .query
  | .told category _ _ => category

/-- The message of a failure. -/
def message : Failure → String
  | .missingUrl => "Missing -url parameter"
  | .refusedScheme scheme _ => "Invalid URL scheme: " ++ scheme
  | .missingHost _ => "Invalid URL: missing host"
  | .unreadableExpression _ reason => "failed to parse expression: " ++ reason
  | .answer operation _ problem => operation.failureText ++ ": " ++ problem.text
  | .undecodable .rules reason => "failed to decode rules: " ++ reason
  | .undecodable (.query expr) reason =>
    "failed to decode result of " ++ Text.quoted expr ++ ": " ++ reason
  | .undecodable (.queryRange expr) reason =>
    "failed to decode result of " ++ Text.quoted expr ++ ": " ++ reason
  | .unexpectedResult kind expr => "unexpected " ++ kind.name ++ " result for " ++ expr
  | .noSamples rule lookback =>
    "found 0 samples for " ++ rule.display ++ " over the last " ++ DurationText.write lookback
  | .told _ message _ => message

/-- The details of a failure, in order. -/
def details : Failure → List (String × Json)
  | .missingUrl => []
  | .refusedScheme _ url => [("url", .text url)]
  | .missingHost url => [("url", .text url)]
  | .unreadableExpression expr _ => [("expr", .text expr)]
  | .answer _ url (.badStatus status _) => [("url", .text url), ("status", .int status)]
  | .answer _ url _ => [("url", .text url)]
  | .undecodable .rules _ => []
  | .undecodable (.query expr) _ => [("query", .text expr)]
  | .undecodable (.queryRange expr) _ => [("query", .text expr)]
  | .unexpectedResult _ expr => [("query", .text expr)]
  | .noSamples rule _ => [("rule", rule)]
  | .told _ _ details => details

/-- The line shown for a failure: its message, and its details in brackets if it has any. -/
def line (failure : Failure) : String :=
  let shown := failure.details.map fun (name, value) => name ++ "=" ++ value.display
  if shown.isEmpty then failure.message
  else failure.message ++ " (" ++ String.intercalate ", " shown ++ ")"

end Failure

/-! ### Documents of the wrong shape -/

/-- What a document lacks. The kinds of the values at fault are given by name. -/
inductive ShapeFault where
  /-- The value is no object, so it has no such operation. -/
  | noOperation (type operation : String)
  | missingMember (name : String)
  /-- An object stands where a pair is expected. -/
  | missingPosition (position : Nat)
  | shortList
  | shortText
  | notIndexable (type : String)
  | notIterable (type : String)
  | notContainer (type : String)
  /-- The entry at a position is no sequence, or none of two elements. -/
  | entryNotSequence (position : Nat)
  | entryLength (position length : Nat)
  | unhashable (type : String)
  | incomparable (left right : String)
  | notNumber (type : String)
  | notQuery (type : String)
  | notText (type : String)
  | unknownResultType (shown : String)
  | unknownRuleType (shown : String)
  | unreadableNumber (shown : String)
  deriving DecidableEq

namespace ShapeFault

/-- The name of the kind of a fault. -/
def kind : ShapeFault → String
  | .noOperation _ _ => "AttributeError"
  | .missingMember _ => "KeyError"
  | .missingPosition _ => "KeyError"
  | .shortList => "IndexError"
  | .shortText => "IndexError"
  | .notIndexable _ => "TypeError"
  | .notIterable _ => "TypeError"
  | .notContainer _ => "TypeError"
  | .entryNotSequence _ => "TypeError"
  | .entryLength _ _ => "ValueError"
  | .unhashable _ => "TypeError"
  | .incomparable _ _ => "TypeError"
  | .notNumber _ => "TypeError"
  | .notQuery _ => "TypeError"
  | .notText _ => "TypeError"
  | .unknownResultType _ => "ValueError"
  | .unknownRuleType _ => "ValueError"
  | .unreadableNumber _ => "ValueError"

/-- The message of a fault. -/
def message : ShapeFault → String
  | .noOperation type operation => s!"'{type}' object has no attribute '{operation}'"
  | .missingMember name => Text.quoted name
  | .missingPosition position => toString position
  | .shortList => "list index out of range"
  | .shortText => "string index out of range"
  | .notIndexable type => s!"'{type}' object is not subscriptable"
  | .notIterable type => s!"'{type}' object is not iterable"
  | .notContainer type => s!"argument of type '{type}' is not iterable"
  | .entryNotSequence position =>
    s!"cannot convert dictionary update sequence element #{position} to a sequence"
  | .entryLength position length =>
    s!"dictionary update sequence element #{position} has length {length}; 2 is required"
  | .unhashable type => s!"unhashable type: '{type}'"
  | .incomparable left right =>
    s!"'<' not supported between instances of '{left}' and '{right}'"
  | .notNumber type => s!"float() argument must be a string or a real number, not '{type}'"
  | .notQuery type => s!"argument 'input': '{type}' object cannot be converted to 'PyString'"
  | .notText type => s!"expected string or bytes-like object, got '{type}'"
  | .unknownResultType shown => s!"{shown} is not a valid ResultType"
  | .unknownRuleType shown => s!"unknown rule type: {shown}"
  | .unreadableNumber shown => s!"could not convert string to float: {shown}"

end ShapeFault

/-! ### Numbers and times out of range -/

/-- A number or an instant outside the range of what is asked of it. -/
inductive RangeFault where
  /-- A whole number beyond the doubles. -/
  | beyondDoubles
  /-- Date arithmetic that leaves the years 1 to 9999. -/
  | date
  /-- Seconds beyond 64 bits. -/
  | timestamp
  /-- Seconds that fall into a year outside 1 to 9999. -/
  | year (number : Int)
  /-- Seconds whose year is beyond 32 bits. -/
  | calendar
  /-- The time is not a number. -/
  | timeNotNumber
  | divisionByZero
  /-- A whole number asked of what is not a number, or of infinity. -/
  | notNumberToInteger
  | infinityToInteger
  deriving DecidableEq

namespace RangeFault

/-- The name of the kind of a fault. -/
def kind : RangeFault → String
  | .beyondDoubles => "OverflowError"
  | .date => "OverflowError"
  | .timestamp => "OverflowError"
  | .year _ => "ValueError"
  | .calendar => "OSError"
  | .timeNotNumber => "ValueError"
  | .divisionByZero => "ZeroDivisionError"
  | .notNumberToInteger => "ValueError"
  | .infinityToInteger => "OverflowError"

/-- The message of a fault. -/
def message : RangeFault → String
  | .beyondDoubles => "int too large to convert to float"
  | .date => "date value out of range"
  | .timestamp => "timestamp out of range for platform time_t"
  | .year n => s!"year {n} is out of range"
  | .calendar => "[Errno 75] Value too large for defined data type"
  | .timeNotNumber => "Invalid value NaN (not a number)"
  | .divisionByZero => "division by zero"
  | .notNumberToInteger => "cannot convert float NaN to integer"
  | .infinityToInteger => "cannot convert float infinity to integer"

end RangeFault

/-! ### Files -/

/-- What the file system objects to. -/
inductive FileProblem where
  | notFound
  | exists
  | notDirectory
  | isDirectory
  | nameTooLong
  deriving DecidableEq

/-- The number of a problem. -/
def FileProblem.number : FileProblem → Nat
  | .notFound => 2
  | .exists => 17
  | .notDirectory => 20
  | .isDirectory => 21
  | .nameTooLong => 36

/-- The text of a problem. -/
def FileProblem.text : FileProblem → String
  | .notFound => "No such file or directory"
  | .exists => "File exists"
  | .notDirectory => "Not a directory"
  | .isDirectory => "Is a directory"
  | .nameTooLong => "File name too long"

/-- A problem with the path at which it is, if that is told. -/
structure FileFault where
  problem : FileProblem
  path : Option String
  deriving DecidableEq

namespace FileFault

/-- The name of the kind of a fault. -/
def kind (fault : FileFault) : String :=
  match fault.problem with
  | .notFound => "FileNotFoundError"
  | .exists => "FileExistsError"
  | .notDirectory => "NotADirectoryError"
  | .isDirectory => "IsADirectoryError"
  | .nameTooLong => "OSError"

/-- The message of a fault: its number, its text and the path in quotes. -/
def message (fault : FileFault) : String :=
  s!"[Errno {fault.problem.number}] {fault.problem.text}" ++
    match fault.path with
    | some path => ": " ++ Text.quoted path
    | none => ""

end FileFault

/-- The message on bytes that are no text. -/
def Text.Utf8.Broken.message (fault : Text.Utf8.Broken) : String :=
  let place :=
    if fault.length = 1 then
      s!"byte 0x{String.ofList (Text.hexDigits 2 fault.first.toNat)} in position {fault.position}"
    else s!"bytes in position {fault.position}-{fault.position + fault.length - 1}"
  s!"'utf-8' codec can't decode {place}: {fault.reason.text}"

/-- What keeps a text from being read from a file: the file system objects, or its bytes are no
text. -/
inductive ReadFault where
  | file (fault : FileFault)
  | broken (fault : Text.Utf8.Broken)
  deriving DecidableEq

/-! ### Addresses and console texts -/

/-- A part of an address that a client refuses. -/
inductive AddressPart where
  | tooLong
  /-- A component is too long when the address is put together. -/
  | longComponent (name : String)
  | control (shown : String) (position : Nat)
  | port (shown : String)
  | hostVersionFour (shown : String)
  | hostVersionSix (shown : String)
  | hostName (shown : String)
  | relativePath
  deriving DecidableEq

/-- The reason for which a part is refused. -/
def AddressPart.reason : AddressPart → String
  | .tooLong => "URL too long"
  | .longComponent name => s!"URL component '{name}' too long"
  | .control shown position =>
    s!"Invalid non-printable ASCII character in URL, {shown} at position {position}."
  | .port shown => s!"Invalid port: {shown}"
  | .hostVersionFour shown => s!"Invalid IPv4 address: {shown}"
  | .hostVersionSix shown => s!"Invalid IPv6 address: {shown}"
  | .hostName shown => s!"Invalid IDNA hostname: {shown}"
  | .relativePath => "For absolute URLs, path must be empty or begin with '/'"

/-- An address that cannot be read. -/
inductive AddressFault where
  /-- Square brackets that do not pair up. -/
  | brackets
  /-- Brackets around what is no address. -/
  | notAddress (shown : String)
  /-- Brackets around an address of version four. -/
  | versionFour
  /-- Brackets around an address of a later version that is written wrongly. -/
  | laterVersion
  /-- Characters that stand for delimiters. -/
  | disguised (authority : String)
  | refused (part : AddressPart)
  /-- The transport refuses the address, for the reason given. -/
  | refusedBecause (reason : String)
  deriving DecidableEq

/-- The name of the kind of a fault. -/
def AddressFault.kind : AddressFault → String
  | .refused _ => "InvalidURL"
  | .refusedBecause _ => "InvalidURL"
  | _ => "ValueError"

/-- The message of a fault. -/
def AddressFault.message : AddressFault → String
  | .brackets => "Invalid IPv6 URL"
  | .notAddress shown => shown ++ " does not appear to be an IPv4 or IPv6 address"
  | .versionFour => "An IPv4 address cannot be in brackets"
  | .laterVersion => "IPvFuture address is invalid"
  | .disguised authority =>
    s!"netloc '{authority}' contains invalid characters under NFKC normalization"
  | .refused part => part.reason
  | .refusedBecause reason => reason

/-- A run of characters in a header that are not in ASCII. -/
structure HeaderFault where
  first : Char
  position : Nat
  length : Nat
  deriving DecidableEq

/-- A character as an escape with its code, in the least of three widths. -/
def HeaderFault.escape (c : Char) : String :=
  if c.toNat < 0x100 then "\\x" ++ String.ofList (Text.hexDigits 2 c.toNat)
  else if c.toNat < 0x10000 then "\\u" ++ String.ofList (Text.hexDigits 4 c.toNat)
  else "\\U" ++ String.ofList (Text.hexDigits 8 c.toNat)

/-- The message of a fault. -/
def HeaderFault.message (fault : HeaderFault) : String :=
  let place :=
    if fault.length = 1 then s!"character '{escape fault.first}' in position {fault.position}"
    else s!"characters in position {fault.position}-{fault.position + fault.length - 1}"
  s!"'ascii' codec can't encode {place}: ordinal not in range(128)"

/-- What is no number in a colour. -/
inductive NumberFault where
  | missing
  /-- There are more digits than a number may have. -/
  | tooLong (digits : Nat)
  deriving DecidableEq

/-- The message of a fault. -/
def NumberFault.message : NumberFault → String
  | .missing => "invalid literal for int() with base 10: ''"
  | .tooLong digits =>
    s!"Exceeds the limit (4300 digits) for integer string conversion: value has {digits} digits; "
      ++ "use sys.set_int_max_str_digits() to increase the limit"

/-- What is wrong with a console text. -/
inductive MarkupFault where
  /-- A tag that closes the last open one, with none open. -/
  | nothingOpen (tag : String) (position : Nat)
  /-- A closing tag without an opening one. -/
  | notOpen (tag : String) (position : Nat)
  /-- The parameters of a handler cannot be evaluated, for the reason given. -/
  | handler (reason : String)
  /-- A colour in a tag has no numbers where it should have some. -/
  | number (fault : NumberFault)
  deriving DecidableEq

namespace MarkupFault

/-- The name of the kind of a fault. -/
def kind : MarkupFault → String
  | .number _ => "ValueError"
  | _ => "MarkupError"

/-- The message of a fault. -/
def message : MarkupFault → String
  | .nothingOpen tag position => s!"closing tag '{tag}' at position {position} has nothing to close"
  | .notOpen tag position =>
    s!"closing tag '{tag}' at position {position} doesn't match any open tag"
  | .handler reason => reason
  | .number fault => fault.message

end MarkupFault

/-! ### All faults -/

/-- Anything that ends a run early. -/
inductive Fault where
  | failure (failure : Failure)
  | shape (fault : ShapeFault)
  | range (fault : RangeFault)
  | file (fault : FileFault)
  /-- The bytes of a file are no text. -/
  | broken (fault : Text.Utf8.Broken)
  /-- A list or an object of a document stands inside too many others. -/
  | nesting (inObject : Bool)
  | address (fault : AddressFault)
  | header (fault : HeaderFault)
  | markup (fault : MarkupFault)
  /-- Settings that are refused, with what is said of them. -/
  | settings (faults : List SettingFault) (text : String)
  | unknownLevel (name : String)
  | interrupted
  /-- A fault of something outside, by its kind and text. -/
  | foreign (kind text : String)
  deriving DecidableEq

namespace Fault

/-- The name of the kind of a fault. -/
def kind : Fault → String
  | .failure f => f.category.name
  | .shape f => f.kind
  | .range f => f.kind
  | .file f => f.kind
  | .broken _ => "UnicodeDecodeError"
  | .nesting _ => "RecursionError"
  | .address f => f.kind
  | .header _ => "UnicodeEncodeError"
  | .markup f => f.kind
  | .settings _ _ => "ValidationError"
  | .unknownLevel _ => "ValueError"
  | .interrupted => "KeyboardInterrupt"
  | .foreign kind _ => kind

/-- The message of a fault. -/
def message : Fault → String
  | .failure f => f.message
  | .shape f => f.message
  | .range f => f.message
  | .file f => f.message
  | .broken f => f.message
  | .nesting inObject =>
    "maximum recursion depth exceeded while decoding a JSON "
      ++ (if inObject then "object" else "array") ++ " from a unicode string"
  | .address f => f.message
  | .header f => f.message
  | .markup f => f.message
  | .settings _ text => text
  | .unknownLevel name => "Unknown level: " ++ Text.quoted name
  | .interrupted => ""
  | .foreign _ text => text

end Fault

/-- The fault of a file that cannot be read. -/
def ReadFault.toFault : ReadFault → Fault
  | .file fault => .file fault
  | .broken fault => .broken fault

end RuleFixtures
