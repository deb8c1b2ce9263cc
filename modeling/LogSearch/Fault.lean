import LogSearch.Json.Encoded
import LogSearch.Time.Epoch
import LogSearch.Value.Literal

/-!
# Faults

A fault is what goes wrong inside a step, before anything is known of the search around it: data of
the wrong kind, a text that cannot be read, a failed call.  Each cause is a constructor; its kind,
which decides who handles it, and its wording follow from the cause.

Renders the exceptions that are no `SearchError`, with their texts.
-/

namespace LogSearch

/-- The kinds that handlers tell faults apart by. -/
inductive FaultKind
  | type
  | value
  | key
  | index
  /-- A part that a value does not have. -/
  | member
  | overflow
  | system
  | runtime
  /-- Something that needs itself. -/
  | recursion
  | connection
  | timeout
  /-- A file was asked for and a directory was found. -/
  | directory
  /-- A text that is not JSON. -/
  | json
  /-- Bytes that are no text in their encoding. -/
  | decoding
  /-- A request that reached nobody. -/
  | transportConnection
  /-- A request that took too long. -/
  | transportTimeout
  /-- Any other failure of a request. -/
  | transportRequest
  /-- A response whose status is an error. -/
  | transportStatus
  /-- A response whose body is not JSON. -/
  | transportBody
  /-- A probe that reached nobody. -/
  | probeConnect
  /-- A probe whose answer took too long. -/
  | probeRead
deriving Repr, DecidableEq

namespace FaultKind

/-- The name of a kind. -/
def name : FaultKind → String
  | type => "TypeError"
  | value => "ValueError"
  | key => "KeyError"
  | index => "IndexError"
  | member => "AttributeError"
  | overflow => "OverflowError"
  | system => "OSError"
  | runtime => "RuntimeError"
  | recursion => "RecursionError"
  | connection => "ConnectionError"
  | timeout => "TimeoutError"
  | directory => "IsADirectoryError"
  | json => "JSONDecodeError"
  | decoding => "UnicodeDecodeError"
  | transportConnection => "ConnectionError"
  | transportTimeout => "Timeout"
  | transportRequest => "RequestException"
  | transportStatus => "HTTPError"
  | transportBody => "JSONDecodeError"
  | probeConnect => "ConnectError"
  | probeRead => "ReadTimeout"

/-- Whether a fault of this kind tells of a value that does not fit. -/
def isValue : FaultKind → Bool
  | value | json | decoding | transportBody => true
  | _ => false

/-- Whether a fault of this kind tells of a failed request. -/
def isTransport : FaultKind → Bool
  | transportConnection | transportTimeout | transportRequest | transportStatus | transportBody =>
    true
  | _ => false

/-- Whether a fault of this kind tells of a failed probe. -/
def isProbe : FaultKind → Bool
  | probeConnect | probeRead => true
  | _ => false

end FaultKind

/-- What goes wrong inside a step.  Where a kind of value is given it is by name. -/
inductive Fault
  /-- A value of this kind was asked for an attribute that it does not have. -/
  | noAttribute (kind name : String)
  /-- A value of this kind was gone through item by item. -/
  | notIterable (kind : String)
  /-- A value of this kind was asked whether it holds another. -/
  | notContainer (kind : String)
  /-- A text was asked whether it holds a value of this kind. -/
  | notPartOfText (kind : String)
  /-- Bytes were asked whether they hold a value of this kind. -/
  | notPartOfBytes (kind : String)
  /-- Bytes were asked whether they hold a number that is no byte. -/
  | notByte
  /-- A sequence of the first kind was indexed by a value of the second. -/
  | badIndex (container index : String)
  /-- A sequence of this kind has no item at an index. -/
  | outOfRange (container : String)
  /-- An index is too large for any sequence. -/
  | hugeIndex
  /-- A value of this kind was indexed. -/
  | notSubscriptable (kind : String)
  /-- A value of this kind was used as a key. -/
  | unhashable (kind : String)
  /-- The item at this position of a sequence of pairs is no sequence. -/
  | notSequence (position : Nat)
  /-- The item at this position of a sequence of pairs has this many items. -/
  | notPair (position length : Nat)
  /-- A map with a key of this kind was written as JSON. -/
  | notJsonKey (kind : String)
  /-- A value of the first kind was compared with one of the second. -/
  | incomparable (left right : String)
  /-- It was asked whether a value of the first kind is at most one of the second. -/
  | unordered (left right : String)
  /-- A time with an offset was compared with a naive one. -/
  | mixedZones
  /-- A value of this kind was read as an integer. -/
  | notNumeric (kind : String)
  /-- A value of this kind was used as a count. -/
  | notCount (kind : String)
  /-- A value of this kind was asked for its length. -/
  | noLength (kind : String)
  /-- A value that has no items was joined. -/
  | notJoined
  /-- The item at this position of a list to be joined is of this kind, and not a text. -/
  | notJoinable (position : Nat) (kind : String)
  /-- A value of this kind was searched for placeholders. -/
  | notTemplate (kind : String)
  /-- Bytes were searched for placeholders. -/
  | bytesTemplate
  /-- There is nothing under a key. -/
  | missingKey (key : Value)
  /-- Nothing is registered for an interface. -/
  | unregistered (interface : String)
  /-- A part needs itself, by way of others or at once. -/
  | circular
  /-- A text, given as its literal, is not an integer's. -/
  | notInteger (literal : String)
  /-- A text has too many digits for an integer. -/
  | tooManyDigits (digits : Nat)
  /-- An integer has too many digits to be written. -/
  | unwritable
  /-- What is not a number was made an integer. -/
  | nanToInteger
  /-- An infinity was made an integer. -/
  | infinityToInteger
  /-- A time in UTC is outside the calendar. -/
  | outsideCalendar
  | iso (error : IsoError)
  | epoch (error : EpochError)
  | json (error : Json.Error)
  /-- Bytes are no text. -/
  | encoding (error : Text.Encoding.Error)
  /-- The body of a response is not JSON. -/
  | body (error : Json.Error)
  /-- A count is negative. -/
  | negative (count : String) (given : Value)
  /-- A time range ends before it starts. -/
  | emptyRange (first last : DateTime)
  /-- A response has the status of an error. -/
  | httpStatus (status : Value) (atServer : Bool) (reason : String) (url : String)
  /-- A log level has a name that is none. -/
  | unknownLevel (name : String)
  /-- A file was asked for and this directory was found. -/
  | directory (path : String)
  /-- A file was asked for by this path, whose name is too long for a file. -/
  | longName (path : String)
  /-- Arguments do not fit what they are given to. -/
  | arguments (message : String)
  /-- What a collaborator outside this library reports. -/
  | external (kind : FaultKind) (argument : Value)
deriving Inhabited

namespace Fault

/-- The kind of a fault. -/
def kind : Fault → FaultKind
  | noAttribute _ _ => .member
  | notIterable _ | notContainer _ | notPartOfText _ | notPartOfBytes _ | badIndex _ _ => .type
  | notSubscriptable _ | unhashable _ | incomparable _ _ | mixedZones | notNumeric _ => .type
  | notSequence _ | notJsonKey _ | unordered _ _ => .type
  | outOfRange _ | hugeIndex => .index
  | notByte | notPair _ _ => .value
  | notCount _ | noLength _ | notJoined | notJoinable _ _ | notTemplate _ | bytesTemplate | arguments _ => .type
  | missingKey _ | unregistered _ => .key
  | circular => .recursion
  | notInteger _ | tooManyDigits _ | unwritable | nanToInteger | iso _ => .value
  | negative _ _ | emptyRange _ _ | unknownLevel _ => .value
  | infinityToInteger | outsideCalendar => .overflow
  | epoch .notANumber | epoch (.year _) => .value
  | epoch .quotientTooLarge | epoch .tooManySeconds => .overflow
  | epoch .tooManyYears => .system
  | json e =>
    match e.problem with
    | .tooManyDigits _ => .value
    | .tooDeep _ => .recursion
    | _ => .json
  | body e =>
    match e.problem with
    | .tooManyDigits _ => .value
    | .tooDeep _ => .recursion
    | _ => .transportBody
  | encoding _ => .decoding
  | httpStatus _ _ _ _ => .transportStatus
  | directory _ => .directory
  | longName _ => .system
  | external kind _ => kind

/-- The text of a fault whose cause is in this library. -/
def wording : Fault → String
  | noAttribute kind name => "'" ++ kind ++ "' object has no attribute '" ++ name ++ "'"
  | notIterable kind => "'" ++ kind ++ "' object is not iterable"
  | notContainer kind => "argument of type '" ++ kind ++ "' is not iterable"
  | notPartOfText kind => "'in <string>' requires string as left operand, not " ++ kind
  | notPartOfBytes kind => "a bytes-like object is required, not '" ++ kind ++ "'"
  | notByte => "byte must be in range(0, 256)"
  | badIndex "str" index => "string indices must be integers, not '" ++ index ++ "'"
  | badIndex "bytes" index => "byte indices must be integers or slices, not " ++ index
  | badIndex container index => container ++ " indices must be integers or slices, not " ++ index
  | outOfRange "str" => "string index out of range"
  | outOfRange "bytes" => "index out of range"
  | outOfRange container => container ++ " index out of range"
  | hugeIndex => "cannot fit 'int' into an index-sized integer"
  | notSubscriptable kind => "'" ++ kind ++ "' object is not subscriptable"
  | unhashable kind => "unhashable type: '" ++ kind ++ "'"
  | notSequence position =>
    "cannot convert dictionary update sequence element #" ++ String.ofList (Text.decimal position) ++
      " to a sequence"
  | notPair position length =>
    "dictionary update sequence element #" ++ String.ofList (Text.decimal position) ++
      " has length " ++ String.ofList (Text.decimal length) ++ "; 2 is required"
  | notJsonKey kind => "keys must be str, int, float, bool or None, not " ++ kind
  | unordered left right =>
    "'<=' not supported between instances of '" ++ left ++ "' and '" ++ right ++ "'"
  | incomparable left right =>
    "'<' not supported between instances of '" ++ left ++ "' and '" ++ right ++ "'"
  | mixedZones => "can't compare offset-naive and offset-aware datetimes"
  | notNumeric kind =>
    "int() argument must be a string, a bytes-like object or a real number, not '" ++ kind ++ "'"
  | notCount kind => "'" ++ kind ++ "' object cannot be interpreted as an integer"
  | noLength kind => "object of type '" ++ kind ++ "' has no len()"
  | notJoined => "can only join an iterable"
  | notJoinable position kind =>
    "sequence item " ++ String.ofList (Text.decimal position) ++ ": expected str instance, " ++
      kind ++ " found"
  | notTemplate kind => "expected string or bytes-like object, got '" ++ kind ++ "'"
  | bytesTemplate => "cannot use a string pattern on a bytes-like object"
  | missingKey key => key.literal
  | unregistered interface => Text.quoted ("No factory registered for " ++ interface)
  | circular => "maximum recursion depth exceeded"
  | notInteger literal => "invalid literal for int() with base 10: " ++ literal
  | tooManyDigits digits =>
    "Exceeds the limit (4300 digits) for integer string conversion: value has " ++
      String.ofList (Text.decimal digits) ++
      " digits; use sys.set_int_max_str_digits() to increase the limit"
  | unwritable =>
    "Exceeds the limit (4300 digits) for integer string conversion; use " ++
      "sys.set_int_max_str_digits() to increase the limit"
  | nanToInteger => "cannot convert float NaN to integer"
  | infinityToInteger => "cannot convert float infinity to integer"
  | outsideCalendar => "date value out of range"
  | iso error => error.message
  | epoch .notANumber => "Invalid value NaN (not a number)"
  | epoch .quotientTooLarge => "integer division result too large for a float"
  | epoch .tooManySeconds => "timestamp out of range for platform time_t"
  | epoch .tooManyYears => "[Errno 75] Value too large for defined data type"
  | epoch (.year shown) => (FieldError.year shown).message
  | json error | body error => error.message
  | encoding error => error.message
  | negative count given => count ++ " must be non-negative, got " ++ given.plain
  | emptyRange first last =>
    "Time range start " ++ first.spaced ++ " is after end " ++ last.spaced
  | httpStatus status atServer reason url =>
    status.plain ++ (if atServer then " Server Error: " else " Client Error: ") ++ reason ++
      " for url: " ++ url
  | unknownLevel name => "Unknown level: " ++ Text.quoted name
  | directory path => "[Errno 21] Is a directory: " ++ Text.quoted path
  | longName path => "[Errno 36] File name too long: " ++ Text.quoted path
  | arguments message => message
  | external _ argument => argument.plain

/-- What a fault was made from, as its literal shows it. -/
def args : Fault → List Value
  | missingKey key => [key]
  | unregistered interface => [.str ("No factory registered for " ++ interface)]
  | epoch .tooManyYears => [.int 75, .str "Value too large for defined data type"]
  | directory _ => [.int 21, .str "Is a directory"]
  | longName _ => [.int 36, .str "File name too long"]
  | external _ argument => [argument]
  | f => [.str f.wording]

/-- The text of a fault.  A missing key is shown by its literal. -/
def message : Fault → String
  | external .key argument => argument.literal
  | f => f.wording

/-- A fault as a literal. -/
def literal (f : Fault) : String :=
  f.kind.name ++ "(" ++ ", ".intercalate (f.args.map Value.literal) ++ ")"

end Fault

end LogSearch
