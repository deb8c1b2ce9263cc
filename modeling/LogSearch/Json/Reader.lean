import LogSearch.Decimal.Reader
import LogSearch.Text.Integer
import LogSearch.Text.Unpaired
import LogSearch.Value.Equal

/-!
# Reading JSON

The reader takes JSON text and beside it the names of the infinities and of what is not a number.
Integers are read exactly, up to a number of digits; a number with a fraction or an exponent is a
floating point one.  Of two entries with one key the later value counts, in the earlier place.  Lists
and maps may stand in one another up to a depth.  An error tells what was wrong and where.

Renders `json.loads` of a text.
-/

namespace LogSearch.Json

/-- What is wrong with a JSON text. -/
inductive Problem
  | expectingValue
  | expectingName
  | expectingColon
  | expectingComma
  | unterminatedString
  | controlCharacter
  | escape
  | unicodeEscape
  | extraData
  | byteOrderMark
  | tooManyDigits (digits : Nat)
  /-- Lists and maps stand in one another too deep, the last of them a list or a map. -/
  | tooDeep (isMap : Bool)
deriving Repr, DecidableEq

/-- The text that tells what is wrong. -/
def Problem.message : Problem → String
  | .expectingValue => "Expecting value"
  | .expectingName => "Expecting property name enclosed in double quotes"
  | .expectingColon => "Expecting ':' delimiter"
  | .expectingComma => "Expecting ',' delimiter"
  | .unterminatedString => "Unterminated string starting at"
  | .controlCharacter => "Invalid control character at"
  | .escape => "Invalid \\escape"
  | .unicodeEscape => "Invalid \\uXXXX escape"
  | .extraData => "Extra data"
  | .byteOrderMark => "Unexpected UTF-8 BOM (decode using utf-8-sig)"
  | .tooManyDigits _ => "too many digits"
  | .tooDeep _ => "too deep"

/-- What is wrong, and how many characters are left from there on. -/
structure Failed where
  problem : Problem
  left : Nat
deriving Repr, DecidableEq

/-- What is wrong and where: lines and columns count from 1, characters from 0. -/
structure Error where
  problem : Problem
  line : Nat
  column : Nat
  position : Nat
deriving Repr, DecidableEq

/-- Whether lists and maps stand in one another too deep. -/
def Error.isDepth (e : Error) : Bool :=
  match e.problem with
  | .tooDeep _ => true
  | _ => false

/-- The text that tells what is wrong and where. -/
def Error.message (e : Error) : String :=
  let n (k : Nat) : String := String.ofList (Text.decimal k)
  match e.problem with
  | .tooManyDigits digits =>
    "Exceeds the limit (4300 digits) for integer string conversion: value has " ++ n digits ++
      " digits; use sys.set_int_max_str_digits() to increase the limit"
  | .tooDeep isMap =>
    "maximum recursion depth exceeded while decoding a JSON " ++
      (if isMap then "object" else "array") ++ " from a unicode string"
  | problem =>
    problem.message ++ ": line " ++ n e.line ++ " column " ++ n e.column ++ " (char " ++
      n e.position ++ ")"

/-- The error at a place in a text, given how many characters are left there. -/
def Error.locate (text : List Char) (failed : Failed) : Error :=
  let position := text.length - failed.left
  let before := text.take position
  let lastLine := before.reverse.takeWhile (· != '\n')
  ⟨failed.problem, before.count '\n' + 1, lastLine.length + 1, position⟩

/-- Whether a character may stand between tokens. -/
def isGap (c : Char) : Bool := c == ' ' || c == '\t' || c == '\n' || c == '\r'

/-- Drops what may stand between tokens. -/
def skip (cs : List Char) : List Char := cs.dropWhile isGap

/-- The value of a digit in base sixteen. -/
def hexDigit? (c : Char) : Option Nat :=
  if '0' ≤ c && c ≤ '9' then some (c.toNat - 48)
  else if 'a' ≤ c && c ≤ 'f' then some (c.toNat - 87)
  else if 'A' ≤ c && c ≤ 'F' then some (c.toNat - 55)
  else none

/-- Reads four digits in base sixteen. -/
def hexFour? (cs : List Char) : Option Nat :=
  match cs.take 4 with
  | [a, b, c, d] => do
    let a ← hexDigit? a
    let b ← hexDigit? b
    let c ← hexDigit? c
    let d ← hexDigit? d
    some (((a * 16 + b) * 16 + c) * 16 + d)
  | _ => none

/-- The character that an escape letter stands for. -/
def escapeChar? : Char → Option Char
  | '"' => some '"'
  | '\\' => some '\\'
  | '/' => some '/'
  | 'b' => some '\x08'
  | 'f' => some '\x0c'
  | 'n' => some '\n'
  | 'r' => some '\r'
  | 't' => some '\t'
  | _ => none

/-- Reads the second half of a pair, given the first. -/
def secondHalf? (first : Nat) (cs : List Char) : Option (Except Failed Char) :=
  match cs with
  | '\\' :: 'u' :: r =>
    if 0xd800 ≤ first && first ≤ 0xdbff && 4 < r.length then
      match hexFour? r with
      | none => some (.error ⟨.unicodeEscape, r.length + 1⟩)
      | some second =>
        if 0xdc00 ≤ second && second ≤ 0xdfff then
          some (.ok (Text.charOfCode (0x10000 + (first - 0xd800) * 0x400 + (second - 0xdc00))))
        else none
    else none
  | _ => none

/-- Reads the rest of a string whose opening quote has `start` characters left after and with it.
The fuel is the length of the text. -/
def stringTail (start : Nat) : Nat → List Char → Except Failed (List Char × List Char)
  | 0, _ => .error ⟨.unterminatedString, start⟩
  | _ + 1, [] => .error ⟨.unterminatedString, start⟩
  | fuel + 1, c :: r =>
    if c = '"' then .ok ([], r)
    else if c = '\\' then
      match r with
      | [] => .error ⟨.unterminatedString, start⟩
      | 'u' :: r =>
        if r.length ≤ 4 then .error ⟨.unicodeEscape, r.length + 1⟩
        else
          match hexFour? r with
          | none => .error ⟨.unicodeEscape, r.length + 1⟩
          | some code => do
            let (d, rest) ← match secondHalf? code (r.drop 4) with
              | none => .ok (Text.charOfCode code, r.drop 4)
              | some paired => paired.map fun d => (d, r.drop 10)
            let (ds, rest) ← stringTail start fuel rest
            .ok (d :: ds, rest)
      | letter :: r =>
        match escapeChar? letter with
        | none => .error ⟨.escape, r.length + 2⟩
        | some d => do
          let (ds, rest) ← stringTail start fuel r
          .ok (d :: ds, rest)
    else if c.toNat < 32 then .error ⟨.controlCharacter, r.length + 1⟩
    else do
      let (ds, rest) ← stringTail start fuel r
      .ok (c :: ds, rest)

/-- Reads the rest of a string after its opening quote. -/
def stringRest (r : List Char) : Except Failed (String × List Char) :=
  (stringTail (r.length + 1) (r.length + 1) r).map fun (cs, rest) => (String.ofList cs, rest)

/-- Splits off the digits at the front. -/
def digitsSplit (cs : List Char) : List Char × List Char :=
  (cs.takeWhile Text.isAsciiDigit, cs.dropWhile Text.isAsciiDigit)

/-- Splits off a fraction, its point included; a point without a digit after it is none. -/
def fractionSplit (cs : List Char) : List Char × List Char :=
  match cs with
  | '.' :: r =>
    let (ds, rest) := digitsSplit r
    if ds.isEmpty then ([], cs) else ('.' :: ds, rest)
  | _ => ([], cs)

/-- Splits off an exponent, its mark included; a mark without a digit after it is none. -/
def exponentSplit (cs : List Char) : List Char × List Char :=
  match cs with
  | e :: r =>
    if e = 'e' || e = 'E' then
      let (sign, body) := match r with
        | '-' :: t => (['-'], t)
        | '+' :: t => (['+'], t)
        | t => ([], t)
      let (ds, rest) := digitsSplit body
      if ds.isEmpty then ([], cs) else (e :: sign ++ ds, rest)
    else ([], cs)
  | [] => ([], [])

/-- Splits off the digits of a whole number; a zero in front stands alone. -/
def wholeSplit (cs : List Char) : List Char × List Char :=
  match cs with
  | '0' :: r => (['0'], r)
  | r => digitsSplit r

/-- Reads the rest of a number whose whole digits are read; `left` characters are left from its
start on. -/
def numberRest (negative : Bool) (left : Nat) (whole rest : List Char) :
    Except Failed (Value × List Char) :=
  if whole.isEmpty then .error ⟨.expectingValue, left⟩
  else
    let (fraction, rest) := fractionSplit rest
    let (exponent, rest) := exponentSplit rest
    if fraction.isEmpty && exponent.isEmpty then
      if Text.digitLimit < whole.length then .error ⟨.tooManyDigits whole.length, left⟩
      else
        let n : Int := Text.ofDigits (whole.map fun c => c.toNat - 48)
        .ok (.int (if negative then -n else n), rest)
    else
      match Decimal.readUnsigned negative (whole ++ fraction ++ exponent) with
      | none => .error ⟨.expectingValue, left⟩
      | some x => .ok (.float x, rest)

/-- Reads a number. -/
def number (cs : List Char) : Except Failed (Value × List Char) :=
  let (negative, body) := match cs with
    | '-' :: r => (true, r)
    | r => (false, r)
  let (whole, rest) := wholeSplit body
  numberRest negative cs.length whole rest

/-- The values that are written as names. -/
def names : List (List Char × Value) :=
  [("null".toList, .null), ("true".toList, .bool true), ("false".toList, .bool false),
    ("NaN".toList, .float (.nan 0)), ("Infinity".toList, .float (.infinite false)),
    ("-Infinity".toList, .float (.infinite true))]

/-- Reads a name or a number. -/
def scalar (cs : List Char) : Except Failed (Value × List Char) :=
  match names.find? fun (name, _) => name.isPrefixOf cs with
  | some (name, v) => .ok (v, cs.drop name.length)
  | none => number cs

/-- How deep lists and maps may stand in one another. -/
def depthLimit : Nat := 985

mutual

/-- Reads a value, in which lists and maps may stand in one another `depth` deep. -/
def value (depth : Nat) : Nat → List Char → Except Failed (Value × List Char)
  | 0, cs => .error ⟨.expectingValue, cs.length⟩
  | _ + 1, [] => .error ⟨.expectingValue, 0⟩
  | fuel + 1, c :: r =>
    if c = '"' then (stringRest r).map fun (s, rest) => (.str s, rest)
    else if c = '[' then
      if depth = 0 then .error ⟨.tooDeep false, r.length + 1⟩
      else
        match skip r with
        | ']' :: rest => .ok (.list [], rest)
        | body => (items (depth - 1) fuel body).map fun (vs, rest) => (.list vs, rest)
    else if c = '\x7b' then
      if depth = 0 then .error ⟨.tooDeep true, r.length + 1⟩
      else
        match skip r with
        | '\x7d' :: rest => .ok (.map [], rest)
        | body =>
          (entries (depth - 1) fuel body).map fun (es, rest) => (.map (Entries.ofPairs es), rest)
    else scalar (c :: r)

/-- Reads one or more items up to the closing bracket. -/
def items (depth : Nat) : Nat → List Char → Except Failed (List Value × List Char)
  | 0, cs => .error ⟨.expectingValue, cs.length⟩
  | fuel + 1, cs => do
    let (v, rest) ← value depth fuel cs
    match skip rest with
    | ']' :: rest => .ok ([v], rest)
    | ',' :: rest =>
      let (vs, rest) ← items depth fuel (skip rest)
      .ok (v :: vs, rest)
    | rest => .error ⟨.expectingComma, rest.length⟩

/-- Reads one or more entries up to the closing brace. -/
def entries (depth : Nat) : Nat → List Char → Except Failed (List (Value × Value) × List Char)
  | 0, cs => .error ⟨.expectingValue, cs.length⟩
  | fuel + 1, cs =>
    match cs with
    | '"' :: r => do
      let (name, rest) ← stringRest r
      match skip rest with
      | ':' :: rest =>
        let (v, rest) ← value depth fuel (skip rest)
        match skip rest with
        | '\x7d' :: rest => .ok ([(.str name, v)], rest)
        | ',' :: rest =>
          let (es, rest) ← entries depth fuel (skip rest)
          .ok ((.str name, v) :: es, rest)
        | rest => .error ⟨.expectingComma, rest.length⟩
      | rest => .error ⟨.expectingColon, rest.length⟩
    | cs => .error ⟨.expectingName, cs.length⟩

end

/-- Reads a text that holds one value, with so much fuel. -/
def readWithin (fuel : Nat) (cs : List Char) : Except Failed Value := do
  let (v, rest) ← value depthLimit fuel (skip cs)
  let rest := skip rest
  if rest.isEmpty then .ok v else .error ⟨.extraData, rest.length⟩

/-- Reads a text that holds one value.  An opening bracket takes two units of fuel, one for the list or
the map and one for its first item. -/
def readValue (cs : List Char) : Except Failed Value := readWithin (2 * cs.length + 1) cs

/-- Reads a text that holds one value, and has no byte order mark in front. -/
def readChars (cs : List Char) : Except Failed Value :=
  match cs with
  | '\ufeff' :: _ => .error ⟨.byteOrderMark, cs.length⟩
  | _ => readValue cs

/-- Reads a text that holds one value. -/
def read (s : String) : Except Error Value :=
  match readChars s.toList with
  | .ok v => .ok v
  | .error failed => .error (.locate s.toList failed)

end LogSearch.Json
