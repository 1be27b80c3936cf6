import RowScan.Json.Token

/-!
JSON values and their reader. The reader takes one token after the other and keeps the arrays and
objects that are still open in a list of frames.
-/

namespace RowScan

/-- A string is `none` when it holds a lone surrogate and so is no text. -/
inductive JsonValue where
  | null
  | bool (value : Bool)
  | number (number : JsonNumber)
  | string (text : Option String)
  | array (items : List JsonValue)
  | object (members : List (Option String × JsonValue))
  deriving Repr

namespace JsonUnit

def isHighSurrogate (unit : Nat) : Bool := 0xd800 ≤ unit && unit < 0xdc00

def isLowSurrogate (unit : Nat) : Bool := 0xdc00 ≤ unit && unit < 0xe000

def pair (high low : Nat) : Char :=
  Char.ofNat (0x10000 + (high - 0xd800) * 0x400 + (low - 0xdc00))

def chars? : List JsonUnit → Option (List Char)
  | [] => some []
  | .plain char :: rest => (char :: ·) <$> chars? rest
  | .code high :: .code low :: rest =>
    if isHighSurrogate high && isLowSurrogate low then (pair high low :: ·) <$> chars? rest
    else if isHighSurrogate high || isLowSurrogate high then none
    else (Char.ofNat high :: ·) <$> chars? (.code low :: rest)
  | .code unit :: rest =>
    if isHighSurrogate unit || isLowSurrogate unit then none
    else (Char.ofNat unit :: ·) <$> chars? rest

def text? (units : List JsonUnit) : Option String := String.ofList <$> chars? units

end JsonUnit

inductive JsonFrame where
  | items (before : List JsonValue)
  | member (before : List (Option String × JsonValue)) (key : Option String)

inductive JsonState where
  /-- A value, or, where the flag says so, the end of an empty array. -/
  | value (mayClose : Bool)
  /-- A key, or, where the flag says so, the end of an empty object. -/
  | key (before : List (Option String × JsonValue)) (mayClose : Bool)
  | colon (before : List (Option String × JsonValue)) (key : Option String)
  | after (value : JsonValue)

namespace JsonValue

def advance? (frames : List JsonFrame) (state : JsonState) (token : JsonToken) :
    Option (List JsonFrame × JsonState) :=
  match state, token with
  | .value _, .null => some (frames, .after .null)
  | .value _, .bool flag => some (frames, .after (.bool flag))
  | .value _, .number literal => some (frames, .after (.number literal))
  | .value _, .string units => some (frames, .after (.string (JsonUnit.text? units)))
  | .value _, .openArray => some (.items [] :: frames, .value true)
  | .value _, .openObject => some (frames, .key [] true)
  | .value true, .closeArray =>
    match frames with
    | .items [] :: outer => some (outer, .after (.array []))
    | _ => none
  | .key before _, .string units => some (frames, .colon before (JsonUnit.text? units))
  | .key [] true, .closeObject => some (frames, .after (.object []))
  | .colon before key, .colon => some (.member before key :: frames, .value false)
  | .after item, .comma =>
    match frames with
    | .items before :: outer => some (.items (item :: before) :: outer, .value false)
    | .member before key :: outer => some (outer, .key ((key, item) :: before) false)
    | [] => none
  | .after item, .closeArray =>
    match frames with
    | .items before :: outer => some (outer, .after (.array (item :: before).reverse))
    | _ => none
  | .after item, .closeObject =>
    match frames with
    | .member before key :: outer => some (outer, .after (.object ((key, item) :: before).reverse))
    | _ => none
  | _, _ => none

def read? (frames : List JsonFrame) (state : JsonState) : List JsonToken → Option JsonValue
  | [] =>
    match frames, state with
    | [], .after value => some value
    | _, _ => none
  | token :: rest => do
    let (frames, state) ← advance? frames state token
    read? frames state rest

def ofText? (text : String) : Option JsonValue :=
  JsonToken.ofText? text >>= read? [] (.value false)

end JsonValue

end RowScan
