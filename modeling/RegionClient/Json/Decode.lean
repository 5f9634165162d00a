import RegionClient.Json.Value
import RegionClient.Text.Utf8

set_option autoImplicit false

/-! # Reading wire values

A decoder over bytes. It takes one value with blanks around it, and a refusal names what was wrong
and the line and column of the byte where that showed.

* A step of the decoder takes the bytes that are left and gives a result with the bytes left after
  it. A refusal keeps how many bytes follow the place it points at, and only `decode` turns that
  into a line and a column.
* Nesting is bounded, and the decoder recurses on the levels that are left.
* A number without point and exponent is an integer if it fits 64 bits. Any other number keeps as
  many leading digits as fit 64 bits, makes a double of them, and scales that by a power of ten: the
  result may be off by one place from the nearest double.
-/

namespace RegionClient.Json

/-! ## Refusals -/

/-- What can be wrong with the bytes of a document. -/
inductive Complaint where
  | endInValue
  | endInList
  | endInObject
  | endInString
  | expectedValue
  | expectedWord
  | expectedColon
  | expectedCommaOrBracket
  | expectedCommaOrBrace
  | keyNotString
  | trailingComma
  | trailingCharacters
  | invalidNumber
  | numberOutOfRange
  | invalidEscape
  | unpairedEscape
  | loneSurrogate
  | controlCharacter
  | invalidCodePoint
  | tooDeep
  deriving DecidableEq

/-- The wording of a complaint. -/
def Complaint.text : Complaint → String
  | endInValue => "EOF while parsing a value"
  | endInList => "EOF while parsing a list"
  | endInObject => "EOF while parsing an object"
  | endInString => "EOF while parsing a string"
  | expectedValue => "expected value"
  | expectedWord => "expected ident"
  | expectedColon => "expected \x60:\x60"
  | expectedCommaOrBracket => "expected \x60,\x60 or \x60]\x60"
  | expectedCommaOrBrace => "expected \x60,\x60 or \x60\x7d\x60"
  | keyNotString => "key must be a string"
  | trailingComma => "trailing comma"
  | trailingCharacters => "trailing characters"
  | invalidNumber => "invalid number"
  | numberOutOfRange => "number out of range"
  | invalidEscape => "invalid escape"
  | unpairedEscape => "unexpected end of hex escape"
  | loneSurrogate => "lone leading surrogate in hex escape"
  | controlCharacter => "control character (\\u0000-\\u001F) found while parsing a string"
  | invalidCodePoint => "invalid unicode code point"
  | tooDeep => "recursion limit exceeded"

/-- A refusal inside the decoder, with the number of bytes after the place it points at. -/
structure Refusal where
  complaint : Complaint
  remaining : Nat

/-- A refusal with its place in the document. -/
structure DecodeError where
  complaint : Complaint
  line : Nat
  column : Nat
  deriving DecidableEq

/-- The wording of a refusal. -/
def DecodeError.message (e : DecodeError) : String :=
  e.complaint.text ++ " at line " ++ Numeral.ofNat e.line ++ " column " ++ Numeral.ofNat e.column

/-- The outcome of a step of the decoder. -/
abbrev Step : Type → Type :=
  Except Refusal

/-- A result and the bytes that are left. -/
abbrev Taken (α : Type) : Type :=
  α × List UInt8

/-- Refuses, pointing at the last byte taken. -/
def refuse {α : Type} (complaint : Complaint) (rest : List UInt8) : Step (Taken α) :=
  .error ⟨complaint, rest.length⟩

/-- Refuses, pointing at the first byte not taken, or at the end. -/
def refuseNext {α : Type} (complaint : Complaint) (rest : List UInt8) : Step (Taken α) :=
  .error ⟨complaint, rest.length - 1⟩

/-! ## Bytes -/

/-- The byte of an ASCII character. -/
def byte (c : Char) : UInt8 :=
  c.toNat.toUInt8

/-- Whether a byte is a blank of the format. -/
def isSpace (b : UInt8) : Bool :=
  b == 0x20 || b == 0x09 || b == 0x0A || b == 0x0D

/-- Whether a byte is a decimal digit. -/
def isDigit (b : UInt8) : Bool :=
  0x30 ≤ b && b ≤ 0x39

/-- The bytes from the first that is no blank. -/
def skipSpace (input : List UInt8) : List UInt8 :=
  input.dropWhile isSpace

/-! ## Numbers -/

/-- Takes leading digits as long as the number they make fits 64 bits; also tells how many digits
are not taken. -/
def absorb (n : Nat) : List UInt8 → Nat × Nat
  | [] => (n, 0)
  | d :: ds =>
    let m := 10 * n + (d.toNat - 0x30)
    if m < 2 ^ 64 then absorb m ds else (n, ds.length + 1)

/-- The double nearest to a power of ten. -/
def powerOfTen? (k : Nat) : Option Binary64 :=
  Binary64.ofNat? (10 ^ k)

/-- Divides a double by `10 ^ k`, at most 308 places at a time. -/
def scaleDown? (d : Binary64) (k : Nat) : Option Binary64 :=
  if _h : k ≤ 308 then (powerOfTen? k).bind d.div?
  else if d.units = 0 then some d
  else (powerOfTen? 308).bind fun p => (d.div? p).bind fun q => scaleDown? q (k - 308)
termination_by k

/-- Scales a double by a power of ten, unless the result is out of range. -/
def scale? (d : Binary64) : Int → Option Binary64
  | .ofNat k =>
    if k ≤ 308 then (powerOfTen? k).bind d.mul?
    else if d.units = 0 then some d else none
  | .negSucc k => scaleDown? d (k + 1)

/-- The double of digits and a power of ten. -/
def scaled (negative : Bool) (n : Nat) (exponent : Int) (rest : List UInt8) : Step (Taken Json) :=
  match (Binary64.ofNat? n).bind (scale? · exponent) with
  | some d => .ok (double (d.withSign negative), rest)
  | none => refuse .numberOutOfRange rest

/-- The value of the digits of an exponent, or the digits left where it outgrows 31 bits. -/
def exponentValue (e : Nat) : List UInt8 → Except Nat Nat
  | [] => .ok e
  | d :: ds =>
    let m := 10 * e + (d.toNat - 0x30)
    if m < 2 ^ 31 then exponentValue m ds else .error ds.length

/-- Reads an exponent whose letter and sign are taken. An exponent beyond all bounds leaves only a
zero in range. -/
def exponentDigits (negative : Bool) (n : Nat) (places : Int) (down : Bool) (input : List UInt8) :
    Step (Taken Json) :=
  match input with
  | [] => refuse .endInValue []
  | b :: rest =>
    if !isDigit b then refuse .invalidNumber rest
    else
      let after := input.dropWhile isDigit
      match exponentValue 0 (input.takeWhile isDigit) with
      | .ok e => scaled negative n (if down then places - e else places + e) after
      | .error left =>
        if n ≠ 0 ∧ !down then .error ⟨.numberOutOfRange, left + after.length⟩
        else .ok (double (Binary64.zero negative), after)

/-- Reads an exponent whose letter is taken. -/
def exponentPart (negative : Bool) (n : Nat) (places : Int) (input : List UInt8) :
    Step (Taken Json) :=
  match input with
  | 0x2B :: rest => exponentDigits negative n places false rest
  | 0x2D :: rest => exponentDigits negative n places true rest
  | _ => exponentDigits negative n places false input

/-- Reads the digits after a point. -/
def fractionPart (negative : Bool) (n : Nat) (places : Int) (input : List UInt8) :
    Step (Taken Json) :=
  let digits := input.takeWhile isDigit
  let after := input.dropWhile isDigit
  if digits.isEmpty then
    refuseNext (if after.isEmpty then .endInValue else .invalidNumber) after
  else
    let (m, dropped) := absorb n digits
    let exponent := places - (digits.length - dropped : Nat)
    match after with
    | 0x65 :: rest | 0x45 :: rest => exponentPart negative m exponent rest
    | _ => scaled negative m exponent after

/-- The integer of a sign and a magnitude below `2 ^ 64`. The negative zero is a double, and so is
what the signed range does not hold. -/
def signedInteger (negative : Bool) (n : Nat) (rest : List UInt8) : Step (Taken Json) :=
  if !negative then .ok (integer n, rest)
  else if 0 < n ∧ n ≤ 2 ^ 63 then .ok (integer (-n), rest)
  else scaled true n 0 rest

/-- Reads what follows the integer part of a number. -/
def afterInteger (negative : Bool) (n dropped : Nat) (input : List UInt8) : Step (Taken Json) :=
  match input with
  | 0x2E :: rest => fractionPart negative n dropped rest
  | 0x65 :: rest | 0x45 :: rest => exponentPart negative n dropped rest
  | _ => if dropped = 0 then signedInteger negative n input else scaled negative n dropped input

/-- Reads a number whose sign is taken. Only a zero may begin with the digit zero. -/
def number (negative : Bool) (input : List UInt8) : Step (Taken Json) :=
  match input with
  | [] => refuse .endInValue []
  | b :: rest =>
    if b = 0x30 then
      if (rest.head?.map isDigit).getD false then refuseNext .invalidNumber rest
      else afterInteger negative 0 0 rest
    else if isDigit b then
      let (n, dropped) := absorb 0 (input.takeWhile isDigit)
      afterInteger negative n dropped (input.dropWhile isDigit)
    else refuse .invalidNumber rest

/-! ## Texts -/

/-- The value of a hexadecimal digit. -/
def hexDigit? (b : UInt8) : Option Nat :=
  if isDigit b then some (b.toNat - 0x30)
  else if 0x61 ≤ b && b ≤ 0x66 then some (b.toNat - 0x57)
  else if 0x41 ≤ b && b ≤ 0x46 then some (b.toNat - 0x37)
  else none

/-- Reads four hexadecimal digits. -/
def fourHexDigits : List UInt8 → Step (Taken Nat)
  | a :: b :: c :: d :: rest =>
    match hexDigit? a, hexDigit? b, hexDigit? c, hexDigit? d with
    | some a, some b, some c, some d => .ok (((a * 16 + b) * 16 + c) * 16 + d, rest)
    | _, _, _, _ => refuse .invalidEscape rest
  | _ => refuse .endInString []

/-- The bytes of the character with a number. -/
def characterBytes (n : Nat) : List UInt8 :=
  String.utf8EncodeChar (Char.ofNat n)

/-- Reads the second half of a pair of escapes, which together name a character beyond the basic
plane. -/
def secondSurrogate (first : Nat) (input : List UInt8) : Step (Taken (List UInt8)) :=
  match input with
  | [] => refuse .endInString []
  | b :: rest =>
    if b ≠ byte '\\' then refuse .unpairedEscape rest
    else
      match rest with
      | [] => refuse .endInString []
      | c :: rest =>
        if c ≠ byte 'u' then refuse .unpairedEscape rest
        else do
          let (second, rest) ← fourHexDigits rest
          if second < 0xDC00 ∨ 0xDFFF < second then refuse .loneSurrogate rest
          else
            let n := (first - 0xD800) * 0x400 + (second - 0xDC00) + 0x10000
            .ok (characterBytes n, rest)

/-- Reads an escape by number whose letter is taken. -/
def numberedEscape (input : List UInt8) : Step (Taken (List UInt8)) := do
  let (n, rest) ← fourHexDigits input
  if 0xDC00 ≤ n ∧ n ≤ 0xDFFF then refuse .loneSurrogate rest
  else if 0xD800 ≤ n ∧ n ≤ 0xDBFF then secondSurrogate n rest
  else .ok (characterBytes n, rest)

/-- The byte that an escape by letter stands for. -/
def letterEscape? (b : UInt8) : Option UInt8 :=
  if b = byte '"' ∨ b = byte '\\' ∨ b = byte '/' then some b
  else if b = byte 'b' then some 0x08
  else if b = byte 'f' then some 0x0C
  else if b = byte 'n' then some 0x0A
  else if b = byte 'r' then some 0x0D
  else if b = byte 't' then some 0x09
  else none

/-- Reads an escape whose backslash is taken. -/
def escape (input : List UInt8) : Step (Taken (List UInt8)) :=
  match input with
  | [] => refuse .endInString []
  | b :: rest =>
    if b = byte 'u' then numberedEscape rest
    else
      match letterEscape? b with
      | some c => .ok ([c], rest)
      | none => refuse .invalidEscape rest

/-- Reads the bytes of a text up to its closing quote. Each round takes a byte, so the number of
bytes bounds the rounds. -/
def stringBytes : Nat → List UInt8 → List UInt8 → Step (Taken (List UInt8))
  | 0, _, rest => refuse .endInString rest
  | _ + 1, _, [] => refuse .endInString []
  | rounds + 1, taken, b :: rest =>
    if b = byte '"' then .ok (taken.reverse, rest)
    else if b = byte '\\' then do
      let (bytes, rest) ← escape rest
      stringBytes rounds (bytes.reverse ++ taken) rest
    else if b < 0x20 then refuse .controlCharacter rest
    else stringBytes rounds (b :: taken) rest

/-- Reads a text whose opening quote is taken. -/
def stringPart (input : List UInt8) : Step (Taken String) := do
  let (bytes, rest) ← stringBytes (input.length + 1) [] input
  match Utf8.decode? bytes with
  | some s => .ok (s, rest)
  | none => refuse .invalidCodePoint rest

/-! ## Values -/

/-- Reads the rest of a word whose first letter is taken. -/
def word (value : Json) : List UInt8 → List UInt8 → Step (Taken Json)
  | [], rest => .ok (value, rest)
  | _ :: _, [] => refuse .endInValue []
  | e :: expected, b :: rest =>
    if b = e then word value expected rest else refuse .expectedWord rest

/-- Reads the items of a list whose opening bracket is taken, `first` before the first of them. Each
round takes a byte, so the number of bytes bounds the rounds. -/
def items (item : List UInt8 → Step (Taken Json)) :
    Nat → Bool → List Json → List UInt8 → Step (Taken (List Json))
  | 0, _, _, rest => refuse .endInList rest
  | rounds + 1, first, taken, input =>
    match skipSpace input with
    | [] => refuse .endInList []
    | b :: rest =>
      if b = byte ']' then .ok (taken.reverse, rest)
      else if first then do
        let (value, rest) ← item (b :: rest)
        items item rounds false (value :: taken) rest
      else if b = byte ',' then
        match skipSpace rest with
        | [] => refuse .endInValue []
        | c :: after =>
          if c = byte ']' then refuseNext .trailingComma (c :: after)
          else do
            let (value, rest) ← item (c :: after)
            items item rounds false (value :: taken) rest
      else refuseNext .expectedCommaOrBracket (b :: rest)

/-- Reads an entry of an object from its key on, whose opening quote is taken. -/
def entry (item : List UInt8 → Step (Taken Json)) (input : List UInt8) :
    Step (Taken (String × Json)) := do
  let (key, rest) ← stringPart input
  match skipSpace rest with
  | [] => refuse .endInObject []
  | b :: rest =>
    if b = byte ':' then do
      let (value, rest) ← item rest
      .ok ((key, value), rest)
    else refuseNext .expectedColon (b :: rest)

/-- Reads the entries of an object whose opening brace is taken, as `items` reads those
of a list. -/
def entries (item : List UInt8 → Step (Taken Json)) :
    Nat → Bool → List (String × Json) → List UInt8 → Step (Taken (List (String × Json)))
  | 0, _, _, rest => refuse .endInObject rest
  | rounds + 1, first, taken, input =>
    match skipSpace input with
    | [] => refuse .endInObject []
    | b :: rest =>
      if b = byte '\x7d' then .ok (taken.reverse, rest)
      else if first then
        if b = byte '"' then do
          let (e, rest) ← entry item rest
          entries item rounds false (e :: taken) rest
        else refuseNext .keyNotString (b :: rest)
      else if b = byte ',' then
        match skipSpace rest with
        | [] => refuse .endInValue []
        | c :: after =>
          if c = byte '"' then do
            let (e, rest) ← entry item after
            entries item rounds false (e :: taken) rest
          else if c = byte '\x7d' then refuseNext .trailingComma (c :: after)
          else refuseNext .keyNotString (c :: after)
      else refuseNext .expectedCommaOrBrace (b :: rest)

/-- Reads a value, with as many levels of nesting below it as `levels` says. -/
def value (levels : Nat) (input : List UInt8) : Step (Taken Json) :=
  match skipSpace input with
  | [] => refuse .endInValue []
  | b :: rest =>
    if b = byte 'n' then word null ("ull".toList.map byte) rest
    else if b = byte 't' then word (bool true) ("rue".toList.map byte) rest
    else if b = byte 'f' then word (bool false) ("alse".toList.map byte) rest
    else if b = byte '-' then number true rest
    else if isDigit b then number false (b :: rest)
    else if b = byte '"' then (stringPart rest).map fun (s, rest) => (string s, rest)
    else if b = byte '[' then
      match levels with
      | 0 => refuseNext .tooDeep (b :: rest)
      | below + 1 =>
        (items (value below) (rest.length + 1) true [] rest).map fun (xs, rest) => (list xs, rest)
    else if b = byte '\x7b' then
      match levels with
      | 0 => refuseNext .tooDeep (b :: rest)
      | below + 1 =>
        (entries (value below) (rest.length + 1) true [] rest).map fun (es, rest) =>
          (ofEntries es, rest)
    else refuseNext .expectedValue (b :: rest)

/-- The levels of nesting that a document may have. -/
def nestingLimit : Nat :=
  127

/-- Reads a document: one value and nothing but blanks after it. -/
def document (input : List UInt8) : Step (Taken Json) := do
  let (value, rest) ← value nestingLimit input
  match skipSpace rest with
  | [] => .ok (value, [])
  | b :: rest => refuseNext .trailingCharacters (b :: rest)

/-! ## Documents -/

/-- A refusal placed in the document: lines count from one, columns count the bytes of the line up
to the place. -/
def Refusal.locate (r : Refusal) (input : List UInt8) : DecodeError :=
  let before := input.take (input.length - r.remaining)
  let column := (before.reverse.takeWhile (· ≠ 0x0A)).length
  ⟨r.complaint, 1 + before.count 0x0A, column⟩

/-- Decodes a document. -/
def decode (input : List UInt8) : Except DecodeError Json :=
  match document input with
  | .ok (value, _) => .ok value
  | .error r => .error (r.locate input)

/-- Decodes the document in a text. -/
def decodeText (s : String) : Except DecodeError Json :=
  decode (Utf8.encode s)

end RegionClient.Json
