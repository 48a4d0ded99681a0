import Telemetry.Json.Fault

/-!
# Reading JSON text

Readers take the characters that are left and give what they read with the characters after it. The
readers of lists and objects take the reader of their items as an argument, so that values and typed
data are read by the same rules.
-/

namespace Telemetry.Json

/-- What a reader read and the characters left over. -/
abbrev Parsed (α : Type) := α × List Char

/-- Whether the character may stand between the parts of a JSON text. -/
def isSpace (c : Char) : Bool := c = ' ' || c = '\n' || c = '\t' || c = '\r'

/-- Drops the blanks in front. -/
def skipSpace (text : List Char) : List Char := text.dropWhile isSpace

/-- Reads the rest of a word that is known by its first letter. -/
def readWord : List Char → List Char → Except Located (List Char)
  | [], text => .ok text
  | _ :: _, [] => .error (Fault.eofInValue.before [])
  | w :: word, c :: rest =>
    if c = w then readWord word rest else .error (Fault.expectedIdent.at (c :: rest))

/-! ## Numbers -/

/-- The greatest natural number that a number may be without being a double. -/
def maxNatural : Nat := 0xFFFFFFFFFFFFFFFF

/-- The power of ten with a small exponent. -/
def powerOfTen (k : Nat) : Float := Float.ofScientific 1 false k

/-- The double of a significand and a decimal exponent, by one rounding for the significand and one
for each multiplication or division by a power of ten. A number that is too large has none. -/
def scaleFloat : Nat → Float → Int → Option Float
  | 0, _, _ => none
  | n + 1, f, e =>
    if e.natAbs ≤ 308 then
      if 0 ≤ e then
        let g := f * powerOfTen e.natAbs
        if g.isInf then none else some g
      else some (f / powerOfTen e.natAbs)
    else if f == 0 then some f
    else if 0 ≤ e then none
    else scaleFloat n (f / powerOfTen 308) (e + 308)

/-- The number with the given parts, which were read up to `rest`. -/
def floatNumber (positive : Bool) (significand : Nat) (exponent : Int) (rest : List Char) :
    Except Located (Parsed Number) :=
  match scaleFloat (exponent.natAbs + 2) (UInt64.ofNat significand).toFloat exponent with
  | some f => .ok (.float (if positive then f else -f).toBits, rest)
  | none => .error (Fault.numberOutOfRange.before rest)

/-- The greatest exponent that is computed with; longer ones stand for zero or are out of range. -/
def maxExponent : Nat := 0x7FFFFFFF

/-- Reads the digits of an exponent; `e` is what those before them wrote. The digit with which it
exceeds every exponent is the last one read. -/
def readExponentDigits (e : Nat) : List Char → Option Nat × List Char
  | c :: rest =>
    if c.isDigit then
      let e := 10 * e + (c.toNat - 48)
      if maxExponent < e then (none, rest) else readExponentDigits e rest
    else (some e, c :: rest)
  | [] => (some e, [])

/-- Reads the exponent of a number from behind its letter. -/
def readExponent (positive : Bool) (significand : Nat) (exponent : Int) (text : List Char) :
    Except Located (Parsed Number) :=
  let (up, text) := match text with
    | '+' :: rest => (true, rest)
    | '-' :: rest => (false, rest)
    | _ => (true, text)
  match text with
  | [] => .error (Fault.eofInValue.before [])
  | c :: rest =>
    if !c.isDigit then .error (Fault.invalidNumber.at (c :: rest))
    else
      match readExponentDigits (c.toNat - 48) rest with
      | (some e, left) =>
        floatNumber positive significand (if up then exponent + e else exponent - e) left
      | (none, left) =>
        if significand ≠ 0 && up then .error (Fault.numberOutOfRange.before left)
        else .ok (.float (if positive then (0 : Float) else -0).toBits, left.dropWhile Char.isDigit)

/-- Reads what may follow the digits of a number: an exponent. -/
def readScale (positive : Bool) (significand : Nat) (exponent : Int) (text : List Char) :
    Except Located (Parsed Number) :=
  match text with
  | 'e' :: rest | 'E' :: rest => readExponent positive significand exponent rest
  | _ => floatNumber positive significand exponent text

/-- Takes digits into a significand for as long as it stays in 64 bits. Gives the significand, the
number of digits taken and the characters left. -/
def takeDigits (significand taken : Nat) : List Char → Nat × Nat × List Char
  | c :: rest =>
    if c.isDigit ∧ 10 * significand + (c.toNat - 48) ≤ maxNatural then
      takeDigits (10 * significand + (c.toNat - 48)) (taken + 1) rest
    else (significand, taken, c :: rest)
  | [] => (significand, taken, [])

/-- Reads the decimals of a number from behind its point; digits beyond 64 bits do not count. -/
def readDecimals (positive : Bool) (significand : Nat) (exponent : Int) (text : List Char) :
    Except Located (Parsed Number) :=
  let (value, taken, rest) := takeDigits significand 0 text
  let dropped := rest.dropWhile Char.isDigit
  if taken = 0 && dropped.length = rest.length then
    .error ((if rest.isEmpty then Fault.eofInValue else .invalidNumber).at rest)
  else readScale positive value (exponent - taken) dropped

/-- Reads a number from behind its sign. -/
def readNumber (positive : Bool) (text : List Char) : Except Located (Parsed Number) :=
  match text with
  | [] => .error (Fault.eofInValue.before [])
  | c :: rest =>
    if !c.isDigit then .error (Fault.invalidNumber.at (c :: rest))
    else if c = '0' && (rest.head?.any Char.isDigit) then .error (Fault.invalidNumber.at rest)
    else
      let (value, _, rest) := takeDigits 0 0 text
      let left := rest.dropWhile Char.isDigit
      let exponent : Int := rest.length - left.length
      match left with
      | '.' :: decimals => readDecimals positive value exponent decimals
      | 'e' :: _ | 'E' :: _ => readScale positive value exponent left
      | _ =>
        if exponent ≠ 0 then floatNumber positive value exponent left
        else if positive then .ok (.integer value, left)
        else if value = 0 ∨ 0x8000000000000000 < value then
          .ok (.float (-(UInt64.ofNat value).toFloat).toBits, left)
        else .ok (.integer (-value), left)

/-! ## Strings -/

/-- The value of a hexadecimal digit. -/
def hexValue? (c : Char) : Option Nat :=
  if c.isDigit || ('a' ≤ c && c ≤ 'f') || ('A' ≤ c && c ≤ 'F') then
    some (Unicode.hexDigitValue c)
  else none

/-- Reads four hexadecimal digits. What is no digit is noticed behind the fourth byte. -/
def readHexEscape (text : List Char) : Except Located (Parsed Nat) :=
  let bytes := Text.byteLength text
  if bytes < 4 then .error (Fault.eofInString.before [])
  else
    match text with
    | a :: b :: c :: d :: rest =>
      match hexValue? a, hexValue? b, hexValue? c, hexValue? d with
      | some a, some b, some c, some d => .ok (((a * 16 + b) * 16 + c) * 16 + d, rest)
      | _, _, _, _ => .error ⟨.invalidEscape, bytes - 4⟩
    | _ => .error ⟨.invalidEscape, bytes - 4⟩

/-- Reads what follows `\u`: one code unit, or two that make a pair of surrogates. -/
def readUnicodeEscape (text : List Char) : Except Located (Parsed Char) := do
  let (n, rest) ← readHexEscape text
  if 0xDC00 ≤ n ∧ n ≤ 0xDFFF then .error (Fault.loneSurrogate.before rest)
  else if n < 0xD800 ∨ 0xDBFF < n then return (Char.ofNat n, rest)
  else match rest with
    | [] => .error (Fault.eofInString.before [])
    | '\\' :: [] => .error (Fault.eofInString.before [])
    | '\\' :: 'u' :: rest =>
      let (m, left) ← readHexEscape rest
      if 0xDC00 ≤ m ∧ m ≤ 0xDFFF then
        return (Char.ofNat (0x10000 + (n - 0xD800) * 0x400 + (m - 0xDC00)), left)
      else .error (Fault.loneSurrogate.before left)
    | '\\' :: rest => .error (Fault.unfinishedHexEscape.at rest)
    | _ => .error (Fault.unfinishedHexEscape.at rest)

/-- Reads what follows a backslash in a string. -/
def readEscape (text : List Char) : Except Located (Parsed Char) :=
  match text with
  | [] => .error (Fault.eofInString.before [])
  | '"' :: rest => .ok ('"', rest)
  | '\\' :: rest => .ok ('\\', rest)
  | '/' :: rest => .ok ('/', rest)
  | 'b' :: rest => .ok ('\x08', rest)
  | 'f' :: rest => .ok ('\x0C', rest)
  | 'n' :: rest => .ok ('\n', rest)
  | 'r' :: rest => .ok ('\r', rest)
  | 't' :: rest => .ok ('\t', rest)
  | 'u' :: rest => readUnicodeEscape rest
  | _ => .error (Fault.invalidEscape.at text)

/-- Reads a string from behind its opening quote; `seen` holds the characters before, last first.
The first argument bounds the number of characters; the length of the text is enough. -/
def readStringFrom : Nat → List Char → List Char → Except Located (Parsed String)
  | _, _, [] => .error (Fault.eofInString.before [])
  | 0, _, text => .error (Fault.eofInString.before text)
  | n + 1, seen, c :: rest =>
    if c = '"' then .ok (String.ofList seen.reverse, rest)
    else if c = '\\' then
      match readEscape rest with
      | .error e => .error e
      | .ok (d, left) => readStringFrom n (d :: seen) left
    else if c.toNat < 32 then .error (Fault.controlCharacter.before rest)
    else readStringFrom n (c :: seen) rest

/-- Reads a string from behind its opening quote. -/
def readString (text : List Char) : Except Located (Parsed String) :=
  readStringFrom text.length [] text

/-! ## Lists and objects -/

/-- Goes on to the next item of a list: its text, or none if the list ends there. -/
def nextItem (first : Bool) (text : List Char) : Except Located (Option (List Char)) :=
  match skipSpace text with
  | [] => .error (Fault.eofInList.at [])
  | ']' :: _ => .ok none
  | c :: rest =>
    if first then .ok (some (c :: rest))
    else if c = ',' then
      match skipSpace rest with
      | [] => .error (Fault.eofInValue.at [])
      | ']' :: rest => .error (Fault.trailingComma.at (']' :: rest))
      | next => .ok (some next)
    else .error (Fault.expectedListCommaOrEnd.at (c :: rest))

/-- Reads the items of a list up to its closing bracket, which is dropped; `seen` holds those
before, last first. The first argument bounds their number; the length of the text is enough. -/
def readItems (item : List Char → Except Located (Parsed α)) :
    Nat → List α → List Char → Except Located (Parsed (List α))
  | 0, _, text => .error (Fault.eofInList.at text)
  | n + 1, seen, text =>
    match nextItem seen.isEmpty text with
    | .error e => .error e
    | .ok none => .ok (seen.reverse, (skipSpace text).drop 1)
    | .ok (some text) =>
      match item text with
      | .error e => .error e
      | .ok (a, rest) => readItems item n (a :: seen) rest

/-- Reads a list from behind its opening bracket. -/
def readList (item : List Char → Except Located (Parsed α)) (text : List Char) :
    Except Located (Parsed (List α)) :=
  readItems item (text.length + 1) [] text

/-- Goes on to the next member of an object: its key and the text behind it, or none if the object
ends there. -/
def nextKey (first : Bool) (text : List Char) : Except Located (Option (Parsed String)) :=
  match skipSpace text with
  | [] => .error (Fault.eofInObject.at [])
  | '}' :: _ => .ok none
  | c :: rest =>
    if first then
      if c = '"' then (readString rest).map some else .error (Fault.keyNotString.at (c :: rest))
    else if c = ',' then
      match skipSpace rest with
      | [] => .error (Fault.eofInValue.at [])
      | '"' :: rest => (readString rest).map some
      | '}' :: rest => .error (Fault.trailingComma.at ('}' :: rest))
      | next => .error (Fault.keyNotString.at next)
    else .error (Fault.expectedObjectCommaOrEnd.at (c :: rest))

/-- Reads the members of an object up to its closing brace, which is dropped. `member` takes the key
of a member, what the members before it made, and the text behind the key. The first argument bounds
the number of members; the length of the text is enough. -/
def readMembers (member : String → σ → List Char → Except Located (Parsed σ)) :
    Nat → Bool → σ → List Char → Except Located (Parsed σ)
  | 0, _, _, text => .error (Fault.eofInObject.at text)
  | n + 1, first, s, text =>
    match nextKey first text with
    | .error e => .error e
    | .ok none => .ok (s, (skipSpace text).drop 1)
    | .ok (some (key, text)) =>
      match member key s text with
      | .error e => .error e
      | .ok (s, rest) => readMembers member n false s rest

/-- Reads an object from behind its opening brace. -/
def readObject (member : String → σ → List Char → Except Located (Parsed σ)) (start : σ)
    (text : List Char) : Except Located (Parsed σ) :=
  readMembers member (text.length + 1) true start text

/-- Reads the colon between a key and its value. -/
def readColon (text : List Char) : Except Located (List Char) :=
  match skipSpace text with
  | [] => .error (Fault.eofInObject.at [])
  | ':' :: rest => .ok rest
  | rest => .error (Fault.expectedColon.at rest)

/-! ## Values -/

/-- Reads a value, where `nested` reads the values inside it; none if it may hold no others. -/
def readWith (nested : Option (List Char → Except Located (Parsed Json))) (text : List Char) :
    Except Located (Parsed Json) := do
  match skipSpace text with
  | [] => .error (Fault.eofInValue.at [])
  | 'n' :: rest => return (.null, ← readWord ['u', 'l', 'l'] rest)
  | 't' :: rest => return (.bool true, ← readWord ['r', 'u', 'e'] rest)
  | 'f' :: rest => return (.bool false, ← readWord ['a', 'l', 's', 'e'] rest)
  | '"' :: rest =>
    let (s, left) ← readString rest
    return (.string s, left)
  | '-' :: rest =>
    let (n, left) ← readNumber false rest
    return (.number n, left)
  | '[' :: rest =>
    match nested with
    | none => .error (Fault.recursionLimit.at ('[' :: rest))
    | some item =>
      let (items, left) ← readList item rest
      return (.array items, left)
  | '{' :: rest =>
    match nested with
    | none => .error (Fault.recursionLimit.at ('{' :: rest))
    | some item =>
      let (members, left) ← readObject
        (fun key members text => do
          let (value, left) ← item (← readColon text)
          return (Keyed.insert key value members, left)) [] rest
      return (.object members, left)
  | c :: rest =>
    if c.isDigit then
      let (n, left) ← readNumber true (c :: rest)
      return (.number n, left)
    else .error (Fault.expectedValue.at (c :: rest))

/-- Reads a value whose lists and objects nest at most as deep as the first argument says. -/
def readValue : Nat → List Char → Except Located (Parsed Json)
  | 0 => readWith none
  | n + 1 => readWith (some (readValue n))

/-- How deep the lists and objects of a text may nest. -/
def depthLimit : Nat := 127

/-- Admits only blanks behind what was read. -/
def finish (read : Except Located (Parsed α)) : Except Located α :=
  match read with
  | .error e => .error e
  | .ok (a, rest) =>
    match skipSpace rest with
    | [] => .ok a
    | left => .error (Fault.trailingCharacters.at left)

/-- Reads a text by a reader, which has to come to its end. -/
def parseBy (read : List Char → Except Located (Parsed α)) (text : String) : Except Placed α :=
  match finish (read text.toList) with
  | .error e => .error (e.placeIn text.toList)
  | .ok a => .ok a

/-- Reads a text that is one value. -/
def parse (text : String) : Except Placed Json := parseBy (readValue depthLimit) text

end Telemetry.Json
