import PaperGrading.Domain.Loaded

/-!
# `json.loads`

The scanner of `json.loads` goes from left to right through the code points of a text, and raises
`decode`, `digits` or `recursion` at the first place where it cannot go on.  Bytes are decoded
first, by the encoding that their first bytes show.
-/

namespace PaperGrading

/-- What `json.loads` takes from the interpreter: the codecs other than UTF-8, `float(text)`, and
how deep lists and dicts may be nested. -/
structure JsonRuntime where
  decodeWide : Bytes → Option (List CodePoint)
  floatOf : List CodePoint → PyFloat
  recursionLimit : Nat
  nests : 8 ≤ recursionLimit

namespace Json

/-! ## Characters -/

def point (c : Char) : CodePoint := Fin.ofNat _ c.toNat

def points (cs : List Char) : List CodePoint := cs.map point

def isSpace (p : CodePoint) : Bool :=
  p == point ' ' || p == point '\t' || p == point '\n' || p == point '\r'

def isDigit (p : CodePoint) : Bool := decide (48 ≤ p.val) && decide (p.val ≤ 57)

def skipSpace (input : List CodePoint) : List CodePoint := input.dropWhile isSpace

/-- The value of a hexadecimal digit. -/
def hexValue (p : CodePoint) : Option Nat :=
  if isDigit p then some (p.val - 48)
  else if 65 ≤ p.val ∧ p.val ≤ 70 then some (p.val - 55)
  else if 97 ≤ p.val ∧ p.val ≤ 102 then some (p.val - 87)
  else none

/-! ## Strings -/

/-- Four hexadecimal digits. -/
def hex4 : List CodePoint → Option (Nat × List CodePoint)
  | a :: b :: c :: d :: rest => do
    let a ← hexValue a
    let b ← hexValue b
    let c ← hexValue c
    let d ← hexValue d
    return (((a * 16 + b) * 16 + c) * 16 + d, rest)
  | _ => none

def isHighSurrogate (n : Nat) : Bool := decide (0xD800 ≤ n) && decide (n ≤ 0xDBFF)

def isLowSurrogate (n : Nat) : Bool := decide (0xDC00 ≤ n) && decide (n ≤ 0xDFFF)

/-- After `\u`: one code point, from a surrogate pair if two escapes make one. -/
def unicodeEscape (input : List CodePoint) : Option (CodePoint × List CodePoint) := do
  let (high, rest) ← hex4 input
  let single : CodePoint × List CodePoint := (Fin.ofNat _ high, rest)
  if isHighSurrogate high then
    match rest with
    | b :: u :: tail =>
      if b = point '\\' ∧ u = point 'u' then do
        let (low, rest) ← hex4 tail
        if isLowSurrogate low then
          return (Fin.ofNat _ (0x10000 + (high - 0xD800) * 0x400 + (low - 0xDC00)), rest)
        else return single
      else return single
    | _ => return single
  else return single

/-- The escapes of one character. -/
def simpleEscapes : List (Char × Char) :=
  [('"', '"'), ('\\', '\\'), ('/', '/'), ('b', '\x08'), ('f', '\x0c'), ('n', '\n'), ('r', '\r'),
    ('t', '\t')]

/-- After the backslash. -/
def escape : List CodePoint → Option (CodePoint × List CodePoint)
  | [] => none
  | p :: rest =>
    if p = point 'u' then unicodeEscape rest
    else (simpleEscapes.find? fun e => point e.1 == p).map fun e => (point e.2, rest)

/-- After the opening quote: the text, and what follows the closing quote. -/
def scanString : Nat → List CodePoint → Option (List CodePoint × List CodePoint)
  | fuel + 1, p :: rest =>
    if p = point '"' then some ([], rest)
    else if p.val < 32 then none
    else do
      let (c, rest) ← if p = point '\\' then escape rest else some (p, rest)
      let (text, rest) ← scanString fuel rest
      return (c :: text, rest)
  | _, _ => none

/-! ## Numbers -/

/-- `sys.get_int_max_str_digits()`. -/
def maxIntDigits : Nat := 4300

/-- The number that decimal digits spell. -/
def numberOf (digits : List CodePoint) : Nat := digits.foldl (fun n p => 10 * n + (p.val - 48)) 0

/-- The digits before the point, without a superfluous zero. -/
def scanWhole : List CodePoint → Option (List CodePoint × List CodePoint)
  | p :: rest =>
    if p = point '0' then some ([p], rest)
    else if isDigit p then some ((p :: rest).span isDigit)
    else none
  | [] => none

/-- A point with at least one digit, or nothing. -/
def scanFraction : List CodePoint → List CodePoint × List CodePoint
  | p :: d :: rest =>
    if p = point '.' && isDigit d then
      let (digits, rest) := (d :: rest).span isDigit
      (p :: digits, rest)
    else ([], p :: d :: rest)
  | input => ([], input)

/-- An exponent with at least one digit, or nothing. -/
def scanExponent (input : List CodePoint) : List CodePoint × List CodePoint :=
  match input with
  | p :: rest =>
    if p == point 'e' || p == point 'E' then
      let (sign, tail) := match rest with
        | q :: tail => if q == point '+' || q == point '-' then ([q], tail) else ([], rest)
        | [] => ([], [])
      match tail.span isDigit with
      | ([], _) => ([], input)
      | (digits, tail) => (p :: sign ++ digits, tail)
    else ([], input)
  | [] => ([], [])

/-- A number after its sign. -/
def scanNumber (json : JsonRuntime) (negative : Bool) (input : List CodePoint) :
    Except LoadError (Loaded × List CodePoint) :=
  match scanWhole input with
  | none => .error .decode
  | some (whole, rest) =>
    let (fraction, rest) := scanFraction rest
    let (exponent, rest) := scanExponent rest
    if fraction.isEmpty && exponent.isEmpty then
      if maxIntDigits < whole.length then .error .digits
      else .ok (.int (if negative then -(numberOf whole : Int) else numberOf whole), rest)
    else
      let sign := if negative then [point '-'] else []
      .ok (.float (json.floatOf (sign ++ whole ++ fraction ++ exponent)), rest)

/-! ## Values -/

/-- A word that stands for a value. -/
def constants : List (String × Loaded) :=
  [("null", .null), ("true", .bool true), ("false", .bool false), ("NaN", .float .nan),
    ("Infinity", .float (.infinite false)), ("-Infinity", .float (.infinite true))]

def scanConstant (input : List CodePoint) : Option (Loaded × List CodePoint) :=
  (constants.find? fun c => (points c.1.toList).isPrefixOf input).map fun c =>
    (c.2, input.drop c.1.length)

/-- The elements of a list, up to the bracket; every one takes a character at least. -/
def scanElements (value : List CodePoint → Except LoadError (Loaded × List CodePoint)) :
    Nat → List CodePoint → Except LoadError (List Loaded × List CodePoint)
  | 0, _ => .error .decode
  | fuel + 1, input => do
    let (v, rest) ← value input
    match skipSpace rest with
    | [] => .error .decode
    | p :: rest =>
      if p = point ']' then .ok ([v], rest)
      else if p = point ',' then do
        let (vs, rest) ← scanElements value fuel (skipSpace rest)
        .ok (v :: vs, rest)
      else .error .decode

/-- A key and its colon. -/
def scanKey : List CodePoint → Except LoadError (PyStr × List CodePoint)
  | [] => .error .decode
  | q :: rest =>
    if q = point '"' then
      match scanString rest.length rest with
      | none => .error .decode
      | some (key, rest) =>
        match skipSpace rest with
        | [] => .error .decode
        | p :: rest => if p = point ':' then .ok (⟨key⟩, skipSpace rest) else .error .decode
    else .error .decode

/-- The members of a dict, up to the brace. -/
def scanMembers (value : List CodePoint → Except LoadError (Loaded × List CodePoint)) :
    Nat → List CodePoint → Except LoadError (List (PyStr × Loaded) × List CodePoint)
  | 0, _ => .error .decode
  | fuel + 1, input => do
    let (key, rest) ← scanKey input
    let (v, rest) ← value rest
    match skipSpace rest with
    | [] => .error .decode
    | p :: rest =>
      if p = point '\x7d' then .ok ([(key, v)], rest)
      else if p = point ',' then do
        let (fields, rest) ← scanMembers value fuel (skipSpace rest)
        .ok ((key, v) :: fields, rest)
      else .error .decode

/-- `scan_once`; `depth` more lists or dicts may be entered. -/
def scanValue (json : JsonRuntime) : Nat → List CodePoint →
    Except LoadError (Loaded × List CodePoint)
  | _, [] => .error .decode
  | depth, p :: rest =>
    if p = point '"' then
      match scanString rest.length rest with
      | none => .error .decode
      | some (s, rest) => .ok (.str ⟨s⟩, rest)
    else if p = point '[' then
      match depth with
      | 0 => .error .recursion
      | depth + 1 =>
        match skipSpace rest with
        | [] => .error .decode
        | q :: tail =>
          if q = point ']' then .ok (.arr [], tail)
          else do
            let (elems, rest) ← scanElements (scanValue json depth) rest.length (q :: tail)
            .ok (.arr elems, rest)
    else if p = point '\x7b' then
      match depth with
      | 0 => .error .recursion
      | depth + 1 =>
        match skipSpace rest with
        | [] => .error .decode
        | q :: tail =>
          if q = point '\x7d' then .ok (.obj [], tail)
          else do
            let (fields, rest) ← scanMembers (scanValue json depth) rest.length (q :: tail)
            .ok (.obj fields, rest)
    else
      match scanConstant (p :: rest) with
      | some result => .ok result
      | none =>
        if p = point '-' then scanNumber json true rest else scanNumber json false (p :: rest)

/-- `json.loads(text)`. -/
def loadsText (json : JsonRuntime) (text : List CodePoint) : Except LoadError Loaded :=
  if text.head? = some 0xFEFF then .error .decode
  else match scanValue json json.recursionLimit (skipSpace text) with
    | .error e => .error e
    | .ok (v, rest) => if (skipSpace rest).isEmpty then .ok v else .error .decode

/-! ## Bytes -/

/-- `detect_encoding` finds no other encoding than UTF-8. -/
def isUtf8 (b : Bytes) : Bool :=
  let startsWith (bom : Bytes) : Bool := bom.isPrefixOf b
  if startsWith [0xFE, 0xFF] || startsWith [0xFF, 0xFE] || startsWith [0, 0, 0xFE, 0xFF] ||
    startsWith [0xEF, 0xBB, 0xBF] then false
  else match b with
    | [x, y] => x != 0 && y != 0
    | x :: y :: _ :: _ :: _ => x != 0 && y != 0
    | _ => true

/-- `s.decode(detect_encoding(s), "surrogatepass")`. -/
def decodeBytes (json : JsonRuntime) (b : Bytes) : Option (List CodePoint) :=
  if isUtf8 b then
    match String.fromUTF8? ⟨b.toArray⟩ with
    | some s => some (points s.toList)
    | none => json.decodeWide b
  else json.decodeWide b

/-- `json.loads(content)`. -/
def loads (json : JsonRuntime) (content : Bytes) : Except LoadError Loaded :=
  match decodeBytes json content with
  | none => .error .decode
  | some text => loadsText json text

end Json

end PaperGrading
