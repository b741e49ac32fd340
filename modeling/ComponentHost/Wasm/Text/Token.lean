import ComponentHost.Text.Digit
import ComponentHost.Value

/-! The tokens of the text format. Comments run to the end of a line or stand between marks that
nest. A list whose first word begins with an at sign is an annotation. -/

namespace ComponentHost.Wasm

inductive Token
  | open
  | remark (name : String)
  | close
  | word (w : String)
  | text (bytes : Bytes)
  | other
deriving DecidableEq

namespace Token

def isBlank (c : Char) : Bool := c = ' ' || c = '\n' || c = '\t' || c = '\r'

def isWordChar (c : Char) : Bool :=
  c.isAlphanum || "!#$%&'*+-./:<=>?@\\^_`|~".toList.contains c

def isLoose (c : Char) : Bool := ",;[]\x7b\x7d".toList.contains c

/-- Marks of direction that are kept out of comments and strings, since they can disguise code. -/
def disguises : List Nat :=
  [0x202a, 0x202b, 0x202d, 0x202e, 0x2066, 0x2067, 0x2068, 0x2069, 0x206c]

def isDisguise (c : Char) : Bool := disguises.contains c.toNat

def skipNested : (depth : Nat) → List Char → Option (List Char)
  | depth, ';' :: ')' :: t =>
    match depth with
    | 0 => some t
    | depth + 1 => skipNested depth t
  | depth, '(' :: ';' :: t => skipNested (depth + 1) t
  | depth, c :: t => if isDisguise c then none else skipNested depth t
  | _, [] => none

def skipLine : List Char → Option (List Char)
  | [] => some []
  | c :: t =>
    if c = '\n' ∨ c = '\r' then some t
    else if isDisguise c then none
    else skipLine t

def bytesOf (c : Char) : Bytes := (String.singleton c).toUTF8.toList

def readCodePoint (t : List Char) : Option (Bytes × List Char) :=
  let digits := t.takeWhile fun c => Text.isHexDigit c || c = '_'
  match t.dropWhile fun c => Text.isHexDigit c || c = '_' with
  | '\x7d' :: rest =>
    if digits.isEmpty ∨ digits.head? = some '_' ∨ digits.getLast? = some '_' then none
    else
      (Text.scalar? (Text.number 16 (digits.filter (· ≠ '_')))).map fun c => (bytesOf c, rest)
  | _ => none

def readEscape : List Char → Option (Bytes × List Char)
  | 't' :: t => some ([9], t)
  | 'n' :: t => some ([10], t)
  | 'r' :: t => some ([13], t)
  | '"' :: t => some ([34], t)
  | '\'' :: t => some ([39], t)
  | '\\' :: t => some ([92], t)
  | 'u' :: '\x7b' :: t => readCodePoint t
  | a :: b :: t =>
    match Text.hexValue? a, Text.hexValue? b with
    | some a, some b => some ([UInt8.ofNat (a * 16 + b)], t)
    | _, _ => none
  | _ => none

def readText : Nat → List Char → (before : Bytes) → Option (Bytes × List Char)
  | 0, _, _ | _, [], _ => none
  | fuel + 1, c :: t, before =>
    if c = '"' then some (before.reverse, t)
    else if c = '\\' then
      match readEscape t with
      | some (bytes, t) => readText fuel t (bytes.reverse ++ before)
      | none => none
    else if c.toNat < 0x20 ∨ c.toNat = 0x7f ∨ isDisguise c then none
    else readText fuel t ((bytesOf c).reverse ++ before)

/-- Words and strings with nothing between them make one token. -/
inductive Piece
  | chars (cs : List Char)
  | text (bytes : Bytes)
deriving DecidableEq

def readPieces : Nat → List Char → Option (List Piece × List Char)
  | 0, _ => none
  | _ + 1, [] => some ([], [])
  | fuel + 1, c :: t =>
    if c = '"' then do
      let (bytes, t) ← readText fuel t []
      let (more, t) ← readPieces fuel t
      some (.text bytes :: more, t)
    else if isWordChar c then do
      let (more, rest) ← readPieces fuel (t.dropWhile isWordChar)
      some (.chars (c :: t.takeWhile isWordChar) :: more, rest)
    else some ([], c :: t)

def utf8? (bytes : Bytes) : Option String := String.fromUTF8? (ByteArray.mk bytes.toArray)

def spelling? (pieces : List Piece) : Option String := do
  let parts ← pieces.mapM fun
    | .chars cs => some (String.ofList cs)
    | .text bytes => utf8? bytes
  some (String.join parts)

def ofPieces (pieces : List Piece) : Token :=
  match pieces with
  | [.chars cs] => .word (String.ofList cs)
  | [.text bytes] => .text bytes
  | [.chars ['$'], .text (_ :: _)] =>
    match spelling? pieces with
    | some w => .word w
    | none => .other
  | _ => .other

def scan : Nat → List Char → (before : List Token) → Option (List Token)
  | 0, _, _ => none
  | _ + 1, [], before => some before.reverse
  | fuel + 1, c :: t, before =>
    if isBlank c then scan fuel t before
    else if c = ')' then scan fuel t (.close :: before)
    else if c = '(' then
      match t with
      | ';' :: t => do scan fuel (← skipNested 0 t) before
      | '@' :: t => do
        let (pieces, t) ← readPieces fuel ('@' :: t)
        scan fuel t (.remark (((spelling? pieces).getD "").drop 1).copy :: before)
      | t => scan fuel t (.open :: before)
    else if isLoose c then
      match c, t with
      | ';', ';' :: t => do scan fuel (← skipLine t) before
      | _, t => scan fuel t (.other :: before)
    else
      match readPieces fuel (c :: t) with
      | none | some ([], _) => none
      | some (pieces, t) => scan fuel t (ofPieces pieces :: before)

def ofText? (text : String) : Option (List Token) :=
  let cs := text.toList
  scan (cs.length + 2) cs []

example : ofText? "(a \"b\" (@c ,))" =
    some [.open, .word "a", .text [98], .remark "c", .other, .close, .close] := by
  decide +kernel

end Token

end ComponentHost.Wasm
