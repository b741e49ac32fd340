import ComponentHost.Text.Digit

/-! The words of TOML: blanks, comments, line ends, strings and keys. A reader takes the rest of
a text and gives what it read and what is left, or nothing if the text is not well formed. -/

namespace ComponentHost.Toml

abbrev Reader (α : Type) := List Char → Option (α × List Char)

def isBlank (c : Char) : Bool := c = ' ' || c = '\t'

def skipBlanks (t : List Char) : List Char := t.dropWhile isBlank

def isPrintable (c : Char) : Bool := c = '\t' || (0x20 ≤ c.toNat && c.toNat ≠ 0x7f)

def newline? : List Char → Option (List Char)
  | '\n' :: t => some t
  | '\r' :: '\n' :: t => some t
  | _ => none

def skipComment : List Char → List Char
  | '#' :: t => t.dropWhile isPrintable
  | t => t

def skipFiller : Nat → List Char → Option (List Char)
  | 0, _ => none
  | fuel + 1, t =>
    match skipBlanks t with
    | '#' :: t =>
      match newline? (t.dropWhile isPrintable) with
      | some t => skipFiller fuel t
      | none => none
    | t =>
      match newline? t with
      | some t => skipFiller fuel t
      | none => some t

def readLineEnd : Reader Unit := fun t =>
  match skipComment (skipBlanks t) with
  | [] => some ((), [])
  | t => (newline? t).map fun t => ((), t)

def readCodePoint (count : Nat) : Reader Char := fun t => do
  let digits := t.take count
  if digits.length = count ∧ digits.all Text.isHexDigit then
    some (← Text.scalar? (Text.number 16 digits), t.drop count)
  else none

def readEscape : Reader Char
  | 'b' :: t => some ('\x08', t)
  | 't' :: t => some ('\t', t)
  | 'n' :: t => some ('\n', t)
  | 'f' :: t => some ('\x0c', t)
  | 'r' :: t => some ('\r', t)
  | '"' :: t => some ('"', t)
  | '\\' :: t => some ('\\', t)
  | 'u' :: t => readCodePoint 4 t
  | 'U' :: t => readCodePoint 8 t
  | _ => none

def readBasic : Nat → Reader (List Char)
  | 0, _ | _, [] => none
  | fuel + 1, c :: t =>
    if c = '"' then some ([], t)
    else if c = '\\' then do
      let (d, t) ← readEscape t
      let (ds, t) ← readBasic fuel t
      some (d :: ds, t)
    else if isPrintable c then do
      let (ds, t) ← readBasic fuel t
      some (c :: ds, t)
    else none

def readLiteral : Reader (List Char) := fun t =>
  let keep (c : Char) : Bool := isPrintable c && c ≠ '\''
  match t.dropWhile keep with
  | '\'' :: rest => some (t.takeWhile keep, rest)
  | _ => none

/-- The text after a backslash at a line's end: on to the next character that is not blank. -/
def joinLines? (t : List Char) : Option (List Char) :=
  (newline? (skipBlanks t)).map fun t => skipLines t.length t
where
  skipLines : Nat → List Char → List Char
    | 0, t => skipBlanks t
    | fuel + 1, t =>
      match newline? (skipBlanks t) with
      | some t => skipLines fuel t
      | none => skipBlanks t

/-- A string of several lines between triple quotes. One or two quotes belong to it, also right
before the closing ones; every line end counts as one line feed. -/
def readLines (quote : Char) (escapes : Bool) : Nat → Reader (List Char)
  | 0, _ | _, [] => none
  | fuel + 1, c :: t =>
    if c = quote then
      let run := (c :: t).takeWhile (· = quote)
      if run.length < 3 then do
        let (ds, t) ← readLines quote escapes fuel ((c :: t).drop run.length)
        some (run ++ ds, t)
      else
        let closing := min run.length 5
        some (run.take (closing - 3), (c :: t).drop closing)
    else if c = '\\' ∧ escapes then
      match joinLines? t with
      | some t => readLines quote escapes fuel t
      | none => do
        let (d, t) ← readEscape t
        let (ds, t) ← readLines quote escapes fuel t
        some (d :: ds, t)
    else
      match newline? (c :: t) with
      | some t => do
        let (ds, t) ← readLines quote escapes fuel t
        some ('\n' :: ds, t)
      | none =>
        if isPrintable c then do
          let (ds, t) ← readLines quote escapes fuel t
          some (c :: ds, t)
        else none

def dropFirstNewline (t : List Char) : List Char := (newline? t).getD t

def readString : Reader String := fun t => do
  let (cs, t) ←
    match t with
    | '"' :: '"' :: '"' :: t => readLines '"' true (t.length + 1) (dropFirstNewline t)
    | '\'' :: '\'' :: '\'' :: t => readLines '\'' false (t.length + 1) (dropFirstNewline t)
    | '"' :: t => readBasic (t.length + 1) t
    | '\'' :: t => readLiteral t
    | _ => none
  some (String.ofList cs, t)

def isBare (c : Char) : Bool := c.isAlphanum || c = '_' || c = '-'

def readSimpleKey : Reader String := fun t =>
  match t with
  | '"' :: t => do let (cs, t) ← readBasic (t.length + 1) t; some (String.ofList cs, t)
  | '\'' :: t => do let (cs, t) ← readLiteral t; some (String.ofList cs, t)
  | t =>
    let word := t.takeWhile isBare
    if word.isEmpty then none else some (String.ofList word, t.dropWhile isBare)

def maxKeyParts : Nat := 79

def readKey : Nat → Reader (List String)
  | 0, _ => none
  | fuel + 1, t => do
    let (key, t) ← readSimpleKey (skipBlanks t)
    match skipBlanks t with
    | '.' :: t => do
      let (keys, t) ← readKey fuel t
      some (key :: keys, t)
    | t => some ([key], t)

end ComponentHost.Toml
