import ComponentHost.Decimal.Shortest
import ComponentHost.Text.Digit

/-! The words of JSON text: blanks, strings and numbers. A reader takes the rest of a text and
gives a value and what is left; it fails at the first fault, which is either in the text itself,
or that the text ends too early, or that a value is not what its place calls for. -/

namespace ComponentHost.Json

open Text (hexValue? digitValue)

inductive Fault
  | malformed
  | truncated
  | mismatch (text : String)
deriving DecidableEq

abbrev Reader (α : Type) := List Char → Except Fault (α × List Char)

def isBlank (c : Char) : Bool := c = ' ' || c = '\n' || c = '\t' || c = '\r'

def skipBlanks (t : List Char) : List Char := t.dropWhile isBlank

def readWord : List Char → Reader Unit
  | [], t => .ok ((), t)
  | _ :: _, [] => .error .truncated
  | w :: ws, c :: t => if w = c then readWord ws t else .error .malformed

-- An empty sum is Lean's own zero, whatever else is imported.
attribute [local instance (2000)] Zero.ofOfNat0 in
def readUnit : Reader Nat
  | a :: b :: c :: d :: t =>
    match hexValue? a, hexValue? b, hexValue? c, hexValue? d with
    | some a, some b, some c, some d => .ok (a * 4096 + b * 256 + c * 16 + d, t)
    | _, _, _, _ => .error .malformed
  | t => .error (if (t.map Char.utf8Size).sum < 4 then .truncated else .malformed)

def isLeading (unit : Nat) : Bool := 0xD800 ≤ unit && unit < 0xDC00

def isTrailing (unit : Nat) : Bool := 0xDC00 ≤ unit && unit < 0xE000

def readEscapedUnit : Reader Char := fun t => do
  let (unit, t) ← readUnit t
  if isTrailing unit then .error .malformed
  else if isLeading unit then
    match t with
    | '\\' :: 'u' :: t =>
      let (second, t) ← readUnit t
      if isTrailing second then
        .ok (Char.ofNat (0x10000 + (unit - 0xD800) * 0x400 + (second - 0xDC00)), t)
      else .error .malformed
    | [] | ['\\'] => .error .truncated
    | _ => .error .malformed
  else .ok (Char.ofNat unit, t)

def escaped? (c : Char) : Option Char :=
  match c with
  | '"' => some '"'
  | '\\' => some '\\'
  | '/' => some '/'
  | 'b' => some '\x08'
  | 'f' => some '\x0c'
  | 'n' => some '\n'
  | 'r' => some '\r'
  | 't' => some '\t'
  | _ => none

def readEscape : Reader Char
  | [] => .error .truncated
  | c :: t =>
    if c = 'u' then readEscapedUnit t
    else
      match escaped? c with
      | some d => .ok (d, t)
      | none => .error .malformed

def skipEscape : Reader Char
  | [] => .error .truncated
  | c :: t =>
    if c = 'u' then do
      let (_, t) ← readUnit t
      .ok (c, t)
    else
      match escaped? c with
      | some d => .ok (d, t)
      | none => .error .malformed

def readChars (escape : Reader Char) : Nat → Reader (List Char)
  | 0, _ => .error .truncated
  | _ + 1, [] => .error .truncated
  | fuel + 1, c :: t =>
    if c = '"' then .ok ([], t)
    else if c = '\\' then do
      let (d, t) ← escape t
      let (ds, t) ← readChars escape fuel t
      .ok (d :: ds, t)
    else if c.toNat < 0x20 then .error .malformed
    else do
      let (ds, t) ← readChars escape fuel t
      .ok (c :: ds, t)

def readString : Reader String := fun t => do
  let (cs, t) ← readChars readEscape (t.length + 1) t
  .ok (String.ofList cs, t)

def skipString : Reader Unit := fun t => do
  let (_, t) ← readChars skipEscape (t.length + 1) t
  .ok ((), t)

inductive Number
  | unsigned (n : Nat)
  | negative (n : Nat)
  | float (x : Binary64)
deriving DecidableEq

/-- From the sixteenth power of ten on, and below the fifth negative one, with an exponent. -/
def floatLayout : Decimal.Layout := ⟨.even, -5, 16⟩

def maxUnsigned : Nat := 2 ^ 64 - 1

def gather : (n taken : Nat) → List Char → Nat × Nat
  | n, taken, [] => (n, taken)
  | n, taken, c :: cs =>
    if maxUnsigned < n * 10 + digitValue c then (n, taken)
    else gather (n * 10 + digitValue c) (taken + 1) cs

def powerOfTen (n : Nat) : Float := Float.ofScientific 1 false n

/-- A significand times a power of ten, by double arithmetic; nothing if it is too great. -/
def scaleFloat : Nat → Float → Int → Option Float
  | 0, f, _ => some f
  | fuel + 1, f, exponent =>
    if exponent.natAbs ≤ 308 then
      if 0 ≤ exponent then
        let g := f * powerOfTen exponent.natAbs
        if g.isInf then none else some g
      else some (f / powerOfTen exponent.natAbs)
    else if f == 0 then some f
    else if 0 ≤ exponent then none
    else scaleFloat fuel (f / powerOfTen 308) (exponent + 308)

def makeFloat (negative : Bool) (significand : Nat) (exponent : Int) : Except Fault Number :=
  match scaleFloat 10 (UInt64.ofNat significand).toFloat exponent with
  | none => .error .malformed
  | some f => .ok (.float (.ofFloat (if negative then -f else f)))

def isExponentMark (c : Char) : Bool := c = 'e' || c = 'E'

def readExponent (negative : Bool) (significand : Nat) (exponent : Int) : Reader Number := fun t =>
  let (minus, t) :=
    match t with
    | '+' :: t => (false, t)
    | '-' :: t => (true, t)
    | t => (false, t)
  let digits := t.takeWhile Char.isDigit
  let rest := t.dropWhile Char.isDigit
  if digits.isEmpty then .error (if t.isEmpty then .truncated else .malformed)
  else
    let e := digits.foldl (fun n c => n * 10 + digitValue c) 0
    if 2 ^ 31 ≤ e then
      if significand ≠ 0 ∧ !minus then .error .malformed
      else .ok (.float (.ofFloat (if negative then -0.0 else 0.0)), rest)
    else do
      let n ← makeFloat negative significand (if minus then exponent - e else exponent + e)
      .ok (n, rest)

def finishFloat (negative : Bool) (significand : Nat) (exponent : Int) : Reader Number
  | c :: t =>
    if isExponentMark c then readExponent negative significand exponent t
    else do .ok (← makeFloat negative significand exponent, c :: t)
  | [] => do .ok (← makeFloat negative significand exponent, [])

def readDecimals (negative : Bool) (significand : Nat) (exponent : Int) : Reader Number := fun t =>
  let digits := t.takeWhile Char.isDigit
  let rest := t.dropWhile Char.isDigit
  let (n, taken) := gather significand 0 digits
  if digits.isEmpty then .error (if t.isEmpty then .truncated else .malformed)
  else finishFloat negative n (exponent - taken) rest

def integer (negative : Bool) (n : Nat) : Number :=
  if negative then
    if n = 0 ∨ 2 ^ 63 < n then .float (.ofFloat (-(UInt64.ofNat n).toFloat)) else .negative n
  else .unsigned n

/-- A number whose sign was read. A whole number that 64 bits cannot hold is a float. -/
def readNumber (negative : Bool) : Reader Number := fun t =>
  match t with
  | [] => .error .truncated
  | first :: rest =>
    if !first.isDigit then .error .malformed
    else if first = '0' ∧ (rest.head?.any Char.isDigit) then .error .malformed
    else
      let digits := t.takeWhile Char.isDigit
      let rest := t.dropWhile Char.isDigit
      let (n, taken) := gather 0 0 digits
      let dropped := digits.length - taken
      match rest with
      | '.' :: rest => readDecimals negative n dropped rest
      | rest =>
        if dropped ≠ 0 ∨ rest.head?.any isExponentMark then finishFloat negative n dropped rest
        else .ok (integer negative n, rest)

def skipNumber : Reader Unit := fun t =>
  match t with
  | [] => .error .malformed
  | first :: rest =>
    if !first.isDigit then .error .malformed
    else if first = '0' ∧ rest.head?.any Char.isDigit then .error .malformed
    else
      match skipFraction (t.dropWhile Char.isDigit) with
      | none => .error .malformed
      | some t =>
        match skipExponent t with
        | none => .error .malformed
        | some t => .ok ((), t)
where
  skipFraction : List Char → Option (List Char)
    | '.' :: t => if t.head?.any Char.isDigit then some (t.dropWhile Char.isDigit) else none
    | t => some t
  skipExponent : List Char → Option (List Char)
    | c :: t =>
      if isExponentMark c then
        let t := if t.head?.any fun c => c = '+' || c = '-' then t.drop 1 else t
        if t.head?.any Char.isDigit then some (t.dropWhile Char.isDigit) else none
      else some (c :: t)
    | [] => some []

def skipValue : Nat → Reader Unit
  | 0, _ => .error .malformed
  | fuel + 1, t =>
    match skipBlanks t with
    | [] => .error .truncated
    | c :: t =>
      if c = 'n' then readWord "ull".toList t
      else if c = 't' then readWord "rue".toList t
      else if c = 'f' then readWord "alse".toList t
      else if c = '"' then skipString t
      else if c = '-' then skipNumber t
      else if c.isDigit then skipNumber (c :: t)
      else if c = '[' then skipItems fuel true t
      else if c = '\x7b' then skipMembers fuel true t
      else .error .malformed
where
  skipItems : Nat → Bool → Reader Unit
    | 0, _, _ => .error .malformed
    | fuel + 1, first, t =>
      match skipBlanks t with
      | [] => .error .truncated
      | c :: t =>
        if c = ']' ∧ first then .ok ((), t)
        else do
          let (_, t) ← skipValue fuel (if first then c :: t else t)
          match skipBlanks t with
          | [] => .error .truncated
          | c :: t =>
            if c = ']' then .ok ((), t)
            else if c = ',' then skipItems fuel false (c :: t)
            else .error .malformed
  skipMembers : Nat → Bool → Reader Unit
    | 0, _, _ => .error .malformed
    | fuel + 1, first, t =>
      match skipBlanks t with
      | [] => .error .truncated
      | c :: t =>
        if c = '\x7d' ∧ first then .ok ((), t)
        else
          match skipBlanks (if first then c :: t else t) with
          | '"' :: t => do
            let (_, t) ← skipString t
            match skipBlanks t with
            | ':' :: t =>
              let (_, t) ← skipValue fuel t
              match skipBlanks t with
              | [] => .error .truncated
              | c :: t =>
                if c = '\x7d' then .ok ((), t)
                else if c = ',' then skipMembers fuel false (c :: t)
                else .error .malformed
            | [] => .error .truncated
            | _ => .error .malformed
          | [] => .error .truncated
          | _ => .error .malformed

end ComponentHost.Json
