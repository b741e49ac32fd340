import ComponentHost.Toml.Lexical
import ComponentHost.Toml.Value

/-! Numbers, dates and times in TOML. Integers have 64 bits; digits may be parted by single
underscores; a date has to be one of the calendar. -/

namespace ComponentHost.Toml

def readDigits (isDigit : Char → Bool) : Nat → Reader (List Char)
  | 0, _ | _, [] => none
  | fuel + 1, c :: t =>
    if !isDigit c then none
    else
      match t with
      | '_' :: t => do
        let (ds, t) ← readDigits isDigit fuel t
        some (c :: ds, t)
      | d :: t =>
        if isDigit d then do
          let (ds, t) ← readDigits isDigit fuel (d :: t)
          some (c :: ds, t)
        else some ([c], d :: t)
      | [] => some ([c], [])

def readDecimalDigits : Reader (List Char) := fun t => readDigits Char.isDigit (t.length + 1) t

def fitInteger (n : Int) : Option Value :=
  if -2 ^ 63 ≤ n ∧ n < 2 ^ 63 then some (.integer n) else none

def readRadix (base : Nat) (isDigit : Char → Bool) : Reader Value := fun t => do
  let (digits, t) ← readDigits isDigit (t.length + 1) t
  some (← fitInteger (Text.number base digits), t)

def decimalFloat (digits : List Char) (exponent : Int) : Float :=
  let n := Text.number 10 digits
  if n = 0 ∨ digits.length + exponent < -400 then 0.0
  else if 400 < exponent then 1.0 / 0.0
  else Float.ofScientific n (exponent < 0) exponent.natAbs

def makeFloat (negative : Bool) (f : Float) : Option Value :=
  if negative then some (.float (.ofFloat (-f)))
  else if f.isInf then none
  else some (.float (.ofFloat f))

def readExponent : Reader Int := fun t =>
  match t with
  | '-' :: t => do let (ds, t) ← readDecimalDigits t; some (-(Text.number 10 ds : Int), t)
  | '+' :: t => do let (ds, t) ← readDecimalDigits t; some ((Text.number 10 ds : Int), t)
  | t => do let (ds, t) ← readDecimalDigits t; some ((Text.number 10 ds : Int), t)

def isExponentMark (c : Char) : Bool := c = 'e' || c = 'E'

def finishFloat (negative : Bool) (digits : List Char) (places : Nat) : Reader Value := fun t =>
  match t with
  | c :: rest =>
    if isExponentMark c then do
      let (e, t) ← readExponent rest
      some (← makeFloat negative (decimalFloat digits (e - places)), t)
    else do some (← makeFloat negative (decimalFloat digits (-places)), c :: rest)
  | [] => do some (← makeFloat negative (decimalFloat digits (-places)), [])

def readDecimal (negative : Bool) : Reader Value := fun t => do
  let (whole, t) ← readDecimalDigits t
  if 1 < whole.length ∧ whole.head? = some '0' then none
  else
    match t with
    | '.' :: t =>
      let (part, t) ← readDecimalDigits t
      finishFloat negative (whole ++ part) part.length t
    | t =>
      if t.head?.any isExponentMark then finishFloat negative whole 0 t
      else
        let n : Int := Text.number 10 whole
        some (← fitInteger (if negative then -n else n), t)

def notANumber : Float := 0.0 / 0.0

def infinity : Float := 1.0 / 0.0

def readSigned (negative : Bool) : Reader Value := fun t =>
  match t with
  | 'i' :: 'n' :: 'f' :: t =>
    some (.float (.ofFloat (if negative then -infinity else infinity)), t)
  | 'n' :: 'a' :: 'n' :: t => some (.float (.ofFloat notANumber), t)
  | t => readDecimal negative t

def isOctal (c : Char) : Bool := '0' ≤ c && c ≤ '7'

def isBinary (c : Char) : Bool := c = '0' || c = '1'

def readNumber : Reader Value := fun t =>
  match t with
  | '0' :: 'x' :: t => readRadix 16 Text.isHexDigit t
  | '0' :: 'o' :: t => readRadix 8 isOctal t
  | '0' :: 'b' :: t => readRadix 2 isBinary t
  | '+' :: t => readSigned false t
  | '-' :: t => readSigned true t
  | t => readSigned false t

def readField (count low high : Nat) : Reader Nat := fun t =>
  let digits := t.take count
  let n := Text.number 10 digits
  if digits.length = count ∧ digits.all Char.isDigit ∧ low ≤ n ∧ n ≤ high then
    some (n, t.drop count)
  else none

def readMark (mark : Char) : Reader Unit
  | c :: t => if c = mark then some ((), t) else none
  | [] => none

def isLeap (year : Nat) : Bool := year % 4 = 0 && (year % 100 ≠ 0 || year % 400 = 0)

def daysIn (year month : Nat) : Nat :=
  if month = 2 then if isLeap year then 29 else 28
  else if month = 4 ∨ month = 6 ∨ month = 9 ∨ month = 11 then 30
  else 31

def readMonthDay (year : Nat) : Reader Unit := fun t => do
  let (month, t) ← readField 2 1 12 t
  let (_, t) ← readMark '-' t
  let (day, t) ← readField 2 1 31 t
  if day ≤ daysIn year month then some ((), t) else none

def readFraction : Reader Unit
  | '.' :: t => if t.head?.any Char.isDigit then some ((), t.dropWhile Char.isDigit) else none
  | t => some ((), t)

def readMinutes : Reader Unit := fun t => do
  let (_, t) ← readField 2 0 59 t
  let (_, t) ← readMark ':' t
  let (_, t) ← readField 2 0 60 t
  readFraction t

def readOffset : Reader Unit := fun t =>
  match t with
  | c :: rest =>
    if c = 'Z' ∨ c = 'z' then some ((), rest)
    else if c = '+' ∨ c = '-' then do
      let (_, t) ← readField 2 0 23 rest
      let (_, t) ← readMark ':' t
      let (_, t) ← readField 2 0 59 t
      some ((), t)
    else some ((), c :: rest)
  | [] => some ((), [])

def readTime? (t : List Char) : Option (Reader Unit × List Char) := do
  let (_, t) ← readField 2 0 23 t
  let (_, t) ← readMark ':' t
  some (readMinutes, t)

def isTimeMark (c : Char) : Bool := c = 'T' || c = 't' || c = ' '

def readTimeOfDate : Reader Unit := fun t =>
  match t with
  | c :: rest =>
    if isTimeMark c then
      match readTime? rest with
      | some (minutes, rest) => do
        let (_, t) ← minutes rest
        readOffset t
      | none => some ((), t)
    else some ((), t)
  | [] => some ((), t)

def readYear? (t : List Char) : Option (Nat × List Char) := do
  let (year, t) ← readField 4 0 9999 t
  let (_, t) ← readMark '-' t
  some (year, t)

def readNumeral : Reader Value := fun t =>
  match readYear? t with
  | some (year, t) => do
    let (_, t) ← readMonthDay year t
    let (_, t) ← readTimeOfDate t
    some (.moment, t)
  | none =>
    match readTime? t with
    | some (minutes, t) => do
      let (_, t) ← minutes t
      some (.moment, t)
    | none => readNumber t

end ComponentHost.Toml
