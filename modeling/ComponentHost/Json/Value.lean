import ComponentHost.Json.Encode
import ComponentHost.Json.Lexical

/-! JSON values as such, for texts whose shape is not known beforehand, and the way to write and
to read them. In a record of which a key is given twice, the later member counts. -/

namespace ComponentHost.Json

inductive Value
  | null
  | boolean (b : Bool)
  | number (n : Number)
  | text (s : String)
  | list (items : List Value)
  | record (members : List (String × Value))

namespace Number

def ofInt (n : Int) : Number := if 0 ≤ n then .unsigned n.toNat else .negative (-n).toNat

def write : Number → List Char
  | unsigned n => writeNatural n
  | negative n => '-' :: writeNatural n
  | float x => (Decimal.write floatLayout x).toList

end Number

namespace Value

mutual

def write : Value → List Char
  | null => "null".toList
  | boolean b => writeBoolean b
  | number n => n.write
  | text s => writeString s
  | list vs => '[' :: separate (writeItems vs) ++ [']']
  | record ms => '\x7b' :: separate (writeMembers ms) ++ ['\x7d']

def writeItems : List Value → List (List Char)
  | [] => []
  | v :: vs => v.write :: writeItems vs

def writeMembers : List (String × Value) → List (List Char)
  | [] => []
  | (key, v) :: ms => (writeString key ++ ':' :: v.write) :: writeMembers ms

end

def toText (v : Value) : String := String.ofList v.write

def natural (n : Nat) : Value := number (.unsigned n)

def integer (n : Int) : Value := number (.ofInt n)

def texts (l : List String) : Value := list (l.map text)

end Value

def maxDepth : Nat := 127

/-- Reads a value; the first number bounds how many lists and records lie within one another, the
second how long the text is. -/
def readValue (depth : Nat) : (fuel : Nat) → Reader Value
  | 0, _ => .error .malformed
  | fuel + 1, t =>
    match skipBlanks t with
    | [] => .error .truncated
    | c :: t =>
      if c = 'n' then do let (_, t) ← readWord "ull".toList t; .ok (.null, t)
      else if c = 't' then do let (_, t) ← readWord "rue".toList t; .ok (.boolean true, t)
      else if c = 'f' then do let (_, t) ← readWord "alse".toList t; .ok (.boolean false, t)
      else if c = '"' then do let (s, t) ← readString t; .ok (.text s, t)
      else if c = '-' then do let (n, t) ← readNumber true t; .ok (.number n, t)
      else if c.isDigit then do let (n, t) ← readNumber false (c :: t); .ok (.number n, t)
      else
        match depth with
        | 0 => .error .malformed
        | depth + 1 =>
          if c = '[' then do let (vs, t) ← readItems depth fuel true t; .ok (.list vs, t)
          else if c = '\x7b' then do
            let (ms, t) ← readEntries depth fuel true t
            .ok (.record ms, t)
          else .error .malformed
where
  readItems (depth : Nat) : (fuel : Nat) → Bool → Reader (List Value)
    | 0, _, _ => .error .malformed
    | fuel + 1, first, t =>
      match skipBlanks t with
      | [] => .error .truncated
      | c :: t =>
        if c = ']' then if first then .ok ([], t) else .error .malformed
        else do
          let (v, t) ← readValue depth fuel (c :: t)
          match skipBlanks t with
          | [] => .error .truncated
          | c :: t =>
            if c = ']' then .ok ([v], t)
            else if c = ',' then do
              let (vs, t) ← readItems depth fuel false t
              .ok (v :: vs, t)
            else .error .malformed
  readEntries (depth : Nat) : (fuel : Nat) → Bool → Reader (List (String × Value))
    | 0, _, _ => .error .malformed
    | fuel + 1, first, t =>
      match skipBlanks t with
      | [] => .error .truncated
      | c :: t =>
        if c = '\x7d' then if first then .ok ([], t) else .error .malformed
        else if c = '"' then do
          let (key, t) ← readString t
          match skipBlanks t with
          | [] => .error .truncated
          | c :: t =>
            if c = ':' then do
              let (v, t) ← readValue depth fuel t
              match skipBlanks t with
              | [] => .error .truncated
              | c :: t =>
                if c = '\x7d' then .ok ([(key, v)], t)
                else if c = ',' then do
                  let (rest, t) ← readEntries depth fuel false t
                  .ok ((key, v) :: rest, t)
                else .error .malformed
            else .error .malformed
        else .error .malformed

namespace Value

def ofText? (text : String) : Option Value :=
  let cs := text.toList
  match readValue maxDepth (2 * cs.length + 2) cs with
  | .ok (v, t) => if (skipBlanks t).isEmpty then some v else none
  | .error _ => none

def get (v : Value) (key : String) : Value :=
  match v with
  | record members => ((members.reverse.find? (·.1 = key)).map Prod.snd).getD null
  | _ => null

def natural? : Value → Option Nat
  | number (.unsigned n) => some n
  | _ => none

def text? : Value → Option String
  | text s => some s
  | _ => none

def isTrue : Value → Bool
  | boolean b => b
  | _ => false

def items : Value → List Value
  | list vs => vs
  | _ => []

def keys : Value → List String
  | record members => members.map Prod.fst
  | _ => []

end Value

end ComponentHost.Json
