import ComponentHost.Config.Schema
import ComponentHost.Text.Quoted

/-! Values of a shape written as JSON text: without blanks, records with all their fields in
order. A string escapes the quote, the backslash and the controls below the space, and nothing
else. -/

namespace ComponentHost.Json

def unitDigits (n : Nat) : List Char := ['0', '0', Nat.digitChar (n / 16), Nat.digitChar (n % 16)]

def writeChar (c : Char) : List Char :=
  if c = '"' then ['\\', '"']
  else if c = '\\' then ['\\', '\\']
  else if c = '\x08' then ['\\', 'b']
  else if c = '\x0c' then ['\\', 'f']
  else if c = '\n' then ['\\', 'n']
  else if c = '\r' then ['\\', 'r']
  else if c = '\t' then ['\\', 't']
  else if c.toNat < 0x20 then ['\\', 'u'] ++ unitDigits c.toNat
  else [c]

def writeString (s : String) : List Char := '"' :: s.toList.flatMap writeChar ++ ['"']

def writeNatural (n : Nat) : List Char := Nat.toDigits 10 n

def writeBoolean (b : Bool) : List Char := (if b then "true" else "false").toList

def writeOptionalText : Option String → List Char
  | none => "null".toList
  | some s => writeString s

def separate : List (List Char) → List Char
  | [] => []
  | [t] => t
  | t :: rest => t ++ ',' :: separate rest

mutual

def writeSchema : (s : Schema) → s.Carrier → List Char
  | .boolean, b => writeBoolean b
  | .unsigned _ _, n => writeNatural n.toNat
  | .text, s => writeString s
  | .optionalText, s => writeOptionalText s
  | .list element, vs => '[' :: separate (vs.map (writeSchema element)) ++ [']']
  | .record _ fields, vs => '\x7b' :: separate (writeFields fields vs) ++ ['\x7d']

def writeFields : (f : Fields) → f.Carrier → List (List Char)
  | .nil, _ => []
  | .cons key schema _ rest, (v, vs) =>
    (writeString key ++ ':' :: writeSchema schema v) :: writeFields rest vs

end

def encode (s : Schema) (v : s.Carrier) : String := String.ofList (writeSchema s v)

end ComponentHost.Json
