import ComponentHost.Component
import ComponentHost.Json.Decode
import ComponentHost.Json.Encode

/-! A component's status as JSON: a bare word, or for an error a record whose one member holds
its text. -/

namespace ComponentHost.Status

def words : List String := ["Registered", "Running", "Stopped", "Error"]

def word : Status → String
  | registered => "Registered"
  | running => "Running"
  | stopped => "Stopped"
  | error _ => "Error"

def encode : Status → String
  | error text => String.ofList
      ('\x7b' :: Json.writeString "Error" ++ ':' :: Json.writeString text ++ ['\x7d'])
  | s => String.ofList (Json.writeString s.word)

def plain? (word : String) : Option Status := [registered, running, stopped].find? (·.word = word)

def unknownWord (word : String) : String :=
  "unknown variant `" ++ word ++ "`, expected one of " ++
    String.intercalate ", " (words.map fun w => "`" ++ w ++ "`")

def readNothing : Json.Reader Unit := fun t =>
  match Json.skipBlanks t with
  | 'n' :: t => Json.readWord "ull".toList t
  | t => Json.wrongType "unit" t

def readMember (word : String) : Json.Reader Status := fun t => do
  if word = "Error" then
    let (_, t) ← Json.readColon t
    let (text, t) ← Json.readText (Schema.expectation .text) t
    .ok (error text, t)
  else
    match plain? word with
    | some s =>
      let (_, t) ← Json.readColon t
      let (_, t) ← readNothing t
      .ok (s, t)
    | none => .error (.mismatch (unknownWord word))

def ofWord (word : String) : Except Json.Fault Status :=
  if word = "Error" then
    .error (.mismatch (Mismatch.wrongType "unit variant" "newtype variant"))
  else
    match plain? word with
    | some s => .ok s
    | none => .error (.mismatch (unknownWord word))

def read : Json.Reader Status := fun t =>
  match Json.skipBlanks t with
  | [] => .error .truncated
  | c :: t =>
    if c = '"' then do
      let (word, t) ← Json.readString t
      .ok (← ofWord word, t)
    else if c = '\x7b' then do
      let (word, t) ← Json.readText "variant identifier" t
      let (s, t) ← readMember word t
      match Json.skipBlanks t with
      | [] => .error .truncated
      | c :: t => if c = '\x7d' then .ok (s, t) else .error .malformed
    else .error .malformed

def decode (text : String) : Except Json.Fault Status := Json.finish (read text.toList)

end ComponentHost.Status
