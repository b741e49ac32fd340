import ComponentHost.Config.Schema
import ComponentHost.Json.Lexical
import ComponentHost.Text.Quoted

/-! JSON text read by shape. Text is read from left to right and the first fault is reported;
fields that are missing are found at the end of their record, in the order of the shape. A
record may also be written as an array of its fields. Members of other names are skipped. -/

namespace ComponentHost.Json

def Number.describe : Number → String
  | unsigned n => Mismatch.integer n
  | negative n => Mismatch.integer (-n)
  | float x => Mismatch.float (Decimal.write floatLayout x)

/-- Reads just enough of a value of the wrong type to name it. -/
def wrongType (expected : String) : Reader α := fun t =>
  match t with
  | [] => .error .truncated
  | c :: t =>
    if c = 'n' then do
      let _ ← readWord "ull".toList t
      mismatch "null"
    else if c = 't' then do
      let _ ← readWord "rue".toList t
      mismatch (Mismatch.boolean true)
    else if c = 'f' then do
      let _ ← readWord "alse".toList t
      mismatch (Mismatch.boolean false)
    else if c = '"' then do
      let (s, _) ← readString t
      mismatch ("string " ++ Text.quoted s)
    else if c = '-' then do
      let (n, _) ← readNumber true t
      mismatch n.describe
    else if c.isDigit then do
      let (n, _) ← readNumber false (c :: t)
      mismatch n.describe
    else if c = '[' then mismatch "sequence"
    else if c = '\x7b' then mismatch "map"
    else .error .malformed
where
  mismatch {β : Type} (found : String) : Except Fault β :=
    .error (.mismatch (Mismatch.wrongType found expected))

def readBoolean (expected : String) : Reader Bool := fun t =>
  match skipBlanks t with
  | 't' :: t => do let (_, t) ← readWord "rue".toList t; .ok (true, t)
  | 'f' :: t => do let (_, t) ← readWord "alse".toList t; .ok (false, t)
  | t => wrongType expected t

def fitUnsigned (bits : Nat) (expected : String) : Number → Except Fault (BitVec bits)
  | .unsigned n =>
    if n < 2 ^ bits then .ok (BitVec.ofNat bits n)
    else .error (.mismatch (Mismatch.wrongValue (Mismatch.integer n) expected))
  | .negative n => .error (.mismatch (Mismatch.wrongValue (Mismatch.integer (-n)) expected))
  | n => .error (.mismatch (Mismatch.wrongType n.describe expected))

def readUnsigned (bits : Nat) (expected : String) : Reader (BitVec bits) := fun t =>
  match skipBlanks t with
  | c :: t =>
    if c = '-' then do
      let (n, t) ← readNumber true t
      .ok (← fitUnsigned bits expected n, t)
    else if c.isDigit then do
      let (n, t) ← readNumber false (c :: t)
      .ok (← fitUnsigned bits expected n, t)
    else wrongType expected (c :: t)
  | [] => .error .truncated

def readText (expected : String) : Reader String := fun t =>
  match skipBlanks t with
  | '"' :: t => readString t
  | t => wrongType expected t

def readOptionalText (expected : String) : Reader (Option String) := fun t =>
  match skipBlanks t with
  | 'n' :: t => do let (_, t) ← readWord "ull".toList t; .ok (none, t)
  | t => do let (s, t) ← readText expected t; .ok (some s, t)

def nextElement (first : Bool) : Reader Bool := fun t =>
  match skipBlanks t with
  | [] => .error .truncated
  | c :: t =>
    if c = ']' then .ok (false, c :: t)
    else if first then .ok (true, c :: t)
    else if c = ',' then
      match skipBlanks t with
      | [] => .error .truncated
      | c :: t => if c = ']' then .error .malformed else .ok (true, c :: t)
    else .error .malformed

def endArray : Reader Unit := fun t =>
  match skipBlanks t with
  | [] => .error .truncated
  | c :: t => if c = ']' then .ok ((), t) else .error .malformed

def readElements (read : Reader α) : Nat → Bool → Reader (List α)
  | 0, _, _ => .error .malformed
  | fuel + 1, first, t => do
    let (more, t) ← nextElement first t
    if more then
      let (v, t) ← read t
      let (vs, t) ← readElements read fuel false t
      .ok (v :: vs, t)
    else .ok ([], t)

def readList (expected : String) (read : Reader α) : Reader (List α) := fun t =>
  match skipBlanks t with
  | '[' :: t => do
    let (vs, t) ← readElements read (t.length + 1) true t
    let (_, t) ← endArray t
    .ok (vs, t)
  | t => wrongType expected t

def readColon : Reader Unit := fun t =>
  match skipBlanks t with
  | ':' :: t => .ok ((), t)
  | [] => .error .truncated
  | _ => .error .malformed

def nextMember (first : Bool) : Reader Bool := fun t =>
  match skipBlanks t with
  | [] => .error .truncated
  | c :: t =>
    if c = '\x7d' then .ok (false, t)
    else if first then
      if c = '"' then .ok (true, t) else .error .malformed
    else if c = ',' then
      match skipBlanks t with
      | [] => .error .truncated
      | c :: t => if c = '"' then .ok (true, t) else .error .malformed
    else .error .malformed

def readMembers (member : String → δ → Option (Reader δ)) : Nat → Bool → δ → Reader δ
  | 0, _, _, _ => .error .malformed
  | fuel + 1, first, draft, t => do
    let (more, t) ← nextMember first t
    if more then
      let (key, t) ← readString t
      match member key draft with
      | some read =>
        let (draft, t) ← read t
        readMembers member fuel false draft t
      | none =>
        let (_, t) ← readColon t
        let (_, t) ← skipValue (2 * t.length + 2) t
        readMembers member fuel false draft t
    else .ok (draft, t)

mutual

def readSchema : (s : Schema) → Reader s.Carrier
  | .boolean => readBoolean (Schema.expectation .boolean)
  | .unsigned bits word => readUnsigned bits word
  | .text => readText (Schema.expectation .text)
  | .optionalText => readOptionalText (Schema.expectation .optionalText)
  | .list element => readList (Schema.expectation (.list element)) (readSchema element)
  | .record name fields => fun t =>
    match skipBlanks t with
    | [] => .error .truncated
    | c :: t =>
      if c = '[' then do
        let (v, t) ← readFields fields name fields.size 0 t
        let (_, t) ← endArray t
        .ok (v, t)
      else if c = '\x7b' then do
        let (draft, t) ← readMembers (readMember fields) (t.length + 1) true fields.blank t
        match fields.complete draft with
        | .ok v => .ok (v, t)
        | .error key => .error (.mismatch (Mismatch.missingField key))
      else wrongType (Schema.expectation (.record name fields)) (c :: t)

def readFields : (f : Fields) → (name : String) → (size index : Nat) → Reader f.Carrier
  | .nil, _, _, _ => fun t => .ok ((), t)
  | .cons _ schema fallback rest, name, size, index => fun t => do
    let (more, t) ← nextElement (index = 0) t
    if more then
      let (v, t) ← readSchema schema t
      let (vs, t) ← readFields rest name size (index + 1) t
      .ok ((v, vs), t)
    else
      match schema.fallback fallback with
      | none => .error (.mismatch (Mismatch.tooShort index name size))
      | some v =>
        let (vs, t) ← readFields rest name size (index + 1) t
        .ok ((v, vs), t)

def readMember : (f : Fields) → (key : String) → f.Draft → Option (Reader f.Draft)
  | .nil, _, _ => none
  | .cons own schema _ rest, key, (v?, draft) =>
    if own = key then
      some fun t =>
        match v? with
        | some _ => .error (.mismatch (Mismatch.duplicateField key))
        | none => do
          let (_, t) ← readColon t
          let (v, t) ← readSchema schema t
          .ok ((some v, draft), t)
    else
      (readMember rest key draft).map fun read t => do
        let (draft, t) ← read t
        .ok ((v?, draft), t)

end

def finish (r : Except Fault (α × List Char)) : Except Fault α := do
  let (v, t) ← r
  if (skipBlanks t).isEmpty then .ok v else .error .malformed

def decode (s : Schema) (text : String) : Except Fault s.Carrier :=
  finish (readSchema s text.toList)

end ComponentHost.Json
