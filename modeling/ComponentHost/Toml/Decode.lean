import ComponentHost.Config.Schema
import ComponentHost.Decimal.Shortest
import ComponentHost.Text.Quoted
import ComponentHost.Toml.Value

/-! TOML values read by shape. The entries of a table are looked at in the order of the document
and the first that does not fit is reported; missing fields come after that, in the order of the
shape. A record may also be given as an array of its fields, of which any surplus is ignored. -/

namespace ComponentHost.Toml

/-- Floats are written out in full, however great or small, and a tie goes to the greater. -/
def floatLayout : Decimal.Layout := ⟨.up, -400, 400⟩

def Value.describe : Value → String
  | boolean b => Mismatch.boolean b
  | integer n => Mismatch.integer n
  | float x => Mismatch.float (Decimal.write floatLayout x)
  | text s => "string " ++ Text.quoted s
  | list _ => "sequence"
  | moment | table _ => "map"

def wrongType {α : Type} (v : Value) (expected : String) : Except String α :=
  .error (Mismatch.wrongType v.describe expected)

def fitUnsigned (bits : Nat) (word : String) (n : Int) : Except String (BitVec bits) :=
  if 0 ≤ n ∧ n < 2 ^ bits then .ok (BitVec.ofInt bits n)
  else .error (Mismatch.wrongValue (Mismatch.integer n) word)

def fitText (expected : String) : Value → Except String String
  | .text s => .ok s
  | v => wrongType v expected

def listOf {α : Type} (expected : String) (f : Value → Except String α) :
    Value → Except String (List α)
  | .list vs => vs.mapM f
  | v => wrongType v expected

/-- The entries of a table; a date or a time has none that is known. -/
def entries? : Value → Option (List (String × Value))
  | .table entries => some entries
  | .moment => some []
  | _ => none

mutual

def fit : (s : Schema) → Value → Except String s.Carrier
  | .boolean, v =>
    match v with
    | .boolean b => .ok b
    | v => wrongType v (Schema.expectation .boolean)
  | .unsigned bits word, v =>
    match v with
    | .integer n => fitUnsigned bits word n
    | v => wrongType v word
  | .text, v => fitText (Schema.expectation .text) v
  | .optionalText, v => (fitText (Schema.expectation .optionalText) v).map some
  | .list element, v => listOf (Schema.expectation (.list element)) (fit element) v
  | .record name fields, v =>
    match entries? v, v with
    | some entries, _ => do
      let draft ← entries.foldlM (fun draft (key, v) => fitMember fields key v draft) fields.blank
      (fields.complete draft).mapError Mismatch.missingField
    | none, .list vs => fitFields fields name fields.size 0 vs
    | none, v => wrongType v (Schema.expectation (.record name fields))

def fitFields : (f : Fields) → (name : String) → (size index : Nat) → List Value →
    Except String f.Carrier
  | .nil, _, _, _, _ => .ok ()
  | .cons _ schema _ rest, name, size, index, v :: vs => do
    let v ← fit schema v
    let vs ← fitFields rest name size (index + 1) vs
    .ok (v, vs)
  | .cons _ schema fallback rest, name, size, index, [] =>
    match schema.fallback fallback with
    | none => .error (Mismatch.tooShort index name size)
    | some v => do
      let vs ← fitFields rest name size (index + 1) []
      .ok (v, vs)

def fitMember : (f : Fields) → (key : String) → Value → f.Draft → Except String f.Draft
  | .nil, _, _, _ => .ok ()
  | .cons own schema _ rest, key, v, (v?, draft) =>
    if own = key then do
      let v ← fit schema v
      .ok (some v, draft)
    else do
      let draft ← fitMember rest key v draft
      .ok (v?, draft)

end

end ComponentHost.Toml
