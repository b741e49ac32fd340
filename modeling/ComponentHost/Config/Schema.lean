/-! Shapes of configuration data. A shape says which values a text may hold at a place, in
whatever notation it is written; its carrier is the type of those values. A record's fields
stand in order, each with what it falls back to when it is absent. -/

namespace ComponentHost

inductive Fallback
  | required
  | boolean (b : Bool)
  | number (n : Nat)
  | none
  | empty
  | record

mutual

inductive Schema
  | boolean
  | unsigned (bits : Nat) (word : String)
  | text
  | optionalText
  | list (element : Schema)
  | record (name : String) (fields : Fields)

inductive Fields
  | nil
  | cons (key : String) (schema : Schema) (fallback : Fallback) (rest : Fields)

end

mutual

@[reducible] def Schema.Carrier : Schema → Type
  | .boolean => Bool
  | .unsigned bits _ => BitVec bits
  | .text => String
  | .optionalText => Option String
  | .list element => List element.Carrier
  | .record _ fields => fields.Carrier

@[reducible] def Fields.Carrier : Fields → Type
  | .nil => Unit
  | .cons _ schema _ rest => schema.Carrier × rest.Carrier

end

/-- The fields of a record of which some have yet to be read. -/
@[reducible] def Fields.Draft : Fields → Type
  | .nil => Unit
  | .cons _ schema _ rest => Option schema.Carrier × rest.Draft

mutual

def Schema.fallback : (s : Schema) → Fallback → Option s.Carrier
  | .boolean, .boolean b => some b
  | .unsigned bits _, .number n => some (BitVec.ofNat bits n)
  | .optionalText, .none => some none
  | .list _, .empty => some []
  | .record _ fields, .record => fields.fallbacks
  | _, _ => none

def Fields.fallbacks : (f : Fields) → Option f.Carrier
  | .nil => some ()
  | .cons _ schema fallback rest =>
    match schema.fallback fallback, rest.fallbacks with
    | some v, some vs => some (v, vs)
    | _, _ => none

end

def Schema.expectation : Schema → String
  | .boolean => "a boolean"
  | .unsigned _ word => word
  | .text | .optionalText => "a string"
  | .list _ => "a sequence"
  | .record name _ => "struct " ++ name

namespace Fields

def size : Fields → Nat
  | .nil => 0
  | .cons _ _ _ rest => rest.size + 1

def blank : (f : Fields) → f.Draft
  | .nil => ()
  | .cons _ _ _ rest => (none, rest.blank)

/-- The record of a draft, absent fields replaced; or the first field that it lacks. -/
def complete : (f : Fields) → f.Draft → Except String f.Carrier
  | .nil, _ => .ok ()
  | .cons key schema fallback rest, (v?, draft) =>
    match v?.or (schema.fallback fallback) with
    | none => .error key
    | some v =>
      match rest.complete draft with
      | .error key => .error key
      | .ok vs => .ok (v, vs)

end Fields

/-! The wording of what a reader finds amiss in the data it reads. -/
namespace Mismatch

def wrongType (found expected : String) : String :=
  "invalid type: " ++ found ++ ", expected " ++ expected

def wrongValue (found expected : String) : String :=
  "invalid value: " ++ found ++ ", expected " ++ expected

def missingField (key : String) : String := "missing field `" ++ key ++ "`"

def duplicateField (key : String) : String := "duplicate field `" ++ key ++ "`"

def tooShort (length : Nat) (name : String) (size : Nat) : String :=
  "invalid length " ++ toString length ++ ", expected struct " ++ name ++ " with " ++
    toString size ++ (if size = 1 then " element" else " elements")

def integer (n : Int) : String := "integer `" ++ toString n ++ "`"

def float (text : String) : String := "floating point `" ++ text ++ "`"

def boolean (b : Bool) : String := "boolean `" ++ toString b ++ "`"

end Mismatch

end ComponentHost
