import ComponentHost.Decimal.Binary64

/-! The values of a TOML document. Tables keep their keys in the order in which they were
defined. Dates and times are known to be such and nothing more. -/

namespace ComponentHost.Toml

inductive Value
  | boolean (b : Bool)
  | integer (n : Int)
  | float (x : Binary64)
  | text (s : String)
  | moment
  | list (items : List Value)
  | table (entries : List (String × Value))
deriving Inhabited

end ComponentHost.Toml
