import ComponentHost.Host.Error
import ComponentHost.Json.Value
import ComponentHost.Limits

/-! Reports for other programs to read: JSON forms of what the host gives back. Floats are given
by their bits and bytes by their hex digits, so that nothing is lost to rounding. -/

namespace ComponentHost

namespace Report

def hexByte (b : UInt8) : List Char :=
  [Nat.digitChar (b.toNat / 16), Nat.digitChar (b.toNat % 16)]

def bytes (b : Bytes) : Json.Value := .text (String.ofList (b.flatMap hexByte))

def bits64 (n : UInt64) : Json.Value := .text (Text.hexText 16 n.toNat)

def bits32 (n : UInt32) : Json.Value := .text (Text.hexText 8 n.toNat)

def signed32 (n : UInt32) : Json.Value := .integer n.toInt32.toInt

def signed64 (n : UInt64) : Json.Value := .integer n.toInt64.toInt

def value : Value → Json.Value
  | .i32 bits => .record [("i32", signed32 bits)]
  | .i64 bits => .record [("i64", signed64 bits)]
  | .f32 bits => .record [("f32", bits32 bits)]
  | .f64 bits => .record [("f64", bits64 bits)]

def values (l : List Value) : Json.Value := .list (l.map value)

def optional {α : Type} (f : α → Json.Value) : Option α → Json.Value
  | some a => f a
  | none => .null

def instant (d : Duration) : Json.Value := .natural d.millis

def span (d : Duration) : Json.Value := .list [.natural d.seconds, .natural d.subsecondNanos]

def fuel (f : FuelUse) : Json.Value :=
  .record [("max_fuel", .natural f.maxFuel), ("consumed", .natural f.consumed),
    ("usage_bits", bits64 f.percent.bits), ("remaining", .natural f.remaining),
    ("exhausted", .boolean f.exhausted)]

def asI32 (o : Output) : Json.Value := optional signed32 o.asI32

def result (o : Output) (f : FuelUse) : Json.Value :=
  .record [("values", values o.values), ("as_i32", asI32 o), ("fuel", fuel f)]

def invocation (time : Duration) (i : Invocation) : Json.Value :=
  .record [("at", instant time), ("id", .text i.component.name), ("function", .text i.function),
    ("args", values i.args), ("memory", .natural i.maxMemoryBytes), ("stdio", .boolean i.stdio),
    ("max_fuel", .natural i.maxFuel)]

end Report

end ComponentHost
