import ComponentHost.Wasm.Float
import ComponentHost.Wasm.Integer

/-! The operations on numbers, with their types, their names in the text format and their codes in
the binary one. -/

namespace ComponentHost.Wasm

inductive FloatUnary
  | abs
  | neg
  | ceil
  | floor
  | trunc
  | nearest
  | sqrt
deriving DecidableEq

inductive FloatBinary
  | add
  | sub
  | mul
  | div
  | min
  | max
  | copysign
deriving DecidableEq

inductive FloatRelation
  | eq
  | ne
  | lt
  | gt
  | le
  | ge
deriving DecidableEq

def FloatUnary.apply {w : Width} (op : FloatUnary) (x : FloatBits w) : FloatBits w :=
  match op with
  | abs => x &&& ~~~BitVec.intMin w.bits
  | neg => x.negate
  | ceil => x.toIntegral .up
  | floor => x.toIntegral .down
  | trunc => x.toIntegral .toZero
  | nearest => x.toIntegral .nearest
  | sqrt => x.sqrt

def FloatBinary.apply {w : Width} (op : FloatBinary) (x y : FloatBits w) : FloatBits w :=
  match op with
  | add => x.add y
  | sub => x.sub y
  | mul => x.mul y
  | div => x.div y
  | min => x.extreme false y
  | max => x.extreme true y
  | copysign => FloatBits.withSign y.msb x.magnitude

def FloatRelation.apply {w : Width} (op : FloatRelation) (x y : FloatBits w) : Bool :=
  match op with
  | eq => x.equal y
  | ne => !x.equal y
  | lt => x.less y
  | gt => y.less x
  | le => x.less y || x.equal y
  | ge => y.less x || y.equal x

inductive Conversion
  | wrap
  | extend (signed : Bool)
  | truncate (source target : Width) (signed : Bool)
  | saturate (source target : Width) (signed : Bool)
  | toFloat (source target : Width) (signed : Bool)
  | demote
  | promote
  | bitsOfFloat (w : Width)
  | floatOfBits (w : Width)
deriving DecidableEq

namespace Conversion

def operand : Conversion → ValueType
  | wrap => .i64
  | extend _ => .i32
  | truncate w _ _ | saturate w _ _ | bitsOfFloat w => w.float
  | toFloat w _ _ | floatOfBits w => w.int
  | demote => .f64
  | promote => .f32

def result : Conversion → ValueType
  | wrap => .i32
  | extend _ => .i64
  | truncate _ w _ | saturate _ w _ | bitsOfFloat w => w.int
  | toFloat _ w _ | floatOfBits w => w.float
  | demote => .f32
  | promote => .f64

def apply : Conversion → Datum → Except Trap Datum
  | wrap, .i64 n => .ok (.i32 (n.truncate 32))
  | extend signed, .i32 n => .ok (.i64 (if signed then n.signExtend 64 else n.zeroExtend 64))
  | truncate w v signed, d => do
    .ok (.ofInt v (← FloatBits.truncate v.bits signed (← d.float? w)))
  | saturate w v signed, d => do
    .ok (.ofInt v (FloatBits.saturate v.bits signed (← d.float? w)))
  | toFloat w v signed, d => do
    let n ← d.int? w
    .ok (.ofFloat v (FloatBits.ofInt v (if signed then n.toInt else n.toNat)))
  | demote, .f64 x => .ok (.f32 (FloatBits.convert .w64 .w32 x))
  | promote, .f32 x => .ok (.f64 (FloatBits.convert .w32 .w64 x))
  | bitsOfFloat w, d => do .ok (.ofInt w (← d.float? w))
  | floatOfBits w, d => do .ok (.ofFloat w (← d.int? w))
  | _, _ => .error .unsupported

end Conversion

inductive Op
  | intTest (w : Width)
  | intUnary (w : Width) (op : IntUnary)
  | intBinary (w : Width) (op : IntBinary)
  | intRelation (w : Width) (op : IntRelation)
  | floatUnary (w : Width) (op : FloatUnary)
  | floatBinary (w : Width) (op : FloatBinary)
  | floatRelation (w : Width) (op : FloatRelation)
  | convert (op : Conversion)
deriving DecidableEq

namespace Op

def operands : Op → List ValueType
  | intTest w | intUnary w _ => [w.int]
  | intBinary w _ | intRelation w _ => [w.int, w.int]
  | floatUnary w _ => [w.float]
  | floatBinary w _ | floatRelation w _ => [w.float, w.float]
  | convert op => [op.operand]

def result : Op → ValueType
  | intTest _ | intRelation _ _ | floatRelation _ _ => .i32
  | intUnary w _ | intBinary w _ => w.int
  | floatUnary w _ | floatBinary w _ => w.float
  | convert op => op.result

def apply : Op → List Datum → Except Trap Datum
  | intTest w, [x] => do .ok (.ofBool ((← x.int? w) == 0))
  | intUnary w op, [x] => do .ok (.ofInt w (op.apply (← x.int? w)))
  | intBinary w op, [x, y] => do .ok (.ofInt w (← op.apply (← x.int? w) (← y.int? w)))
  | intRelation w op, [x, y] => do .ok (.ofBool (op.apply (← x.int? w) (← y.int? w)))
  | floatUnary w op, [x] => do .ok (.ofFloat w (op.apply (← x.float? w)))
  | floatBinary w op, [x, y] => do .ok (.ofFloat w (op.apply (← x.float? w) (← y.float? w)))
  | floatRelation w op, [x, y] => do .ok (.ofBool (op.apply (← x.float? w) (← y.float? w)))
  | convert op, [x] => op.apply x
  | _, _ => .error .unsupported

/-! ### Names and codes -/

def intRelations (w : Width) : List (String × Op) :=
  [("eqz", intTest w), ("eq", intRelation w .eq), ("ne", intRelation w .ne),
    ("lt_s", intRelation w .ltS), ("lt_u", intRelation w .ltU), ("gt_s", intRelation w .gtS),
    ("gt_u", intRelation w .gtU), ("le_s", intRelation w .leS), ("le_u", intRelation w .leU),
    ("ge_s", intRelation w .geS), ("ge_u", intRelation w .geU)]

def floatRelations (w : Width) : List (String × Op) :=
  [("eq", floatRelation w .eq), ("ne", floatRelation w .ne), ("lt", floatRelation w .lt),
    ("gt", floatRelation w .gt), ("le", floatRelation w .le), ("ge", floatRelation w .ge)]

def integers (w : Width) : List (String × Op) :=
  [("clz", intUnary w .clz), ("ctz", intUnary w .ctz), ("popcnt", intUnary w .popcnt),
    ("add", intBinary w .add), ("sub", intBinary w .sub), ("mul", intBinary w .mul),
    ("div_s", intBinary w .divS), ("div_u", intBinary w .divU), ("rem_s", intBinary w .remS),
    ("rem_u", intBinary w .remU), ("and", intBinary w .and), ("or", intBinary w .or),
    ("xor", intBinary w .xor), ("shl", intBinary w .shl), ("shr_s", intBinary w .shrS),
    ("shr_u", intBinary w .shrU), ("rotl", intBinary w .rotl), ("rotr", intBinary w .rotr)]

def floats (w : Width) : List (String × Op) :=
  [("abs", floatUnary w .abs), ("neg", floatUnary w .neg), ("ceil", floatUnary w .ceil),
    ("floor", floatUnary w .floor), ("trunc", floatUnary w .trunc),
    ("nearest", floatUnary w .nearest), ("sqrt", floatUnary w .sqrt),
    ("add", floatBinary w .add), ("sub", floatBinary w .sub), ("mul", floatBinary w .mul),
    ("div", floatBinary w .div), ("min", floatBinary w .min), ("max", floatBinary w .max),
    ("copysign", floatBinary w .copysign)]

def conversions : List (String × Op) :=
  [("i32.wrap_i64", convert .wrap),
    ("i32.trunc_f32_s", convert (.truncate .w32 .w32 true)),
    ("i32.trunc_f32_u", convert (.truncate .w32 .w32 false)),
    ("i32.trunc_f64_s", convert (.truncate .w64 .w32 true)),
    ("i32.trunc_f64_u", convert (.truncate .w64 .w32 false)),
    ("i64.extend_i32_s", convert (.extend true)),
    ("i64.extend_i32_u", convert (.extend false)),
    ("i64.trunc_f32_s", convert (.truncate .w32 .w64 true)),
    ("i64.trunc_f32_u", convert (.truncate .w32 .w64 false)),
    ("i64.trunc_f64_s", convert (.truncate .w64 .w64 true)),
    ("i64.trunc_f64_u", convert (.truncate .w64 .w64 false)),
    ("f32.convert_i32_s", convert (.toFloat .w32 .w32 true)),
    ("f32.convert_i32_u", convert (.toFloat .w32 .w32 false)),
    ("f32.convert_i64_s", convert (.toFloat .w64 .w32 true)),
    ("f32.convert_i64_u", convert (.toFloat .w64 .w32 false)),
    ("f32.demote_f64", convert .demote),
    ("f64.convert_i32_s", convert (.toFloat .w32 .w64 true)),
    ("f64.convert_i32_u", convert (.toFloat .w32 .w64 false)),
    ("f64.convert_i64_s", convert (.toFloat .w64 .w64 true)),
    ("f64.convert_i64_u", convert (.toFloat .w64 .w64 false)),
    ("f64.promote_f32", convert .promote),
    ("i32.reinterpret_f32", convert (.bitsOfFloat .w32)),
    ("i64.reinterpret_f64", convert (.bitsOfFloat .w64)),
    ("f32.reinterpret_i32", convert (.floatOfBits .w32)),
    ("f64.reinterpret_i64", convert (.floatOfBits .w64)),
    ("i32.extend8_s", intUnary .w32 (.extend 8)),
    ("i32.extend16_s", intUnary .w32 (.extend 16)),
    ("i64.extend8_s", intUnary .w64 (.extend 8)),
    ("i64.extend16_s", intUnary .w64 (.extend 16)),
    ("i64.extend32_s", intUnary .w64 (.extend 32))]

def of (type : String) (ops : List (String × Op)) : List (String × Op) :=
  ops.map fun (name, op) => (type ++ "." ++ name, op)

def table : List (String × Op) :=
  of "i32" (intRelations .w32) ++ of "i64" (intRelations .w64) ++
    of "f32" (floatRelations .w32) ++ of "f64" (floatRelations .w64) ++
    of "i32" (integers .w32) ++ of "i64" (integers .w64) ++
    of "f32" (floats .w32) ++ of "f64" (floats .w64) ++ conversions

def firstCode : Nat := 0x45

/-- Conversions whose codes stand behind a byte of their own, in the order of the codes. -/
def saturating : List (String × Op) :=
  [("i32.trunc_sat_f32_s", convert (.saturate .w32 .w32 true)),
    ("i32.trunc_sat_f32_u", convert (.saturate .w32 .w32 false)),
    ("i32.trunc_sat_f64_s", convert (.saturate .w64 .w32 true)),
    ("i32.trunc_sat_f64_u", convert (.saturate .w64 .w32 false)),
    ("i64.trunc_sat_f32_s", convert (.saturate .w32 .w64 true)),
    ("i64.trunc_sat_f32_u", convert (.saturate .w32 .w64 false)),
    ("i64.trunc_sat_f64_s", convert (.saturate .w64 .w64 true)),
    ("i64.trunc_sat_f64_u", convert (.saturate .w64 .w64 false))]

def named? (name : String) : Option Op := (table ++ saturating).lookup name

def coded? (code : Nat) : Option Op :=
  if code < firstCode then none else (table[code - firstCode]?).map Prod.snd

example : table.length = 0xc5 - firstCode := by decide +kernel

example : coded? 0x6a = some (intBinary .w32 .add) := by decide +kernel

example : coded? 0xbf = some (convert (.floatOfBits .w64)) := by decide +kernel

end Op

end ComponentHost.Wasm
