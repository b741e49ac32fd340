import ComponentHost.Wasm.Vector

/-! The names of the operations on vectors in the text format and their codes in the binary one. -/

namespace ComponentHost.Wasm.VectorOp

/-- Gives operations the codes from a first one on, and names under that of a shape. -/
def coded (first : Nat) (shape : String) (ops : List (String × VectorOp)) :
    List (Nat × String × VectorOp) :=
  ops.zipIdx.map fun ((name, op), i) => (first + i, shape ++ "." ++ name, op)

def relations (lane : Nat) : List (String × VectorOp) :=
  [("eq", relation lane .eq), ("ne", relation lane .ne), ("lt_s", relation lane .ltS),
    ("lt_u", relation lane .ltU), ("gt_s", relation lane .gtS), ("gt_u", relation lane .gtU),
    ("le_s", relation lane .leS), ("le_u", relation lane .leU), ("ge_s", relation lane .geS),
    ("ge_u", relation lane .geU)]

def floatRelations (w : Width) : List (String × VectorOp) :=
  [("eq", floatRelation w .eq), ("ne", floatRelation w .ne), ("lt", floatRelation w .lt),
    ("gt", floatRelation w .gt), ("le", floatRelation w .le), ("ge", floatRelation w .ge)]

def shifts (lane : Nat) : List (String × VectorOp) :=
  [("shl", shift lane .left), ("shr_s", shift lane (.right true)),
    ("shr_u", shift lane (.right false))]

def sums (lane : Nat) : List (String × VectorOp) :=
  [("add", binary lane .add), ("add_sat_s", binary lane (.addWithin true)),
    ("add_sat_u", binary lane (.addWithin false)), ("sub", binary lane .sub),
    ("sub_sat_s", binary lane (.subWithin true)), ("sub_sat_u", binary lane (.subWithin false))]

def extremes (lane : Nat) : List (String × VectorOp) :=
  [("min_s", binary lane (.min true)), ("min_u", binary lane (.min false)),
    ("max_s", binary lane (.max true)), ("max_u", binary lane (.max false))]

def halves (name shape : String) (op : (high signed : Bool) → VectorOp) :
    List (String × VectorOp) :=
  [(name ++ "_low_" ++ shape ++ "_s", op false true),
    (name ++ "_high_" ++ shape ++ "_s", op true true),
    (name ++ "_low_" ++ shape ++ "_u", op false false),
    (name ++ "_high_" ++ shape ++ "_u", op true false)]

def narrowings (shape : String) (lane : Nat) : List (String × VectorOp) :=
  [("narrow_" ++ shape ++ "_s", narrow lane true), ("narrow_" ++ shape ++ "_u", narrow lane false)]

def tests (lane : Nat) : List (String × VectorOp) :=
  [("all_true", allTrue lane), ("bitmask", bitmask lane)]

def roundings (w : Width) : List (String × VectorOp) :=
  [("ceil", floatUnary w .ceil), ("floor", floatUnary w .floor), ("trunc", floatUnary w .trunc),
    ("nearest", floatUnary w .nearest)]

def floatArithmetic (w : Width) : List (String × VectorOp) :=
  [("sqrt", floatUnary w .sqrt), ("add", floatBinary w .add), ("sub", floatBinary w .sub),
    ("mul", floatBinary w .mul), ("div", floatBinary w .div), ("min", extreme w false),
    ("max", extreme w true), ("pmin", prefer w false), ("pmax", prefer w true)]

def table : List (Nat × String × VectorOp) :=
  [(14, "i8x16.swizzle", swizzle), (15, "i8x16.splat", splat .i32 8),
    (16, "i16x8.splat", splat .i32 16), (17, "i32x4.splat", splat .i32 32),
    (18, "i64x2.splat", splat .i64 64), (19, "f32x4.splat", splat .f32 32),
    (20, "f64x2.splat", splat .f64 64)] ++
  coded 35 "i8x16" (relations 8) ++ coded 45 "i16x8" (relations 16) ++
  coded 55 "i32x4" (relations 32) ++
  coded 65 "f32x4" (floatRelations .w32) ++ coded 71 "f64x2" (floatRelations .w64) ++
  coded 77 "v128" [("not", not), ("and", bitwise .and), ("andnot", bitwise .andNot),
    ("or", bitwise .or), ("xor", bitwise .xor), ("bitselect", choose), ("any_true", anyTrue)] ++
  [(94, "f32x4.demote_f64x2_zero", demoteLow), (95, "f64x2.promote_low_f32x4", promoteLow)] ++
  coded 96 "i8x16" ([("abs", unary 8 .abs), ("neg", unary 8 .neg), ("popcnt", unary 8 .popcnt)] ++
    tests 8 ++ narrowings "i16x8" 8) ++
  coded 103 "f32x4" (roundings .w32) ++
  coded 107 "i8x16" (shifts 8 ++ sums 8) ++
  coded 116 "f64x2" ((roundings .w64).take 2) ++
  coded 118 "i8x16" (extremes 8) ++
  [(122, "f64x2.trunc", floatUnary .w64 .trunc), (123, "i8x16.avgr_u", binary 8 .average),
    (124, "i16x8.extadd_pairwise_i8x16_s", addPairs 8 true),
    (125, "i16x8.extadd_pairwise_i8x16_u", addPairs 8 false),
    (126, "i32x4.extadd_pairwise_i16x8_s", addPairs 16 true),
    (127, "i32x4.extadd_pairwise_i16x8_u", addPairs 16 false)] ++
  coded 128 "i16x8" ([("abs", unary 16 .abs), ("neg", unary 16 .neg),
    ("q15mulr_sat_s", binary 16 (.fractionProduct true))] ++ tests 16 ++ narrowings "i32x4" 16 ++
    halves "extend" "i8x16" (widen 8) ++ shifts 16 ++ sums 16) ++
  [(148, "f64x2.nearest", floatUnary .w64 .nearest), (149, "i16x8.mul", binary 16 .mul)] ++
  coded 150 "i16x8" (extremes 16) ++ [(155, "i16x8.avgr_u", binary 16 .average)] ++
  coded 156 "i16x8" (halves "extmul" "i8x16" (multiplyWide 8)) ++
  coded 160 "i32x4" [("abs", unary 32 .abs), ("neg", unary 32 .neg)] ++
  coded 163 "i32x4" (tests 32) ++
  coded 167 "i32x4" (halves "extend" "i16x8" (widen 16) ++ shifts 32) ++
  [(174, "i32x4.add", binary 32 .add), (177, "i32x4.sub", binary 32 .sub),
    (181, "i32x4.mul", binary 32 .mul)] ++
  coded 182 "i32x4" (extremes 32) ++ [(186, "i32x4.dot_i16x8_s", dot 16)] ++
  coded 188 "i32x4" (halves "extmul" "i16x8" (multiplyWide 16)) ++
  coded 192 "i64x2" [("abs", unary 64 .abs), ("neg", unary 64 .neg)] ++
  coded 195 "i64x2" (tests 64) ++
  coded 199 "i64x2" (halves "extend" "i32x4" (widen 32) ++ shifts 64) ++
  [(206, "i64x2.add", binary 64 .add), (209, "i64x2.sub", binary 64 .sub),
    (213, "i64x2.mul", binary 64 .mul)] ++
  coded 214 "i64x2" [("eq", relation 64 .eq), ("ne", relation 64 .ne), ("lt_s", relation 64 .ltS),
    ("gt_s", relation 64 .gtS), ("le_s", relation 64 .leS), ("ge_s", relation 64 .geS)] ++
  coded 220 "i64x2" (halves "extmul" "i32x4" (multiplyWide 32)) ++
  coded 224 "f32x4" [("abs", floatUnary .w32 .abs), ("neg", floatUnary .w32 .neg)] ++
  coded 227 "f32x4" (floatArithmetic .w32) ++
  coded 236 "f64x2" [("abs", floatUnary .w64 .abs), ("neg", floatUnary .w64 .neg)] ++
  coded 239 "f64x2" (floatArithmetic .w64) ++
  coded 248 "i32x4" [("trunc_sat_f32x4_s", truncate true), ("trunc_sat_f32x4_u", truncate false)] ++
  coded 250 "f32x4" [("convert_i32x4_s", convert true), ("convert_i32x4_u", convert false)] ++
  coded 252 "i32x4" [("trunc_sat_f64x2_s_zero", truncateLow true),
    ("trunc_sat_f64x2_u_zero", truncateLow false)] ++
  coded 254 "f64x2" [("convert_low_i32x4_s", convertLow true),
    ("convert_low_i32x4_u", convertLow false)] ++
  [(256, "i8x16.relaxed_swizzle", swizzleLoosely)] ++
  coded 257 "i32x4" [("relaxed_trunc_f32x4_s", truncateLoosely),
    ("relaxed_trunc_f32x4_u", truncate false), ("relaxed_trunc_f64x2_s_zero", truncateLowLoosely),
    ("relaxed_trunc_f64x2_u_zero", truncateLow false)] ++
  coded 261 "f32x4" [("relaxed_madd", multiplyAdd .w32 false),
    ("relaxed_nmadd", multiplyAdd .w32 true)] ++
  coded 263 "f64x2" [("relaxed_madd", multiplyAdd .w64 false),
    ("relaxed_nmadd", multiplyAdd .w64 true)] ++
  [(265, "i8x16.relaxed_laneselect", chooseLanes 8), (266, "i16x8.relaxed_laneselect", choose),
    (267, "i32x4.relaxed_laneselect", chooseLanes 32),
    (268, "i64x2.relaxed_laneselect", chooseLanes 64)] ++
  coded 269 "f32x4" [("relaxed_min", prefer .w32 false), ("relaxed_max", prefer .w32 true)] ++
  coded 271 "f64x2" [("relaxed_min", prefer .w64 false), ("relaxed_max", prefer .w64 true)] ++
  [(273, "i16x8.relaxed_q15mulr_s", binary 16 (.fractionProduct false)),
    (274, "i16x8.relaxed_dot_i8x16_i7x16_s", dotBytes),
    (275, "i32x4.relaxed_dot_i8x16_i7x16_add_s", dotBytesAdd)]

def laneTable : List (Nat × String × (Nat → VectorOp)) :=
  [(21, "i8x16.extract_lane_s", extract .i32 8 true),
    (22, "i8x16.extract_lane_u", extract .i32 8 false), (23, "i8x16.replace_lane", replace .i32 8),
    (24, "i16x8.extract_lane_s", extract .i32 16 true),
    (25, "i16x8.extract_lane_u", extract .i32 16 false),
    (26, "i16x8.replace_lane", replace .i32 16),
    (27, "i32x4.extract_lane", extract .i32 32 false),
    (28, "i32x4.replace_lane", replace .i32 32),
    (29, "i64x2.extract_lane", extract .i64 64 false),
    (30, "i64x2.replace_lane", replace .i64 64),
    (31, "f32x4.extract_lane", extract .f32 32 false),
    (32, "f32x4.replace_lane", replace .f32 32),
    (33, "f64x2.extract_lane", extract .f64 64 false),
    (34, "f64x2.replace_lane", replace .f64 64)]

def named? (name : String) : Option VectorOp := (table.find? (·.2.1 = name)).map (·.2.2)

def coded? (code : Nat) : Option VectorOp := (table.find? (·.1 = code)).map (·.2.2)

def namedLane? (name : String) : Option (Nat → VectorOp) :=
  (laneTable.find? (·.2.1 = name)).map (·.2.2)

def codedLane? (code : Nat) : Option (Nat → VectorOp) :=
  (laneTable.find? (·.1 = code)).map (·.2.2)

example : coded? 100 = some (bitmask 8) := by decide +kernel

example : coded? 147 = some (binary 16 (.subWithin false)) := by decide +kernel

end ComponentHost.Wasm.VectorOp
