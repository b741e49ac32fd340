import ComponentHost.Wasm.Text.Code
import ComponentHost.Wasm.Validity

/-! The fields of a module in the text format. Fields may refer to later ones, so only their heads
are read at first; the rest is read when all names are known. -/

namespace ComponentHost.Wasm

def Space.named? : String → Option Space
  | "func" => some .func
  | "table" => some .table
  | "memory" => some .memory
  | "global" => some .global
  | _ => none

/-- A field that adds to an index space: with the names under which it is exported, and where it is
imported from if it is. -/
structure Item where
  space : Space
  name : Option String := none
  exports : List String := []
  source : Option (String × String) := none
  rest : List Tree

inductive Field
  | type (name : Option String) (type : FuncType)
  | item (i : Item)
  | offer (name : String) (space : Space) (what : String)
  | start (function : String)
  | elem (name : Option String) (rest : List Tree)
  | data (name : Option String) (rest : List Tree)
  | custom

namespace Tree

def declaredType? : Tree → Option FuncType
  | .list [.word "sub", .word "final", t] => funcType? t
  | t => funcType? t
where
  funcType? : Tree → Option FuncType
    | .list (.word "func" :: ts) => do
      match ← signature ts with
      | ((type, _), []) => some type
      | _ => none
    | _ => none

def exportNames : List Tree → Option (List String × List Tree)
  | .list [.word "export", .text name] :: rest => do
    let (more, rest) ← exportNames rest
    some ((← Token.utf8? name) :: more, rest)
  | ts => some ([], ts)

def source : Reader (Option (String × String))
  | .list [.word "import", .text source, .text item] :: rest => do
    some (some (← Token.utf8? source, ← Token.utf8? item), rest)
  | ts => some (none, ts)

def itemHead (space : Space) (ts : List Tree) : Option Item := do
  let (name, ts) ← titledName ts
  let (exports, ts) ← exportNames ts
  let (source, rest) ← source ts
  some { space, name, exports, source, rest }

def sectionNames : List String :=
  ["type", "import", "func", "table", "memory", "global", "export", "start", "elem", "code", "data",
    "tag"]

def isPlacement : List Tree → Bool
  | [.word "before", .word w] => w = "first" || sectionNames.contains w
  | [.word "after", .word w] => w = "last" || sectionNames.contains w
  | _ => false

def strings? (ts : List Tree) : Option (List Bytes) :=
  ts.mapM fun
    | .text b => some b
    | _ => none

def customOk (name : Bytes) (ts : List Tree) : Bool :=
  let ts : Option (List Tree) :=
    match ts with
    | .list place :: rest => if isPlacement place then some rest else none
    | ts => some ts
  (Token.utf8? name).any Module.nameOk && (ts.bind strings?).isSome

def producersOk (ts : List Tree) : Bool :=
  ts.all fun
    | .list [.word w, .text name, .text version] =>
      ["language", "sdk", "processed-by"].contains w &&
        (Token.utf8? name).isSome && (Token.utf8? version).isSome
    | _ => false

/-- An imported field; only functions can be called something else outside the text. -/
def imported? (source name : Bytes) (kind : String) (ts : List Tree) : Option Item := do
  let space ← Space.named? kind
  let (id, rest) ← (if space = .func then titledName else Tree.name) ts
  some { space, name := id, source := some (← Token.utf8? source, ← Token.utf8? name), rest }

def field? : Tree → Option Field
  | .list (.word "type" :: ts) => do
    let (name, ts) ← titledName ts
    match ts with
    | [t] => some (.type name (← declaredType? t))
    | _ => none
  | .list [.word "import", .text source, .text name, .list (.word kind :: ts)] => do
    some (.item (← imported? source name kind ts))
  | .list [.word "export", .text name, .list [.word kind, .word w]] => do
    some (.offer (← Token.utf8? name) (← Space.named? kind) w)
  | .list [.word "start", .word w] => some (.start w)
  | .list (.word "elem" :: ts) => (titledName ts).map fun (name, rest) => .elem name rest
  | .list (.word "data" :: ts) => (titledName ts).map fun (name, rest) => .data name rest
  | .list (.word "@custom" :: .text name :: ts) =>
    if customOk name ts then some .custom else none
  | .list (.word "@producers" :: ts) => if producersOk ts then some .custom else none
  | .list (.word kind :: ts) => do some (.item (← itemHead (← Space.named? kind) ts))
  | _ => none

end Tree

namespace Item

def isFilled (i : Item) (space : Space) (keyword : String) : Bool :=
  i.space = space && i.source.isNone && i.rest.any fun
    | .list (.word w :: _) => w = keyword
    | _ => false

end Item

namespace Field

def item? : Field → Option Item
  | item i => some i
  | _ => none

def importsFirst (fields : List Field) : Bool :=
  ((fields.filterMap item?).dropWhile (·.source.isSome)).all (·.source.isNone)

def namesIn (fields : List Field) (space : Space) : List (Option String) :=
  ((fields.filterMap item?).filter (·.space = space)).map Item.name

def names (fields : List Field) : Names where
  types := fields.filterMap fun
    | type name _ => some name
    | _ => none
  funcs := namesIn fields .func
  tables := namesIn fields .table
  memories := namesIn fields .memory
  globals := namesIn fields .global
  elems := fields.filterMap fun
    | elem name _ => some name
    | item i => if i.isFilled .table "elem" then some none else none
    | _ => none
  data := fields.filterMap fun
    | data name _ => some name
    | item i => if i.isFilled .memory "data" then some none else none
    | _ => none

def types (fields : List Field) : List FuncType :=
  fields.filterMap fun
    | type _ t => some t
    | _ => none

end Field

end ComponentHost.Wasm
