import ComponentHost.Text.Alphanumeric
import ComponentHost.Text.Blank
import ComponentHost.Text.Digit

/-! Which events are logged. A filter is a list of directives, each of which grants a level to the
events of a target. Of the directives that concern an event the most specific one decides, and an
event that none concerns is not logged. -/

namespace ComponentHost.Command

inductive Level
  | off
  | error
  | warn
  | info
  | debug
  | trace
deriving DecidableEq

namespace Level

def all : List Level := [off, error, warn, info, debug, trace]

def name : Level → String
  | off => "OFF"
  | error => "ERROR"
  | warn => "WARN"
  | info => "INFO"
  | debug => "DEBUG"
  | trace => "TRACE"

def rank (l : Level) : Nat := all.idxOf l

def grants (l event : Level) : Bool := event.rank ≤ l.rank

def ofText? (text : String) : Option Level :=
  let cs := text.toList
  let digits := if cs.head? = some '+' then cs.drop 1 else cs
  if !digits.isEmpty && digits.all Char.isDigit then all[Text.number 10 digits]?
  else all.find? fun l => l.name = text.map Char.toUpper

end Level

structure Directive where
  target : Option String := none
  /-- The span that an event must be in; the host's own events are in none. -/
  span : Option String := none
  field : Option String := none
  /-- Whether the field must have a certain value, which only fields of spans are looked at for. -/
  compares : Bool := false
  level : Level := .trace
deriving DecidableEq

namespace Directive

def concerns (d : Directive) (target : String) (fields : List String) : Bool :=
  d.span.isNone && !d.compares && d.target.all (·.toList.isPrefixOf target.toList) &&
    d.field.all fields.contains

/-- Whether a directive decides rather than another one on an event that concerns both: a longer
target counts first, then a field. -/
def outranks (d e : Directive) : Bool :=
  let length (d : Directive) := d.target.elim 0 (·.length + 1)
  if length d = length e then
    match d.field, e.field with
    | some f, some g => g ≤ f
    | none, some _ => false
    | _, none => true
  else length e < length d

def withLevel? (d : Directive) (word : List Char) : Option Directive :=
  if d.target.any fun t => t.toList.head?.any Text.isBlank then none
  else if word.isEmpty then some d
  else (Level.ofText? (String.ofList word)).map ({ d with level := · })

def afterSpan? (d : Directive) : List Char → Option Directive
  | '=' :: word => d.withLevel? word
  | rest => if rest.all Text.isBlank then some d else none

def withField (d : Directive) (text : List Char) : Directive :=
  { d with
    field := some (String.ofList (text.takeWhile (· ≠ '=')))
    compares := text.contains '=' }

def withSpan? (d : Directive) (text : List Char) : Option Directive :=
  let name := String.ofList (text.takeWhile fun c => c ≠ ']' && c ≠ '\x7b')
  match text.dropWhile fun c => c ≠ ']' && c ≠ '\x7b' with
  | [] => none
  | ']' :: rest => { d with span := some name }.afterSpan? rest
  | _ :: inner =>
    let field := inner.takeWhile (· ≠ '\x7d')
    let d := if name.isEmpty then d else { d with span := some name }
    match inner.dropWhile (· ≠ '\x7d') with
    | '\x7d' :: ']' :: rest => if field.isEmpty then none else (d.withField field).afterSpan? rest
    | _ => none

def startsTarget (c : Char) : Bool := c = '-' || c = ':' || c = '_' || Text.isAlphanumeric c

def ofChars? (text : List Char) : Option Directive :=
  let blanks := text.takeWhile Text.isBlank
  let text := text.dropWhile Text.isBlank
  let target := String.ofList (blanks ++ text.takeWhile fun c => c ≠ '=' && c ≠ '[')
  let d : Directive := { target := if target.isEmpty then none else some target }
  if text.head?.any fun c => c = '[' || startsTarget c then
    match text.dropWhile fun c => c ≠ '=' && c ≠ '[' with
    | [] => some (((Level.ofText? target).map fun level => { level }).getD d)
    | '=' :: word => d.withLevel? word
    | _ :: inner => d.withSpan? inner
  else none

end Directive

structure LogFilter where
  directives : List Directive
deriving DecidableEq

namespace LogFilter

def standard : LogFilter :=
  ⟨[{ level := .info }, { target := some "wasm_host", level := .debug }]⟩

def ofText? (text : String) : Option LogFilter :=
  let parts := (text.splitOn ",").filter (!·.isEmpty)
  (parts.mapM fun part => Directive.ofChars? part.toList).map LogFilter.mk

/-- The directive that decides on an event; of two that are equally specific the later one. -/
def deciding (f : LogFilter) (target : String) (fields : List String) : Option Directive :=
  (f.directives.filter (·.concerns target fields)).foldl
    (fun best d => if best.all d.outranks then some d else best) none

def admits (f : LogFilter) (target : String) (level : Level) (fields : List String) : Bool :=
  (f.deciding target fields).any (·.level.grants level)

def ofSetting (setting : Option String) : LogFilter := (setting.bind ofText?).getD standard

example : standard.admits "wasm_host" .info ["message"] = true := by decide +kernel

example : Directive.ofChars? ['w', '['] = none := by decide +kernel

end LogFilter

end ComponentHost.Command
