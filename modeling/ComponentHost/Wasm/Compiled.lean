import ComponentHost.Fault
import ComponentHost.Text.Quoted
import ComponentHost.Wasm.Binary.Module
import ComponentHost.Wasm.Pool
import ComponentHost.Wasm.SipHash
import ComponentHost.Wasm.Text.Module

/-! Modules made ready to run. They come as bytes or as text; bytes that do not begin with the
magic number are taken for text. With a pool of instances a module has to fit into its slots. -/

namespace ComponentHost.Wasm

structure Compiled where
  module : Module
  hash : UInt64
  functions : NameSet

namespace Compiled

def fitsPool (c : EngineConfig) (m : Module) : Bool := (Pool.ofConfig? c).all (·.fits m)

def ofModule? (c : EngineConfig) (source : Bytes) (m : Option Module) : Option Compiled := do
  let m ← m
  if fitsPool c m then some ⟨m, SipHash.hashSized source, .ofList m.funcExports⟩ else none

def refused {α : Type} (reason : String) : Except EngineFault α := .error (.compilation reason)

def ofBytes (c : EngineConfig) (bytes : Bytes) : Except EngineFault Compiled :=
  if bytes.length < 8 then refused "Invalid Wasm: file too small"
  else if bytes.take 4 ≠ Module.magic then refused "Invalid Wasm: bad magic number"
  else
    match ofModule? c bytes (Module.ofBytes? bytes) with
    | some compiled => .ok compiled
    | none => refused "Core module compilation failed"

/-- Text that begins with the magic number is not taken for text. -/
def ofText (c : EngineConfig) (text : String) : Except EngineFault Compiled :=
  let bytes := text.toUTF8.toList
  let m := if bytes.take 4 = Module.magic then Module.ofBytes? bytes else Module.ofText? text
  match ofModule? c bytes m with
  | some compiled => .ok compiled
  | none => refused "WAT compilation failed"

def ofSource (c : EngineConfig) (bytes : Bytes) : Except EngineFault Compiled :=
  if bytes.take 4 = Module.magic then ofBytes c bytes
  else
    match String.fromUTF8? (ByteArray.mk bytes.toArray) with
    | some text => ofText c text
    | none => refused "Invalid Wasm: bad magic number and not UTF-8 text"

def hashText (c : Compiled) : String := Text.hexText 16 c.hash.toNat

def describe (c : Compiled) : String :=
  "CompiledModule \x7b content_hash: " ++ Text.quoted c.hashText ++ ", exported_functions: \x7b" ++
    ", ".intercalate (c.functions.names.map Text.quoted) ++ "\x7d, .. \x7d"

end Compiled

end ComponentHost.Wasm
