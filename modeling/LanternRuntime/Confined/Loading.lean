import LanternRuntime.Confined.World
/-!
# Loading, linking and running a component

`load_verified_component` and `deserialize_trusted_component` from
`src/verified.rs`, `build_linker` from `src/host.rs`, and of Wasmtime the part
that runs a guest against a `RuntimeState`.
-/
open ProgLib

namespace LanternRuntime.Confined
open Host

/-- `result.map_err(|_| e)?` -/
def orElse {ε ε' α : Type} (p : Prog World (Except ε α)) (e : ε') : ExceptT ε' (Prog World) α := do
  let result ← p
  result.mapError fun _ => e

/-- As `orElse`, where only success is reported. -/
def orFail {ε' : Type} (p : Prog World Bool) (e : ε') : ExceptT ε' (Prog World) Unit := do
  if ← p then return () else throw e

/-! ## `src/verified.rs` -/

inductive LoadError where
  | BadSignature
  | Deserialize (e : WasmError)
  deriving DecidableEq

def deserialize_trusted_component (cwasm : Bytes) : ExceptT LoadError (Prog World) Component := do
  let result ← (ask (.deserialize cwasm) : Prog World (Except WasmError Component))
  result.mapError LoadError.Deserialize

/-- Verify the signature under `public_key`, and only then deserialize. -/
def load_verified_component (cwasm : Bytes) (public_key : PublicKey) (signature : Signature) :
    ExceptT LoadError (Prog World) Component := do
  orFail (ask (.signing_verify public_key cwasm signature)) LoadError.BadSignature
  deserialize_trusted_component cwasm

def DEFAULT_FUEL : Nat := 10000000

/-! ## Linking -/

/-- The interfaces that were linked. -/
abbrev Linker := List Interface

/-- `add_to_linker` of an interface, if the manifest has it. -/
def link_if (condition : Bool) (interface : Interface) (linker : Linker) : ExceptT Unit (Prog World) Linker :=
  if condition then do
    orFail (ask (.add_to_linker interface)) ()
    return linker ++ [interface]
  else return linker

/-- A resource interface is linked when its list of slots is not empty, declined or not. -/
def build_linker (manifest : GrantManifest) : ExceptT Unit (Prog World) Linker := do
  let linker ← link_if manifest.monotonic_clock.isSome .monotonic_clock []
  let linker ← link_if (!manifest.keystore_keys.isEmpty) .keystore linker
  link_if (!manifest.filesystem_files.isEmpty) .filesystem linker

/-- The interface whose function a guest calls. -/
def interfaceOf : GuestCall → Interface
  | .keystoreOpen _ | .encrypt .. | .decrypt .. | .sign .. | .keyDrop _ => .keystore
  | .filesystemOpen _ | .read _ | .write .. | .fileDrop _ => .filesystem
  | .now | .resolution => .monotonic_clock

/-! ## Running -/

section Run
variable [Crates] {T : ResourceTable}

/-- `wasmtime::Store`. -/
structure Store (T : ResourceTable) where
  state : RuntimeState T World
  fuel : Nat

/-- Run the guest until it ends, traps or is out of fuel. Every move takes a unit, and what a move
costs besides, the guest burns before it as `work`: how much that is, is up to the outside. A call of
an interface that was not linked is a trap stub, and so is a drop that fails. -/
def guest_run (linker : Linker) (state : RuntimeState T World) :
    Nat → GuestInput → Prog World (Store T × Option String)
  | 0, _ => return (⟨state, 0⟩, none)
  | fuel + 1, input => do
    match (← ask (.guest input) : GuestMove) with
    | .work => guest_run linker state fuel .proceed
    | .done report => return (⟨state, fuel⟩, some report)
    | .trap => return (⟨state, fuel⟩, none)
    | .host c =>
      if interfaceOf c ∈ linker then
        let (state, reply) ← call state c
        if reply = .dropped false then return (⟨state, fuel⟩, none)
        else guest_run linker state fuel (.resume reply)
      else return (⟨state, fuel⟩, none)

/-- Instantiation and calls of the guest's exports. -/
def Store.enter (store : Store T) (linker : Linker) (input : GuestInput) {ε : Type} (e : ε) :
    ExceptT ε (Prog World) (Store T × String) := do
  let (store, result) ← (guest_run linker store.state store.fuel input : Prog World (Store T × Option String))
  match result with
  | some report => return (store, report)
  | none => throw e

end Run
end LanternRuntime.Confined
