import LanternRuntime.Confined.Effects
import LanternRuntime.Confined.Reference
/-!
# Verify before use

`Ordered` spells out, for the trace of a run, what has to have happened before
each kind of call. `verified_before_use` shows it of every run of
`host_the_guest`, whatever its outside answers, and the same of
`load_verified_component` with the caller's key.
-/
open ProgLib

namespace LanternRuntime.Confined
open Host

section Ordered
variable [Abi]

/-- `decoded` is a function of the trace, so these are all about one package. -/
structure Ordered (tr : Events) : Prop where
  /-- Only the verified component is deserialized. -/
  deserialize : ∀ {pre post cwasm ans}, tr = pre ++ ⟨.deserialize cwasm, ans⟩ :: post →
    ∃ package, Trusted pre package ∧ cwasm = package.cwasm_bytes
  /-- Only the verified manifest is parsed. -/
  parse : ∀ {pre post manifest ans}, tr = pre ++ ⟨.parse_bytes manifest, ans⟩ :: post →
    ∃ package, Trusted pre package ∧ manifest = package.manifest_bytes
  /-- It is parsed once, right after the check, so there is one plan. -/
  parse_once : ∀ {pre post manifest ans}, tr = pre ++ ⟨.parse_bytes manifest, ans⟩ :: post →
    ∀ e ∈ pre, e.call.isCheck = true
  /-- The binder hears nothing before both. -/
  binder : ∀ {pre e post}, tr = pre ++ e :: post → e.call.isBinder = true → ∃ package plan, Planned pre package plan
  /-- Only the one declared interface is requested. -/
  interface : ∀ {pre post endpoint dest interface slot ans},
    tr = pre ++ ⟨.bind endpoint dest interface slot, ans⟩ :: post →
    ∃ package plan s, Planned pre package plan ∧ plan.declared = some s ∧ interface = interfaceNumber s
  /-- The guest runs after the binder's answer. -/
  guest : ∀ {pre post input ans}, tr = pre ++ ⟨.guest input, ans⟩ :: post →
    ∃ package plan s granted, Planned pre package plan ∧ plan.declared = some s ∧ Answered pre s granted
  /-- Without verification there is nothing but the check. -/
  untrusted : (∀ package, ¬ Trusted tr package) → ∀ e ∈ tr, e.call.isCheck = true

theorem ordered_of_allowed {tr : Events} (h : ∀ pre e post, tr = pre ++ e :: post → Allowed pre e.call) :
    Ordered tr where
  deserialize := by
    intro pre post cwasm ans he
    obtain ⟨package, s, ⟨plan, granted, hp, -⟩, hcwasm⟩ := h _ _ _ he
    exact ⟨package, hp.1, hcwasm⟩
  parse := fun he => (h _ _ _ he).1
  parse_once := fun he => (h _ _ _ he).2
  binder := by
    intro pre e post he hbinder
    have hallowed := h _ _ _ he
    -- The binder's answer already presupposes the plan.
    have hready : (∃ package s, Ready pre package s) → ∃ package plan, Planned pre package plan := by
      rintro ⟨package, s, plan, granted, hp, -⟩
      exact ⟨package, plan, hp⟩
    obtain ⟨call, ans⟩ := e
    cases call with
    | bind =>
      obtain ⟨package, plan, s, hp, -⟩ := hallowed
      exact ⟨package, plan, hp⟩
    | list => exact hready hallowed
    | revoke => exact hready hallowed
    | _ => cases hbinder
  interface := fun he => h _ _ _ he
  guest := by
    intro pre post input ans he
    have hready : ∃ package s, Ready pre package s := by
      have hallowed := h _ _ _ he
      unfold Allowed at hallowed
      split at hallowed
      case h_8 => exact hallowed.1
      case h_9 => exact hallowed
      all_goals contradiction
    obtain ⟨package, s, plan, granted, hp, hs, ha⟩ := hready
    exact ⟨package, plan, s, granted, hp, hs, ha⟩
  untrusted := by
    intro hnone e he
    by_contra hcheck
    obtain ⟨pre, post, rfl⟩ := List.append_of_mem he
    obtain ⟨package, ht⟩ := (h pre e post rfl).trusted (by simpa using hcheck)
    exact hnone package (ht.mono (List.prefix_append ..))

end Ordered

/-- What `load_verified_component` does before a `deserialize`. -/
def Checked (cwasm : Bytes) (public_key : PublicKey) (signature : Signature) (tr : Events) : WorldCall → Prop
  | .deserialize bytes => bytes = cwasm ∧ (⟨.signing_verify public_key cwasm signature, true⟩ : Event World) ∈ tr
  | .signing_verify .. => True
  | _ => False

theorem load_verified_component_ensures (cwasm : Bytes) (public_key : PublicKey) (signature : Signature) :
    Ensures (Checked cwasm public_key signature) (fun _ _ => True)
      (load_verified_component cwasm public_key signature).run [] := by
  refine ⟨trivial, fun (genuine : Bool) => ?_⟩
  cases genuine with
  | false => trivial
  | true =>
    refine ⟨⟨rfl, List.mem_append_right _ (List.mem_singleton.2 rfl)⟩, fun (ans : Except WasmError Component) => ?_⟩
    cases ans <;> trivial

/-- On both load paths, in every run: `deserialize` only gets bytes whose signature was verified
before, under the caller's key or a trusted publisher's; and the rest of `Ordered`. -/
theorem verified_before_use [Crates] [Abi] (T : ResourceTable) {cwasm : Bytes} {public_key : PublicKey}
    {signature : Signature} {len : Nat} {tr₁ tr₂ : Events} {o₁ : Outcome (Except LoadError Component)}
    {o₂ : Outcome (Except (Stage × Nat) Unit)}
    (h₁ : Runs (load_verified_component cwasm public_key signature).run tr₁ o₁)
    (h₂ : Runs (host_the_guest T len).run tr₂ o₂) :
    (∀ pre bytes ans post, tr₁ = pre ++ ⟨.deserialize bytes, ans⟩ :: post →
      bytes = cwasm ∧ ⟨.signing_verify public_key cwasm signature, true⟩ ∈ pre) ∧
    Ordered tr₂ := by
  constructor
  · intro pre bytes ans post he
    exact ((load_verified_component_ensures cwasm public_key signature).sound h₁).2 pre _ post he
  · apply ordered_of_allowed
    intro pre e post he
    exact ((host_the_guest_ensures T len).sound h₂).2 pre e post he

/-- The keystore demo, and a bare component under the first trusted key. -/
theorem verified_before_use_keystore :
    letI := lengthPrefixed
    letI := abiNumbers
    (∀ pre bytes ans post,
      (load_verified_component [0x77] (zeros 32) (zeros 64)).run.trace keystoreWorld false =
        pre ++ ⟨.deserialize bytes, ans⟩ :: post →
      bytes = [0x77] ∧ ⟨.signing_verify (zeros 32) [0x77] (zeros 64), true⟩ ∈ pre) ∧
    Ordered ((host_the_guest (slabTable Entry 4 (by decide)) 16).run.trace keystoreWorld false) :=
  letI := lengthPrefixed
  letI := abiNumbers
  verified_before_use _ (runs_run keystoreWorld _ false) (runs_run keystoreWorld _ false)

end LanternRuntime.Confined
