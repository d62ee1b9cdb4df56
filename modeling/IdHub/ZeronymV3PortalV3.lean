import IdHub.EvmEnvironment
import IdHub.Guards

/-!
# The attestation portal

`ZeronymV3PortalV3.sol` overrides the hooks that the registry's abstract portal runs
before it registers attestations.  The abstract portal is not part of the repository,
so it is a parameter: the hooks it has by default, and what a call registers for given
hooks.  The bulk hook is not overridden, so bulk calls of anyone register anything.
-/

namespace IdHub

namespace ZeronymV3PortalV3

open Guards WordBytes

inductive Error where
  | invalidSchemaId
  | invalidAttestor
  | deprecated
  deriving DecidableEq

structure AttestationPayload where
  schemaId : Bytes32
  expirationDate : BitVec 64
  subject : Bytes
  attestationData : Bytes

/-- The caller, the attester that the portal finds for it, and the ETH sent. -/
structure Message where
  sender : Address
  attester : Address
  value : U256

/-- The functions of the abstract portal that create attestations. -/
inductive Entrypoint where
  | attest (attestationPayload : AttestationPayload) (validationPayloads : List Bytes)
  | attestV2 (attestationPayload : AttestationPayload) (validationPayloads : List Bytes)
  | bulkAttest (attestationsPayloads : List AttestationPayload)
      (validationPayloads : List (List Bytes))
  | bulkAttestV2 (attestationsPayloads : List AttestationPayload)
      (validationPayloads : List (List Bytes))

/-- The hooks that run before something is registered.  They see the caller. -/
structure Hooks where
  onAttest : Message → AttestationPayload → Address → U256 → Except Error Unit
  onAttestV2 : Message → AttestationPayload → List Bytes → U256 → Except Error Unit
  onBulkAttest : Message → List AttestationPayload → List (List Bytes) → Except Error Unit

structure AbstractPortal where
  defaultHooks : Hooks
  /-- What a call registers in a portal without modules that has these hooks. -/
  registers : Hooks → Message → Entrypoint → Except Error (List AttestationPayload)

/-- What the portals rely on. -/
structure AbstractPortal.Documented (portal : AbstractPortal) : Prop where
  attest : ∀ hooks m payload validation,
    portal.registers hooks m (.attest payload validation) = (do
      hooks.onAttest m payload m.attester m.value
      return [payload])
  attestV2 : ∀ hooks m payload validation,
    portal.registers hooks m (.attestV2 payload validation) = (do
      hooks.onAttestV2 m payload validation m.value
      return [payload])
  bulkAttest : ∀ hooks m payloads validation,
    portal.registers hooks m (.bulkAttest payloads validation) = (do
      hooks.onBulkAttest m payloads validation
      return payloads)
  bulkAttestV2 : ∀ hooks m payloads validation,
    portal.registers hooks m (.bulkAttestV2 payloads validation) = (do
      hooks.onBulkAttest m payloads validation
      return payloads)
  /-- A hook that a portal does not override does nothing. -/
  defaults : portal.defaultHooks =
    ⟨fun _ _ _ _ => .ok (), fun _ _ _ _ => .ok (), fun _ _ _ => .ok ()⟩

/-- Zeronym's attestor. -/
def attestor : Address := 0xB1f50c6C34C72346b1229e5C80587D0D659556Fd

def zeronymSchemaId : Bytes32 :=
  0x1c14fd320660a59a50eb1f795116193a59c26f2463c0705b79d8cb97aa9f419b

def onAttest (_m : Message) (_attestationPayload : AttestationPayload) (_attester : Address)
    (_value : U256) : Except Error Unit :=
  .error .deprecated

def onAttestV2 (m : Message) (attestationPayload : AttestationPayload)
    (_validationPayloads : List Bytes) (_value : U256) : Except Error Unit := do
  revertIf (m.sender ≠ attestor) .invalidAttestor
  revertIf (attestationPayload.schemaId ≠ zeronymSchemaId) .invalidSchemaId

/-- The hooks of the contract: it overrides two of the three. -/
def hooks (portal : AbstractPortal) : Hooks :=
  { portal.defaultHooks with onAttest := onAttest, onAttestV2 := onAttestV2 }

/-- What the call registers is Zeronym's. -/
def AdmitsZeronymOnly (portal : AbstractPortal) (m : Message) (call : Entrypoint) : Prop :=
  ∀ registered, portal.registers (hooks portal) m call = .ok registered → registered ≠ [] →
    m.sender = attestor ∧ ∀ payload ∈ registered, payload.schemaId = zeronymSchemaId

/-- The payloads that a call passes to the bulk hook. -/
def Entrypoint.bulk : Entrypoint → List AttestationPayload
  | .attest _ _ => []
  | .attestV2 _ _ => []
  | .bulkAttest attestationsPayloads _ => attestationsPayloads
  | .bulkAttestV2 attestationsPayloads _ => attestationsPayloads

variable {portal : AbstractPortal} {m : Message} {payloads registered : List AttestationPayload}

theorem onAttestV2_eq_ok {payload : AttestationPayload} {validation : List Bytes}
    {value : U256} : onAttestV2 m payload validation value = .ok () ↔
      m.sender = attestor ∧ payload.schemaId = zeronymSchemaId := by
  simp only [onAttestV2, bind_eq_ok, revertIf_eq_ok, ne_eq, not_not]
  constructor
  · rintro ⟨-, sender, schema⟩
    exact ⟨sender, schema⟩
  · rintro ⟨sender, schema⟩
    exact ⟨(), sender, schema⟩

/-- The bulk hook lets every caller and every payload pass. -/
theorem registers_bulk (documented : portal.Documented) {call : Entrypoint}
    (nonempty : call.bulk ≠ []) :
    portal.registers (hooks portal) m call = .ok call.bulk := by
  cases call with
  | attest payload validation => exact absurd rfl nonempty
  | attestV2 payload validation => exact absurd rfl nonempty
  | bulkAttest payloads validation =>
      rw [documented.bulkAttest, hooks, documented.defaults]
      rfl
  | bulkAttestV2 payloads validation =>
      rw [documented.bulkAttestV2, hooks, documented.defaults]
      rfl

theorem admits_of_single (documented : portal.Documented) {call : Entrypoint}
    (single : call.bulk = []) : AdmitsZeronymOnly portal m call := by
  intro registered called nonempty
  cases call with
  | attest payload validation =>
      simp [documented.attest, hooks, onAttest, bind, Except.bind] at called
  | attestV2 payload validation =>
      simp only [documented.attestV2, hooks, bind_eq_ok, pure_eq_ok] at called
      obtain ⟨_, passed, rfl⟩ := called
      obtain ⟨sender, schema⟩ := onAttestV2_eq_ok.mp passed
      exact ⟨sender, by simpa using schema⟩
  | bulkAttest payloads validation =>
      simp only [documented.bulkAttest, bind_eq_ok, pure_eq_ok] at called
      obtain ⟨-, -, rfl⟩ := called
      exact absurd single nonempty
  | bulkAttestV2 payloads validation =>
      simp only [documented.bulkAttestV2, bind_eq_ok, pure_eq_ok] at called
      obtain ⟨-, -, rfl⟩ := called
      exact absurd single nonempty

/-- The portal admits only Zeronym's attestations exactly in calls whose bulk payloads,
if there are any, are the attestor's own. -/
theorem admitsZeronymOnly_iff (documented : portal.Documented) (m : Message)
    (call : Entrypoint) :
    AdmitsZeronymOnly portal m call ↔ call.bulk = [] ∨
      (m.sender = attestor ∧ ∀ payload ∈ call.bulk, payload.schemaId = zeronymSchemaId) := by
  constructor
  · intro admits
    by_cases single : call.bulk = []
    · exact .inl single
    · exact .inr (admits call.bulk (registers_bulk documented single) single)
  · rintro (single | zeronym)
    · exact admits_of_single documented single
    · by_cases single : call.bulk = []
      · exact admits_of_single documented single
      · intro registered called _
        rw [registers_bulk documented single, Except.ok.injEq] at called
        rw [← called]
        exact zeronym

section Sample

def samplePortal : AbstractPortal where
  defaultHooks := ⟨fun _ _ _ _ => .ok (), fun _ _ _ _ => .ok (), fun _ _ _ => .ok ()⟩
  registers hooks m
    | .attest payload _ => do
      hooks.onAttest m payload m.attester m.value
      return [payload]
    | .attestV2 payload validation => do
      hooks.onAttestV2 m payload validation m.value
      return [payload]
    | .bulkAttest payloads validation => do
      hooks.onBulkAttest m payloads validation
      return payloads
    | .bulkAttestV2 payloads validation => do
      hooks.onBulkAttest m payloads validation
      return payloads

theorem documented_samplePortal : samplePortal.Documented :=
  ⟨fun _ _ _ _ => rfl, fun _ _ _ _ => rfl, fun _ _ _ _ => rfl, fun _ _ _ _ => rfl, rfl⟩

def stranger : Message := ⟨0x51, 0x51, 0⟩

/-- An attestation under another schema. -/
def otherPayload : AttestationPayload := ⟨0x5c, 2000, [], []⟩

theorem stranger_admitsZeronymOnly_iff :
    AdmitsZeronymOnly samplePortal stranger (.bulkAttest [otherPayload] [[]]) ↔
      (Entrypoint.bulkAttest [otherPayload] [[]]).bulk = [] ∨
        (stranger.sender = attestor ∧
          ∀ payload ∈ (Entrypoint.bulkAttest [otherPayload] [[]]).bulk,
            payload.schemaId = zeronymSchemaId) :=
  admitsZeronymOnly_iff documented_samplePortal stranger _

/-- A stranger registers an attestation under another schema. -/
theorem stranger_registers : samplePortal.Documented ∧
    ¬ AdmitsZeronymOnly samplePortal stranger (.bulkAttest [otherPayload] [[]]) := by
  refine ⟨documented_samplePortal, fun admits => ?_⟩
  have byAttestor := (admits [otherPayload] rfl (List.cons_ne_nil _ _)).1
  exact absurd byAttestor (by decide)

end Sample

end ZeronymV3PortalV3

end IdHub
