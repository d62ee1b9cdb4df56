import IdHub.ZeronymV3PortalV3

/-!
# The earlier attestation portal

`ZeronymV3PortalV2.sol` overrides one hook of the attesting functions, which checks the
schema.  The later portal registers what this one registers, less what its own two checks
keep out: the deprecated function altogether, and the other one unless the attestor calls
it.  The bulk functions register the same in both, whatever it is.
-/

namespace IdHub

namespace ZeronymV3PortalV2

open Guards ZeronymV3PortalV3

def onAttestV2 (_m : Message) (attestationPayload : AttestationPayload)
    (_validationPayloads : List WordBytes.Bytes) (_value : U256) : Except Error Unit :=
  revertIf (attestationPayload.schemaId ≠ zeronymSchemaId) .invalidSchemaId

def hooks (portal : AbstractPortal) : Hooks :=
  { portal.defaultHooks with onAttestV2 := onAttestV2 }

/-- What the later portal lets through of what this one does. -/
def Kept (m : Message) : Entrypoint → Prop
  | .attest _ _ => False
  | .attestV2 _ _ => m.sender = attestor
  | .bulkAttest _ _ => True
  | .bulkAttestV2 _ _ => True

variable {portal : AbstractPortal} {m : Message} {call : Entrypoint}
  {registered : List AttestationPayload}

theorem registers_later_iff (documented : portal.Documented) :
    portal.registers (ZeronymV3PortalV3.hooks portal) m call = .ok registered ↔
      portal.registers (hooks portal) m call = .ok registered ∧ Kept m call := by
  cases call with
  | attest payload validation =>
      simp [documented.attest, ZeronymV3PortalV3.hooks, onAttest, Kept, bind, Except.bind]
  | attestV2 payload validation =>
      simp only [documented.attestV2, ZeronymV3PortalV3.hooks, hooks, bind_eq_ok, pure_eq_ok,
        ZeronymV3PortalV2.onAttestV2, revertIf_eq_ok, ne_eq, not_not, Kept]
      constructor
      · rintro ⟨_, passed, rfl⟩
        obtain ⟨sender, schema⟩ := onAttestV2_eq_ok.mp passed
        exact ⟨⟨(), schema, rfl⟩, sender⟩
      · rintro ⟨⟨_, schema, rfl⟩, sender⟩
        exact ⟨(), onAttestV2_eq_ok.mpr ⟨sender, schema⟩, rfl⟩
  | bulkAttest payloads validation =>
      simp [documented.bulkAttest, ZeronymV3PortalV3.hooks, hooks, Kept]
  | bulkAttestV2 payloads validation =>
      simp [documented.bulkAttestV2, ZeronymV3PortalV3.hooks, hooks, Kept]

/-- The deprecated function of this portal registers everything for everyone. -/
theorem registers_attest (documented : portal.Documented) (payload : AttestationPayload)
    (validation : List WordBytes.Bytes) :
    portal.registers (hooks portal) m (.attest payload validation) = .ok [payload] := by
  rw [documented.attest, hooks, documented.defaults]
  rfl

end ZeronymV3PortalV2

end IdHub
