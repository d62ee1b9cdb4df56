import IdHub.Authority
import IdHub.EvmEnvironment
import IdHub.Guards

/-!
# The attester of an EAS schema

`AttesterResolver.sol` lets one account attest under a schema, and this account alone can
name the next one.  EAS asks the resolver before it records or revokes an attestation, and
reverts if the resolver says no.  So every attestation was made by whoever the account at
the head of the line of successors was, and no refusal ever keeps one from being revoked.
-/

namespace IdHub

namespace AttesterResolver

open Authority CallTraces Guards

/-- The field of an attestation that the resolver reads. -/
structure Attestation where
  attester : Address

structure State where
  targetAttester : Address

inductive Error where
  | onlyCurrentAttester
  /-- EAS reverts when the resolver returns `false`. -/
  | refused
  deriving DecidableEq

def constructor (targetAttester : Address) : State :=
  ⟨targetAttester⟩

def onAttest (attestation : Attestation) (s : State) : Bool :=
  attestation.attester == s.targetAttester

def onRevoke (_attestation : Attestation) : Bool :=
  true

def setTargetAttester (sender newTargetAttester : Address) (s : State) : Except Error State := do
  revertIf (sender ≠ s.targetAttester) .onlyCurrentAttester
  return { s with targetAttester := newTargetAttester }

inductive Call where
  | attest (attestation : Attestation)
  | revoke (attestation : Attestation)
  | setTargetAttester (sender newTargetAttester : Address)

def step (call : Call) (s : State) : Except Error State :=
  match call with
  | .attest attestation => do
      require (onAttest attestation s = true) .refused
      return s
  | .revoke attestation => do
      require (onRevoke attestation = true) .refused
      return s
  | .setTargetAttester sender newTargetAttester => setTargetAttester sender newTargetAttester s

/-- Who makes a call that only the target attester can make. -/
def Call.byTarget? : Call → Option Address
  | .attest attestation => some attestation.attester
  | .revoke _ => none
  | .setTargetAttester sender _ => some sender

def Call.successor? : Call → Option Address
  | .attest _ => none
  | .revoke _ => none
  | .setTargetAttester _ newTargetAttester => some newTargetAttester

def targetAfter (initial : Address) (calls : List Call) : Address :=
  calls.foldl (fun target call => call.successor?.getD target) initial

variable {call : Call} {calls : List Call} {s t : State}

/-- What a call does: its maker is the target attester, and only a successor changes that. -/
structure Governed (call : Call) (before after : Address) : Prop where
  byTarget : ∀ account, call.byTarget? = some account → account = before
  effect : after = call.successor?.getD before

theorem step_governed (stepped : step call s = .ok t) :
    Governed call s.targetAttester t.targetAttester := by
  cases call with
  | attest attestation =>
      simp only [step, bind_eq_ok, require_eq_ok, pure_eq_ok] at stepped
      obtain ⟨_, admitted, rfl⟩ := stepped
      refine ⟨?_, rfl⟩
      rintro _ ⟨⟩
      simpa [onAttest] using admitted
  | revoke attestation =>
      simp only [step, bind_eq_ok, require_eq_ok, pure_eq_ok] at stepped
      obtain ⟨_, -, rfl⟩ := stepped
      refine ⟨?_, rfl⟩
      rintro _ ⟨⟩
  | setTargetAttester sender newTargetAttester =>
      simp only [step, setTargetAttester, bind_eq_ok, revertIf_eq_ok, pure_eq_ok, not_not,
        ne_eq] at stepped
      obtain ⟨_, isTarget, rfl⟩ := stepped
      refine ⟨?_, rfl⟩
      rintro _ ⟨⟩
      exact isTarget

theorem targetAttester_of_trace (trace : Trace (Succeeds step) s calls t) :
    t.targetAttester = targetAfter s.targetAttester calls := by
  induction trace with
  | nil => rfl
  | cons first rest ih =>
      rw [(step_governed first).effect] at ih
      exact ih

/-- Every attestation was made by the target attester of the moment. -/
theorem attester_of_mem {pre post : List Call} {attestation : Attestation}
    (trace : Trace (Succeeds step) s (pre ++ .attest attestation :: post) t) :
    attestation.attester = targetAfter s.targetAttester pre := by
  obtain ⟨enter, leave, earlier, attested, -⟩ := trace.split_at
  rw [← targetAttester_of_trace earlier]
  exact (step_governed attested).byTarget _ rfl

def regime : Regime Call (Option Address) Unit where
  caller := Call.byTarget?
  reserved call := call.byTarget?.map fun _ => ()
  appoints call := call.successor?.map fun successor => ((), some successor)
  appoints_reserved := by
    intro call
    cases call <;> simp [Call.successor?, Call.byTarget?]

theorem lawful_of_step (stepped : step call s = .ok t) :
    Lawful regime call (fun _ account => account = some s.targetAttester)
      (fun _ account => account = some t.targetAttester) where
  authorized _ reserved := by
    cases made : call.byTarget? with
    | none => simp [regime, made] at reserved
    | some account => simp [regime, made, (step_governed stepped).byTarget account made]
  appointed _ account held := by
    rw [held, (step_governed stepped).effect]
    cases named : call.successor? with
    | none => simp
    | some successor => simp [regime, named]

/-- Accounts that include the first attester and name only each other keep the schema to
themselves. -/
theorem attester_confined {targetAttester : Address}
    (trace : Trace (Succeeds step) (constructor targetAttester) calls s)
    {Trusted : Address → Prop} (founder : Trusted targetAttester)
    (closed : ∀ sender newTargetAttester, .setTargetAttester sender newTargetAttester ∈ calls →
      Trusted sender → Trusted newTargetAttester) :
    Trusted s.targetAttester ∧
      ∀ attestation, .attest attestation ∈ calls → Trusted attestation.attester := by
  have lawful : Trace (Lawful regime) (fun _ account => account = some targetAttester) calls
      (fun _ account => account = some s.targetAttester) :=
    trace.map (fun s _ account => account = some s.targetAttester)
      fun _ _ _ stepped => lawful_of_step stepped
  obtain ⟨holders, callers⟩ := line_of_trace lawful
  have trusted : ∀ account,
      Line regime (fun account => ∃ _ : Unit, account = some targetAttester) calls account →
        ∃ holder, account = some holder ∧ Trusted holder := by
    intro account line
    apply line.confined
    · rintro account ⟨-, rfl⟩
      exact ⟨targetAttester, rfl, founder⟩
    · rintro call member office account ⟨current, isCurrent, currentTrusted⟩ appoints
      cases call with
      | setTargetAttester sender newTargetAttester =>
          cases isCurrent
          cases appoints
          exact ⟨newTargetAttester, rfl, closed _ _ member currentTrusted⟩
      | _ => cases appoints
  constructor
  · obtain ⟨holder, isHolder, holderTrusted⟩ := trusted _ (holders () _ rfl)
    rwa [Option.some.inj isHolder]
  · intro attestation member
    obtain ⟨holder, isHolder, holderTrusted⟩ := trusted _ (callers _ member rfl)
    rwa [show attestation.attester = holder from Option.some.inj isHolder]

end AttesterResolver

end IdHub
