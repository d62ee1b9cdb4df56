import IdHub.CallTraces
import Mathlib.Data.Option.Basic

/-!
# Offices and who can come to hold them

Some calls are reserved to the holders of an office, and only reserved calls put
accounts into offices.  So whoever holds an office was appointed along a line that
starts with a first holder, and a set of accounts that appoints only its own members
keeps every office to itself.
-/

namespace Authority

open CallTraces

variable {Call Account Office : Type*}

structure Regime (Call Account Office : Type*) where
  caller : Call → Account
  /-- The office that the call is reserved to. -/
  reserved : Call → Option Office
  /-- The office that the call fills, and with whom. -/
  appoints : Call → Option (Office × Account)
  appoints_reserved : ∀ call, (appoints call).isSome → (reserved call).isSome

variable (regime : Regime Call Account Office)

/-- The call was made by a holder of the office that it is reserved to, and whoever holds
an office afterwards held it before or was appointed to it. -/
structure Lawful (call : Call) (before after : Office → Account → Prop) : Prop where
  authorized : ∀ office, regime.reserved call = some office →
    before office (regime.caller call)
  appointed : ∀ office account, after office account →
    before office account ∨ regime.appoints call = some (office, account)

/-- The accounts that a line of appointments among the calls leads to. -/
inductive Line (founders : Account → Prop) (calls : List Call) : Account → Prop
  | founder {account : Account} (first : founders account) : Line founders calls account
  | appointed {call : Call} {office : Office} {account : Account} (member : call ∈ calls)
      (appointer : Line founders calls (regime.caller call))
      (appoints : regime.appoints call = some (office, account)) :
      Line founders calls account

variable {regime} {before after : Office → Account → Prop} {calls : List Call}
variable {founders : Account → Prop}

/-- What holds of the founders and passes from appointers to whom they appoint. -/
theorem Line.confined {Trusted : Account → Prop} {account : Account}
    (line : Line regime founders calls account)
    (start : ∀ account, founders account → Trusted account)
    (closed : ∀ call ∈ calls, ∀ office account, Trusted (regime.caller call) →
      regime.appoints call = some (office, account) → Trusted account) :
    Trusted account := by
  induction line with
  | founder first => exact start _ first
  | appointed member _ appoints appointer => exact closed _ member _ _ appointer appoints

/-- Each step keeps the offices within the line of all the calls. -/
theorem lines_of_trace {all : List Call} (trace : Trace (Lawful regime) before calls after)
    (subset : ∀ call ∈ calls, call ∈ all)
    (start : ∀ office account, before office account → Line regime founders all account) :
    (∀ office account, after office account → Line regime founders all account) ∧
      ∀ call ∈ calls, (regime.reserved call).isSome →
        Line regime founders all (regime.caller call) := by
  induction trace with
  | nil => exact ⟨start, by simp⟩
  | @cons call before middle after calls first rest ih =>
      have authorized : (regime.reserved call).isSome →
          Line regime founders all (regime.caller call) := by
        intro reserved
        obtain ⟨office, isReserved⟩ := Option.isSome_iff_exists.mp reserved
        exact start office _ (first.authorized office isReserved)
      have next : ∀ office account, middle office account →
          Line regime founders all account := by
        intro office account held
        rcases first.appointed office account held with already | appoints
        · exact start office account already
        · have reserved := regime.appoints_reserved call (by simp [appoints])
          exact .appointed (subset call List.mem_cons_self) (authorized reserved) appoints
      have members : ∀ call ∈ calls, call ∈ all :=
        fun call member => subset call (List.mem_cons_of_mem _ member)
      obtain ⟨holders, callers⟩ := ih members next
      exact ⟨holders, List.forall_mem_cons.mpr ⟨authorized, callers⟩⟩

/-- Every holder of an office, and everyone who made a reserved call, is in the line of the
first holders. -/
theorem line_of_trace (trace : Trace (Lawful regime) before calls after) :
    (∀ office account, after office account →
        Line regime (fun account => ∃ office, before office account) calls account) ∧
      ∀ call ∈ calls, (regime.reserved call).isSome →
        Line regime (fun account => ∃ office, before office account) calls
          (regime.caller call) :=
  lines_of_trace trace (fun _ member => member) fun office _ held => .founder ⟨office, held⟩

/-- When nobody holds the office that every appointment is reserved to, nobody gains an
office any more. -/
theorem vacant_of_trace {root : Office}
    (rooted : ∀ call, (regime.appoints call).isSome → regime.reserved call = some root)
    (trace : Trace (Lawful regime) before calls after)
    (vacant : ∀ account, ¬ before root account) :
    (∀ office account, after office account → before office account) ∧
      ∀ call ∈ calls, regime.reserved call ≠ some root := by
  induction trace with
  | nil => exact ⟨fun _ _ held => held, by simp⟩
  | @cons call before middle after calls first rest ih =>
      have unreserved : regime.reserved call ≠ some root :=
        fun reserved => vacant _ (first.authorized root reserved)
      have kept : ∀ office account, middle office account → before office account := by
        intro office account held
        refine (first.appointed office account held).resolve_right ?_
        intro appoints
        exact unreserved (rooted call (by simp [appoints]))
      obtain ⟨holders, callers⟩ := ih fun account held => vacant account (kept root account held)
      refine ⟨fun office account held => kept office account (holders office account held), ?_⟩
      exact List.forall_mem_cons.mpr ⟨unreserved, callers⟩

end Authority
