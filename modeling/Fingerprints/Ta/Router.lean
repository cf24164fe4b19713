import Fingerprints.Runs.History
import Fingerprints.Ta.Bio
import Fingerprints.Ta.Fs
import Fingerprints.Ta.Pn

/-!
# The router and its runs

`fpc_ta_router.c` hands every message to the module it is addressed to. An `Event` is one message
with what the application got from outside while it handled it, the state before, and what the
handler left. A run of the application is a sequence of events from the state after `init`; a
command that faults has no successor, and the run ends before it.
-/

namespace Fpc

open Wire Wire.Outcome

/-- The modules a message can be addressed to. Those that share no state with the ones modelled
are `other`. -/
inductive Target where
  | fs
  | hwAuth
  | dbBlob
  | sensor
  | bio
  | pn
  | other
  deriving DecidableEq, Repr

def Target.ofWord (target : UInt32) : Option Target :=
  if target = 2 then some .fs
  else if target = 3 then some .hwAuth
  else if target = 4 then some .dbBlob
  else if target = 10 then some .sensor
  else if target = 11 then some .bio
  else if target = 13 then some .pn
  -- sensor test, engineering, navigation, KPI, common
  else if target = 5 ∨ target = 6 ∨ target = 8 ∨ target = 9 ∨ target = 12 then some .other
  else none

/-- A module whose state is not modelled: it may write anything into the message. -/
def otherHandler (env : Env) (ta : Ta) (msg : List UInt8) : Outcome Handled :=
  .ok { ta := ta, msg := overFront msg env.other.2, status := env.other.1.toInt }

def fpcTaSensorCaptureImageCmd : UInt32 := 3

/-- `fpc_ta_sensor_command_handler`, of which the state here knows the time of a captured
image. -/
def fpcTaSensorCommandHandler (env : Env) (ta : Ta) (msg : List UInt8) : Outcome Handled := do
  let command ← load32 msg offCommand
  if command = fpcTaSensorCaptureImageCmd ∧ env.captured = true then
    otherHandler env { ta with imageTimestamp := env.uptime } msg
  else otherHandler env ta msg

/-- The handler of a module. -/
def handleMessage (P : Platform) (env : Env) (ta : Ta) (msg : List UInt8) :
    Target → Outcome Handled
  | .fs => fpcTaFsHandler env ta msg
  | .hwAuth => fpcTaHwAuthHandler P env ta msg
  | .dbBlob => fpcTaDbBlobHandler P env ta msg
  | .sensor => fpcTaSensorCommandHandler env ta msg
  | .bio => fpcTaBioCommandHandler P env ta msg
  | .pn => fpcTaPnCommandHandler P env ta msg
  | .other => otherHandler env ta msg

/-- `fpc_ta_route_command` -/
def fpcTaRouteCommand (P : Platform) (env : Env) (ta : Ta) (msg : List UInt8) :
    Outcome Handled :=
  if msg.length < sizeofHeader then .ok (.rejected ta msg (-fpcErrorInput))
  else do
    let key ← load32 msg offTarget
    match Target.ofWord key with
    | some target => handleMessage P env ta msg target
    | none => .ok (.rejected ta msg (-fpcErrorConfig))

/-- `fpc_ta_bio_init`, as far as it sets the instance. -/
def fpcTaBioInit (env : Env) : Outcome Bio :=
  match fpcDbCreate env.db none 0 with
  | .fault f => .fault f
  | .err _ => .err (-fpcErrorAlloc)
  | .ok db =>
      .ok { userDb := some db, activeSetKey := invalidFingerprintSetKey,
            identData := IdentifyData.zeroed, enrollData := EnrollData.zeroed,
            list := Vector.replicate fpcDbFingerprintsInSet { tpl := none, size := 0 },
            sizeList := 0,
            matchResult :=
              { timestamp := 0, templateId := 0, templateId256 := Id256.filled 0 } }

/-- `fpc_ta_hw_auth_init`, over data that is zero before it. -/
def fpcTaHwAuthInit : HwAuthTa :=
  { incomingChallenge := 0, outgoingChallenge := 0, outgoingTimestamp := 0xFFFFFFFFFFFFFFFF,
    incomingToken := Token.zeroed, hmacKey := Vector.replicate 32 0,
    hmacKeyInitialized := false }

/-- `fpc_ta_router_init`: the state in which commands are first accepted. -/
def fpcTaRouterInit (env : Env) : Outcome Ta := do
  let bio ← fpcTaBioInit env
  .ok { bio := bio, hwAuth := fpcTaHwAuthInit, transfer := Transfer.closed,
        pnSecurity := { outgoingChallenge := 0, challengeTimestamp := 0xFFFFFFFFFFFFFFFF,
                        incomingToken := Token.zeroed },
        imageTimestamp := 0xFFFFFFFFFFFFFFFF }

/-! ## Runs -/

/-- One command: the message, what the application got from outside, the state before, and what
the handler left. -/
structure Event where
  env : Env
  msg : List UInt8
  pre : Ta
  result : Handled

/-- The application on a platform. -/
def taSystem (P : Platform) : Runs.System Ta Event where
  init ta := ∃ env, fpcTaRouterInit env = .ok ta
  step ta e ta' :=
    e.pre = ta ∧ fpcTaRouteCommand P e.env ta e.msg = .ok e.result ∧ e.result.ta = ta'

/-- The commands of the modules, as the router and the handlers take them up. -/
inductive Command where
  | fs (cmd : FsCmd)
  | hwAuth (cmd : HwAuthCmd)
  | dbBlob (cmd : DbBlobCmd)
  | bio (cmd : BioCmd)
  | pn (cmd : PnCmd)
  deriving DecidableEq, Repr

/-- The command that the handler of a module takes up. -/
def moduleCommand (msg : List UInt8) : Target → Option Command
  | .fs => (fsCmd msg).map .fs
  | .hwAuth => (hwAuthCmd msg).map .hwAuth
  | .dbBlob => (dbBlobCmd msg).map .dbBlob
  | .bio => (bioCmd msg).map .bio
  | .pn => (pnCmd msg).map .pn
  | .sensor => none
  | .other => none

/-- The command of a message, where it is one of a modelled module and is not rejected. -/
def commandOf (msg : List UInt8) : Option Command :=
  if msg.length < sizeofHeader then none
  else (Target.ofWord (field32 msg offTarget)).bind (moduleCommand msg)

/-- The `int` that the handler of an event put at an offset of the message. -/
def Event.resultAt (e : Event) (off : Nat) : Int := toInt32 (field32 e.result.msg off)

/-- The response, where byte array messages and the bio commands have it. -/
def Event.response (e : Event) : Int := e.resultAt offResponse

/-- The response, where the commands with a challenge have it. -/
def Event.challengeResponse (e : Event) : Int := e.resultAt offChallengeResponse

/-- The event is the given command. -/
def Event.is (cmd : Command) (e : Event) : Bool := commandOf e.msg == some cmd

/-- The commands of a list, one after the other, on top of a history. -/
def execute (P : Platform) (history : List Event) (ta : Ta) :
    List (Env × List UInt8) → Outcome (List Event × Ta)
  | [] => .ok (history, ta)
  | (env, msg) :: rest => do
      let result ← fpcTaRouteCommand P env ta msg
      let e : Event := { env := env, msg := msg, pre := ta, result := result }
      execute P (e :: history) result.ta rest

/-- What is executed is a run. Induction on the commands. -/
theorem execute_run {P : Platform} {history history' : List Event} {ta ta' : Ta}
    {commands : List (Env × List UInt8)} (hrun : (taSystem P).Run history ta)
    (h : execute P history ta commands = .ok (history', ta')) :
    (taSystem P).Run history' ta' := by
  induction commands generalizing history ta with
  | nil =>
    cases h
    exact hrun
  | cons command commands ih =>
    obtain ⟨result, hroute, hrest⟩ := bind_eq_ok.mp h
    apply ih _ hrest
    exact .step hrun ⟨rfl, hroute, rfl⟩

/-- The events of executed commands are of these commands. Induction on the commands. -/
theorem mem_execute {P : Platform} {history history' : List Event} {ta ta' : Ta} {e : Event}
    {commands : List (Env × List UInt8)}
    (h : execute P history ta commands = .ok (history', ta')) (hmem : e ∈ history') :
    e ∈ history ∨ (e.env, e.msg) ∈ commands := by
  induction commands generalizing history ta with
  | nil =>
    cases h
    exact Or.inl hmem
  | cons command commands ih =>
    obtain ⟨result, _, hrest⟩ := bind_eq_ok.mp h
    cases ih hrest with
    | inl hmem' =>
      cases hmem' with
      | head => exact Or.inr List.mem_cons_self
      | tail _ hold => exact Or.inl hold
    | inr hmem' => exact Or.inr (List.mem_cons_of_mem _ hmem')

/-- What is decided of the state after executed commands holds at the end of a run of them. -/
theorem execute_decided (P : Platform) (commands : List (Env × List UInt8))
    (p : List Event → Ta → Prop) [∀ history ta, Decidable (p history ta)]
    (h : (fpcTaRouterInit .willing >>= fun ta => execute P [] ta commands >>= fun r =>
      .ok (decide (p r.1 r.2))) = .ok true) :
    ∃ history ta, (taSystem P).Run history ta ∧
      (∀ e ∈ history, (e.env, e.msg) ∈ commands) ∧ p history ta := by
  obtain ⟨start, hinit, h⟩ := bind_eq_ok.mp h
  obtain ⟨⟨history, ta⟩, hexecute, h⟩ := bind_eq_ok.mp h
  injection h with hp
  refine ⟨history, ta, execute_run (.init ⟨_, hinit⟩) hexecute, ?_, of_decide_eq_true hp⟩
  intro e hmem
  exact (mem_execute hexecute hmem).resolve_left (List.not_mem_nil)

section

variable {P : Platform} {env : Env} {ta : Ta} {msg : List UInt8}

/-- What `init` leaves: a database without a set, and no match. -/
theorem fpcTaRouterInit_ok (h : fpcTaRouterInit env = .ok ta) :
    ∃ db, fpcDbCreate env.db none 0 = .ok db ∧ ta.bio.userDb = some db ∧
      ta.bio.matchResult.templateId256 = Id256.filled 0 := by
  obtain ⟨bio, hbio, h⟩ := bind_eq_ok.mp h
  cases h
  unfold fpcTaBioInit at hbio
  split at hbio
  · cases hbio
  · cases hbio
  · next db hcreate =>
    cases hbio
    exact ⟨db, hcreate, rfl, rfl⟩

/-- A message that reaches a handler is handled by it, and one that does not changes nothing. -/
theorem fpcTaRouteCommand_cases {r : Handled} (h : fpcTaRouteCommand P env ta msg = .ok r) :
    (∃ target, sizeofHeader ≤ msg.length ∧
        Target.ofWord (field32 msg offTarget) = some target ∧
        handleMessage P env ta msg target = .ok r) ∨
      (commandOf msg = none ∧ r.ta = ta) := by
  unfold fpcTaRouteCommand at h
  split at h
  · next hlen =>
    cases h
    exact Or.inr ⟨if_pos hlen, rfl⟩
  · next hlen =>
    unfold sizeofHeader at hlen
    rw [load32_eq (by unfold offTarget; omega), ok_bind] at h
    split at h
    · next target htarget => exact Or.inl ⟨target, by unfold sizeofHeader; omega, htarget, h⟩
    · next hnone =>
      cases h
      refine Or.inr ⟨?_, rfl⟩
      unfold commandOf
      rw [hnone]
      exact ite_self none

/-- The handler that a command reaches. -/
theorem fpcTaRouteCommand_of_target {target : Target} (hlen : sizeofHeader ≤ msg.length)
    (h : Target.ofWord (field32 msg offTarget) = some target) :
    fpcTaRouteCommand P env ta msg = handleMessage P env ta msg target := by
  unfold sizeofHeader at hlen
  unfold fpcTaRouteCommand sizeofHeader
  rw [if_neg (by omega), load32_eq (by unfold offTarget; omega), ok_bind, h]

end

end Fpc
