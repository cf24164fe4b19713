import Fingerprints.Hal.Calls

/-!
# Authentication sessions

`do_authenticate` of `fpc_tee_hal.c` in all its builds, with `capture_image` and
`sense_touch_capture_image`. What the calls of the client library return is arbitrary here, but for the
answers, which it sets where it returns 0. The KPI log is left out, and what the engineering interface is
told of an image.

* **`AuthInv.step`**: what was reported and what the loop has counted agree at each place of it, and no
  id is left from an image before;
* **`authSession_ok`**: so in every run a session reports at most `FPC_MAX_FAILED_ATTEMPTS` times that
  no finger matched, at most once that one did, nothing of either kind behind that, and that only right
  behind a token that was got for it;
* **`doAuthenticate_session`**: the task of the device, on what the application answers, reports what
  a session does.
-/

namespace Fpc.AuthSession

open Runs

/-! ## The task -/

def fpcCaptureRetry : Int := 5

/-- What the task is built with: `FPC_CONFIG_HW_AUTH`, `FPC_CONFIG_ENGINEERING` and
`FPC_CONFIG_FORCE_SENSOR`. -/
structure AuthBuild where
  hwAuth : Bool
  engineering : Bool
  forceSensor : Bool
  deriving DecidableEq, Repr

/-- Where the task waits for the result of a call. -/
inductive AuthPlace
  | setAuthChallenge
  | capture
  | buttonDown
  | buttonUp
  | identify
  | authResult
  | updateMatched
  | updateFailed
  | returned
  deriving DecidableEq, Repr

/-- The result of a call. With a capture comes whether the image was injected, and with the results of
the sensor whether the configuration, as it is read behind them, asks for a force that presses the
button and for one that releases it. An identification and an update bring the answer that the client
sets where they return 0, and an identification what lies in the array `hat` where no token is asked
for. -/
inductive AuthResult
  | setAuthChallenge (status : Int)
  | capture (injected down up : Bool) (status : Int)
  | buttonDown (up : Bool) (status : Int)
  | buttonUp (status : Int)
  | identify (status : Int) (answer : UInt32) (hat : List UInt8)
  | authResult (status : Int) (hat : List UInt8)
  | updateTemplate (status : Int) (answer : UInt32)
  deriving DecidableEq, Repr

/-- What a session does: it calls back, identifies an image, gets a token while `id` is what it is, and
stores the database. -/
inductive AuthEvent
  | callback (c : Callback)
  | identified (status : Int) (answer : UInt32)
  | token (id : UInt32) (status : Int)
  | storeTemplateDb
  deriving DecidableEq, Repr

/-- A session: the place, the variables of the task, and what it did, the latest first. -/
structure Session where
  place : AuthPlace
  id : UInt32
  update : UInt32
  failedAttempts : Nat
  trace : List AuthEvent
  deriving DecidableEq, Repr

def Session.at (s : Session) (place : AuthPlace) : Session := { s with place := place }

def Session.did (s : Session) (e : AuthEvent) : Session := { s with trace := e :: s.trace }

@[simp] theorem Session.did_id (s : Session) (e : AuthEvent) : (s.did e).id = s.id := rfl

section

variable (build : AuthBuild) (gid : UInt32)

/-- The label `out`. -/
def leave (status : Int) (s : Session) : Session :=
  if status = 0 ∨ status = -fpcErrorCancelled then s.at .returned
  else (s.did (.callback (.onError halCompatErrorHwUnavailable))).at .returned

/-- The end of an attempt that matched no finger. -/
def countFailed (s : Session) : Session :=
  match failedAttempt s.failedAttempts with
  | some status => leave status { s with failedAttempts := s.failedAttempts + 1 }
  | none => { s with failedAttempts := s.failedAttempts + 1, place := .capture }

/-- `do_authenticate` behind the capture. -/
def captured (status : Int) (s : Session) : Session :=
  if build.forceSensor = true ∧ status = fpcCaptureRetry then s.at .capture
  else if status = fpcCaptureQualifyAbort ∨ status = fpcCaptureFingerStuck then
    countFailed (s.did (.callback (.onAuthenticated 0 gid [])))
  else if status ≠ fpcCaptureOk then leave status s
  else s.at .identify

/-- `sense_touch_capture_image` behind the wait for a force that presses the button. -/
def pressed (up : Bool) (status : Int) (s : Session) : Session :=
  if build.forceSensor = true ∧ status = fpcCaptureOk ∧ up = true then s.at .buttonUp
  else captured build gid status s

/-- `sense_touch_capture_image` behind the capture. -/
def touched (down up : Bool) (status : Int) (s : Session) : Session :=
  if build.forceSensor = true ∧ status = fpcCaptureOk ∧ down = true then s.at .buttonDown
  else pressed build gid up status s

/-- `fpc_tee_store_template_db`, where templates were updated. -/
def storeUpdate (s : Session) : Session := if s.update ≠ 0 then s.did .storeTemplateDb else s

/-- A finger that matched is reported. -/
def matched (hat : List UInt8) (s : Session) : Session :=
  (s.did (.callback (.onAuthenticated s.id gid hat))).at .updateMatched

/-- `do_authenticate` behind an identification. -/
def identified (status : Int) (hat : List UInt8) (s : Session) : Session :=
  if status < 0 then leave status s
  else if status = fpcCaptureBadQuality then
    (s.did (.callback (.onAcquired halCompatAcquiredInsufficient))).at .capture
  else
    let s := s.did (.callback (.onAcquired halCompatAcquiredGood))
    if s.id ≠ 0 then
      if build.hwAuth then s.at .authResult else matched gid hat s
    else (s.did (.callback (.onAuthenticated 0 gid []))).at .updateFailed

/-- The task goes on by a result, where it waits for one of that kind. -/
def authStep (s : Session) (result : AuthResult) : Option Session :=
  match s.place, result with
  | .setAuthChallenge, .setAuthChallenge status =>
      some (if status ≠ 0 then leave status s else s.at .capture)
  | .capture, .capture injected down up status =>
      some (if injected = false ∧ status = fpcCaptureFingerLost then
          s.did (.callback (.onAcquired halCompatAcquiredTooFast))
        else touched build gid down up status s)
  | .buttonDown, .buttonDown up status =>
      some (pressed build gid up
        (if status = -fpcErrorTimedout ∨ status = fpcCaptureFingerLost then
          fpcCaptureRetry else status) s)
  | .buttonUp, .buttonUp status =>
      some (captured build gid
        (if status = -fpcErrorTimedout then fpcCaptureRetry else status) s)
  | .identify, .identify status answer hat =>
      let s := { s with id := if status = 0 then answer else s.id }.did (.identified status answer)
      some (identified build gid status hat s)
  | .authResult, .authResult status hat =>
      let s := s.did (.token s.id status)
      some (if status ≠ 0 then leave status s else matched gid hat s)
  | .updateMatched, .updateTemplate status answer =>
      some (if status ≠ 0 then leave status s else leave 0 (storeUpdate { s with update := answer }))
  | .updateFailed, .updateTemplate status answer =>
      some (if status ≠ 0 then leave status s else countFailed (storeUpdate { s with update := answer }))
  | _, _ => none

/-- The task before its first call. -/
def authStart : Session where
  place := if build.hwAuth then .setAuthChallenge else .capture
  id := 0
  update := 0
  failedAttempts := 0
  trace := []

/-- Images are injected where the engineering interface is built in. -/
def AuthResult.Possible : AuthResult → Prop
  | .capture injected _ _ _ => injected = true → build.engineering = true
  | _ => True

/-- Sessions, on results of any kind. -/
def authSystem : System Session AuthResult where
  init s := s = authStart build
  step s result s' := result.Possible build ∧ authStep build gid s result = some s'

end

/-! ## What a session reports -/

/-- No finger matched, for the framework. -/
def AuthEvent.failed : AuthEvent → Bool
  | .callback (.onAuthenticated fid _ _) => fid = 0
  | _ => false

/-- A finger matched. -/
def AuthEvent.matched : AuthEvent → Bool
  | .callback (.onAuthenticated fid _ _) => fid ≠ 0
  | _ => false

/-- An image was identified as a finger in front of this. -/
def IdentifiedAs (fid : UInt32) (past : List AuthEvent) : Prop :=
  ∃ before, past = .callback (.onAcquired halCompatAcquiredGood) :: .identified 0 fid :: before

/-- An image was identified as a finger, and a token was got for it. -/
def TokenFor (fid : UInt32) (past : List AuthEvent) : Prop :=
  ∃ before, past = .token fid 0 :: before ∧ IdentifiedAs fid before

/-- The attempts that failed are bounded. A match is the last thing that is said of an attempt, and
right in front of it a token was got for its finger where tokens are used. -/
structure SessionOk (build : AuthBuild) (trace : List AuthEvent) : Prop where
  bounded : trace.countP AuthEvent.failed ≤ fpcMaxFailedAttempts
  last : ∀ later e past, trace = later ++ e :: past → e.matched = true →
    ∀ e' ∈ later, e'.failed = false ∧ e'.matched = false
  token : ∀ later past fid gid hat, build.hwAuth = true → fid ≠ 0 →
    trace = later ++ .callback (.onAuthenticated fid gid hat) :: past → TokenFor fid past

/-! ## What the loop has counted -/

/-- No finger matched so far, and `failed_attempts` is what was reported, but for attempts that it does
not count yet. -/
structure Session.Open (s : Session) (uncounted : Nat) : Prop where
  counted : s.trace.countP AuthEvent.failed = s.failedAttempts + uncounted
  few : s.failedAttempts < fpcMaxFailedAttempts
  unmatched : ∀ e ∈ s.trace, e.matched = false

/-- What holds at each place of the task. No id is left from an image before. -/
def AuthInv (build : AuthBuild) (s : Session) : Prop :=
  match s.place with
  | .setAuthChallenge | .capture | .buttonDown | .buttonUp | .identify => s.Open 0 ∧ s.id = 0
  | .authResult => s.Open 0 ∧ s.id ≠ 0 ∧ IdentifiedAs s.id s.trace
  | .updateFailed => s.Open 1 ∧ s.id = 0
  | .updateMatched | .returned => SessionOk build s.trace

theorem Session.Open.did {s : Session} {n : Nat} {e : AuthEvent} (h : s.Open n)
    (hfailed : e.failed = false) (hmatched : e.matched = false) : (s.did e).Open n where
  counted := by
    have hcount : (s.did e).trace.countP AuthEvent.failed = s.trace.countP AuthEvent.failed :=
      List.countP_cons_of_neg (by rw [hfailed]; decide)
    rw [hcount]
    exact h.counted
  few := h.few
  unmatched := List.forall_mem_cons.mpr ⟨hmatched, h.unmatched⟩

theorem Session.Open.didFail {s : Session} {gid : UInt32} {hat : List UInt8} (h : s.Open 0) :
    (s.did (.callback (.onAuthenticated 0 gid hat))).Open 1 where
  counted := by
    have hcount : (s.did (.callback (.onAuthenticated 0 gid hat))).trace.countP AuthEvent.failed =
        s.trace.countP AuthEvent.failed + 1 := List.countP_cons_of_pos rfl
    rw [hcount, h.counted]
    rfl
  few := h.few
  unmatched := List.forall_mem_cons.mpr ⟨rfl, h.unmatched⟩

theorem Session.Open.at {s : Session} {n : Nat} (h : s.Open n) (place : AuthPlace) :
    (s.at place).Open n := ⟨h.counted, h.few, h.unmatched⟩

section

variable {build : AuthBuild} {gid : UInt32} {s : Session}

/-- While no finger matched nothing is wrong yet. -/
theorem Session.Open.sessionOk {n : Nat} (h : s.Open n) (hn : n ≤ 1) : SessionOk build s.trace where
  bounded := by
    have hcounted := h.counted
    have hfew := h.few
    omega
  last := by
    intro later e past hsplit hmatched
    have hunmatched := h.unmatched e (by rw [hsplit]; simp)
    rw [hmatched] at hunmatched
    cases hunmatched
  token := by
    intro later past fid gid hat _ hfid hsplit
    have hunmatched := h.unmatched (.callback (.onAuthenticated fid gid hat)) (by rw [hsplit]; simp)
    exact absurd hunmatched (by simp [AuthEvent.matched, hfid])

/-- What tells of no attempt may follow a match. -/
theorem SessionOk.cons {trace : List AuthEvent} {e : AuthEvent} (h : SessionOk build trace)
    (hfailed : e.failed = false) (hmatched : e.matched = false) : SessionOk build (e :: trace) where
  bounded := by
    rw [List.countP_cons_of_neg (by rw [hfailed]; decide)]
    exact h.bounded
  last := by
    intro later e₀ past hsplit hmatched₀
    cases later with
    | nil => simp
    | cons e₁ later =>
      injection hsplit with hhead htail
      subst hhead
      exact List.forall_mem_cons.mpr ⟨⟨hfailed, hmatched⟩, h.last later e₀ past htail hmatched₀⟩
  token := by
    intro later past fid gid hat hbuild hfid hsplit
    cases later with
    | nil =>
      injection hsplit with hhead
      rw [hhead] at hmatched
      exact absurd hmatched (by simp [AuthEvent.matched, hfid])
    | cons e₁ later =>
      injection hsplit with _ htail
      exact h.token later past fid gid hat hbuild hfid htail

/-- A finger that matches is the first that does, and what was counted stays. -/
theorem matched_sessionOk {hat : List UInt8} (h : s.Open 0) (hid : s.id ≠ 0)
    (htoken : build.hwAuth = true → TokenFor s.id s.trace) :
    SessionOk build (matched gid hat s).trace where
  bounded := by
    have hcount : (matched gid hat s).trace.countP AuthEvent.failed =
        s.trace.countP AuthEvent.failed :=
      List.countP_cons_of_neg (by simp [AuthEvent.failed, hid])
    have hcounted := h.counted
    have hfew := h.few
    omega
  last := by
    intro later e past hsplit hmatched
    cases later with
    | nil => simp
    | cons e₁ later =>
      injection hsplit with _ htail
      have hunmatched := h.unmatched e (by rw [htail]; simp)
      rw [hmatched] at hunmatched
      cases hunmatched
  token := by
    intro later past fid gid' hat' hbuild hfid hsplit
    cases later with
    | nil =>
      cases hsplit
      exact htoken hbuild
    | cons e₁ later =>
      injection hsplit with _ htail
      have hunmatched := h.unmatched (.callback (.onAuthenticated fid gid' hat'))
        (by rw [htail]; simp)
      exact absurd hunmatched (by simp [AuthEvent.matched, hfid])

/-! ## Steps -/

theorem leave_inv {status : Int} (h : SessionOk build s.trace) : AuthInv build (leave status s) := by
  unfold leave
  split
  · exact h
  · exact h.cons rfl rfl

/-- Both branches that fail end here: too many attempts leave the loop. -/
theorem countFailed_inv (h : s.Open 1) (hid : s.id = 0) : AuthInv build (countFailed s) := by
  unfold countFailed failedAttempt
  by_cases hmany : s.failedAttempts + 1 ≥ fpcMaxFailedAttempts
  · rw [if_pos hmany]
    exact leave_inv (s := { s with failedAttempts := s.failedAttempts + 1 }) (h.sessionOk (by decide))
  · rw [if_neg hmany]
    exact ⟨⟨h.counted, Nat.lt_of_not_ge hmany, h.unmatched⟩, hid⟩

theorem captured_inv {status : Int} (h : s.Open 0) (hid : s.id = 0) :
    AuthInv build (captured build gid status s) := by
  unfold captured
  split
  · exact ⟨h.at .capture, hid⟩
  split
  · exact countFailed_inv h.didFail hid
  split
  · exact leave_inv (h.sessionOk (by decide))
  · exact ⟨h.at .identify, hid⟩

theorem pressed_inv {up : Bool} {status : Int} (h : s.Open 0) (hid : s.id = 0) :
    AuthInv build (pressed build gid up status s) := by
  unfold pressed
  split
  · exact ⟨h.at .buttonUp, hid⟩
  · exact captured_inv h hid

theorem touched_inv {down up : Bool} {status : Int} (h : s.Open 0) (hid : s.id = 0) :
    AuthInv build (touched build gid down up status s) := by
  unfold touched
  split
  · exact ⟨h.at .buttonDown, hid⟩
  · exact pressed_inv h hid

theorem storeUpdate_open {n : Nat} (h : s.Open n) : (storeUpdate s).Open n := by
  unfold storeUpdate
  split
  · exact h.did rfl rfl
  · exact h

theorem storeUpdate_id : (storeUpdate s).id = s.id := by
  unfold storeUpdate
  split <;> rfl

theorem storeUpdate_sessionOk (h : SessionOk build s.trace) :
    SessionOk build (storeUpdate s).trace := by
  unfold storeUpdate
  split
  · exact h.cons rfl rfl
  · exact h

/-- An id is set by an identification that returns 0 only, and that leaves the loop. -/
theorem identified_inv {status : Int} {hat : List UInt8} {answer : UInt32} (h : s.Open 0)
    (hid : s.id = if status = 0 then answer else 0) :
    AuthInv build (identified build gid status hat (s.did (.identified status answer))) := by
  have hopen : (s.did (.identified status answer)).Open 0 := h.did rfl rfl
  have hgood : ((s.did (.identified status answer)).did
      (.callback (.onAcquired halCompatAcquiredGood))).Open 0 := hopen.did rfl rfl
  unfold identified
  split
  · exact leave_inv (hopen.sessionOk (by decide))
  split
  · next hquality =>
    have hbad : ((s.did (.identified status answer)).did
        (.callback (.onAcquired halCompatAcquiredInsufficient))).Open 0 := hopen.did rfl rfl
    have hunset : s.id = 0 := by
      rw [hid, if_neg]
      rw [hquality]
      decide
    exact ⟨hbad.at .capture, hunset⟩
  dsimp only
  split
  · next hmatch =>
    have hne : s.id ≠ 0 := hmatch
    have hzero : status = 0 := by
      by_contra hne'
      rw [if_neg hne'] at hid
      exact hne hid
    rw [if_pos hzero] at hid
    subst hzero hid
    split
    · exact ⟨hgood.at .authResult, hne, s.trace, rfl⟩
    · next hauth => exact matched_sessionOk hgood hne (absurd · hauth)
  · next hnone => exact ⟨hgood.didFail.at .updateFailed, not_not.mp hnone⟩

/-- What was reported and what the loop has counted agree at the place that a step leads to. By the
place that the task waits at. -/
theorem AuthInv.step {s' : Session} {result : AuthResult} (hinv : AuthInv build s)
    (hstep : authStep build gid s result = some s') : AuthInv build s' := by
  rcases s with ⟨place, id, update, failedAttempts, trace⟩
  cases place <;> cases result <;> cases hstep
  case setAuthChallenge.setAuthChallenge.refl status =>
    obtain ⟨hopen, hid⟩ := hinv
    split
    · exact leave_inv (hopen.sessionOk (by decide))
    · exact ⟨hopen.at .capture, hid⟩
  case capture.capture.refl injected down up status =>
    obtain ⟨hopen, hid⟩ := hinv
    split
    · exact ⟨hopen.did rfl rfl, hid⟩
    · exact touched_inv hopen hid
  case buttonDown.buttonDown.refl => exact pressed_inv hinv.1 hinv.2
  case buttonUp.buttonUp.refl => exact captured_inv hinv.1 hinv.2
  case identify.identify.refl status answer hat =>
    obtain ⟨hopen, hid⟩ := hinv
    -- no id is left from an image before, so it is the answer or 0
    have hid : id = 0 := hid
    subst hid
    exact identified_inv
      (s := ⟨.identify, if status = 0 then answer else 0, update, failedAttempts, trace⟩)
      ⟨hopen.counted, hopen.few, hopen.unmatched⟩ rfl
  case authResult.authResult.refl status hat =>
    obtain ⟨hopen, hid, hidentified⟩ := hinv
    dsimp only
    split
    · exact leave_inv ((hopen.did rfl rfl).sessionOk (by decide))
    · next hstatus =>
      have hok : status = 0 := not_not.mp hstatus
      subst hok
      exact matched_sessionOk (hopen.did rfl rfl) hid fun _ => ⟨trace, rfl, hidentified⟩
  case updateMatched.updateTemplate.refl status answer =>
    split
    · exact leave_inv hinv
    · exact leave_inv (storeUpdate_sessionOk hinv)
  case updateFailed.updateTemplate.refl status answer =>
    obtain ⟨hopen, hid⟩ := hinv
    split
    · exact leave_inv (hopen.sessionOk (by decide))
    · have hanswered : Session.Open ⟨.updateFailed, id, answer, failedAttempts, trace⟩ 1 :=
        ⟨hopen.counted, hopen.few, hopen.unmatched⟩
      exact countFailed_inv (storeUpdate_open hanswered) (storeUpdate_id.trans hid)

/-- Wherever a session is nothing is wrong yet. By its place. -/
theorem AuthInv.sessionOk (h : AuthInv build s) : SessionOk build s.trace := by
  rcases s with ⟨place, id, update, failedAttempts, trace⟩
  cases place with
  | setAuthChallenge | capture | buttonDown | buttonUp | identify =>
    exact Session.Open.sessionOk h.1 (by decide)
  | authResult => exact Session.Open.sessionOk h.1 (by decide)
  | updateFailed => exact Session.Open.sessionOk h.1 (by decide)
  | updateMatched | returned => exact h

theorem authStart_inv : AuthInv build (authStart build) := by
  have hfew : 0 < fpcMaxFailedAttempts := by decide
  have hopen : (authStart build).Open 0 := ⟨rfl, hfew, by simp [authStart]⟩
  rcases build with ⟨hwAuth, engineering, forceSensor⟩
  cases hwAuth with
  | true => exact ⟨hopen, rfl⟩
  | false => exact ⟨hopen, rfl⟩

/-- Whatever the calls of a session return, it reports no more attempts that failed than it may, one
finger that matched at most and none of either kind behind it, and that finger only behind its token. -/
theorem authSession_ok {results : List AuthResult} (hrun : (authSystem build gid).Run results s) :
    SessionOk build s.trace := by
  have hinv : AuthInv build s := by
    apply hrun.invariant_state (I := AuthInv build)
    · intro s hinit
      rw [hinit]
      exact authStart_inv
    · intro s result s' hinv hstep
      exact hinv.step hstep.2
  exact hinv.sessionOk

/-- An image that matches no finger, and one that matches the finger 7, with its token. -/
def twoImages : List AuthResult :=
  [.updateTemplate 0 0, .authResult 0 [1], .identify 0 7 [], .capture false false false 0,
    .updateTemplate 0 0, .identify 0 0 [], .capture false false false 0,
    .setAuthChallenge 0]

def twoImagesEnd : Session where
  place := .returned
  id := 7
  update := 0
  failedAttempts := 1
  trace :=
    [.callback (.onAuthenticated 7 5 [1]), .token 7 0, .callback (.onAcquired 0), .identified 0 7,
      .callback (.onAuthenticated 0 5 []), .callback (.onAcquired 0), .identified 0 0]

theorem twoImages_run : (authSystem ⟨true, false, false⟩ 5).Run twoImages twoImagesEnd := by
  have hcaptured : ∀ result ∈ twoImages, result.Possible ⟨true, false, false⟩ := by
    simp [twoImages, AuthResult.Possible]
  have hstart : (authSystem ⟨true, false, false⟩ 5).Run [] (authStart ⟨true, false, false⟩) :=
    .init rfl
  exact .step (.step (.step (.step (.step (.step (.step (.step hstart ⟨hcaptured _ (by decide), rfl⟩)
    ⟨hcaptured _ (by decide), rfl⟩) ⟨hcaptured _ (by decide), rfl⟩) ⟨hcaptured _ (by decide), rfl⟩)
    ⟨hcaptured _ (by decide), rfl⟩) ⟨hcaptured _ (by decide), rfl⟩) ⟨hcaptured _ (by decide), rfl⟩)
    ⟨hcaptured _ (by decide), rfl⟩

theorem authSession_ok_twoImages :
    (authSystem ⟨true, false, false⟩ 5).Run twoImages twoImagesEnd ∧
      SessionOk ⟨true, false, false⟩ twoImagesEnd.trace :=
  ⟨twoImages_run, authSession_ok twoImages_run⟩

end

/-! ## The task of the device -/

def AuthEvent.reported : AuthEvent → Option Callback
  | .callback c => some c
  | _ => none

/-- The callbacks of a session, the latest first. -/
def Session.callbacks (s : Session) : List Callback := s.trace.filterMap AuthEvent.reported

/-- The build of the device: tokens, and neither engineering nor a force sensor. -/
def tokenBuild : AuthBuild := ⟨true, false, false⟩

theorem tokenBuild_hwAuth : tokenBuild.hwAuth = true := rfl

section

open Wire Wire.Outcome

variable {P : Platform} {m : Meets P} {hal hal' : Hal} {status : Int} {base : List Callback}
  {gid : UInt32} {s : Session} {results : List AuthResult}

/-- A session ends with the callbacks that the device made, `base` in front of them. -/
def EndsAs (gid : UInt32) (base : List Callback) (status : Int) (hal : Hal) : Prop :=
  ∃ results s, (authSystem tokenBuild gid).Run results s ∧ s.place = .returned ∧
    (if status = 0 ∨ status = -fpcErrorCancelled then hal
      else hal.callback (.onError halCompatErrorHwUnavailable)).callbacks = s.callbacks ++ base

theorem endsAs_of_leave (hrun : (authSystem tokenBuild gid).Run results (leave status s))
    (hcalls : hal.callbacks = s.callbacks ++ base) : EndsAs gid base status hal := by
  refine ⟨results, leave status s, hrun, ?_⟩
  unfold leave
  split
  · exact ⟨rfl, hcalls⟩
  · exact ⟨rfl, congrArg (Callback.onError halCompatErrorHwUnavailable :: ·) hcalls⟩

/-- A step of a session of the device. -/
theorem run_step {s' : Session} {result : AuthResult}
    (hrun : (authSystem tokenBuild gid).Run results s)
    (hstep : authStep tokenBuild gid s result = some s') (hpossible : result.Possible tokenBuild) :
    (authSystem tokenBuild gid).Run (result :: results) s' := .step hrun ⟨hpossible, hstep⟩

theorem updateTemplate_callbacks {stores stores' : Nat}
    (h : updateTemplate m hal stores = .ok (status, stores', hal')) :
    hal'.callbacks = hal.callbacks ∧ hal'.currentGid = hal.currentGid := by
  rcases bind_eq_ok.mp h with ⟨⟨updated, update, tee⟩, hupdate, h⟩
  dsimp only at h
  split at h
  · cases h
    exact ⟨rfl, rfl⟩
  split at h
  · cases h
    unfold storeTemplateDb
    split <;> exact ⟨rfl, rfl⟩
  · cases h
    exact ⟨rfl, rfl⟩

theorem authStep_setAuthChallenge (hplace : s.place = .setAuthChallenge) (status : Int) :
    authStep tokenBuild gid s (.setAuthChallenge status) =
      some (if status ≠ 0 then leave status s else s.at .capture) := by
  simp only [authStep, hplace]

theorem authStep_capture (hplace : s.place = .capture) (status : Int) :
    authStep tokenBuild gid s (.capture false false false status) =
      some (if status = fpcCaptureFingerLost then
          s.did (.callback (.onAcquired halCompatAcquiredTooFast))
        else captured tokenBuild gid status s) := by
  simp [authStep, hplace, touched, pressed, tokenBuild]

theorem authStep_identify (hplace : s.place = .identify) (status : Int) (answer : UInt32) :
    authStep tokenBuild gid s (.identify status answer []) =
      some (identified tokenBuild gid status []
        ({ s with id := if status = 0 then answer else s.id }.did (.identified status answer))) := by
  simp [authStep, hplace]

theorem authStep_authResult (hplace : s.place = .authResult) (status : Int) (hat : List UInt8) :
    authStep tokenBuild gid s (.authResult status hat) =
      some (if status ≠ 0 then leave status (s.did (.token s.id status))
        else matched gid hat (s.did (.token s.id status))) := by
  simp only [authStep, hplace]

theorem authStep_updateMatched (hplace : s.place = .updateMatched) (status : Int) :
    authStep tokenBuild gid s (.updateTemplate status 0) =
      some (if status ≠ 0 then leave status s else leave 0 { s with update := 0 }) := by
  simp [authStep, hplace, storeUpdate]

theorem authStep_updateFailed (hplace : s.place = .updateFailed) (status : Int) :
    authStep tokenBuild gid s (.updateTemplate status 0) =
      some (if status ≠ 0 then leave status s else countFailed { s with update := 0 }) := by
  simp [authStep, hplace, storeUpdate]

/-- The session behind a finger that is identified. -/
theorem authMatched_session {stores : Nat}
    (h : authMatched m hal s.id stores = .ok (status, hal')) (hplace : s.place = .authResult)
    (hrun : (authSystem tokenBuild hal.currentGid).Run results s)
    (hcalls : hal.callbacks = s.callbacks ++ base) : EndsAs hal.currentGid base status hal' := by
  rcases bind_eq_ok.mp h with ⟨⟨asked, hat, tee⟩, _, h⟩
  have hasked := run_step hrun (authStep_authResult hplace asked (hat.getD [])) trivial
  dsimp only at h
  split at h
  · next hfailed =>
    cases h
    rw [if_pos hfailed] at hasked
    exact endsAs_of_leave hasked hcalls
  · next hok =>
    rw [if_neg hok] at hasked
    rcases bind_eq_ok.mp h with ⟨⟨updated, stores', reported⟩, hupdate, h⟩
    cases h
    have hreported : reported.callbacks =
        (matched hal.currentGid (hat.getD []) (s.did (.token s.id asked))).callbacks ++ base := by
      rw [(updateTemplate_callbacks hupdate).1]
      exact congrArg (Callback.onAuthenticated s.id hal.currentGid (hat.getD []) :: ·) hcalls
    have hupdated := run_step hasked (authStep_updateMatched rfl updated) trivial
    split at hupdated
    · exact endsAs_of_leave hupdated hreported
    · next hzero =>
      rw [not_not.mp hzero]
      exact endsAs_of_leave hupdated hreported

/-- What the loop does with an attempt that failed. -/
theorem countFailed_some (hattempt : failedAttempt s.failedAttempts = some status) :
    countFailed s = leave status { s with failedAttempts := s.failedAttempts + 1 } := by
  simp [countFailed, hattempt]

theorem countFailed_none (hattempt : failedAttempt s.failedAttempts = none) :
    countFailed s = { s with failedAttempts := s.failedAttempts + 1, place := .capture } := by
  simp [countFailed, hattempt]

/-- The client sets no id where an identification does not return 0. -/
theorem fpcTeeIdentify_none {tac : Tac} {envs : Nat → Env} {tee tee' : Tee} {id : Option UInt32}
    (htac : tac.DeliversOrFails P) (hbuffer : sizeofBioCommand ≤ tee.sharedBuffer.length)
    (h : fpcTeeIdentify tac envs tee = .ok (status, id, tee')) (hne : status ≠ 0) : id = none := by
  have hcmd : BioCmd.ofWord fpcTaBioIdentifyCmd = some .identify := by decide
  exact (bioAnswer_commanded htac hbuffer hcmd h).2.2.1 hne

/-- The session behind an identification: the id is what the client answers, or 0. -/
theorem identify_session {id : Option UInt32} {tee : Tee}
    (hbuffer : sizeofBioCommand ≤ hal.tee.sharedBuffer.length) (hplace : s.place = .identify)
    (hrun : (authSystem tokenBuild gid).Run results s) (hid : s.id = 0)
    (h : fpcTeeIdentify (m.tacOf hal.tee) m.envs hal.tee = .ok (status, id, tee)) :
    ∃ s', (authSystem tokenBuild gid).Run (.identify status (id.getD 0) [] :: results)
        (identified tokenBuild gid status [] s') ∧
      s'.id = id.getD 0 ∧ s'.failedAttempts = s.failedAttempts ∧ s'.callbacks = s.callbacks := by
  refine ⟨_, run_step hrun (authStep_identify hplace status (id.getD 0)) trivial, ?_, rfl, rfl⟩
  change (if status = 0 then id.getD 0 else s.id) = id.getD 0
  split
  · rfl
  · next hne =>
    rw [fpcTeeIdentify_none (m.tacOf_reaches _) hbuffer h hne, hid]
    rfl

/-- The session of the loop from an image on. -/
def LoopEnds (m : Meets P) (base : List Callback) (rest : List Int32) : Prop :=
  ∀ {hal hal' : Hal} {status : Int} {s : Session} {results : List AuthResult} {stores : Nat},
    authImages m rest s.failedAttempts stores hal = .ok (some (status, hal')) →
    sizeofBioCommand ≤ hal.tee.sharedBuffer.length →
    (authSystem tokenBuild hal.currentGid).Run results s → s.place = .capture → s.id = 0 →
    hal.callbacks = s.callbacks ++ base → EndsAs hal.currentGid base status hal'

/-- The session behind an attempt that failed: it is over, or goes on with the next image. -/
theorem attempt_session {rest : List Int32} {stores : Nat} (hloop : LoopEnds m base rest)
    (h : (match failedAttempt s.failedAttempts with
      | some status => ok (some (status, hal))
      | none => authImages m rest (s.failedAttempts + 1) stores hal) = ok (some (status, hal')))
    (hbuffer : sizeofBioCommand ≤ hal.tee.sharedBuffer.length)
    (hrun : (authSystem tokenBuild hal.currentGid).Run results (countFailed s)) (hid : s.id = 0)
    (hcalls : hal.callbacks = s.callbacks ++ base) : EndsAs hal.currentGid base status hal' := by
  cases hattempt : failedAttempt s.failedAttempts with
  | some ended =>
    rw [hattempt] at h
    cases h
    rw [countFailed_some hattempt] at hrun
    exact endsAs_of_leave hrun hcalls
  | none =>
    rw [hattempt] at h
    rw [countFailed_none hattempt] at hrun
    exact hloop h hbuffer hrun rfl hid hcalls

/-- The session behind an image that matched no finger. -/
theorem unmatched_session {rest : List Int32} {stores stores' : Nat} {updated : Int} {reported : Hal}
    (hloop : LoopEnds m base rest)
    (hupdate : updateTemplate m hal stores = .ok (updated, stores', reported))
    (h : (if updated ≠ 0 then ok (some (updated, reported))
      else match failedAttempt s.failedAttempts with
        | some status => ok (some (status, reported))
        | none => authImages m rest (s.failedAttempts + 1) stores' reported) =
      ok (some (status, hal')))
    (hbuffer : sizeofBioCommand ≤ hal.tee.sharedBuffer.length)
    (hrun : (authSystem tokenBuild hal.currentGid).Run results s) (hplace : s.place = .updateFailed)
    (hid : s.id = 0) (hcalls : hal.callbacks = s.callbacks ++ base) :
    EndsAs hal.currentGid base status hal' := by
  obtain ⟨hkept, hgid⟩ := updateTemplate_callbacks hupdate
  have hupdated := run_step hrun (authStep_updateFailed hplace updated) trivial
  have hheld := (updateTemplate_moves hbuffer hupdate).buffer hbuffer
  rw [← hkept] at hcalls
  split at h
  · next hfailed =>
    rw [if_pos hfailed] at hupdated
    cases h
    exact endsAs_of_leave hupdated hcalls
  · next hok =>
    rw [if_neg hok, ← hgid] at hupdated
    rw [← hgid]
    exact attempt_session (s := { s with update := 0 }) hloop h hheld hupdated hid hcalls

/-- The session behind an image. -/
theorem image_session {captured : Int32} {rest : List Int32} {stores : Nat}
    (hloop : LoopEnds m base rest) (hok : captured.toInt = fpcCaptureOk)
    (h : authImages m (captured :: rest) s.failedAttempts stores hal = .ok (some (status, hal')))
    (hbuffer : sizeofBioCommand ≤ hal.tee.sharedBuffer.length)
    (hrun : (authSystem tokenBuild hal.currentGid).Run results s) (hplace : s.place = .identify)
    (hid : s.id = 0) (hcalls : hal.callbacks = s.callbacks ++ base) :
    EndsAs hal.currentGid base status hal' := by
  unfold authImages at h
  dsimp only at h
  rw [hok, if_neg (by decide), if_neg (by decide), if_neg (by decide)] at h
  rcases bind_eq_ok.mp h with ⟨⟨answered, id, tee⟩, hidentify, h⟩
  obtain ⟨s', hidentified, hid', hcount, hkept⟩ :=
    identify_session hbuffer hplace hrun hid hidentify
  have hheld : sizeofBioCommand ≤ (hal.withTee tee).tee.sharedBuffer.length :=
    ((Hal.Moves.refl hal).asked
      (fpcTeeIdentify_kept (m.tacOf_reaches _) hbuffer hidentify)).buffer hbuffer
  rw [← hkept] at hcalls
  rw [← hcount] at h
  dsimp only at h
  unfold identified at hidentified
  split at h
  · next hnegative =>
    rw [if_pos hnegative] at hidentified
    cases h
    exact endsAs_of_leave hidentified hcalls
  next hnegative =>
  rw [if_neg hnegative] at hidentified
  split at h
  · next hquality =>
    rw [if_pos hquality] at hidentified
    -- bad quality is not 0, and the client sets the id only then
    have hunset : s'.id = 0 := by
      rw [hid', fpcTeeIdentify_none (m.tacOf_reaches _) hbuffer hidentify (by rw [hquality]; decide)]
      rfl
    have hended := hloop (s := (s'.did _).at .capture) h hheld hidentified rfl hunset
      (congrArg (Callback.onAcquired halCompatAcquiredInsufficient :: ·) hcalls)
    exact hended
  next hquality =>
  rw [if_neg hquality] at hidentified
  have hreported := congrArg (Callback.onAcquired halCompatAcquiredGood :: ·) hcalls
  dsimp only at hidentified
  rw [Session.did_id] at hidentified
  rw [← hid'] at h
  split at h
  · next hmatch =>
    rcases bind_eq_ok.mp h with ⟨⟨ended, reported⟩, hmatched, h⟩
    cases h
    rw [if_pos hmatch, if_pos tokenBuild_hwAuth] at hidentified
    have hended :=
      authMatched_session (s := (s'.did _).at .authResult) hmatched rfl hidentified hreported
    exact hended
  · next hnone =>
    rw [if_neg hnone] at hidentified
    rcases bind_eq_ok.mp h with ⟨⟨updated, stores', reported⟩, hupdate, h⟩
    have hended := unmatched_session (s := ((s'.did _).did _).at .updateFailed) hloop hupdate h hheld
      hidentified rfl (not_not.mp hnone)
      (congrArg (Callback.onAuthenticated 0 hal.currentGid [] :: ·) hreported)
    exact hended

/-- The session of the loop. Induction on the answers of the sensor. -/
theorem authImages_session (captures : List Int32) : LoopEnds m base captures := by
  induction captures with
  | nil =>
    intro _ _ _ _ _ _ h
    cases h
  | cons captured rest ih =>
    intro hal hal' status s results stores h hbuffer hrun hplace hid hcalls
    have hcaptured := run_step hrun (authStep_capture hplace captured.toInt)
      (by simp [AuthResult.Possible])
    have himage := h
    unfold authImages at h
    dsimp only at h
    split at h
    · next hlost =>
      rw [if_pos hlost] at hcaptured
      have hended := ih (s := s.did _) h hbuffer hcaptured hplace hid
        (congrArg (Callback.onAcquired halCompatAcquiredTooFast :: ·) hcalls)
      exact hended
    next hlost =>
    rw [if_neg hlost] at hcaptured
    unfold AuthSession.captured at hcaptured
    -- without a force sensor no status is `FPC_CAPTURE_RETRY`
    rw [if_neg (by simp [tokenBuild])] at hcaptured
    split at h
    · next habort =>
      rw [if_pos habort] at hcaptured
      have hended := attempt_session (s := s.did _) ih h hbuffer hcaptured hid
        (congrArg (Callback.onAuthenticated 0 hal.currentGid [] :: ·) hcalls)
      exact hended
    next habort =>
    rw [if_neg habort] at hcaptured
    split at h
    · next hfailed =>
      rw [if_pos hfailed] at hcaptured
      cases h
      exact endsAs_of_leave hcaptured hcalls
    · next hok =>
      rw [if_neg hok] at hcaptured
      exact image_session (s := s.at .identify) ih (not_not.mp hok) himage hbuffer hcaptured rfl
        hid hcalls

/-- The task of the device reports what a session does. -/
theorem doAuthenticate_session (hbuffer : sizeofBioCommand ≤ hal.tee.sharedBuffer.length)
    (h : doAuthenticate m hal = .ok (some hal')) :
    ∃ results s, (authSystem tokenBuild hal.currentGid).Run results s ∧ s.place = .returned ∧
      hal'.callbacks = s.callbacks ++ hal.callbacks := by
  rcases bind_eq_ok.mp h with ⟨⟨set, tee⟩, hset, h⟩
  obtain ⟨hsame, hbuf⟩ := fpcTeeSetAuthChallenge_frame (m.tacOf_reaches _) hbuffer hset
  have hstart : (authSystem tokenBuild hal.currentGid).Run [] (authStart tokenBuild) := .init rfl
  have hchallenged := run_step hstart (authStep_setAuthChallenge rfl set) trivial
  have hcalls : (hal.withTee tee).callbacks = (authStart tokenBuild).callbacks ++ hal.callbacks := rfl
  dsimp only at h
  split at h
  · next hfailed =>
    rcases bind_eq_ok.mp h with ⟨ended, hended, h⟩
    cases hended
    cases h
    rw [if_pos hfailed] at hchallenged
    exact endsAs_of_leave hchallenged hcalls
  · next hok =>
    rcases bind_eq_ok.mp h with ⟨ended, himages, h⟩
    rw [if_neg hok] at hchallenged
    injection h with h
    obtain ⟨⟨status, left⟩, rfl, rfl⟩ := Option.map_eq_some_iff.mp h
    have hheld : sizeofBioCommand ≤ (hal.withTee tee).tee.sharedBuffer.length := by
      change sizeofBioCommand ≤ tee.sharedBuffer.length
      rw [hbuf]
      exact hbuffer
    have hended := authImages_session m.sensor (s := (authStart tokenBuild).at .capture) himages
      hheld hchallenged rfl rfl hcalls
    exact hended

end

end Fpc.AuthSession
