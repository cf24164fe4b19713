import Fingerprints.Hal.Groups
import Fingerprints.Tac.Tokens

/-!
# What an enrolment that is reported rests on

`fpc_enroll` from the framework to the application and back. The task hands the token over, lets the
application take touches until they are enough, ends the enrolment, stores the database and reports the
finger.

* **`EnrolKept`**: what holds between the touches: the token that was handed over is still there;
* **`completeEnrol_granted`**: the calls behind the last touch report a finger that is in the database of
  the application and in the file;
* **`enroll_reports`**: so in every run of the device each finger that is reported as enrolled was enrolled
  for the user of a token that answers the challenge that was out.
-/

namespace Fpc

open Wire Wire.Outcome Runs

section

variable {P : Platform} {m : Meets P} {hal hal' pre : Hal} {status : Int}

/-! ## Reports -/

/-- A finger that was enrolled for the user of a token. -/
structure Granted (m : Meets P) (pre : Hal) (hat : List UInt8) (fid : UInt32) (hal : Hal) : Prop where
  length : hat.length = sizeofHat
  valid : ∃ n, TokenValid P (m.envs n)
    { pre.tee.ta.hwAuth with incomingToken := Token.ofBytes hat }
  finger : ∃ f, fpcDbTrimId32 f.fingerprintId = fid ∧ f.secureUserId = (Token.ofBytes hat).userId ∧
    Enrolled hal.stored f ∧ Enrolled hal.userDb f ∧ ∀ g, Enrolled hal.userDb g → g = f ∨ Enrolled pre.userDb g

/-- The callbacks between the two name no finger as enrolled. -/
def NoFinger (before after : List Callback) : Prop :=
  ∃ made, after = made ++ before ∧
    ∀ fid gid remaining, Callback.onEnrollResult fid gid remaining ∈ made → fid = 0

/-- What an enrolment tells the framework: no finger, or one as the last thing, and that it was granted. -/
def EnrolTold (m : Meets P) (pre : Hal) (hat : List UInt8) (hal : Hal) : Prop :=
  NoFinger pre.callbacks hal.callbacks ∨ ∃ fid told,
    hal.callbacks = .onEnrollResult fid pre.currentGid 0 :: told ∧ NoFinger pre.callbacks told ∧
      Granted m pre hat fid hal

theorem NoFinger.refl (callbacks : List Callback) : NoFinger callbacks callbacks := ⟨[], rfl, by simp⟩

theorem NoFinger.append {before after made : List Callback} (h : NoFinger before after)
    (hmade : ∀ fid gid remaining, Callback.onEnrollResult fid gid remaining ∈ made → fid = 0) :
    NoFinger before (made ++ after) := by
  obtain ⟨told, rfl, hnone⟩ := h
  refine ⟨made ++ told, (List.append_assoc ..).symm, ?_⟩
  intro fid gid remaining hmem
  cases List.mem_append.mp hmem with
  | inl hlatest => exact hmade fid gid remaining hlatest
  | inr hearlier => exact hnone fid gid remaining hearlier

theorem NoFinger.error {before after : List Callback} (h : NoFinger before after) (code : Int) :
    NoFinger before (.onError code :: after) := by
  have hmade : ∀ fid gid remaining,
      Callback.onEnrollResult fid gid remaining ∈ [Callback.onError code] → fid = 0 := by simp
  exact h.append hmade

/-- A touch that is not the last is reported without a finger. -/
theorem touchReport_noFinger (status : Int) (gid remaining fid gid' remaining' : UInt32)
    (h : Callback.onEnrollResult fid gid' remaining' ∈ (touchReport status gid remaining).1) :
    fid = 0 := by
  unfold touchReport at h
  repeat' split at h
  all_goals simp at h
  · exact h.1
  · exact h.1

theorem NoFinger.reportEnrol (h : NoFinger pre.callbacks hal.callbacks) (status : Int) :
    NoFinger pre.callbacks (reportEnrol hal status).callbacks := by
  unfold Fpc.reportEnrol
  split
  · exact h
  · split
    · exact h.error _
    · split
      · exact h.error _
      · exact h.error _

/-! ## The touches -/

/-- What holds from the token on, up to the end of the enrolment. -/
structure EnrolKept (hwAuth : HwAuthTa) (pre hal : Hal) : Prop where
  kept : pre.Kept hal
  hwAuth : hal.tee.ta.hwAuth = hwAuth
  noFinger : NoFinger pre.callbacks hal.callbacks

variable {hwAuth : HwAuthTa}

theorem EnrolKept.buffer (h : EnrolKept hwAuth pre hal)
    (hbuffer : sizeofBioCommand ≤ pre.tee.sharedBuffer.length) :
    sizeofBioCommand ≤ hal.tee.sharedBuffer.length := by
  rw [h.kept.buffer]
  exact hbuffer

/-- A command of an enrolment that goes on. -/
theorem EnrolKept.commanded {tac : Tac} {env : Env} {cmd : BioCmd} {answer : UInt32} {tee : Tee}
    (h : EnrolKept hwAuth pre hal)
    (hcommanded : BioCommanded P tac env cmd hal.tee.ta answer status tee) (hkeeps : cmd.keepsDb = true)
    (hcmd : cmd ≠ .endEnrol) (hbuffer : tee.sharedBuffer.length = hal.tee.sharedBuffer.length) :
    EnrolKept hwAuth pre (hal.withTee tee) := by
  refine ⟨h.kept.trans (Hal.kept_withTee (hcommanded.sameDb hkeeps) hbuffer), ?_, h.noFinger⟩
  show tee.ta.hwAuth = hwAuth
  rw [← h.hwAuth]
  cases hcommanded with
  | lost _ _ hta => rw [hta]
  | answered _ _ reply hswitch _ hta _ _ _ =>
    obtain ⟨bio, hbio | ⟨hend, _⟩⟩ := bioSwitch_frame hswitch
    · rw [hta, hbio]
    · exact absurd hend hcmd

theorem EnrolKept.callbacks (h : EnrolKept hwAuth pre hal) {made : List Callback}
    (hmade : ∀ fid gid remaining, Callback.onEnrollResult fid gid remaining ∈ made → fid = 0) :
    EnrolKept hwAuth pre { hal with callbacks := made ++ hal.callbacks } :=
  ⟨h.kept.trans (Hal.kept_callbacks hal _), h.hwAuth, h.noFinger.append hmade⟩

theorem EnrolKept.acquired (h : EnrolKept hwAuth pre hal) (code : Int) :
    EnrolKept hwAuth pre (hal.callback (.onAcquired code)) := by
  have hmade : ∀ fid gid remaining,
      Callback.onEnrollResult fid gid remaining ∈ [Callback.onAcquired code] → fid = 0 := by simp
  exact h.callbacks hmade

/-- What is in front of the loop: the token is the one that was handed over, and valid. -/
theorem startEnrol_valid (hbuffer : sizeofBioCommand ≤ hal.tee.sharedBuffer.length)
    (hlength : hal.hat.length = sizeofHat) (h : startEnrol m hal = .ok (0, hal')) :
    EnrolKept { hal.tee.ta.hwAuth with incomingToken := Token.ofBytes hal.hat } hal hal' := by
  obtain ⟨⟨authorized, tee⟩, hauthorize, h⟩ := bind_eq_ok.mp h
  obtain ⟨hsame, hbuffered⟩ := fpcTeeAuthorizeEnrol_frame (m.tacOf_reaches _) hauthorize
  dsimp only at h
  split at h
  · next hne =>
    cases h
    exact absurd rfl hne
  · next hzero =>
    rw [not_not] at hzero
    subst hzero
    obtain ⟨_, hta⟩ := fpcTeeAuthorizeEnrol_valid (m.tacOf_reaches _) hlength hauthorize
    obtain ⟨⟨begun, tee'⟩, hbegin, h⟩ := bind_eq_ok.mp h
    cases h
    have hstart : EnrolKept { hal.tee.ta.hwAuth with incomingToken := Token.ofBytes hal.hat } hal
        (hal.withTee tee) :=
      ⟨Hal.kept_withTee hsame (by rw [hbuffered]), congrArg Ta.hwAuth hta, .refl hal.callbacks⟩
    have hbuf : sizeofBioCommand ≤ tee.sharedBuffer.length := hstart.buffer hbuffer
    have hcmd : BioCmd.ofWord fpcTaBioBeginEnrolCmd = some .beginEnrol := by decide
    obtain ⟨hcommanded, hlen⟩ := bioCommand_commanded (m.tacOf_reaches tee) hbuf hcmd hbegin
    exact hstart.commanded hcommanded rfl (by decide) hlen

/-- Nothing is reported in front of the loop. -/
theorem startEnrol_callbacks (h : startEnrol m hal = .ok (status, hal')) :
    hal'.callbacks = hal.callbacks := by
  obtain ⟨⟨authorized, tee⟩, _, h⟩ := bind_eq_ok.mp h
  dsimp only at h
  split at h
  · cases h
    rfl
  · obtain ⟨_, _, h⟩ := bind_eq_ok.mp h
    cases h
    rfl

/-- An image that is enrolled leaves the token. -/
theorem EnrolKept.enrolled {remaining : Option UInt32} {tee : Tee} (h : EnrolKept hwAuth pre hal)
    (hbuffer : sizeofBioCommand ≤ hal.tee.sharedBuffer.length)
    (henrol : fpcTeeEnrol (m.tacOf hal.tee) m.envs hal.tee = .ok (status, remaining, tee)) :
    EnrolKept hwAuth pre (hal.withTee tee) := by
  obtain ⟨⟨returned, commandTee⟩, hcommand, henrol⟩ := bind_eq_ok.mp henrol
  have hcmd : BioCmd.ofWord fpcTaBioEnrolCmd = some .enrol := by decide
  obtain ⟨hcommanded, hlen⟩ := bioCommand_commanded (m.tacOf_reaches _) hbuffer hcmd hcommand
  have hkept := h.commanded hcommanded rfl (by decide) hlen
  dsimp only at henrol
  split at henrol
  · cases henrol
    exact hkept
  · obtain ⟨_, _, henrol⟩ := bind_eq_ok.mp henrol
    obtain ⟨_, _, henrol⟩ := bind_eq_ok.mp henrol
    cases henrol
    exact hkept

/-- The loop of touches. Induction on the answers of the sensor. -/
theorem enrolTouches_kept {captures : List Int32} {exit : EnrolExit}
    (hbuffer : sizeofBioCommand ≤ pre.tee.sharedBuffer.length) (hkept : EnrolKept hwAuth pre hal)
    (h : enrolTouches m captures hal = .ok (some (exit, hal'))) : EnrolKept hwAuth pre hal' := by
  induction captures generalizing hal with
  | nil => cases h
  | cons captured rest ih =>
    unfold enrolTouches at h
    dsimp only at h
    split at h
    · exact ih (hkept.acquired _) h
    · split at h
      · exact ih (hkept.acquired _) h
      · split at h
        · exact ih hkept h
        · split at h
          · cases h
            exact hkept
          · obtain ⟨⟨status, remaining, tee⟩, henrol, h⟩ := bind_eq_ok.mp h
            have htouch := hkept.enrolled (hkept.buffer hbuffer) henrol
            dsimp only at h
            split at h
            · cases h
              exact htouch
            · split at h
              · cases h
                exact htouch
              · have hreport := htouch.callbacks
                  (touchReport_noFinger status (hal.withTee tee).currentGid (remaining.getD 0))
                split at h
                · cases h
                  exact hreport
                · exact ih hreport h

/-! ## The end -/

/-- **The calls behind the last touch report a finger that was granted.** -/
theorem completeEnrol_granted {hat : List UInt8}
    (hbuffer : sizeofBioCommand ≤ pre.tee.sharedBuffer.length) (hlength : hat.length = sizeofHat)
    (hkept : EnrolKept { pre.tee.ta.hwAuth with incomingToken := Token.ofBytes hat } pre hal)
    (h : completeEnrol m hal = .ok (status, hal')) : EnrolTold m pre hat (reportEnrol hal' status) := by
  have hbuf := hkept.buffer hbuffer
  have hquiet : ∀ (reached : Hal) (status : Int), reached.callbacks = hal.callbacks →
      EnrolTold m pre hat (reportEnrol reached status) := by
    intro reached status hsame
    refine Or.inl (NoFinger.reportEnrol ?_ status)
    rw [hsame]
    exact hkept.noFinger
  obtain ⟨⟨ended, answered, tee⟩, hended, _⟩ := bind_eq_ok.mp h
  cases completeEnrol_completed hended h with
  | failed _ => exact hquiet _ _ rfl
  | unstored _ _ _ _ hload => exact hquiet _ _ (loadTemplateDb_frame hload).2
  | deleted _ tee' _ _ _ _ =>
    refine hquiet _ _ ?_
    unfold storeTemplateDb
    split
    · rfl
    · rfl
  | reported asked dbId tee' hok _ _ hask =>
    subst hok
    obtain ⟨hvalid, x, base, index, f, rfl, henrolled, huser⟩ :=
      fpcTeeEndEnrol_authorised (m.tacOf_reaches _) hbuf hended
    rw [hkept.hwAuth] at hvalid huser
    have hlen := (fpcTeeEndEnrol_commanded (m.tacOf_reaches _) hbuf hended).2.2
    have hsame := (fpcTeeGetTemplateDbId_commanded (m.tacOf_reaches _)
      (show sizeofBioCommand ≤ tee.sharedBuffer.length by rw [hlen]; exact hbuf) hask).1
    have hstored : Enrolled tee.ta.bio.userDb f := henrolled.enrolled
    rw [show reportEnrol _ 0 = _ from if_pos (Or.inl rfl)]
    refine Or.inr ⟨x, hal.callbacks, ?_, hkept.noFinger, hlength, ⟨_, hvalid⟩, f, henrolled.id.symm,
      huser, ?_, ?_, ?_⟩
    · rw [← hkept.kept.currentGid]
      rfl
    · show Enrolled (hal.withTee tee).keptInFile.stored f
      rw [Hal.stored_keptInFile]
      exact hstored
    · show Enrolled tee'.ta.bio.userDb f
      rw [hsame.userDb]
      exact hstored
    · intro g hg
      have hended : Enrolled tee'.ta.bio.userDb g := hg
      rw [hsame.userDb] at hended
      rw [← hkept.kept.userDb]
      exact henrolled.addsTo.enrolled_set henrolled.slots hended

theorem doEnroll_told (hbuffer : sizeofBioCommand ≤ hal.tee.sharedBuffer.length)
    (hlength : hal.hat.length = sizeofHat) (h : doEnroll m hal = .ok (some hal')) :
    EnrolTold m hal hal.hat hal' := by
  obtain ⟨⟨status, started⟩, hstart, h⟩ := bind_eq_ok.mp h
  dsimp only at h
  split at h
  · cases h
    refine Or.inl (NoFinger.reportEnrol ?_ status)
    rw [startEnrol_callbacks hstart]
    exact .refl hal.callbacks
  · next hzero =>
    rw [not_not] at hzero
    subst hzero
    have hstarted := startEnrol_valid hbuffer hlength hstart
    obtain ⟨ended, htouches, h⟩ := bind_eq_ok.mp h
    split at h
    · cases h
    · next left reached =>
      cases h
      exact Or.inl ((enrolTouches_kept hbuffer hstarted htouches).noFinger.reportEnrol left)
    · next touched =>
      obtain ⟨⟨completed, reached⟩, hcomplete, h⟩ := bind_eq_ok.mp h
      cases h
      exact completeEnrol_granted hbuffer hlength (enrolTouches_kept hbuffer hstarted htouches) hcomplete

/-- **An enrolment that is reported was granted.** In every run of the device, whatever the calls before it
were and whatever this one meets: `fpc_enroll` reports at most one finger, as the last thing and under the
current group, and only if the token it was given is one of 69 bytes that the application found valid for
the challenge that was out; then a finger of this id is enrolled for the user of the token, in the
application and in the file, and no other finger is new. -/
theorem enroll_reports {files : String → Option FingerprintDatabase}
    {history : List (HalEvent P)} (hrun : (halSystem P files).Run history hal) {e : HalEvent P}
    (he : e ∈ history) {hat : List UInt8} {gid : UInt32} (hcall : e.call = .enroll hat gid) :
    EnrolTold e.meets e.pre hat e.result := by
  obtain ⟨past, s, s', hpast, ⟨hpre, hreturned, _⟩, _⟩ := hrun.before_of_mem he
  have hbuffer := halSystem_buffer hpast
  rw [hcall] at hreturned
  subst hpre
  have hcalled : fpcEnroll e.meets e.pre hat gid = .ok (some (e.status, e.result)) := hreturned
  unfold fpcEnroll at hcalled
  split at hcalled
  · injection hcalled with hcalled
    injection hcalled with hcalled
    rw [← (Prod.mk.inj hcalled).2]
    exact Or.inl (.refl _)
  · split at hcalled
    · injection hcalled with hcalled
      injection hcalled with hcalled
      rw [← (Prod.mk.inj hcalled).2]
      exact Or.inl (.refl _)
    · next hlength =>
      obtain ⟨ended, hended, hcalled⟩ := bind_eq_ok.mp hcalled
      injection hcalled with hcalled
      obtain ⟨hal', rfl, hreturned⟩ := Option.map_eq_some_iff.mp hcalled
      rw [← (Prod.mk.inj hreturned).2]
      have htold := @doEnroll_told P e.meets { e.pre with hat := hat } hal' hbuffer
        (not_not.mp hlength) hended
      cases htold with
      | inl hnone => exact Or.inl hnone
      | inr hgranted =>
        obtain ⟨fid, told, hcallbacks, hnone, hgranted⟩ := hgranted
        exact Or.inr ⟨fid, told, hcallbacks, hnone, { hgranted with }⟩

end

/-- A challenge is got, and a finger enrolled with a token for it. -/
def sampleGranted : List HalCall := [.setActiveGroup 10 "/p", .preEnroll, .enroll sampleToken.bytes 10]

theorem enroll_reports_finger :
    ∃ history hal, ∃ e ∈ history, (halSystem samplePlatform fun _ => none).Run history hal ∧
      e.call = .enroll sampleToken.bytes 10 ∧
      e.result.callbacks.head? = some (.onEnrollResult 0x5A5A5A5A 10 0) ∧
      EnrolTold e.meets e.pre sampleToken.bytes e.result := by
  obtain ⟨history, hal, hrun, hcall, hreports⟩ := sampleCalls_run sampleGranted
    (fun history _ => history.head?.map HalEvent.call = some (.enroll sampleToken.bytes 10) ∧
      history.head?.bind (fun e => e.result.callbacks.head?) = some (.onEnrollResult 0x5A5A5A5A 10 0))
    (by decide +kernel)
  obtain ⟨e, hhead, hcall⟩ := Option.map_eq_some_iff.mp hcall
  rw [hhead] at hreports
  have he : e ∈ history := List.mem_of_mem_head? hhead
  exact ⟨history, hal, e, he, hrun, hcall, hreports, enroll_reports hrun he hcall⟩

end Fpc
