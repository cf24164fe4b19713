import Fingerprints.Runs.History
import Fingerprints.Types
import Fingerprints.Wire.Message

/-!
# The configuration of the force sensor

`sensetouch/fpc_hal_sense_touch.c` and `sensetouch/fpc_hal_ext_sense_touch.c`. The configuration is
read from a file into the structure that is in use, and a flag says that some load has succeeded. A
load clears the structure first.

* **`loadedConfig_iff`**: a load succeeds exactly on a whole configuration of version 1;
* **`configTrue_step_iff`**: a call leaves the configuration of the last load that succeeded exactly
  when it makes no load that fails behind one, or the failed one reads that configuration back;
* **`configTrue_iff`**: so for all states of a run.
-/

namespace Fpc.SenseTouch

open Runs Wire

/-! ## The configuration (`fpc_hal_sense_touch_types.h`) -/

def fpcSenseTouchVersion1 : UInt32 := 1

/-- `fpc_sense_touch_config_t` -/
structure Config where
  version : UInt32
  ground : UInt8
  triggerThreshold : UInt8
  untriggerThreshold : UInt8
  authEnableDownForce : UInt8
  authEnableUpForce : UInt8
  authButtonTimeoutMs : UInt32
  deriving DecidableEq, Repr

/-- The structure is packed. -/
def sizeofConfig : Nat := 13

/-- The bytes of a configuration. -/
def Config.bytes (config : Config) : List UInt8 :=
  le32 config.version ++
    ([config.ground, config.triggerThreshold, config.untriggerThreshold,
      config.authEnableDownForce, config.authEnableUpForce] ++ le32 config.authButtonTimeoutMs)

/-- The configuration that bytes are, with zeros where they end too early. -/
def Config.ofBytes (bytes : List UInt8) : Config :=
  let bytes := overlay (List.replicate sizeofConfig 0) 0 bytes
  { version := field32 bytes 0
    ground := bytes.getD 4 0
    triggerThreshold := bytes.getD 5 0
    untriggerThreshold := bytes.getD 6 0
    authEnableDownForce := bytes.getD 7 0
    authEnableUpForce := bytes.getD 8 0
    authButtonTimeoutMs := field32 bytes 9 }

/-! ## The functions -/

/-- `sense_touch_config` and `config_loaded`, and the file at `SENSE_TOUCH_CALIBRATION_PATH`. -/
structure Module where
  senseTouchConfig : Config
  configLoaded : Bool
  file : Option (List UInt8)
  deriving DecidableEq, Repr

/-- What the calls of a load come to: whether the file is opened, and how many bytes `read` brings
at most, `none` where it fails. -/
structure LoadIo where
  opens : Bool
  read : Option Nat
  deriving DecidableEq, Repr

/-- What the calls of a store come to, and those of the load behind it. -/
structure StoreIo where
  opens : Bool
  write : Option Nat
  load : LoadIo
  deriving DecidableEq, Repr

/-- The bytes that a load reads. -/
def LoadIo.bytes (io : LoadIo) (file : Option (List UInt8)) : List UInt8 :=
  match io.opens, file, io.read with
  | true, some content, some count => content.take (min count sizeofConfig)
  | _, _, _ => []

/-- `fpc_sense_touch_load_config` -/
def fpcSenseTouchLoadConfig (io : LoadIo) (s : Module) : Int × Module :=
  let s := { s with senseTouchConfig := Config.ofBytes [] }
  if io.opens = false ∨ s.file = none then (-fpcErrorIo, s)
  else
    let bytes := io.bytes s.file
    let s := { s with senseTouchConfig := Config.ofBytes bytes }
    if bytes.length ≠ sizeofConfig then (-fpcErrorIo, s)
    else if s.senseTouchConfig.version ≠ fpcSenseTouchVersion1 then (-fpcErrorIo, s)
    else (0, { s with configLoaded := true })

/-- `fpc_sense_touch_get_config` -/
def fpcSenseTouchGetConfig (s : Module) : Option Config :=
  if s.configLoaded then some s.senseTouchConfig else none

def Config.withAuthMode (config : Config) (enableDownForce enableUpForce : Bool)
    (buttonTimeoutMs : UInt32) : Config :=
  { config with
    authEnableDownForce := if enableDownForce then 1 else 0
    authEnableUpForce := if enableUpForce then 1 else 0
    authButtonTimeoutMs := buttonTimeoutMs }

/-- `fpc_sense_touch_set_auth_mode`, and `set_auth_mode` of the extension. -/
def fpcSenseTouchSetAuthMode (enableDownForce enableUpForce : Bool) (buttonTimeoutMs : UInt32)
    (s : Module) : Module :=
  { s with senseTouchConfig :=
      s.senseTouchConfig.withAuthMode enableDownForce enableUpForce buttonTimeoutMs }

/-- What `store_calibration_data` stores. `FPC_HAL_SENSE_TOUCH_UNTRIGGER_MODIFIER` is 0.80. -/
def calibration (ground threshold : UInt8) : Config :=
  { version := fpcSenseTouchVersion1
    ground := ground
    triggerThreshold := threshold
    untriggerThreshold := UInt8.ofNat (threshold.toNat * 4 / 5)
    authEnableDownForce := 0
    authEnableUpForce := 0
    authButtonTimeoutMs := 0 }

/-- The bytes that a store writes. -/
def StoreIo.bytes (io : StoreIo) (ground threshold : UInt8) : List UInt8 :=
  match io.write with
  | some count => (calibration ground threshold).bytes.take count
  | none => []

/-- The file behind a store that opened it. It is not truncated. -/
def StoreIo.file (io : StoreIo) (ground threshold : UInt8) (s : Module) : List UInt8 :=
  overlay (s.file.getD []) 0 (io.bytes ground threshold)

/-- `store_calibration_data` -/
def storeCalibrationData (ground threshold : UInt8) (io : StoreIo) (s : Module) : Int × Module :=
  if io.opens = false then (-fpcErrorIo, s)
  else
    let s := { s with file := some (io.file ground threshold s) }
    if (io.bytes ground threshold).length ≠ sizeofConfig then (-fpcErrorIo, s)
    else fpcSenseTouchLoadConfig io.load s

/-! ## Runs -/

/-- A call, or another program that replaces the file. -/
inductive Call
  | loadConfig (io : LoadIo)
  | storeCalibrationData (ground threshold : UInt8) (io : StoreIo)
  | setAuthMode (enableDownForce enableUpForce : Bool) (buttonTimeoutMs : UInt32)
  | replaceFile (content : Option (List UInt8))
  deriving DecidableEq, Repr

/-- What a call returns and leaves. -/
def Call.run (s : Module) : Call → Int × Module
  | .loadConfig io => fpcSenseTouchLoadConfig io s
  | .storeCalibrationData ground threshold io => SenseTouch.storeCalibrationData ground threshold io s
  | .setAuthMode enableDownForce enableUpForce buttonTimeoutMs =>
      (0, fpcSenseTouchSetAuthMode enableDownForce enableUpForce buttonTimeoutMs s)
  | .replaceFile content => (0, { s with file := content })

/-- A call in the state that it is made in. -/
structure Moment where
  before : Module
  call : Call
  deriving DecidableEq, Repr

/-- The module from its start on, where no load was made yet. -/
def senseTouchSystem : System Module Moment where
  init s := s.senseTouchConfig = Config.ofBytes [] ∧ s.configLoaded = false
  step s e s' := e.before = s ∧ s' = (e.call.run s).2

/-- The bytes that the load of a call reads, where the call comes to a load. -/
def Moment.bytesRead (e : Moment) : Option (List UInt8) :=
  match e.call with
  | .loadConfig io => some (io.bytes e.before.file)
  | .storeCalibrationData ground threshold io =>
      if io.opens = true ∧ (io.bytes ground threshold).length = sizeofConfig then
        some (io.load.bytes (some (io.file ground threshold e.before)))
      else none
  | .setAuthMode .. => none
  | .replaceFile _ => none

/-- The configuration that some bytes are, when they are all of one and it has the version. -/
def validConfig (bytes : List UInt8) : Option Config :=
  if bytes.length = sizeofConfig ∧ (Config.ofBytes bytes).version = fpcSenseTouchVersion1 then
    some (Config.ofBytes bytes)
  else none

/-- The configuration that a call loads. -/
def Moment.loadedConfig (e : Moment) : Option Config := e.bytesRead.bind validConfig

/-- The configuration of the last load that succeeded, as the authentication modes that were set
behind it leave it. -/
def configInUse : List Moment → Option Config
  | [] => none
  | e :: history =>
      match e.loadedConfig, e.call with
      | some config, _ => some config
      | none, .setAuthMode enableDownForce enableUpForce buttonTimeoutMs =>
          (configInUse history).map
            (·.withAuthMode enableDownForce enableUpForce buttonTimeoutMs)
      | none, _ => configInUse history

/-- What the module hands out is the configuration of the last load. -/
def ConfigTrue (history : List Moment) (s : Module) : Prop :=
  ∀ config, fpcSenseTouchGetConfig s = some config → configInUse history = some config

/-- A call makes no load that fails behind one that succeeded, or what it reads is the configuration
that is in use, up to zeros at the end of it. -/
def Moment.Spares (e : Moment) : Prop :=
  e.before.configLoaded = true → ∀ bytes, e.bytesRead = some bytes → validConfig bytes = none →
    Config.ofBytes bytes = e.before.senseTouchConfig

instance (e : Moment) : Decidable e.Spares := by
  unfold Moment.Spares
  cases e.bytesRead with
  | none => exact .isTrue fun _ _ h => nomatch h
  | some bytes =>
    exact decidable_of_iff (e.before.configLoaded = true → validConfig bytes = none →
      Config.ofBytes bytes = e.before.senseTouchConfig) (by simp)

/-! ## One call -/

section

variable {s s' : Module} {e : Moment} {history : List Moment}

theorem validConfig_some {bytes : List UInt8} {config : Config}
    (h : validConfig bytes = some config) :
    bytes.length = sizeofConfig ∧ config.version = fpcSenseTouchVersion1 ∧
      config = Config.ofBytes bytes := by
  unfold validConfig at h
  split at h
  · next hvalid =>
    cases h
    exact ⟨hvalid.1, hvalid.2, rfl⟩
  · cases h

/-- A load puts what it read into the structure, and sets the flag where it is valid. -/
theorem fpcSenseTouchLoadConfig_eq (io : LoadIo) (s : Module) :
    fpcSenseTouchLoadConfig io s =
      match validConfig (io.bytes s.file) with
      | some config => (0, { s with senseTouchConfig := config, configLoaded := true })
      | none => (-fpcErrorIo, { s with senseTouchConfig := Config.ofBytes (io.bytes s.file) }) := by
  unfold fpcSenseTouchLoadConfig validConfig
  dsimp only
  split
  · next hclosed =>
    have hbytes : io.bytes s.file = [] := by
      unfold LoadIo.bytes
      rcases hclosed with hclosed | hclosed
      · rw [hclosed]
      · rw [hclosed]
        cases io.opens <;> rfl
    rw [hbytes, if_neg (by decide)]
  · split
    · next hshort => rw [if_neg fun hvalid => hshort hvalid.1]
    · next hwhole =>
      split
      · next hversion => rw [if_neg fun hvalid => hversion hvalid.2]
      · next hversion => rw [if_pos ⟨not_not.mp hwhole, not_not.mp hversion⟩]

/-- What a call that comes to a load returns and leaves. -/
theorem run_of_bytesRead {bytes : List UInt8} (h : e.bytesRead = some bytes) :
    ∃ file, e.call.run e.before =
      match validConfig bytes with
      | some config =>
          (0, { senseTouchConfig := config, configLoaded := true, file := file })
      | none =>
          (-fpcErrorIo, { senseTouchConfig := Config.ofBytes bytes,
                          configLoaded := e.before.configLoaded, file := file }) := by
  unfold Moment.bytesRead at h
  cases hcall : e.call with
  | loadConfig io =>
    rw [hcall] at h
    cases h
    exact ⟨e.before.file, fpcSenseTouchLoadConfig_eq io e.before⟩
  | storeCalibrationData ground threshold io =>
    rw [hcall] at h
    dsimp only at h
    split at h
    · next hstored =>
      cases h
      refine ⟨some (io.file ground threshold e.before), ?_⟩
      dsimp only [Call.run]
      unfold storeCalibrationData
      rw [if_neg (by rw [hstored.1]; decide), if_neg (not_not.mpr hstored.2)]
      exact fpcSenseTouchLoadConfig_eq io.load _
    · cases h
  | setAuthMode _ _ _ =>
    rw [hcall] at h
    cases h
  | replaceFile _ =>
    rw [hcall] at h
    cases h

/-- **A load succeeds exactly on a whole configuration of version 1.** -/
theorem loadedConfig_iff {bytes : List UInt8} (h : e.bytesRead = some bytes) :
    (e.call.run e.before).1 = 0 ↔ ∃ config, e.loadedConfig = some config := by
  obtain ⟨file, hrun⟩ := run_of_bytesRead h
  rw [hrun, Moment.loadedConfig, h, Option.bind_some]
  cases validConfig bytes with
  | some config => exact iff_of_true rfl ⟨config, rfl⟩
  | none =>
    refine iff_of_false ?_ nofun
    dsimp only
    decide

/-- A call without a load leaves the flag, and the structure but for the authentication mode. -/
theorem run_of_not_bytesRead (h : e.bytesRead = none) :
    (e.call.run e.before).2.configLoaded = e.before.configLoaded ∧
      (e.call.run e.before).2.senseTouchConfig =
        match e.call with
        | .setAuthMode enableDownForce enableUpForce buttonTimeoutMs =>
            e.before.senseTouchConfig.withAuthMode enableDownForce enableUpForce buttonTimeoutMs
        | _ => e.before.senseTouchConfig := by
  unfold Moment.bytesRead at h
  cases hcall : e.call with
  | loadConfig _ =>
    rw [hcall] at h
    cases h
  | storeCalibrationData ground threshold io =>
    rw [hcall] at h
    dsimp only [Call.run] at h ⊢
    unfold storeCalibrationData
    split at h
    · cases h
    · next hnot =>
      by_cases hopens : io.opens = false
      · rw [if_pos hopens]
        exact ⟨rfl, rfl⟩
      · rw [if_neg hopens]
        rw [Bool.not_eq_false] at hopens
        dsimp only
        rw [if_pos fun hwhole => hnot ⟨hopens, hwhole⟩]
        exact ⟨rfl, rfl⟩
  | setAuthMode _ _ _ => exact ⟨rfl, rfl⟩
  | replaceFile _ => exact ⟨rfl, rfl⟩

/-! ## The configuration in use -/

theorem configTrue_iff_of_loaded (h : s.configLoaded = true) :
    ConfigTrue history s ↔ configInUse history = some s.senseTouchConfig := by
  unfold ConfigTrue fpcSenseTouchGetConfig
  rw [if_pos h]
  constructor
  · intro htrue
    exact htrue _ rfl
  · rintro htrue config ⟨⟩
    exact htrue

theorem configTrue_of_not_loaded (h : s.configLoaded = false) : ConfigTrue history s := by
  unfold ConfigTrue fpcSenseTouchGetConfig
  rw [if_neg (by rw [h]; decide)]
  nofun

/-- A call without a load keeps what is in use. -/
theorem configTrue_of_not_bytesRead (htrue : ConfigTrue history e.before)
    (h : e.bytesRead = none) : ConfigTrue (e :: history) (e.call.run e.before).2 := by
  obtain ⟨hflag, hconfig⟩ := run_of_not_bytesRead h
  cases hloaded : e.before.configLoaded with
  | false => exact configTrue_of_not_loaded (hflag.trans hloaded)
  | true =>
    rw [configTrue_iff_of_loaded hloaded] at htrue
    rw [configTrue_iff_of_loaded (hflag.trans hloaded), hconfig, configInUse, Moment.loadedConfig,
      h, Option.bind_none, htrue]
    cases e.call <;> rfl

/-- **A call leaves the configuration of the last load that succeeded exactly when it makes no load
that fails behind one, or the failed one reads that configuration back.** -/
theorem configTrue_step_iff (htrue : ConfigTrue history s) (h : senseTouchSystem.step s e s') :
    ConfigTrue (e :: history) s' ↔ e.Spares := by
  obtain ⟨rfl, rfl⟩ := h
  cases hread : e.bytesRead with
  | none =>
    refine iff_of_true (configTrue_of_not_bytesRead htrue hread) ?_
    intro _ bytes hsome
    rw [hread] at hsome
    cases hsome
  | some bytes =>
    obtain ⟨file, hrun⟩ := run_of_bytesRead hread
    cases hvalid : validConfig bytes with
    | some config =>
      rw [hrun, hvalid, configTrue_iff_of_loaded rfl, configInUse, Moment.loadedConfig, hread,
        Option.bind_some, hvalid]
      refine iff_of_true rfl ?_
      intro _ bytes' hsome hinvalid
      rw [hread] at hsome
      cases hsome
      rw [hvalid] at hinvalid
      cases hinvalid
    | none =>
      rw [hrun, hvalid]
      cases hloaded : e.before.configLoaded with
      | false =>
        refine iff_of_true (configTrue_of_not_loaded rfl) ?_
        intro habsurd
        rw [hloaded] at habsurd
        cases habsurd
      | true =>
        -- the structure was cleared, and what was in use is what the history says
        have hinUse : configInUse (e :: history) = some e.before.senseTouchConfig := by
          rw [configTrue_iff_of_loaded hloaded] at htrue
          rw [configInUse, Moment.loadedConfig, hread, Option.bind_some, hvalid, ← htrue]
          cases hcall : e.call with
          | setAuthMode _ _ _ => simp [Moment.bytesRead, hcall] at hread
          | loadConfig _ => rfl
          | storeCalibrationData _ _ _ => rfl
          | replaceFile _ => rfl
        rw [configTrue_iff_of_loaded rfl, hinUse, Option.some.injEq]
        constructor
        · intro heq _ bytes' hsome _
          rw [hread] at hsome
          cases hsome
          exact heq.symm
        · intro hspares
          exact (hspares hloaded bytes hread hvalid).symm

/-- **When the configuration in use is a loaded one.** In all states of a run it is the one of the
last load that succeeded, with the authentication modes set behind it, exactly when no call clears
it by a load that fails. -/
theorem configTrue_iff (hrun : senseTouchSystem.Run history s) :
    ((ConfigTrue history s ∧
        ∀ later e past, history = later ++ e :: past → ConfigTrue past e.before) ↔
      ∀ e ∈ history, e.Spares) ∧
    ∀ e ∈ history, ∀ bytes, e.bytesRead = some bytes →
      (((e.call.run e.before).1 = 0 ↔ ∃ config, e.loadedConfig = some config) ∧
        ∀ config, e.loadedConfig = some config →
          bytes.length = sizeofConfig ∧ config.version = fpcSenseTouchVersion1 ∧
            config = Config.ofBytes bytes) := by
  constructor
  · rw [← System.forall_split_iff_mem]
    apply System.Run.throughout_history_iff (K := fun _ e => e.Spares) _ _ _ hrun
    · intro _ _ _ hstep
      exact hstep.1
    · intro s hinit
      exact configTrue_of_not_loaded hinit.2
    · intro history s e s' _ htrue hstep
      exact configTrue_step_iff htrue hstep
  · intro e _ bytes hread
    refine ⟨loadedConfig_iff hread, ?_⟩
    intro config hloaded
    rw [Moment.loadedConfig, hread, Option.bind_some] at hloaded
    exact validConfig_some hloaded

/-- The history and the state behind some calls, the latest first. -/
def callsFrom (start : Module) : List Call → List Moment × Module
  | [] => ([], start)
  | call :: earlier =>
      let (history, s) := callsFrom start earlier
      (⟨s, call⟩ :: history, (call.run s).2)

/-- They are a run. Induction on the calls. -/
theorem run_callsFrom (hinit : senseTouchSystem.init s) (calls : List Call) :
    senseTouchSystem.Run (callsFrom s calls).1 (callsFrom s calls).2 := by
  induction calls with
  | nil => exact .init hinit
  | cons call earlier ih => exact .step ih ⟨rfl, rfl⟩

end

/-- A device whose file is one that was stored. -/
def sampleModule : Module :=
  { senseTouchConfig := Config.ofBytes [], configLoaded := false,
    file := some (calibration 10 100).bytes }

def sampleLoad : Call := .loadConfig { opens := true, read := some sizeofConfig }

/-- The file is loaded, an authentication mode is set and another calibration is stored. -/
theorem sampleCalls_configTrue :
    ConfigTrue (callsFrom sampleModule
        [.storeCalibrationData 12 90
          { opens := true, write := some sizeofConfig,
            load := { opens := true, read := some sizeofConfig } },
          .setAuthMode true false 500, sampleLoad]).1
      (callsFrom sampleModule
        [.storeCalibrationData 12 90
          { opens := true, write := some sizeofConfig,
            load := { opens := true, read := some sizeofConfig } },
          .setAuthMode true false 500, sampleLoad]).2 :=
  ((configTrue_iff (run_callsFrom ⟨rfl, rfl⟩ _)).1.mpr (by decide +kernel)).1

/-- The file is loaded, and cannot be opened when it is loaded again. -/
theorem failedReload_clears :
    ¬ ∀ (history : List Moment) (s : Module), senseTouchSystem.Run history s →
      ConfigTrue history s := by
  intro h
  have hrun := run_callsFrom (s := sampleModule) ⟨rfl, rfl⟩
    [.loadConfig { opens := false, read := none }, sampleLoad]
  have htrue := h _ _ hrun (Config.ofBytes []) (by decide +kernel)
  revert htrue
  decide +kernel

end Fpc.SenseTouch
