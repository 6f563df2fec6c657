import PrintServer.Config
import PrintServer.Lib.Timer
import PrintServer.Lib.Runs
/-!
# Wi-Fi and its settings (HP-print-server.ino:38-72, 339-411, 452-496)

| here | there |
| --- | --- |
| `Nvs`                | what `getString` finds under the two keys of `NVS_NAMESPACE` |
| `Preferences`        | the library of that name, as far as `saveConfig` uses it |
| `SetupReads`         | what `setup` finds: NVS, the clock, `WiFi.status()` at :487, :490 and :492 |
| `WifiPoll`           | what one `serviceWifi` reads: the clock at :380, :381, :394 and :395, `WiFi.status()` |
| `WifiEvent`          | what is done with the radio, the responder and the listeners, the latest first |

`Preferences` is not part of this repository: `Documented` says what its documentation promises.
`lastDisconnectMs` is never written: `timeSinceDisconnect` is the time since the clock last wrapped,
and the branch behind it (:398) is taken in the first ten seconds after that.

- `attempts_apart`, `attempt_follows`: the network is tried neither too often nor too seldom.
- `saved_given`: what NVS took is what the radio is given.
-/
namespace PrintServer

/-- `Config` (:27). -/
structure Config where
  ssid : Bytes := []
  password : Bytes := []
deriving DecidableEq, Repr

/-- The `c_str()` of both. -/
def Config.cStr (config : Config) : Config := { ssid := cstr config.ssid, password := cstr config.password }

/-! ## The settings -/

structure Nvs where
  ssid : Option Bytes := none
  password : Option Bytes := none
deriving DecidableEq, Repr

/-- `Preferences::putString`: what `getString` finds under the key afterwards, and the result. A value
of `φ` is what becomes of the flash in a call. -/
structure Preferences (φ : Type) where
  putString (flash : φ) (old : Option Bytes) (value : Bytes) : Option Bytes × Nat

/-- The result is the length of the text that was stored, or 0. -/
structure Preferences.Documented {φ : Type} (P : Preferences φ) : Prop where
  stored : ∀ flash old value, 0 < (P.putString flash old value).2 →
    (P.putString flash old value).1 = some (cstr value)
  failed : ∀ flash old value, (P.putString flash old value).2 = 0 →
    (P.putString flash old value).1 = old ∨ (P.putString flash old value).1 = some (cstr value)

/-- What `saveConfig` meets: whether NVS opens, and the two writes. -/
structure SaveAnswers (φ : Type) where
  opened : Bool := true
  ssid : φ
  password : φ
deriving DecidableEq, Repr

/-- `loadConfig` (:42). -/
def loadConfig (nvs : Nvs) (opened : Bool) : Config :=
  if opened then { ssid := nvs.ssid.getD [], password := nvs.password.getD [] } else {}

/-- `saveConfig` (:49). -/
def saveConfig {φ : Type} (P : Preferences φ) (config : Config) (nvs : Nvs) (a : SaveAnswers φ) : Nvs × Bool :=
  if !a.opened then (nvs, false)
  else
    let (ssid, ssidWritten) := P.putString a.ssid nvs.ssid config.ssid
    let (password, passWritten) := P.putString a.password nvs.password config.password
    ({ ssid, password },
      (config.ssid.isEmpty || 0 < ssidWritten) && (config.password.isEmpty || 0 < passWritten))

/-- The arguments of `/save`. -/
structure SaveForm where
  ssid : Option Bytes
  password : Option Bytes := none
  clearPassword : Bool := false
deriving DecidableEq, Repr

/-- The settings that a form with an SSID asks for. -/
def SaveForm.settings (form : SaveForm) (ssid : Bytes) (config : Config) : Config where
  ssid := ssid
  password :=
    if form.clearPassword then []
    else match form.password with
      | some password => if password.isEmpty then config.password else password
      | none => config.password

/-- The code of the answer. -/
inductive SaveReply where
  | nameRequired
  | notSaved
  /-- 200; the device restarts. -/
  | saved
deriving DecidableEq, Repr

/-- `handleSave` (:339). -/
def handleSave {φ : Type} (P : Preferences φ) (form : SaveForm) (config : Config) (nvs : Nvs) (a : SaveAnswers φ) :
    Config × Nvs × SaveReply :=
  match form.ssid with
  | none | some [] => (config, nvs, .nameRequired)
  | some ssid =>
    let config := form.settings ssid config
    let (nvs, ok) := saveConfig P config nvs a
    (config, nvs, if ok then .saved else .notSaved)

/-! ## The service -/

/-- `WL_CONNECTED`. -/
def wlConnected : Int := 3

inductive WifiEvent where
  /-- `WiFi.begin` in `setup` (:479). -/
  | begin (config : Config)
  /-- `WiFi.disconnect(false, false)` and `WiFi.begin` in `serviceWifi` (:406). -/
  | reconnect (time : Nat) (config : Config)
  /-- The responder is down (:382). -/
  | retry (time : Nat)
  /-- `startRawDiscovery`, and what `MDNS.begin` returned. -/
  | discovery (ok : Bool)
  /-- `WiFi.softAPdisconnect(true); WiFi.mode(WIFI_STA)`. -/
  | stopAp
  | restartRawListener
  | rebind
deriving DecidableEq, Repr

structure WifiService where
  config : Config
  mdnsReady : Bool := false
  configApActive : Bool := false
  mdnsRetryDueMs : Nat := 0
  lastWifiStatus : Int := -1
  lastWifiAttemptMs : Nat := 0
  lastDisconnectMs : Nat := 0
  /-- The time of the last reading of the clock. -/
  now : Nat := 0
  log : List WifiEvent := []
deriving DecidableEq, Repr

structure SetupReads where
  /-- The partition is stale, and erased (:461). -/
  erased : Bool := false
  opened : Bool := true
  now : Nat := 0
  linkUp : Bool := false
  softAp : Bool := true
  status : Int
  connected : Bool := false
  mdns : Bool := true
deriving DecidableEq, Repr

structure WifiPoll where
  mdnsCheck : Nat
  mdnsMark : Nat
  check : Nat
  attempt : Nat
  status : Int
  /-- `MDNS.begin` at :383 and at :389. -/
  mdnsRetry : Bool := true
  mdnsConnect : Bool := true
deriving DecidableEq, Repr

namespace WifiService

def record (w : WifiService) (e : WifiEvent) : WifiService := { w with log := e :: w.log }

/-- `startRawDiscovery` (:67). -/
def startRawDiscovery (w : WifiService) (ok : Bool) : WifiService := { w with mdnsReady := ok }.record (.discovery ok)

/-- `onWifiConnected` (:362). -/
def onWifiConnected (w : WifiService) (mdns : Bool) : WifiService :=
  let w := if w.configApActive then { w with configApActive := false }.record .stopAp else w
  ((w.startRawDiscovery mdns).record .restartRawListener).record .rebind

/-- The retry of the discovery (:380-385). -/
def retryDiscovery (w : WifiService) (p : WifiPoll) : WifiService :=
  if !w.mdnsReady && 3600000 ≤ sub32 (millis p.mdnsCheck) w.mdnsRetryDueMs then
    let w := ({ w with mdnsRetryDueMs := millis p.mdnsMark }.record (.retry p.mdnsMark)).startRawDiscovery p.mdnsRetry
    if w.mdnsReady then w.record .restartRawListener else w
  else w

/-- The link goes up or down (:387-392). -/
def followLink (w : WifiService) (p : WifiPoll) : WifiService :=
  if p.status = wlConnected ∧ w.lastWifiStatus ≠ wlConnected then w.onWifiConnected p.mdnsConnect else w

/-- The retry of the saved network (:394-409). -/
def reconnect (w : WifiService) (p : WifiPoll) : WifiService :=
  if p.status ≠ wlConnected ∧ w.config.ssid ≠ [] ∧ 30000 ≤ sub32 (millis p.check) w.lastWifiAttemptMs then
    let now := millis p.attempt
    let timeSinceDisconnect := sub32 now w.lastDisconnectMs
    if timeSinceDisconnect < 10000 then { w with lastWifiAttemptMs := sub32 (now + 10000) timeSinceDisconnect }
    else { w with lastWifiAttemptMs := now }.record (.reconnect p.attempt w.config.cStr)
  else w

/-- `serviceWifi` (:375). -/
def serviceWifi (w : WifiService) (p : WifiPoll) : WifiService :=
  let w := ((w.retryDiscovery p).followLink p).reconnect p
  { w with lastWifiStatus := p.status, now := p.attempt }

/-- `setup`, from `loadConfig` on (:468-496). -/
def setup (nvs : Nvs) (r : SetupReads) : WifiService :=
  let config := loadConfig nvs r.opened
  let w : WifiService := { config, now := r.now }
  let w := if config.ssid.isEmpty then w else w.record (.begin config.cStr)
  let wifiOk := !config.ssid.isEmpty && r.linkUp
  let w := { w with configApActive := !wifiOk && r.softAp, lastWifiStatus := r.status, lastWifiAttemptMs := 0 }
  if r.connected then (w.startRawDiscovery r.mdns).record .restartRawListener else w

end WifiService

/-! ## The device -/

structure WifiDevice where
  nvs : Nvs
  wifi : WifiService
deriving DecidableEq, Repr

inductive WifiAct (φ : Type) where
  | poll (p : WifiPoll)
  | save (form : SaveForm) (a : SaveAnswers φ) (r : SetupReads)
  /-- Power is lost between two calls, or the watchdog fires. -/
  | restart (r : SetupReads)

namespace WifiDevice
variable {φ : Type}

/-- `setup`, from `nvs_flash_init` on (:459-496). -/
def boot (nvs : Nvs) (r : SetupReads) : WifiDevice :=
  let nvs := if r.erased then {} else nvs
  { nvs, wifi := .setup nvs r }

/-- The clock does not go back between two readings. -/
def step (P : Preferences φ) (s : WifiDevice) : WifiAct φ → Option WifiDevice
  | .poll p =>
    if s.wifi.now ≤ p.mdnsCheck ∧ p.mdnsCheck ≤ p.mdnsMark ∧ p.mdnsMark ≤ p.check ∧ p.check ≤ p.attempt then
      some { s with wifi := s.wifi.serviceWifi p }
    else none
  | .save form a r =>
    let (config, nvs, reply) := handleSave P form s.wifi.config s.nvs a
    match reply with
    | .saved => some (boot nvs r)
    | _ => some { nvs, wifi := { s.wifi with config } }
  | .restart r => some (boot s.nvs r)

end WifiDevice

namespace WifiEvent

/-- The time of an attempt to reach the saved network. -/
def attempt : WifiEvent → Option Nat
  | reconnect time _ => some time
  | _ => none

/-- The time of an attempt to start the responder again. -/
def retried : WifiEvent → Option Nat
  | retry time => some time
  | _ => none

/-- The settings that the radio is given. -/
def credentials : WifiEvent → Option Config
  | begin config | reconnect _ config => some config
  | _ => none

end WifiEvent

namespace WifiService

/-- The attempts of `serviceWifi`, the latest first. -/
def attempts (w : WifiService) : List Nat := w.log.filterMap WifiEvent.attempt

def retries (w : WifiService) : List Nat := w.log.filterMap WifiEvent.retried

/-- The settings that the radio was given. -/
def given (w : WifiService) : List Config := w.log.filterMap WifiEvent.credentials

variable {w w' w'' : WifiService} {p : WifiPoll}

/-! ## What a stage does -/

/-- The attempts are left alone. -/
structure Frame (w w' : WifiService) : Prop where
  config : w'.config = w.config
  attemptMs : w'.lastWifiAttemptMs = w.lastWifiAttemptMs
  disconnectMs : w'.lastDisconnectMs = w.lastDisconnectMs
  attempts : w'.attempts = w.attempts
  given : w'.given = w.given

theorem Frame.refl (w : WifiService) : Frame w w := ⟨rfl, rfl, rfl, rfl, rfl⟩

theorem Frame.trans (h : Frame w w') (h' : Frame w' w'') : Frame w w'' where
  config := h'.config.trans h.config
  attemptMs := h'.attemptMs.trans h.attemptMs
  disconnectMs := h'.disconnectMs.trans h.disconnectMs
  attempts := h'.attempts.trans h.attempts
  given := h'.given.trans h.given

/-- So are the retries of the discovery. -/
structure Apart (w w' : WifiService) : Prop extends Frame w w' where
  dueMs : w'.mdnsRetryDueMs = w.mdnsRetryDueMs
  retries : w'.retries = w.retries

theorem apart_onWifiConnected (w : WifiService) (mdns : Bool) : Apart w (w.onWifiConnected mdns) := by
  unfold onWifiConnected
  split
  · exact ⟨⟨rfl, rfl, rfl, rfl, rfl⟩, rfl, rfl⟩
  · exact ⟨⟨rfl, rfl, rfl, rfl, rfl⟩, rfl, rfl⟩

theorem apart_followLink (w : WifiService) (p : WifiPoll) : Apart w (w.followLink p) := by
  unfold followLink
  split
  · exact apart_onWifiConnected w p.mdnsConnect
  · exact ⟨.refl w, rfl, rfl⟩

theorem frame_retryDiscovery (w : WifiService) (p : WifiPoll) : Frame w (w.retryDiscovery p) := by
  unfold retryDiscovery
  split
  · dsimp only
    split
    · exact ⟨rfl, rfl, rfl, rfl, rfl⟩
    · exact ⟨rfl, rfl, rfl, rfl, rfl⟩
  · exact .refl w

theorem retryDiscovery_cases (w : WifiService) (p : WifiPoll) :
    ((w.retryDiscovery p).mdnsRetryDueMs = w.mdnsRetryDueMs ∧ (w.retryDiscovery p).retries = w.retries) ∨
    (3600000 ≤ Lib.elapsed (2 ^ 32) p.mdnsCheck w.mdnsRetryDueMs ∧
      (w.retryDiscovery p).mdnsRetryDueMs = millis p.mdnsMark ∧ (w.retryDiscovery p).retries = p.mdnsMark :: w.retries) := by
  unfold retryDiscovery
  split
  · rename_i hdue
    refine .inr ⟨?_, ?_⟩
    · exact of_decide_eq_true (Bool.and_eq_true_iff.1 hdue).2
    · dsimp only
      split
      · exact ⟨rfl, rfl⟩
      · exact ⟨rfl, rfl⟩
  · exact .inl ⟨rfl, rfl⟩

/-- What becomes of the attempts in one poll; the clock is past the first ten seconds after it has
wrapped, or it is not. -/
inductive Reconnects (w : WifiService) (p : WifiPoll) (w' : WifiService) : Prop
  | idle (h : p.status = wlConnected ∨ w.config.ssid = [] ∨ Lib.elapsed (2 ^ 32) p.check w.lastWifiAttemptMs < 30000)
      (hs : w' = w)
  | postponed (hdue : 30000 ≤ Lib.elapsed (2 ^ 32) p.check w.lastWifiAttemptMs) (hearly : millis p.attempt < 10000)
      (hs : w' = { w with lastWifiAttemptMs := 10000 })
  | attempted (hssid : w.config.ssid ≠ []) (hdue : 30000 ≤ Lib.elapsed (2 ^ 32) p.check w.lastWifiAttemptMs)
      (hlate : 10000 ≤ millis p.attempt)
      (hs : w' = { w with lastWifiAttemptMs := millis p.attempt }.record (.reconnect p.attempt w.config.cStr))

theorem sub32_zero (now : Nat) : sub32 (millis now) 0 = millis now := by
  have hlt : millis now < 2 ^ 32 := Nat.mod_lt _ (by decide)
  unfold sub32
  rw [Nat.zero_mod, Nat.sub_zero, Nat.add_mod_right, Nat.mod_eq_of_lt hlt]

/-- The second that `reconnect` waits for is the tenth. -/
theorem postponed_to (now : Nat) : sub32 (millis now + 10000) (millis now) = 10000 := by
  have hlt : millis now < 2 ^ 32 := Nat.mod_lt _ (by decide)
  unfold sub32
  rw [Nat.mod_eq_of_lt hlt, show millis now + 10000 + 2 ^ 32 - millis now = 10000 + 2 ^ 32 by omega, Nat.add_mod_right]
  rfl

theorem reconnects (h : w.lastDisconnectMs = 0) (p : WifiPoll) : Reconnects w p (w.reconnect p) := by
  have hsince : sub32 (millis p.attempt) w.lastDisconnectMs = millis p.attempt := by
    rw [h, sub32_zero]
  unfold reconnect
  dsimp only
  rw [hsince, postponed_to]
  split
  · rename_i hc
    obtain ⟨-, hssid, hdue⟩ := hc
    split
    · rename_i hearly
      exact .postponed hdue hearly rfl
    · rename_i hlate
      exact .attempted hssid hdue (Nat.le_of_not_lt hlate) rfl
  · rename_i hc
    refine .idle ?_ rfl
    by_cases hdown : p.status = wlConnected
    · exact .inl hdown
    by_cases hssid : w.config.ssid = []
    · exact .inr (.inl hssid)
    exact .inr (.inr (Nat.lt_of_not_le fun hdue => hc ⟨hdown, hssid, hdue⟩))

/-- The service as `reconnect` finds it. -/
def beforeReconnect (w : WifiService) (p : WifiPoll) : WifiService := (w.retryDiscovery p).followLink p

theorem serviceWifi_eq (w : WifiService) (p : WifiPoll) :
    w.serviceWifi p = { (w.beforeReconnect p).reconnect p with lastWifiStatus := p.status, now := p.attempt } := rfl

theorem frame_beforeReconnect (w : WifiService) (p : WifiPoll) : Frame w (w.beforeReconnect p) :=
  (frame_retryDiscovery w p).trans (apart_followLink _ p).toFrame

/-- What a poll adds to the record of the attempts, and to that of the settings given. -/
theorem serviceWifi_adds (h : w.lastDisconnectMs = 0) (p : WifiPoll) :
    (w.serviceWifi p).config = w.config ∧ (w.serviceWifi p).lastDisconnectMs = 0 ∧
      (((w.serviceWifi p).attempts = w.attempts ∧ (w.serviceWifi p).given = w.given) ∨
        ((w.serviceWifi p).attempts = p.attempt :: w.attempts ∧ (w.serviceWifi p).given = w.config.cStr :: w.given ∧
          w.config.ssid ≠ [])) := by
  have hframe := frame_beforeReconnect w p
  rw [serviceWifi_eq]
  obtain ⟨hconfig, -, hz, hattempts, hgiven⟩ := hframe
  generalize w.beforeReconnect p = v at hz hattempts hconfig hgiven
  cases reconnects (hz.trans h) p with
  | idle _ hs =>
    rw [hs]
    exact ⟨hconfig, hz.trans h, .inl ⟨hattempts, hgiven⟩⟩
  | postponed _ _ hs =>
    rw [hs]
    exact ⟨hconfig, hz.trans h, .inl ⟨hattempts, hgiven⟩⟩
  | attempted hssid _ _ hs =>
    rw [hs]
    refine ⟨hconfig, hz.trans h, .inr ⟨congrArg (p.attempt :: ·) hattempts, ?_, hconfig ▸ hssid⟩⟩
    show v.config.cStr :: v.given = _
    rw [hconfig, hgiven]

/-! ## Not too often -/

/-- What the two timers keep. -/
structure Timed (w : WifiService) : Prop where
  attempts : Lib.Paced (2 ^ 32) 30000 w.now w.lastWifiAttemptMs w.attempts
  retries : Lib.Paced (2 ^ 32) 3600000 w.now w.mdnsRetryDueMs w.retries
  disconnectMs : w.lastDisconnectMs = 0
  late : ∀ t ∈ w.attempts, 10000 ≤ millis t

theorem timed_setup (nvs : Nvs) (r : SetupReads) : Timed (setup nvs r) := by
  have hfacts : (setup nvs r).attempts = [] ∧ (setup nvs r).retries = [] ∧ (setup nvs r).lastDisconnectMs = 0 := by
    unfold setup
    dsimp only
    split
    · split
      · exact ⟨rfl, rfl, rfl⟩
      · exact ⟨rfl, rfl, rfl⟩
    · split
      · exact ⟨rfl, rfl, rfl⟩
      · exact ⟨rfl, rfl, rfl⟩
  obtain ⟨ha, hr, hd⟩ := hfacts
  refine ⟨?_, ?_, hd, ?_⟩
  · rw [ha]
    exact .nil
  · rw [hr]
    exact .nil
  · rw [ha]
    exact nofun

theorem timed_serviceWifi (h : Timed w) (hcheck : w.now ≤ p.mdnsCheck) (hmark : p.mdnsCheck ≤ p.mdnsMark)
    (hlater : p.mdnsMark ≤ p.check) (hattempt : p.check ≤ p.attempt) : Timed (w.serviceWifi p) := by
  have hnow : w.now ≤ p.check := by omega
  have hframe := frame_beforeReconnect w p
  have hapart := apart_followLink (w.retryDiscovery p) p
  -- the retry of the discovery
  have hretries : Lib.Paced (2 ^ 32) 3600000 p.attempt (w.beforeReconnect p).mdnsRetryDueMs (w.beforeReconnect p).retries := by
    show Lib.Paced _ _ _ ((w.retryDiscovery p).followLink p).mdnsRetryDueMs ((w.retryDiscovery p).followLink p).retries
    rw [hapart.dueMs, hapart.retries]
    rcases retryDiscovery_cases w p with ⟨hdue, hsame⟩ | ⟨hover, hdue, hnext⟩
    · rw [hdue, hsame]
      exact h.retries.mono (by omega)
    · rw [hdue, hnext]
      exact (h.retries.take hcheck hmark hover).mono (by omega)
  rw [serviceWifi_eq]
  have hz : (w.beforeReconnect p).lastDisconnectMs = 0 := hframe.disconnectMs.trans h.disconnectMs
  have hpaced := h.attempts
  have hlate := h.late
  rw [← hframe.attempts] at hpaced hlate
  rw [← hframe.attemptMs] at hpaced
  generalize w.beforeReconnect p = v at hz hpaced hlate hretries
  cases reconnects hz p with
  | idle _ hs =>
    rw [hs]
    exact ⟨hpaced.mono (Nat.le_trans hnow hattempt), hretries, hz, hlate⟩
  | postponed hdue _ hs =>
    rw [hs]
    exact ⟨(hpaced.postpone hnow hdue).mono hattempt, hretries, hz, hlate⟩
  | attempted _ hdue hten hs =>
    rw [hs]
    exact ⟨hpaced.take hnow hattempt hdue, hretries, hz, List.forall_mem_cons.2 ⟨hten, hlate⟩⟩

/-! ## Often enough -/

/-- Where the timer stands if no attempt was made since `t`, with a poll in every `g`: nothing was
polled, the last check has failed, or the clock has wrapped at `wrap`. -/
inductive Waits (g t : Nat) (w : WifiService) : Prop
  | fresh (h : w.now = t)
  | held (check start : Nat) (h : Lib.Held (2 ^ 32) 30000 check w.lastWifiAttemptMs start)
      (hstart : start ≤ t + g + 2 ^ 32) (hle : check ≤ w.now) (hnow : w.now ≤ check + g)
  | postponed (wrap : Nat) (h : w.lastWifiAttemptMs = 10000) (hwrap : wrap % 2 ^ 32 = 0)
      (hstart : wrap ≤ t + 3 * g + 30000) (hle : wrap ≤ w.now) (hnow : w.now < wrap + 40000 + g)

theorem Waits.bound {g t : Nat} (h : Waits g t w) : w.now ≤ t + 70000 + 4 * g := by
  cases h with
  | fresh h => omega
  | held check start h hstart hle hnow =>
    have hfails := h.fails
    omega
  | postponed wrap h hwrap hstart hle hnow => omega

/-- The check behind a wrapped clock: it holds before the tenth second, and from the fortieth on. -/
theorem elapsed_postponed {wrap check : Nat} (hwrap : wrap % 2 ^ 32 = 0) (hle : wrap ≤ check) (hlt : check < wrap + 2 ^ 32)
    (hfails : Lib.elapsed (2 ^ 32) check 10000 < 30000) : wrap + 10000 ≤ check ∧ check < wrap + 40000 := by
  have hstamp : 10000 % 2 ^ 32 = (wrap + 10000) % 2 ^ 32 := by omega
  have hshift : Lib.elapsed (2 ^ 32) check 10000 = (check + 2 ^ 32 - (wrap + 10000)) % 2 ^ 32 := by
    rw [← Lib.elapsed_add_period]
    exact Lib.elapsed_eq_mod hstamp (by omega)
  omega

/-- A poll with the link down makes an attempt, or goes on waiting. -/
theorem waits_serviceWifi {g t : Nat} (hg : 2 * g + 40000 ≤ 2 ^ 32) (h : Waits g t w) (hz : w.lastDisconnectMs = 0)
    (hssid : w.config.ssid ≠ []) (hdown : p.status ≠ wlConnected) (hnow : w.now ≤ p.check) (hattempt : p.check ≤ p.attempt)
    (hwithin : p.attempt ≤ w.now + g) :
    (w.serviceWifi p).attempts = p.attempt :: w.attempts ∨
      ((w.serviceWifi p).attempts = w.attempts ∧ Waits g t (w.serviceWifi p)) := by
  have hframe := frame_beforeReconnect w p
  have hmillis : millis p.attempt = p.attempt % 2 ^ 32 := rfl
  rw [serviceWifi_eq]
  have hz' : (w.beforeReconnect p).lastDisconnectMs = 0 := hframe.disconnectMs.trans hz
  have hlast := hframe.attemptMs
  have hattempts := hframe.attempts
  have hconfig := hframe.config
  generalize w.beforeReconnect p = v at hz' hlast hattempts hconfig
  cases reconnects hz' p with
  | attempted _ _ _ hs =>
    rw [hs]
    exact .inl (congrArg (p.attempt :: ·) hattempts)
  | postponed hdue hearly hs =>
    rw [hs]
    refine .inr ⟨hattempts, ?_⟩
    rw [hlast] at hdue
    have hpostponed (wrap : Nat) (hwrap : wrap % 2 ^ 32 = 0) (hstart : wrap ≤ t + 3 * g + 30000) (hle : wrap ≤ p.attempt)
        (hten : p.attempt < wrap + 10000) :
        Waits g t { v with lastWifiAttemptMs := 10000, lastWifiStatus := p.status, now := p.attempt } :=
      .postponed wrap rfl hwrap hstart hle (show p.attempt < wrap + 40000 + g by omega)
    cases h with
    | fresh h => exact hpostponed (p.attempt - p.attempt % 2 ^ 32) (by omega) (by omega) (by omega) (by omega)
    | held check start h hstart hle hlate =>
      have hfails := h.fails
      exact hpostponed (p.attempt - p.attempt % 2 ^ 32) (by omega) (by omega) (by omega) (by omega)
    | postponed wrap h hwrap hstart hle hlate => exact hpostponed wrap hwrap hstart (by omega) (by omega)
  | idle hfails hs =>
    rw [hs]
    refine .inr ⟨hattempts, ?_⟩
    rw [hconfig, hlast] at hfails
    have hfails : Lib.elapsed (2 ^ 32) p.check w.lastWifiAttemptMs < 30000 :=
      (hfails.resolve_left hdown).resolve_left hssid
    have hheld (start : Nat) (h : Lib.Held (2 ^ 32) 30000 p.check w.lastWifiAttemptMs start)
        (hstart : start ≤ t + g + 2 ^ 32) : Waits g t { v with lastWifiStatus := p.status, now := p.attempt } :=
      .held p.check start (hlast.symm ▸ h) hstart hattempt (show p.attempt ≤ p.check + g by omega)
    cases h with
    | fresh h => exact hheld _ (Lib.held_of_fails (by decide) hfails) (by omega)
    | held check start h hstart hle hlate =>
      exact hheld start (h.next (g := 2 * g) (by omega) (by omega) (by omega) hfails) hstart
    | postponed wrap h hwrap hstart hle hlate =>
      rw [h] at hfails
      have hrange := elapsed_postponed hwrap (Nat.le_trans hle hnow) (by omega) hfails
      exact .postponed wrap (hlast.trans h) hwrap hstart (show wrap ≤ p.attempt by omega)
        (show p.attempt < wrap + 40000 + g by omega)

end WifiService

namespace WifiDevice
open WifiService

variable {φ : Type} {P : Preferences φ} {s s' : WifiDevice} {nvs : Nvs} {r : SetupReads} {acts : List (WifiAct φ)}

/-- A step boots, polls, or leaves the service with other settings. -/
theorem step_cases {a : WifiAct φ} (hs : s.step P a = some s') :
    (∃ r, a = .restart r ∧ s' = boot s.nvs r) ∨
    (∃ form answers r, a = .save form answers r ∧ (handleSave P form s.wifi.config s.nvs answers).2.2 = .saved ∧
      s' = boot (handleSave P form s.wifi.config s.nvs answers).2.1 r) ∨
    (∃ form answers r, a = .save form answers r ∧ (handleSave P form s.wifi.config s.nvs answers).2.2 ≠ .saved ∧
      s' = ⟨(handleSave P form s.wifi.config s.nvs answers).2.1,
        { s.wifi with config := (handleSave P form s.wifi.config s.nvs answers).1 }⟩) ∨
    (∃ p, a = .poll p ∧ (s.wifi.now ≤ p.mdnsCheck ∧ p.mdnsCheck ≤ p.mdnsMark ∧ p.mdnsMark ≤ p.check ∧ p.check ≤ p.attempt) ∧
      s' = { s with wifi := s.wifi.serviceWifi p }) := by
  cases a with
  | poll p =>
    simp only [step] at hs
    split at hs
    · rename_i hclock
      cases hs
      exact .inr (.inr (.inr ⟨p, rfl, hclock, rfl⟩))
    · cases hs
  | restart r =>
    cases hs
    exact .inl ⟨r, rfl, rfl⟩
  | save form answers r =>
    simp only [step] at hs
    split at hs
    · rename_i hsaved
      cases hs
      exact .inr (.inl ⟨form, answers, r, rfl, hsaved, rfl⟩)
    · rename_i hne
      cases hs
      exact .inr (.inr (.inl ⟨form, answers, r, rfl, hne, rfl⟩))

theorem timed_step {a : WifiAct φ} (h : Timed s.wifi) (hs : s.step P a = some s') : Timed s'.wifi := by
  rcases step_cases hs with ⟨r, -, rfl⟩ | ⟨form, answers, r, -, -, rfl⟩ | ⟨form, answers, r, -, -, rfl⟩ |
    ⟨p, -, ⟨hcheck, hmark, hlater, hattempt⟩, rfl⟩
  · exact timed_setup _ r
  · exact timed_setup _ r
  · exact ⟨h.attempts, h.retries, h.disconnectMs, h.late⟩
  · exact timed_serviceWifi h hcheck hmark hlater hattempt

theorem timed_run (hr : Lib.run (step P) (boot nvs r) acts = some s) : Timed s.wifi :=
  Lib.run_inv' (fun _ _ _ h hs => timed_step h hs) (timed_setup _ r) hr

/-- **Not too often.** In no boot is the saved network tried twice within 30 s, or the responder that is
down retried (:380) twice within an hour, and the network is never tried in the ten seconds after the
clock has wrapped. -/
theorem attempts_apart (hr : Lib.run (step P) (boot nvs r) acts = some s) :
    s.wifi.attempts.IsChain (fun later earlier => earlier + 30000 ≤ later) ∧
    s.wifi.retries.IsChain (fun later earlier => earlier + 3600000 ≤ later) ∧
    ∀ t ∈ s.wifi.attempts, 10000 ≤ millis t :=
  have h := timed_run hr
  ⟨h.attempts.apart, h.retries.apart, h.late⟩

/-- A flash that takes a text or does not. -/
def flash : Preferences Bool where
  putString ok old value := if ok then (some (cstr value), (cstr value).length) else (old, 0)

theorem documented_flash : flash.Documented where
  stored ok old value h := by
    cases ok with
    | true => rfl
    | false => cases h
  failed ok old value _ := by
    cases ok with
    | true => exact .inr rfl
    | false => exact .inl rfl

/-- A poll that finds the link down (`WL_DISCONNECTED`). -/
def pollAt (time : Nat) : WifiAct Bool :=
  .poll { mdnsCheck := time, mdnsMark := time, check := time, attempt := time, status := 6 }

def home : Nvs := { ssid := some (ascii "home"), password := some (ascii "secret") }

def wrapped : List (WifiAct Bool) :=
  [29999, 30000, 59999, 60000, 2 ^ 32 + 5000, 2 ^ 32 + 39999, 2 ^ 32 + 40000].map pollAt

/-- The clock wraps between two attempts; the poll five seconds later puts the second one off. -/
theorem attempts_apart_wrapped : ∃ s, Lib.run (step flash) (boot home { status := 6 }) wrapped = some s ∧
    s.wifi.attempts = [2 ^ 32 + 40000, 60000, 30000] ∧
    s.wifi.attempts.IsChain (fun later earlier => earlier + 30000 ≤ later) ∧
    s.wifi.retries.IsChain (fun later earlier => earlier + 3600000 ≤ later) ∧
    ∀ t ∈ s.wifi.attempts, 10000 ≤ millis t := by
  have hrun : (Lib.run (step flash) (boot home { status := 6 }) wrapped).map (·.wifi.attempts) =
      some [2 ^ 32 + 40000, 60000, 30000] := by decide +kernel
  obtain ⟨s, hs, hattempts⟩ := Option.map_eq_some_iff.1 hrun
  exact ⟨s, hs, hattempts, attempts_apart hs⟩

/-- The link stays down, `serviceWifi` has come round within `g`, and the device does not restart. -/
def Down (P : Preferences φ) (g : Nat) (s : WifiDevice) : WifiAct φ → Prop
  | .poll p => p.status ≠ wlConnected ∧ p.attempt ≤ s.wifi.now + g
  | .save form a _ => (handleSave P form s.wifi.config s.nvs a).2.2 ≠ .saved
  | .restart _ => False

instance (g : Nat) (s : WifiDevice) : ∀ a, Decidable (Down P g s a)
  | .poll p => inferInstanceAs (Decidable (p.status ≠ wlConnected ∧ p.attempt ≤ s.wifi.now + g))
  | .save form a _ => inferInstanceAs (Decidable ((handleSave P form s.wifi.config s.nvs a).2.2 ≠ .saved))
  | .restart _ => inferInstanceAs (Decidable False)

/-- A form never leaves the device without an SSID that it had. -/
theorem handleSave_ssid {form : SaveForm} {config : Config} {nvs : Nvs} {a : SaveAnswers φ} (h : config.ssid ≠ []) :
    (handleSave P form config nvs a).1.ssid ≠ [] := by
  unfold handleSave
  split
  · exact h
  · exact h
  · rename_i ssid hne hform
    exact hne

/-- An attempt was made in the time that it may take from `t` on. -/
def Follows (g t : Nat) (earlier later : List Nat) : Prop :=
  ∃ more time, later = more ++ time :: earlier ∧ t ≤ time ∧ time ≤ t + 70000 + 5 * g

/-- Behind the time `t`, with the attempts made until then. -/
structure Pending (g t : Nat) (earlier : List Nat) (s : WifiDevice) : Prop where
  disconnectMs : s.wifi.lastDisconnectMs = 0
  ssid : s.wifi.config.ssid ≠ []
  now : t ≤ s.wifi.now
  waits : Follows g t earlier s.wifi.attempts ∨ (s.wifi.attempts = earlier ∧ Waits g t s.wifi)

theorem Follows.cons {g t time : Nat} {earlier later : List Nat} (h : Follows g t earlier later) :
    Follows g t earlier (time :: later) := by
  obtain ⟨more, first, rfl, hrest⟩ := h
  exact ⟨time :: more, first, rfl, hrest⟩

theorem pending_step {g t : Nat} {earlier : List Nat} {a : WifiAct φ} (hg : 2 * g + 40000 ≤ 2 ^ 32)
    (h : Pending g t earlier s) (hd : Down P g s a) (hs : s.step P a = some s') : Pending g t earlier s' := by
  rcases step_cases hs with ⟨r, rfl, -⟩ | ⟨form, answers, r, rfl, hsaved, -⟩ | ⟨form, answers, r, rfl, hne, rfl⟩ |
    ⟨p, rfl, ⟨hcheck, hmark, hlater, hattempt⟩, rfl⟩
  · exact hd.elim
  · exact absurd hsaved hd
  · refine ⟨h.disconnectMs, handleSave_ssid h.ssid, h.now, h.waits.imp_right fun hw => ⟨hw.1, ?_⟩⟩
    cases hw.2 with
    | fresh h => exact .fresh h
    | held check start h hstart hle hnow => exact .held check start h hstart hle hnow
    | postponed wrap h hwrap hstart hle hnow => exact .postponed wrap h hwrap hstart hle hnow
  · obtain ⟨hconfig, hz, hadds⟩ := serviceWifi_adds h.disconnectMs p
    have hnow := h.now
    refine ⟨hz, hconfig.symm ▸ h.ssid, show t ≤ p.attempt by omega, ?_⟩
    rcases h.waits with hmade | ⟨hsame, hwaits⟩
    · refine .inl ?_
      show Follows g t earlier (s.wifi.serviceWifi p).attempts
      rcases hadds with ⟨hsame, -⟩ | ⟨hmore, -⟩
      · rw [hsame]
        exact hmade
      · rw [hmore]
        exact hmade.cons
    · rcases waits_serviceWifi hg hwaits h.disconnectMs h.ssid hd.1 (by omega) hattempt hd.2 with hmade | ⟨hnone, hwaits'⟩
      · -- the attempt is made at most `g` after the last clock without one
        have hbound := hwaits.bound
        have hwithin := hd.2
        exact .inl ⟨[], p.attempt, hmade.trans (congrArg (p.attempt :: ·) hsame), by omega, by omega⟩
      · exact .inr ⟨hnone.trans hsame, hwaits'⟩

/-- **Often enough.** Once the clock is past the time allowed, an attempt was made within it. -/
theorem attempt_follows {g : Nat} {acts' : List (WifiAct φ)} (hg : 2 * g + 40000 ≤ 2 ^ 32)
    (hr : Lib.run (step P) (boot nvs r) acts = some s) (hssid : s.wifi.config.ssid ≠ [])
    (hd : Lib.Meets (step P) (Down P g) s acts') (hr' : Lib.run (step P) s acts' = some s')
    (hlong : s.wifi.now + 70000 + 4 * g < s'.wifi.now) :
    Follows g s.wifi.now s.wifi.attempts s'.wifi.attempts := by
  have hstart : Pending g s.wifi.now s.wifi.attempts s :=
    ⟨(timed_run hr).disconnectMs, hssid, Nat.le_refl _, .inr ⟨rfl, .fresh rfl⟩⟩
  have hend := Lib.run_inv (fun _ _ _ h hd hs => pending_step hg h hd hs) hstart hd hr'
  rcases hend.waits with hmade | ⟨-, hwaits⟩
  · exact hmade
  · exact absurd hwaits.bound (Nat.not_le_of_lt hlong)

def down : List (WifiAct Bool) := [30000, 60000, 90000, 120000, 150000, 180000, 190001].map pollAt

theorem attempt_follows_home : ∃ s, Lib.run (step flash) (boot home { status := 6 }) down = some s ∧
    Follows 30000 0 [] s.wifi.attempts := by
  have hrun : (Lib.run (step flash) (boot home { status := 6 }) down).map (·.wifi.now) = some 190001 := by
    decide +kernel
  obtain ⟨s, hs, hnow⟩ := Option.map_eq_some_iff.1 hrun
  have hboot : Lib.run (step flash) (boot home { status := 6 }) [] = some (boot home { status := 6 }) := rfl
  exact ⟨s, hs, attempt_follows (g := 30000) (by decide) hboot (by decide +kernel) (by decide +kernel) hs
    (hnow ▸ by decide)⟩

/-! ## What the radio is given -/

/-- Nobody names another network. -/
def NamesNone : WifiAct φ → Prop
  | .save form _ _ => form.ssid = none ∨ form.ssid = some []
  | _ => True

/-- A boot finds what is in NVS. -/
def Finds : WifiAct φ → Prop
  | .restart r => r.erased = false ∧ r.opened = true
  | _ => True

theorem handleSave_names {form : SaveForm} {config : Config} {a : SaveAnswers φ} (h : form.ssid = none ∨ form.ssid = some []) :
    handleSave P form config nvs a = (config, nvs, .nameRequired) := by
  unfold handleSave
  rcases h with h | h
  · rw [h]
  · rw [h]

/-- What a boot finds after `saveConfig` has returned true: a password that could not be written is not
missed if it is empty. -/
theorem loadConfig_saveConfig (hP : P.Documented) {config : Config} {a : SaveAnswers φ} (hne : config.ssid ≠ [])
    (h : (saveConfig P config nvs a).2 = true) :
    loadConfig (saveConfig P config nvs a).1 true = config.cStr ∨ config.password = [] ∧
      loadConfig (saveConfig P config nvs a).1 true = { ssid := cstr config.ssid, password := nvs.password.getD [] } := by
  unfold saveConfig at h ⊢
  cases hopened : a.opened with
  | false =>
    rw [hopened] at h
    cases h
  | true =>
    rw [hopened] at h
    simp only [Bool.not_true, Bool.false_eq_true, if_false, Bool.and_eq_true, Bool.or_eq_true, List.isEmpty_iff,
      decide_eq_true_eq] at h ⊢
    have hssid := hP.stored _ _ _ (h.1.resolve_left hne)
    unfold loadConfig
    rw [hssid]
    by_cases hwritten : 0 < (P.putString a.password nvs.password config.password).2
    · rw [hP.stored _ _ _ hwritten]
      exact .inl rfl
    · rcases hP.failed _ _ _ (Nat.eq_zero_of_not_pos hwritten) with hold | hnew
      · rw [hold]
        exact .inr ⟨h.2.resolve_right hwritten, rfl⟩
      · rw [hnew]
        exact .inl rfl

/-- The same behind a form that was answered with 200. -/
theorem loadConfig_saved (hP : P.Documented) {form : SaveForm} {config : Config} {a : SaveAnswers φ} {ssid : Bytes}
    (hform : form.ssid = some ssid) (h : (handleSave P form config nvs a).2.2 = .saved) :
    loadConfig (handleSave P form config nvs a).2.1 true = (form.settings ssid config).cStr ∨
      (form.settings ssid config).password = [] ∧
        loadConfig (handleSave P form config nvs a).2.1 true = { ssid := cstr ssid, password := nvs.password.getD [] } := by
  revert h
  unfold handleSave
  split
  · nofun
  · nofun
  rename_i ssid' hne hform'
  obtain rfl : ssid = ssid' := Option.some.inj (hform.symm.trans hform')
  intro h
  have hok : (saveConfig P (form.settings ssid config) nvs a).2 = true := by
    by_contra hno
    simp only [hno] at h
    cases h
  exact loadConfig_saveConfig hP hne hok

/-- The radio gets to know these settings, or none. -/
structure Given (settings : Config) (s : WifiDevice) : Prop where
  nvs : loadConfig s.nvs true = settings ∨ s.nvs = {}
  config : s.wifi.config = settings ∨ s.wifi.config.ssid = []
  given : ∀ c ∈ s.wifi.given, c = settings.cStr
  disconnectMs : s.wifi.lastDisconnectMs = 0

theorem given_setup (nvs : Nvs) (r : SetupReads) :
    (setup nvs r).config = loadConfig nvs r.opened ∧ (setup nvs r).lastDisconnectMs = 0 ∧
      ∀ c ∈ (setup nvs r).given, c = (loadConfig nvs r.opened).cStr ∧ (loadConfig nvs r.opened).ssid ≠ [] := by
  have hfacts : (setup nvs r).config = loadConfig nvs r.opened ∧ (setup nvs r).lastDisconnectMs = 0 ∧
      (setup nvs r).given = if (loadConfig nvs r.opened).ssid.isEmpty then [] else [(loadConfig nvs r.opened).cStr] := by
    unfold setup
    dsimp only
    split
    · split
      · exact ⟨rfl, rfl, rfl⟩
      · exact ⟨rfl, rfl, rfl⟩
    · split
      · exact ⟨rfl, rfl, rfl⟩
      · exact ⟨rfl, rfl, rfl⟩
  obtain ⟨hconfig, hz, hgiven⟩ := hfacts
  refine ⟨hconfig, hz, fun c hc => ?_⟩
  rw [hgiven] at hc
  split at hc
  · cases hc
  · rename_i hne
    obtain rfl := List.mem_singleton.1 hc
    exact ⟨rfl, fun hempty => hne (List.isEmpty_iff.2 hempty)⟩

theorem given_boot {settings : Config} (h : loadConfig nvs true = settings ∨ nvs = {}) (r : SetupReads) :
    Given settings (boot nvs r) := by
  have hnvs : loadConfig (boot nvs r).nvs true = settings ∨ (boot nvs r).nvs = {} := by
    unfold boot
    dsimp only
    split
    · exact .inr rfl
    · exact h
  have hload : loadConfig (boot nvs r).nvs r.opened = settings ∨ (loadConfig (boot nvs r).nvs r.opened).ssid = [] := by
    cases r.opened with
    | false => exact .inr rfl
    | true => exact hnvs.imp_right fun hempty => by rw [hempty]; rfl
  obtain ⟨hconfig, hz, hgiven⟩ := given_setup (boot nvs r).nvs r
  refine ⟨hnvs, hconfig.symm ▸ hload, fun c hc => ?_, hz⟩
  obtain ⟨rfl, hne⟩ := hgiven c hc
  exact congrArg Config.cStr (hload.resolve_right hne)

theorem given_step {settings : Config} {a : WifiAct φ} (h : Given settings s) (hno : NamesNone a) (hs : s.step P a = some s') :
    Given settings s' := by
  rcases step_cases hs with ⟨r, -, rfl⟩ | ⟨form, answers, r, rfl, hsaved, -⟩ | ⟨form, answers, r, rfl, -, rfl⟩ |
    ⟨p, rfl, -, rfl⟩
  · exact given_boot h.nvs r
  · rw [handleSave_names hno] at hsaved
    cases hsaved
  · rw [handleSave_names hno]
    exact ⟨h.nvs, h.config, h.given, h.disconnectMs⟩
  · obtain ⟨hconfig, hz, hadds⟩ := serviceWifi_adds h.disconnectMs p
    refine ⟨h.nvs, hconfig.symm ▸ h.config, ?_, hz⟩
    show ∀ c ∈ (s.wifi.serviceWifi p).given, c = settings.cStr
    rcases hadds with ⟨-, hsame⟩ | ⟨-, hmore, hssid⟩
    · rw [hsame]
      exact h.given
    · rw [hmore]
      exact List.forall_mem_cons.2 ⟨congrArg Config.cStr (h.config.resolve_right hssid), h.given⟩

/-- What NVS holds behind a save. -/
def stored (P : Preferences φ) (s : WifiDevice) (form : SaveForm) (a : SaveAnswers φ) : Config :=
  loadConfig (handleSave P form s.wifi.config s.nvs a).2.1 true

theorem config_boot {settings : Config} (h : loadConfig nvs true = settings) (hf : r.erased = false ∧ r.opened = true) :
    (boot nvs r).wifi.config = settings ∧ loadConfig (boot nvs r).nvs true = settings := by
  have hnvs : (boot nvs r).nvs = nvs := by
    unfold boot
    rw [hf.1]
    rfl
  refine ⟨?_, hnvs.symm ▸ h⟩
  show (setup (boot nvs r).nvs r).config = settings
  rw [(given_setup _ r).1, hnvs, hf.2]
  exact h

/-- Where every boot finds NVS, the settings are the ones in it. -/
theorem finds_step {settings : Config} {a : WifiAct φ} (h : Given settings s)
    (hf : s.wifi.config = settings ∧ loadConfig s.nvs true = settings) (hno : NamesNone a) (hfinds : Finds a)
    (hs : s.step P a = some s') : s'.wifi.config = settings ∧ loadConfig s'.nvs true = settings := by
  rcases step_cases hs with ⟨r, rfl, rfl⟩ | ⟨form, answers, r, rfl, hsaved, -⟩ | ⟨form, answers, r, rfl, -, rfl⟩ |
    ⟨p, rfl, -, rfl⟩
  · exact config_boot hf.2 hfinds
  · rw [handleSave_names hno] at hsaved
    cases hsaved
  · rw [handleSave_names hno]
    exact hf
  · exact ⟨(serviceWifi_adds h.disconnectMs p).1.trans hf.1, hf.2⟩

/-- **What was saved is what is used.** From a save that is answered with 200 until somebody names a
network again, the radio is given nothing but the settings that NVS holds then, across all boots; where
every boot finds NVS, they are the ones in use. They are the form's own, unless its password is empty:
then the old one may have stayed. -/
theorem saved_given (hP : P.Documented) {form : SaveForm} {a : SaveAnswers φ} {ssid : Bytes} (hform : form.ssid = some ssid)
    (hsaved : (handleSave P form s.wifi.config s.nvs a).2.2 = .saved)
    (hr : Lib.run (step P) s (.save form a r :: acts) = some s') (hno : ∀ act ∈ acts, NamesNone act) :
    (∀ c ∈ s'.wifi.given, c = (s.stored P form a).cStr) ∧
    (r.erased = false ∧ r.opened = true → (∀ act ∈ acts, Finds act) → s'.wifi.config = s.stored P form a) ∧
    (s.stored P form a = (form.settings ssid s.wifi.config).cStr ∨ (form.settings ssid s.wifi.config).password = [] ∧
      s.stored P form a = { ssid := cstr ssid, password := s.nvs.password.getD [] }) := by
  obtain ⟨m, hs, hr⟩ := Lib.run_cons hr
  obtain rfl : boot (handleSave P form s.wifi.config s.nvs a).2.1 r = m := by
    simp only [step, hsaved] at hs
    exact Option.some.inj hs
  have hload : loadConfig (handleSave P form s.wifi.config s.nvs a).2.1 true = s.stored P form a := rfl
  refine ⟨?_, fun hfinds hall => ?_, loadConfig_saved hP hform hsaved⟩
  · have hend : Given (s.stored P form a) s' :=
      Lib.run_inv (fun _ _ _ h hno hs => given_step h hno hs) (given_boot (.inl hload) r) (Lib.meets_forall hno _) hr
    exact hend.given
  · have hboot : Given (s.stored P form a) (boot (handleSave P form s.wifi.config s.nvs a).2.1 r) := given_boot (.inl hload) r
    have hall' : ∀ act ∈ acts, NamesNone act ∧ Finds act := fun act h => ⟨hno act h, hall act h⟩
    have hend := Lib.run_inv
      (I := fun t => Given (s.stored P form a) t ∧ t.wifi.config = s.stored P form a ∧
        loadConfig t.nvs true = s.stored P form a)
      (C := fun _ act => NamesNone act ∧ Finds act)
      (fun _ _ _ h hc hs => ⟨given_step h.1 hc.1 hs, finds_step h.1 h.2 hc.1 hc.2 hs⟩) ⟨hboot, config_boot hload hfinds⟩
      (Lib.meets_forall hall' _) hr
    exact hend.2.1

def toCafe : SaveForm := { ssid := some (ascii "cafe"), clearPassword := true }

/-- The password is cleared, and its write fails: the old one stays. -/
theorem saved_given_cleared : ∃ s, Lib.run (step flash) (boot home { status := 6 })
      [.save toCafe { ssid := true, password := false } { status := 6 }, pollAt 30000] = some s ∧
    s.wifi.given = [⟨ascii "cafe", ascii "secret"⟩, ⟨ascii "cafe", ascii "secret"⟩] ∧
    ∀ c ∈ s.wifi.given, c = ((boot home { status := 6 }).stored flash toCafe { ssid := true, password := false }).cStr := by
  have hrun : (Lib.run (step flash) (boot home { status := 6 })
      [.save toCafe { ssid := true, password := false } { status := 6 }, pollAt 30000]).map (·.wifi.given) =
      some [⟨ascii "cafe", ascii "secret"⟩, ⟨ascii "cafe", ascii "secret"⟩] := by decide +kernel
  obtain ⟨s, hs, hgiven⟩ := Option.map_eq_some_iff.1 hrun
  exact ⟨s, hs, hgiven, (saved_given documented_flash rfl (by decide +kernel) hs (List.forall_mem_singleton.2 trivial)).1⟩

end WifiDevice
end PrintServer
