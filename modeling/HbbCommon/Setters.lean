import HbbCommon.Options

/-! The setters of the singletons `CONFIG`, `CONFIG2`, `LOCAL_CONFIG` and `STATUS`, each as the
value its write section leaves, or `none` when it returns before writing. -/

namespace HbbCommon

open Toml

/-- The shape most setters share: nothing is written when the field already holds `v`. -/
def setIfChanged {α β : Type} [DecidableEq β] (get : α → β) (put : α → β → α) (c : α) (v : β) :
    Option α :=
  if v = get c then none else some (put c v)

theorem setIfChanged_eq_some {α β : Type} [DecidableEq β] {get : α → β} {put : α → β → α}
    {c c' : α} {v : β} (h : setIfChanged get put c v = some c') : c' = put c v := by
  unfold setIfChanged at h
  split at h
  · cases h
  · exact (Option.some.inj h).symm

theorem setIfChanged_getD {α β : Type} [DecidableEq β] {get : α → β} {put : α → β → α}
    (hput : ∀ c v, get (put c v) = v) (c : α) (v : β) :
    get ((setIfChanged get put c v).getD c) = v := by
  unfold setIfChanged
  split
  · next h => exact h.symm
  · exact hput c v

theorem setIfChanged_frame {α β γ : Type} [DecidableEq β] {get : α → β} {put : α → β → α}
    (f : α → γ) (hput : ∀ c v, f (put c v) = f c) (c : α) (v : β) :
    f ((setIfChanged get put c v).getD c) = f c := by
  unfold setIfChanged
  split
  · rfl
  · exact hput c v

namespace Config

def setId (c : Config) (id : String) : Option Config :=
  setIfChanged Config.id (fun c id => { c with id }) c id

def setSalt (c : Config) (salt : String) : Option Config :=
  setIfChanged Config.salt (fun c salt => { c with salt }) c salt

/-- Unconfirming the key also forgets every confirmed host key. -/
def setKeyConfirmed (c : Config) (v : Bool) : Option Config :=
  if c.keyConfirmed = v then none
  else some { c with keyConfirmed := v, keysConfirmed := if v then c.keysConfirmed else ∅ }

def getHostKeyConfirmed (c : Config) (host : String) : Bool :=
  c.keysConfirmed.lookup host = some true

/-- The write section of `set_host_key_confirmed`: it inserts without looking. -/
def confirmHostKey (c : Config) (host : String) (v : Bool) : Config :=
  { c with keysConfirmed := c.keysConfirmed.insert host v }

/-- The check reads `CONFIG` under its own lock, before the write section. -/
def setHostKeyConfirmed (c : Config) (host : String) (v : Bool) : Option Config :=
  if getHostKeyConfirmed c host = v then none else some (confirmHostKey c host v)

/-- `Config::set_permanent_password`, up to the `clear_trusted_devices` that follows a write. -/
def setPermanentPassword (σ : Settings) (c : Config) (password : String) : Option Config :=
  if σ.hardSettings.lookup "password" = some password then none
  else setIfChanged Config.password (fun c password => { c with password }) c password

/-- `Config::get_permanent_password`: the stored password, or the built-in one when it is empty. -/
def getPermanentPassword (σ : Settings) (c : Config) : String :=
  if c.password = "" then (σ.hardSettings.lookup "password").getD "" else c.password

/-- `Config::set`: the derived equality decides whether anything is written. -/
def set (c cfg : Config) : Option Config := if c.same cfg then none else some cfg

/-- The write-back `get_key_pair` spawns after generating a key pair. -/
def setKeyPair (c : Config) (keyPair : KeyPair) : Config := { c with keyPair }

def setNatType (c : Config2) (natType : I32) : Option Config2 :=
  setIfChanged Config2.natType (fun c natType => { c with natType }) c natType

def setSerial (c : Config2) (serial : I32) : Option Config2 :=
  setIfChanged Config2.serial (fun c serial => { c with serial }) c serial

def setUnlockPin (c : Config2) (pin : String) : Option Config2 :=
  setIfChanged Config2.unlockPin (fun c unlockPin => { c with unlockPin }) c pin

/-- The write section of `update_latency`, given the host its scan picked. -/
def setRendezvousServer (c : Config2) (host : String) : Option Config2 :=
  setIfChanged Config2.rendezvousServer (fun c rendezvousServer => { c with rendezvousServer })
    c host

/-- `Config::set_socks` -/
def setSocks (σ : Settings) (c : Config2) (socks : Option Socks5Server) : Option Config2 :=
  if (σ.overwriteSettings.lookup keys.optionProxyUrl).isSome then none
  else if c.socks = socks then none
  else
    let equalToDefault (key value : String) : Bool := σ.defaultSettings.lookup key = some value
    let x := socks.getD ⟨"", "", ""⟩
    if c.socks.isNone ∧ (σ.defaultSettings.lookup keys.optionProxyUrl).isSome ∧
        equalToDefault keys.optionProxyUrl x.proxy ∧
        equalToDefault keys.optionProxyUsername x.username ∧
        equalToDefault keys.optionProxyPassword x.password then none
    else some { c with socks }

theorem getPermanentPassword_after_set (σ : Settings) (c : Config) (p : String) :
    getPermanentPassword σ ((setPermanentPassword σ c p).getD c) =
      if σ.hardSettings.lookup "password" = some p ∧ c.password ≠ "" then c.password
      else if p = "" then (σ.hardSettings.lookup "password").getD "" else p := by
  unfold setPermanentPassword getPermanentPassword
  by_cases hhard : σ.hardSettings.lookup "password" = some p
  · by_cases hc : c.password = "" <;> simp [hhard, hc]
  · have hset : ((setIfChanged Config.password (fun c password => { c with password }) c
        p).getD c).password = p := setIfChanged_getD (fun _ _ => rfl) c p
    simp only [hhard, false_and, if_false, hset]

end Config

/-- The settings with `"h"` as the built-in password. -/
def hardPasswordSettings : Settings :=
  { Settings.empty with hardSettings := (∅ : StrMap String).insert "password" "h" }

theorem permanent_password_hard_ignored :
    Config.getPermanentPassword hardPasswordSettings
      ((Config.setPermanentPassword hardPasswordSettings { Config.default with password := "x" }
        "h").getD { Config.default with password := "x" }) = "x" := by
  decide

/-- `Config2::set` -/
def Config2.set (c cfg : Config2) : Option Config2 := if c.same cfg then none else some cfg

namespace LocalConfig

/-- Written every time. -/
def setKbLayoutType (c : LocalConfig) (kbLayoutType : String) : LocalConfig :=
  { c with kbLayoutType }

/-- A size below 300 by 300 is refused. -/
def setSize (c : LocalConfig) (x y w h : I32) : Option LocalConfig :=
  if (x, y, w, h) = c.size ∨ w.1 < 300 ∨ h.1 < 300 then none
  else some { c with size := (x, y, w, h) }

def setRemoteId (c : LocalConfig) (remoteId : String) : Option LocalConfig :=
  setIfChanged LocalConfig.remoteId (fun c remoteId => { c with remoteId }) c remoteId

def setFav (c : LocalConfig) (fav : List String) : Option LocalConfig :=
  setIfChanged LocalConfig.fav (fun c fav => { c with fav }) c fav

/-- Not gated by `is_option_can_save`. -/
def setFlutterOption (c : LocalConfig) (k v : String) : Option LocalConfig :=
  (writeOption c.uiFlutter k v).map fun uiFlutter => { c with uiFlutter }

end LocalConfig

def Status.get (st : Status) (k : String) : String := (st.values.lookup k).getD ""

/-- The write section of `Status::set`: it inserts without looking. -/
def Status.insertValue (st : Status) (k v : String) : Status := ⟨st.values.insert k v⟩

/-- The check reads `STATUS` under its own lock, before the write section. -/
def Status.set (st : Status) (k v : String) : Option Status :=
  setIfChanged (Status.get · k) (fun st v => st.insertValue k v) st v

end HbbCommon
