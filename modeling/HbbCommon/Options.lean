import HbbCommon.Config
import HbbCommon.LocalConfig
import HbbCommon.Keys

/-! The option resolver: `get_or` over an overwrite map, the entity's stored options and a
default map, the save gate `is_option_can_save`, and the setters and getters of the general,
local and display option families. -/

namespace HbbCommon

open Toml

/-- The process-wide setting maps that the resolver reads. -/
structure Settings where
  defaultSettings : StrMap String
  overwriteSettings : StrMap String
  defaultDisplaySettings : StrMap String
  overwriteDisplaySettings : StrMap String
  defaultLocalSettings : StrMap String
  overwriteLocalSettings : StrMap String
  hardSettings : StrMap String

/-- The maps as the process starts, before any is seeded. -/
def Settings.empty : Settings := ⟨∅, ∅, ∅, ∅, ∅, ∅, ∅⟩

/-- `get_or(a, b, c, k)`: the value of `k` in the first of the three maps that holds it. -/
def getOr (a b c : StrMap String) (k : String) : Option String :=
  ((a.lookup k).or (b.lookup k)).or (c.lookup k)

def isOptionCanSave (overwrite : StrMap String) (k : String) (defaults : StrMap String)
    (v : String) : Bool :=
  !((overwrite.lookup k).isSome || defaults.lookup k == some v)

/-- The write the option setters share -/
def writeOption (options : StrMap String) (k v : String) : Option (StrMap String) :=
  let v2 := if v = "" then none else some v
  if v2 ≠ options.lookup k then
    some (if v2.isNone then options.erase k else options.insert k v)
  else none

/-- A gated write, as `Config::set_option` does it on one family's maps. -/
def setOptionIn (overwrite defaults options : StrMap String) (k v : String) :
    Option (StrMap String) :=
  if isOptionCanSave overwrite k defaults v then writeOption options k v else none

section Lemmas

variable (a b c : StrMap String) (k v : String)

theorem getOr_of_lookup (ha : a.lookup k = none) :
    getOr a b c k = (b.lookup k).or (c.lookup k) := by
  simp [getOr, ha]

theorem isOptionCanSave_of_lookup (ha : a.lookup k = none) :
    isOptionCanSave a k c v = !(c.lookup k == some v) := by
  simp [isOptionCanSave, ha]

theorem lookup_writeOption :
    ((writeOption b k v).getD b).lookup k = if v = "" then none else some v := by
  by_cases hv : v = ""
  · simp only [writeOption, hv, if_true]
    split <;> simp_all [AList.lookup_erase]
  · simp only [writeOption, hv, if_false]
    split <;> simp_all [AList.lookup_insert]

theorem lookup_writeOption_ne (k' : String) (hk : k' ≠ k) :
    ((writeOption b k v).getD b).lookup k' = b.lookup k' := by
  unfold writeOption
  split <;> dsimp only <;> split <;> simp [AList.lookup_insert_ne hk, AList.lookup_erase_ne hk]

end Lemmas

theorem getOr_after_gated_write (a b b' c : StrMap String) (k v : String)
    (ha : a.lookup k = none)
    (hsaved : isOptionCanSave a k c v = true → b'.lookup k = if v = "" then none else some v)
    (hkept : isOptionCanSave a k c v = false → b' = b) :
    (getOr a b' c k).getD "" =
      if c.lookup k = some v then (getOr a b c k).getD ""
      else if v = "" then (c.lookup k).getD "" else v := by
  by_cases hd : c.lookup k = some v
  · rw [hkept (by simp [isOptionCanSave_of_lookup a c k v ha, hd]), if_pos hd]
  · have hs : isOptionCanSave a k c v = true := by
      simp [isOptionCanSave_of_lookup a c k v ha, hd]
    rw [getOr_of_lookup a _ c k ha, hsaved hs, if_neg hd]
    by_cases hv : v = "" <;> simp [hv]

theorem setOptionIn_saved (a b c : StrMap String) (k v : String)
    (h : isOptionCanSave a k c v = true) :
    ((setOptionIn a c b k v).getD b).lookup k = if v = "" then none else some v := by
  rw [setOptionIn, if_pos h, lookup_writeOption]

theorem setOptionIn_kept (a b c : StrMap String) (k v : String)
    (h : isOptionCanSave a k c v = false) : (setOptionIn a c b k v).getD b = b := by
  rw [setOptionIn, if_neg (by simp [h]), Option.getD_none]

namespace Config

variable (σ : Settings)

/-- `Config::get_option`, over the options of `CONFIG2`. -/
def getOption (c : Config2) (k : String) : String :=
  (getOr σ.overwriteSettings c.options σ.defaultSettings k).getD ""

/-- `Config::set_option`: the new `CONFIG2`, or `none` when nothing is written. -/
def setOption (c : Config2) (k v : String) : Option Config2 :=
  (setOptionIn σ.overwriteSettings σ.defaultSettings c.options k v).map fun options =>
    { c with options }

/-- The entries of `v` that the save gate lets through. -/
def purifyOptions (v : StrMap String) : StrMap String :=
  ⟨v.entries.filter fun e => isOptionCanSave σ.overwriteSettings e.1 σ.defaultSettings e.2,
    v.nodupKeys.sublist (List.filter_sublist _)⟩

/-- `Config::set_options`: the purified map replaces the stored options unless it equals them. -/
def setOptions (c : Config2) (v : StrMap String) : Option Config2 :=
  let v := purifyOptions σ v
  if c.options.toFinmap = v.toFinmap then none else some { c with options := v }

/-- `Config::get_options` -/
def getOptions (c : Config2) : StrMap String :=
  σ.overwriteSettings ∪ (c.options ∪ σ.defaultSettings)

theorem options_setOption (c : Config2) (k v : String) :
    ((setOption σ c k v).getD c).options =
      (setOptionIn σ.overwriteSettings σ.defaultSettings c.options k v).getD c.options := by
  unfold setOption
  cases setOptionIn σ.overwriteSettings σ.defaultSettings c.options k v <;> rfl

theorem getOptions_lookup (c : Config2) (k : String) :
    (getOptions σ c).lookup k = getOr σ.overwriteSettings c.options σ.defaultSettings k := by
  simp only [getOptions, getOr, StrMap.lookup_union, Option.or_assoc]

theorem getOptions_agrees_getOption (c : Config2) (k : String) :
    ((getOptions σ c).lookup k).getD "" = getOption σ c k ∧
      getOption σ c k = (σ.overwriteSettings.lookup k).getD
        ((c.options.lookup k).getD ((σ.defaultSettings.lookup k).getD "")) := by
  refine ⟨by rw [getOptions_lookup, getOption], ?_⟩
  simp only [getOption, getOr]
  cases σ.overwriteSettings.lookup k <;> cases c.options.lookup k <;> rfl

end Config

namespace LocalConfig

variable (σ : Settings)

def getOption (c : LocalConfig) (k : String) : String :=
  (getOr σ.overwriteLocalSettings c.options σ.defaultLocalSettings k).getD ""

/-- `LocalConfig::get_flutter_option`: the same resolver over `ui_flutter`. -/
def getFlutterOption (c : LocalConfig) (k : String) : String :=
  (getOr σ.overwriteLocalSettings c.uiFlutter σ.defaultLocalSettings k).getD ""

/-- `LocalConfig::set_option` -/
def setOption (c : LocalConfig) (k v : String) : Option LocalConfig :=
  if !isOptionCanSave σ.overwriteLocalSettings k σ.defaultLocalSettings v then none
  else if k = keys.optionLanguage ∧ v = "default" then some { c with options := c.options.insert k "" }
  else (writeOption c.options k v).map fun options => { c with options }

theorem options_setOption (c : LocalConfig) (k v : String)
    (hk : ¬ (k = keys.optionLanguage ∧ v = "default")) :
    ((setOption σ c k v).getD c).options =
      (setOptionIn σ.overwriteLocalSettings σ.defaultLocalSettings c.options k v).getD
        c.options := by
  unfold setOption setOptionIn
  by_cases hs : isOptionCanSave σ.overwriteLocalSettings k σ.defaultLocalSettings v
  · simp only [hs, Bool.not_true, if_true, if_neg hk]
    cases writeOption c.options k v <;> rfl
  · simp [hs]

end LocalConfig

namespace UserDefaultConfig

variable (σ : Settings)

def getAfter (u : UserDefaultConfig) (k : String) : Option String :=
  getOr σ.overwriteDisplaySettings u.options σ.defaultDisplaySettings k

/-- `UserDefaultConfig::set` -/
def set (u : UserDefaultConfig) (k v : String) : Option UserDefaultConfig :=
  if !isOptionCanSave σ.overwriteDisplaySettings k σ.defaultDisplaySettings v then none
  else some ⟨if v = "" then u.options.erase k else u.options.insert k v⟩

end UserDefaultConfig

/-- `option2bool` -/
def option2bool (option value : String) : Bool :=
  if "enable-".toList.isPrefixOf option.toList then value ≠ "N"
  else if "allow-".toList.isPrefixOf option.toList ∨ option = "stop-service" ∨
      option = keys.optionDirectServer ∨ option = "force-always-relay" then value = "Y"
  else value ≠ "N"

example : option2bool "enable-x" "" = true ∧ option2bool "allow-x" "" = false := by decide

def Config.getBoolOption (σ : Settings) (c : Config2) (k : String) : Bool :=
  option2bool k (Config.getOption σ c k)

def LocalConfig.getBoolOption (σ : Settings) (c : LocalConfig) (k : String) : Bool :=
  option2bool k (LocalConfig.getOption σ c k)

/-- `use_ws` -/
def useWs (σ : Settings) (c : Config2) : Bool :=
  option2bool keys.optionAllowWebsocket (Config.getOption σ c keys.optionAllowWebsocket)

/-- The test the `is_*` readers of the hard settings share: `HARD_SETTINGS[name]` is `value`. -/
def hardSettingIs (σ : Settings) (name value : String) : Bool :=
  ((σ.hardSettings.lookup name).map (· == value)).getD false

/-- `is_incoming_only` -/
def isIncomingOnly (σ : Settings) : Bool := hardSettingIs σ "conn-type" "incoming"

/-- `is_outgoing_only` -/
def isOutgoingOnly (σ : Settings) : Bool := hardSettingIs σ "conn-type" "outgoing"

/-- `is_some_hard_opton` -/
def isSomeHardOpton (σ : Settings) (name : String) : Bool := hardSettingIs σ name "Y"

/-- `is_disable_tcp_listen` -/
def isDisableTcpListen (σ : Settings) : Bool := isSomeHardOpton σ "disable-tcp-listen"

/-- `is_disable_settings` -/
def isDisableSettings (σ : Settings) : Bool := isSomeHardOpton σ "disable-settings"

/-- `is_disable_ab` -/
def isDisableAb (σ : Settings) : Bool := isSomeHardOpton σ "disable-ab"

/-- `is_disable_account` -/
def isDisableAccount (σ : Settings) : Bool := isSomeHardOpton σ "disable-account"

/-- `is_disable_installation` -/
def isDisableInstallation (σ : Settings) : Bool := isSomeHardOpton σ "disable-installation"

theorem Config.getOption_setOption (σ : Settings) (k v : String)
    (hc : σ.overwriteSettings.lookup k = none) (c : Config2) :
    Config.getOption σ ((Config.setOption σ c k v).getD c) k =
      if σ.defaultSettings.lookup k = some v then Config.getOption σ c k
      else if v = "" then (σ.defaultSettings.lookup k).getD "" else v := by
  rw [Config.getOption, Config.options_setOption]
  exact getOr_after_gated_write _ _ _ _ k v hc (setOptionIn_saved _ _ _ k v)
    (setOptionIn_kept _ _ _ k v)

theorem LocalConfig.getOption_setOption (σ : Settings) (k v : String)
    (hl : σ.overwriteLocalSettings.lookup k = none)
    (hlang : ¬ (k = keys.optionLanguage ∧ v = "default")) (c : LocalConfig) :
    LocalConfig.getOption σ ((LocalConfig.setOption σ c k v).getD c) k =
      if σ.defaultLocalSettings.lookup k = some v then LocalConfig.getOption σ c k
      else if v = "" then (σ.defaultLocalSettings.lookup k).getD "" else v := by
  rw [LocalConfig.getOption, LocalConfig.options_setOption σ c k v hlang]
  exact getOr_after_gated_write _ _ _ _ k v hl (setOptionIn_saved _ _ _ k v)
    (setOptionIn_kept _ _ _ k v)

theorem UserDefaultConfig.getAfter_set (σ : Settings) (k v : String)
    (hd : σ.overwriteDisplaySettings.lookup k = none) (u : UserDefaultConfig) :
    (((UserDefaultConfig.set σ u k v).getD u).getAfter σ k).getD "" =
      if σ.defaultDisplaySettings.lookup k = some v then (u.getAfter σ k).getD ""
      else if v = "" then (σ.defaultDisplaySettings.lookup k).getD "" else v := by
  refine getOr_after_gated_write _ _ _ _ k v hd (fun h => ?_) (fun h => ?_)
  · rw [UserDefaultConfig.set, if_neg (by simp [h])]
    by_cases hv : v = "" <;> simp [hv, AList.lookup_insert]
  · simp [UserDefaultConfig.set, h]

theorem option_read_after_set (σ : Settings) (k v : String) :
    (σ.overwriteSettings.lookup k = none → ∀ c : Config2,
      Config.getOption σ ((Config.setOption σ c k v).getD c) k =
        if σ.defaultSettings.lookup k = some v then Config.getOption σ c k
        else if v = "" then (σ.defaultSettings.lookup k).getD "" else v) ∧
    (σ.overwriteLocalSettings.lookup k = none → ¬ (k = keys.optionLanguage ∧ v = "default") →
      ∀ c : LocalConfig, LocalConfig.getOption σ ((LocalConfig.setOption σ c k v).getD c) k =
        if σ.defaultLocalSettings.lookup k = some v then LocalConfig.getOption σ c k
        else if v = "" then (σ.defaultLocalSettings.lookup k).getD "" else v) ∧
    (σ.overwriteDisplaySettings.lookup k = none → ∀ u : UserDefaultConfig,
      (((UserDefaultConfig.set σ u k v).getD u).getAfter σ k).getD "" =
        if σ.defaultDisplaySettings.lookup k = some v then (u.getAfter σ k).getD ""
        else if v = "" then (σ.defaultDisplaySettings.lookup k).getD "" else v) :=
  ⟨Config.getOption_setOption σ k v, LocalConfig.getOption_setOption σ k v,
    UserDefaultConfig.getAfter_set σ k v⟩

/-- The general settings with `"d"` as the default of `"k"`; the other maps are empty. -/
def defaultedSettings : Settings :=
  { Settings.empty with defaultSettings := (∅ : StrMap String).insert "k" "d" }

theorem option_read_after_set_witness :
    (∀ c : Config2, Config.getOption defaultedSettings
        ((Config.setOption defaultedSettings c "k" "").getD c) "k" =
      if defaultedSettings.defaultSettings.lookup "k" = some "" then
        Config.getOption defaultedSettings c "k"
      else if "" = "" then (defaultedSettings.defaultSettings.lookup "k").getD "" else "") ∧
    (∀ c : LocalConfig, LocalConfig.getOption defaultedSettings
        ((LocalConfig.setOption defaultedSettings c "k" "").getD c) "k" =
      if defaultedSettings.defaultLocalSettings.lookup "k" = some "" then
        LocalConfig.getOption defaultedSettings c "k"
      else if "" = "" then (defaultedSettings.defaultLocalSettings.lookup "k").getD "" else "") ∧
    (∀ u : UserDefaultConfig,
      (((UserDefaultConfig.set defaultedSettings u "k" "").getD u).getAfter defaultedSettings
          "k").getD "" =
        if defaultedSettings.defaultDisplaySettings.lookup "k" = some "" then
          (u.getAfter defaultedSettings "k").getD ""
        else if "" = "" then (defaultedSettings.defaultDisplaySettings.lookup "k").getD ""
        else "") :=
  have h := option_read_after_set defaultedSettings "k" ""
  ⟨h.1 rfl, h.2.1 rfl (by decide), h.2.2 rfl⟩

theorem option_set_to_default_suppressed :
    defaultedSettings.overwriteSettings.lookup "k" = none ∧
      Config.getOption defaultedSettings
        ((Config.setOption defaultedSettings
            { Config2.default with options := (∅ : StrMap String).insert "k" "w" } "k" "d").getD
          { Config2.default with options := (∅ : StrMap String).insert "k" "w" }) "k" = "w" := by
  decide

theorem setOptions_empty_value_shadows_default :
    Config.getOption defaultedSettings
        ((Config.setOptions defaultedSettings Config2.default
            ((∅ : StrMap String).insert "k" "")).getD Config2.default) "k" = "" ∧
      Config.getOption defaultedSettings
        (((∅ : StrMap String).insert "k" "").entries.foldl
          (fun c e => (Config.setOption defaultedSettings c e.1 e.2).getD c)
          { Config2.default with options := ∅ }) "k" = "d" := by
  decide

end HbbCommon
