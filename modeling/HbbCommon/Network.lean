import HbbCommon.Setters
/-! Where the client connects: the proxy that `get_socks` and `get_network_type` resolve from
the overwrite settings, `CONFIG2.socks` and the default settings, and the rendezvous server that
`get_rendezvous_server` picks, with the default port appended to an address without `:`. -/

namespace HbbCommon

open Toml

/-- `Config::get_socks_from_custom_client_advanced_settings` -/
def getSocksFromCustomClientAdvancedSettings (settings : StrMap String) : Option Socks5Server :=
  (settings.lookup keys.optionProxyUrl).map fun url =>
    ⟨url, (settings.lookup keys.optionProxyUsername).getD "",
      (settings.lookup keys.optionProxyPassword).getD ""⟩

@[simp] theorem isSome_getSocksFromCustomClientAdvancedSettings (settings : StrMap String) :
    (getSocksFromCustomClientAdvancedSettings settings).isSome =
      (settings.lookup keys.optionProxyUrl).isSome := by
  simp [getSocksFromCustomClientAdvancedSettings]

inductive NetworkType where
  | direct
  | proxySocks
  deriving DecidableEq

namespace Config

variable (σ : Settings)

/-- `Config::get_socks`: the overwritten proxy, else the stored one, else the default one. -/
def getSocks (c : Config2) : Option Socks5Server :=
  ((getSocksFromCustomClientAdvancedSettings σ.overwriteSettings).or c.socks).or
    (getSocksFromCustomClientAdvancedSettings σ.defaultSettings)

def getNetworkType (c : Config2) : NetworkType :=
  if (σ.overwriteSettings.lookup keys.optionProxyUrl).isSome then .proxySocks
  else if c.socks.isSome then .proxySocks
  else if (σ.defaultSettings.lookup keys.optionProxyUrl).isSome then .proxySocks
  else .direct

def isProxy (c : Config2) : Bool := getNetworkType σ c ≠ .direct

theorem isProxy_iff_getSocks (c : Config2) : isProxy σ c = true ↔ (getSocks σ c).isSome := by
  simp only [isProxy, getNetworkType, getSocks, Option.isSome_or,
    isSome_getSocksFromCustomClientAdvancedSettings]
  split_ifs <;> simp_all

theorem getSocks_after_setSocks (c : Config2) (s : Option Socks5Server)
    (h : σ.overwriteSettings.lookup keys.optionProxyUrl = none) :
    getSocks σ ((setSocks σ c s).getD c) =
      s.or (getSocksFromCustomClientAdvancedSettings σ.defaultSettings) := by
  have hover : getSocksFromCustomClientAdvancedSettings σ.overwriteSettings = none := by
    simp [getSocksFromCustomClientAdvancedSettings, h]
  unfold setSocks
  simp only [h, Option.isSome_none, Bool.false_eq_true, if_false]
  split
  · next hs => simp only [Option.getD_none, getSocks, hover, Option.none_or, hs]
  · split
    · next hs hshort =>
      obtain ⟨hnone, -, hurl, huser, hpass⟩ := hshort
      rw [Option.isNone_iff_eq_none] at hnone
      obtain ⟨x, rfl⟩ := Option.ne_none_iff_exists'.mp fun h' => hs (hnone.trans h'.symm)
      simp only [Option.getD_none, getSocks, hover, hnone, Option.none_or, Option.getD_some,
        decide_eq_true_eq] at hurl huser hpass ⊢
      simp [getSocksFromCustomClientAdvancedSettings, hurl, huser, hpass]
    · simp only [Option.getD_some, getSocks, hover, Option.none_or]

end Config

/-- `EXE_RENDEZVOUS_SERVER` and `PROD_RENDEZVOUS_SERVER`. -/
structure Servers where
  exe : String
  prod : String

/-- `SERIAL` -/
def serial : Int := 3

/-- `Config::get_serial` -/
def Config.getSerial (c : Config2) : Int := max c.serial.1 serial

/-- `RENDEZVOUS_SERVERS` -/
def rendezvousServers : List String := ["hbyx.myds.me"]

/-- `RENDEZVOUS_PORT` -/
def rendezvousPort : Nat := 2116

namespace Config

variable (σ : Settings) (srv : Servers)

/-- `Config::get_rendezvous_servers` -/
def getRendezvousServers (c : Config2) : List String :=
  if srv.exe ≠ "" then [srv.exe]
  else
    let s := getOption σ c keys.optionCustomRendezvousServer
    if s ≠ "" then [s]
    else if srv.prod ≠ "" then [srv.prod]
    else if serial < c.serial.1 then
      let ss := (((getOption σ c "rendezvous-servers").toList.splitOn ',').map String.mk).filter
        fun x => '.' ∈ x.toList
      if ss ≠ [] then ss else rendezvousServers
    else rendezvousServers

/-- `Config::get_rendezvous_server` -/
def getRendezvousServer (c : Config2) : String :=
  let r := srv.exe
  let r := if r = "" then getOption σ c keys.optionCustomRendezvousServer else r
  let r := if r = "" then srv.prod else r
  let r := if r = "" then c.rendezvousServer else r
  let r := if r = "" then (getRendezvousServers σ srv c).headD "" else r
  if ':' ∈ r.toList then r else r ++ ":" ++ toString rendezvousPort

end Config

/-- An address with a port -/
def hasPort (addr : String) : Bool :=
  match addr.toList.reverse.span (· ≠ ':') with
  | (portRev, _ :: hostRev) =>
    let host := hostRev.reverse
    portRev ≠ [] && portRev.all Char.isDigit &&
      (':' ∉ host || host.head? = some '[' && host.getLast? = some ']')
  | (_, []) => false

example : hasPort "[::1]:21116" = true ∧ hasPort "host:2116" = true ∧ hasPort "host" = false := by
  decide

theorem rendezvous_ipv6_without_port :
    hasPort "::1" = false ∧
      Config.getRendezvousServer Settings.empty ⟨"::1", ""⟩ Config2.default = "::1" ∧
      hasPort "[2001:db8::1]" = false ∧
      Config.getRendezvousServer Settings.empty ⟨"[2001:db8::1]", ""⟩ Config2.default =
        "[2001:db8::1]" := by
  decide

theorem proxy_settings_consistent (σ : Settings) (c : Config2) (s : Option Socks5Server) :
    (Config.isProxy σ c = true ↔ (Config.getSocks σ c).isSome) ∧
      (σ.overwriteSettings.lookup keys.optionProxyUrl = none →
        Config.getSocks σ ((Config.setSocks σ c s).getD c) =
          s.or (getSocksFromCustomClientAdvancedSettings σ.defaultSettings)) :=
  ⟨Config.isProxy_iff_getSocks σ c, Config.getSocks_after_setSocks σ c s⟩

end HbbCommon
