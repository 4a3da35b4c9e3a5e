import HbbCommon.Toml
import HbbCommon.Secret
import HbbCommon.Config
import HbbCommon.Keys
import HbbCommon.PeerConfig
import HbbCommon.LocalConfig
import HbbCommon.Options
import HbbCommon.Base64
import HbbCommon.PeerPath
import HbbCommon.Setters
import HbbCommon.TrustedDevices
import HbbCommon.Latency
import HbbCommon.Persist
import HbbCommon.LazyInit
import HbbCommon.AddressBook
import HbbCommon.Network
import HbbCommon.DisplayDefaults
import HbbCommon.PeerStore
import HbbCommon.DefaultsCache
import HbbCommon.DeviceId
import HbbCommon.KeyConfirm
import HbbCommon.OptionHistory
import HbbCommon.LanPeers
