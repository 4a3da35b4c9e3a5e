import HbbCommon.Config
import HbbCommon.Keys

/-! The per-peer record `PeerConfig`: the defaults its fields read from the user defaults,
its tolerant decoder with the two range-checked fields, its TOML form, and `load`/`store_`. -/

namespace HbbCommon

open Toml Secret

/-- What the field defaults of `PeerConfig` read -/
structure PeerDefaults where
  read : String → String
  parseF64AsI32 : String → Option I32

/-- Rust's `str::parse::<i32>`: an optional sign, then decimal digits, in range. -/
def parseI32 (s : String) : Option I32 :=
  let (neg, digits) := match s.toList with
    | '-' :: ds => (true, ds)
    | '+' :: ds => (false, ds)
    | ds => (false, ds)
  if digits.isEmpty ∨ ¬ digits.all Char.isDigit then none
  else
    let n : Int := digits.foldl (fun acc c => acc * 10 + ((c.toNat - '0'.toNat : Nat) : Int)) 0
    let v := if neg then -n else n
    if h : -2 ^ 31 ≤ v ∧ v < 2 ^ 31 then some ⟨v, h⟩ else none

example : parseI32 "-42" = some ⟨-42, by decide⟩ := by decide

/-- One `serde_field_bool!` wrapper, flattened into `PeerConfig` under its field name. -/
structure SerdeFieldBool where
  name : String

/-- The generated `default_*`: the user default for the field's name is `"Y"`. -/
def SerdeFieldBool.default (d : PeerDefaults) (b : SerdeFieldBool) : Bool := d.read b.name == "Y"

/-- The wrapper's own field: `default = $default, deserialize_with = "deserialize_bool"`. -/
def SerdeFieldBool.deserialize (d : PeerDefaults) (b : SerdeFieldBool) (t : Table) : Bool :=
  fieldWith t b.name (b.default d) deserializeBool

def ShowRemoteCursor : SerdeFieldBool := ⟨"show_remote_cursor"⟩
def FollowRemoteCursor : SerdeFieldBool := ⟨"follow_remote_cursor"⟩
def FollowRemoteWindow : SerdeFieldBool := ⟨"follow_remote_window"⟩
def ShowQualityMonitor : SerdeFieldBool := ⟨"show_quality_monitor"⟩
def DisableAudio : SerdeFieldBool := ⟨"disable_audio"⟩
def EnableFileCopyPaste : SerdeFieldBool := ⟨"enable-file-copy-paste"⟩
def DisableClipboard : SerdeFieldBool := ⟨"disable_clipboard"⟩
def LockAfterSessionEnd : SerdeFieldBool := ⟨"lock_after_session_end"⟩
def TerminalPersistent : SerdeFieldBool := ⟨"terminal-persistent"⟩
def PrivacyMode : SerdeFieldBool := ⟨"privacy_mode"⟩
def AllowSwapKey : SerdeFieldBool := ⟨"allow_swap_key"⟩
def ViewOnly : SerdeFieldBool := ⟨"view_only"⟩
def ShowMyCursor : SerdeFieldBool := ⟨"show_my_cursor"⟩
def SyncInitClipboard : SerdeFieldBool := ⟨"sync-init-clipboard"⟩

/-- The function `serde_field_string!` generates -/
def serdeFieldString (dflt : String) (v : Value) : String :=
  let s := (Decoder.string v).getD dflt
  if s = "" then dflt else s

structure Resolution where
  w : I32
  h : I32
  deriving DecidableEq

/-- `Resolution` has no defaults: a table must hold both fields, an array exactly both values. -/
def Resolution.deserialize : Decoder Resolution
  | .table t => do pure ⟨← (Table.get? t "w").bind Decoder.i32, ← (Table.get? t "h").bind Decoder.i32⟩
  | .array [w, h] => do pure ⟨← Decoder.i32 w, ← Decoder.i32 h⟩
  | _ => none

def Resolution.serialize (r : Resolution) : Value :=
  .table [("w", Encoder.i32 r.w), ("h", Encoder.i32 r.h)]

theorem roundTrip_resolution : RoundTrip Resolution.deserialize Resolution.serialize := by
  intro r
  simp [Resolution.deserialize, Resolution.serialize, Table.get?_cons, roundTrip_i32 r.w,
    roundTrip_i32 r.h]

def deserializeHashmapResolutions : Value → StrMap Resolution :=
  deserializeDefault (Decoder.hashMap Resolution.deserialize) ∅

@[simp] theorem deserializeHashmapResolutions_hashMap (x : StrMap Resolution) :
    deserializeHashmapResolutions (Encoder.hashMap Resolution.serialize x) = x :=
  deserializeDefault_of_roundTrip (roundTrip_hashMap roundTrip_resolution) _ x

structure PeerInfoSerde where
  username : String
  hostname : String
  platform : String
  deriving DecidableEq

def PeerInfoSerde.default : PeerInfoSerde := ⟨"", "", ""⟩

def PeerInfoSerde.deserialize : Decoder PeerInfoSerde :=
  Decoder.defaultedStruct 3 fun get => {
    username := fieldFrom get "username" 0 "" deserializeString
    hostname := fieldFrom get "hostname" 1 "" deserializeString
    platform := fieldFrom get "platform" 2 "" deserializeString }

def PeerInfoSerde.serialize (x : PeerInfoSerde) : Value :=
  .table [("username", Encoder.string x.username), ("hostname", Encoder.string x.hostname),
    ("platform", Encoder.string x.platform)]

theorem roundTrip_peerInfoSerde : RoundTrip PeerInfoSerde.deserialize PeerInfoSerde.serialize :=
  fun _ => by
    simp [PeerInfoSerde.deserialize, Decoder.defaultedStruct, PeerInfoSerde.serialize, fieldFrom,
      Table.get?_cons]

structure TransferSerde where
  writeJobs : List String
  readJobs : List String
  deriving DecidableEq

def TransferSerde.default : TransferSerde := ⟨[], []⟩

def TransferSerde.deserialize : Decoder TransferSerde :=
  Decoder.defaultedStruct 2 fun get => {
    writeJobs := fieldFrom get "write_jobs" 0 [] deserializeVecString
    readJobs := fieldFrom get "read_jobs" 1 [] deserializeVecString }

def TransferSerde.serialize (x : TransferSerde) : Value :=
  .table [("write_jobs", Encoder.vec Encoder.string x.writeJobs),
    ("read_jobs", Encoder.vec Encoder.string x.readJobs)]

theorem roundTrip_transferSerde : RoundTrip TransferSerde.deserialize TransferSerde.serialize :=
  fun _ => by
    simp [TransferSerde.deserialize, Decoder.defaultedStruct, TransferSerde.serialize, fieldFrom,
      Table.get?_cons]

structure PeerConfig where
  password : List UInt8
  size : Size
  sizeFt : Size
  sizePf : Size
  viewStyle : String
  scrollStyle : String
  imageQuality : String
  customImageQuality : List I32
  showRemoteCursor : Bool
  lockAfterSessionEnd : Bool
  terminalPersistent : Bool
  privacyMode : Bool
  allowSwapKey : Bool
  portForwards : List (I32 × String × I32)
  directFailures : I32
  disableAudio : Bool
  disableClipboard : Bool
  enableFileCopyPaste : Bool
  showQualityMonitor : Bool
  followRemoteCursor : Bool
  followRemoteWindow : Bool
  keyboardMode : String
  viewOnly : Bool
  showMyCursor : Bool
  syncInitClipboard : Bool
  reverseMouseWheel : String
  displaysAsIndividualWindows : String
  useAllMyDisplaysForTheRemoteSession : String
  trackpadSpeed : I32
  customResolutions : StrMap Resolution
  options : StrMap String
  uiFlutter : StrMap String
  info : PeerInfoSerde
  transfer : TransferSerde
  deriving DecidableEq

namespace PeerConfig

variable (d : PeerDefaults)

def defaultViewStyle : String := d.read keys.optionViewStyle
def defaultScrollStyle : String := d.read keys.optionScrollStyle
def defaultImageQuality : String := d.read keys.optionImageQuality
def defaultReverseMouseWheel : String := d.read keys.optionReverseMouseWheel
def defaultDisplaysAsIndividualWindows : String :=
  d.read keys.optionDisplaysAsIndividualWindows
def defaultUseAllMyDisplaysForTheRemoteSession : String :=
  d.read keys.optionUseAllMyDisplaysForTheRemoteSession

def deserializeViewStyle : Value → String := serdeFieldString (defaultViewStyle d)
def deserializeScrollStyle : Value → String := serdeFieldString (defaultScrollStyle d)
def deserializeImageQuality : Value → String := serdeFieldString (defaultImageQuality d)
def deserializeReverseMouseWheel : Value → String :=
  serdeFieldString (defaultReverseMouseWheel d)
def deserializeDisplaysAsIndividualWindows : Value → String :=
  serdeFieldString (defaultDisplaysAsIndividualWindows d)
def deserializeUseAllMyDisplaysForTheRemoteSession : Value → String :=
  serdeFieldString (defaultUseAllMyDisplaysForTheRemoteSession d)

def defaultCustomImageQuality : List I32 :=
  [(d.parseF64AsI32 (d.read keys.optionCustomImageQuality)).getD ⟨50, by decide⟩]

/-- The inner decode error propagates with `?`. -/
def deserializeCustomImageQuality : Decoder (List I32) := fun v => do
  let l ← Decoder.vec Decoder.i32 v
  match l with
  | [x] => if 10 ≤ x.1 ∧ x.1 ≤ 0xFFF then pure l else pure (defaultCustomImageQuality d)
  | _ => pure (defaultCustomImageQuality d)

def defaultOptions : StrMap String :=
  [keys.optionCodecPreference, keys.optionCustomFps, keys.optionZoomCursor,
    keys.optionTouchMode, keys.optionI444, keys.optionSwapLeftRightMouse,
    keys.optionCollapseToolbar].foldl (fun mp key => mp.insert key (d.read key)) ∅

def defaultTrackpadSpeed : I32 :=
  (parseI32 (d.read keys.optionTrackpadSpeed)).getD ⟨100, by decide⟩

/-- The inner decode error propagates with `?`. -/
def deserializeTrackpadSpeed : Decoder I32 := fun v => do
  let x ← Decoder.i32 v
  if 10 ≤ x.1 ∧ x.1 ≤ 1000 then pure x else pure (defaultTrackpadSpeed d)

/-- `impl Default for PeerConfig`. -/
def default : PeerConfig where
  password := []
  size := (0, 0, 0, 0)
  sizeFt := (0, 0, 0, 0)
  sizePf := (0, 0, 0, 0)
  viewStyle := defaultViewStyle d
  scrollStyle := defaultScrollStyle d
  imageQuality := defaultImageQuality d
  customImageQuality := defaultCustomImageQuality d
  showRemoteCursor := ShowRemoteCursor.default d
  lockAfterSessionEnd := LockAfterSessionEnd.default d
  terminalPersistent := TerminalPersistent.default d
  privacyMode := PrivacyMode.default d
  allowSwapKey := AllowSwapKey.default d
  portForwards := []
  directFailures := 0
  disableAudio := DisableAudio.default d
  disableClipboard := DisableClipboard.default d
  enableFileCopyPaste := EnableFileCopyPaste.default d
  showQualityMonitor := ShowQualityMonitor.default d
  followRemoteCursor := FollowRemoteCursor.default d
  followRemoteWindow := FollowRemoteWindow.default d
  keyboardMode := ""
  viewOnly := ViewOnly.default d
  showMyCursor := ShowMyCursor.default d
  syncInitClipboard := SyncInitClipboard.default d
  reverseMouseWheel := defaultReverseMouseWheel d
  displaysAsIndividualWindows := defaultDisplaysAsIndividualWindows d
  useAllMyDisplaysForTheRemoteSession := defaultUseAllMyDisplaysForTheRemoteSession d
  trackpadSpeed := defaultTrackpadSpeed d
  customResolutions := ∅
  options := defaultOptions d
  uiFlutter := ∅
  info := PeerInfoSerde.default
  transfer := TransferSerde.default

/-- serde's derived decoder. -/
def deserialize (t : Table) : Option PeerConfig := do
  let customImageQuality ← field t "custom_image_quality" (defaultCustomImageQuality d)
    (deserializeCustomImageQuality d)
  let trackpadSpeed ← field t "trackpad-speed" (defaultTrackpadSpeed d)
    (deserializeTrackpadSpeed d)
  let info ← field t "info" PeerInfoSerde.default PeerInfoSerde.deserialize
  let transfer ← field t "transfer" TransferSerde.default TransferSerde.deserialize
  pure {
    password := fieldWith t "password" [] deserializeVecU8
    size := fieldWith t "size" (0, 0, 0, 0) deserializeSize
    sizeFt := fieldWith t "size_ft" (0, 0, 0, 0) deserializeSize
    sizePf := fieldWith t "size_pf" (0, 0, 0, 0) deserializeSize
    viewStyle := fieldWith t "view_style" (defaultViewStyle d) (deserializeViewStyle d)
    scrollStyle := fieldWith t "scroll_style" (defaultScrollStyle d) (deserializeScrollStyle d)
    imageQuality :=
      fieldWith t "image_quality" (defaultImageQuality d) (deserializeImageQuality d)
    customImageQuality
    showRemoteCursor := ShowRemoteCursor.deserialize d t
    lockAfterSessionEnd := LockAfterSessionEnd.deserialize d t
    terminalPersistent := TerminalPersistent.deserialize d t
    privacyMode := PrivacyMode.deserialize d t
    allowSwapKey := AllowSwapKey.deserialize d t
    portForwards := fieldWith t "port_forwards" [] deserializeVecI32StringI32
    directFailures := fieldWith t "direct_failures" 0 deserializeI32
    disableAudio := DisableAudio.deserialize d t
    disableClipboard := DisableClipboard.deserialize d t
    enableFileCopyPaste := EnableFileCopyPaste.deserialize d t
    showQualityMonitor := ShowQualityMonitor.deserialize d t
    followRemoteCursor := FollowRemoteCursor.deserialize d t
    followRemoteWindow := FollowRemoteWindow.deserialize d t
    keyboardMode := fieldWith t "keyboard_mode" "" deserializeString
    viewOnly := ViewOnly.deserialize d t
    showMyCursor := ShowMyCursor.deserialize d t
    syncInitClipboard := SyncInitClipboard.deserialize d t
    reverseMouseWheel := fieldWith t "reverse_mouse_wheel" (defaultReverseMouseWheel d)
      (deserializeReverseMouseWheel d)
    displaysAsIndividualWindows := fieldWith t "displays_as_individual_windows"
      (defaultDisplaysAsIndividualWindows d) (deserializeDisplaysAsIndividualWindows d)
    useAllMyDisplaysForTheRemoteSession := fieldWith t
      "use_all_my_displays_for_the_remote_session"
      (defaultUseAllMyDisplaysForTheRemoteSession d)
      (deserializeUseAllMyDisplaysForTheRemoteSession d)
    trackpadSpeed
    customResolutions := fieldWith t "custom_resolutions" ∅ deserializeHashmapResolutions
    options := fieldWith t "options" ∅ deserializeHashmapStringString
    uiFlutter := fieldWith t "ui_flutter" ∅ deserializeHashmapStringString
    info
    transfer }

end PeerConfig

/-- An entry that `skip_serializing_if` drops when `skip` holds. -/
def entryUnless (skip : Prop) [Decidable skip] (name : String) (v : Value) : Table :=
  if skip then [] else [(name, v)]

theorem fieldWith_entryUnless_append {α : Type} (skip : Prop) [Decidable skip] (name k : String)
    (v : Value) (rest : Table) (absent : α) (de : Value → α) :
    fieldWith (entryUnless skip name v ++ rest) k absent de =
      if k = name ∧ ¬ skip then de v else fieldWith rest k absent de := by
  by_cases h : skip <;> by_cases hk : k = name <;> simp [entryUnless, fieldWith_cons, h, hk]

theorem Table.get?_entryUnless_append (skip : Prop) [Decidable skip] (name k : String)
    (v : Value) (rest : Table) :
    Table.get? (entryUnless skip name v ++ rest) k =
      if k = name ∧ ¬ skip then some v else Table.get? rest k := by
  by_cases h : skip <;> by_cases hk : k = name <;> simp [entryUnless, Table.get?_cons, h, hk]

namespace PeerConfig

/-- The TOML form `store_` writes, the flattened flags at their places among the fields. -/
def serialize (c : PeerConfig) : Table :=
  [("password", Encoder.vec Encoder.u8 c.password), ("size", Encoder.tuple4 Encoder.i32 c.size),
    ("size_ft", Encoder.tuple4 Encoder.i32 c.sizeFt),
    ("size_pf", Encoder.tuple4 Encoder.i32 c.sizePf)] ++
  entryUnless (c.viewStyle = "") "view_style" (.string c.viewStyle) ++
  entryUnless (c.scrollStyle = "") "scroll_style" (.string c.scrollStyle) ++
  entryUnless (c.imageQuality = "") "image_quality" (.string c.imageQuality) ++
  entryUnless (c.customImageQuality = []) "custom_image_quality"
    (Encoder.vec Encoder.i32 c.customImageQuality) ++
  [(ShowRemoteCursor.name, .boolean c.showRemoteCursor),
    (LockAfterSessionEnd.name, .boolean c.lockAfterSessionEnd),
    (TerminalPersistent.name, .boolean c.terminalPersistent),
    (PrivacyMode.name, .boolean c.privacyMode), (AllowSwapKey.name, .boolean c.allowSwapKey),
    ("port_forwards",
      Encoder.vec (Encoder.tuple3 Encoder.i32 Encoder.string Encoder.i32) c.portForwards),
    ("direct_failures", Encoder.i32 c.directFailures),
    (DisableAudio.name, .boolean c.disableAudio),
    (DisableClipboard.name, .boolean c.disableClipboard),
    (EnableFileCopyPaste.name, .boolean c.enableFileCopyPaste),
    (ShowQualityMonitor.name, .boolean c.showQualityMonitor),
    (FollowRemoteCursor.name, .boolean c.followRemoteCursor),
    (FollowRemoteWindow.name, .boolean c.followRemoteWindow)] ++
  entryUnless (c.keyboardMode = "") "keyboard_mode" (.string c.keyboardMode) ++
  [(ViewOnly.name, .boolean c.viewOnly), (ShowMyCursor.name, .boolean c.showMyCursor),
    (SyncInitClipboard.name, .boolean c.syncInitClipboard)] ++
  entryUnless (c.reverseMouseWheel = "") "reverse_mouse_wheel" (.string c.reverseMouseWheel) ++
  entryUnless (c.displaysAsIndividualWindows = "") "displays_as_individual_windows"
    (.string c.displaysAsIndividualWindows) ++
  entryUnless (c.useAllMyDisplaysForTheRemoteSession = "")
    "use_all_my_displays_for_the_remote_session"
    (.string c.useAllMyDisplaysForTheRemoteSession) ++
  [("trackpad-speed", Encoder.i32 c.trackpadSpeed)] ++
  entryUnless (c.customResolutions = ∅) "custom_resolutions"
    (Encoder.hashMap Resolution.serialize c.customResolutions) ++
  entryUnless (c.options = ∅) "options" (Encoder.hashMap Encoder.string c.options) ++
  [("ui_flutter", Encoder.hashMap Encoder.string c.uiFlutter), ("info", c.info.serialize),
    ("transfer", c.transfer.serialize)]

end PeerConfig

end HbbCommon

namespace HbbCommon

open Toml Secret

/-- The records the tolerant decoder can give back unchanged -/
structure PeerConfig.Decodable (c : PeerConfig) : Prop where
  viewStyle : c.viewStyle ≠ ""
  scrollStyle : c.scrollStyle ≠ ""
  imageQuality : c.imageQuality ≠ ""
  reverseMouseWheel : c.reverseMouseWheel ≠ ""
  displaysAsIndividualWindows : c.displaysAsIndividualWindows ≠ ""
  useAllMyDisplaysForTheRemoteSession : c.useAllMyDisplaysForTheRemoteSession ≠ ""
  customImageQuality : ∃ x : I32, c.customImageQuality = [x] ∧ 10 ≤ x.1 ∧ x.1 ≤ 0xFFF
  trackpadSpeed : 10 ≤ c.trackpadSpeed.1 ∧ c.trackpadSpeed.1 ≤ 1000

theorem PeerConfig.deserialize_serialize (d : PeerDefaults) (c : PeerConfig)
    (hc : c.Decodable) : PeerConfig.deserialize d c.serialize = some c := by
  obtain ⟨h1, h2, h3, h4, h5, h6, ⟨x, hx, hx1, hx2⟩, ht⟩ := hc
  simp [PeerConfig.deserialize, PeerConfig.serialize, field, fieldWith_cons,
    fieldWith_entryUnless_append, Table.get?_cons, Table.get?_entryUnless_append,
    SerdeFieldBool.deserialize, ShowRemoteCursor, LockAfterSessionEnd, TerminalPersistent,
    PrivacyMode, AllowSwapKey, DisableAudio, DisableClipboard, EnableFileCopyPaste,
    ShowQualityMonitor, FollowRemoteCursor, FollowRemoteWindow, ViewOnly, ShowMyCursor,
    SyncInitClipboard, PeerConfig.deserializeCustomImageQuality,
    PeerConfig.deserializeTrackpadSpeed, roundTrip_i32 x, roundTrip_i32 c.trackpadSpeed,
    serdeFieldString, PeerConfig.deserializeViewStyle, PeerConfig.deserializeScrollStyle,
    PeerConfig.deserializeImageQuality, PeerConfig.deserializeReverseMouseWheel,
    PeerConfig.deserializeDisplaysAsIndividualWindows,
    PeerConfig.deserializeUseAllMyDisplaysForTheRemoteSession, Decoder.string,
    h1, h2, h3, h4, h5, h6, hx, hx1, hx2, ht, roundTrip_vec roundTrip_i32 [x],
    roundTrip_peerInfoSerde c.info, roundTrip_transferSerde c.transfer, ite_eq_self]
  rw [← hx]

namespace PeerConfig

/-- The option entries that `load` decrypts and `store_` encrypts. -/
def sensitiveOptions : List String := ["rdp_password", "os-username", "os-password"]

theorem sensitiveOptions_nodup : sensitiveOptions.Nodup := by decide

/-- What `store_` writes to `PeerConfig::path(id)`. -/
def store_ (s : SecretLayer) (c : PeerConfig) : Table :=
  serialize { c with
    password := s.vec.encrypt c.password encryptMaxLen
    options := sensitiveOptions.foldl
      (fun m opt => m.update opt fun v => s.str.encrypt v encryptMaxLen) c.options }

/-- One round of `load`'s loop over the sensitive options -/
def decryptOption (s : SecretLayer) (acc : StrMap String × Bool) (opt : String) :
    StrMap String × Bool :=
  match acc.1.lookup opt with
  | some v => (acc.1.update opt fun v => (s.str.decrypt v).1, acc.2 || (s.str.decrypt v).2.2)
  | none => acc

/-- `PeerConfig::load` on what `PeerConfig::path(id)` holds -/
def load (s : SecretLayer) (d : PeerDefaults) (file : Option Table) : PeerConfig × Bool :=
  match file.bind (deserialize d) with
  | none => (default d, false)
  | some config =>
    let (password, _, store2) := s.vec.decrypt config.password
    let (options, store) := sensitiveOptions.foldl (decryptOption s) (config.options, store2)
    ({ config with password, options }, store)

theorem decryptOption_fst (s : SecretLayer) (acc : StrMap String × Bool) (opt : String) :
    (decryptOption s acc opt).1 = acc.1.update opt fun v => (s.str.decrypt v).1 := by
  unfold decryptOption
  split
  · rfl
  · exact (StrMap.update_of_lookup_none _ _ _ ‹_›).symm

theorem foldl_decryptOption_fst (s : SecretLayer) (ks : List String)
    (acc : StrMap String × Bool) :
    (ks.foldl (decryptOption s) acc).1 =
      ks.foldl (fun m k => m.update k fun v => (s.str.decrypt v).1) acc.1 := by
  induction ks generalizing acc with
  | nil => rfl
  | cons k ks ih => rw [List.foldl_cons, List.foldl_cons, ih, decryptOption_fst]

theorem foldl_decryptOption_snd (s : SecretLayer) (ks : List String) (hks : ks.Nodup)
    (m : StrMap String) (b : Bool)
    (h : ∀ k ∈ ks, ∀ v, m.lookup k = some v → (s.str.decrypt v).2.2 = false) :
    (ks.foldl (decryptOption s) (m, b)).2 = b := by
  induction ks generalizing m with
  | nil => rfl
  | cons k ks ih =>
    obtain ⟨hk, hks⟩ := List.nodup_cons.mp hks
    rw [List.foldl_cons]
    unfold decryptOption
    split
    · next v hv =>
      rw [h k (List.mem_cons_self _ _) v hv, Bool.or_false]
      refine ih hks _ fun k' hk' v' hv' => h k' (List.mem_cons_of_mem _ hk') v' ?_
      rwa [StrMap.lookup_update, if_neg fun e : k' = k => hk (e ▸ hk')] at hv'
    · exact ih hks m fun k' hk' => h k' (List.mem_cons_of_mem _ hk')

end PeerConfig

/-- The sensitive values of a `PeerConfig` are plaintexts. -/
structure PeerConfig.Plain (s : SecretLayer) (c : PeerConfig) : Prop where
  password : s.vec.isCipher c.password = false
  options : ∀ k ∈ PeerConfig.sensitiveOptions, ∀ v, c.options.lookup k = some v →
    s.str.isCipher v = false

/-- The sensitive values of a `PeerConfig` fit in `ENCRYPT_MAX_LEN` bytes. -/
structure PeerConfig.Short (c : PeerConfig) : Prop where
  password : c.password.length ≤ encryptMaxLen
  options : ∀ k ∈ PeerConfig.sensitiveOptions, ∀ v, c.options.lookup k = some v →
    v.utf8ByteSize ≤ encryptMaxLen

theorem PeerConfig.load_of_deserialize (s : SecretLayer) (d : PeerDefaults) (t : Table)
    (config : PeerConfig) (h : PeerConfig.deserialize d t = some config) :
    PeerConfig.load s d (some t) =
      let r := PeerConfig.sensitiveOptions.foldl (PeerConfig.decryptOption s)
        (config.options, (s.vec.decrypt config.password).2.2)
      ({ config with password := (s.vec.decrypt config.password).1, options := r.1 }, r.2) := by
  simp [PeerConfig.load, h]

theorem PeerConfig.deserialize_store (s : SecretLayer) (d : PeerDefaults) (c : PeerConfig)
    (hc : c.Decodable) :
    PeerConfig.deserialize d (PeerConfig.store_ s c) = some { c with
      password := s.vec.encrypt c.password encryptMaxLen
      options := PeerConfig.sensitiveOptions.foldl
        (fun m opt => m.update opt fun v => s.str.encrypt v encryptMaxLen) c.options } :=
  PeerConfig.deserialize_serialize d _ ⟨hc.1, hc.2, hc.3, hc.4, hc.5, hc.6, hc.7, hc.8⟩

theorem PeerConfig.load_store_fst (s : SecretLayer) (hs : s.Lawful) (d : PeerDefaults)
    (c : PeerConfig) (hc : c.Decodable) (hp : c.Plain s) :
    (PeerConfig.load s d (some (PeerConfig.store_ s c))).1 = c := by
  rw [PeerConfig.load_of_deserialize s d _ _ (PeerConfig.deserialize_store s d c hc)]
  dsimp only
  rw [PeerConfig.foldl_decryptOption_fst, hs.2.decrypt_stored _ _ hp.password,
    StrMap.foldl_update_cancel _ PeerConfig.sensitiveOptions_nodup _ _ _
      fun k hk v hv => hs.1.decrypt_stored v _ (hp.options k hk v hv)]

theorem PeerConfig.load_store_snd (s : SecretLayer) (hs : s.Lawful) (d : PeerDefaults)
    (c : PeerConfig) (hc : c.Decodable) (hp : c.Plain s) (hshort : c.Short) :
    (PeerConfig.load s d (some (PeerConfig.store_ s c))).2 = false := by
  rw [PeerConfig.load_of_deserialize s d _ _ (PeerConfig.deserialize_store s d c hc)]
  dsimp only
  rw [hs.2.decrypt_stored_rewrite _ _ hp.password hshort.password]
  refine PeerConfig.foldl_decryptOption_snd s _ PeerConfig.sensitiveOptions_nodup _ _
    fun k hk v hv => ?_
  rw [StrMap.lookup_foldl_update _ PeerConfig.sensitiveOptions_nodup, if_pos hk] at hv
  obtain ⟨v₀, hv₀, rfl⟩ := Option.map_eq_some'.mp hv
  exact hs.1.decrypt_stored_rewrite v₀ _ (hp.options k hk v₀ hv₀) (hshort.options k hk v₀ hv₀)

theorem PeerConfig.load_after_store (s : SecretLayer) (hs : s.Lawful) (d : PeerDefaults)
    (c : PeerConfig) (hc : c.Decodable) (hp : c.Plain s) :
    (PeerConfig.load s d (some (PeerConfig.store_ s c))).1 = c ∧
      (c.Short → (PeerConfig.load s d (some (PeerConfig.store_ s c))).2 = false) :=
  ⟨PeerConfig.load_store_fst s hs d c hc hp, PeerConfig.load_store_snd s hs d c hc hp⟩

/-- A peer whose saved password is 129 bytes long. -/
def longPasswordPeer : PeerConfig :=
  { PeerConfig.default ⟨fun _ => "N", fun _ => none⟩ with
    password := List.replicate 129 7, options := ∅ }

theorem longPasswordPeer_decodable : longPasswordPeer.Decodable :=
  ⟨by decide, by decide, by decide, by decide, by decide, by decide,
    ⟨⟨50, by decide⟩, rfl, by decide, by decide⟩, by decide⟩

theorem longPasswordPeer_plain : longPasswordPeer.Plain markLayer :=
  ⟨by decide, fun _ _ _ h => by simp [longPasswordPeer] at h⟩

/-- A peer with a short saved password and an `os-password` option. -/
def shortSecretsPeer : PeerConfig :=
  { PeerConfig.default ⟨fun _ => "N", fun _ => none⟩ with
    password := [1, 2, 3], options := (∅ : StrMap String).insert "os-password" "pw" }

theorem PeerConfig.load_after_store_witness :
    (PeerConfig.load markLayer ⟨fun _ => "N", fun _ => none⟩
        (some (PeerConfig.store_ markLayer shortSecretsPeer))).1 = shortSecretsPeer ∧
      shortSecretsPeer.Short ∧
      (PeerConfig.load markLayer ⟨fun _ => "N", fun _ => none⟩
        (some (PeerConfig.store_ markLayer shortSecretsPeer))).2 = false :=
  have hlookup : ∀ k v, shortSecretsPeer.options.lookup k = some v → v = "pw" := fun k v h => by
    by_cases hk : k = "os-password"
    · subst hk
      simp only [shortSecretsPeer, AList.lookup_insert, Option.some.injEq] at h
      exact h.symm
    · simp only [shortSecretsPeer, AList.lookup_insert_ne hk, AList.lookup_empty] at h
      cases h
  have hshort : shortSecretsPeer.Short :=
    ⟨by decide, fun k _ v h => by rw [hlookup k v h]; decide⟩
  have h := PeerConfig.load_after_store markLayer markLayer_lawful ⟨fun _ => "N", fun _ => none⟩
    shortSecretsPeer
    ⟨by decide, by decide, by decide, by decide, by decide, by decide,
      ⟨⟨50, by decide⟩, rfl, by decide, by decide⟩, by decide⟩
    ⟨by decide, fun k _ v h => by rw [hlookup k v h]; decide⟩
  ⟨h.1, hshort, h.2 hshort⟩

theorem PeerConfig.long_password_rewritten :
    markLayer.Lawful ∧ longPasswordPeer.Decodable ∧ longPasswordPeer.Plain markLayer ∧
      (PeerConfig.load markLayer ⟨fun _ => "N", fun _ => none⟩
        (some (PeerConfig.store_ markLayer longPasswordPeer))).2 = true := by
  refine ⟨markLayer_lawful, longPasswordPeer_decodable, longPasswordPeer_plain, ?_⟩
  rw [PeerConfig.load_of_deserialize _ _ _ _
    (PeerConfig.deserialize_store _ _ _ longPasswordPeer_decodable)]
  dsimp only
  rw [PeerConfig.foldl_decryptOption_snd _ _ PeerConfig.sensitiveOptions_nodup _ _
    fun k _ v hv => by
      rw [StrMap.lookup_foldl_update _ PeerConfig.sensitiveOptions_nodup] at hv
      simp [longPasswordPeer] at hv]
  simp [longPasswordPeer, PeerConfig.default, markLayer, markCipher, encryptMaxLen]

/-- The fields whose decoders propagate the inner error, with the kinds they may accept. -/
def PeerConfig.strictFields : List (String × List Kind) :=
  [("custom_image_quality", [.array]), ("trackpad-speed", [.integer]),
    ("info", [.table, .datetime, .array]), ("transfer", [.table, .datetime, .array])]

theorem PeerConfig.deserialize_eq_none (d : PeerDefaults) (t : Table)
    (h : field t "custom_image_quality" (PeerConfig.defaultCustomImageQuality d)
          (PeerConfig.deserializeCustomImageQuality d) = none ∨
        field t "trackpad-speed" (PeerConfig.defaultTrackpadSpeed d)
          (PeerConfig.deserializeTrackpadSpeed d) = none ∨
        field t "info" PeerInfoSerde.default PeerInfoSerde.deserialize = none ∨
        field t "transfer" TransferSerde.default TransferSerde.deserialize = none) :
    PeerConfig.deserialize d t = none := by
  rcases h with h | h | h | h <;> simp [PeerConfig.deserialize, h]

theorem expects_customImageQuality (d : PeerDefaults) :
    (PeerConfig.deserializeCustomImageQuality d).Expects .array := fun w hw => by
  simp [PeerConfig.deserializeCustomImageQuality, expects_vec _ w hw]

theorem expects_trackpadSpeed (d : PeerDefaults) :
    (PeerConfig.deserializeTrackpadSpeed d).Expects .integer := fun w hw => by
  simp [PeerConfig.deserializeTrackpadSpeed, expects_i32 w hw]

theorem PeerConfig.deserialize_set_strict (d : PeerDefaults) (t : Table) (f : String)
    (ks : List Kind) (hf : (f, ks) ∈ PeerConfig.strictFields) (w : Value) (hw : w.kind ∉ ks) :
    PeerConfig.deserialize d (Table.set t f w) = none := by
  apply PeerConfig.deserialize_eq_none
  simp only [PeerConfig.strictFields, List.mem_cons, Prod.mk.injEq, List.mem_singleton,
    List.not_mem_nil, or_false] at hf
  rcases hf with ⟨rfl, rfl⟩ | ⟨rfl, rfl⟩ | ⟨rfl, rfl⟩ | ⟨rfl, rfl⟩
  · exact .inl (field_set_self _ _ _ _ _ (expects_customImageQuality d w (by simpa using hw)))
  · exact .inr (.inl (field_set_self _ _ _ _ _ (expects_trackpadSpeed d w (by simpa using hw))))
  · exact .inr (.inr (.inl (field_set_self _ _ _ _ _ (defaultedStruct_eq_none _ _ w hw))))
  · exact .inr (.inr (.inr (field_set_self _ _ _ _ _ (defaultedStruct_eq_none _ _ w hw))))

/-- The two values `PeerConfig` range-checks -/
structure PeerConfig.DisplayInRange (c : PeerConfig) : Prop where
  trackpadSpeed : 10 ≤ c.trackpadSpeed.1 ∧ c.trackpadSpeed.1 ≤ 1000
  customImageQuality : ∃ q : I32, c.customImageQuality = [q] ∧ 10 ≤ q.1 ∧ q.1 ≤ 0xFFF

theorem PeerConfig.deserialize_displayInRange (d : PeerDefaults)
    (hd : (PeerConfig.default d).DisplayInRange) (t : Table) (c : PeerConfig)
    (h : PeerConfig.deserialize d t = some c) : c.DisplayInRange := by
  simp only [PeerConfig.deserialize, Option.bind_eq_bind, Option.bind_eq_some,
    Option.pure_def, Option.some.injEq] at h
  obtain ⟨q, hq, tp, htp, info, -, transfer, -, rfl⟩ := h
  refine ⟨field_mem (P := fun x : I32 => 10 ≤ x.1 ∧ x.1 ≤ 1000) htp hd.trackpadSpeed
      fun w x hx => ?_,
    field_mem (P := fun l : List I32 => ∃ q : I32, l = [q] ∧ 10 ≤ q.1 ∧ q.1 ≤ 0xFFF) hq
      hd.customImageQuality fun w x hx => ?_⟩
  · simp only [PeerConfig.deserializeTrackpadSpeed, Option.bind_eq_bind, Option.bind_eq_some,
      Option.pure_def] at hx
    obtain ⟨y, -, hy⟩ := hx
    split_ifs at hy with hr
    · exact Option.some.inj hy ▸ hr
    · exact Option.some.inj hy ▸ hd.trackpadSpeed
  · simp only [PeerConfig.deserializeCustomImageQuality, Option.bind_eq_bind,
      Option.bind_eq_some, Option.pure_def] at hx
    obtain ⟨l, -, hl⟩ := hx
    split at hl
    · split_ifs at hl with hr
      · exact Option.some.inj hl ▸ ⟨_, rfl, hr⟩
      · exact Option.some.inj hl ▸ hd.customImageQuality
    · exact Option.some.inj hl ▸ hd.customImageQuality

theorem PeerConfig.load_displayInRange (s : SecretLayer) (d : PeerDefaults)
    (hd : (PeerConfig.default d).DisplayInRange) (file : Option Table) :
    (PeerConfig.load s d file).1.DisplayInRange := by
  unfold PeerConfig.load
  split
  · exact hd
  · next config hc =>
    obtain ⟨t, -, ht⟩ := Option.bind_eq_some.mp hc
    have h := PeerConfig.deserialize_displayInRange d hd t config ht
    exact ⟨h.1, h.2⟩

theorem PeerConfig.mistyped_trackpad_speed_fails (d : PeerDefaults) :
    PeerConfig.deserialize d [("trackpad-speed", .string "fast")] = none ∧
      (PeerConfig.deserialize d []).isSome = true :=
  ⟨PeerConfig.deserialize_set_strict d [] "trackpad-speed" [.integer] (by decide)
    (.string "fast") (by decide), rfl⟩

end HbbCommon
