import HbbCommon.Toml
import HbbCommon.Secret

/-! The identity record `Config` and the network record `Config2`: their TOML form, and
`load` and `store` through the secret layer. -/

namespace HbbCommon

open Toml Secret

structure Config where
  id : String
  encId : String
  password : String
  salt : String
  keyPair : KeyPair
  keyConfirmed : Bool
  keysConfirmed : StrMap Bool
  deriving DecidableEq

def Config.default : Config := ⟨"", "", "", "", ([], []), false, ∅⟩

/-- `Config::is_empty`: no id, plain or encrypted, or no key pair. -/
def Config.isEmpty (c : Config) : Bool :=
  (c.id = "" ∧ c.encId = "") ∨ c.keyPair.1 = []

/-- The derived `PartialEq`: field by field, maps compared by their entries. -/
def Config.same (a b : Config) : Bool :=
  a.id == b.id && a.encId == b.encId && a.password == b.password && a.salt == b.salt &&
    a.keyPair == b.keyPair && a.keyConfirmed == b.keyConfirmed &&
    decide (a.keysConfirmed.toFinmap = b.keysConfirmed.toFinmap)

def Config.deserialize (t : Table) : Option Config :=
  some {
    id := fieldWith t "id" "" deserializeString
    encId := fieldWith t "enc_id" "" deserializeString
    password := fieldWith t "password" "" deserializeString
    salt := fieldWith t "salt" "" deserializeString
    keyPair := fieldWith t "key_pair" ([], []) deserializeKeypair
    keyConfirmed := fieldWith t "key_confirmed" false deserializeBool
    keysConfirmed := fieldWith t "keys_confirmed" ∅ deserializeHashmapStringBool }

/-- `id` is skipped when empty. -/
def Config.serialize (c : Config) : Table :=
  (if c.id = "" then [] else [("id", Encoder.string c.id)]) ++
    [("enc_id", Encoder.string c.encId), ("password", Encoder.string c.password),
      ("salt", Encoder.string c.salt),
      ("key_pair", Encoder.tuple2 (Encoder.vec Encoder.u8) (Encoder.vec Encoder.u8) c.keyPair),
      ("key_confirmed", Encoder.bool c.keyConfirmed),
      ("keys_confirmed", Encoder.hashMap Encoder.bool c.keysConfirmed)]

theorem Config.deserialize_serialize (c : Config) : Config.deserialize c.serialize = some c := by
  obtain ⟨id, encId, password, salt, keyPair, keyConfirmed, keysConfirmed⟩ := c
  by_cases hid : id = ""
  · subst hid
    simp [Config.deserialize, Config.serialize, fieldWith, Table.get?_cons]
  · simp [Config.deserialize, Config.serialize, fieldWith, Table.get?_cons, hid]

/-- `Config::load`, given what the up to three calls of `gen_id` return. -/
def Config.load (s : SecretLayer) (genId : Nat → Option String) (file : Option Table) :
    Config × Bool :=
  let config := loadPath Config.default Config.deserialize file
  let (password, _, store1) := s.str.decrypt config.password
  let config := { config with password }
  let (id, encrypted, store2) := s.str.decrypt config.encId
  if encrypted then ({ config with id }, store1 || store2)
  else if config.id ≠ "" ∧ config.encId = "" ∧ (s.str.decrypt config.id).2.1 = false then
    (config, true)
  else
    match (List.range 3).findSome? genId with
    | some id => ({ config with id }, true)
    | none => (config, store1)

/-- What `Config::store` writes. -/
def Config.store (s : SecretLayer) (c : Config) : Table :=
  Config.serialize { c with
    password := s.str.encrypt c.password encryptMaxLen
    encId := s.str.encrypt c.id encryptMaxLen
    id := "" }

theorem Config.load_store (s : SecretLayer) (hs : s.Lawful) (genId : Nat → Option String)
    (c : Config) (hpw : s.str.isCipher c.password = false) (hid : s.str.isCipher c.id = false)
    (hlen : c.id.utf8ByteSize ≤ encryptMaxLen) :
    (Config.load s genId (some (Config.store s c))).1 =
      { c with encId := s.str.encrypt c.id encryptMaxLen } := by
  have hdec := hs.1.decrypt_encrypt c.id encryptMaxLen hid hlen
  rcases hpd : s.str.decrypt (s.str.encrypt c.password encryptMaxLen) with ⟨p, e, st⟩
  have hp : p = c.password := by
    simpa [hpd] using hs.1.decrypt_stored c.password encryptMaxLen hpw
  subst hp
  simp [Config.load, Config.store, loadPath, Config.deserialize_serialize, hdec, hpd]

theorem Config.load_legacy (s : SecretLayer) (hs : s.Lawful) (genId : Nat → Option String)
    (c : Config) (p : String) (hp : (s.str.decrypt p).1 = c.password)
    (hid : s.str.isCipher c.id = false) (hne : c.id ≠ "") :
    Config.load s genId (some (Config.serialize { c with encId := "", password := p })) =
      ({ c with encId := "" }, true) := by
  obtain ⟨he, he'⟩ := hs.1.decrypt_plain "" (hs.1.empty_not_cipher "" rfl)
  have hi := (hs.1.decrypt_plain c.id hid).2
  rcases hd : s.str.decrypt "" with ⟨e, enc, st⟩
  rcases hpd : s.str.decrypt p with ⟨p', pe, pst⟩
  rw [hd] at he he'
  rw [hpd] at hp
  dsimp only at he he' hp
  subst he he' hp
  simp [Config.load, loadPath, Config.deserialize_serialize, hd, hpd, hne, hi]

structure Socks5Server where
  proxy : String
  username : String
  password : String
  deriving DecidableEq

structure Config2 where
  rendezvousServer : String
  natType : I32
  serial : I32
  unlockPin : String
  trustedDevices : String
  socks : Option Socks5Server
  options : StrMap String
  deriving DecidableEq

def Config2.default : Config2 := ⟨"", 0, 0, "", "", none, ∅⟩

/-- The derived `PartialEq`: field by field, maps compared by their entries. -/
def Config2.same (a b : Config2) : Bool :=
  a.rendezvousServer == b.rendezvousServer && a.natType == b.natType &&
    a.serial == b.serial && a.unlockPin == b.unlockPin &&
    a.trustedDevices == b.trustedDevices && a.socks == b.socks &&
    decide (a.options.toFinmap = b.options.toFinmap)

def Socks5Server.deserialize : Decoder Socks5Server :=
  Decoder.defaultedStruct 3 fun get => {
    proxy := fieldFrom get "proxy" 0 "" deserializeString
    username := fieldFrom get "username" 1 "" deserializeString
    password := fieldFrom get "password" 2 "" deserializeString }

def Socks5Server.serialize (x : Socks5Server) : Value :=
  .table [("proxy", Encoder.string x.proxy), ("username", Encoder.string x.username),
    ("password", Encoder.string x.password)]

theorem Socks5Server.deserialize_serialize (x : Socks5Server) :
    Socks5Server.deserialize x.serialize = some x := by
  simp [Socks5Server.deserialize, Decoder.defaultedStruct, Socks5Server.serialize, fieldFrom,
    Table.get?_cons]

/-- `socks` is an `Option` without `deserialize_with` -/
def Config2.deserialize (t : Table) : Option Config2 := do
  let socks ← field t "socks" none fun v => (Socks5Server.deserialize v).map some
  pure {
    rendezvousServer := fieldWith t "rendezvous_server" "" deserializeString
    natType := fieldWith t "nat_type" 0 deserializeI32
    serial := fieldWith t "serial" 0 deserializeI32
    unlockPin := fieldWith t "unlock_pin" "" deserializeString
    trustedDevices := fieldWith t "trusted_devices" "" deserializeString
    socks
    options := fieldWith t "options" ∅ deserializeHashmapStringString }

/-- A `None` is not written. -/
def Config2.serialize (c : Config2) : Table :=
  [("rendezvous_server", Encoder.string c.rendezvousServer),
    ("nat_type", Encoder.i32 c.natType), ("serial", Encoder.i32 c.serial),
    ("unlock_pin", Encoder.string c.unlockPin),
    ("trusted_devices", Encoder.string c.trustedDevices)] ++
  (match c.socks with
    | none => []
    | some x => [("socks", x.serialize)]) ++
  [("options", Encoder.hashMap Encoder.string c.options)]

theorem Config2.deserialize_serialize (c : Config2) :
    Config2.deserialize c.serialize = some c := by
  obtain ⟨r, n, sr, u, td, socks, o⟩ := c
  cases socks <;>
    simp [Config2.deserialize, Config2.serialize, field, fieldWith, Table.get?_cons,
      Socks5Server.deserialize_serialize]

/-- `Config2::load`: the socks password and the unlock pin are decrypted. -/
def Config2.load (s : SecretLayer) (file : Option Table) : Config2 × Bool :=
  let config := loadPath Config2.default Config2.deserialize file
  let (socks, store) := match config.socks with
    | some socks =>
      let (password, _, store2) := s.str.decrypt socks.password
      (some { socks with password }, store2)
    | none => (none, false)
  let (unlockPin, _, store2) := s.str.decrypt config.unlockPin
  ({ config with socks, unlockPin }, store || store2)

/-- What `Config2::store` writes. -/
def Config2.store (s : SecretLayer) (c : Config2) : Table :=
  Config2.serialize { c with
    socks := c.socks.map fun x => { x with password := s.str.encrypt x.password encryptMaxLen }
    unlockPin := s.str.encrypt c.unlockPin encryptMaxLen }

/-- The sensitive values of a `Config2` are plaintexts. -/
def Config2.Plain (s : SecretLayer) (c : Config2) : Prop :=
  s.str.isCipher c.unlockPin = false ∧ ∀ x ∈ c.socks, s.str.isCipher x.password = false

theorem Config2.load_store (s : SecretLayer) (hs : s.Lawful) (c : Config2)
    (hc : c.Plain s) : (Config2.load s (some (Config2.store s c))).1 = c := by
  obtain ⟨r, n, sr, u, td, socks, o⟩ := c
  obtain ⟨hu, hx⟩ := hc
  have hpin := hs.1.decrypt_stored u encryptMaxLen hu
  cases socks with
  | none =>
    simp only [Config2.load, Config2.store, loadPath, Config2.deserialize_serialize]
    simp [hpin]
  | some x =>
    have hpx := hs.1.decrypt_stored x.password encryptMaxLen (hx x rfl)
    simp only [Config2.load, Config2.store, loadPath, Config2.deserialize_serialize]
    simp [hpin, hpx]

theorem Config.records_survive_store (s : SecretLayer) (hs : s.Lawful)
    (genId : Nat → Option String) (c : Config) (hpw : s.str.isCipher c.password = false)
    (hid : s.str.isCipher c.id = false) (hne : c.id ≠ "")
    (hlen : c.id.utf8ByteSize ≤ encryptMaxLen) (p : String) (hp : (s.str.decrypt p).1 = c.password)
    (c2 : Config2) (hc2 : c2.Plain s) :
    (Config.load s genId (some (Config.store s c))).1 =
        { c with encId := s.str.encrypt c.id encryptMaxLen } ∧
      Config.load s genId (some (Config.serialize { c with encId := "", password := p })) =
        ({ c with encId := "" }, true) ∧
      (Config.load s genId (some (Config.store s { c with encId := "" }))).1 =
        { c with encId := s.str.encrypt c.id encryptMaxLen } ∧
      (Config2.load s (some (Config2.store s c2))).1 = c2 :=
  ⟨Config.load_store s hs genId c hpw hid hlen, Config.load_legacy s hs genId c p hp hid hne,
    Config.load_store s hs genId { c with encId := "" } hpw hid hlen,
    Config2.load_store s hs c2 hc2⟩

def sampleConfig : Config := { Config.default with id := "123456789", password := "pw" }

/-- A `Config2` with an unlock pin and a socks proxy with a password. -/
def sampleConfig2 : Config2 :=
  { Config2.default with unlockPin := "1234", socks := some ⟨"proxy", "user", "secret"⟩ }

theorem Config.records_survive_store_witness :
    (Config.load markLayer (fun _ => none) (some (Config.store markLayer sampleConfig))).1 =
        { sampleConfig with encId := markLayer.str.encrypt sampleConfig.id encryptMaxLen } ∧
      Config.load markLayer (fun _ => none)
          (some (Config.serialize { sampleConfig with encId := "", password := "pw" })) =
        ({ sampleConfig with encId := "" }, true) ∧
      (Config.load markLayer (fun _ => none)
          (some (Config.store markLayer { sampleConfig with encId := "" }))).1 =
        { sampleConfig with encId := markLayer.str.encrypt sampleConfig.id encryptMaxLen } ∧
      (Config2.load markLayer (some (Config2.store markLayer sampleConfig2))).1 = sampleConfig2 :=
  Config.records_survive_store markLayer markLayer_lawful _ sampleConfig (by decide) (by decide)
    (by decide) (by decide) "pw" (by decide) sampleConfig2
    ⟨by decide, fun x hx => by cases hx; decide⟩

/-- An id of 129 bytes. -/
def longIdConfig : Config := { Config.default with id := ⟨List.replicate 129 '1'⟩ }

theorem utf8ByteSize_replicate_one (n : Nat) :
    String.utf8ByteSize ⟨List.replicate n '1'⟩ = n := by
  induction n with
  | zero => rfl
  | succ n ih =>
    simp only [String.utf8ByteSize, List.replicate_succ, String.utf8ByteSize.go] at ih ⊢
    rw [ih]
    rfl

theorem Config.long_id_regenerated :
    Config.load markLayer (fun _ => some "2") (some (Config.store markLayer longIdConfig)) =
      ({ longIdConfig with encId := longIdConfig.id, id := "2" }, true) := by
  have hlong : encryptMaxLen < longIdConfig.id.utf8ByteSize := by
    simp only [longIdConfig, utf8ByteSize_replicate_one, encryptMaxLen]
    omega
  have hplain : markLayer.str.isCipher longIdConfig.id = false := by decide
  have hpw := markLayer_lawful.1.decrypt_encrypt longIdConfig.password encryptMaxLen
    (by decide) (by decide)
  have hgen : (List.range 3).findSome? (fun _ => some "2") = some "2" := rfl
  simp [Config.load, Config.store, markLayer_lawful.1.encrypt_long _ _ hlong, loadPath,
    Config.deserialize_serialize, hpw, (markLayer_lawful.1.decrypt_plain _ hplain).2, hgen]

end HbbCommon
