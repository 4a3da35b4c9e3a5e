import HbbCommon.Setters

/-! Persistence of the singletons `CONFIG`, `CONFIG2`, `LOCAL_CONFIG` and `STATUS`. Each public
mutating operation changes a singleton only inside a section under its write lock, and that
section ends with `store`. The reads an operation makes before its section (the checks of
`set_host_key_confirmed` and `Status::set`, the settings the option setters consult, the device
list the trusted-device operations compute) change no singleton, so any interleaving of
operations is a list of write sections, each with arguments computed from whatever those reads
saw. The runs below range over every such list. -/

namespace HbbCommon

open Toml Secret

/-- An in-memory singleton, its loaded value (ghost) and what `store` last wrote. -/
structure Singleton (α : Type) where
  value : α
  loaded : α
  file : Option Table

namespace Singleton

variable {α : Type} (enc : α → Table)

/-- `store`, which is assumed to succeed. -/
def store (e : Singleton α) : Singleton α := { e with file := some (enc e.value) }

/-- A write section -/
def write (e : Singleton α) : Option α → Singleton α
  | none => e
  | some v => store enc { e with value := v }

@[simp] theorem write_value (e : Singleton α) (r : Option α) :
    (write enc e r).value = r.getD e.value := by
  cases r <;> rfl

/-- The file holds the singleton, or nothing was written and it is still the loaded value. -/
def Synced (e : Singleton α) : Prop :=
  e.file = some (enc e.value) ∨ e.file = none ∧ e.value = e.loaded

theorem synced_store (e : Singleton α) : (store enc e).Synced enc := .inl rfl

theorem synced_write {e : Singleton α} (h : e.Synced enc) (r : Option α) :
    (write enc e r).Synced enc := by
  cases r with
  | none => exact h
  | some v => exact synced_store enc _

/-- The singleton freshly loaded, stored back when its load asks for it. -/
def load (v : α) (storeBack : Bool) : Singleton α :=
  if storeBack then store enc ⟨v, v, none⟩ else ⟨v, v, none⟩

theorem synced_load (v : α) (storeBack : Bool) : (load enc v storeBack).Synced enc := by
  unfold load
  split
  · exact synced_store enc _
  · exact .inr ⟨rfl, rfl⟩

@[simp] theorem load_value (v : α) (storeBack : Bool) : (load enc v storeBack).value = v := by
  unfold load
  split <;> rfl

@[simp] theorem load_loaded (v : α) (storeBack : Bool) : (load enc v storeBack).loaded = v := by
  unfold load
  split <;> rfl

/-- Loading from the file, or from `orig` while nothing has been written, gives the singleton. -/
def Reloads (dec : Option Table → α) (orig : Option Table) (e : Singleton α) : Prop :=
  dec (e.file.or orig) = e.value

theorem reloads_write {dec : Option Table → α} (hdec : ∀ v, dec (some (enc v)) = v)
    {orig : Option Table} {e : Singleton α} (h : e.Reloads dec orig) (r : Option α) :
    (write enc e r).Reloads dec orig := by
  cases r with
  | none => exact h
  | some v => exact hdec v

end Singleton

structure Singletons where
  config : Singleton Config
  config2 : Singleton Config2
  localConfig : Singleton LocalConfig
  status : Singleton Status

/-- The four singletons as the program starts -/
def Singletons.load (s : SecretLayer) (genId : Nat → Option String)
    (config config2 localConfig status : Option Table) : Singletons :=
  let (c, store) := Config.load s genId config
  let (c2, store2) := Config2.load s config2
  ⟨Singleton.load (Config.store s) c store, Singleton.load (Config2.store s) c2 store2,
    Singleton.load LocalConfig.serialize
      (loadPath LocalConfig.default LocalConfig.deserialize localConfig) false,
    Singleton.load Status.serialize (loadPath Status.default Status.deserialize status) false⟩

/-- One write section, named after the operation that runs it. -/
inductive Section where
  | setId (id : String)
  | setKeyConfirmed (v : Bool)
  | setHostKeyConfirmed (host : String) (v : Bool)
  | setPermanentPassword (password : String)
  | setSalt (salt : String)
  | set (cfg : Config)
  | setKeyPair (keyPair : KeyPair)
  | setNatType (natType : I32)
  | setSerial (serial : I32)
  | setOption (k v : String)
  | setOptions (v : StrMap String)
  | setSocks (socks : Option Socks5Server)
  | setUnlockPin (pin : String)
  | updateLatency (host : String)
  | setTrustedDevices (sealed : String)
  | setConfig2 (cfg : Config2)
  | setKbLayoutType (kbLayoutType : String)
  | setSize (x y w h : I32)
  | setRemoteId (remoteId : String)
  | setFav (fav : List String)
  | setLocalOption (k v : String)
  | setFlutterOption (k v : String)
  | setStatus (k v : String)

namespace Singletons

variable (s : SecretLayer) (σ : Settings)

def writeConfig (st : Singletons) (r : Option Config) : Singletons :=
  { st with config := st.config.write (Config.store s) r }

def writeConfig2 (st : Singletons) (r : Option Config2) : Singletons :=
  { st with config2 := st.config2.write (Config2.store s) r }

def writeLocalConfig (st : Singletons) (r : Option LocalConfig) : Singletons :=
  { st with localConfig := st.localConfig.write LocalConfig.serialize r }

def writeStatus (st : Singletons) (r : Option Status) : Singletons :=
  { st with status := st.status.write Status.serialize r }

/-- The section on the singletons. -/
def apply (st : Singletons) : Section → Singletons
  | .setId id => st.writeConfig s (Config.setId st.config.value id)
  | .setKeyConfirmed v => st.writeConfig s (Config.setKeyConfirmed st.config.value v)
  | .setHostKeyConfirmed host v =>
    st.writeConfig s (some (Config.confirmHostKey st.config.value host v))
  | .setPermanentPassword password =>
    st.writeConfig s (Config.setPermanentPassword σ st.config.value password)
  | .setSalt salt => st.writeConfig s (Config.setSalt st.config.value salt)
  | .set cfg => st.writeConfig s (Config.set st.config.value cfg)
  | .setKeyPair keyPair => st.writeConfig s (some (Config.setKeyPair st.config.value keyPair))
  | .setNatType natType => st.writeConfig2 s (Config.setNatType st.config2.value natType)
  | .setSerial serial => st.writeConfig2 s (Config.setSerial st.config2.value serial)
  | .setOption k v => st.writeConfig2 s (Config.setOption σ st.config2.value k v)
  | .setOptions v => st.writeConfig2 s (Config.setOptions σ st.config2.value v)
  | .setSocks socks => st.writeConfig2 s (Config.setSocks σ st.config2.value socks)
  | .setUnlockPin pin => st.writeConfig2 s (Config.setUnlockPin st.config2.value pin)
  | .updateLatency host => st.writeConfig2 s (Config.setRendezvousServer st.config2.value host)
  | .setTrustedDevices sealed =>
    st.writeConfig2 s (some { st.config2.value with trustedDevices := sealed })
  | .setConfig2 cfg => st.writeConfig2 s (Config2.set st.config2.value cfg)
  | .setKbLayoutType kbLayoutType =>
    st.writeLocalConfig (some (LocalConfig.setKbLayoutType st.localConfig.value kbLayoutType))
  | .setSize x y w h => st.writeLocalConfig (LocalConfig.setSize st.localConfig.value x y w h)
  | .setRemoteId remoteId =>
    st.writeLocalConfig (LocalConfig.setRemoteId st.localConfig.value remoteId)
  | .setFav fav => st.writeLocalConfig (LocalConfig.setFav st.localConfig.value fav)
  | .setLocalOption k v => st.writeLocalConfig (LocalConfig.setOption σ st.localConfig.value k v)
  | .setFlutterOption k v =>
    st.writeLocalConfig (LocalConfig.setFlutterOption st.localConfig.value k v)
  | .setStatus k v => st.writeStatus (some (st.status.value.insertValue k v))

def run (st : Singletons) (sections : List Section) : Singletons :=
  sections.foldl (apply s σ) st

theorem run_view {β : Type} (view : Singletons → β) (step : β → Section → β)
    (h : ∀ st sec, view (st.apply s σ sec) = step (view st) sec) (st : Singletons)
    (sections : List Section) : view (st.run s σ sections) = sections.foldl step (view st) := by
  induction sections generalizing st with
  | nil => rfl
  | cons sec rest ih => exact (ih _).trans (congrArg (fun x => rest.foldl step x) (h st sec))

/-- Every entity's file agrees with its singleton. -/
structure Synced (st : Singletons) : Prop where
  config : st.config.Synced (Config.store s)
  config2 : st.config2.Synced (Config2.store s)
  localConfig : st.localConfig.Synced LocalConfig.serialize
  status : st.status.Synced Status.serialize

theorem apply_cases (st : Singletons) (sec : Section) :
    (∃ r, st.apply s σ sec = st.writeConfig s r) ∨
      (∃ r, st.apply s σ sec = st.writeConfig2 s r) ∨
      (∃ r, st.apply s σ sec = st.writeLocalConfig r) ∨
      (∃ r, st.apply s σ sec = st.writeStatus r) := by
  cases sec <;>
    first
    | exact .inl ⟨_, rfl⟩
    | exact .inr (.inl ⟨_, rfl⟩)
    | exact .inr (.inr (.inl ⟨_, rfl⟩))
    | exact .inr (.inr (.inr ⟨_, rfl⟩))

variable {s} {st : Singletons}

theorem Synced.apply (h : st.Synced s) (sec : Section) : (st.apply s σ sec).Synced s := by
  rcases apply_cases s σ st sec with ⟨r, he⟩ | ⟨r, he⟩ | ⟨r, he⟩ | ⟨r, he⟩ <;> rw [he]
  · exact ⟨Singleton.synced_write _ h.config r, h.config2, h.localConfig, h.status⟩
  · exact ⟨h.config, Singleton.synced_write _ h.config2 r, h.localConfig, h.status⟩
  · exact ⟨h.config, h.config2, Singleton.synced_write _ h.localConfig r, h.status⟩
  · exact ⟨h.config, h.config2, h.localConfig, Singleton.synced_write _ h.status r⟩

/-- Reloading `LOCAL_CONFIG` and `STATUS` gives the singletons back. -/
structure Reloads (localConfig status : Option Table) (st : Singletons) : Prop where
  localConfig :
    st.localConfig.Reloads (loadPath LocalConfig.default LocalConfig.deserialize) localConfig
  status : st.status.Reloads (loadPath Status.default Status.deserialize) status

theorem Reloads.apply {localConfig status : Option Table} (h : st.Reloads localConfig status)
    (sec : Section) : (st.apply s σ sec).Reloads localConfig status := by
  rcases apply_cases s σ st sec with ⟨r, he⟩ | ⟨r, he⟩ | ⟨r, he⟩ | ⟨r, he⟩ <;> rw [he]
  · exact ⟨h.localConfig, h.status⟩
  · exact ⟨h.localConfig, h.status⟩
  · refine ⟨Singleton.reloads_write _ (fun v => ?_) h.localConfig r, h.status⟩
    simp [loadPath, LocalConfig.deserialize_serialize]
  · refine ⟨h.localConfig, Singleton.reloads_write _ (fun v => ?_) h.status r⟩
    simp [loadPath, Status.deserialize_serialize]

theorem Reloads.run {localConfig status : Option Table} (h : st.Reloads localConfig status)
    (sections : List Section) : (st.run s σ sections).Reloads localConfig status := by
  induction sections generalizing st with
  | nil => exact h
  | cons sec rest ih => exact ih (h.apply σ sec)

theorem Synced.run (h : st.Synced s) (sections : List Section) :
    (st.run s σ sections).Synced s := by
  induction sections generalizing st with
  | nil => exact h
  | cons sec rest ih => exact ih (h.apply σ sec)

theorem synced_load (genId : Nat → Option String) (config config2 localConfig status : Option Table) :
    (Singletons.load s genId config config2 localConfig status).Synced s :=
  ⟨Singleton.synced_load _ _ _, Singleton.synced_load _ _ _, Singleton.synced_load _ _ _,
    Singleton.synced_load _ _ _⟩

theorem reloads_load (genId : Nat → Option String)
    (config config2 localConfig status : Option Table) :
    (Singletons.load s genId config config2 localConfig status).Reloads localConfig status :=
  ⟨rfl, rfl⟩

end Singletons

theorem every_mutation_persisted (s : SecretLayer) (σ : Settings) (genId : Nat → Option String)
    (config config2 localConfig status : Option Table) (sections : List Section) :
    ((Singletons.load s genId config config2 localConfig status).run s σ sections).Synced s :=
  (Singletons.synced_load genId config config2 localConfig status).run σ sections

theorem restart_reloads_local_records (s : SecretLayer) (σ : Settings)
    (genId : Nat → Option String) (config config2 localConfig status : Option Table)
    (sections : List Section) :
    loadPath LocalConfig.default LocalConfig.deserialize
        (((Singletons.load s genId config config2 localConfig status).run s σ
          sections).localConfig.file.or localConfig) =
      ((Singletons.load s genId config config2 localConfig status).run s σ
        sections).localConfig.value ∧
    loadPath Status.default Status.deserialize
        (((Singletons.load s genId config config2 localConfig status).run s σ
          sections).status.file.or status) =
      ((Singletons.load s genId config config2 localConfig status).run s σ sections).status.value :=
  let h := (Singletons.reloads_load (s := s) genId config config2 localConfig status).run σ sections
  ⟨h.localConfig, h.status⟩

/-- The secrets a write section puts into `CONFIG2` are plaintexts -/
def Section.PlainSecrets (s : SecretLayer) : Section → Prop
  | .setSocks socks => ∀ x ∈ socks, s.str.isCipher x.password = false
  | .setUnlockPin pin => s.str.isCipher pin = false
  | .setConfig2 cfg => cfg.Plain s
  | _ => True

namespace Singletons

variable {s : SecretLayer} (σ : Settings)

theorem plain_write {st : Singletons} {r : Option Config2} (hc : st.config2.value.Plain s)
    (hr : ∀ v, r = some v → v.Plain s) : (st.writeConfig2 s r).config2.value.Plain s := by
  cases r with
  | none => exact hc
  | some v => exact hr v rfl

theorem config2_plain_apply {st : Singletons} (h : st.config2.value.Plain s) (sec : Section)
    (hsec : sec.PlainSecrets s) : (st.apply s σ sec).config2.value.Plain s := by
  cases sec with
  | setNatType _ | setSerial _ | updateLatency _ =>
    refine plain_write h fun v hv => ?_
    rw [setIfChanged_eq_some hv]
    exact h
  | setUnlockPin pin =>
    refine plain_write h fun v hv => ?_
    rw [setIfChanged_eq_some hv]
    exact ⟨hsec, h.2⟩
  | setOption k v =>
    refine plain_write h fun c hc => ?_
    obtain ⟨_, -, rfl⟩ := Option.map_eq_some'.mp hc
    exact h
  | setOptions v =>
    refine plain_write h fun c hc => ?_
    simp only [Config.setOptions] at hc
    split at hc
    · cases hc
    · cases hc
      exact h
  | setSocks socks =>
    refine plain_write h fun c hc => ?_
    simp only [Config.setSocks] at hc
    split_ifs at hc
    cases hc
    exact ⟨h.1, hsec⟩
  | setTrustedDevices _ => exact h
  | setConfig2 cfg =>
    refine plain_write h fun c hc => ?_
    simp only [Config2.set] at hc
    split at hc
    · cases hc
    · cases hc
      exact hsec
  | _ => exact h

theorem config2_plain_run {st : Singletons} (h : st.config2.value.Plain s)
    (sections : List Section) (hsecs : ∀ sec ∈ sections, sec.PlainSecrets s) :
    (st.run s σ sections).config2.value.Plain s := by
  induction sections generalizing st with
  | nil => exact h
  | cons sec rest ih =>
    exact ih (config2_plain_apply σ h sec (hsecs sec (List.mem_cons_self _ _)))
      fun sec' hs => hsecs sec' (List.mem_cons_of_mem _ hs)

theorem config2_loaded_run (st : Singletons) (sections : List Section) :
    (st.run s σ sections).config2.loaded = st.config2.loaded := by
  refine (run_view s σ (·.config2.loaded) (fun x _ => x) (fun st sec => ?_) st sections).trans
    (List.foldl_fixed _)
  rcases apply_cases s σ st sec with ⟨r, he⟩ | ⟨r, he⟩ | ⟨r, he⟩ | ⟨r, he⟩ <;> rw [he]
  · rfl
  · cases r <;> rfl
  · rfl
  · rfl

end Singletons

theorem restart_reloads_config2 (s : SecretLayer) (hs : s.Lawful) (σ : Settings)
    (genId : Nat → Option String) (config config2 localConfig status : Option Table)
    (sections : List Section) (hload : (Config2.load s config2).1.Plain s)
    (hsecs : ∀ sec ∈ sections, sec.PlainSecrets s) :
    (Config2.load s (((Singletons.load s genId config config2 localConfig status).run s σ
        sections).config2.file.or config2)).1 =
      ((Singletons.load s genId config config2 localConfig status).run s σ
        sections).config2.value := by
  have hstart :
      (Singletons.load s genId config config2 localConfig status).config2.value.Plain s := by
    simpa [Singletons.load] using hload
  have hplain := Singletons.config2_plain_run σ hstart sections hsecs
  rcases ((Singletons.synced_load genId config config2 localConfig status).run σ
      sections).config2 with hf | ⟨hf, hv⟩
  · rw [hf]
    exact Config2.load_store s hs _ hplain
  · rw [hf, hv, Singletons.config2_loaded_run]
    simp [Singletons.load]

theorem restart_reloads_config2_pin_and_proxy :
    (Config2.load markLayer none).1.Plain markLayer ∧
      (∀ sec ∈ [Section.setUnlockPin "1234", .setSocks (some ⟨"proxy", "user", "pw"⟩)],
        sec.PlainSecrets markLayer) ∧
      (Config2.load markLayer (((Singletons.load markLayer (fun _ => none) none none none
          none).run markLayer Settings.empty
          [.setUnlockPin "1234", .setSocks (some ⟨"proxy", "user", "pw"⟩)]).config2.file.or
          none)).1 =
        ((Singletons.load markLayer (fun _ => none) none none none none).run markLayer
          Settings.empty [.setUnlockPin "1234", .setSocks (some ⟨"proxy", "user", "pw"⟩)]
          ).config2.value :=
  have hload : (Config2.load markLayer none).1.Plain markLayer := ⟨rfl, fun _ hx => nomatch hx⟩
  have hsecs : ∀ sec ∈ [Section.setUnlockPin "1234", .setSocks (some ⟨"proxy", "user", "pw"⟩)],
      sec.PlainSecrets markLayer := by
    simp only [List.mem_cons, List.mem_singleton, List.not_mem_nil, or_false]
    rintro sec (rfl | rfl)
    · rfl
    · rintro x hx
      cases hx
      rfl
  ⟨hload, hsecs, restart_reloads_config2 markLayer markLayer_lawful Settings.empty (fun _ => none)
    none none none none _ hload hsecs⟩

/-- The id and password are plaintexts, and the id fits in `ENCRYPT_MAX_LEN` bytes. -/
def Config.Plain (s : SecretLayer) (c : Config) : Prop :=
  s.str.isCipher c.password = false ∧ s.str.isCipher c.id = false ∧
    c.id.utf8ByteSize ≤ encryptMaxLen

/-- The ids and passwords a write section puts into `CONFIG` satisfy `Config.Plain`. -/
def Section.PlainIdentity (s : SecretLayer) : Section → Prop
  | .setId id => s.str.isCipher id = false ∧ id.utf8ByteSize ≤ encryptMaxLen
  | .setPermanentPassword password => s.str.isCipher password = false
  | .set cfg => cfg.Plain s
  | _ => True

namespace Singletons

variable {s : SecretLayer} (σ : Settings)

theorem config_plain_write {st : Singletons} {r : Option Config} (hc : st.config.value.Plain s)
    (hr : ∀ v, r = some v → v.Plain s) : (st.writeConfig s r).config.value.Plain s := by
  cases r with
  | none => exact hc
  | some v => exact hr v rfl

theorem config_plain_apply {st : Singletons} (h : st.config.value.Plain s) (sec : Section)
    (hsec : sec.PlainIdentity s) : (st.apply s σ sec).config.value.Plain s := by
  cases sec with
  | setId id =>
    refine config_plain_write h fun v hv => ?_
    rw [setIfChanged_eq_some hv]
    exact ⟨h.1, hsec⟩
  | setPermanentPassword password =>
    refine config_plain_write h fun v hv => ?_
    simp only [Config.setPermanentPassword] at hv
    split at hv
    · cases hv
    · rw [setIfChanged_eq_some hv]
      exact ⟨hsec, h.2⟩
  | setSalt salt =>
    refine config_plain_write h fun v hv => ?_
    rw [setIfChanged_eq_some hv]
    exact h
  | setKeyConfirmed b =>
    refine config_plain_write h fun v hv => ?_
    simp only [Config.setKeyConfirmed] at hv
    split at hv
    · cases hv
    · cases hv
      exact h
  | set cfg =>
    refine config_plain_write h fun v hv => ?_
    simp only [Config.set] at hv
    split at hv
    · cases hv
    · cases hv
      exact hsec
  | _ => exact h

theorem config_plain_run {st : Singletons} (h : st.config.value.Plain s)
    (sections : List Section) (hsecs : ∀ sec ∈ sections, sec.PlainIdentity s) :
    (st.run s σ sections).config.value.Plain s := by
  induction sections generalizing st with
  | nil => exact h
  | cons sec rest ih =>
    exact ih (config_plain_apply σ h sec (hsecs sec (List.mem_cons_self _ _)))
      fun sec' hs => hsecs sec' (List.mem_cons_of_mem _ hs)

theorem config_loaded_run (st : Singletons) (sections : List Section) :
    (st.run s σ sections).config.loaded = st.config.loaded := by
  refine (run_view s σ (·.config.loaded) (fun x _ => x) (fun st sec => ?_) st sections).trans
    (List.foldl_fixed _)
  rcases apply_cases s σ st sec with ⟨r, he⟩ | ⟨r, he⟩ | ⟨r, he⟩ | ⟨r, he⟩ <;> rw [he]
  · cases r <;> rfl
  · rfl
  · rfl
  · rfl

end Singletons

theorem restart_reloads_config (s : SecretLayer) (hs : s.Lawful) (σ : Settings)
    (genId : Nat → Option String) (config config2 localConfig status : Option Table)
    (sections : List Section) (hload : (Config.load s genId config).1.Plain s)
    (hsecs : ∀ sec ∈ sections, sec.PlainIdentity s) :
    { (Config.load s genId (((Singletons.load s genId config config2 localConfig status).run s σ
        sections).config.file.or config)).1 with
      encId := ((Singletons.load s genId config config2 localConfig status).run s σ
        sections).config.value.encId } =
      ((Singletons.load s genId config config2 localConfig status).run s σ sections).config.value := by
  have hstart :
      (Singletons.load s genId config config2 localConfig status).config.value.Plain s := by
    simpa [Singletons.load] using hload
  obtain ⟨hpw, hid, hlen⟩ := Singletons.config_plain_run σ hstart sections hsecs
  rcases ((Singletons.synced_load genId config config2 localConfig status).run σ
      sections).config with hf | ⟨hf, hv⟩
  · rw [hf, Option.or, Config.load_store s hs genId _ hpw hid hlen]
  · rw [hf, hv, Singletons.config_loaded_run]
    simp [Singletons.load]

theorem restart_reloads_config_new_id_and_password :
    (Config.load markLayer (fun _ => none) none).1.Plain markLayer ∧
      (∀ sec ∈ [Section.setId "123456789", .setPermanentPassword "secret"],
        sec.PlainIdentity markLayer) ∧
      { (Config.load markLayer (fun _ => none) (((Singletons.load markLayer (fun _ => none) none
          none none none).run markLayer Settings.empty
          [.setId "123456789", .setPermanentPassword "secret"]).config.file.or none)).1 with
        encId := ((Singletons.load markLayer (fun _ => none) none none none none).run markLayer
          Settings.empty [.setId "123456789", .setPermanentPassword "secret"]).config.value.encId } =
        ((Singletons.load markLayer (fun _ => none) none none none none).run markLayer
          Settings.empty [.setId "123456789", .setPermanentPassword "secret"]).config.value :=
  have hload : (Config.load markLayer (fun _ => none) none).1.Plain markLayer :=
    ⟨rfl, rfl, by decide⟩
  have hsecs : ∀ sec ∈ [Section.setId "123456789", .setPermanentPassword "secret"],
      sec.PlainIdentity markLayer := by
    simp only [List.mem_cons, List.mem_singleton, List.not_mem_nil, or_false]
    rintro sec (rfl | rfl)
    · exact ⟨rfl, by decide⟩
    · rfl
  ⟨hload, hsecs, restart_reloads_config markLayer markLayer_lawful Settings.empty (fun _ => none)
    none none none none _ hload hsecs⟩

end HbbCommon
