import HbbCommon.Toml

/-! The records `LocalConfig`, `Status` and `UserDefaultConfig`: every field tolerant, all of
them written. -/

namespace HbbCommon

open Toml

structure LocalConfig where
  remoteId : String
  kbLayoutType : String
  size : Size
  fav : List String
  options : StrMap String
  uiFlutter : StrMap String
  deriving DecidableEq

def LocalConfig.default : LocalConfig := ⟨"", "", (0, 0, 0, 0), [], ∅, ∅⟩

def LocalConfig.deserialize (t : Table) : Option LocalConfig :=
  some {
    remoteId := fieldWith t "remote_id" "" deserializeString
    kbLayoutType := fieldWith t "kb_layout_type" "" deserializeString
    size := fieldWith t "size" (0, 0, 0, 0) deserializeSize
    fav := fieldWith t "fav" [] deserializeVecString
    options := fieldWith t "options" ∅ deserializeHashmapStringString
    uiFlutter := fieldWith t "ui_flutter" ∅ deserializeHashmapStringString }

def LocalConfig.serialize (c : LocalConfig) : Table :=
  [("remote_id", Encoder.string c.remoteId), ("kb_layout_type", Encoder.string c.kbLayoutType),
    ("size", Encoder.tuple4 Encoder.i32 c.size), ("fav", Encoder.vec Encoder.string c.fav),
    ("options", Encoder.hashMap Encoder.string c.options),
    ("ui_flutter", Encoder.hashMap Encoder.string c.uiFlutter)]

theorem LocalConfig.deserialize_serialize (c : LocalConfig) :
    LocalConfig.deserialize c.serialize = some c := by
  simp [LocalConfig.deserialize, LocalConfig.serialize, fieldWith, Table.get?_cons]

structure Status where
  values : StrMap String
  deriving DecidableEq

def Status.default : Status := ⟨∅⟩

def Status.deserialize (t : Table) : Option Status :=
  some ⟨fieldWith t "values" ∅ deserializeHashmapStringString⟩

def Status.serialize (st : Status) : Table := [("values", Encoder.hashMap Encoder.string st.values)]

theorem Status.deserialize_serialize (st : Status) : Status.deserialize st.serialize = some st := by
  simp [Status.deserialize, Status.serialize, fieldWith, Table.get?_cons]

structure UserDefaultConfig where
  options : StrMap String
  deriving DecidableEq

def UserDefaultConfig.deserialize (t : Table) : Option UserDefaultConfig :=
  some ⟨fieldWith t "options" ∅ deserializeHashmapStringString⟩

def UserDefaultConfig.serialize (u : UserDefaultConfig) : Table :=
  [("options", Encoder.hashMap Encoder.string u.options)]

theorem UserDefaultConfig.deserialize_serialize (u : UserDefaultConfig) :
    UserDefaultConfig.deserialize u.serialize = some u := by
  simp [UserDefaultConfig.deserialize, UserDefaultConfig.serialize, fieldWith, Table.get?_cons]

end HbbCommon
