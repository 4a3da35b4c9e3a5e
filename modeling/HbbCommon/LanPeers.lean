import HbbCommon.Toml
/-! The LAN discovery list, kept in the `_lan_peers` file: `DiscoveryPeer`, `LanPeers`, and
`LanPeers::load` and `LanPeers::store`. The file holds no secret, so nothing is encrypted. Every
field of a peer is tolerant, but the list as a whole is read by `deserialize_default`: one entry
that no peer decodes from, such as a string or a number, costs every peer. -/

namespace HbbCommon

open Toml

structure DiscoveryPeer where
  id : String
  username : String
  hostname : String
  platform : String
  online : Bool
  ipMac : StrMap String
  deriving DecidableEq

/-- `DiscoveryPeer::is_same_peer` -/
def DiscoveryPeer.isSamePeer (a b : DiscoveryPeer) : Bool :=
  a.id == b.id && a.username == b.username

def DiscoveryPeer.deserialize : Decoder DiscoveryPeer :=
  Decoder.defaultedStruct 6 fun get => {
    id := fieldFrom get "id" 0 "" deserializeString
    username := fieldFrom get "username" 1 "" deserializeString
    hostname := fieldFrom get "hostname" 2 "" deserializeString
    platform := fieldFrom get "platform" 3 "" deserializeString
    online := fieldFrom get "online" 4 false deserializeBool
    ipMac := fieldFrom get "ip_mac" 5 ∅ deserializeHashmapStringString }

def DiscoveryPeer.serialize (p : DiscoveryPeer) : Value :=
  .table [("id", Encoder.string p.id), ("username", Encoder.string p.username),
    ("hostname", Encoder.string p.hostname), ("platform", Encoder.string p.platform),
    ("online", Encoder.bool p.online), ("ip_mac", Encoder.hashMap Encoder.string p.ipMac)]

theorem roundTrip_discoveryPeer : RoundTrip DiscoveryPeer.deserialize DiscoveryPeer.serialize :=
  fun _ => by
    simp [DiscoveryPeer.deserialize, Decoder.defaultedStruct, DiscoveryPeer.serialize, fieldFrom,
      Table.get?_cons]

def deserializeVecDiscoverypeer : Value → List DiscoveryPeer :=
  deserializeDefault (Decoder.vec DiscoveryPeer.deserialize) []

structure LanPeers where
  peers : List DiscoveryPeer
  deriving DecidableEq

def LanPeers.deserialize (t : Table) : Option LanPeers :=
  some ⟨fieldWith t "peers" [] deserializeVecDiscoverypeer⟩

def LanPeers.serialize (l : LanPeers) : Table :=
  [("peers", Encoder.vec DiscoveryPeer.serialize l.peers)]

/-- `LanPeers::load`: the `_lan_peers` file, or no peers when it is missing or does not decode. -/
def LanPeers.load (file : Option Table) : LanPeers :=
  loadPath ⟨[]⟩ LanPeers.deserialize file

/-- `LanPeers::store(peers)`: the table `store_path` writes to `_lan_peers`. -/
def LanPeers.store (peers : List DiscoveryPeer) : Table :=
  LanPeers.serialize ⟨peers⟩

theorem lan_peers_load_store (peers : List DiscoveryPeer) :
    (LanPeers.load (some (LanPeers.store peers))).peers = peers := by
  simp only [LanPeers.load, LanPeers.store, LanPeers.serialize, loadPath, LanPeers.deserialize,
    Option.getD_some, fieldWith, Table.get?_cons, if_true, deserializeVecDiscoverypeer,
    deserializeDefault_of_roundTrip (roundTrip_vec roundTrip_discoveryPeer)]

theorem mapM_eq_none_of_mem {α β : Type} (f : α → Option β) {l : List α} {x : α} (hx : x ∈ l)
    (h : f x = none) : l.mapM f = none := by
  induction l with
  | nil => cases hx
  | cons a l ih =>
    rw [List.mapM_cons]
    rcases List.mem_cons.mp hx with rfl | hx
    · rw [h]
      rfl
    · cases f a with
      | none => rfl
      | some b =>
        rw [ih hx]
        rfl

theorem lan_peers_scalar_entry_drops_all (t : Table) (items : List Value)
    (ht : t.get? "peers" = some (.array items)) (w : Value) (hw : w ∈ items)
    (hscalar : w.kind ∈ [Kind.string, .integer, .float, .boolean]) :
    (LanPeers.load (some t)).peers = [] := by
  have hnone : DiscoveryPeer.deserialize w = none :=
    defaultedStruct_eq_none _ _ w (by revert hscalar; cases w.kind <;> decide)
  simp only [LanPeers.load, loadPath, LanPeers.deserialize, Option.getD_some, fieldWith, ht,
    deserializeVecDiscoverypeer, deserializeDefault, Decoder.vec,
    mapM_eq_none_of_mem _ hw hnone, Option.getD_none]

theorem lan_peers_scalar_entry_drops_all_integer :
    Table.get? [("peers", .array [.table [("id", .string "a")], .integer 3])] "peers" =
        some (.array [.table [("id", .string "a")], .integer 3]) ∧
      Value.integer 3 ∈ [Value.table [("id", .string "a")], .integer 3] ∧
      (Value.integer 3).kind ∈ [Kind.string, .integer, .float, .boolean] ∧
      (LanPeers.load (some [("peers", .array [.table [("id", .string "a")], .integer 3])])).peers =
        [] :=
  ⟨rfl, List.mem_cons_of_mem _ (List.mem_singleton_self _), by decide,
    lan_peers_scalar_entry_drops_all _ _ rfl _ (List.mem_cons_of_mem _ (List.mem_singleton_self _))
      (by decide)⟩

example : (LanPeers.load (some [("peers", .array [.datetime "1979-05-27T07:32:00Z"])])).peers =
    [⟨"", "", "", "", false, ∅⟩] :=
  rfl

end HbbCommon
