import HbbCommon.PeerPath
/-! The peer files as a store: `PeerConfig::store`, `PeerConfig::remove`, `PeerConfig::exists`
and `PeerConfig::load`, each on the files under `PeerConfig::path(id)`, against a map from ids
to records. Over ids whose paths differ, and records the decoder gives back, every run of
these operations reads what the map says, the store `load` makes included. -/

namespace HbbCommon

open Toml Secret

/-- `PeerConfig::store(id)` -/
def PeerConfig.storeAt (s : SecretLayer) (now : Nat) (fs : Files) (id : String)
    (c : PeerConfig) : Files :=
  fs.insert (PeerConfig.path id) ⟨some (PeerConfig.store_ s c), now⟩

/-- `PeerConfig::remove(id)` -/
def PeerConfig.removeAt (fs : Files) (id : String) : Files := fs.erase (PeerConfig.path id)

/-- The operations on one peer's file. -/
inductive PeerOp where
  | store (id : String) (c : PeerConfig)
  | remove (id : String)
  | load (id : String)

def PeerOp.id : PeerOp → String
  | .store id _ | .remove id | .load id => id

/-- One operation at its time. -/
def PeerOp.step (s : SecretLayer) (d : PeerDefaults) (fs : Files) : PeerOp × Nat → Files
  | (.store id c, now) => PeerConfig.storeAt s now fs id c
  | (.remove id, _) => PeerConfig.removeAt fs id
  | (.load id, now) => (PeerConfig.loadAt s d now fs id).2

def PeerOp.run (s : SecretLayer) (d : PeerDefaults) (fs : Files) (ops : List (PeerOp × Nat)) :
    Files :=
  ops.foldl (PeerOp.step s d) fs

/-- What an operation does to the map from ids to records. -/
def PeerOp.abs (m : String → Option PeerConfig) : PeerOp → String → Option PeerConfig
  | .store id c => Function.update m id (some c)
  | .remove id => Function.update m id none
  | .load _ => m

def PeerOp.absRun (m : String → Option PeerConfig) (ops : List (PeerOp × Nat)) :
    String → Option PeerConfig :=
  ops.foldl (fun m x => PeerOp.abs m x.1) m

/-- An operation on one of `ids` that stores only records the decoder gives back. -/
def PeerOp.Fits (s : SecretLayer) (ids : List String) (op : PeerOp) : Prop :=
  op.id ∈ ids ∧ ∀ id c, op = .store id c → c.Decodable ∧ c.Plain s

/-- The peer files hold, at the path of each of `ids`, the stored form of the map's record. -/
structure PeerStore.Represents (s : SecretLayer) (ids : List String)
    (m : String → Option PeerConfig) (fs : Files) : Prop where
  file : ∀ id ∈ ids, (fs.lookup (PeerConfig.path id)).map (·.content) =
    (m id).map fun c => some (PeerConfig.store_ s c)
  good : ∀ id ∈ ids, ∀ c, m id = some c → c.Decodable ∧ c.Plain s

namespace PeerStore

variable {s : SecretLayer} {ids : List String} {m : String → Option PeerConfig} {fs : Files}

theorem Represents.update (h : Represents s ids m fs) {id : String} (r : Option PeerConfig)
    (fs' : Files) (hgood : ∀ c, r = some c → c.Decodable ∧ c.Plain s)
    (hat : (fs'.lookup (PeerConfig.path id)).map (·.content) =
      r.map fun c => some (PeerConfig.store_ s c))
    (hframe : ∀ id' ∈ ids, id' ≠ id → fs'.lookup (PeerConfig.path id') =
      fs.lookup (PeerConfig.path id')) :
    Represents s ids (Function.update m id r) fs' := by
  constructor
  · intro id' hid'
    by_cases he : id' = id
    · subst he
      rw [Function.update_same, hat]
    · rw [Function.update_noteq he, hframe id' hid' he, h.file id' hid']
  · intro id' hid' c hc
    by_cases he : id' = id
    · subst he
      exact hgood c (by rwa [Function.update_same] at hc)
    · exact h.good id' hid' c (by rwa [Function.update_noteq he] at hc)

variable (hinj : ∀ a ∈ ids, ∀ b ∈ ids, PeerConfig.path a = PeerConfig.path b → a = b)
include hinj

theorem path_ne {a b : String} (ha : a ∈ ids) (hb : b ∈ ids) (hne : a ≠ b) :
    PeerConfig.path a ≠ PeerConfig.path b :=
  fun h => hne (hinj a ha b hb h)

theorem Represents.storeAt (h : Represents s ids m fs) (now : Nat) {id : String}
    (hid : id ∈ ids) (c : PeerConfig) (hc : c.Decodable ∧ c.Plain s) :
    Represents s ids (Function.update m id (some c)) (PeerConfig.storeAt s now fs id c) :=
  h.update _ _ (fun _ he => Option.some.inj he ▸ hc)
    (by rw [PeerConfig.storeAt, AList.lookup_insert]; rfl)
    fun _ hid' hne => AList.lookup_insert_ne (path_ne hinj hid' hid hne)

theorem Represents.removeAt (h : Represents s ids m fs) {id : String} (hid : id ∈ ids) :
    Represents s ids (Function.update m id none) (PeerConfig.removeAt fs id) :=
  h.update _ _ (fun _ he => nomatch he) (by rw [PeerConfig.removeAt, AList.lookup_erase]; rfl)
    fun _ hid' hne => AList.lookup_erase_ne (path_ne hinj hid' hid hne)

theorem Represents.loadAt (hs : s.Lawful) (d : PeerDefaults) (h : Represents s ids m fs)
    (now : Nat) {id : String} (hid : id ∈ ids) :
    (PeerConfig.loadAt s d now fs id).1 = (m id).getD (PeerConfig.default d) ∧
      Represents s ids m (PeerConfig.loadAt s d now fs id).2 := by
  have hfile := h.file id hid
  rcases hm : m id with _ | c
  · rw [hm, Option.map_none', Option.map_eq_none'] at hfile
    have hread : fs.read (PeerConfig.path id) = none := by rw [Files.read, hfile]; rfl
    simp only [PeerConfig.loadAt, hread, PeerConfig.load, Option.none_bind, Bool.false_eq_true,
      if_false, Option.getD_none]
    exact ⟨trivial, h⟩
  · rw [hm, Option.map_some'] at hfile
    obtain ⟨e, he, hce⟩ := Option.map_eq_some'.mp hfile
    have hread : fs.read (PeerConfig.path id) = some (PeerConfig.store_ s c) := by
      rw [Files.read, he, Option.some_bind, hce]
    obtain ⟨hdec, hplain⟩ := h.good id hid c hm
    have hload := PeerConfig.load_store_fst s hs d c hdec hplain
    simp only [PeerConfig.loadAt, hread, hload, Option.getD_some]
    refine ⟨trivial, ?_⟩
    split
    · have h' := h.storeAt hinj now hid c ⟨hdec, hplain⟩
      rwa [← hm, Function.update_eq_self] at h'
    · exact h

theorem Represents.step (hs : s.Lawful) (d : PeerDefaults) (h : Represents s ids m fs)
    (x : PeerOp × Nat) (hx : x.1.Fits s ids) :
    Represents s ids (PeerOp.abs m x.1) (PeerOp.step s d fs x) := by
  obtain ⟨op, now⟩ := x
  obtain ⟨hid, hstore⟩ := hx
  cases op with
  | store id c => exact h.storeAt hinj now hid c (hstore id c rfl)
  | remove id => exact h.removeAt hinj hid
  | load id => exact (h.loadAt hinj hs d now hid).2

theorem Represents.run (hs : s.Lawful) (d : PeerDefaults) (h : Represents s ids m fs)
    (ops : List (PeerOp × Nat)) (hops : ∀ x ∈ ops, x.1.Fits s ids) :
    Represents s ids (PeerOp.absRun m ops) (PeerOp.run s d fs ops) := by
  induction ops generalizing m fs with
  | nil => exact h
  | cons x ops ih =>
    exact ih (h.step hinj hs d x (hops x (List.mem_cons_self _ _)))
      fun y hy => hops y (List.mem_cons_of_mem _ hy)

end PeerStore

end HbbCommon
