import HbbCommon.Persist
/-! The values `CONFIG` fills on first use. `get_salt` and `get_id` read the field under the read
lock, generate a value with no lock held, and write it under the write lock: three steps that
calls interleave. `get_key_pair` runs its whole body under the mutex `KEY_PAIR` and leaves the
write-back of a generated pair to a thread it spawns, whose section is the `setKeyPair` write
section of the persistence model. -/

namespace HbbCommon

open Toml Secret

/-- Where a call of `get_salt` or `get_id` stands -/
inductive LazyPc where
  | read
  | write (v : String)
  | done (v : String)
  deriving DecidableEq

/-- A call, with what its generator gives it -/
structure LazyCall where
  gen : Option String
  pc : LazyPc
  deriving DecidableEq

structure LazyState where
  config : Singleton Config
  calls : List LazyCall

section Lazy

variable (s : SecretLayer) (get : Config → String) (set : Config → String → Option Config)

/-- Call `i` runs its next step -/
def LazyState.advance (st : LazyState) (i : Nat) : LazyState :=
  match st.calls.get? i with
  | none => st
  | some c =>
    match c.pc with
    | .read =>
      let v := get st.config.value
      let pc := if v = "" then (match c.gen with | some g => .write g | none => .done v)
        else .done v
      { st with calls := st.calls.set i { c with pc } }
    | .write v =>
      { config := st.config.write (Config.store s) (set st.config.value v),
        calls := st.calls.set i { c with pc := .done v } }
    | .done _ => st

def LazyState.run (st : LazyState) (schedule : List Nat) : LazyState :=
  schedule.foldl (LazyState.advance s get set) st

end Lazy

/-- `Config::get_salt`, step by step. -/
def getSalt (s : SecretLayer) : LazyState → Nat → LazyState :=
  LazyState.advance s Config.salt Config.setSalt

/-- `Config::get_id`, step by step. -/
def getId (s : SecretLayer) : LazyState → Nat → LazyState :=
  LazyState.advance s Config.id Config.setId

/-- Calls that have not yet run, one for each value a generator gives, on the record `config`. -/
def LazyState.start (config : Config) (gens : List (Option String)) : LazyState :=
  ⟨⟨config, config, none⟩, gens.map fun gen => ⟨gen, .read⟩⟩

section Serial

variable {s : SecretLayer} {get : Config → String} {set : Config → String → Option Config}

theorem LazyState.advance_get?_ne (st : LazyState) {i j : Nat} (h : j ≠ i) :
    (st.advance s get set j).calls.get? i = st.calls.get? i := by
  unfold LazyState.advance
  split
  · rfl
  · split <;> simp only [List.get?_eq_getElem?, List.getElem?_set_ne h]

theorem LazyState.run_get?_of_not_mem (st : LazyState) {i : Nat} (schedule : List Nat)
    (h : i ∉ schedule) : (st.run s get set schedule).calls.get? i = st.calls.get? i := by
  induction schedule generalizing st with
  | nil => rfl
  | cons j rest ih =>
    simp only [List.mem_cons, not_or] at h
    exact (ih _ h.2).trans (st.advance_get?_ne (Ne.symm h.1))

theorem LazyState.run_alone (st : LazyState) {i : Nat} {c : LazyCall} {g : String}
    (hc : st.calls.get? i = some c) (hpc : c.pc = .read) (hg : c.gen = some g) :
    st.run s get set [i, i] =
      if get st.config.value = "" then
        { config := st.config.write (Config.store s) (set st.config.value g),
          calls := st.calls.set i { c with pc := .done g } }
      else { st with calls := st.calls.set i { c with pc := .done (get st.config.value) } } := by
  have hi : i < st.calls.length := by
    rw [List.get?_eq_getElem?] at hc
    exact (List.getElem?_eq_some_iff.mp hc).1
  split
  · next hv =>
    simp only [LazyState.run, List.foldl, LazyState.advance, hc, hpc, hv, if_true, hg,
      List.get?_eq_getElem?, List.getElem?_set_self hi, List.set_set]
  · next hv =>
    simp only [LazyState.run, List.foldl, LazyState.advance, hc, hpc, hv, if_false,
      List.get?_eq_getElem?, List.getElem?_set_self hi]

theorem LazyState.run_alone_done (hset : ∀ c v, get ((set c v).getD c) = v) (st : LazyState)
    {i : Nat} {c : LazyCall} {g : String} (hc : st.calls.get? i = some c) (hpc : c.pc = .read)
    (hg : c.gen = some g) (hg₀ : g ≠ "") :
    get (st.run s get set [i, i]).config.value ≠ "" ∧
      (get st.config.value ≠ "" →
        get (st.run s get set [i, i]).config.value = get st.config.value) ∧
      ((st.run s get set [i, i]).calls.get? i).map LazyCall.pc =
        some (.done (get (st.run s get set [i, i]).config.value)) := by
  have hi : i < st.calls.length := by
    rw [List.get?_eq_getElem?] at hc
    exact (List.getElem?_eq_some_iff.mp hc).1
  rw [st.run_alone hc hpc hg]
  split
  · next hv =>
    simp only [Singleton.write_value, hset, List.get?_eq_getElem?, List.getElem?_set_self hi,
      Option.map_some']
    exact ⟨hg₀, fun h => absurd hv h, trivial⟩
  · next hv =>
    simp only [List.get?_eq_getElem?, List.getElem?_set_self hi, Option.map_some']
    exact ⟨hv, fun _ => trivial, trivial⟩

theorem LazyState.run_serial (hset : ∀ c v, get ((set c v).getD c) = v) (is : List Nat)
    (hnd : is.Nodup) (st : LazyState)
    (hread : ∀ i ∈ is, ∃ c g, st.calls.get? i = some c ∧ c.pc = .read ∧ c.gen = some g ∧ g ≠ "") :
    (∀ i ∈ is, ((st.run s get set (is.flatMap fun i => [i, i])).calls.get? i).map LazyCall.pc =
      some (.done (get (st.run s get set (is.flatMap fun i => [i, i])).config.value))) ∧
      (get st.config.value ≠ "" →
        get (st.run s get set (is.flatMap fun i => [i, i])).config.value = get st.config.value) := by
  induction is generalizing st with
  | nil => exact ⟨fun _ h => absurd h (List.not_mem_nil _), fun _ => rfl⟩
  | cons i rest ih =>
    obtain ⟨c, g, hc, hpc, hg, hg₀⟩ := hread i (List.mem_cons_self _ _)
    obtain ⟨hni, hnd⟩ := List.nodup_cons.mp hnd
    obtain ⟨hv₁, hkeep₁, hc₁⟩ := st.run_alone_done hset hc hpc hg hg₀
    have hread₁ : ∀ j ∈ rest, ∃ c g, (st.run s get set [i, i]).calls.get? j = some c ∧
        c.pc = .read ∧ c.gen = some g ∧ g ≠ "" := fun j hj => by
      rw [st.run_get?_of_not_mem [i, i] (by simpa using fun h : j = i => hni (h ▸ hj))]
      exact hread j (List.mem_cons_of_mem _ hj)
    obtain ⟨hrest, hval⟩ := ih hnd _ hread₁
    have hrun : st.run s get set ((i :: rest).flatMap fun i => [i, i]) =
        (st.run s get set [i, i]).run s get set (rest.flatMap fun i => [i, i]) := by
      rw [List.flatMap_cons, LazyState.run, LazyState.run, LazyState.run, List.foldl_append]
    rw [hrun]
    refine ⟨fun j hj => ?_, fun hv => (hval hv₁).trans (hkeep₁ hv)⟩
    rcases List.mem_cons.mp hj with rfl | hj
    · rw [LazyState.run_get?_of_not_mem _ _ (by simpa using hni), hval hv₁]
      exact hc₁
    · exact hrest j hj

end Serial

theorem get_salt_get_id_race :
    (LazyState.run markLayer Config.salt Config.setSalt
        (LazyState.start Config.default [some "aaaaaa", some "bbbbbb"]) [0, 1, 0, 1]).calls.map
        LazyCall.pc = [.done "aaaaaa", .done "bbbbbb"] ∧
      (LazyState.run markLayer Config.salt Config.setSalt
        (LazyState.start Config.default [some "aaaaaa", some "bbbbbb"]) [0, 1, 0, 1]).config.value.salt =
        "bbbbbb" ∧
      (LazyState.run markLayer Config.id Config.setId
        (LazyState.start Config.default [some "111111111", some "222222222"]) [0, 1, 0, 1]).calls.map
        LazyCall.pc = [.done "111111111", .done "222222222"] ∧
      (LazyState.run markLayer Config.id Config.setId
        (LazyState.start Config.default [some "111111111", some "222222222"]) [0, 1, 0, 1]).config.value.id =
        "222222222" := by
  decide

theorem get_salt_get_id_serial (s : SecretLayer) (st : LazyState) (is : List Nat)
    (hnd : is.Nodup)
    (hread : ∀ i ∈ is, ∃ c g, st.calls.get? i = some c ∧ c.pc = .read ∧ c.gen = some g ∧ g ≠ "") :
    ((∀ i ∈ is, ((st.run s Config.salt Config.setSalt (is.flatMap fun i => [i, i])).calls.get?
        i).map LazyCall.pc = some (.done (st.run s Config.salt Config.setSalt
          (is.flatMap fun i => [i, i])).config.value.salt)) ∧
      (st.config.value.salt ≠ "" → (st.run s Config.salt Config.setSalt
        (is.flatMap fun i => [i, i])).config.value.salt = st.config.value.salt)) ∧
    ((∀ i ∈ is, ((st.run s Config.id Config.setId (is.flatMap fun i => [i, i])).calls.get?
        i).map LazyCall.pc = some (.done (st.run s Config.id Config.setId
          (is.flatMap fun i => [i, i])).config.value.id)) ∧
      (st.config.value.id ≠ "" → (st.run s Config.id Config.setId
        (is.flatMap fun i => [i, i])).config.value.id = st.config.value.id)) :=
  ⟨LazyState.run_serial (setIfChanged_getD fun _ _ => rfl) is hnd st hread,
    LazyState.run_serial (setIfChanged_getD fun _ _ => rfl) is hnd st hread⟩

theorem get_salt_get_id_serial_two :
    ((LazyState.run markLayer Config.salt Config.setSalt
        (LazyState.start Config.default [some "aaaaaa", some "bbbbbb"]) [0, 0, 1, 1]).calls.get?
        0).map LazyCall.pc = some (.done (LazyState.run markLayer Config.salt Config.setSalt
          (LazyState.start Config.default [some "aaaaaa", some "bbbbbb"]) [0, 0, 1, 1]).config.value.salt) ∧
      ((LazyState.run markLayer Config.salt Config.setSalt
        (LazyState.start Config.default [some "aaaaaa", some "bbbbbb"]) [0, 0, 1, 1]).calls.get?
        1).map LazyCall.pc = some (.done (LazyState.run markLayer Config.salt Config.setSalt
          (LazyState.start Config.default [some "aaaaaa", some "bbbbbb"]) [0, 0, 1, 1]).config.value.salt) :=
  have h := (get_salt_get_id_serial markLayer _ [0, 1] (by decide) fun i hi => by
    simp only [List.mem_cons, List.mem_singleton, List.not_mem_nil, or_false] at hi
    rcases hi with rfl | rfl <;> exact ⟨_, _, rfl, rfl, rfl, by decide⟩).1.1
  ⟨h 0 (by decide), h 1 (by decide)⟩

/-- The sections that leave `CONFIG.key_pair` alone -/
def Section.keepsKeyPair : Section → Bool
  | .set _ | .setKeyPair _ => false
  | _ => true

theorem Singletons.apply_keyPair (s : SecretLayer) (σ : Settings) (st : Singletons)
    (sec : Section) (h : sec.keepsKeyPair = true) :
    (st.apply s σ sec).config.value.keyPair = st.config.value.keyPair := by
  cases sec <;> simp only [Section.keepsKeyPair, Bool.false_eq_true] at h <;>
    simp only [Singletons.apply, Singletons.writeConfig, Singletons.writeConfig2,
      Singletons.writeLocalConfig, Singletons.writeStatus, Singleton.write_value,
      Config.setId, Config.setSalt, Config.setKeyConfirmed, Config.setPermanentPassword,
      setIfChanged] <;>
    first | rfl | (split_ifs <;> rfl)

/-- `KEY_PAIR`, the singletons, and the write-back threads spawned and not yet run -/
structure KeyPairState where
  singletons : Singletons
  slot : Option KeyPair
  pending : List KeyPair
  gens : Nat
  returned : List KeyPair

/-- A call of `get_key_pair`, with the pair `sign::gen_keypair` would give it -/
inductive KeyPairOp where
  | getKeyPair (gen : KeyPair)
  | writeBack (i : Nat)
  | write (sec : Section)

def KeyPairOp.keepsKeyPair : KeyPairOp → Bool
  | .write sec => sec.keepsKeyPair
  | _ => true

section KeyPair

variable (s : SecretLayer) (σ : Settings) (orig : Option Table)

/-- A call of `get_key_pair` runs whole under `KEY_PAIR`; a write-back is a `setKeyPair` section. -/
def KeyPairState.step (st : KeyPairState) : KeyPairOp → KeyPairState
  | .getKeyPair gen =>
    match st.slot with
    | some p => { st with returned := st.returned ++ [p] }
    | none =>
      let config := loadPath Config.default Config.deserialize (st.singletons.config.file.or orig)
      if config.keyPair.1.isEmpty then
        { st with slot := some gen, pending := st.pending ++ [gen], gens := st.gens + 1,
                  returned := st.returned ++ [gen] }
      else { st with slot := some config.keyPair, returned := st.returned ++ [config.keyPair] }
  | .writeBack i =>
    match st.pending.get? i with
    | none => st
    | some keyPair =>
      { st with singletons := st.singletons.apply s σ (.setKeyPair keyPair),
                pending := st.pending.eraseIdx i }
  | .write sec => { st with singletons := st.singletons.apply s σ sec }

def KeyPairState.run (st : KeyPairState) (ops : List KeyPairOp) : KeyPairState :=
  ops.foldl (KeyPairState.step s σ orig) st

/-- At most one generation, and every returned or pending pair is the cached one. -/
structure KeyPairState.Inv (st : KeyPairState) : Prop where
  gens_le : st.gens ≤ 1
  unset : st.slot = none → st.gens = 0 ∧ st.returned = []
  returned : ∀ p ∈ st.returned, st.slot = some p
  pending : ∀ p ∈ st.pending, st.slot = some p
  pending_le : st.pending.length ≤ st.gens
  written : st.gens = 1 → st.pending = [] → st.slot = some st.singletons.config.value.keyPair

variable {s σ orig}

theorem KeyPairState.Inv.getKeyPair {st : KeyPairState} (h : st.Inv) (gen : KeyPair) :
    (st.step s σ orig (.getKeyPair gen)).Inv := by
  rcases hp : st.slot with _ | p
  · obtain ⟨hg, hr⟩ := h.unset hp
    have hpend : st.pending = [] := List.eq_nil_of_length_eq_zero (by have := h.pending_le; omega)
    simp only [KeyPairState.step, hp]
    split
    · exact ⟨by dsimp only; omega, nofun, by simp [hr], by simp [hpend], by simp [hpend, hg],
        fun _ h' => by simp [hpend] at h'⟩
    · exact ⟨h.gens_le, nofun, by simp [hr], by simp [hpend], by simp [hpend],
        fun h' => by dsimp only at h'; omega⟩
  · simp only [KeyPairState.step, hp]
    refine ⟨h.gens_le, nofun, fun q hq => ?_, fun q hq => hp ▸ h.pending q hq, h.pending_le,
      fun hg hpend => hp ▸ h.written hg hpend⟩
    rcases List.mem_append.mp hq with hq | hq
    · exact hp ▸ h.returned q hq
    · rw [List.mem_singleton.mp hq]

theorem KeyPairState.Inv.writeBack {st : KeyPairState} (h : st.Inv) (i : Nat) :
    (st.step s σ orig (.writeBack i)).Inv := by
  rcases hk : st.pending.get? i with _ | keyPair
  · simp only [KeyPairState.step, hk]
    exact h
  · simp only [KeyPairState.step, hk]
    exact { h with
      pending := fun p hp => h.pending p (List.mem_of_mem_eraseIdx hp)
      pending_le := (List.length_eraseIdx_le _ _).trans h.pending_le
      written := fun _ _ => h.pending _ (List.get?_mem hk) }

theorem KeyPairState.Inv.write {st : KeyPairState} (h : st.Inv) (sec : Section)
    (hsec : sec.keepsKeyPair = true) : (st.step s σ orig (.write sec)).Inv := by
  refine { h with written := fun hg hp => ?_ }
  show st.slot = some (st.singletons.apply s σ sec).config.value.keyPair
  rw [Singletons.apply_keyPair s σ _ sec hsec]
  exact h.written hg hp

theorem KeyPairState.Inv.step {st : KeyPairState} (h : st.Inv) (op : KeyPairOp)
    (hop : op.keepsKeyPair = true) : (st.step s σ orig op).Inv := by
  cases op with
  | getKeyPair gen => exact h.getKeyPair gen
  | writeBack i => exact h.writeBack i
  | write sec => exact h.write sec hop

theorem KeyPairState.Inv.run {st : KeyPairState} (h : st.Inv) (ops : List KeyPairOp)
    (hops : ∀ op ∈ ops, op.keepsKeyPair = true) : (st.run s σ orig ops).Inv := by
  induction ops generalizing st with
  | nil => exact h
  | cons op rest ih =>
    exact ih (h.step op (hops op (List.mem_cons_self _ _)))
      fun op' hop' => hops op' (List.mem_cons_of_mem _ hop')

end KeyPair

/-- `KEY_PAIR` empty, no write-back thread spawned, nothing generated or returned yet. -/
def KeyPairState.start (singletons : Singletons) : KeyPairState := ⟨singletons, none, [], 0, []⟩

end HbbCommon
