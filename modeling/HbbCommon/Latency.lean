import HbbCommon.Setters

/-! `Config::update_latency` as the three lock-protected sections of each call: the insert into
`ONLINE`, the scan of `ONLINE`, and the compare-and-store of `CONFIG2.rendezvous_server`. Any
number of calls interleave at that granularity, in the order a schedule of call indices gives. -/

namespace HbbCommon

open Toml

/-- `i64::MAX`, the delay the scan starts from. -/
def i64Max : Int := 2 ^ 63 - 1

/-- One entry of the scan: a positive delay below the best so far replaces it. -/
def scanStep (best : String × Int) (e : Sigma fun _ : String => Int) : String × Int :=
  if 0 < e.2 ∧ e.2 < best.2 then (e.1, e.2) else best

/-- The scan section -/
def scanOnline (online : StrMap Int) : String :=
  (online.entries.foldl scanStep ("", i64Max)).1

/-- Where a call stands -/
inductive LatencyPc where
  | insert
  | scan
  | store (host : String)
  | done
  deriving DecidableEq

structure LatencyCall where
  host : String
  latency : Int
  pc : LatencyPc
  deriving DecidableEq

structure LatencyState where
  online : StrMap Int
  config2 : Config2
  calls : List LatencyCall

/-- Call `i` runs its next section -/
def LatencyState.advance (st : LatencyState) (i : Nat) : LatencyState :=
  match st.calls.get? i with
  | none => st
  | some c =>
    match c.pc with
    | .insert =>
      { st with online := st.online.insert c.host c.latency,
                calls := st.calls.set i { c with pc := .scan } }
    | .scan =>
      let host := scanOnline st.online
      { st with calls := st.calls.set i { c with pc := if host = "" then .done else .store host } }
    | .store host =>
      { st with config2 := (Config.setRendezvousServer st.config2 host).getD st.config2,
                calls := st.calls.set i { c with pc := .done } }
    | .done => st

def LatencyState.run (st : LatencyState) (schedule : List Nat) : LatencyState :=
  schedule.foldl LatencyState.advance st

/-- `get_online_state`: the largest latency `ONLINE` holds, or `0` when it holds none. -/
def getOnlineState (online : StrMap Int) : Int :=
  ((online.entries.map (·.2)).max?).getD 0

/-- `Config::reset_online` -/
def LatencyState.resetOnline (st : LatencyState) : LatencyState := { st with online := ∅ }

/-- No call is between its insert and the end of its store. -/
def LatencyState.Quiescent (st : LatencyState) : Prop :=
  ∀ c ∈ st.calls, c.pc = .insert ∨ c.pc = .done

instance (st : LatencyState) : Decidable st.Quiescent :=
  inferInstanceAs (Decidable (∀ c ∈ st.calls, _))

/-- When `ONLINE` holds a positive latency, the stored server has the smallest one. -/
def LatencyState.ServerIsFastest (st : LatencyState) : Prop :=
  (∃ h l, st.online.lookup h = some l ∧ 0 < l) →
    ∃ l, st.online.lookup st.config2.rendezvousServer = some l ∧ 0 < l ∧
      ∀ h l', st.online.lookup h = some l' → 0 < l' → l ≤ l'

section Scan

theorem scanStep_cases (b : String × Int) (e : Sigma fun _ : String => Int) :
    (scanStep b e = (e.1, e.2) ∧ 0 < e.2 ∧ e.2 < b.2) ∨
      (scanStep b e = b ∧ ¬(0 < e.2 ∧ e.2 < b.2)) := by
  unfold scanStep
  split
  · exact .inl ⟨rfl, ‹_›⟩
  · exact .inr ⟨rfl, ‹_›⟩

theorem foldl_scanStep (es : List (Sigma fun _ : String => Int)) (b : String × Int) :
    (es.foldl scanStep b = b ∨ ⟨(es.foldl scanStep b).1, (es.foldl scanStep b).2⟩ ∈ es ∧
        0 < (es.foldl scanStep b).2 ∧ (es.foldl scanStep b).2 < b.2) ∧
      ∀ e ∈ es, 0 < e.2 → (es.foldl scanStep b).2 ≤ e.2 := by
  induction es generalizing b with
  | nil => simp
  | cons e es ih =>
    obtain ⟨hmem, hmin⟩ := ih (scanStep b e)
    have hle : (es.foldl scanStep (scanStep b e)).2 ≤ (scanStep b e).2 := by
      rcases hmem with h | h
      · exact le_of_eq (congrArg Prod.snd h)
      · exact h.2.2.le
    simp only [List.foldl_cons, List.mem_cons, forall_eq_or_imp]
    rcases scanStep_cases b e with ⟨hb, he0, heb⟩ | ⟨hb, he⟩
    · rw [hb] at hmem hle hmin ⊢
      dsimp only at hle
      refine ⟨.inr ?_, fun _ => hle, hmin⟩
      rcases hmem with h | h
      · rw [h]; exact ⟨.inl rfl, he0, heb⟩
      · exact ⟨.inr h.1, h.2.1, by dsimp only at h; omega⟩
    · rw [hb] at hmem hle hmin ⊢
      exact ⟨hmem.imp_right fun h => ⟨.inr h.1, h.2⟩, fun h => by omega, hmin⟩

theorem scanOnline_fastest (online : StrMap Int)
    (hmax : ∀ h l, online.lookup h = some l → l < i64Max)
    (hpos : ∃ h l, online.lookup h = some l ∧ 0 < l) :
    ∃ l, online.lookup (scanOnline online) = some l ∧ 0 < l ∧
      ∀ h l', online.lookup h = some l' → 0 < l' → l ≤ l' := by
  obtain ⟨hmem, hmin⟩ := foldl_scanStep online.entries ("", i64Max)
  obtain ⟨h, l, hl, hl0⟩ := hpos
  have hle := hmin ⟨h, l⟩ (AList.mem_lookup_iff.mp hl) hl0
  rcases hmem with he | ⟨he, hp, -⟩
  · have := hmax h l hl
    rw [he] at hle
    exact absurd hle (by dsimp only; omega)
  · exact ⟨_, AList.mem_lookup_iff.mpr he, hp,
      fun h' l' hl' hp' => hmin ⟨h', l'⟩ (AList.mem_lookup_iff.mp hl') hp'⟩

end Scan

section Sections

variable (st : LatencyState) (i : Nat) (c : LatencyCall) (hc : st.calls.get? i = some c)
include hc

theorem advance_insert (hpc : c.pc = .insert) :
    st.advance i = ⟨st.online.insert c.host c.latency, st.config2,
      st.calls.set i { c with pc := .scan }⟩ := by
  simp only [LatencyState.advance, hc, hpc]

theorem advance_scan (hpc : c.pc = .scan) :
    st.advance i = ⟨st.online, st.config2, st.calls.set i
      { c with pc := if scanOnline st.online = "" then .done else .store (scanOnline st.online) }⟩ := by
  simp only [LatencyState.advance, hc, hpc]

theorem advance_store (host : String) (hpc : c.pc = .store host) :
    st.advance i = ⟨st.online, { st.config2 with rendezvousServer := host },
      st.calls.set i { c with pc := .done }⟩ := by
  simp only [LatencyState.advance, hc, hpc, Config.setRendezvousServer, setIfChanged]
  split
  · next h => rw [Option.getD_none, h]
  · rfl

theorem advance_done (hpc : c.pc = .done) : st.advance i = st := by
  simp only [LatencyState.advance, hc, hpc]

end Sections

theorem run_alone (st : LatencyState) (i : Nat) (c : LatencyCall) (hc : st.calls.get? i = some c)
    (hpc : c.pc = .insert) :
    st.run [i, i, i] = ⟨st.online.insert c.host c.latency,
      if scanOnline (st.online.insert c.host c.latency) = "" then st.config2
      else { st.config2 with rendezvousServer := scanOnline (st.online.insert c.host c.latency) },
      st.calls.set i { c with pc := .done }⟩ := by
  have hlen : i < st.calls.length := (List.get?_eq_some.mp hc).1
  rw [LatencyState.run, List.foldl_cons, List.foldl_cons, List.foldl_cons, List.foldl_nil,
    advance_insert st i c hc hpc, advance_scan ⟨st.online.insert c.host c.latency, st.config2,
      st.calls.set i { c with pc := .scan }⟩ i { c with pc := .scan } (by simp [hlen]) rfl]
  dsimp only
  by_cases hs : scanOnline (st.online.insert c.host c.latency) = ""
  · rw [if_pos hs, if_pos hs, advance_done _ i { c with pc := .done } (by simp [hlen]) rfl]
    simp
  · set host := scanOnline (st.online.insert c.host c.latency)
    rw [if_neg hs, if_neg hs, advance_store _ i { c with pc := .store host } ?_ host rfl]
    · simp
    · simp [hlen]

theorem update_latency_alone_fastest (st : LatencyState) (i : Nat) (c : LatencyCall)
    (hc : st.calls.get? i = some c) (hpc : c.pc = .insert) (hhost : c.host ≠ "")
    (hkeys : ∀ h l, st.online.lookup h = some l → h ≠ "")
    (hmax : ∀ h l, (st.online.insert c.host c.latency).lookup h = some l → l < i64Max) :
    (st.run [i, i, i]).ServerIsFastest := by
  rw [run_alone st i c hc hpc]
  rintro hpos
  obtain ⟨l, hl, hl0, hmin⟩ := scanOnline_fastest _ hmax hpos
  have hne : scanOnline (st.online.insert c.host c.latency) ≠ "" := by
    by_cases hh : scanOnline (st.online.insert c.host c.latency) = c.host
    · rw [hh]; exact hhost
    · rw [AList.lookup_insert_ne hh] at hl; exact hkeys _ l hl
  rw [if_neg hne]
  exact ⟨l, hl, hl0, hmin⟩

/-- One call, `a` at 5 ms, over an empty `ONLINE`. -/
def oneCall : LatencyState := ⟨∅, Config2.default, [⟨"a", 5, .insert⟩]⟩

theorem update_latency_alone_fastest_witness : (oneCall.run [0, 0, 0]).ServerIsFastest :=
  update_latency_alone_fastest oneCall 0 ⟨"a", 5, .insert⟩ rfl rfl (by decide)
    (fun h l hl => by simp [oneCall] at hl)
    (fun h l hl => by
      by_cases hh : h = "a"
      · subst hh
        simp only [oneCall, AList.lookup_insert, Option.some.injEq] at hl
        subst hl
        decide
      · simp only [oneCall, AList.lookup_insert_ne hh, AList.lookup_empty] at hl
        cases hl)

/-- Two calls from an empty `ONLINE`: `a` at 20 ms and `b` at 10 ms. -/
def twoCalls : LatencyState :=
  ⟨∅, Config2.default, [⟨"a", 20, .insert⟩, ⟨"b", 10, .insert⟩]⟩

/-- One call that measured `i64::MAX`, over a stored server `s`. -/
def maxLatencyCall : LatencyState :=
  ⟨∅, { Config2.default with rendezvousServer := "s" }, [⟨"a", i64Max, .insert⟩]⟩

theorem update_latency_not_fastest :
    (twoCalls.run [0, 0, 1, 1, 1, 0]).Quiescent ∧
      (twoCalls.run [0, 0, 1, 1, 1, 0]).online.lookup "b" = some 10 ∧
      (twoCalls.run [0, 0, 1, 1, 1, 0]).online.lookup "a" = some 20 ∧
      (twoCalls.run [0, 0, 1, 1, 1, 0]).config2.rendezvousServer = "a" ∧
      (maxLatencyCall.run [0, 0]).Quiescent ∧
      (maxLatencyCall.run [0, 0]).online.lookup "a" = some i64Max ∧
      (maxLatencyCall.run [0, 0]).online.lookup
        (maxLatencyCall.run [0, 0]).config2.rendezvousServer = none := by
  decide

end HbbCommon
