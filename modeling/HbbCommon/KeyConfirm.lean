import HbbCommon.Persist
/-! The key confirmations of `CONFIG`: the flag `key_confirmed`, written by `set_key_confirmed`,
and the per-host map `keys_confirmed`, written by `set_host_key_confirmed` and read by
`get_host_key_confirmed`. Seen from one host, every write section acts on two bits, the flag and
that host's confirmation; the other sections, `Config::set` apart, leave both alone. Over any
interleaving of the operations, the last section that confirms or unconfirms the host decides
what `get_host_key_confirmed` says, and `set_key_confirmed(false)` unconfirms only when it finds
the flag set. -/

namespace HbbCommon

open Secret

/-- What one host sees of `CONFIG`: `key_confirmed`, and `get_host_key_confirmed(host)`. -/
structure HostKeyView where
  keyConfirmed : Bool
  hostConfirmed : Bool
  deriving DecidableEq

def HostKeyView.of (c : Config) (host : String) : HostKeyView :=
  ⟨c.keyConfirmed, Config.getHostKeyConfirmed c host⟩

@[simp] theorem HostKeyView.of_keyConfirmed (c : Config) (host : String) :
    (HostKeyView.of c host).keyConfirmed = c.keyConfirmed := rfl

@[simp] theorem HostKeyView.of_hostConfirmed (c : Config) (host : String) :
    (HostKeyView.of c host).hostConfirmed = Config.getHostKeyConfirmed c host := rfl

/-- A write section as one host sees it. -/
def Section.hostKeyStep (host : String) (v : HostKeyView) : Section → HostKeyView
  | .setKeyConfirmed b => if v.keyConfirmed = b then v else ⟨b, b && v.hostConfirmed⟩
  | .setHostKeyConfirmed h b => if h = host then { v with hostConfirmed := b } else v
  | .set cfg => HostKeyView.of cfg host
  | _ => v

def Section.hostKeyRun (host : String) (v : HostKeyView) (sections : List Section) :
    HostKeyView :=
  sections.foldl (Section.hostKeyStep host) v

/-- The sections after which the host's key is confirmed, whatever came before. -/
def Section.Confirms (host : String) : Section → Bool
  | .setHostKeyConfirmed h b => h == host && b
  | .set cfg => Config.getHostKeyConfirmed cfg host
  | _ => false

/-- The sections after which the host's key is not confirmed, given the flag they find. -/
def Section.Unconfirms (host : String) (keyConfirmed : Bool) : Section → Bool
  | .setKeyConfirmed b => keyConfirmed && !b
  | .setHostKeyConfirmed h b => h == host && !b
  | .set cfg => !Config.getHostKeyConfirmed cfg host
  | _ => false

theorem Section.confirms_eq_false_of_unconfirms {host : String} {b : Bool} {sec : Section}
    (h : sec.Unconfirms host b = true) : sec.Confirms host = false := by
  cases sec <;> simp_all [Section.Unconfirms, Section.Confirms]

namespace HostKeyView

variable {host : String}

theorem hostKeyStep_hostConfirmed (v : HostKeyView) (sec : Section) :
    (sec.hostKeyStep host v).hostConfirmed =
      if sec.Confirms host then true
      else if sec.Unconfirms host v.keyConfirmed then false else v.hostConfirmed := by
  cases sec with
  | setKeyConfirmed b =>
    simp only [Section.hostKeyStep, Section.Confirms, Section.Unconfirms]
    cases v.keyConfirmed <;> cases b <;> simp
  | setHostKeyConfirmed h b =>
    simp only [Section.hostKeyStep, Section.Confirms, Section.Unconfirms]
    by_cases hh : h = host <;> cases b <;> simp [hh]
  | set cfg =>
    simp only [Section.hostKeyStep, Section.Confirms, Section.Unconfirms, HostKeyView.of]
    by_cases h : Config.getHostKeyConfirmed cfg host <;> simp [h]
  | _ => rfl

theorem hostKeyRun_unconfirmed (v : HostKeyView) (hv : v.hostConfirmed = false)
    (sections : List Section) (h : ∀ sec ∈ sections, sec.Confirms host = false) :
    (Section.hostKeyRun host v sections).hostConfirmed = false := by
  induction sections generalizing v with
  | nil => exact hv
  | cons sec rest ih =>
    refine ih _ ?_ fun sec' hs => h sec' (List.mem_cons_of_mem _ hs)
    rw [hostKeyStep_hostConfirmed, h sec (List.mem_cons_self _ _), hv]
    simp

theorem hostKeyRun_confirmed (v : HostKeyView) (hv : v.hostConfirmed = true)
    (sections : List Section)
    (h : ∀ i : Fin sections.length, (sections.get i).Unconfirms host
      (Section.hostKeyRun host v (sections.take i)).keyConfirmed = false) :
    (Section.hostKeyRun host v sections).hostConfirmed = true := by
  induction sections generalizing v with
  | nil => exact hv
  | cons sec rest ih =>
    have h0 : sec.Unconfirms host v.keyConfirmed = false := h ⟨0, Nat.succ_pos _⟩
    refine ih _ ?_ fun i => h i.succ
    rw [hostKeyStep_hostConfirmed, hv, h0]
    simp

theorem of_of_same {c cfg : Config} (h : c.same cfg = true) : of c host = of cfg host := by
  simp only [Config.same, Bool.and_eq_true, beq_iff_eq, decide_eq_true_eq] at h
  have hlookup := congrArg (Finmap.lookup host) h.2
  rw [Finmap.lookup_toFinmap, Finmap.lookup_toFinmap] at hlookup
  simp only [of, Config.getHostKeyConfirmed, h.1.2, hlookup]

variable (s : SecretLayer) (σ : Settings)

theorem of_apply (st : Singletons) (sec : Section) :
    of (st.apply s σ sec).config.value host = sec.hostKeyStep host (of st.config.value host) := by
  cases sec with
  | setId _ | setSalt _ =>
    simp only [Singletons.apply, Singletons.writeConfig, Singleton.write_value]
    refine setIfChanged_frame (of · host) ?_ _ _
    exact fun _ _ => rfl
  | setPermanentPassword password =>
    simp only [Singletons.apply, Singletons.writeConfig, Singleton.write_value,
      Config.setPermanentPassword]
    split
    · rfl
    · refine setIfChanged_frame (of · host) ?_ _ _
      exact fun _ _ => rfl
  | setKeyConfirmed b =>
    simp only [Singletons.apply, Singletons.writeConfig, Singleton.write_value,
      Config.setKeyConfirmed, Section.hostKeyStep, of]
    split
    · rfl
    · cases b <;> simp [Config.getHostKeyConfirmed]
  | setHostKeyConfirmed h b =>
    simp only [Singletons.apply, Singletons.writeConfig, Singleton.write_value,
      Option.getD_some, Config.confirmHostKey, Section.hostKeyStep, of, Config.getHostKeyConfirmed]
    by_cases hh : h = host
    · subst hh
      simp [AList.lookup_insert]
    · simp [hh, AList.lookup_insert_ne (Ne.symm hh)]
  | set cfg =>
    simp only [Singletons.apply, Singletons.writeConfig, Singleton.write_value, Config.set,
      Section.hostKeyStep]
    split
    · next hsame => exact of_of_same hsame
    · rfl
  | _ => rfl

theorem of_run (st : Singletons) (sections : List Section) :
    of (st.run s σ sections).config.value host =
      Section.hostKeyRun host (of st.config.value host) sections :=
  Singletons.run_view s σ (of ·.config.value host) _ (of_apply s σ) st sections

theorem of_run_append_cons (st : Singletons) (pre : List Section) (sec : Section)
    (post : List Section) :
    of (st.run s σ (pre ++ sec :: post)).config.value host =
      Section.hostKeyRun host (sec.hostKeyStep host (of (st.run s σ pre).config.value host))
        post := by
  rw [of_run, of_run]
  simp only [Section.hostKeyRun, List.foldl_append, List.foldl_cons]

end HostKeyView

theorem host_key_unconfirmed_after_revocation (s : SecretLayer) (σ : Settings) (st : Singletons)
    (host : String) (pre : List Section) (sec : Section) (post : List Section)
    (hsec : sec.Unconfirms host (st.run s σ pre).config.value.keyConfirmed = true)
    (hpost : ∀ sec' ∈ post, sec'.Confirms host = false) :
    Config.getHostKeyConfirmed (st.run s σ (pre ++ sec :: post)).config.value host = false := by
  rw [← HostKeyView.of_hostConfirmed, HostKeyView.of_run_append_cons]
  refine HostKeyView.hostKeyRun_unconfirmed _ ?_ post hpost
  rw [HostKeyView.hostKeyStep_hostConfirmed, HostKeyView.of_keyConfirmed, hsec,
    Section.confirms_eq_false_of_unconfirms hsec]
  rfl

theorem host_key_confirmed_until_revoked (s : SecretLayer) (σ : Settings) (st : Singletons)
    (host : String) (pre : List Section) (sec : Section) (post : List Section)
    (hsec : sec.Confirms host = true)
    (hpost : ∀ i : Fin post.length, (post.get i).Unconfirms host
      (st.run s σ (pre ++ sec :: post.take i)).config.value.keyConfirmed = false) :
    Config.getHostKeyConfirmed (st.run s σ (pre ++ sec :: post)).config.value host = true := by
  rw [← HostKeyView.of_hostConfirmed, HostKeyView.of_run_append_cons]
  refine HostKeyView.hostKeyRun_confirmed _ ?_ post fun i => ?_
  · rw [HostKeyView.hostKeyStep_hostConfirmed, hsec]
    rfl
  · rw [← HostKeyView.of_run_append_cons, HostKeyView.of_keyConfirmed]
    exact hpost i

/-- Every singleton at its default record, no file written. -/
def freshSingletons : Singletons :=
  ⟨⟨Config.default, Config.default, none⟩, ⟨Config2.default, Config2.default, none⟩,
    ⟨LocalConfig.default, LocalConfig.default, none⟩, ⟨Status.default, Status.default, none⟩⟩

theorem host_key_unconfirmed_after_revocation_reenabled :
    Section.Unconfirms "h"
        (freshSingletons.run markLayer Settings.empty
          [.setKeyConfirmed true, .setHostKeyConfirmed "h" true]).config.value.keyConfirmed
        (.setKeyConfirmed false) = true ∧
      (∀ sec' ∈ [Section.setId "x", .setKeyConfirmed true], sec'.Confirms "h" = false) ∧
      Config.getHostKeyConfirmed (freshSingletons.run markLayer Settings.empty
        ([.setKeyConfirmed true, .setHostKeyConfirmed "h" true] ++
          .setKeyConfirmed false :: [.setId "x", .setKeyConfirmed true])).config.value
        "h" = false :=
  ⟨by decide, by decide,
    host_key_unconfirmed_after_revocation markLayer Settings.empty freshSingletons "h"
      [.setKeyConfirmed true, .setHostKeyConfirmed "h" true] (.setKeyConfirmed false)
      [.setId "x", .setKeyConfirmed true] (by decide) (by decide)⟩

theorem host_key_confirmed_until_revoked_flag_clear :
    Section.Confirms "h" (.setHostKeyConfirmed "h" true) = true ∧
      (∀ i : Fin 2, ([Section.setKeyConfirmed false, .setSalt "s"].get i).Unconfirms "h"
        (freshSingletons.run markLayer Settings.empty
          ([] ++ .setHostKeyConfirmed "h" true ::
            [Section.setKeyConfirmed false, .setSalt "s"].take i)).config.value.keyConfirmed =
          false) ∧
      Config.getHostKeyConfirmed (freshSingletons.run markLayer Settings.empty
        ([] ++ .setHostKeyConfirmed "h" true :: [.setKeyConfirmed false, .setSalt "s"])
          ).config.value "h" = true :=
  ⟨rfl, by decide,
    host_key_confirmed_until_revoked markLayer Settings.empty freshSingletons "h" []
      (.setHostKeyConfirmed "h" true) [.setKeyConfirmed false, .setSalt "s"] rfl (by decide)⟩

end HbbCommon
