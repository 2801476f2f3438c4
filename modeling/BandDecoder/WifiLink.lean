import BandDecoder.WifiEvents

namespace BandDecoder.WifiLink

open CStrings SwitchConfig WifiManager WebServer WifiEvents EventLoop Runs
open EventGroup (bits collect collect_some exists_collect)

variable {G σ : Type*}

theorem smartconfigStop_rest (e : EspErr) (s : Station G σ) :
    (smartconfigStop e s).link = s.link ∧ (smartconfigStop e s).ipObtained = s.ipObtained ∧
      (smartconfigStop e s).wifiConnected = s.wifiConnected ∧
      (smartconfigStop e s).group = s.group ∧ (smartconfigStop e s).taken = s.taken := by
  obtain ⟨session, refused, he, -⟩ := smartconfigStop_eq e s
  rw [he]
  exact ⟨rfl, rfl, rfl, rfl, rfl⟩

variable [EventGroup G Bit] {L : Library σ}

/-- What the flags and the group say agrees with the last event about the link. -/
structure Told (s : Station G σ) : Prop where
  ip : s.ipObtained = true ↔ s.link = some .up
  wifi : s.ipObtained = true → s.wifiConnected = true
  fail : ∀ g, s.group = some g → (bits g .fail = true ↔ s.link = some .down)
  connected : ∀ g, s.group = some g → (bits g .connected = true ↔ s.link = some .up ∧ s.taken = false)

theorem told_poweredOn (storage : Storage) : Told (poweredOn L storage : Station G σ) :=
  ⟨⟨fun h => Bool.noConfusion h, fun h => (Option.some_ne_none _ h.symm).elim⟩, fun h => Bool.noConfusion h,
    fun _ h => (Option.some_ne_none _ h.symm).elim, fun _ h => (Option.some_ne_none _ h.symm).elim⟩

/-- Another thread has left the link alone, or has taken the connected bit. -/
structure Undisturbed (s s' : Station G σ) : Prop where
  link : s'.link = s.link
  ip : s'.ipObtained = s.ipObtained
  wifi : s'.wifiConnected = s.wifiConnected
  group : (s.group = none ∧ s'.group = none) ∨ ∃ g g', s.group = some g ∧ s'.group = some g' ∧
    bits g' .fail = bits g .fail ∧ ((bits g' .connected = bits g .connected ∧ s'.taken = s.taken) ∨
      (bits g .connected = true ∧ bits g' .connected = false ∧ s'.taken = true))

theorem Undisturbed.same {s s' : Station G σ} (link : s'.link = s.link) (ip : s'.ipObtained = s.ipObtained)
    (wifi : s'.wifiConnected = s.wifiConnected) (group : s'.group = s.group) (taken : s'.taken = s.taken) :
    Undisturbed s s' := by
  refine ⟨link, ip, wifi, ?_⟩
  cases hg : s.group with
  | none => exact Or.inl ⟨rfl, group.trans hg⟩
  | some g => exact Or.inr ⟨g, g, rfl, group.trans hg, rfl, Or.inl ⟨rfl, taken⟩⟩

theorem Told.undisturbed {s s' : Station G σ} (h : Told s) (hu : Undisturbed s s') : Told s' := by
  refine ⟨by rw [hu.ip, hu.link]; exact h.ip, by rw [hu.ip, hu.wifi]; exact h.wifi, fun g hg => ?_,
    fun g hg => ?_⟩
  · rcases hu.group with ⟨-, hn⟩ | ⟨g₀, g', hg₀, hg', hf, -⟩
    · exact (Option.some_ne_none g (hg.symm.trans hn)).elim
    · obtain rfl : g' = g := Option.some.inj (hg'.symm.trans hg)
      rw [hf, hu.link]
      exact h.fail g₀ hg₀
  · rcases hu.group with ⟨-, hn⟩ | ⟨g₀, g', hg₀, hg', -, ⟨hc, ht⟩ | ⟨-, hc, ht⟩⟩
    · exact (Option.some_ne_none g (hg.symm.trans hn)).elim
    · obtain rfl : g' = g := Option.some.inj (hg'.symm.trans hg)
      rw [hc, ht, hu.link]
      exact h.connected g₀ hg₀
    · obtain rfl : g' = g := Option.some.inj (hg'.symm.trans hg)
      simp [hc, ht]

theorem undisturbed_write {s s' : Station G σ} (h : Undisturbed s s') {f : G → G} {b : Bit} {v : Bool}
    (hf : ∀ g b', bits (f g) b' = if b' = b then v else bits g b') :
    Undisturbed (write f b s) (write f b s') := by
  rcases h.group with ⟨hn, hn'⟩ | ⟨g, g', hg, hg', hfail, hc⟩
  · simp only [write, hn, hn']
    exact ⟨h.link, h.ip, h.wifi, Or.inl ⟨rfl, rfl⟩⟩
  · rw [write_of_group hg, write_of_group hg']
    refine ⟨h.link, h.ip, h.wifi, Or.inr ⟨_, _, rfl, rfl, ?_⟩⟩
    cases b with
    | connected => exact ⟨by simpa [hf] using hfail, Or.inl ⟨by simp [hf], by simp⟩⟩
    | fail => exact ⟨by simp [hf], by simpa [hf] using hc⟩
    | esptouchDone => exact ⟨by simpa [hf] using hfail, by simpa [hf] using hc⟩

theorem undisturbed_apply (a : Op) {s s' : Station G σ} (h : Undisturbed s s') :
    Undisturbed (apply L a s) (apply L a s') := by
  cases a with
  | createTask created =>
      simp only [apply]
      split <;> split <;> exact ⟨h.link, h.ip, h.wifi, h.group⟩
  | setWifiConnected b => exact ⟨h.link, h.ip, rfl, h.group⟩
  | setIpObtained b => exact ⟨h.link, rfl, h.wifi, h.group⟩
  | clearBits b => exact undisturbed_write h fun g => EventGroup.bits_clear g b
  | setBits b => exact undisturbed_write h fun g => EventGroup.bits_set g b
  | smartconfigStop e =>
      simp only [apply, smartconfigStop]
      split <;> exact ⟨h.link, h.ip, h.wifi, h.group⟩
  | setUsingSavedCredentials b | webserverStart x | saveWifiConfig w r ssid password =>
      exact ⟨h.link, h.ip, h.wifi, h.group⟩

theorem undisturbed_task (i : Nat) (x : TaskScript) (s : Station G σ) : Undisturbed s (runTask i x s) := by
  rw [runTask]
  cases s.tasks[i]? with
  | none => exact .same rfl rfl rfl rfl rfl
  | some t =>
      dsimp only
      cases t with
      | look =>
          rw [smartconfigTask]
          split <;> exact .same rfl rfl rfl rfl rfl
      | start =>
          rw [smartconfigTask]
          split <;> exact .same rfl rfl rfl rfl rfl
      | poll =>
          rw [smartconfigTask]
          split
          · exact .same rfl rfl rfl rfl rfl
          · rename_i g hg
            split
            · exact .same rfl rfl rfl rfl rfl
            · rename_i g' hc
              obtain ⟨hcleared, hkept⟩ := collect_some hc
              refine ⟨rfl, rfl, rfl, Or.inr ⟨g, g', hg, rfl, hkept .fail (by decide), ?_⟩⟩
              have hoff := hcleared .connected (by decide)
              cases hon : bits g .connected with
              | true => exact Or.inr ⟨rfl, hoff, by simp⟩
              | false => exact Or.inl ⟨hoff, by simp⟩
      | stop | complete | leave =>
          obtain ⟨hl, hi, hw, hg, ht⟩ := smartconfigStop_rest x.stop s
          exact .same hl hi hw hg ht
      | ended => exact .same rfl rfl rfl rfl rfl

theorem undisturbed_init {s : Station G σ} (x : InitScript) (h : s.stage ≠ .eventGroup) :
    Undisturbed s (advance x s) := by
  have ha := advanced x s
  rw [ha.rest]
  refine .same rfl rfl rfl ?_ rfl
  rcases ha.group with hg | ⟨he, -⟩
  · exact hg
  · exact absurd he h

theorem told_down {s : Station G σ} {g : G} (hg : s.group = some g) :
    Told ((station L).exec (eventHandler .staDisconnected) (note .staDisconnected s)) := by
  cases s
  subst hg
  refine ⟨⟨fun h => Bool.noConfusion h, fun h => Link.noConfusion (Option.some.inj h)⟩,
    fun h => Bool.noConfusion h, fun g' hg' => ?_, fun g' hg' => ?_⟩
  · obtain rfl := Option.some.inj hg'
    exact iff_of_true (by simp) rfl
  · obtain rfl := Option.some.inj hg'
    exact iff_of_false (by simp) fun h => Link.noConfusion (Option.some.inj h.1)

theorem told_up {s : Station G σ} {g : G} (hg : s.group = some g) (stop ipInfo : EspErr) :
    Told ((station L).exec (eventHandler (.gotIp stop ipInfo)) (note (.gotIp stop ipInfo) s)) := by
  have hbits : Told ((station L).exec [.setIpObtained true, .setWifiConnected true,
      .clearBits .fail, .setBits .connected] (note (.gotIp stop ipInfo) s)) := by
    cases s
    subst hg
    refine ⟨iff_of_true rfl rfl, fun _ => rfl, fun g' hg' => ?_, fun g' hg' => ?_⟩
    · obtain rfl := Option.some.inj hg'
      exact iff_of_false (by simp) fun h => Link.noConfusion (Option.some.inj h)
    · obtain rfl := Option.some.inj hg'
      exact iff_of_true (by simp) ⟨rfl, Bool.and_false _⟩
  obtain ⟨hl, hi, hw, hgroup, ht⟩ := smartconfigStop_rest stop
    ((station L).exec [.setIpObtained true, .setWifiConnected true, .clearBits .fail,
      .setBits .connected] (note (.gotIp stop ipInfo) s))
  exact hbits.undisturbed (.same hl hi hw hgroup ht)

/-- A whole handler, with nothing in between, makes the flags agree again. -/
theorem Told.take {s : Station G σ} {e : Event} (h : Told s) {g : G} (hg : s.group = some g) :
    Told ((station L).exec (eventHandler e) (note e s)) := by
  cases e with
  | staDisconnected => exact told_down hg
  | gotIp stop ipInfo => exact told_up hg stop ipInfo
  | sendAckDone =>
      have hw : (station L).exec (eventHandler .sendAckDone) (note .sendAckDone s) =
          write (EventGroup.set · .esptouchDone) .esptouchDone s := rfl
      rw [hw, write_of_group hg]
      exact h.undisturbed ⟨rfl, rfl, rfl, Or.inr ⟨g, _, hg, rfl, by simp, Or.inl ⟨by simp, by simp⟩⟩⟩
  | staStart created =>
      have hw : (station L).exec (eventHandler (.staStart created)) (note (.staStart created) s) =
          apply L (.createTask created) { s with startPosted := false } := rfl
      rw [hw, apply]
      split <;> exact ⟨h.ip, h.wifi, h.fail, h.connected⟩
  | staConnected => exact ⟨h.ip, fun _ => rfl, h.fail, h.connected⟩
  | gotSsidPswd w r ssid password => exact ⟨h.ip, h.wifi, h.fail, h.connected⟩
  | other b => exact h

theorem Told.create {s : Station G σ} (h : Told s) (x : InitScript) (hs : s.stage = .eventGroup)
    (hl : s.link = none) : Told (advance x s) := by
  rw [advance, hs]
  dsimp only
  split
  · refine ⟨h.ip, h.wifi, fun g hg => ?_, fun g hg => ?_⟩
    · obtain rfl := Option.some.inj hg
      simp [hl]
    · obtain rfl := Option.some.inj hg
      simp [hl]
  · exact ⟨h.ip, h.wifi, h.fail, h.connected⟩

theorem Told.other {s : Station G σ} {p : List Op} (hi : Inv ⟨s, p⟩) (h : Told ((station L).exec p s))
    (x : Thread) : Told ((station L).exec p (other x s)) := by
  have huse {s' : Station G σ} (hu : Undisturbed s s') : Told ((station L).exec p s') :=
    h.undisturbed ((station L).exec_related (fun a _ _ => undisturbed_apply a) p hu)
  cases x with
  | init x =>
      by_cases hs : s.stage = .eventGroup
      · obtain ⟨hp, -, hl⟩ := hi.quiet (hi.grouped (hi.early hs)).1
        dsimp only at hp hl
        subst hp
        exact h.create x hs hl
      · exact huse (undisturbed_init x hs)
  | task i x => exact huse (undisturbed_task i x s)
  | startSmartconfig => exact huse (.same rfl rfl rfl rfl rfl)

theorem told_of_boots {storage : Storage} {m : Moment G σ} (h : Boots L storage m) (hp : m.pending = []) :
    Told m.state := by
  have hk := ((station L).reachable_exec (K := Told) h (inv_poweredOn L storage) (told_poweredOn storage)
    (fun _ _ _ hi hs => hi.step hs) (fun s e hi hd hk => ?_) fun s p x hi _ hk => hk.other hi x).2
  · rw [hp] at hk
    exact hk
  · obtain ⟨g, hg⟩ := hi.group (List.ne_nil_of_mem hd.1)
    exact hk.take hg

/-- Between two events the group tells what the last event about the link was, but for
the connected bit that a SmartConfig task takes away: the station then counts as
connected and has its address, and the wait for the connection still times out. -/
theorem waitForConnection_verdict {storage : Storage} {m : Moment G σ} (h : Boots L storage m)
    (hp : m.pending = []) :
    (m.state.ipObtained = true ↔ m.state.link = some .up) ∧
      (m.state.ipObtained = true → isConnected m.state = true) ∧
      waitForConnection m.state = if m.state.group = none then .invalidState else
        match m.state.link with
        | none => .timeout
        | some .down => .fail
        | some .up => if m.state.taken then .timeout else .ok := by
  have hk := told_of_boots h hp
  refine ⟨hk.ip, hk.wifi, ?_⟩
  rw [waitForConnection]
  cases hg : m.state.group with
  | none => rfl
  | some g =>
      have hf := hk.fail g hg
      have hc := hk.connected g hg
      rw [if_neg (Option.some_ne_none g)]
      dsimp only
      cases hl : m.state.link with
      | none =>
          rw [hl] at hf hc
          rw [if_neg (fun h => Option.some_ne_none _ (hc.mp h).1.symm),
            if_neg (fun h => Option.some_ne_none _ (hf.mp h).symm)]
      | some l =>
          rw [hl] at hf hc
          cases l with
          | down =>
              rw [if_neg (fun h => Link.noConfusion (Option.some.inj (hc.mp h).1)), if_pos (hf.mpr rfl)]
          | up =>
              have hno : ¬ bits g .fail = true := fun h => Link.noConfusion (Option.some.inj (hf.mp h))
              dsimp only
              rw [if_neg hno]
              cases ht : m.state.taken with
              | true => exact if_neg fun h => Bool.noConfusion (ht.symm.trans (hc.mp h).2)
              | false => exact if_pos (hc.mpr ⟨rfl, ht⟩)

/-! The way of a SmartConfig task out, once the connected bit is set -/

def stepsLeft : TaskStage → Nat
  | .ended => 0
  | .leave | .look => 1
  | .complete => 2
  | .poll => 3
  | .start => 4
  | .stop => 5

def LeavesSoon (s : Station G σ) (n : Nat) : Prop :=
  ∃ t, s.tasks = [t] ∧ stepsLeft t ≤ n ∧ (Past t ∨ ∃ g, s.group = some g ∧ bits g .connected = true)

theorem LeavesSoon.step {s : Station G σ} {n : Nat} (h : LeavesSoon s n) (x : TaskScript) :
    LeavesSoon (runTask 0 x s) (n - 1) := by
  obtain ⟨t, ht, hn, hd⟩ := h
  have hrun : runTask 0 x s =
      { (smartconfigTask x s t).2 with tasks := [(smartconfigTask x s t).1] } := by
    simp only [runTask, ht, List.getElem?_cons_zero, List.set_cons_zero]
  rw [hrun]
  refine ⟨_, rfl, ?_⟩
  dsimp only
  cases t with
  | ended => exact ⟨Nat.zero_le _, Or.inl trivial⟩
  | leave => exact ⟨Nat.zero_le _, Or.inl trivial⟩
  | complete => exact ⟨Nat.le_sub_one_of_lt hn, Or.inl trivial⟩
  | stop =>
      refine ⟨Nat.le_sub_one_of_lt hn, Or.inr ?_⟩
      rw [smartconfigTask, (smartconfigStop_rest x.stop s).2.2.2.1]
      exact hd.resolve_left id
  | start =>
      rw [smartconfigTask]
      split
      · exact ⟨Nat.zero_le _, Or.inl trivial⟩
      · exact ⟨Nat.le_sub_one_of_lt hn, Or.inr (hd.resolve_left id)⟩
  | look =>
      obtain ⟨g, hg, hc⟩ := hd.resolve_left id
      simp only [smartconfigTask, hg, hc, if_true]
      exact ⟨Nat.zero_le _, Or.inl trivial⟩
  | poll =>
      obtain ⟨g, hg, hc⟩ := hd.resolve_left id
      have hwaited : Bit.connected ∈ [Bit.connected, .esptouchDone] := List.mem_cons_self
      obtain ⟨g', hcollect⟩ := exists_collect hwaited hc
      simp only [smartconfigTask, hg, hcollect]
      exact ⟨Nat.le_sub_one_of_lt hn, Or.inl trivial⟩

/-- The rounds of the task with nothing between them, each with its own results. -/
def leftAlone (xs : List TaskScript) (s : Station G σ) : Station G σ :=
  xs.foldl (fun s x => runTask 0 x s) s

theorem leftAlone_nil {s : Station G σ} (h : s.tasks = []) (xs : List TaskScript) :
    leftAlone xs s = s := by
  induction xs with
  | nil => rfl
  | cons x xs ih =>
      have hfix : runTask 0 x s = s := by simp only [runTask, h, List.getElem?_nil]
      rw [leftAlone, List.foldl_cons, hfix]
      exact ih

theorem LeavesSoon.leftAlone {s : Station G σ} {n : Nat} (h : LeavesSoon s n) (xs : List TaskScript) :
    LeavesSoon (leftAlone xs s) (n - xs.length) := by
  induction xs generalizing s n with
  | nil => exact h
  | cons x xs ih =>
      have hrest := ih (h.step x)
      rw [Nat.sub_sub, Nat.add_comm] at hrest
      exact hrest

theorem boots_leftAlone {storage : Storage} {m : Moment G σ} (h : Boots L storage m)
    (xs : List TaskScript) : Boots L storage ⟨leftAlone xs m.state, m.pending⟩ := by
  induction xs generalizing m with
  | nil => exact h
  | cons x xs ih => exact ih (m := ⟨_, _⟩) (h.tasks 0 x 1)

theorem stepsLeft_le (t : TaskStage) : stepsLeft t ≤ 5 := by
  cases t <;> decide

theorem leavesSoon_of_up {s : Station G σ} {t : TaskStage} (hi : Inv ⟨s, []⟩) (hk : Told s)
    (hip : s.ipObtained = true) (ht : s.tasks = [t]) : LeavesSoon s 5 := by
  refine ⟨t, ht, stepsLeft_le t, ?_⟩
  have halone : s.tasks[0]? = some t := by rw [ht, List.getElem?_cons_zero]
  obtain ⟨g, hg⟩ := hi.group (hi.alone halone).2
  cases htaken : s.taken with
  | true =>
      obtain ⟨u, hu, hpast⟩ := hi.sole htaken
      rw [List.singleton_inj.mp (ht.symm.trans hu)]
      exact Or.inl hpast
  | false => exact Or.inr ⟨g, hg, (hk.connected g hg).mpr ⟨hk.ip.mp hip, htaken⟩⟩

theorem ended_of_up {s : Station G σ} (hi : Inv ⟨s, []⟩) (hk : Told s) (hip : s.ipObtained = true)
    {xs : List TaskScript} (hxs : 5 ≤ xs.length) : ∀ t ∈ (leftAlone xs s).tasks, t = .ended := by
  have hb := hi.budget
  cases htasks : s.tasks with
  | nil =>
      rw [leftAlone_nil htasks, htasks]
      exact fun t ht => absurd ht List.not_mem_nil
  | cons t ts =>
      dsimp only at hb
      rw [htasks, List.length_cons] at hb
      obtain rfl : ts = [] := List.length_eq_zero_iff.mp (by omega)
      obtain ⟨u, hu, hn, -⟩ := (leavesSoon_of_up hi hk hip htasks).leftAlone xs
      rw [Nat.sub_eq_zero_of_le hxs] at hn
      rw [hu]
      intro v hv
      rw [List.mem_singleton.mp hv]
      cases u with
      | ended => rfl
      | look | stop | start | poll | complete | leave => exact absurd hn (by decide)

/-- Once the station has its address, SmartConfig is over: left alone, its task is gone
within five steps, wherever it stood, and a session that is still on has seen two stops
fail. -/
theorem smartconfig_over {storage : Storage} {m : Moment G σ} (h : Boots L storage m)
    (hp : m.pending = []) (hip : m.state.ipObtained = true) {xs : List TaskScript} (hxs : 5 ≤ xs.length) :
    (∀ t ∈ (leftAlone xs m.state).tasks, t = .ended) ∧
      ((leftAlone xs m.state).session = true → 2 ≤ (leftAlone xs m.state).refused) := by
  have hi : Inv ⟨m.state, []⟩ := hp ▸ inv_of_boots h
  have hends := ended_of_up hi (told_of_boots h hp) hip hxs
  refine ⟨hends, fun hs => ?_⟩
  obtain ⟨t, ht, -, hn⟩ := (inv_of_boots (boots_leftAlone h xs)).owned hs
  rw [hends t ht] at hn
  exact hn

def handled (L : Library σ) (e : Event) (s : Station G σ) : Station G σ :=
  (station L).exec (eventHandler e) (note e s)

def connectedHome : Station (Bit → Bool) ((Nat → Option (List Uri)) × Nat) :=
  handled numbered (.gotIp .fail .ok) <| handled numbered .staConnected <| (advance .success)^[2] <|
    (runTask 0 .success)^[3] <| handled numbered (.staStart true) <|
      (advance .success)^[11] (poweredOn numbered home)

theorem boots_connectedHome : Boots numbered home ⟨connectedHome, []⟩ := by
  have h : Boots (G := Bit → Bool) numbered home ⟨poweredOn numbered home, []⟩ := .refl
  have h := (h.inits .success 11).take (.staStart true) ⟨by decide, fun _ _ => rfl⟩
  have h := (h.work.tasks 0 .success 3).inits .success 2
  have h := h.take .staConnected ⟨by decide, fun _ hc => nomatch hc⟩
  have h := h.work.take (.gotIp .fail .ok) ⟨by decide, fun _ hc => nomatch hc⟩
  exact h.work

/-- The first of the two stops on the way out fails. -/
def scripts : List TaskScript := [.success, ⟨.ok, .ok, .fail⟩, .success, .success, .success]

theorem smartconfig_over_home : connectedHome.tasks = [.poll] ∧ connectedHome.session = true ∧
    (∀ t ∈ (leftAlone scripts connectedHome).tasks, t = .ended) ∧
    (leftAlone scripts connectedHome).session = false :=
  ⟨rfl, rfl, (smartconfig_over boots_connectedHome rfl rfl (by decide)).1, rfl⟩

/-- The task takes the bit, and the station is connected all the same. -/
theorem waitForConnection_verdict_taken : isConnected (runTask 0 .success connectedHome) = true ∧
    waitForConnection (runTask 0 .success connectedHome) = .timeout :=
  ⟨rfl, (waitForConnection_verdict (boots_connectedHome.tasks 0 .success 1) rfl).2.2⟩

end BandDecoder.WifiLink
