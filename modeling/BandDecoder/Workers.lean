import BandDecoder.Runs
import BandDecoder.SystemInitializer

namespace BandDecoder.Workers

open CStrings SwitchConfig Config Relay SystemInitializer Runs

structure HostChange where
  init : InitScript
  write : NvsWrite
  host : Bytes

def next (s : System) (a : HostChange) : System := (setTcpHost a.init a.write a.host s).2

def Step (s : System) (a : HostChange) (s' : System) : Prop := s' = next s a

theorem step_next (s : System) (a : HostChange) : Step s a (next s a) := rfl

def OneWorker (s : System) : Prop := s.tasks = 1

def FirstConnects (f : FullScript) (config : AntennaSwitchConfig) : Prop :=
  f.validIp ∧ ((newController config).init f.init).1 = .ok

def Unconnected (s : System) (a : HostChange) : Prop :=
  ∀ c, s.relayController = some c → (reinit a.init a.host c).1 ≠ .ok

theorem connect_tasks (f : FullScript) {config : AntennaSwitchConfig}
    (hn : config.tcpHost.str ≠ []) : (connect f config).2 = 1 ↔ FirstConnects f config := by
  rw [connect, FirstConnects]
  cases hip : f.validIp with
  | false =>
      rw [if_neg nofun]
      exact iff_of_false Nat.zero_ne_one nofun
  | true =>
      rw [if_pos ⟨hn, rfl⟩]
      split
      · rename_i c h
        exact iff_of_true rfl ⟨rfl, by rw [h]⟩
      · rename_i e c hne h
        refine iff_of_false Nat.zero_ne_one fun hc => hne ?_
        rw [← hc.2, h]

theorem initializeFull_oneWorker {f : FullScript} {s : System} (hok : (initializeFull f s).1 = .ok)
    (hn : (loaded f s).tcpHost.str ≠ []) :
    OneWorker (initializeFull f s).2 ↔ FirstConnects f (loaded f s) := by
  rw [initializeFull_starts (starts_of_initializeFull hok), ← connect_tasks f hn]
  rfl

/-- Every connection made anew starts a task, and nothing stops one. -/
theorem next_tasks (s : System) (a : HostChange) :
    (Unconnected s a ∧ (next s a).tasks = s.tasks) ∨
    (¬ Unconnected s a ∧ (next s a).tasks = s.tasks + 1) := by
  cases hc : s.relayController with
  | none =>
      refine Or.inl ⟨by simp [Unconnected, hc], ?_⟩
      simp [next, setTcpHost, hc]
  | some c =>
      by_cases hi : (reinit a.init a.host c).1 = .ok
      · refine Or.inr ⟨fun h => h c hc hi, ?_⟩
        rw [next, setTcpHost_ok hc hi]
      · refine Or.inl ⟨fun c' hc' => ?_, ?_⟩
        · obtain rfl := Option.some.inj (hc.symm.trans hc')
          exact hi
        · rw [next, setTcpHost_error hc hi]

/-- From a successful start on there is one task exactly if the first connection was
made and no later host change makes another. -/
theorem oneWorker_iff (f : FullScript) (s : System) (hok : (initializeFull f s).1 = .ok)
    (hn : (loaded f s).tcpHost.str ≠ []) (t : List (HostChange × System))
    (h : Run Step (initializeFull f s).2 t) :
    (OneWorker (initializeFull f s).2 ∧ ∀ x ∈ t, OneWorker x.2) ↔
      FirstConnects f (loaded f s) ∧ Guarded Unconnected (initializeFull f s).2 t := by
  rw [initializeFull_oneWorker hok hn]
  refine and_congr_right fun hfirst => ?_
  have hone : OneWorker (initializeFull f s).2 := (initializeFull_oneWorker hok hn).mpr hfirst
  refine h.forall_iff_guarded OneWorker (fun _ => OneWorker) hone ?_ ?_
  · rintro s a s' hs rfl hu
    rcases next_tasks s a with ⟨-, ht⟩ | ⟨hc, -⟩
    · have hs' : OneWorker (next s a) := ht.trans hs
      exact ⟨hs', hs'⟩
    · exact absurd hu hc
  · rintro s a s' hs rfl hc
    rcases next_tasks s a with ⟨hu, -⟩ | ⟨-, ht⟩
    · exact absurd hu hc
    · rw [OneWorker] at hs
      rw [OneWorker, ht, hs]
      decide

theorem oneWorker_iff_firstBoot :
    OneWorker (initializeFull (firstBoot true) poweredOff).2 ∧
      ∀ x ∈ trace next (initializeFull (firstBoot true) poweredOff).2
        [⟨attempts false, .success, text "10.0.0.7"⟩], OneWorker x.2 :=
  (oneWorker_iff (firstBoot true) poweredOff rfl (by decide) _ (run_trace step_next _ _)).mpr
    ⟨⟨rfl, rfl⟩, fun c hc => by
      obtain rfl := Option.some.inj hc
      decide, trivial⟩

/-- A host that answers at the first boot, and again after the host is set anew: then
two tasks take each request. -/
theorem oneWorker_fails :
    ¬ ∀ (f : FullScript) (s : System), s.relayController = none → (initializeFull f s).1 = .ok →
      (loaded f s).tcpHost.str ≠ [] → ∀ t, Run Step (initializeFull f s).2 t →
        OneWorker (initializeFull f s).2 ∧ ∀ x ∈ t, OneWorker x.2 := by
  intro h
  have ht := (h (firstBoot true) poweredOff rfl rfl (by decide) _
    (run_trace step_next _ [⟨attempts true, .success, DEFAULT_HOST⟩])).2 _ (.head _)
  rw [OneWorker] at ht
  exact absurd ht (by decide)

end BandDecoder.Workers
