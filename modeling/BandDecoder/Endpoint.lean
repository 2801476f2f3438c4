import BandDecoder.Runs
import BandDecoder.SendCommand
import BandDecoder.SystemInitializer

namespace BandDecoder.Endpoint

open CStrings SwitchConfig Config Tcp Relay Switch SendCommand SystemInitializer Runs

structure SameEndpoint (c c' : TcpClient) : Prop where
  host : c'.host = c.host
  port : c'.port = c.port

theorem SameEndpoint.trans {c c' c'' : TcpClient} (h : SameEndpoint c c') (h' : SameEndpoint c' c'') :
    SameEndpoint c c'' :=
  ⟨h'.host.trans h.host, h'.port.trans h.port⟩

theorem verifyConnection_endpoint (v : VerifyScript) (c : TcpClient) :
    SameEndpoint c (verifyConnection v c).2 := by
  rw [verifyConnection]
  split
  · exact ⟨rfl, rfl⟩
  · split
    · exact ⟨rfl, rfl⟩
    · split
      · exact ⟨rfl, rfl⟩
      · split <;> exact ⟨rfl, rfl⟩

theorem connectToServer_endpoint (k : ConnectScript) (c : TcpClient) :
    SameEndpoint c (connectToServer k c).2 := by
  have hv (fd : Nat) := verifyConnection_endpoint k.verify { c with sock := some fd, isConnected := true }
  rw [connectToServer]
  cases k.socket with
  | none => exact ⟨rfl, rfl⟩
  | some fd =>
      cases k.connect with
      | done => exact ⟨(hv fd).host, (hv fd).port⟩
      | failed => exact ⟨rfl, rfl⟩
      | inProgress =>
          cases k.select with
          | timedOut => exact ⟨rfl, rfl⟩
          | failed => exact ⟨rfl, rfl⟩
          | ready =>
              dsimp only
              split
              · exact ⟨rfl, rfl⟩
              · exact ⟨(hv fd).host, (hv fd).port⟩

theorem reconnect_endpoint (ks : List ConnectScript) (c : TcpClient) :
    SameEndpoint c (reconnect ks c).2 := by
  induction ks generalizing c with
  | nil => exact ⟨rfl, rfl⟩
  | cons k ks ih =>
      have hk := connectToServer_endpoint k c
      rw [reconnect]
      split
      · rename_i c' h
        rw [h] at hk
        exact hk
      · rename_i e c' _ h
        rw [h] at hk
        exact hk.trans (ih c')

theorem checkConnectionStatus_endpoint (soError : Bool) (c : TcpClient) :
    SameEndpoint c (checkConnectionStatus soError c).2 := by
  rw [checkConnectionStatus]
  split
  · exact ⟨rfl, rfl⟩
  · split <;> exact ⟨rfl, rfl⟩

theorem ensureConnected_endpoint (e : EnsureScript) (c : TcpClient) :
    SameEndpoint c (ensureConnected e c).2 := by
  have hc := checkConnectionStatus_endpoint e.soError c
  rw [ensureConnected]
  split
  · rename_i c' h
    rw [h] at hc
    exact hc
  · rename_i c' h
    rw [h] at hc
    split
    · exact hc
    · have hr := reconnect_endpoint (List.ofFn e.attempts)
        { Tcp.close c' with lastReconnectAttempt := e.now }
      exact hc.trans ⟨hr.host, hr.port⟩

theorem sendMessage_endpoint (m : SendScript) (message : Bytes) (c : TcpClient) :
    SameEndpoint c (sendMessage m message c).2.2 := by
  have he := ensureConnected_endpoint m.ensure c
  have hup : SameEndpoint c
      (if c.isConnected then (EspErr.ok, c) else ensureConnected m.ensure c).2 := by
    split
    · exact ⟨rfl, rfl⟩
    · exact he
  rw [sendMessage]
  generalize (if c.isConnected then (EspErr.ok, c) else ensureConnected m.ensure c) = up at hup
  dsimp only
  split
  · exact hup
  · split <;> exact ⟨hup.host, hup.port⟩

theorem receiveMessage_endpoint (w : WaitScript) (size : Nat) (timeout : Int) (c : TcpClient) :
    SameEndpoint c (receiveMessage w size timeout c).2.2 := by
  rw [receiveMessage]
  split
  · exact ⟨rfl, rfl⟩
  · dsimp only
    split <;> exact ⟨rfl, rfl⟩

theorem initLoop_endpoint (ks : List (ConnectScript × Bool)) (c : TcpClient) :
    SameEndpoint c (initLoop ks c).2 := by
  induction ks generalizing c with
  | nil => exact ⟨rfl, rfl⟩
  | cons k ks ih =>
      obtain ⟨k, reset⟩ := k
      have hk := connectToServer_endpoint k c
      rw [initLoop]
      split
      · rename_i c' h
        rw [h] at hk
        exact hk
      · rename_i e c' _ h
        rw [h] at hk
        refine hk.trans ((?_ : SameEndpoint c' _).trans (ih _))
        split <;> exact ⟨rfl, rfl⟩

theorem init_endpoint (host : Bytes) (port : UInt16) (attempts : Fin 3 → ConnectScript × Bool)
    (c : TcpClient) :
    (Tcp.init host port attempts c).2.host = host ∧ (Tcp.init host port attempts c).2.port = port := by
  have h := initLoop_endpoint (List.ofFn attempts)
    { (if c.sock.isSome then Tcp.close c else c) with host, port }
  exact ⟨h.host, h.port⟩

structure KeepsEndpoint (c c' : RelayController) : Prop where
  client : SameEndpoint c.tcpClient c'.tcpClient
  host : c'.tcpHost = c.tcpHost
  port : c'.tcpPort = c.tcpPort

theorem KeepsEndpoint.refl (c : RelayController) : KeepsEndpoint c c := ⟨⟨rfl, rfl⟩, rfl, rfl⟩

theorem KeepsEndpoint.trans {c c' c'' : RelayController} (h : KeepsEndpoint c c')
    (h' : KeepsEndpoint c' c'') : KeepsEndpoint c c'' :=
  ⟨h.client.trans h'.client, h'.host.trans h.host, h'.port.trans h.port⟩

theorem transmit_endpoint (ensure : EnsureScript) (send : SendScript) (command : Bytes)
    (c : RelayController) : KeepsEndpoint c (transmit ensure send command c).2 := by
  have he := ensureConnected_endpoint ensure c.tcpClient
  rw [transmit]
  split
  · rename_i tcp h
    rw [h] at he
    exact ⟨he.trans (sendMessage_endpoint send _ tcp), rfl, rfl⟩
  · rename_i e tcp _ h
    rw [h] at he
    exact ⟨he, rfl, rfl⟩

theorem awaitReply_endpoint (wait : WaitScript) (timeout : Int) (c : RelayController) :
    KeepsEndpoint c (awaitReply wait timeout c).2.2 :=
  ⟨receiveMessage_endpoint wait 256 timeout c.tcpClient, rfl, rfl⟩

theorem parseRelayStateResponse_endpoint (response : Bytes) (c : RelayController) :
    KeepsEndpoint c (parseRelayStateResponse response c).2 := by
  rw [parseRelayStateResponse]
  split <;> exact ⟨⟨rfl, rfl⟩, rfl, rfl⟩

theorem processResponse_endpoint (command expected : Bytes) (c : RelayController) :
    KeepsEndpoint c (processResponse command expected c).2 := by
  rcases processResponse_snd command expected c with h | h
  · rw [h]
    exact .refl c
  · rw [h]
    exact parseRelayStateResponse_endpoint (cstr c.response) c

theorem sendCommand_endpoint (x : Exchange) (command expected : Bytes) (timeout : Int)
    (c : RelayController) : KeepsEndpoint c (sendCommand x command expected timeout c).2 := by
  have ht := transmit_endpoint x.ensure x.send command c
  rw [sendCommand]
  split
  · rename_i c₁ h
    rw [h] at ht
    have ha := awaitReply_endpoint x.wait (commandTimeout command timeout) c₁
    split
    · rename_i got c₂ h
      rw [h] at ha
      exact (ht.trans ha).trans (processResponse_endpoint command expected c₂)
    · rename_i e got c₂ _ h
      rw [h] at ha
      exact ht.trans ha
  · rename_i e c₁ _ h
    rw [h] at ht
    exact ht

theorem queryStates_endpoint (xs : List Exchange) (c : RelayController) :
    KeepsEndpoint c (queryStates xs c) :=
  queryStates_keeps KeepsEndpoint.refl KeepsEndpoint.trans
    (fun x c => sendCommand_endpoint x stateCmd (text "OK") 500 c) xs c

structure Agree (c : RelayController) : Prop where
  host : c.tcpClient.host = c.tcpHost
  port : c.tcpClient.port = c.tcpPort

theorem agree_def {c : RelayController} :
    Agree c ↔ c.tcpClient.host = c.tcpHost ∧ c.tcpClient.port = c.tcpPort :=
  ⟨fun h => ⟨h.host, h.port⟩, fun h => ⟨h.1, h.2⟩⟩

theorem KeepsEndpoint.agree_iff {c c' : RelayController} (h : KeepsEndpoint c c') :
    Agree c' ↔ Agree c := by
  rw [agree_def, agree_def, h.client.host, h.host, h.client.port, h.port]

theorem init_cases (i : InitScript) (c : RelayController) :
    (c.init i).2.tcpHost = c.tcpHost ∧ (c.init i).2.tcpPort = c.tcpPort ∧
    ((c.tcpHost = [] ∧ c.init i = (.invalidState, c)) ∨
      (c.tcpHost ≠ [] ∧ (c.init i).2.tcpClient.host = cstr c.tcpHost ∧
        (c.init i).2.tcpClient.port = c.tcpPort)) := by
  rw [RelayController.init]
  by_cases hn : c.tcpHost = []
  · rw [if_pos hn]
    exact ⟨rfl, rfl, Or.inl ⟨hn, rfl⟩⟩
  · rw [if_neg hn]
    obtain ⟨hh, hp⟩ := init_endpoint (cstr c.tcpHost) c.tcpPort i.attempts c.tcpClient
    split
    · rename_i tcp h
      rw [h] at hh hp
      have hq := queryStates_endpoint (List.ofFn i.queries) { c with tcpClient := tcp }
      exact ⟨hq.host, hq.port, Or.inr ⟨hn, hq.client.host.trans hh, hq.client.port.trans hp⟩⟩
    · rename_i e tcp _ h
      rw [h] at hh hp
      exact ⟨rfl, rfl, Or.inr ⟨hn, hh, hp⟩⟩

structure Configured (m : ConfigManager) (c : RelayController) : Prop where
  host : c.tcpHost = m.currentConfig.tcpHost.str
  port : c.tcpPort = m.currentConfig.tcpPort

theorem configured_def {m : ConfigManager} {c : RelayController} :
    Configured m c ↔ c.tcpHost = m.currentConfig.tcpHost.str ∧ c.tcpPort = m.currentConfig.tcpPort :=
  ⟨fun h => ⟨h.host, h.port⟩, fun h => ⟨h.1, h.2⟩⟩

theorem configured_updateConfig (w : NvsWrite) (config : AntennaSwitchConfig) (m : ConfigManager)
    (c : RelayController) :
    Configured (Config.updateConfig w config m).2 c ↔
      if config.Checked then c.tcpHost = config.tcpHost.str ∧ c.tcpPort = config.tcpPort
      else Configured m c := by
  rcases updateConfig_cases w config m with ⟨hc, hm⟩ | ⟨hc, hm, -⟩
  · rw [hm, if_neg hc]
  · rw [configured_def, if_pos hc]
    conv_lhs => rw [hm]

inductive Call
  | initializeFull (f : FullScript)
  | setTcpHost (i : InitScript) (w : NvsWrite) (host : Bytes)
  | setTcpPort (w : NvsWrite) (port : UInt16)
  | updateTcpSettings (x : SettingsScript) (host : Bytes) (port : UInt16)

def call (s : System) : Call → Option (EspErr × System)
  | .initializeFull f => some (initializeFull f s)
  | .setTcpHost i w host => some (setTcpHost i w host s)
  | .setTcpPort w port => some (setTcpPort w port s)
  | .updateTcpSettings x host port => setTcpSettings x host port s

def Step (s : System) (a : Call × EspErr) (s' : System) : Prop := call s a.1 = some (a.2, s')

def Setter : Call → Prop
  | .setTcpHost .. => True
  | .setTcpPort .. => True
  | _ => False

/-- After success the next connection goes where the controller points, and after a
setter of the switch, also after its error, that is where the configuration points. -/
def OneEndpoint (a : Call × EspErr) (s : System) : Prop :=
  ∀ c, s.relayController = some c →
    (a.2 = .ok → Agree c) ∧ (Setter a.1 → Configured s.configManager c)

/-- What each call needs: `initialize_full` a valid IP address in time for a configured
host; `set_tcp_host` the configured port at the controller and, if the connection comes
about, a host that the configuration can hold, else the configured one;
`set_tcp_port` the configured host at the controller and, if the port is saved, a client
that points there already; `update_tcp_settings` such a client too, unless it fails. -/
def Steady (s : System) : Call × EspErr → Prop
  | (.initializeFull f, _) => Starts f s → (loaded f s).tcpHost.str ≠ [] → f.validIp
  | (.setTcpHost i _ host, _) => ∀ c, s.relayController = some c →
      c.tcpPort = s.configManager.currentConfig.tcpPort ∧
        if (RelayController.init i { c with tcpHost := cstr host }).1 = .ok ∧
            s.configManager.currentConfig.Checked then (cstr host).length ≤ 15
        else cstr host = s.configManager.currentConfig.tcpHost.str
  | (.setTcpPort w port, _) => ∀ c, s.relayController = some c →
      c.tcpHost = s.configManager.currentConfig.tcpHost.str ∧
        (s.configManager.currentConfig.Checked ∨ port = s.configManager.currentConfig.tcpPort) ∧
        (s.configManager.currentConfig.Checked ∧ w = .success →
          c.tcpClient.host = c.tcpHost ∧ c.tcpClient.port = port)
  | (.updateTcpSettings x host port, _) => ∀ c, s.relayController = some c →
      (host ≠ c.tcpHost ∨ port ≠ c.tcpPort →
        (ensureConnected x.ensure (dropped x.soError c.tcpClient)).1 = .ok) →
      c.tcpClient.host = host ∧ c.tcpClient.port = port

theorem oneEndpoint_some {a : Call × EspErr} {s : System} {c : RelayController}
    (h : s.relayController = some c) :
    OneEndpoint a s ↔ (a.2 = .ok → Agree c) ∧ (Setter a.1 → Configured s.configManager c) := by
  simp [OneEndpoint, h]

theorem oneEndpoint_none {a : Call × EspErr} {s : System} (h : s.relayController = none) :
    OneEndpoint a s := by
  simp [OneEndpoint, h]

theorem setTcpPort_iff (w : NvsWrite) (port : UInt16) (s : System) (e : EspErr) :
    OneEndpoint (.setTcpPort w port, (setTcpPort w port s).1) (setTcpPort w port s).2 ↔
      Steady s (.setTcpPort w port, e) := by
  cases hc : s.relayController with
  | none =>
      refine iff_of_true (oneEndpoint_none ?_) (by simp [Steady, hc])
      rw [setTcpPort, antennaSwitchSetTcpPort, hc]
      rfl
  | some c =>
      let config : AntennaSwitchConfig := { s.configManager.currentConfig with tcpPort := port }
      have hr : setTcpPort w port s =
          ((Config.updateConfig w config s.configManager).1,
            { s with
              configManager := (Config.updateConfig w config s.configManager).2
              relayController := some { c with tcpPort := port } }) := by
        rw [setTcpPort, antennaSwitchSetTcpPort, hc]
        rfl
      have ha : Agree { c with tcpPort := port } ↔
          c.tcpClient.host = c.tcpHost ∧ c.tcpClient.port = port := agree_def
      rw [hr, oneEndpoint_some rfl, updateConfig_fst_ok_iff, configured_updateConfig, ha]
      simp only [Steady, hc, Option.some.injEq, forall_eq', Setter, forall_const]
      by_cases hchecked : s.configManager.currentConfig.Checked
      · have hc' : config.Checked := hchecked
        simp only [hc', hchecked, if_true, true_and, true_or]
        tauto
      · have hc' : ¬ config.Checked := hchecked
        simp only [hc', hchecked, if_false, false_and, false_or, false_implies, and_true, true_and]
        exact configured_def

theorem init_agree {c : RelayController} (hne : c.tcpHost ≠ []) (h0 : 0 ∉ c.tcpHost)
    (i : InitScript) : Agree (c.init i).2 := by
  obtain ⟨hh, hp, ⟨h, -⟩ | ⟨-, hch, hcp⟩⟩ := init_cases i c
  · exact absurd h hne
  · refine ⟨?_, ?_⟩
    · rw [hch, hh, cstr_eq_self h0]
    · rw [hcp, hp]

theorem host_of_init_ok {i : InitScript} {c : RelayController} (h : (c.init i).1 = .ok) :
    c.tcpHost ≠ [] := by
  obtain ⟨-, -, ⟨-, hr⟩ | ⟨hne, -⟩⟩ := init_cases i c
  · rw [hr] at h
    cases h
  · exact hne

theorem setTcpHost_iff (i : InitScript) (w : NvsWrite) (host : Bytes) (s : System) (e : EspErr) :
    OneEndpoint (.setTcpHost i w host, (setTcpHost i w host s).1) (setTcpHost i w host s).2 ↔
      Steady s (.setTcpHost i w host, e) := by
  cases hc : s.relayController with
  | none => exact iff_of_true (oneEndpoint_none (setTcpHost_none hc)) (by simp [Steady, hc])
  | some c =>
      obtain ⟨hh, hp, -⟩ := init_cases i { c with tcpHost := cstr host }
      change (reinit i host c).2.tcpHost = cstr host at hh
      change (reinit i host c).2.tcpPort = c.tcpPort at hp
      have hstr : (withHost host s.configManager).tcpHost.str = (cstr host).take 15 := by
        rw [withHost, CharArray.str_strncpy, cstr_cstr]
      have hfits : cstr host = (cstr host).take 15 ↔ (cstr host).length ≤ 15 :=
        eq_comm.trans (List.take_eq_self_iff _)
      have hconf : Configured s.configManager (reinit i host c).2 ↔
          cstr host = s.configManager.currentConfig.tcpHost.str ∧
            c.tcpPort = s.configManager.currentConfig.tcpPort := by
        rw [configured_def, hh, hp]
      simp only [Steady, hc, Option.some.injEq, forall_eq']
      by_cases hi : (reinit i host c).1 = .ok
      · have ha : Agree (reinit i host c).2 :=
          init_agree (host_of_init_ok hi) (zero_not_mem_cstr host) i
        rw [setTcpHost_ok hc hi, oneEndpoint_some rfl, configured_updateConfig, hh, hp, hstr, hfits]
        by_cases hchecked : s.configManager.currentConfig.Checked
        · rw [if_pos (show (withHost host s.configManager).Checked from hchecked),
            if_pos ⟨hi, hchecked⟩]
          exact ⟨fun h => (h.2 trivial).symm, fun h => ⟨fun _ => ha, fun _ => h.symm⟩⟩
        · rw [if_neg (show ¬ (withHost host s.configManager).Checked from hchecked),
            if_neg (fun h => hchecked h.2), hconf]
          exact ⟨fun h => (h.2 trivial).symm, fun h => ⟨fun _ => ha, fun _ => h.symm⟩⟩
      · rw [setTcpHost_error hc hi, oneEndpoint_some rfl, hconf, if_neg fun h => hi h.1]
        exact ⟨fun h => (h.2 trivial).symm, fun h => ⟨fun he => absurd he hi, fun _ => h.symm⟩⟩

theorem dropped_endpoint (soError : Bool) (c : TcpClient) : SameEndpoint c (dropped soError c) := by
  have hc := checkConnectionStatus_endpoint soError c
  rw [dropped]
  split
  · rename_i tcp h
    rw [h] at hc
    exact ⟨hc.host, hc.port⟩
  · rename_i tcp h
    rw [h] at hc
    exact hc

/-- The client is told nothing of the new settings: where it connected before, it
connects again. -/
theorem updateTcpSettings_changed {x : SettingsScript} {host : Bytes} {port : UInt16}
    {c : RelayController} (hne : host ≠ c.tcpHost ∨ port ≠ c.tcpPort) :
    (updateTcpSettings x host port c).1 =
        (ensureConnected x.ensure (dropped x.soError c.tcpClient)).1 ∧
      (Agree (updateTcpSettings x host port c).2 ↔
        c.tcpClient.host = host ∧ c.tcpClient.port = port) := by
  have hs := (dropped_endpoint x.soError c.tcpClient).trans (ensureConnected_endpoint x.ensure _)
  have hagree (tcp : TcpClient) (h : SameEndpoint c.tcpClient tcp) :
      Agree { c with tcpHost := host, tcpPort := port, tcpClient := tcp } ↔
        c.tcpClient.host = host ∧ c.tcpClient.port = port := by
    rw [← h.host, ← h.port]
    exact agree_def
  rw [updateTcpSettings, if_pos hne]
  split
  · rename_i tcp h
    rw [h] at hs
    have hk := sendCommand_endpoint x.verify stateCmd (text "OK") 500
      { c with tcpHost := host, tcpPort := port, tcpClient := tcp }
    exact ⟨by rw [h], hk.agree_iff.trans (hagree tcp hs)⟩
  · rename_i e tcp _ h
    rw [h] at hs
    exact ⟨by rw [h], hagree tcp hs⟩

theorem updateTcpSettings_iff (x : SettingsScript) (host : Bytes) (port : UInt16) {s : System}
    {c : RelayController} (hc : s.relayController = some c) (e : EspErr) :
    OneEndpoint (.updateTcpSettings x host port, (updateTcpSettings x host port c).1)
        { s with relayController := some (updateTcpSettings x host port c).2 } ↔
      Steady s (.updateTcpSettings x host port, e) := by
  rw [oneEndpoint_some rfl]
  simp only [Steady, hc, Option.some.injEq, forall_eq', Setter, false_implies, and_true]
  by_cases hne : host ≠ c.tcpHost ∨ port ≠ c.tcpPort
  · obtain ⟨hr, ha⟩ := updateTcpSettings_changed (x := x) hne
    rw [hr, ha]
    tauto
  · have hu : updateTcpSettings x host port c = (.ok, c) := by rw [updateTcpSettings, if_neg hne]
    rw [not_or, not_not, not_not] at hne
    obtain ⟨rfl, rfl⟩ := hne
    rw [hu]
    constructor
    · intro h _
      exact ⟨(h rfl).host, (h rfl).port⟩
    · intro h _
      obtain ⟨hh, hp⟩ := h fun h => by tauto
      exact ⟨hh, hp⟩

/-- The new controller is told the endpoint, its client only by `init`. -/
theorem connect_agree_iff (f : FullScript) (config : AntennaSwitchConfig) :
    Agree (connect f config).1 ↔ (config.tcpHost.str ≠ [] → f.validIp) := by
  by_cases hn : config.tcpHost.str = []
  · have hc : connect f config = (construct, 0) := by
      rw [connect, if_neg fun h => h.1 hn, newController, if_pos hn]
    rw [hc, agree_def]
    exact iff_of_true ⟨rfl, rfl⟩ fun h => absurd hn h
  · have hnew : (newController config).tcpHost = config.tcpHost.str := by
      rw [newController, if_neg hn]
    cases hip : f.validIp with
    | false =>
        have hclient : (newController config).tcpClient.host = [] := by
          rw [newController, if_neg hn]
          rfl
        rw [connect, hip, if_neg nofun]
        refine iff_of_false (fun h => hn ?_) fun h => nomatch h hn
        rw [← hnew, ← h.host, hclient]
    | true =>
        have h0 : 0 ∉ (newController config).tcpHost := hnew ▸ zero_not_mem_cstr _
        have ha := init_agree (hnew ▸ hn) h0 f.init
        refine iff_of_true ?_ fun _ => rfl
        rw [connect, if_pos ⟨hn, hip⟩]
        split
        · rename_i c h
          rw [h] at ha
          exact ha
        · rename_i e c _ h
          rw [h] at ha
          exact ha

theorem initializeFull_iff (f : FullScript) (s : System) (e : EspErr) :
    OneEndpoint (.initializeFull f, (initializeFull f s).1) (initializeFull f s).2 ↔
      Steady s (.initializeFull f, e) := by
  by_cases hs : Starts f s
  · rw [initializeFull_starts hs, oneEndpoint_some rfl, connect_agree_iff]
    exact ⟨fun h _ => h.1 rfl, fun h => ⟨fun _ => h hs, nofun⟩⟩
  · have hne : (initializeFull f s).1 ≠ .ok := fun h => hs (starts_of_initializeFull h)
    exact iff_of_true (fun c _ => ⟨fun h => absurd h hne, nofun⟩) fun h => absurd h hs

theorem oneEndpoint_iff {s s' : System} {a : Call × EspErr} (h : Step s a s') :
    OneEndpoint a s' ↔ Steady s a := by
  obtain ⟨a, e⟩ := a
  cases a with
  | initializeFull f =>
      have h : initializeFull f s = (e, s') := Option.some.inj h
      have hi := initializeFull_iff f s e
      rwa [h] at hi
  | setTcpHost i w host =>
      have h : setTcpHost i w host s = (e, s') := Option.some.inj h
      have hi := setTcpHost_iff i w host s e
      rwa [h] at hi
  | setTcpPort w port =>
      have h : setTcpPort w port s = (e, s') := Option.some.inj h
      have hi := setTcpPort_iff w port s e
      rwa [h] at hi
  | updateTcpSettings x host port =>
      obtain ⟨c, hc, hu⟩ := Option.map_eq_some_iff.mp h
      obtain ⟨rfl, rfl⟩ := Prod.mk.inj hu
      exact updateTcpSettings_iff x host port hc _

/-- The endpoints agree in a run exactly if every call of it meets its condition. -/
theorem oneEndpoint_iff_steady (s : System) (t : List ((Call × EspErr) × System))
    (h : Run Step s t) : (∀ x ∈ t, OneEndpoint x.1 x.2) ↔ Guarded Steady s t :=
  h.forall_iff_guarded (fun _ => True) OneEndpoint trivial
    (fun _ _ _ _ hs hok => ⟨trivial, (oneEndpoint_iff hs).mpr hok⟩)
    (fun _ _ _ _ hs hok => fun hp => hok ((oneEndpoint_iff hs).mp hp))

def history : System → List Call → List ((Call × EspErr) × System)
  | _, [] => []
  | s, a :: as => match call s a with
    | some (e, s') => ((a, e), s') :: history s' as
    | none => []

theorem run_history (s : System) (as : List Call) : Run Step s (history s as) := by
  induction as generalizing s with
  | nil => exact .nil s
  | cons a as ih =>
      rw [history]
      split
      · rename_i e s' h
        exact .cons h (ih s')
      · exact .nil s

def settings : List Call :=
  [.initializeFull (firstBoot true), .setTcpPort .success 12090,
    .setTcpHost (attempts true) .success (text "10.0.0.7")]

theorem oneEndpoint_iff_steady_firstBoot :
    (history poweredOff settings).length = 3 ∧
      ∀ x ∈ history poweredOff settings, OneEndpoint x.1 x.2 := by
  refine ⟨rfl, (oneEndpoint_iff_steady poweredOff _ (run_history _ _)).mpr ⟨?_, ?_, ?_, trivial⟩⟩
  · exact fun _ _ => rfl
  · intro c hc
    obtain rfl := Option.some.inj hc
    exact ⟨by decide, Or.inl (by decide), fun _ => by decide⟩
  · intro c hc
    obtain rfl := Option.some.inj hc
    exact ⟨by decide, by decide⟩

/-- A new port that is saved does not reach the client, which stays at the port it was
connected to. -/
theorem oneEndpoint_fails :
    ¬ ∀ (s : System) (t : List ((Call × EspErr) × System)), s.relayController = none →
      Run Step s t → ∀ x ∈ t, OneEndpoint x.1 x.2 := by
  intro h
  have hp := h poweredOff
    (history poweredOff [.initializeFull (firstBoot true), .setTcpPort .success 5000]) rfl
    (run_history _ _) _ (.tail _ (.head _))
  have ha := (hp _ rfl).1 rfl
  exact absurd ha.port (by decide)

end BandDecoder.Endpoint
