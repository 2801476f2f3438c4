import BandDecoder.RelayState

namespace BandDecoder.RelayLookup

open CStrings SwitchConfig Tcp StateReply Relay SendCommand Runs
open RelayState (RelayOp)

/-- Every call that can change a controller. `stateQuery` is the one that
`verify_relay_state` sends, with its own timeout; what it flushes in front of it
changes the connection only. -/
inductive Op
  | relay (op : RelayOp)
  | init (s : InitScript)
  | updateTcpSettings (s : SettingsScript) (host : Bytes) (port : UInt16)
  | setTcpHost (host : Bytes)
  | setTcpPort (port : UInt16)
  | stateQuery (x : Exchange) (timeout : Int)

def next (c : RelayController) : Op → RelayController
  | .relay op => RelayState.next c op
  | .init s => (RelayController.init s c).2
  | .updateTcpSettings s host port => (updateTcpSettings s host port c).2
  | .setTcpHost host => { c with tcpHost := host }
  | .setTcpPort port => { c with tcpPort := port }
  | .stateQuery x timeout => (sendCommand x stateCmd (text "OK") timeout c).2

def Step (c : RelayController) (op : Op) (c' : RelayController) : Prop := c' = next c op

theorem step_next (c : RelayController) (op : Op) : Step c op (next c op) := rfl

def Total (c : RelayController) : Prop := ∀ relayId, getRelayState relayId c ≠ none

def Reads (x : Exchange) (timeout : Int) (c : RelayController) : Prop :=
  ∃ received c', answered x stateCmd timeout c = some (received, c') ∧
    (parse (cstr c'.response)).isSome = true

def Confirms (x : Exchange) (relay : Int) (c : RelayController) : Prop :=
  1 ≤ relay ∧ relay ≤ NUM_RELAYS ∧ ∃ received c', setAllAnswer x relay c = some (received, c') ∧
    text ",OK" <:+: cstr c'.response

def ReadsOne : List Exchange → RelayController → Prop
  | [], _ => False
  | x :: xs, c => Reads x 500 c ∨ ReadsOne xs (updateAllRelayStates x c).2

def Fills (c : RelayController) : Op → Prop
  | .relay (.turnOffAllRelays x) => ∃ received c',
      answered x (text "RELAY-AOF-255,1,1") 500 c = some (received, c') ∧
      text "255,1,1,OK" <:+: cstr c'.response
  | .relay (.turnOffAllRelaysExcept x relay) => Confirms x relay c
  | .relay (.updateRelayStates x) => Reads x 500 c
  | .relay (.executeRelayChange x relay _) => relay ≠ c.currentlySelectedRelay ∧ Confirms x relay c
  | .relay _ => False
  | .init s => c.tcpHost ≠ [] ∧ ∃ tcp,
      Tcp.init (cstr c.tcpHost) c.tcpPort s.attempts c.tcpClient = (.ok, tcp) ∧
      ReadsOne (List.ofFn s.queries) { c with tcpClient := tcp }
  | .updateTcpSettings s host port => (host ≠ c.tcpHost ∨ port ≠ c.tcpPort) ∧ ∃ tcp,
      ensureConnected s.ensure (dropped s.soError c.tcpClient) = (.ok, tcp) ∧
      Reads s.verify 500 { c with tcpHost := host, tcpPort := port, tcpClient := tcp }
  | .setTcpHost _ => False
  | .setTcpPort _ => False
  | .stateQuery x timeout => Reads x timeout c

def Filled : RelayController → List (Op × RelayController) → Prop
  | _, [] => False
  | c, (op, c') :: t => Fills c op ∨ Filled c' t

def last : RelayController → List (Op × RelayController) → RelayController
  | c, [] => c
  | _, (_, c') :: t => last c' t

def Written (c : RelayController) : Prop := ∃ f states, c.relayStates = writeStates f states

theorem total_of_written {c : RelayController} (h : Written c) : Total c := by
  obtain ⟨f, states, h⟩ := h
  intro relayId
  rw [getRelayState]
  split
  · exact Option.some_ne_none _
  · rw [h, writeStates, if_pos (by omega)]
    exact Option.some_ne_none _

theorem total_congr {c c' : RelayController} (h : c'.relayStates = c.relayStates) :
    Total c' ↔ Total c := by
  have hg : ∀ relayId, getRelayState relayId c' = getRelayState relayId c := by
    intro relayId
    rw [getRelayState, getRelayState, h]
  constructor
  · intro ht relayId
    rw [← hg]
    exact ht relayId
  · intro ht relayId
    rw [hg]
    exact ht relayId

theorem SameRelays.relayStates {c c' : RelayController} (h : SameRelays c c') :
    c'.relayStates = c.relayStates := by
  rw [h]

def Effect (fills : Prop) (c c' : RelayController) : Prop :=
  (¬ fills ∧ c'.relayStates = c.relayStates) ∨ (fills ∧ Written c')

theorem not_reads {x : Exchange} {timeout : Int} {c : RelayController}
    (h : ∀ received c', answered x stateCmd timeout c = some (received, c') →
      parse (cstr c'.response) = none) : ¬ Reads x timeout c := by
  rintro ⟨received, c', ha, hp⟩
  rw [h received c' ha] at hp
  cases hp

theorem reads_of_parse {x : Exchange} {timeout : Int} {c c' : RelayController} {received : Bytes}
    {v : BitVec 16} (ha : answered x stateCmd timeout c = some (received, c'))
    (hp : parse (cstr c'.response) = some v) : Reads x timeout c :=
  ⟨received, c', ha, by rw [hp]; rfl⟩

theorem written_takePattern (v : BitVec 16) (c : RelayController) : Written (takePattern v c) :=
  ⟨_, _, rfl⟩

theorem stateQuery_effect (x : Exchange) (timeout : Int) (c : RelayController) :
    Effect (Reads x timeout c) c (sendCommand x stateCmd (text "OK") timeout c).2 := by
  rcases stateQuery_cases x timeout c with ⟨e, c', -, hc, hno, hs⟩ | ⟨received, c', v, -, ha, hp, hs⟩
  · rw [hs]
    exact Or.inl ⟨not_reads hno, SameRelays.relayStates hc⟩
  · rw [hs]
    exact Or.inr ⟨reads_of_parse ha hp, written_takePattern v c'⟩

theorem updateRelayStates_snd (x : Exchange) (c : RelayController) :
    (updateRelayStates x c).2 = (sendCommand x stateCmd (text "OK") 500 c).2 := by
  rw [updateRelayStates, updateAllRelayStates]
  cases sendCommand x stateCmd (text "OK") 500 c with
  | mk e c' => cases e <;> rfl

theorem queryStates_failed {x : Exchange} {c c' : RelayController} {e : EspErr} (he : e ≠ .ok)
    (h : updateAllRelayStates x c = (e, c')) (xs : List Exchange) :
    queryStates (x :: xs) c = queryStates xs c' := by
  rw [queryStates, h]
  cases e with
  | ok => exact absurd rfl he
  | _ => rfl

/-- The queries behind a connection fill the map with the first reply that parses. -/
theorem queryStates_effect (xs : List Exchange) (c : RelayController) :
    Effect (ReadsOne xs c) c (queryStates xs c) := by
  induction xs generalizing c with
  | nil => exact Or.inl ⟨id, rfl⟩
  | cons x xs ih =>
      have hi := ih (updateAllRelayStates x c).2
      rw [ReadsOne]
      rcases stateQuery_cases x 500 c with
        ⟨e, c', he, hc, hno, hs⟩ | ⟨received, c', v, -, ha, hp, hs⟩
      · have hu : updateAllRelayStates x c = (e, c') := hs
        rw [hu] at hi ⊢
        rw [queryStates_failed he hu]
        rcases hi with ⟨hn, hk⟩ | ⟨hn, hw⟩
        · exact Or.inl ⟨fun h => h.elim (not_reads hno) hn, hk.trans (SameRelays.relayStates hc)⟩
        · exact Or.inr ⟨Or.inr hn, hw⟩
      · have hu : updateAllRelayStates x c = (.ok, takePattern v c') := hs
        rw [queryStates, hu]
        exact Or.inr ⟨Or.inl (reads_of_parse ha hp), written_takePattern v c'⟩

theorem turnOffAllRelaysExcept_effect (x : Exchange) (relay : Int) (c : RelayController) :
    Effect (Confirms x relay c) c (turnOffAllRelaysExcept x relay c).2 := by
  by_cases hr : 1 ≤ relay ∧ relay ≤ NUM_RELAYS
  · rcases turnOffAllRelaysExcept_cases x hr.1 hr.2 c with
      ⟨e, c', -, hc, hno, ht⟩ | ⟨received, c', -, ha, hok, ht⟩
    · rw [ht]
      refine Or.inl ⟨?_, SameRelays.relayStates hc⟩
      rintro ⟨-, -, received, c'', ha, hok⟩
      exact hno received c'' ha hok
    · rw [ht]
      exact Or.inr ⟨⟨hr.1, hr.2, received, c', ha, hok⟩, _, _, rfl⟩
  · rw [turnOffAllRelaysExcept_range x hr]
    exact Or.inl ⟨fun h => hr ⟨h.1, h.2.1⟩, rfl⟩

theorem executeRelayChange_effect (x : Exchange) (relay band : Int) (c : RelayController) :
    Effect (relay ≠ c.currentlySelectedRelay ∧ Confirms x relay c) c
      (executeRelayChange x relay band c).2 := by
  by_cases hsel : relay = c.currentlySelectedRelay
  · rw [executeRelayChange, if_pos hsel]
    exact Or.inl ⟨fun h => h.1 hsel, rfl⟩
  · have he := turnOffAllRelaysExcept_effect x relay c
    have hsnd : (executeRelayChange x relay band c).2.relayStates =
        (turnOffAllRelaysExcept x relay c).2.relayStates := by
      rw [executeRelayChange_eq x band hsel]
      cases turnOffAllRelaysExcept x relay c with
      | mk e c' => cases e <;> rfl
    rw [Effect, Written, hsnd]
    rcases he with ⟨hn, hk⟩ | ⟨hf, hw⟩
    · exact Or.inl ⟨fun h => hn h.2, hk⟩
    · exact Or.inr ⟨⟨hsel, hf⟩, hw⟩

theorem turnOffAllRelays_effect (x : Exchange) (c : RelayController) :
    Effect (∃ received c', answered x (text "RELAY-AOF-255,1,1") 500 c = some (received, c') ∧
      text "255,1,1,OK" <:+: cstr c'.response) c (turnOffAllRelays x c).2 := by
  rcases turnOffAllRelays_cases x c with ⟨e, c', -, hc, hno, ht⟩ | ⟨received, c', -, ha, hok, ht⟩
  · rw [ht]
    refine Or.inl ⟨?_, SameRelays.relayStates hc⟩
    rintro ⟨received, c'', ha, hok⟩
    exact hno received c'' ha hok
  · rw [ht]
    exact Or.inr ⟨⟨received, c', ha, hok⟩, _, _, rfl⟩

theorem init_effect (s : InitScript) (c : RelayController) :
    Effect (Fills c (.init s)) c (RelayController.init s c).2 := by
  rw [RelayController.init, Fills]
  by_cases hh : c.tcpHost = []
  · rw [if_pos hh]
    exact Or.inl ⟨fun h => h.1 hh, rfl⟩
  · rw [if_neg hh]
    cases ht : Tcp.init (cstr c.tcpHost) c.tcpPort s.attempts c.tcpClient with
    | mk e tcp =>
        cases e with
        | ok =>
            rcases queryStates_effect (List.ofFn s.queries) { c with tcpClient := tcp } with
              ⟨hn, hk⟩ | ⟨hf, hw⟩
            · refine Or.inl ⟨?_, hk⟩
              rintro ⟨-, tcp', htcp, hr⟩
              cases htcp
              exact hn hr
            · exact Or.inr ⟨⟨hh, tcp, rfl, hf⟩, hw⟩
        | _ =>
            refine Or.inl ⟨?_, rfl⟩
            rintro ⟨-, tcp', htcp, -⟩
            cases htcp

theorem updateTcpSettings_effect (s : SettingsScript) (host : Bytes) (port : UInt16)
    (c : RelayController) :
    Effect (Fills c (.updateTcpSettings s host port)) c (updateTcpSettings s host port c).2 := by
  rw [updateTcpSettings, Fills]
  by_cases hne : host ≠ c.tcpHost ∨ port ≠ c.tcpPort
  · rw [if_pos hne]
    cases he : ensureConnected s.ensure (dropped s.soError c.tcpClient) with
    | mk e tcp =>
        cases e with
        | ok =>
            rcases stateQuery_effect s.verify 500
                { c with tcpHost := host, tcpPort := port, tcpClient := tcp } with
              ⟨hn, hk⟩ | ⟨hf, hw⟩
            · refine Or.inl ⟨?_, hk⟩
              rintro ⟨-, tcp', htcp, hr⟩
              cases htcp
              exact hn hr
            · exact Or.inr ⟨⟨hne, tcp, rfl, hf⟩, hw⟩
        | _ =>
            refine Or.inl ⟨?_, rfl⟩
            rintro ⟨-, tcp', htcp, -⟩
            cases htcp
  · rw [if_neg hne]
    exact Or.inl ⟨fun h => hne h.1, rfl⟩

theorem next_effect (c : RelayController) (op : Op) : Effect (Fills c op) c (next c op) := by
  cases op with
  | relay op =>
      cases op with
      | turnOffAllRelays x => exact turnOffAllRelays_effect x c
      | turnOffAllRelaysExcept x relay => exact turnOffAllRelaysExcept_effect x relay c
      | updateRelayStates x =>
          have hs := stateQuery_effect x 500 c
          rw [← updateRelayStates_snd] at hs
          exact hs
      | executeRelayChange x relay band => exact executeRelayChange_effect x relay band c
      | setRelayForAntenna relay band =>
          exact Or.inl ⟨id, (RelayState.untouched_setRelayForAntenna relay band c).states⟩
      | setRelay relay state => exact Or.inl ⟨id, (RelayState.untouched_setRelay relay state c).states⟩
      | connection tcp => exact Or.inl ⟨id, rfl⟩
  | init s => exact init_effect s c
  | updateTcpSettings s host port => exact updateTcpSettings_effect s host port c
  | setTcpHost host => exact Or.inl ⟨id, rfl⟩
  | setTcpPort port => exact Or.inl ⟨id, rfl⟩
  | stateQuery x timeout => exact stateQuery_effect x timeout c

theorem total_next_iff (c : RelayController) (op : Op) : Total (next c op) ↔ Total c ∨ Fills c op := by
  rcases next_effect c op with ⟨hn, hk⟩ | ⟨hf, hw⟩
  · rw [total_congr hk, or_iff_left hn]
  · exact iff_of_true (total_of_written hw) (Or.inr hf)

theorem total_last_iff {c : RelayController} {t : List (Op × RelayController)} (h : Run Step c t) :
    Total (last c t) ↔ Total c ∨ Filled c t := by
  induction h with
  | nil => rw [Filled, or_false]; rfl
  | @cons c c' op t hs _ ih =>
      rw [last, ih, Filled, hs, total_next_iff, or_assoc]

theorem not_total_construct : ¬ Total construct := fun h => h 1 rfl

/-- After a run from construction no relay query throws exactly when some call of the
run had a reply that the relays were recorded from. -/
theorem total_iff_filled {t : List (Op × RelayController)} (h : Run Step construct t) :
    Total (last construct t) ↔ Filled construct t := by
  rw [total_last_iff h, or_iff_right not_total_construct]

def connecting : EnsureScript :=
  ⟨false, 600, fun _ => ⟨some 54, .done, .ready, false, ⟨false, some (text "OK")⟩⟩⟩

def querying (slices : List Slice) : Exchange :=
  ⟨connecting, ⟨connecting, [.wrote 64]⟩, ⟨0, slices.map fun s => ⟨0, s⟩⟩⟩

def heardOnce : List Op :=
  [.setTcpPort 12090, .relay (.updateRelayStates (querying [])),
    .relay (.updateRelayStates (querying [.data (text "RELAY-STATE-255,0,2,OK\n")]))]

theorem total_iff_filled_host :
    Total (last construct (trace next construct heardOnce)) ∧
      ¬ Total (last construct (trace next construct (heardOnce.take 2))) := by
  have h := total_iff_filled (run_trace step_next construct heardOnce)
  have h₂ := total_iff_filled (run_trace step_next construct (heardOnce.take 2))
  constructor
  · refine h.mpr (Or.inr (Or.inr (Or.inl ⟨_, _, rfl, ?_⟩)))
    decide +kernel
  · rw [h₂]
    rintro (hf | ⟨received, c', ha, -⟩ | hf)
    · exact hf
    · have hnone : answered (querying []) stateCmd 500 { construct with tcpPort := 12090 } = none := rfl
      exact Option.some_ne_none _ (ha.symm.trans hnone)
    · exact hf

/-- A controller that has not heard from its board throws on relay 1. -/
theorem total_fails :
    ¬ ∀ c, Reachable Step construct c → ∀ relayId, getRelayState relayId c ≠ none := by
  intro h
  exact h construct .refl 1 rfl

end BandDecoder.RelayLookup
