import BandDecoder.Relay
import Mathlib.Tactic.IntervalCases

namespace BandDecoder.SendCommand

open CStrings SwitchConfig Tcp StateReply Relay

/-- The text received in this call and the controller as `send_command` finds it
when it looks at the reply; `none` when the send or the wait fails. -/
def answered (x : Exchange) (command : Bytes) (timeout : Int) (c : RelayController) :
    Option (Bytes × RelayController) :=
  match transmit x.ensure x.send command c with
  | (.ok, c) => match awaitReply x.wait timeout c with
    | (.ok, received, c) => some (received, c)
    | _ => none
  | _ => none

def SameRelays (c c' : RelayController) : Prop :=
  c' = { c with tcpClient := c'.tcpClient, response := c'.response }

theorem SameRelays.trans {c c' c'' : RelayController} (h : SameRelays c c')
    (h' : SameRelays c' c'') : SameRelays c c'' := by
  rw [SameRelays] at h'
  rw [h'] at *
  rw [SameRelays] at h ⊢
  rw [h]

theorem transmit_sameRelays (ensure : EnsureScript) (send : SendScript) (command : Bytes)
    (c : RelayController) : SameRelays c (transmit ensure send command c).2 := by
  rw [transmit]
  split <;> rfl

theorem awaitReply_sameRelays (wait : WaitScript) (timeout : Int) (c : RelayController) :
    SameRelays c (awaitReply wait timeout c).2.2 := rfl

theorem transmit_response (ensure : EnsureScript) (send : SendScript) (command : Bytes)
    (c : RelayController) : (transmit ensure send command c).2.response = c.response := by
  rw [transmit]
  split <;> rfl

theorem answered_response {x : Exchange} {command received : Bytes} {timeout : Int}
    {c c' : RelayController} (h : answered x command timeout c = some (received, c')) :
    c'.response = if received = [] then c.response else received := by
  have hresp := transmit_response x.ensure x.send command c
  rw [answered] at h
  split at h
  · rename_i c₁ ht
    rw [ht] at hresp
    split at h
    · rename_i got c₂ ha
      cases h
      simp only [awaitReply, Prod.mk.injEq] at ha
      obtain ⟨-, hg, rfl⟩ := ha
      rw [← hresp, ← hg]
    · cases h
  · cases h

theorem sendCommand_cases (x : Exchange) (command expected : Bytes) (timeout : Int)
    (c : RelayController) :
    (∃ e c', e ≠ .ok ∧ SameRelays c c' ∧
      answered x command (commandTimeout command timeout) c = none ∧
      sendCommand x command expected timeout c = (e, c')) ∨
    (∃ received c', SameRelays c c' ∧
      answered x command (commandTimeout command timeout) c = some (received, c') ∧
      sendCommand x command expected timeout c = processResponse command expected c') := by
  have hs := transmit_sameRelays x.ensure x.send command c
  rw [sendCommand, answered]
  cases ht : transmit x.ensure x.send command c with
  | mk e c₁ =>
      rw [ht] at hs
      cases e with
      | ok =>
          have hw := awaitReply_sameRelays x.wait (commandTimeout command timeout) c₁
          cases ha : awaitReply x.wait (commandTimeout command timeout) c₁ with
          | mk e' rc =>
              obtain ⟨received, c₂⟩ := rc
              rw [ha] at hw
              have hc := hs.trans hw
              cases e' with
              | ok => exact Or.inr ⟨received, c₂, hc, by simp only [ha], by simp only [ha]⟩
              | _ =>
                  left
                  simp only [ha]
                  exact ⟨_, c₂, EspErr.noConfusion, hc, trivial, rfl⟩
      | _ => exact Or.inl ⟨_, c₁, EspErr.noConfusion, hs, rfl, rfl⟩

theorem combine_dataBytes {relay : Int} (h1 : 1 ≤ relay) (h16 : relay ≤ NUM_RELAYS) :
    combine (dataByte1 relay) (dataByte0 relay) = only relay.toNat := by
  simp only [NUM_RELAYS] at h16
  interval_cases relay <;> decide

theorem setAllCmd_setAllCommand (d1 d0 : UInt8) : setAllCmd <:+: setAllCommand d1 d0 := by
  have h : setAllCmd <+: text "RELAY-SET_ALL-255," := by decide
  obtain ⟨t, ht⟩ := h
  exact ⟨[], t ++ (decimal d1.toNat ++ (text "," ++ decimal d0.toNat)), by
    rw [setAllCommand, ← ht]
    simp only [List.nil_append, List.append_assoc]⟩

theorem commandTimeout_setAll (d1 d0 : UInt8) : commandTimeout (setAllCommand d1 d0) 500 = 1000 := by
  rw [commandTimeout, if_pos (setAllCmd_setAllCommand d1 d0)]
  rfl

def relearn (c : RelayController) : RelayController :=
  (parseRelayStateResponse (cstr c.response) c).2

def setAllAnswer (x : Exchange) (relay : Int) (c : RelayController) :
    Option (Bytes × RelayController) :=
  answered x (setAllCommand (dataByte1 relay) (dataByte0 relay)) 1000 c

/-- A command whose reply is accepted on a pattern alone: it fails, and then no reply
with the pattern was there, or it succeeds on such a reply. -/
theorem sendCommand_accepts (x : Exchange) {command expected pattern : Bytes} (timeout : Int)
    {record : RelayController → RelayController}
    (h : ∀ c, processResponse command expected c =
      if pattern <:+: cstr c.response then (.ok, record c) else (.fail, c))
    (c : RelayController) :
    (∃ e c', e ≠ .ok ∧ SameRelays c c' ∧
      (∀ received c', answered x command (commandTimeout command timeout) c = some (received, c') →
        ¬ pattern <:+: cstr c'.response) ∧
      sendCommand x command expected timeout c = (e, c')) ∨
    (∃ received c', SameRelays c c' ∧
      answered x command (commandTimeout command timeout) c = some (received, c') ∧
      pattern <:+: cstr c'.response ∧
      sendCommand x command expected timeout c = (.ok, record c')) := by
  rcases sendCommand_cases x command expected timeout c with
    ⟨e, c', he, hc, ha, hs⟩ | ⟨received, c', hc, ha, hs⟩
  · refine Or.inl ⟨e, c', he, hc, fun _ _ hn => ?_, hs⟩
    rw [ha] at hn
    cases hn
  · rw [h] at hs
    by_cases hok : pattern <:+: cstr c'.response
    · exact Or.inr ⟨received, c', hc, ha, hok, by rw [hs, if_pos hok]⟩
    · refine Or.inl ⟨.fail, c', EspErr.noConfusion, hc, fun _ _ hn => ?_, by rw [hs, if_neg hok]⟩
      rw [ha] at hn
      cases hn
      exact hok

/-- `turn_off_all_relays_except` succeeds exactly on a buffer with `,OK` in it. -/
theorem turnOffAllRelaysExcept_cases (x : Exchange) {relay : Int} (h1 : 1 ≤ relay)
    (h16 : relay ≤ NUM_RELAYS) (c : RelayController) :
    (∃ e c', e ≠ .ok ∧ SameRelays c c' ∧
      (∀ received c', setAllAnswer x relay c = some (received, c') →
        ¬ text ",OK" <:+: cstr c'.response) ∧
      turnOffAllRelaysExcept x relay c = (e, c')) ∨
    (∃ received c', SameRelays c c' ∧ setAllAnswer x relay c = some (received, c') ∧
      text ",OK" <:+: cstr c'.response ∧
      turnOffAllRelaysExcept x relay c = (.ok, recordOnly relay (relearn c'))) := by
  have hp (c : RelayController) : processResponse (setAllCommand (dataByte1 relay) (dataByte0 relay))
      (setAllSuffix (dataByte1 relay) (dataByte0 relay)) c =
        if text ",OK" <:+: cstr c.response then (.ok, relearn c) else (.fail, c) := by
    rw [processResponse, if_pos (setAllCmd_setAllCommand _ _)]
    rfl
  have hs := sendCommand_accepts x 500 hp c
  rw [commandTimeout_setAll] at hs
  rw [turnOffAllRelaysExcept, if_neg (by omega)]
  rcases hs with ⟨e, c', he, hc, hno, hs⟩ | ⟨received, c', hc, ha, hok, hs⟩
  · refine Or.inl ⟨e, c', he, hc, hno, ?_⟩
    rw [hs]
    cases e with
    | ok => exact absurd rfl he
    | _ => rfl
  · exact Or.inr ⟨received, c', hc, ha, hok, by rw [hs]⟩

theorem turnOffAllRelaysExcept_range (x : Exchange) {relay : Int}
    (h : ¬ (1 ≤ relay ∧ relay ≤ NUM_RELAYS)) (c : RelayController) :
    turnOffAllRelaysExcept x relay c = (.invalidArg, c) := by
  rw [turnOffAllRelaysExcept, if_pos (by omega)]

/-- Unless its shortcut applies, a relay change is the SET_ALL command and a note
for the band. -/
theorem executeRelayChange_eq (x : Exchange) {relay : Int} (band : Int) {c : RelayController}
    (h : relay ≠ c.currentlySelectedRelay) :
    executeRelayChange x relay band c = match turnOffAllRelaysExcept x relay c with
      | (.ok, c) => (.ok, recordForBand band relay c)
      | (e, c) => (e, c) := by
  rw [executeRelayChange, if_neg h]
  by_cases hr : 1 ≤ relay ∧ relay ≤ NUM_RELAYS
  · rcases turnOffAllRelaysExcept_cases x hr.1 hr.2 c with
      ⟨e, c', he, -, -, ht⟩ | ⟨received, c', -, -, -, ht⟩
    · rw [ht]
      cases e with
      | ok => exact absurd rfl he
      | _ => rfl
    · rw [ht]
      exact if_pos rfl
  · rw [turnOffAllRelaysExcept_range x hr]

theorem executeRelayChange_failed {x : Exchange} {relay : Int} (band : Int) {c c' : RelayController}
    {e : EspErr} (h : relay ≠ c.currentlySelectedRelay) (he : e ≠ .ok)
    (ht : turnOffAllRelaysExcept x relay c = (e, c')) :
    executeRelayChange x relay band c = (e, c') := by
  rw [executeRelayChange_eq x band h, ht]
  cases e with
  | ok => exact absurd rfl he
  | _ => rfl

theorem turnOffAllRelays_cases (x : Exchange) (c : RelayController) :
    (∃ e c', e ≠ .ok ∧ SameRelays c c' ∧
      (∀ received c', answered x (text "RELAY-AOF-255,1,1") 500 c = some (received, c') →
        ¬ text "255,1,1,OK" <:+: cstr c'.response) ∧
      turnOffAllRelays x c = (e, c')) ∨
    (∃ received c', SameRelays c c' ∧
      answered x (text "RELAY-AOF-255,1,1") 500 c = some (received, c') ∧
      text "255,1,1,OK" <:+: cstr c'.response ∧
      turnOffAllRelays x c = (.ok,
        { c' with
          relayStates := writeStates (fun _ => false) c'.relayStates
          currentlySelectedRelay := 0 })) := by
  have hp (c : RelayController) : processResponse (text "RELAY-AOF-255,1,1") (text "255,1,1,OK") c =
      if text "255,1,1,OK" <:+: cstr c.response then (.ok, id c) else (.fail, c) := by
    rw [processResponse, if_neg (by decide), if_neg (by decide), if_pos (by decide)]
    rfl
  have hs := sendCommand_accepts x 500 hp c
  rw [show commandTimeout (text "RELAY-AOF-255,1,1") 500 = 500 by decide] at hs
  rw [turnOffAllRelays]
  rcases hs with ⟨e, c', he, hc, hno, hs⟩ | ⟨received, c', hc, ha, hok, hs⟩
  · refine Or.inl ⟨e, c', he, hc, hno, ?_⟩
    rw [hs]
    cases e with
    | ok => exact absurd rfl he
    | _ => rfl
  · exact Or.inr ⟨received, c', hc, ha, hok, by rw [hs]; rfl⟩

theorem commandTimeout_state (timeout : Int) : commandTimeout stateCmd timeout = timeout :=
  if_neg (by decide)

/-- A state query succeeds exactly on a buffer that parses, and records what it says. -/
theorem stateQuery_cases (x : Exchange) (timeout : Int) (c : RelayController) :
    (∃ e c', e ≠ .ok ∧ SameRelays c c' ∧
      (∀ received c', answered x stateCmd timeout c = some (received, c') →
        parse (cstr c'.response) = none) ∧
      sendCommand x stateCmd (text "OK") timeout c = (e, c')) ∨
    (∃ received c' v, SameRelays c c' ∧ answered x stateCmd timeout c = some (received, c') ∧
      parse (cstr c'.response) = some v ∧
      sendCommand x stateCmd (text "OK") timeout c = (.ok, takePattern v c')) := by
  have hs := sendCommand_cases x stateCmd (text "OK") timeout c
  rw [commandTimeout_state] at hs
  rcases hs with ⟨e, c', he, hc, ha, hs⟩ | ⟨received, c', hc, ha, hs⟩
  · refine Or.inl ⟨e, c', he, hc, fun _ _ hn => ?_, hs⟩
    rw [ha] at hn
    cases hn
  · rw [processResponse, if_neg (by decide), if_pos (by decide), parseRelayStateResponse] at hs
    cases hp : parse (cstr c'.response) with
    | none =>
        rw [hp] at hs
        refine Or.inl ⟨.fail, c', EspErr.noConfusion, hc, fun _ _ hn => ?_, hs⟩
        rw [ha] at hn
        cases hn
        exact hp
    | some v =>
        rw [hp] at hs
        exact Or.inr ⟨received, c', v, hc, ha, hp, hs⟩

theorem updateRelayStates_cases (x : Exchange) (c : RelayController) :
    (∃ e c', SameRelays c c' ∧ updateRelayStates x c = (e, c')) ∨
    (∃ c' v, SameRelays c c' ∧ updateRelayStates x c = (.ok, takePattern v c')) := by
  rw [updateRelayStates, updateAllRelayStates]
  rcases stateQuery_cases x 500 c with ⟨e, c', he, hc, -, hs⟩ | ⟨received, c', v, hc, -, -, hs⟩
  · refine Or.inl ⟨e, c', hc, ?_⟩
    rw [hs]
    cases e <;> rfl
  · exact Or.inr ⟨c', v, hc, by rw [hs]⟩

theorem processResponse_snd (command expected : Bytes) (c : RelayController) :
    (processResponse command expected c).2 = c ∨
      (processResponse command expected c).2 = relearn c := by
  rw [processResponse]
  split
  · split
    · exact Or.inr rfl
    · exact Or.inl rfl
  · split
    · exact Or.inr rfl
    · split
      · split <;> exact Or.inl rfl
      · exact Or.inl rfl

theorem queryStates_keeps {R : RelayController → RelayController → Prop} (hrefl : ∀ c, R c c)
    (htrans : ∀ {c c' c''}, R c c' → R c' c'' → R c c'')
    (hquery : ∀ x c, R c (updateAllRelayStates x c).2) (xs : List Exchange) (c : RelayController) :
    R c (queryStates xs c) := by
  induction xs generalizing c with
  | nil => exact hrefl c
  | cons x xs ih =>
      have hx := hquery x c
      rw [queryStates]
      split
      · rename_i c' h
        rw [h] at hx
        exact hx
      · rename_i e c' _ h
        rw [h] at hx
        exact htrans hx (ih c')

/-! An exchange over a working connection -/

def linkUp : TcpClient := { Tcp.fresh with sock := some 3, isConnected := true }

def undisturbed : EnsureScript :=
  ⟨false, 0, fun _ => ⟨none, .failed, .failed, true, ⟨true, none⟩⟩⟩

def exchange (slices : List Slice) : Exchange :=
  ⟨undisturbed, ⟨undisturbed, [.wrote 64]⟩, ⟨0, slices.map fun s => ⟨0, s⟩⟩⟩

end BandDecoder.SendCommand
