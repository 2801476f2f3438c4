import BandDecoder.RelayState

namespace BandDecoder.TruthfulBoard

open CStrings SwitchConfig Tcp StateReply Relay SendCommand RelayState

def high (v : BitVec 16) : UInt8 := ⟨(v >>> 8).setWidth 8⟩

def low (v : BitVec 16) : UInt8 := ⟨v.setWidth 8⟩

def stateReply (v : BitVec 16) : Bytes := reply stateHeader (high v) (low v)

def aofCommand : Bytes := text "RELAY-AOF-255,1,1"

def aofReply : Bytes := text "RELAY-AOF-255,1,1,OK"

def setAllReply (relay : Int) : Bytes := reply setAllHeader (dataByte1 relay) (dataByte0 relay)

def Answers (x : Exchange) (command : Bytes) (timeout : Int) (answer : Bytes)
    (c : RelayController) : Prop :=
  ∃ c', answered x command timeout c = some (answer, c')

def AnswersSetAll (x : Exchange) (relay : Int) (c : RelayController) : Prop :=
  Answers x (setAllCommand (dataByte1 relay) (dataByte0 relay)) 1000 (setAllReply relay) c

/-- The board answers the commands of a call, and a state query with any pattern: its
outputs may have been changed from outside. -/
def Truthful (c : RelayController) : RelayOp → Prop
  | .turnOffAllRelays x => Answers x aofCommand 500 aofReply c
  | .turnOffAllRelaysExcept x relay => 1 ≤ relay → relay ≤ NUM_RELAYS → AnswersSetAll x relay c
  | .updateRelayStates x => ∃ v, Answers x stateCmd 500 (stateReply v) c
  | .executeRelayChange x relay _ => 1 ≤ relay → relay ≤ NUM_RELAYS →
      relay ≠ c.currentlySelectedRelay → AnswersSetAll x relay c
  | _ => True

theorem combine_high_low (v : BitVec 16) : combine (high v) (low v) = v := by
  apply BitVec.eq_of_getLsbD_eq
  intro i hi
  simp only [combine, high, low, BitVec.getLsbD_or, BitVec.getLsbD_shiftLeft, BitVec.getLsbD_setWidth,
    BitVec.getLsbD_ushiftRight]
  by_cases h : i < 8
  · have hlt : i < 16 := by omega
    simp [h, hlt]
  · have hge : 8 + (i - 8) = i := by omega
    have hlt : i - 8 < 8 := by omega
    have hlt' : i - 8 < 16 := by omega
    simp [h, hge, hlt, hlt', hi]

theorem parse_stateReply (v : BitVec 16) : parse (stateReply v) = some v := by
  rw [stateReply, parse_reply (Or.inl rfl), combine_high_low]

theorem zero_not_mem_reply {header : Bytes} (h : 0 ∉ header) (d1 d0 : UInt8) :
    0 ∉ reply header d1 d0 := by
  have hdec (d : UInt8) : 0 ∉ decimal d.toNat := not_mem_decimal (by decide) d.toNat
  simp only [reply, List.mem_append, List.mem_cons, h, hdec, false_or]
  decide

theorem setAllCommand_reply (d1 d0 : UInt8) :
    setAllCommand d1 d0 ++ text ",OK" = reply setAllHeader d1 d0 := by
  rw [setAllCommand, reply, show text "RELAY-SET_ALL-255," = setAllHeader ++ [44] by decide,
    show text "," = [44] by decide]
  simp

theorem reply_ne_nil (header : Bytes) (d1 d0 : UInt8) : reply header d1 d0 ≠ [] := by
  simp [reply]

/-- Behind a truthful exchange the command has its answer in the buffer. -/
theorem sendCommand_truthful (command expected : Bytes) (timeout : Int) {x : Exchange} {answer : Bytes}
    {c : RelayController} (h : Answers x command (commandTimeout command timeout) answer c)
    (hne : answer ≠ []) (hnul : 0 ∉ answer) :
    ∃ c', SameRelays c c' ∧ cstr c'.response = answer ∧
      sendCommand x command expected timeout c = processResponse command expected c' := by
  obtain ⟨c', ha⟩ := h
  rcases sendCommand_cases x command expected timeout c with
    ⟨e, c₁, -, -, hno, -⟩ | ⟨received, c₁, hc, ha', hs⟩
  · rw [ha] at hno
    cases hno
  · obtain ⟨rfl, rfl⟩ := Prod.mk.inj (Option.some.inj (ha.symm.trans ha'))
    refine ⟨c', hc, ?_, hs⟩
    rw [answered_response ha, if_neg hne, cstr_eq_self hnul]

theorem sendCommand_aof {x : Exchange} {c : RelayController}
    (h : Answers x aofCommand 500 aofReply c) :
    ∃ c', SameRelays c c' ∧ sendCommand x aofCommand (text "255,1,1,OK") 500 c = (.ok, c') := by
  obtain ⟨c', hc, hr, hs⟩ := sendCommand_truthful aofCommand (text "255,1,1,OK") 500 h
    (by decide) (by decide)
  refine ⟨c', hc, ?_⟩
  rw [hs, processResponse, if_neg (by decide), if_neg (by decide), if_pos (by decide), hr,
    if_pos (by decide)]

theorem sameRelays_takePattern {c c' : RelayController} (h : SameRelays c c') (v : BitVec 16) :
    SameRelays (takePattern v c) (takePattern v c') := by
  rw [h]
  rfl

theorem sendCommand_state {x : Exchange} {v : BitVec 16} {c : RelayController}
    (h : Answers x stateCmd 500 (stateReply v) c) :
    ∃ c', SameRelays (takePattern v c) c' ∧ sendCommand x stateCmd (text "OK") 500 c = (.ok, c') := by
  obtain ⟨c', hc, hr, hs⟩ := sendCommand_truthful stateCmd (text "OK") 500 h
    (reply_ne_nil _ _ _) (zero_not_mem_reply (by decide) _ _)
  refine ⟨takePattern v c', sameRelays_takePattern hc v, ?_⟩
  rw [hs, processResponse, if_neg (by decide), if_pos (by decide), hr, parseRelayStateResponse,
    parse_stateReply]

theorem sendCommand_setAll {x : Exchange} {relay : Int} (h1 : 1 ≤ relay) (h16 : relay ≤ NUM_RELAYS)
    {c : RelayController} (h : AnswersSetAll x relay c) :
    ∃ c', SameRelays (takePattern (only relay.toNat) c) c' ∧
      sendCommand x (setAllCommand (dataByte1 relay) (dataByte0 relay))
        (setAllSuffix (dataByte1 relay) (dataByte0 relay)) 500 c = (.ok, c') := by
  rw [AnswersSetAll, ← commandTimeout_setAll (dataByte1 relay) (dataByte0 relay)] at h
  obtain ⟨c', hc, hr, hs⟩ := sendCommand_truthful _ (setAllSuffix (dataByte1 relay) (dataByte0 relay))
    500 h (reply_ne_nil _ _ _) (zero_not_mem_reply (by decide) _ _)
  refine ⟨takePattern (only relay.toNat) c', sameRelays_takePattern hc _, ?_⟩
  have hok : text ",OK" <:+: setAllReply relay := by
    rw [setAllReply, ← setAllCommand_reply]
    exact (List.suffix_append _ _).isInfix
  rw [hs, processResponse, if_pos (setAllCmd_setAllCommand _ _), hr, if_pos hok,
    parseRelayStateResponse, setAllReply, parse_reply (Or.inr rfl), combine_dataBytes h1 h16]

end BandDecoder.TruthfulBoard
