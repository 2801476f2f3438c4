import BandDecoder.Web

namespace BandDecoder.PostedDocument

open CStrings SwitchConfig StateReply Web

structure Numbers where
  tcpPort : Int
  uartBaudRate : Int
  uartParity : Int
  uartStopBits : Int
  uartFlowCtrl : Int
  numBands : Int
  numAntennaPorts : Int

namespace Numbers

structure Read (n : Numbers) (root : Json) : Prop where
  tcpPort : Json.number? (root.getObjectItem "tcp_port") = some n.tcpPort
  uartBaudRate : Json.number? (root.getObjectItem "uart_baud_rate") = some n.uartBaudRate
  uartParity : Json.number? (root.getObjectItem "uart_parity") = some n.uartParity
  uartStopBits : Json.number? (root.getObjectItem "uart_stop_bits") = some n.uartStopBits
  uartFlowCtrl : Json.number? (root.getObjectItem "uart_flow_ctrl") = some n.uartFlowCtrl
  numBands : Json.number? (root.getObjectItem "num_bands") = some n.numBands
  numAntennaPorts :
    Json.number? (root.getObjectItem "num_antenna_ports") = some n.numAntennaPorts

structure Valid (n : Numbers) : Prop where
  tcpPort : 0 < n.tcpPort ∧ n.tcpPort ≤ 65535
  uartBaudRate : 0 < n.uartBaudRate
  numBands : 0 < n.numBands ∧ n.numBands ≤ MAX_BANDS
  numAntennaPorts : 0 < n.numAntennaPorts ∧ n.numAntennaPorts ≤ MAX_ANTENNA_PORTS

end Numbers

def bandItems (root : Json) : Option (List Json) := Json.array? (root.getObjectItem "bands")

def built (root : Json) (n : Numbers) : AntennaSwitchConfig where
  autoMode := Json.isTrue (root.getObjectItem "auto_mode")
  numBands := match bandItems root with
    | some items => UInt8.ofNat items.length
    | none => UInt8.ofInt n.numBands
  numAntennaPorts := UInt8.ofInt n.numAntennaPorts
  bands := match bandItems root with
    | some items => fun i => bandOf items[i.val]?
    | none => fun _ => BandConfig.zero
  tcpHost := match Json.string? (root.getObjectItem "tcp_host") with
    | some s => CharArray.strncpy s
    | none => CharArray.zero
  tcpPort := UInt16.ofInt n.tcpPort
  uartBaudRate := n.uartBaudRate
  uartParity := UInt8.ofInt n.uartParity
  uartStopBits := UInt8.ofInt n.uartStopBits
  uartFlowCtrl := UInt8.ofInt n.uartFlowCtrl

theorem bind_ok {α β ε : Type} {x : Except ε α} {f : α → Except ε β} {b : β}
    (h : (x >>= f) = .ok b) : ∃ a, x = .ok a ∧ f a = .ok b := by
  cases x with
  | error e => cases h
  | ok a => exact ⟨a, rfl, h⟩

theorem requireNumber_ok_iff {root : Json} {name message : String} {v : Int} :
    requireNumber root name message = .ok v ↔ Json.number? (root.getObjectItem name) = some v := by
  rw [requireNumber]
  cases Json.number? (root.getObjectItem name) with
  | none => exact ⟨nofun, nofun⟩
  | some u =>
      constructor
      · intro h
        cases h
        rfl
      · intro h
        cases h
        rfl

theorem requireValid_ok_iff {root : Json} {name missing invalid : String} {valid : Int → Bool}
    {v : Int} :
    requireValid root name valid missing invalid = .ok v ↔
      Json.number? (root.getObjectItem name) = some v ∧ valid v = true := by
  rw [requireValid]
  cases hn : requireNumber root name missing with
  | error e =>
      refine ⟨nofun, fun h => ?_⟩
      rw [requireNumber_ok_iff.mpr h.1] at hn
      cases hn
  | ok u =>
      rw [← @requireNumber_ok_iff _ _ missing, hn]
      change (if valid u then Except.ok u else Except.error (badRequest invalid)) = .ok v ↔
        Except.ok u = .ok v ∧ valid v = true
      constructor
      · intro h
        split at h
        · rename_i hu
          cases h
          exact ⟨rfl, hu⟩
        · cases h
      · rintro ⟨h, hv⟩
        cases h
        rw [if_pos hv]

/-- The handler's reading of a document, all errors aside. -/
theorem configOf_ok_iff {root : Json} {c : AntennaSwitchConfig} :
    configOf root = .ok c ↔ ∃ n : Numbers, n.Read root ∧ n.Valid ∧ c = built root n := by
  constructor
  · intro h
    rw [configOf] at h
    obtain ⟨tcpPort, hport, h⟩ := bind_ok h
    obtain ⟨uartBaudRate, hbaud, h⟩ := bind_ok h
    obtain ⟨uartParity, hparity, h⟩ := bind_ok h
    obtain ⟨uartStopBits, hstop, h⟩ := bind_ok h
    obtain ⟨uartFlowCtrl, hflow, h⟩ := bind_ok h
    obtain ⟨numBands, hbands, h⟩ := bind_ok h
    obtain ⟨numAntennaPorts, hports, h⟩ := bind_ok h
    obtain ⟨hport, hport'⟩ := requireValid_ok_iff.mp hport
    obtain ⟨hbaud, hbaud'⟩ := requireValid_ok_iff.mp hbaud
    obtain ⟨hbands, hbands'⟩ := requireValid_ok_iff.mp hbands
    obtain ⟨hports, hports'⟩ := requireValid_ok_iff.mp hports
    simp only [Bool.and_eq_true, decide_eq_true_eq] at hport' hbaud' hbands' hports'
    cases h
    exact ⟨⟨tcpPort, uartBaudRate, uartParity, uartStopBits, uartFlowCtrl, numBands, numAntennaPorts⟩,
      ⟨hport, hbaud, requireNumber_ok_iff.mp hparity, requireNumber_ok_iff.mp hstop,
        requireNumber_ok_iff.mp hflow, hbands, hports⟩, ⟨hport', hbaud', hbands', hports'⟩, rfl⟩
  · rintro ⟨n, hr, hv, rfl⟩
    have hport : tcpPortOf root = .ok n.tcpPort :=
      requireValid_ok_iff.mpr ⟨hr.tcpPort, by simpa using hv.tcpPort⟩
    have hbaud : uartBaudRateOf root = .ok n.uartBaudRate :=
      requireValid_ok_iff.mpr ⟨hr.uartBaudRate, by simpa using hv.uartBaudRate⟩
    have hparity : uartParityOf root = .ok n.uartParity := requireNumber_ok_iff.mpr hr.uartParity
    have hstop : uartStopBitsOf root = .ok n.uartStopBits := requireNumber_ok_iff.mpr hr.uartStopBits
    have hflow : uartFlowCtrlOf root = .ok n.uartFlowCtrl := requireNumber_ok_iff.mpr hr.uartFlowCtrl
    have hbands : numBandsOf root = .ok n.numBands :=
      requireValid_ok_iff.mpr ⟨hr.numBands, by simpa using hv.numBands⟩
    have hports : numAntennaPortsOf root = .ok n.numAntennaPorts :=
      requireValid_ok_iff.mpr ⟨hr.numAntennaPorts, by simpa using hv.numAntennaPorts⟩
    rw [configOf, hport, hbaud, hparity, hstop, hflow, hbands, hports]
    rfl

/-- The document passes every check, the last one on the length of its band table. -/
def Accepted (root : Json) : Prop :=
  ∃ n : Numbers, n.Read root ∧ n.Valid ∧
    ∀ items, bandItems root = some items →
      1 ≤ items.length % 256 ∧ items.length % 256 ≤ MAX_BANDS

theorem terminated_built (root : Json) (n : Numbers) : (built root n).tcpHost.Terminated := by
  rw [built]
  dsimp only
  split
  · exact CharArray.terminated_strncpy (by decide) _
  · exact CharArray.terminated_zero (by decide)

theorem numAntennaPorts_built {root : Json} {n : Numbers} (h : n.Valid) :
    ((built root n).numAntennaPorts.toNat : Int) = n.numAntennaPorts := by
  have hp := h.numAntennaPorts
  simp only [MAX_ANTENNA_PORTS] at hp
  exact toNat_ofInt (by omega) (by omega)

theorem numBands_built_some {root : Json} {items : List Json} (h : bandItems root = some items)
    (n : Numbers) : (built root n).numBands.toNat = items.length % 256 := by
  simp only [built, h]
  exact UInt8.toNat_ofNat'

theorem numBands_built_none {root : Json} {n : Numbers} (h : bandItems root = none)
    (h0 : 0 ≤ n.numBands) (h255 : n.numBands ≤ 255) :
    ((built root n).numBands.toNat : Int) = n.numBands := by
  simp only [built, h]
  exact toNat_ofInt h0 h255

theorem checked_built {root : Json} {n : Numbers} (h : n.Valid) :
    (built root n).Checked ↔ ∀ items, bandItems root = some items →
      1 ≤ items.length % 256 ∧ items.length % 256 ≤ MAX_BANDS := by
  have hports := @numAntennaPorts_built root n h
  have hp := h.numAntennaPorts
  have hb := h.numBands
  simp only [AntennaSwitchConfig.Checked, MAX_ANTENNA_PORTS, MAX_BANDS] at hp hb ⊢
  cases hi : bandItems root with
  | none =>
      have hn := numBands_built_none (n := n) hi (by omega) (by omega)
      refine iff_of_true (by omega) ?_
      intro items he
      cases he
  | some items =>
      have hn := numBands_built_some hi n
      constructor
      · rintro hc _ he
        cases he
        omega
      · intro hc
        have := hc items rfl
        omega

theorem accepted_iff {root : Json} :
    Accepted root ↔ ∃ c, configOf root = .ok c ∧ c.Checked := by
  constructor
  · rintro ⟨n, hr, hv, hb⟩
    exact ⟨built root n, configOf_ok_iff.mpr ⟨n, hr, hv, rfl⟩, (checked_built hv).mpr hb⟩
  · rintro ⟨c, hc, hchecked⟩
    obtain ⟨n, hr, hv, rfl⟩ := configOf_ok_iff.mp hc
    exact ⟨n, hr, hv, (checked_built hv).mp hchecked⟩

end BandDecoder.PostedDocument
