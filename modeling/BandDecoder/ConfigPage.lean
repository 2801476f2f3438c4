import BandDecoder.PostedConfig
import BandDecoder.Runs
import Mathlib.Data.List.Sort

namespace BandDecoder.ConfigPage

open CStrings SwitchConfig Config Cat Web BandCache StateReply PostedDocument PostedBody PostedConfig Runs

/-- `band_info` in the order of its keys, in which a `std::map` is walked. -/
def bandOptions : List BandInfo := bandInfo.insertionSort fun e e' => e.name ≤ e'.name

theorem mem_bandOptions {e : BandInfo} : e ∈ bandOptions ↔ e ∈ bandInfo :=
  List.mem_insertionSort _

theorem length_bandOptions : bandOptions.length = 10 := List.length_insertionSort _ _

theorem bandOptions_ne_nil : bandOptions ≠ [] :=
  List.ne_nil_of_length_pos (by rw [length_bandOptions]; exact Nat.succ_pos 9)

def baudRates : List Int := [1200, 2400, 4800, 9600, 19200, 38400, 57600, 115200]

def parities : List Int := [0, 2, 3]

def stopBits : List Int := [1, 2, 3]

def flowCtrls : List Int := [0, 1, 2, 3]

/-- The option a browser shows in a `select`: the last one marked `selected`, or the
first one if none is marked. -/
def chosen {α : Type} (options : List α) (h : options ≠ []) (selected : α → Bool) : α :=
  (options.filter selected).getLast?.getD (options.head h)

structure Row where
  band : BandInfo
  startFreq : UInt32
  endFreq : UInt32
  ports : List Bool

/-- What stands in the controls of the page; a number input holds the text that was typed
into it. -/
structure Form where
  autoMode : Bool
  numBands : Bytes
  numAntennaPorts : Bytes
  tcpHost : Bytes
  tcpPort : Bytes
  uartBaudRate : Int
  uartParity : Int
  uartStopBits : Int
  uartFlowCtrl : Int
  rows : List Row

def rowOf (config : AntennaSwitchConfig) (i : Nat) : Row where
  band := chosen bandOptions bandOptions_ne_nil fun e =>
    (config.band i).startFreq = e.startFreq && (config.band i).endFreq = e.endFreq
  startFreq := (config.band i).startFreq
  endFreq := (config.band i).endFreq
  ports := (List.range config.numAntennaPorts.toNat).map (config.band i).port

/-- The part of a browser that the page leaves to it: what a control makes of the text of
an attribute, and whether a number input with these bounds lets its text pass. -/
structure Browser where
  shown : Bytes → Bytes
  inRange : Int → Int → Bytes → Bool

def Plain (s : Bytes) : Prop := ∀ b ∈ s, 32 ≤ b ∧ b ≤ 126 ∧ b ≠ 38 ∧ b ≠ 39

def Digits (t : Bytes) : Prop := t ≠ [] ∧ ∀ b ∈ t, isDigit b

/-- A number in plain digits passes if it lies between the bounds. Nothing is said of
the other texts a browser takes, such as `1e4`. -/
structure Browser.Documented (b : Browser) : Prop where
  shown_plain : ∀ s, Plain s → b.shown s = s
  inRange_digits : ∀ low high t, Digits t →
    (b.inRange low high t = true ↔ low ≤ digitsValue t ∧ (digitsValue t : Int) ≤ high)

def loaded (b : Browser) (config : AntennaSwitchConfig) : Form where
  autoMode := config.autoMode
  numBands := decimal config.numBands.toNat
  numAntennaPorts := decimal config.numAntennaPorts.toNat
  tcpHost := b.shown config.tcpHost.str
  tcpPort := decimal config.tcpPort.toNat
  uartBaudRate := chosen baudRates (by decide) fun rate => config.uartBaudRate = rate
  uartParity := chosen parities (by decide) fun v => config.uartParity.toNat = v
  uartStopBits := chosen stopBits (by decide) fun v => config.uartStopBits.toNat = v
  uartFlowCtrl := chosen flowCtrls (by decide) fun v => config.uartFlowCtrl.toNat = v
  rows := (List.range config.numBands.toNat).map (rowOf config)

/-- The page, or nothing where the source returns the empty string. -/
def generateConfigHtml (b : Browser) (config : AntennaSwitchConfig) : Option Form :=
  if config.numBands.toNat ≤ 0 ∨ MAX_BANDS < config.numBands.toNat then none
  else if config.numAntennaPorts.toNat ≤ 0 ∨ MAX_ANTENNA_PORTS < config.numAntennaPorts.toNat then none
  else some (loaded b config)

/-- `parseInt` of the scripts, `none` for NaN: the integer a text starts with, so that
`1e4` is 1. A number input holds no hexadecimal. -/
def parseInt (t : Bytes) : Option Int :=
  let p := subject t
  if p.digits = [] then none
  else some (if p.negative then -(digitsValue p.digits : Int) else digitsValue p.digits)

/-- How often the loops of the scripts run: not at all for NaN. -/
def count (t : Bytes) : Nat := ((parseInt t).getD 0).toNat

def updateFrequencies (row : Row) : Row :=
  { row with startFreq := row.band.startFreq, endFreq := row.band.endFreq }

def updateAntennaPorts (f : Form) : Form :=
  { f with rows := f.rows.map fun row =>
      { row with ports := (List.range (count f.numAntennaPorts)).map fun j => row.ports.getD j false } }

theorem index_lt (i : Nat) : i % bandOptions.length < bandOptions.length :=
  Nat.mod_lt i (by rw [length_bandOptions]; exact Nat.succ_pos 9)

def defaultBand (i : Nat) : BandInfo := bandOptions.get ⟨i % bandOptions.length, index_lt i⟩

/-- A row that was there keeps its band and its ticks, a new one gets the default band
of its index. -/
def updateBandRows (f : Form) : Form :=
  { f with rows := (List.range (count f.numBands)).map fun i =>
      let existing := f.rows[i]?
      let band := (existing.map Row.band).getD (defaultBand i)
      ⟨band, band.startFreq, band.endFreq, (List.range (count f.numAntennaPorts)).map fun j =>
        (existing.bind fun row => row.ports[j]?).getD false⟩ }

/-- What the user does on the page, each with the script its change event runs, and the
runs that the debounced listeners make later. -/
inductive Edit
  | autoMode (b : Bool)
  | numBands (t : Bytes)
  | numAntennaPorts (t : Bytes)
  | tcpHost (s : Bytes)
  | tcpPort (t : Bytes)
  | uartBaudRate (v : Int)
  | uartParity (v : Int)
  | uartStopBits (v : Int)
  | uartFlowCtrl (v : Int)
  | band (i : Nat) (e : BandInfo)
  | port (i j : Nat) (b : Bool)
  | bandRowsTimer
  | antennaPortsTimer

def Offered : Edit → Prop
  | .uartBaudRate v => v ∈ baudRates
  | .uartParity v => v ∈ parities
  | .uartStopBits v => v ∈ stopBits
  | .uartFlowCtrl v => v ∈ flowCtrls
  | .band _ e => e ∈ bandOptions
  | _ => True

def edit : Edit → Form → Form
  | .autoMode b, f => { f with autoMode := b }
  | .numBands t, f => updateBandRows { f with numBands := t }
  | .numAntennaPorts t, f => updateAntennaPorts { f with numAntennaPorts := t }
  | .tcpHost s, f => { f with tcpHost := s }
  | .tcpPort t, f => { f with tcpPort := t }
  | .uartBaudRate v, f => { f with uartBaudRate := v }
  | .uartParity v, f => { f with uartParity := v }
  | .uartStopBits v, f => { f with uartStopBits := v }
  | .uartFlowCtrl v, f => { f with uartFlowCtrl := v }
  | .band i e, f => { f with rows := f.rows.modify i fun row => updateFrequencies { row with band := e } }
  | .port i j b, f => { f with rows := f.rows.modify i fun row => { row with ports := row.ports.set j b } }
  | .bandRowsTimer, f => updateBandRows f
  | .antennaPortsTimer, f => updateAntennaPorts f

def Step (f : Form) (e : Edit) (f' : Form) : Prop := Offered e ∧ f' = edit e f

/-- The browser runs `submitConfig` only if it lets every number input pass. -/
def Form.valid (b : Browser) (f : Form) : Bool :=
  b.inRange 1 MAX_BANDS f.numBands && b.inRange 1 MAX_ANTENNA_PORTS f.numAntennaPorts &&
    b.inRange 1 65535 f.tcpPort

/-- `JSON.stringify` writes NaN as `null`. -/
def jsonNumber : Option Int → Json
  | some v => .number v
  | none => .null

def bandItem (f : Form) (i : Nat) : Json :=
  .object
    [(text "description", ((f.rows[i]?).map fun row => Json.string (text row.band.name)).getD .null),
      (text "antenna_ports", .array ((List.range (count f.numAntennaPorts)).map fun j =>
        .bool (((f.rows[i]?).bind fun row => row.ports[j]?).getD false)))]

def submitConfig (f : Form) : Json :=
  .object
    [(text "auto_mode", .bool f.autoMode), (text "num_bands", jsonNumber (parseInt f.numBands)),
      (text "num_antenna_ports", jsonNumber (parseInt f.numAntennaPorts)),
      (text "tcp_host", .string f.tcpHost), (text "tcp_port", jsonNumber (parseInt f.tcpPort)),
      (text "uart_baud_rate", .number f.uartBaudRate), (text "uart_parity", .number f.uartParity),
      (text "uart_stop_bits", .number f.uartStopBits), (text "uart_flow_ctrl", .number f.uartFlowCtrl),
      (text "bands", .array ((List.range (count f.numBands)).map (bandItem f)))]

def Row.config (row : Row) : BandConfig :=
  ⟨CharArray.strncpy (text row.band.name), row.band.startFreq, row.band.endFreq,
    fun j => row.ports.getD j false⟩

/-- What the handler makes of the posted form: numbers as `parseInt` reads them, and the
host cut to the 15 bytes of its field. -/
def Form.config (f : Form) : AntennaSwitchConfig where
  autoMode := f.autoMode
  numBands := UInt8.ofNat (count f.numBands)
  numAntennaPorts := UInt8.ofInt ((parseInt f.numAntennaPorts).getD 0)
  bands := fun i => ((f.rows[i.val]?).map Row.config).getD BandConfig.zero
  tcpHost := CharArray.strncpy f.tcpHost
  tcpPort := UInt16.ofInt ((parseInt f.tcpPort).getD 0)
  uartBaudRate := f.uartBaudRate
  uartParity := UInt8.ofInt f.uartParity
  uartStopBits := UInt8.ofInt f.uartStopBits
  uartFlowCtrl := UInt8.ofInt f.uartFlowCtrl

structure Presentable (c : AntennaSwitchConfig) : Prop where
  tcpPort : c.tcpPort ≠ 0
  tcpHost : c.tcpHost = CharArray.strncpy c.tcpHost.str
  uartBaudRate : c.uartBaudRate ∈ baudRates
  uartParity : (c.uartParity.toNat : Int) ∈ parities
  uartStopBits : (c.uartStopBits.toNat : Int) ∈ stopBits
  uartFlowCtrl : (c.uartFlowCtrl.toNat : Int) ∈ flowCtrls
  bands : ∀ i : Fin MAX_BANDS, i.val < c.numBands.toNat → ∃ e ∈ bandInfo,
    (c.bands i).description = CharArray.strncpy (text e.name) ∧ (c.bands i).startFreq = e.startFreq ∧
      (c.bands i).endFreq = e.endFreq ∧
      ∀ j : Fin MAX_ANTENNA_PORTS, c.numAntennaPorts.toNat ≤ j.val → (c.bands i).antennaPorts j = false
  rest : ∀ i : Fin MAX_BANDS, c.numBands.toNat ≤ i.val → c.bands i = BandConfig.zero

/-- A configuration is what the controls show, but for the end of a host of more than 15
bytes. -/
structure Form.Shows (f : Form) (c : AntennaSwitchConfig) : Prop where
  autoMode : c.autoMode = f.autoMode
  numBands : c.numBands.toNat = digitsValue f.numBands
  numAntennaPorts : c.numAntennaPorts.toNat = digitsValue f.numAntennaPorts
  tcpHost : c.tcpHost.str = (cstr f.tcpHost).take 15
  tcpPort : c.tcpPort.toNat = digitsValue f.tcpPort
  uartBaudRate : c.uartBaudRate = f.uartBaudRate
  uartParity : (c.uartParity.toNat : Int) = f.uartParity
  uartStopBits : (c.uartStopBits.toNat : Int) = f.uartStopBits
  uartFlowCtrl : (c.uartFlowCtrl.toNat : Int) = f.uartFlowCtrl
  length : f.rows.length = c.numBands.toNat
  rows : ∀ i row, f.rows[i]? = some row →
    (c.band i).description.str = text row.band.name ∧ (c.band i).startFreq = row.band.startFreq ∧
    (c.band i).endFreq = row.band.endFreq ∧
    ∀ j < c.numAntennaPorts.toNat, (c.band i).port j = row.ports.getD j false

def Form.Numeric (f : Form) : Prop :=
  Digits f.numBands ∧ Digits f.numAntennaPorts ∧ Digits f.tcpPort

def Form.Filled (f : Form) : Prop :=
  parseInt f.numBands ≠ none ∧ parseInt f.numAntennaPorts ≠ none ∧ parseInt f.tcpPort ≠ none

structure Form.InBounds (f : Form) : Prop where
  numBands : ∀ n, parseInt f.numBands = some n → 1 ≤ n ∧ n ≤ MAX_BANDS
  numAntennaPorts : ∀ n, parseInt f.numAntennaPorts = some n → 1 ≤ n ∧ n ≤ MAX_ANTENNA_PORTS
  tcpPort : ∀ n, parseInt f.tcpPort = some n → 1 ≤ n ∧ n ≤ 65535

structure Consistent (f : Form) : Prop where
  rows : f.rows.length = count f.numBands
  ports : ∀ row ∈ f.rows, row.ports.length = count f.numAntennaPorts
  bands : ∀ row ∈ f.rows, row.band ∈ bandInfo
  uartBaudRate : f.uartBaudRate ∈ baudRates
  uartParity : f.uartParity ∈ parities
  uartStopBits : f.uartStopBits ∈ stopBits
  uartFlowCtrl : f.uartFlowCtrl ∈ flowCtrls

def Row.Fresh (row : Row) : Prop :=
  row.startFreq = row.band.startFreq ∧ row.endFreq = row.band.endFreq

section Chosen

variable {α : Type} {options : List α} {h : options ≠ []}

theorem chosen_mem {selected : α → Bool} : chosen options h selected ∈ options := by
  rw [chosen]
  cases hl : (options.filter selected).getLast? with
  | none => exact List.head_mem h
  | some a => exact List.mem_of_mem_filter (List.mem_of_getLast? hl)

theorem chosen_selected (selected : α → Bool) {a : α} (ha : a ∈ options) (hs : selected a = true) :
    selected (chosen options h selected) = true := by
  rw [chosen]
  cases hl : (options.filter selected).getLast? with
  | none =>
      have hnil := List.getLast?_eq_none_iff.mp hl
      exact absurd (List.mem_filter.mpr ⟨ha, hs⟩) (hnil ▸ List.not_mem_nil)
  | some b => exact List.of_mem_filter (List.mem_of_getLast? hl)

end Chosen

theorem forall_mem_modify {α : Type} {P : α → Prop} {l : List α} {i : Nat} {g : α → α}
    (h : ∀ a ∈ l, P a) (hg : ∀ a ∈ l, P a → P (g a)) : ∀ a ∈ l.modify i g, P a := by
  intro a ha
  obtain ⟨k, hk⟩ := List.mem_iff_getElem?.mp ha
  rw [List.getElem?_modify] at hk
  cases hb : l[k]? with
  | none =>
      rw [hb] at hk
      cases hk
  | some b =>
      have hmem := List.mem_of_getElem? hb
      rw [hb] at hk
      obtain rfl : (if i = k then g b else b) = a := Option.some.inj hk
      split
      · exact hg b hmem (h b hmem)
      · exact h b hmem

theorem mem_of_row {f : Form} {i : Nat} {row : Row} (h : f.rows[i]? = some row) : row ∈ f.rows :=
  List.mem_of_getElem? h

theorem defaultBand_mem (i : Nat) : defaultBand i ∈ bandInfo :=
  mem_bandOptions.mp (List.get_mem _ _)

theorem Consistent.antennaPorts {f : Form} (h : Consistent f) (v : Bytes) :
    Consistent (updateAntennaPorts { f with numAntennaPorts := v }) := by
  refine ⟨?_, ?_, ?_, h.uartBaudRate, h.uartParity, h.uartStopBits, h.uartFlowCtrl⟩
  · rw [updateAntennaPorts, List.length_map]
    exact h.rows
  · intro row hrow
    obtain ⟨row', -, rfl⟩ := List.mem_map.mp hrow
    rw [List.length_map, List.length_range]
    rfl
  · intro row hrow
    obtain ⟨row', hrow', rfl⟩ := List.mem_map.mp hrow
    exact h.bands row' hrow'

theorem Consistent.bandRows {f : Form} (h : Consistent f) (v : Bytes) :
    Consistent (updateBandRows { f with numBands := v }) := by
  refine ⟨?_, ?_, ?_, h.uartBaudRate, h.uartParity, h.uartStopBits, h.uartFlowCtrl⟩
  · rw [updateBandRows, List.length_map, List.length_range]
  · intro row hrow
    obtain ⟨i, -, rfl⟩ := List.mem_map.mp hrow
    rw [List.length_map, List.length_range]
    rfl
  · intro row hrow
    obtain ⟨i, -, rfl⟩ := List.mem_map.mp hrow
    dsimp only
    cases hi : f.rows[i]? with
    | none => exact defaultBand_mem i
    | some row' => exact h.bands row' (mem_of_row hi)

theorem fresh_bandRows (f : Form) : ∀ row ∈ (updateBandRows f).rows, row.Fresh := by
  intro row hrow
  obtain ⟨i, -, rfl⟩ := List.mem_map.mp hrow
  exact ⟨rfl, rfl⟩

/-- Every edit, and every late run of a script, keeps the table in step with the
number inputs. -/
theorem Consistent.edit {f : Form} (h : Consistent f) {e : Edit} (he : Offered e) :
    Consistent (edit e f) := by
  cases e with
  | autoMode | tcpHost | tcpPort =>
      exact ⟨h.rows, h.ports, h.bands, h.uartBaudRate, h.uartParity, h.uartStopBits, h.uartFlowCtrl⟩
  | uartBaudRate v =>
      exact ⟨h.rows, h.ports, h.bands, he, h.uartParity, h.uartStopBits, h.uartFlowCtrl⟩
  | uartParity v =>
      exact ⟨h.rows, h.ports, h.bands, h.uartBaudRate, he, h.uartStopBits, h.uartFlowCtrl⟩
  | uartStopBits v =>
      exact ⟨h.rows, h.ports, h.bands, h.uartBaudRate, h.uartParity, he, h.uartFlowCtrl⟩
  | uartFlowCtrl v =>
      exact ⟨h.rows, h.ports, h.bands, h.uartBaudRate, h.uartParity, h.uartStopBits, he⟩
  | numBands v => exact h.bandRows v
  | bandRowsTimer => exact h.bandRows f.numBands
  | numAntennaPorts v => exact h.antennaPorts v
  | antennaPortsTimer => exact h.antennaPorts f.numAntennaPorts
  | band i e =>
      refine ⟨?_, ?_, ?_, h.uartBaudRate, h.uartParity, h.uartStopBits, h.uartFlowCtrl⟩
      · exact (List.length_modify _ _ _).trans h.rows
      · exact forall_mem_modify h.ports fun _ _ hl => hl
      · exact forall_mem_modify h.bands fun _ _ _ => mem_bandOptions.mp he
  | port i j b =>
      refine ⟨?_, ?_, ?_, h.uartBaudRate, h.uartParity, h.uartStopBits, h.uartFlowCtrl⟩
      · exact (List.length_modify _ _ _).trans h.rows
      · exact forall_mem_modify h.ports fun _ _ hl => List.length_set.trans hl
      · exact forall_mem_modify h.bands fun _ _ hb => hb

theorem fresh_edit {f : Form} (h : ∀ row ∈ f.rows, row.Fresh) (e : Edit) :
    ∀ row ∈ (edit e f).rows, row.Fresh := by
  cases e with
  | autoMode | tcpHost | tcpPort | uartBaudRate | uartParity | uartStopBits | uartFlowCtrl => exact h
  | numBands | bandRowsTimer => exact fresh_bandRows _
  | numAntennaPorts | antennaPortsTimer =>
      intro row hrow
      obtain ⟨row', hrow', rfl⟩ := List.mem_map.mp hrow
      exact h row' hrow'
  | band i e => exact forall_mem_modify h fun _ _ _ => ⟨rfl, rfl⟩
  | port i j b => exact forall_mem_modify h fun _ _ hf => hf

theorem generateConfigHtml_eq_some {b : Browser} {c : AntennaSwitchConfig} {f : Form} :
    generateConfigHtml b c = some f ↔ c.Checked ∧ loaded b c = f := by
  rw [generateConfigHtml, AntennaSwitchConfig.Checked]
  split
  · exact iff_of_false (Option.some_ne_none f).symm (by omega)
  · split
    · exact iff_of_false (Option.some_ne_none f).symm (by omega)
    · rw [Option.some_inj]
      exact (and_iff_right (by omega)).symm

theorem parseInt_digits {t : Bytes} (h : Digits t) : parseInt t = some (digitsValue t : Int) := by
  rw [parseInt, subject_digits h.1 h.2]
  exact if_neg h.1

theorem digits_decimal (n : Nat) : Digits (decimal n) := ⟨decimal_ne_nil n, isDigit_decimal n⟩

theorem count_digits {t : Bytes} (h : Digits t) : count t = digitsValue t := by
  rw [count, parseInt_digits h]
  rfl

theorem parseInt_decimal (n : Nat) : parseInt (decimal n) = some (n : Int) := by
  rw [parseInt_digits (digits_decimal n), digitsValue_decimal]

theorem count_decimal (n : Nat) : count (decimal n) = n := by
  rw [count_digits (digits_decimal n), digitsValue_decimal]

theorem Form.Numeric.filled {f : Form} (h : f.Numeric) : f.Filled := by
  refine ⟨?_, ?_, ?_⟩
  · rw [parseInt_digits h.1]
    exact Option.some_ne_none _
  · rw [parseInt_digits h.2.1]
    exact Option.some_ne_none _
  · rw [parseInt_digits h.2.2]
    exact Option.some_ne_none _

theorem Form.Numeric.valid_iff {b : Browser} (hb : b.Documented) {f : Form} (h : f.Numeric) :
    f.valid b = true ↔ f.InBounds := by
  rw [valid, Bool.and_eq_true, Bool.and_eq_true, hb.inRange_digits _ _ _ h.1,
    hb.inRange_digits _ _ _ h.2.1, hb.inRange_digits _ _ _ h.2.2]
  constructor
  · rintro ⟨⟨hn, ha⟩, ht⟩
    refine ⟨?_, ?_, ?_⟩
    · rw [parseInt_digits h.1]
      rintro _ ⟨⟩
      exact hn
    · rw [parseInt_digits h.2.1]
      rintro _ ⟨⟩
      exact ha
    · rw [parseInt_digits h.2.2]
      rintro _ ⟨⟩
      exact ht
  · intro hin
    exact ⟨⟨hin.numBands _ (parseInt_digits h.1), hin.numAntennaPorts _ (parseInt_digits h.2.1)⟩,
      hin.tcpPort _ (parseInt_digits h.2.2)⟩

theorem consistent_loaded (b : Browser) (c : AntennaSwitchConfig) : Consistent (loaded b c) := by
  refine ⟨?_, ?_, ?_, chosen_mem, chosen_mem, chosen_mem, chosen_mem⟩
  · rw [loaded, List.length_map, List.length_range, count_decimal]
  · intro row hrow
    obtain ⟨i, -, rfl⟩ := List.mem_map.mp hrow
    rw [rowOf, List.length_map, List.length_range, loaded, count_decimal]
  · intro row hrow
    obtain ⟨i, -, rfl⟩ := List.mem_map.mp hrow
    exact mem_bandOptions.mp chosen_mem

theorem fresh_rowOf {c : AntennaSwitchConfig} {i : Nat}
    (h : ∃ e ∈ bandInfo, (c.band i).startFreq = e.startFreq ∧ (c.band i).endFreq = e.endFreq) :
    (rowOf c i).Fresh := by
  obtain ⟨e, he, hr⟩ := h
  have hs := chosen_selected (h := bandOptions_ne_nil)
    (fun e => (c.band i).startFreq = e.startFreq && (c.band i).endFreq = e.endFreq)
    (mem_bandOptions.mpr he) (by simpa using hr)
  simpa [Row.Fresh, rowOf] using hs

section Document

variable {f : Form} {numBands numAntennaPorts tcpPort : Int}

theorem number?_jsonNumber {v : Option Int} (h : ∀ n, v = some n → -2 ^ 31 ≤ n ∧ n < 2 ^ 31) :
    Json.number? (some (jsonNumber v)) = v := by
  cases v with
  | none => rfl
  | some n =>
      obtain ⟨hlow, hhigh⟩ := h n rfl
      rw [jsonNumber, Json.number?, valueint_intCast hlow hhigh]

theorem number?_option {options : List Int} {v : Int} (hv : v ∈ options)
    (h : ∀ n ∈ options, -2 ^ 31 ≤ n ∧ n < 2 ^ 31) : Json.number? (some (.number v)) = some v := by
  obtain ⟨hlow, hhigh⟩ := h v hv
  rw [Json.number?, valueint_intCast hlow hhigh]

theorem read_iff (hc : Consistent f) (hv : f.InBounds) {n : Numbers} :
    n.Read (submitConfig f) ↔
      parseInt f.numBands = some n.numBands ∧
      parseInt f.numAntennaPorts = some n.numAntennaPorts ∧ parseInt f.tcpPort = some n.tcpPort ∧
      n.uartBaudRate = f.uartBaudRate ∧ n.uartParity = f.uartParity ∧
      n.uartStopBits = f.uartStopBits ∧ n.uartFlowCtrl = f.uartFlowCtrl := by
  obtain ⟨hb, hp, ht⟩ := hv
  simp only [MAX_BANDS, MAX_ANTENNA_PORTS] at hb hp
  have hbands : Json.number? ((submitConfig f).getObjectItem "num_bands") =
      parseInt f.numBands :=
    number?_jsonNumber fun n h => ⟨by have := hb n h; omega, by have := hb n h; omega⟩
  have hports : Json.number? ((submitConfig f).getObjectItem "num_antenna_ports") =
      parseInt f.numAntennaPorts :=
    number?_jsonNumber fun n h => ⟨by have := hp n h; omega, by have := hp n h; omega⟩
  have hport : Json.number? ((submitConfig f).getObjectItem "tcp_port") =
      parseInt f.tcpPort :=
    number?_jsonNumber fun n h => ⟨by have := ht n h; omega, by have := ht n h; omega⟩
  have hbaud : Json.number? ((submitConfig f).getObjectItem "uart_baud_rate") = some f.uartBaudRate :=
    number?_option hc.uartBaudRate (by decide)
  have hparity : Json.number? ((submitConfig f).getObjectItem "uart_parity") = some f.uartParity :=
    number?_option hc.uartParity (by decide)
  have hstop : Json.number? ((submitConfig f).getObjectItem "uart_stop_bits") = some f.uartStopBits :=
    number?_option hc.uartStopBits (by decide)
  have hflow : Json.number? ((submitConfig f).getObjectItem "uart_flow_ctrl") = some f.uartFlowCtrl :=
    number?_option hc.uartFlowCtrl (by decide)
  constructor
  · intro h
    refine ⟨hbands ▸ h.numBands, hports ▸ h.numAntennaPorts, hport ▸ h.tcpPort, ?_, ?_, ?_, ?_⟩
    · exact (Option.some.inj (hbaud ▸ h.uartBaudRate)).symm
    · exact (Option.some.inj (hparity ▸ h.uartParity)).symm
    · exact (Option.some.inj (hstop ▸ h.uartStopBits)).symm
    · exact (Option.some.inj (hflow ▸ h.uartFlowCtrl)).symm
  · rintro ⟨h₁, h₂, h₃, h₄, h₅, h₆, h₇⟩
    exact ⟨hport.trans h₃, h₄ ▸ hbaud, h₅ ▸ hparity, h₆ ▸ hstop, h₇ ▸ hflow, hbands.trans h₁,
      hports.trans h₂⟩

theorem find?_bandInfo {e : BandInfo} (h : e ∈ bandInfo) :
    bandInfo.find? (fun e' => decide (text e'.name = text e.name)) = some e := by
  simp only [bandInfo, List.mem_cons, List.not_mem_nil, or_false] at h
  rcases h with rfl | rfl | rfl | rfl | rfl | rfl | rfl | rfl | rfl | rfl <;> rfl

theorem zero_not_mem_name : ∀ e ∈ bandInfo, 0 ∉ text e.name := by
  decide

theorem portsOf_bandItem {i : Nat} {row : Row} (h : f.rows[i]? = some row)
    (hl : row.ports.length = count f.numAntennaPorts) (j : Fin MAX_ANTENNA_PORTS) :
    portsOf (bandItem f i) j = row.ports.getD j false := by
  have hitems : Json.array? ((bandItem f i).getObjectItem "antenna_ports") =
      some ((List.range (count f.numAntennaPorts)).map fun j =>
        Json.bool (((f.rows[i]?).bind fun row => row.ports[j]?).getD false)) := rfl
  rw [portsOf, hitems]
  dsimp only
  rw [List.getElem?_map, h]
  by_cases hj : j.val < count f.numAntennaPorts
  · rw [List.getElem?_range hj]
    rfl
  · rw [List.getElem?_eq_none (by rw [List.length_range]; omega), List.getD_eq_getElem?_getD,
      List.getElem?_eq_none (by omega)]
    rfl

theorem bandOf_bandItem (hc : Consistent f) {i : Nat} {row : Row} (h : f.rows[i]? = some row) :
    bandOf (some (bandItem f i)) = row.config := by
  have hmem := mem_of_row h
  have hband := hc.bands row hmem
  have hdesc : (bandItem f i).getObjectItem "description" = some (.string (text row.band.name)) := by
    change some (((f.rows[i]?).map fun row => Json.string (text row.band.name)).getD .null) = _
    rw [h]
    rfl
  have hinfo : (Json.string? ((bandItem f i).getObjectItem "description")).bind (fun s =>
      bandInfo.find? fun e => decide (text e.name = s)) = some row.band := by
    rw [hdesc, Json.string?, cstr_eq_self (zero_not_mem_name _ hband), Option.bind_some,
      find?_bandInfo hband]
  have hports : portsOf (bandItem f i) = fun j : Fin MAX_ANTENNA_PORTS => row.ports.getD j.val false := by
    funext j
    exact portsOf_bandItem h (hc.ports row hmem) j
  unfold bandItem at hinfo hports ⊢
  rw [bandOf, hinfo]
  dsimp only
  rw [hports]
  rfl

theorem bands_submitConfig (hc : Consistent f) (i : Nat) :
    bandOf ((List.range (count f.numBands)).map (bandItem f))[i]? =
      ((f.rows[i]?).map Row.config).getD BandConfig.zero := by
  rw [List.getElem?_map]
  by_cases hi : i < count f.numBands
  · obtain ⟨row, hrow⟩ : ∃ row, f.rows[i]? = some row :=
      ⟨_, List.getElem?_eq_getElem (hc.rows.symm ▸ hi)⟩
    rw [List.getElem?_range hi, Option.map_some, bandOf_bandItem hc hrow, hrow]
    rfl
  · have hrow : f.rows[i]? = none := List.getElem?_eq_none (by rw [hc.rows]; omega)
    rw [List.getElem?_eq_none (by rw [List.length_range]; omega), hrow]
    rfl

theorem built_submitConfig (hc : Consistent f) (hv : f.InBounds) {n : Numbers}
    (hr : n.Read (submitConfig f)) : built (submitConfig f) n = f.config := by
  obtain ⟨-, hports, hport, hbaud, hparity, hstop, hflow⟩ := (read_iff hc hv).mp hr
  have hitems : bandItems (submitConfig f) = some ((List.range (count f.numBands)).map (bandItem f)) := rfl
  have hhost : Json.string? ((submitConfig f).getObjectItem "tcp_host") = some (cstr f.tcpHost) := rfl
  have hbands : (fun i : Fin MAX_BANDS => bandOf ((List.range (count f.numBands)).map (bandItem f))[i.val]?) =
      fun i => ((f.rows[i.val]?).map Row.config).getD BandConfig.zero := by
    funext i
    exact bands_submitConfig hc i.val
  rw [built, hitems, hhost]
  dsimp only
  rw [hbands, List.length_map, List.length_range, hbaud, hparity, hstop, hflow, Form.config, hports,
    hport]
  congr 1
  funext i
  rw [CharArray.strncpy, CharArray.strncpy, cstr_cstr]

/-- What the page posts is accepted exactly if no number input is blank, and it is then
what the page shows. -/
theorem configOf_submitConfig (hc : Consistent f) (hv : f.InBounds) {c : AntennaSwitchConfig} :
    configOf (submitConfig f) = .ok c ↔ f.Filled ∧ c = f.config := by
  rw [configOf_ok_iff]
  constructor
  · rintro ⟨n, hr, -, rfl⟩
    obtain ⟨hb, hp, ht, -⟩ := (read_iff hc hv).mp hr
    refine ⟨⟨?_, ?_, ?_⟩, built_submitConfig hc hv hr⟩
    · rw [hb]
      exact Option.some_ne_none _
    · rw [hp]
      exact Option.some_ne_none _
    · rw [ht]
      exact Option.some_ne_none _
  · rintro ⟨⟨hb, hp, ht⟩, rfl⟩
    obtain ⟨numBands, hb⟩ := Option.ne_none_iff_exists'.mp hb
    obtain ⟨numAntennaPorts, hp⟩ := Option.ne_none_iff_exists'.mp hp
    obtain ⟨tcpPort, ht⟩ := Option.ne_none_iff_exists'.mp ht
    have hr : (⟨tcpPort, f.uartBaudRate, f.uartParity, f.uartStopBits, f.uartFlowCtrl, numBands,
        numAntennaPorts⟩ : Numbers).Read (submitConfig f) :=
      (read_iff hc hv).mpr ⟨hb, hp, ht, rfl, rfl, rfl, rfl⟩
    have hbaud : ∀ rate ∈ baudRates, 0 < rate := by decide
    exact ⟨_, hr, ⟨hv.tcpPort tcpPort ht, hbaud _ hc.uartBaudRate, hv.numBands numBands hb,
      hv.numAntennaPorts numAntennaPorts hp⟩, (built_submitConfig hc hv hr).symm⟩

theorem filled_of_configOf {c : AntennaSwitchConfig} (h : configOf (submitConfig f) = .ok c) :
    f.Filled := by
  obtain ⟨n, hr, -⟩ := configOf_ok_iff.mp h
  have hnull (v : Option Int) (m : Int) (hm : Json.number? (some (jsonNumber v)) = some m) :
      v ≠ none := by
    rintro rfl
    exact (Option.some_ne_none m hm.symm).elim
  exact ⟨hnull _ _ hr.numBands, hnull _ _ hr.numAntennaPorts, hnull _ _ hr.tcpPort⟩

theorem count_numBands (hv : f.InBounds) : count f.numBands ≤ MAX_BANDS := by
  have hb := hv.numBands
  rw [count]
  cases hn : parseInt f.numBands with
  | none => exact Nat.zero_le _
  | some n =>
      have := hb n hn
      rw [Option.getD_some]
      omega

theorem numBands_config (hc : Consistent f) (hv : f.InBounds) :
    f.config.numBands.toNat = f.rows.length := by
  have hle := count_numBands hv
  rw [MAX_BANDS] at hle
  rw [hc.rows, Form.config, UInt8.toNat_ofNat']
  omega

theorem checked_config (hc : Consistent f) (hv : f.InBounds) (hf : f.Filled) :
    f.config.Checked := by
  obtain ⟨n, hr, hn, he⟩ := configOf_ok_iff.mp ((configOf_submitConfig hc hv).mpr ⟨hf, rfl⟩)
  obtain ⟨hb, -⟩ := (read_iff hc hv).mp hr
  have hb' := hv.numBands n.numBands hb
  rw [MAX_BANDS] at hb'
  rw [he, checked_built hn]
  intro items hitems
  have hlen : items.length = count f.numBands := by
    obtain rfl := Option.some.inj hitems
    rw [List.length_map, List.length_range]
  rw [hlen, count, hb, Option.getD_some, MAX_BANDS]
  omega

theorem config_bands {i : Fin MAX_BANDS} {row : Row} (h : f.rows[i.val]? = some row) :
    f.config.bands i = row.config := by
  rw [Form.config]
  dsimp only
  rw [h]
  rfl

theorem strncpy_str_strncpy (s : Bytes) :
    (CharArray.strncpy (CharArray.strncpy s : CharArray 16).str : CharArray 16) = CharArray.strncpy s := by
  have hzero : 0 ∉ (cstr s).take 15 := fun h => zero_not_mem_cstr s (List.mem_of_mem_take h)
  funext i
  rw [CharArray.str_strncpy, CharArray.strncpy, CharArray.strncpy, cstr_eq_self hzero]
  split
  · rename_i hi
    simp only [charAt, List.getD_eq_getElem?_getD, List.getElem?_take]
    rw [if_pos (by omega)]
  · rfl

theorem toNat_option {options : List Int} (hr : ∀ v ∈ options, 0 ≤ v ∧ v ≤ 255) {v : Int}
    (h : v ∈ options) : ((UInt8.ofInt v).toNat : Int) ∈ options := by
  obtain ⟨h0, h255⟩ := hr v h
  rw [toNat_ofInt h0 h255]
  exact h

theorem presentable_config (hc : Consistent f) (hv : f.InBounds) (hf : f.Filled) :
    Presentable f.config := by
  refine ⟨?_, (strncpy_str_strncpy _).symm, hc.uartBaudRate, toNat_option (by decide) hc.uartParity,
    toNat_option (by decide) hc.uartStopBits, toNat_option (by decide) hc.uartFlowCtrl,
    fun i hi => ?_, fun i hi => ?_⟩
  · obtain ⟨tcpPort, ht⟩ := Option.ne_none_iff_exists'.mp hf.2.2
    have hb := hv.tcpPort tcpPort ht
    have hn := toNat_ofInt16 (v := tcpPort) (by omega) (by omega)
    intro h0
    rw [Form.config, ht] at h0
    dsimp only [Option.getD_some] at h0
    rw [h0] at hn
    have hz : ((0 : UInt16).toNat : Int) = 0 := rfl
    omega
  · rw [numBands_config hc hv] at hi
    obtain ⟨row, hrow⟩ : ∃ row, f.rows[i.val]? = some row := ⟨_, List.getElem?_eq_getElem hi⟩
    rw [config_bands hrow]
    refine ⟨row.band, hc.bands row (mem_of_row hrow), rfl, rfl, rfl, fun j hj => ?_⟩
    obtain ⟨numAntennaPorts, hp⟩ := Option.ne_none_iff_exists'.mp hf.2.1
    have hb := hv.numAntennaPorts numAntennaPorts hp
    rw [MAX_ANTENNA_PORTS] at hb
    have hn := toNat_ofInt (v := numAntennaPorts) (by omega) (by omega)
    have hlen := hc.ports row (mem_of_row hrow)
    rw [count, hp, Option.getD_some] at hlen
    rw [Form.config, hp] at hj
    dsimp only [Option.getD_some] at hj
    have hout : row.ports[j.val]? = none := List.getElem?_eq_none (by omega)
    change row.ports.getD j.val false = false
    rw [List.getD_eq_getElem?_getD, hout]
    rfl
  · rw [numBands_config hc hv] at hi
    change ((f.rows[i.val]?).map Row.config).getD BandConfig.zero = BandConfig.zero
    rw [List.getElem?_eq_none hi]
    rfl

theorem str_name : ∀ e ∈ bandInfo, (CharArray.strncpy (text e.name) : CharArray 32).str = text e.name := by
  intro e he
  have hshort : ∀ e ∈ bandInfo, (text e.name).length ≤ 31 := by decide
  rw [CharArray.str_strncpy, cstr_eq_self (zero_not_mem_name e he), List.take_of_length_le (hshort e he)]

theorem shows_config (hc : Consistent f) (hv : f.InBounds) (hn : f.Numeric) : f.Shows f.config := by
  obtain ⟨hb, ha, ht⟩ := hn
  have hports := hv.numAntennaPorts _ (parseInt_digits ha)
  have hport := hv.tcpPort _ (parseInt_digits ht)
  have hbyte {options : List Int} (hr : ∀ v ∈ options, 0 ≤ v ∧ v ≤ 255) {v : Int} (h : v ∈ options) :
      ((UInt8.ofInt v).toNat : Int) = v := toNat_ofInt (hr v h).1 (hr v h).2
  have hrows := numBands_config hc hv
  rw [MAX_ANTENNA_PORTS] at hports
  have hnum : f.config.numAntennaPorts.toNat = digitsValue f.numAntennaPorts := by
    have h := toNat_ofInt (v := digitsValue f.numAntennaPorts) (by omega) (by omega)
    rw [Form.config, parseInt_digits ha]
    exact Int.natCast_inj.mp h
  refine ⟨rfl, ?_, hnum, CharArray.str_strncpy f.tcpHost, ?_, rfl, hbyte (by decide) hc.uartParity,
    hbyte (by decide) hc.uartStopBits, hbyte (by decide) hc.uartFlowCtrl, hrows.symm,
    fun i row hrow => ?_⟩
  · rw [hrows, hc.rows, count_digits hb]
  · have h := toNat_ofInt16 (v := digitsValue f.tcpPort) (by omega) (by omega)
    rw [Form.config, parseInt_digits ht]
    exact Int.natCast_inj.mp h
  · have hi := (List.getElem?_eq_some_iff.mp hrow).1
    have hlt : i < MAX_BANDS := by
      rw [hc.rows] at hi
      exact Nat.lt_of_lt_of_le hi (count_numBands hv)
    rw [AntennaSwitchConfig.band, dif_pos hlt, config_bands (i := ⟨i, hlt⟩) hrow]
    refine ⟨str_name _ (hc.bands row (mem_of_row hrow)), rfl, rfl, fun j hj => ?_⟩
    rw [BandConfig.port, dif_pos (by rw [hnum] at hj; rw [MAX_ANTENNA_PORTS]; omega)]
    rfl

end Document

theorem fresh_loaded (b : Browser) {c : AntennaSwitchConfig} (hc : c.Checked) (hb : RealBands c) :
    ∀ row ∈ (loaded b c).rows, row.Fresh := by
  intro row hrow
  obtain ⟨i, hi, rfl⟩ := List.mem_map.mp hrow
  rw [List.mem_range] at hi
  have hlt : i < MAX_BANDS := Nat.lt_of_lt_of_le hi hc.2.1
  apply fresh_rowOf
  rw [AntennaSwitchConfig.band, dif_pos hlt]
  exact hb ⟨i, hlt⟩ hi

theorem post_form {f : Form} (hc : Consistent f) (hv : f.InBounds) (hf : f.Filled)
    {parse : Bytes → Option Json} {r : PostRequest} (hp : Posts parse r (submitConfig f)) (w : NvsWrite)
    (d : Device) :
    ((configPostHandler parse w r d).1 = .ok () ↔ w = .success) ∧
      (configPostHandler parse w r d).2.configManager.currentConfig = f.config ∧
      f.config.Checked ∧ Presentable f.config := by
  rw [configPostHandler_document parse hp]
  have hok := (configOf_submitConfig hc hv).mpr ⟨hf, rfl⟩
  have hchecked := checked_config hc hv hf
  rcases postDocument_cases w (submitConfig f) d with ⟨hno, -⟩ | ⟨c', hc', -, hw, hm⟩
  · exact absurd (accepted_iff.mpr ⟨_, hok, hchecked⟩) hno
  · rw [hok] at hc'
    cases hc'
    exact ⟨hw, hm, hchecked, presentable_config hc hv hf⟩

theorem consistent_edited {b : Browser} {c : AntennaSwitchConfig} {f : Form}
    (h : Reachable Step (loaded b c) f) : Consistent f :=
  h.invariant Consistent (consistent_loaded b c) fun _ _ _ hc hs => by
    rw [hs.2]
    exact hc.edit hs.1

def plainBrowser : Browser :=
  ⟨id, fun low high t => t.all isDigit && low ≤ digitsValue t && digitsValue t ≤ high⟩

theorem documented_plainBrowser : plainBrowser.Documented := by
  refine ⟨fun _ _ => rfl, fun low high t ht => ?_⟩
  have hall : t.all isDigit = true := List.all_eq_true.mpr ht.2
  simp [plainBrowser, hall]

theorem reachable_edits (f : Form) {es : List Edit} (h : ∀ e ∈ es, Offered e) :
    Reachable Step f (es.foldl (fun f e => edit e f) f) := by
  induction es generalizing f with
  | nil => exact .refl
  | cons e es ih =>
      exact .trans (.single ⟨e, h e List.mem_cons_self, rfl⟩)
        (ih (edit e f) fun e' he => h e' (List.mem_cons_of_mem e he))

def threeBands : AntennaSwitchConfig := { resetConfig with numBands := 3 }

def twentyMetres : BandInfo := ⟨"20m", 14000000, 14350000⟩

def edits : List Edit :=
  [.tcpHost (text "10.0.0.8"), .tcpPort (text "12090"), .numAntennaPorts (text "2"),
    .band 1 twentyMetres, .port 1 0 false, .port 1 1 true]

def entered : Form := edits.foldl (fun f e => edit e f) (loaded plainBrowser threeBands)

def enteredContent : Bytes :=
  text "\x7b\"auto_mode\":true,\"num_bands\":3,\"num_antenna_ports\":2," ++
    text "\"tcp_host\":\"10.0.0.8\",\"tcp_port\":12090,\"uart_baud_rate\":9600," ++
    text "\"uart_parity\":0,\"uart_stop_bits\":1,\"uart_flow_ctrl\":0,\"bands\":[" ++
    text "\x7b\"description\":\"160m\",\"antenna_ports\":[true,false]\x7d," ++
    text "\x7b\"description\":\"20m\",\"antenna_ports\":[false,true]\x7d," ++
    text "\x7b\"description\":\"40m\",\"antenna_ports\":[true,false]\x7d]\x7d"

theorem posts_entered (root : Json) :
    Posts (only enteredContent root) (wholeRequest enteredContent) root :=
  posts_only (by decide +kernel) root

theorem page_threeBands :
    generateConfigHtml plainBrowser threeBands = some (loaded plainBrowser threeBands) :=
  generateConfigHtml_eq_some.mpr ⟨by decide, rfl⟩

theorem reachable_entered : Reachable Step (loaded plainBrowser threeBands) entered := by
  refine reachable_edits _ fun e he => ?_
  simp only [edits, List.mem_cons, List.not_mem_nil, or_false] at he
  rcases he with rfl | rfl | rfl | rfl | rfl | rfl
  all_goals first | trivial | exact mem_bandOptions.mpr (by simp [bandInfo, twentyMetres])

theorem numeric_entered : entered.Numeric := by
  refine ⟨?_, ?_, ?_⟩ <;> rw [Digits] <;> decide +kernel

theorem valid_entered : entered.valid plainBrowser = true := by decide +kernel

/-- A byte field comes back through a `select` exactly if it is one of the options. -/
theorem ofInt_chosen_iff {options : List Int} {h : options ≠ []} (hr : ∀ v ∈ options, 0 ≤ v ∧ v ≤ 255)
    (x : UInt8) :
    UInt8.ofInt (chosen options h fun v => x.toNat = v) = x ↔ (x.toNat : Int) ∈ options := by
  constructor
  · intro he
    have hmem : chosen options h (fun v => decide ((x.toNat : Int) = v)) ∈ options := chosen_mem
    obtain ⟨h0, h255⟩ := hr _ hmem
    have hn := toNat_ofInt h0 h255
    rw [he] at hn
    rw [hn]
    exact hmem
  · intro hmem
    have hs := chosen_selected (h := h) (fun v => decide ((x.toNat : Int) = v)) hmem (decide_eq_true rfl)
    rw [← of_decide_eq_true hs]
    apply UInt8.toNat_inj.mp
    have hn := toNat_ofInt (v := x.toNat) (by omega) (by have := x.toNat_lt; omega)
    exact_mod_cast hn

theorem chosen_rate_iff {options : List Int} {h : options ≠ []} (v : Int) :
    chosen options h (fun rate => v = rate) = v ↔ v ∈ options := by
  constructor
  · intro he
    rw [← he]
    exact chosen_mem
  · intro hmem
    have hs := chosen_selected (h := h) (fun rate => decide (v = rate)) hmem (decide_eq_true rfl)
    exact (of_decide_eq_true hs).symm

theorem name_of_start : ∀ e ∈ bandInfo, ∀ e' ∈ bandInfo, e.startFreq = e'.startFreq → e.name = e'.name := by
  decide

/-- A band comes back through its row exactly if it is one of the table's, with no tick
where the page shows no checkbox. -/
theorem config_rowOf_iff {c : AntennaSwitchConfig} (i : Nat) :
    (rowOf c i).config = c.band i ↔ ∃ e ∈ bandInfo,
      (c.band i).description = CharArray.strncpy (text e.name) ∧ (c.band i).startFreq = e.startFreq ∧
        (c.band i).endFreq = e.endFreq ∧ ∀ j : Fin MAX_ANTENNA_PORTS, c.numAntennaPorts.toNat ≤ j.val →
          (c.band i).antennaPorts j = false := by
  have hports (j : Fin MAX_ANTENNA_PORTS) : (rowOf c i).ports.getD j.val false =
      if j.val < c.numAntennaPorts.toNat then (c.band i).antennaPorts j else false := by
    rw [rowOf, List.getD_eq_getElem?_getD, List.getElem?_map]
    split
    · rename_i hj
      rw [List.getElem?_range hj, Option.map_some, Option.getD_some, BandConfig.port, dif_pos j.isLt]
    · rename_i hj
      rw [List.getElem?_eq_none (by rw [List.length_range]; omega)]
      rfl
  constructor
  · intro h
    rw [← h]
    refine ⟨(rowOf c i).band, mem_bandOptions.mp chosen_mem, rfl, rfl, rfl, fun j hj => ?_⟩
    exact (hports j).trans (if_neg (by omega))
  · rintro ⟨e, he, hname, hstart, hend, hbeyond⟩
    have hs := chosen_selected (h := bandOptions_ne_nil)
      (fun e => (c.band i).startFreq = e.startFreq && (c.band i).endFreq = e.endFreq)
      (mem_bandOptions.mpr he) (by simp [hstart, hend])
    simp only [Bool.and_eq_true, decide_eq_true_eq] at hs
    have hband : (rowOf c i).band ∈ bandInfo := mem_bandOptions.mp chosen_mem
    have hn := name_of_start _ hband e he (hs.1.symm.trans hstart)
    have hp : (fun j : Fin MAX_ANTENNA_PORTS => (rowOf c i).ports.getD j.val false) =
        (c.band i).antennaPorts := by
      funext j
      rw [hports j]
      split
      · rfl
      · exact (hbeyond j (by omega)).symm
    rw [Row.config, hp, hn, ← hname]
    exact congrArg₂ (fun a b => (⟨(c.band i).description, a, b, (c.band i).antennaPorts⟩ : BandConfig))
      hs.1.symm hs.2.symm

attribute [ext] AntennaSwitchConfig

section Unchanged

variable {b : Browser} {c : AntennaSwitchConfig}

theorem config_loaded_bands (b : Browser) (c : AntennaSwitchConfig) (i : Fin MAX_BANDS) :
    (loaded b c).config.bands i =
      if i.val < c.numBands.toNat then (rowOf c i).config else BandConfig.zero := by
  change ((((List.range c.numBands.toNat).map (rowOf c))[i.val]?).map Row.config).getD BandConfig.zero = _
  rw [List.getElem?_map]
  split
  · rename_i hi
    rw [List.getElem?_range hi]
    rfl
  · rename_i hi
    rw [List.getElem?_eq_none (by rw [List.length_range]; omega)]
    rfl

theorem presentable_iff (hb : b.Documented) (hc : c.Checked) (hp : Plain c.tcpHost.str) :
    Presentable c ↔ c.tcpPort ≠ 0 ∧ (loaded b c).config = c := by
  have hband (i : Fin MAX_BANDS) : c.band i = c.bands i := dif_pos i.isLt
  constructor
  · intro h
    refine ⟨h.tcpPort, ?_⟩
    ext1
    · rfl
    · change UInt8.ofNat (count (decimal c.numBands.toNat)) = c.numBands
      rw [count_decimal]
      exact UInt8.ofNat_toNat
    · apply UInt8.toNat_inj.mp
      have := hc.2.2.2
      rw [MAX_ANTENNA_PORTS] at this
      change (UInt8.ofInt ((parseInt (decimal c.numAntennaPorts.toNat)).getD 0)).toNat = _
      rw [parseInt_decimal]
      exact_mod_cast toNat_ofInt (v := c.numAntennaPorts.toNat) (by omega) (by omega)
    · funext i
      rw [config_loaded_bands]
      split
      · rename_i hi
        have hrow := (config_rowOf_iff (c := c) i).mpr (by rw [hband]; exact h.bands i hi)
        rw [hrow, hband]
      · rename_i hi
        exact (h.rest i (by omega)).symm
    · change CharArray.strncpy (b.shown c.tcpHost.str) = c.tcpHost
      rw [hb.shown_plain _ hp]
      exact h.tcpHost.symm
    · apply UInt16.toNat_inj.mp
      have := c.tcpPort.toNat_lt
      change (UInt16.ofInt ((parseInt (decimal c.tcpPort.toNat)).getD 0)).toNat = _
      rw [parseInt_decimal]
      exact_mod_cast toNat_ofInt16 (v := c.tcpPort.toNat) (by omega) (by omega)
    · exact (chosen_rate_iff _).mpr h.uartBaudRate
    · exact (ofInt_chosen_iff (by decide) _).mpr h.uartParity
    · exact (ofInt_chosen_iff (by decide) _).mpr h.uartStopBits
    · exact (ofInt_chosen_iff (by decide) _).mpr h.uartFlowCtrl
  · rintro ⟨ht, he⟩
    have hbands (i : Fin MAX_BANDS) := (config_loaded_bands b c i).symm.trans
      (congrFun (congrArg AntennaSwitchConfig.bands he) i)
    refine ⟨ht, ?_, ?_, ?_, ?_, ?_, fun i hi => ?_, fun i hi => ?_⟩
    · have hhost : CharArray.strncpy (b.shown c.tcpHost.str) = c.tcpHost :=
        congrArg AntennaSwitchConfig.tcpHost he
      rw [hb.shown_plain _ hp] at hhost
      exact hhost.symm
    · exact (chosen_rate_iff _).mp (congrArg AntennaSwitchConfig.uartBaudRate he)
    · exact (ofInt_chosen_iff (by decide) _).mp (congrArg AntennaSwitchConfig.uartParity he)
    · exact (ofInt_chosen_iff (by decide) _).mp (congrArg AntennaSwitchConfig.uartStopBits he)
    · exact (ofInt_chosen_iff (by decide) _).mp (congrArg AntennaSwitchConfig.uartFlowCtrl he)
    · have hrow := hbands i
      rw [if_pos hi, ← hband] at hrow
      rw [← hband]
      exact (config_rowOf_iff (c := c) i).mp hrow
    · have hrow := hbands i
      rw [if_neg (by omega)] at hrow
      exact hrow.symm

theorem numeric_loaded (b : Browser) (c : AntennaSwitchConfig) : (loaded b c).Numeric :=
  ⟨digits_decimal _, digits_decimal _, digits_decimal _⟩

theorem inBounds_loaded (b : Browser) (hc : c.Checked) : (loaded b c).InBounds ↔ c.tcpPort ≠ 0 := by
  have hport := c.tcpPort.toNat_lt
  have hne : c.tcpPort ≠ 0 ↔ c.tcpPort.toNat ≠ 0 := not_congr (UInt16.toNat_inj (b := 0)).symm
  obtain ⟨hn, hn', hp, hp'⟩ := hc
  rw [hne]
  constructor
  · intro h
    have := h.tcpPort _ (parseInt_decimal _)
    omega
  · intro ht
    refine ⟨?_, ?_, ?_⟩
    · rw [loaded, parseInt_decimal]
      rintro _ ⟨⟩
      omega
    · rw [loaded, parseInt_decimal]
      rintro _ ⟨⟩
      omega
    · rw [loaded, parseInt_decimal]
      rintro _ ⟨⟩
      omega

end Unchanged

/-- Loading the page and submitting it as it came keeps the configuration exactly if
the page can show all of it. -/
theorem unchanged_iff {parse : Bytes → Option Json} {b : Browser} (hb : b.Documented) {d : Device}
    {f : Form} (hf : generateConfigHtml b d.configManager.currentConfig = some f)
    (hp : Plain d.configManager.currentConfig.tcpHost.str) {r : PostRequest}
    (hr : Posts parse r (submitConfig f)) :
    (f.valid b = true ∧ (configPostHandler parse .success r d).1 = .ok () ∧
        (configPostHandler parse .success r d).2.configManager.currentConfig =
          d.configManager.currentConfig) ↔
      Presentable d.configManager.currentConfig := by
  obtain ⟨hchecked, rfl⟩ := generateConfigHtml_eq_some.mp hf
  have hn := numeric_loaded b d.configManager.currentConfig
  rw [presentable_iff hb hchecked hp, hn.valid_iff hb, ← inBounds_loaded b hchecked]
  refine and_congr_right fun hv => ?_
  have hc := consistent_loaded b d.configManager.currentConfig
  obtain ⟨hw, hm, -⟩ := post_form hc hv hn.filled hr .success d
  rw [hm]
  exact and_iff_right (hw.mpr rfl)

def reloaded : Form := loaded plainBrowser entered.config

theorem checked_entered : entered.config.Checked :=
  have hin := (numeric_entered.valid_iff documented_plainBrowser).mp valid_entered
  checked_config (consistent_edited reachable_entered) hin numeric_entered.filled

theorem plain_entered : Plain entered.config.tcpHost.str := by
  have hhost : entered.config.tcpHost.str = text "10.0.0.8" := by decide +kernel
  rw [hhost, Plain]
  decide +kernel

theorem unchanged_iff_entered :
    (reloaded.valid plainBrowser = true ∧
        (configPostHandler (only enteredContent (submitConfig reloaded)) .success
          (wholeRequest enteredContent) (startedWith entered.config)).1 = .ok () ∧
        (configPostHandler (only enteredContent (submitConfig reloaded)) .success
          (wholeRequest enteredContent) (startedWith entered.config)).2.configManager.currentConfig =
            entered.config) ↔
      Presentable entered.config :=
  unchanged_iff documented_plainBrowser (d := startedWith entered.config)
    (generateConfigHtml_eq_some.mpr ⟨checked_entered, rfl⟩) plain_entered (posts_entered _)

end BandDecoder.ConfigPage
