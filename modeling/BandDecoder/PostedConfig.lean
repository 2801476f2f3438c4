import BandDecoder.PostedBody
import BandDecoder.PostedDocument

namespace BandDecoder.PostedConfig

open CStrings SwitchConfig Config Cat Web BandCache StateReply PostedDocument PostedBody

variable (parse : Bytes → Option Json)

structure Posts (r : PostRequest) (root : Json) : Prop where
  size : r.contentLen ≤ MAX_POST_SIZE
  allocated : r.allocated = true
  parsed : ∃ b received, r.received = some (b :: received) ∧
    parse (cstr (contentOf r (b :: received))) = some root

theorem configPostHandler_document {r : PostRequest} {root : Json} (h : Posts parse r root)
    (w : NvsWrite) (d : Device) : configPostHandler parse w r d = postDocument w root d := by
  obtain ⟨b, received, hr, hp⟩ := h.parsed
  rw [configPostHandler, if_neg (Nat.not_lt.mpr h.size), if_neg (by simp [h.allocated]), hr]
  dsimp only
  rw [hp]

def States (root : Json) (name : String) (v : Int) : Prop :=
  root.getObjectItem name = some (.number v)

def portItem (root : Json) (i j : Nat) : Option Json :=
  ((bandItems root).bind fun items => items[i]?).bind fun band =>
    (Json.array? (band.getObjectItem "antenna_ports")).bind fun items => items[j]?

/-- A missing element reads as false. -/
def Agrees : Option Json → Bool → Prop
  | some (.bool b), port => port = b
  | some _, _ => False
  | none, port => port = false

/-- The configuration says what the document says. -/
structure Faithful (root : Json) (c : AntennaSwitchConfig) : Prop where
  numBands : States root "num_bands" c.numBands.toNat
  numAntennaPorts : States root "num_antenna_ports" c.numAntennaPorts.toNat
  tcpPort : States root "tcp_port" c.tcpPort.toNat
  uartBaudRate : States root "uart_baud_rate" c.uartBaudRate
  uartParity : States root "uart_parity" c.uartParity.toNat
  uartStopBits : States root "uart_stop_bits" c.uartStopBits.toNat
  uartFlowCtrl : States root "uart_flow_ctrl" c.uartFlowCtrl.toNat
  tcpHost : root.getObjectItem "tcp_host" = some (.string c.tcpHost.str)
  bands : ∀ items, bandItems root = some items → c.numBands.toNat = items.length
  ports : ∀ (i : Fin MAX_BANDS) (j : Fin MAX_ANTENNA_PORTS), j.val < c.numAntennaPorts.toNat →
    Agrees (portItem root i j) ((c.bands i).antennaPorts j)

/-- What the structure in memory can be: an `int` for the baud rate and a C string for
the host. -/
structure Storable (c : AntennaSwitchConfig) : Prop where
  uartBaudRate : -2 ^ 31 ≤ c.uartBaudRate ∧ c.uartBaudRate < 2 ^ 31
  tcpHost : c.tcpHost.Terminated

/-- What a caller of the handler is promised about a document. -/
structure StoredOrRejected (root : Json) (d : Device) (result : Except HttpError Unit × Device) :
    Prop where
  stored : result.1 = .ok () → Faithful root result.2.configManager.currentConfig
  rejected : (¬ ∃ c, Storable c ∧ Faithful root c) →
    result.1 ≠ .ok () ∧ result.2.configManager.currentConfig = d.configManager.currentConfig

def InRange (root : Json) (name : String) (low high : Int) : Prop :=
  ∃ v : Int, low ≤ v ∧ v < high ∧ States root name v

/-- Every number fits its field, the host fits its buffer, the band table has the
length that the document gives, and its ports are truth values. -/
structure Fits (root : Json) : Prop where
  numBands : InRange root "num_bands" 0 256
  numAntennaPorts : InRange root "num_antenna_ports" 0 256
  tcpPort : InRange root "tcp_port" 0 65536
  uartBaudRate : InRange root "uart_baud_rate" (-2 ^ 31) (2 ^ 31)
  uartParity : InRange root "uart_parity" 0 256
  uartStopBits : InRange root "uart_stop_bits" 0 256
  uartFlowCtrl : InRange root "uart_flow_ctrl" 0 256
  tcpHost : ∃ s, root.getObjectItem "tcp_host" = some (.string s) ∧ s.length ≤ 15 ∧ 0 ∉ s
  bands : ∀ items, bandItems root = some items → States root "num_bands" items.length
  ports : ∀ n : Int, States root "num_antenna_ports" n → ∀ (i : Fin MAX_BANDS)
    (j : Fin MAX_ANTENNA_PORTS), (j.val : Int) < n →
    portItem root i j = none ∨ ∃ b, portItem root i j = some (.bool b)

theorem valueint_intCast {v : Int} (hlow : -2 ^ 31 ≤ v) (hhigh : v < 2 ^ 31) :
    Json.valueint (v : Rat) = v := by
  rw [Json.valueint]
  split
  · rename_i h
    have h' : (2147483647 : Int) ≤ v := by exact_mod_cast h
    omega
  · split
    · rename_i h
      have h' : v ≤ (-2147483648 : Int) := by exact_mod_cast h
      omega
    · split
      · exact Int.floor_intCast v
      · exact Int.ceil_intCast v

theorem States.number? {root : Json} {name : String} {v : Int} (h : States root name v)
    (hlow : -2 ^ 31 ≤ v) (hhigh : v < 2 ^ 31) :
    Json.number? (root.getObjectItem name) = some v := by
  rw [h, Json.number?, valueint_intCast hlow hhigh]

theorem States.unique {root : Json} {name : String} {u v : Int} (hu : States root name u)
    (hv : States root name v) : u = v := by
  rw [States, hu] at hv
  exact_mod_cast Json.number.inj (Option.some.inj hv)

theorem InRange.states {root : Json} {name : String} {low high v : Int}
    (h : InRange root name low high) (hlow : -2 ^ 31 ≤ low) (hhigh : high ≤ 2 ^ 31)
    (hv : Json.number? (root.getObjectItem name) = some v) :
    low ≤ v ∧ v < high ∧ States root name v := by
  obtain ⟨u, hu, hu', hs⟩ := h
  rw [hs.number? (by omega) (by omega)] at hv
  cases hv
  exact ⟨hu, hu', hs⟩

theorem array?_eq_some_iff {o : Option Json} {items : List Json} :
    Json.array? o = some items ↔ o = some (.array items) := by
  constructor
  · intro h
    cases o with
    | none => cases h
    | some j =>
        cases j <;> cases h
        rfl
  · rintro rfl
    rfl

theorem bandOf_antennaPorts (o : Option Json) (j : Fin MAX_ANTENNA_PORTS) :
    (bandOf o).antennaPorts j = Json.isTrue (o.bind fun band =>
      (Json.array? (band.getObjectItem "antenna_ports")).bind fun items => items[j.val]?) := by
  have hports (band : Json) : portsOf band j = Json.isTrue
      ((Json.array? (band.getObjectItem "antenna_ports")).bind fun items => items[j.val]?) := by
    rw [portsOf]
    cases Json.array? (band.getObjectItem "antenna_ports") <;> rfl
  cases o with
  | none => rfl
  | some band =>
      cases band with
      | object members =>
          rw [Option.bind_some, ← hports, bandOf]
          dsimp only
          split <;> rfl
      | null | bool | number | string | array => rfl

theorem antennaPorts_built (root : Json) (n : Numbers) (i : Fin MAX_BANDS)
    (j : Fin MAX_ANTENNA_PORTS) :
    ((built root n).bands i).antennaPorts j = Json.isTrue (portItem root i j) := by
  rw [portItem]
  simp only [built]
  cases bandItems root with
  | none => rfl
  | some items => exact bandOf_antennaPorts items[i.val]? j

theorem agrees_isTrue {o : Option Json} (h : o = none ∨ ∃ b, o = some (.bool b)) :
    Agrees o (Json.isTrue o) := by
  rcases h with rfl | ⟨b, rfl⟩ <;> rfl

theorem Agrees.bool {o : Option Json} {port : Bool} (h : Agrees o port) :
    o = none ∨ ∃ b, o = some (.bool b) := by
  cases o with
  | none => exact Or.inl rfl
  | some j =>
      cases j with
      | bool b => exact Or.inr ⟨b, rfl⟩
      | null | number | string | array | object => exact absurd h id

theorem tcpHost_built {root : Json} {s : Bytes}
    (h : root.getObjectItem "tcp_host" = some (.string s)) (hlen : s.length ≤ 15) (h0 : 0 ∉ s)
    (n : Numbers) : (built root n).tcpHost.str = s := by
  simp only [built, h, Json.string?]
  rw [CharArray.str_strncpy, cstr_cstr, cstr_eq_self h0, List.take_of_length_le hlen]

theorem toNat_ofInt16 {v : Int} (h0 : 0 ≤ v) (h : v < 65536) :
    ((UInt16.ofInt v).toNat : Int) = v := by
  rw [UInt16.ofInt, UInt16.toNat_ofNat']
  omega

theorem faithful_built {root : Json} {n : Numbers} (h : Fits root) (hr : n.Read root) :
    Faithful root (built root n) := by
  obtain ⟨hb0, hb, hbs⟩ := h.numBands.states (by decide) (by decide) hr.numBands
  obtain ⟨hp0, hp, hps⟩ := h.numAntennaPorts.states (by decide) (by decide) hr.numAntennaPorts
  obtain ⟨ht0, ht, hts⟩ := h.tcpPort.states (by decide) (by decide) hr.tcpPort
  obtain ⟨-, -, hus⟩ := h.uartBaudRate.states (by decide) (by decide) hr.uartBaudRate
  obtain ⟨ha0, ha, has⟩ := h.uartParity.states (by decide) (by decide) hr.uartParity
  obtain ⟨hs0, hs, hss⟩ := h.uartStopBits.states (by decide) (by decide) hr.uartStopBits
  obtain ⟨hf0, hf, hfs⟩ := h.uartFlowCtrl.states (by decide) (by decide) hr.uartFlowCtrl
  obtain ⟨s, hhost, hlen, hnul⟩ := h.tcpHost
  have hnum : ((built root n).numBands.toNat : Int) = n.numBands := by
    cases hi : bandItems root with
    | none => exact numBands_built_none hi hb0 (by omega)
    | some items =>
        have he : (items.length : Int) = n.numBands := (h.bands items hi).unique hbs
        have hmod := numBands_built_some hi n
        omega
  have hports : ((built root n).numAntennaPorts.toNat : Int) = n.numAntennaPorts :=
    toNat_ofInt hp0 (by omega)
  have hport : ((built root n).tcpPort.toNat : Int) = n.tcpPort := toNat_ofInt16 ht0 ht
  have hparity : ((built root n).uartParity.toNat : Int) = n.uartParity :=
    toNat_ofInt ha0 (by omega)
  have hstop : ((built root n).uartStopBits.toNat : Int) = n.uartStopBits :=
    toNat_ofInt hs0 (by omega)
  have hflow : ((built root n).uartFlowCtrl.toNat : Int) = n.uartFlowCtrl :=
    toNat_ofInt hf0 (by omega)
  refine ⟨?_, ?_, ?_, hus, ?_, ?_, ?_, ?_, ?_, ?_⟩
  · rw [hnum]
    exact hbs
  · rw [hports]
    exact hps
  · rw [hport]
    exact hts
  · rw [hparity]
    exact has
  · rw [hstop]
    exact hss
  · rw [hflow]
    exact hfs
  · rw [tcpHost_built hhost hlen hnul, hhost]
  · intro items hi
    have he : (items.length : Int) = n.numBands := (h.bands items hi).unique hbs
    omega
  · intro i j hj
    rw [antennaPorts_built]
    exact agrees_isTrue (h.ports n.numAntennaPorts hps i j (by omega))

theorem InRange.read {root : Json} {name : String} {low high : Int} (h : InRange root name low high)
    (hlow : -2 ^ 31 ≤ low) (hhigh : high ≤ 2 ^ 31) :
    ∃ v, Json.number? (root.getObjectItem name) = some v := by
  obtain ⟨v, hv, hv', hs⟩ := h
  exact ⟨v, hs.number? (by omega) (by omega)⟩

theorem Fits.read {root : Json} (h : Fits root) : ∃ n : Numbers, n.Read root := by
  obtain ⟨tcpPort, ht⟩ := h.tcpPort.read (by decide) (by decide)
  obtain ⟨uartBaudRate, hu⟩ := h.uartBaudRate.read (by decide) (by decide)
  obtain ⟨uartParity, ha⟩ := h.uartParity.read (by decide) (by decide)
  obtain ⟨uartStopBits, hs⟩ := h.uartStopBits.read (by decide) (by decide)
  obtain ⟨uartFlowCtrl, hf⟩ := h.uartFlowCtrl.read (by decide) (by decide)
  obtain ⟨numBands, hb⟩ := h.numBands.read (by decide) (by decide)
  obtain ⟨numAntennaPorts, hp⟩ := h.numAntennaPorts.read (by decide) (by decide)
  exact ⟨⟨tcpPort, uartBaudRate, uartParity, uartStopBits, uartFlowCtrl, numBands, numAntennaPorts⟩,
    ⟨ht, hu, ha, hs, hf, hb, hp⟩⟩

theorem inRange_byte {root : Json} {name : String} {v : UInt8} (h : States root name v.toNat) :
    InRange root name 0 256 :=
  ⟨v.toNat, by omega, by have := v.toNat_lt; omega, h⟩

/-- The documents that fit are those that some configuration can say. -/
theorem fits_iff {root : Json} : Fits root ↔ ∃ c, Storable c ∧ Faithful root c := by
  constructor
  · intro h
    obtain ⟨n, hr⟩ := h.read
    obtain ⟨hlow, hhigh, -⟩ := h.uartBaudRate.states (by decide) (by decide) hr.uartBaudRate
    exact ⟨built root n, ⟨⟨hlow, hhigh⟩, terminated_built root n⟩, faithful_built h hr⟩
  · rintro ⟨c, hc, hf⟩
    refine ⟨inRange_byte hf.numBands, inRange_byte hf.numAntennaPorts, ?_, ?_,
      inRange_byte hf.uartParity, inRange_byte hf.uartStopBits, inRange_byte hf.uartFlowCtrl,
      ?_, ?_, ?_⟩
    · exact ⟨c.tcpPort.toNat, by omega, by have := c.tcpPort.toNat_lt; omega, hf.tcpPort⟩
    · exact ⟨c.uartBaudRate, hc.uartBaudRate.1, hc.uartBaudRate.2, hf.uartBaudRate⟩
    · have hlen := CharArray.length_str_lt hc.tcpHost
      exact ⟨c.tcpHost.str, hf.tcpHost, by omega, zero_not_mem_cstr _⟩
    · intro items hi
      rw [← hf.bands items hi]
      exact hf.numBands
    · intro n hn i j hj
      have he := hf.numAntennaPorts.unique hn
      exact (hf.ports i j (by omega)).bool

theorem postDocument_cases (w : NvsWrite) (root : Json) (d : Device) :
    (¬ Accepted root ∧ (postDocument w root d).1 ≠ .ok () ∧
      (postDocument w root d).2.configManager.currentConfig = d.configManager.currentConfig) ∨
    ∃ c, configOf root = .ok c ∧ c.Checked ∧ ((postDocument w root d).1 = .ok () ↔ w = .success) ∧
      (postDocument w root d).2.configManager.currentConfig = c := by
  rw [accepted_iff, postDocument]
  cases hc : configOf root with
  | error e =>
      refine Or.inl ⟨?_, ?_, rfl⟩
      · rintro ⟨c, h, -⟩
        cases h
      · intro h
        cases h
  | ok c =>
      dsimp only
      by_cases hchecked : c.Checked
      · refine Or.inr ⟨c, rfl, hchecked, ?_⟩
        by_cases hw : w = .success
        · subst hw
          rw [updateConfig_success hchecked]
          exact ⟨iff_of_true rfl rfl, rfl⟩
        · obtain ⟨e, flash, he, hu, -⟩ := updateConfig_failed hchecked hw d.configManager
          rw [hu]
          cases e with
          | ok => exact absurd rfl he
          | _ =>
              refine ⟨iff_of_false ?_ hw, rfl⟩
              intro h
              cases h
      · refine Or.inl ⟨?_, ?_⟩
        · rintro ⟨c', h, hc'⟩
          cases h
          exact hchecked hc'
        · rw [updateConfig_refused hchecked]
          refine ⟨?_, rfl⟩
          intro h
          cases h

/-- A posted configuration is stored faithfully or rejected exactly when the document
fits, fails a check of its own, or cannot be saved and reads as what is in memory. -/
theorem storedOrRejected_iff {r : PostRequest} {root : Json} (h : Posts parse r root)
    (w : NvsWrite) (d : Device) :
    StoredOrRejected root d (configPostHandler parse w r d) ↔
      Fits root ∨ ¬ Accepted root ∨
        (w ≠ .success ∧ configOf root = .ok d.configManager.currentConfig) := by
  rw [configPostHandler_document parse h]
  rcases postDocument_cases w root d with ⟨hn, hfail, hkeep⟩ | ⟨c, hc, hchecked, hok, hmem⟩
  · exact iff_of_true ⟨fun hok => absurd hok hfail, fun _ => ⟨hfail, hkeep⟩⟩ (Or.inr (Or.inl hn))
  · have hacc : Accepted root := accepted_iff.mpr ⟨c, hc, hchecked⟩
    constructor
    · intro hs
      by_contra hno
      rw [not_or, not_or] at hno
      obtain ⟨hfail, hkeep⟩ := hs.rejected (fun hex => hno.1 (fits_iff.mpr hex))
      refine hno.2.2 ⟨fun hw => hfail (hok.mpr hw), ?_⟩
      rw [hc, ← hkeep, hmem]
    · rintro (hf | hn | ⟨hw, hsame⟩)
      · refine ⟨fun _ => ?_, fun hno => absurd (fits_iff.mp hf) hno⟩
        obtain ⟨n, hr, -, rfl⟩ := configOf_ok_iff.mp hc
        rw [hmem]
        exact faithful_built hf hr
      · exact absurd hacc hn
      · rw [hc] at hsame
        cases hsame
        exact ⟨fun h' => absurd (hok.mp h') hw, fun _ => ⟨fun h' => hw (hok.mp h'), hmem⟩⟩

def content (parity more : String) : Bytes :=
  text "\x7b\"tcp_port\":12090,\"uart_baud_rate\":9600,\"uart_parity\":" ++ text parity ++
    text ",\"uart_stop_bits\":1,\"uart_flow_ctrl\":0,\"num_bands\":1,\"num_antenna_ports\":1" ++
    text ",\"tcp_host\":\"10.0.0.1\"" ++ text more ++ text "\x7d"

def document (parity : Rat) (more : List (Bytes × Json)) : Json :=
  .object ([(text "tcp_port", .number 12090), (text "uart_baud_rate", .number 9600),
    (text "uart_parity", .number parity), (text "uart_stop_bits", .number 1),
    (text "uart_flow_ctrl", .number 0), (text "num_bands", .number 1),
    (text "num_antenna_ports", .number 1), (text "tcp_host", .string (text "10.0.0.1"))] ++ more)

def wholeRequest (body : Bytes) : PostRequest := request true (fun _ => 0) body [body]

def only (body : Bytes) (root : Json) (s : Bytes) : Option Json :=
  if s = cstr body then some root else none

theorem posts_only {body : Bytes} (h : 0 < body.length ∧ body.length ≤ MAX_POST_SIZE) (root : Json) :
    Posts (only body root) (wholeRequest body) root := by
  obtain ⟨b, t, rfl⟩ := List.exists_cons_of_length_pos h.1
  refine ⟨h.2, rfl, b, t, rfl, ?_⟩
  rw [wholeRequest, cstr_contentOf_whole]
  exact if_pos rfl

theorem length_content (parity more : String) :
    (content parity more).length = 151 + (text parity).length + (text more).length := by
  have hfixed : (content "" "").length = 151 := by decide +kernel
  have hempty : (text "").length = 0 := rfl
  simp only [content, List.length_append] at hfixed ⊢
  omega

theorem posts_content {parity more : String}
    (h : (text parity).length + (text more).length ≤ 50) (root : Json) :
    Posts (only (content parity more) root) (wholeRequest (content parity more)) root := by
  apply posts_only
  rw [length_content, MAX_POST_SIZE]
  omega

theorem storedOrRejected_iff_plain :
    StoredOrRejected (document 0 []) (startedWith .zero)
        (configPostHandler (only (content "0" "") (document 0 [])) .success
          (wholeRequest (content "0" "")) (startedWith .zero)) ↔
      Fits (document 0 []) ∨ ¬ Accepted (document 0 []) ∨
        (NvsWrite.success ≠ .success ∧
          configOf (document 0 []) = .ok (startedWith .zero).configManager.currentConfig) :=
  storedOrRejected_iff (only (content "0" "") (document 0 []))
    (posts_content (by decide) _) .success (startedWith .zero)

/-- Parity 256 is stored as no parity. -/
theorem storedOrRejected_fails :
    ¬ ∀ (parse : Bytes → Option Json) (r : PostRequest) (root : Json), Posts parse r root →
      ∀ (w : NvsWrite) (d : Device), StoredOrRejected root d (configPostHandler parse w r d) := by
  intro h
  have hp : Posts (only (content "256" "") (document 256 [])) (wholeRequest (content "256" ""))
      (document 256 []) := posts_content (by decide +kernel) _
  have hs := h _ _ _ hp .success (startedWith .zero)
  rw [configPostHandler_document _ hp] at hs
  have hf := (hs.stored rfl).uartParity
  have he : (256 : Rat) = 0 := Json.number.inj (Option.some.inj hf)
  exact absurd he (by decide)

/-- Each band in use carries the range of an entry of `band_info`. -/
def RealBands (c : AntennaSwitchConfig) : Prop :=
  ∀ i : Fin MAX_BANDS, i.val < c.numBands.toNat →
    ∃ e ∈ bandInfo, (c.bands i).startFreq = e.startFreq ∧ (c.bands i).endFreq = e.endFreq

/-- The document has a band table, and each entry that counts describes a known band. -/
def NamesBands (root : Json) : Prop :=
  ∃ items, root.getObjectItem "bands" = some (.array items) ∧ ∀ i < items.length % 256,
    ∃ s, ∃ e ∈ bandInfo,
      (items[i]?.bind fun band => band.getObjectItem "description") = some (.string s) ∧
      cstr s = text e.name

theorem bandInfo_range : ∀ e ∈ bandInfo, 0 < e.startFreq ∧ e.startFreq ≤ e.endFreq := by
  decide

theorem zero_range : ¬ ∃ e ∈ bandInfo, (0 : UInt32) = e.startFreq ∧ (0 : UInt32) = e.endFreq := by
  decide

def described (o : Option Json) : Option BandInfo :=
  (Json.string? (o.bind fun band => band.getObjectItem "description")).bind fun s =>
    bandInfo.find? fun e => decide (text e.name = s)

theorem bandOf_freq (o : Option Json) :
    (bandOf o).startFreq = ((described o).map BandInfo.startFreq).getD 0 ∧
      (bandOf o).endFreq = ((described o).map BandInfo.endFreq).getD 0 := by
  cases o with
  | none => exact ⟨rfl, rfl⟩
  | some band =>
      cases band with
      | null | bool | number | string | array => exact ⟨rfl, rfl⟩
      | object members =>
          rw [described, Option.bind_some, bandOf]
          dsimp only
          split
          · rename_i e he
            rw [he]
            exact ⟨rfl, rfl⟩
          · rename_i hn
            rw [hn]
            exact ⟨rfl, rfl⟩

theorem string?_eq_some_iff {o : Option Json} {t : Bytes} :
    Json.string? o = some t ↔ ∃ s, o = some (.string s) ∧ cstr s = t := by
  constructor
  · intro h
    cases o with
    | none => cases h
    | some j =>
        cases j with
        | string s => exact ⟨s, rfl, Option.some.inj h⟩
        | null | bool | number | array | object => cases h
  · rintro ⟨s, rfl, rfl⟩
    rfl

theorem mem_of_described {o : Option Json} {e : BandInfo} (h : described o = some e) :
    e ∈ bandInfo ∧ ∃ s, (o.bind fun band => band.getObjectItem "description") = some (.string s) ∧
      cstr s = text e.name := by
  obtain ⟨t, ht, hf⟩ := Option.bind_eq_some_iff.mp h
  obtain ⟨s, hs, rfl⟩ := string?_eq_some_iff.mp ht
  have he := List.find?_some hf
  rw [decide_eq_true_eq] at he
  exact ⟨List.mem_of_find?_eq_some hf, s, hs, he.symm⟩

/-- An entry of the band table ends up with a known range exactly if it describes one. -/
theorem bandOf_range (o : Option Json) :
    (∃ e ∈ bandInfo, (bandOf o).startFreq = e.startFreq ∧ (bandOf o).endFreq = e.endFreq) ↔
      ∃ s, ∃ e ∈ bandInfo,
        (o.bind fun band => band.getObjectItem "description") = some (.string s) ∧
        cstr s = text e.name := by
  obtain ⟨hstart, hend⟩ := bandOf_freq o
  rw [hstart, hend]
  constructor
  · intro h
    cases hd : described o with
    | none =>
        rw [hd] at h
        exact absurd h zero_range
    | some e =>
        obtain ⟨he, s, hs, hn⟩ := mem_of_described hd
        exact ⟨s, e, he, hs, hn⟩
  · rintro ⟨s, e, he, hs, hn⟩
    cases hd : described o with
    | some e' => exact ⟨e', (mem_of_described hd).1, rfl, rfl⟩
    | none =>
        have hno := Option.bind_eq_none_iff.mp hd (cstr s) (string?_eq_some_iff.mpr ⟨s, hs, rfl⟩)
        have hne := List.find?_eq_none.mp hno e he
        rw [decide_eq_true_eq] at hne
        exact absurd hn.symm hne

theorem realBands_zero {c : AntennaSwitchConfig} (h : RealBands c)
    (hb : c.numBands.toNat ≤ MAX_BANDS) : c.firstBand 0 = none := by
  rw [AntennaSwitchConfig.firstBand, List.find?_range_eq_none]
  intro i hi
  have hlt : i < MAX_BANDS := by omega
  obtain ⟨e, he, hs, -⟩ := h ⟨i, hlt⟩ hi
  have hpos := (bandInfo_range e he).1
  rw [AntennaSwitchConfig.band, dif_pos hlt, BandConfig.contains, hs]
  have hno : ¬ e.startFreq ≤ 0 := UInt32.not_le.mpr hpos
  simp [hno]

/-- The bands of an accepted configuration are real exactly when the document names
them. -/
theorem realBands_iff {r : PostRequest} {root : Json} (h : Posts parse r root) {w : NvsWrite}
    {d d' : Device} (hok : configPostHandler parse w r d = (.ok (), d')) :
    RealBands d'.configManager.currentConfig ↔ NamesBands root := by
  rw [configPostHandler_document parse h] at hok
  rcases postDocument_cases w root d with ⟨-, hfail, -⟩ | ⟨c, hc, hchecked, -, hmem⟩
  · rw [hok] at hfail
    exact absurd rfl hfail
  · rw [hok] at hmem
    obtain ⟨n, hr, hv, rfl⟩ := configOf_ok_iff.mp hc
    dsimp only at hmem
    rw [hmem, RealBands, NamesBands]
    cases hi : bandItems root with
    | none =>
        refine iff_of_false (fun hall => ?_) ?_
        · have hz := hall ⟨0, by decide⟩ hchecked.1
          simp only [built, hi] at hz
          exact zero_range hz
        · rintro ⟨items, hitems, -⟩
          rw [bandItems, array?_eq_some_iff.mpr hitems] at hi
          cases hi
    | some items =>
        have hlen := numBands_built_some hi n
        have hle := hchecked.2.1
        have hbands (i : Fin MAX_BANDS) : (built root n).bands i = bandOf items[i.val]? := by
          simp only [built, hi]
        simp only [hlen, hbands, bandOf_range] at hle ⊢
        constructor
        · intro hall
          exact ⟨items, array?_eq_some_iff.mp hi, fun i hlt => hall ⟨i, by omega⟩ hlt⟩
        · rintro ⟨items', hitems, hall⟩ i hlt
          rw [bandItems, array?_eq_some_iff.mpr hitems] at hi
          cases hi
          exact hall i hlt

def threeDocument : Json :=
  document 0 [(text "bands", .array (["20m", "40m", "160m"].map fun name =>
    .object [(text "description", .string (text name))]))]

def threeContent : Bytes :=
  content "0" "" ++ text ",\"bands\":[\x7b\"description\":\"20m\"\x7d,\x7b\"description\":\"40m\"\x7d," ++
    text "\x7b\"description\":\"160m\"\x7d]\x7d"

theorem posts_three :
    Posts (only threeContent threeDocument) (wholeRequest threeContent) threeDocument :=
  posts_only (by decide +kernel) _

theorem realBands_iff_three :
    RealBands (postDocument .success threeDocument (startedWith .zero)).2.configManager.currentConfig ∧
      (postDocument .success threeDocument (startedWith .zero)).2.configManager.currentConfig.numBands = 3 := by
  have h := realBands_iff (only threeContent threeDocument) posts_three (w := .success)
    (d := startedWith .zero) (configPostHandler_document _ posts_three _ _)
  refine ⟨h.mpr ⟨_, rfl, fun i hi => ?_⟩, by decide +kernel⟩
  match i, hi with
  | 0, _ => exact ⟨text "20m", ⟨"20m", 14000000, 14350000⟩, by simp [bandInfo], rfl, by decide⟩
  | 1, _ => exact ⟨text "40m", ⟨"40m", 7000000, 7300000⟩, by simp [bandInfo], rfl, by decide⟩
  | 2, _ => exact ⟨text "160m", ⟨"160m", 1800000, 2000000⟩, by simp [bandInfo], rfl, by decide⟩

/-- An entry without a description is stored as the range of frequency 0. -/
theorem realBands_fails :
    ¬ ∀ (parse : Bytes → Option Json) (r : PostRequest) (root : Json), Posts parse r root →
      ∀ (w : NvsWrite) (d d' : Device), configPostHandler parse w r d = (.ok (), d') →
        RealBands d'.configManager.currentConfig := by
  intro h
  have hp : Posts (only (content "0" ",\"bands\":[\x7b\x7d]")
      (document 0 [(text "bands", .array [.object []])]))
      (wholeRequest (content "0" ",\"bands\":[\x7b\x7d]"))
      (document 0 [(text "bands", .array [.object []])]) :=
    posts_content (by decide +kernel) _
  have hr := h _ _ _ hp .success (startedWith .zero) _ (configPostHandler_document _ hp _ _)
  exact zero_range (hr ⟨0, by decide⟩ (by decide))

end BandDecoder.PostedConfig
