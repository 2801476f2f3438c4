import BandDecoder.Config

namespace BandDecoder.ConfigImage

open CStrings SwitchConfig Config

/-- `sizeof(antenna_switch_config_t)` and the layout behind it: every `uint32_t` and
`int` at a multiple of four, least significant byte first. -/
def sizeofConfig : Nat := 512

def read16 (get : Nat → UInt8) (at' : Nat) : UInt16 :=
  UInt16.ofNat ((get at').toNat + 256 * (get (at' + 1)).toNat)

def read32 (get : Nat → UInt8) (at' : Nat) : UInt32 :=
  UInt32.ofNat ((get at').toNat + 256 * ((get (at' + 1)).toNat + 256 * ((get (at' + 2)).toNat +
    256 * (get (at' + 3)).toNat)))

def byteAt (n k : Nat) : UInt8 := UInt8.ofNat (n / 256 ^ k)

/-- A `bool` whose byte is neither 0 nor 1 reads as true. -/
def readBand (get : Nat → UInt8) (at' : Nat) : BandConfig where
  description := fun k => get (at' + k)
  startFreq := read32 get (at' + 32)
  endFreq := read32 get (at' + 36)
  antennaPorts := fun j => get (at' + 40 + j) ≠ 0

def decode (get : Nat → UInt8) : AntennaSwitchConfig where
  autoMode := get 0 ≠ 0
  numBands := get 1
  numAntennaPorts := get 2
  bands := fun i => readBand get (4 + 48 * i)
  tcpHost := fun k => get (484 + k)
  tcpPort := read16 get 500
  uartBaudRate := (read32 get 504).toInt32.toInt
  uartParity := get 508
  uartStopBits := get 509
  uartFlowCtrl := get 510

def boolByte (b : Bool) : UInt8 := if b then 1 else 0

def bandByte (b : BandConfig) (k : Nat) : UInt8 :=
  if h : k < 32 then b.description ⟨k, h⟩
  else if k < 36 then byteAt b.startFreq.toNat (k - 32)
  else if k < 40 then byteAt b.endFreq.toNat (k - 36)
  else boolByte (b.port (k - 40))

/-- The bytes of the object in memory; the padding reads as zero. -/
def encode (c : AntennaSwitchConfig) (k : Nat) : UInt8 :=
  if k = 0 then boolByte c.autoMode
  else if k = 1 then c.numBands
  else if k = 2 then c.numAntennaPorts
  else if k < 4 then 0
  else if k < 484 then bandByte (c.band ((k - 4) / 48)) ((k - 4) % 48)
  else if h : k - 484 < 16 then c.tcpHost ⟨k - 484, h⟩
  else if k < 502 then byteAt c.tcpPort.toNat (k - 500)
  else if k < 504 then 0
  else if k < 508 then byteAt (Int32.ofInt c.uartBaudRate).toUInt32.toNat (k - 504)
  else if k = 508 then c.uartParity
  else if k = 509 then c.uartStopBits
  else if k = 510 then c.uartFlowCtrl
  else 0

/-- What `nvs_get_blob` leaves in the object: the stored bytes and, behind them, what
was there before. -/
def overlay (blob : Bytes) (live : Nat → UInt8) (k : Nat) : UInt8 := blob.getD k (live k)

theorem read32_byteAt {get : Nat → UInt8} {at' : Nat} {v : UInt32}
    (h : ∀ k < 4, get (at' + k) = byteAt v.toNat k) : read32 get at' = v := by
  have hlt := v.toNat_lt
  have h0 := h 0 (by decide)
  have h1 := h 1 (by decide)
  have h2 := h 2 (by decide)
  have h3 := h 3 (by decide)
  rw [Nat.add_zero] at h0
  rw [read32, h0, h1, h2, h3]
  simp only [byteAt, UInt8.toNat_ofNat']
  apply UInt32.toNat_inj.mp
  rw [UInt32.toNat_ofNat']
  omega

theorem read16_byteAt {get : Nat → UInt8} {at' : Nat} {v : UInt16}
    (h : ∀ k < 2, get (at' + k) = byteAt v.toNat k) : read16 get at' = v := by
  have hlt := v.toNat_lt
  have h0 := h 0 (by decide)
  have h1 := h 1 (by decide)
  rw [Nat.add_zero] at h0
  rw [read16, h0, h1]
  simp only [byteAt, UInt8.toNat_ofNat']
  apply UInt16.toNat_inj.mp
  rw [UInt16.toNat_ofNat']
  omega

@[simp] theorem boolByte_ne_zero (b : Bool) : decide (boolByte b ≠ 0) = b := by
  cases b <;> rfl

theorem encode_band (c : AntennaSwitchConfig) (i : Fin MAX_BANDS) {k : Nat} (hk : k < 48) :
    encode c (4 + 48 * i + k) = bandByte (c.bands i) k := by
  have hi := i.isLt
  simp only [MAX_BANDS] at hi
  have hdiv : (4 + 48 * i.val + k - 4) / 48 = i := by omega
  have hmod : (4 + 48 * i.val + k - 4) % 48 = k := by omega
  rw [encode, if_neg (by omega), if_neg (by omega), if_neg (by omega), if_neg (by omega),
    if_pos (by omega), hdiv, hmod, AntennaSwitchConfig.band, dif_pos i.isLt]

theorem readBand_encode (c : AntennaSwitchConfig) (i : Fin MAX_BANDS) :
    readBand (encode c) (4 + 48 * i) = c.bands i := by
  have hdesc : (fun k : Fin 32 => encode c (4 + 48 * i + k)) = (c.bands i).description := by
    funext k
    rw [encode_band c i (by omega), bandByte, dif_pos k.isLt]
  have hports : (fun j : Fin MAX_ANTENNA_PORTS =>
      decide (encode c (4 + 48 * i + 40 + j) ≠ 0)) = (c.bands i).antennaPorts := by
    funext j
    have hj := j.isLt
    simp only [MAX_ANTENNA_PORTS] at hj
    rw [Nat.add_assoc, encode_band c i (by omega), bandByte, dif_neg (by omega), if_neg (by omega),
      if_neg (by omega), boolByte_ne_zero, Nat.add_sub_cancel_left, BandConfig.port, dif_pos j.isLt]
  have hstart : read32 (encode c) (4 + 48 * i + 32) = (c.bands i).startFreq := by
    refine read32_byteAt fun k hk => ?_
    rw [Nat.add_assoc, encode_band c i (by omega), bandByte, dif_neg (by omega), if_pos (by omega),
      Nat.add_sub_cancel_left]
  have hend : read32 (encode c) (4 + 48 * i + 36) = (c.bands i).endFreq := by
    refine read32_byteAt fun k hk => ?_
    rw [Nat.add_assoc, encode_band c i (by omega), bandByte, dif_neg (by omega), if_neg (by omega),
      if_pos (by omega), Nat.add_sub_cancel_left]
  rw [readBand, hdesc, hports, hstart, hend]

/-- What the code saves is what it reads back. -/
theorem decode_encode {c : AntennaSwitchConfig} (hlow : -2 ^ 31 ≤ c.uartBaudRate)
    (hhigh : c.uartBaudRate < 2 ^ 31) : decode (encode c) = c := by
  have hhost : (fun k : Fin 16 => encode c (484 + k)) = c.tcpHost := by
    funext k
    have hk := k.isLt
    have hoff : 484 + k.val - 484 < 16 := by omega
    rw [encode, if_neg (by omega), if_neg (by omega), if_neg (by omega), if_neg (by omega),
      if_neg (by omega), dif_pos hoff]
    have he : (⟨484 + k.val - 484, hoff⟩ : Fin 16) = k := Fin.ext (Nat.add_sub_cancel_left _ _)
    rw [he]
  have hport : read16 (encode c) 500 = c.tcpPort := by
    refine read16_byteAt fun k hk => ?_
    rw [encode, if_neg (by omega), if_neg (by omega), if_neg (by omega), if_neg (by omega),
      if_neg (by omega), dif_neg (by omega), if_pos (by omega), Nat.add_sub_cancel_left]
  have hbaud : read32 (encode c) 504 = (Int32.ofInt c.uartBaudRate).toUInt32 := by
    refine read32_byteAt fun k hk => ?_
    rw [encode, if_neg (by omega), if_neg (by omega), if_neg (by omega), if_neg (by omega),
      if_neg (by omega), dif_neg (by omega), if_neg (by omega), if_neg (by omega),
      if_pos (by omega), Nat.add_sub_cancel_left]
  have hsigned : (Int32.ofInt c.uartBaudRate).toUInt32.toInt32.toInt = c.uartBaudRate := by
    rw [Int32.toInt32_toUInt32, Int32.toInt_ofInt]
    exact Int.bmod_eq_of_le (by simpa using hlow) (by simpa using hhigh)
  have hbands : (fun i : Fin MAX_BANDS => readBand (encode c) (4 + 48 * i)) = c.bands := by
    funext i
    exact readBand_encode c i
  have hauto : decide (encode c 0 ≠ 0) = c.autoMode := boolByte_ne_zero c.autoMode
  rw [decode, hauto, hbands, hhost, hport, hbaud, hsigned]
  rfl

structure Partition where
  opened : EspErr
  blob : Option Bytes

def invalidLength : EspErr := .nvs 0x110c

def image (blob : Bytes) (live : AntennaSwitchConfig) : AntennaSwitchConfig :=
  decode (overlay blob (encode live))

/-- The calls of `load_from_nvs`; the length that `nvs_get_blob` reports is not looked at. -/
def nvsRead (p : Partition) (live : AntennaSwitchConfig) : NvsRead :=
  match p.blob with
  | none => ⟨p.opened, .nvsNotFound, live⟩
  | some blob =>
      if sizeofConfig < blob.length then ⟨p.opened, invalidLength, live⟩
      else ⟨p.opened, .ok, image blob live⟩

def loaded (blob : Bytes) : AntennaSwitchConfig := decode (overlay blob fun _ => 0)

def withHost (c : AntennaSwitchConfig) : AntennaSwitchConfig :=
  if c.tcpHost.str = [] then { c with tcpHost := c.tcpHost.strcpy DEFAULT_HOST } else c

/-- A success of `init` means a blob of the right size that `update_config` would take,
or the defaults. -/
def SameRules (p : Partition) (w w' : NvsWrite) (m : ConfigManager) : Prop :=
  (init (nvsRead p m.currentConfig) w w' m).1 = .ok →
    (∃ blob, p.blob = some blob ∧ blob.length = sizeofConfig ∧ (loaded blob).Checked ∧
      (init (nvsRead p m.currentConfig) w w' m).2.currentConfig = withHost (loaded blob)) ∨
    (init (nvsRead p m.currentConfig) w w' m).2.currentConfig = defaults m.currentConfig

/-- Whatever blob can be read has the right size and passes the checks, or it leaves
the defaults in memory, or its missing host cannot be saved. -/
def Sized (p : Partition) (w' : NvsWrite) (live : AntennaSwitchConfig) : Prop :=
  p.opened = .ok → ∀ blob, p.blob = some blob → blob.length ≤ sizeofConfig →
    (blob.length = sizeofConfig ∧ (loaded blob).Checked) ∨
    withHost (image blob live) = defaults live ∨
    ((image blob live).tcpHost.str = [] ∧ w' ≠ .success)

theorem readBand_congr {get get' : Nat → UInt8} {n at' : Nat} (h : ∀ k < n, get k = get' k)
    (hn : at' + 48 ≤ n) : readBand get at' = readBand get' at' := by
  have hdesc : (fun k : Fin 32 => get (at' + k)) = fun k : Fin 32 => get' (at' + k) := by
    funext k
    exact h _ (by omega)
  have hports : (fun j : Fin MAX_ANTENNA_PORTS => decide (get (at' + 40 + j) ≠ 0)) =
      fun j : Fin MAX_ANTENNA_PORTS => decide (get' (at' + 40 + j) ≠ 0) := by
    funext j
    have hj := j.isLt
    simp only [MAX_ANTENNA_PORTS] at hj
    rw [h _ (by omega)]
  have h32 : ∀ off ≤ 36, read32 get (at' + off) = read32 get' (at' + off) := by
    intro off hoff
    rw [read32, read32, h _ (by omega), h _ (by omega), h _ (by omega), h _ (by omega)]
  rw [readBand, readBand, hdesc, hports, h32 32 (by decide), h32 36 (by decide)]

theorem decode_congr {get get' : Nat → UInt8} (h : ∀ k < sizeofConfig, get k = get' k) :
    decode get = decode get' := by
  simp only [sizeofConfig] at h
  have hbands : (fun i : Fin MAX_BANDS => readBand get (4 + 48 * i)) =
      fun i : Fin MAX_BANDS => readBand get' (4 + 48 * i) := by
    funext i
    have hi := i.isLt
    simp only [MAX_BANDS] at hi
    exact readBand_congr h (by omega)
  have hhost : (fun k : Fin 16 => get (484 + k)) = fun k : Fin 16 => get' (484 + k) := by
    funext k
    exact h _ (by omega)
  have h16 : read16 get 500 = read16 get' 500 := by
    rw [read16, read16, h _ (by decide), h _ (by decide)]
  have h32 : read32 get 504 = read32 get' 504 := by
    rw [read32, read32, h _ (by decide), h _ (by decide), h _ (by decide), h _ (by decide)]
  rw [decode, decode, hbands, hhost, h16, h32, h 0 (by decide), h 1 (by decide), h 2 (by decide),
    h 508 (by decide), h 509 (by decide), h 510 (by decide)]

theorem image_of_length {blob : Bytes} (h : blob.length = sizeofConfig) (live : AntennaSwitchConfig) :
    image blob live = loaded blob := by
  apply decode_congr
  intro k hk
  rw [overlay, overlay, List.getD_eq_getElem?_getD, List.getD_eq_getElem?_getD,
    List.getElem?_eq_getElem (by omega)]
  rfl

theorem repairHost_currentConfig (w : NvsWrite) (m : ConfigManager) :
    (repairHost w m).2.currentConfig = withHost m.currentConfig := by
  rw [repairHost, withHost]
  split
  · rw [saveToNvs_currentConfig]
  · rfl

theorem repairHost_ok_iff {w : NvsWrite} {m : ConfigManager} :
    (repairHost w m).1 = .ok ↔ m.currentConfig.tcpHost.str = [] → w = .success := by
  rw [repairHost]
  split
  · rename_i hhost
    constructor
    · exact fun hok _ => saveToNvs_fst_ok hok
    · intro hw
      rw [hw hhost]
      rfl
  · rename_i hhost
    exact iff_of_true rfl fun h => absurd h hhost

theorem str_default_host_ne_nil (a : CharArray 16) : (a.strcpy DEFAULT_HOST).str ≠ [] := by
  change cstr (List.ofFn (a.strcpy DEFAULT_HOST)) ≠ []
  have h0 : a.strcpy DEFAULT_HOST 0 = 49 := if_pos (Nat.zero_le _)
  rw [List.ofFn_succ, h0, cstr, List.takeWhile_cons_of_pos (by decide)]
  exact List.cons_ne_nil _ _

theorem withHost_defaults (c : AntennaSwitchConfig) : withHost (defaults c) = defaults c := by
  have hne : (defaults c).tcpHost.str ≠ [] := str_default_host_ne_nil c.tcpHost
  rw [withHost, if_neg hne]

theorem withHost_host_ne_nil (c : AntennaSwitchConfig) : (withHost c).tcpHost.str ≠ [] := by
  rw [withHost]
  split
  · exact str_default_host_ne_nil c.tcpHost
  · assumption

theorem withHost_tcpPort (c : AntennaSwitchConfig) : (withHost c).tcpPort = c.tcpPort := by
  rw [withHost]
  split <;> rfl

theorem init_ok {r : NvsRead} {w w' : NvsWrite} {m : ConfigManager} (h : (init r w w' m).1 = .ok) :
    (r.opened = .ok ∧ r.getBlob = .ok ∧
      init r w w' m = repairHost w' { m with currentConfig := r.image }) ∨
    (init r w w' m).2.currentConfig = defaults m.currentConfig := by
  rcases loadFromNvs_cases r m with ⟨e, he, hl⟩ | ⟨ho, hg, hl⟩
  · refine Or.inr ?_
    by_cases hn : e = .nvsNotFound
    · subst hn
      have hmem := saveToNvs_currentConfig w { m with currentConfig := defaults m.currentConfig }
      simp only [init, hl] at h ⊢
      split at h
      · rename_i m₁ hs
        rw [hs] at hmem
        rw [repairHost_currentConfig, hmem, withHost_defaults]
      · rename_i e₁ m₁ hne hs
        exact absurd h fun he₁ => hne (he₁ ▸ rfl)
    · simp only [init, hl] at h
      exact absurd h he
  · exact Or.inl ⟨ho, hg, by simp only [init, hl]⟩

theorem nvsRead_ok {p : Partition} {live : AntennaSwitchConfig} (ho : (nvsRead p live).opened = .ok)
    (hg : (nvsRead p live).getBlob = .ok) :
    p.opened = .ok ∧ ∃ blob, p.blob = some blob ∧ blob.length ≤ sizeofConfig ∧
      (nvsRead p live).image = image blob live := by
  rw [nvsRead] at ho hg ⊢
  cases hb : p.blob with
  | none =>
      rw [hb] at hg
      cases hg
  | some blob =>
      rw [hb] at ho hg
      dsimp only at ho hg ⊢
      split at hg
      · cases hg
      · rename_i hlen
        rw [if_neg hlen] at ho ⊢
        exact ⟨ho, blob, rfl, Nat.not_lt.mp hlen, rfl⟩

theorem init_read {p : Partition} {live : AntennaSwitchConfig} {blob : Bytes} (ho : p.opened = .ok)
    (hb : p.blob = some blob) (hlen : blob.length ≤ sizeofConfig) (w w' : NvsWrite)
    (m : ConfigManager) :
    init (nvsRead p live) w w' m = repairHost w' { m with currentConfig := image blob live } := by
  have hr : nvsRead p live = ⟨.ok, .ok, image blob live⟩ := by
    rw [nvsRead, hb, ho]
    exact if_neg (Nat.not_lt.mpr hlen)
  rw [hr]
  rfl

/-- Loading applies the rules of updating exactly to the blobs that are sized. -/
theorem sameRules_iff (p : Partition) (w w' : NvsWrite) (m : ConfigManager) :
    SameRules p w w' m ↔ Sized p w' m.currentConfig := by
  constructor
  · intro h ho blob hb hlen
    have hinit := @init_read p m.currentConfig blob ho hb hlen w w' m
    by_cases hsave : (image blob m.currentConfig).tcpHost.str = [] → w' = .success
    · have hok : (init (nvsRead p m.currentConfig) w w' m).1 = .ok := by
        rw [hinit]
        exact repairHost_ok_iff.mpr hsave
      rcases h hok with ⟨blob', hb', hsize, hc, -⟩ | hd
      · rw [hb] at hb'
        cases hb'
        exact Or.inl ⟨hsize, hc⟩
      · rw [hinit, repairHost_currentConfig] at hd
        exact Or.inr (Or.inl hd)
    · exact Or.inr (Or.inr (Classical.not_imp.mp hsave))
  · intro h hok
    rcases init_ok hok with ⟨ho, hg, -⟩ | hd
    · obtain ⟨ho', blob, hb, hlen, -⟩ := nvsRead_ok ho hg
      have hinit := @init_read p m.currentConfig blob ho' hb hlen w w' m
      rw [hinit] at hok ⊢
      rw [repairHost_currentConfig]
      rcases h ho' blob hb hlen with ⟨hsize, hc⟩ | hd | ⟨hhost, hw⟩
      · refine Or.inl ⟨blob, hb, hsize, hc, ?_⟩
        rw [image_of_length hsize]
      · exact Or.inr hd
      · exact absurd (repairHost_ok_iff.mp hok hhost) hw
    · exact Or.inr hd

/-- Two bytes are enough for a table of 200 bands. -/
theorem sameRules_fails :
    ¬ ∀ (p : Partition) (w w' : NvsWrite) (m : ConfigManager), SameRules p w w' m := by
  intro h
  have hr := h ⟨.ok, some [1, 200]⟩ .success .success ⟨.zero, [], []⟩ (by decide)
  rcases hr with ⟨blob, hb, hlen, -⟩ | hd
  · cases hb
    exact absurd hlen (by decide)
  · have hn : (200 : UInt8) = 10 := congrArg AntennaSwitchConfig.numBands hd
    exact absurd hn (by decide)

theorem checked_withHost {c : AntennaSwitchConfig} (h : c.Checked) : (withHost c).Checked := by
  rw [withHost]
  split
  · exact h
  · exact h

/-- Where the rules are the same no loop runs past a table. -/
theorem SameRules.checked {p : Partition} {w w' : NvsWrite} {m : ConfigManager}
    (h : SameRules p w w' m) (hok : (init (nvsRead p m.currentConfig) w w' m).1 = .ok) :
    (init (nvsRead p m.currentConfig) w w' m).2.currentConfig.Checked := by
  rcases h hok with ⟨blob, -, -, hc, hm⟩ | hd
  · rw [hm]
    exact checked_withHost hc
  · have hn : 1 ≤ (10 : UInt8).toNat ∧ (10 : UInt8).toNat ≤ MAX_BANDS ∧ 1 ≤ (6 : UInt8).toNat ∧
        (6 : UInt8).toNat ≤ MAX_ANTENNA_PORTS := by decide
    rw [hd]
    exact hn

def savedBlob (c : AntennaSwitchConfig) : Bytes := (List.range sizeofConfig).map (encode c)

/-- A configuration that was saved with a host comes back after a reboot. -/
theorem init_saved {c : AntennaSwitchConfig} (hlow : -2 ^ 31 ≤ c.uartBaudRate)
    (hhigh : c.uartBaudRate < 2 ^ 31) (hhost : c.tcpHost.str ≠ []) (w w' : NvsWrite)
    (m : ConfigManager) :
    init (nvsRead ⟨.ok, some (savedBlob c)⟩ m.currentConfig) w w' m =
      (.ok, { m with currentConfig := c }) := by
  have hsize : (savedBlob c).length = sizeofConfig := by
    rw [savedBlob, List.length_map, List.length_range]
  have himage : image (savedBlob c) m.currentConfig = c := by
    rw [image_of_length hsize, ← decode_encode hlow hhigh]
    apply decode_congr
    intro k hk
    rw [decode_encode hlow hhigh, overlay, List.getD_eq_getElem?_getD, savedBlob, List.getElem?_map,
      List.getElem?_range hk]
    rfl
  rw [init_read rfl rfl hsize.le, himage, repairHost, if_neg hhost]

end BandDecoder.ConfigImage
