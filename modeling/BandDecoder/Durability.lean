import BandDecoder.AppMain
import BandDecoder.StoredEndpoint

namespace BandDecoder.Durability

open CStrings SwitchConfig Config ConfigImage Switch Cat Web Relay Runs
open ConfigLifetime (Life Action boot withManager withDevice)
open AppMain (BasicScript initNvs)

/-- A device and the blob that its storage would give to a read now. -/
structure Kept where
  life : Life
  blob : Option AntennaSwitchConfig

def memory (s : Life) : AntennaSwitchConfig := s.device.configManager.currentConfig

def images (s : Life) : List AntennaSwitchConfig := s.device.configManager.flash

/-- What becomes of the blob when the images handed to `nvs_set_blob` go from `before`
to `after`. A save that failed there or in `nvs_commit` may have been carried out all
the same. -/
def settle (w : NvsWrite) (took : Bool) (before after : List AntennaSwitchConfig)
    (blob : Option AntennaSwitchConfig) : Option AntennaSwitchConfig :=
  if after.length ≤ before.length then blob
  else if took = true ∨ (w.setBlob = .ok ∧ w.commit = .ok) then after.head?
  else blob

def writeOf : Action → NvsWrite
  | .post _ w _ | .configGet w | .resetConfig w | .toggleAutoMode w | .apCommand w _
  | .setAutoMode w _ | .setTcpPort w _ | .setTcpHost _ w _ | .catInit w => w
  | _ => .success

def firstSave (r : NvsRead) (w : NvsWrite) (m : ConfigManager) : ConfigManager :=
  match loadFromNvs r m with
  | (.nvsNotFound, m) => (saveToNvs w { m with currentConfig := defaults m.currentConfig }).2
  | (_, m) => m

def settled (took took' : Bool) (s : Kept) (a : Action) : Option AntennaSwitchConfig :=
  let after := images (ConfigLifetime.next s.life a)
  match a with
  | .configInit r w w' =>
      let between := (firstSave r w s.life.device.configManager).flash
      settle w' took' between after (settle w took (images s.life) between s.blob)
  | a => settle (writeOf a) took (images s.life) after s.blob

/-- A read fails or gives the blob, and finds none only where there is none. -/
def Reads (blob : Option AntennaSwitchConfig) : Action → Prop
  | .configInit r _ _ => r.opened ≠ .nvsNotFound ∧
      (r.opened = .ok → r.getBlob = .ok → blob = some r.image) ∧
      (r.opened = .ok → r.getBlob = .nvsNotFound → blob = none)
  | _ => True

def Called (s : Kept) (a : Action) (s' : Kept) : Prop :=
  a ≠ .boot ∧ Reads s.blob a ∧ s'.life = ConfigLifetime.next s.life a ∧
    ∃ took took', s'.blob = settled took took' s a

/-- A power-on, with what `init_nvs` meets at it, or a call. -/
inductive Event
  | boot (x : BasicScript)
  | call (a : Action)

def Step (s : Kept) : Event → Kept → Prop
  | .boot x, s' => s' = ⟨boot (images s.life), if (initNvs x).2 then none else s.blob⟩
  | .call a, s' => Called s a s'

def first : Kept := ⟨boot [], none⟩

def configures : Action → Bool
  | .post _ _ _ | .resetConfig _ | .toggleAutoMode _ | .apCommand _ _ | .setAutoMode _ _
  | .setTcpPort _ _ | .setTcpHost _ _ _ => true
  | _ => false

def Reported (s : Life) : Action → Prop
  | .configInit r w w' => (Config.init r w w' s.device.configManager).1 = .ok
  | .post parse w r => (configPostHandler parse w r s.device).1 = .ok ()
  | .resetConfig w => (resetConfigHandler w s.device).1 = .ok ()
  | .toggleAutoMode w => (toggleAutoModeHandler w s.device).1 = .ok ()
  | .apCommand w param => (processApCommand w param s.device).1 = .ok
  | .setAutoMode w autoMode => (antennaSwitchSetAutoMode w autoMode s.device.configManager).1 = .ok
  | .setTcpPort w port => (antennaSwitchSetTcpPort w port s.device.configManager
      (if s.installed then some s.device.relayController else none)).1 = .ok
  | .setTcpHost reinit w host => (antennaSwitchSetTcpHost reinit w host s.device.configManager
      (if s.installed then some s.device.relayController else none)).1 = .ok
  | _ => False

def withBaudRate (c : AntennaSwitchConfig) : AntennaSwitchConfig :=
  if c.uartBaudRate ≤ 0 then { c with uartBaudRate := 9600 } else c

structure Lasting (P : AntennaSwitchConfig → Prop) : Prop where
  host : ∀ c, P c → P (withHost c)
  baudRate : ∀ c, P c → P (withBaudRate c)

/-- A call made to change the configuration leaves one with the property in memory, or
what was there. -/
def Keeps (P : AntennaSwitchConfig → Prop) (s : Kept) (a : Action) : Prop :=
  configures a = true → memory (ConfigLifetime.next s.life a) = memory s.life ∨
    P (memory (ConfigLifetime.next s.life a))

/-- No boot erases the flash, and no call takes the property away. -/
def Spares (P : AntennaSwitchConfig → Prop) (s : Kept) : Event → Prop
  | .boot x => (initNvs x).2 = false
  | .call a => Keeps P s a

structure Inv (P : AntennaSwitchConfig → Prop) (s : Kept) : Prop where
  blob : ∀ c, s.blob = some c → c.Checked ∧ P c
  memory : memory s.life = .zero ∨ ((memory s.life).Checked ∧ P (memory s.life))
  ready : s.life.ready = true → (Durability.memory s.life).Checked

theorem settle_same (w : NvsWrite) (took : Bool) (before : List AntennaSwitchConfig)
    (blob : Option AntennaSwitchConfig) : settle w took before before blob = blob :=
  if_pos (Nat.le_refl _)

theorem settle_cons (w : NvsWrite) (took : Bool) (c : AntennaSwitchConfig)
    (before : List AntennaSwitchConfig) (blob : Option AntennaSwitchConfig) :
    settle w took before (c :: before) blob = some c ∨
      (settle w took before (c :: before) blob = blob ∧ w ≠ .success) := by
  have hlen : ¬ (c :: before).length ≤ before.length := by simp
  rw [settle, if_neg hlen]
  by_cases h : took = true ∨ (w.setBlob = .ok ∧ w.commit = .ok)
  · rw [if_pos h]
    exact Or.inl rfl
  · rw [if_neg h]
    refine Or.inr ⟨rfl, ?_⟩
    rintro rfl
    exact h (Or.inr ⟨rfl, rfl⟩)

theorem saveToNvs_flash (w : NvsWrite) (m : ConfigManager) :
    ((saveToNvs w m).2.flash = m.currentConfig :: m.flash) ∨
      ((saveToNvs w m).2.flash = m.flash ∧ (saveToNvs w m).1 ≠ .ok) := by
  rw [saveToNvs]
  by_cases ho : w.opened = .ok
  · rw [if_neg (not_not.mpr ho)]
    by_cases hs : w.setBlob = .ok
    · exact Or.inl (by rw [if_neg (not_not.mpr hs)])
    · exact Or.inl (by rw [if_pos hs])
  · rw [if_pos ho]
    exact Or.inr ⟨rfl, ho⟩

theorem settle_saveToNvs (w : NvsWrite) (took : Bool) (m : ConfigManager)
    (blob : Option AntennaSwitchConfig) :
    settle w took m.flash (saveToNvs w m).2.flash blob = some m.currentConfig ∨
      (settle w took m.flash (saveToNvs w m).2.flash blob = blob ∧ (saveToNvs w m).1 ≠ .ok) := by
  rcases saveToNvs_flash w m with hf | ⟨hf, he⟩
  · rw [hf]
    rcases settle_cons w took m.currentConfig m.flash blob with h | ⟨h, hw⟩
    · exact Or.inl h
    · exact Or.inr ⟨h, fun hok => hw (saveToNvs_fst_ok hok)⟩
  · rw [hf, settle_same]
    exact Or.inr ⟨rfl, he⟩

/-- An update is refused and changes nothing, or it takes the configuration into memory
and the storage has it or what it had. -/
theorem settle_updateConfig (w : NvsWrite) (took : Bool) (c : AntennaSwitchConfig)
    (m : ConfigManager) (blob : Option AntennaSwitchConfig) :
    (Config.updateConfig w c m = (.invalidArg, m)) ∨
    (c.Checked ∧ (Config.updateConfig w c m).2.currentConfig = c ∧
      (settle w took m.flash (Config.updateConfig w c m).2.flash blob = some c ∨
        (settle w took m.flash (Config.updateConfig w c m).2.flash blob = blob ∧
          (Config.updateConfig w c m).1 ≠ .ok))) := by
  by_cases hc : c.Checked
  · refine Or.inr ⟨hc, ?_⟩
    have hs := settle_saveToNvs w took { m with currentConfig := c } blob
    have hm := saveToNvs_currentConfig w { m with currentConfig := c }
    obtain ⟨h1, h2, h3, h4⟩ := hc
    rw [Config.updateConfig, if_neg (by omega), if_neg (by omega)]
    cases hr : saveToNvs w { m with currentConfig := c } with
    | mk e m' =>
        rw [hr] at hs hm
        cases e with
        | ok => exact ⟨hm, hs.imp_right fun h => absurd rfl h.2⟩
        | _ => exact ⟨hm, hs⟩
  · exact Or.inl (updateConfig_refused hc w m)

/-- The repairs made in passing: GET `/config` puts in a number of bands and
`cat_parser_init` a baud rate. -/
def Repair (c c' : AntennaSwitchConfig) : Prop :=
  (c' = { c with numBands := 1 } ∧ (c.numBands.toNat ≤ 0 ∨ MAX_BANDS < c.numBands.toNat)) ∨
    c' = withBaudRate c

structure Update (s : Life) (a : Action) (c : AntennaSwitchConfig) : Prop where
  manager : (ConfigLifetime.next s a).device.configManager =
    (Config.updateConfig (writeOf a) c s.device.configManager).2
  reported : Reported s a → (Config.updateConfig (writeOf a) c s.device.configManager).1 = .ok
  asked : configures a = true ∨ Repair (memory s) c

structure Untouched (s : Life) (a : Action) : Prop where
  memory : memory (ConfigLifetime.next s a) = memory s
  images : images (ConfigLifetime.next s a) = images s
  reported : ¬ Reported s a

theorem answered_fst {w : NvsWrite} {c : AntennaSwitchConfig} {e : HttpError} {d : Device}
    (h : (match Config.updateConfig w c d.configManager with
      | (.ok, m) => ((.ok (), { d with configManager := m }) : Except HttpError Unit × Device)
      | (_, m) => (.error e, { d with configManager := m })).1 = .ok ()) :
    (Config.updateConfig w c d.configManager).1 = .ok := by
  split at h
  · rename_i m hm
    rw [hm]
  · cases h

theorem post_cases (s : Life) (parse : Bytes → Option Json) (w : NvsWrite) (r : PostRequest) :
    Untouched s (.post parse w r) ∨ ∃ c, Update s (.post parse w r) c := by
  have hsame : ∀ e, configPostHandler parse w r s.device = (.error e, s.device) →
      Untouched s (.post parse w r) := by
    intro e he
    have hd : (configPostHandler parse w r s.device).2 = s.device := by rw [he]
    refine ⟨?_, ?_, ?_⟩
    · exact congrArg (fun d : Device => d.configManager.currentConfig) hd
    · exact congrArg (fun d : Device => d.configManager.flash) hd
    · intro hr
      rw [Reported, he] at hr
      cases hr
  rcases configPostHandler_cases parse w r s.device with ⟨e, he⟩ | ⟨b, received, root, -, -, hp⟩
  · exact Or.inl (hsame e he)
  · cases hc : configOf root with
    | error e =>
        rw [postDocument, hc] at hp
        exact Or.inl (hsame e hp)
    | ok c =>
        rw [postDocument, hc] at hp
        dsimp only at hp
        refine Or.inr ⟨c, ?_, ?_, Or.inl rfl⟩
        · change (configPostHandler parse w r s.device).2.configManager = _
          rw [hp]
          cases hu : Config.updateConfig w c s.device.configManager with
          | mk e m => cases e <;> simp only [writeOf, hu, Cat.updateConfig]
        · intro hr
          rw [Reported, hp] at hr
          cases hu : Config.updateConfig w c s.device.configManager with
          | mk e m =>
              rw [hu] at hr
              cases e with
              | ok => simp only [writeOf, hu]
              | _ => cases hr

theorem configGet_cases (s : Life) (w : NvsWrite) :
    Untouched s (.configGet w) ∨ ∃ c, Update s (.configGet w) c := by
  by_cases hn : (memory s).numBands.toNat ≤ 0 ∨ MAX_BANDS < (memory s).numBands.toNat
  · refine Or.inr ⟨{ memory s with numBands := 1 }, ?_, False.elim, Or.inr (Or.inl ⟨rfl, hn⟩)⟩
    change (configGetHandler w s.device).2.configManager = _
    have hn' := hn
    rw [memory] at hn'
    rw [configGetHandler]
    dsimp only
    rw [if_pos hn']
    split
    · rfl
    · split <;> rfl
  · have hm : (configGetHandler w s.device).2 = s.device := by
      have hn' := hn
      rw [memory] at hn'
      rw [configGetHandler]
      dsimp only
      rw [if_neg hn', if_neg (by simp)]
      split <;> rfl
    refine Or.inl ⟨?_, ?_, id⟩
    · exact congrArg (fun d : Device => d.configManager.currentConfig) hm
    · exact congrArg (fun d : Device => d.configManager.flash) hm

theorem catInit_cases (s : Life) (w : NvsWrite) :
    Untouched s (.catInit w) ∨ ∃ c, Update s (.catInit w) c := by
  by_cases hb : (memory s).uartBaudRate ≤ 0
  · refine Or.inr ⟨withBaudRate (memory s), ?_, False.elim, Or.inr (Or.inr rfl)⟩
    change (Cat.init w s.device).2.configManager = _
    rw [withBaudRate, if_pos hb]
    rw [memory] at hb
    rw [Cat.init]
    dsimp only
    rw [if_pos hb]
    rfl
  · have hm : (Cat.init w s.device).2.configManager = s.device.configManager := by
      rw [memory] at hb
      rw [Cat.init]
      dsimp only
      rw [if_neg hb]
    refine Or.inl ⟨?_, ?_, id⟩
    · exact congrArg ConfigManager.currentConfig hm
    · exact congrArg ConfigManager.flash hm

theorem setTcpHost_cases (s : Life) (reinit : RelayController → EspErr × RelayController)
    (w : NvsWrite) (host : Bytes) :
    Untouched s (.setTcpHost reinit w host) ∨ ∃ c, Update s (.setTcpHost reinit w host) c := by
  let config := { memory s with tcpHost := CharArray.strncpy host }
  cases hi : s.installed with
  | false =>
      refine Or.inr ⟨config, ?_, ?_, Or.inl rfl⟩
      · simp only [ConfigLifetime.next, hi, antennaSwitchSetTcpHost]
        rfl
      · rw [Reported, hi]
        exact id
  | true =>
      cases hr : reinit { s.device.relayController with tcpHost := host } with
      | mk e c =>
          by_cases he : e = .ok
          · subst he
            refine Or.inr ⟨config, ?_, ?_, Or.inl rfl⟩
            · simp only [ConfigLifetime.next, hi, antennaSwitchSetTcpHost, if_true, hr]
              rfl
            · simp only [Reported, hi, antennaSwitchSetTcpHost, if_true, hr]
              exact id
          · have hf : antennaSwitchSetTcpHost reinit w host s.device.configManager
                (some s.device.relayController) = (e, s.device.configManager, some c) := by
              rw [antennaSwitchSetTcpHost, hr]
              cases e <;> first | rfl | exact absurd rfl he
            refine Or.inl ⟨?_, ?_, ?_⟩
            · simp only [ConfigLifetime.next, hi, if_true, hf]
              rfl
            · simp only [ConfigLifetime.next, hi, if_true, hf]
              rfl
            · simp only [Reported, hi, if_true, hf]
              exact he

theorem apCommand_cases (s : Life) (w : NvsWrite) (param : Bytes) :
    Untouched s (.apCommand w param) ∨ ∃ c, Update s (.apCommand w param) c := by
  by_cases hs : charAt param (strtoul 32 param).2 = 0
  · let config := { memory s with numAntennaPorts := UInt8.ofNat (strtoul 32 param).1 }
    have hp : processApCommand w param s.device =
        ((Config.updateConfig w config s.device.configManager).1,
          { s.device with
            configManager := (Config.updateConfig w config s.device.configManager).2 }) :=
      if_neg (not_not.mpr hs)
    refine Or.inr ⟨config, ?_, ?_, Or.inl rfl⟩
    · rw [ConfigLifetime.next, hp]
      rfl
    · rw [Reported, hp]
      exact id
  · have hp : processApCommand w param s.device = (.invalidArg, s.device) := if_pos hs
    refine Or.inl ⟨?_, ?_, ?_⟩
    · rw [ConfigLifetime.next, hp]
      rfl
    · rw [ConfigLifetime.next, hp]
      rfl
    · rw [Reported, hp]
      exact EspErr.noConfusion

theorem next_cases (s : Life) (a : Action) (hb : a ≠ .boot)
    (hi : ∀ r w w', a ≠ .configInit r w w') : Untouched s a ∨ ∃ c, Update s a c := by
  cases a with
  | boot => exact absurd rfl hb
  | configInit r w w' => exact absurd rfl (hi r w w')
  | addObserver | installRelay c | catUpdate => exact Or.inl ⟨rfl, rfl, id⟩
  | post parse w r => exact post_cases s parse w r
  | configGet w => exact configGet_cases s w
  | catInit w => exact catInit_cases s w
  | setTcpHost reinit w host => exact setTcpHost_cases s reinit w host
  | resetConfig w =>
      refine Or.inr ⟨Web.resetConfig, ?_, answered_fst, Or.inl rfl⟩
      rw [ConfigLifetime.next, resetConfigHandler_snd]
      rfl
  | toggleAutoMode w =>
      refine Or.inr ⟨_, ?_, answered_fst, Or.inl rfl⟩
      rw [ConfigLifetime.next, toggleAutoModeHandler_snd]
      rfl
  | apCommand w param => exact apCommand_cases s w param
  | setAutoMode w autoMode => exact Or.inr ⟨_, rfl, id, Or.inl rfl⟩
  | setTcpPort w port => exact Or.inr ⟨_, rfl, id, Or.inl rfl⟩
  | report cmd =>
      have hm := (ConfigLifetime.runCommand_configs cmd s.device).1
      refine Or.inl ⟨?_, ?_, id⟩
      · exact congrArg ConfigManager.currentConfig hm
      · exact congrArg ConfigManager.flash hm

theorem settled_updates {took took' : Bool} {s : Kept} {a : Action} (hb : a ≠ .boot)
    (hi : ∀ r w w', a ≠ .configInit r w w') :
    settled took took' s a = settle (writeOf a) took (images s.life)
      (images (ConfigLifetime.next s.life a)) s.blob := by
  cases a with
  | boot => exact absurd rfl hb
  | configInit r w w' => exact absurd rfl (hi r w w')
  | _ => rfl

theorem ready_next {s : Life} {a : Action} (hb : a ≠ .boot)
    (hi : ∀ r w w', a ≠ .configInit r w w') : (ConfigLifetime.next s a).ready = s.ready := by
  cases a with
  | boot => exact absurd rfl hb
  | configInit r w w' => exact absurd rfl (hi r w w')
  | _ => rfl

theorem checked_withBaudRate {c : AntennaSwitchConfig} (h : (withBaudRate c).Checked) :
    c.Checked := by
  rw [withBaudRate] at h
  split at h
  · exact h
  · exact h

theorem Inv.repair {P : AntennaSwitchConfig → Prop} {s : Kept} (h : Inv P s) (hP : Lasting P)
    {c : AntennaSwitchConfig} (hr : Repair (Durability.memory s.life) c) (hc : c.Checked) : P c := by
  rcases h.memory with hz | ⟨hk, hp⟩
  · rcases hr with ⟨rfl, -⟩ | rfl
    · rw [hz] at hc
      exact absurd hc (by decide)
    · have hz' := checked_withBaudRate hc
      rw [hz] at hz'
      exact absurd hz' (by decide)
  · rcases hr with ⟨-, hn⟩ | rfl
    · have := hk.1
      have := hk.2.1
      omega
    · exact hP.baudRate _ hp

theorem Inv.same {P : AntennaSwitchConfig → Prop} {s s' : Kept} (h : Inv P s)
    (hb : s'.blob = s.blob) (hm : Durability.memory s'.life = Durability.memory s.life)
    (hr : s'.life.ready = s.life.ready) : Inv P s' := by
  refine ⟨?_, ?_, ?_⟩
  · rw [hb]
    exact h.blob
  · rw [hm]
    exact h.memory
  · rw [hm, hr]
    exact h.ready

theorem Inv.taken {P : AntennaSwitchConfig → Prop} {s s' : Kept} (h : Inv P s)
    {c : AntennaSwitchConfig} (hc : c.Checked) (hp : P c) (hm : Durability.memory s'.life = c)
    (hb : s'.blob = some c ∨ s'.blob = s.blob) : Inv P s' := by
  refine ⟨?_, ?_, ?_⟩
  · intro d hd
    rcases hb with hb | hb
    · rw [hb] at hd
      cases hd
      exact ⟨hc, hp⟩
    · rw [hb] at hd
      exact h.blob d hd
  · rw [hm]
    exact Or.inr ⟨hc, hp⟩
  · rw [hm]
    exact fun _ => hc

/-- A call between two starts leaves everything as it was, or it takes a checked
configuration into memory and the storage has it, or what it had if the call failed. -/
theorem update_step {s s' : Kept} {a : Action} (hs : Called s a s')
    (hi : ∀ r w w', a ≠ .configInit r w w') :
    (memory s'.life = memory s.life ∧ s'.blob = s.blob ∧ ¬ Reported s.life a) ∨
    ∃ c, c.Checked ∧ (configures a = true ∨ Repair (memory s.life) c) ∧ memory s'.life = c ∧
      (s'.blob = some c ∨ (s'.blob = s.blob ∧ ¬ Reported s.life a)) := by
  obtain ⟨hb, -, hl, took, took', hblob⟩ := hs
  rw [settled_updates hb hi] at hblob
  rcases next_cases s.life a hb hi with hu | ⟨c, hu⟩
  · refine Or.inl ⟨?_, ?_, hu.reported⟩
    · rw [hl, hu.memory]
    · rw [hblob, hu.images, settle_same]
  · have him : images (ConfigLifetime.next s.life a) =
        (Config.updateConfig (writeOf a) c s.life.device.configManager).2.flash :=
      congrArg ConfigManager.flash hu.manager
    have hmem : memory s'.life =
        (Config.updateConfig (writeOf a) c s.life.device.configManager).2.currentConfig := by
      rw [hl]
      exact congrArg ConfigManager.currentConfig hu.manager
    rw [him, images] at hblob
    rcases settle_updateConfig (writeOf a) took c s.life.device.configManager s.blob with
      hr | ⟨hc, hm, hset⟩
    · have hrep := hu.reported
      rw [hr] at hmem hblob hrep
      refine Or.inl ⟨hmem, ?_, fun h => EspErr.noConfusion (hrep h)⟩
      rw [hblob]
      exact settle_same _ _ _ _
    · refine Or.inr ⟨c, hc, hu.asked, hmem.trans hm, ?_⟩
      rw [hblob]
      exact hset.imp_right fun h => ⟨h.1, fun hr => h.2 (hu.reported hr)⟩

theorem Inv.update {P : AntennaSwitchConfig → Prop} {s s' : Kept} {a : Action} (h : Inv P s)
    (hP : Lasting P) (hk : Keeps P s a) (hs : Called s a s')
    (hi : ∀ r w w', a ≠ .configInit r w w') : Inv P s' := by
  rcases update_step hs hi with ⟨hm, hblob, -⟩ | ⟨c, hc, hask, hm, hblob⟩
  · refine h.same hblob hm ?_
    rw [hs.2.2.1, ready_next hs.1 hi]
  · have hp : P c := by
      rcases hask with ha | hr
      · have hk' := hk ha
        rw [← hs.2.2.1, hm] at hk'
        rcases hk' with he | hp
        · rcases h.memory with hz | ⟨-, hp⟩
          · rw [he, hz] at hc
            exact absurd hc (by decide)
          · rw [he]
            exact hp
        · exact hp
      · exact h.repair hP hr hc
    exact h.taken hc hp hm (hblob.imp_right And.left)

theorem Inv.boot {P : AntennaSwitchConfig → Prop} {s s' : Kept} (h : Inv P s) {x : BasicScript}
    (hs : Step s (.boot x) s') : Inv P s' := by
  obtain rfl := hs
  refine ⟨fun c hc => ?_, Or.inl rfl, fun hr => Bool.noConfusion hr⟩
  cases he : (initNvs x).2 with
  | true =>
      rw [he, if_pos rfl] at hc
      cases hc
  | false =>
      rw [he, if_neg Bool.false_ne_true] at hc
      exact h.blob c hc

theorem settle_repairHost (w : NvsWrite) (took : Bool) (m : ConfigManager)
    (blob : Option AntennaSwitchConfig) :
    settle w took m.flash (repairHost w m).2.flash blob = some (withHost m.currentConfig) ∨
      (settle w took m.flash (repairHost w m).2.flash blob = blob ∧
        ((repairHost w m).1 ≠ .ok ∨ withHost m.currentConfig = m.currentConfig)) := by
  rw [repairHost, withHost]
  split
  · exact (settle_saveToNvs w took { m with
      currentConfig := { m.currentConfig with
        tcpHost := m.currentConfig.tcpHost.strcpy DEFAULT_HOST } } blob).imp_right
      fun h => ⟨h.1, Or.inl h.2⟩
  · rw [settle_same]
    exact Or.inr ⟨rfl, Or.inr rfl⟩

theorem init_missing {r : NvsRead} {m : ConfigManager} (h : loadFromNvs r m = (.nvsNotFound, m))
    (w w' : NvsWrite) :
    Config.init r w w' m = saveToNvs w { m with currentConfig := defaults m.currentConfig } ∧
      firstSave r w m = (Config.init r w w' m).2 := by
  have hm := saveToNvs_currentConfig w { m with currentConfig := defaults m.currentConfig }
  have hi : Config.init r w w' m =
      saveToNvs w { m with currentConfig := defaults m.currentConfig } := by
    rw [Config.init, h]
    dsimp only
    cases hs : saveToNvs w { m with currentConfig := defaults m.currentConfig } with
    | mk e m₁ =>
        rw [hs] at hm
        cases e with
        | ok =>
            have hhost : m₁.currentConfig.tcpHost.str ≠ [] := by
              rw [hm]
              exact str_default_host_ne_nil _
            exact if_neg hhost
        | _ => rfl
  refine ⟨hi, ?_⟩
  rw [firstSave, h, hi]

theorem init_error {r : NvsRead} {m : ConfigManager} {e : EspErr} (h : loadFromNvs r m = (e, m))
    (he : e ≠ .ok) (hn : e ≠ .nvsNotFound) (w w' : NvsWrite) :
    Config.init r w w' m = (e, m) ∧ firstSave r w m = m := by
  rw [Config.init, firstSave, h]
  cases e <;> first | exact ⟨rfl, rfl⟩ | exact absurd rfl he | exact absurd rfl hn

theorem init_loaded {r : NvsRead} {m : ConfigManager}
    (h : loadFromNvs r m = (.ok, { m with currentConfig := r.image })) (w w' : NvsWrite) :
    Config.init r w w' m = repairHost w' { m with currentConfig := r.image } ∧
      firstSave r w m = { m with currentConfig := r.image } := by
  rw [Config.init, firstSave, h]
  exact ⟨rfl, rfl⟩

theorem loadFromNvs_missing {r : NvsRead} {m : ConfigManager} (ho : r.opened ≠ .nvsNotFound)
    (h : loadFromNvs r m = (.nvsNotFound, m)) : r.opened = .ok ∧ r.getBlob = .nvsNotFound := by
  rw [loadFromNvs] at h
  split at h
  · exact absurd (congrArg Prod.fst h) ho
  · rename_i hopen
    split at h
    · exact ⟨not_not.mp hopen, congrArg Prod.fst h⟩
    · cases h

/-- The start loads what the storage has, or makes the defaults where it has nothing, or
fails and leaves everything as it was. -/
theorem configInit_step {s s' : Kept} {r : NvsRead} {w w' : NvsWrite}
    (hs : Called s (.configInit r w w') s') :
    (memory s'.life = memory s.life ∧ s'.blob = s.blob ∧ s'.life.ready = s.life.ready ∧
      ¬ Reported s.life (.configInit r w w')) ∨
    (s.blob = none ∧ memory s'.life = defaults (memory s.life) ∧
      (s'.blob = some (memory s'.life) ∨
        (s'.blob = none ∧ ¬ Reported s.life (.configInit r w w')))) ∨
    ∃ c, s.blob = some c ∧ memory s'.life = withHost c ∧
      (s'.blob = some (memory s'.life) ∨
        (s'.blob = some c ∧ ¬ Reported s.life (.configInit r w w'))) := by
  obtain ⟨-, ⟨hopen, hread, hmiss⟩, hl, took, took', hblob⟩ := hs
  have hmem : memory s'.life =
      (Config.init r w w' s.life.device.configManager).2.currentConfig := by
    rw [hl]
    rfl
  change s'.blob = settle w' took' (firstSave r w s.life.device.configManager).flash
    (Config.init r w w' s.life.device.configManager).2.flash
    (settle w took s.life.device.configManager.flash
      (firstSave r w s.life.device.configManager).flash s.blob) at hblob
  rw [Reported]
  rcases loadFromNvs_cases r s.life.device.configManager with ⟨e, he, hload⟩ | ⟨ho, hg, hload⟩
  · by_cases hn : e = .nvsNotFound
    · subst hn
      obtain ⟨ho, hg⟩ := loadFromNvs_missing hopen hload
      obtain ⟨hi, hf⟩ := init_missing hload w w'
      have hset := settle_saveToNvs w took { s.life.device.configManager with
        currentConfig := defaults s.life.device.configManager.currentConfig } s.blob
      rw [hf, settle_same, hi] at hblob
      rw [hi, saveToNvs_currentConfig] at hmem
      rw [hi, hblob, hmem]
      refine Or.inr (Or.inl ⟨hmiss ho hg, rfl, ?_⟩)
      rw [hmiss ho hg] at hset ⊢
      exact hset
    · obtain ⟨hi, hf⟩ := init_error hload he hn w w'
      rw [hf, hi, settle_same, settle_same] at hblob
      rw [hi] at hmem ⊢
      refine Or.inl ⟨hmem, hblob, ?_, he⟩
      rw [hl]
      change (s.life.ready || decide ((Config.init r w w' s.life.device.configManager).1 = .ok)) =
        s.life.ready
      rw [hi, decide_eq_false he, Bool.or_false]
  · obtain ⟨hi, hf⟩ := init_loaded hload w w'
    have hset := settle_repairHost w' took' { s.life.device.configManager with
      currentConfig := r.image } s.blob
    rw [hf, hi, settle_same] at hblob
    rw [hi, repairHost_currentConfig] at hmem
    rw [hi, hblob, hmem]
    refine Or.inr (Or.inr ⟨r.image, hread ho hg, rfl, ?_⟩)
    rw [hread ho hg] at hset ⊢
    rcases hset with hset | ⟨hset, hfail | hsame⟩
    · exact Or.inl hset
    · exact Or.inr ⟨hset, hfail⟩
    · refine Or.inl (hset.trans ?_)
      exact congrArg some hsame.symm

theorem Inv.configInit {P : AntennaSwitchConfig → Prop} {s s' : Kept} (h : Inv P s)
    (hP : Lasting P) (hd : s.blob = none → ∀ c, P (defaults c)) {r : NvsRead} {w w' : NvsWrite}
    (hs : Called s (.configInit r w w') s') : Inv P s' := by
  rcases configInit_step hs with ⟨hm, hb, hr, -⟩ | ⟨hn, hm, hb⟩ | ⟨c, hc, hm, hb⟩
  · exact h.same hb hm hr
  · have hk := (ConfigLifetime.storable_defaults (Durability.memory s.life)).checked
    refine h.taken hk (hd hn _) hm ?_
    rw [hn, ← hm]
    exact hb.imp_right And.left
  · obtain ⟨hk, hp⟩ := h.blob c hc
    refine h.taken (checked_withHost hk) (hP.host c hp) hm ?_
    rw [hc, ← hm]
    exact hb.imp_right And.left

theorem Inv.step {P : AntennaSwitchConfig → Prop} {s s' : Kept} {e : Event} (h : Inv P s)
    (hP : Lasting P) (hd : s.blob = none → ∀ c, P (defaults c))
    (hk : ∀ a, e = .call a → Keeps P s a) (hs : Step s e s') : Inv P s' := by
  cases e with
  | boot x => exact h.boot hs
  | call a =>
      by_cases hi : ∃ r w w', a = .configInit r w w'
      · obtain ⟨r, w, w', rfl⟩ := hi
        exact h.configInit hP hd hs
      · exact h.update hP (hk a rfl) hs fun r w w' he => hi ⟨r, w, w', he⟩

/-- A blob once stored is gone only where the flash is erased. -/
theorem Step.isSome {s s' : Kept} {e : Event} (hs : Step s e s') (h : s.blob.isSome)
    (he : ∀ x, e = .boot x → (initNvs x).2 = false) : s'.blob.isSome := by
  have hsame : s'.blob = s.blob → s'.blob.isSome := fun hb => hb ▸ h
  have hnew : ∀ c, s'.blob = some c → s'.blob.isSome := fun c hb => hb ▸ rfl
  cases e with
  | boot x =>
      obtain rfl := hs
      rw [he x rfl]
      exact h
  | call a =>
      by_cases hi : ∃ r w w', a = .configInit r w w'
      · obtain ⟨r, w, w', rfl⟩ := hi
        rcases configInit_step hs with ⟨-, hb, -⟩ | ⟨hn, -⟩ | ⟨c, hc, -, hb | ⟨hb, -⟩⟩
        · exact hsame hb
        · rw [hn] at h
          cases h
        · exact hnew _ hb
        · exact hnew _ hb
      · rcases update_step hs (fun r w w' he => hi ⟨r, w, w', he⟩) with
          ⟨-, hb, -⟩ | ⟨c, -, -, -, hb | ⟨hb, -⟩⟩
        · exact hsame hb
        · exact hnew _ hb
        · exact hsame hb

/-- A call that reported success leaves the storage with what is in memory. -/
theorem Called.reported {s s' : Kept} {a : Action} (hs : Called s a s') (hr : Reported s.life a) :
    s'.blob = some (memory s'.life) := by
  by_cases hi : ∃ r w w', a = .configInit r w w'
  · obtain ⟨r, w, w', rfl⟩ := hi
    rcases configInit_step hs with ⟨-, -, -, hn⟩ | ⟨-, -, hb | ⟨-, hn⟩⟩ | ⟨c, -, -, hb | ⟨-, hn⟩⟩
    · exact absurd hr hn
    · exact hb
    · exact absurd hr hn
    · exact hb
    · exact absurd hr hn
  · rcases update_step hs (fun r w w' he => hi ⟨r, w, w', he⟩) with
      ⟨-, -, hn⟩ | ⟨c, -, -, hm, hb | ⟨-, hn⟩⟩
    · exact absurd hr hn
    · rw [hb, hm]
    · exact absurd hr hn

theorem lasting_true : Lasting fun _ => True := ⟨fun _ _ => trivial, fun _ _ => trivial⟩

theorem inv_first : Inv (fun _ => True) first := by
  refine ⟨fun c h => ?_, Or.inl rfl, fun h => Bool.noConfusion h⟩
  cases h

theorem inv_reachable {s : Kept} (h : Reachable Step first s) : Inv (fun _ => True) s :=
  h.invariant _ inv_first fun _ _ _ hi hs =>
    hi.step lasting_true (fun _ _ => trivial) (fun _ _ _ => Or.inr trivial) hs

/-- A configuration whose change was reported as a success is not lost: whatever
reboots, failing NVS calls, page reads and reports follow, and whatever changes with the
property are asked for, as long as no boot erases the flash the storage keeps a
configuration with it, and every start that succeeds runs with one. Before the change
the flash may have been erased. -/
theorem configuration_survives {P : AntennaSwitchConfig → Prop} (hP : Lasting P) {s₀ s : Kept}
    {a : Action} (h₀ : Reachable Step first s₀) (ha : Step s₀ (.call a) s) (hr : Reported s₀.life a)
    (hp : P (memory s.life)) {t : List (Event × Kept)} (ht : Run Step s t)
    (hk : Guarded (Spares P) s t) :
    ∀ x ∈ t, (∃ c, x.2.blob = some c ∧ P c) ∧ (x.2.life.ready = true → P (memory x.2.life)) := by
  have hany : Inv (fun _ => True) s := inv_reachable (h₀.tail ⟨_, ha⟩)
  have hblob := Called.reported ha hr
  have hstart : Inv P s ∧ s.blob.isSome := by
    refine ⟨⟨fun c hc => ?_, ?_, hany.ready⟩, by rw [hblob]; rfl⟩
    · rw [hblob] at hc
      cases hc
      exact ⟨(hany.blob _ hblob).1, hp⟩
    · exact Or.inr ⟨(hany.blob _ hblob).1, hp⟩
  have hrun := ht.invariant_of_guarded (fun s => Inv P s ∧ s.blob.isSome) hstart hk ?_
  · intro x hx
    obtain ⟨hi, hs⟩ := hrun x hx
    obtain ⟨c, hc⟩ := Option.isSome_iff_exists.mp hs
    refine ⟨⟨c, hc, (hi.blob c hc).2⟩, fun hready => ?_⟩
    rcases hi.memory with hz | ⟨-, hp⟩
    · have hk := hi.ready hready
      rw [hz] at hk
      exact absurd hk (by decide)
    · exact hp
  · rintro s e s' ⟨hi, hsome⟩ hs hk
    refine ⟨hi.step hP (fun hn => ?_) (fun a he => ?_) hs, hs.isSome hsome fun x he => ?_⟩
    · rw [hn] at hsome
      cases hsome
    · subst he
      exact hk
    · subst he
      exact hk

def after (took took' : Bool) (s : Kept) (a : Action) : Kept :=
  ⟨ConfigLifetime.next s.life a, settled took took' s a⟩

def rebooted (s : Kept) : Kept := ⟨boot (images s.life), s.blob⟩

theorem step_after (took took' : Bool) {s : Kept} {a : Action} (hb : a ≠ .boot) (h : Reads s.blob a) :
    Step s (.call a) (after took took' s a) := ⟨hb, h, rfl, took, took', rfl⟩

theorem step_rebooted (s : Kept) : Step s (.boot .success) (rebooted s) := rfl

theorem lasting_tcpPort (port : UInt16) : Lasting fun c => c.tcpPort = port := by
  refine ⟨fun c h => (withHost_tcpPort c).trans h, fun c h => ?_⟩
  rw [withBaudRate]
  split <;> exact h

/-- The first start, a toggle whose commit fails, and a second start that finds what the
first one saved. -/
theorem configuration_survives_toggled :
    let s := after false false first (.configInit ⟨.ok, .nvsNotFound, .zero⟩ .success .success)
    let s₁ := rebooted (after false false s (.toggleAutoMode ⟨.ok, .ok, .fail⟩))
    let s₂ := after false false s₁ (.configInit ⟨.ok, .ok, memory s.life⟩ .success .success)
    (∃ c, s₂.blob = some c ∧ c.tcpPort = 12090) ∧
      (s₂.life.ready = true → (memory s₂.life).tcpPort = 12090) := by
  intro s s₁ s₂
  have ha : Step first _ s :=
    step_after false false ConfigLifetime.Action.noConfusion
      ⟨EspErr.noConfusion, fun _ h => EspErr.noConfusion h, fun _ _ => rfl⟩
  have ht : Step s _ (after false false s (.toggleAutoMode ⟨.ok, .ok, .fail⟩)) :=
    step_after false false ConfigLifetime.Action.noConfusion trivial
  have h₁ : Step _ _ s₁ := step_rebooted _
  have h₂ : Step s₁ _ s₂ :=
    step_after false false ConfigLifetime.Action.noConfusion
      ⟨EspErr.noConfusion, fun _ _ => rfl, fun _ h => EspErr.noConfusion h⟩
  have hr : (Config.init ⟨.ok, .nvsNotFound, .zero⟩ .success .success
      (boot []).device.configManager).1 = .ok := by decide
  have hk : Keeps (fun c => c.tcpPort = 12090) s (.toggleAutoMode ⟨.ok, .ok, .fail⟩) :=
    fun _ => Or.inr rfl
  exact configuration_survives (lasting_tcpPort 12090) .refl ha hr rfl
    (Run.cons ht (.cons h₁ (.cons h₂ (.nil s₂)))) ⟨hk, rfl, fun h => Bool.noConfusion h, trivial⟩ _
    (List.mem_cons_of_mem _ (List.mem_cons_of_mem _ List.mem_cons_self))

end BandDecoder.Durability
