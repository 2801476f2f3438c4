import BandDecoder.BandOrder
import BandDecoder.ConfigImage
import BandDecoder.ConfigPage
import BandDecoder.Tuning

namespace BandDecoder.PageToBoard

open CStrings SwitchConfig Config ConfigImage Switch Cat Web PostedConfig BandOrder ConfigPage Runs
open PromptBoard (Undisturbed Done)
open Tuning (Rig PoweredOn lastReport)
open BoardProtocol (World)

def Distinct (f : Form) : Prop := (f.rows.map fun row => row.band.name).Nodup

/-- Row `i` of the page is around the frequency and its first tick is at port `j`. -/
def Ticked (f : Form) (g : UInt32) (i j : Nat) : Prop :=
  ∃ row, f.rows[i]? = some row ∧ row.band.startFreq ≤ g ∧ g ≤ row.band.endFreq ∧
    row.ports[j]? = some true ∧ ∀ k < j, row.ports[k]? = some false

section Form

variable {f : Form}

theorem band_config (hc : Consistent f) (hv : f.InBounds) {i : Nat} {row : Row}
    (h : f.rows[i]? = some row) : i < f.config.numBands.toNat ∧ f.config.band i = row.config := by
  have hi := (List.getElem?_eq_some_iff.mp h).1
  have hlt : i < MAX_BANDS := by
    rw [hc.rows] at hi
    exact Nat.lt_of_lt_of_le hi (count_numBands hv)
  rw [numBands_config hc hv, AntennaSwitchConfig.band, dif_pos hlt]
  exact ⟨hi, config_bands (i := ⟨i, hlt⟩) h⟩

theorem tidy_config (hc : Consistent f) (hv : f.InBounds) (hf : f.Filled) (hd : Distinct f) :
    Tidy f.config := by
  have hchecked := checked_config hc hv hf
  have hp := presentable_config hc hv hf
  have hrow : ∀ i < f.config.numBands.toNat, ∃ row, f.rows[i]? = some row := by
    intro i hi
    rw [numBands_config hc hv] at hi
    exact ⟨_, List.getElem?_eq_getElem hi⟩
  refine ⟨hchecked.2.1, fun i hi => ?_, fun i hi j hj hs => ?_⟩
  · obtain ⟨e, he, -, hstart, hend, -⟩ := hp.bands i hi
    exact ⟨e, he, hstart, hend⟩
  · obtain ⟨row, hi'⟩ := hrow i hi
    obtain ⟨row', hj'⟩ := hrow j hj
    rw [(band_config hc hv hi').2, (band_config hc hv hj').2] at hs
    have hname := name_of_start _ (hc.bands row (mem_of_row hi')) _
      (hc.bands row' (mem_of_row hj')) hs
    have hlen : i < (f.rows.map fun row => row.band.name).length := by
      rw [List.length_map]
      exact (List.getElem?_eq_some_iff.mp hi').1
    refine (List.getElem?_inj hlen hd).mp ?_
    rw [List.getElem?_map, List.getElem?_map, hi', hj', Option.map_some, Option.map_some, hname]

theorem numAntennaPorts_config (hc : Consistent f) (hv : f.InBounds) (hf : f.Filled) {row : Row}
    {i : Nat} (h : f.rows[i]? = some row) : f.config.numAntennaPorts.toNat = row.ports.length := by
  obtain ⟨n, hp⟩ := Option.ne_none_iff_exists'.mp hf.2.1
  have hb := hv.numAntennaPorts n hp
  rw [MAX_ANTENNA_PORTS] at hb
  have hn := StateReply.toNat_ofInt (v := n) (by omega) (by omega)
  have hlen := hc.ports row (mem_of_row h)
  rw [count, hp, Option.getD_some] at hlen
  rw [Form.config, hp]
  dsimp only [Option.getD_some]
  omega

theorem port_config {row : Row} {k : Nat} (hk : k < MAX_ANTENNA_PORTS) :
    row.config.port k = row.ports.getD k false := by
  rw [BandConfig.port, dif_pos hk]
  rfl

theorem choice_config (hc : Consistent f) (hv : f.InBounds) (hf : f.Filled)
    (hauto : f.autoMode = true) (hd : Distinct f) {g : UInt32} {i j : Nat} (h : Ticked f g i j) :
    choice f.config g = some ⟨j + 1, i⟩ := by
  obtain ⟨row, hrow, hlow, hhigh, hj, hfirst⟩ := h
  obtain ⟨hi, hband⟩ := band_config hc hv hrow
  have htidy := tidy_config hc hv hf hd
  have hports := numAntennaPorts_config hc hv hf hrow
  have hmax := (checked_config hc hv hf).2.2.2
  have hlt := (List.getElem?_eq_some_iff.mp hj).1
  have hfb : f.config.firstBand g = some i := by
    refine (firstBand_eq_some fun i hi j hj => htidy.unique hi hj).mpr ⟨hi, ?_⟩
    rw [hband]
    exact Bool.and_eq_true_iff.mpr ⟨decide_eq_true hlow, decide_eq_true hhigh⟩
  have hfp : f.config.firstPort i = some j := by
    rw [AntennaSwitchConfig.firstPort, List.find?_range_eq_some, List.mem_range, hports, hband]
    refine ⟨?_, hlt, fun k hk => ?_⟩
    · rw [port_config (by omega), List.getD_eq_getElem?_getD, hj]
      rfl
    · rw [port_config (by omega), List.getD_eq_getElem?_getD, hfirst k hk]
      rfl
  have ha : f.config.autoMode = true := hauto
  rw [choice, if_pos ha, hfb, Option.bind_some, hfp]
  rfl

end Form

theorem beside_withHost : Beside withHost := by
  refine ⟨fun c => ?_, fun c => ?_, fun c c' h => ?_, fun c c' h => ?_⟩
  · rw [withHost]
    split <;> rfl
  · rw [withHost]
    split <;> rfl
  · rw [withHost, withHost]
    split <;> split <;> exact h
  · rw [withHost, withHost]
    split <;> split <;> exact h

theorem choice_withHost (c : AntennaSwitchConfig) (g : UInt32) : choice (withHost c) g = choice c g := by
  rw [withHost]
  split <;> rfl

theorem firstBand_zero {c : AntennaSwitchConfig} (h : Tidy c) : c.firstBand 0 = none :=
  realBands_zero h.real h.bound

def requesting : World :=
  { BoardProtocol.poweredOn with
    task := { BoardProtocol.poweredOn.task with
      controller := { BoardProtocol.poweredOn.task.controller with latestRequest := ⟨1, 0⟩ } } }

def rigWith (c : AntennaSwitchConfig) : Rig :=
  ⟨⟨c, [], [c]⟩, { ConfigLifetime.idle with currentConfig := c }, [], BoardProtocol.poweredOn, [], []⟩

theorem poweredOn_rigWith (c : AntennaSwitchConfig) : PoweredOn c (rigWith c) :=
  ⟨rfl, rfl, rfl, rfl, rfl, ⟨rfl, rfl⟩, BoardProtocol.started_poweredOn, rfl,
    Tuning.poweredOn_twentyRig.alone⟩

def heard (c : AntennaSwitchConfig) (read : Bytes) : Rig :=
  (Tuning.note (rigWith c) (.data read)).keep
    ((Framing.frames semicolon read).foldl (Cat.dispatch runCommand) (rigWith c).device,
      Framing.rest semicolon read)

theorem step_heard (c : AntennaSwitchConfig) {read : Bytes} (h : 0 ∉ read) :
    Tuning.Step (rigWith c) (.uart (.data read)) (heard c read) := Tuning.step_first rfl h

theorem world_heard {c : AntennaSwitchConfig} (hz : c.firstBand 0 = none) (read cmd : Bytes)
    (hread : Framing.frames semicolon read = [cmd]) {g : UInt32}
    (hcmd : (decode cmd).bind BandCache.frequencyOf = some g) (hq : choice c g = some ⟨1, 0⟩) :
    (heard c read).world = requesting := by
  have hon := (PoweredOn.inv (poweredOn_rigWith c) hz).rung.on
  obtain ⟨cc, hd, hg⟩ := Option.bind_eq_some_iff.mp hcmd
  obtain ⟨hon', hr⟩ := hon.report hg
  have hdispatch : (heard c read).world.task.controller =
      (runCommand cc (rigWith c).device).relayController := by
    rw [heard, hread, List.foldl_cons, List.foldl_nil, Cat.dispatch, hd]
    rfl
  have hworld : (heard c read).world = { BoardProtocol.poweredOn with
      task := { BoardProtocol.poweredOn.task with
        controller := (heard c read).world.task.controller } } := rfl
  rw [hworld, hdispatch]
  rcases hr with hr | ⟨q, hq', hr⟩
  · have hrequest := hon'.request _ hq
    rw [hr] at hrequest
    have hnone : (rigWith c).device.relayController.latestRequest = Relay.noRequest := rfl
    rw [hnone] at hrequest
    exact absurd hrequest (by decide)
  · rw [hq] at hq'
    cases hq'
    rw [hr]
    rfl

def lowBand : Bytes := text "FA00001900000;"

theorem ticked_entered : Ticked entered 1900000 0 0 := by
  refine ⟨entered.rows.get ⟨0, by decide⟩, rfl, ?_⟩
  decide +kernel

theorem distinct_entered : Distinct entered := by
  rw [Distinct]
  decide +kernel

end BandDecoder.PageToBoard
