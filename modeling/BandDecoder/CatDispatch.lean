import BandDecoder.CatFraming

namespace BandDecoder.CatDispatch

open CStrings SwitchConfig Config Relay Switch Cat Framing CatFraming

theorem handleFrequencyChange_ok (frequency : UInt32) (d : Device) :
    (handleFrequencyChange frequency d).1 = .ok := by
  rw [handleFrequencyChange_eq]

theorem processFaCommand_ok (command : Bytes) (d : Device) : (processFaCommand command d).1 = .ok := by
  rw [processFaCommand]
  dsimp only
  split
  · rfl
  · exact handleFrequencyChange_ok _ d

theorem processIfCommand_ok (command : Bytes) (d : Device) : (processIfCommand command d).1 = .ok := by
  rw [processIfCommand]
  dsimp only
  split
  · rfl
  · split
    · rfl
    · exact handleFrequencyChange_ok _ _

theorem toNat_cmdCode (b0 b1 : UInt8) : (cmdCode b0 b1).toNat = b0.toNat * 256 + b1.toNat := by
  have h0 := b0.toNat_lt
  have h1 := b1.toNat_lt
  have hs : (b0.toUInt16 <<< 8).toNat = b0.toNat <<< 8 := by
    simp [UInt16.toNat_shiftLeft, Nat.shiftLeft_eq]
    omega
  rw [cmdCode, UInt16.toNat_or, hs, UInt8.toNat_toUInt16, ← Nat.shiftLeft_add_eq_or_of_lt (by omega),
    Nat.shiftLeft_eq]

theorem cmdCode_inj {b0 b1 c0 c1 : UInt8} : cmdCode b0 b1 = cmdCode c0 c1 ↔ b0 = c0 ∧ b1 = c1 := by
  constructor
  · intro h
    have hn := congrArg UInt16.toNat h
    rw [toNat_cmdCode, toNat_cmdCode] at hn
    have := b1.toNat_lt
    have := c1.toNat_lt
    exact ⟨UInt8.toNat_inj.mp (by omega), UInt8.toNat_inj.mp (by omega)⟩
  · rintro ⟨rfl, rfl⟩
    rfl

theorem decode_cons (b0 b1 : UInt8) (param : Bytes) :
    decode (b0 :: b1 :: param) =
      if b0 = 70 ∧ b1 = 65 then some (.fa param)
      else if b0 = 73 ∧ b1 = 70 then some (.info param) else none := by
  have hfa : text "FA" = [70, 65] := by decide
  have hif : text "IF" = [73, 70] := by decide
  simp [decode, hfa, hif]

theorem runHandler_eq {w : NvsWrite} {cmd : Bytes} (h : ¬ text "AP" <+: cmd) (d : Device) :
    runHandler w cmd d = (.ok, dispatch runCommand d cmd) := by
  match cmd with
  | [] => rfl
  | [b] => rfl
  | b0 :: b1 :: param =>
      have hap : ¬ (b0 = 65 ∧ b1 = 80) := by
        rintro ⟨rfl, rfl⟩
        exact h ⟨param, rfl⟩
      simp only [runHandler, dispatch, decode_cons, cmdCode_inj, hap, if_false]
      by_cases h1 : b0 = 70 ∧ b1 = 65
      · simp only [if_pos h1]
        exact Prod.ext (processFaCommand_ok param d) rfl
      · by_cases h2 : b0 = 73 ∧ b1 = 70
        · simp only [if_neg h1, if_pos h2]
          exact Prod.ext (processIfCommand_ok param d) rfl
        · simp only [if_neg h1, if_neg h2]

theorem stopOf_frame {cmd : Bytes} (h : semicolon ∉ cmd) (pre t : Bytes) :
    stopOf (pre ++ (cmd ++ semicolon :: t)) pre.length = pre.length + cmd.length := by
  rw [stopOf]
  rw [List.drop_left, findIdx?_frame h t]

/-- From the start of a command on, the scan runs the remaining commands in order;
the induction is on them, and what the scan has passed only moves the offset. -/
theorem processFrom_commands (nvs : Nat → NvsWrite) (cmds : List Bytes)
    (h : ∀ cmd ∈ cmds, semicolon ∉ cmd ∧ ¬ text "AP" <+: cmd) (pre : Bytes) (d : Device) :
    processFrom nvs (pre ++ cmds.flatMap fun cmd => cmd ++ [semicolon]) pre.length d =
      (.ok, cmds.foldl (dispatch runCommand) d) := by
  induction cmds generalizing pre d with
  | nil => rw [processFrom]; simp
  | cons cmd cmds ih =>
      obtain ⟨hsemi, hap⟩ := h cmd (by simp)
      have hs : pre ++ (cmd :: cmds).flatMap (fun cmd => cmd ++ [semicolon]) =
          pre ++ (cmd ++ semicolon :: cmds.flatMap fun cmd => cmd ++ [semicolon]) := by simp
      have hstart : pre.length <
          (pre ++ (cmd ++ semicolon :: cmds.flatMap fun cmd => cmd ++ [semicolon])).length := by
        rw [List.length_append, List.length_append, List.length_cons]
        omega
      have hview : ((pre ++ (cmd ++ semicolon :: cmds.flatMap fun cmd => cmd ++ [semicolon])).drop
          pre.length).take (pre.length + cmd.length - pre.length) = cmd := by
        rw [List.drop_left, Nat.add_sub_cancel_left, List.take_left]
      have hnext := ih (fun c hc => h c (by simp [hc])) (pre ++ cmd ++ [semicolon])
        (dispatch runCommand d cmd)
      simp only [List.append_assoc, List.length_append, List.length_cons, List.length_nil,
        List.singleton_append, Nat.zero_add] at hnext
      rw [hs, processFrom, dif_pos hstart]
      simp only [stopOf_frame hsemi, hview, runHandler_eq hap, List.foldl_cons]
      rw [← hnext, Nat.add_assoc]

/-- A batch of closed commands does the same through `process_command` as through
`uart_task`, whatever the reads, and no handler error cuts the batch short. -/
theorem processCommand_eq_uartTask (nvs : Nat → NvsWrite) (d : Device) (cmds : List Bytes)
    (h : ∀ cmd ∈ cmds, semicolon ∉ cmd ∧ 0 ∉ cmd ∧ ¬ text "AP" <+: cmd) (reads : List Bytes)
    (hreads : reads.flatten = cmds.flatMap fun cmd => cmd ++ [semicolon]) :
    processCommand nvs (cmds.flatMap fun cmd => cmd ++ [semicolon]) d =
        (.ok, (uartTask runCommand d (reads.map .data)).1) ∧
      (uartTask runCommand d (reads.map .data)).2 = [] := by
  have hnul : 0 ∉ cmds.flatMap fun cmd => cmd ++ [semicolon] := by
    simp only [List.mem_flatMap, List.mem_append, List.mem_singleton, not_exists, not_and, not_or]
    exact fun cmd hc => ⟨(h cmd hc).2.1, by decide⟩
  have hframes := frames_flatMap semicolon fun cmd hc => (h cmd hc).1
  have hrest := rest_flatMap semicolon fun cmd hc => (h cmd hc).1
  have hproc := processFrom_commands nvs cmds (fun cmd hc => ⟨(h cmd hc).1, (h cmd hc).2.2⟩) [] d
  rw [uartTask_reads runCommand d reads (hreads ▸ hnul), hreads, hframes, hrest, processCommand,
    cstr_eq_self hnul]
  exact ⟨by simpa using hproc, rfl⟩

def twoAntennas : AntennaSwitchConfig :=
  { AntennaSwitchConfig.zero with
    autoMode := true, numBands := 2, numAntennaPorts := 2
    bands := fun i =>
      if i.val = 0 then ⟨CharArray.strncpy (text "20m"), 14000000, 14350000, fun j => j.val = 0⟩
      else ⟨CharArray.strncpy (text "40m"), 7000000, 7300000, fun j => j.val = 1⟩ }

def onTwoAntennas : Device :=
  ⟨⟨twoAntennas, [], []⟩, ⟨twoAntennas, 0, -1, false, .unset⟩, Relay.construct⟩

def batch : List Bytes :=
  [text "FA00014074000", text "IF00007074000     +00000000012000000000", text "ZZ"]

def cut : List Bytes :=
  [text "FA000140", text "74000;IF00007074000     +0000000", text "0012000000000;Z", text "Z;"]

/-- Both ways end on 40 m with its antenna requested. -/
theorem processCommand_eq_uartTask_split :
    processCommand (fun _ => .success) (batch.flatMap fun cmd => cmd ++ [semicolon]) onTwoAntennas =
        (.ok, (uartTask runCommand onTwoAntennas (cut.map .data)).1) ∧
      (uartTask runCommand onTwoAntennas (cut.map .data)).2 = [] ∧
      (uartTask runCommand onTwoAntennas (cut.map .data)).1.catParser.currentFrequency = 7074000 ∧
      (uartTask runCommand onTwoAntennas (cut.map .data)).1.relayController.latestRequest = ⟨2, 1⟩ := by
  have h := processCommand_eq_uartTask (fun _ => .success) onTwoAntennas batch (by decide) cut
    (by decide)
  exact ⟨h.1, h.2, by decide +kernel, by decide +kernel⟩

end BandDecoder.CatDispatch
