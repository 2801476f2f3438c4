import BandDecoder.SwitchConfig

namespace BandDecoder.WifiManager

open CStrings SwitchConfig

def ESP_ERR_NVS_INVALID_LENGTH : EspErr := .nvs 0x110c

/-- The keys `wifi_ssid` and `wifi_password`, `none` while they are not there. -/
structure Storage where
  ssid : Option Bytes
  password : Option Bytes

def erased : Storage := ⟨none, none⟩

structure SaveScript where
  opened : EspErr
  setSsid : EspErr
  setPassword : EspErr
  commit : EspErr

def SaveScript.success : SaveScript := ⟨.ok, .ok, .ok, .ok⟩

structure ReadScript where
  length : EspErr
  read : EspErr

structure LoadScript where
  opened : EspErr
  ssid : ReadScript
  password : ReadScript

def LoadScript.success : LoadScript := ⟨.ok, ⟨.ok, .ok⟩, ⟨.ok, .ok⟩⟩

structure ClearScript where
  opened : EspErr
  eraseSsid : EspErr
  erasePassword : EspErr
  commit : EspErr

/-- `nvs_set_str` stores the C string at the pointer it is given. -/
def saveCredentials (w : SaveScript) (ssid password : Bytes) (st : Storage) : EspErr × Storage :=
  if w.opened ≠ .ok then (w.opened, st)
  else if w.setSsid ≠ .ok then (w.setSsid, st)
  else
    let st := { st with ssid := some (cstr ssid) }
    if w.setPassword ≠ .ok then (w.setPassword, st)
    else (w.commit, { st with password := some (cstr password) })

/-- One key of `load_credentials`: its size, the check against the buffer, the read. -/
def loadString (r : ReadScript) (buffer : Bytes) (size : Nat) (value : Option Bytes) :
    EspErr × Bytes :=
  if r.length ≠ .ok then (r.length, buffer)
  else match value with
    | none => (.nvsNotFound, buffer)
    | some s =>
        if size < s.length + 1 then (ESP_ERR_NVS_INVALID_LENGTH, buffer)
        else if r.read ≠ .ok then (r.read, buffer)
        else (.ok, s ++ 0 :: buffer.drop (s.length + 1))

structure Loaded where
  status : EspErr
  ssid : Bytes
  password : Bytes

def loadCredentials (r : LoadScript) (ssid : Bytes) (ssidSize : Nat) (password : Bytes)
    (passwordSize : Nat) (st : Storage) : Loaded :=
  if r.opened ≠ .ok then ⟨r.opened, ssid, password⟩
  else match loadString r.ssid ssid ssidSize st.ssid with
    | (.ok, ssid) =>
        let (status, password) := loadString r.password password passwordSize st.password
        ⟨status, ssid, password⟩
    | (status, ssid) => ⟨status, ssid, password⟩

/-- `nvs_erase_key` reports a missing key exactly when there is none to erase. -/
def eraseKey (result : EspErr) (value : Option Bytes) : EspErr × Option Bytes :=
  if result ≠ .ok ∧ result ≠ .nvsNotFound then (result, value)
  else (if value.isSome then .ok else .nvsNotFound, none)

def clearCredentials (w : ClearScript) (st : Storage) : EspErr × Storage :=
  if w.opened ≠ .ok then (w.opened, st)
  else
    let (err, ssid) := eraseKey w.eraseSsid st.ssid
    let st := { st with ssid }
    if err ≠ .ok ∧ err ≠ .nvsNotFound then (err, st)
    else
      let (err, password) := eraseKey w.erasePassword st.password
      let st := { st with password }
      if err ≠ .ok ∧ err ≠ .nvsNotFound then (err, st) else (w.commit, st)

/-- The fields of `wifi_config_t.sta` that the program fills; the rest is zero. -/
structure StaConfig where
  ssid : CharArray 32
  password : CharArray 64

/-- What a `char *` into the configuration reads: the password follows the SSID, and
zero bytes follow the password. -/
def StaConfig.ssidText (c : StaConfig) : Bytes := cstr (c.ssid.bytes ++ (c.password.bytes ++ [0]))

def StaConfig.passwordText (c : StaConfig) : Bytes := cstr (c.password.bytes ++ [0])

/-- What `event_handler` does for `SC_EVENT_GOT_SSID_PSWD` before it reconnects:
`verified` is the outcome of its look at what it saved. -/
structure GotCredentials where
  storage : Storage
  verified : Bool
  config : StaConfig

def gotSsidPswd (w : SaveScript) (r : LoadScript) (ssid : CharArray 32) (password : CharArray 64)
    (st : Storage) : GotCredentials :=
  let config : StaConfig := ⟨ssid, password⟩
  let (saveErr, st) := saveCredentials w config.ssidText config.passwordText st
  let verify := loadCredentials r (List.replicate 33 0) 33 (List.replicate 65 0) 65 st
  ⟨st, decide (saveErr = .ok ∧ verify.status = .ok ∧ cstr verify.ssid = config.ssidText), config⟩

structure ConnectScript where
  setConfig : EspErr
  connect : EspErr

def connectSta (k : ConnectScript) (ssid password : Bytes) : EspErr × StaConfig :=
  let config : StaConfig := ⟨CharArray.strncpy ssid, CharArray.strncpy password⟩
  if k.setConfig ≠ .ok then (k.setConfig, config) else (k.connect, config)

def tryConnectWithSavedCredentials (r : LoadScript) (k : ConnectScript) (st : Storage) :
    EspErr × Option StaConfig :=
  let loaded := loadCredentials r (List.replicate 33 0) 33 (List.replicate 65 0) 65 st
  if loaded.status ≠ .ok then (loaded.status, none)
  else
    let (err, config) := connectSta k (cstr loaded.ssid) (cstr loaded.password)
    (err, some config)

def padded {n : Nat} (s : Bytes) : CharArray n := fun i => charAt s i

theorem bytes_padded {n : Nat} {s : Bytes} (h : s.length ≤ n) :
    (padded s : CharArray n).bytes = s ++ List.replicate (n - s.length) 0 :=
  CharArray.bytes_of_charAt (fun _ => rfl) h

theorem str_padded {n : Nat} {s : Bytes} (h : 0 ∉ s) (hn : s.length ≤ n) :
    (padded s : CharArray n).str = s := by
  rw [CharArray.str, bytes_padded hn, cstr_padded h]

/-- The `strncpy` of a size less one keeps a text that leaves room for the terminator
and cuts one that fills its field. -/
theorem strncpy_eq_padded_iff {n : Nat} {s : Bytes} (h : 0 ∉ s) (hn : s.length ≤ n + 1) :
    (CharArray.strncpy s : CharArray (n + 1)) = padded s ↔ s.length ≤ n := by
  constructor
  · intro he
    have hs := congrArg CharArray.str he
    rw [CharArray.str_strncpy, str_padded h hn, cstr_eq_self h] at hs
    exact List.take_eq_self_iff s |>.mp hs
  · intro hle
    funext i
    rw [CharArray.strncpy, padded, cstr_eq_self h]
    split
    · rfl
    · rw [charAt, List.getD_eq_getElem?_getD, List.getElem?_eq_none (by omega), Option.getD_none]

theorem passwordText_padded {password : Bytes} (ssid : CharArray 32) (hp : 0 ∉ password)
    (hl : password.length ≤ 64) : (⟨ssid, padded password⟩ : StaConfig).passwordText = password := by
  rw [StaConfig.passwordText, bytes_padded hl, List.append_assoc, ← List.replicate_succ',
    cstr_padded hp]

/-- An SSID that fills its field is read on into the password. -/
theorem ssidText_padded {ssid password : Bytes} (hs : 0 ∉ ssid) (hsl : ssid.length ≤ 32)
    (hp : 0 ∉ password) (hpl : password.length ≤ 64) :
    (⟨padded ssid, padded password⟩ : StaConfig).ssidText =
      if ssid.length ≤ 31 then ssid else ssid ++ password := by
  have hpt := passwordText_padded (padded ssid) hp hpl
  rw [StaConfig.passwordText] at hpt
  rw [StaConfig.ssidText, bytes_padded hsl]
  split
  · rename_i h
    obtain ⟨k, hk⟩ : ∃ k, 32 - ssid.length = k + 1 := ⟨31 - ssid.length, by omega⟩
    rw [hk, List.replicate_succ, List.append_assoc, List.cons_append]
    exact cstr_append_zero hs _
  · rename_i h
    have hk : 32 - ssid.length = 0 := by omega
    rw [hk, List.replicate_zero, List.append_nil, cstr_append_of_not_mem hs, hpt]

theorem loadString_fits {s : Bytes} (buffer : Bytes) {size : Nat} (h : s.length < size) :
    loadString ⟨.ok, .ok⟩ buffer size (some s) = (.ok, s ++ 0 :: buffer.drop (s.length + 1)) := by
  rw [loadString, if_neg (fun hc => hc rfl)]
  dsimp only
  rw [if_neg (by omega), if_neg (fun hc => hc rfl)]

theorem loadString_long {s : Bytes} (buffer : Bytes) {size : Nat} (h : size ≤ s.length) :
    loadString ⟨.ok, .ok⟩ buffer size (some s) = (ESP_ERR_NVS_INVALID_LENGTH, buffer) := by
  rw [loadString, if_neg (fun hc => hc rfl)]
  dsimp only
  rw [if_pos (by omega)]

theorem loadCredentials_fits {ssid password : Bytes} (b b' : Bytes) {n n' : Nat}
    (hs : ssid.length < n) (hp : password.length < n') :
    loadCredentials .success b n b' n' ⟨some ssid, some password⟩ =
      ⟨.ok, ssid ++ 0 :: b.drop (ssid.length + 1), password ++ 0 :: b'.drop (password.length + 1)⟩ := by
  rw [loadCredentials, if_neg (fun hc => hc rfl)]
  dsimp only [LoadScript.success]
  rw [loadString_fits b hs, loadString_fits b' hp]

theorem loadCredentials_long {ssid : Bytes} (b b' : Bytes) {n : Nat} (n' : Nat)
    (password : Option Bytes) (hs : n ≤ ssid.length) :
    loadCredentials .success b n b' n' ⟨some ssid, password⟩ =
      ⟨ESP_ERR_NVS_INVALID_LENGTH, b, b'⟩ := by
  rw [loadCredentials, if_neg (fun hc => hc rfl)]
  dsimp only [LoadScript.success]
  rw [loadString_long b hs]
  rfl

/-- What a stored pair becomes at the next start. -/
theorem tryConnect_stored {ssid password : Bytes} (hs : 0 ∉ ssid) (hp : 0 ∉ password)
    (hpl : password.length ≤ 64) (k : ConnectScript) :
    (tryConnectWithSavedCredentials .success k ⟨some ssid, some password⟩).2 =
      if ssid.length ≤ 32 then some ⟨CharArray.strncpy ssid, CharArray.strncpy password⟩
      else none := by
  rw [tryConnectWithSavedCredentials]
  by_cases h : ssid.length ≤ 32
  · rw [if_pos h, loadCredentials_fits _ _ (Nat.lt_succ_of_le h) (Nat.lt_succ_of_le hpl)]
    dsimp only
    rw [if_neg (fun hc => hc rfl), cstr_append_zero hs, cstr_append_zero hp, connectSta]
    dsimp only
    split <;> rfl
  · rw [if_neg h, loadCredentials_long _ _ _ _ (Nat.succ_le_of_lt (Nat.lt_of_not_le h))]
    rfl

theorem gotSsidPswd_storage (r : LoadScript) (ssid : CharArray 32) (password : CharArray 64)
    (st : Storage) : (gotSsidPswd .success r ssid password st).storage =
      ⟨some (StaConfig.ssidText ⟨ssid, password⟩), some (StaConfig.passwordText ⟨ssid, password⟩)⟩ := by
  change (⟨some (cstr (StaConfig.ssidText ⟨ssid, password⟩)),
    some (cstr (StaConfig.passwordText ⟨ssid, password⟩))⟩ : Storage) = _
  rw [StaConfig.ssidText, StaConfig.passwordText, cstr_cstr, cstr_cstr]

/-- The credentials of an event come back behind a restart exactly when both leave
room for a terminator in their fields. -/
theorem credentials_survive_iff {ssid password : Bytes} (hs : 0 ∉ ssid) (hs1 : 1 ≤ ssid.length)
    (hs32 : ssid.length ≤ 32) (hp : 0 ∉ password) (hp64 : password.length ≤ 64) (k : ConnectScript)
    (st : Storage) :
    (tryConnectWithSavedCredentials .success k
        (gotSsidPswd .success .success (padded ssid) (padded password) st).storage).2 =
      some ⟨padded ssid, padded password⟩ ↔ ssid.length ≤ 31 ∧ password.length ≤ 63 := by
  rw [gotSsidPswd_storage, passwordText_padded _ hp hp64, ssidText_padded hs hs32 hp hp64]
  by_cases h : ssid.length ≤ 31
  · rw [if_pos h, tryConnect_stored hs hp hp64, if_pos hs32, Option.some.injEq, StaConfig.mk.injEq,
      strncpy_eq_padded_iff hs hs32, strncpy_eq_padded_iff hp hp64]
  · have hmem : 0 ∉ ssid ++ password := fun hc => (List.mem_append.mp hc).elim hs hp
    rw [if_neg h, tryConnect_stored hmem hp hp64]
    refine iff_of_false (fun hc => ?_) (fun hc => h hc.1)
    split at hc
    · rename_i hl
      have hnil : password = [] := by
        rw [List.length_append] at hl
        exact List.length_eq_zero_iff.mp (by omega)
      rw [hnil, List.append_nil, Option.some.injEq, StaConfig.mk.injEq,
        strncpy_eq_padded_iff hs hs32] at hc
      exact h hc.1
    · cases hc

theorem credentials_survive_iff_home :
    (tryConnectWithSavedCredentials .success ⟨.ok, .ok⟩
        (gotSsidPswd .success .success (padded (text "home")) (padded (text "secret")) erased).storage).2 =
      some ⟨padded (text "home"), padded (text "secret")⟩ ↔
      (text "home").length ≤ 31 ∧ (text "secret").length ≤ 63 :=
  credentials_survive_iff (by decide) (by decide) (by decide) (by decide) (by decide) ⟨.ok, .ok⟩ erased

/-- An SSID of 32 bytes with a password is stored as one text of both, which the next
start finds too long to load. -/
theorem credentials_survive_fails :
    ¬ ∀ ssid password : Bytes, 0 ∉ ssid → 1 ≤ ssid.length → ssid.length ≤ 32 → 0 ∉ password →
      password.length ≤ 64 → ∀ (k : ConnectScript) (st : Storage),
      (tryConnectWithSavedCredentials .success k
          (gotSsidPswd .success .success (padded ssid) (padded password) st).storage).2 =
        some ⟨padded ssid, padded password⟩ := by
  intro h
  have hf := h (List.replicate 32 65) (text "secret") (by decide) (by decide) (by decide) (by decide)
    (by decide) ⟨.ok, .ok⟩ erased
  have hl : (none : Option StaConfig) = some ⟨padded (List.replicate 32 65), padded (text "secret")⟩ :=
    hf
  cases hl

end BandDecoder.WifiManager
