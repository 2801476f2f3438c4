import BandDecoder.Runs
import BandDecoder.WifiManager

namespace BandDecoder.Credentials

open CStrings SwitchConfig WifiManager Runs

def returned (l : Loaded) : EspErr × Option (Bytes × Bytes) :=
  (l.status, if l.status = .ok then some (cstr l.ssid, cstr l.password) else none)

/-- The storage with what it held before the last call, the status of that call and
every pair that was given to `save_credentials`. -/
structure Store where
  storage : Storage
  previous : Storage
  status : EspErr
  saved : List (Bytes × Bytes)

def start : Store := ⟨erased, erased, .ok, []⟩

inductive Op
  | save (w : SaveScript) (ssid password : Bytes)
  | clear (w : ClearScript)

def next (s : Store) : Op → Store
  | .save w ssid password =>
      let (status, storage) := saveCredentials w ssid password s.storage
      ⟨storage, s.storage, status, (cstr ssid, cstr password) :: s.saved⟩
  | .clear w =>
      let (status, storage) := clearCredentials w s.storage
      ⟨storage, s.storage, status, s.saved⟩

def Step (s : Store) (op : Op) (s' : Store) : Prop := s' = next s op

theorem step_next (s : Store) (op : Op) : Step s op (next s op) := rfl

def Alike (st st' : Storage) : Prop := ∀ r b n b' n',
  returned (loadCredentials r b n b' n' st) = returned (loadCredentials r b n b' n' st')

/-- A load gives only pairs that were saved together, and a call that failed left
every load as it was. -/
structure Unmixed (s : Store) : Prop where
  pair : ∀ r b n b' n' p, returned (loadCredentials r b n b' n' s.storage) = (.ok, some p) →
    p ∈ s.saved
  unchanged : s.status ≠ .ok → Alike s.storage s.previous

def Failed (e : EspErr) : Prop := e ≠ .ok ∧ e ≠ .nvsNotFound

instance (e : EspErr) : Decidable (Failed e) := inferInstanceAs (Decidable (_ ∧ _))

/-- The call fails in front of its first write, or no call of it fails, or what it
writes is there already. -/
def Whole (s : Store) : Op → Prop
  | .save w ssid password => w.opened ≠ .ok ∨ w.setSsid ≠ .ok ∨
      (w.setPassword = .ok ∧ w.commit = .ok) ∨
      (s.storage.ssid = some (cstr ssid) ∧
        (w.setPassword ≠ .ok ∨ s.storage.password = some (cstr password)))
  | .clear w => w.opened ≠ .ok ∨ Failed w.eraseSsid ∨
      (¬ Failed w.erasePassword ∧ w.commit = .ok) ∨
      (s.storage.ssid = none ∧ (Failed w.erasePassword ∨ s.storage.password = none))

def Inv (s : Store) : Prop := s.storage = erased ∨ ∃ ssid password,
  (cstr ssid, cstr password) ∈ s.saved ∧ s.storage = ⟨some (cstr ssid), some (cstr password)⟩

theorem saveCredentials_ok {w : SaveScript} {ssid password : Bytes} {st : Storage}
    (h : (saveCredentials w ssid password st).1 = .ok) :
    (saveCredentials w ssid password st).2 = ⟨some (cstr ssid), some (cstr password)⟩ := by
  rw [saveCredentials] at h ⊢
  split
  · rename_i ho
    rw [if_pos ho] at h
    exact absurd h ho
  · rename_i ho
    rw [if_neg ho] at h
    split
    · rename_i hs
      rw [if_pos hs] at h
      exact absurd h hs
    · rename_i hs
      rw [if_neg hs] at h
      dsimp only at h ⊢
      split
      · rename_i hp
        rw [if_pos hp] at h
        exact absurd h hp
      · rfl

/-- Past its first write the call leaves the SSID behind, whatever comes then. -/
theorem saveCredentials_begun {w : SaveScript} (ho : w.opened = .ok) (hs : w.setSsid = .ok)
    (ssid password : Bytes) (st : Storage) :
    saveCredentials w ssid password st =
      if w.setPassword ≠ .ok then (w.setPassword, ⟨some (cstr ssid), st.password⟩)
      else (w.commit, ⟨some (cstr ssid), some (cstr password)⟩) := by
  rw [saveCredentials, if_neg (fun h => h ho), if_neg (fun h => h hs)]

theorem saveCredentials_unchanged {w : SaveScript} {ssid password : Bytes} {s : Store}
    (h : Whole s (.save w ssid password))
    (hf : (saveCredentials w ssid password s.storage).1 ≠ .ok) :
    (saveCredentials w ssid password s.storage).2 = s.storage := by
  by_cases ho : w.opened = .ok
  · by_cases hs : w.setSsid = .ok
    · rw [saveCredentials_begun ho hs] at hf ⊢
      rcases h with h | h | ⟨hp, hc⟩ | ⟨hssid, h⟩
      · exact absurd ho h
      · exact absurd hs h
      · rw [if_neg (fun h => h hp)] at hf
        exact absurd hc hf
      · rw [← hssid]
        split
        · rfl
        · rename_i hp
          rcases h with h | h
          · exact absurd h hp
          · rw [← h]
    · rw [saveCredentials, if_neg (fun h => h ho), if_pos hs]
  · rw [saveCredentials, if_pos ho]

theorem eraseKey_failed {e : EspErr} (h : Failed e) (v : Option Bytes) : eraseKey e v = (e, v) :=
  if_pos h

theorem eraseKey_erased {e : EspErr} (h : ¬ Failed e) (v : Option Bytes) :
    (eraseKey e v).2 = none ∧ ¬ Failed (eraseKey e v).1 := by
  have he : eraseKey e v = (if v.isSome then .ok else .nvsNotFound, none) := if_neg h
  rw [he]
  refine ⟨rfl, ?_⟩
  dsimp only
  split <;> decide

theorem clearCredentials_opened {w : ClearScript} (ho : w.opened = .ok) (st : Storage) :
    clearCredentials w st =
      let (err, ssid) := eraseKey w.eraseSsid st.ssid
      if Failed err then (err, ⟨ssid, st.password⟩)
      else
        let (err, password) := eraseKey w.erasePassword st.password
        if Failed err then (err, ⟨ssid, password⟩) else (w.commit, ⟨ssid, password⟩) :=
  if_neg fun h => h ho

/-- Past its first erasure the call leaves no SSID behind, whatever comes then. -/
theorem clearCredentials_begun {w : ClearScript} (ho : w.opened = .ok) (hs : ¬ Failed w.eraseSsid)
    (st : Storage) :
    clearCredentials w st =
      if Failed w.erasePassword then (w.erasePassword, ⟨none, st.password⟩)
      else (w.commit, erased) := by
  obtain ⟨hv, he⟩ := eraseKey_erased hs st.ssid
  rw [clearCredentials_opened ho]
  dsimp only
  rw [if_neg he, hv]
  by_cases hp : Failed w.erasePassword
  · rw [eraseKey_failed hp]
    dsimp only
    rw [if_pos hp, if_pos hp]
  · obtain ⟨hv', he'⟩ := eraseKey_erased hp st.password
    rw [if_neg hp, if_neg he', hv']
    rfl

theorem clearCredentials_failed_ssid {w : ClearScript} (ho : w.opened = .ok)
    (hs : Failed w.eraseSsid) (st : Storage) : clearCredentials w st = (w.eraseSsid, st) := by
  rw [clearCredentials_opened ho, eraseKey_failed hs]
  exact if_pos hs

theorem clearCredentials_ok {w : ClearScript} {st : Storage} (h : (clearCredentials w st).1 = .ok) :
    (clearCredentials w st).2 = erased := by
  by_cases ho : w.opened = .ok
  · by_cases hs : Failed w.eraseSsid
    · rw [clearCredentials_failed_ssid ho hs] at h
      exact absurd h hs.1
    · rw [clearCredentials_begun ho hs] at h ⊢
      split
      · rename_i hp
        rw [if_pos hp] at h
        exact absurd h hp.1
      · rfl
  · rw [clearCredentials, if_pos ho] at h
    exact absurd h ho

theorem clearCredentials_unchanged {w : ClearScript} {s : Store} (h : Whole s (.clear w))
    (hf : (clearCredentials w s.storage).1 ≠ .ok) :
    (clearCredentials w s.storage).2 = s.storage := by
  by_cases ho : w.opened = .ok
  · by_cases hs : Failed w.eraseSsid
    · rw [clearCredentials_failed_ssid ho hs]
    · rw [clearCredentials_begun ho hs] at hf ⊢
      rcases h with h | h | ⟨hp, hc⟩ | ⟨hssid, h⟩
      · exact absurd ho h
      · exact absurd h hs
      · rw [if_neg hp] at hf
        exact absurd hc hf
      · split
        · rw [← hssid]
        · rename_i hp
          rcases h with h | h
          · exact absurd h hp
          · exact congrArg₂ Storage.mk hssid.symm h.symm
  · rw [clearCredentials, if_pos ho]

theorem loadString_ok {r : ReadScript} {b b' : Bytes} {n : Nat} {v : Option Bytes}
    (h : loadString r b n v = (.ok, b')) :
    ∃ s, v = some s ∧ b' = s ++ 0 :: b.drop (s.length + 1) := by
  unfold loadString at h
  split at h
  · rename_i hl
    exact absurd (Prod.mk.inj h).1 hl
  · split at h
    · cases h
    · rename_i s
      split at h
      · cases h
      · split at h
        · rename_i hr
          exact absurd (Prod.mk.inj h).1 hr
        · exact ⟨s, rfl, (Prod.mk.inj h).2.symm⟩

theorem loadCredentials_ok {r : LoadScript} {b b' : Bytes} {n n' : Nat} {st : Storage}
    (h : (loadCredentials r b n b' n' st).status = .ok) :
    ∃ ssid password, st = ⟨some ssid, some password⟩ ∧ loadCredentials r b n b' n' st =
      ⟨.ok, ssid ++ 0 :: b.drop (ssid.length + 1),
        password ++ 0 :: b'.drop (password.length + 1)⟩ := by
  rw [loadCredentials] at h ⊢
  by_cases ho : r.opened = .ok
  · rw [if_neg (fun h => h ho)] at h ⊢
    cases hs : loadString r.ssid b n st.ssid with
    | mk e ssid =>
        rw [hs] at h
        cases e with
        | ok =>
            cases hp : loadString r.password b' n' st.password with
            | mk e' password =>
                rw [hp] at h
                cases h
                obtain ⟨s, hv, rfl⟩ := loadString_ok hs
                obtain ⟨p, hv', rfl⟩ := loadString_ok hp
                exact ⟨s, p, congrArg₂ Storage.mk hv hv', rfl⟩
        | _ => cases h
  · rw [if_pos ho] at h
    exact absurd h ho

theorem returned_ok {r : LoadScript} {b b' : Bytes} {n n' : Nat} {st : Storage}
    {p : Bytes × Bytes} (h : returned (loadCredentials r b n b' n' st) = (.ok, some p)) :
    ∃ ssid password, st = ⟨some ssid, some password⟩ ∧
      (0 ∉ ssid → 0 ∉ password → p = (ssid, password)) := by
  obtain ⟨hs, hp⟩ := Prod.mk.inj h
  obtain ⟨ssid, password, hst, hl⟩ := loadCredentials_ok hs
  refine ⟨ssid, password, hst, fun h0 h0' => ?_⟩
  rw [if_pos hs, hl] at hp
  dsimp only at hp
  rw [cstr_append_zero h0, cstr_append_zero h0'] at hp
  exact (Option.some.inj hp).symm

theorem returned_stored {ssid password : Bytes} (h : 0 ∉ ssid) (h' : 0 ∉ password) {n n' : Nat}
    (hn : ssid.length < n) (hn' : password.length < n') :
    returned (loadCredentials .success [] n [] n' ⟨some ssid, some password⟩) =
      (.ok, some (ssid, password)) := by
  rw [loadCredentials_fits [] [] hn hn', returned, if_pos rfl]
  dsimp only
  rw [cstr_append_zero h, cstr_append_zero h']

theorem not_alike_ssid {ssid : Bytes} (v v' : Option Bytes) :
    ¬ Alike ⟨some ssid, v⟩ ⟨none, v'⟩ ∧ ¬ Alike ⟨none, v'⟩ ⟨some ssid, v⟩ := by
  have hsome : (returned (loadCredentials .success [] 0 [] 0 ⟨some ssid, v⟩)).1 =
      ESP_ERR_NVS_INVALID_LENGTH := by
    rw [loadCredentials_long [] [] 0 v (Nat.zero_le _)]
    rfl
  have hnone : (returned (loadCredentials .success [] 0 [] 0 ⟨none, v'⟩)).1 = .nvsNotFound := rfl
  have hne : ESP_ERR_NVS_INVALID_LENGTH ≠ .nvsNotFound := by decide
  constructor
  · intro h
    have he := congrArg Prod.fst (h .success [] 0 [] 0)
    rw [hsome, hnone] at he
    exact hne he
  · intro h
    have he := congrArg Prod.fst (h .success [] 0 [] 0)
    rw [hsome, hnone] at he
    exact hne he.symm

theorem eq_of_alike {ssid password ssid' password' : Bytes} (h : 0 ∉ ssid) (hp : 0 ∉ password)
    (h' : 0 ∉ ssid') (hp' : 0 ∉ password')
    (ha : Alike ⟨some ssid, some password⟩ ⟨some ssid', some password'⟩) :
    ssid = ssid' ∧ password = password' := by
  have he := ha .success [] (ssid.length + ssid'.length + 1) []
    (password.length + password'.length + 1)
  rw [returned_stored h hp (by omega) (by omega), returned_stored h' hp' (by omega) (by omega)] at he
  cases he
  exact ⟨rfl, rfl⟩

theorem next_save (s : Store) (w : SaveScript) (ssid password : Bytes) :
    next s (.save w ssid password) = ⟨(saveCredentials w ssid password s.storage).2, s.storage,
      (saveCredentials w ssid password s.storage).1, (cstr ssid, cstr password) :: s.saved⟩ := rfl

theorem next_clear (s : Store) (w : ClearScript) :
    next s (.clear w) = ⟨(clearCredentials w s.storage).2, s.storage,
      (clearCredentials w s.storage).1, s.saved⟩ := rfl

theorem Inv.pair {s : Store} (h : Inv s) (r : LoadScript) (b : Bytes) (n : Nat) (b' : Bytes)
    (n' : Nat) (p : Bytes × Bytes)
    (hr : returned (loadCredentials r b n b' n' s.storage) = (.ok, some p)) : p ∈ s.saved := by
  obtain ⟨ssid, password, hst, hp⟩ := returned_ok hr
  rcases h with he | ⟨ssid', password', hm, he⟩
  · rw [hst] at he
    cases he
  · rw [hst] at he
    cases he
    rw [hp (zero_not_mem_cstr _) (zero_not_mem_cstr _)]
    exact hm

/-- A call that is whole keeps one pair or none, and changes nothing when it fails. -/
theorem next_whole {s : Store} (h : Inv s) {op : Op} (hw : Whole s op) :
    Inv (next s op) ∧ Unmixed (next s op) := by
  have hi : Inv (next s op) ∧ ((next s op).status ≠ .ok → (next s op).storage = s.storage) ∧
      (next s op).previous = s.storage := by
    cases op with
    | save w ssid password =>
        refine ⟨?_, saveCredentials_unchanged hw, rfl⟩
        rw [next_save]
        by_cases hok : (saveCredentials w ssid password s.storage).1 = .ok
        · rw [saveCredentials_ok hok]
          exact Or.inr ⟨ssid, password, List.mem_cons_self, rfl⟩
        · rw [saveCredentials_unchanged hw hok]
          rcases h with he | ⟨ssid', password', hm, he⟩
          · exact Or.inl he
          · exact Or.inr ⟨ssid', password', List.mem_cons_of_mem _ hm, he⟩
    | clear w =>
        refine ⟨?_, clearCredentials_unchanged hw, rfl⟩
        rw [next_clear]
        by_cases hok : (clearCredentials w s.storage).1 = .ok
        · exact Or.inl (clearCredentials_ok hok)
        · rw [clearCredentials_unchanged hw hok]
          exact h
  obtain ⟨hi, hu, hp⟩ := hi
  refine ⟨hi, hi.pair, fun hf => ?_⟩
  rw [hp, hu hf]
  exact fun _ _ _ _ _ => rfl

theorem Inv.password {s : Store} (h : Inv s) : ∀ password ∈ s.storage.password, 0 ∉ password := by
  intro p hp
  rcases h with he | ⟨ssid, password, -, he⟩
  · rw [he] at hp
    cases hp
  · rw [he] at hp
    cases hp
    exact zero_not_mem_cstr password

theorem Inv.not_alike {s : Store} (h : Inv s) {ssid : Bytes} {v : Option Bytes}
    (hs : 0 ∉ ssid) (hv : ∀ password ∈ v, 0 ∉ password)
    (hp : s.storage.password.isSome = true → v.isSome = true)
    (hne : s.storage.ssid = some ssid → s.storage.password ≠ v) :
    ¬ Alike ⟨some ssid, v⟩ s.storage := by
  intro ha
  rcases h with he | ⟨ssid', password', -, he⟩
  · rw [he] at ha
    exact (not_alike_ssid v none).1 ha
  · rw [he] at ha hp hne
    obtain ⟨password, rfl⟩ := Option.isSome_iff_exists.mp (hp rfl)
    obtain ⟨rfl, rfl⟩ := eq_of_alike hs (hv password rfl) (zero_not_mem_cstr _) (zero_not_mem_cstr _) ha
    exact hne rfl rfl

theorem next_broken {s : Store} (h : Inv s) {op : Op} (hw : ¬ Whole s op) :
    ¬ Unmixed (next s op) := by
  intro hu
  have hun := hu.unchanged
  cases op with
  | save w ssid password =>
      simp only [Whole, not_or, not_and, ne_eq, not_not] at hw
      obtain ⟨ho, hs, hc, hv⟩ := hw
      rw [next_save, saveCredentials_begun ho hs] at hun
      by_cases hp : w.setPassword = .ok
      · rw [if_neg (fun h => h hp)] at hun
        refine h.not_alike (zero_not_mem_cstr ssid) (v := some (cstr password)) ?_ (fun _ => rfl)
          (fun he => (hv he).2) (hun (hc hp))
        rintro _ ⟨⟩
        exact zero_not_mem_cstr password
      · rw [if_pos hp] at hun
        refine h.not_alike (zero_not_mem_cstr ssid) ?_ (fun hi => hi) (fun he => ?_) (hun hp)
        · exact h.password
        · exact absurd (hv he).1 hp
  | clear w =>
      simp only [Whole, not_or, not_and, ne_eq, not_not] at hw
      obtain ⟨ho, hs, hc, hv⟩ := hw
      rw [next_clear, clearCredentials_begun ho hs] at hun
      rcases h with he | ⟨ssid, password, -, he⟩
      · rw [he] at hv
        exact (hv rfl).2 rfl
      · rw [he] at hun
        by_cases hp : Failed w.erasePassword
        · rw [if_pos hp] at hun
          exact (not_alike_ssid _ _).2 (hun hp.1)
        · rw [if_neg hp] at hun
          exact (not_alike_ssid _ _).2 (hun (hc hp))

/-- In a run from erased storage no load mixes two pairs, and no failed call changes
what loads give, exactly when every call is whole. -/
theorem unmixed_iff_whole {t : List (Op × Store)} (h : Run Step start t) :
    (∀ x ∈ t, Unmixed x.2) ↔ Guarded Whole start t := by
  refine h.forall_iff_guarded Inv (fun _ s => Unmixed s) (Or.inl rfl) ?_ ?_
  · rintro s op _ hi rfl hw
    exact next_whole hi hw
  · rintro s op _ hi rfl hw
    exact next_broken hi hw

def saves : List Op :=
  [.save .success (text "home") (text "secret"), .save ⟨.ok, .fail, .ok, .ok⟩ (text "office") (text "other"),
    .save ⟨.ok, .ok, .ok, .fail⟩ (text "home") (text "secret"),
    .save .success (text "office") (text "other")]

theorem unmixed_iff_whole_saved :
    (∀ x ∈ trace next start saves, Unmixed x.2) ∧ Guarded Whole start (trace next start saves) := by
  have hwhole : Guarded Whole start (trace next start saves) :=
    ⟨Or.inr (Or.inr (Or.inl ⟨rfl, rfl⟩)), Or.inr (Or.inl EspErr.noConfusion),
      Or.inr (Or.inr (Or.inr ⟨rfl, Or.inr rfl⟩)), Or.inr (Or.inr (Or.inl ⟨rfl, rfl⟩)), trivial⟩
  exact ⟨(unmixed_iff_whole (run_trace step_next start saves)).mpr hwhole, hwhole⟩

/-- The second save fails between its two writes: the new SSID is loaded with the old
password. -/
theorem unmixed_fails : ¬ ∀ t : List (Op × Store),
    Run Step start t → ∀ x ∈ t, Unmixed x.2 := by
  intro h
  have hr : Run Step start (trace next start
      [.save .success (text "home") (text "secret"),
        .save ⟨.ok, .ok, .fail, .ok⟩ (text "office") (text "other")]) :=
    run_trace step_next start _
  have hu := h _ hr _ (List.mem_cons_of_mem _ List.mem_cons_self)
  have hp := hu.pair .success [] 33 [] 65 (text "office", text "secret") (by decide)
  exact absurd hp (by decide)

end BandDecoder.Credentials
