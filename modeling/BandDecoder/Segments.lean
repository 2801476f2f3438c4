import BandDecoder.Relay

namespace BandDecoder.Segments

open CStrings SwitchConfig Tcp Relay StateReply

def bytesOf : Slice → Bytes
  | .data bytes => bytes
  | _ => []

def payload (rounds : List Round) : Bytes := (rounds.map fun r => bytesOf r.slice).flatten

/-- The reply comes in non-empty segments, with quiet slices between them or not, and
every pass of the wait is in time. -/
structure Delivers (w : WaitScript) (timeout : Int) (reply : Bytes) : Prop where
  segments : ∀ r ∈ w.rounds, r.slice = .quiet ∨ ∃ bytes, bytes ≠ [] ∧ r.slice = .data bytes
  whole : payload w.rounds = reply
  inTime : ∀ r ∈ w.rounds, elapsed w.start r.now < timeout

/-- The wait takes the whole reply and nothing shows how it was cut. -/
structure Seamless (w : WaitScript) (timeout : Int) (reply : Bytes) (c : RelayController) : Prop where
  status : (awaitReply w timeout c).1 = .ok
  buffer : (awaitReply w timeout c).2.2.response = reply
  state : ∀ now, elapsed w.start now < timeout →
    parseRelayStateResponse (cstr (awaitReply w timeout c).2.2.response) (awaitReply w timeout c).2.2 =
      parseRelayStateResponse
        (cstr (awaitReply ⟨w.start, [⟨now, .data reply⟩]⟩ timeout c).2.2.response)
        (awaitReply ⟨w.start, [⟨now, .data reply⟩]⟩ timeout c).2.2
  unread : (payload w.rounds).drop (awaitReply w timeout c).2.1.length = []

/-- Up to its last segment the reply comes without a quiet slice, and no segment
begins behind the comma that follows the header. -/
def Uncut (limit received : Nat) (rounds : List Round) : Prop :=
  ∀ before r behind, rounds = before ++ r :: behind → payload (r :: behind) ≠ [] →
    r.slice ≠ .quiet ∧ received + (payload before).length ≤ limit

@[simp] theorem payload_nil : payload [] = [] := rfl

@[simp] theorem payload_cons (r : Round) (rs : List Round) :
    payload (r :: rs) = bytesOf r.slice ++ payload rs := by
  simp [payload]

theorem uncut_cons {limit received : Nat} {r : Round} {rs : List Round}
    (h : payload (r :: rs) ≠ []) :
    Uncut limit received (r :: rs) ↔
      r.slice ≠ .quiet ∧ received ≤ limit ∧
        Uncut limit (received + (bytesOf r.slice).length) rs := by
  constructor
  · intro hu
    obtain ⟨hq, hl⟩ := hu [] r rs rfl h
    refine ⟨hq, by simpa using hl, ?_⟩
    rintro before r' behind rfl hne
    have := hu (r :: before) r' behind rfl hne
    rw [payload_cons, List.length_append] at this
    exact ⟨this.1, by omega⟩
  · rintro ⟨hq, hl, hu⟩ before r' behind hs hne
    cases before with
    | nil =>
        cases hs
        exact ⟨hq, by simpa using hl⟩
    | cons b before =>
        cases hs
        have := hu before r' behind rfl hne
        rw [payload_cons, List.length_append]
        exact ⟨this.1, by omega⟩

theorem uncut_nil (limit received : Nat) : Uncut limit received [] := by
  intro before r behind h
  simp at h

theorem uncut_iff_of_lt {limit received : Nat} {rounds : List Round} (h : limit < received) :
    Uncut limit received rounds ↔ payload rounds = [] := by
  constructor
  · intro hu
    cases rounds with
    | nil => rfl
    | cons r rs =>
        by_contra hne
        have := (hu [] r rs rfl hne).2
        omega
  · rintro hp before r behind rfl hne
    refine absurd ?_ hne
    have := congrArg List.length hp
    simp only [payload, List.map_append, List.flatten_append, List.length_append,
      List.length_nil] at this ⊢
    exact List.length_eq_zero_iff.mp (by omega)

theorem header_bytes {header : Bytes} (h : header = stateHeader ∨ header = setAllHeader) :
    44 ∉ header ∧ header.length ≤ 17 := by
  rcases h with rfl | rfl <;> decide

/-- A beginning of a reply counts as complete as soon as it has a comma. -/
theorem complete_iff {header q : Bytes} (h : header = stateHeader ∨ header = setAllHeader)
    {d1 d0 : UInt8} (hq : q <+: reply header d1 d0) : complete q ↔ header.length < q.length := by
  constructor
  · intro hc
    by_contra hle
    have hp : q <+: header :=
      List.prefix_of_prefix_length_le hq (List.prefix_append _ _) (by omega)
    have hno : 44 ∉ q := fun hm => (header_bytes h).1 (hp.subset hm)
    have hcomma {pat : Bytes} (hpat : 44 ∈ pat) : ¬ pat <:+: q := fun hi => hno (hi.subset hpat)
    rcases hc with hi | ⟨-, hi⟩ | ⟨-, hi⟩
    · exact hcomma (by decide) hi
    · exact hcomma (by decide) hi
    · exact hcomma (by decide) hi
  · intro hlt
    have hp : header ++ [44] <+: q := by
      refine List.prefix_of_prefix_length_le ?_ hq (by rw [List.length_append]; exact hlt)
      exact ⟨decimal d1.toNat ++ 44 :: (decimal d0.toNat ++ text ",OK"), by simp [reply]⟩
    have hcomma : text "," <:+: q :=
      (List.IsSuffix.isInfix (List.suffix_append header [44])).trans hp.isInfix
    have hhead : header <:+: q :=
      (List.IsPrefix.isInfix (List.prefix_append header [44])).trans hp.isInfix
    rcases h with rfl | rfl
    · exact Or.inr (Or.inl ⟨hhead, hcomma⟩)
    · exact Or.inr (Or.inr ⟨hhead, hcomma⟩)

theorem reply_length {header : Bytes} (h : header = stateHeader ∨ header = setAllHeader)
    (d1 d0 : UInt8) : header.length < (reply header d1 d0).length ∧
      (reply header d1 d0).length ≤ 28 := by
  have h1 := length_decimal_le (k := 2) (n := d1.toNat) (by have := d1.toNat_lt; omega)
  have h0 := length_decimal_le (k := 2) (n := d0.toNat) (by have := d0.toNat_lt; omega)
  have := (header_bytes h).2
  simp only [reply, List.length_append, List.length_cons, show (text ",OK").length = 3 from rfl]
  omega

/-- A wait that has part of the header ends with the whole reply exactly when what is
to come is uncut. -/
theorem receiveLoop_whole_iff {header : Bytes} (h : header = stateHeader ∨ header = setAllHeader)
    {d1 d0 : UInt8} {timeout start : Int} {rounds : List Round} {received : Bytes}
    (hseg : ∀ r ∈ rounds, r.slice = .quiet ∨ ∃ bytes, bytes ≠ [] ∧ r.slice = .data bytes)
    (htime : ∀ r ∈ rounds, elapsed start r.now < timeout)
    (hwhole : received ++ payload rounds = reply header d1 d0)
    (hrec : received.length ≤ header.length) :
    ((receiveLoop 256 timeout start rounds received).1 = .ok ∧
      (receiveLoop 256 timeout start rounds received).2.1 = reply header d1 d0) ↔
      Uncut header.length received.length rounds := by
  have hlen := reply_length h d1 d0
  induction rounds generalizing received with
  | nil =>
      have := congrArg List.length hwhole
      simp only [payload_nil, List.append_nil] at this
      omega
  | cons r rs ih =>
      have hne : payload (r :: rs) ≠ [] := by
        intro he
        have := congrArg List.length hwhole
        rw [he, List.append_nil] at this
        omega
      have hin := htime r List.mem_cons_self
      rw [uncut_cons hne]
      rcases hseg r List.mem_cons_self with hq | ⟨bytes, hb, hr⟩
      · rw [receiveLoop, receiveRound_quiet hin hq]
        refine iff_of_false ?_ fun hu => hu.1 hq
        rintro ⟨-, he⟩
        have := congrArg List.length he
        dsimp only at this
        omega
      · have hbytes : bytesOf r.slice = bytes := by rw [hr, bytesOf]
        have hquiet : r.slice ≠ .quiet := by
          rw [hr]
          intro he
          cases he
        rw [payload_cons, hbytes, ← List.append_assoc] at hwhole
        have hp : received ++ bytes <+: reply header d1 d0 := ⟨payload rs, hwhole⟩
        have hfit := hp.length_le
        rw [receiveLoop, receiveRound_segment hin hr hb (by omega), and_iff_right hquiet,
          and_iff_right hrec, hbytes, ← List.length_append]
        by_cases hc : complete (received ++ bytes)
        · rw [if_pos hc]
          dsimp only
          rw [and_iff_right rfl, uncut_iff_of_lt ((complete_iff h hp).mp hc), ← hwhole,
            List.self_eq_append_right]
        · rw [if_neg hc]
          have hle := mt (complete_iff h hp).mpr hc
          exact ih (fun r' hr' => hseg r' (List.mem_cons_of_mem r hr'))
            (fun r' hr' => htime r' (List.mem_cons_of_mem r hr')) hwhole (by omega)

theorem awaitReply_ok {w : WaitScript} {timeout : Int} {got : Bytes} (c : RelayController)
    (hok : (receiveLoop 256 timeout w.start w.rounds []).1 = .ok)
    (hgot : (receiveLoop 256 timeout w.start w.rounds []).2.1 = got) (hne : got ≠ []) :
    awaitReply w timeout c = (.ok, got, { c with response := got }) := by
  have hopen := receiveLoop_ok_open hok
  rw [awaitReply, receiveMessage, if_neg (by decide)]
  generalize receiveLoop 256 timeout w.start w.rounds [] = r at hok hgot hopen
  obtain ⟨status, received, closed⟩ := r
  cases hok
  cases hgot
  cases hopen
  dsimp only
  rw [if_neg hne]
  rfl

theorem awaitReply_received (w : WaitScript) (timeout : Int) (c : RelayController) :
    (awaitReply w timeout c).1 = (receiveLoop 256 timeout w.start w.rounds []).1 ∧
      (awaitReply w timeout c).2.1 = (receiveLoop 256 timeout w.start w.rounds []).2.1 ∧
      (awaitReply w timeout c).2.2.response =
        if (receiveLoop 256 timeout w.start w.rounds []).2.1 = [] then c.response
        else (receiveLoop 256 timeout w.start w.rounds []).2.1 := by
  rw [awaitReply, receiveMessage, if_neg (by decide)]
  exact ⟨rfl, rfl, rfl⟩

/-- Segmentation does not show exactly when the reply is uncut. -/
theorem seamless_iff {header : Bytes} (h : header = stateHeader ∨ header = setAllHeader)
    (d1 d0 : UInt8) {w : WaitScript} {timeout : Int}
    (hd : Delivers w timeout (reply header d1 d0)) (c : RelayController) :
    Seamless w timeout (reply header d1 d0) c ↔ Uncut header.length 0 w.rounds := by
  have hlen := reply_length h d1 d0
  have hne : reply header d1 d0 ≠ [] := fun he => by rw [he] at hlen; exact absurd hlen.1 (by simp)
  have hstart : [] ++ payload w.rounds = reply header d1 d0 := hd.whole
  have hiff := receiveLoop_whole_iff h hd.segments hd.inTime hstart (Nat.zero_le _)
  rw [List.length_nil] at hiff
  rw [← hiff]
  obtain ⟨hstatus, hgot, hresponse⟩ := awaitReply_received w timeout c
  constructor
  · intro hs
    have hrec : (receiveLoop 256 timeout w.start w.rounds []).2.1 ≠ [] := by
      intro he
      have hu := hs.unread
      rw [hgot, he, hd.whole] at hu
      exact hne hu
    rw [if_neg hrec] at hresponse
    exact ⟨hstatus.symm.trans hs.status, hresponse.symm.trans hs.buffer⟩
  · rintro ⟨hok, hall⟩
    have hwait := awaitReply_ok c hok hall hne
    refine ⟨by rw [hwait], by rw [hwait], ?_, ?_⟩
    · intro now hnow
      have hquiet : Slice.data (reply header d1 d0) ≠ .quiet := by
        intro he
        cases he
      have hone : Uncut header.length 0 [⟨now, .data (reply header d1 d0)⟩] :=
        (uncut_cons (by simpa [bytesOf] using hne)).mpr ⟨hquiet, Nat.zero_le _, uncut_nil _ _⟩
      have hd' : Delivers ⟨w.start, [⟨now, .data (reply header d1 d0)⟩]⟩ timeout
          (reply header d1 d0) :=
        ⟨by simpa using hne, by simp [bytesOf], by simpa using hnow⟩
      have hstart' : [] ++ payload [⟨now, .data (reply header d1 d0)⟩] = reply header d1 d0 :=
        hd'.whole
      obtain ⟨hok', hall'⟩ :=
        (receiveLoop_whole_iff h hd'.segments hd'.inTime hstart' (Nat.zero_le _)).mpr hone
      rw [hwait, awaitReply_ok (w := ⟨w.start, [⟨now, .data (reply header d1 d0)⟩]⟩) c hok' hall' hne]
    · rw [hwait, hd.whole, List.drop_length]

theorem delivers_two {a b reply : Bytes} {start s t timeout : Int} (ha : a ≠ []) (hb : b ≠ [])
    (hwhole : a ++ b = reply) (hs : elapsed start s < timeout) (ht : elapsed start t < timeout) :
    Delivers ⟨start, [⟨s, .data a⟩, ⟨t, .data b⟩]⟩ timeout reply := by
  refine ⟨?_, by simpa [bytesOf] using hwhole, ?_⟩
  · intro r hr
    simp only [List.mem_cons, List.not_mem_nil, or_false] at hr
    rcases hr with rfl | rfl
    · exact Or.inr ⟨a, ha, rfl⟩
    · exact Or.inr ⟨b, hb, rfl⟩
  · simpa using ⟨hs, ht⟩

theorem seamless_iff_header_cut :
    Seamless ⟨0, [⟨10, .data (text "RELAY-ST")⟩, ⟨20, .data (text "ATE-255,1,4,OK")⟩]⟩ 500
        (reply stateHeader 1 4) construct ↔
      Uncut stateHeader.length 0
        [⟨10, .data (text "RELAY-ST")⟩, ⟨20, .data (text "ATE-255,1,4,OK")⟩] :=
  seamless_iff (Or.inl rfl) 1 4
    (delivers_two (by decide) (by decide) (by decide) (by decide) (by decide)) construct

/-- A segment that ends behind the first number is taken for the whole reply. -/
theorem seamless_fails :
    ¬ ∀ (header : Bytes), header = stateHeader ∨ header = setAllHeader →
      ∀ (d1 d0 : UInt8) (w : WaitScript) (timeout : Int), Delivers w timeout (reply header d1 d0) →
      ∀ c, Seamless w timeout (reply header d1 d0) c := by
  intro h
  have hd : Delivers ⟨0, [⟨10, .data (text "RELAY-STATE-255,1")⟩, ⟨20, .data (text ",4,OK")⟩]⟩ 500
      (reply stateHeader 1 4) :=
    delivers_two (by decide) (by decide) (by decide) (by decide) (by decide)
  have hs := h stateHeader (Or.inl rfl) 1 4 _ _ hd construct
  exact absurd hs.buffer (by decide)

end BandDecoder.Segments
