import BandDecoder.ReceiveMessage

namespace BandDecoder.ReceiveBuffer

open CStrings SwitchConfig Tcp

/-- What a call does with its buffer: a `recv` with the bytes it gave, the store of a
terminator, a look at the text. -/
inductive Access
  | recv (offset length : UInt32) (got : Bytes)
  | terminator (index : UInt32)
  | inspect (msg : Bytes)

/-- A call of `receive_message`: the memory by its offset from `message`, of which no
offset is out of reach, the accesses so far, the latest first, and the status once
the call has returned. -/
structure Call where
  message : Nat → UInt8
  totalReceived : UInt32
  log : List Access
  status : Option EspErr

def INT_MAX : Nat := 2147483647

def copy (message : Nat → UInt8) (offset : Nat) (bytes : Bytes) : Nat → UInt8 :=
  fun i => if offset ≤ i then (bytes[i - offset]?).getD (message i) else message i

def contents (message : Nat → UInt8) (length : UInt32) : Bytes :=
  (List.range length.toNat).map message

def enter (size : UInt32) (message : Nat → UInt8) : Call :=
  ⟨message, 0, [], if size ≤ 1 then some .invalidArg else none⟩

def store (length : UInt32) (got : Bytes) (c : Call) : Call :=
  let total := c.totalReceived + UInt32.ofNat got.length
  let message := Function.update (copy c.message c.totalReceived.toNat got) total.toNat 0
  { c with
    message
    totalReceived := total
    log := .inspect (contents message total) :: .terminator total ::
      .recv c.totalReceived length got :: c.log }

def pass (size : UInt32) (timeout start : Int) (r : Round) (c : Call) : Call :=
  if timeout ≤ elapsed start r.now then { c with status := some .timeout }
  else match r.slice with
    | .quiet => { c with status := some .ok }
    | .selectError => { c with status := some .fail }
    | .recvError => { c with
        log := .recv c.totalReceived (size - c.totalReceived - 1) [] :: c.log
        status := some .fail }
    | .data bytes =>
        let length := size - c.totalReceived - 1
        let got := bytes.take (min length.toNat INT_MAX)
        if got = [] then { c with
          log := .recv c.totalReceived length [] :: c.log
          status := some .fail }
        else
          let c := store length got c
          if complete (contents c.message c.totalReceived) then { c with status := some .ok }
          else if size - 1 ≤ c.totalReceived then { c with status := some .noMem }
          else c

def passes (size : UInt32) (timeout start : Int) (rounds : Nat → Round) (message : Nat → UInt8) :
    Nat → Call
  | 0 => enter size message
  | k + 1 =>
      let c := passes size timeout start rounds message k
      match c.status with
      | none => pass size timeout start (rounds k) c
      | some _ => c

def received : List Access → Bytes
  | [] => []
  | .recv _ _ got :: log => received log ++ got
  | _ :: log => received log

def receives : List Access → Nat
  | [] => 0
  | .recv _ _ got :: log => receives log + if got = [] then 0 else 1
  | _ :: log => receives log

def Within (size : UInt32) (earlier : List Access) : Access → Prop
  | .recv offset length got => 0 < length ∧ got.length ≤ length.toNat ∧
      offset.toNat + length.toNat ≤ size.toNat - 1
  | .terminator index => index.toNat ≤ size.toNat - 1
  | .inspect msg => msg = received earlier

def Safe (size : UInt32) : List Access → Prop
  | [] => True
  | a :: log => Within size log a ∧ Safe size log

/-- Every access so far was safe, and the memory behind the buffer is as it was. -/
structure Contained (size : UInt32) (message : Nat → UInt8) (c : Call) : Prop where
  safe : Safe size c.log
  frame : ∀ i, size.toNat ≤ i → c.message i = message i

structure Inv (size : UInt32) (message : Nat → UInt8) (c : Call) : Prop where
  contained : Contained size message c
  contents : contents c.message c.totalReceived = received c.log
  fits : c.totalReceived.toNat ≤ size.toNat - 1
  count : receives c.log ≤ c.totalReceived.toNat

def Room (size : UInt32) (c : Call) : Prop :=
  c.status = none → c.totalReceived.toNat < size.toNat - 1

theorem length_contents (message : Nat → UInt8) (length : UInt32) :
    (contents message length).length = length.toNat := by
  simp [contents]

theorem Inv.length {size : UInt32} {message : Nat → UInt8} {c : Call} (h : Inv size message c) :
    (received c.log).length = c.totalReceived.toNat := by
  rw [← h.contents, length_contents]

theorem inv_enter (size : UInt32) (message : Nat → UInt8) : Inv size message (enter size message) :=
  ⟨⟨trivial, fun _ _ => rfl⟩, rfl, Nat.zero_le _, Nat.zero_le _⟩

theorem room_enter (size : UInt32) (message : Nat → UInt8) : Room size (enter size message) := by
  intro h
  have hs : ¬ size ≤ 1 := by
    intro hs
    rw [enter, if_pos hs] at h
    cases h
  rw [UInt32.le_iff_toNat_le, UInt32.toNat_one] at hs
  rw [enter, UInt32.toNat_zero]
  omega

theorem toNat_sub_one {size : UInt32} (h : 1 ≤ size.toNat) : (size - 1).toNat = size.toNat - 1 := by
  have h1 : (1 : UInt32) ≤ size := by rwa [UInt32.le_iff_toNat_le, UInt32.toNat_one]
  rw [UInt32.toNat_sub_of_le _ _ h1, UInt32.toNat_one]

theorem length_toNat {size total : UInt32} (h : total.toNat < size.toNat - 1) :
    (size - total - 1).toNat = size.toNat - 1 - total.toNat := by
  have ht : total ≤ size := by rw [UInt32.le_iff_toNat_le]; omega
  have hsub := UInt32.toNat_sub_of_le _ _ ht
  rw [toNat_sub_one (by omega), hsub]
  omega

theorem contents_store (message : Nat → UInt8) {total total' : UInt32} {got : Bytes}
    (h : total'.toNat = total.toNat + got.length) :
    contents (Function.update (copy message total.toNat got) total'.toNat 0) total' =
      contents message total ++ got := by
  rw [contents, contents, h, List.range_add, List.map_append, List.map_map]
  congr 1
  · apply List.map_congr_left
    intro i hi
    rw [List.mem_range] at hi
    rw [Function.update_of_ne (by omega), copy, if_neg (by omega)]
  · apply List.ext_getElem
    · simp
    · intro i h₁ h₂
      simp only [List.getElem_map, List.getElem_range, Function.comp_apply]
      rw [Function.update_of_ne (by omega), copy, if_pos (by omega), Nat.add_sub_cancel_left,
        List.getElem?_eq_getElem h₂, Option.getD_some]

theorem store_frame (message : Nat → UInt8) (offset : Nat) (got : Bytes) {i : Nat}
    (h : offset + got.length < i) :
    Function.update (copy message offset got) (offset + got.length) 0 i = message i := by
  rw [Function.update_of_ne (by omega), copy, if_pos (by omega),
    List.getElem?_eq_none (by omega), Option.getD_none]

theorem Inv.failed {size : UInt32} {message : Nat → UInt8} {c : Call} (h : Inv size message c)
    (hroom : c.totalReceived.toNat < size.toNat - 1) : Inv size message { c with
      log := .recv c.totalReceived (size - c.totalReceived - 1) [] :: c.log
      status := some .fail } := by
  have hl := length_toNat hroom
  refine ⟨⟨⟨⟨?_, Nat.zero_le _, by omega⟩, h.contained.safe⟩, h.contained.frame⟩, ?_, h.fits, h.count⟩
  · rw [UInt32.lt_iff_toNat_lt, hl, UInt32.toNat_zero]
    omega
  · rw [received, List.append_nil]
    exact h.contents

theorem store_totalReceived {size : UInt32} {c : Call} {got : Bytes}
    (h : got.length ≤ size.toNat - 1 - c.totalReceived.toNat) (length : UInt32)
    (hfits : c.totalReceived.toNat ≤ size.toNat - 1) :
    (store length got c).totalReceived.toNat = c.totalReceived.toNat + got.length := by
  have hsize := size.toNat_lt
  rw [store, UInt32.toNat_add, UInt32.toNat_ofNat', Nat.mod_eq_of_lt (a := got.length) (by omega),
    Nat.mod_eq_of_lt (by omega)]

theorem Inv.store {size : UInt32} {message : Nat → UInt8} {c : Call} (h : Inv size message c)
    (hroom : c.totalReceived.toNat < size.toNat - 1) {got : Bytes} (hgot : got ≠ [])
    (hlen : got.length ≤ (size - c.totalReceived - 1).toNat) :
    Inv size message (store (size - c.totalReceived - 1) got c) := by
  have hl := length_toNat hroom
  have hpos : 0 < got.length := List.length_pos_of_ne_nil hgot
  have htotal := store_totalReceived (hl ▸ hlen) (size - c.totalReceived - 1) h.fits
  have hc := contents_store c.message htotal
  rw [h.contents] at hc
  refine ⟨⟨⟨hc, ?_, ⟨?_, hlen, by omega⟩, h.contained.safe⟩, fun i hi => ?_⟩, hc, by omega, ?_⟩
  · change (ReceiveBuffer.store (size - c.totalReceived - 1) got c).totalReceived.toNat ≤ _
    omega
  · rw [UInt32.lt_iff_toNat_lt, hl, UInt32.toNat_zero]
    omega
  · change Function.update _ (ReceiveBuffer.store (size - c.totalReceived - 1) got c).totalReceived.toNat
      0 i = _
    rw [htotal, store_frame _ _ _ (by omega)]
    exact h.contained.frame i hi
  · have hcount := h.count
    rw [htotal]
    change receives c.log + (if got = [] then 0 else 1) ≤ _
    rw [if_neg hgot]
    omega

/-- A pass returns with the buffer untouched, or behind a `recv` that gave nothing, or
it stores what came in; it goes on only while that leaves room. -/
theorem pass_cases (size : UInt32) (timeout start : Int) (r : Round) {c : Call}
    (hs : c.status = none) :
    (∃ status, pass size timeout start r c = { c with status := some status }) ∨
    pass size timeout start r c = { c with
      log := .recv c.totalReceived (size - c.totalReceived - 1) [] :: c.log
      status := some .fail } ∨
    ∃ got status, got ≠ [] ∧ got.length ≤ (size - c.totalReceived - 1).toNat ∧
      pass size timeout start r c = { store (size - c.totalReceived - 1) got c with status } ∧
      (status = none → ¬ size - 1 ≤ (store (size - c.totalReceived - 1) got c).totalReceived) := by
  rw [pass]
  split
  · exact Or.inl ⟨.timeout, rfl⟩
  · split
    · exact Or.inl ⟨.ok, rfl⟩
    · exact Or.inl ⟨.fail, rfl⟩
    · exact Or.inr (Or.inl rfl)
    · rename_i bytes _
      dsimp only
      split
      · exact Or.inr (Or.inl rfl)
      · rename_i hgot
        have hlen : (bytes.take (min (size - c.totalReceived - 1).toNat INT_MAX)).length ≤
            (size - c.totalReceived - 1).toNat := by
          rw [List.length_take]
          omega
        split
        · exact Or.inr (Or.inr ⟨_, some .ok, hgot, hlen, rfl, fun h => by cases h⟩)
        · split
          · exact Or.inr (Or.inr ⟨_, some .noMem, hgot, hlen, rfl, fun h => by cases h⟩)
          · rename_i hfull
            exact Or.inr (Or.inr ⟨_, none, hgot, hlen, by rw [← hs]; rfl, fun _ => hfull⟩)

theorem Inv.withStatus {size : UInt32} {message : Nat → UInt8} {c : Call} (h : Inv size message c)
    (status : Option EspErr) : Inv size message { c with status := status } :=
  ⟨⟨h.contained.safe, h.contained.frame⟩, h.contents, h.fits, h.count⟩

theorem pass_inv {size : UInt32} {message : Nat → UInt8} {c : Call} (h : Inv size message c)
    (hs : c.status = none) (hroom : c.totalReceived.toNat < size.toNat - 1) (timeout start : Int)
    (r : Round) : Inv size message (pass size timeout start r c) := by
  rcases pass_cases size timeout start r hs with
    ⟨status, hp⟩ | hp | ⟨got, status, hgot, hlen, hp, -⟩
  · rw [hp]
    exact h.withStatus (some status)
  · rw [hp]
    exact h.failed hroom
  · rw [hp]
    exact (h.store hroom hgot hlen).withStatus status

theorem pass_goes_on {size : UInt32} {message : Nat → UInt8} {c : Call} (h : Inv size message c)
    (hs : c.status = none) (hroom : c.totalReceived.toNat < size.toNat - 1) {timeout start : Int}
    {r : Round} (hn : (pass size timeout start r c).status = none) :
    c.totalReceived.toNat < (pass size timeout start r c).totalReceived.toNat ∧
      (pass size timeout start r c).totalReceived.toNat < size.toNat - 1 := by
  rcases pass_cases size timeout start r hs with
    ⟨status, hp⟩ | hp | ⟨got, status, hgot, hlen, hp, hfull⟩
  · rw [hp] at hn
    cases hn
  · rw [hp] at hn
    cases hn
  · rw [hp] at hn ⊢
    dsimp only
    have hpos := List.length_pos_of_ne_nil hgot
    have hl := length_toNat hroom
    have htotal := store_totalReceived (hl ▸ hlen) (size - c.totalReceived - 1) h.fits
    have hroom' := hfull hn
    rw [UInt32.le_iff_toNat_le, toNat_sub_one (by omega)] at hroom'
    exact ⟨by omega, by omega⟩

/-- One pass over the memory does what one round does to the text received. -/
theorem pass_round {size : UInt32} (hsize : size.toNat ≤ INT_MAX) {message : Nat → UInt8} {c : Call}
    (h : Inv size message c) (hs : c.status = none)
    (hroom : c.totalReceived.toNat < size.toNat - 1) (timeout start : Int) (r : Round) :
    (∃ status closed, (pass size timeout start r c).status = some status ∧
      receiveRound size.toNat timeout start (received c.log) r =
        .stop status (received (pass size timeout start r c).log) closed) ∨
    ((pass size timeout start r c).status = none ∧
      receiveRound size.toNat timeout start (received c.log) r =
        .again (received (pass size timeout start r c).log)) := by
  have hl := length_toNat hroom
  rw [pass, receiveRound]
  by_cases ht : timeout ≤ elapsed start r.now
  · rw [if_pos ht, if_pos ht]
    exact Or.inl ⟨_, _, rfl, rfl⟩
  · rw [if_neg ht, if_neg ht]
    cases r.slice with
    | quiet => exact Or.inl ⟨_, _, rfl, rfl⟩
    | selectError => exact Or.inl ⟨_, _, rfl, rfl⟩
    | recvError =>
        simp only [received, List.append_nil]
        exact Or.inl ⟨_, _, rfl, rfl⟩
    | data bytes =>
        have hmin : min (size - c.totalReceived - 1).toNat INT_MAX =
            size.toNat - (received c.log).length - 1 := by
          rw [h.length]
          omega
        dsimp only
        rw [hmin]
        by_cases hgot : bytes.take (size.toNat - (received c.log).length - 1) = []
        · rw [if_pos hgot, if_pos hgot]
          simp only [received, List.append_nil]
          exact Or.inl ⟨_, _, rfl, rfl⟩
        · have hlen : (bytes.take (size.toNat - (received c.log).length - 1)).length ≤
              (size - c.totalReceived - 1).toNat := by
            rw [List.length_take, h.length]
            omega
          rw [if_neg hgot, if_neg hgot]
          generalize bytes.take (size.toNat - (received c.log).length - 1) = got at hgot hlen ⊢
          have hstore := h.store hroom hgot hlen
          have hlog : received (store (size - c.totalReceived - 1) got c).log = received c.log ++ got :=
            rfl
          have hfull : size - 1 ≤ (store (size - c.totalReceived - 1) got c).totalReceived ↔
              size.toNat - 1 ≤ (received c.log ++ got).length := by
            rw [UInt32.le_iff_toNat_le, toNat_sub_one (by omega), ← hstore.length, hlog]
          rw [hstore.contents, hlog]
          by_cases hc : complete (received c.log ++ got)
          · rw [if_pos hc, if_pos hc]
            exact Or.inl ⟨_, _, rfl, rfl⟩
          · rw [if_neg hc, if_neg hc]
            by_cases hf : size.toNat - 1 ≤ (received c.log ++ got).length
            · rw [if_pos hf, if_pos (hfull.mpr hf)]
              exact Or.inl ⟨_, _, rfl, rfl⟩
            · rw [if_neg hf, if_neg fun hf' => hf (hfull.mp hf')]
              exact Or.inr ⟨hs, rfl⟩

section Passes

variable (size : UInt32) (timeout start : Int) (rounds : Nat → Round) (message : Nat → UInt8)

theorem passes_inv (k : Nat) :
    Inv size message (passes size timeout start rounds message k) ∧
      Room size (passes size timeout start rounds message k) := by
  induction k with
  | zero => exact ⟨inv_enter size message, room_enter size message⟩
  | succ k ih =>
      rw [passes]
      split
      · rename_i hs
        have hroom := ih.2 hs
        exact ⟨pass_inv ih.1 hs hroom timeout start (rounds k),
          fun hn => (pass_goes_on ih.1 hs hroom hn).2⟩
      · exact ih

/-- Each pass behind which the loop still runs has brought at least one byte. -/
theorem passes_progress (k : Nat)
    (h : (passes size timeout start rounds message k).status = none) :
    k ≤ (passes size timeout start rounds message k).totalReceived.toNat := by
  induction k with
  | zero => exact Nat.zero_le _
  | succ k ih =>
      rw [passes] at h ⊢
      split at h
      · rename_i hs
        obtain ⟨hinv, hroom⟩ := passes_inv size timeout start rounds message k
        have hgo := pass_goes_on hinv hs (hroom hs) h
        have hk := ih hs
        omega
      · rename_i e hs
        rw [hs] at h
        cases h

theorem passes_return :
    (passes size timeout start rounds message (size.toNat - 1)).status ≠ none := by
  intro h
  have hroom := (passes_inv size timeout start rounds message (size.toNat - 1)).2 h
  have hprogress := passes_progress size timeout start rounds message (size.toNat - 1) h
  omega

/-- A call stays in its buffer behind every pass and has returned after at most
`size - 1` of them, whatever the clock shows. -/
theorem receive_contained :
    (∀ k, Contained size message (passes size timeout start rounds message k)) ∧
      ∃ k ≤ size.toNat - 1, (passes size timeout start rounds message k).status ≠ none ∧
        receives (passes size timeout start rounds message k).log ≤ size.toNat - 1 := by
  refine ⟨fun k => (passes_inv size timeout start rounds message k).1.contained, size.toNat - 1,
    Nat.le_refl _, passes_return size timeout start rounds message, ?_⟩
  obtain ⟨hinv, -⟩ := passes_inv size timeout start rounds message (size.toNat - 1)
  exact Nat.le_trans hinv.count hinv.fits

theorem passes_stay {k : Nat} (h : (passes size timeout start rounds message k).status ≠ none)
    (j : Nat) : passes size timeout start rounds message (k + j) =
      passes size timeout start rounds message k := by
  induction j with
  | zero => rfl
  | succ j ih =>
      rw [← Nat.add_assoc, passes, ih]
      split
      · rename_i hs
        exact absurd hs h
      · rfl

/-- From any pass on, the call does what the receive loop does with the rounds that
are left to it; these never run out. -/
theorem passes_receiveLoop (hsize : size.toNat ≤ INT_MAX) (j k : Nat) (hk : k + j = size.toNat - 1)
    (hs : (passes size timeout start rounds message k).status = none) :
    ∃ status closed,
      (passes size timeout start rounds message (size.toNat - 1)).status = some status ∧
      receiveLoop size.toNat timeout start ((List.range' k j).map rounds)
          (received (passes size timeout start rounds message k).log) =
        (status, received (passes size timeout start rounds message (size.toNat - 1)).log, closed) := by
  induction j generalizing k with
  | zero =>
      rw [Nat.add_zero] at hk
      rw [hk] at hs
      exact absurd hs (passes_return size timeout start rounds message)
  | succ j ih =>
      obtain ⟨hinv, hroom⟩ := passes_inv size timeout start rounds message k
      have hnext : passes size timeout start rounds message (k + 1) =
          pass size timeout start (rounds k) (passes size timeout start rounds message k) := by
        rw [passes, hs]
      rw [List.range'_succ, List.map_cons, receiveLoop]
      rcases pass_round hsize hinv hs (hroom hs) timeout start (rounds k) with
        ⟨status, closed, hstop, hr⟩ | ⟨hgo, hr⟩
      · have hstay := passes_stay size timeout start rounds message (k := k + 1)
          (by rw [hnext, hstop]; exact Option.some_ne_none _) j
        rw [Nat.add_assoc, Nat.add_comm 1 j, hk] at hstay
        rw [hr, hstay, hnext]
        exact ⟨status, closed, hstop, rfl⟩
      · rw [hr, ← hnext]
        rw [← hnext] at hgo
        exact ih (k + 1) (by omega) hgo

/-- `Tcp.receiveMessage` given as many rounds as there can be reports what the call
over the memory does. -/
theorem passes_receiveMessage (hsize : size.toNat ≤ INT_MAX) (h : 1 < size.toNat) (c : TcpClient) :
    (passes size timeout start rounds message (size.toNat - 1)).status =
        some (receiveMessage ⟨start, (List.range (size.toNat - 1)).map rounds⟩ size.toNat timeout c).1 ∧
      received (passes size timeout start rounds message (size.toNat - 1)).log =
        (receiveMessage ⟨start, (List.range (size.toNat - 1)).map rounds⟩ size.toNat timeout c).2.1 := by
  have hs : (passes size timeout start rounds message 0).status = none := by
    have hn : ¬ size ≤ 1 := by rwa [UInt32.le_iff_toNat_le, UInt32.toNat_one, Nat.not_le]
    rw [passes, enter, if_neg hn]
  obtain ⟨status, closed, hend, hl⟩ := passes_receiveLoop size timeout start rounds message hsize
    (size.toNat - 1) 0 (Nat.zero_add _) hs
  rw [← List.range_eq_range'] at hl
  rw [receiveMessage, if_neg (Nat.not_le.mpr h), hend]
  change receiveLoop size.toNat timeout start _ [] = _ at hl
  rw [hl]
  exact ⟨rfl, rfl⟩

end Passes

end BandDecoder.ReceiveBuffer
