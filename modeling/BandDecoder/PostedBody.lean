import BandDecoder.BandCache

namespace BandDecoder.PostedBody

open CStrings SwitchConfig Config Cat Web BandCache

structure Delivers (body : Bytes) (pieces : List Bytes) : Prop where
  whole : pieces.flatten = body
  nonempty : ∀ piece ∈ pieces, piece ≠ []

/-- The handler calls `httpd_req_recv` once, so it sees the first piece. -/
def request (allocated : Bool) (memory : Nat → UInt8) (body : Bytes) (pieces : List Bytes) :
    PostRequest :=
  ⟨body.length, allocated, memory, some (pieces.headD [])⟩

/-- `cJSON_Parse` reads up to the first NUL, which for the byte behind the body the
handler has written itself. -/
def Handed (r : PostRequest) (received : Bytes) (i : Nat) : Prop :=
  i < r.contentLen ∧ i ≤ (cstr (contentOf r received)).length

/-- The outcome does not show how the body came, and the parser is handed received
bytes only. -/
structure ReadInFull (parse : Bytes → Option Json) (w : NvsWrite) (d : Device) (allocated : Bool)
    (memory : Nat → UInt8) (body : Bytes) (pieces : List Bytes) : Prop where
  outcome : configPostHandler parse w (request allocated memory body pieces) d =
    configPostHandler parse w (request allocated memory body [body]) d
  received : allocated = true → ∀ piece, pieces.head? = some piece →
    ∀ i, Handed (request allocated memory body pieces) piece i → i < piece.length

/-- The first piece is the whole body or ends the text for the parser. -/
def FirstSuffices (allocated : Bool) (pieces : List Bytes) : Prop :=
  allocated = true → ∀ piece rest, pieces = piece :: rest → rest = [] ∨ 0 ∈ piece

theorem contentOf_eq {r : PostRequest} {received : Bytes} (h : received.length ≤ r.contentLen) :
    contentOf r received =
      received ++ (List.range' received.length (r.contentLen - received.length)).map r.memory := by
  apply List.ext_getElem
  · simp only [contentOf, List.length_map, List.length_range, List.length_append, List.length_range']
    omega
  · intro i h₁ h₂
    simp only [contentOf, List.getElem_map, List.getElem_range, List.take_of_length_le h,
      List.getElem_append, List.getElem_range', List.getD_eq_getElem?_getD]
    by_cases hi : i < received.length
    · rw [dif_pos hi, List.getElem?_eq_getElem hi, Option.getD_some]
    · rw [dif_neg hi, List.getElem?_eq_none (by omega), Option.getD_none]
      congr 1
      omega

theorem cstr_contentOf_first {allocated : Bool} {memory : Nat → UInt8} {body piece : Bytes}
    {rest : List Bytes} (hw : (piece :: rest).flatten = body) (h : rest = [] ∨ 0 ∈ piece) :
    cstr (contentOf (request allocated memory body (piece :: rest)) piece) = cstr body := by
  have hbody : body = piece ++ rest.flatten := hw.symm
  rw [contentOf_eq (by simp [request, hbody])]
  rcases h with rfl | h0
  · rw [hbody]
    simp [request]
  · rw [cstr_append_of_mem h0, hbody, cstr_append_of_mem h0]

theorem cstr_contentOf_whole {allocated : Bool} {memory : Nat → UInt8} (body : Bytes) :
    cstr (contentOf (request allocated memory body [body]) body) = cstr body :=
  cstr_contentOf_first (by simp) (Or.inl rfl)

theorem configPostHandler_received (parse : Bytes → Option Json) (w : NvsWrite) {r : PostRequest}
    {received : Bytes} (hr : r.received = some received) (hne : received ≠ []) (d : Device) :
    configPostHandler parse w r d =
      if MAX_POST_SIZE < r.contentLen then (.error (badRequest "Content too large"), d)
      else if !r.allocated then (.error (serverError "Failed to allocate memory"), d)
      else match parse (cstr (contentOf r received)) with
        | none => (.error (badRequest "Invalid JSON"), d)
        | some root => postDocument w root d := by
  obtain ⟨b, t, rfl⟩ := List.exists_cons_of_ne_nil hne
  obtain ⟨contentLen, allocated, memory, _⟩ := r
  cases hr
  rfl

theorem handed_received {allocated : Bool} {memory : Nat → UInt8} {body piece : Bytes}
    {rest : List Bytes} (hw : (piece :: rest).flatten = body) (h : rest = [] ∨ 0 ∈ piece) {i : Nat}
    (hi : Handed (request allocated memory body (piece :: rest)) piece i) : i < piece.length := by
  obtain ⟨hlt, hstr⟩ := hi
  rw [cstr_contentOf_first hw h] at hstr
  subst hw
  rcases h with rfl | h0
  · simpa [request] using hlt
  · rw [List.flatten_cons, cstr_append_of_mem h0] at hstr
    have := length_cstr_lt h0
    omega

/-- The byte behind a first piece that does not suffice is handed on unreceived. -/
theorem handed_unreceived {body piece : Bytes} {rest : List Bytes}
    (h : Delivers body (piece :: rest)) (hrest : rest ≠ []) (h0 : 0 ∉ piece) (allocated : Bool)
    (memory : Nat → UInt8) :
    Handed (request allocated memory body (piece :: rest)) piece piece.length := by
  obtain ⟨next, rest', rfl⟩ := List.exists_cons_of_ne_nil hrest
  have hnext := List.length_pos_iff.mpr (h.nonempty next (by simp))
  have hlen : piece.length < body.length := by
    have := congrArg List.length h.whole
    simp only [List.flatten_cons, List.length_append] at this
    omega
  refine ⟨hlen, ?_⟩
  rw [contentOf_eq (by exact hlen.le), cstr_append_of_not_mem h0, List.length_append]
  exact Nat.le_add_right _ _

theorem outcome_of_first (parse : Bytes → Option Json) (w : NvsWrite) (d : Device) (allocated : Bool)
    (memory : Nat → UInt8) {body piece : Bytes} {rest : List Bytes}
    (h : Delivers body (piece :: rest)) (hfirst : rest = [] ∨ 0 ∈ piece) :
    configPostHandler parse w (request allocated memory body (piece :: rest)) d =
      configPostHandler parse w (request allocated memory body [body]) d := by
  have hne := h.nonempty piece List.mem_cons_self
  have hbody : body ≠ [] := by
    rw [← h.whole]
    simp [hne]
  have hr : (request allocated memory body (piece :: rest)).received = some piece := rfl
  have hr' : (request allocated memory body [body]).received = some body := rfl
  rw [configPostHandler_received parse w hr hne, configPostHandler_received parse w hr' hbody,
    cstr_contentOf_whole body, cstr_contentOf_first h.whole hfirst]
  rfl

theorem readInFull_iff (parse : Bytes → Option Json) (w : NvsWrite) (d : Device) (allocated : Bool)
    (memory : Nat → UInt8) {body : Bytes} {pieces : List Bytes} (h : Delivers body pieces)
    (hsize : body.length ≤ MAX_POST_SIZE) :
    ReadInFull parse w d allocated memory body pieces ↔ FirstSuffices allocated pieces := by
  constructor
  · rintro hr ha piece rest rfl
    by_contra hno
    rw [not_or] at hno
    have hread := hr.received ha piece rfl piece.length
      (handed_unreceived h hno.1 hno.2 allocated memory)
    exact absurd hread (Nat.lt_irrefl _)
  · intro hf
    cases allocated with
    | false =>
        refine ⟨?_, fun ha => by cases ha⟩
        simp only [configPostHandler, request, Nat.not_lt.mpr hsize, if_false, Bool.not_false, if_true]
    | true =>
        cases pieces with
        | nil =>
            have hb : body = [] := h.whole.symm
            subst hb
            exact ⟨rfl, fun _ piece hp => by cases hp⟩
        | cons piece rest =>
            have hfirst := hf rfl piece rest rfl
            refine ⟨outcome_of_first parse w d true memory h hfirst, ?_⟩
            rintro - p hp i hi
            cases hp
            exact handed_received h.whole hfirst hi

/-- Of two pieces the first is enough if the text ends in it, and not otherwise. -/
theorem readInFull_iff_whole :
    ReadInFull (fun _ => none) .success (startedWith .zero) true (fun _ => 0)
        (text "\x7b\x7d" ++ [0, 32]) [text "\x7b\x7d" ++ [0], [32]] ∧
      ¬ ReadInFull (fun _ => none) .success (startedWith .zero) true (fun _ => 0) (text "\x7b\x7d")
        [text "\x7b", text "\x7d"] := by
  have hends := readInFull_iff (fun _ => none) .success (startedWith .zero) true (fun _ => 0)
    (show Delivers (text "\x7b\x7d" ++ [0, 32]) [text "\x7b\x7d" ++ [0], [32]] from ⟨by decide, by decide⟩)
    (by decide)
  have hgoesOn := readInFull_iff (fun _ => none) .success (startedWith .zero) true (fun _ => 0)
    (show Delivers (text "\x7b\x7d") [text "\x7b", text "\x7d"] from ⟨by decide, by decide⟩) (by decide)
  constructor
  · refine hends.mpr fun _ piece rest hp => Or.inr ?_
    rw [← (List.cons_eq_cons.mp hp).1]
    decide
  · rw [hgoesOn]
    intro hf
    exact absurd (hf rfl _ _ rfl) (by decide)

/-- An empty object that comes in two pieces is no JSON for the handler. -/
theorem readInFull_fails :
    ¬ ∀ (parse : Bytes → Option Json) (w : NvsWrite) (d : Device) (allocated : Bool)
      (memory : Nat → UInt8) (body : Bytes) (pieces : List Bytes), Delivers body pieces →
      body.length ≤ MAX_POST_SIZE → ReadInFull parse w d allocated memory body pieces := by
  intro h
  let parse (s : Bytes) : Option Json := if s = text "\x7b\x7d" then some (.object []) else none
  have hr := h parse .success (startedWith .zero) true (fun _ => 0) (text "\x7b\x7d")
    [text "\x7b", text "\x7d"] ⟨by decide, by decide⟩ (by decide)
  have he : (Except.error (badRequest "Invalid JSON") : Except HttpError Unit) =
      .error (badRequest "Invalid or missing TCP port") := congrArg Prod.fst hr.outcome
  exact absurd (Except.error.inj he) (by decide)

end BandDecoder.PostedBody
