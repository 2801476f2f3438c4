import BandDecoder.Runs
import BandDecoder.SwitchConfig
import Mathlib.Logic.Function.Basic

namespace BandDecoder.WebServer

open SwitchConfig Runs

inductive Method
  | get
  | post
  deriving DecidableEq, Repr

inductive Handler
  | rootGet
  | configGet
  | configPost
  | status
  | toggleAutoMode
  | resetConfig
  | restart
  | resetWifi
  deriving DecidableEq, Repr

structure Uri where
  uri : String
  method : Method
  handler : Handler
  deriving DecidableEq, Repr

def uris : List Uri :=
  [⟨"/", .get, .rootGet⟩, ⟨"/config", .get, .configGet⟩, ⟨"/config", .post, .configPost⟩,
    ⟨"/status", .get, .status⟩, ⟨"/toggle-auto-mode", .post, .toggleAutoMode⟩,
    ⟨"/reset-config", .post, .resetConfig⟩, ⟨"/restart", .post, .restart⟩,
    ⟨"/reset-wifi", .post, .resetWifi⟩]

example : (uris.map fun u => (u.uri, u.method)).Nodup := by decide

/-- The calls of `esp_http_server` that the code makes, over the library's own state,
which may hold what decides their results. `serving` looks at a server that runs: the
handlers registered with it. -/
structure Library (σ : Type*) where
  fresh : σ
  httpdStart : σ → EspErr × Nat × σ
  httpdRegisterUriHandler : Nat → Uri → σ → EspErr × σ
  httpdStop : Nat → σ → EspErr × σ
  serving : σ → Nat → Option (List Uri)

variable {σ : Type*}

/-- What the code relies on: a start that succeeds gives the handle of a new server
without handlers, a registration that succeeds adds its own, a stop that succeeds ends
the server; a failed start or registration does nothing, and no stop, failed or not,
touches another server. -/
structure Library.Documented (L : Library σ) : Prop where
  fresh : ∀ h, L.serving L.fresh h = none
  start_ok : ∀ {s h s'}, L.httpdStart s = (.ok, h, s') →
    L.serving s h = none ∧ L.serving s' = Function.update (L.serving s) h (some [])
  start_error : ∀ {s e h s'}, L.httpdStart s = (e, h, s') → e ≠ .ok → L.serving s' = L.serving s
  register_ok : ∀ {s h u us s'}, L.httpdRegisterUriHandler h u s = (.ok, s') →
    L.serving s h = some us → L.serving s' = Function.update (L.serving s) h (some (us ++ [u]))
  register_error : ∀ {s h u e s'}, L.httpdRegisterUriHandler h u s = (e, s') → e ≠ .ok →
    L.serving s' = L.serving s
  stop_ok : ∀ {s h s'}, L.httpdStop h s = (.ok, s') → L.serving s' h = none
  stop_others : ∀ {s h e s'}, L.httpdStop h s = (e, s') → ∀ h', h' ≠ h →
    L.serving s' h' = L.serving s h'

/-- The static handle and the library. `lost` is kept for the property alone: the
handles that `webserver_stop` gave up although `httpd_stop` failed. -/
structure Webserver (σ : Type*) where
  server : Option Nat
  lib : σ
  lost : List Nat

def off (L : Library σ) : Webserver σ := ⟨none, L.fresh, []⟩

/-- The result of `httpd_stop` is not looked at. -/
def webserverStop (L : Library σ) (s : Webserver σ) : EspErr × Webserver σ :=
  match s.server with
  | some h =>
      let (e, lib) := L.httpdStop h s.lib
      (.ok, ⟨none, lib, if e = .ok then s.lost else h :: s.lost⟩)
  | none => (.ok, s)

def registerAll (L : Library σ) (h : Nat) : List Uri → σ → EspErr × σ
  | [], lib => (.ok, lib)
  | u :: us, lib => match L.httpdRegisterUriHandler h u lib with
    | (.ok, lib) => registerAll L h us lib
    | (e, lib) => (e, lib)

/-- `ipInfo` is the result of `WifiManager::get_ip_info`. -/
def webserverInit (L : Library σ) (ipInfo : EspErr) (s : Webserver σ) : EspErr × Webserver σ :=
  if ipInfo ≠ .ok then (ipInfo, s)
  else match L.httpdStart s.lib with
    | (.ok, h, lib) => match registerAll L h uris lib with
      | (.ok, lib) => (.ok, { s with server := some h, lib })
      | (e, lib) => (e, (webserverStop L { s with server := some h, lib }).2)
    | (e, _, lib) => (e, { s with lib })

def webserverStart (L : Library σ) (ipInfo : EspErr) (s : Webserver σ) : EspErr × Webserver σ :=
  match s.server with
  | none => webserverInit L ipInfo s
  | some _ => (.ok, s)

def webserverRestart (L : Library σ) (ipInfo : EspErr) (s : Webserver σ) : EspErr × Webserver σ :=
  webserverStart L ipInfo (webserverStop L s).2

inductive Call
  | start (ipInfo : EspErr)
  | stop
  | restart (ipInfo : EspErr)

def call (L : Library σ) : Call → Webserver σ → EspErr × Webserver σ
  | .start ipInfo, s => webserverStart L ipInfo s
  | .stop, s => webserverStop L s
  | .restart ipInfo, s => webserverRestart L ipInfo s

/-- The server that is held has every handler, and any other that runs was lost. -/
structure Whole (L : Library σ) (s : Webserver σ) : Prop where
  held : ∀ h, s.server = some h → L.serving s.lib h = some uris
  running : ∀ h, L.serving s.lib h ≠ none → s.server = some h ∨ h ∈ s.lost

variable {L : Library σ}

theorem whole_off (hL : L.Documented) : Whole L (off L) :=
  ⟨fun _ h => (Option.some_ne_none _ h.symm).elim, fun h hr => absurd (hL.fresh h) hr⟩

/-- Whatever the server that is held has by then, stopping it ends it or loses it. -/
theorem whole_stop (hL : L.Documented) {s : Webserver σ}
    (h : ∀ h, L.serving s.lib h ≠ none → s.server = some h ∨ h ∈ s.lost) :
    Whole L (webserverStop L s).2 ∧ (webserverStop L s).2.server = none := by
  rw [webserverStop]
  cases hs : s.server with
  | none =>
      exact ⟨⟨fun n hn => (Option.some_ne_none n (hn.symm.trans hs)).elim, h⟩, hs⟩
  | some n =>
      rw [hs] at h
      obtain ⟨e, lib, hstop⟩ : ∃ e lib, L.httpdStop n s.lib = (e, lib) := ⟨_, _, rfl⟩
      simp only [hstop, and_true]
      refine ⟨fun m hm => (Option.some_ne_none m hm.symm).elim, fun m hm => Or.inr ?_⟩
      have hm : L.serving lib m ≠ none := hm
      have hlost (hne : m ≠ n) : m ∈ s.lost := by
        rw [hL.stop_others hstop m hne] at hm
        exact (h m hm).resolve_left fun he => hne (Option.some.inj he).symm
      dsimp only
      split
      · rename_i he
        subst he
        refine hlost fun hmn => ?_
        subst hmn
        exact hm (hL.stop_ok hstop)
      · by_cases hmn : m = n
        · exact List.mem_cons.mpr (Or.inl hmn)
        · exact List.mem_cons_of_mem n (hlost hmn)

/-- The registrations so far stand in the one server; a failure leaves it with fewer
than all, and nothing else has changed. -/
theorem registerAll_serving (hL : L.Documented) {h : Nat} (us done : List Uri) {lib : σ}
    (hd : L.serving lib h = some done) {e : EspErr} {lib' : σ}
    (hr : registerAll L h us lib = (e, lib')) :
    (∀ h', h' ≠ h → L.serving lib' h' = L.serving lib h') ∧
      (e = .ok → L.serving lib' h = some (done ++ us)) := by
  induction us generalizing done lib with
  | nil =>
      obtain ⟨rfl, rfl⟩ := Prod.mk.inj hr
      exact ⟨fun _ _ => rfl, fun _ => by rw [List.append_nil]; exact hd⟩
  | cons u us ih =>
      obtain ⟨e₁, lib₁, hu⟩ : ∃ e lib₁, L.httpdRegisterUriHandler h u lib = (e, lib₁) :=
        ⟨_, _, rfl⟩
      rw [registerAll, hu] at hr
      by_cases he : e₁ = .ok
      · subst he
        have hone := hL.register_ok hu hd
        obtain ⟨hothers, hall⟩ := ih (done ++ [u]) (by rw [hone, Function.update_self]) hr
        refine ⟨fun h' hne => ?_, fun hok => ?_⟩
        · rw [hothers h' hne, hone, Function.update_of_ne hne]
        · rw [hall hok, List.append_assoc, List.singleton_append]
      · have hstop : (e₁, lib₁) = (e, lib') := by
          cases e₁ with
          | ok => exact absurd rfl he
          | _ => exact hr
        obtain ⟨rfl, rfl⟩ := Prod.mk.inj hstop
        exact ⟨fun h' _ => by rw [hL.register_error hu he], fun hok => absurd hok he⟩

theorem whole_start (hL : L.Documented) {s : Webserver σ} (h : Whole L s) (ipInfo : EspErr) :
    Whole L (webserverStart L ipInfo s).2 ∧
      ((webserverStart L ipInfo s).1 = .ok ↔ (webserverStart L ipInfo s).2.server ≠ none) := by
  rw [webserverStart]
  cases hs : s.server with
  | some n => exact ⟨h, iff_of_true rfl (by simp [hs])⟩
  | none =>
      dsimp only
      rw [webserverInit]
      split
      · rename_i hip
        exact ⟨h, iff_of_false hip (by simp [hs])⟩
      · obtain ⟨e, n, lib, hst⟩ : ∃ e n lib, L.httpdStart s.lib = (e, n, lib) := ⟨_, _, _, rfl⟩
        have hlost (m : Nat) (hm : L.serving s.lib m ≠ none) : m ∈ s.lost :=
          (h.running m hm).resolve_left (by simp [hs])
        rw [hst]
        by_cases he : e = .ok
        · subst he
          obtain ⟨-, hnew⟩ := hL.start_ok hst
          obtain ⟨e', lib', hreg⟩ : ∃ e' lib', registerAll L n uris lib = (e', lib') := ⟨_, _, rfl⟩
          obtain ⟨hothers, hall⟩ := registerAll_serving hL uris [] (by rw [hnew, Function.update_self]) hreg
          have hrun (m : Nat) (hm : L.serving lib' m ≠ none) : some n = some m ∨ m ∈ s.lost := by
            by_cases hmn : m = n
            · exact Or.inl (congrArg some hmn.symm)
            · rw [hothers m hmn, hnew, Function.update_of_ne hmn] at hm
              exact Or.inr (hlost m hm)
          dsimp only
          rw [hreg]
          by_cases he' : e' = .ok
          · subst he'
            refine ⟨⟨fun m hm => ?_, hrun⟩, iff_of_true rfl (by simp)⟩
            obtain rfl : n = m := Option.some.inj hm
            exact hall rfl
          · obtain ⟨hw, hnone⟩ := whole_stop hL (s := ⟨some n, lib', s.lost⟩) hrun
            cases e' with
            | ok => exact absurd rfl he'
            | _ => exact ⟨hw, iff_of_false he' (not_not.mpr hnone)⟩
        · have hsame : Whole L { s with lib } := by
            refine ⟨fun m hm => ?_, fun m hm => ?_⟩
            · rw [hs] at hm
              cases hm
            · rw [hL.start_error hst he] at hm
              exact h.running m hm
          cases e with
          | ok => exact absurd rfl he
          | _ => exact ⟨hsame, iff_of_false he (by simp [hs])⟩

theorem whole_call (hL : L.Documented) {s : Webserver σ} (h : Whole L s) (c : Call) :
    Whole L (call L c s).2 := by
  have hstop := (whole_stop hL h.running).1
  cases c with
  | start ipInfo => exact (whole_start hL h ipInfo).1
  | stop => exact hstop
  | restart ipInfo => exact (whole_start hL hstop ipInfo).1

def Step (L : Library σ) (s : Webserver σ) (c : Call) (s' : Webserver σ) : Prop := s' = (call L c s).2

theorem whole_of_reachable (hL : L.Documented) {s : Webserver σ} (h : Reachable (Step L) (off L) s) :
    Whole L s :=
  h.invariant (Whole L) (whole_off hL) fun _ c _ hs hc => hc ▸ whole_call hL hs c

/-- Whatever fails on the way, the server that is held has every handler, and any other
that still runs is one whose `httpd_stop` failed. -/
theorem serves_all_or_nothing (hL : L.Documented) {s : Webserver σ}
    (h : Reachable (Step L) (off L) s) :
    (∀ n, s.server = some n → L.serving s.lib n = some uris) ∧
      (∀ n, L.serving s.lib n ≠ none → s.server = some n ∨ n ∈ s.lost) ∧
      ∀ ipInfo, (webserverStart L ipInfo s).1 = .ok ↔ (webserverStart L ipInfo s).2.server ≠ none :=
  have hw := whole_of_reachable hL h
  ⟨hw.held, hw.running, fun ipInfo => (whole_start hL hw ipInfo).2⟩

def numbered : Library ((Nat → Option (List Uri)) × Nat) where
  fresh := (fun _ => none, 0)
  httpdStart s :=
    if s.1 s.2 = none then (.ok, s.2, Function.update s.1 s.2 (some []), s.2 + 1) else (.fail, 0, s)
  httpdRegisterUriHandler h u s :=
    if h = 0 ∧ u.uri = "/reset-config" then (.noMem, s)
    else (.ok, Function.update s.1 h ((s.1 h).map (· ++ [u])), s.2)
  httpdStop h s := if h = 1 then (.fail, s) else (.ok, Function.update s.1 h none, s.2)
  serving s := s.1

theorem documented_numbered : numbered.Documented where
  fresh _ := rfl
  start_ok {s h s'} hs := by
    simp only [numbered] at hs ⊢
    split at hs
    · rename_i hn
      obtain ⟨-, rfl, rfl⟩ := Prod.mk.inj hs |>.imp_right Prod.mk.inj
      exact ⟨hn, rfl⟩
    · cases hs
  start_error {s e h s'} hs he := by
    simp only [numbered] at hs ⊢
    split at hs
    · exact absurd (congrArg Prod.fst hs).symm he
    · cases hs
      rfl
  register_ok {s h u us s'} hs hd := by
    simp only [numbered] at hs hd ⊢
    split at hs
    · cases hs
    · cases hs
      rw [hd, Option.map_some]
  register_error {s h u e s'} hs he := by
    simp only [numbered] at hs ⊢
    split at hs
    · cases hs
      rfl
    · exact absurd (congrArg Prod.fst hs).symm he
  stop_ok {s h s'} hs := by
    simp only [numbered] at hs ⊢
    split at hs
    · cases hs
    · cases hs
      exact Function.update_self ..
  stop_others {s h e s'} hs h' hne := by
    simp only [numbered] at hs ⊢
    split at hs
    · cases hs
      rfl
    · cases hs
      exact Function.update_of_ne hne ..

/-- The first start fails and leaves nothing; the second server is lost, the third held. -/
theorem serves_all_or_nothing_lost : ∃ s, Reachable (Step numbered) (off numbered) s ∧
    s.server = some 2 ∧ s.lost = [1] ∧ numbered.serving s.lib 2 = some uris := by
  have h : Reachable (Step numbered) (off numbered)
      (call numbered (.restart .ok) (call numbered (.start .ok)
        (call numbered (.start .ok) (off numbered)).2).2).2 :=
    .tail (.tail (.single ⟨.start .ok, rfl⟩) ⟨.start .ok, rfl⟩) ⟨.restart .ok, rfl⟩
  exact ⟨_, h, by decide, by decide, (serves_all_or_nothing documented_numbered h).1 2 (by decide)⟩

end BandDecoder.WebServer
