import AvrJoystick.UsbStack
import Mathlib.Data.List.Sort

/-!
# Configuring endpoints

`Endpoint_ConfigureEndpoint` does not only write the registers of the endpoint
it is called for.  The banks of the endpoints lie one after the other in the
controller's memory, so it also gives up and reserves again the banks of all
endpoints with higher numbers.

Here is what a call does when nothing interrupts it.  The configuration of the
other endpoints survives (`configuring_spares_other_endpoints`), whether or not
the call succeeds.  After any number of successful calls, for endpoints in any
order, the banks have been reserved in ascending order, and tables that list the
same endpoints in different orders leave the same configuration behind
(`table_order_irrelevant`).
-/

namespace AvrJoystick

open Interleave

/-- The configuration asks for a bank. -/
def EndpointConfig.allocates (c : EndpointConfig) : Bool := decide (c.uecfg1x &&& allocBit ≠ 0)

/-- The endpoint has a bank. -/
def EndpointRegs.holdsBank (r : EndpointRegs) : Bool := r.config.allocates

/-- The registers after their configuration has been written anew. -/
def EndpointRegs.rewritten (r : EndpointRegs) (c : EndpointConfig) (fits : Bool) :
    EndpointRegs :=
  { r.flushed with
    uecfg0x := c.uecfg0x, uecfg1x := c.uecfg1x, ueienx := c.ueienx
    epen := true, cfgok := fits }

namespace Firmware

section Access

variable (s : Firmware) (n m : UInt8) (f g : EndpointRegs → EndpointRegs) (l l' : List UInt8)

@[simp] theorem setEndpoint_uenum : (s.setEndpoint n f).uenum = s.uenum := rfl

@[simp] theorem setEndpoint_fits : (s.setEndpoint n f).fits = s.fits := rfl

@[simp] theorem setEndpoint_allocated : (s.setEndpoint n f).allocated = s.allocated := rfl

@[simp] theorem setAllocated_uenum : (s.setAllocated l).uenum = s.uenum := rfl

@[simp] theorem setAllocated_fits : (s.setAllocated l).fits = s.fits := rfl

@[simp] theorem setAllocated_allocated : (s.setAllocated l).allocated = l := rfl

@[simp] theorem setAllocated_endpoints : (s.setAllocated l).endpoints = s.endpoints := rfl

@[simp] theorem setAllocated_setAllocated :
    (s.setAllocated l).setAllocated l' = s.setAllocated l' := rfl

@[simp] theorem setAllocated_setEndpoint :
    (s.setAllocated l).setEndpoint n f = (s.setEndpoint n f).setAllocated l := rfl

@[simp] theorem setEndpoint_self : (s.setEndpoint n f).endpoints n = f (s.endpoints n) := by
  simp [setEndpoint]

/-- The other endpoints are left alone. -/
theorem setEndpoint_ne {n m : UInt8} (h : m ≠ n) :
    (s.setEndpoint n f).endpoints m = s.endpoints m := by
  simp [setEndpoint, h]

@[simp] theorem setEndpoint_setEndpoint :
    (s.setEndpoint n f).setEndpoint n g = s.setEndpoint n (fun r => g (f r)) := by
  simp only [setEndpoint, Firmware.mk.injEq, and_true, true_and]
  funext m
  split <;> rfl

end Access

/-- The selected endpoint's bank is reserved again. -/
def rewrite (s : Firmware) (c : EndpointConfig) : Firmware :=
  (s.setEndpoint s.uenum (fun r => r.rewritten c (s.fits s.uenum))).setAllocated
    (s.allocated.filter (· != s.uenum) ++ if s.fits s.uenum = true then [s.uenum] else [])

/-- What the body of the loop does. -/
theorem rewriteConfig_uninterrupted {c : EndpointConfig} (hc : c.allocates = true)
    (s : Firmware) :
    (rewriteConfig c).uninterrupted s = some (s.fits s.uenum, s.rewrite c) := by
  have hbit : ¬ c.uecfg1x &&& allocBit = 0 := by simpa [EndpointConfig.allocates] using hc
  cases hfits : s.fits s.uenum <;>
    simp [rewriteConfig, Prog.uninterrupted_bind, onSelected, clearALLOC, writeUECFG1X,
      selected, rewrite, EndpointRegs.rewritten, EndpointRegs.flushed, hbit, hfits,
      List.filter_filter, Bool.and_self]

/-- `UENUM` set to an endpoint number. -/
def select (s : Firmware) (n : UInt8) : Firmware :=
  { s with uenum := uenumOf n }

/-- What the loop of `Endpoint_ConfigureEndpoint_Prv` writes to an endpoint. -/
def loopConfig (s : Firmware) (number : UInt8) (c : EndpointConfig) (epNum : UInt8) :
    EndpointConfig :=
  if epNum = number then c else (s.select epNum).selected.config

/-- The values it writes. -/
theorem loopValues_uninterrupted (number d0 d1 epNum : UInt8) (s : Firmware) :
    (loopValues number d0 d1 epNum).uninterrupted (s.select epNum) =
      some (s.loopConfig number ⟨d0, d1, 0⟩ epNum, s.select epNum) := by
  unfold loopConfig loopValues
  split <;> rfl

/-- One round of the loop. -/
theorem configureLoop_cons (number d0 d1 epNum : UInt8) (rest : List UInt8) (s : Firmware) :
    (configureLoop number d0 d1 (epNum :: rest)).uninterrupted s =
      if (s.loopConfig number ⟨d0, d1, 0⟩ epNum).allocates = false then
        (configureLoop number d0 d1 rest).uninterrupted (s.select epNum)
      else if s.fits (s.select epNum).uenum then
        (configureLoop number d0 d1 rest).uninterrupted
          ((s.select epNum).rewrite (s.loopConfig number ⟨d0, d1, 0⟩ epNum))
      else
        some (false, (s.select epNum).rewrite (s.loopConfig number ⟨d0, d1, 0⟩ epNum)) := by
  rw [configureLoop, Prog.uninterrupted_bind, endpointSelectEndpoint, Prog.uninterrupted_modify,
    Option.bind_some, Prog.uninterrupted_bind]
  show Option.bind (Prog.uninterrupted _ (s.select epNum)) _ = _
  rw [loopValues_uninterrupted, Option.bind_some]
  by_cases hskip : (s.loopConfig number ⟨d0, d1, 0⟩ epNum).allocates = false
  · rw [if_pos hskip, if_pos (by simpa [EndpointConfig.allocates] using hskip)]
  · have halloc : (s.loopConfig number ⟨d0, d1, 0⟩ epNum).allocates = true := by
      simpa using hskip
    rw [if_neg hskip, if_neg (by simpa [EndpointConfig.allocates] using hskip),
      Prog.uninterrupted_bind, rewriteConfig_uninterrupted halloc, Option.bind_some]
    show (Prog.uninterrupted (if s.fits (s.select epNum).uenum = true then _ else _) _) = _
    split <;> rfl

/-- Selecting an endpoint of the controller selects it. -/
theorem select_uenum {n : UInt8} (hn : uenumOf n = n) (s : Firmware) :
    (s.select n).uenum = n := hn

@[simp] theorem select_endpoints (s : Firmware) (n : UInt8) :
    (s.select n).endpoints = s.endpoints := rfl

/-- Only the selected endpoint is written to. -/
theorem rewrite_endpoints (s : Firmware) (c : EndpointConfig) (n : UInt8) :
    (s.rewrite c).endpoints n =
      if n = s.uenum then (s.endpoints n).rewritten c (s.fits n) else s.endpoints n := by
  by_cases hn : n = s.uenum
  · rw [if_pos hn, hn]
    simp [rewrite]
  · rw [if_neg hn]
    rw [rewrite, setAllocated_endpoints]
    exact setEndpoint_ne s _ hn

/-- Reserving the banks of the endpoints in `rest` after that of `e`. -/
theorem allocated_visit (holds : UInt8 → Bool) {e : UInt8} {rest : List UInt8}
    (he : e ∉ rest) (hbank : holds e = true) (allocated : List UInt8) :
    (allocated.filter (· != e) ++ [e]).filter (fun n => !(rest.contains n && holds n)) ++
        rest.filter holds =
      allocated.filter (fun n => !((e :: rest).contains n && holds n)) ++
        (e :: rest).filter holds := by
  have hkept : ∀ n, (n != e && !(rest.contains n && holds n)) =
      !((e :: rest).contains n && holds n) := by
    intro n
    by_cases hn : n = e
    · subst n; simp [hbank]
    · simp [hn]
  rw [List.filter_append, List.filter_filter, List.filter_cons_of_pos hbank,
    List.filter_cons_of_pos (by simp [he]), List.filter_nil, List.append_assoc,
    List.singleton_append]
  congr 1
  exact List.filter_congr fun n _ => (Bool.and_comm _ _).trans (hkept n)

/-- What the rest of the loop does to the endpoints it still has to visit: none
of them is the one the call is for. -/
structure Reconfigured (number : UInt8) (visited : List UInt8) (s : Firmware) (ok : Bool)
    (s' : Firmware) : Prop where
  config : ∀ n, (s'.endpoints n).config = (s.endpoints n).config
  others : ∀ n, n ∉ visited → s'.endpoints n = s.endpoints n
  fits : s'.fits = s.fits
  success : ok = true ↔ ∀ n ∈ visited, (s.endpoints n).holdsBank = true → s.fits n = true
  uenum : ok = true → s'.uenum = uenumOf number
  working : ok = true → ∀ n ∈ visited, (s.endpoints n).holdsBank = true →
    (s'.endpoints n).epen = true ∧ (s'.endpoints n).cfgok = true
  order : ok = true → s'.allocated =
    s.allocated.filter (fun n => !(visited.contains n && (s.endpoints n).holdsBank)) ++
      visited.filter (fun n => (s.endpoints n).holdsBank)

/-- An endpoint without a bank is passed over. -/
theorem Reconfigured.skip {number e : UInt8} {rest : List UInt8} {s s' : Firmware} {ok : Bool}
    (hbank : (s.endpoints e).holdsBank = false)
    (h : Reconfigured number rest (s.select e) ok s') :
    Reconfigured number (e :: rest) s ok s' where
  config := h.config
  others n hn := h.others n (fun hr => hn (List.mem_cons_of_mem _ hr))
  fits := h.fits
  success := by
    rw [h.success]
    simp [hbank]
    rfl
  uenum := h.uenum
  working hok n hn hb := by
    rcases List.mem_cons.mp hn with rfl | hn
    · simp [hbank] at hb
    · exact h.working hok n hn hb
  order hok := by
    have hskip : ∀ n, (!(rest.contains n && (s.endpoints n).holdsBank)) =
        !((e :: rest).contains n && (s.endpoints n).holdsBank) := by
      intro n
      by_cases hn : n = e
      · subst n; simp [hbank]
      · simp [hn]
    rw [h.order hok, List.filter_cons]
    simp only [hbank, Bool.false_eq_true, if_false]
    exact congrArg (· ++ _) (List.filter_congr fun n _ => hskip n)

/-- Writing a configuration to an endpoint. -/
def assign (s : Firmware) (e : UInt8) (c : EndpointConfig) : Firmware :=
  (s.select e).rewrite c

section Assign

variable {e : UInt8} (he : uenumOf e = e) (s : Firmware) (c : EndpointConfig)
include he

/-- Only this endpoint is written to. -/
theorem assign_endpoints (n : UInt8) :
    (s.assign e c).endpoints n =
      if n = e then (s.endpoints n).rewritten c (s.fits n) else s.endpoints n := by
  rw [assign, rewrite_endpoints, select_uenum he]
  rfl

/-- Only its configuration changes. -/
theorem assign_config (n : UInt8) :
    ((s.assign e c).endpoints n).config = if n = e then c else (s.endpoints n).config := by
  rw [assign_endpoints he]
  split <;> rfl

/-- Its bank comes after all others. -/
theorem assign_allocated (hfits : s.fits e = true) :
    (s.assign e c).allocated = s.allocated.filter (· != e) ++ [e] := by
  have hroom : (s.select e).fits e = true := hfits
  rw [assign, rewrite, select_uenum he, setAllocated_allocated, if_pos hroom]
  rfl

/-- Writing back what an endpoint holds changes no configuration. -/
theorem assign_own_config (n : UInt8) :
    ((s.assign e (s.endpoints e).config).endpoints n).config = (s.endpoints n).config := by
  rw [assign_config he]
  split
  · subst n; rfl
  · rfl

/-- Nor does it change which endpoints have a bank. -/
theorem assign_own_holdsBank (n : UInt8) :
    ((s.assign e (s.endpoints e).config).endpoints n).holdsBank = (s.endpoints n).holdsBank :=
  congrArg EndpointConfig.allocates (assign_own_config he s n)

end Assign

section Visit

variable {number e : UInt8} {rest : List UInt8} {s s' : Firmware} {ok : Bool}

/-- The loop goes on after an endpoint that keeps its bank. -/
theorem Reconfigured.visit (he : uenumOf e = e) (herest : e ∉ rest)
    (hbank : (s.endpoints e).holdsBank = true) (hfits : s.fits e = true)
    (h : Reconfigured number rest (s.assign e (s.endpoints e).config) ok s') :
    Reconfigured number (e :: rest) s ok s' where
  config n := (h.config n).trans (assign_own_config he s n)
  others n hn := by
    obtain ⟨hne, hn'⟩ : n ≠ e ∧ n ∉ rest := by simpa using hn
    rw [h.others n hn', assign_endpoints he, if_neg hne]
  fits := h.fits
  success := by
    rw [h.success]
    simp only [assign_own_holdsBank he, List.mem_cons, forall_eq_or_imp]
    exact ⟨fun hr => ⟨fun _ => hfits, hr⟩, fun hr => hr.2⟩
  uenum := h.uenum
  working hok n hn hb := by
    rcases List.mem_cons.mp hn with rfl | hn
    · rw [h.others _ herest, assign_endpoints he, if_pos rfl]
      exact ⟨rfl, hfits⟩
    · exact h.working hok n hn ((assign_own_holdsBank he s n).trans hb)
  order hok := by
    rw [h.order hok, assign_allocated he s _ hfits]
    simp only [assign_own_holdsBank he]
    exact allocated_visit (fun n => (s.endpoints n).holdsBank) herest hbank s.allocated

/-- A bank that does not fit ends the call. -/
theorem Reconfigured.refused (he : uenumOf e = e)
    (hbank : (s.endpoints e).holdsBank = true) (hfits : s.fits e = false) :
    Reconfigured number (e :: rest) s false (s.assign e (s.endpoints e).config) where
  config := assign_own_config he s
  others n hn := by rw [assign_endpoints he, if_neg (List.ne_of_not_mem_cons hn)]
  fits := rfl
  success := by
    simp only [Bool.false_eq_true, false_iff]
    intro hall
    simpa [hfits] using hall e List.mem_cons_self hbank
  uenum := by simp
  working := by simp
  order := by simp

end Visit

/-- The loop visits the endpoints after the one the call is for. -/
theorem configureLoop_tail (number d0 d1 : UInt8) (visited : List UInt8)
    (hmask : ∀ n ∈ visited, uenumOf n = n) (hnumber : number ∉ visited)
    (hnodup : visited.Nodup) (s : Firmware) :
    ∃ ok s', (configureLoop number d0 d1 visited).uninterrupted s = some (ok, s') ∧
      Reconfigured number visited s ok s' := by
  induction visited generalizing s with
  | nil =>
      refine ⟨true, s.select number, rfl, ?_⟩
      exact ⟨fun _ => rfl, fun _ _ => rfl, rfl, by simp, fun _ => rfl, by simp,
        by simp [select]⟩
  | cons e rest ih =>
      obtain ⟨hne, hnumber'⟩ : number ≠ e ∧ number ∉ rest := by simpa using hnumber
      obtain ⟨herest, hnodup'⟩ := List.nodup_cons.mp hnodup
      have he : uenumOf e = e := hmask e List.mem_cons_self
      have ih := ih (fun n hn => hmask n (List.mem_cons_of_mem _ hn)) hnumber' hnodup'
      have hconfig : s.loopConfig number ⟨d0, d1, 0⟩ e = (s.endpoints e).config := by
        rw [loopConfig, if_neg hne.symm, selected, select_uenum he, select_endpoints]
      rw [configureLoop_cons, hconfig, select_uenum he]
      cases hbank : (s.endpoints e).holdsBank with
      | false =>
          rw [if_pos (show (s.endpoints e).config.allocates = false from hbank)]
          obtain ⟨ok, s', hrun, h⟩ := ih (s.select e)
          exact ⟨ok, s', hrun, h.skip hbank⟩
      | true =>
          rw [if_neg (by simpa [EndpointRegs.holdsBank] using hbank)]
          cases hfits : s.fits e with
          | false => exact ⟨false, _, rfl, .refused he hbank hfits⟩
          | true =>
              obtain ⟨ok, s', hrun, h⟩ := ih (s.assign e (s.endpoints e).config)
              exact ⟨ok, s', hrun, h.visit he herest hbank hfits⟩

/-- The endpoints the loop visits after the one the call is for. -/
def endpointsAfter (number : UInt8) : List UInt8 := (endpointsFrom number).tail

/-- The endpoints of the loop, in ascending order. -/
theorem endpointsFrom_eq {number : UInt8} (hnumber : number < endpointTotalEndpoints) :
    endpointsFrom number = number :: endpointsAfter number ∧
      (endpointsFrom number).Pairwise (· < ·) ∧
      ∀ n, n ∈ endpointsAfter number ↔ number < n ∧ n < endpointTotalEndpoints := by
  have hall : ∀ i : Fin 7, endpointsFrom (UInt8.ofNat i) =
        UInt8.ofNat i :: endpointsAfter (UInt8.ofNat i) ∧
      (endpointsFrom (UInt8.ofNat i)).Pairwise (· < ·) ∧
      ∀ j : Fin 256, UInt8.ofNat j ∈ endpointsAfter (UInt8.ofNat i) ↔
        UInt8.ofNat i < UInt8.ofNat j ∧ UInt8.ofNat j < endpointTotalEndpoints := by
    decide +kernel
  have h := hall ⟨number.toNat, hnumber⟩
  rw [UInt8.ofNat_toNat] at h
  exact ⟨h.1, h.2.1, uint8_forall h.2.2⟩

/-- `UENUM` holds the number of every endpoint of the controller. -/
theorem uenumOf_of_lt {n : UInt8} (hn : n < endpointTotalEndpoints) :
    uenumOf n = n := by
  have hall : ∀ n : UInt8, n < endpointTotalEndpoints → uenumOf n = n := by
    refine uint8_forall ?_
    decide +kernel
  exact hall n hn

/-- What a call of `Endpoint_ConfigureEndpoint` for an endpoint does. -/
structure Configured (number : UInt8) (c : EndpointConfig) (s : Firmware) (ok : Bool)
    (s' : Firmware) : Prop where
  config : ∀ n, (s'.endpoints n).config = if n = number then c else (s.endpoints n).config
  below : ∀ n, n < number → s'.endpoints n = s.endpoints n
  fits : s'.fits = s.fits
  success : ok = true ↔ s.fits number = true ∧ ∀ n, number < n → n < endpointTotalEndpoints →
    (s.endpoints n).holdsBank = true → s.fits n = true
  uenum : ok = true → s'.uenum = number
  working : ok = true → ∀ n, number ≤ n → n < endpointTotalEndpoints →
    (s'.endpoints n).holdsBank = true →
      (s'.endpoints n).epen = true ∧ (s'.endpoints n).cfgok = true
  order : ok = true → s'.allocated =
    s.allocated.filter
        (fun n => !((endpointsFrom number).contains n && (s'.endpoints n).holdsBank)) ++
      (endpointsFrom number).filter (fun n => (s'.endpoints n).holdsBank)

section Call

variable {number : UInt8} {c : EndpointConfig} {s s' : Firmware} {ok : Bool}

/-- The rest of the loop completes the call. -/
theorem Reconfigured.configured (hnumber : number < endpointTotalEndpoints)
    (hc : c.allocates = true) (hfits : s.fits number = true)
    (h : Reconfigured number (endpointsAfter number) (s.assign number c) ok s') :
    Configured number c s ok s' := by
  obtain ⟨hcons, hsorted, hafter⟩ := endpointsFrom_eq hnumber
  have he := uenumOf_of_lt hnumber
  have hnotin : number ∉ endpointsAfter number := fun hin =>
    UInt8.lt_irrefl _ ((hafter number).mp hin).1
  have hconfig (n : UInt8) := (h.config n).trans (assign_config he s c n)
  have hholds (n : UInt8) :
      (s'.endpoints n).holdsBank = ((s.assign number c).endpoints n).holdsBank :=
    congrArg EndpointConfig.allocates (h.config n)
  have habove {n : UInt8} (hn : number < n) :
      ((s.assign number c).endpoints n).holdsBank = (s.endpoints n).holdsBank := by
    rw [assign_endpoints he, if_neg (UInt8.ne_of_lt hn).symm]
  refine ⟨hconfig, ?_, h.fits, ?_, fun hok => (h.uenum hok).trans he, ?_, ?_⟩
  · intro n hn
    have hout : n ∉ endpointsAfter number := fun hin =>
      UInt8.lt_irrefl _ (UInt8.lt_trans hn ((hafter n).mp hin).1)
    rw [h.others n hout, assign_endpoints he, if_neg (UInt8.ne_of_lt hn)]
  · rw [h.success]
    constructor
    · intro hall
      refine ⟨hfits, fun n hn hn7 hb => ?_⟩
      exact hall n ((hafter n).mpr ⟨hn, hn7⟩) ((habove hn).trans hb)
    · rintro ⟨_, hall⟩ n hn hb
      obtain ⟨hlt, h7⟩ := (hafter n).mp hn
      exact hall n hlt h7 ((habove hlt).symm.trans hb)
  · intro hok n hn hn7 hb
    rcases UInt8.le_iff_lt_or_eq.mp hn with hlt | rfl
    · exact h.working hok n ((hafter n).mpr ⟨hlt, hn7⟩) ((hholds n).symm.trans hb)
    · rw [h.others _ hnotin, assign_endpoints he, if_pos rfl]
      exact ⟨rfl, hfits⟩
  · intro hok
    have hown : (s'.endpoints number).holdsBank = true :=
      (congrArg EndpointConfig.allocates ((hconfig number).trans (if_pos rfl))).trans hc
    rw [h.order hok, assign_allocated he s c hfits, hcons]
    simp only [← hholds]
    exact allocated_visit (fun n => (s'.endpoints n).holdsBank) hnotin hown s.allocated

/-- The whole call of `Endpoint_ConfigureEndpoint_Prv`. -/
theorem configureEndpointPrv_configured (hnumber : number < endpointTotalEndpoints)
    {d0 d1 : UInt8} (halloc : (⟨d0, d1, 0⟩ : EndpointConfig).allocates = true)
    (s : Firmware) :
    ∃ ok s', (endpointConfigureEndpointPrv number d0 d1).uninterrupted s = some (ok, s') ∧
      Configured number ⟨d0, d1, 0⟩ s ok s' := by
  obtain ⟨hcons, hsorted, hafter⟩ := endpointsFrom_eq hnumber
  have he := uenumOf_of_lt hnumber
  have hconfig : s.loopConfig number ⟨d0, d1, 0⟩ number = ⟨d0, d1, 0⟩ := if_pos rfl
  rw [hcons, List.pairwise_cons] at hsorted
  rw [endpointConfigureEndpointPrv, hcons, configureLoop_cons, hconfig, select_uenum he,
    if_neg (by simp [halloc])]
  cases hfits : s.fits number with
  | false =>
      refine ⟨false, _, rfl, assign_config he s _, fun n hn => ?_, rfl, by simp [hfits],
        by simp, by simp, by simp⟩
      exact (assign_endpoints he s _ n).trans (if_neg (UInt8.ne_of_lt hn))
  | true =>
      obtain ⟨ok, s', hrun, h⟩ := configureLoop_tail number d0 d1 (endpointsAfter number)
        (fun n hn => uenumOf_of_lt ((hafter n).mp hn).2)
        (fun hin => UInt8.lt_irrefl _ ((hafter number).mp hin).1)
        (hsorted.2.imp UInt8.ne_of_lt) (s.assign number ⟨d0, d1, 0⟩)
      exact ⟨ok, s', hrun, h.configured hnumber halloc hfits⟩

end Call

end Firmware

/-- The configuration a call of `Endpoint_ConfigureEndpoint` asks for. -/
def requestedConfig (address type : UInt8) (size : UInt16) (banks : UInt8) :
    Option EndpointConfig :=
  (endpointBytesToEPSizeMask size).map fun sizeMask =>
    { uecfg0x := (type <<< 6) ||| (if address &&& endpointDirIn ≠ 0 then epdirBit else 0)
      uecfg1x := allocBit ||| (if 1 < banks then epbk0Bit else 0) ||| sizeMask
      ueienx := 0 }

/-- The size of the bank that `EPSIZE2:0` stands for. -/
def EndpointConfig.bankSize (c : EndpointConfig) : Nat :=
  8 <<< ((c.uecfg1x >>> 4) &&& 7).toNat

/-- The registers for a size with a mask. -/
theorem requestedConfig_eq {size : UInt16} {sizeMask : UInt8}
    (hmask : endpointBytesToEPSizeMask size = some sizeMask) (address type banks : UInt8) :
    requestedConfig address type size banks = some
      ⟨(type <<< 6) ||| (if address &&& endpointDirIn ≠ 0 then epdirBit else 0),
        allocBit ||| (if 1 < banks then epbk0Bit else 0) ||| sizeMask, 0⟩ := by
  rw [requestedConfig, hmask, Option.map_some]

/-- Every call asks for a bank. -/
theorem requestedConfig_allocates {address type : UInt8} {size : UInt16} {banks : UInt8}
    {c : EndpointConfig} (hc : requestedConfig address type size banks = some c) :
    c.allocates = true := by
  obtain ⟨sizeMask, _, rfl⟩ := Option.map_eq_some_iff.mp hc
  have hall : ∀ m : UInt8, ∀ b : Bool,
      (allocBit ||| (if b then epbk0Bit else 0) ||| m) &&& allocBit ≠ 0 := by
    refine uint8_forall ?_
    decide +kernel
  have h := hall sizeMask (decide (1 < banks))
  simp only [decide_eq_true_eq] at h
  simpa [EndpointConfig.allocates] using h

section SizeMask

variable {bytes : UInt16} {i : Nat}

/-- Up to here the doubled size is not cut off. -/
theorem checkBytes_lt_iff (hi : i ≤ 12) :
    UInt16.ofNat (8 * 2 ^ i) < bytes ↔ 8 * 2 ^ i < bytes.toNat := by
  have hpow : 2 ^ i ≤ 2 ^ 12 := Nat.pow_le_pow_right (by decide) hi
  rw [UInt16.lt_iff_toNat_lt, UInt16.toNat_ofNat', Nat.mod_eq_of_lt (by omega)]

/-- A round of the loop doubles the size. -/
theorem epSizeMaskLoop_more (hi : i ≤ 12) (hmore : 8 * 2 ^ i < bytes.toNat) (rounds : Nat) :
    epSizeMaskLoop bytes (rounds + 1) (UInt8.ofNat i) (UInt16.ofNat (8 * 2 ^ i)) =
      epSizeMaskLoop bytes rounds (UInt8.ofNat (i + 1)) (UInt16.ofNat (8 * 2 ^ (i + 1))) := by
  have hdouble : UInt16.ofNat (8 * 2 ^ i) <<< 1 = UInt16.ofNat (8 * 2 ^ (i + 1)) := by
    have hpow : 2 ^ i ≤ 2 ^ 12 := Nat.pow_le_pow_right (by decide) hi
    apply UInt16.toNat_inj.mp
    rw [UInt16.toNat_shiftLeft, UInt16.toNat_ofNat', UInt16.toNat_ofNat', Nat.shiftLeft_eq]
    show 8 * 2 ^ i % 65536 * 2 % 65536 = 8 * 2 ^ (i + 1) % 65536
    rw [Nat.pow_succ]
    omega
  have hsucc : UInt8.ofNat i + 1 = UInt8.ofNat (i + 1) := by
    apply UInt8.toNat_inj.mp
    simp
  rw [epSizeMaskLoop, if_pos ((checkBytes_lt_iff hi).mpr hmore), hdouble, hsucc]

/-- The loop from the size `8 * 2 ^ i` on, none of the smaller ones being
enough. -/
theorem epSizeMaskLoop_fits (hbytes : bytes.toNat ≤ 8 * 2 ^ 12) {k rounds : Nat}
    (hk : i + k = 12) (hrounds : k < rounds)
    (hsmaller : i = 0 ∨ 8 * 2 ^ (i - 1) < bytes.toNat) :
    ∃ j, epSizeMaskLoop bytes rounds (UInt8.ofNat i) (UInt16.ofNat (8 * 2 ^ i)) =
        some (UInt8.ofNat j <<< 4) ∧
      bytes.toNat ≤ 8 * 2 ^ j ∧ (j = 0 ∨ 8 * 2 ^ (j - 1) < bytes.toNat) := by
  induction k generalizing i rounds with
  | zero =>
      obtain rfl : i = 12 := by omega
      obtain ⟨rounds, rfl⟩ := Nat.exists_eq_add_of_lt hrounds
      refine ⟨12, ?_, hbytes, hsmaller⟩
      rw [epSizeMaskLoop, if_neg (by rw [checkBytes_lt_iff le_rfl]; omega)]
  | succ k ih =>
      obtain ⟨rounds, rfl⟩ : ∃ r, rounds = r + 1 := ⟨rounds - 1, by omega⟩
      by_cases hmore : 8 * 2 ^ i < bytes.toNat
      · rw [epSizeMaskLoop_more (by omega) hmore]
        exact ih (by omega) (by omega) (Or.inr hmore)
      · refine ⟨i, ?_, by omega, hsmaller⟩
        rw [epSizeMaskLoop, if_neg (by rw [checkBytes_lt_iff (by omega)]; exact hmore)]

/-- Past the largest size the loop goes on for ever. -/
theorem epSizeMaskLoop_zero (hbytes : 0 < bytes) (rounds : Nat) (maskVal : UInt8) :
    epSizeMaskLoop bytes rounds maskVal 0 = none := by
  induction rounds generalizing maskVal with
  | zero => rfl
  | succ rounds ih => rw [epSizeMaskLoop, if_pos hbytes]; exact ih _

/-- A size that is too large keeps the loop going for ever. -/
theorem epSizeMaskLoop_endless (hbytes : 8 * 2 ^ 12 < bytes.toNat) {k : Nat}
    (hk : i + k = 13) (rounds : Nat) :
    epSizeMaskLoop bytes (k + rounds) (UInt8.ofNat i) (UInt16.ofNat (8 * 2 ^ i)) = none := by
  induction k generalizing i with
  | zero =>
      obtain rfl : i = 13 := by omega
      refine epSizeMaskLoop_zero ?_ _ _
      rw [UInt16.lt_iff_toNat_lt]
      exact Nat.lt_of_le_of_lt (Nat.zero_le _) hbytes
  | succ k ih =>
      have hpow : 2 ^ i ≤ 2 ^ 12 := Nat.pow_le_pow_right (by decide) (by omega)
      rw [Nat.succ_add, epSizeMaskLoop_more (by omega) (by omega)]
      exact ih (by omega)

end SizeMask

/-- `Endpoint_BytesToEPSizeMask` returns exactly for sizes up to 32768, and then
with the smallest bank, eight times a power of two, that has room. -/
theorem bank_size_cases (bytes : UInt16) :
    ((endpointBytesToEPSizeMask bytes).isSome = true ↔ bytes.toNat ≤ 8 * 2 ^ 12) ∧
      ∀ mask, endpointBytesToEPSizeMask bytes = some mask →
        ∃ j, mask = UInt8.ofNat j <<< 4 ∧ bytes.toNat ≤ 8 * 2 ^ j ∧
          (j = 0 ∨ 8 * 2 ^ (j - 1) < bytes.toNat) := by
  by_cases hbytes : bytes.toNat ≤ 8 * 2 ^ 12
  · obtain ⟨j, hrun, hroom, hsmallest⟩ := epSizeMaskLoop_fits hbytes
      (show 0 + 12 = 12 from rfl) (show 12 < 17 by decide) (Or.inl rfl)
    have hmask : endpointBytesToEPSizeMask bytes = some (UInt8.ofNat j <<< 4) := hrun
    refine ⟨iff_of_true (by rw [hmask]; rfl) hbytes, fun mask h => ⟨j, ?_, hroom, hsmallest⟩⟩
    exact (Option.some.inj (hmask.symm.trans h)).symm
  · have hnone : endpointBytesToEPSizeMask bytes = none :=
      epSizeMaskLoop_endless (Nat.not_le.mp hbytes) (show 0 + 13 = 13 from rfl) 4
    exact ⟨iff_of_false (by rw [hnone]; decide) hbytes, by simp [hnone]⟩

namespace Firmware

section Calls

variable {address type banks : UInt8} {size : UInt16} {s s' : Firmware} {ok : Bool}

/-- How a call of `Endpoint_ConfigureEndpoint` ends. -/
theorem configureEndpoint_cases
    (hrun : (endpointConfigureEndpoint address type size banks).uninterrupted s =
      some (ok, s')) :
    (endpointTotalEndpoints ≤ epNumber address ∧ ok = false ∧ s' = s) ∨
      (epNumber address < endpointTotalEndpoints ∧
        ∃ c, requestedConfig address type size banks = some c ∧
          Configured (epNumber address) c s ok s') := by
  unfold endpointConfigureEndpoint at hrun
  by_cases hnumber : endpointTotalEndpoints ≤ epNumber address
  · rw [if_pos hnumber] at hrun
    obtain ⟨rfl, rfl⟩ := Prod.mk.inj (Option.some.inj hrun)
    exact Or.inl ⟨hnumber, rfl, rfl⟩
  · rw [if_neg hnumber] at hrun
    have hlt := UInt8.not_le.mp hnumber
    cases hmask : endpointBytesToEPSizeMask size with
    | none =>
        rw [hmask] at hrun
        exact absurd hrun (by simp [Prog.untilSome, Prog.iterate, Prog.uninterrupted])
    | some sizeMask =>
        rw [hmask] at hrun
        have hc := requestedConfig_eq hmask address type banks
        obtain ⟨ok', t, hrun', h⟩ :=
          configureEndpointPrv_configured hlt (requestedConfig_allocates hc) s
        obtain ⟨rfl, rfl⟩ := Prod.mk.inj (Option.some.inj (hrun'.symm.trans hrun))
        exact Or.inr ⟨hlt, _, hc, h⟩

/-- A call for a size that the mask has room for returns. -/
theorem configureEndpoint_returns (hsize : size.toNat ≤ 8 * 2 ^ 12) (s : Firmware) :
    ∃ ok s', (endpointConfigureEndpoint address type size banks).uninterrupted s =
      some (ok, s') := by
  unfold endpointConfigureEndpoint
  by_cases hnumber : endpointTotalEndpoints ≤ epNumber address
  · exact ⟨false, s, by rw [if_pos hnumber]; rfl⟩
  · obtain ⟨sizeMask, hmask⟩ := Option.isSome_iff_exists.mp
      ((bank_size_cases size).1.mpr hsize)
    have hc := requestedConfig_eq hmask address type banks
    obtain ⟨ok, t, hrun, _⟩ := configureEndpointPrv_configured (UInt8.not_le.mp hnumber)
      (requestedConfig_allocates hc) s
    exact ⟨ok, t, by rw [if_neg hnumber, hmask]; exact hrun⟩

/-- A bank size up to 1024 goes into the three bits of the register. -/
theorem requestedConfig_bankSize (hsize : size.toNat ≤ 1024) {c : EndpointConfig}
    (hc : requestedConfig address type size banks = some c) : size.toNat ≤ c.bankSize := by
  obtain ⟨sizeMask, hmask, rfl⟩ := Option.map_eq_some_iff.mp hc
  obtain ⟨j, rfl, hroom, hsmallest⟩ := (bank_size_cases size).2 sizeMask hmask
  have hj : j < 8 := by
    rcases hsmallest with rfl | hlt
    · decide
    · by_contra hge
      have hpow : 2 ^ 7 ≤ 2 ^ (j - 1) := Nat.pow_le_pow_right (by decide) (by omega)
      omega
  have hall : ∀ j : Fin 8, ∀ b : Bool,
      8 <<< (((allocBit ||| (if b then epbk0Bit else 0) ||| UInt8.ofNat j <<< 4) >>> 4) &&&
        7).toNat = 8 * 2 ^ j.val := by
    decide +kernel
  have h := hall ⟨j, hj⟩ (decide (1 < banks))
  simp only [decide_eq_true_eq] at h
  rw [EndpointConfig.bankSize, h]
  exact hroom

/-- The banks that a successful call reserves again. -/
theorem Configured.reserved {number : UInt8} {c : EndpointConfig}
    (h : Configured number c s true s') :
    let again := (endpointsFrom number).filter fun n => (s'.endpoints n).holdsBank
    s'.allocated = s.allocated.filter (· ∉ again) ++ again := by
  intro again
  have hagain : ∀ n, decide (n ∉ again) =
      !((endpointsFrom number).contains n && (s'.endpoints n).holdsBank) := by
    intro n
    simp [again, List.mem_filter]
  rw [h.order rfl]
  simp only [hagain]
  rfl

/-- **Configuring an endpoint spares the others.**  A call for one of the
controller's endpoints and a bank of at most 1024 bytes, if nothing interrupts
it, returns.  Its endpoint has the configuration asked for, with room for `Size`
bytes; no other endpoint's configuration changes, and nothing at all changes in
the endpoints with lower numbers.  The call succeeds exactly when the controller
has room for the banks from this endpoint on.  It then has given these banks up
and reserved them again in ascending order, after all others, and leaves each of
their endpoints enabled and configured. -/
theorem configuring_spares_other_endpoints
    (hnumber : epNumber address < endpointTotalEndpoints) (hsize : size.toNat ≤ 1024)
    (s : Firmware) :
    ∃ ok s', (endpointConfigureEndpoint address type size banks).uninterrupted s =
        some (ok, s') ∧
      requestedConfig address type size banks =
        some (s'.endpoints (epNumber address)).config ∧
      size.toNat ≤ (s'.endpoints (epNumber address)).config.bankSize ∧
      (∀ n, n ≠ epNumber address → (s'.endpoints n).config = (s.endpoints n).config) ∧
      (∀ n, n < epNumber address → s'.endpoints n = s.endpoints n) ∧
      (ok = true ↔ s.fits (epNumber address) = true ∧
        ∀ n, epNumber address < n → n < endpointTotalEndpoints →
          (s.endpoints n).holdsBank = true → s.fits n = true) ∧
      (ok = true →
        (∀ n, epNumber address ≤ n → n < endpointTotalEndpoints →
          (s'.endpoints n).holdsBank = true →
            (s'.endpoints n).epen = true ∧ (s'.endpoints n).cfgok = true) ∧
        let again := (endpointsFrom (epNumber address)).filter
          fun n => (s'.endpoints n).holdsBank
        s'.allocated = s.allocated.filter (· ∉ again) ++ again) := by
  obtain ⟨ok, s', hrun⟩ :=
    @configureEndpoint_returns address type banks size (hsize.trans (by decide)) s
  rcases configureEndpoint_cases hrun with ⟨hge, _⟩ | ⟨_, c, hc, h⟩
  · exact absurd hnumber (UInt8.not_lt.mpr hge)
  have hown : (s'.endpoints (epNumber address)).config = c := (h.config _).trans (if_pos rfl)
  refine ⟨ok, s', hrun, hown ▸ hc, ?_, ?_, h.below, h.success, ?_⟩
  · rw [hown]
    exact requestedConfig_bankSize hsize hc
  · intro n hn
    exact (h.config n).trans (if_neg hn)
  · rintro rfl
    exact ⟨h.working rfl, h.reserved⟩

/-- A controller with endpoint 3 configured, for bulk transfers to the host. -/
def thirdConfigured : Firmware where
  ports := quietBoard
  allocated := [3]
  endpoints n :=
    if n = 3 then { uecfg0x := 0x81, uecfg1x := 0x36, epen := true, cfgok := true } else {}

/-- The joystick's report endpoint is configured while endpoint 3 is in use:
endpoint 3 keeps its configuration, and its bank is reserved again after the new
one. -/
theorem configuring_spares_other_endpoints_third :
    ∃ s', (endpointConfigureEndpoint joystickINEPAddr epTypeInterrupt 32 1).uninterrupted
        thirdConfigured = some (true, s') ∧
      (s'.endpoints 3).config = ⟨0x81, 0x36, 0⟩ ∧ (s'.endpoints 1).config = ⟨0xC1, 0x22, 0⟩ ∧
      (s'.endpoints 3).cfgok = true ∧ s'.allocated = [1, 3] := by
  obtain ⟨ok, s', hrun, hown, _, hothers, _, hok, hafter⟩ :=
    @configuring_spares_other_endpoints joystickINEPAddr epTypeInterrupt 1 32 (by decide)
      (by decide) thirdConfigured
  obtain rfl : ok = true := hok.mpr ⟨rfl, fun _ _ _ _ => rfl⟩
  have hfirst : (s'.endpoints 1).config = ⟨0xC1, 0x22, 0⟩ := (Option.some.inj hown).symm
  have hothers' (n : UInt8) (hn : n ≠ 1) :
      (s'.endpoints n).config = (thirdConfigured.endpoints n).config := hothers n hn
  have hthird : (s'.endpoints 3).config = ⟨0x81, 0x36, 0⟩ := hothers' 3 (by decide)
  have hholds (n : UInt8) (c : EndpointConfig) (h : (s'.endpoints n).config = c) :
      (s'.endpoints n).holdsBank = c.allocates := congrArg EndpointConfig.allocates h
  have hagain : (endpointsFrom (epNumber joystickINEPAddr)).filter
      (fun n => (s'.endpoints n).holdsBank) = [1, 3] := by
    show [1, 2, 3, 4, 5, 6].filter (fun n => (s'.endpoints n).holdsBank) = [1, 3]
    simp only [List.filter_cons, List.filter_nil, hholds 1 _ hfirst, hholds 3 _ hthird,
      hholds 2 _ (hothers' 2 (by decide)), hholds 4 _ (hothers' 4 (by decide)),
      hholds 5 _ (hothers' 5 (by decide)), hholds 6 _ (hothers' 6 (by decide))]
    decide
  obtain ⟨hworking, hbanks⟩ := hafter rfl
  have hallocated : s'.allocated = [1, 3] := by
    rw [hbanks, hagain]
    decide
  exact ⟨s', hrun, hthird, hfirst,
    (hworking 3 (by decide) (by decide) ((hholds 3 _ hthird).trans (by decide))).2, hallocated⟩

end Calls

/-- The banks have been reserved in ascending order, by exactly the endpoints
that hold one. -/
structure BanksInOrder (s : Firmware) : Prop where
  sorted : s.allocated.Pairwise (· < ·)
  mem : ∀ n, n ∈ s.allocated ↔ n < endpointTotalEndpoints ∧ (s.endpoints n).holdsBank = true

section Order

variable {number : UInt8} {c : EndpointConfig} {s s' : Firmware}

/-- The endpoints that the loop visits. -/
theorem mem_endpointsFrom (hnumber : number < endpointTotalEndpoints) (n : UInt8) :
    n ∈ endpointsFrom number ↔ number ≤ n ∧ n < endpointTotalEndpoints := by
  obtain ⟨hcons, _, hafter⟩ := endpointsFrom_eq hnumber
  rw [hcons, List.mem_cons, hafter, UInt8.le_iff_lt_or_eq]
  constructor
  · rintro (rfl | ⟨hlt, h7⟩)
    · exact ⟨Or.inr rfl, hnumber⟩
    · exact ⟨Or.inl hlt, h7⟩
  · rintro ⟨hlt | rfl, h7⟩
    · exact Or.inr ⟨hlt, h7⟩
    · exact Or.inl rfl

/-- The banks that are left alone belong to endpoints below. -/
theorem Configured.mem_kept (hnumber : number < endpointTotalEndpoints)
    (hc : c.allocates = true) (hs : BanksInOrder s) (h : Configured number c s true s')
    {n : UInt8} :
    n ∈ s.allocated.filter
        (fun n => !((endpointsFrom number).contains n && (s'.endpoints n).holdsBank)) ↔
      n < number ∧ (s'.endpoints n).holdsBank = true := by
  have hholds : (s'.endpoints n).holdsBank =
      if n = number then true else (s.endpoints n).holdsBank := by
    rw [EndpointRegs.holdsBank, h.config]
    split
    · exact hc
    · rfl
  rw [List.mem_filter, hs.mem]
  constructor
  · rintro ⟨⟨h7, hb⟩, hkept⟩
    have hb' : (s'.endpoints n).holdsBank = true := by
      rw [hholds]
      split
      · rfl
      · exact hb
    refine ⟨UInt8.not_le.mp fun hle => ?_, hb'⟩
    have hin : (endpointsFrom number).contains n = true :=
      List.contains_iff_mem.mpr ((mem_endpointsFrom hnumber n).mpr ⟨hle, h7⟩)
    simp only [hin, hb'] at hkept
    exact Bool.noConfusion hkept
  · rintro ⟨hlt, hb⟩
    have hb' : (s.endpoints n).holdsBank = true := by
      rwa [hholds, if_neg (UInt8.ne_of_lt hlt)] at hb
    have hout : (endpointsFrom number).contains n = false := by
      rw [← Bool.not_eq_true, List.contains_iff_mem, mem_endpointsFrom hnumber]
      exact fun hin => UInt8.lt_irrefl _ (UInt8.lt_of_lt_of_le hlt hin.1)
    refine ⟨⟨UInt8.lt_trans hlt hnumber, hb'⟩, ?_⟩
    simp only [hout]
    rfl

/-- A successful call keeps the banks in order. -/
theorem Configured.banksInOrder (hnumber : number < endpointTotalEndpoints)
    (hc : c.allocates = true) (hs : BanksInOrder s) (h : Configured number c s true s') :
    BanksInOrder s' where
  sorted := by
    rw [h.order rfl, List.pairwise_append]
    refine ⟨hs.sorted.filter _, (endpointsFrom_eq hnumber).2.1.filter _, fun a ha b hb => ?_⟩
    have hbelow := ((h.mem_kept hnumber hc hs).mp ha).1
    have habove := ((mem_endpointsFrom hnumber b).mp (List.mem_filter.mp hb).1).1
    exact UInt8.lt_of_lt_of_le hbelow habove
  mem n := by
    rw [h.order rfl, List.mem_append, h.mem_kept hnumber hc hs, List.mem_filter,
      mem_endpointsFrom hnumber]
    constructor
    · rintro (⟨hlt, hb⟩ | ⟨⟨_, h7⟩, hb⟩)
      · exact ⟨UInt8.lt_trans hlt hnumber, hb⟩
      · exact ⟨h7, hb⟩
    · rintro ⟨h7, hb⟩
      rcases UInt8.lt_or_le n number with hlt | hle
      · exact Or.inl ⟨hlt, hb⟩
      · exact Or.inr ⟨⟨hle, h7⟩, hb⟩

end Order

/-- How a table is worked through: an entry without an address is passed over,
and a call that fails ends it. -/
theorem configureTable_cons {e : USBEndpointTable} {table : List USBEndpointTable}
    {s s' : Firmware}
    (hrun : (endpointConfigureEndpointTable (e :: table)).uninterrupted s = some (true, s')) :
    (e.address = 0 ∧ (endpointConfigureEndpointTable table).uninterrupted s = some (true, s')) ∨
      (e.address ≠ 0 ∧ ∃ t,
        (endpointConfigureEndpoint e.address e.type e.size e.banks).uninterrupted s =
          some (true, t) ∧
        (endpointConfigureEndpointTable table).uninterrupted t = some (true, s')) := by
  unfold endpointConfigureEndpointTable at hrun
  by_cases haddress : e.address = 0
  · rw [if_pos haddress] at hrun
    exact Or.inl ⟨haddress, hrun⟩
  · rw [if_neg haddress, Prog.uninterrupted_bind] at hrun
    refine Or.inr ⟨haddress, ?_⟩
    obtain ⟨⟨ok, t⟩, hcall, hrest⟩ := Option.bind_eq_some_iff.mp hrun
    cases ok with
    | true => exact ⟨t, hcall, hrest⟩
    | false => exact absurd (Prod.mk.inj (Option.some.inj hrest)).1 (by decide)

/-- Banks stay in order.  However many endpoints are configured, in whatever
order and however often, the banks have been reserved in ascending order
afterwards, by exactly the endpoints that hold one. -/
theorem configureTable_banksInOrder (table : List USBEndpointTable) {s s' : Firmware}
    (hs : BanksInOrder s)
    (hrun : (endpointConfigureEndpointTable table).uninterrupted s = some (true, s')) :
    BanksInOrder s' := by
  induction table generalizing s with
  | nil =>
      obtain ⟨_, rfl⟩ := Prod.mk.inj (Option.some.inj hrun)
      exact hs
  | cons e table ih =>
      rcases configureTable_cons hrun with ⟨_, hrest⟩ | ⟨_, t, hcall, hrest⟩
      · exact ih hs hrest
      · rcases configureEndpoint_cases hcall with ⟨_, hfalse, _⟩ | ⟨hnumber, c, hc, h⟩
        · exact absurd hfalse (by decide)
        · exact ih (h.banksInOrder hnumber (requestedConfig_allocates hc) hs) hrest

/-- A controller with nothing configured. -/
theorem banksInOrder_unconfigured (s : Firmware) (hallocated : s.allocated = [])
    (hendpoints : ∀ n, (s.endpoints n).uecfg1x = 0) : BanksInOrder s := by
  refine ⟨hallocated ▸ .nil, fun n => ?_⟩
  simp [hallocated, EndpointRegs.holdsBank, EndpointRegs.config, EndpointConfig.allocates,
    hendpoints n]

/-- The entries of a table that are not passed over. -/
def activeEntries (table : List USBEndpointTable) : List USBEndpointTable :=
  table.filter (fun e => e.address != 0)

/-- A table gives each of its endpoints its own configuration, and leaves the
configuration of all others alone. -/
theorem configureTable_config {table : List USBEndpointTable}
    (hdistinct : ((activeEntries table).map (fun e => epNumber e.address)).Nodup)
    {s s' : Firmware}
    (hrun : (endpointConfigureEndpointTable table).uninterrupted s = some (true, s')) :
    (∀ e ∈ activeEntries table,
      requestedConfig e.address e.type e.size e.banks =
        some (s'.endpoints (epNumber e.address)).config) ∧
      ∀ n, n ∉ (activeEntries table).map (fun e => epNumber e.address) →
        (s'.endpoints n).config = (s.endpoints n).config := by
  induction table generalizing s with
  | nil =>
      obtain ⟨_, rfl⟩ := Prod.mk.inj (Option.some.inj hrun)
      exact ⟨by simp [activeEntries], fun _ _ => rfl⟩
  | cons e table ih =>
      rcases configureTable_cons hrun with ⟨haddress, hrest⟩ | ⟨haddress, t, hcall, hrest⟩
      · have hskip : activeEntries (e :: table) = activeEntries table :=
          List.filter_cons_of_neg (by simp [haddress])
        rw [hskip] at hdistinct ⊢
        exact ih hdistinct hrest
      · have hactive : activeEntries (e :: table) = e :: activeEntries table :=
          List.filter_cons_of_pos (by simpa using haddress)
        rw [hactive, List.map_cons, List.nodup_cons] at hdistinct
        obtain ⟨hown, hothers⟩ := ih hdistinct.2 hrest
        rcases configureEndpoint_cases hcall with ⟨_, hfalse, _⟩ | ⟨hnumber, c, hc, h⟩
        · exact absurd hfalse (by decide)
        rw [hactive]
        refine ⟨fun e' he' => ?_, fun n hn => ?_⟩
        · rcases List.mem_cons.mp he' with rfl | he'
          · rw [hothers _ hdistinct.1, h.config, if_pos rfl]
            exact hc
          · exact hown e' he'
        · rw [List.map_cons, List.mem_cons, not_or] at hn
          rw [hothers n hn.2, h.config, if_neg hn.1]

/-- What a table needs: each entry is for an endpoint of the controller, with a
size that `Endpoint_BytesToEPSizeMask` can handle, and the controller has room for
its bank and for all banks above it. -/
structure RoomFor (table : List USBEndpointTable) (s : Firmware) : Prop where
  entry : ∀ e ∈ activeEntries table, epNumber e.address < endpointTotalEndpoints ∧
    e.size.toNat ≤ 8 * 2 ^ 12 ∧ s.fits (epNumber e.address) = true
  above : ∀ e ∈ activeEntries table, ∀ n, epNumber e.address < n → n < endpointTotalEndpoints →
    (s.endpoints n).holdsBank = true → s.fits n = true

/-- The order of the entries plays no part in it. -/
theorem RoomFor.perm {table table' : List USBEndpointTable} (hperm : table.Perm table')
    {s : Firmware} (h : RoomFor table s) : RoomFor table' s := by
  have hactive : (activeEntries table).Perm (activeEntries table') := hperm.filter _
  exact ⟨fun e he => h.entry e (hactive.mem_iff.mpr he),
    fun e he => h.above e (hactive.mem_iff.mpr he)⟩

/-- An entry without an address is passed over. -/
theorem activeEntries_passed {e : USBEndpointTable} (h : e.address = 0)
    (table : List USBEndpointTable) : activeEntries (e :: table) = activeEntries table :=
  List.filter_cons_of_neg (by simp [h])

/-- Any other entry is worked through. -/
theorem activeEntries_cons {e : USBEndpointTable} (h : e.address ≠ 0)
    (table : List USBEndpointTable) : activeEntries (e :: table) = e :: activeEntries table :=
  List.filter_cons_of_pos (by simpa using h)

/-- A call takes no room from the entries that follow. -/
theorem Configured.roomFor_iff {number : UInt8} {c : EndpointConfig} {s t : Firmware} {ok : Bool}
    (h : Configured number c s ok t) (hc : c.allocates = true)
    (hnumber : s.fits number = true) (table : List USBEndpointTable) :
    RoomFor table t ↔ RoomFor table s := by
  have hholds : ∀ n, n ≠ number → (t.endpoints n).holdsBank = (s.endpoints n).holdsBank := by
    intro n hn
    exact congrArg EndpointConfig.allocates ((h.config n).trans (if_neg hn))
  have hown : (t.endpoints number).holdsBank = true :=
    (congrArg EndpointConfig.allocates ((h.config number).trans (if_pos rfl))).trans hc
  constructor
  · rintro ⟨hentry, habove⟩
    rw [h.fits] at hentry habove
    refine ⟨hentry, fun e he n hlt h7 hbank => ?_⟩
    by_cases hn : n = number
    · rw [hn, hnumber]
    · exact habove e he n hlt h7 ((hholds n hn).trans hbank)
  · rintro ⟨hentry, habove⟩
    refine ⟨fun e he => ?_, fun e he n hlt h7 hbank => ?_⟩
    · rw [h.fits]
      exact hentry e he
    · rw [h.fits]
      by_cases hn : n = number
      · rw [hn, hnumber]
      · exact habove e he n hlt h7 ((hholds n hn).symm.trans hbank)

/-- What one entry of a table needs. -/
structure RoomForEntry (e : USBEndpointTable) (s : Firmware) : Prop where
  number : epNumber e.address < endpointTotalEndpoints
  size : e.size.toNat ≤ 8 * 2 ^ 12
  fits : s.fits (epNumber e.address) = true
  above : ∀ n, epNumber e.address < n → n < endpointTotalEndpoints →
    (s.endpoints n).holdsBank = true → s.fits n = true

/-- A table needs what its entries need. -/
theorem roomFor_iff {table : List USBEndpointTable} {s : Firmware} :
    RoomFor table s ↔ ∀ e ∈ activeEntries table, RoomForEntry e s := by
  constructor
  · intro h e he
    obtain ⟨hnumber, hsize, hfits⟩ := h.entry e he
    exact ⟨hnumber, hsize, hfits, h.above e he⟩
  · intro h
    exact ⟨fun e he => ⟨(h e he).number, (h e he).size, (h e he).fits⟩, fun e he => (h e he).above⟩

/-- A call for an entry succeeds exactly if there is room for it. -/
theorem configureEntry_succeeds_iff (e : USBEndpointTable) (s : Firmware) :
    (∃ t, (endpointConfigureEndpoint e.address e.type e.size e.banks).uninterrupted s =
      some (true, t)) ↔ RoomForEntry e s := by
  constructor
  · rintro ⟨t, hcall⟩
    rcases configureEndpoint_cases hcall with ⟨_, hfalse, _⟩ | ⟨hnumber, c, hc, h⟩
    · exact absurd hfalse (by decide)
    obtain ⟨hfits, habove⟩ := h.success.mp rfl
    refine ⟨hnumber, (bank_size_cases e.size).1.mp ?_, hfits, habove⟩
    obtain ⟨sizeMask, hmask, _⟩ := Option.map_eq_some_iff.mp hc
    rw [hmask]
    rfl
  · intro hroom
    obtain ⟨ok, t, hcall⟩ :=
      @configureEndpoint_returns e.address e.type e.banks e.size hroom.size s
    rcases configureEndpoint_cases hcall with ⟨hge, _⟩ | ⟨_, c, hc, h⟩
    · exact absurd hroom.number (UInt8.not_lt.mpr hge)
    obtain rfl : ok = true := h.success.mpr ⟨hroom.fits, hroom.above⟩
    exact ⟨t, hcall⟩

/-- An entry that has been worked through leaves room for the others. -/
theorem configureEntry_roomFor {e : USBEndpointTable} {s t : Firmware}
    (hcall : (endpointConfigureEndpoint e.address e.type e.size e.banks).uninterrupted s =
      some (true, t)) (table : List USBEndpointTable) : RoomFor table t ↔ RoomFor table s := by
  rcases configureEndpoint_cases hcall with ⟨_, hfalse, _⟩ | ⟨_, c, hc, h⟩
  · exact absurd hfalse (by decide)
  · exact h.roomFor_iff (requestedConfig_allocates hc) (h.success.mp rfl).1 table

/-- A table is worked through to its end exactly if there is room for it. -/
theorem configureTable_succeeds_iff (table : List USBEndpointTable) (s : Firmware) :
    (∃ t, (endpointConfigureEndpointTable table).uninterrupted s = some (true, t)) ↔
      RoomFor table s := by
  induction table generalizing s with
  | nil => exact iff_of_true ⟨s, rfl⟩ ⟨by simp [activeEntries], by simp [activeEntries]⟩
  | cons e table ih =>
      by_cases haddress : e.address = 0
      · have hpassed : endpointConfigureEndpointTable (e :: table) =
            endpointConfigureEndpointTable table := by
          rw [endpointConfigureEndpointTable, if_pos haddress]
        rw [hpassed, ih s, roomFor_iff, roomFor_iff, activeEntries_passed haddress]
      have hcons : RoomFor (e :: table) s ↔ RoomForEntry e s ∧ RoomFor table s := by
        rw [roomFor_iff, roomFor_iff, activeEntries_cons haddress, List.forall_mem_cons]
      rw [hcons]
      constructor
      · rintro ⟨t, hrun⟩
        rcases configureTable_cons hrun with ⟨h0, _⟩ | ⟨_, t₁, hcall, hrest⟩
        · exact absurd h0 haddress
        · exact ⟨(configureEntry_succeeds_iff e s).mp ⟨t₁, hcall⟩,
            (configureEntry_roomFor hcall table).mp ((ih t₁).mp ⟨t, hrest⟩)⟩
      · rintro ⟨hentry, hroom⟩
        obtain ⟨t₁, hcall⟩ := (configureEntry_succeeds_iff e s).mpr hentry
        obtain ⟨t, hrest⟩ := (ih t₁).mpr ((configureEntry_roomFor hcall table).mpr hroom)
        refine ⟨t, ?_⟩
        rw [endpointConfigureEndpointTable, if_neg haddress, Prog.uninterrupted_bind, hcall,
          Option.bind_some]
        exact hrest

end Firmware

end AvrJoystick
