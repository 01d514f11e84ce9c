/-
Module: EmeraldDb.Proofs.TcpListener
Purpose: The TCP listener listens on the port that its service name spells exactly for the
  names that spell a port.
Trusted boundary: none
Main exports: ListensTruly, PortName, listener_port_iff, badName_listens
-/
import EmeraldDb.Lib.Decimal
import EmeraldDb.Pmd.TcpListener

namespace EmeraldDb

variable {svcName : List UInt8} {port : Nat}

/-! ### The digit loop -/

/-- Over digits the loop computes their value as long as that is an `int`. -/
theorem parsePort_eq (digits : ∀ ch ∈ svcName, Decimal.isDigit ch = true)
    (small : Decimal.value svcName < 2147483648) :
    parsePort svcName = Decimal.value svcName := by
  induction svcName using List.reverseRecOn with
  | nil => rfl
  | append_singleton front ch ih =>
      have last : Decimal.isDigit ch = true := digits ch (by simp)
      have range := Decimal.isDigit_iff.mp last
      rw [Decimal.value_snoc] at small ⊢
      have before := ih (fun other member => digits other (List.mem_append_left _ member))
        (by omega)
      have isDig : 48 ≤ ch ∧ ch ≤ 57 := by simpa [Decimal.isDigit] using last
      rw [parsePort] at before ⊢
      rw [List.foldl_append, List.foldl_cons, List.foldl_nil, before, if_pos isDig]
      unfold Decimal.digitValue at small ⊢
      have tens : toI32 ((Decimal.value front : Int) * 10) = Decimal.value front * 10 :=
        toI32_of_lt (by omega) (by omega)
      rw [tens, toI32_of_lt (by omega) (by omega)]
      omega

/-! ### The ports that are listened on -/

theorem masterLoop_listens (rounds : List AcceptRound) :
    .listens port ∉ (masterLoop rounds).1 := by
  induction rounds with
  | nil => exact List.not_mem_nil
  | cons round rounds ih =>
      unfold masterLoop
      split_ifs
      · exact List.not_mem_nil
      · exact ih
      · exact List.not_mem_nil
      · exact List.not_mem_nil
      · exact List.not_mem_cons_of_ne_of_not_mem (by simp) ih
      · exact List.not_mem_cons_of_ne_of_not_mem (by simp) ih

/-- One turn listens on the port of the name. -/
theorem listenOnce_listens {pass : ListenerPass}
    (listens : .listens port ∈ (listenOnce svcName pass).1) :
    port = sinPort (parsePort svcName) := by
  unfold listenOnce at listens
  split_ifs at listens
  · cases listens
  · cases listens
  · exact ListenerEvent.listens.inj (List.mem_singleton.mp listens)
  · rcases List.mem_cons.mp listens with same | later
    · exact ListenerEvent.listens.inj same
    · exact absurd later (masterLoop_listens pass.rounds)

/-- And so does every turn after it. -/
theorem retryLoop_listens {retry : Nat} {passes : List ListenerPass}
    (listens : .listens port ∈ (retryLoop svcName retry passes).1) :
    port = sinPort (parsePort svcName) := by
  induction passes generalizing retry with
  | nil => cases listens
  | cons pass passes ih =>
      have once := @listenOnce_listens svcName port pass
      unfold retryLoop at listens
      split at listens
      next => cases listens
      next =>
        split at listens
        next events turn =>
          rw [turn] at once
          exact once listens
        next events rc turn =>
          rw [turn] at once
          exact once listens
        next events turn =>
          rw [turn] at once
          rcases List.mem_append.mp listens with here | later
          · exact once here
          · exact ih later

/-! ### Names of ports -/

/-- Whatever happens around it, the listener listens on ports only that its service name
spells. -/
def ListensTruly (svcName : CharArray niMaxServ) : Prop :=
  ∀ passes port, .listens port ∈ (pmdTcpListenerEntryPoint svcName passes).1 →
    Decimal.Spells svcName.text port ∧ port ≤ 65535

/-- The name of a port. -/
structure PortName (name : List UInt8) : Prop where
  nonempty : name ≠ []
  digits : ∀ ch ∈ name, Decimal.isDigit ch = true
  range : Decimal.value name ≤ 65535

/-- A turn in which everything succeeds. -/
def grantedPass : ListenerPass := ⟨false, edbOk, edbOk, edbOk, [], edbOk⟩

theorem grantedPass_listens (svcName : CharArray niMaxServ) :
    .listens (sinPort (parsePort svcName.text)) ∈
      (pmdTcpListenerEntryPoint svcName [grantedPass]).1 := by
  exact List.mem_cons_self

/-- The name of a port is parsed to that port. -/
theorem PortName.sinPort_eq {name : List UInt8} (named : PortName name) :
    sinPort (parsePort name) = Decimal.value name := by
  have range := named.range
  rw [parsePort_eq named.digits (by omega), sinPort, toU32_of_lt (by omega)]
  omega

theorem ListensTruly.portName {svcName : CharArray niMaxServ} (truly : ListensTruly svcName) :
    PortName svcName.text := by
  obtain ⟨spelled, range⟩ := truly _ _ (grantedPass_listens svcName)
  obtain ⟨nonempty, digits, value⟩ := Decimal.spells_iff.mp spelled
  exact ⟨nonempty, digits, value ▸ range⟩

/-- The listener keeps to its service name exactly if that is the name of a port. -/
theorem listener_port_iff (svcName : CharArray niMaxServ) :
    ListensTruly svcName ↔ PortName svcName.text := by
  constructor
  · exact fun truly => truly.portName
  · intro named passes port listens
    obtain rfl := retryLoop_listens listens
    rw [named.sinPort_eq]
    exact ⟨Decimal.spells_iff.mpr ⟨named.nonempty, named.digits, rfl⟩, named.range⟩

/-- The names `80a0` and `65537` make it listen on the ports 800 and 1. -/
theorem badName_listens :
    ∃ letter large : CharArray niMaxServ, letter.text = [56, 48, 97, 48] ∧
      large.text = [54, 53, 53, 51, 55] ∧
      (pmdTcpListenerEntryPoint letter [grantedPass]).1 = [.listens 800] ∧
      (pmdTcpListenerEntryPoint large [grantedPass]).1 = [.listens 1] ∧
      ¬ ListensTruly letter ∧ ¬ ListensTruly large := by
  have letter := @CharArray.text_strcpy niMaxServ (.zeros niMaxServ) [56, 48, 97, 48]
    (by decide) (by decide)
  have large := @CharArray.text_strcpy niMaxServ (.zeros niMaxServ) [54, 53, 53, 51, 55]
    (by decide) (by decide)
  refine ⟨_, _, letter, large, ?_, ?_, fun truly => ?_, fun truly => ?_⟩
  · rw [pmdTcpListenerEntryPoint, letter]
    rfl
  · rw [pmdTcpListenerEntryPoint, large]
    rfl
  · exact absurd (letter ▸ truly.portName.digits) (by decide)
  · exact absurd (large ▸ truly.portName.range) (by decide)

end EmeraldDb
