/-
Module: EmeraldDb.Proofs.Options
Purpose: Where the effective settings come from, and when the configuration file is
  lost.
Trusted boundary: none
Main exports: VariablesMap.Fits, Precedence, NothingLost, options_precedence_iff,
  configuredService_lost
-/
import EmeraldDb.Pmd.Options

namespace EmeraldDb

/-! ### One setting -/

/-- The given text, else the default. -/
theorem importText_text {size : Nat} {value : Option (List UInt8)} {default : List UInt8}
    (fits : default.length ≤ size) (plain : 0 ∉ default)
    (within : ∀ text ∈ value, (cString text).length ≤ size) (buffer : CharArray size) :
    (importText value true default fits buffer).text = (value.map cString).getD default := by
  cases value with
  | none => exact buffer.text_strcpy plain fits
  | some value =>
      have short := within value rfl
      rw [importText, CharArray.text_strncpy _ (zero_notMem_cString value),
        List.take_of_length_le short]
      rfl

/-- The value of the first source, else of the second, else the default. -/
def preferred {α : Type} (first second : Option α) (default : α) : α :=
  (first.or second).getD default

/-- The second source does not matter: the first one gives the setting, or the second one
does not give anything but the default. -/
def Unaffected {α : Type} (first second : Option α) (default : α) : Prop :=
  first ≠ none ∨ ∀ value ∈ second, value = default

/-- What is left when the first source alone is looked at. -/
theorem getD_eq_preferred_iff {α : Type} (first second : Option α) (default : α) :
    first.getD default = preferred first second default ↔ Unaffected first second default := by
  cases first with
  | some value => exact iff_of_true rfl (Or.inl (Option.some_ne_none value))
  | none =>
      cases second with
      | none => exact iff_of_true rfl (Or.inr fun value member => absurd member nofun)
      | some value =>
          constructor
          · intro same
            right
            rintro _ ⟨⟩
            exact same.symm
          · rintro (given | same)
            · exact absurd rfl given
            · exact (same value rfl).symm

/-! ### All settings -/

/-- Every text option fits the buffer it is copied to. -/
structure VariablesMap.Fits (vm : VariablesMap) : Prop where
  dbPath : ∀ text ∈ vm.dbPath, (cString text).length ≤ ossMaxPathSize
  logPath : ∀ text ∈ vm.logPath, (cString text).length ≤ ossMaxPathSize
  svcName : ∀ text ∈ vm.svcName, (cString text).length ≤ niMaxServ

/-- Each effective setting is the command line's, else the configuration file's, else the
built-in one.  The pool size is compared as the `unsigned int` the options hold. -/
structure Precedence (vm vm2 : VariablesMap) (options : PmdOptions) : Prop where
  dbPath : options.dbPath.text =
    preferred (vm.dbPath.map cString) (vm2.dbPath.map cString) dbFileName
  logPath : options.logPath.text =
    preferred (vm.logPath.map cString) (vm2.logPath.map cString) logFileName
  svcName : options.svcName.text =
    preferred (vm.svcName.map cString) (vm2.svcName.map cString) svcNameDefault
  maxPool : toU32 options.maxPool =
    preferred (vm.maxPool.map UInt32.toNat) (vm2.maxPool.map UInt32.toNat) (toU32 numPool)

/-- Each setting of the configuration file is given on the command line as well, or is
the built-in one. -/
structure NothingLost (vm vm2 : VariablesMap) : Prop where
  dbPath : Unaffected (vm.dbPath.map cString) (vm2.dbPath.map cString) dbFileName
  logPath : Unaffected (vm.logPath.map cString) (vm2.logPath.map cString) logFileName
  svcName : Unaffected (vm.svcName.map cString) (vm2.svcName.map cString) svcNameDefault
  maxPool : Unaffected (vm.maxPool.map UInt32.toNat) (vm2.maxPool.map UInt32.toNat)
    (toU32 numPool)

theorem toU32_toI32 (x : Int) : toU32 (toI32 x) = toU32 x := by
  unfold toU32 toI32
  omega

/-- An import with defaults sets the pool size whatever it was. -/
theorem importVM_maxPool (vm : VariablesMap) (options : PmdOptions) :
    toU32 (importVM vm true options).maxPool =
      (vm.maxPool.map UInt32.toNat).getD (toU32 numPool) := by
  rw [importVM]
  cases vm.maxPool with
  | none => rfl
  | some value =>
      have small : value.toNat < 4294967296 := value.toNat_lt
      exact (toU32_toI32 value.toNat).trans (toU32_of_lt small)

/-- What `init` leaves once both sources are read. -/
theorem init_ok {vm vm2 : VariablesMap} {parse : List UInt8 → Except PoError VariablesMap}
    {options : PmdOptions} (second : vm.configuration parse = .ok vm2)
    (ran : PmdOptions.init (.ok vm) parse .constructed = (edbOk, options)) :
    options = importVM vm true (importVM vm2 true .constructed) := by
  unfold PmdOptions.init at ran
  rw [readCmd] at ran
  dsimp only at ran
  cases asked : vm.help with
  | true =>
      rw [if_pos asked, Prod.mk.injEq] at ran
      exact absurd ran.left (by decide)
  | false =>
      rw [if_neg (Bool.eq_false_iff.mp asked), second] at ran
      exact (congrArg Prod.snd ran).symm

/-- The settings follow the precedence exactly when the configuration file says nothing
that the command line leaves open, beyond the defaults. -/
theorem options_precedence_iff {vm vm2 : VariablesMap}
    {parse : List UInt8 → Except PoError VariablesMap} {options : PmdOptions}
    (fits : vm.Fits) (second : vm.configuration parse = .ok vm2)
    (ran : PmdOptions.init (.ok vm) parse .constructed = (edbOk, options)) :
    Precedence vm vm2 options ↔ NothingLost vm vm2 := by
  obtain rfl := init_ok second ran
  have db : (importVM vm true (importVM vm2 true .constructed)).dbPath.text =
      (vm.dbPath.map cString).getD dbFileName :=
    importText_text _ (by decide) fits.dbPath _
  have log : (importVM vm true (importVM vm2 true .constructed)).logPath.text =
      (vm.logPath.map cString).getD logFileName :=
    importText_text _ (by decide) fits.logPath _
  have svc : (importVM vm true (importVM vm2 true .constructed)).svcName.text =
      (vm.svcName.map cString).getD svcNameDefault :=
    importText_text _ (by decide) fits.svcName _
  have pool := importVM_maxPool vm (importVM vm2 true .constructed)
  constructor
  · intro precedence
    constructor
    · exact (getD_eq_preferred_iff _ _ _).mp (db.symm.trans precedence.dbPath)
    · exact (getD_eq_preferred_iff _ _ _).mp (log.symm.trans precedence.logPath)
    · exact (getD_eq_preferred_iff _ _ _).mp (svc.symm.trans precedence.svcName)
    · exact (getD_eq_preferred_iff _ _ _).mp (pool.symm.trans precedence.maxPool)
  · intro kept
    constructor
    · exact db.trans ((getD_eq_preferred_iff _ _ _).mpr kept.dbPath)
    · exact log.trans ((getD_eq_preferred_iff _ _ _).mpr kept.logPath)
    · exact svc.trans ((getD_eq_preferred_iff _ _ _).mpr kept.svcName)
    · exact pool.trans ((getD_eq_preferred_iff _ _ _).mpr kept.maxPool)

/-! ### A file that is read and forgotten -/

/-- The command line `--confpath e`. -/
def onlyConfPath : VariablesMap := { VariablesMap.empty with confPath := some [101] }

/-- The file `svcname=50000`. -/
def givesService : VariablesMap :=
  { VariablesMap.empty with svcName := some [53, 48, 48, 48, 48] }

/-- Every configuration file reads like this one. -/
def parsesService (_ : List UInt8) : Except PoError VariablesMap := .ok givesService

/-- The server listens on 48127, not on the 50000 of its configuration file. -/
theorem configuredService_lost :
    onlyConfPath.configuration parsesService = .ok givesService ∧
      (PmdOptions.init (.ok onlyConfPath) parsesService .constructed).1 = edbOk ∧
      (PmdOptions.init (.ok onlyConfPath) parsesService .constructed).2.svcName.text =
        svcNameDefault ∧
      ¬ Precedence onlyConfPath givesService
        (PmdOptions.init (.ok onlyConfPath) parsesService .constructed).2 := by
  have service : (PmdOptions.init (.ok onlyConfPath) parsesService .constructed).2.svcName.text =
      svcNameDefault := CharArray.text_strcpy _ (by decide) (by decide)
  refine ⟨rfl, rfl, service, ?_⟩
  intro precedence
  exact absurd (service.symm.trans precedence.svcName) (by decide)

/-- The command line `--confpath e --svcname 50000`. -/
def serviceOnCommandLine : VariablesMap :=
  { onlyConfPath with svcName := some [53, 48, 48, 48, 48] }

theorem options_precedence_commandLine :
    Precedence serviceOnCommandLine givesService
        (PmdOptions.init (.ok serviceOnCommandLine) parsesService .constructed).2 ↔
      NothingLost serviceOnCommandLine givesService := by
  have fits : serviceOnCommandLine.Fits := by
    constructor
    · exact nofun
    · exact nofun
    · rintro _ ⟨⟩
      decide
  have second : serviceOnCommandLine.configuration parsesService = .ok givesService := rfl
  exact options_precedence_iff fits second rfl

end EmeraldDb
