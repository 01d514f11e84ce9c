/-
Module: EmeraldDb.Pmd.Options
Purpose: pmdOptions: how the settings of the server come from the command line, the
  configuration file and the defaults.
Trusted boundary: human-reviewed spec; boost::program_options delivers the option sets
  through arguments
Main exports: VariablesMap, PmdOptions, importVM, readCmd, readConfigureFile,
  PmdOptions.init
-/
import EmeraldDb.Core
import EmeraldDb.Lib.CString

namespace EmeraldDb

/-- `OSS_MAX_PATHSIZE`, which is `PATH_MAX`. -/
def ossMaxPathSize : Nat := 4096

/-- `NI_MAXSERV`. -/
def niMaxServ : Nat := 32

/-- `"./" CONFFILENAME`, the text `./edb.conf`. -/
def confFileName : List UInt8 := [46, 47, 101, 100, 98, 46, 99, 111, 110, 102]

/-- `"./" LOGFILENAME`, the text `./diag.log`. -/
def logFileName : List UInt8 := [46, 47, 100, 105, 97, 103, 46, 108, 111, 103]

/-- `"./" DBFILENAME`, the text `./edb.data`. -/
def dbFileName : List UInt8 := [46, 47, 101, 100, 98, 46, 100, 97, 116, 97]

/-- `SVCNAME`, the text `48127`. -/
def svcNameDefault : List UInt8 := [52, 56, 49, 50, 55]

/-- `NUMPOOL`. -/
def numPool : Int := 5

/-- `po::variables_map`: the options that were given, and their values. -/
structure VariablesMap where
  help : Bool
  dbPath : Option (List UInt8)
  svcName : Option (List UInt8)
  maxPool : Option UInt32
  logPath : Option (List UInt8)
  confPath : Option (List UInt8)

/-- A map without options. -/
def VariablesMap.empty : VariablesMap := ⟨false, none, none, none, none, none⟩

/-- `pmdOptions`. -/
structure PmdOptions where
  dbPath : CharArray ossMaxPathSize
  logPath : CharArray ossMaxPathSize
  confPath : CharArray ossMaxPathSize
  svcName : CharArray niMaxServ
  maxPool : Int

/-- The constructor. -/
def PmdOptions.constructed : PmdOptions where
  dbPath := .zeros ossMaxPathSize
  logPath := .zeros ossMaxPathSize
  confPath := .zeros ossMaxPathSize
  svcName := .zeros niMaxServ
  maxPool := numPool

/-- What `importVM` does with one text option: the value if it was given, else the
default if defaults are asked for. -/
def importText {size : Nat} (value : Option (List UInt8)) (isDefault : Bool)
    (default : List UInt8) (fits : default.length ≤ size) (buffer : CharArray size) :
    CharArray size :=
  match value with
  | some value => buffer.strncpy (cString value)
  | none => if isDefault then buffer.strcpy default fits else buffer

/-- `importVM`. -/
def importVM (vm : VariablesMap) (isDefault : Bool) (options : PmdOptions) : PmdOptions where
  confPath := importText vm.confPath isDefault confFileName (by decide) options.confPath
  logPath := importText vm.logPath isDefault logFileName (by decide) options.logPath
  dbPath := importText vm.dbPath isDefault dbFileName (by decide) options.dbPath
  svcName := importText vm.svcName isDefault svcNameDefault (by decide) options.svcName
  maxPool :=
    match vm.maxPool with
    | some value => toI32 value.toNat
    | none => if isDefault then numPool else options.maxPool

/-- The exceptions of boost::program_options that are caught. -/
inductive PoError where
  | readingFile
  | unknownOption
  | invalidOptionValue
  | error

/-- `readCmd` on what boost makes of the command line. -/
def readCmd : Except PoError VariablesMap → Except ReturnCode VariablesMap
  | .ok vm => .ok vm
  | .error _ => .error edbInvalidArg

/-- `readConfigureFile`; `parse` is what boost makes of the file of that name. -/
def readConfigureFile (parse : List UInt8 → Except PoError VariablesMap)
    (path : List UInt8) : Except ReturnCode VariablesMap :=
  let conf := (CharArray.zeros ossMaxPathSize).strncpy (cString path)
  match parse conf.text with
  | .ok vm => .ok vm
  | .error .readingFile => .error edbIo
  | .error _ => .error edbInvalidArg

/-- What `init` reads beside the command line: the file that `confpath` names, if any. -/
def VariablesMap.configuration (vm : VariablesMap)
    (parse : List UInt8 → Except PoError VariablesMap) : Except ReturnCode VariablesMap :=
  match vm.confPath with
  | some path => readConfigureFile parse path
  | none => .ok .empty

/-- `init`.  Both calls of `importVM` leave `isDefault` at its default. -/
def PmdOptions.init (cmd : Except PoError VariablesMap)
    (parse : List UInt8 → Except PoError VariablesMap) (options : PmdOptions) :
    ReturnCode × PmdOptions :=
  match readCmd cmd with
  | .error rc => (rc, options)
  | .ok vm =>
      if vm.help then (edbPmdHelpOnly, options)
      else
        match vm.configuration parse with
        | .error rc => (rc, options)
        | .ok vm2 => (edbOk, importVM vm true (importVM vm2 true options))

end EmeraldDb
