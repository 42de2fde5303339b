import DriveBridge.Chain.Device
import DriveBridge.Text.Numeral

/-! The language of device types. A type names a translator with its options and, after a plus
sign, the type of the device below. Each reader here takes the part before the plus sign and
returns the translator it names, or the failure that tells what was expected. -/
namespace DriveBridge.Factory

open Text Chain

/-- The parts of a type before and after its first plus sign. -/
def splitBase (type : List Char) : List Char × List Char :=
  (type.takeWhile (· ≠ '+'), (type.dropWhile (· ≠ '+')).drop 1)

/-- The number of an option such as `,12`. -/
def decimalOption? (text : List Char) : Option UInt32 :=
  (after? [','] text).bind (numeral? 10)

/-- The number of an option such as `,0x24`. -/
def hexOption? (text : List Char) : Option UInt32 :=
  (after? [',', '0', 'x'] text).bind (numeral? 16)

/-- Takes an option off the start of a text, and tells whether it was there. -/
def takeOption (option text : List Char) : Bool × List Char :=
  match after? option text with
  | some rest => (true, rest)
  | none => (false, text)

def startsWith (start text : List Char) : Bool := (after? start text).isSome

/-- The type is `sat`, alone or before options or a base. -/
def isSatType (type : List Char) : Bool :=
  match after? "sat".toList type with
  | some [] => true
  | some (c :: _) => c == ',' || c == '+'
  | none => false

/-- A translator from ATA to SCSI. -/
inductive AtaTranslator where
  | sat (mode : SatMode) (length : Ata.Sat.Length)
  | bridge (encoding : Encoding)

/-- The command length that an option asks for. The number 0 stands for the default. -/
def satLength? (default : Ata.Sat.Length) (number : UInt32) : Option Ata.Sat.Length :=
  if number = 0 then some default
  else if number = 12 then some .short
  else if number = 16 then some .long
  else none

def satOptionFailure : Failure :=
  ⟨.malformed, "Option '-d sat[,auto][,N]' requires N to be 0, 12 or 16"⟩

def cypressOptionFailure : Failure :=
  ⟨.malformed, "Option '-d usbcypress,<n>' requires <n> to be an hexadecimal number " ++
    "between 0x0 and 0xff"⟩

def jmicronOptionFailure : Failure :=
  ⟨.malformed, "Option '-d usbjmicron[,p][,x],<n>' requires <n> to be 0 or 1"⟩

def routedOptionFailure : Failure :=
  ⟨.malformed, "Option '-d intelliprop,N' must have 0 <= N <= 3"⟩

/-- A failure whose message ends with a quoted type. -/
def typeFailure (lead : String) (type : List Char) : Failure :=
  ⟨.malformed, lead ++ " '" ++ String.ofList type ++ "'"⟩

/-- Options of `sat`: `,auto`, then the command length. -/
def satOptions (default : Ata.Sat.Length) (options : List Char) :
    Except Failure AtaTranslator :=
  let (auto, rest) := takeOption ",auto".toList options
  let length := if rest.isEmpty then some default
    else (decimalOption? rest).bind (satLength? default)
  match length with
  | some length => .ok (.sat (if auto then .auto else .always) length)
  | none => .error satOptionFailure

/-- Options of `usbcypress`: the signature. -/
def cypressOptions (options : List Char) : Except Failure AtaTranslator :=
  let signature := if options.isEmpty then some Ata.Cypress.defaultSignature.toUInt32
    else hexOption? options
  match signature with
  | some signature =>
      if signature ≤ 0xff then .ok (.bridge (.cypress signature.toUInt8))
      else .error cypressOptionFailure
  | none => .error cypressOptionFailure

/-- Options of `usbjmicron`: `,p` for the trailer, `,x` for 48-bit commands, then the port. -/
def jmicronOptions (options : List Char) : Except Failure AtaTranslator :=
  let (trailer, rest) := takeOption ",p".toList options
  let (extended, rest) := takeOption ",x".toList rest
  if rest.isEmpty then .ok (.bridge (.jmicron (.ofOptions trailer extended none)))
  else match (decimalOption? rest).bind Ata.JMicron.Port.ofIndex? with
    | some port => .ok (.bridge (.jmicron (.ofOptions trailer extended (some port))))
    | none => .error jmicronOptionFailure

/-- The translator from ATA to SCSI that a type names. -/
def ataTranslator (default : Ata.Sat.Length) (type : List Char) :
    Except Failure AtaTranslator :=
  match after? "sat".toList type with
  | some options => satOptions default options
  | none =>
    if type = "scsi".toList then .ok (.sat .never default)
    else match after? "usbcypress".toList type with
      | some options => cypressOptions options
      | none => match after? "usbjmicron".toList type with
        | some options => jmicronOptions options
        | none =>
            if type = "usbprolific".toList then .ok (.bridge .prolific)
            else if type = "usbsunplus".toList then .ok (.bridge .sunplus)
            else .error (typeFailure "Unknown USB device type" type)

/-- A translator from NVMe to SCSI. -/
structure NvmeTranslator where
  vendor : NvmeVendor
  nsid : UInt32
  fallback : Option Ata.Sat.Length

/-- The translator from NVMe to SCSI of a name, which is what a type holds besides its ending. -/
def namedNvme (type name : List Char) (fallback : Option Ata.Sat.Length) :
    Except Failure NvmeTranslator :=
  if name = "sntasmedia".toList then .ok ⟨.asmedia, Nvme.broadcast, fallback⟩
  else if name = "sntrealtek".toList then .ok ⟨.realtek, Nvme.broadcast, fallback⟩
  else match after? "sntjmicron".toList name with
    | some [] => .ok ⟨.jmicron, Nvme.broadcast, fallback⟩
    | some options =>
        match hexOption? options with
        | some nsid => .ok ⟨.jmicron, nsid, fallback⟩
        | none => .error (typeFailure "Invalid NVMe namespace id in" name)
    | none => .error (typeFailure "Unknown SNT device type" type)

/-- The translator from NVMe to SCSI that a type names. The ending `/sat` allows for a SATA
drive. -/
def nvmeTranslator (default : Ata.Sat.Length) (type : List Char) :
    Except Failure NvmeTranslator :=
  match before? "/sat".toList type with
  | some name => namedNvme type name (some default)
  | none => namedNvme type type none

/-- The drive that a type routes. -/
def routedDrive (type : List Char) : Except Failure UInt32 :=
  match (after? "intelliprop".toList type).bind decimalOption? with
  | some drive =>
      if drive ≤ Multiplexer.lastDrive then .ok drive else .error routedOptionFailure
  | none => .error routedOptionFailure

end DriveBridge.Factory
