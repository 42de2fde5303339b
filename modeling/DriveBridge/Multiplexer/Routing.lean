import DriveBridge.Ata.Request
import DriveBridge.Multiplexer.Page
import DriveBridge.Text.Hex

/-! How a multiplexer is told to route another drive: its page is read, changed, written back
and read once more. -/
namespace DriveBridge.Multiplexer

/-- The log in which the page is found. -/
def logAddress : UInt8 := 0xc0

/-- The highest drive number. -/
def lastDrive : UInt32 := 3

/-- The request that reads the page. -/
def readRequest : Ata.Request :=
  let start : Ata.Request := {
    registers := ((Ata.RegisterFile.empty.set .command Ata.Opcode.readLogExt).setWide
      .features 0) }
  let sized := start.setDataInExtended Page.blank.raw 1
  { sized with registers := (sized.registers.set .lbaLow logAddress).setWide .lbaMid 0 }

/-- The request that writes a page. -/
def writeRequest (page : Page) : Ata.Request :=
  let start : Ata.Request := {
    registers := Ata.RegisterFile.empty.set .command Ata.Opcode.writeLogExt }
  let sized := start.setData .dataOut page.raw 1
  { sized with registers := (sized.registers.set .lbaLow logAddress).setWide .lbaMid 0 }

/-- Reads the page. What the device left out of it is 0. -/
def readPage : Ata.Session (Except Failure Page) := do
  let answer ← Ata.send readRequest
  match answer.result with
  | .error failure => return .error failure
  | .ok () => return .ok (Page.ofBytes (answer.buffer.getD []))

/-- The page to be written, given the one that was read. A page whose check fails is not
trusted and gives way to a blank one. Two fields are cleared, as otherwise the drives that are
not routed would abort. -/
def revised (page : Page) (drive : UInt32) : Page :=
  let base := if page.crcOk then page else Page.blank
  (((base.setDriveSelect drive).setLogPassThrough 0).setTierId 0).updateCrc

def wrongDrive (found expected : UInt32) : Failure :=
  let found := Text.hexCapital 8 found.toNat
  let expected := Text.hexCapital 8 expected.toNat
  ⟨.transfer, s!"intelliprop: Current drive select val(0x{found}) is not expected(0x{expected})"⟩

/-- A step of the routing that failed, with the reason that the device gave. -/
def stepFailed (step : String) (failure : Failure) : Failure :=
  ⟨.transfer, "intelliprop: " ++ step ++ " failed: " ++ failure.message⟩

/-- Writes a page and makes sure that it has taken effect. -/
def writePage (page : Page) : Ata.Session (Except Failure Unit) := do
  let written ← Ata.send (writeRequest page)
  match written.result with
  | .error failure => return .error (stepFailed "Write Log" failure)
  | .ok () =>
    match ← readPage with
    | .error failure => return .error (stepFailed "Secondary Read Log" failure)
    | .ok check =>
        if check.driveSelect = page.driveSelect then return .ok ()
        else return .error (wrongDrive check.driveSelect page.driveSelect)

/-- Routes a drive to the host port. -/
def route (drive : UInt32) : Ata.Session (Except Failure Unit) := do
  match ← readPage with
  | .error failure => return .error (stepFailed "Initial Read Log" failure)
  | .ok page =>
    if !page.crcOk then
      let residue := Text.hex 4 page.residue.toNat
      Dialogue.log .warn s!"intelliprop: received log crc(0x{residue}) is invalid"
    let number := Text.hex 8 drive.toNat
    Dialogue.log .debug s!"intelliprop: change to port 0x{number}"
    let next := revised page drive
    if next.crcOk then writePage next
    else
      let residue := Text.hexCapital 4 next.residue.toNat
      return .error ⟨.transfer, s!"intelliprop: Re-calculated log crc(0x{residue}) is invalid!"⟩

end DriveBridge.Multiplexer
