import DriveBridge.Nvme.Request
import DriveBridge.Text.Utf8

/-! The start of the Identify Controller data. -/
namespace DriveBridge.Nvme

/-- Bytes of the Identify Controller data that are decoded. -/
def headerLength : Nat := 84

/-- The identity of a controller. Text fields keep their padding here. -/
structure Controller where
  vendorId : UInt16
  subsystemVendorId : UInt16
  serialField : Bytes
  modelField : Bytes
  firmwareField : Bytes
  arbitrationBurst : UInt8
  ieee : Bytes
  multipath : UInt8
  maxTransfer : UInt8
  controllerId : UInt16
  version : UInt32

namespace Controller

/-- Decodes the data. Shorter data has no identity. -/
def ofBytes? (data : Bytes) : Option Controller :=
  if headerLength ≤ data.length then
    some {
      vendorId := data.le16At 0
      subsystemVendorId := data.le16At 2
      serialField := (data.drop 4).take 20
      modelField := (data.drop 24).take 40
      firmwareField := (data.drop 64).take 8
      arbitrationBurst := data.byte 72
      ieee := (data.drop 73).take 3
      multipath := data.byte 76
      maxTransfer := data.byte 77
      controllerId := data.le16At 78
      version := data.le32At 80 }
  else none

def model (controller : Controller) : String := Text.ofField controller.modelField

def serial (controller : Controller) : String := Text.ofField controller.serialField

def firmware (controller : Controller) : String := Text.ofField controller.firmwareField

end Controller

/-- The request that identifies the controller into a cleared buffer. -/
def identifyRequest : Request where
  opcode := Opcode.identify
  cdw10 := identifyController
  buffer := some (Bytes.zeros identifyLength)
  size := identifyLength

end DriveBridge.Nvme
