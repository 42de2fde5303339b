import DriveBridge.Multiplexer.Crc

/-! The page by which a multiplexer tells and takes the drive that it routes to its host port.
Words are little endian, except the check in the last two bytes. -/
namespace DriveBridge.Multiplexer

/-- Bytes in a routing page. -/
def pageLength : Nat := 512

structure Page where
  raw : Bytes
  length_raw : raw.length = pageLength

namespace Page

def blank : Page := ⟨Bytes.zeros pageLength, by simp⟩

/-- The page that a buffer holds, cut or filled with zeros to its length. -/
def ofBytes (bytes : Bytes) : Page :=
  ⟨Bytes.overlay bytes blank.raw, by rw [Bytes.length_overlay]; exact blank.length_raw⟩

/-- The page with some bytes written from a position on. -/
def write (page : Page) (position : Nat) (value : Bytes) (h : position ≤ pageLength) : Page :=
  ⟨Bytes.splice value position page.raw, by
    rw [Bytes.length_splice _ _ _ (by rw [page.length_raw]; exact h)]; exact page.length_raw⟩

/-- The drive that is routed. -/
def driveSelect (page : Page) : UInt32 := page.raw.le32At 0

def obsolete (page : Page) : UInt32 := page.raw.le32At 4

def modeControl (page : Page) : UInt8 := page.raw.byte 8

def logPassThrough (page : Page) : UInt8 := page.raw.byte 9

def tierId (page : Page) : UInt16 := page.raw.le16At 10

def hardwareVersion (page : Page) : UInt32 := page.raw.le32At 12

def firmwareVersion (page : Page) : UInt32 := page.raw.le32At 16

/-- The name of the variant, eight bytes. -/
def variant (page : Page) : Bytes := (page.raw.drop 20).take 8

/-- The settings of the five ports: one word for each of three speeds, and a reserved one. -/
def portSettings (page : Page) : List (List UInt16) :=
  (List.range 5).map fun port =>
    (List.range 4).map fun word => page.raw.le16At (256 + 8 * port + 2 * word)

/-- The check that the page carries. -/
def storedCrc (page : Page) : UInt16 := page.raw.be16At 510

/-- What the check covers. -/
def contents (page : Page) : Bytes := page.raw.take 510

def setDriveSelect (page : Page) (drive : UInt32) : Page :=
  page.write 0 (Bytes.le32 drive) (by decide)

def setLogPassThrough (page : Page) (value : UInt8) : Page := page.write 9 [value] (by decide)

def setTierId (page : Page) (value : UInt16) : Page :=
  page.write 10 (Bytes.le16 value) (by decide)

/-- Writes the check that belongs to the contents. -/
def updateCrc (page : Page) : Page :=
  page.write 510 (Bytes.be16 (Crc.crc16 page.contents false)) (by decide)

/-- The check over the whole page, which is 0 where the stored check fits the contents. -/
def residue (page : Page) : UInt16 := Crc.crc16 page.raw false

def crcOk (page : Page) : Bool := page.residue == 0

end Page

end DriveBridge.Multiplexer
