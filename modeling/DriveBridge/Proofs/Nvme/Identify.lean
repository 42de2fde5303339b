import DriveBridge.Nvme.Identify
import DriveBridge.Proofs.Text.Utf8

/-! The texts in the identity of a controller. Each is the text of its field without the padding
around it, and whether there is any is told by the bytes of the field, however they are encoded. -/
namespace DriveBridge

namespace Text

/-- A text that was read from a padded field. -/
structure Unpads (field : Bytes) (text : String) : Prop where
  isEmpty_iff : text.isEmpty = true ↔ ∀ byte ∈ field, IsPad byte
  head : ∀ c, text.toList.head? = some c → c ≠ ' ' ∧ c ≠ '\x00'
  last : ∀ c, text.toList.getLast? = some c → c ≠ ' ' ∧ c ≠ '\x00'
  ascii : (∀ byte ∈ field, byte < 0x80) →
    text.toList = ((field.dropWhile (IsPad ·)).rdropWhile (IsPad ·)).map charOf
  /-- A field that encodes a text holds that text, without the padding around it. -/
  encoded : ∀ whole : List Char, field = whole.flatMap String.utf8EncodeChar →
    text.toList = (whole.dropWhile isPadding).rdropWhile isPadding

theorem unpads_ofField (field : Bytes) : Unpads field (ofField field) := by
  have hText : (ofField field).toList = trimPadding (lossyChars field) := String.toList_ofList
  have hShown : ∀ c, isPadding c = false → c ≠ ' ' ∧ c ≠ '\x00' := by
    intro c hNot
    simpa [isPadding] using hNot
  constructor
  · exact ofField_isEmpty_iff field
  · intro c hHead
    rw [hText] at hHead
    exact hShown c (isPadding_head?_trimPadding hHead)
  · intro c hLast
    rw [hText] at hLast
    exact hShown c (isPadding_getLast?_trimPadding hLast)
  · intro hAscii
    rw [hText, lossyChars_of_ascii hAscii, trimPadding_map_charOf]
  · intro whole hWhole
    have hRead : lossyChars field = whole := by
      have hAppend := lossyChars_encoded_append whole []
      rwa [List.append_nil, ← hWhole, lossyChars, List.append_nil] at hAppend
    rw [hText, hRead]
    rfl

end Text

namespace Nvme.Controller

/-- Data of sufficient length has an identity, and the three texts in it are those of its fields. -/
theorem texts_unpadded {data : Bytes} (hData : headerLength ≤ data.length) :
    ∃ controller, ofBytes? data = some controller ∧
      Text.Unpads ((data.drop 4).take 20) controller.serial ∧
      Text.Unpads ((data.drop 24).take 40) controller.model ∧
      Text.Unpads ((data.drop 64).take 8) controller.firmware := by
  refine ⟨_, if_pos hData, ?_, ?_, ?_⟩
  · exact Text.unpads_ofField _
  · exact Text.unpads_ofField _
  · exact Text.unpads_ofField _

/-- The start of a character that is cut off by padding names a model. -/
theorem cut_character_names_model :
    headerLength ≤ (Bytes.zeros 24 ++ [0x20, 0xf0, 0x9f] ++ Bytes.zeros 57).length ∧
      ∃ controller,
        ofBytes? (Bytes.zeros 24 ++ [0x20, 0xf0, 0x9f] ++ Bytes.zeros 57) = some controller ∧
          controller.serial.isEmpty = true ∧ controller.model.isEmpty = false := by
  have hData : headerLength ≤ (Bytes.zeros 24 ++ [0x20, 0xf0, 0x9f] ++ Bytes.zeros 57).length := by
    simp [headerLength]
  have hSerialField : ((Bytes.zeros 24 ++ [0x20, 0xf0, 0x9f] ++ Bytes.zeros 57).drop 4).take 20 =
      Bytes.zeros 20 := rfl
  have hModelField : ((Bytes.zeros 24 ++ [0x20, 0xf0, 0x9f] ++ Bytes.zeros 57).drop 24).take 40 =
      [0x20, 0xf0, 0x9f] ++ Bytes.zeros 37 := rfl
  obtain ⟨controller, hController, hSerial, hModel, -⟩ := texts_unpadded hData
  rw [hSerialField] at hSerial
  rw [hModelField] at hModel
  refine ⟨hData, controller, hController, ?_, ?_⟩
  · apply hSerial.isEmpty_iff.mpr
    intro byte hByte
    exact Or.inr (List.eq_of_mem_replicate hByte)
  · rw [Bool.eq_false_iff, Ne, hModel.isEmpty_iff]
    intro hPadding
    have hLead : Text.IsPad 0xf0 := hPadding 0xf0 (by simp)
    exact absurd hLead (by decide)

end Nvme.Controller

end DriveBridge
