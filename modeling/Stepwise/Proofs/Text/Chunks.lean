import Mathlib.Data.List.Forall2
import Stepwise.Proofs.Text.Encoding
import Stepwise.Text.Buffer

/-!
# Texts that arrive in chunks

A buffer takes the chunks that are texts by themselves and refuses the others. Main statement:
its content is made of the former, and a text that is cut into chunks arrives exactly if it is
cut between its characters.
-/

namespace Stepwise.Text

def bytes (text : String) : List UInt8 :=
  text.toByteArray.data.toList

/-- Whether bytes are a text by themselves. -/
def IsText (chunk : List UInt8) : Prop :=
  chunk.toByteArray.IsValidUTF8

instance : DecidablePred IsText := fun chunk =>
  inferInstanceAs (Decidable chunk.toByteArray.IsValidUTF8)

/-- Writes chunks one after another, and tells what each of them was answered. -/
def Buffer.writeAll (buffer : Buffer) :
    List (List UInt8) → Buffer × List (Except WriteFault Nat)
  | [] => (buffer, [])
  | chunk :: rest =>
      let (after, answer) := buffer.write chunk
      let (last, answers) := after.writeAll rest
      (last, answer :: answers)

variable {text : String} {chunk : List UInt8} {buffer : Buffer}

theorem toByteArray_bytes (text : String) : (bytes text).toByteArray = text.toByteArray := by
  rw [bytes, ByteArray.ext_iff, List.data_toByteArray, Array.toArray_toList]

theorem bytes_injective : Function.Injective bytes := by
  intro a b h
  rw [← String.toByteArray_inj, ← toByteArray_bytes, h, toByteArray_bytes]

theorem bytes_append (a b : String) : bytes (a ++ b) = bytes a ++ bytes b := by
  rw [bytes, String.toByteArray_append, ByteArray.toList_data_append]
  rfl

theorem bytes_ofList (cs : List Char) :
    bytes (String.ofList cs) = cs.flatMap String.utf8EncodeChar := by
  rw [bytes, String.toByteArray_ofList, List.utf8Encode, List.toList_data_toByteArray]

/-- Bytes are a text if they are the bytes of one. -/
theorem isText_iff : IsText chunk ↔ ∃ text, bytes text = chunk := by
  constructor
  · rintro h
    refine ⟨⟨chunk.toByteArray, h⟩, ?_⟩
    rw [bytes, List.toList_data_toByteArray]
  · rintro ⟨text, rfl⟩
    rw [IsText, toByteArray_bytes]
    exact text.isValidUTF8

theorem isText_flatten {chunks : List (List UInt8)} (h : ∀ chunk ∈ chunks, IsText chunk) :
    IsText chunks.flatten := by
  induction chunks with
  | nil => exact ByteArray.isValidUTF8_empty
  | cons chunk rest ih =>
      rw [List.flatten_cons, IsText, List.toByteArray_append]
      exact (h chunk List.mem_cons_self).append
        (ih fun other hother => h other (List.mem_cons_of_mem chunk hother))

/-- What follows a text in a text is one. -/
theorem isText_of_append {front back : List UInt8} (hfront : IsText front)
    (h : IsText (front ++ back)) : IsText back := by
  obtain ⟨cs, hcs⟩ := hfront
  rw [IsText, List.toByteArray_append, hcs] at h
  clear hcs
  induction cs with
  | nil =>
      rw [List.utf8Encode_nil, ByteArray.empty_append] at h
      exact h
  | cons c cs ih =>
      rw [List.utf8Encode_cons, ByteArray.append_assoc,
        ByteArray.isValidUTF8_utf8Encode_singleton_append_iff] at h
      exact ih h

/-- A text is cut between its characters if a text is cut off. -/
theorem isValid_iff_isText {front back : List UInt8} (h : front ++ back = bytes text) :
    (⟨front.length⟩ : String.Pos.Raw).IsValid text ↔ IsText front := by
  have hsize : front.toByteArray.size = front.length := List.size_toByteArray
  have hbytes : text.toByteArray = front.toByteArray ++ back.toByteArray := by
    rw [← toByteArray_bytes, ← h, List.toByteArray_append]
  have hle : (⟨front.length⟩ : String.Pos.Raw) ≤ text.rawEndPos := by
    rw [String.Pos.Raw.le_iff, String.byteIdx_rawEndPos, ← String.size_toByteArray, hbytes,
      ByteArray.size_append, hsize]
    exact Nat.le_add_right _ _
  rw [String.Pos.Raw.isValid_iff_isValidUTF8_extract_zero, and_iff_right hle, hbytes,
    ByteArray.extract_append_eq_left hsize.symm, IsText]

/-- All chunks of a text are texts if it is cut between its characters. -/
theorem forall_isText_iff {chunks : List (List UInt8)} (h : chunks.flatten = bytes text) :
    (∀ chunk ∈ chunks, IsText chunk) ↔
      ∀ front, front <+: chunks → (⟨front.flatten.length⟩ : String.Pos.Raw).IsValid text := by
  have hcut : ∀ front, front <+: chunks →
      ((⟨front.flatten.length⟩ : String.Pos.Raw).IsValid text ↔ IsText front.flatten) := by
    rintro front ⟨back, rfl⟩
    rw [List.flatten_append] at h
    exact isValid_iff_isText h
  constructor
  · intro hchunks front hfront
    rw [hcut front hfront]
    exact isText_flatten fun chunk hchunk => hchunks chunk (hfront.subset hchunk)
  · intro hcuts chunk hchunk
    obtain ⟨front, back, rfl⟩ := List.append_of_mem hchunk
    have hfront : front <+: front ++ chunk :: back := List.prefix_append _ _
    have hbehind : front ++ [chunk] <+: front ++ chunk :: back := ⟨back, by simp⟩
    have hlonger := (hcut _ hbehind).mp (hcuts _ hbehind)
    rw [List.flatten_append, List.flatten_singleton] at hlonger
    exact isText_of_append ((hcut front hfront).mp (hcuts front hfront)) hlonger

/-! Writing. -/

/-- The bytes of a text are taken as the text. -/
theorem Buffer.write_bytes (buffer : Buffer) (text : String) :
    buffer.write (bytes text) = (buffer.append text, .ok (bytes text).length) := by
  have hdecode : decode (bytes text) = .ok text.toList := by
    rw [decode_eq_ok_iff, ← bytes_ofList, String.ofList_toList]
  rw [write, hdecode]
  simp only [String.ofList_toList]

/-- Other bytes are refused. -/
theorem Buffer.write_of_not_isText (buffer : Buffer) (h : ¬IsText chunk) :
    ∃ cause, buffer.write chunk = (buffer, .error (.invalidData cause)) := by
  cases hdecode : decode chunk with
  | error cause => exact ⟨cause, by rw [write, hdecode]⟩
  | ok cs =>
      rw [decode_eq_ok_iff, ← bytes_ofList] at hdecode
      exact absurd (isText_iff.mpr ⟨_, hdecode⟩) h

/-- What a buffer may answer to a chunk. -/
def Answers (chunk : List UInt8) (answer : Except WriteFault Nat) : Prop :=
  IsText chunk ∧ answer = .ok chunk.length ∨
    ¬IsText chunk ∧ ∃ cause, answer = .error (.invalidData cause)

theorem Buffer.write_answers (buffer : Buffer) (chunk : List UInt8) :
    Answers chunk (buffer.write chunk).2 ∧
      bytes (buffer.write chunk).1.content =
        bytes buffer.content ++ if IsText chunk then chunk else [] := by
  by_cases h : IsText chunk
  · obtain ⟨text, rfl⟩ := isText_iff.mp h
    rw [write_bytes, if_pos h]
    exact ⟨.inl ⟨h, rfl⟩, bytes_append _ _⟩
  · obtain ⟨cause, hwrite⟩ := buffer.write_of_not_isText h
    rw [hwrite, if_neg h, List.append_nil]
    exact ⟨.inr ⟨h, cause, rfl⟩, rfl⟩

theorem Buffer.writeAll_answers (buffer : Buffer) (chunks : List (List UInt8)) :
    List.Forall₂ Answers chunks (buffer.writeAll chunks).2 ∧
      bytes (buffer.writeAll chunks).1.content =
        bytes buffer.content ++ (chunks.filter IsText).flatten := by
  induction chunks generalizing buffer with
  | nil => exact ⟨.nil, by simp [writeAll]⟩
  | cons chunk rest ih =>
      obtain ⟨hanswer, hcontent⟩ := buffer.write_answers chunk
      obtain ⟨hanswers, hcontents⟩ := ih (buffer.write chunk).1
      refine ⟨.cons hanswer hanswers, ?_⟩
      change bytes ((buffer.write chunk).1.writeAll rest).1.content = _
      rw [hcontents, hcontent, List.append_assoc, List.filter_cons]
      by_cases h : IsText chunk
      · rw [if_pos h, if_pos (decide_eq_true h), List.flatten_cons]
      · rw [if_neg h, if_neg (by simpa using h), List.nil_append]

/-- All chunks are taken if and only if they are texts. -/
theorem forall_ok_iff {chunks : List (List UInt8)} {answers : List (Except WriteFault Nat)}
    (h : List.Forall₂ Answers chunks answers) :
    (∀ answer ∈ answers, ∃ n, answer = .ok n) ↔ ∀ chunk ∈ chunks, IsText chunk := by
  induction h with
  | nil => simp
  | cons hanswer _ ih =>
      rw [List.forall_mem_cons, List.forall_mem_cons, ih]
      apply and_congr_left
      rintro -
      rcases hanswer with ⟨htext, rfl⟩ | ⟨htext, cause, rfl⟩
      · exact iff_of_true ⟨_, rfl⟩ htext
      · exact iff_of_false (by simp) htext

/-- A text that is written in chunks arrives exactly if it is cut between its characters. -/
theorem Buffer.writeAll_cut_iff {chunks : List (List UInt8)} (h : chunks.flatten = bytes text) :
    ((∀ answer ∈ (({} : Buffer).writeAll chunks).2, ∃ n, answer = .ok n) ∧
        (({} : Buffer).writeAll chunks).1.content = text) ↔
      ∀ front, front <+: chunks → (⟨front.flatten.length⟩ : String.Pos.Raw).IsValid text := by
  obtain ⟨hanswers, hcontent⟩ := ({} : Buffer).writeAll_answers chunks
  rw [forall_ok_iff hanswers, ← forall_isText_iff h, and_iff_left_iff_imp]
  intro hchunks
  have hall : chunks.filter IsText = chunks :=
    List.filter_eq_self.mpr fun chunk hchunk => decide_eq_true (hchunks chunk hchunk)
  apply bytes_injective
  rw [hcontent, hall, h]
  rfl

/-- The bytes of a buffer are those of the chunks that are texts by themselves. These chunks are
taken in full, and the others are refused and change nothing. So a text that is cut into chunks
arrives exactly if each cut is between two of its characters. -/
theorem Buffer.writeAll_takes_texts :
    (∀ (buffer : Buffer) (chunks : List (List UInt8)),
        bytes (buffer.writeAll chunks).1.content =
            bytes buffer.content ++ (chunks.filter IsText).flatten ∧
          List.Forall₂ Answers chunks (buffer.writeAll chunks).2) ∧
      (∀ (buffer : Buffer) (chunk : List UInt8), ¬IsText chunk →
        (buffer.write chunk).1 = buffer) ∧
      ∀ (text : String) (chunks : List (List UInt8)), chunks.flatten = bytes text →
        (((∀ answer ∈ (({} : Buffer).writeAll chunks).2, ∃ n, answer = .ok n) ∧
            (({} : Buffer).writeAll chunks).1.content = text) ↔
          ∀ front, front <+: chunks →
            (⟨front.flatten.length⟩ : String.Pos.Raw).IsValid text) := by
  refine ⟨fun buffer chunks => ?_, fun buffer chunk h => ?_, fun text chunks h => ?_⟩
  · obtain ⟨hanswers, hcontent⟩ := buffer.writeAll_answers chunks
    exact ⟨hcontent, hanswers⟩
  · obtain ⟨cause, hwrite⟩ := buffer.write_of_not_isText h
    rw [hwrite]
  · exact Buffer.writeAll_cut_iff h

/-- A text that is cut inside of its second character, the end of which is refused. -/
theorem Buffer.writeAll_takes_texts_accent :
    (¬IsText [0xA9] ∧ ((⟨"n"⟩ : Buffer).write [0xA9]).1 = ⟨"n"⟩) ∧
      [[0x6E, 0xC3], [0xA9]].flatten = bytes "né" ∧
        ¬((∀ answer ∈ (({} : Buffer).writeAll [[0x6E, 0xC3], [0xA9]]).2, ∃ n, answer = .ok n) ∧
          (({} : Buffer).writeAll [[0x6E, 0xC3], [0xA9]]).1.content = "né") := by
  have htail : ¬IsText [0xA9] := by decide
  have hbytes : [[0x6E, 0xC3], [0xA9]].flatten = bytes "né" := by decide
  refine ⟨⟨htail, Buffer.writeAll_takes_texts.2.1 ⟨"n"⟩ [0xA9] htail⟩, hbytes, fun h => ?_⟩
  have hcuts := (Buffer.writeAll_takes_texts.2.2 "né" [[0x6E, 0xC3], [0xA9]] hbytes).mp h
  exact absurd (hcuts [[0x6E, 0xC3]] (by decide)) (by decide)

end Stepwise.Text
