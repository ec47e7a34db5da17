import Mathlib.Algebra.Ring.Int.Defs
import NeoSwift.Qt.Bytes
import NeoSwift.Afv.Audio.Output

/-!
# WAV files

`CWavFile::readHeader`, which reads the header of a RIFF file, skips an extension of the format
and reads the data chunk that follows.

The descriptor of the data chunk is compared at the end of the function, whatever came before. In
a file whose header is not accepted nothing has been read into it by then. In one where another
chunk follows the format, the comparison fails and the function reports success without data. In
every other file it reads soundly.

## Main definitions

* `CombinedHeader`, `DATAHeader`: The headers.
* `CWavFile.readFormat`: The function up to the end of the header.
* `CWavFile.readHeader`: The function.
* `ReadsSoundly`: What it is to do.
* `dataStart`: Where the descriptor of the data chunk is.

## Theorems

* `readFormat_of_not_accepted`, `readFormat_of_long`, `readFormat_of_short`: The header, read from
  a file.
* `readsSoundly_iff`: Which files are read soundly.
-/

namespace NeoSwift.Sound

namespace Wav

open Afv.Audio

/-- The bytes of a chunk id. -/
def chunkId (text : List Char) : QByteArray := text.map fun c => UInt8.ofNat c.toNat

/-- `chunk`. -/
structure Chunk where
  id : QByteArray
  size : ℕ
  deriving DecidableEq

/-- `RIFFHeader`. -/
structure RIFFHeader where
  descriptor : Chunk
  type : QByteArray
  deriving DecidableEq

/-- `WAVEHeader`. -/
structure WAVEHeader where
  descriptor : Chunk
  audioFormat : ℕ
  numChannels : ℕ
  sampleRate : ℕ
  byteRate : ℕ
  blockAlign : ℕ
  bitsPerSample : ℕ
  deriving DecidableEq

/-- `DATAHeader`. -/
structure DATAHeader where
  descriptor : Chunk
  deriving DecidableEq

/-- `CombinedHeader`. -/
structure CombinedHeader where
  riff : RIFFHeader
  wave : WAVEHeader
  deriving DecidableEq

/-- The member of a header at an offset. -/
def member (bytes : QByteArray) (offset size : ℕ) : QByteArray := (bytes.drop offset).take size

/-- A number in a header. -/
def number (bytes : QByteArray) (offset size : ℕ) : ℕ := ofLittleEndian (member bytes offset size)

def Chunk.ofBytes (bytes : QByteArray) (offset : ℕ) : Chunk where
  id := member bytes offset 4
  size := number bytes (offset + 4) 4

/-- The 36 bytes of the headers, without gaps between the members. -/
def CombinedHeader.ofBytes (bytes : QByteArray) : CombinedHeader where
  riff :=
    { descriptor := Chunk.ofBytes bytes 0
      type := member bytes 8 4 }
  wave :=
    { descriptor := Chunk.ofBytes bytes 12
      audioFormat := number bytes 20 2
      numChannels := number bytes 22 2
      sampleRate := number bytes 24 4
      byteRate := number bytes 28 4
      blockAlign := number bytes 32 2
      bitsPerSample := number bytes 34 2 }

def DATAHeader.ofBytes (bytes : QByteArray) : DATAHeader where
  descriptor := Chunk.ofBytes bytes 0

/-- `sizeof(WAVEHeader)`. -/
def sizeofWAVEHeader : ℕ := 24

/-- `sizeof(CombinedHeader)`. -/
def sizeofCombinedHeader : ℕ := 36

/-- `sizeof(DATAHeader)`. -/
def sizeofDATAHeader : ℕ := 8

/-- A header that `readHeader` goes on with. -/
def CombinedHeader.isAccepted (header : CombinedHeader) : Bool :=
  (header.riff.descriptor.id == chunkId ['R', 'I', 'F', 'F'] ||
    header.riff.descriptor.id == chunkId ['R', 'I', 'F', 'X']) &&
  header.riff.type == chunkId ['W', 'A', 'V', 'E'] &&
  header.wave.descriptor.id == chunkId ['f', 'm', 't', ' '] &&
  (header.wave.audioFormat == 1 || header.wave.audioFormat == 0 || header.wave.audioFormat == 3)

/-- A `QAudioFormat`, with its sample rate. -/
structure WavFormat extends QAudioFormat where
  sampleRate : ℤ
  deriving DecidableEq

/-- The format that is established for a header. -/
def CombinedHeader.format (header : CombinedHeader) : WavFormat where
  channelCount := header.wave.numChannels
  sampleRate := Int.bmod header.wave.sampleRate (2 ^ 32)
  sampleFormat :=
    if header.wave.audioFormat = 1 ∨ header.wave.audioFormat = 0 then
      if header.wave.bitsPerSample = 8 then .uInt8
      else if header.wave.bitsPerSample = 16 then .int16
      else .int32
    else .float

/-- `CWavFile`. -/
structure CWavFile where
  m_fileFormat : WavFormat
  m_headerLength : ℤ := 0
  m_audioData : QByteArray := []
  deriving DecidableEq

/-- What is known at the end of the header: the result so far, the data header if it was read,
    the format and what is left of the file. -/
structure HeaderEnd where
  result : Bool
  dataHeader : Option DATAHeader
  fileFormat : WavFormat
  rest : QByteArray
  deriving DecidableEq

namespace CWavFile

/-- The extension of the format, none if it is not complete. -/
def skipExtension (header : CombinedHeader) (rest : QByteArray) : Option QByteArray :=
  if sizeofWAVEHeader < header.wave.descriptor.size then
    if (rest.take 2).length ≠ 2 then none
    else
      let throwAwayBytes := 2 + ofLittleEndian (rest.take 2)
      let thrownAway := QBuffer.read throwAwayBytes rest
      if thrownAway.1.length ≠ throwAwayBytes then none else some thrownAway.2
  else some rest

/-- `readHeader` up to the end of the header, none for a `return false` on the way. -/
def readFormat (wav : CWavFile) (file : QByteArray) : Option HeaderEnd :=
  let read := QBuffer.read sizeofCombinedHeader file
  if read.1.length = sizeofCombinedHeader ∧ (CombinedHeader.ofBytes read.1).isAccepted then do
    let rest ← skipExtension (CombinedHeader.ofBytes read.1) read.2
    let data := QBuffer.read sizeofDATAHeader rest
    if data.1.length ≠ sizeofDATAHeader then none
    else
      some
        { result := true
          dataHeader := some (DATAHeader.ofBytes data.1)
          fileFormat := (CombinedHeader.ofBytes read.1).format
          rest := data.2 }
  else some { result := false, dataHeader := none, fileFormat := wav.m_fileFormat, rest := read.2 }

/-- `qFromLittleEndian<qint32>`. -/
def dataLength (dataHeader : DATAHeader) : ℤ := Int.bmod dataHeader.descriptor.size (2 ^ 32)

/-- The data of a length, if the file has it. -/
def readData (wav : CWavFile) (result : Bool) (length : ℤ) (rest : QByteArray) :
    Bool × CWavFile :=
  let audioData := (QBuffer.read length rest).1
  if audioData.length ≠ length then (false, { wav with m_audioData := [] })
  else (result, { wav with m_audioData := audioData })

/-- The end of `readHeader`, from the position behind the header on. -/
def readDataChunk (wav : CWavFile) (result : Bool) (dataHeader : DATAHeader) (rest : QByteArray) :
    Bool × CWavFile :=
  if dataHeader.descriptor.id = chunkId ['d', 'a', 't', 'a'] then
    wav.readData result (dataLength dataHeader) rest
  else (result, wav)

/-- `readHeader`: what is returned and the file afterwards. A data header that was not read is
    what was in the memory before. -/
def readHeader (memory : DATAHeader) (wav : CWavFile) (file : QByteArray) : Bool × CWavFile :=
  match wav.readFormat file with
  | none => (false, wav)
  | some header =>
    { wav with
      m_fileFormat := header.fileFormat
      m_headerLength := file.length - header.rest.length }.readDataChunk header.result
        (header.dataHeader.getD memory) header.rest

end CWavFile

/-- The file has a complete header that is accepted. -/
def HeaderAccepted (file : QByteArray) : Prop :=
  sizeofCombinedHeader ≤ file.length ∧ (CombinedHeader.ofBytes file).isAccepted = true

/-- Only a data header that was read is used. Success is reported only if the header is accepted
    and a data descriptor is in front of the end of the header, and then header and data are
    parts of the file. -/
def ReadsSoundly (wav : CWavFile) (file : QByteArray) : Prop :=
  (∀ header, wav.readFormat file = some header → header.dataHeader ≠ none) ∧
  ∀ memory, (wav.readHeader memory file).1 = true →
    HeaderAccepted file ∧
    0 ≤ (wav.readHeader memory file).2.m_headerLength ∧
    member file ((wav.readHeader memory file).2.m_headerLength.toNat - sizeofDATAHeader) 4
      = chunkId ['d', 'a', 't', 'a'] ∧
    (wav.readHeader memory file).2.m_headerLength
      + (wav.readHeader memory file).2.m_audioData.length ≤ file.length ∧
    (wav.readHeader memory file).2.m_audioData.length
      = CWavFile.dataLength (DATAHeader.ofBytes (file.drop
          ((wav.readHeader memory file).2.m_headerLength.toNat - sizeofDATAHeader)))

/-- Where the descriptor of the data chunk is: behind the header and its extension. -/
def dataStart (file : QByteArray) : ℕ :=
  if sizeofWAVEHeader < (CombinedHeader.ofBytes file).wave.descriptor.size then
    sizeofCombinedHeader + 2 + number file sizeofCombinedHeader 2
  else sizeofCombinedHeader

/-- A complete descriptor behind the header is the one of a data chunk. -/
def DataFollows (file : QByteArray) : Prop :=
  dataStart file + sizeofDATAHeader ≤ file.length →
    member file (dataStart file) 4 = chunkId ['d', 'a', 't', 'a']

/-! ## The parts of a header -/

theorem member_take {bytes : QByteArray} {n offset size : ℕ} (h : offset + size ≤ n) :
    member (bytes.take n) offset size = member bytes offset size := by
  rw [member, member, List.drop_take, List.take_take, Nat.min_eq_left (by omega)]

theorem chunk_ofBytes_take {bytes : QByteArray} {n offset : ℕ} (h : offset + 8 ≤ n) :
    Chunk.ofBytes (bytes.take n) offset = Chunk.ofBytes bytes offset := by
  simp only [Chunk.ofBytes, number]
  rw [member_take (by omega), member_take (by omega)]

theorem dataHeader_ofBytes_take (bytes : QByteArray) :
    DATAHeader.ofBytes (bytes.take sizeofDATAHeader) = DATAHeader.ofBytes bytes := by
  have hchunk : Chunk.ofBytes (bytes.take sizeofDATAHeader) 0 = Chunk.ofBytes bytes 0 :=
    chunk_ofBytes_take (Nat.le_refl 8)
  rw [DATAHeader.ofBytes, DATAHeader.ofBytes, hchunk]

/-- The headers are read from the first bytes of a file. -/
theorem combinedHeader_ofBytes_take (bytes : QByteArray) :
    CombinedHeader.ofBytes (bytes.take sizeofCombinedHeader) = CombinedHeader.ofBytes bytes := by
  have hmember : ∀ offset size, offset + size ≤ 36 →
      member (bytes.take sizeofCombinedHeader) offset size = member bytes offset size :=
    fun _ _ h => member_take h
  have hchunk : ∀ offset, offset + 8 ≤ 36 →
      Chunk.ofBytes (bytes.take sizeofCombinedHeader) offset = Chunk.ofBytes bytes offset :=
    fun _ h => chunk_ofBytes_take h
  simp (disch := omega) only [CombinedHeader.ofBytes, number, hmember, hchunk]

theorem read_natCast (n : ℕ) (bytes : QByteArray) :
    QBuffer.read n bytes = (bytes.take n, bytes.drop n) := by
  rw [QBuffer.read, if_neg (by omega), Int.toNat_natCast]

theorem length_take_eq_iff {n : ℕ} {bytes : QByteArray} :
    (bytes.take n).length = n ↔ n ≤ bytes.length := by
  rw [List.length_take]
  omega

/-! ## The header of a file -/

variable {wav : CWavFile} {file : QByteArray}

theorem readFormat_of_not_accepted (h : ¬HeaderAccepted file) :
    wav.readFormat file
      = some ⟨false, none, wav.m_fileFormat, file.drop sizeofCombinedHeader⟩ := by
  simp only [CWavFile.readFormat, read_natCast, combinedHeader_ofBytes_take, length_take_eq_iff]
  exact if_neg h

/-- The extension ends where the data chunk starts. -/
theorem skipExtension_eq (h : HeaderAccepted file) :
    CWavFile.skipExtension (CombinedHeader.ofBytes file) (file.drop sizeofCombinedHeader)
      = if dataStart file ≤ file.length then some (file.drop (dataStart file)) else none := by
  unfold CWavFile.skipExtension
  by_cases hextended : sizeofWAVEHeader < (CombinedHeader.ofBytes file).wave.descriptor.size
  · have hstart : dataStart file = 36 + 2 + number file 36 2 := by
      rw [dataStart, if_pos hextended, sizeofCombinedHeader]
    have hextra : ofLittleEndian ((file.drop sizeofCombinedHeader).take 2) = number file 36 2 := rfl
    have hrest : (file.drop sizeofCombinedHeader).length = file.length - 36 := List.length_drop
    rw [if_pos hextended, hextra, hstart]
    simp only [ne_eq, length_take_eq_iff, hrest]
    by_cases hpeek : 2 ≤ file.length - 36
    · have hread := read_natCast (2 + number file 36 2) (file.drop sizeofCombinedHeader)
      have hdrop : sizeofCombinedHeader + (2 + number file 36 2) = 36 + 2 + number file 36 2 := by
        rw [sizeofCombinedHeader, Nat.add_assoc]
      simp only [hread, length_take_eq_iff, List.drop_drop, hdrop]
      split_ifs <;> first | rfl | omega
    · rw [if_pos hpeek, if_neg (by omega)]
  · have hstart : dataStart file = sizeofCombinedHeader := by rw [dataStart, if_neg hextended]
    rw [if_neg hextended, hstart, if_pos h.1]

theorem readFormat_of_accepted (h : HeaderAccepted file) :
    wav.readFormat file =
      if dataStart file + sizeofDATAHeader ≤ file.length then
        some ⟨true, some (DATAHeader.ofBytes (file.drop (dataStart file))),
          (CombinedHeader.ofBytes file).format, file.drop (dataStart file + sizeofDATAHeader)⟩
      else none := by
  simp only [CWavFile.readFormat, read_natCast, combinedHeader_ofBytes_take, length_take_eq_iff,
    skipExtension_eq h]
  refine (if_pos h).trans ?_
  by_cases hstart : dataStart file ≤ file.length
  · simp only [hstart, if_true, Option.bind_eq_bind, Option.bind_some, dataHeader_ofBytes_take,
      List.length_drop, List.drop_drop, ne_eq, length_take_eq_iff]
    split_ifs <;> first | rfl | omega
  · simp only [hstart, if_false, Option.bind_eq_bind, Option.bind_none]
    rw [if_neg (by omega)]

/-! ## Sound reads -/

/-- `readHeader`, from the descriptor of the data chunk on. -/
theorem readHeader_of_accepted (h : HeaderAccepted file)
    (memory : DATAHeader) :
    wav.readHeader memory file =
      if dataStart file + sizeofDATAHeader ≤ file.length then
        CWavFile.readDataChunk
          ⟨(CombinedHeader.ofBytes file).format, ↑(dataStart file + sizeofDATAHeader),
            wav.m_audioData⟩
          true (DATAHeader.ofBytes (file.drop (dataStart file)))
          (file.drop (dataStart file + sizeofDATAHeader))
      else (false, wav) := by
  rw [CWavFile.readHeader, readFormat_of_accepted h]
  by_cases hlong : dataStart file + sizeofDATAHeader ≤ file.length
  · have hlength : (file.length : ℤ) - (file.length - (dataStart file + sizeofDATAHeader) : ℕ)
        = (dataStart file + sizeofDATAHeader : ℕ) := by omega
    rw [if_pos hlong, if_pos hlong]
    simp [hlength]
  · rw [if_neg hlong, if_neg hlong]

theorem length_read_le (n : ℤ) (bytes : QByteArray) :
    (QBuffer.read n bytes).1.length ≤ bytes.length := by
  rw [QBuffer.read]
  split_ifs
  · exact Nat.zero_le _
  · exact List.length_take_le' _ _

/-- Success is reported with data of the length. -/
theorem readData_of_success {length : ℤ} {rest : QByteArray}
    (hsuccess : (wav.readData true length rest).1 = true) :
    ∃ audioData, (wav.readData true length rest).2 = { wav with m_audioData := audioData } ∧
      audioData.length = length ∧ audioData.length ≤ rest.length := by
  have hle := length_read_le length rest
  unfold CWavFile.readData at hsuccess ⊢
  dsimp only at hsuccess ⊢
  split_ifs at hsuccess ⊢ with hlength
  exact ⟨_, rfl, not_not.mp hlength, hle⟩

theorem id_dataHeader_ofBytes (file : QByteArray) (start : ℕ) :
    (DATAHeader.ofBytes (file.drop start)).descriptor.id = member file start 4 := rfl

/-- A file that is read soundly has a header. -/
theorem accepted_of_readsSoundly
    (h : ReadsSoundly wav file) : HeaderAccepted file := by
  by_contra hnot
  exact h.1 _ (readFormat_of_not_accepted hnot) rfl

/-- No other chunk follows its header. -/
theorem dataFollows_of_readsSoundly (h : ReadsSoundly wav file) : DataFollows file := by
  intro hlong
  by_contra hdata
  have haccepted := accepted_of_readsSoundly h
  have hsuccess := h.2 ⟨⟨[], 0⟩⟩
  -- Without the id, success is reported from the position behind the descriptor.
  rw [readHeader_of_accepted haccepted, if_pos hlong, CWavFile.readDataChunk, id_dataHeader_ofBytes,
    if_neg hdata] at hsuccess
  have hfound := (hsuccess rfl).2.2.1
  exact hdata hfound

theorem readsSoundly_of_dataFollows
    (haccepted : HeaderAccepted file) (hfollows : DataFollows file) : ReadsSoundly wav file := by
  constructor
  · intro header hheader
    rw [readFormat_of_accepted haccepted] at hheader
    split_ifs at hheader
    rw [Option.some.injEq] at hheader
    rw [← hheader]
    simp
  · intro memory hsuccess
    by_cases hlong : dataStart file + sizeofDATAHeader ≤ file.length
    · have hdata := hfollows hlong
      rw [readHeader_of_accepted haccepted, if_pos hlong, CWavFile.readDataChunk,
        id_dataHeader_ofBytes, if_pos hdata] at hsuccess ⊢
      rcases readData_of_success hsuccess with ⟨audioData, hread, hlength, hle⟩
      rw [List.length_drop] at hle
      rw [hread]
      simp only [Int.toNat_natCast]
      exact ⟨haccepted, by omega, hdata, by omega, hlength⟩
    · rw [readHeader_of_accepted haccepted, if_neg hlong] at hsuccess
      cases hsuccess

/-- A file is read soundly if and only if its header is accepted and, where a complete descriptor
    follows, this is the one of the data. -/
theorem readsSoundly_iff (wav : CWavFile) (file : QByteArray) :
    ReadsSoundly wav file ↔ HeaderAccepted file ∧ DataFollows file :=
  ⟨fun h => ⟨accepted_of_readsSoundly h, dataFollows_of_readsSoundly h⟩,
    fun h => readsSoundly_of_dataFollows h.1 h.2⟩

/-- A mono file of 16 bits with a list in front of its data. -/
def listFile : QByteArray :=
  chunkId ['R', 'I', 'F', 'F'] ++ [36, 0, 0, 0] ++ chunkId ['W', 'A', 'V', 'E'] ++
    chunkId ['f', 'm', 't', ' '] ++ [16, 0, 0, 0] ++ [1, 0] ++ [1, 0] ++ [128, 187, 0, 0] ++
    [0, 119, 1, 0] ++ [2, 0] ++ [16, 0] ++ chunkId ['L', 'I', 'S', 'T'] ++ [0, 0, 0, 0] ++
    chunkId ['d', 'a', 't', 'a'] ++ [0, 0, 0, 0]

/-- Neither that file is read soundly nor an empty one. -/
theorem not_readsSoundly_list :
    ¬ReadsSoundly ⟨⟨⟨.int16, 1⟩, 48000⟩, 0, []⟩ listFile ∧
      ¬ReadsSoundly ⟨⟨⟨.int16, 1⟩, 48000⟩, 0, []⟩ [] := by
  constructor
  · intro h
    have hfollows := dataFollows_of_readsSoundly h
    exact absurd (hfollows (by decide)) (by decide)
  · intro h
    exact absurd (accepted_of_readsSoundly h).1 (by decide)

end Wav

end NeoSwift.Sound
